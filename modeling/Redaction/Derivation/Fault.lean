import Redaction.Attribute.Compose
import Redaction.Attribute.Protection
import Redaction.Template

/-!
# Faults of a derivation

Everything that can be wrong with a declaration, and the wording of each fault.
-/

namespace Redaction.Derivation

/-- Why nothing can be derived from a declaration. -/
inductive Fault where
  | compose (fault : Compose.Fault)
  | protection (fault : Protection.Fault)
  | template (error : Template.Error)
  | missingTemplate
  | unknownField (name : String)
  | positionAmongNames (index : Nat)
  | unknownPosition (index : Nat)
  | skipDisplayOnVariant
  | templateOnEnumeration
  | union
  deriving DecidableEq, Repr

/-- The wording of a fault. -/
def Fault.message : Fault → String
  | .compose fault => fault.message
  | .protection fault => fault.message
  | .template error => error.message
  | .missingTemplate => "missing template: add #[compose(\"...\")] or a doc comment"
  | .unknownField name => "unknown field `" ++ name ++ "` in template"
  | .positionAmongNames index =>
    "positional placeholder `\x7b" ++ toString index ++
      "\x7d` is not allowed with named fields; refer to the field by name"
  | .unknownPosition index =>
    "unknown positional field index " ++ toString index ++ " in template"
  | .skipDisplayOnVariant => "`skip_display` is a container option and cannot be set on a variant"
  | .templateOnEnumeration => "templates on enums go on each variant, not on the enum"
  | .union => "`Composable` cannot be derived for unions"

end Redaction.Derivation
