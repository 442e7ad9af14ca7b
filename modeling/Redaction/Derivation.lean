import Redaction.Attribute.Doc
import Redaction.Derivation.Arm
import Redaction.Derivation.Bounds

/-!
# Derivations

From the declaration of a type follows how its values become composites: one arm for a structure,
one for every variant of an enumeration. The template of each comes from its attributes or from
its documentation.

Checks are made in a fixed order and the first fault counts: the attributes of the declaration,
then what is declared, and for every structure or variant its template, the attributes of its
fields, the syntax of the template and the fields that the template refers to.
-/

namespace Redaction

/-- What is derived from a declaration: whether the type gets a default text, its generic
parameters with the bounds that they need, and the arms. -/
structure Derivation where
  implementsDisplay : Bool
  parameters : List Parameter
  arms : List Derivation.Arm
  deriving DecidableEq, Repr

namespace Derivation

/-- An arm with the references of its template. -/
structure Branch where
  arm : Arm
  references : List Reference

/-- The template given for a structure or variant, or else its documentation. -/
def resolveTemplate (given : Option String) (attributes : List Attribute) :
    Except Fault String :=
  match given.or (Doc.template? attributes) with
  | some template => .ok template
  | none => .error .missingTemplate

/-- The branch of a structure or variant. -/
def branch (path : String) (given : Option String) (attributes : List Attribute)
    (fields : Fields) : Except Fault Branch := do
  let template ← resolveTemplate given attributes
  let slots ← Slot.ofFields fields
  let pieces ← (Template.parse template).mapError .template
  let references ← Reference.ofPieces slots pieces
  return ⟨Arm.ofReferences path fields slots references, references⟩

/-- The template that the attributes of a variant give. -/
def variantTemplate (attributes : List Attribute) : Except Fault (Option String) := do
  let compose ← (Compose.ofAttributes attributes).mapError .compose
  if compose.skipDisplay then .error .skipDisplayOnVariant else return compose.template

/-- The branch of a variant of the enumeration `name`. -/
def variantBranch (name : String) (variant : Variant) : Except Fault Branch := do
  let given ← variantTemplate variant.attributes
  branch (name ++ "::" ++ variant.name) given variant.attributes variant.fields

/-- The branches of the variants, in order. -/
def variantBranches (name : String) : List Variant → Except Fault (List Branch)
  | [] => .ok []
  | variant :: rest => do
    let first ← variantBranch name variant
    let others ← variantBranches name rest
    return first :: others

/-- The branches of a declaration. -/
def branches (d : Declaration) (compose : Compose) : Except Fault (List Branch) :=
  match d.body with
  | .structure fields => do
    let only ← branch "Self" compose.template d.attributes fields
    return [only]
  | .enumeration variants =>
    if compose.template.isSome then .error .templateOnEnumeration
    else variantBranches d.name variants
  | .union => .error .union

/-- What is derived from a declaration. -/
def ofDeclaration (d : Declaration) : Except Fault Derivation := do
  let compose ← (Compose.ofAttributes d.attributes).mapError .compose
  let branches ← branches d compose
  let references := branches.flatMap (·.references)
  return {
    implementsDisplay := !compose.skipDisplay
    parameters := d.parameters.map (Bounds.extend references)
    arms := branches.map (·.arm) }

/-- The interfaces that the derivation implements, by their paths. -/
def interfaces (d : Derivation) : List String :=
  "::disclose::Composable" :: if d.implementsDisplay then ["::core::fmt::Display"] else []

end Derivation

end Redaction
