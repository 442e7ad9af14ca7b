import Redaction.Attribute

/-!
# The attributes `compose`

An attribute `compose` either holds exactly one text, which is the template, or a list of options,
of which there is one: `skip_display` leaves the default text of the type to its author. There may
be several such attributes, but one template at most.
-/

namespace Redaction

/-- What the attributes `compose` of a declaration or variant ask for. -/
structure Compose where
  template : Option String := none
  skipDisplay : Bool := false
  deriving DecidableEq, Repr

namespace Compose

/-- Why the attributes are not understood. -/
inductive Fault where
  | repeatedTemplate
  | unknownOption (option : String)
  | bare
  | assigned
  | list (fault : Attribute.ListFault)
  deriving DecidableEq, Repr

/-- The wording of a fault. -/
def Fault.message : Fault → String
  | .repeatedTemplate => "multiple #[compose(\"...\")] templates specified"
  | .unknownOption option =>
    "unknown compose option `" ++ option ++ "`; expected `skip_display` or a template string"
  | .bare => "expected #[compose(\"...\")] or #[compose(skip_display)]"
  | .assigned => "name-value syntax is not supported for #[compose]"
  | .list fault => fault.message

/-- Takes one option of a list. -/
def takeItem (given : Compose) (item : Attribute.Item) : Except Fault Compose :=
  if item.option = some "skip_display" then
    if item.rest = [] then .ok { given with skipDisplay := true } else .error (.list .missingComma)
  else .error (.unknownOption (item.option.getD "?"))

/-- Takes what one attribute `compose` asks for. -/
def takeForm (given : Compose) : Attribute.Form → Except Fault Compose
  | .bare => .error .bare
  | .list [.text template] =>
    if given.template.isSome then .error .repeatedTemplate
    else .ok { given with template := some template }
  | .list tokens => Attribute.readList .list takeItem given tokens
  | .value _ => .error .assigned

/-- Takes what further attributes ask for, from left to right. -/
def takeAll : Compose → List Attribute → Except Fault Compose
  | given, [] => .ok given
  | given, a :: rest =>
    if a.path = "compose" then
      match takeForm given a.form with
      | .error fault => .error fault
      | .ok given => takeAll given rest
    else takeAll given rest

/-- What the attributes of a declaration or variant ask for. -/
def ofAttributes (attributes : List Attribute) : Except Fault Compose := takeAll {} attributes

end Compose

end Redaction
