import Redaction.Attribute

/-!
# Field protection

A field is protected by one attribute `protected`. It may give the segment of the field another
name and may hide the name from the placeholder. Everything else that is written there is a fault:
a protection that is not understood must not leave the field in the open.
-/

namespace Redaction

/-- How a field enters a composite: as plain text, or as a segment with the name given for it, if
any, and with the name hidden or shown. -/
inductive Protection where
  | plain
  | secret (name : Option String) (nameHidden : Bool)
  deriving DecidableEq, Repr

namespace Protection

/-- Why the protection of a field is not understood. -/
inductive Fault where
  | repeated
  | repeatedName
  | unknownOption (option : String)
  | assigned
  | list (fault : Attribute.ListFault)
  deriving DecidableEq, Repr

/-- The wording of a fault. -/
def Fault.message : Fault → String
  | .repeated => "multiple #[protected] attributes specified on the same field"
  | .repeatedName => "`name` specified more than once"
  | .unknownOption option =>
    "unknown protected option `" ++ option ++ "`; expected `name` or `hide_name`"
  | .assigned =>
    "name-value syntax is not supported for #[protected]; use #[protected(name = \"...\")]"
  | .list fault => fault.message

/-- The options of one attribute. -/
structure Given where
  name : Option String := none
  nameHidden : Bool := false
  deriving DecidableEq, Repr

/-- Takes the value of the option `name`: an equals sign, a text, and nothing else. -/
def takeName (given : Given) (item : Attribute.Item) : Except Fault Given :=
  match item.rest with
  | [.mark '=', .text value] => .ok { given with name := some value }
  | .mark '=' :: .text _ :: _ => .error (.list .missingComma)
  | .mark '=' :: rest => .error (.list (.missingText (item.atEnd && rest.isEmpty)))
  | _ => .error (.list .missingEquals)

/-- Takes one item of the list. -/
def takeItem (given : Given) (item : Attribute.Item) : Except Fault Given :=
  if item.option = some "name" then
    if given.name.isSome then .error .repeatedName else takeName given item
  else if item.option = some "hide_name" then
    if item.rest = [] then .ok { given with nameHidden := true } else .error (.list .missingComma)
  else .error (.unknownOption (item.option.getD "?"))

/-- The protection that one attribute `protected` gives. -/
def ofForm : Attribute.Form → Except Fault Protection
  | .bare => .ok (.secret none false)
  | .list tokens => do
    let given ← Attribute.readList .list takeItem {} tokens
    return .secret given.name given.nameHidden
  | .value _ => .error .assigned

/-- The protection after further attributes. A fault inside an attribute counts before the fault
that it is the second one. -/
def takeAll : Protection → List Attribute → Except Fault Protection
  | found, [] => .ok found
  | found, a :: rest =>
    if a.path = "protected" then
      match ofForm a.form with
      | .error fault => .error fault
      | .ok protection => if found = .plain then takeAll protection rest else .error .repeated
    else takeAll found rest

/-- The protection of a field with these attributes. -/
def ofAttributes (attributes : List Attribute) : Except Fault Protection :=
  takeAll .plain attributes

end Protection

end Redaction
