import Redaction.Derivation.Slot

/-!
# Arms

For every structure or variant the derivation writes one arm: a pattern that takes a value apart,
and a body that builds its composite. The body first binds one segment for every protected field
and mode that the template asks for, in the order in which it first asks, and then pushes text,
plain fields and those segments in the order of the template. A segment that is pushed twice is
bound once.
-/

namespace Redaction.Derivation

/-- The pattern of an arm. Among named fields only the ones in use are listed; a tuple has a slot
for every field, which binds the field if it is in use. -/
inductive Pattern where
  | named (path : String) (bindings : List String)
  | tuple (path : String) (slots : List (Option String))
  | unit (path : String)
  deriving DecidableEq, Repr

/-- The binding of a segment: its identifier, the name of the segment if it has one, whether that
is hidden, and the field and mode that give its value. -/
structure Binding where
  identifier : String
  name : Option String
  nameHidden : Bool
  field : String
  mode : Template.Mode
  deriving DecidableEq, Repr

/-- One push of the body. -/
inductive Push where
  | text (text : String)
  | field (field : String) (mode : Template.Mode)
  | segment (identifier : String)
  deriving DecidableEq, Repr

/-- The arm of a structure or variant. -/
structure Arm where
  pattern : Pattern
  bindings : List Binding
  pushes : List Push
  deriving DecidableEq, Repr

namespace Pattern

/-- The pattern as it is written, without spaces. -/
def text : Pattern → String
  | .named path bindings =>
    path ++ "\x7b" ++ String.join (bindings.map (· ++ ",")) ++ "..\x7d"
  | .tuple path slots => path ++ "(" ++ ",".intercalate (slots.map (·.getD "_")) ++ ")"
  | .unit path => path

/-- The pattern for fields of which those at the positions `used` are in use. -/
def ofFields (path : String) (slots : List Slot) (used : List Nat) : Fields → Pattern
  | .named _ => .named path (used.filterMap fun index => slots[index]?.map (·.binding))
  | .tuple _ =>
    .tuple path (slots.zipIdx.map fun (slot, index) =>
      if index ∈ used then some slot.binding else none)
  | .unit => .unit path

end Pattern

namespace Reference

/-- The ending of the identifier of a segment. -/
def modeSuffix : Template.Mode → String
  | .display => "display"
  | .debug => "debug"

/-- The identifier of the segment for a field and mode. -/
def identifier (index : Nat) (mode : Template.Mode) : String :=
  "__protected_" ++ toString index ++ "_" ++ modeSuffix mode

/-- The binding that a reference to a protected field needs. Its segment has the name given for
the field, or else the name of the field. -/
def binding? : Reference → Option Binding
  | .literal _ => none
  | .field index slot mode =>
    match slot.protection with
    | .plain => none
    | .secret name nameHidden =>
      some ⟨identifier index mode, name.or slot.name, nameHidden, slot.binding, mode⟩

/-- The push of a reference. -/
def push : Reference → Push
  | .literal text => .text text
  | .field index slot mode =>
    match slot.protection with
    | .plain => .field slot.binding mode
    | .secret .. => .segment (identifier index mode)

/-- The positions of the fields in use, in the order of their first use. -/
def used (references : List Reference) : List Nat := (references.filterMap index?).eraseDups

/-- The bindings for the references, in the order of first use. -/
def bindings (references : List Reference) : List Binding :=
  (references.filterMap binding?).eraseDups

end Reference

/-- The arm for fields and the references of their template. -/
def Arm.ofReferences (path : String) (fields : Fields) (slots : List Slot)
    (references : List Reference) : Arm where
  pattern := Pattern.ofFields path slots (Reference.used references) fields
  bindings := Reference.bindings references
  pushes := references.map Reference.push

end Redaction.Derivation
