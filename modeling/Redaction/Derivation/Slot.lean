import Redaction.Declaration
import Redaction.Derivation.Fault

/-!
# Slots

A slot is a field as the derivation sees it: the name by which a template refers to it, the name
that it is bound to when a value is taken apart, its type and its protection. Fields of a tuple
have no name and are bound by their position. A raw name is referred to without its `r#`.

A template names a field by name, or by position where no field has a name.
-/

namespace Redaction.Derivation

/-- A field as the derivation sees it. -/
structure Slot where
  name : Option String
  binding : String
  type : TypeTerm
  protection : Protection

namespace Slot

/-- A name without the mark of a raw word. -/
def plainName (name : String) : String :=
  match name.toList with
  | 'r' :: '#' :: rest => String.ofList rest
  | _ => name

/-- The name that a field of a tuple is bound to. -/
def positional (index : Nat) : String := "field_" ++ toString index

/-- The protection of a field, with its fault as a fault of the derivation. -/
def protectionOf (field : Field) : Except Fault Protection :=
  (Protection.ofAttributes field.attributes).mapError .protection

/-- The slots of named fields. -/
def ofNamed : List (String × Field) → Except Fault (List Slot)
  | [] => .ok []
  | (name, field) :: rest => do
    let protection ← protectionOf field
    let slots ← ofNamed rest
    return ⟨some (plainName name), name, field.type, protection⟩ :: slots

/-- The slots of the fields of a tuple from a position on. -/
def ofTuple (index : Nat) : List Field → Except Fault (List Slot)
  | [] => .ok []
  | field :: rest => do
    let protection ← protectionOf field
    let slots ← ofTuple (index + 1) rest
    return ⟨none, positional index, field.type, protection⟩ :: slots

/-- The slots of the fields of a structure or variant. The first fault in their attributes counts,
also in fields that no template mentions. -/
def ofFields : Fields → Except Fault (List Slot)
  | .named fields => ofNamed fields
  | .tuple fields => ofTuple 0 fields
  | .unit => .ok []

/-- The position and the slot that a key refers to. -/
def find (slots : List Slot) : Template.Key → Except Fault (Nat × Slot)
  | .named name =>
    match slots.zipIdx.find? fun entry => decide (entry.1.name = some name) with
    | some (slot, index) => .ok (index, slot)
    | none => .error (.unknownField name)
  | .index index =>
    if slots.any fun slot => slot.name.isSome then .error (.positionAmongNames index)
    else
      match slots[index]? with
      | some slot => .ok (index, slot)
      | none => .error (.unknownPosition index)

end Slot

/-- A piece of a template with its field looked up. -/
inductive Reference where
  | literal (text : String)
  | field (index : Nat) (slot : Slot) (mode : Template.Mode)

namespace Reference

/-- Looks up the field of a piece. -/
def ofPiece (slots : List Slot) : Template.Piece → Except Fault Reference
  | .literal text => .ok (.literal text)
  | .field key mode => do
    let (index, slot) ← Slot.find slots key
    return .field index slot mode

/-- Looks up the fields of the pieces from left to right. -/
def ofPieces (slots : List Slot) : List Template.Piece → Except Fault (List Reference)
  | [] => .ok []
  | piece :: rest => do
    let reference ← ofPiece slots piece
    let references ← ofPieces slots rest
    return reference :: references

/-- The position of the field, if the piece is one. -/
def index? : Reference → Option Nat
  | .literal _ => none
  | .field index _ _ => some index

end Reference

end Redaction.Derivation
