import Redaction.Derivation.Arm

/-!
# Bodies of arms

The body of an arm is a sequence of statements. First each segment is bound to its identifier, then
the composite is begun, and then it grows push by push.

Identifiers are looked up as in any block. The pattern of the arm introduces the fields that it
binds; a statement that binds an identifier introduces it for the statements after it, and hides
whatever had the same name before. A raw identifier is the same as the plain one.
-/

namespace Redaction.Derivation

/-- A statement of the body of an arm. -/
inductive Statement where
  | bind (binding : Binding)
  | start
  | push (push : Push)
  deriving DecidableEq, Repr

/-- What an identifier may stand for: the field at a position, the segment that is bound by the
statement at a position, or the composite. -/
inductive Entity where
  | field (index : Nat)
  | segment (position : Nat)
  | composite
  deriving DecidableEq, Repr

/-- The names in scope with what they stand for, the innermost first. -/
abbrev Names := List (String × Entity)

namespace Statement

/-- The identifier of the composite. -/
def composite : String := "__composite"

/-- The identifier that a statement binds. -/
def bound? : Statement → Option String
  | .bind b => some b.identifier
  | .start => some composite
  | .push _ => none

/-- What the identifier stands for that is bound by the statement at a position. -/
def entity (position : Nat) : Statement → Entity
  | .bind _ => .segment position
  | _ => .composite

end Statement

/-- The names that a pattern introduces. The labels are the names of the fields. -/
def Pattern.introduces (labels : List String) : Pattern → Names
  | .named _ bindings =>
    bindings.filterMap fun b => (labels.zipIdx.lookup b).map fun index =>
      (Slot.plainName b, .field index)
  | .tuple _ slots =>
    slots.zipIdx.filterMap fun (slot, index) => slot.map fun b => (b, .field index)
  | .unit _ => []

/-- The names in scope after statements, of which the first stands at the position. -/
def namesAfter (names : Names) (position : Nat) : List Statement → Names
  | [] => names
  | s :: rest =>
    namesAfter ((s.bound?.map fun name => (name, s.entity position)).toList ++ names)
      (position + 1) rest

namespace Arm

/-- The statements of an arm. -/
def body (arm : Arm) : List Statement :=
  arm.bindings.map .bind ++ .start :: arm.pushes.map .push

/-- The position of a push among the statements. -/
def pushAt (arm : Arm) (index : Nat) : Nat := arm.bindings.length + 1 + index

/-- The names in scope at a position of the body. -/
def namesAt (arm : Arm) (labels : List String) (position : Nat) : Names :=
  namesAfter (arm.pattern.introduces labels) 0 (arm.body.take position)

/-- What an identifier stands for at a position of the body. -/
def resolve? (arm : Arm) (labels : List String) (position : Nat) (identifier : String) :
    Option Entity :=
  (arm.namesAt labels position).lookup (Slot.plainName identifier)

end Arm

end Redaction.Derivation
