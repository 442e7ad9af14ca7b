import Redaction.Composite
import Redaction.Derivation
import Redaction.Derivation.Body
import Redaction.Value

/-!
# Running an arm

An arm is run on the values of the fields, statement by statement. What an identifier stands for is
settled by the names in scope where it is written; what that holds is in a memory, which the
statements extend: a binding adds the segment around the text of its expression, with its warning,
and a push adds a part to the composite.

An expression formats whatever its identifier stands for. The pattern binds references to the
fields, and a field can be displayed and inspected. A segment or the composite is at hand by value:
it can be inspected, and then shows placeholders, or its values in a program that is built for
testing. To display takes a reference, so an expression that displays one of these is mistyped. A
run ends at such an expression, and at an identifier that is not in scope.
-/

namespace Redaction.Derivation

/-- Why a run ends early: an identifier is not bound, or is bound to something that does not fit. -/
inductive Obstacle where
  | unbound (identifier : String)
  | mistyped (identifier : String)
  deriving DecidableEq, Repr

namespace Obstacle

/-- The identifier that a run cannot use. -/
def identifier : Obstacle → String
  | .unbound identifier => identifier
  | .mistyped identifier => identifier

end Obstacle

/-- A run logs warnings, and stops at an obstacle. -/
abbrev Run := ExceptT Obstacle Logged

/-- What an entity holds. -/
inductive Content where
  | value (v : Value)
  | segment (s : Segment)
  | composite (c : Composite)

/-- The text of a content in a mode, if it has one. -/
def Content.format? (testing : Bool) : Content → Template.Mode → Option String
  | .value v, mode => some (v.format mode)
  | .segment s, .debug => some (if testing then s.inspectRevealed else s.inspect).inline
  | .composite c, .debug => some (if testing then c.inspectRevealed else c.inspect).inline
  | _, .display => none

/-- The values of the fields, the segments that are bound so far, and the composite. The segments
are bound by the first statements of a body, so each stands at the position of its statement. -/
structure Memory where
  values : List Value
  segments : List Segment := []
  composite : Composite := .empty

namespace Memory

variable (memory : Memory) (resolve? : String → Option Entity)

/-- What an entity holds, if it is there. -/
def content? : Entity → Option Content
  | .field index => memory.values[index]?.map .value
  | .segment position => memory.segments[position]?.map .segment
  | .composite => some (.composite memory.composite)

/-- The content of what an identifier stands for. -/
def find (identifier : String) : Except Obstacle Content :=
  match (resolve? identifier).bind memory.content? with
  | some content => .ok content
  | none => .error (.unbound identifier)

/-- The text of the expression that formats what an identifier stands for. -/
def format (testing : Bool) (identifier : String) (mode : Template.Mode) :
    Except Obstacle String := do
  let content ← memory.find resolve? identifier
  match content.format? testing mode with
  | some text => return text
  | none => throw (.mistyped identifier)

/-- The part that a push adds. -/
def part (testing : Bool) : Push → Except Obstacle Part
  | .text t => return .text t
  | .field f mode => .text <$> memory.format resolve? testing f mode
  | .segment identifier => do
    match ← memory.find resolve? identifier with
    | .segment s => return .segment s
    | _ => throw (.mistyped identifier)

end Memory

/-- Builds the segment of a binding around a text. -/
def Binding.build (b : Binding) (text : String) : Logged Segment := do
  let segment ←
    match b.name with
    | none => pure (Segment.anonymous text)
    | some name => Segment.named text name
  return segment.hideNameIf b.nameHidden

/-- Runs a statement where identifiers are resolved in this way. -/
def Statement.run (testing : Bool) (resolve? : String → Option Entity) (memory : Memory) :
    Statement → Run Memory
  | .bind b => do
    let text ← memory.format resolve? testing b.field b.mode
    let segment ← (b.build text : Logged _)
    return { memory with segments := memory.segments ++ [segment] }
  | .start => return { memory with composite := .empty }
  | .push p => do
    let part ← memory.part resolve? testing p
    return { memory with composite := memory.composite.push part }

namespace Arm

variable (arm : Arm) (testing : Bool) (labels : List String) (values : List Value)

/-- Runs the statements before a position on the values of the fields. -/
def runTo (position : Nat) : Run Memory :=
  (arm.body.zipIdx.take position).foldlM
    (fun memory (s, at') => s.run testing (arm.resolve? labels at') memory) { values }

/-- Runs an arm on the values of the fields. -/
def run : Run Composite := Memory.composite <$> arm.runTo testing labels values arm.body.length

end Arm

/-- A value of a declared type: its variant, if the type is an enumeration, and its fields. -/
structure Instance where
  variant : Option String := none
  fields : List Value

/-- The position of the arm for an instance and the names of its fields. -/
def armOf (d : Declaration) (i : Instance) : Option (Nat × List String) :=
  match d.body with
  | .structure fields => some (0, fields.labels)
  | .enumeration variants =>
    (variants.zipIdx.find? fun entry => decide (some entry.1.name = i.variant)).map
      fun (variant, index) => (index, variant.fields.labels)
  | .union => none

/-- The composite of an instance, if the declaration has such an instance. -/
def compose (d : Declaration) (derivation : Derivation) (i : Instance) (testing : Bool := false) :
    Option (Run Composite) := do
  let (index, labels) ← armOf d i
  let arm ← derivation.arms[index]?
  return arm.run testing labels i.fields

end Redaction.Derivation
