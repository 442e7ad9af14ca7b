import Redaction.Options.Form
import Redaction.Script.Registers
import Redaction.Segment.Form

/-!
# Terms of a script

The operands of a step are terms: a segment or options written out in the step, or the name of a
register that holds one. Evaluating a term reads registers and never writes them. A segment that
is written out is built anew, with its warning; one that comes from a register is not.

Evaluation fails on a rejected format spec, and on a register that holds nothing. The events
logged before the failure stay logged.
-/

namespace Redaction.Script

/-- Why a step gives no result. -/
inductive Failure where
  | rejected (error : Spec.Error)
  | unbound (register : String)
  | noSegment (index : Nat)
  deriving DecidableEq, Repr

/-- The computations of a script. A failure keeps the log. -/
abbrev Eval := ExceptT Failure Logged

/-- What a register of a bank holds, or the failure that it holds nothing. -/
def Bank.fetch {α : Type} (b : Bank α) (name : String) : Eval α :=
  match b.get? name with
  | some a => pure a
  | none => throw (.unbound name)

/-- A segment, written out or in a register. -/
inductive SegmentTerm where
  | form (form : SegmentForm)
  | register (name : String)
  deriving DecidableEq, Repr

/-- A single part: a text or a segment. -/
inductive PartTerm where
  | text (text : String)
  | segment (segment : SegmentTerm)
  deriving DecidableEq, Repr

/-- What a step adds to a composite: a part, or the parts of the composite in a register. -/
inductive Operand where
  | part (part : PartTerm)
  | composite (register : String)
  deriving DecidableEq, Repr

/-- Render options, written out or in a register. -/
inductive OptionsTerm where
  | form (form : OptionsForm)
  | register (name : String)

/-- Takes what was read, or fails with its rejection. -/
def accept {α : Type} (outcome : Logged (Except Spec.Error α)) : Eval α := do
  match ← (outcome : Logged _) with
  | .ok a => return a
  | .error e => throw (.rejected e)

namespace SegmentTerm

def eval (r : Registers) : SegmentTerm → Eval Segment
  | .form f => (f.build : Logged _)
  | .register name => r.segments.fetch name

end SegmentTerm

namespace PartTerm

def eval (r : Registers) : PartTerm → Eval Part
  | .text t => pure (.text t)
  | .segment s => .segment <$> s.eval r

end PartTerm

namespace Operand

def eval (r : Registers) : Operand → Eval Addend
  | .part p => Addend.part <$> p.eval r
  | .composite register => Addend.composite <$> r.composites.fetch register

/-- Evaluates operands from left to right. -/
def evalAll (r : Registers) : List Operand → Eval (List Addend)
  | [] => pure []
  | operand :: rest => do
    let x ← operand.eval r
    let xs ← evalAll r rest
    return x :: xs

end Operand

namespace OptionsTerm

def eval (r : Registers) : OptionsTerm → Eval Options
  | .form f => accept f.read
  | .register name => r.options.fetch name

end OptionsTerm

end Redaction.Script
