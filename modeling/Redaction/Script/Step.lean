import Redaction.Script.Term

/-!
# Steps of a script

A step either stores a new composite in a register, makes the composite in a register grow, stores
a segment or options, or observes registers without changing any. All operands of a step are
evaluated, from left to right, before anything is stored.

`Step.run` gives the registers after the step and its answer. A step that fails answers with the
failure and leaves every register as it was, so the script can go on.
-/

namespace Redaction.Script

/-- How a new composite is built. -/
inductive Build where
  | empty
  | ofOperand (operand : Operand)
  | ofOperands (operands : List Operand)
  | concat (source : String) (operand : Operand)
  | add (source : String) (operand : Operand)
  | segmentAdd (segment : SegmentForm) (operand : Operand)
  | textAdd (text : String) (operand : Operand)
  | copy (source : String)

/-- How the composite in a register grows. -/
inductive Growth where
  | extend (operand : Operand)
  | extendAll (operands : List Operand)
  | push (part : PartTerm)
  | append (text name : String) (hidden : Bool)

/-- What an entry of a structured log is taken from. -/
inductive LogSubject where
  | whole
  | view (options : OptionsTerm)
  | segment (index : Nat)

/-- What is observed. -/
inductive Observation where
  | composite (source : String)
  | parts (source : String)
  | length (source : String)
  | count (operand : Operand)
  | segments (source : String)
  | plain (source : String)
  | display (source : String)
  | render (source : String) (marker : Option String) (policy : Policy)
  | renderWith (source : String) (options : OptionsTerm)
  | renderSpec (source : String) (spec : String)
  | view (source : String) (options : OptionsTerm)
  | join (operands : List Operand) (marker : Option String) (policy : Policy)
  | renderSegment (segment : SegmentTerm) (marker : Option String) (policy : Policy)
      (options : OptionsTerm) (spec : Option String)
  | allows (segment : SegmentTerm) (policy : Policy)
  | policy (policy : Policy)
  | inspect (source : String) (spread revealed : Bool)
  | inspectView (source : String) (spread : Bool) (options : OptionsTerm)
  | equal (source other : String)
  | serialize (source : String)
  | serializeView (source : String) (options : OptionsTerm)
  | log (source : String) (subject : LogSubject)

/-- One step of a script. -/
inductive Step where
  | build (target : String) (how : Build)
  | grow (target : String) (growth : Growth)
  | segment (target : String) (form : SegmentForm)
  | options (target : String) (term : OptionsTerm)
  | observe (observation : Observation)

/-- The answer to a step. -/
inductive Answer where
  | composite (composite : Composite)
  | parts (parts : List Part)
  | segment (segment : Segment)
  | segments (segments : List Segment)
  | options (options : Options)
  | length (length : Nat)
  | count (count : Nat)
  | text (text : String)
  | renderings (render renderWith : String) (renderSpec : Option (Except Spec.Error String))
  | decision (allowed : Bool) (policy : Text.Inspection)
  | policy (policy : Text.Inspection)
  | equality (equal : Bool)
  | serialized (json : String) (segments : List String)
  | logged (entries : List (String × String))
  | failed (failure : Failure)

namespace Build

/-- The new composite. -/
def eval (r : Registers) : Build → Eval Composite
  | .empty => pure .empty
  | .ofOperand operand => Composite.ofAddend <$> operand.eval r
  | .ofOperands operands => Composite.ofAddends <$> Operand.evalAll r operands
  | .concat source operand => do
    let x ← operand.eval r
    let c ← r.composites.fetch source
    return c.concat x
  | .add source operand => do
    let x ← operand.eval r
    let c ← r.composites.fetch source
    return c + x
  | .segmentAdd segment operand => do
    let x ← operand.eval r
    let s ← (segment.build : Logged _)
    return s + x
  | .textAdd text operand => do
    let x ← operand.eval r
    return text + x
  | .copy source => r.composites.fetch source

end Build

namespace Growth

/-- The composite after it has grown. -/
def eval (r : Registers) (c : Composite) : Growth → Eval Composite
  | .extend operand => c.extend <$> operand.eval r
  | .extendAll operands => do
    let xs ← Operand.evalAll r operands
    return xs.foldl Composite.extend c
  | .push part => c.push <$> part.eval r
  | .append text name hidden => (c.append text name hidden : Logged _)

end Growth

namespace Observation

/-- The layout of an inspection that was asked for. -/
def layout (spread : Bool) (i : Text.Inspection) : String := if spread then i.spread else i.inline

/-- The key of structured log entries. -/
def logKey : String := "line"

/-- The answer to an observation. -/
def eval (r : Registers) : Observation → Eval Answer
  | .composite source => .composite <$> r.composites.fetch source
  | .parts source => do
    let c ← r.composites.fetch source
    return .parts c.parts
  | .length source => do
    let c ← r.composites.fetch source
    return .length c.parts.length
  | .count operand => do
    let x ← operand.eval r
    return .count x.count
  | .segments source => do
    let c ← r.composites.fetch source
    return .segments c.segments
  | .plain source => do
    let c ← r.composites.fetch source
    return .text c.plain
  | .display source => do
    let c ← r.composites.fetch source
    return .text c.display
  | .render source marker p => do
    let c ← r.composites.fetch source
    return .text (c.render marker p)
  | .renderWith source options => do
    let c ← r.composites.fetch source
    let o ← options.eval r
    return .text (c.renderWith o)
  | .renderSpec source spec => do
    let c ← r.composites.fetch source
    .text <$> accept (c.renderSpec spec)
  | .view source options => do
    let c ← r.composites.fetch source
    let o ← options.eval r
    return .text (c.view o).display
  | .join operands marker p => do
    let xs ← Operand.evalAll r operands
    return .text (Composite.join xs marker p)
  | .renderSegment segment marker p options spec => do
    let s ← segment.eval r
    let o ← options.eval r
    let c := s.toComposite
    match spec with
    | none => return .renderings (c.render marker p) (c.renderWith o) none
    | some spec =>
      let bySpec ← (c.renderSpec spec : Logged _)
      return .renderings (c.render marker p) (c.renderWith o) (some bySpec)
  | .allows segment p => do
    let s ← segment.eval r
    return .decision (p.allows s) p.inspect
  | .policy p => pure (.policy p.inspect)
  | .inspect source spread revealed => do
    let c ← r.composites.fetch source
    return .text (layout spread (if revealed then c.inspectRevealed else c.inspect))
  | .inspectView source spread options => do
    let c ← r.composites.fetch source
    let o ← options.eval r
    return .text (layout spread (c.view o).inspect)
  | .equal source other => do
    let c ← r.composites.fetch source
    let d ← r.composites.fetch other
    return .equality (decide (c = d))
  | .serialize source => do
    let c ← r.composites.fetch source
    return .serialized c.serialize (c.segments.map Segment.serialize)
  | .serializeView source options => do
    let c ← r.composites.fetch source
    let o ← options.eval r
    return .serialized (c.view o).serialize (c.segments.map Segment.serialize)
  | .log source .whole => do
    let c ← r.composites.fetch source
    return .logged [c.logEntry logKey]
  | .log source (.view options) => do
    let c ← r.composites.fetch source
    let o ← options.eval r
    return .logged [(c.view o).logEntry logKey]
  | .log source (.segment index) => do
    let c ← r.composites.fetch source
    match c.segments[index]? with
    | some s => return .logged [s.logEntry logKey]
    | none => throw (.noSegment index)

end Observation

namespace Step

/-- The registers after a step that succeeds, and its answer. -/
def eval (r : Registers) : Step → Eval (Registers × Answer)
  | .build target how => do
    let c ← how.eval r
    return (r.setComposite target c, .composite c)
  | .grow target growth => do
    let c ← r.composites.fetch target
    let grown ← growth.eval r c
    return (r.setComposite target grown, .composite grown)
  | .segment target form => do
    let s ← (form.build : Logged _)
    return (r.setSegment target s, .segment s)
  | .options target term => do
    let o ← term.eval r
    return (r.setOptions target o, .options o)
  | .observe observation => do
    let answer ← observation.eval r
    return (r, answer)

/-- The registers after a step, whether it succeeds or fails, and its answer. -/
def run (r : Registers) (step : Step) : Logged (Registers × Answer) := do
  match ← (step.eval r).run with
  | .ok result => return result
  | .error failure => return (r, .failed failure)

end Step

/-- The answers to the steps of a script, each with the events of its step. -/
def run (r : Registers) : List Step → List (Logged Answer)
  | [] => []
  | step :: rest =>
    let outcome := step.run r
    (Prod.snd <$> outcome) :: run outcome.value.1 rest

end Redaction.Script
