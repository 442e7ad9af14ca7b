import Redaction.Proofs.Script.Frame
import Redaction.Proofs.Spec.Grammar

/-!
# What a step asks for

Evaluating a step makes demands, one after another: a segment that is written out in the step is
built, a register is looked up, a format spec is read, a segment of a composite is picked. The
demands and their order can be read off the step. The registers only decide how many of them are
served: the first one that is not met is the last one, and the step fails with it.

Building a segment and reading a format spec are all that is ever logged. So the log of a step is
the log of its served demands. `Follows` says this of an evaluation, and is kept when evaluations
are composed; what is built, added or observed between two demands does not matter to it.
-/

namespace Redaction

/-- The warnings about the name of a segment that is written out: one if the name is neither empty
nor an identifier. -/
def SegmentForm.warnings (form : SegmentForm) : List Event :=
  match form.name with
  | none => []
  | some name => if name = "" ∨ isIdentifier name then [] else [.unlistableName ⟨name⟩]

/-- The warnings are those that a segment built from the form carries. -/
theorem SegmentForm.warnings_eq (form : SegmentForm) :
    form.warnings = form.build.value.nameWarning?.toList.map Event.unlistableName := by
  obtain ⟨value, name, hidden⟩ := form
  rw [value_build]
  cases name with
  | none => rfl
  | some name =>
      change (if name = "" ∨ isIdentifier name = true then [] else [Event.unlistableName ⟨name⟩]) =
        (if name = "" ∨ isIdentifier name = true then none
          else some (NameWarning.mk name)).toList.map Event.unlistableName
      split <;> rfl

/-- Building logs the warnings, and hiding the name adds nothing to them. -/
theorem SegmentForm.events_build (form : SegmentForm) : form.build.events = form.warnings := by
  rw [warnings_eq, value_build]
  obtain ⟨value, name, hidden⟩ := form
  cases name with
  | none => rfl
  | some name =>
      change (Segment.named value name).events ++ [] = _
      rw [List.append_nil, Segment.events_named, Segment.value_named]
      rfl

namespace Spec

/-- What reading a format spec logs: the rejection, if it is rejected. -/
def rejections (spec : String) : List Event :=
  match parse spec with
  | .ok _ => []
  | .error e => [e.event]

theorem events_read (spec : String) : (read spec).events = rejections spec := by
  rw [read, rejections]
  cases parse spec <;> rfl

end Spec

/-- Appending under a name logs what building a segment of that name does, whatever the text is and
whether or not the name is hidden. -/
theorem Composite.events_append (c : Composite) (text : String) {name : String} (named : name ≠ "")
    (hidden : Bool) :
    (c.append text name hidden).events = SegmentForm.warnings ⟨text, some name, hidden⟩ := by
  rw [append, if_neg named, Logged.events_bind, Logged.events_pure, List.append_nil,
    Segment.events_named, SegmentForm.warnings_eq, Segment.value_named, SegmentForm.value_build]
  rfl

/-- Rendering by a format spec logs what reading the spec does. -/
theorem Composite.events_renderSpec (c : Composite) (written : String) :
    (c.renderSpec written).events = Spec.rejections written := by
  rw [renderSpec, Logged.events_bind, Logged.events_pure, List.append_nil, Spec.events_read]

theorem Composite.isOk_renderSpec (c : Composite) (written : String) :
    (c.renderSpec written).value.isOk = (Spec.parse written).isOk := by
  rw [renderSpec, Logged.value_bind, Logged.value_pure, Spec.value_read]
  cases Spec.parse written <;> rfl

end Redaction

namespace Redaction.Script

/-- What an evaluation asks for at one point. -/
inductive Demand where
  /-- A segment that is written out. -/
  | build (form : SegmentForm)
  /-- What a register holds. -/
  | read (cell : Cell)
  /-- The options of a format spec. Where they are not needed, a rejection is an answer. -/
  | spec (written : String) (needed : Bool)
  /-- One of the segments of a composite. -/
  | pick (source : String) (index : Nat)

/-- The register holds something. -/
def Cell.held (r : Registers) : Cell → Bool
  | .composite name => (r.composites.get? name).isSome
  | .segment name => (r.segments.get? name).isSome
  | .options name => (r.options.get? name).isSome

namespace Demand

/-- The evaluation can go on after the demand. -/
def met (r : Registers) : Demand → Bool
  | .build _ => true
  | .read cell => cell.held r
  | .spec written needed => !needed || (Spec.parse written).isOk
  | .pick source index => ((r.composites.get? source).bind (·.segments[index]?)).isSome

theorem met_pick {r : Registers} {source : String} {c : Composite}
    (held : r.composites.get? source = some c) (index : Nat) :
    (pick source index).met r = (c.segments[index]?).isSome := by
  rw [met, held]
  rfl

/-- What serving the demand logs. -/
def events : Demand → List Event
  | .build form => form.warnings
  | .read _ => []
  | .spec written _ => Spec.rejections written
  | .pick _ _ => []

/-- The segment that the demand writes out. -/
def form? : Demand → Option SegmentForm
  | .build form => some form
  | .read _ => none
  | .spec _ _ => none
  | .pick _ _ => none

end Demand

/-- The demands that are served: all up to the first one that is not met, and that one. -/
def served (r : Registers) : List Demand → List Demand
  | [] => []
  | d :: ds => if d.met r then d :: served r ds else [d]

section Served

variable {r : Registers}

/-- Further demands are served if all demands before them are met. -/
theorem served_append (ds es : List Demand) :
    served r (ds ++ es) =
      if ds.all (Demand.met r) then ds ++ served r es else served r ds := by
  induction ds with
  | nil => rfl
  | cons d ds ih =>
      rw [List.cons_append, served, served, List.all_cons, ih]
      cases d.met r with
      | false => rfl
      | true =>
          rw [Bool.true_and, if_pos rfl, if_pos rfl, List.cons_append]
          split <;> rfl

theorem served_eq_self {ds : List Demand} (h : ds.all (Demand.met r) = true) :
    served r ds = ds := by
  have hall := served_append (r := r) ds []
  rwa [if_pos h, served, List.append_nil] at hall

theorem served_prefix_demands (r : Registers) (ds : List Demand) : served r ds <+: ds := by
  induction ds with
  | nil => exact List.prefix_rfl
  | cons d ds ih =>
      rw [served]
      split
      · exact (List.prefix_cons_inj d).2 ih
      · exact List.prefix_append [d] ds

end Served

/-! ## Evaluations -/

/-- What a sequence of evaluations logs. -/
theorem Eval.events_bind {α β : Type} (x : Eval α) (f : α → Eval β) :
    (x >>= f).run.events =
      match x.run.value with
      | .ok a => x.run.events ++ (f a).run.events
      | .error _ => x.run.events := by
  change (x.run >>= ExceptT.bindCont f).events = _
  rw [Logged.events_bind]
  cases x.run.value with
  | ok a => rfl
  | error failure => exact List.append_nil _

theorem Bank.get?_of_fetch {α : Type} {bank : Bank α} {name : String} {a : α}
    (h : (bank.fetch name).run.value = .ok a) : bank.get? name = some a := by
  rw [Bank.fetch] at h
  cases held : bank.get? name with
  | none =>
      rw [held] at h
      cases h
  | some b =>
      rw [held] at h
      cases h
      rfl

theorem Eval.value_lift {α : Type} (u : Logged α) : (u : Eval α).run.value = .ok u.value := rfl

theorem Eval.events_lift {α : Type} (u : Logged α) : (u : Eval α).run.events = u.events :=
  Logged.events_map Except.ok u

/-- The evaluation makes these demands: it logs what the served ones log, and has a result exactly
if all of them are met. -/
structure Follows {α : Type} (r : Registers) (x : Eval α) (ds : List Demand) : Prop where
  events : x.run.events = (served r ds).flatMap Demand.events
  ok : x.run.value.isOk = ds.all (Demand.met r)

namespace Follows

variable {α β : Type} {r : Registers} {x : Eval α} {ds es : List Demand}

theorem pure (a : α) : Follows r (Pure.pure a : Eval α) [] := ⟨rfl, rfl⟩

/-- The evaluation that goes on makes its demands after those that were made already. -/
theorem bind {f : α → Eval β} (h : Follows r x ds)
    (next : ∀ a, x.run.value = .ok a → Follows r (f a) es) : Follows r (x >>= f) (ds ++ es) := by
  cases hvalue : x.run.value with
  | ok a =>
      have met : ds.all (Demand.met r) = true := by
        rw [← h.ok, hvalue]
        rfl
      have later := next a hvalue
      constructor
      · rw [Eval.events_bind, hvalue, served_append, if_pos met, List.flatMap_append, h.events,
          served_eq_self met]
        exact congrArg (_ ++ ·) later.events
      · rw [Eval.value_bind, hvalue, List.all_append, met, Bool.true_and]
        exact later.ok
  -- What would come after the failure is not asked for.
  | error failure =>
      have unmet : ds.all (Demand.met r) = false := by
        rw [← h.ok, hvalue]
        rfl
      constructor
      · rw [Eval.events_bind, hvalue, served_append, unmet, if_neg Bool.false_ne_true]
        exact h.events
      · rw [Eval.value_bind, hvalue, List.all_append, unmet, Bool.false_and]
        rfl

/-- What is done with the result makes no demand. -/
theorem bind_pure (h : Follows r x ds) (f : α → β) :
    Follows r (x >>= fun a => Pure.pure (f a)) ds := by
  have hbind := h.bind (f := fun a => (Pure.pure (f a) : Eval β)) fun a _ => .pure (f a)
  rwa [List.append_nil] at hbind

theorem map (h : Follows r x ds) (f : α → β) : Follows r (f <$> x) ds := by
  rw [map_eq_pure_bind]
  exact h.bind_pure f

/-- One demand, with a result exactly if it is met. -/
theorem single {d : Demand} (events : x.run.events = d.events)
    (ok : x.run.value.isOk = d.met r) : Follows r x [d] := by
  constructor
  · have hserved : served r [d] = [d] := by
      rw [served, served]
      split <;> rfl
    rw [hserved, List.flatMap_singleton, events]
  · rw [List.all_cons, List.all_nil, Bool.and_true]
    exact ok

/-- A logged computation cannot fail. -/
theorem lift {u : Logged α} {d : Demand} (events : u.events = d.events) (met : d.met r = true) :
    Follows r (u : Eval α) [d] :=
  .single ((Eval.events_lift u).trans events) met.symm

theorem build (form : SegmentForm) : Follows r (form.build : Logged Segment) [.build form] :=
  .lift form.events_build rfl

theorem fetch {bank : Bank α} {name : String} {cell : Cell}
    (held : cell.held r = (bank.get? name).isSome) : Follows r (bank.fetch name) [.read cell] := by
  refine .single ?_ ?_
  · rw [Bank.fetch]
    cases bank.get? name <;> rfl
  · rw [Demand.met, held, Bank.fetch]
    cases bank.get? name <;> rfl

theorem composite (name : String) :
    Follows r (r.composites.fetch name) [.read (.composite name)] := .fetch rfl

/-- What is made of the options of a format spec is there if the spec is not rejected. -/
theorem accept {written : String} {outcome : Logged (Except Spec.Error α)}
    (events : outcome.events = Spec.rejections written)
    (ok : outcome.value.isOk = (Spec.parse written).isOk) :
    Follows r (Script.accept outcome) [.spec written true] := by
  refine .single ?_ ?_
  · rw [Script.accept, Eval.events_bind, Eval.value_lift, Eval.events_lift]
    cases outcome.value <;> exact (List.append_nil _).trans events
  · rw [Demand.met, ← ok, Script.accept, Eval.value_bind, Eval.value_lift]
    cases outcome.value <;> rfl

end Follows

/-! ## Terms -/

/-- A segment that is written out is built, and one in a register is not built again. -/
def SegmentTerm.demands : SegmentTerm → List Demand
  | .form f => [.build f]
  | .register name => [.read (.segment name)]

def PartTerm.demands : PartTerm → List Demand
  | .text _ => []
  | .segment s => s.demands

def Operand.demands : Operand → List Demand
  | .part p => p.demands
  | .composite register => [.read (.composite register)]

def OptionsTerm.demands : OptionsTerm → List Demand
  | .form (.spec written) => [.spec written true]
  | .form (.settings _) => []
  | .register name => [.read (.options name)]

variable {r : Registers}

theorem SegmentTerm.eval_follows (s : SegmentTerm) : Follows r (s.eval r) s.demands := by
  cases s with
  | form form => exact .build form
  | register name => exact .fetch rfl

theorem PartTerm.eval_follows (p : PartTerm) : Follows r (p.eval r) p.demands := by
  cases p with
  | text t => exact .pure _
  | segment s => exact s.eval_follows.map _

theorem Operand.eval_follows (x : Operand) : Follows r (x.eval r) x.demands := by
  cases x with
  | part p => exact p.eval_follows.map _
  | composite register => exact (Follows.composite register).map _

theorem Operand.evalAll_follows (xs : List Operand) :
    Follows r (Operand.evalAll r xs) (xs.flatMap Operand.demands) := by
  induction xs with
  | nil => exact .pure _
  | cons x xs ih => exact x.eval_follows.bind fun addend _ => ih.bind_pure _

theorem OptionsTerm.eval_follows (o : OptionsTerm) : Follows r (o.eval r) o.demands := by
  cases o with
  | register name => exact .fetch rfl
  | form form =>
      cases form with
      | settings calls => exact .pure _
      | spec written =>
          exact .accept (Spec.events_read written) (congrArg _ (Spec.value_read written))

/-! ## Steps -/

/-- A new composite asks for its operands, and then for the composite or the segment that they are
added to. -/
def Build.demands : Build → List Demand
  | .empty => []
  | .ofOperand operand => operand.demands
  | .ofOperands operands => operands.flatMap Operand.demands
  | .concat source operand => operand.demands ++ [.read (.composite source)]
  | .add source operand => operand.demands ++ [.read (.composite source)]
  | .segmentAdd segment operand => operand.demands ++ [.build segment]
  | .textAdd _ operand => operand.demands
  | .copy source => [.read (.composite source)]

/-- Appending under a name builds a segment. -/
def Growth.demands : Growth → List Demand
  | .extend operand => operand.demands
  | .extendAll operands => operands.flatMap Operand.demands
  | .push part => part.demands
  | .append text name hidden => if name = "" then [] else [.build ⟨text, some name, hidden⟩]

def Observation.demands : Observation → List Demand
  | .composite source => [.read (.composite source)]
  | .parts source => [.read (.composite source)]
  | .length source => [.read (.composite source)]
  | .count operand => operand.demands
  | .segments source => [.read (.composite source)]
  | .plain source => [.read (.composite source)]
  | .display source => [.read (.composite source)]
  | .render source _ _ => [.read (.composite source)]
  | .renderWith source options => .read (.composite source) :: options.demands
  | .renderSpec source written => [.read (.composite source), .spec written true]
  | .view source options => .read (.composite source) :: options.demands
  | .join operands _ _ => operands.flatMap Operand.demands
  | .renderSegment segment _ _ options spec =>
    segment.demands ++ (options.demands ++ spec.toList.map (.spec · false))
  | .allows segment _ => segment.demands
  | .policy _ => []
  | .inspect source _ _ => [.read (.composite source)]
  | .inspectView source _ options => .read (.composite source) :: options.demands
  | .equal source other => [.read (.composite source), .read (.composite other)]
  | .serialize source => [.read (.composite source)]
  | .serializeView source options => .read (.composite source) :: options.demands
  | .log source .whole => [.read (.composite source)]
  | .log source (.view options) => .read (.composite source) :: options.demands
  | .log source (.segment index) => [.read (.composite source), .pick source index]

def Step.demands : Step → List Demand
  | .build _ how => how.demands
  | .grow target growth => .read (.composite target) :: growth.demands
  | .segment _ form => [.build form]
  | .options _ term => term.demands
  | .observe observation => observation.demands

theorem Build.eval_follows (how : Build) : Follows r (how.eval r) how.demands := by
  cases how with
  | empty => exact .pure _
  | ofOperand operand => exact operand.eval_follows.map _
  | ofOperands operands => exact (Operand.evalAll_follows operands).map _
  | concat source operand =>
      exact operand.eval_follows.bind fun x _ => (Follows.composite source).bind_pure _
  | add source operand =>
      exact operand.eval_follows.bind fun x _ => (Follows.composite source).bind_pure _
  | segmentAdd segment operand =>
      exact operand.eval_follows.bind fun x _ => (Follows.build segment).bind_pure _
  | textAdd text operand => exact operand.eval_follows.bind_pure _
  | copy source => exact .composite source

theorem Growth.eval_follows (growth : Growth) (c : Composite) :
    Follows r (growth.eval r c) growth.demands := by
  cases growth with
  | extend operand => exact operand.eval_follows.map _
  | extendAll operands => exact (Operand.evalAll_follows operands).bind_pure _
  | push part => exact part.eval_follows.map _
  | append text name hidden =>
      rw [Growth.demands]
      split
      next unnamed =>
        rw [Growth.eval, Composite.append, if_pos unnamed]
        exact .pure _
      next named =>
        exact .lift (c.events_append text named hidden) rfl

theorem Observation.eval_follows (observation : Observation) :
    Follows r (observation.eval r) observation.demands := by
  cases observation with
  | composite source => exact (Follows.composite source).map _
  | parts source => exact (Follows.composite source).bind_pure _
  | length source => exact (Follows.composite source).bind_pure _
  | count operand => exact operand.eval_follows.bind_pure _
  | segments source => exact (Follows.composite source).bind_pure _
  | plain source => exact (Follows.composite source).bind_pure _
  | display source => exact (Follows.composite source).bind_pure _
  | render source marker policy => exact (Follows.composite source).bind_pure _
  | renderWith source options =>
      exact (Follows.composite source).bind fun c _ => options.eval_follows.bind_pure _
  | renderSpec source written =>
      refine (Follows.composite source).bind fun c _ => Follows.map ?_ _
      exact .accept (c.events_renderSpec written) (c.isOk_renderSpec written)
  | view source options =>
      exact (Follows.composite source).bind fun c _ => options.eval_follows.bind_pure _
  | join operands marker policy => exact (Operand.evalAll_follows operands).bind_pure _
  | renderSegment segment marker policy options spec =>
      refine segment.eval_follows.bind fun s _ => options.eval_follows.bind fun o _ => ?_
      cases spec with
      | none => exact .pure _
      | some written => exact (Follows.lift (s.toComposite.events_renderSpec written) rfl).bind_pure _
  | allows segment policy => exact segment.eval_follows.bind_pure _
  | policy policy => exact .pure _
  | inspect source spread revealed => exact (Follows.composite source).bind_pure _
  | inspectView source spread options =>
      exact (Follows.composite source).bind fun c _ => options.eval_follows.bind_pure _
  | equal source other =>
      exact (Follows.composite source).bind fun c _ => (Follows.composite other).bind_pure _
  | serialize source => exact (Follows.composite source).bind_pure _
  | serializeView source options =>
      exact (Follows.composite source).bind fun c _ => options.eval_follows.bind_pure _
  | log source subject =>
      cases subject with
      | whole => exact (Follows.composite source).bind_pure _
      | view options =>
          exact (Follows.composite source).bind fun c _ => options.eval_follows.bind_pure _
      | segment index =>
          refine (Follows.composite source).bind fun c held => ?_
          refine .single ?_ ?_
          · cases c.segments[index]? <;> rfl
          · rw [Demand.met_pick (Bank.get?_of_fetch held)]
            cases c.segments[index]? <;> rfl

theorem Step.eval_follows (step : Step) : Follows r (step.eval r) step.demands := by
  cases step with
  | build target how => exact how.eval_follows.bind_pure _
  | grow target growth =>
      exact (Follows.composite target).bind fun c _ => (growth.eval_follows c).bind_pure _
  | segment target form => exact (Follows.build form).bind_pure _
  | options target term => exact term.eval_follows.bind_pure _
  | observe observation => exact observation.eval_follows.bind_pure _

end Redaction.Script
