import Redaction.Proofs.Script.Demand

/-!
# Warnings about names

A script logs a warning where a segment is constructed under a name that no format spec can list,
once for each such segment and in the order in which they are built. A step constructs the segments
that it writes out and no others: a segment that comes from a register, alone or within a composite,
is copied, and nothing that is observed is built.

So every segment that a register ever holds has been constructed once by some step, with its
warning in the log of that step, or was there when the script started.
-/

namespace Redaction.Script

/-- The segments that are written out, in the order in which they are built. -/
def Step.forms (step : Step) : List SegmentForm := step.demands.filterMap Demand.form?

/-- The segments that a step constructs. A step that fails may not come to all it writes out. -/
def Step.constructed (r : Registers) (step : Step) : List SegmentForm :=
  (served r step.demands).filterMap Demand.form?

/-- The warnings in the log of a computation. -/
def warnings {α : Type} (outcome : Logged α) : List Event :=
  outcome.events.filter fun e => e.level = .warning

section Log

variable {r : Registers}

theorem warnings_rejections (written : String) :
    (Spec.rejections written).filter (fun e => e.level = .warning) = [] := by
  rw [Spec.rejections]
  cases Spec.parse written with
  | ok o => rfl
  | error e => cases e <;> rfl

theorem warnings_warnings (form : SegmentForm) :
    form.warnings.filter (fun e => e.level = .warning) = form.warnings := by
  rw [form.warnings_eq]
  cases form.build.value.nameWarning? <;> rfl

theorem Demand.warnings_events (d : Demand) :
    d.events.filter (fun e => e.level = .warning) =
      d.form?.toList.flatMap SegmentForm.warnings := by
  cases d with
  | build form =>
      rw [events, warnings_warnings]
      exact (List.append_nil _).symm
  | read cell => rfl
  | spec written needed => exact warnings_rejections written
  | pick source index => rfl

theorem warnings_demands (ds : List Demand) :
    (ds.flatMap Demand.events).filter (fun e => e.level = .warning) =
      (ds.filterMap Demand.form?).flatMap SegmentForm.warnings := by
  induction ds with
  | nil => rfl
  | cons d ds ih =>
      rw [List.flatMap_cons, List.filter_append, d.warnings_events, ih, List.filterMap_cons]
      cases d.form? with
      | none => rfl
      | some form => simp

/-- What is made of the value of a computation does not change its warnings. -/
theorem warnings_map {α β : Type} (f : α → β) (outcome : Logged α) :
    warnings (f <$> outcome) = warnings outcome := by
  rw [warnings, Logged.events_map, warnings]

/-- A step logs what its evaluation logs, also if it fails. -/
theorem Step.events_run (r : Registers) (step : Step) :
    (step.run r).events = (served r step.demands).flatMap Demand.events := by
  rw [Step.run, Logged.events_bind, step.eval_follows.events]
  cases (step.eval r).run.value <;> exact List.append_nil _

theorem Step.warnings_run (r : Registers) (step : Step) :
    warnings (step.run r) = (step.constructed r).flatMap SegmentForm.warnings := by
  rw [warnings, step.events_run, warnings_demands, Step.constructed]

theorem Step.constructed_prefix_forms (r : Registers) (step : Step) :
    step.constructed r <+: step.forms :=
  (served_prefix_demands r step.demands).filterMap Demand.form?

/-- A step that gives a result has constructed all segments that it writes out. -/
theorem Step.constructed_eq_forms {step : Step}
    (h : ∀ failure, (step.run r).value.2 ≠ .failed failure) : step.constructed r = step.forms := by
  have met : step.demands.all (Demand.met r) = true := by
    rw [← step.eval_follows.ok]
    rw [step.value_run] at h
    cases hvalue : (step.eval r).run.value with
    | ok result => rfl
    | error failure =>
        rw [hvalue] at h
        exact absurd rfl (h failure)
  rw [Step.constructed, served_eq_self met, Step.forms]

/-- Appending constructs a segment exactly if there is a name. -/
theorem Step.warnings_append {target : String} (held : (r.composites.get? target).isSome = true)
    (text name : String) (hidden : Bool) :
    warnings ((Step.grow target (.append text name hidden)).run r) =
      if name = "" ∨ isIdentifier name then [] else [.unlistableName ⟨name⟩] := by
  have first : (Demand.read (.composite target)).met r = true := held
  rw [Step.warnings_run, Step.constructed, Step.demands, served, if_pos first, Growth.demands]
  by_cases unnamed : name = ""
  · rw [if_pos unnamed, if_pos (.inl unnamed)]
    rfl
  · rw [if_neg unnamed]
    exact List.append_nil _

end Log

/-! ## Where segments come from -/

/-- Some register holds the segment, alone or within a composite. -/
def Registers.Holds (r : Registers) (s : Segment) : Prop :=
  (∃ name, r.segments.get? name = some s) ∨
    ∃ name c, r.composites.get? name = some c ∧ .segment s ∈ c.parts

/-- The segment is in a register, or one of these demands writes it out. -/
def Registers.Supplies (r : Registers) (ds : List Demand) (s : Segment) : Prop :=
  r.Holds s ∨ ∃ form, .build form ∈ ds ∧ form.build.value = s

namespace Registers

variable {r : Registers} {s : Segment}

theorem Supplies.mono {ds es : List Demand} (h : r.Supplies ds s) (more : ds ⊆ es) :
    r.Supplies es s := by
  obtain held | ⟨form, written, built⟩ := h
  · exact .inl held
  · exact .inr ⟨form, more written, built⟩

theorem Holds.composite {name : String} {c : Composite} (held : r.composites.get? name = some c)
    (inside : .segment s ∈ c.parts) : r.Holds s := .inr ⟨name, c, held, inside⟩

theorem Holds.of_setComposite {target : String} {c : Composite}
    (h : (r.setComposite target c).Holds s) : r.Holds s ∨ .segment s ∈ c.parts := by
  obtain alone | ⟨name, d, held, inside⟩ := h
  · exact .inl (.inl alone)
  · by_cases written : name = target
    · rw [written, setComposite, Bank.get?_set_self] at held
      cases held
      exact .inr inside
    · rw [setComposite, Bank.get?_set_of_ne _ written] at held
      exact .inl (.composite held inside)

theorem Holds.of_setSegment {target : String} {t : Segment}
    (h : (r.setSegment target t).Holds s) : r.Holds s ∨ s = t := by
  obtain ⟨name, held⟩ | inside := h
  · by_cases written : name = target
    · rw [written, setSegment, Bank.get?_set_self] at held
      exact .inr (Option.some.inj held).symm
    · rw [setSegment, Bank.get?_set_of_ne _ written] at held
      exact .inl (.inl ⟨name, held⟩)
  · exact .inl (.inr inside)

end Registers

section Supplies

variable {r : Registers} {s : Segment}

theorem SegmentTerm.supplied {t : SegmentTerm} (h : t.segment? r = some s) :
    r.Supplies t.demands s := by
  cases t with
  | form form =>
      have built := form.value_build.trans (Option.some.inj h)
      exact .inr ⟨form, List.mem_singleton_self _, built⟩
  | register name => exact .inl (.inl ⟨name, h⟩)

theorem PartTerm.supplied {p : PartTerm} (h : p.part? r = some (.segment s)) :
    r.Supplies p.demands s := by
  cases p with
  | text t => cases h
  | segment t =>
      obtain ⟨s', found, same⟩ := Option.map_eq_some_iff.1 h
      cases same
      exact t.supplied found

theorem Operand.supplied {x : Operand} {ps : List Part} (h : x.parts? r = some ps)
    (inside : .segment s ∈ ps) : r.Supplies x.demands s := by
  cases x with
  | part p =>
      obtain ⟨part, found, rfl⟩ := Option.map_eq_some_iff.1 h
      rw [List.mem_singleton] at inside
      exact p.supplied (inside ▸ found)
  | composite register =>
      obtain ⟨c, held, rfl⟩ := Option.map_eq_some_iff.1 h
      exact .inl (.composite held inside)

theorem Operand.all_supplied {xs : List Operand} {ps : List Part}
    (h : Operand.allParts? r xs = some ps) (inside : .segment s ∈ ps) :
    r.Supplies (xs.flatMap Operand.demands) s := by
  induction xs generalizing ps with
  | nil =>
      cases h
      cases inside
  | cons x xs ih =>
      obtain ⟨first, hfirst, h⟩ := Option.bind_eq_some_iff.1 h
      obtain ⟨rest, hrest, h⟩ := Option.bind_eq_some_iff.1 h
      cases h
      rw [List.flatMap_cons]
      obtain inside | inside := List.mem_append.1 inside
      · exact (x.supplied hfirst inside).mono (List.subset_append_left ..)
      · exact (ih hrest inside).mono (List.subset_append_right ..)

/-- The parts of a composite with those of an operand behind them. -/
theorem Operand.joined_supplied {x : Operand} {source : String} {ps : List Part}
    (h : (do
      let added ← x.parts? r
      let c ← r.composites.get? source
      return c.parts ++ added) = some ps)
    (inside : .segment s ∈ ps) :
    r.Supplies (x.demands ++ [.read (.composite source)]) s := by
  obtain ⟨added, hadded, h⟩ := Option.bind_eq_some_iff.1 h
  obtain ⟨c, held, h⟩ := Option.bind_eq_some_iff.1 h
  cases h
  obtain inside | inside := List.mem_append.1 inside
  · exact .inl (.composite held inside)
  · exact (x.supplied hadded inside).mono (List.subset_append_left ..)

theorem Build.supplied {how : Build} {ps : List Part} (h : how.parts? r = some ps)
    (inside : .segment s ∈ ps) : r.Supplies how.demands s := by
  cases how with
  | empty =>
      cases h
      cases inside
  | ofOperand operand => exact operand.supplied h inside
  | ofOperands operands => exact Operand.all_supplied h inside
  | concat source operand => exact operand.joined_supplied h inside
  | add source operand => exact operand.joined_supplied h inside
  | segmentAdd form operand =>
      obtain ⟨added, hadded, h⟩ := Option.bind_eq_some_iff.1 h
      obtain ⟨own, hown, h⟩ := Option.bind_eq_some_iff.1 h
      cases h
      obtain same | inside := List.mem_cons.1 inside
      · cases same
        exact ((SegmentTerm.form form).supplied hown).mono (List.subset_append_right ..)
      · exact (operand.supplied hadded inside).mono (List.subset_append_left ..)
  | textAdd text operand =>
      obtain ⟨added, hadded, h⟩ := Option.bind_eq_some_iff.1 h
      cases h
      obtain same | inside := List.mem_cons.1 inside
      · cases same
      · exact operand.supplied hadded inside
  | copy source =>
      obtain ⟨c, held, rfl⟩ := Option.map_eq_some_iff.1 h
      exact .inl (.composite held inside)

theorem Growth.supplied {growth : Growth} {ps : List Part} (h : growth.parts? r = some ps)
    (inside : .segment s ∈ ps) : r.Supplies growth.demands s := by
  cases growth with
  | extend operand => exact operand.supplied h inside
  | extendAll operands => exact Operand.all_supplied h inside
  | push part =>
      obtain ⟨p, found, rfl⟩ := Option.map_eq_some_iff.1 h
      rw [List.mem_singleton] at inside
      exact part.supplied (inside ▸ found)
  | append text name hidden =>
      cases h
      rw [List.mem_singleton] at inside
      rw [Growth.demands]
      split at inside
      next unnamed => cases inside
      next named =>
        cases inside
        rw [if_neg named]
        exact .inr ⟨_, List.mem_singleton_self _, SegmentForm.value_build _⟩

/-- A step stores no segment but those that it finds in registers and those that it writes out. -/
theorem Step.Effect.supplied {r' : Registers} {step : Step} {answer : Answer}
    (h : step.Effect r r' answer) (held : r'.Holds s) : r.Supplies step.demands s := by
  cases h with
  | build parts =>
      obtain before | inside := held.of_setComposite
      · exact .inl before
      · exact Build.supplied parts inside
  | @grow target growth c ps old added =>
      obtain before | inside := held.of_setComposite
      · exact .inl before
      · obtain inside | inside := List.mem_append.1 inside
        · exact .inl (.composite old inside)
        · exact (Growth.supplied added inside).mono (List.subset_cons_self ..)
  | segment written =>
      obtain before | rfl := held.of_setSegment
      · exact .inl before
      · exact SegmentTerm.supplied written
  | options read => exact .inl held
  | buildUnbound register parts => exact .inl held
  | growUnbound register missing => exact .inl held
  | optionsFailed read => exact .inl held
  | observe => exact .inl held

/-- A segment in a register after a step was there before, or the step has constructed it. -/
theorem Step.holds_run {step : Step} (held : (step.run r).value.1.Holds s) :
    r.Holds s ∨ ∃ form ∈ step.constructed r, form.build.value = s := by
  have effect := step.run_effect r
  by_cases failed : ∃ failure, (step.run r).value.2 = .failed failure
  · rw [effect.unchanged (.inr failed)] at held
    exact .inl held
  · have all : step.constructed r = step.forms :=
      Step.constructed_eq_forms fun failure h => failed ⟨failure, h⟩
    obtain before | ⟨form, written, built⟩ := effect.supplied held
    · exact .inl before
    · refine .inr ⟨form, ?_, built⟩
      rw [all, Step.forms]
      exact List.mem_filterMap.2 ⟨.build form, written, rfl⟩

end Supplies

/-! ## Scripts -/

/-- A segment in a register after a script was there before, or some step of the script has
constructed it. -/
theorem holds_after {start : Registers} {steps : List Step} {s : Segment}
    (held : (after start steps).Holds s) :
    start.Holds s ∨ ∃ before step later, steps = before ++ step :: later ∧
      ∃ form ∈ step.constructed (after start before), form.build.value = s := by
  induction steps generalizing start with
  | nil => exact .inl held
  | cons step steps ih =>
      obtain first | ⟨before, step', later, rfl, form, written, built⟩ := ih held
      · obtain initial | ⟨form, written, built⟩ := Step.holds_run first
        · exact .inl initial
        · exact .inr ⟨[], step, steps, rfl, form, written, built⟩
      · exact .inr ⟨step :: before, step', later, rfl, form, written, built⟩

/-- The warnings that a step of a script logs are those of the segments that it constructs, in the
order in which they are built: one for each name that is neither empty nor an identifier, and none
else. It constructs the segments that it writes out, all of them unless it fails. Appending warns
about its name, whatever the text is and whether or not the name is hidden. A segment is warned
about when it is built exactly if it carries a warning, and every segment in a register at the end
was there at the start or has been constructed by a step. -/
theorem warnings_logged_once_per_construction (start : Registers) (steps : List Step) :
    (∀ before step later, steps = before ++ step :: later →
      ∃ answer, (run start steps)[before.length]? = some answer ∧
        warnings answer = (step.constructed (after start before)).flatMap SegmentForm.warnings ∧
        step.constructed (after start before) <+: step.forms ∧
        ((∀ failure, answer.value ≠ .failed failure) →
          step.constructed (after start before) = step.forms)) ∧
    (∀ before target text name hidden later,
      steps = before ++ .grow target (.append text name hidden) :: later →
      ((after start before).composites.get? target).isSome = true →
        ∃ answer, (run start steps)[before.length]? = some answer ∧
          warnings answer =
            if name = "" ∨ isIdentifier name then [] else [.unlistableName ⟨name⟩]) ∧
    (∀ form : SegmentForm, form.build.events = form.warnings ∧
      form.warnings = form.build.value.nameWarning?.toList.map Event.unlistableName) ∧
    ∀ s, (after start steps).Holds s → start.Holds s ∨
      ∃ before step later, steps = before ++ step :: later ∧
        ∃ form ∈ step.constructed (after start before), form.build.value = s := by
  refine ⟨?_, ?_, fun form => ⟨form.events_build, form.warnings_eq⟩, fun s held => holds_after held⟩
  · rintro before step later rfl
    refine ⟨_, getElem?_run start before step later, ?_, ?_, Step.constructed_eq_forms⟩
    · rw [warnings_map, step.warnings_run]
    · exact step.constructed_prefix_forms _
  · rintro before target text name hidden later rfl held
    refine ⟨_, getElem?_run start before _ later, ?_⟩
    rw [warnings_map, Step.warnings_append held]

/-- The operand is warned about before the segment that it is added to, although the name of that
segment is hidden. Copying the sum logs nothing, and appending to the copy warns about the new name
alone. -/
theorem operand_warned_about_first :
    let own : SegmentForm := ⟨"db1", some "my host", true⟩
    let operand : Operand := .part (.segment (.form ⟨"eve", some "2b", false⟩))
    let sum : Step := .build "line" (.segmentAdd own operand)
    let copy : Step := .build "copy" (.copy "line")
    let more : Step := .grow "copy" (.append "" "3c" true)
    let answers := run .empty [sum, copy, more]
    answers[0]?.map warnings = some [.unlistableName ⟨"2b"⟩, .unlistableName ⟨"my host"⟩] ∧
      answers[1]?.map warnings = some [] ∧
      answers[2]?.map warnings = some [.unlistableName ⟨"3c"⟩] := by
  intro own operand sum copy more answers
  obtain ⟨logged, appended, -⟩ := warnings_logged_once_per_construction .empty [sum, copy, more]
  refine ⟨?_, ?_, ?_⟩
  · obtain ⟨_, answered, warned, -⟩ := logged [] sum [copy, more] rfl
    rw [show answers[0]? = _ from answered, Option.map_some, warned]
    decide +kernel
  · obtain ⟨_, answered, silent, -⟩ := logged [sum] copy [more] rfl
    rw [show answers[1]? = _ from answered, Option.map_some, silent]
    rfl
  · obtain ⟨_, answered, warned⟩ := appended [sum, copy] "copy" "" "3c" true [] rfl rfl
    rw [show answers[2]? = _ from answered, Option.map_some, warned]
    decide +kernel

end Redaction.Script
