import Redaction.Proofs.PairedRuns
import Redaction.Proofs.Similarity
import Redaction.Script.Step

/-!
# Building similar composites

Two scripts that build segments and composites are similar if they take the same steps and differ
at most in the values given to segments. Run on similar registers, they answer and log step by step
in pairs: every step logs the same events, and what it builds is similar or fails alike. So the log
of a construction tells nothing about the values that went into it.

The texts of a construction are not values of segments and have to agree, with one exception: a
text appended under a name becomes the value of a segment.
-/

namespace Redaction

/-- Forms that write out similar segments, in the same way. -/
structure SegmentForm.Similar (f g : SegmentForm) : Prop where
  name : f.name = g.name
  hidden : f.hidden = g.hidden

/-- The log of building a named segment depends on the name alone. -/
theorem Segment.named_paired (value value' name : String) :
    Logged.Paired Segment.Similar (Segment.named value name) (Segment.named value' name) := by
  have hvalues : (Segment.named value name).value.Similar (Segment.named value' name).value := by
    rw [Segment.value_named, Segment.value_named]
    exact ⟨rfl, rfl⟩
  refine ⟨?_, hvalues⟩
  rw [Segment.events_named, Segment.events_named, hvalues.nameWarning?]

theorem SegmentForm.Similar.build_paired {f g : SegmentForm} (h : f.Similar g) :
    Logged.Paired Segment.Similar f.build g.build := by
  obtain ⟨value, name, hidden⟩ := f
  obtain ⟨value', name', hidden'⟩ := g
  obtain ⟨rfl, rfl⟩ : name = name' ∧ hidden = hidden' := ⟨h.name, h.hidden⟩
  cases name with
  | none =>
      have hanonymous : (Segment.anonymous value).Similar (Segment.anonymous value') := ⟨rfl, rfl⟩
      exact .pure (hanonymous.hideNameIf hidden)
  | some name =>
      exact (Segment.named_paired value value' name).bind
        fun _ _ similar => .pure (similar.hideNameIf hidden)

/-- Appending logs by the name alone. The text is the value of a segment, unless the name is
empty. -/
theorem Composite.Similar.append_paired {c d : Composite} (h : c.Similar d)
    (text text' name : String) (hidden : Bool) (plain : name = "" → text = text') :
    Logged.Paired Composite.Similar (c.append text name hidden) (d.append text' name hidden) := by
  rw [Composite.append, Composite.append]
  by_cases unnamed : name = ""
  · rw [if_pos unnamed, if_pos unnamed, plain unnamed]
    exact .pure (h.push (.text text'))
  · rw [if_neg unnamed, if_neg unnamed]
    exact (Segment.named_paired text text' name).bind fun _ _ similar =>
      .pure (h.push (.segment (similar.hideNameIf hidden)))

namespace Script

/-- What the registers of two banks hold is related, register by register. -/
def Bank.Related {α : Type} (R : α → α → Prop) (b b' : Bank α) : Prop :=
  ∀ name, Option.Rel R (b.get? name) (b'.get? name)

namespace Bank.Related

variable {α : Type} {R : α → α → Prop} {b b' : Bank α}

theorem fetch (h : b.Related R b') (name : String) :
    PairedRuns R (b.fetch name) (b'.fetch name) := by
  have hname := h name
  rw [Bank.fetch, Bank.fetch]
  generalize b.get? name = held, b'.get? name = held' at hname ⊢
  cases hname with
  | none => exact .throw _
  | some related => exact .pure related

theorem set (h : b.Related R b') (name : String) {a a' : α} (ha : R a a') :
    (b.set name a).Related R (b'.set name a') := by
  intro other
  by_cases same : other = name
  · subst same
    rw [Bank.get?_set_self, Bank.get?_set_self]
    exact .some ha
  · rw [Bank.get?_set_of_ne b same, Bank.get?_set_of_ne b' same]
    exact h other

end Bank.Related

/-- Registers that hold similar segments and similar composites. -/
structure Registers.Similar (r r' : Registers) : Prop where
  composites : r.composites.Related Composite.Similar r'.composites
  segments : r.segments.Related Segment.Similar r'.segments

namespace Registers.Similar

variable {r r' : Registers}

theorem setComposite (h : r.Similar r') (name : String) {c d : Composite} (similar : c.Similar d) :
    (r.setComposite name c).Similar (r'.setComposite name d) :=
  ⟨h.composites.set name similar, h.segments⟩

theorem setSegment (h : r.Similar r') (name : String) {s t : Segment} (similar : s.Similar t) :
    (r.setSegment name s).Similar (r'.setSegment name t) :=
  ⟨h.composites, h.segments.set name similar⟩

end Registers.Similar

/-- The same segment register, or forms that write out similar segments. -/
inductive SegmentTerm.Similar : SegmentTerm → SegmentTerm → Prop where
  | form {f g : SegmentForm} (h : f.Similar g) : Similar (.form f) (.form g)
  | register (name : String) : Similar (.register name) (.register name)

/-- The same text, or similar segments. -/
inductive PartTerm.Similar : PartTerm → PartTerm → Prop where
  | text (t : String) : Similar (.text t) (.text t)
  | segment {s t : SegmentTerm} (h : s.Similar t) : Similar (.segment s) (.segment t)

/-- Similar parts, or the same composite register. -/
inductive Operand.Similar : Operand → Operand → Prop where
  | part {p q : PartTerm} (h : p.Similar q) : Similar (.part p) (.part q)
  | composite (register : String) : Similar (.composite register) (.composite register)

/-- The same way to build a composite, from similar operands. -/
inductive Build.Similar : Build → Build → Prop where
  | empty : Similar .empty .empty
  | ofOperand {x y : Operand} (h : x.Similar y) : Similar (.ofOperand x) (.ofOperand y)
  | ofOperands {xs ys : List Operand} (h : List.Forall₂ Operand.Similar xs ys) :
      Similar (.ofOperands xs) (.ofOperands ys)
  | concat (source : String) {x y : Operand} (h : x.Similar y) :
      Similar (.concat source x) (.concat source y)
  | add (source : String) {x y : Operand} (h : x.Similar y) :
      Similar (.add source x) (.add source y)
  | segmentAdd {f g : SegmentForm} (form : f.Similar g) {x y : Operand} (h : x.Similar y) :
      Similar (.segmentAdd f x) (.segmentAdd g y)
  | textAdd (text : String) {x y : Operand} (h : x.Similar y) :
      Similar (.textAdd text x) (.textAdd text y)
  | copy (source : String) : Similar (.copy source) (.copy source)

/-- The same way to grow, by similar operands. A text appended under a name is the value of a
segment and may differ; one appended without a name is plain text and may not. -/
inductive Growth.Similar : Growth → Growth → Prop where
  | extend {x y : Operand} (h : x.Similar y) : Similar (.extend x) (.extend y)
  | extendAll {xs ys : List Operand} (h : List.Forall₂ Operand.Similar xs ys) :
      Similar (.extendAll xs) (.extendAll ys)
  | push {p q : PartTerm} (h : p.Similar q) : Similar (.push p) (.push q)
  | append (text text' name : String) (hidden : Bool) (plain : name = "" → text = text') :
      Similar (.append text name hidden) (.append text' name hidden)

/-- The same step of a construction, up to the values of segments. -/
inductive Step.Similar : Step → Step → Prop where
  | build (target : String) {how how' : Build} (h : how.Similar how') :
      Similar (.build target how) (.build target how')
  | grow (target : String) {growth growth' : Growth} (h : growth.Similar growth') :
      Similar (.grow target growth) (.grow target growth')
  | segment (target : String) {f g : SegmentForm} (h : f.Similar g) :
      Similar (.segment target f) (.segment target g)

/-- What a step of a construction answers: similar composites, similar segments, or the same
failure. -/
inductive Answer.Similar : Answer → Answer → Prop where
  | composite {c d : Composite} (h : c.Similar d) : Similar (.composite c) (.composite d)
  | segment {s t : Segment} (h : s.Similar t) : Similar (.segment s) (.segment t)
  | failed (failure : Failure) : Similar (.failed failure) (.failed failure)

variable {r r' : Registers}

theorem SegmentTerm.Similar.eval_paired {s t : SegmentTerm} (h : s.Similar t)
    (registers : r.Similar r') : PairedRuns Segment.Similar (s.eval r) (t.eval r') := by
  cases h with
  | form form => exact .lift form.build_paired
  | register name => exact registers.segments.fetch name

theorem PartTerm.Similar.eval_paired {p q : PartTerm} (h : p.Similar q)
    (registers : r.Similar r') : PairedRuns Part.Similar (p.eval r) (q.eval r') := by
  cases h with
  | text t => exact .pure (.text t)
  | segment s => exact (s.eval_paired registers).map fun _ _ similar => .segment similar

theorem Operand.Similar.eval_paired {x y : Operand} (h : x.Similar y)
    (registers : r.Similar r') : PairedRuns Addend.Similar (x.eval r) (y.eval r') := by
  cases h with
  | part p => exact (p.eval_paired registers).map fun _ _ similar => .cons similar .nil
  | composite register => exact (registers.composites.fetch register).map fun _ _ similar => similar

theorem Operand.evalAll_paired {xs ys : List Operand} (h : List.Forall₂ Operand.Similar xs ys)
    (registers : r.Similar r') :
    PairedRuns (List.Forall₂ Addend.Similar) (Operand.evalAll r xs) (Operand.evalAll r' ys) := by
  induction h with
  | nil => exact .pure .nil
  | cons first _ ih =>
      exact (first.eval_paired registers).bind fun _ _ similar =>
        ih.bind fun _ _ rest => .pure (.cons similar rest)

theorem Build.Similar.eval_paired {how how' : Build} (h : how.Similar how')
    (registers : r.Similar r') : PairedRuns Composite.Similar (how.eval r) (how'.eval r') := by
  cases h with
  | empty => exact .pure .empty
  | ofOperand x => exact (x.eval_paired registers).map fun _ _ addend => .ofAddend addend
  | ofOperands xs =>
      exact (Operand.evalAll_paired xs registers).map fun _ _ addends => .ofAddends addends
  | concat source x =>
      refine (x.eval_paired registers).bind fun _ _ addend => ?_
      exact (registers.composites.fetch source).bind fun _ _ similar =>
        .pure (similar.concat addend)
  | add source x =>
      refine (x.eval_paired registers).bind fun _ _ addend => ?_
      exact (registers.composites.fetch source).bind fun _ _ similar =>
        .pure (similar.extend addend)
  | segmentAdd form x =>
      refine (x.eval_paired registers).bind fun _ _ addend => ?_
      refine (PairedRuns.lift form.build_paired).bind fun _ _ segment => ?_
      have hfirst := Composite.Similar.ofAddend (Addend.Similar.segment segment)
      exact .pure (hfirst.concat addend)
  | textAdd text x =>
      refine (x.eval_paired registers).bind fun _ _ addend => ?_
      have hfirst := Composite.Similar.ofAddend (Addend.Similar.text text)
      exact .pure (hfirst.extend addend)
  | copy source => exact registers.composites.fetch source

theorem Growth.Similar.eval_paired {growth growth' : Growth} (h : growth.Similar growth')
    (registers : r.Similar r') {c d : Composite} (similar : c.Similar d) :
    PairedRuns Composite.Similar (growth.eval r c) (growth'.eval r' d) := by
  cases h with
  | extend x => exact (x.eval_paired registers).map fun _ _ addend => similar.extend addend
  | extendAll xs =>
      exact (Operand.evalAll_paired xs registers).bind fun _ _ addends =>
        .pure (similar.extendAll addends)
  | push p => exact (p.eval_paired registers).map fun _ _ part => similar.push part
  | append text text' name hidden plain =>
      exact .lift (similar.append_paired text text' name hidden plain)

/-- One step of two similar constructions: the same events, similar answers, and registers that
are similar again. A step that fails leaves both sets of registers as they were. -/
theorem Step.Similar.run_paired {step step' : Step} (h : step.Similar step')
    (registers : r.Similar r') :
    Logged.Paired (fun a b => a.1.Similar b.1 ∧ a.2.Similar b.2) (step.run r) (step'.run r') := by
  have heval : PairedRuns (fun a b : Registers × Answer => a.1.Similar b.1 ∧ a.2.Similar b.2)
      (step.eval r) (step'.eval r') := by
    cases h with
    | build target how =>
        exact (how.eval_paired registers).bind fun _ _ similar =>
          .pure ⟨registers.setComposite target similar, .composite similar⟩
    | grow target growth =>
        refine (registers.composites.fetch target).bind fun _ _ similar => ?_
        exact (growth.eval_paired registers similar).bind fun _ _ grown =>
          .pure ⟨registers.setComposite target grown, .composite grown⟩
    | segment target form =>
        exact (PairedRuns.lift form.build_paired).bind fun _ _ similar =>
          .pure ⟨registers.setSegment target similar, .segment similar⟩
  rw [Step.run, Step.run]
  refine Logged.Paired.bind heval fun _ _ outcome => ?_
  cases outcome with
  | ok related => exact .pure related
  | error failure => exact .pure ⟨registers, .failed failure⟩

/-- Two similar constructions of any length answer in pairs, step by step. -/
theorem run_paired {steps steps' : List Step} (h : List.Forall₂ Step.Similar steps steps')
    (registers : r.Similar r') :
    List.Forall₂ (Logged.Paired Answer.Similar) (run r steps) (run r' steps') := by
  induction h generalizing r r' with
  | nil => exact .nil
  | cons first _ ih =>
      have hstep := first.run_paired registers
      exact .cons (hstep.map fun _ _ related => related.2) (ih hstep.value.1)

end Script

end Redaction
