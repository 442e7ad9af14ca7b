import Redaction.Derivation.Run
import Redaction.Proofs.Derivation.Names
import Redaction.Proofs.PairedRuns
import Redaction.Proofs.Success

/-!
# Runs of bodies, statement by statement

A run passes the statements of a body in order. Each is run where the identifiers in it stand for
what the names at its position say, and it does one of three things to the memory: a binding adds a
segment behind the others, the beginning empties the composite, and a push adds one part to it. So
a property that every statement keeps holds at every position, and a relation between two memories
that every statement keeps relates two runs at every position.

What an expression formats is a field, which always has a text, or something that the body has
introduced, which has a text in one of the modes only.
-/

namespace Redaction.Derivation

/-! ## Expressions -/

namespace Memory

variable {memory : Memory} {resolve? : String → Option Entity} {testing : Bool}
variable {identifier : String} {mode : Template.Mode} {e : Entity}

theorem find_eq_ok {content : Content} (resolves : resolve? identifier = some e)
    (holds : memory.content? e = some content) : memory.find resolve? identifier = .ok content := by
  rw [find, resolves, Option.bind_some, holds]

/-- A text is that of what the identifier stands for. -/
theorem content_of_format {text : String} (resolves : resolve? identifier = some e)
    (formats : memory.format resolve? testing identifier mode = .ok text) :
    ∃ content, memory.content? e = some content ∧ content.format? testing mode = some text := by
  rw [format, find, resolves, Option.bind_some] at formats
  cases hcontent : memory.content? e with
  | none =>
      rw [hcontent] at formats
      cases formats
  | some content =>
      rw [hcontent] at formats
      refine ⟨content, rfl, ?_⟩
      dsimp only [ok_bind] at formats
      split at formats
      next htext =>
        cases formats
        exact htext
      next => cases formats

/-- A field has a text in both modes. -/
theorem format_field {index : Nat} {v : Value}
    (resolves : resolve? identifier = some (.field index)) (value : memory.values[index]? = some v) :
    memory.format resolve? testing identifier mode = .ok (v.format mode) := by
  have holds : memory.content? (.field index) = some (.value v) := by rw [content?, value]; rfl
  rw [format, find_eq_ok resolves holds]
  rfl

/-- What the body has introduced is in the memory once it is bound, and is not a value. -/
theorem exists_content (before : e.BoundBefore memory.segments.length) :
    (∃ s, memory.content? e = some (.segment s)) ∨
      memory.content? e = some (.composite memory.composite) := by
  cases e with
  | field index => cases before
  | segment position =>
      exact .inl ⟨memory.segments[position], by rw [content?, List.getElem?_eq_getElem before]; rfl⟩
  | composite => exact .inr rfl

/-- What the body has introduced can be inspected. -/
theorem exists_format_debug (resolves : resolve? identifier = some e)
    (before : e.BoundBefore memory.segments.length) :
    ∃ text, memory.format resolve? testing identifier .debug = .ok text := by
  obtain ⟨s, holds⟩ | holds := exists_content before
  all_goals
    rw [format, find_eq_ok resolves holds]
    exact ⟨_, rfl⟩

/-- What the body has introduced cannot be displayed. -/
theorem format_display (resolves : resolve? identifier = some e)
    (before : e.BoundBefore memory.segments.length) :
    memory.format resolve? testing identifier .display = .error (.mistyped identifier) := by
  obtain ⟨s, holds⟩ | holds := exists_content before
  all_goals
    rw [format, find_eq_ok resolves holds]
    rfl

theorem part_field_iff {part : Part} :
    memory.part resolve? testing (.field identifier mode) = .ok part ↔
      ∃ text, memory.format resolve? testing identifier mode = .ok text ∧ .text text = part := by
  rw [Memory.part]
  cases memory.format resolve? testing identifier mode with
  | ok text => simp [Functor.map, Except.map]
  | error obstacle => simp [Functor.map, Except.map]

theorem part_segment {position : Nat} {s : Segment}
    (resolves : resolve? identifier = some (.segment position))
    (segment : memory.segments[position]? = some s) :
    memory.part resolve? testing (.segment identifier) = .ok (.segment s) := by
  have holds : memory.content? (.segment position) = some (.segment s) := by
    rw [content?, segment]
    rfl
  rw [part, find_eq_ok resolves holds]
  rfl

end Memory

/-! ## Statements -/

namespace Binding

/-- The segment that a binding makes of a text. -/
def segment (b : Binding) (text : String) : Segment := ⟨text, b.name.getD "", b.nameHidden⟩

/-- What building the segment logs. It depends on the name alone. -/
def events (b : Binding) : List Event :=
  (Segment.nameWarning? ⟨"", b.name.getD "", false⟩).toList.map Event.unlistableName

theorem build_eq (b : Binding) (text : String) : b.build text = ⟨b.segment text, b.events⟩ := by
  obtain ⟨identifier, name, nameHidden, field, mode⟩ := b
  cases name with
  | none =>
      refine Logged.ext ?_ rfl
      exact Segment.hideNameIf_mk text "" nameHidden
  | some name =>
      refine Logged.ext ?_ ?_
      · rw [build, Logged.value_bind, Segment.value_named]
        exact Segment.hideNameIf_mk text name nameHidden
      · rw [build, Logged.events_bind, Segment.events_named, Segment.value_named]
        exact List.append_nil _

end Binding

namespace Statement

variable {testing : Bool} {resolve? : String → Option Entity} {memory after : Memory}
variable {events : List Event}

/-- A binding adds the segment around the text of its expression. -/
theorem run_bind_iff {b : Binding} :
    Yields ((Statement.bind b).run testing resolve? memory) after events ↔
      ∃ text, memory.format resolve? testing b.field b.mode = .ok text ∧
        after = { memory with segments := memory.segments ++ [b.segment text] } ∧
        events = b.events := by
  have hbuild : ∀ text, Yields (b.build text : Run Segment) (b.segment text) b.events := by
    intro text
    rw [b.build_eq text]
    exact .lift _
  simp only [run, Yields.bind_iff, Yields.ofExcept_iff, Yields.pure_iff]
  constructor
  · rintro ⟨text, _, _, ⟨htext, rfl⟩, ⟨s, first, _, hs, ⟨rfl, rfl⟩, rfl⟩, rfl⟩
    obtain ⟨rfl, rfl⟩ := hs.unique (hbuild text)
    exact ⟨text, htext, rfl, by simp⟩
  · rintro ⟨text, htext, rfl, rfl⟩
    exact ⟨text, [], b.events, ⟨htext, rfl⟩, ⟨_, _, [], hbuild text, ⟨rfl, rfl⟩, by simp⟩, rfl⟩

/-- Where a composite begins it is empty. -/
theorem run_start_iff :
    Yields (start.run testing resolve? memory) after events ↔
      after = { memory with composite := .empty } ∧ events = [] :=
  Yields.pure_iff

/-- A push adds its part, and logs nothing. -/
theorem run_push_iff {p : Push} :
    Yields ((Statement.push p).run testing resolve? memory) after events ↔
      ∃ part, memory.part resolve? testing p = .ok part ∧
        after = { memory with composite := memory.composite.push part } ∧ events = [] := by
  simp only [run, Yields.bind_iff, Yields.ofExcept_iff, Yields.pure_iff]
  constructor
  · rintro ⟨part, _, _, ⟨hpart, rfl⟩, ⟨rfl, rfl⟩, rfl⟩
    exact ⟨part, hpart, rfl, rfl⟩
  · rintro ⟨part, hpart, rfl, rfl⟩
    exact ⟨part, [], [], ⟨hpart, rfl⟩, ⟨rfl, rfl⟩, rfl⟩

/-- No statement takes a segment away. -/
theorem segments_prefix {s : Statement}
    (h : Yields (s.run testing resolve? memory) after events) :
    memory.segments <+: after.segments := by
  cases s with
  | bind b =>
      obtain ⟨text, -, rfl, -⟩ := run_bind_iff.1 h
      exact List.prefix_append _ _
  | start =>
      obtain ⟨rfl, -⟩ := run_start_iff.1 h
      exact List.prefix_rfl
  | push p =>
      obtain ⟨part, -, rfl, -⟩ := run_push_iff.1 h
      exact List.prefix_rfl

end Statement

namespace Arm

variable {arm : Arm} {testing : Bool} {labels : List String} {values ws : List Value}
variable {position : Nat} {memory : Memory} {events : List Event}

/-- The statement at a position of a body: the bindings come first, then the beginning of the
composite, then the pushes. -/
inductive Has (arm : Arm) : Nat → Statement → Prop where
  | bind {position : Nat} {b : Binding} (here : arm.bindings[position]? = some b) :
      Has arm position (.bind b)
  | start : Has arm arm.bindings.length .start
  | push {index : Nat} {p : Push} (here : arm.pushes[index]? = some p) :
      Has arm (arm.pushAt index) (.push p)

theorem length_body : arm.body.length = arm.pushAt arm.pushes.length := by
  simp only [body, List.length_append, List.length_cons, List.length_map, pushAt]
  omega

theorem getElem?_body_iff {s : Statement} : arm.body[position]? = some s ↔ arm.Has position s := by
  constructor
  · intro h
    rw [body, List.getElem?_append, List.length_map] at h
    split at h
    next hlt =>
      rw [List.getElem?_map, Option.map_eq_some_iff] at h
      obtain ⟨b, hb, rfl⟩ := h
      exact .bind hb
    next hge =>
      obtain ⟨i, rfl⟩ := Nat.exists_eq_add_of_le (Nat.le_of_not_lt hge)
      rw [Nat.add_sub_cancel_left] at h
      cases i with
      | zero =>
          cases h
          exact .start
      | succ i =>
          rw [List.getElem?_cons_succ, List.getElem?_map, Option.map_eq_some_iff] at h
          obtain ⟨p, hp, rfl⟩ := h
          rw [← Nat.add_assoc, Nat.add_right_comm]
          exact .push hp
  · intro h
    cases h with
    | @bind _ b here =>
        have hlt := (List.getElem?_eq_some_iff.1 here).1
        rw [body, List.getElem?_append_left (by simpa using hlt), List.getElem?_map, here]
        rfl
    | start =>
        rw [body, List.getElem?_append_right (by simp), List.length_map, Nat.sub_self]
        rfl
    | @push index p here =>
        have hindex : arm.pushAt index - arm.bindings.length = index + 1 := by
          rw [pushAt]
          omega
        rw [body, List.getElem?_append_right (by rw [List.length_map, pushAt]; omega),
          List.length_map, hindex, List.getElem?_cons_succ, List.getElem?_map, here]
        rfl

/-- Once the composite has begun, no statement takes a part away. -/
theorem Has.parts_prefix {s : Statement} {resolve? : String → Option Entity} {after : Memory}
    (h : arm.Has position s) (begun : arm.bindings.length < position)
    (hrun : Yields (s.run testing resolve? memory) after events) :
    memory.composite.parts <+: after.composite.parts := by
  cases h with
  | bind here => exact absurd (List.getElem?_eq_some_iff.1 here).1 (Nat.lt_asymm begun)
  | start => exact absurd begun (Nat.lt_irrefl _)
  | push here =>
      obtain ⟨part, -, rfl, -⟩ := Statement.run_push_iff.1 hrun
      exact List.prefix_append _ _

/-! ## Runs -/

/-- A run to the next position is a run to the one before, and then the statement there. -/
theorem runTo_succ {s : Statement} (here : arm.Has position s) :
    arm.runTo testing labels values (position + 1) =
      arm.runTo testing labels values position >>= fun memory =>
        s.run testing (arm.resolve? labels position) memory := by
  have hzip : arm.body.zipIdx[position]? = some (s, position) := by
    rw [List.getElem?_zipIdx, getElem?_body_iff.2 here, Option.map_some, Nat.zero_add]
  rw [runTo, List.take_add_one, hzip, List.foldlM_append]
  refine bind_congr fun memory => ?_
  simp

theorem runTo_succ_iff {s : Statement} (here : arm.Has position s) {after : Memory} :
    Yields (arm.runTo testing labels values (position + 1)) after events ↔
      ∃ memory first more, Yields (arm.runTo testing labels values position) memory first ∧
        Yields (s.run testing (arm.resolve? labels position) memory) after more ∧
        events = first ++ more := by
  rw [runTo_succ here, Yields.bind_iff]

theorem exists_has (inside : position < arm.body.length) : ∃ s, arm.Has position s :=
  ⟨_, getElem?_body_iff.1 (List.getElem?_eq_getElem inside)⟩

/-- What holds before the first statement, and is kept by every one, holds wherever a run gets. -/
theorem runTo_invariant {holds : Nat → Memory → List Event → Prop} (start : holds 0 { values } [])
    (step : ∀ position s memory events after more, arm.Has position s →
      holds position memory events →
      Yields (s.run testing (arm.resolve? labels position) memory) after more →
      holds (position + 1) after (events ++ more))
    (inside : position ≤ arm.body.length)
    (h : Yields (arm.runTo testing labels values position) memory events) :
    holds position memory events := by
  induction position generalizing memory events with
  | zero =>
      obtain ⟨rfl, rfl⟩ := Yields.pure_iff.1 h
      exact start
  | succ position ih =>
      obtain ⟨s, hs⟩ := exists_has (Nat.lt_of_succ_le inside)
      obtain ⟨before, first, more, hbefore, hrun, rfl⟩ := (runTo_succ_iff hs).1 h
      exact step position s before first memory more hs (ih (Nat.le_of_succ_le inside) hbefore) hrun

/-- A run gets everywhere if no statement stops it where the invariant holds. -/
theorem exists_runTo (arm : Arm) (testing : Bool) (labels : List String) (values : List Value)
    {holds : Nat → Memory → List Event → Prop}
    (invariant : ∀ position memory events, position ≤ arm.body.length →
      Yields (arm.runTo testing labels values position) memory events →
      holds position memory events)
    (advance : ∀ position s memory events, arm.Has position s → holds position memory events →
      ∃ after more, Yields (s.run testing (arm.resolve? labels position) memory) after more)
    (inside : position ≤ arm.body.length) :
    ∃ memory events, Yields (arm.runTo testing labels values position) memory events := by
  induction position with
  | zero => exact ⟨_, _, .pure _⟩
  | succ position ih =>
      have hinside := Nat.le_of_succ_le inside
      obtain ⟨memory, events, hrun⟩ := ih hinside
      obtain ⟨s, hs⟩ := exists_has (Nat.lt_of_succ_le inside)
      obtain ⟨after, more, hstep⟩ :=
        advance position s memory events hs (invariant position memory events hinside hrun)
      exact ⟨after, events ++ more, (runTo_succ_iff hs).2 ⟨_, _, _, hrun, hstep, rfl⟩⟩

/-- A run that gets somewhere has been everywhere before, with segments of which none is lost, and
with parts of which none is lost once the composite has begun. -/
theorem exists_runTo_of_le {earlier : Nat} (le : earlier ≤ position)
    (inside : position ≤ arm.body.length)
    (h : Yields (arm.runTo testing labels values position) memory events) :
    ∃ before first, Yields (arm.runTo testing labels values earlier) before first ∧
      before.segments <+: memory.segments ∧
      (arm.bindings.length < earlier → before.composite.parts <+: memory.composite.parts) := by
  induction le generalizing memory events with
  | refl => exact ⟨memory, events, h, List.prefix_rfl, fun _ => List.prefix_rfl⟩
  | @step position le ih =>
      obtain ⟨s, hs⟩ := exists_has (Nat.lt_of_succ_le inside)
      obtain ⟨last, _, _, hlast, hrun, -⟩ := (runTo_succ_iff hs).1 h
      obtain ⟨before, first, hbefore, hsegments, hparts⟩ := ih (Nat.le_of_succ_le inside) hlast
      refine ⟨before, first, hbefore, hsegments.trans (Statement.segments_prefix hrun), ?_⟩
      intro begun
      exact (hparts begun).trans (hs.parts_prefix (Nat.lt_of_lt_of_le begun le) hrun)

/-- No statement changes the values of the fields. -/
theorem values_of_runTo (inside : position ≤ arm.body.length)
    (h : Yields (arm.runTo testing labels values position) memory events) :
    memory.values = values := by
  let kept (_ : Nat) (memory : Memory) (_ : List Event) : Prop := memory.values = values
  have start : kept 0 { values } [] := rfl
  refine runTo_invariant start ?_ inside h
  intro position s memory events after more hs hkept hrun
  cases hs with
  | bind here =>
      obtain ⟨text, -, rfl, -⟩ := Statement.run_bind_iff.1 hrun
      exact hkept
  | start =>
      obtain ⟨rfl, -⟩ := Statement.run_start_iff.1 hrun
      exact hkept
  | push here =>
      obtain ⟨part, -, rfl, -⟩ := Statement.run_push_iff.1 hrun
      exact hkept

/-- Every binding has added a segment, and every push a part. -/
theorem lengths_of_runTo (inside : position ≤ arm.body.length)
    (h : Yields (arm.runTo testing labels values position) memory events) :
    memory.segments.length = min position arm.bindings.length ∧
      memory.composite.parts.length = position - (arm.bindings.length + 1) := by
  let counted (position : Nat) (memory : Memory) (_ : List Event) : Prop :=
    memory.segments.length = min position arm.bindings.length ∧
      memory.composite.parts.length = position - (arm.bindings.length + 1)
  have start : counted 0 { values } [] := ⟨(Nat.zero_min _).symm, (Nat.zero_sub _).symm⟩
  refine runTo_invariant start ?_ inside h
  rintro position s memory events after more hs ⟨hsegments, hparts⟩ hrun
  cases hs with
  | bind here =>
      have hlt := (List.getElem?_eq_some_iff.1 here).1
      obtain ⟨text, -, rfl, -⟩ := Statement.run_bind_iff.1 hrun
      refine ⟨?_, ?_⟩
      · rw [List.length_append, hsegments, List.length_singleton]
        omega
      · rw [hparts]
        omega
  | start =>
      obtain ⟨rfl, -⟩ := Statement.run_start_iff.1 hrun
      refine ⟨?_, (Nat.sub_self _).symm⟩
      rw [hsegments]
      omega
  | @push index p here =>
      obtain ⟨part, -, rfl, -⟩ := Statement.run_push_iff.1 hrun
      have hindex : arm.pushAt index = arm.bindings.length + 1 + index := rfl
      refine ⟨?_, ?_⟩
      · rw [hsegments]
        omega
      · rw [Composite.parts_push, List.length_append, hparts, List.length_singleton]
        omega

theorem run_iff {c : Composite} :
    Yields (arm.run testing labels values) c events ↔
      ∃ memory, Yields (arm.runTo testing labels values arm.body.length) memory events ∧
        memory.composite = c :=
  Yields.map_iff

/-- The part at an index is what the push at this index makes of what is there before it. -/
theorem exists_part {c : Composite} {i : Nat} {p : Push} (here : arm.pushes[i]? = some p)
    (h : Yields (arm.run testing labels values) c events) :
    ∃ memory before part, Yields (arm.runTo testing labels values (arm.pushAt i)) memory before ∧
      memory.part (arm.resolve? labels (arm.pushAt i)) testing p = .ok part ∧
      c.parts[i]? = some part := by
  obtain ⟨last, hlast, rfl⟩ := run_iff.1 h
  have inside : arm.pushAt i < arm.body.length :=
    (List.getElem?_eq_some_iff.1 (getElem?_body_iff.2 (.push here))).1
  obtain ⟨after, _, hafter, -, hprefix⟩ := exists_runTo_of_le inside (Nat.le_refl _) hlast
  obtain ⟨memory, before, _, hbefore, hstep, -⟩ := (runTo_succ_iff (.push here)).1 hafter
  obtain ⟨part, hpart, rfl, -⟩ := Statement.run_push_iff.1 hstep
  refine ⟨memory, before, part, hbefore, hpart, ?_⟩
  have hlength : memory.composite.parts.length = i := by
    rw [(lengths_of_runTo (Nat.le_of_lt inside) hbefore).2, pushAt, Nat.add_sub_cancel_left]
  obtain ⟨others, hothers⟩ := hprefix (by rw [pushAt]; omega)
  rw [← hothers, Composite.parts_push, List.append_assoc, ← hlength,
    List.getElem?_append_right (Nat.le_refl _), Nat.sub_self]
  rfl

/-- Arms with the same body run alike if their patterns introduce the same names. -/
theorem run_congr {other : Arm} (bindings : arm.bindings = other.bindings)
    (pushes : arm.pushes = other.pushes)
    (introduces : arm.pattern.introduces labels = other.pattern.introduces labels) :
    arm.run testing labels values = other.run testing labels values := by
  have hbody : arm.body = other.body := by rw [body, body, bindings, pushes]
  have hresolve : ∀ position, arm.resolve? labels position = other.resolve? labels position := by
    intro position
    funext name
    rw [resolve?, resolve?, namesAt, namesAt, hbody, introduces]
  simp only [run, runTo, hbody, hresolve]

end Arm

end Redaction.Derivation
