import Redaction.Proofs.Derivation.Scoping
import Redaction.Proofs.Derivation.Statements

/-!
# Runs of arms

A run of an arm that comes from the fields and the pieces of a template builds the segments that
the pieces ask for, each once and in the order in which they first do, and logs their warnings
meanwhile. Then it adds one part for every piece, in order: the text of a literal or of a plain
field, or the segment that was built for a protected one. Nothing depends on the values but the
texts.

The text of a field is its own unless the field is captured. A captured field has no text of its
own, and only an inspected one has a text at all; so a run gets to the end exactly if no captured
field is displayed.
-/

namespace Redaction

open Redaction.Derivation (Arm Binding Entity Memory Reference Statement)

namespace Fields

variable (fields : Fields) (pieces : List Template.Piece)

/-- No field that is captured is displayed. -/
def Displayable : Prop :=
  ∀ i index, fields.RefersAt pieces i (index, .display) → ¬ fields.Captured pieces (index, .display)

/-- The segment for a field and a mode, when the fields have these values. The text is that of the
field unless the field is captured there, and then it is not displayed. -/
inductive SegmentOf (values : List Value) : Nat × Template.Mode → Segment → Prop where
  | intro {index : Nat} {name : Option String} {field : Field} {v : Value} {mode : Template.Mode}
      {text : String} (here : fields.entries[index]? = some (name, field))
      (value : values[index]? = some v)
      (own : ¬ fields.Captured pieces (index, mode) → text = v.format mode)
      (displayed : mode = .display → ¬ fields.Captured pieces (index, mode)) :
      SegmentOf values (index, mode) ⟨text, field.segmentName name, field.hidesName⟩

/-- The name of the segments of the field at an index. -/
def segmentNameAt (index : Nat) : String :=
  match fields.entries[index]? with
  | some (name, field) => field.segmentName name
  | none => ""

/-- One warning for each segment whose name is neither empty nor an identifier, in order. -/
def warnings (uses : List (Nat × Template.Mode)) : List Event :=
  ((uses.map fun use => fields.segmentNameAt use.1).filter fun name =>
    decide (name ≠ "" ∧ isIdentifier name = false)).map fun name => .unlistableName ⟨name⟩

/-- The part that a piece adds, when the fields have these values and these segments are built for
the uses. A piece that asks for a segment adds the one that is built for this use. The text of a
plain field is its own unless the field is captured, and then it is not displayed. -/
inductive Adds (uses : List (Nat × Template.Mode)) (values : List Value)
    (segments : List Segment) : Template.Piece → Part → Prop where
  | literal (text : String) : Adds uses values segments (.literal text) (.text text)
  | plain {key : Template.Key} {use : Nat × Template.Mode} {v : Value} {text : String}
      (refers : key.Refers fields.names use.1) (plain : ¬ fields.ProtectedAt use.1)
      (value : values[use.1]? = some v)
      (own : ¬ fields.Captured pieces use → text = v.format use.2)
      (displayed : use.2 = .display → ¬ fields.Captured pieces use) :
      Adds uses values segments (.field key use.2) (.text text)
  | shared {key : Template.Key} {use : Nat × Template.Mode} {position : Nat} {s : Segment}
      (refers : key.Refers fields.names use.1) (secret : fields.ProtectedAt use.1)
      (here : uses[position]? = some use) (segment : segments[position]? = some s) :
      Adds uses values segments (.field key use.2) (.segment s)

/-- What a run has built before a position of the body: the segments for the first uses, with the
warnings of these, and the parts of the first pieces once the composite has begun. -/
structure Built (uses : List (Nat × Template.Mode)) (values : List Value) (position : Nat)
    (memory : Memory) (events : List Event) : Prop where
  unchanged : memory.values = values
  segments : List.Forall₂ (fields.SegmentOf pieces values) (uses.take position) memory.segments
  events : events = fields.warnings (uses.take position)
  parts : List.Forall₂ (fields.Adds pieces uses values memory.segments)
    (pieces.take (position - (uses.length + 1))) memory.composite.parts

/-- The statement at a position of a body, by what the template has it for: it binds the segment of
the use there, or it begins the composite, or it pushes what the piece there stands for. -/
inductive Written (arm : Arm) (uses : List (Nat × Template.Mode)) : Nat → Statement → Prop where
  | bind {position : Nat} {use : Nat × Template.Mode} {b : Binding} {e : Entity}
      (here : uses[position]? = some use) (asked : ∃ i, fields.AsksFor pieces i use)
      (binding : Reference.bindingOf? fields.slots use = some b)
      (resolves : arm.resolve? fields.labels position b.field = some e)
      (stands : fields.StandsFor pieces position use e) : Written arm uses position (.bind b)
  | start : Written arm uses uses.length .start
  | literal {i : Nat} {text : String} (piece : pieces[i]? = some (.literal text)) :
      Written arm uses (uses.length + 1 + i) (.push (.text text))
  | plain {i : Nat} {key : Template.Key} {use : Nat × Template.Mode} {name : String} {e : Entity}
      (piece : pieces[i]? = some (.field key use.2)) (refers : key.Refers fields.names use.1)
      (plain : ¬ fields.ProtectedAt use.1)
      (resolves : arm.resolve? fields.labels (uses.length + 1 + i) name = some e)
      (stands : fields.StandsFor pieces uses.length use e) :
      Written arm uses (uses.length + 1 + i) (.push (.field name use.2))
  | shared {i position : Nat} {key : Template.Key} {use : Nat × Template.Mode}
      {identifier : String} (piece : pieces[i]? = some (.field key use.2))
      (refers : key.Refers fields.names use.1) (secret : fields.ProtectedAt use.1)
      (here : uses[position]? = some use)
      (resolves : arm.resolve? fields.labels (uses.length + 1 + i) identifier =
        some (.segment position)) :
      Written arm uses (uses.length + 1 + i) (.push (.segment identifier))

theorem warnings_append (uses others : List (Nat × Template.Mode)) :
    fields.warnings (uses ++ others) = fields.warnings uses ++ fields.warnings others := by
  rw [warnings, List.map_append, List.filter_append, List.map_append]
  rfl

variable {fields pieces}

/-- What is listed for every field is listed for the one that a key refers to. -/
theorem exists_of_refers {α : Type} {values : List α}
    (complete : values.length = fields.entries.length) {key : Template.Key} {index : Nat}
    (refers : key.Refers fields.names index) : ∃ v, values[index]? = some v := by
  have hindex : index < fields.names.length := by
    cases refers with
    | named here => exact (List.getElem?_eq_some_iff.1 here).1
    | index here => exact (List.getElem?_eq_some_iff.1 here).1
  have hlength : fields.names.length = values.length := by
    rw [complete, Fields.names, List.length_map]
  exact ⟨_, List.getElem?_eq_getElem (hlength ▸ hindex)⟩

/-- Where a protected field is referred to, the segment for it is added. -/
theorem Adds.exists_segment {uses : List (Nat × Template.Mode)} {values : List Value}
    {segments : List Segment} {key : Template.Key} {use : Nat × Template.Mode} {part : Part}
    (h : fields.Adds pieces uses values segments (.field key use.2) part)
    (refers : key.Refers fields.names use.1) (secret : fields.ProtectedAt use.1) :
    ∃ (position : Nat) (s : Segment), uses[position]? = some use ∧
      segments[position]? = some s ∧ part = .segment s := by
  obtain ⟨index, mode⟩ := use
  cases h with
  | plain refers' plain =>
      obtain rfl := refers'.unique refers
      exact absurd secret plain
  | shared refers' _ here segment =>
      obtain rfl := refers'.unique refers
      exact ⟨_, _, here, segment, rfl⟩

namespace StandsFor

variable {position : Nat} {use : Nat × Template.Mode} {e : Entity} {memory : Memory}
variable {resolve? : String → Option Entity} {testing : Bool} {identifier text : String} {v : Value}

/-- The name of a field is formatted to the text of the field, unless the field is captured. -/
theorem format_eq (h : fields.StandsFor pieces position use e)
    (resolves : resolve? identifier = some e) (value : memory.values[use.1]? = some v)
    (formats : memory.format resolve? testing identifier use.2 = .ok text)
    (free : ¬ fields.Captured pieces use) : text = v.format use.2 := by
  cases h with
  | own =>
      rw [Memory.format_field resolves value, Except.ok.injEq] at formats
      exact formats.symm
  | captured captured => exact absurd captured free

/-- The name of a field can be formatted unless the field is captured and is to be displayed. -/
theorem exists_format_iff (h : fields.StandsFor pieces position use e)
    (testing : Bool) (resolves : resolve? identifier = some e)
    (value : memory.values[use.1]? = some v) (bound : memory.segments.length = position) :
    (∃ text, memory.format resolve? testing identifier use.2 = .ok text) ↔
      (use.2 = .display → ¬ fields.Captured pieces use) := by
  cases h with
  | own free => exact iff_of_true ⟨_, Memory.format_field resolves value⟩ fun _ => free
  | captured captured before =>
      rw [← bound] at before
      cases hmode : use.2 with
      | debug =>
          refine iff_of_true (Memory.exists_format_debug resolves before) ?_
          rintro ⟨⟩
      | display =>
          rw [Memory.format_display resolves before]
          refine iff_of_false ?_ fun h => h rfl captured
          rintro ⟨_, ⟨⟩⟩

end StandsFor

namespace Built

variable {uses : List (Nat × Template.Mode)} {values : List Value} {position : Nat}
variable {memory : Memory} {events : List Event}

/-- Where segments are bound, one is built for each use so far. -/
theorem length_segments (h : fields.Built pieces uses values position memory events)
    (inside : position ≤ uses.length) : memory.segments.length = position := by
  rw [← h.segments.length_eq, List.length_take_of_le inside]

/-- Where the composite begins there is a segment for every use. -/
theorem segments_of_le (h : fields.Built pieces uses values position memory events)
    (behind : uses.length ≤ position) :
    List.Forall₂ (fields.SegmentOf pieces values) uses memory.segments := by
  have hsegments := h.segments
  rwa [List.take_of_length_le behind] at hsegments

theorem length_of_le (h : fields.Built pieces uses values position memory events)
    (behind : uses.length ≤ position) : memory.segments.length = uses.length :=
  (h.segments_of_le behind).length_eq.symm

theorem exists_segment (h : fields.Built pieces uses values position memory events)
    (behind : uses.length ≤ position) {bound : Nat} {use : Nat × Template.Mode}
    (here : uses[bound]? = some use) : ∃ s, memory.segments[bound]? = some s := by
  obtain ⟨s, hs, -⟩ := getElem?_of_forall₂ (h.segments_of_le behind) here
  exact ⟨s, hs⟩

/-- A segment is bound behind those of the uses before. Nothing is pushed yet, so no part refers to
the segments. -/
theorem bind {use : Nat × Template.Mode} {s : Segment} {more : List Event}
    (h : fields.Built pieces uses values position memory events)
    (here : uses[position]? = some use) (segment : fields.SegmentOf pieces values use s)
    (logged : more = fields.warnings [use]) :
    fields.Built pieces uses values (position + 1)
      { memory with segments := memory.segments ++ [s] } (events ++ more) := by
  have hlt := (List.getElem?_eq_some_iff.1 here).1
  have htake : uses.take (position + 1) = uses.take position ++ [use] := by
    rw [List.take_add_one, here]
    rfl
  have hbefore : ∀ n ≤ uses.length, n - (uses.length + 1) = 0 := fun n hn => by omega
  have hparts := h.parts
  rw [hbefore position (Nat.le_of_lt hlt), List.take_zero, List.forall₂_nil_left_iff] at hparts
  refine ⟨h.unchanged, ?_, ?_, ?_⟩
  · rw [htake]
    exact List.rel_append h.segments (.cons segment .nil)
  · rw [htake, warnings_append, h.events, logged]
  · rw [hbefore (position + 1) hlt, List.take_zero, hparts]
    exact .nil

/-- A part is pushed behind those of the pieces before. -/
theorem push {i : Nat} {piece : Template.Piece} {part : Part}
    (h : fields.Built pieces uses values (uses.length + 1 + i) memory events)
    (here : pieces[i]? = some piece)
    (adds : fields.Adds pieces uses values memory.segments piece part) :
    fields.Built pieces uses values (uses.length + 1 + i + 1)
      { memory with composite := memory.composite.push part } events := by
  have hindex : ∀ n, uses.length + 1 + n - (uses.length + 1) = n := Nat.add_sub_cancel_left _
  have hall : ∀ n, uses.take (uses.length + 1 + n) = uses :=
    fun n => List.take_of_length_le (by omega)
  have hsegments := h.segments
  have hevents := h.events
  have hparts := h.parts
  rw [hall] at hsegments hevents
  rw [hindex] at hparts
  refine ⟨h.unchanged, ?_, ?_, ?_⟩
  · rwa [Nat.add_assoc _ i, hall]
  · rwa [Nat.add_assoc _ i, hall]
  · rw [Nat.add_assoc _ i, hindex, List.take_add_one, here, Composite.parts_push]
    exact List.rel_append hparts (.cons adds .nil)

end Built

end Fields

namespace Derivation

namespace Reference

variable {fields : Fields} {pieces : List Template.Piece} {references : List Reference}
variable {use : Nat × Template.Mode} {b : Binding}

/-- A binding formats in the mode of its use. -/
theorem mode_eq (h : bindingOf? fields.slots use = some b) : b.mode = use.2 := by
  obtain ⟨_, _, _, -, -, rfl⟩ := bindingOf?_eq_some_iff.1 h
  rfl

/-- The segment of a field has the name that its attributes give, or else its own. -/
theorem segmentName_eq (h : bindingOf? fields.slots use = some b) :
    b.name.getD "" = fields.segmentNameAt use.1 := by
  obtain ⟨slot, name, nameHidden, here, hsecret, rfl⟩ := bindingOf?_eq_some_iff.1 h
  obtain ⟨field, hentry, -, hprotection⟩ := Fields.getElem?_slots here
  rw [hprotection, Field.protection] at hsecret
  split at hsecret
  · cases hsecret
    rw [Fields.segmentNameAt, hentry]
    rfl
  · cases hsecret

/-- The binding of a use logs the warning of its segment. -/
theorem events_eq (h : bindingOf? fields.slots use = some b) :
    b.events = fields.warnings [use] := by
  rw [Fields.warnings, List.map_singleton, List.filter_singleton, Binding.events, segmentName_eq h,
    Segment.nameWarning?]
  by_cases hname : fields.segmentNameAt use.1 = "" ∨ isIdentifier (fields.segmentNameAt use.1)
  · have hsilent : ¬ (fields.segmentNameAt use.1 ≠ "" ∧
        isIdentifier (fields.segmentNameAt use.1) = false) := by
      rintro ⟨hne, hno⟩
      rw [hno] at hname
      exact hname.elim hne Bool.false_ne_true
    rw [if_pos hname, decide_eq_false hsilent]
    rfl
  · have hwarned : fields.segmentNameAt use.1 ≠ "" ∧
        isIdentifier (fields.segmentNameAt use.1) = false := by
      simpa using hname
    rw [if_neg hname, decide_eq_true hwarned]
    rfl

/-- The segment that the binding of a use makes of a text. -/
theorem segmentOf {values : List Value} {v : Value} {text : String}
    (h : bindingOf? fields.slots use = some b) (value : values[use.1]? = some v)
    (own : ¬ fields.Captured pieces use → text = v.format use.2)
    (displayed : use.2 = .display → ¬ fields.Captured pieces use) :
    fields.SegmentOf pieces values use (b.segment text) := by
  obtain ⟨slot, name, nameHidden, here, hsecret, rfl⟩ := bindingOf?_eq_some_iff.1 h
  obtain ⟨field, hentry, -, hprotection⟩ := Fields.getElem?_slots here
  rw [hprotection, Field.protection] at hsecret
  split at hsecret
  · cases hsecret
    exact .intro hentry value own displayed
  · cases hsecret

/-- The statements of an arm are those that its template asks for. -/
theorem written (path : String) (hof : List.Forall₂ (Of fields.slots) pieces references)
    {position : Nat} {s : Statement}
    (h : (Arm.ofReferences path fields fields.slots references).Has position s) :
    fields.Written pieces (Arm.ofReferences path fields fields.slots references)
      (uses references) position s := by
  have hlength : (bindings references).length = (uses references).length :=
    (forall₂_bindings hof).length_eq.symm
  have hpushAt : ∀ i, (Arm.ofReferences path fields fields.slots references).pushAt i =
      (uses references).length + 1 + i := by
    intro i
    rw [← hlength]
    rfl
  cases h with
  | bind hb =>
      obtain ⟨use, huse, hbinding⟩ := getElem?_of_forall₂ (forall₂_bindings hof).flip hb
      have hasked := ((firstUses_uses hof).members use).1 (List.mem_of_getElem? huse)
      obtain ⟨e, resolves, stands⟩ := resolve?_of_secret path hof huse hb hbinding
      exact .bind huse hasked hbinding resolves stands
  | start =>
      have hstart : (Arm.ofReferences path fields fields.slots references).bindings.length =
          (uses references).length := hlength
      rw [hstart]
      exact .start
  | @push i p hp =>
      rw [Arm.ofReferences, List.getElem?_map, Option.map_eq_some_iff] at hp
      obtain ⟨r, hr, rfl⟩ := hp
      obtain ⟨piece, hpiece, hof'⟩ := getElem?_of_forall₂ hof.flip hr
      rw [hpushAt]
      cases hof' with
      | literal text => exact .literal hpiece
      | @field key mode index slot here refers =>
          rw [Fields.map_name_slots] at refers
          cases hprotection : slot.protection with
          | plain =>
              have hplain : ¬ fields.ProtectedAt index := by
                rw [protectedAt_iff here, hprotection]
                rintro ⟨_, _, ⟨⟩⟩
              obtain ⟨e, resolves, stands⟩ := resolve?_of_plain path hof hr here hplain
              rw [hpushAt] at resolves
              rw [hlength] at stands
              rw [Reference.push, hprotection]
              exact .plain hpiece refers hplain resolves stands
          | secret name hidden =>
              have hasks : fields.AsksFor pieces i (index, mode) :=
                (asksFor_iff hof).2
                  ⟨_, hr, use?_eq_some_iff.2 ⟨slot, name, hidden, rfl, hprotection⟩⟩
              obtain ⟨position, b, huse, hb, hbinding⟩ := exists_binding hof hasks
              have resolves := resolve?_identifier path hof hb hbinding i
              rw [hpushAt] at resolves
              rw [Reference.push, hprotection]
              exact .shared hpiece refers hasks.2 huse resolves

end Reference

end Derivation

/-! ## What a run has built -/

namespace Fields

variable {fields : Fields} {pieces : List Template.Piece} {arm : Arm}
variable {uses : List (Nat × Template.Mode)} {values : List Value} {position : Nat}
variable {testing : Bool} {memory after : Memory} {events more : List Event} {s : Statement}

theorem Displayable.not_captured (h : fields.Displayable pieces) {i : Nat}
    {use : Nat × Template.Mode} (refers : fields.RefersAt pieces i use) (mode : use.2 = .display) :
    ¬ fields.Captured pieces use := by
  obtain ⟨index, _⟩ := use
  obtain rfl := mode
  exact h i index refers

/-- Where no field is called like a name of the body, none is captured. -/
theorem Ordinary.displayable (h : fields.Ordinary) (pieces : List Template.Piece) :
    fields.Displayable pieces :=
  fun _ _ _ => h.not_captured _

/-- Every statement builds what it is written for. -/
theorem Built.step (complete : values.length = fields.entries.length)
    (h : fields.Built pieces uses values position memory events)
    (written : fields.Written pieces arm uses position s)
    (hrun : Yields (s.run testing (arm.resolve? fields.labels position) memory) after more) :
    fields.Built pieces uses values (position + 1) after (events ++ more) := by
  cases written with
  | @bind _ use b e here asked binding resolves stands =>
      obtain ⟨i, ⟨key, -, refers⟩, -⟩ := asked
      obtain ⟨v, value⟩ := exists_of_refers complete refers
      have hvalue : memory.values[use.1]? = some v := by rw [h.unchanged, value]
      have hlt := (List.getElem?_eq_some_iff.1 here).1
      obtain ⟨text, htext, rfl, rfl⟩ := Statement.run_bind_iff.1 hrun
      rw [Reference.mode_eq binding] at htext
      have own := stands.format_eq resolves hvalue htext
      have displayed := (stands.exists_format_iff testing resolves hvalue
        (h.length_segments (Nat.le_of_lt hlt))).1 ⟨text, htext⟩
      exact h.bind here (Reference.segmentOf binding value own displayed)
        (Reference.events_eq binding)
  | start =>
      obtain ⟨rfl, rfl⟩ := Statement.run_start_iff.1 hrun
      have hall : uses.take (uses.length + 1) = uses.take uses.length := by
        rw [List.take_length, List.take_of_length_le (Nat.le_succ _)]
      refine ⟨h.unchanged, ?_, ?_, ?_⟩
      · rw [hall]
        exact h.segments
      · rw [hall, List.append_nil, h.events]
      · rw [Nat.sub_self, List.take_zero]
        exact .nil
  | literal piece =>
      obtain ⟨part, hpart, rfl, rfl⟩ := Statement.run_push_iff.1 hrun
      rw [List.append_nil]
      obtain rfl : Part.text _ = part := Except.ok.inj hpart
      exact h.push piece (.literal _)
  | @plain i key use name e piece refers plain resolves stands =>
      obtain ⟨v, value⟩ := exists_of_refers complete refers
      have hvalue : memory.values[use.1]? = some v := by rw [h.unchanged, value]
      have hlength := h.length_of_le (by omega)
      obtain ⟨part, hpart, rfl, rfl⟩ := Statement.run_push_iff.1 hrun
      obtain ⟨text, htext, rfl⟩ := Memory.part_field_iff.1 hpart
      have own := stands.format_eq resolves hvalue htext
      have displayed := (stands.exists_format_iff testing resolves hvalue hlength).1 ⟨text, htext⟩
      rw [List.append_nil]
      exact h.push piece (.plain refers plain value own displayed)
  | @shared i position key use identifier piece refers secret here resolves =>
      obtain ⟨segment, hsegment⟩ := h.exists_segment (by omega) here
      obtain ⟨part, hpart, rfl, rfl⟩ := Statement.run_push_iff.1 hrun
      rw [Memory.part_segment resolves hsegment, Except.ok.injEq] at hpart
      subst hpart
      rw [List.append_nil]
      exact h.push piece (.shared refers secret here hsegment)

/-- No statement stops a run, unless it is to display a captured field. -/
theorem Built.advance (complete : values.length = fields.entries.length)
    (displayable : fields.Displayable pieces)
    (h : fields.Built pieces uses values position memory events)
    (written : fields.Written pieces arm uses position s) :
    ∃ after more,
      Yields (s.run testing (arm.resolve? fields.labels position) memory) after more := by
  cases written with
  | @bind _ use b e here asked binding resolves stands =>
      obtain ⟨i, refersAt, -⟩ := asked
      obtain ⟨v, value⟩ := exists_of_refers complete refersAt.choose_spec.2
      have hlt := (List.getElem?_eq_some_iff.1 here).1
      obtain ⟨text, htext⟩ := (stands.exists_format_iff testing resolves
        (h.unchanged ▸ value) (h.length_segments (Nat.le_of_lt hlt))).2
          (displayable.not_captured refersAt)
      rw [← Reference.mode_eq binding] at htext
      exact ⟨_, _, Statement.run_bind_iff.2 ⟨text, htext, rfl, rfl⟩⟩
  | start => exact ⟨_, _, Statement.run_start_iff.2 ⟨rfl, rfl⟩⟩
  | literal piece => exact ⟨_, _, Statement.run_push_iff.2 ⟨_, rfl, rfl, rfl⟩⟩
  | @plain i key use name e piece refers plain resolves stands =>
      obtain ⟨v, value⟩ := exists_of_refers complete refers
      obtain ⟨text, htext⟩ := (stands.exists_format_iff testing resolves
        (h.unchanged ▸ value) (h.length_of_le (by omega))).2
          (displayable.not_captured ⟨key, piece, refers⟩)
      exact ⟨_, _, Statement.run_push_iff.2
        ⟨_, Memory.part_field_iff.2 ⟨text, htext, rfl⟩, rfl, rfl⟩⟩
  | @shared i position key use identifier piece refers secret here resolves =>
      obtain ⟨segment, hsegment⟩ := h.exists_segment (by omega) here
      exact ⟨_, _, Statement.run_push_iff.2
        ⟨_, Memory.part_segment resolves hsegment, rfl, rfl⟩⟩

end Fields

namespace Derivation.Branch.BelongsTo

variable {b : Branch} {attributes : List Attribute} {fields : Fields}
variable {pieces : List Template.Piece} {values : List Value} {testing : Bool}

theorem written (h : b.BelongsTo attributes fields pieces) {position : Nat} {s : Statement}
    (hs : b.arm.Has position s) :
    fields.Written pieces b.arm (Reference.uses b.references) position s := by
  obtain ⟨path, harm⟩ := h.arm
  rw [harm] at hs ⊢
  exact Reference.written path h.references hs

theorem pushAt_eq (h : b.BelongsTo attributes fields pieces) (i : Nat) :
    b.arm.pushAt i = (Reference.uses b.references).length + 1 + i := by
  obtain ⟨path, harm⟩ := h.arm
  rw [harm, (Reference.forall₂_bindings h.references).length_eq]
  rfl

theorem length_body (h : b.BelongsTo attributes fields pieces) :
    b.arm.body.length = (Reference.uses b.references).length + 1 + pieces.length := by
  have hpushes : b.arm.pushes.length = pieces.length := by
    obtain ⟨path, harm⟩ := h.arm
    rw [harm, Arm.ofReferences, List.length_map, h.references.length_eq]
  rw [Arm.length_body, h.pushAt_eq, hpushes]

/-- Wherever a run gets, it has built what the statements before are written for. -/
theorem built (h : b.BelongsTo attributes fields pieces)
    (complete : values.length = fields.entries.length) {position : Nat} {memory : Memory}
    {events : List Event} (inside : position ≤ b.arm.body.length)
    (hrun : Yields (b.arm.runTo testing fields.labels values position) memory events) :
    fields.Built pieces (Reference.uses b.references) values position memory events := by
  refine Arm.runTo_invariant ⟨rfl, ?_, rfl, ?_⟩ ?_ inside hrun
  · exact .nil
  · rw [Nat.zero_sub]
    exact .nil
  · exact fun _ _ _ _ _ _ hs hbuilt hstep => hbuilt.step complete (h.written hs) hstep

/-- At the end there is a segment for every use and a part for every piece. -/
theorem run_built (h : b.BelongsTo attributes fields pieces)
    (complete : values.length = fields.entries.length) {c : Composite} {events : List Event}
    (hrun : Yields (b.arm.run testing fields.labels values) c events) :
    events = fields.warnings (Reference.uses b.references) ∧
      ∃ segments, Yields (b.arm.runTo testing fields.labels values b.arm.body.length)
          ⟨values, segments, c⟩ events ∧
        List.Forall₂ (fields.SegmentOf pieces values) (Reference.uses b.references) segments ∧
        List.Forall₂ (fields.Adds pieces (Reference.uses b.references) values segments) pieces
          c.parts := by
  obtain ⟨memory, hmemory, rfl⟩ := Arm.run_iff.1 hrun
  have hbuilt := h.built complete (Nat.le_refl _) hmemory
  obtain rfl : memory.values = values := hbuilt.unchanged
  have hevents := hbuilt.events
  have hparts := hbuilt.parts
  rw [h.length_body, List.take_of_length_le (by omega)] at hevents
  rw [h.length_body, Nat.add_sub_cancel_left, List.take_length] at hparts
  have hbehind : (Reference.uses b.references).length ≤ b.arm.body.length := by
    rw [h.length_body]
    omega
  exact ⟨hevents, memory.segments, hmemory, hbuilt.segments_of_le hbehind, hparts⟩

/-- A run gets to the end if and only if no captured field is displayed. -/
theorem yields_iff (h : b.BelongsTo attributes fields pieces) (testing : Bool)
    (complete : values.length = fields.entries.length) :
    (∃ c events, Yields (b.arm.run testing fields.labels values) c events) ↔
      fields.Displayable pieces := by
  constructor
  · rintro ⟨c, events, hrun⟩ i index ⟨key, hpiece, refers⟩
    obtain ⟨-, segments, -, hsegments, hparts⟩ := h.run_built complete hrun
    obtain ⟨part, -, hadds⟩ := getElem?_of_forall₂ hparts hpiece
    generalize hmode : Template.Mode.display = mode at hpiece hadds
    cases hadds with
    | @plain _ use _ _ refers' _ _ _ displayed =>
        obtain rfl := refers'.unique refers
        exact displayed hmode.symm
    | @shared _ use _ _ refers' _ here =>
        obtain rfl := refers'.unique refers
        obtain ⟨s, -, hsegment⟩ := getElem?_of_forall₂ hsegments here
        cases hsegment with
        | intro _ _ _ displayed => exact displayed hmode.symm
  · intro displayable
    obtain ⟨memory, events, hrun⟩ := Arm.exists_runTo b.arm testing fields.labels values
      (fun _ _ _ => h.built complete)
      (fun _ _ _ _ hs hbuilt => hbuilt.advance complete displayable (h.written hs)) (Nat.le_refl _)
    exact ⟨_, _, Arm.run_iff.2 ⟨memory, hrun, rfl⟩⟩

/-- Whether a run gets to the end is decided by the attributes and the fields. -/
theorem exists_yields_iff (h : b.BelongsTo attributes fields pieces) (testing : Bool)
    (complete : values.length = fields.entries.length) :
    (∃ c events, Yields (b.arm.run testing fields.labels values) c events) ↔
      ∃ pieces, Templated attributes pieces ∧ fields.Displayable pieces := by
  rw [h.yields_iff testing complete]
  constructor
  · exact fun displayable => ⟨pieces, h.template, displayable⟩
  · rintro ⟨others, templated, displayable⟩
    obtain rfl := templated.unique h.template
    exact displayable

end Derivation.Branch.BelongsTo

end Redaction
