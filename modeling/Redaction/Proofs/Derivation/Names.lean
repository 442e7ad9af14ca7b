import Redaction.Derivation.Body
import Redaction.Proofs.Derivation.References

/-!
# Names in scope

What the body of an arm has in scope at a position is a list: the composite once it is begun, the
segments that were bound before, the last one first, and the fields that the pattern binds. A name
of the pattern is found there only if no name of the body stands before it.
-/

namespace Redaction.Derivation

/-! ## Names of the body -/

theorem Slot.plainName_of_head {name : String} (h : name.toList.head? ≠ some 'r') :
    plainName name = name := by
  rw [plainName]
  split
  next heq => simp [heq] at h
  next => rfl

theorem Slot.plainName_positional (index : Nat) : plainName (positional index) = positional index :=
  plainName_of_head (by simp [positional])

theorem Statement.plainName_composite : Slot.plainName composite = composite := by decide

theorem Reference.plainName_identifier (index : Nat) (mode : Template.Mode) :
    Slot.plainName (identifier index mode) = identifier index mode :=
  Slot.plainName_of_head (by simp [identifier])

/-- What does not begin with an underscore is not a name of the body. -/
theorem Statement.ne_of_head {name : String} (h : name.toList.head? ≠ some '_') :
    name ≠ composite ∧ ∀ index mode, name ≠ Reference.identifier index mode := by
  constructor
  · rintro rfl
    exact h (by decide)
  · rintro index mode rfl
    exact h (by simp [Reference.identifier])

theorem Slot.positional_head (index : Nat) : (positional index).toList.head? ≠ some '_' := by
  simp [positional]

theorem Reference.composite_ne_identifier (index : Nat) (mode : Template.Mode) :
    Statement.composite ≠ identifier index mode := by
  intro h
  have hthird := congrArg (·.toList[2]?) h
  simp [Statement.composite, identifier] at hthird

/-! ## Scopes -/

/-- The names that bindings introduce, the last one first. -/
def segmentNames (bindings : List Binding) : Names :=
  (bindings.zipIdx.map fun (b, position) => (b.identifier, .segment position)).reverse

section

variable {names : Names} {position : Nat}

theorem namesAfter_append {first rest : List Statement} :
    namesAfter names position (first ++ rest) =
      namesAfter (namesAfter names position first) (position + first.length) rest := by
  induction first generalizing names position with
  | nil => rfl
  | cons s first ih =>
      rw [List.cons_append, namesAfter, namesAfter, ih, List.length_cons, Nat.add_right_comm,
        Nat.add_assoc]

theorem namesAfter_bindings {bindings : List Binding} :
    namesAfter names position (bindings.map .bind) =
      ((bindings.zipIdx position).map fun (b, at') => (b.identifier, .segment at')).reverse ++
        names := by
  induction bindings generalizing names position with
  | nil => rfl
  | cons b rest ih =>
      rw [List.map_cons, namesAfter, ih, List.zipIdx_cons, List.map_cons, List.reverse_cons,
        List.append_assoc]
      rfl

/-- Pushes introduce no names. -/
theorem namesAfter_pushes {pushes : List Push} :
    namesAfter names position (pushes.map .push) = names := by
  induction pushes generalizing position with
  | nil => rfl
  | cons p rest ih => exact ih

end

namespace Arm

variable {arm : Arm} {labels : List String}

/-- Where a segment is bound, the segments before it are in scope. -/
theorem namesAt_of_le {position : Nat} (h : position ≤ arm.bindings.length) :
    arm.namesAt labels position =
      segmentNames (arm.bindings.take position) ++ arm.pattern.introduces labels := by
  have htake : arm.body.take position = (arm.bindings.take position).map .bind := by
    rw [body, List.take_append_of_le_length (by simpa using h), List.map_take]
  rw [namesAt, htake, namesAfter_bindings]
  rfl

/-- Where a push is made, the composite and all segments are in scope. -/
theorem namesAt_pushAt {index : Nat} :
    arm.namesAt labels (arm.pushAt index) =
      (Statement.composite, .composite) ::
        (segmentNames arm.bindings ++ arm.pattern.introduces labels) := by
  have htake : arm.body.take (arm.pushAt index) =
      arm.bindings.map .bind ++ ([.start] ++ (arm.pushes.take index).map .push) := by
    have hlength : arm.pushAt index = (arm.bindings.map Statement.bind).length + (index + 1) := by
      rw [List.length_map, pushAt, Nat.add_assoc, Nat.add_comm 1]
    rw [body, hlength, List.take_length_add_append, List.take_succ_cons, List.map_take]
    rfl
  rw [namesAt, htake, namesAfter_append, namesAfter_append, namesAfter_pushes,
    namesAfter_bindings]
  rfl

end Arm

/-! ## Looking up -/

/-- A segment is found under its identifier, which only one binding has. -/
theorem lookup_segmentNames {bindings : List Binding} {position : Nat} {b : Binding}
    (distinct : (bindings.map Binding.identifier).Nodup) (hb : bindings[position]? = some b) :
    (segmentNames bindings).lookup b.identifier = some (.segment position) := by
  apply lookup_eq_some_of_mem
  · rw [segmentNames, List.mem_reverse, List.mem_map]
    exact ⟨(b, position), List.mk_mem_zipIdx_iff_getElem?.2 hb, rfl⟩
  · intro e he
    rw [segmentNames, List.mem_reverse, List.mem_map] at he
    obtain ⟨⟨c, i⟩, hc, heq⟩ := he
    rw [List.mk_mem_zipIdx_iff_getElem?] at hc
    rw [Prod.mk.injEq] at heq
    have hposition : i = position := by
      refine (List.getElem?_inj ?_ distinct).1 ?_
      · rw [List.length_map]
        exact (List.getElem?_eq_some_iff.1 hc).1
      · rw [List.getElem?_map, List.getElem?_map, hc, hb, Option.map_some, Option.map_some, heq.1]
    rw [← heq.2, hposition]

theorem lookup_segmentNames_eq_none_iff {bindings : List Binding} {name : String} :
    (segmentNames bindings).lookup name = none ↔ name ∉ bindings.map Binding.identifier := by
  rw [List.lookup_eq_none_iff, List.mem_map]
  constructor
  · rintro h ⟨b, hb, rfl⟩
    obtain ⟨i, hi⟩ := List.mem_iff_getElem?.1 hb
    have hmem : (b.identifier, Entity.segment i) ∈ segmentNames bindings := by
      rw [segmentNames, List.mem_reverse, List.mem_map]
      exact ⟨(b, i), List.mk_mem_zipIdx_iff_getElem?.2 hi, rfl⟩
    have hne := h _ hmem
    simp at hne
  · intro h entry hentry
    rw [segmentNames, List.mem_reverse, List.mem_map] at hentry
    obtain ⟨⟨b, i⟩, hb, rfl⟩ := hentry
    have hne : name ≠ b.identifier := by
      rintro rfl
      exact h ⟨b, List.fst_mem_of_mem_zipIdx hb, rfl⟩
    simpa using hne

/-- The body introduces the entity before a position: it is the composite, or a segment that is
bound before. -/
def Entity.BoundBefore (position : Nat) : Entity → Prop
  | .field _ => False
  | .segment at' => at' < position
  | .composite => True

/-- Whatever bindings introduce is the segment of one of them. -/
theorem boundBefore_of_lookup {bindings : List Binding} {name : String} {e : Entity}
    (h : (segmentNames bindings).lookup name = some e) : e.BoundBefore bindings.length := by
  obtain ⟨before, after, hnames, -⟩ := List.lookup_eq_some_iff.1 h
  have hmem : (name, e) ∈ segmentNames bindings := by simp [hnames]
  rw [segmentNames, List.mem_reverse, List.mem_map] at hmem
  obtain ⟨⟨b, position⟩, hb, heq⟩ := hmem
  obtain rfl : Entity.segment position = e := congrArg Prod.snd heq
  exact (List.getElem?_eq_some_iff.1 (List.mk_mem_zipIdx_iff_getElem?.1 hb)).1

/-- Under the name of a field the field is found, or a segment if a binding has the name. -/
theorem exists_lookup_append (bindings : List Binding) {names : Names} {name : String}
    {index : Nat} (h : names.lookup name = some (.field index)) :
    ∃ e, (segmentNames bindings ++ names).lookup name = some e ∧
      (e = .field index ∧ name ∉ bindings.map Binding.identifier ∨
        e.BoundBefore bindings.length ∧ name ∈ bindings.map Binding.identifier) := by
  rw [List.lookup_append]
  cases hsegment : (segmentNames bindings).lookup name with
  | none => exact ⟨_, h, .inl ⟨rfl, lookup_segmentNames_eq_none_iff.1 hsegment⟩⟩
  | some e =>
      refine ⟨e, rfl, .inr ⟨boundBefore_of_lookup hsegment, ?_⟩⟩
      by_contra hname
      rw [lookup_segmentNames_eq_none_iff.2 hname] at hsegment
      cases hsegment

namespace Arm

variable {arm : Arm} {labels : List String} {name : String} {index position i : Nat}

/-- A push finds a segment under its identifier. -/
theorem resolve?_segment {b : Binding} (distinct : (arm.bindings.map Binding.identifier).Nodup)
    (hb : arm.bindings[position]? = some b) (plain : Slot.plainName b.identifier = b.identifier)
    (hne : b.identifier ≠ Statement.composite) :
    arm.resolve? labels (arm.pushAt i) b.identifier = some (.segment position) := by
  have hbeq : (b.identifier == Statement.composite) = false := by simpa using hne
  rw [resolve?, plain, namesAt_pushAt, List.lookup_cons, hbeq, List.lookup_append,
    lookup_segmentNames distinct hb]
  rfl

/-- A push finds a field, unless the name of the field is that of the composite or of a segment;
then it finds one of these. -/
theorem resolve?_pushed
    (h : (arm.pattern.introduces labels).lookup (Slot.plainName name) = some (.field index)) :
    ∃ e, arm.resolve? labels (arm.pushAt i) name = some e ∧
      (e = .field index ∧ ¬ (Slot.plainName name = Statement.composite ∨
          Slot.plainName name ∈ arm.bindings.map Binding.identifier) ∨
        e.BoundBefore arm.bindings.length ∧ (Slot.plainName name = Statement.composite ∨
          Slot.plainName name ∈ arm.bindings.map Binding.identifier)) := by
  rw [resolve?, namesAt_pushAt, List.lookup_cons]
  by_cases hcomposite : Slot.plainName name = Statement.composite
  · refine ⟨.composite, by simp [hcomposite], .inr ⟨trivial, .inl hcomposite⟩⟩
  · have hbeq : (Slot.plainName name == Statement.composite) = false := by simpa using hcomposite
    obtain ⟨e, he, hcases⟩ := exists_lookup_append arm.bindings h
    rw [hbeq]
    refine ⟨e, he, hcases.imp ?_ ?_⟩
    · exact fun own => ⟨own.1, not_or.2 ⟨hcomposite, own.2⟩⟩
    · exact fun bound => ⟨bound.1, .inr bound.2⟩

/-- Where a segment is bound a field is found, unless the name of the field is that of a segment
before; then this segment is. -/
theorem resolve?_bound (hposition : position ≤ arm.bindings.length)
    (h : (arm.pattern.introduces labels).lookup (Slot.plainName name) = some (.field index)) :
    ∃ e, arm.resolve? labels position name = some e ∧
      (e = .field index ∧
          Slot.plainName name ∉ (arm.bindings.take position).map Binding.identifier ∨
        e.BoundBefore position ∧
          Slot.plainName name ∈ (arm.bindings.take position).map Binding.identifier) := by
  obtain ⟨e, he, hcases⟩ := exists_lookup_append (arm.bindings.take position) h
  rw [List.length_take_of_le hposition] at hcases
  rw [resolve?, namesAt_of_le hposition]
  exact ⟨e, he, hcases⟩

end Arm

end Redaction.Derivation
