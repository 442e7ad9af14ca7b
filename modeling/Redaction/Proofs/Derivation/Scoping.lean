import Redaction.Proofs.Derivation.Accepted
import Redaction.Proofs.Derivation.Pattern

/-!
# What expressions of an arm read

The pattern of an arm and its body are written apart, and meet in one scope. The pattern binds
exactly the fields that the template refers to, each to its own name, the identifiers of the
segments are distinct, and all segments are bound before the first push. But the body introduces
names of its own, and a field with such a name is hidden from then on. Fields of a tuple are bound
to names that the body never introduces.
-/

namespace Redaction

open Redaction.Derivation (Entity Reference Slot Statement)

namespace Fields

variable (fields : Fields) (pieces : List Template.Piece)

/-- No field is called like a name of the body. -/
def Ordinary : Prop :=
  ∀ (index : Nat) (name : String), fields.names[index]? = some (some name) →
    name ≠ Statement.composite ∧ ∀ i mode, name ≠ Reference.identifier i mode

/-- Where a field is formatted in a mode, the body has introduced the name of the field for
something else: the composite or any segment if a plain field is pushed, and a segment that the
template asks for earlier if the value is that of a segment. -/
inductive Captured : Nat × Template.Mode → Prop where
  | byComposite {use : Nat × Template.Mode} (plain : ¬ fields.ProtectedAt use.1)
      (name : fields.names[use.1]? = some (some Statement.composite)) : Captured use
  | bySegment {use : Nat × Template.Mode} {index : Nat} {mode : Template.Mode}
      (plain : ¬ fields.ProtectedAt use.1)
      (name : fields.names[use.1]? = some (some (Reference.identifier index mode)))
      (asked : ∃ i, fields.AsksFor pieces i (index, mode)) : Captured use
  | byEarlier {use : Nat × Template.Mode} {index : Nat} {mode : Template.Mode}
      (secret : fields.ProtectedAt use.1)
      (name : fields.names[use.1]? = some (some (Reference.identifier index mode)))
      (earlier : ∃ i, fields.AsksFor pieces i (index, mode) ∧
        ∀ j ≤ i, ¬ fields.AsksFor pieces j use) :
      Captured use

/-- What the name of a field stands for where the field is formatted in a mode: the field, unless it
is captured, and then something that the body has introduced before the position. -/
inductive StandsFor (position : Nat) (use : Nat × Template.Mode) : Entity → Prop where
  | own (free : ¬ Captured fields pieces use) : StandsFor position use (.field use.1)
  | captured {e : Entity} (captured : Captured fields pieces use)
      (before : e.BoundBefore position) : StandsFor position use e

variable {fields pieces}

theorem StandsFor.eq_field_iff {position : Nat} {use : Nat × Template.Mode} {e : Entity}
    (h : fields.StandsFor pieces position use e) :
    e = .field use.1 ↔ ¬ fields.Captured pieces use := by
  cases h with
  | own free => exact iff_of_true rfl free
  | captured captured before =>
      refine iff_of_false ?_ (not_not_intro captured)
      rintro rfl
      exact before

/-- Only a field that is called like a name of the body is captured, so no field of a tuple is. -/
theorem Captured.exists_name {use : Nat × Template.Mode} (h : fields.Captured pieces use) :
    ∃ name, fields.names[use.1]? = some (some name) ∧
      (name = Statement.composite ∨ ∃ index mode, name = Reference.identifier index mode) := by
  cases h with
  | byComposite _ name => exact ⟨_, name, .inl rfl⟩
  | bySegment _ name => exact ⟨_, name, .inr ⟨_, _, rfl⟩⟩
  | byEarlier _ name => exact ⟨_, name, .inr ⟨_, _, rfl⟩⟩

/-- Fields are ordinary if their names do not begin with an underscore. -/
theorem Ordinary.of_heads
    (h : ∀ name ∈ fields.names.filterMap id, name.toList.head? ≠ some '_') : fields.Ordinary := by
  intro index name hname
  refine Statement.ne_of_head (h name ?_)
  exact List.mem_filterMap.2 ⟨_, List.mem_of_getElem? hname, rfl⟩

theorem Ordinary.not_captured (h : fields.Ordinary) (use : Nat × Template.Mode) :
    ¬ fields.Captured pieces use := by
  intro captured
  obtain ⟨name, hname, rfl | ⟨index, mode, rfl⟩⟩ := captured.exists_name
  · exact (h _ _ hname).1 rfl
  · exact (h _ _ hname).2 index mode rfl

end Fields

namespace Derivation

namespace Arm

/-- The push at an index adds this in a mode: itself, or by a segment that was bound before. -/
inductive Reads (arm : Arm) (labels : List String) (index : Nat) :
    Entity → Template.Mode → Prop where
  | direct {field : String} {mode : Template.Mode} {e : Entity}
      (push : arm.pushes[index]? = some (.field field mode))
      (reads : arm.resolve? labels (arm.pushAt index) field = some e) : Reads arm labels index e mode
  | shared {identifier : String} {position : Nat} {b : Binding} {e : Entity}
      (push : arm.pushes[index]? = some (.segment identifier))
      (clones : arm.resolve? labels (arm.pushAt index) identifier = some (.segment position))
      (binding : arm.bindings[position]? = some b)
      (reads : arm.resolve? labels position b.field = some e) : Reads arm labels index e b.mode

/-- The arm for fields and the pieces of their template is well scoped, except for fields that are
captured. -/
structure ScopedFor (arm : Arm) (fields : Fields) (pieces : List Template.Piece) : Prop where
  inRange : ∀ (i : Nat) key mode, pieces[i]? = some (.field key mode) →
    ∃ index < fields.entries.length, fields.RefersAt pieces i (index, mode)
  takes : arm.pattern.Takes (fields.UsedAt pieces) fields
  binds : ∀ name e, (arm.pattern.introduces fields.labels).lookup name = some e ↔
    ∃ i index, fields.UsedAt pieces i index ∧ fields.identifierAt index = some name ∧
      e = .field index
  distinct : (arm.bindings.map Binding.identifier).Nodup
  defined : ∀ i identifier, arm.pushes[i]? = some (.segment identifier) →
    ∃ position b, arm.resolve? fields.labels (arm.pushAt i) identifier = some (.segment position) ∧
      arm.bindings[position]? = some b ∧ b.identifier = identifier
  composite : ∀ i,
    arm.resolve? fields.labels (arm.pushAt i) Statement.composite = some .composite
  reads : ∀ i use, fields.RefersAt pieces i use →
    ∃ e, (∀ other mode, arm.Reads fields.labels i other mode ↔ other = e ∧ mode = use.2) ∧
      (e = .field use.1 ↔ ¬ fields.Captured pieces use)

section

variable {arm : Arm} {labels : List String} {i : Nat} {e : Entity}

theorem reads_field_iff {name : String} {mode : Template.Mode}
    (push : arm.pushes[i]? = some (.field name mode))
    (he : arm.resolve? labels (arm.pushAt i) name = some e) (other : Entity) (m : Template.Mode) :
    arm.Reads labels i other m ↔ other = e ∧ m = mode := by
  constructor
  · intro h
    cases h with
    | direct push' he' =>
        rw [push, Option.some.injEq, Push.field.injEq] at push'
        rw [← push'.1, he, Option.some.injEq] at he'
        exact ⟨he'.symm, push'.2.symm⟩
    | shared push' =>
        rw [push] at push'
        cases push'
  · rintro ⟨rfl, rfl⟩
    exact .direct push he

theorem reads_segment_iff {identifier : String} {position : Nat} {b : Binding}
    (push : arm.pushes[i]? = some (.segment identifier))
    (clones : arm.resolve? labels (arm.pushAt i) identifier = some (.segment position))
    (hb : arm.bindings[position]? = some b)
    (he : arm.resolve? labels position b.field = some e) (other : Entity) (m : Template.Mode) :
    arm.Reads labels i other m ↔ other = e ∧ m = b.mode := by
  constructor
  · intro h
    cases h with
    | direct push' =>
        rw [push] at push'
        cases push'
    | shared push' clones' hb' he' =>
        rw [push, Option.some.injEq, Push.segment.injEq] at push'
        rw [← push', clones, Option.some.injEq, Entity.segment.injEq] at clones'
        rw [← clones', hb, Option.some.injEq] at hb'
        rw [← hb', ← clones', he, Option.some.injEq] at he'
        exact ⟨he'.symm, congrArg _ hb'.symm⟩
  · rintro ⟨rfl, rfl⟩
    exact .shared push clones hb he

end

end Arm

namespace Reference

variable {fields : Fields} {pieces : List Template.Piece} {references : List Reference}
variable {path : String}

/-! ## Captured fields -/

/-- Only a field that has this name is bound to the name, if no position is called so. -/
theorem names_eq_iff {index : Nat} {slot : Slot} {name : String}
    (here : fields.slots[index]? = some slot) (generated : ∀ i, Slot.positional i ≠ name) :
    fields.names[index]? = some (some name) ↔ Slot.plainName slot.binding = name := by
  have hidentifier := Slot.identifierAt_eq here
  have hname : fields.names[index]? = some slot.name := by
    rw [← Fields.map_name_slots, List.getElem?_map, here, Option.map_some]
  rw [Fields.identifierAt, hname, Option.map_some, Option.some.injEq] at hidentifier
  rw [hname, ← hidentifier, Option.some.injEq]
  cases slot.name with
  | none => simpa using generated index
  | some name => simp

/-- A plain field is captured by the composite, or by a segment. -/
theorem captured_iff_of_plain (hof : List.Forall₂ (Of fields.slots) pieces references)
    {use : Nat × Template.Mode} {slot : Slot} (here : fields.slots[use.1]? = some slot)
    (plain : ¬ fields.ProtectedAt use.1) :
    fields.Captured pieces use ↔ Slot.plainName slot.binding = Statement.composite ∨
      Slot.plainName slot.binding ∈ (bindings references).map Binding.identifier := by
  have hother := fun i => Statement.ne_of_head (Slot.positional_head i)
  have hcomposite := names_eq_iff here fun i => (hother i).1
  have hsegment := fun index mode => names_eq_iff here fun i => (hother i).2 index mode
  rw [map_identifier_bindings hof, List.mem_map]
  constructor
  · intro h
    cases h with
    | byComposite _ name => exact .inl (hcomposite.1 name)
    | bySegment _ name asked =>
        exact .inr ⟨_, ((firstUses_uses hof).members _).2 asked, ((hsegment _ _).1 name).symm⟩
    | byEarlier secret => exact absurd secret plain
  · rintro (name | ⟨⟨index, mode⟩, asked, name⟩)
    · exact .byComposite plain (hcomposite.2 name)
    · exact .bySegment plain ((hsegment index mode).2 name.symm)
        (((firstUses_uses hof).members (index, mode)).1 asked)

/-- A protected field is captured by a segment that is bound before its own. -/
theorem captured_iff_of_secret (hof : List.Forall₂ (Of fields.slots) pieces references)
    {use : Nat × Template.Mode} {slot : Slot} {position : Nat}
    (here : fields.slots[use.1]? = some slot) (secret : fields.ProtectedAt use.1)
    (hposition : (uses references)[position]? = some use) :
    fields.Captured pieces use ↔ Slot.plainName slot.binding ∈
      ((bindings references).take position).map Binding.identifier := by
  have hsegment := fun index mode => names_eq_iff here fun i =>
    (Statement.ne_of_head (Slot.positional_head i)).2 index mode
  have huses := firstUses_uses hof
  rw [List.map_take, map_identifier_bindings hof, ← List.map_take, List.mem_map]
  constructor
  · intro h
    cases h with
    | byComposite plain => exact absurd secret plain
    | bySegment plain => exact absurd secret plain
    | @byEarlier index mode _ name earlier =>
        obtain ⟨i, asked, unasked⟩ := earlier
        obtain ⟨before, hbefore⟩ :=
          List.mem_iff_getElem?.1 ((huses.members (index, mode)).2 ⟨i, asked⟩)
        have hlt := (huses.lt_iff hbefore hposition).2 ⟨i, asked, unasked⟩
        refine ⟨(index, mode), List.mem_iff_getElem?.2 ⟨before, ?_⟩, ((hsegment _ _).1 name).symm⟩
        rw [List.getElem?_take_of_lt hlt, hbefore]
  · rintro ⟨⟨index, mode⟩, hother, name⟩
    obtain ⟨before, hbefore⟩ := List.mem_iff_getElem?.1 hother
    rw [List.getElem?_take, Option.ite_none_right_eq_some] at hbefore
    obtain ⟨hlt, hbefore⟩ := hbefore
    exact .byEarlier secret ((hsegment index mode).2 name.symm)
      ((huses.lt_iff hbefore hposition).1 hlt)

/-! ## Arms -/

/-- A field in use is introduced under its name. -/
theorem lookup_slot (path : String) (hof : List.Forall₂ (Of fields.slots) pieces references)
    {index : Nat} {slot : Slot} {mode : Template.Mode}
    (hr : .field index slot mode ∈ references) (here : fields.slots[index]? = some slot) :
    ((Arm.ofReferences path fields fields.slots references).pattern.introduces
      fields.labels).lookup (Slot.plainName slot.binding) = some (.field index) :=
  (lookup_introduces_iff hof).2 ⟨index, mem_used hr, Slot.identifierAt_eq here, rfl⟩

/-- A segment that a reference asks for is found where it is pushed. -/
theorem resolve?_identifier (path : String)
    (hof : List.Forall₂ (Of fields.slots) pieces references)
    {index : Nat} {mode : Template.Mode} {b : Binding} {position : Nat}
    (hb : (Arm.ofReferences path fields fields.slots references).bindings[position]? = some b)
    (hbinding : bindingOf? fields.slots (index, mode) = some b) (i : Nat) :
    (Arm.ofReferences path fields fields.slots references).resolve? fields.labels
        ((Arm.ofReferences path fields fields.slots references).pushAt i)
        (identifier index mode) = some (.segment position) := by
  have hidentifier : b.identifier = identifier index mode := by
    obtain ⟨_, _, _, -, -, rfl⟩ := bindingOf?_eq_some_iff.1 hbinding
    rfl
  rw [← hidentifier]
  refine Arm.resolve?_segment (nodup_identifiers hof) hb ?_ ?_
  · rw [hidentifier, plainName_identifier]
  · rw [hidentifier]
    exact (composite_ne_identifier index mode).symm

/-- Where a plain field is pushed, its name stands for the field unless the field is captured. -/
theorem resolve?_of_plain (path : String) (hof : List.Forall₂ (Of fields.slots) pieces references)
    {i index : Nat} {slot : Slot} {mode : Template.Mode}
    (hr : references[i]? = some (.field index slot mode))
    (here : fields.slots[index]? = some slot) (plain : ¬ fields.ProtectedAt index) :
    ∃ e, (Arm.ofReferences path fields fields.slots references).resolve? fields.labels
        ((Arm.ofReferences path fields fields.slots references).pushAt i) slot.binding = some e ∧
      fields.StandsFor pieces (bindings references).length (index, mode) e := by
  have captured : fields.Captured pieces (index, mode) ↔ _ := captured_iff_of_plain hof here plain
  obtain ⟨e, he, ⟨rfl, hname⟩ | ⟨before, hname⟩⟩ :=
    Arm.resolve?_pushed (lookup_slot path hof (List.mem_of_getElem? hr) here)
  · exact ⟨_, he, .own fun h => hname (captured.1 h)⟩
  · exact ⟨_, he, .captured (captured.2 hname) before⟩

/-- Where a segment is bound, the name of its field stands for the field unless the field is
captured. -/
theorem resolve?_of_secret (path : String) (hof : List.Forall₂ (Of fields.slots) pieces references)
    {position : Nat} {use : Nat × Template.Mode} {b : Binding}
    (huse : (uses references)[position]? = some use)
    (hb : (bindings references)[position]? = some b)
    (hbinding : bindingOf? fields.slots use = some b) :
    ∃ e, (Arm.ofReferences path fields fields.slots references).resolve? fields.labels position
        b.field = some e ∧ fields.StandsFor pieces position use e := by
  obtain ⟨i, hasks⟩ := ((firstUses_uses hof).members use).1 (List.mem_of_getElem? huse)
  obtain ⟨slot, here, hr⟩ := (refersAt_iff hof).1 hasks.1
  have hfield : b.field = slot.binding := by
    obtain ⟨slot', _, _, here', -, rfl⟩ := bindingOf?_eq_some_iff.1 hbinding
    obtain rfl : slot = slot' := Option.some.inj (here.symm.trans here')
    rfl
  have captured : fields.Captured pieces use ↔ _ := captured_iff_of_secret hof here hasks.2 huse
  rw [hfield]
  obtain ⟨e, he, ⟨rfl, hname⟩ | ⟨before, hname⟩⟩ :=
    Arm.resolve?_bound (Nat.le_of_lt (List.getElem?_eq_some_iff.1 hb).1)
      (lookup_slot path hof (List.mem_of_getElem? hr) here)
  · exact ⟨_, he, .own fun h => hname (captured.1 h)⟩
  · exact ⟨_, he, .captured (captured.2 hname) before⟩

/-- The value of a plain field is what its name stands for at the push. -/
theorem reads_of_plain (hof : List.Forall₂ (Of fields.slots) pieces references)
    {i index : Nat} {slot : Slot} {mode : Template.Mode}
    (hr : references[i]? = some (.field index slot mode))
    (here : fields.slots[index]? = some slot) (plain : slot.protection = .plain) :
    ∃ e, (∀ other m, (Arm.ofReferences path fields fields.slots references).Reads fields.labels i
        other m ↔ other = e ∧ m = mode) ∧
      (e = .field index ↔ ¬ fields.Captured pieces (index, mode)) := by
  have hpush := getElem?_pushes path fields hr
  rw [push, plain] at hpush
  have hplain : ¬ fields.ProtectedAt index := by
    rw [protectedAt_iff here, plain]
    rintro ⟨_, _, h⟩
    cases h
  obtain ⟨e, he, hstands⟩ := resolve?_of_plain path hof hr here hplain
  exact ⟨e, Arm.reads_field_iff hpush he, hstands.eq_field_iff⟩

/-- The value of a protected field is what its name stands for where its segment is bound. -/
theorem reads_of_secret (hof : List.Forall₂ (Of fields.slots) pieces references)
    {i index : Nat} {slot : Slot} {mode : Template.Mode} {name : Option String} {hidden : Bool}
    (hr : references[i]? = some (.field index slot mode))
    (secret : slot.protection = .secret name hidden) :
    ∃ e, (∀ other m, (Arm.ofReferences path fields fields.slots references).Reads fields.labels i
        other m ↔ other = e ∧ m = mode) ∧
      (e = .field index ↔ ¬ fields.Captured pieces (index, mode)) := by
  have hpush := getElem?_pushes path fields hr
  rw [push, secret] at hpush
  have hasks : fields.AsksFor pieces i (index, mode) :=
    (asksFor_iff hof).2 ⟨_, hr, use?_eq_some_iff.2 ⟨slot, name, hidden, rfl, secret⟩⟩
  obtain ⟨position, b, hposition, hb, hbinding⟩ := exists_binding hof hasks
  obtain ⟨e, he, hstands⟩ := resolve?_of_secret path hof hposition hb hbinding
  have hmode : b.mode = mode := by
    obtain ⟨_, _, _, -, -, rfl⟩ := bindingOf?_eq_some_iff.1 hbinding
    rfl
  refine ⟨e, ?_, hstands.eq_field_iff⟩
  rw [← hmode]
  exact Arm.reads_segment_iff hpush (resolve?_identifier path hof hb hbinding i) hb he

theorem scopedFor (hof : List.Forall₂ (Of fields.slots) pieces references) :
    (Arm.ofReferences path fields fields.slots references).ScopedFor fields pieces where
  inRange := by
    intro i key mode hpiece
    obtain ⟨r, hr, hof'⟩ := getElem?_of_forall₂ hof hpiece
    cases hof' with
    | @field _ _ index slot here refers =>
        refine ⟨index, ?_, (refersAt_iff hof).2 ⟨slot, here, hr⟩⟩
        rw [← fields.length_slots]
        exact (List.getElem?_eq_some_iff.1 here).1
  takes := takes hof
  binds := by
    intro name e
    rw [Arm.ofReferences, lookup_introduces_iff hof]
    constructor
    · rintro ⟨index, hused, hname, he⟩
      obtain ⟨i, hused⟩ := ((firstUses_used hof).members index).1 hused
      exact ⟨i, index, hused, hname, he⟩
    · rintro ⟨i, index, hused, hname, he⟩
      exact ⟨index, ((firstUses_used hof).members index).2 ⟨i, hused⟩, hname, he⟩
  distinct := nodup_identifiers hof
  defined := by
    intro i id hpush
    obtain ⟨⟨index, mode⟩, hasks, rfl⟩ := (segment_pushed_iff path hof).1 hpush
    obtain ⟨position, b, -, hb, hbinding⟩ := exists_binding hof hasks
    refine ⟨position, b, resolve?_identifier path hof hb hbinding i, hb, ?_⟩
    obtain ⟨_, _, _, -, -, rfl⟩ := bindingOf?_eq_some_iff.1 hbinding
    rfl
  composite := by
    intro i
    rw [Arm.resolve?, Statement.plainName_composite, Arm.namesAt_pushAt]
    exact List.lookup_cons_self
  reads := by
    rintro i ⟨index, mode⟩ hrefers
    obtain ⟨slot, here, hr⟩ := (refersAt_iff hof).1 hrefers
    cases hprotection : slot.protection with
    | plain => exact reads_of_plain hof hr here hprotection
    | secret name hidden => exact reads_of_secret hof hr hprotection

end Reference

/-- Every arm of an accepted declaration is well scoped: the template refers to fields that exist,
the pattern takes apart exactly these, each under its own name, segments have distinct identifiers,
and where one is pushed it has been bound. Every expression that formats a field reads one thing,
and this is its field unless the body has introduced the name of the field for something else. -/
theorem arms_read_fields_unless_captured {d : Declaration} {derivation : Derivation}
    (accepted : ofDeclaration d = .ok derivation) :
    List.Forall₂ (fun shape arm => ∃ pieces, Templated shape.1 pieces ∧ arm.ScopedFor shape.2 pieces)
      d.shapes derivation.arms := by
  simp only [ofDeclaration, bind_eq_ok, pure_eq_ok, mapError_eq_ok] at accepted
  obtain ⟨given, hgiven, branches, hbranches, rfl⟩ := accepted
  rw [List.forall₂_map_right_iff]
  refine (branches_eq_ok hgiven hbranches).imp ?_
  rintro shape b ⟨pieces, hbelongs⟩
  obtain ⟨path, harm⟩ := hbelongs.arm
  refine ⟨pieces, hbelongs.template, ?_⟩
  rw [harm]
  exact Reference.scopedFor hbelongs.references

/-- Fields of which the second is called like the segment of the first. -/
def visitFields : Fields :=
  .named
    [("user", { attributes := [⟨"protected", .bare⟩] }),
      ("__protected_0_debug", {})]

/-- A type whose template refers to both fields. -/
def visitType : Declaration where
  name := "Visit"
  attributes := [⟨"compose", .list [.text "\x7buser:?\x7d \x7b__protected_0_debug:?\x7d"]⟩]
  parameters := []
  body := .structure visitFields

/-- The user of a visit is read for the user, but what is read for the second field is not it. -/
theorem user_of_visit_read : ∃ derivation arm,
    ofDeclaration visitType = .ok derivation ∧ derivation.arms = [arm] ∧
    (∀ e mode, arm.Reads visitFields.labels 0 e mode ↔ e = .field 0 ∧ mode = .debug) ∧
    ∀ mode, ¬ arm.Reads visitFields.labels 2 (.field 1) mode := by
  have huser : Template.Key.Refers visitFields.names (.named "user") 0 := .named rfl (by decide)
  have hother : Template.Key.Refers visitFields.names (.named "__protected_0_debug") 1 :=
    .named rfl (by decide)
  have hprotected : visitFields.ProtectedAt 0 := ⟨_, _, rfl, by decide⟩
  have hplain : ¬ visitFields.ProtectedAt 1 := by
    rintro ⟨_, _, hfield, h⟩
    cases hfield
    exact absurd h (by decide)
  have hname : visitFields.names[1]? = some (some (Reference.identifier 0 .debug)) := by decide
  have hordinary : ∀ pieces, ¬ visitFields.Captured pieces (0, .debug) := by
    intro pieces h
    obtain ⟨name, hname, h⟩ := h.exists_name
    obtain rfl : "user" = name := Option.some.inj (Option.some.inj hname)
    obtain h | ⟨index, mode, h⟩ := h
    · exact absurd h (by decide)
    · exact (Statement.ne_of_head (by decide)).2 index mode h
  obtain ⟨derivation, accepted⟩ : ∃ derivation, ofDeclaration visitType = .ok derivation := ⟨_, rfl⟩
  obtain ⟨arm, _, ⟨pieces, ⟨_, ⟨_, hgiven, htemplate⟩, hpieces⟩, hscoped⟩, hrest, harms⟩ :=
    List.forall₂_cons_left_iff.1 (arms_read_fields_unless_captured accepted)
  rw [List.forall₂_nil_left_iff.1 hrest] at harms
  cases hgiven
  cases htemplate
  cases hpieces
  refine ⟨derivation, arm, accepted, harms, ?_, ?_⟩
  · obtain ⟨e, hreads, hfield⟩ := hscoped.reads 0 (0, .debug) ⟨_, rfl, huser⟩
    rw [hfield.2 (hordinary _)] at hreads
    exact hreads
  · obtain ⟨e, hreads, hfield⟩ := hscoped.reads 2 (1, .debug) ⟨_, rfl, hother⟩
    intro mode h
    refine hfield.1 ((hreads _ _).1 h).1.symm ?_
    exact .bySegment hplain hname ⟨0, ⟨_, rfl, huser⟩, hprotected⟩

/-- The template of a visit refers to the second field where its name stands for the segment of the
user, so this segment is shown in place of the field. -/
theorem segment_of_user_read_for_field : ∃ derivation arm pieces,
    ofDeclaration visitType = .ok derivation ∧ derivation.arms = [arm] ∧
    Templated visitType.attributes pieces ∧ visitFields.RefersAt pieces 2 (1, .debug) ∧
    arm.pushes[2]? = some (.field "__protected_0_debug" .debug) ∧
    arm.resolve? visitFields.labels (arm.pushAt 2) "__protected_0_debug" = some (.segment 0) ∧
    arm.Reads visitFields.labels 2 (.segment 0) .debug := by
  refine ⟨_, _, _, rfl, rfl, ⟨_, ⟨_, rfl, rfl⟩, rfl⟩, ⟨_, rfl, .named rfl ?_⟩, rfl, ?_,
    .direct rfl ?_⟩
  · decide
  · decide
  · decide

end Derivation

end Redaction
