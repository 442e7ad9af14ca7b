import Redaction.Proofs.Derivation.References
import Redaction.Proofs.FirstUse

/-!
# What templates use

A template uses the fields that its placeholders refer to, and asks for a segment wherever it refers
to a protected field in a mode. The references of an arm say the same as the pieces of its template.
So the arm lists the fields in use, and binds the segments that are asked for, each once and in the
order of first use.
-/

namespace Redaction

open Redaction.Derivation (Reference)

namespace Fields

variable (fields : Fields) (pieces : List Template.Piece)

/-- The piece at a position refers to the field at an index in a mode. -/
def RefersAt (position : Nat) (use : Nat × Template.Mode) : Prop :=
  ∃ key, pieces[position]? = some (.field key use.2) ∧ key.Refers fields.names use.1

/-- The piece at a position refers to the field at an index. -/
def UsedAt (position index : Nat) : Prop := ∃ mode, fields.RefersAt pieces position (index, mode)

/-- The field at an index is protected. -/
def ProtectedAt (index : Nat) : Prop :=
  ∃ name field, fields.entries[index]? = some (name, field) ∧ field.IsProtected

/-- The piece at a position asks for the segment of a protected field in a mode. -/
def AsksFor (position : Nat) (use : Nat × Template.Mode) : Prop :=
  fields.RefersAt pieces position use ∧ fields.ProtectedAt use.1

end Fields

namespace Derivation.Reference

/-- The segment that a reference asks for, by field and mode. -/
def use? : Reference → Option (Nat × Template.Mode)
  | .literal _ => none
  | .field index slot mode =>
    match slot.protection with
    | .plain => none
    | .secret .. => some (index, mode)

/-- The segments that references ask for, in the order of first use. -/
def uses (references : List Reference) : List (Nat × Template.Mode) :=
  (references.filterMap use?).eraseDups

/-- The binding of the segment for a field and a mode. -/
def bindingOf? (slots : List Slot) (use : Nat × Template.Mode) : Option Binding :=
  slots[use.1]?.bind fun slot => (Reference.field use.1 slot use.2).binding?

variable {fields : Fields} {pieces : List Template.Piece} {references : List Reference}

theorem use?_eq_some_iff {r : Reference} {use : Nat × Template.Mode} :
    r.use? = some use ↔ ∃ slot name nameHidden,
      r = .field use.1 slot use.2 ∧ slot.protection = .secret name nameHidden := by
  constructor
  · intro h
    cases r with
    | literal text => cases h
    | field index slot mode =>
        rw [use?] at h
        split at h
        · cases h
        next name nameHidden hprotection =>
          cases h
          exact ⟨slot, name, nameHidden, rfl, hprotection⟩
  · rintro ⟨slot, name, nameHidden, rfl, hprotection⟩
    rw [use?, hprotection]

theorem bindingOf?_eq_some_iff {slots : List Slot} {use : Nat × Template.Mode} {b : Binding} :
    bindingOf? slots use = some b ↔ ∃ slot name nameHidden, slots[use.1]? = some slot ∧
      slot.protection = .secret name nameHidden ∧
      b = ⟨identifier use.1 use.2, name.or slot.name, nameHidden, slot.binding, use.2⟩ := by
  rw [bindingOf?, Option.bind_eq_some_iff]
  constructor
  · rintro ⟨slot, hslot, hb⟩
    obtain ⟨_, _, _, name, nameHidden, heq, hprotection, rfl⟩ := binding?_eq_some_iff.1 hb
    cases heq
    exact ⟨slot, name, nameHidden, hslot, hprotection, rfl⟩
  · rintro ⟨slot, name, nameHidden, hslot, hprotection, rfl⟩
    exact ⟨slot, hslot, binding?_eq_some_iff.2 ⟨_, _, _, _, _, rfl, hprotection, rfl⟩⟩

/-- A segment is pushed where a reference asks for one, under its identifier. -/
theorem push_eq_segment_iff {r : Reference} {id : String} :
    r.push = .segment id ↔ ∃ use, r.use? = some use ∧ id = identifier use.1 use.2 := by
  cases r with
  | literal text => simp [push, use?]
  | field index slot mode =>
      cases hprotection : slot.protection with
      | plain => simp [push, use?, hprotection]
      | secret name nameHidden =>
          simp only [push, use?, hprotection, Push.segment.injEq, Option.some.injEq,
            exists_eq_left']
          exact eq_comm

/-- The reference at the position of a piece is about the field that the piece refers to. -/
theorem refersAt_iff (hof : List.Forall₂ (Of fields.slots) pieces references) {position : Nat}
    {use : Nat × Template.Mode} :
    fields.RefersAt pieces position use ↔ ∃ slot, fields.slots[use.1]? = some slot ∧
      references[position]? = some (.field use.1 slot use.2) := by
  constructor
  · rintro ⟨key, hpiece, refers⟩
    obtain ⟨r, hr, hof⟩ := getElem?_of_forall₂ hof hpiece
    cases hof with
    | @field _ _ index slot here refers' =>
        rw [Fields.map_name_slots] at refers'
        obtain rfl := refers.unique refers'
        exact ⟨slot, here, hr⟩
  · rintro ⟨slot, here, hr⟩
    obtain ⟨piece, hpiece, hof⟩ := getElem?_of_forall₂ hof.flip hr
    cases hof with
    | field _ refers =>
        rw [Fields.map_name_slots] at refers
        exact ⟨_, hpiece, refers⟩

theorem usedAt_iff (hof : List.Forall₂ (Of fields.slots) pieces references) {i index : Nat} :
    fields.UsedAt pieces i index ↔ ∃ r, references[i]? = some r ∧ r.index? = some index := by
  constructor
  · rintro ⟨mode, hrefers⟩
    obtain ⟨slot, -, hr⟩ := (refersAt_iff hof).1 hrefers
    exact ⟨_, hr, rfl⟩
  · rintro ⟨r, hr, hindex⟩
    obtain ⟨piece, hpiece, hof'⟩ := getElem?_of_forall₂ hof.flip hr
    cases hof' with
    | literal text => cases hindex
    | field here refers =>
        cases hindex
        exact ⟨_, (refersAt_iff hof).2 ⟨_, here, hr⟩⟩

/-- The fields in use stand in the order of first use. -/
theorem firstUses_used (hof : List.Forall₂ (Of fields.slots) pieces references) :
    FirstUses (fields.UsedAt pieces) (used references) :=
  (firstUses_eraseDups index? references).congr fun _ _ => (usedAt_iff hof).symm

/-- A slot is protected as its field is. -/
theorem protectedAt_iff {index : Nat} {slot : Slot} (here : fields.slots[index]? = some slot) :
    fields.ProtectedAt index ↔ ∃ name nameHidden, slot.protection = .secret name nameHidden := by
  obtain ⟨field, hentry, -, hprotection⟩ := Fields.getElem?_slots here
  rw [hprotection, Field.protection]
  constructor
  · rintro ⟨_, _, hentry', hfield⟩
    rw [hentry, Option.some.injEq, Prod.mk.injEq] at hentry'
    rw [hentry'.2, if_pos hfield]
    exact ⟨_, _, rfl⟩
  · rintro ⟨_, _, hsecret⟩
    split at hsecret
    next hfield => exact ⟨_, _, hentry, hfield⟩
    next => cases hsecret

theorem asksFor_iff (hof : List.Forall₂ (Of fields.slots) pieces references) {position : Nat}
    {use : Nat × Template.Mode} :
    fields.AsksFor pieces position use ↔
      ∃ r, references[position]? = some r ∧ r.use? = some use := by
  rw [Fields.AsksFor, refersAt_iff hof]
  constructor
  · rintro ⟨⟨slot, here, hr⟩, hprotected⟩
    obtain ⟨name, nameHidden, hsecret⟩ := (protectedAt_iff here).1 hprotected
    exact ⟨_, hr, use?_eq_some_iff.2 ⟨slot, name, nameHidden, rfl, hsecret⟩⟩
  · rintro ⟨r, hr, huse⟩
    obtain ⟨slot, name, nameHidden, rfl, hsecret⟩ := use?_eq_some_iff.1 huse
    obtain ⟨piece, -, hof⟩ := getElem?_of_forall₂ hof.flip hr
    cases hof with
    | field here _ => exact ⟨⟨slot, here, hr⟩, (protectedAt_iff here).2 ⟨name, nameHidden, hsecret⟩⟩

/-- The segments that references ask for are those that their pieces ask for. -/
theorem firstUses_uses (hof : List.Forall₂ (Of fields.slots) pieces references) :
    FirstUses (fields.AsksFor pieces) (uses references) :=
  (firstUses_eraseDups use? references).congr fun _ _ => (asksFor_iff hof).symm

/-- There is one binding for every segment, in the same order. -/
theorem bindings_eq_filterMap (hof : List.Forall₂ (Of fields.slots) pieces references) :
    bindings references = (uses references).filterMap (bindingOf? fields.slots) := by
  have injective : ∀ use other b, bindingOf? fields.slots use = some b →
      bindingOf? fields.slots other = some b → use = other := by
    intro use other b h h'
    obtain ⟨_, _, _, _, _, rfl⟩ := bindingOf?_eq_some_iff.1 h
    obtain ⟨_, _, _, _, _, heq⟩ := bindingOf?_eq_some_iff.1 h'
    rw [Binding.mk.injEq, identifier_inj] at heq
    exact Prod.ext heq.1.1 heq.1.2
  have hbinding : ∀ r ∈ references, r.binding? = r.use?.bind (bindingOf? fields.slots) := by
    intro r hr
    obtain ⟨i, hi⟩ := List.mem_iff_getElem?.1 hr
    obtain ⟨piece, -, hof⟩ := getElem?_of_forall₂ hof.flip hi
    cases hof with
    | literal text => rfl
    | @field key mode index slot here refers =>
        cases hprotection : slot.protection <;> simp [binding?, use?, bindingOf?, hprotection, here]
  refine (firstUses_eraseDups binding? references).unique
    (((firstUses_eraseDups use? references).filterMap injective).congr fun i b => ?_)
  constructor
  · rintro ⟨use, ⟨r, hr, huse⟩, hb⟩
    refine ⟨r, hr, ?_⟩
    rw [hbinding r (List.mem_of_getElem? hr), huse]
    exact hb
  · rintro ⟨r, hr, hb⟩
    rw [hbinding r (List.mem_of_getElem? hr), Option.bind_eq_some_iff] at hb
    obtain ⟨use, huse, hb⟩ := hb
    exact ⟨use, ⟨r, hr, huse⟩, hb⟩

theorem forall₂_bindings (hof : List.Forall₂ (Of fields.slots) pieces references) :
    List.Forall₂ (fun use b => bindingOf? fields.slots use = some b) (uses references)
      (bindings references) := by
  rw [bindings_eq_filterMap hof]
  refine forall₂_filterMap fun use huse => ?_
  obtain ⟨_, hasks⟩ := ((firstUses_uses hof).members use).1 huse
  obtain ⟨slot, here, -⟩ := (refersAt_iff hof).1 hasks.1
  obtain ⟨name, nameHidden, hsecret⟩ := (protectedAt_iff here).1 hasks.2
  exact Option.isSome_iff_exists.2
    ⟨_, bindingOf?_eq_some_iff.2 ⟨slot, name, nameHidden, here, hsecret, rfl⟩⟩

theorem map_identifier_bindings (hof : List.Forall₂ (Of fields.slots) pieces references) :
    (bindings references).map Binding.identifier =
      (uses references).map fun use => identifier use.1 use.2 := by
  rw [← List.forall₂_eq_eq_eq, List.forall₂_map_left_iff, List.forall₂_map_right_iff]
  refine (forall₂_bindings hof).flip.imp ?_
  intro b use hb
  obtain ⟨_, _, _, -, -, rfl⟩ := bindingOf?_eq_some_iff.1 hb
  rfl

theorem nodup_identifiers (hof : List.Forall₂ (Of fields.slots) pieces references) :
    ((bindings references).map Binding.identifier).Nodup := by
  rw [map_identifier_bindings hof]
  refine (firstUses_uses hof).nodup.map ?_
  intro use other h
  obtain ⟨hindex, hmode⟩ := identifier_inj.1 h
  exact Prod.ext hindex hmode

/-- The binding of every segment that is asked for stands where its use does. -/
theorem exists_binding (hof : List.Forall₂ (Of fields.slots) pieces references) {i : Nat}
    {use : Nat × Template.Mode} (asked : fields.AsksFor pieces i use) :
    ∃ (position : Nat) (b : Binding), (uses references)[position]? = some use ∧
      (bindings references)[position]? = some b ∧ bindingOf? fields.slots use = some b := by
  have hmem := ((firstUses_uses hof).members use).2 ⟨i, asked⟩
  obtain ⟨position, hposition⟩ := List.mem_iff_getElem?.1 hmem
  obtain ⟨b, hb, hbinding⟩ := getElem?_of_forall₂ (forall₂_bindings hof) hposition
  exact ⟨position, b, hposition, hb, hbinding⟩

theorem getElem?_pushes (path : String) (fields : Fields) {i : Nat} {r : Reference}
    (hr : references[i]? = some r) :
    (Arm.ofReferences path fields fields.slots references).pushes[i]? = some r.push := by
  rw [Arm.ofReferences, List.getElem?_map, hr, Option.map_some]

/-- Segments are pushed where the template asks for them, and nowhere else. -/
theorem segment_pushed_iff (path : String)
    (hof : List.Forall₂ (Of fields.slots) pieces references) {position : Nat} {id : String} :
    (Arm.ofReferences path fields fields.slots references).pushes[position]? =
        some (.segment id) ↔
      ∃ use, fields.AsksFor pieces position use ∧ id = identifier use.1 use.2 := by
  constructor
  · rw [Arm.ofReferences, List.getElem?_map, Option.map_eq_some_iff]
    rintro ⟨r, hr, hpush⟩
    obtain ⟨use, huse, hidentifier⟩ := push_eq_segment_iff.1 hpush
    exact ⟨use, (asksFor_iff hof).2 ⟨r, hr, huse⟩, hidentifier⟩
  · rintro ⟨use, hasks, hidentifier⟩
    obtain ⟨r, hr, huse⟩ := (asksFor_iff hof).1 hasks
    rw [getElem?_pushes path fields hr, push_eq_segment_iff.2 ⟨use, huse, hidentifier⟩]

end Derivation.Reference

end Redaction
