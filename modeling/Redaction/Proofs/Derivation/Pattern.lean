import Redaction.Proofs.Derivation.Names
import Redaction.Proofs.Derivation.Uses

/-!
# What patterns bind

The pattern of an arm takes apart the fields in use and no others. Every one is bound to its own
name, or to the name of its position in a tuple, and found under it: a template refers to the first
field of a name only, so no two fields in use share one.
-/

namespace Redaction

open Redaction.Derivation (Slot)

namespace Fields

variable (fields : Fields)

/-- The identifier that the field at an index is bound to, which for a raw name is the plain one. -/
def identifierAt (index : Nat) : Option String :=
  fields.names[index]?.map fun name => name.getD (Slot.positional index)

variable {fields}

/-- A field of a tuple is bound to the name of its position. -/
theorem identifierAt_tuple {entries : List Field} {index : Nat} {field : Field}
    (here : entries[index]? = some field) :
    (Fields.tuple entries).identifierAt index = some (Slot.positional index) := by
  rw [identifierAt, names, Fields.entries, List.map_map, List.getElem?_map, here]
  rfl

/-- Where one field has no name, none has. -/
theorem names_ne_of_unnamed {i j : Nat} {name : String} (h : fields.names[i]? = some none) :
    fields.names[j]? ≠ some (some name) := by
  intro h'
  cases fields with
  | unit => cases h
  | named fields =>
      rw [names, entries, List.map_map, List.getElem?_map, Option.map_eq_some_iff] at h
      obtain ⟨_, _, h⟩ := h
      cases h
  | tuple fields =>
      rw [names, entries, List.map_map, List.getElem?_map, Option.map_eq_some_iff] at h'
      obtain ⟨_, _, h'⟩ := h'
      cases h'

end Fields

namespace Derivation

/-- The pattern for fields of which some are in use: it lists the named ones by their labels, in
the order of first use, and has a slot for each field of a tuple, in their order, which is empty
unless the field is in use. -/
inductive Pattern.Takes (usedAt : Nat → Nat → Prop) : Fields → Pattern → Prop where
  | named {fields : List (String × Field)} {path : String} {indices : List Nat}
      {labels : List String} (uses : FirstUses usedAt indices)
      (own : List.Forall₂ (fun index label => ∃ field, fields[index]? = some (label, field))
        indices labels) :
      Takes usedAt (.named fields) (.named path labels)
  | tuple {fields : List Field} {path : String} {slots : List (Option String)}
      (length : slots.length = fields.length)
      (used : ∀ i index, usedAt i index → slots[index]? = some (some (Slot.positional index)))
      (unused : ∀ index < fields.length, (∀ i, ¬ usedAt i index) → slots[index]? = some none) :
      Takes usedAt (.tuple fields) (.tuple path slots)
  | unit {path : String} (unused : ∀ i index, ¬ usedAt i index) : Takes usedAt .unit (.unit path)

/-- A field is bound to the plain form of its name, or to the name of its position. -/
theorem Slot.identifierAt_eq {fields : Fields} {index : Nat} {slot : Slot}
    (here : fields.slots[index]? = some slot) :
    fields.identifierAt index = some (plainName slot.binding) := by
  cases fields with
  | unit => cases here
  | named fields =>
      simp only [Fields.slots, List.getElem?_map, Option.map_eq_some_iff] at here
      obtain ⟨⟨label, field⟩, hfield, rfl⟩ := here
      simp [Fields.identifierAt, Fields.names, Fields.entries, hfield]
  | tuple fields =>
      simp only [Fields.slots, List.getElem?_mapIdx, Option.map_eq_some_iff] at here
      obtain ⟨field, hfield, rfl⟩ := here
      rw [Fields.identifierAt_tuple hfield, plainName_positional]

/-- The slot of a pattern for a field of a tuple. -/
theorem Pattern.getElem?_slots {fields : List Field} {used : List Nat} {index : Nat} :
    ((Fields.tuple fields).slots.zipIdx.map fun (slot, i) =>
        if i ∈ used then some slot.binding else none)[index]? =
      fields[index]?.map fun _ => if index ∈ used then some (Slot.positional index) else none := by
  rw [List.getElem?_map, List.getElem?_zipIdx, Fields.slots, List.getElem?_mapIdx, Option.map_map,
    Option.map_map]
  simp only [Nat.zero_add]
  rfl

namespace Reference

variable {fields : Fields} {pieces : List Template.Piece} {references : List Reference}
variable {path : String}

/-- A field in use has a slot, and a key refers to it. -/
theorem exists_slot_of_used (hof : List.Forall₂ (Of fields.slots) pieces references)
    {index : Nat} (h : index ∈ used references) :
    ∃ slot key, fields.slots[index]? = some slot ∧
      Template.Key.Refers (fields.slots.map Slot.name) key index := by
  obtain ⟨i, mode, hrefers⟩ := ((firstUses_used hof).members index).1 h
  obtain ⟨slot, here, hr⟩ := (refersAt_iff hof).1 hrefers
  obtain ⟨_, hof⟩ := exists_piece hof (List.mem_of_getElem? hr)
  cases hof with
  | field _ refers => exact ⟨slot, _, here, refers⟩

/-- No two fields in use are bound to one identifier. -/
theorem eq_of_identifierAt_eq (hof : List.Forall₂ (Of fields.slots) pieces references)
    {i j : Nat} (hi : i ∈ used references) (hj : j ∈ used references)
    (h : fields.identifierAt i = fields.identifierAt j) : i = j := by
  obtain ⟨_, _, -, refersI⟩ := exists_slot_of_used hof hi
  obtain ⟨_, _, -, refersJ⟩ := exists_slot_of_used hof hj
  rw [Fields.map_name_slots] at refersI refersJ
  cases refersI with
  | named hereI firstI =>
      cases refersJ with
      | named hereJ firstJ =>
          simp only [Fields.identifierAt, hereI, hereJ, Option.map_some, Option.getD_some,
            Option.some.injEq] at h
          subst h
          exact Template.Key.Refers.unique (.named hereI firstI) (.named hereJ firstJ)
      | index hereJ => exact absurd hereI (Fields.names_ne_of_unnamed hereJ)
  | index hereI =>
      cases refersJ with
      | named hereJ firstJ => exact absurd hereJ (Fields.names_ne_of_unnamed hereI)
      | index hereJ =>
          simp only [Fields.identifierAt, hereI, hereJ, Option.map_some, Option.getD_none,
            Option.some.injEq] at h
          exact Slot.positional_injective h

/-- The pattern introduces the fields in use under their identifiers. -/
theorem mem_introduces_iff (hof : List.Forall₂ (Of fields.slots) pieces references)
    {name : String} {e : Entity} :
    (name, e) ∈ (Pattern.ofFields path fields.slots (used references) fields).introduces
        fields.labels ↔
      ∃ index ∈ used references, fields.identifierAt index = some name ∧ e = .field index := by
  cases fields with
  | unit =>
      constructor
      · intro h
        cases h
      · rintro ⟨index, hused, -, -⟩
        obtain ⟨_, _, here, -⟩ := exists_slot_of_used hof hused
        cases here
  | named fields =>
      have hlookup : ∀ index ∈ used references, ∀ slot,
          (Fields.named fields).slots[index]? = some slot →
          (Fields.named fields).labels.zipIdx.lookup slot.binding = some index := by
        intro index hused slot here
        obtain ⟨slot', key, here', refers⟩ := exists_slot_of_used hof hused
        have hindex : index < (Fields.named fields).labels.length := by
          have hlength := (List.getElem?_eq_some_iff.1 here).1
          simpa [Fields.labels, Fields.slots] using hlength
        rw [List.zipIdx_eq_zip_range']
        exact Slot.lookup_labels refers here (by simp [hindex])
      simp only [Pattern.ofFields, Pattern.introduces, List.mem_filterMap, Option.map_eq_some_iff,
        Prod.mk.injEq]
      constructor
      · rintro ⟨_, ⟨index, hused, slot, here, rfl⟩, index', hindex', rfl, rfl⟩
        rw [hlookup index hused slot here, Option.some.injEq] at hindex'
        exact ⟨index, hused, Slot.identifierAt_eq here, congrArg _ hindex'.symm⟩
      · rintro ⟨index, hused, hname, rfl⟩
        obtain ⟨slot, _, here, -⟩ := exists_slot_of_used hof hused
        rw [Slot.identifierAt_eq here, Option.some.injEq] at hname
        exact ⟨_, ⟨index, hused, slot, here, rfl⟩, index, hlookup index hused slot here, hname, rfl⟩
  | tuple fields =>
      simp only [Pattern.ofFields, Pattern.introduces, List.mem_filterMap, Prod.exists,
        List.mk_mem_zipIdx_iff_getElem?, Pattern.getElem?_slots, Option.map_eq_some_iff,
        Prod.mk.injEq]
      constructor
      · rintro ⟨_, index, ⟨field, hfield, hslot⟩, _, rfl, rfl, rfl⟩
        split at hslot
        next hused =>
          rw [Option.some.injEq] at hslot
          refine ⟨index, hused, ?_, rfl⟩
          rw [Fields.identifierAt_tuple hfield, hslot]
        next => cases hslot
      · rintro ⟨index, hused, hname, rfl⟩
        obtain ⟨_, _, here, -⟩ := exists_slot_of_used hof hused
        rw [Fields.slots, List.getElem?_mapIdx, Option.map_eq_some_iff] at here
        obtain ⟨field, hfield, -⟩ := here
        rw [Fields.identifierAt_tuple hfield, Option.some.injEq] at hname
        exact ⟨_, index, ⟨field, hfield, if_pos hused⟩, _, rfl, hname, rfl⟩

/-- Every field in use is found under its identifier, and nothing else is found. -/
theorem lookup_introduces_iff (hof : List.Forall₂ (Of fields.slots) pieces references)
    {name : String} {e : Entity} :
    ((Pattern.ofFields path fields.slots (used references) fields).introduces
        fields.labels).lookup name = some e ↔
      ∃ index ∈ used references, fields.identifierAt index = some name ∧ e = .field index := by
  rw [← mem_introduces_iff hof]
  constructor
  · intro h
    obtain ⟨before, after, hnames, -⟩ := List.lookup_eq_some_iff.1 h
    rw [hnames]
    simp
  · intro h
    refine lookup_eq_some_of_mem h ?_
    intro other hother
    obtain ⟨i, hi, hname, rfl⟩ := (mem_introduces_iff hof).1 h
    obtain ⟨j, hj, hname', rfl⟩ := (mem_introduces_iff hof).1 hother
    rw [eq_of_identifierAt_eq hof hj hi (hname'.trans hname.symm)]

/-- The pattern takes apart what the template refers to. -/
theorem takes (hof : List.Forall₂ (Of fields.slots) pieces references) :
    (Pattern.ofFields path fields.slots (used references) fields).Takes (fields.UsedAt pieces)
      fields := by
  have huses := firstUses_used hof
  cases fields with
  | unit =>
      refine .unit ?_
      rintro i index hused
      obtain ⟨_, _, here, -⟩ := exists_slot_of_used hof ((huses.members index).2 ⟨i, hused⟩)
      cases here
  | named fields =>
      refine .named huses ?_
      have hslots : ∀ index ∈ used references,
          (((Fields.named fields).slots[index]?).map Slot.binding).isSome := by
        intro index hused
        obtain ⟨slot, _, here, -⟩ := exists_slot_of_used hof hused
        simp [here]
      refine (forall₂_filterMap hslots).imp ?_
      intro index label hlabel
      simp only [Fields.slots, List.getElem?_map, Option.map_map, Option.map_eq_some_iff,
        Function.comp_apply] at hlabel
      obtain ⟨⟨label, field⟩, hfield, rfl⟩ := hlabel
      exact ⟨field, hfield⟩
  | tuple fields =>
      refine .tuple ?_ ?_ ?_
      · simp [Fields.slots]
      · intro i index hused
        have hmem := (huses.members index).2 ⟨i, hused⟩
        obtain ⟨_, _, here, -⟩ := exists_slot_of_used hof hmem
        have hindex : index < fields.length := by
          have hlength := (List.getElem?_eq_some_iff.1 here).1
          simpa [Fields.slots] using hlength
        rw [Pattern.getElem?_slots, if_pos hmem, List.getElem?_eq_getElem hindex, Option.map_some]
      · intro index hindex hunused
        have hmem : index ∉ used references := by
          intro h
          obtain ⟨i, hused⟩ := (huses.members index).1 h
          exact hunused i hused
        rw [Pattern.getElem?_slots, if_neg hmem, List.getElem?_eq_getElem hindex, Option.map_some]

end Reference

end Derivation

end Redaction
