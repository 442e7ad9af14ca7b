import Redaction.Derivation.Arm
import Redaction.Proofs.Derivation.Fields
import Std.Data.String.ToNat

/-!
# References and their identifiers

Identifiers tell apart what they are made for: positions and modes by the identifiers of their
segments, and the fields of a tuple by the names of their positions. Named fields may share a name,
but a key refers to the first one only. So what stands beside the position that a key refers to is
found under the name of the field there.
-/

namespace Redaction

/-- The only entry under a key is the one that is looked up. -/
theorem lookup_eq_some_of_mem {α : Type} {l : List (String × α)} {k : String} {a : α}
    (hmem : (k, a) ∈ l) (honly : ∀ b, (k, b) ∈ l → b = a) : l.lookup k = some a := by
  cases hlookup : l.lookup k with
  | none =>
      have hne := List.lookup_eq_none_iff.1 hlookup _ hmem
      simp at hne
  | some b =>
      obtain ⟨before, after, hl, -⟩ := List.lookup_eq_some_iff.1 hlookup
      rw [honly b (by simp [hl])]

/-- The value that stands beside the first occurrence of a key is the one that is looked up. -/
theorem lookup_zip_eq_some {α : Type} {keys : List String} {values : List α} {index : Nat}
    {k : String} {a : α} (hkey : keys[index]? = some k) (hfirst : ∀ i < index, keys[i]? ≠ some k)
    (hvalue : values[index]? = some a) : (keys.zip values).lookup k = some a := by
  induction keys generalizing index values with
  | nil => simp at hkey
  | cons key keys ih =>
      cases values with
      | nil => simp at hvalue
      | cons value values =>
          cases index with
          | zero =>
              simp only [List.getElem?_cons_zero, Option.some.injEq] at hkey hvalue
              simp [hkey, hvalue]
          | succ index =>
              have hne : key ≠ k := by simpa using hfirst 0 (Nat.succ_pos index)
              have hrest := ih (by simpa using hkey)
                (fun i hi => by simpa using hfirst (i + 1) (Nat.succ_lt_succ hi))
                (by simpa using hvalue)
              have hkeys : (k == key) = false := by simpa using Ne.symm hne
              rw [List.zip_cons_cons, List.lookup_cons, hkeys]
              exact hrest

namespace Derivation

theorem Slot.positional_injective : Function.Injective Slot.positional := by
  intro i j h
  exact Nat.repr_injective ((String.append_right_inj "field_").1 h)

/-- The identifier of a segment tells the position of the field and the mode. -/
theorem Reference.identifier_inj {i j : Nat} {m n : Template.Mode} :
    identifier i m = identifier j n ↔ i = j ∧ m = n := by
  refine ⟨fun h => ?_, fun ⟨hi, hm⟩ => by rw [hi, hm]⟩
  have hlast : ∀ k mode, (identifier k mode).toList.getLast? =
      some (if mode = .display then 'y' else 'g') := by
    intro k mode
    cases mode <;> simp [identifier, modeSuffix, List.getLast?_cons, List.getLast?_append]
  have hmode : m = n := by
    have hsuffix := hlast i m
    rw [h, hlast j n] at hsuffix
    cases m <;> cases n <;> simp at hsuffix ⊢
  subst hmode
  rw [identifier, identifier, String.append_left_inj, String.append_left_inj,
    String.append_right_inj] at h
  exact ⟨Nat.repr_injective h, rfl⟩

/-- Of the fields that are bound to one name, a key refers to the first. -/
theorem Slot.binding_ne_of_refers {fields : Fields} {key : Template.Key} {index i : Nat}
    {slot other : Slot} (refers : key.Refers (fields.slots.map Slot.name) index)
    (here : fields.slots[index]? = some slot) (there : fields.slots[i]? = some other)
    (hi : i < index) : other.binding ≠ slot.binding := by
  intro hbinding
  cases fields with
  | unit => cases here
  | named fields =>
      simp only [Fields.slots, List.getElem?_map, Option.map_eq_some_iff] at here there
      obtain ⟨⟨label, field⟩, hfield, rfl⟩ := here
      obtain ⟨⟨label', field'⟩, hfield', rfl⟩ := there
      dsimp only at hbinding
      subst hbinding
      cases refers with
      | named hname hfirst =>
          simp only [Fields.slots, List.map_map, List.getElem?_map, hfield, Option.map_some,
            Function.comp_apply, Option.some.injEq] at hname
          refine hfirst i hi ?_
          simp [Fields.slots, hfield', hname]
      | index hname => simp [Fields.slots, hfield] at hname
  | tuple fields =>
      simp only [Fields.slots, List.getElem?_mapIdx, Option.map_eq_some_iff] at here there
      obtain ⟨field, -, rfl⟩ := here
      obtain ⟨field', -, rfl⟩ := there
      have hpositions := Slot.positional_injective hbinding
      omega

/-- Beside the labels of fields, what stands at the position that a key refers to is found under
the label there. -/
theorem Slot.lookup_labels {α : Type} {fields : List (String × Field)} {key : Template.Key}
    {index : Nat} {slot : Slot} {values : List α} {a : α}
    (refers : key.Refers ((Fields.named fields).slots.map Slot.name) index)
    (here : (Fields.named fields).slots[index]? = some slot) (ha : values[index]? = some a) :
    ((Fields.named fields).labels.zip values).lookup slot.binding = some a := by
  have hlabels : ∀ i : Nat, (Fields.named fields).labels[i]? =
      ((Fields.named fields).slots[i]?).map Slot.binding := by
    intro i
    simp [Fields.labels, Fields.slots, Function.comp_def]
  refine lookup_zip_eq_some (by rw [hlabels, here]; rfl) ?_ ha
  intro i hi hsame
  rw [hlabels, Option.map_eq_some_iff] at hsame
  obtain ⟨other, there, hbinding⟩ := hsame
  exact Slot.binding_ne_of_refers refers here there hi hbinding

namespace Reference

theorem mem_used {references : List Reference} {index : Nat} {slot : Slot}
    {mode : Template.Mode} (h : .field index slot mode ∈ references) : index ∈ used references := by
  rw [used, List.mem_eraseDups, List.mem_filterMap]
  exact ⟨_, h, rfl⟩

/-- The binding for a protected field. -/
theorem binding?_eq_some_iff {r : Reference} {b : Binding} :
    r.binding? = some b ↔ ∃ index slot mode name nameHidden,
      r = .field index slot mode ∧ slot.protection = .secret name nameHidden ∧
        b = ⟨identifier index mode, name.or slot.name, nameHidden, slot.binding, mode⟩ := by
  constructor
  · intro h
    cases r with
    | literal text => cases h
    | field index slot mode =>
        rw [binding?] at h
        split at h
        · cases h
        next name nameHidden hprotection =>
          cases h
          exact ⟨index, slot, mode, name, nameHidden, rfl, hprotection, rfl⟩
  · rintro ⟨index, slot, mode, name, nameHidden, rfl, hprotection, rfl⟩
    simp [binding?, hprotection]

end Reference

end Derivation

end Redaction
