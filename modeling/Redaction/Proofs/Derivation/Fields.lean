import Mathlib.Data.List.Forall2
import Redaction.Derivation.Slot
import Redaction.Proofs.Attribute.Protection

/-!
# What a template refers to

A key refers to a field by its plain name, to the first one of that name, or by its position where
fields have no names. `Refers` says so for a list of names, without regard to how a field is looked
up. Every slot of a derivation is a field with its name and the protection that its attributes ask
for, and what is looked up among the slots is what the key refers to.
-/

namespace Redaction

open Redaction.Derivation (Slot)

/-- Of two lists that are related member by member, each member of the first has a partner. -/
theorem exists_of_forall₂ {α β : Type} {R : α → β → Prop} {as : List α} {bs : List β}
    (h : List.Forall₂ R as bs) {a : α} (ha : a ∈ as) : ∃ b ∈ bs, R a b := by
  induction h with
  | nil => cases ha
  | @cons _ b _ _ first _ ih =>
      cases ha with
      | head => exact ⟨b, List.mem_cons_self, first⟩
      | tail _ ha =>
          obtain ⟨c, hc, hrest⟩ := ih ha
          exact ⟨c, List.mem_cons_of_mem b hc, hrest⟩

/-- The partner of a member stands at the same position. -/
theorem getElem?_of_forall₂ {α β : Type} {R : α → β → Prop} {as : List α} {bs : List β}
    (h : List.Forall₂ R as bs) {i : Nat} {a : α} (ha : as[i]? = some a) :
    ∃ b, bs[i]? = some b ∧ R a b := by
  obtain ⟨hi, rfl⟩ := List.getElem?_eq_some_iff.1 ha
  have hlength : i < bs.length := h.length_eq ▸ hi
  exact ⟨bs[i], List.getElem?_eq_getElem hlength, h.get hi hlength⟩

/-- What stands for all members stands for them in their order. -/
theorem forall₂_filterMap {α β : Type} {f : α → Option β} {l : List α}
    (h : ∀ a ∈ l, (f a).isSome) : List.Forall₂ (fun a b => f a = some b) l (l.filterMap f) := by
  induction l with
  | nil => exact .nil
  | cons a l ih =>
      obtain ⟨b, hb⟩ := Option.isSome_iff_exists.1 (h a List.mem_cons_self)
      rw [List.filterMap_cons_some hb]
      exact .cons hb (ih fun c hc => h c (List.mem_cons_of_mem a hc))

/-- The key refers to this position in a list of fields with these names. -/
inductive Template.Key.Refers (names : List (Option String)) : Template.Key → Nat → Prop where
  | named {name : String} {index : Nat} (here : names[index]? = some (some name))
      (first : ∀ i < index, names[i]? ≠ some (some name)) : Refers names (.named name) index
  | index {index : Nat} (here : names[index]? = some none) : Refers names (.index index) index

/-- A key refers to one position at most. -/
theorem Template.Key.Refers.unique {names : List (Option String)} {key : Template.Key}
    {i j : Nat} (hi : key.Refers names i) (hj : key.Refers names j) : i = j := by
  cases hi with
  | index hi =>
      cases hj
      rfl
  | named hi firstI =>
      cases hj with
      | named hj firstJ =>
          rcases Nat.lt_trichotomy i j with hlt | heq | hgt
          · exact absurd hi (firstJ i hlt)
          · exact heq
          · exact absurd hj (firstI j hgt)

namespace Fields

/-- The fields with their plain names; fields of a tuple have none. -/
def entries : Fields → List (Option String × Field)
  | .named fields => fields.map fun (label, field) => (some (Slot.plainName label), field)
  | .tuple fields => fields.map fun field => (none, field)
  | .unit => []

/-- The plain names of the fields. -/
def names (fields : Fields) : List (Option String) := fields.entries.map (·.1)

/-- The slots that fields have if their attributes are understood. -/
def slots : Fields → List Slot
  | .named fields => fields.map fun (label, field) =>
    ⟨some (Slot.plainName label), label, field.type, field.protection⟩
  | .tuple fields => fields.mapIdx fun index field =>
    ⟨none, Slot.positional index, field.type, field.protection⟩
  | .unit => []

/-- A slot has the name, the type and the protection of its field. -/
theorem getElem?_slots {fields : Fields} {index : Nat} {slot : Slot}
    (h : fields.slots[index]? = some slot) :
    ∃ field, fields.entries[index]? = some (slot.name, field) ∧ slot.type = field.type ∧
      slot.protection = field.protection := by
  cases fields with
  | unit => cases h
  | named fields =>
      rw [slots, List.getElem?_map, Option.map_eq_some_iff] at h
      obtain ⟨⟨label, field⟩, hfield, rfl⟩ := h
      exact ⟨field, by simp [entries, hfield], rfl, rfl⟩
  | tuple fields =>
      rw [slots, List.getElem?_mapIdx, Option.map_eq_some_iff] at h
      obtain ⟨field, hfield, rfl⟩ := h
      exact ⟨field, by simp [entries, hfield], rfl, rfl⟩

theorem map_name_slots (fields : Fields) : fields.slots.map Slot.name = fields.names := by
  cases fields with
  | unit => rfl
  | named fields => simp [slots, names, entries]
  | tuple fields =>
      apply List.ext_getElem?
      intro i
      rw [slots, names, entries, List.getElem?_map, List.getElem?_mapIdx, Option.map_map,
        List.map_map, List.getElem?_map]
      rfl

theorem length_slots (fields : Fields) : fields.slots.length = fields.entries.length := by
  cases fields <;> simp [slots, entries]

end Fields

namespace Derivation

namespace Slot

theorem protectionOf_eq_ok {field : Field} {p : Protection} (h : protectionOf field = .ok p) :
    p = field.protection :=
  Protection.ofAttributes_eq_ok (mapError_eq_ok.1 h)

theorem ofNamed_eq_ok {fields : List (String × Field)} {slots : List Slot}
    (h : ofNamed fields = .ok slots) : slots = (Fields.named fields).slots := by
  induction fields generalizing slots with
  | nil =>
      cases h
      rfl
  | cons first rest ih =>
      simp only [ofNamed, bind_eq_ok, pure_eq_ok] at h
      obtain ⟨p, hp, others, hothers, rfl⟩ := h
      rw [protectionOf_eq_ok hp, ih hothers]
      rfl

theorem ofTuple_eq_ok {fields : List Field} {index : Nat} {slots : List Slot}
    (h : ofTuple index fields = .ok slots) :
    slots = fields.mapIdx fun i field =>
      ⟨none, positional (index + i), field.type, field.protection⟩ := by
  induction fields generalizing index slots with
  | nil =>
      cases h
      rfl
  | cons first rest ih =>
      simp only [ofTuple, bind_eq_ok, pure_eq_ok] at h
      obtain ⟨p, hp, others, hothers, rfl⟩ := h
      rw [protectionOf_eq_ok hp, ih hothers, List.mapIdx_cons]
      simp only [Nat.add_zero, Nat.add_assoc, Nat.add_comm 1]

/-- Fields that are accepted have the slots that their names and attributes say. -/
theorem ofFields_eq_ok {fields : Fields} {slots : List Slot} (h : ofFields fields = .ok slots) :
    slots = fields.slots := by
  cases fields with
  | named fields => exact ofNamed_eq_ok h
  | tuple fields =>
      rw [ofTuple_eq_ok h, Fields.slots]
      simp only [Nat.zero_add]
  | unit =>
      cases h
      rfl

/-- What is found under a key is what the key refers to. -/
theorem find_eq_ok {slots : List Slot} {key : Template.Key} {index : Nat} {slot : Slot}
    (h : find slots key = .ok (index, slot)) :
    slots[index]? = some slot ∧ key.Refers (slots.map Slot.name) index := by
  cases key with
  | named name =>
      rw [find] at h
      split at h
      next found here hfind =>
        cases h
        obtain ⟨hname, i, hi, hentry, hfirst⟩ := List.find?_eq_some_iff_getElem.1 hfind
        rw [List.getElem_zipIdx] at hentry
        simp only [Prod.mk.injEq, Nat.zero_add] at hentry
        obtain ⟨hslot, rfl⟩ := hentry
        have hlength : i < slots.length := by simpa using hi
        have hhere : slots[i]? = some slot := by rw [List.getElem?_eq_getElem hlength, hslot]
        refine ⟨hhere, .named (by simpa [hhere] using hname) ?_⟩
        intro j hj
        have hother := hfirst j hj
        simp only [List.getElem_zipIdx, Bool.not_eq_true', decide_eq_false_iff_not] at hother
        simpa [List.getElem?_eq_getElem (Nat.lt_trans hj hlength)] using hother
      next => cases h
  | index i =>
      rw [find] at h
      split at h
      · cases h
      next hnames =>
        split at h
        next found hslot =>
          cases h
          have hname : slot.name = none := by
            simp only [List.any_eq_true, not_exists, not_and, Bool.not_eq_true] at hnames
            simpa using hnames slot (List.mem_of_getElem? hslot)
          exact ⟨hslot, .index (by simp [hslot, hname])⟩
        next => cases h

end Slot

/-- The reference is the piece with its field looked up in the slots. -/
inductive Reference.Of (slots : List Slot) : Template.Piece → Reference → Prop where
  | literal (text : String) : Of slots (.literal text) (.literal text)
  | field {key : Template.Key} {mode : Template.Mode} {index : Nat} {slot : Slot}
      (here : slots[index]? = some slot) (refers : key.Refers (slots.map Slot.name) index) :
      Of slots (.field key mode) (.field index slot mode)

namespace Reference

theorem ofPiece_eq_ok {slots : List Slot} {piece : Template.Piece} {r : Reference}
    (h : ofPiece slots piece = .ok r) : Of slots piece r := by
  cases piece with
  | literal text =>
      cases h
      exact .literal text
  | field key mode =>
      simp only [ofPiece, bind_eq_ok, pure_eq_ok] at h
      obtain ⟨⟨index, slot⟩, hfind, rfl⟩ := h
      obtain ⟨here, refers⟩ := Slot.find_eq_ok hfind
      exact .field here refers

theorem ofPieces_eq_ok {slots : List Slot} {pieces : List Template.Piece} {rs : List Reference}
    (h : ofPieces slots pieces = .ok rs) : List.Forall₂ (Of slots) pieces rs := by
  induction pieces generalizing rs with
  | nil =>
      cases h
      exact .nil
  | cons piece rest ih =>
      simp only [ofPieces, bind_eq_ok, pure_eq_ok] at h
      obtain ⟨r, hr, others, hothers, rfl⟩ := h
      exact .cons (ofPiece_eq_ok hr) (ih hothers)

/-- Every reference comes from a piece. -/
theorem exists_piece {slots : List Slot} {pieces : List Template.Piece} {rs : List Reference}
    (h : List.Forall₂ (Of slots) pieces rs) {r : Reference} (hr : r ∈ rs) :
    ∃ piece, Of slots piece r :=
  (exists_of_forall₂ h.flip hr).imp fun _ hpiece => hpiece.2

end Reference

end Derivation

end Redaction
