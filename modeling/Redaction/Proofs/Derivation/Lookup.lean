import Redaction.Proofs.Attribute.ProtectionFault
import Redaction.Proofs.Derivation.Fields
import Redaction.Proofs.Template.Numbering

/-!
# When fields are accepted and found

Every field of a structure or variant is checked, whether a template mentions it or not, and the
first one whose attributes are not understood is refused. A placeholder is resolved if it names a
field, or if it is a position among fields without names; the first placeholder that is not resolved
is refused.
-/

namespace Redaction

/-- The attributes of the field are understood. -/
def Field.WellFormed (field : Field) : Prop := Protection.WellFormed field.attributes

/-- What is wrong with the attributes of the field. -/
inductive Field.Refused (field : Field) : Derivation.Fault → Prop where
  | attributes {fault : Protection.Fault}
      (first : FirstRefused Protection.WellFormed Protection.Refused field.attributes fault) :
      Field.Refused field (.protection fault)

/-- The fields in order. -/
def Fields.members (fields : Fields) : List Field := fields.entries.map (·.2)

namespace Template

/-- The key is the name of a field, or a position among fields of which none has a name. -/
inductive Key.Resolves (names : List (Option String)) : Key → Prop where
  | named {name : String} (here : some name ∈ names) : Resolves names (.named name)
  | index {index : Nat} (unnamed : ∀ name ∈ names, name = none) (below : index < names.length) :
      Resolves names (.index index)

/-- Why a key refers to no field. -/
inductive Key.Dangles (names : List (Option String)) : Key → Derivation.Fault → Prop where
  | unknownField {name : String} (absent : some name ∉ names) :
      Dangles names (.named name) (.unknownField name)
  | positionAmongNames {name : String} {index : Nat} (named : some name ∈ names) :
      Dangles names (.index index) (.positionAmongNames index)
  | unknownPosition {index : Nat} (unnamed : ∀ name ∈ names, name = none)
      (beyond : names.length ≤ index) : Dangles names (.index index) (.unknownPosition index)

end Template

namespace Derivation

namespace Slot

theorem protectionOf_judged (field : Field) :
    Judged (protectionOf field) field.WellFormed field.Refused := by
  refine (Protection.ofAttributes_judged field.attributes).mapError.congr Iff.rfl ?_
  intro e
  constructor
  · rintro ⟨fault, first, rfl⟩
    exact .attributes first
  · rintro ⟨first⟩
    exact ⟨_, first, rfl⟩

theorem ofNamed_judged (fields : List (String × Field)) :
    Judged (ofNamed fields) (∀ field ∈ (Fields.named fields).members, field.WellFormed)
      (FirstRefusedOf Field.WellFormed Field.Refused (Fields.named fields).members) := by
  induction fields with
  | nil => exact judged_nil
  | cons first rest ih => exact (protectionOf_judged first.2).cons ih

theorem ofTuple_judged (index : Nat) (fields : List Field) :
    Judged (ofTuple index fields) (∀ field ∈ (Fields.tuple fields).members, field.WellFormed)
      (FirstRefusedOf Field.WellFormed Field.Refused (Fields.tuple fields).members) := by
  induction fields generalizing index with
  | nil => exact judged_nil
  | cons first rest ih => exact (protectionOf_judged first).cons (ih (index + 1))

/-- Fields are accepted if the attributes of every one of them are understood. -/
theorem ofFields_judged (fields : Fields) :
    Judged (ofFields fields) (∀ field ∈ fields.members, field.WellFormed)
      (FirstRefusedOf Field.WellFormed Field.Refused fields.members) := by
  cases fields with
  | named fields => exact ofNamed_judged fields
  | tuple fields => exact ofTuple_judged 0 fields
  | unit => exact judged_nil

theorem find?_zipIdx_isSome_iff (slots : List Slot) (name : String) :
    (slots.zipIdx.find? fun entry => decide (entry.1.name = some name)).isSome ↔
      some name ∈ slots.map Slot.name := by
  have hslots : slots.map Slot.name = slots.zipIdx.map fun entry => entry.1.name := by
    rw [← Function.comp_def Slot.name Prod.fst, ← List.map_map, List.zipIdx_map_fst]
  rw [hslots, List.find?_isSome, List.mem_map]
  simp only [decide_eq_true_eq]

/-- A key is looked up if it is resolved. -/
theorem find_judged (slots : List Slot) (key : Template.Key) :
    Judged (find slots key) (key.Resolves (slots.map Slot.name))
      (key.Dangles (slots.map Slot.name)) := by
  cases key with
  | named name =>
      have hfound := find?_zipIdx_isSome_iff slots name
      rw [find]
      cases hfind : slots.zipIdx.find? fun entry => decide (entry.1.name = some name) with
      | none =>
          rw [hfind] at hfound
          have absent : some name ∉ slots.map Slot.name :=
            fun here => Bool.false_ne_true (hfound.2 here)
          refine .of_error (.unknownField absent) ?_ ?_
          · rintro ⟨here⟩
            exact absent here
          · intro e h
            cases h
            rfl
      | some entry =>
          rw [hfind] at hfound
          have here : some name ∈ slots.map Slot.name := hfound.1 rfl
          refine .of_ok (.named here) ?_
          rintro e ⟨absent⟩
          exact absent here
  | index i =>
      have hunnamed : ¬ (slots.any fun slot => slot.name.isSome) ↔
          ∀ name ∈ slots.map Slot.name, name = none := by
        simp
      rw [find]
      split
      next hany =>
        have hnamed : ∃ name, some name ∈ slots.map Slot.name := by
          obtain ⟨slot, hslot, hname⟩ := List.any_eq_true.1 hany
          obtain ⟨name, hname⟩ := Option.isSome_iff_exists.1 hname
          exact ⟨name, List.mem_map.2 ⟨slot, hslot, hname⟩⟩
        obtain ⟨name, named⟩ := hnamed
        refine .of_error (.positionAmongNames named) ?_ ?_
        · intro h
          cases h with
          | index unnamed _ => exact absurd hany (hunnamed.2 unnamed)
        · intro e h
          cases h with
          | positionAmongNames _ => rfl
          | unknownPosition unnamed _ => exact absurd hany (hunnamed.2 unnamed)
      next hnone =>
        have unnamed := hunnamed.1 hnone
        split
        next slot hslot =>
          have below : i < (slots.map Slot.name).length := by
            rw [List.length_map]
            exact (List.getElem?_eq_some_iff.1 hslot).1
          refine .of_ok (.index unnamed below) ?_
          intro e h
          cases h with
          | positionAmongNames named => cases unnamed _ named
          | unknownPosition _ beyond => omega
        next hslot =>
          have beyond : (slots.map Slot.name).length ≤ i := by
            rw [List.length_map]
            exact List.getElem?_eq_none_iff.1 hslot
          refine .of_error (.unknownPosition unnamed beyond) ?_ ?_
          · intro h
            cases h with
            | index _ below => omega
          · intro e h
            cases h with
            | positionAmongNames named => cases unnamed _ named
            | unknownPosition _ _ => rfl

end Slot

namespace Reference

theorem ofPiece_judged (slots : List Slot) (key : Template.Key) (mode : Template.Mode) :
    Judged (ofPiece slots (.field key mode)) (key.Resolves (slots.map Slot.name))
      (key.Dangles (slots.map Slot.name)) :=
  (Slot.find_judged slots key).bind_pure

/-- The placeholders are looked up from left to right. -/
theorem ofPieces_judged (slots : List Slot) (pieces : List Template.Piece) :
    Judged (ofPieces slots pieces)
      (∀ asked ∈ pieces.filterMap Template.Piece.field?, asked.1.Resolves (slots.map Slot.name))
      (FirstRefusedOf (fun asked => asked.1.Resolves (slots.map Slot.name))
        (fun asked => asked.1.Dangles (slots.map Slot.name))
        (pieces.filterMap Template.Piece.field?)) := by
  induction pieces with
  | nil => exact judged_nil
  | cons piece rest ih =>
      cases piece with
      | literal text => exact ih.bind_pure
      | field key mode => exact .cons (x := (key, mode)) (ofPiece_judged slots key mode) ih

end Reference

end Derivation

end Redaction
