import Redaction.Attribute.Protection
import Redaction.Declaration
import Redaction.Proofs.Success

/-!
# What the attributes of a field say

A field is protected if one of its attributes has the path `protected`, in whatever form. The items
of such attributes say the rest: `name = "text"` gives the segment of the field its name, and
`hide_name` keeps that name out of the placeholder. Wherever the attributes of a field are
understood at all, they are understood in this way.
-/

namespace Redaction

/-- The items in the list of an attribute: the tokens between its commas. -/
def Attribute.items (a : Attribute) : List (List Token) :=
  match a.form with
  | .list tokens => tokens.splitOn (.mark ',')
  | _ => []

namespace Protection

/-- The name that an item gives, if it is a `name = "text"`. -/
def nameItem? : List Token → Option String
  | [.word "name", .mark '=', .text name] => some name
  | _ => none

/-- The item that hides a name. -/
def hideItem : List Token := [.word "hide_name"]

end Protection

namespace Field

variable (f : Field)

/-- One of the attributes protects the field. -/
def IsProtected : Prop := ∃ a ∈ f.attributes, a.path = "protected"

instance : Decidable f.IsProtected :=
  inferInstanceAs (Decidable (∃ a ∈ f.attributes, a.path = "protected"))

/-- The items of the attributes that protect the field. -/
def protectedItems : List (List Token) :=
  (f.attributes.filter (·.path = "protected")).flatMap Attribute.items

/-- The name that the attributes give for the segment of the field. -/
def givenName? : Option String := f.protectedItems.findSome? Protection.nameItem?

/-- The attributes keep the name of the segment out of its placeholder. -/
def hidesName : Bool := decide (Protection.hideItem ∈ f.protectedItems)

/-- The name of the segment of the field: the one given, or else the name of the field itself. -/
def segmentName (name : Option String) : String := (f.givenName?.or name).getD ""

/-- The protection that the attributes ask for. -/
def protection : Protection :=
  if f.IsProtected then .secret f.givenName? f.hidesName else .plain

end Field

namespace Attribute

/-- At most an empty item at the end is left out when a list is divided. -/
theorem exists_chunks_append (l : List (List Token)) :
    ∃ last, (last = [] ∨ last = [[]]) ∧ l = (chunks l).map (·.1) ++ last := by
  induction l with
  | nil => exact ⟨[], .inl rfl, rfl⟩
  | cons chunk rest ih =>
      cases rest with
      | nil =>
          by_cases hchunk : chunk = []
          · exact ⟨[[]], .inr rfl, by simp [chunks, hchunk]⟩
          · exact ⟨[], .inl rfl, by simp [chunks, hchunk]⟩
      | cons next rest =>
          obtain ⟨last, hlast, hrest⟩ := ih
          refine ⟨last, hlast, ?_⟩
          rw [chunks, List.map_cons, List.cons_append, ← hrest]
          simp

/-- Dividing a list loses no item that is not empty. -/
theorem mem_chunks {item : List Token} (hitem : item ≠ []) (l : List (List Token)) :
    item ∈ (chunks l).map (·.1) ↔ item ∈ l := by
  obtain ⟨last, hlast, hl⟩ := exists_chunks_append l
  conv => rhs; rw [hl]
  obtain rfl | rfl := hlast <;> simp [hitem]

/-- What is found in the items of a divided list is found in the list. -/
theorem findSome?_chunks {α : Type} {f : List Token → Option α} (hf : f [] = none)
    (l : List (List Token)) : ((chunks l).map (·.1)).findSome? f = l.findSome? f := by
  obtain ⟨last, hlast, hl⟩ := exists_chunks_append l
  conv => rhs; rw [hl]
  obtain rfl | rfl := hlast <;> simp [hf]

/-- An item whose option is a word consists of this word and its rest. -/
theorem readItem_eq_ok {tokens : List Token} {atEnd : Bool} {item : Item} {w : String}
    (h : readItem tokens atEnd = .ok item) (hw : item.option = some w) :
    tokens = .word w :: item.rest := by
  unfold readItem at h
  split at h
  · obtain ⟨rest, -, h⟩ := bind_eq_ok.1 h
    cases h
    cases hw
  · cases h
    cases hw
    rfl
  · obtain ⟨rest, -, h⟩ := bind_eq_ok.1 h
    cases h
    cases hw
  · cases h
  · cases h

end Attribute

namespace Protection

/-- An option is taken only if it is one of the two and has nothing but its value. -/
theorem takeItem_eq_ok {given next : Given} {item : Attribute.Item}
    (h : takeItem given item = .ok next) :
    (∃ name, item.option = some "name" ∧ item.rest = [.mark '=', .text name] ∧
      given.name = none ∧ next = { given with name := some name }) ∨
    (item.option = some "hide_name" ∧ item.rest = [] ∧
      next = { given with nameHidden := true }) := by
  rw [takeItem] at h
  split at h
  next hname =>
    split at h
    · cases h
    next hfree =>
      rw [takeName] at h
      split at h
      next name hrest =>
        cases h
        exact .inl ⟨name, hname, hrest, by simpa using hfree, rfl⟩
      all_goals cases h
  next =>
    split at h
    next hhide =>
      split at h
      next hrest =>
        cases h
        exact .inr ⟨hhide, hrest, rfl⟩
      next => cases h
    next => cases h

/-- One item adds the name that it gives, and hides the name if it says so. -/
theorem take_readItem_eq_ok {given next : Given} {tokens : List Token} {atEnd : Bool}
    {item : Attribute.Item} (hread : Attribute.readItem tokens atEnd = .ok item)
    (htake : takeItem given item = .ok next) :
    next.name = given.name.or (nameItem? tokens) ∧
      next.nameHidden = (given.nameHidden || decide (hideItem = tokens)) := by
  obtain ⟨name, hword, hrest, hfree, rfl⟩ | ⟨hword, hrest, rfl⟩ := takeItem_eq_ok htake
  · have htokens : tokens = [.word "name", .mark '=', .text name] := by
      rw [Attribute.readItem_eq_ok hread hword, hrest]
    subst htokens
    exact ⟨by rw [hfree]; rfl, by simp [hideItem]⟩
  · have htokens : tokens = hideItem := by
      rw [Attribute.readItem_eq_ok hread hword, hrest, hideItem]
    subst htokens
    exact ⟨by simp [hideItem, nameItem?], by simp⟩

/-- The items of a list add the first name that they give, and hide the name if one says so. -/
theorem foldItems_eq_ok {given last : Given} {items : List (List Token × Bool)}
    (h : Attribute.foldItems .list takeItem given items = .ok last) :
    last.name = given.name.or ((items.map (·.1)).findSome? nameItem?) ∧
      last.nameHidden = (given.nameHidden || decide (hideItem ∈ items.map (·.1))) := by
  induction items generalizing given with
  | nil =>
      cases h
      simp
  | cons first rest ih =>
      obtain ⟨tokens, atEnd⟩ := first
      rw [Attribute.foldItems] at h
      split at h
      · cases h
      next item hread =>
        split at h
        · cases h
        next next htake =>
          have hfirst := take_readItem_eq_ok hread htake
          have hrest := ih h
          rw [hfirst.1, hfirst.2] at hrest
          simp only [List.map_cons, List.findSome?_cons, List.mem_cons, Bool.decide_or]
          refine ⟨?_, by rw [hrest.2, Bool.or_assoc]⟩
          rw [hrest.1, Option.or_assoc]
          cases nameItem? tokens <;> rfl

/-- What an attribute gives is what its items say. -/
theorem ofForm_eq_ok {a : Attribute} {p : Protection} (h : ofForm a.form = .ok p) :
    p = .secret (a.items.findSome? nameItem?) (decide (hideItem ∈ a.items)) := by
  rw [Attribute.items]
  cases hform : a.form with
  | bare =>
      rw [hform] at h
      cases h
      rfl
  | value literal =>
      rw [hform] at h
      cases h
  | list tokens =>
      rw [hform, ofForm] at h
      obtain ⟨given, hitems, hp⟩ := bind_eq_ok.1 h
      obtain ⟨hname, hhidden⟩ := foldItems_eq_ok hitems
      have hhide : hideItem ≠ [] := by simp [hideItem]
      rw [← pure_eq_ok.1 hp, hname, hhidden]
      simp [Attribute.findSome?_chunks (f := nameItem?) rfl, Attribute.mem_chunks hhide]

/-- Once a field is protected, no other attribute may protect it. -/
theorem takeAll_eq_ok_of_ne_plain {found p : Protection} {attributes : List Attribute}
    (hfound : found ≠ .plain) (h : takeAll found attributes = .ok p) :
    p = found ∧ ∀ a ∈ attributes, a.path ≠ "protected" := by
  induction attributes with
  | nil =>
      cases h
      exact ⟨rfl, by simp⟩
  | cons a rest ih =>
      rw [takeAll] at h
      split at h
      · split at h
        · cases h
        · cases h
      next hpath =>
        obtain ⟨hp, hrest⟩ := ih h
        exact ⟨hp, by simpa [hpath] using hrest⟩

/-- Attributes that are understood say how the field is protected by what stands in them. -/
theorem ofAttributes_eq_ok {f : Field} {p : Protection} (h : ofAttributes f.attributes = .ok p) :
    p = f.protection := by
  obtain ⟨type, attributes⟩ := f
  induction attributes with
  | nil =>
      cases h
      rfl
  | cons a rest ih =>
      rw [ofAttributes, takeAll] at h
      split at h
      next hpath =>
        split at h
        · cases h
        next protection hform =>
          have hsecret := ofForm_eq_ok hform
          rw [if_pos rfl] at h
          obtain ⟨rfl, hrest⟩ := takeAll_eq_ok_of_ne_plain (by simp [hsecret]) h
          have hprotected : Field.IsProtected ⟨type, a :: rest⟩ := ⟨a, by simp, hpath⟩
          have hitems : Field.protectedItems ⟨type, a :: rest⟩ = a.items := by
            have hothers : rest.filter (·.path = "protected") = [] := by simpa using hrest
            simp [Field.protectedItems, hpath, hothers]
          rw [hsecret, Field.protection, if_pos hprotected, Field.givenName?, Field.hidesName,
            hitems]
      next hpath =>
        have hsame : Field.IsProtected ⟨type, a :: rest⟩ ↔ Field.IsProtected ⟨type, rest⟩ := by
          simp [Field.IsProtected, hpath]
        have hitems :
            Field.protectedItems ⟨type, a :: rest⟩ = Field.protectedItems ⟨type, rest⟩ := by
          simp [Field.protectedItems, hpath]
        rw [ih h, Field.protection, Field.protection, Field.givenName?, Field.givenName?,
          Field.hidesName, Field.hidesName, hitems]
        simp only [hsame]

end Protection

end Redaction
