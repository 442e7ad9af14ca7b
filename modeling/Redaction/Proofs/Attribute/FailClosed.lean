import Mathlib.Data.List.Pairwise
import Redaction.Proofs.Attribute.ProtectionFault

/-!
# Protection fails closed

A field stays in the open only if no attribute has the path `protected`. If one has, the field is
protected, provided that it is the only one and everything in it is understood, and otherwise the
first fault is reported. Nothing else has an influence: neither other attributes nor the order of
the items in a list.
-/

namespace Redaction.Protection

/-- The item that gives a name. -/
def nameItem (text : String) : List Token := [.word "name", .mark '=', .text text]

/-- What an attribute gives for a field: nothing but protection if it stands alone, or the name and
the hiding of the name that its items ask for. -/
inductive Gives : Attribute.Form → Option String → Bool → Prop where
  | bare : Gives .bare none false
  | options {tokens : List Token} {items : List (List Token × Bool)} {name : Option String}
      {hidden : Bool} (lists : Attribute.Lists tokens items) (fit : ItemsFit items)
      (named : ∀ text, name = some text ↔ nameItem text ∈ items.map (·.1))
      (hides : hidden = true ↔ hideItem ∈ items.map (·.1)) : Gives (.list tokens) name hidden

/-- The attributes with the path `protected`. -/
def protecting (attributes : List Attribute) : List Attribute :=
  attributes.filter fun a => a.path = "protected"

/-! ## One attribute -/

theorem nameItem?_eq_some_iff {item : List Token} {text : String} :
    nameItem? item = some text ↔ item = nameItem text := by
  constructor
  · intro h
    unfold nameItem? at h
    split at h
    · cases h
      rfl
    · cases h
  · rintro rfl
    rfl

/-- Of items that fit one at most gives a name. -/
theorem ItemsFit.eq_of_names {items : List (List Token × Bool)} (fit : ItemsFit items)
    {text other : String} (h : nameItem text ∈ items.map (·.1))
    (h' : nameItem other ∈ items.map (·.1)) : text = other := by
  obtain ⟨item, hitem, hname⟩ := List.mem_map.1 h
  obtain ⟨item', hitem', hname'⟩ := List.mem_map.1 h'
  by_cases hsame : item = item'
  · rw [hsame, hname'] at hname
    simpa [nameItem] using hname.symm
  · have hsymm : Std.Symm fun a b : List Token × Bool => ¬ (Names a ∧ Names b) :=
      ⟨fun a b hab hba => hab hba.symm⟩
    have hpairs : items.Pairwise fun a b => ¬ (Names a ∧ Names b) :=
      fit.behind.imp fun {a b} hab h => hab h.1 h.2
    exact absurd ⟨⟨text, hname⟩, ⟨other, hname'⟩⟩ (hpairs.forall hitem hitem' hsame)

/-- The name that items give. -/
theorem findSome?_nameItem? {items : List (List Token × Bool)} (fit : ItemsFit items)
    {text : String} :
    (items.map (·.1)).findSome? nameItem? = some text ↔ nameItem text ∈ items.map (·.1) := by
  constructor
  · intro h
    obtain ⟨item, hitem, hname⟩ := List.exists_of_findSome?_eq_some h
    rwa [← nameItem?_eq_some_iff.1 hname]
  · intro h
    cases hfound : (items.map (·.1)).findSome? nameItem? with
    | none =>
        have hnone := List.findSome?_eq_none_iff.1 hfound _ h
        cases hnone
    | some other =>
        obtain ⟨item, hitem, hname⟩ := List.exists_of_findSome?_eq_some hfound
        rw [nameItem?_eq_some_iff.1 hname] at hitem
        rw [fit.eq_of_names hitem h]

/-- What an attribute gives is understood. -/
theorem Gives.understood {form : Attribute.Form} {name : Option String} {hidden : Bool}
    (h : Gives form name hidden) : Understood form := by
  cases h with
  | bare => exact .bare
  | options lists fit _ _ => exact .options lists fit

/-- An attribute gives one name at most, and hides it or does not. -/
theorem Gives.unique {form : Attribute.Form} {name other : Option String} {hidden hidden' : Bool}
    (h : Gives form name hidden) (h' : Gives form other hidden') :
    name = other ∧ hidden = hidden' := by
  cases h with
  | bare =>
      cases h'
      exact ⟨rfl, rfl⟩
  | options lists _ named hides =>
      cases h' with
      | options lists' _ named' hides' =>
          obtain rfl := lists.unique lists'
          constructor
          · exact Option.ext fun text => (named text).trans (named' text).symm
          · exact Bool.eq_iff_iff.2 (hides.trans hides'.symm)

/-- What is read from an attribute is what it gives. -/
theorem exists_gives_of_ofForm {form : Attribute.Form} {p : Protection} (h : ofForm form = .ok p) :
    ∃ name hidden, p = .secret name hidden ∧ Gives form name hidden := by
  have hitems := ofForm_eq_ok (a := ⟨"protected", form⟩) h
  cases (ofForm_judged form).ok.1 ⟨p, h⟩ with
  | bare => exact ⟨_, _, hitems, .bare⟩
  | options lists fit =>
      refine ⟨_, _, hitems, .options lists fit ?_ ?_⟩
      · intro text
        rw [Attribute.items, ← Attribute.findSome?_chunks rfl, Attribute.lists_iff.1 lists,
          findSome?_nameItem? fit]
      · rw [decide_eq_true_iff]
        exact lists.mem_items (by simp [hideItem])

theorem ofForm_eq_ok_iff {form : Attribute.Form} {name : Option String} {hidden : Bool} :
    ofForm form = .ok (.secret name hidden) ↔ Gives form name hidden := by
  constructor
  · intro h
    obtain ⟨_, _, heq, hgives⟩ := exists_gives_of_ofForm h
    cases heq
    exact hgives
  · intro hgives
    obtain ⟨p, hp⟩ := (ofForm_judged form).ok.2 hgives.understood
    obtain ⟨_, _, rfl, hgives'⟩ := exists_gives_of_ofForm hp
    obtain ⟨rfl, rfl⟩ := hgives.unique hgives'
    exact hp

/-! ## All attributes -/

theorem protecting_append (before after : List Attribute) :
    protecting (before ++ after) = protecting before ++ protecting after := List.filter_append ..

theorem protecting_cons_of_named {a : Attribute} {rest : List Attribute}
    (h : a.path = "protected") : protecting (a :: rest) = a :: protecting rest :=
  List.filter_cons_of_pos (by simpa using h)

theorem protecting_cons_of_other {a : Attribute} {rest : List Attribute}
    (h : a.path ≠ "protected") : protecting (a :: rest) = protecting rest :=
  List.filter_cons_of_neg (by simpa using h)

/-- Attributes with other paths are passed over. -/
theorem ofAttributes_protecting (attributes : List Attribute) :
    ofAttributes (protecting attributes) = ofAttributes attributes := by
  refine stepThrough.run_filter (fun found a hother => ?_) .plain attributes
  rw [takeOne, if_neg (by simpa using hother)]

theorem ofAttributes_singleton {a : Attribute} (h : a.path = "protected") :
    ofAttributes [a] = ofForm a.form := by
  rw [ofAttributes, takeAll, if_pos h]
  cases ofForm a.form <;> rfl

/-- A second attribute that protects the field is refused, if the first one is not. -/
theorem ofAttributes_ne_ok_of_two {a b : Attribute} {rest : List Attribute} {p : Protection}
    (ha : a.path = "protected") (hb : b.path = "protected") :
    ofAttributes (a :: b :: rest) ≠ .ok p := by
  intro h
  have hfit := (ofAttributes_judged _).ok.1 ⟨p, h⟩
  have hfirst := (List.pairwise_cons.1 hfit.behind).1 b List.mem_cons_self
  exact hfirst ha hb

/-- Attributes are understood if none protects the field, or if only one does and it gives
something. -/
theorem ofAttributes_eq_ok_iff {attributes : List Attribute} {p : Protection} :
    ofAttributes attributes = .ok p ↔ (protecting attributes = [] ∧ p = .plain) ∨
      ∃ a name hidden, protecting attributes = [a] ∧ Gives a.form name hidden ∧
        p = .secret name hidden := by
  have hpaths : ∀ a ∈ protecting attributes, a.path = "protected" := by
    intro a ha
    simpa using (List.mem_filter.1 ha).2
  rw [← ofAttributes_protecting]
  generalize protecting attributes = found at hpaths
  cases found with
  | nil =>
      constructor
      · intro h
        exact .inl ⟨rfl, (Except.ok.inj h).symm⟩
      · rintro (⟨-, rfl⟩ | ⟨_, _, _, h, -, -⟩)
        · rfl
        · cases h
  | cons a rest =>
      cases rest with
      | nil =>
          rw [ofAttributes_singleton (hpaths a List.mem_cons_self)]
          constructor
          · intro h
            obtain ⟨name, hidden, rfl, hgives⟩ := exists_gives_of_ofForm h
            exact .inr ⟨a, name, hidden, rfl, hgives, rfl⟩
          · rintro (⟨h, -⟩ | ⟨_, name, hidden, h, hgives, rfl⟩)
            · cases h
            · cases h
              exact ofForm_eq_ok_iff.2 hgives
      | cons b rest =>
          constructor
          · intro h
            exact absurd h (ofAttributes_ne_ok_of_two (hpaths a (by simp)) (hpaths b (by simp)))
          · rintro (⟨h, -⟩ | ⟨_, _, _, h, -, -⟩) <;> cases h

/-! ## Order -/

/-- Whether items fit does not depend on their order, nor on which one ends the list. -/
theorem ItemsFit.of_perm {items others : List (List Token × Bool)} (fit : ItemsFit items)
    (same : (items.map (·.1)).Perm (others.map (·.1))) : ItemsFit others := by
  let giving (item : List Token) : Prop := ∃ text, item = nameItem text
  have hitems : Fit Known (fun a b => giving a → ¬ giving b) (items.map (·.1)) := fit_map.2 fit
  exact fit_map.1 (hitems.of_perm (fun first hagain hgives => first hgives hagain) same)

/-- An attribute gives the same if the items of its list are put in another order. -/
theorem Gives.of_perm {tokens tokens' : List Token} {items others : List (List Token × Bool)}
    {name : Option String} {hidden : Bool} (h : Gives (.list tokens) name hidden)
    (lists : Attribute.Lists tokens items) (lists' : Attribute.Lists tokens' others)
    (same : (items.map (·.1)).Perm (others.map (·.1))) : Gives (.list tokens') name hidden := by
  cases h with
  | options lists'' fit named hides =>
      obtain rfl := lists''.unique lists
      refine .options lists' (fit.of_perm same) ?_ ?_
      · intro text
        rw [named text, same.mem_iff]
      · rw [hides, same.mem_iff]

/-- What attributes say stays the same if the items of a list in one of them are put in another
order. -/
theorem ofAttributes_eq_ok_of_perm {before after : List Attribute} {path : String}
    {tokens tokens' : List Token} {items others : List (List Token × Bool)} {p : Protection}
    (h : ofAttributes (before ++ ⟨path, .list tokens⟩ :: after) = .ok p)
    (lists : Attribute.Lists tokens items) (lists' : Attribute.Lists tokens' others)
    (same : (items.map (·.1)).Perm (others.map (·.1))) :
    ofAttributes (before ++ ⟨path, .list tokens'⟩ :: after) = .ok p := by
  by_cases hpath : path = "protected"
  · have hnamed : ∀ tokens, protecting (before ++ ⟨path, .list tokens⟩ :: after) =
        protecting before ++ ⟨path, .list tokens⟩ :: protecting after := by
      intro tokens
      rw [protecting_append, protecting_cons_of_named hpath]
    rw [ofAttributes_eq_ok_iff, hnamed] at h ⊢
    obtain ⟨hnone, -⟩ | ⟨a, name, hidden, hone, hgives, rfl⟩ := h
    · simp at hnone
    · obtain ⟨hbefore, hafter⟩ : protecting before = [] ∧ protecting after = [] := by
        have hlength := congrArg List.length hone
        simp only [List.length_append, List.length_cons, List.length_nil] at hlength
        exact ⟨List.length_eq_zero_iff.1 (by omega), List.length_eq_zero_iff.1 (by omega)⟩
      rw [hbefore, hafter, List.nil_append, List.singleton_inj] at hone
      subst hone
      exact .inr ⟨_, name, hidden, by rw [hbefore, hafter]; rfl,
        hgives.of_perm lists lists' same, rfl⟩
  · rw [← ofAttributes_protecting, protecting_append, protecting_cons_of_other hpath] at h ⊢
    exact h

/-- A field is in the open if and only if none of its attributes has the path `protected`. It is
protected if and only if one attribute has, which stands alone or has a list of items, each
`hide_name` or `name = "text"`, with one name at most; and then it is protected as these items say.
In all other cases there is an error, which is the fault of the first attribute that is not
understood, or else is not the first of its path. Attributes with other paths have no influence on
this, and the items of a list that is accepted may stand in any order. -/
theorem protection_fails_closed :
    (∀ attributes, ofAttributes attributes = .ok .plain ↔
      ∀ a ∈ attributes, a.path ≠ "protected") ∧
    (∀ attributes name hidden, ofAttributes attributes = .ok (.secret name hidden) ↔
      ∃ a, protecting attributes = [a] ∧ Gives a.form name hidden) ∧
    (∀ attributes fault, ofAttributes attributes = .error fault ↔
      FirstRefused WellFormed Refused attributes fault) ∧
    (∀ attributes others, protecting attributes = protecting others →
      ofAttributes attributes = ofAttributes others) ∧
    (∀ before after path tokens tokens' items others p,
      ofAttributes (before ++ ⟨path, .list tokens⟩ :: after) = .ok p →
      Attribute.Lists tokens items → Attribute.Lists tokens' others →
      (items.map (·.1)).Perm (others.map (·.1)) →
      ofAttributes (before ++ ⟨path, .list tokens'⟩ :: after) = .ok p) := by
  refine ⟨?_, ?_, fun attributes fault => (ofAttributes_judged attributes).error fault, ?_, ?_⟩
  · intro attributes
    rw [ofAttributes_eq_ok_iff, protecting, List.filter_eq_nil_iff]
    constructor
    · rintro (⟨hnone, -⟩ | ⟨_, _, _, -, -, h⟩)
      · simpa using hnone
      · cases h
    · intro hnone
      exact .inl ⟨by simpa using hnone, rfl⟩
  · intro attributes name hidden
    rw [ofAttributes_eq_ok_iff]
    constructor
    · rintro (⟨-, h⟩ | ⟨a, _, _, hone, hgives, h⟩)
      · cases h
      · cases h
        exact ⟨a, hone, hgives⟩
    · rintro ⟨a, hone, hgives⟩
      exact .inr ⟨a, name, hidden, hone, hgives, rfl⟩
  · intro attributes others same
    rw [← ofAttributes_protecting, same, ofAttributes_protecting]
  · intro before after path tokens tokens' items others p h lists lists' same
    exact ofAttributes_eq_ok_of_perm h lists lists' same

/-- The two items of a list may change places, and a second attribute is refused for what is wrong in
it before it is refused for being there. -/
theorem pin_protected_in_either_order :
    ofAttributes [⟨"serde", .bare⟩, ⟨"protected",
        .list [.word "name", .mark '=', .text "pin", .mark ',', .word "hide_name"]⟩] =
      .ok (.secret (some "pin") true) ∧
    ofAttributes [⟨"protected", .bare⟩, ⟨"protected", .list [.word "hide"]⟩] =
      .error (.unknownOption "hide") := by
  obtain ⟨-, -, hfault, -, hreordered⟩ := protection_fails_closed
  constructor
  · exact hreordered [⟨"serde", .bare⟩] [] "protected"
      [.word "hide_name", .mark ',', .word "name", .mark '=', .text "pin"] _
      [([.word "hide_name"], false), ([.word "name", .mark '=', .text "pin"], true)]
      [([.word "name", .mark '=', .text "pin"], false), ([.word "hide_name"], true)]
      (.secret (some "pin") true) rfl (Attribute.lists_iff.2 rfl) (Attribute.lists_iff.2 rfl)
      (List.Perm.swap _ _ _)
  · have hunknown : ItemRefused [] ([.word "hide"], true) (.unknownOption "hide") :=
      @ItemRefused.unknown [] _ ⟨some "hide", [], true⟩ rfl (by decide) (by decide)
    rw [hfault]
    refine ⟨[⟨"protected", .bare⟩], _, [], rfl, ⟨?_, List.pairwise_singleton _ _⟩, .form rfl ?_⟩
    · intro a ha _
      obtain rfl := List.mem_singleton.1 ha
      exact .bare
    · exact .items (Attribute.lists_iff.2 rfl) ⟨[], _, [], rfl, fit_nil, hunknown⟩

end Redaction.Protection
