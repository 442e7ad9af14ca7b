import Redaction.Proofs.Derivation.Acceptance

/-!
# Attributes `compose` in any order

What the attributes `compose` of a declaration or variant ask for is in these attributes, taken
together: the template is the one that some attribute gives, and `skip_display` is asked for if it
stands in some list. So they may stand in any order, and among other attributes or not. The same is
true of a variant, which must not ask for `skip_display`; but this counts only where the attributes
are understood.
-/

namespace Redaction

namespace Compose

/-- The attributes with the path `compose`. -/
def composing (attributes : List Attribute) : List Attribute :=
  attributes.filter fun a => a.path = "compose"

variable {attributes others : List Attribute} {given : Compose}

/-- Attributes with other paths are passed over. -/
theorem ofAttributes_composing (attributes : List Attribute) :
    ofAttributes (composing attributes) = ofAttributes attributes := by
  refine stepThrough.run_filter (fun given a hother => ?_) {} attributes
  rw [takeOne, if_neg (by simpa using hother)]

/-- The attributes say one thing only. -/
theorem Says.unique {other : Compose} (h : Says attributes given) (h' : Says attributes other) :
    given = other := by
  obtain ⟨template, skip⟩ := given
  obtain ⟨template', skip'⟩ := other
  have htemplate : template = template' :=
    Option.ext fun text => (h.template text).trans (h'.template text).symm
  have hskip : skip = skip' := Bool.eq_iff_iff.2 (h.skipDisplay.trans h'.skipDisplay.symm)
  rw [htemplate, hskip]

theorem ofAttributes_eq_ok_iff :
    ofAttributes attributes = .ok given ↔ WellFormed attributes ∧ Says attributes given := by
  constructor
  · intro h
    exact ⟨(ofAttributes_judged attributes).ok.1 ⟨given, h⟩, says_of_ofAttributes h⟩
  · rintro ⟨formed, hgiven⟩
    obtain ⟨other, hother⟩ := (ofAttributes_judged attributes).ok.2 formed
    rw [hother, (says_of_ofAttributes hother).unique hgiven]

theorem WellFormed.of_perm (h : WellFormed attributes) (same : attributes.Perm others) :
    WellFormed others :=
  Fit.of_perm h (fun first hagain hgives => first hgives hagain) same

theorem Says.of_perm (h : Says attributes given) (same : attributes.Perm others) :
    Says others given where
  template text := by
    rw [h.template text]
    simp only [same.mem_iff]
  skipDisplay := by
    rw [h.skipDisplay, Skips, Skips]
    simp only [same.mem_iff]

/-- The attributes with the path `compose` may be put in another order, and those with other paths
may be put anywhere, taken away or changed. -/
theorem ofAttributes_eq_ok_of_perm (h : ofAttributes attributes = .ok given)
    (same : (composing attributes).Perm (composing others)) : ofAttributes others = .ok given := by
  rw [← ofAttributes_composing, ofAttributes_eq_ok_iff] at h ⊢
  exact ⟨h.1.of_perm same, h.2.of_perm same⟩

end Compose

namespace Derivation

open Compose

/-- A variant is refused for `skip_display` only if its attributes are understood. -/
theorem variantTemplate_judged (attributes : List Attribute) :
    Judged (variantTemplate attributes) (WellFormed attributes ∧ ¬ Skips attributes)
      (fun e => Faulty attributes e ∨
        WellFormed attributes ∧ Skips attributes ∧ e = .skipDisplayOnVariant) := by
  refine (compose_judged attributes).bind fun given hgiven => ?_
  rw [← (says_of_ofAttributes (mapError_eq_ok.1 hgiven)).skipDisplay]
  split
  next hskips =>
    exact .of_error ⟨hskips, rfl⟩ (fun noSkip => noSkip hskips) fun _ h => h.2
  next noSkip => exact .of_ok noSkip fun _ h => noSkip h.1

theorem variantTemplate_eq_ok_iff {attributes : List Attribute} {template : Option String} :
    variantTemplate attributes = .ok template ↔
      ofAttributes attributes = .ok ⟨template, false⟩ := by
  rw [variantTemplate, bind_eq_ok]
  simp only [mapError_eq_ok]
  constructor
  · rintro ⟨⟨text, skip⟩, hgiven, h⟩
    cases skip with
    | true => cases h
    | false =>
        cases h
        exact hgiven
  · intro h
    exact ⟨_, h, rfl⟩

end Derivation

namespace Compose

open Redaction.Derivation (variantTemplate)

/-- Attributes are understood if and only if every one with the path `compose` is, and one at most
gives a template; then the template is the one that is given, and `skip_display` is asked for if and
only if it stands in some list. Otherwise there is an error, which is the fault of the first
attribute that is not understood or gives a second template. Neither the order of the attributes
with the path `compose` nor anything about other attributes makes a difference. A variant has the
template that its attributes give, and is refused if they ask for `skip_display`; if they are not
understood, it is refused for that. -/
theorem attributes_read_in_any_order :
    (∀ attributes, (∃ given, ofAttributes attributes = .ok given) ↔ WellFormed attributes) ∧
    (∀ attributes given, ofAttributes attributes = .ok given → Says attributes given) ∧
    (∀ attributes fault, ofAttributes attributes = .error fault ↔
      FirstRefused WellFormed Refused attributes fault) ∧
    (∀ attributes others, (composing attributes).Perm (composing others) → ∀ given,
      ofAttributes attributes = .ok given ↔ ofAttributes others = .ok given) ∧
    (∀ attributes others, composing attributes = composing others →
      ofAttributes attributes = ofAttributes others) ∧
    (∀ attributes, (∃ template, variantTemplate attributes = .ok template) ↔
      WellFormed attributes ∧ ¬ Skips attributes) ∧
    (∀ attributes template, variantTemplate attributes = .ok template ↔
      ofAttributes attributes = .ok ⟨template, false⟩) ∧
    (∀ attributes fault, variantTemplate attributes = .error fault ↔
      (∃ first, ofAttributes attributes = .error first ∧ fault = .compose first) ∨
        WellFormed attributes ∧ Skips attributes ∧ fault = .skipDisplayOnVariant) := by
  refine ⟨fun attributes => (ofAttributes_judged attributes).ok,
    fun _ _ => says_of_ofAttributes,
    fun attributes fault => (ofAttributes_judged attributes).error fault, ?_, ?_,
    fun attributes => (Derivation.variantTemplate_judged attributes).ok,
    fun _ _ => Derivation.variantTemplate_eq_ok_iff, ?_⟩
  · intro attributes others same given
    exact ⟨fun h => ofAttributes_eq_ok_of_perm h same,
      fun h => ofAttributes_eq_ok_of_perm h same.symm⟩
  · intro attributes others same
    rw [← ofAttributes_composing, same, ofAttributes_composing]
  · intro attributes fault
    rw [(Derivation.variantTemplate_judged attributes).error fault]
    refine or_congr_left ?_
    constructor
    · rintro ⟨first⟩
      exact ⟨_, ((ofAttributes_judged attributes).error _).2 first, rfl⟩
    · rintro ⟨first, hfirst, rfl⟩
      exact .intro (((ofAttributes_judged attributes).error first).1 hfirst)

/-- An option in front of a template is taken as well as one behind it. -/
theorem option_before_template :
    ofAttributes [⟨"compose", .list [.word "skip_display", .mark ',']⟩, ⟨"serde", .bare⟩,
        ⟨"compose", .list [.text "\x7b0\x7d"]⟩] = .ok ⟨some "\x7b0\x7d", true⟩ := by
  obtain ⟨-, -, -, hreordered, -⟩ := attributes_read_in_any_order
  refine (hreordered [⟨"compose", .list [.text "\x7b0\x7d"]⟩,
    ⟨"compose", .list [.word "skip_display", .mark ',']⟩] _ ?_ _).1 rfl
  exact List.Perm.swap _ _ _

end Compose

end Redaction
