import Mathlib.Data.List.Basic
import Mathlib.Data.List.Nodup
import Mathlib.Data.List.Perm.Basic

/-!
# In the order of first use

A list that collects whatever is used along a sequence, each once, is determined by what is used at
which position: its members are what is used somewhere, and one stands before another if it is used
before the other is used at all. Dropping repetitions collects in this way.
-/

namespace Redaction

variable {α β γ : Type}

/-- What is used at one of the positions, each once, in the order of first use. -/
structure FirstUses (usedAt : Nat → α → Prop) (l : List α) : Prop where
  members : ∀ a, a ∈ l ↔ ∃ i, usedAt i a
  ordered : l.Pairwise fun a b => ∃ i, usedAt i a ∧ ∀ j ≤ i, ¬ usedAt j b

namespace FirstUses

variable {usedAt : Nat → α → Prop} {l : List α}

theorem nodup (h : FirstUses usedAt l) : l.Nodup := by
  refine h.ordered.imp fun {a b} hab => ?_
  rintro rfl
  obtain ⟨i, used, unused⟩ := hab
  exact unused i (Nat.le_refl i) used

theorem congr {usedAt' : Nat → α → Prop} (h : FirstUses usedAt l)
    (same : ∀ i a, usedAt i a ↔ usedAt' i a) : FirstUses usedAt' l := by
  have heq : usedAt = usedAt' := funext fun i => funext fun a => propext (same i a)
  rwa [← heq]

/-- Of two that are used, each before the other, neither can be the first. -/
theorem not_before_of_before {a b : α} (hab : ∃ i, usedAt i a ∧ ∀ j ≤ i, ¬ usedAt j b) :
    ¬ ∃ i, usedAt i b ∧ ∀ j ≤ i, ¬ usedAt j a := by
  obtain ⟨i, usedA, unusedB⟩ := hab
  rintro ⟨k, usedB, unusedA⟩
  obtain hik | hki := Nat.le_total i k
  · exact unusedA i hik usedA
  · exact unusedB k hki usedB

/-- There is one such list only. -/
theorem unique {others : List α} (h : FirstUses usedAt l) (h' : FirstUses usedAt others) :
    l = others := by
  refine List.Perm.eq_of_pairwise ?_ h.ordered h'.ordered ?_
  · intro a b _ _ hab hba
    exact absurd hba (not_before_of_before hab)
  · rw [List.perm_ext_iff_of_nodup h.nodup h'.nodup]
    intro a
    rw [h.members, h'.members]

/-- One member stands before another if and only if it is used before the other is. -/
theorem lt_iff (h : FirstUses usedAt l) {m n : Nat} {a b : α} (hm : l[m]? = some a)
    (hn : l[n]? = some b) : m < n ↔ ∃ i, usedAt i a ∧ ∀ j ≤ i, ¬ usedAt j b := by
  have hordered : ∀ {m n : Nat} {a b : α}, l[m]? = some a → l[n]? = some b → m < n →
      ∃ i, usedAt i a ∧ ∀ j ≤ i, ¬ usedAt j b := by
    intro m n a b hm hn hlt
    obtain ⟨hml, rfl⟩ := List.getElem?_eq_some_iff.1 hm
    obtain ⟨hnl, rfl⟩ := List.getElem?_eq_some_iff.1 hn
    exact List.pairwise_iff_getElem.1 h.ordered m n hml hnl hlt
  refine ⟨hordered hm hn, fun hbefore => ?_⟩
  obtain hlt | heq | hgt := Nat.lt_trichotomy m n
  · exact hlt
  · subst heq
    obtain rfl := Option.some.inj (hm.symm.trans hn)
    exact absurd hbefore (not_before_of_before hbefore)
  · exact absurd (hordered hn hm hgt) (not_before_of_before hbefore)

/-- What stands for the members one to one is used where they are, and collected in their order. -/
theorem filterMap (h : FirstUses usedAt l) {f : α → Option γ}
    (injective : ∀ a b c, f a = some c → f b = some c → a = b) :
    FirstUses (fun i c => ∃ a, usedAt i a ∧ f a = some c) (l.filterMap f) := by
  refine ⟨fun c => ?_, ?_⟩
  · rw [List.mem_filterMap]
    constructor
    · rintro ⟨a, mem, hf⟩
      obtain ⟨i, used⟩ := (h.members a).1 mem
      exact ⟨i, a, used, hf⟩
    · rintro ⟨i, a, used, hf⟩
      exact ⟨a, (h.members a).2 ⟨i, used⟩, hf⟩
  · rw [List.pairwise_filterMap]
    refine h.ordered.imp fun {a b} hab c hc d hd => ?_
    obtain ⟨i, used, unused⟩ := hab
    refine ⟨i, ⟨a, used, hc⟩, ?_⟩
    rintro j hj ⟨b', used', hd'⟩
    obtain rfl := injective b' b d hd' hd
    exact unused j hj used'

end FirstUses

/-- Dropping repetitions from what a list uses keeps each at its first use. -/
theorem firstUses_eraseDups [BEq γ] [LawfulBEq γ] (f : β → Option γ) (l : List β) :
    FirstUses (fun i c => ∃ b, l[i]? = some b ∧ f b = some c) (l.filterMap f).eraseDups := by
  refine ⟨fun c => ?_, ?_⟩
  · rw [List.mem_eraseDups, List.mem_filterMap]
    constructor
    · rintro ⟨b, mem, hf⟩
      obtain ⟨i, hi⟩ := List.mem_iff_getElem?.1 mem
      exact ⟨i, b, hi, hf⟩
    · rintro ⟨i, b, hi, hf⟩
      exact ⟨b, List.mem_of_getElem? hi, hf⟩
  -- What repeats the head is left out of the rest, so the induction is over what is used of each.
  induction l generalizing f with
  | nil => exact .nil
  | cons x l ih =>
      cases hx : f x with
      | none =>
          rw [List.filterMap_cons_none hx]
          refine (ih f).imp fun {c d} hcd => ?_
          obtain ⟨i, ⟨b, hi, hf⟩, unused⟩ := hcd
          refine ⟨i + 1, ⟨b, hi, hf⟩, ?_⟩
          rintro (_ | j) hj ⟨b', hb', hf'⟩
          · obtain rfl := Option.some.inj hb'
            rw [hx] at hf'
            cases hf'
          · exact unused j (Nat.le_of_succ_le_succ hj) ⟨b', hb', hf'⟩
      | some head =>
          let rest (b : β) : Option γ := (f b).filter fun c => !c == head
          have hrest : ∀ {b c}, rest b = some c ↔ f b = some c ∧ c ≠ head := by
            intro b c
            simp [rest, Option.filter_eq_some_iff]
          have hfilter : (l.filterMap f).filter (fun c => !c == head) = l.filterMap rest :=
            List.filter_filterMap
          rw [List.filterMap_cons_some hx, List.eraseDups_cons, hfilter]
          refine .cons (fun d hd => ?_) ((ih rest).imp_of_mem fun {c d} hc hd hcd => ?_)
          all_goals
            rw [List.mem_eraseDups, List.mem_filterMap] at hd
            obtain ⟨_, _, hd⟩ := hd
            have hne : d ≠ head := (hrest.1 hd).2
          · refine ⟨0, ⟨x, rfl, hx⟩, ?_⟩
            rintro j hj ⟨b, hb, hf⟩
            obtain rfl := Nat.le_zero.1 hj
            obtain rfl := Option.some.inj hb
            exact hne (Option.some.inj (hf.symm.trans hx))
          · obtain ⟨i, ⟨b, hi, hf⟩, unused⟩ := hcd
            refine ⟨i + 1, ⟨b, hi, (hrest.1 hf).1⟩, ?_⟩
            rintro (_ | j) hj ⟨b', hb', hf'⟩
            · obtain rfl := Option.some.inj hb'
              exact hne (Option.some.inj (hf'.symm.trans hx))
            · exact unused j (Nat.le_of_succ_le_succ hj) ⟨b', hb', hrest.2 ⟨hf', hne⟩⟩

end Redaction
