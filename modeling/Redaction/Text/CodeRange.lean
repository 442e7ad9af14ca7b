/-!
# Ranges of code points

A property of characters is a list of closed ranges of code points, ascending and apart. Looking
a character up stops at the first range that ends at or after it, so a list in ascending order is
searched no further than needed, and on such a list the answer is membership in one of the ranges.
-/

namespace Redaction.Text

/-- The code points from `first` to `last`, both included. -/
structure CodeRange where
  first : Nat
  last : Nat
  deriving DecidableEq, Repr

namespace CodeRange

/-- A code point lies between the ends of the range. -/
def Covers (r : CodeRange) (n : Nat) : Prop := r.first ≤ n ∧ n ≤ r.last

instance (r : CodeRange) (n : Nat) : Decidable (r.Covers n) :=
  inferInstanceAs (Decidable (_ ∧ _))

/-- A code point lies in one of the ranges of an ascending list. -/
def covered : List CodeRange → Nat → Bool
  | [], _ => false
  | r :: rs, n => if n ≤ r.last then decide (r.first ≤ n) else covered rs n

/-- Each range is non-empty and ends before the next one begins. -/
def ascending : List CodeRange → Bool
  | [] => true
  | [r] => decide (r.first ≤ r.last)
  | r :: s :: rs => decide (r.first ≤ r.last) && decide (r.last < s.first) && ascending (s :: rs)

/-- A code point that the search finds lies in one of the ranges. -/
theorem exists_covers_of_covered {rs : List CodeRange} {n : Nat} (h : covered rs n = true) :
    ∃ r ∈ rs, r.Covers n := by
  induction rs with
  | nil => simp [covered] at h
  | cons r rs ih =>
    by_cases hn : n ≤ r.last
    · simp only [covered, if_pos hn, decide_eq_true_eq] at h
      exact ⟨r, by simp, h, hn⟩
    · simp only [covered, if_neg hn] at h
      obtain ⟨s, hs, hc⟩ := ih h
      exact ⟨s, by simp [hs], hc⟩

end CodeRange

end Redaction.Text
