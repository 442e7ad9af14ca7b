import Redaction.Text.Blank
import Redaction.Text.LetterCase

/-!
# Letter case makes no blanks

A character that is not blank has an image in capital and in small letters, of one character at
least, and none of them is blank. So words keep their number and their borders when the case of
their letters changes.
-/

namespace Redaction.Text

/-- The images of a run lie as close together as the characters of the run. -/
theorem CaseRun.exists_of_find? {rs : List CaseRun} {n m : Nat} (h : find? rs n = some m) :
    ∃ r ∈ rs, r.image ≤ m ∧ m ≤ r.image + (r.last - r.first) := by
  induction rs with
  | nil => cases h
  | cons r rs ih =>
      rw [find?] at h
      split at h
      next hlast =>
        rw [imageOf?] at h
        split at h
        next =>
          cases h
          exact ⟨r, List.mem_cons_self, by omega, by omega⟩
        next => cases h
      next =>
        obtain ⟨s, hs, hm⟩ := ih h
        exact ⟨s, List.mem_cons_of_mem r hs, hm⟩

/-- From the first image of a run to the last there is no blank. -/
def CaseRun.Unblank (r : CaseRun) : Prop :=
  ∀ b ∈ blankRanges, r.image + (r.last - r.first) < b.first ∨ b.last < r.image

instance (r : CaseRun) : Decidable r.Unblank := List.decidableBAll _ blankRanges

theorem unblank_of_mem_runs : ∀ r ∈ upperRuns ++ lowerRuns, r.Unblank := by decide +kernel

theorem expansion_not_blank : ∀ e ∈ upperExpansions ++ lowerExpansions,
    e.2 ≠ [] ∧ ∀ n ∈ e.2, isBlank (Char.ofNat n) = false := by decide +kernel

theorem first_pos_of_mem_blankRanges : ∀ b ∈ blankRanges, 0 < b.first := by decide

variable {runs : List CaseRun} {expansions : List (Nat × List Nat)} {c : Char}

theorem isBlank_ofNat_of_find? (hruns : ∀ r ∈ runs, r.Unblank) {n m : Nat}
    (h : CaseRun.find? runs n = some m) : isBlank (Char.ofNat m) = false := by
  obtain ⟨r, hr, hfirst, hlast⟩ := CaseRun.exists_of_find? h
  rw [← Bool.not_eq_true]
  intro hblank
  obtain ⟨b, hb, hstart, hend⟩ := CodeRange.exists_covers_of_covered hblank
  have hapart := hruns r hr b hb
  have hpos := first_pos_of_mem_blankRanges b hb
  -- A number that is no code point makes the character of code point zero.
  have hcode : (Char.ofNat m).toNat = m ∨ (Char.ofNat m).toNat = 0 := by
    by_cases valid : m.isValidChar
    · rw [Char.ofNat, dif_pos valid]
      exact .inl rfl
    · rw [Char.ofNat, dif_neg valid]
      exact .inr rfl
  omega

/-- The image of a character that is not blank, under a mapping whose tables hold no blanks. -/
theorem caseImage_not_blank (hruns : ∀ r ∈ runs, r.Unblank)
    (hexpansions : ∀ e ∈ expansions, e.2 ≠ [] ∧ ∀ n ∈ e.2, isBlank (Char.ofNat n) = false)
    (h : isBlank c = false) :
    caseImage runs expansions c ≠ [] ∧ ∀ d ∈ caseImage runs expansions c, isBlank d = false := by
  rw [caseImage]
  split
  next m hfind =>
    refine ⟨List.cons_ne_nil _ _, fun d hd => ?_⟩
    rw [List.mem_singleton.1 hd]
    exact isBlank_ofNat_of_find? hruns hfind
  next =>
    split
    next ns hlookup =>
      obtain ⟨before, after, hsplit, -⟩ := List.lookup_eq_some_iff.1 hlookup
      have hmem : (c.toNat, ns) ∈ expansions := by simp [hsplit]
      obtain ⟨some, hns⟩ := hexpansions _ hmem
      refine ⟨by simpa using some, fun d hd => ?_⟩
      obtain ⟨n, hn, rfl⟩ := List.mem_map.1 hd
      exact hns n hn
    next =>
      refine ⟨List.cons_ne_nil _ _, fun d hd => ?_⟩
      rwa [List.mem_singleton.1 hd]

theorem upper_not_blank (h : isBlank c = false) :
    upper c ≠ [] ∧ ∀ d ∈ upper c, isBlank d = false :=
  caseImage_not_blank (fun r hr => unblank_of_mem_runs r (List.mem_append_left _ hr))
    (fun e he => expansion_not_blank e (List.mem_append_left _ he)) h

theorem lower_not_blank (h : isBlank c = false) :
    lower c ≠ [] ∧ ∀ d ∈ lower c, isBlank d = false :=
  caseImage_not_blank (fun r hr => unblank_of_mem_runs r (List.mem_append_right _ hr))
    (fun e he => expansion_not_blank e (List.mem_append_right _ he)) h

end Redaction.Text
