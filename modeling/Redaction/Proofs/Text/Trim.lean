import Redaction.Text.Trim

/-!
# Blanks around a text

Stripping removes exactly the blanks at the two ends: blanks put around a text are stripped again,
a text of blanks alone is stripped away, and a text that has no blank at all is left as it is.
`Stripped` says what is left without regard to how it is found.
-/

namespace Redaction.Text

variable {before cs after : List Char}

theorem trimStart_append_of_blank (h : ∀ c ∈ before, isBlank c = true) :
    trimStart (before ++ cs) = trimStart cs := by
  induction before with
  | nil => rfl
  | cons c before ih =>
      have hc := h c (by simp)
      have hrest : ∀ d ∈ before, isBlank d = true := fun d hd => h d (by simp [hd])
      rw [List.cons_append, trimStart_cons_of_blank hc, ih hrest]

theorem trimStart_of_blank (h : ∀ c ∈ before, isBlank c = true) : trimStart before = [] := by
  have hnil : trimStart (before ++ []) = trimStart [] := trimStart_append_of_blank h
  rwa [List.append_nil] at hnil

/-- Stripping the back is stripping the front of the reversed text. -/
theorem trimEnd_eq (cs : List Char) : trimEnd cs = (trimStart cs.reverse).reverse := rfl

theorem trimEnd_append_of_blank (h : ∀ c ∈ after, isBlank c = true) :
    trimEnd (cs ++ after) = trimEnd cs := by
  have hreverse : ∀ c ∈ after.reverse, isBlank c = true :=
    fun c hc => h c (List.mem_reverse.1 hc)
  rw [trimEnd_eq, List.reverse_append, trimStart_append_of_blank hreverse, ← trimEnd_eq]

/-- Nothing is stripped in front of a character that is not blank. -/
theorem trimStart_of_not_blank (h : ∀ c ∈ cs, isBlank c = false) : trimStart cs = cs := by
  cases cs with
  | nil => rfl
  | cons c cs => exact trimStart_cons_of_not_blank (h c (by simp)) cs

theorem trimEnd_of_not_blank (h : ∀ c ∈ cs, isBlank c = false) : trimEnd cs = cs := by
  have hreverse : ∀ c ∈ cs.reverse, isBlank c = false := fun c hc => h c (List.mem_reverse.1 hc)
  rw [trimEnd_eq, trimStart_of_not_blank hreverse, List.reverse_reverse]

theorem trim_of_blank (h : ∀ c ∈ before, isBlank c = true) : trim before = [] := by
  rw [trim, trimStart_of_blank h, trimEnd_nil]

/-- A text without blanks is what is left when the blanks around it are stripped. -/
theorem trim_padded (hbefore : ∀ c ∈ before, isBlank c = true)
    (hcs : ∀ c ∈ cs, isBlank c = false) (hafter : ∀ c ∈ after, isBlank c = true) :
    trim (before ++ cs ++ after) = cs := by
  rw [trim, List.append_assoc, trimStart_append_of_blank hbefore]
  cases cs with
  | nil => rw [List.nil_append, trimStart_of_blank hafter, trimEnd_nil]
  | cons c cs =>
      rw [List.cons_append, trimStart_cons_of_not_blank (hcs c (by simp)), ← List.cons_append,
        trimEnd_append_of_blank hafter, trimEnd_of_not_blank hcs]

theorem trim_of_not_blank (h : ∀ c ∈ cs, isBlank c = false) : trim cs = cs := by
  rw [trim, trimStart_of_not_blank h, trimEnd_of_not_blank h]

/-- The second text is left of the first when the blanks around it are taken away: it neither begins
nor ends with a blank. -/
structure Stripped (cs text : List Char) : Prop where
  padded : ∃ before after, cs = before ++ text ++ after ∧
    (∀ c ∈ before, isBlank c = true) ∧ ∀ c ∈ after, isBlank c = true
  first : ∀ c, text.head? = some c → isBlank c = false
  last : ∀ c, text.getLast? = some c → isBlank c = false

theorem trimStart_eq_self (h : ∀ c, cs.head? = some c → isBlank c = false) :
    trimStart cs = cs := by
  cases cs with
  | nil => rfl
  | cons c cs => exact trimStart_cons_of_not_blank (h c rfl) cs

theorem trimEnd_eq_self (h : ∀ c, cs.getLast? = some c → isBlank c = false) :
    trimEnd cs = cs := by
  have hreverse : ∀ c, cs.reverse.head? = some c → isBlank c = false := by
    intro c hc
    rw [List.head?_reverse] at hc
    exact h c hc
  rw [trimEnd_eq, trimStart_eq_self hreverse, List.reverse_reverse]

/-- Blanks are all that stripping takes from the front, and nothing blank is left there. -/
theorem exists_eq_append_trimStart (cs : List Char) :
    ∃ before, cs = before ++ trimStart cs ∧ (∀ c ∈ before, isBlank c = true) ∧
      ∀ c, (trimStart cs).head? = some c → isBlank c = false := by
  refine ⟨cs.takeWhile isBlank, List.takeWhile_append_dropWhile.symm, ?_, ?_⟩
  · intro c hc
    exact List.all_eq_true.1 List.all_takeWhile c hc
  · intro c hc
    have hhead := List.head?_dropWhile_not isBlank cs
    rw [← trimStart, hc] at hhead
    exact hhead

theorem exists_eq_trimEnd_append (cs : List Char) :
    ∃ after, cs = trimEnd cs ++ after ∧ (∀ c ∈ after, isBlank c = true) ∧
      ∀ c, (trimEnd cs).getLast? = some c → isBlank c = false := by
  obtain ⟨before, hcs, hbefore, hhead⟩ := exists_eq_append_trimStart cs.reverse
  refine ⟨before.reverse, ?_, ?_, ?_⟩
  · rw [trimEnd_eq, ← List.reverse_append, ← hcs, List.reverse_reverse]
  · intro c hc
    exact hbefore c (List.mem_reverse.1 hc)
  · intro c hc
    rw [trimEnd_eq, List.getLast?_reverse] at hc
    exact hhead c hc

theorem stripped_trim (cs : List Char) : Stripped cs (trim cs) := by
  obtain ⟨before, hcs, hbefore, hhead⟩ := exists_eq_append_trimStart cs
  obtain ⟨after, hstart, hafter, hlast⟩ := exists_eq_trimEnd_append (trimStart cs)
  refine ⟨⟨before, after, ?_, hbefore, hafter⟩, ?_, hlast⟩
  · rw [trim, List.append_assoc, ← hstart, ← hcs]
  · intro c hc
    apply hhead
    rw [trim] at hc
    rw [hstart, List.head?_append, hc, Option.some_or]

/-- Only one text is left when the blanks around a text are taken away. -/
theorem stripped_iff {text : List Char} : Stripped cs text ↔ trim cs = text := by
  constructor
  · rintro ⟨⟨before, after, rfl, hbefore, hafter⟩, first, last⟩
    rw [trim, List.append_assoc, trimStart_append_of_blank hbefore]
    cases text with
    | nil => rw [List.nil_append, trimStart_of_blank hafter, trimEnd_nil]
    | cons c text =>
        rw [List.cons_append, trimStart_cons_of_not_blank (first c rfl), ← List.cons_append,
          trimEnd_append_of_blank hafter, trimEnd_eq_self last]
  · rintro rfl
    exact stripped_trim cs

/-- Blanks in front of a text make no difference to what is left of it. -/
theorem trim_append_of_blank_left (h : ∀ c ∈ before, isBlank c = true) :
    trim (before ++ cs) = trim cs := by
  rw [trim, trimStart_append_of_blank h, trim]

/-- Blanks behind a text make no difference to what is left of it. -/
theorem trim_append_of_blank (h : ∀ c ∈ after, isBlank c = true) : trim (cs ++ after) = trim cs := by
  obtain ⟨⟨left, right, hcs, hleft, hright⟩, first, last⟩ := stripped_trim cs
  refine stripped_iff.1 ⟨⟨left, right ++ after, ?_, hleft, ?_⟩, first, last⟩
  · rw [← List.append_assoc, ← hcs]
  · intro c hc
    exact (List.mem_append.1 hc).elim (hright c) (h c)

/-- Nothing is left of blanks, and of nothing else. -/
theorem trim_eq_nil_iff : trim cs = [] ↔ ∀ c ∈ cs, isBlank c = true := by
  refine ⟨fun h => ?_, trim_of_blank⟩
  obtain ⟨before, after, hcs, hbefore, hafter⟩ := (stripped_iff.2 h).padded
  rw [hcs, List.append_nil]
  intro c hc
  exact (List.mem_append.1 hc).elim (hbefore c) (hafter c)

theorem mem_of_mem_trimStart {c : Char} (h : c ∈ trimStart cs) : c ∈ cs := by
  obtain ⟨before, hcs, -⟩ := exists_eq_append_trimStart cs
  rw [hcs]
  exact List.mem_append_right before h

theorem mem_of_mem_trim {c : Char} (h : c ∈ trim cs) : c ∈ cs := by
  obtain ⟨after, hstart, -⟩ := exists_eq_trimEnd_append (trimStart cs)
  apply mem_of_mem_trimStart
  rw [hstart]
  exact List.mem_append_left after h

end Redaction.Text
