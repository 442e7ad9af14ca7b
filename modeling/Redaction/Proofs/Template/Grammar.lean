import Mathlib.Algebra.Ring.Nat
import Redaction.Proofs.Template

/-!
# The grammar of templates

A template is a sequence of words of four kinds: a character other than a brace, either brace
doubled, and a placeholder. What stands between the braces of a placeholder is cut at its first
colon. The side before the colon, without the blanks around it, is empty, a position in decimal
digits or a name; the side after it is empty or a question mark.

Where no word begins, there is a fault, and the fault has a cause: a brace without a partner, or a
placeholder whose two sides are not as they should be. Of these the side after the colon is blamed
first. The grammar is stated here without regard to how templates are read; that a placeholder is
read as the grammar has it is proved at the end.
-/

namespace Redaction.Template

/-- The argument of a placeholder, without blanks around it: none, a position that has 64 bits at
most, or a name in ASCII. -/
inductive IsArgument : List Char → Prop where
  | none : IsArgument []
  | index {digits : List Char} (nonempty : digits ≠ []) (decimal : ∀ c ∈ digits, c.isDigit = true)
      (small : Nat.ofDigitChars 10 digits 0 < 2 ^ 64) : IsArgument digits
  | name {c : Char} {cs : List Char} (first : c = '_' ∨ c.isAlpha = true)
      (others : ∀ d ∈ cs, d = '_' ∨ d.isAlphanum = true) : IsArgument (c :: cs)

/-- What is wrong with an argument: a position is too large, or it is neither a position nor any
other argument. -/
inductive ArgumentFault : List Char → Error → Prop where
  | outOfRange {digits : List Char} (nonempty : digits ≠ [])
      (decimal : ∀ c ∈ digits, c.isDigit = true)
      (large : 2 ^ 64 ≤ Nat.ofDigitChars 10 digits 0) : ArgumentFault digits .indexOutOfRange
  | unsupported {argument : List Char} (mixed : ∃ c ∈ argument, c.isDigit = false)
      (noArgument : ¬ IsArgument argument) :
      ArgumentFault argument (.unsupportedPlaceholder (String.ofList argument))

/-- The first colon between the braces divides the argument from the format; without a colon there
is no format. -/
inductive Splits : List Char → List Char → List Char → Prop where
  | whole {argument : List Char} (noColon : ':' ∉ argument) : Splits argument argument []
  | colon {argument format : List Char} (noColon : ':' ∉ argument) :
      Splits (argument ++ ':' :: format) argument format

/-- The formats: none, which displays the field, and a question mark, which inspects it. -/
def IsFormat (format : List Char) : Prop := format = [] ∨ format = ['?']

/-- What stands between the braces is a placeholder. -/
inductive IsPlaceholder : List Char → Prop where
  | intro {inside argument format : List Char} (split : Splits inside argument format)
      (supported : IsFormat format) (read : IsArgument (Text.trim argument)) :
      IsPlaceholder inside

/-- What is wrong between the braces: the format, or else the argument. -/
inductive PlaceholderFault : List Char → Error → Prop where
  | format {inside argument format : List Char} (split : Splits inside argument format)
      (unsupported : ¬ IsFormat format) :
      PlaceholderFault inside (.unsupportedSpec (String.ofList format))
  | argument {inside argument format : List Char} {e : Error}
      (split : Splits inside argument format) (supported : IsFormat format)
      (fault : ArgumentFault (Text.trim argument) e) : PlaceholderFault inside e

/-- The words of a template. -/
inductive Word : List Char → Prop where
  | char {c : Char} (notOpen : c ≠ '{') (notClose : c ≠ '}') : Word [c]
  | doubledOpen : Word ['{', '{']
  | doubledClose : Word ['}', '}']
  | placeholder {inside : List Char} (enclosed : Enclosed inside)
      (placeholder : IsPlaceholder inside) : Word ('{' :: (inside ++ ['}']))

/-- What is wrong at the beginning of the characters: a brace is opened and never closed, a
placeholder is none, or a brace is closed that was not opened. -/
inductive Fault : List Char → Error → Prop where
  | unclosed {cs : List Char} (single : cs.head? ≠ some '{') (unclosed : '}' ∉ cs) :
      Fault ('{' :: cs) .unmatchedOpen
  | placeholder {inside rest : List Char} {e : Error} (enclosed : Enclosed inside)
      (fault : PlaceholderFault inside e) : Fault ('{' :: (inside ++ '}' :: rest)) e
  | unopened {cs : List Char} (single : cs.head? ≠ some '}') : Fault ('}' :: cs) .unmatchedClose

/-- The text is a sequence of words. -/
def IsTemplate (cs : List Char) : Prop :=
  ∃ words : List (List Char), (∀ word ∈ words, Word word) ∧ cs = words.flatten

/-- Words can be read off the text from left to right up to a place before its end where no word
begins; the fault is the one at this place. -/
def StuckWith (cs : List Char) (e : Error) : Prop :=
  ∃ (words : List (List Char)) (rest : List Char), (∀ word ∈ words, Word word) ∧
    cs = words.flatten ++ rest ∧ rest ≠ [] ∧ (∀ word, Word word → ¬ word <+: rest) ∧ Fault rest e

/-! ## Placeholders are read by the grammar -/

theorem splits_iff {inside argument format : List Char} :
    Splits inside argument format ↔ splitInside inside = (argument, format) := by
  constructor
  · intro h
    cases h with
    | whole noColon =>
        rw [splitInside, Text.cut_eq_none_iff.2 noColon]
        rfl
    | colon noColon =>
        rw [splitInside, Text.cut_eq_some_iff.2 ⟨rfl, noColon⟩]
        rfl
  · intro h
    rw [splitInside] at h
    cases hcut : Text.cut ':' inside with
    | none =>
        rw [hcut] at h
        cases h
        exact .whole (Text.cut_eq_none_iff.1 hcut)
    | some halves =>
        rw [hcut] at h
        cases h
        obtain ⟨rfl, noColon⟩ := Text.cut_eq_some_iff.1 hcut
        exact .colon noColon

theorem exists_splits (inside : List Char) : ∃ argument format, Splits inside argument format :=
  ⟨_, _, splits_iff.2 rfl⟩

theorem readMode_judged (format : List Char) :
    Judged (readMode format) (IsFormat format)
      (fun e => ¬ IsFormat format ∧ e = .unsupportedSpec (String.ofList format)) := by
  refine .of_exhaustive ?_ ?_ ?_
  · rintro (rfl | rfl)
    · exact ⟨.display, rfl⟩
    · exact ⟨.debug, rfl⟩
  · rintro e ⟨unsupported, rfl⟩
    rw [IsFormat, not_or] at unsupported
    rw [readMode, if_neg unsupported.1, if_neg unsupported.2]
  · by_cases supported : IsFormat format
    · exact .inl supported
    · exact .inr ⟨_, supported, rfl⟩

/-- No digit begins a name. -/
theorem isDigit_of_first {c : Char} (h : c = '_' ∨ c.isAlpha = true) : c.isDigit = false := by
  obtain rfl | h := h
  · decide
  · have above : '9'.val < c.val := by
      obtain upper | lower : c.isUpper = true ∨ c.isLower = true := Bool.or_eq_true_iff.1 h
      · have range : 'A'.val ≤ c.val ∧ c.val ≤ 'Z'.val := of_decide_eq_true upper
        exact UInt32.lt_of_lt_of_le (by decide) range.1
      · have low : 'a'.val ≤ c.val := of_decide_eq_true (Bool.and_eq_true_iff.1 lower).1
        exact UInt32.lt_of_lt_of_le (by decide) low
    rw [Char.isDigit, Bool.and_eq_false_iff]
    exact .inr (decide_eq_false (UInt32.not_le.2 above))

theorem isFieldName_cons_iff {c : Char} {cs : List Char} :
    isFieldName (c :: cs) = true ↔
      (c = '_' ∨ c.isAlpha = true) ∧ ∀ d ∈ cs, d = '_' ∨ d.isAlphanum = true := by
  simp [isFieldName]

/-- An argument with a character that is no digit is read as a name or not at all. -/
theorem readArgument_of_mixed {argument : List Char} (mixed : ∃ c ∈ argument, c.isDigit = false) :
    readArgument argument =
      if isFieldName argument then .ok (.key (.named (String.ofList argument)))
      else .error (.unsupportedPlaceholder (String.ofList argument)) := by
  obtain ⟨c, hc, hdigit⟩ := mixed
  have hsome : argument ≠ [] := List.ne_nil_of_mem hc
  have hall : ¬ argument.all Char.isDigit = true := by
    intro hall
    rw [List.all_eq_true.1 hall c hc] at hdigit
    cases hdigit
  rw [readArgument, if_neg hsome, if_neg hall]

/-- An argument of digits is read as a position or not at all. -/
theorem readArgument_of_decimal {digits : List Char} (nonempty : digits ≠ [])
    (decimal : ∀ c ∈ digits, c.isDigit = true) :
    readArgument digits =
      if Nat.ofDigitChars 10 digits 0 < 2 ^ 64 then
        .ok (.key (.index (Nat.ofDigitChars 10 digits 0)))
      else .error .indexOutOfRange := by
  rw [readArgument, if_neg nonempty, if_pos (List.all_eq_true.2 decimal)]
  rfl

theorem readArgument_judged (argument : List Char) :
    Judged (readArgument argument) (IsArgument argument) (ArgumentFault argument) := by
  refine .of_exhaustive ?_ ?_ ?_
  · intro h
    cases h with
    | none => exact ⟨.next, rfl⟩
    | index nonempty decimal small =>
        exact ⟨_, by rw [readArgument_of_decimal nonempty decimal, if_pos small]⟩
    | @name c cs first others =>
        have hmixed : ∃ d ∈ c :: cs, d.isDigit = false := ⟨c, by simp, isDigit_of_first first⟩
        have hname : isFieldName (c :: cs) = true := isFieldName_cons_iff.2 ⟨first, others⟩
        exact ⟨_, by rw [readArgument_of_mixed hmixed, if_pos hname]⟩
  · intro e h
    cases h with
    | outOfRange nonempty decimal large =>
        rw [readArgument_of_decimal nonempty decimal, if_neg (Nat.not_lt.2 large)]
    | unsupported mixed noArgument =>
        have hname : ¬ isFieldName argument = true := by
          intro hname
          apply noArgument
          cases argument with
          | nil => exact .none
          | cons c cs =>
              obtain ⟨first, others⟩ := isFieldName_cons_iff.1 hname
              exact .name first others
        rw [readArgument_of_mixed mixed, if_neg hname]
  · by_cases hargument : IsArgument argument
    · exact .inl hargument
    by_cases hmixed : ∃ c ∈ argument, c.isDigit = false
    · exact .inr ⟨_, .unsupported hmixed hargument⟩
    · have hsome : argument ≠ [] := by
        rintro rfl
        exact hargument .none
      have hdecimal : ∀ c ∈ argument, c.isDigit = true := by
        intro c hc
        by_contra hdigit
        exact hmixed ⟨c, hc, by simpa using hdigit⟩
      refine .inr ⟨_, .outOfRange hsome hdecimal ?_⟩
      by_contra hlarge
      exact hargument (.index hsome hdecimal (Nat.not_le.1 hlarge))

/-- What stands between braces is read if it is a placeholder; otherwise the fault is reported. -/
theorem readPlaceholder_judged (inside : List Char) :
    Judged (readPlaceholder inside) (IsPlaceholder inside) (PlaceholderFault inside) := by
  refine .of_exhaustive ?_ ?_ ?_
  · rintro ⟨split, supported, read⟩
    obtain ⟨mode, hmode⟩ := (readMode_judged _).ok.2 supported
    obtain ⟨argument, hargument⟩ := (readArgument_judged _).ok.2 read
    rw [splits_iff] at split
    refine ⟨.placeholder argument mode, ?_⟩
    rw [readPlaceholder, split, hmode, hargument]
    rfl
  · intro e h
    cases h with
    | format split unsupported =>
        have hmode := ((readMode_judged _).error _).2 ⟨unsupported, rfl⟩
        rw [splits_iff] at split
        rw [readPlaceholder, split, hmode]
        rfl
    | argument split supported fault =>
        obtain ⟨mode, hmode⟩ := (readMode_judged _).ok.2 supported
        have hargument := ((readArgument_judged _).error _).2 fault
        rw [splits_iff] at split
        rw [readPlaceholder, split, hmode, hargument]
        rfl
  · obtain ⟨argument, format, split⟩ := exists_splits inside
    by_cases supported : IsFormat format
    · obtain read | ⟨e, fault⟩ := (readArgument_judged (Text.trim argument)).exhaustive
      · exact .inl ⟨split, supported, read⟩
      · exact .inr ⟨e, .argument split supported fault⟩
    · exact .inr ⟨_, .format split supported⟩

end Redaction.Template
