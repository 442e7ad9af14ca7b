import Mathlib.Data.List.Chain
import Redaction.Proofs.Template.Acceptance
import Redaction.Proofs.Text.Trim

/-!
# Printed templates

Pieces are printed one after another: a literal with its braces doubled, a field as its key between
braces, followed by a colon and a question mark if it is inspected. Pieces are normal if they can
come back from this text: a literal is not empty and has no other literal beside it, and every key
is one that a placeholder can hold.

The scanner reads every way of writing tokens as these tokens, and printing pieces writes the
tokens that make the pieces. So printed pieces are scanned without a fault.
-/

namespace Redaction.Template

/-- A name in ASCII: a letter or a low line, and then letters, digits and low lines. -/
def IsName (cs : List Char) : Prop :=
  ∃ c rest, cs = c :: rest ∧ (c = '_' ∨ c.isAlpha = true) ∧
    ∀ d ∈ rest, d = '_' ∨ d.isAlphanum = true

/-- A key that a placeholder can hold: a name in ASCII, or a position of 64 bits. -/
def Key.Writable : Key → Prop
  | .named name => IsName name.toList
  | .index i => i < 2 ^ 64

/-- Neighbouring pieces are not both literals. -/
def Piece.Parted (p q : Piece) : Prop := ∀ s t, ¬ (p = .literal s ∧ q = .literal t)

/-- Pieces that are told apart when they are printed. -/
structure Normal (pieces : List Piece) : Prop where
  filled : ∀ text, Piece.literal text ∈ pieces → text ≠ ""
  parted : pieces.IsChain Piece.Parted
  keys : ∀ key mode, Piece.field key mode ∈ pieces → key.Writable

/-- A key as it is printed. -/
def Key.printed : Key → List Char
  | .named name => name.toList
  | .index i => (toString i).toList

/-- A mode as it is printed, with the colon in front. -/
def Mode.printed : Mode → List Char
  | .display => []
  | .debug => [':', '?']

/-- A character of text as it is printed: braces are doubled. -/
def printedChar (c : Char) : List Char := if c = '{' ∨ c = '}' then [c, c] else [c]

/-- A piece as it is printed. -/
def Piece.printed : Piece → List Char
  | .literal text => text.toList.flatMap printedChar
  | .field key mode => '{' :: (key.printed ++ mode.printed ++ ['}'])

/-- The template that pieces are printed as. -/
def print (pieces : List Piece) : String := String.ofList (pieces.flatMap Piece.printed)

/-- The tokens that make a piece. -/
def Piece.tokens : Piece → List Token
  | .literal text => text.toList.map .char
  | .field key mode => [.placeholder (.key key) mode]

/-! ## Keys between braces -/

/-- The characters of names and numbers are none of those that mean something in a template. -/
theorem toNat_of_word {c : Char} (h : c = '_' ∨ c.isAlphanum = true) :
    48 ≤ c.toNat ∧ c.toNat ≤ 122 ∧ c.toNat ≠ 58 := by
  obtain rfl | h := h
  · decide
  · obtain letter | digit : c.isAlpha = true ∨ c.isDigit = true := Bool.or_eq_true_iff.1 h
    · obtain upper | lower : c.isUpper = true ∨ c.isLower = true := Bool.or_eq_true_iff.1 letter
      · have range : 'A'.val ≤ c.val ∧ c.val ≤ 'Z'.val := of_decide_eq_true upper
        have low : 65 ≤ c.toNat := UInt32.le_iff_toNat_le.1 range.1
        have high : c.toNat ≤ 90 := UInt32.le_iff_toNat_le.1 range.2
        omega
      · obtain ⟨above, below⟩ := Bool.and_eq_true_iff.1 lower
        have low : 97 ≤ c.toNat := UInt32.le_iff_toNat_le.1 (of_decide_eq_true above)
        have high : c.toNat ≤ 122 := UInt32.le_iff_toNat_le.1 (of_decide_eq_true below)
        omega
    · obtain ⟨above, below⟩ := Bool.and_eq_true_iff.1 digit
      have low : 48 ≤ c.toNat := UInt32.le_iff_toNat_le.1 (of_decide_eq_true above)
      have high : c.toNat ≤ 57 := UInt32.le_iff_toNat_le.1 (of_decide_eq_true below)
      omega

theorem isBlank_of_word {c : Char} (h : c = '_' ∨ c.isAlphanum = true) :
    Text.isBlank c = false := by
  have hrange : ∀ n ∈ List.range' 48 75, Text.CodeRange.covered Text.blankRanges n = false := by
    decide
  have hcode := toNat_of_word h
  apply hrange
  rw [List.mem_range'_1]
  omega

theorem ne_of_word {c d : Char} (h : c = '_' ∨ c.isAlphanum = true)
    (hd : d = ':' ∨ d = '{' ∨ d = '}') : c ≠ d := by
  rintro rfl
  have hcode := toNat_of_word h
  obtain rfl | rfl | rfl := hd <;> exact absurd hcode (by decide)

/-- A name does not begin with a digit. -/
theorem IsName.mixed {cs : List Char} (h : IsName cs) : ∃ c ∈ cs, c.isDigit = false := by
  obtain ⟨c, rest, rfl, first, _⟩ := h
  exact ⟨c, List.mem_cons_self, isDigit_of_first first⟩

theorem word_of_isDigit {c : Char} (h : c.isDigit = true) : c = '_' ∨ c.isAlphanum = true :=
  .inr (by rw [Char.isAlphanum, h, Bool.or_true])

theorem toList_toString (i : Nat) : (toString i).toList = Nat.toDigits 10 i :=
  Nat.toList_repr

/-- A key that can be printed is printed in characters of names and numbers. -/
theorem Key.Writable.word {key : Key} (h : key.Writable) :
    ∀ c ∈ key.printed, c = '_' ∨ c.isAlphanum = true := by
  intro c hc
  cases key with
  | named name =>
      obtain ⟨first, rest, hname, hfirst, hrest⟩ := h
      rw [Key.printed, hname] at hc
      obtain rfl | hc := List.mem_cons.1 hc
      · exact hfirst.imp_right fun halpha => by rw [Char.isAlphanum, halpha, Bool.true_or]
      · exact hrest c hc
  | index i =>
      rw [Key.printed, toList_toString] at hc
      exact word_of_isDigit (Nat.isDigit_of_mem_toDigits (by decide) (by decide) hc)

theorem Key.Writable.ne_nil {key : Key} (h : key.Writable) : key.printed ≠ [] := by
  cases key with
  | named name =>
      obtain ⟨first, rest, hname, _⟩ := h
      rw [Key.printed, hname]
      exact List.cons_ne_nil first rest
  | index i =>
      rw [Key.printed, toList_toString]
      exact Nat.toDigits_ne_nil

/-- A printed key is read as itself. -/
theorem Key.Writable.readArgument_eq {key : Key} (h : key.Writable) :
    readArgument key.printed = .ok (.key key) := by
  cases key with
  | named name =>
      have hmixed := IsName.mixed h
      obtain ⟨first, rest, hname, hfirst, hrest⟩ := h
      have haccepted : isFieldName name.toList = true := by
        rw [hname]
        exact isFieldName_cons_iff.2 ⟨hfirst, hrest⟩
      rw [Key.printed, readArgument_of_mixed hmixed, if_pos haccepted, String.ofList_toList]
  | index i =>
      have hsmall : i < 2 ^ 64 := h
      have hdecimal : ∀ c ∈ Nat.toDigits 10 i, c.isDigit = true :=
        fun c hc => Nat.isDigit_of_mem_toDigits (by decide) (by decide) hc
      have hvalue : Nat.ofDigitChars 10 (Nat.toDigits 10 i) 0 = i :=
        Nat.ofDigitChars_toDigits (by decide) (by decide)
      rw [Key.printed, toList_toString, readArgument_of_decimal Nat.toDigits_ne_nil hdecimal,
        hvalue, if_pos hsmall]

theorem Key.Writable.trim_printed {key : Key} (h : key.Writable) :
    Text.trim key.printed = key.printed :=
  Text.trim_of_not_blank fun c hc => isBlank_of_word (h.word c hc)

/-- What is printed between braces is read as the key and the mode. -/
theorem Key.Writable.readPlaceholder_eq {key : Key} (h : key.Writable) (mode : Mode) :
    readPlaceholder (key.printed ++ mode.printed) = .ok (.placeholder (.key key) mode) := by
  have hcolon : ':' ∉ key.printed := fun hc => ne_of_word (h.word _ hc) (.inl rfl) rfl
  cases mode with
  | display =>
      have hsplit := splits_iff.1 (.whole hcolon)
      rw [Mode.printed, List.append_nil, readPlaceholder, hsplit, h.trim_printed,
        h.readArgument_eq]
      rfl
  | debug =>
      have hsplit : splitInside (key.printed ++ [':', '?']) = (key.printed, ['?']) :=
        splits_iff.1 (.colon hcolon)
      rw [Mode.printed, readPlaceholder, hsplit, h.trim_printed, h.readArgument_eq]
      rfl

theorem Key.Writable.enclosed {key : Key} (h : key.Writable) (mode : Mode) :
    Enclosed (key.printed ++ mode.printed) := by
  constructor
  · intro hmem
    obtain hmem | hmem := List.mem_append.1 hmem
    · exact ne_of_word (h.word _ hmem) (.inr (.inr rfl)) rfl
    · cases mode <;> simp [Mode.printed] at hmem
  · rw [List.head?_append_of_ne_nil _ h.ne_nil]
    intro hhead
    exact ne_of_word (h.word _ (List.mem_of_head? hhead)) (.inr (.inl rfl)) rfl

/-! ## Printed pieces are scanned as their tokens -/

theorem Reads.append {cs ds : List Char} {tokens others : List Token} (h : Reads cs tokens)
    (h' : Reads ds others) : Reads (cs ++ ds) (tokens ++ others) := by
  induction h with
  | nil => exact h'
  | cons here _ ih =>
      rw [List.append_assoc]
      exact .cons here ih

/-- However tokens are written, they are scanned as these tokens. -/
theorem Reads.scan_eq {cs : List Char} {tokens : List Token} (h : Reads cs tokens) :
    scan .text cs = .ok tokens := by
  induction h with
  | nil => rfl
  | cons here _ ih =>
      rw [scan_written_append here, ih]
      rfl

theorem written_printedChar (c : Char) : (Token.char c).Written (printedChar c) := by
  rw [printedChar]
  split
  next hbrace =>
    obtain rfl | rfl := hbrace
    · exact .doubledOpen
    · exact .doubledClose
  next hbrace =>
    rw [not_or] at hbrace
    exact .char hbrace.1 hbrace.2

/-- A text is printed as its characters. -/
theorem reads_printedChars (cs : List Char) : Reads (cs.flatMap printedChar) (cs.map .char) := by
  induction cs with
  | nil => exact .nil
  | cons c cs ih => exact .cons (written_printedChar c) ih

theorem Piece.reads_printed {p : Piece} (h : ∀ key mode, p = .field key mode → key.Writable) :
    Reads p.printed p.tokens := by
  cases p with
  | literal text => exact reads_printedChars text.toList
  | field key mode =>
      have hkey : key.Writable := h key mode rfl
      have hwritten := Token.Written.placeholder (hkey.enclosed mode) (hkey.readPlaceholder_eq mode)
      have hreads := Reads.cons hwritten .nil
      rwa [List.append_nil] at hreads

/-- Pieces with printable keys are printed as the tokens that make them. -/
theorem reads_print {pieces : List Piece}
    (h : ∀ key mode, Piece.field key mode ∈ pieces → key.Writable) :
    Reads (print pieces).toList (pieces.flatMap Piece.tokens) := by
  rw [print, String.toList_ofList]
  induction pieces with
  | nil => exact .nil
  | cons p rest ih =>
      have hfirst : Reads p.printed p.tokens :=
        p.reads_printed fun key mode hp => h key mode (hp ▸ List.mem_cons_self)
      exact hfirst.append (ih fun key mode hp => h key mode (List.mem_cons_of_mem p hp))

end Redaction.Template
