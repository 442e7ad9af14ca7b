import Redaction.Proofs.Identifier
import Redaction.Proofs.Template.RoundTrip

/-!
# Names in placeholders

Names of fields are identifiers, with letters of every script. A placeholder takes a name only if
it is in ASCII, and there the two agree: a name that a placeholder can hold is an identifier in
ASCII, and every such identifier is one. So an identifier alone between braces is read as this name
if it is in ASCII, and is refused by its name if it is not.
-/

namespace Redaction

/-- All characters are in ASCII. -/
def Text.IsAscii (cs : List Char) : Prop := ∀ c ∈ cs, c.toNat < 128

instance (cs : List Char) : Decidable (Text.IsAscii cs) := List.decidableBAll _ cs

namespace Identifier

/-- The tables of identifiers up to the end of ASCII: each character is looked up. -/
theorem isStart_isContinue_ofNat :
    ∀ n < 128, isStart (Char.ofNat n) = (Char.ofNat n).isAlpha ∧
      isContinue (Char.ofNat n) = (Char.ofNat n == '_' || (Char.ofNat n).isAlphanum) := by
  decide +kernel

variable {c : Char}

theorem isStart_of_ascii (h : c.toNat < 128) : isStart c = c.isAlpha := by
  have htable := (isStart_isContinue_ofNat c.toNat h).1
  rwa [Char.ofNat_toNat] at htable

theorem isContinue_of_ascii (h : c.toNat < 128) :
    isContinue c = (c == '_' || c.isAlphanum) := by
  have htable := (isStart_isContinue_ofNat c.toNat h).2
  rwa [Char.ofNat_toNat] at htable

/-- What divides a placeholder is no part of an identifier. -/
theorem isContinue_of_punctuation (h : c = ':' ∨ c = '{' ∨ c = '}') :
    isContinue c = false := by
  obtain rfl | rfl | rfl := h <;> rw [isContinue_of_ascii (by decide)] <;> decide

end Identifier

namespace Template

/-! ## Names and identifiers -/

theorem isAscii_of_isFieldName {cs : List Char} (h : isFieldName cs = true) : Text.IsAscii cs := by
  have hword : ∀ c, c = '_' ∨ c.isAlphanum = true → c.toNat < 128 := by
    intro c hc
    have hrange := toNat_of_word hc
    omega
  cases cs with
  | nil => cases h
  | cons c cs =>
      obtain ⟨first, others⟩ := isFieldName_cons_iff.1 h
      intro d hd
      obtain rfl | hd := List.mem_cons.1 hd
      · exact hword d (first.imp_right fun halpha => by rw [Char.isAlphanum, halpha, Bool.true_or])
      · exact hword d (others d hd)

/-- In ASCII, the names that a placeholder can hold are the identifiers. -/
theorem isFieldName_eq_accepts {cs : List Char} (h : Text.IsAscii cs) :
    isFieldName cs = Identifier.accepts cs := by
  cases cs with
  | nil => rfl
  | cons c cs =>
      have hothers : cs.all (fun d => d == '_' || d.isAlphanum) = cs.all Identifier.isContinue := by
        rw [Bool.eq_iff_iff, List.all_eq_true, List.all_eq_true]
        refine forall₂_congr fun d hd => ?_
        rw [Identifier.isContinue_of_ascii (h d (List.mem_cons_of_mem c hd))]
      rw [isFieldName, hothers, Identifier.accepts, Identifier.opens,
        Identifier.isStart_of_ascii (h c List.mem_cons_self)]

/-- The names that a placeholder can hold are the identifiers in ASCII. -/
theorem isFieldName_iff {cs : List Char} :
    isFieldName cs = true ↔ Identifier.accepts cs = true ∧ Text.IsAscii cs := by
  constructor
  · intro h
    have hascii := isAscii_of_isFieldName h
    exact ⟨isFieldName_eq_accepts hascii ▸ h, hascii⟩
  · rintro ⟨haccepts, hascii⟩
    rwa [isFieldName_eq_accepts hascii]

/-- A template that is read asks for such names only. -/
theorem isFieldName_of_mem_pieces {template : String} {pieces : List Piece} {name : String}
    {mode : Mode} (parsed : parse template = .ok pieces)
    (mem : .field (.named name) mode ∈ pieces) : isFieldName name.toList = true := by
  obtain ⟨tokens, hreads, rfl⟩ := parse_eq_ok parsed
  obtain hgiven | ⟨i, -, hcounted⟩ := field_of_mem_assemble mem
  · obtain ⟨c, cs, hname, first, others⟩ := hreads.writable hgiven
    rw [hname]
    exact isFieldName_cons_iff.2 ⟨first, others⟩
  · cases hcounted

/-! ## Identifiers between braces -/

/-- The template that is nothing but a placeholder with this name. -/
def alone (name : String) : Mode → String
  | .display => "\x7b" ++ name ++ "\x7d"
  | .debug => "\x7b" ++ name ++ ":?\x7d"

theorem toList_alone (name : String) (mode : Mode) :
    (alone name mode).toList = '{' :: (name.toList ++ mode.printed ++ ['}']) := by
  cases mode <;> simp [alone, Mode.printed]

variable {cs : List Char}

theorem enclosed_of_accepts (h : Identifier.accepts cs = true) (mode : Mode) :
    Enclosed (cs ++ mode.printed) := by
  have hopen := Identifier.not_mem_of_accepts h
    (Identifier.isContinue_of_punctuation (.inr (.inl rfl)))
  have hclose := Identifier.not_mem_of_accepts h
    (Identifier.isContinue_of_punctuation (.inr (.inr rfl)))
  constructor
  · rw [List.mem_append, not_or]
    exact ⟨hclose, by cases mode <;> decide⟩
  · rw [List.head?_append_of_ne_nil _ (Identifier.ne_nil_of_accepts h)]
    exact fun hhead => hopen (List.mem_of_head? hhead)

theorem splitInside_of_accepts (h : Identifier.accepts cs = true) (mode : Mode) :
    splitInside (cs ++ mode.printed) = (cs, mode.printed.drop 1) := by
  have hcolon := Identifier.not_mem_of_accepts h (Identifier.isContinue_of_punctuation (.inl rfl))
  cases mode with
  | display =>
      rw [Mode.printed, List.append_nil]
      exact splits_iff.1 (.whole hcolon)
  | debug => exact splits_iff.1 (.colon hcolon)

/-- An identifier is a name of the argument, or is refused for what it is. -/
theorem readArgument_of_accepts (h : Identifier.accepts cs = true) :
    readArgument cs =
      if isFieldName cs then .ok (.key (.named (String.ofList cs)))
      else .error (.unsupportedPlaceholder (String.ofList cs)) := by
  apply readArgument_of_mixed
  cases cs with
  | nil => cases h
  | cons c cs =>
      refine ⟨c, List.mem_cons_self, ?_⟩
      obtain ⟨hopens, -⟩ := Bool.and_eq_true_iff.1 h
      obtain hlow | hstart := Bool.or_eq_true_iff.1 hopens
      · exact isDigit_of_first (.inl (eq_of_beq hlow))
      · -- A digit is in ASCII, where the table holds letters only.
        rw [← Bool.not_eq_true]
        intro hdigit
        have hrange := toNat_of_word (word_of_isDigit hdigit)
        rw [Identifier.isStart_of_ascii (by omega)] at hstart
        rw [isDigit_of_first (.inr hstart)] at hdigit
        cases hdigit

/-- An identifier alone between braces is one placeholder with this name, if it is in ASCII. -/
theorem parse_alone {name : String} (h : isIdentifier name = true) (mode : Mode) :
    parse (alone name mode) =
      if isFieldName name.toList then .ok [.field (.named name) mode]
      else .error (.unsupportedPlaceholder name) := by
  have htrim : Text.trim name.toList = name.toList :=
    Text.trim_of_not_blank fun c hc => Identifier.isBlank_of_accepts h hc
  have hmode : readMode (mode.printed.drop 1) = .ok mode := by cases mode <;> rfl
  rw [parse, toList_alone, scan_placeholder (enclosed_of_accepts h mode), readPlaceholder,
    splitInside_of_accepts h, hmode, htrim, readArgument_of_accepts h, String.ofList_toList]
  split <;> rfl

end Template

end Redaction
