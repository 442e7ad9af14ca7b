import Redaction.Proofs.Text.Legible
import Redaction.Text.JsonString

/-!
# JSON strings can be read back

A reader of JSON that knows the escapes reads every character as it was meant. So texts have the
same JSON string only if they are the same.
-/

namespace Redaction.Text

/-- The character that is meant by the letter of an escape. -/
def jsonUnescaped : Char → Char
  | 'b' => '\x08'
  | 'f' => '\x0c'
  | 'n' => '\n'
  | 'r' => '\r'
  | 't' => '\t'
  | c => c

/-- The first character of a JSON string, and what follows it. -/
def readJson : List Char → Option (Char × List Char)
  | [] => none
  | '\\' :: 'u' :: a :: b :: c :: d :: cs => some (Char.ofNat (ofHex [a, b, c, d]), cs)
  | '\\' :: c :: cs => some (jsonUnescaped c, cs)
  | c :: cs => some (c, cs)

theorem jsonLetter?_eq_some {c x : Char} (h : jsonLetter? c = some x) :
    jsonUnescaped x = c ∧ x ≠ 'u' := by
  unfold jsonLetter? at h
  split at h <;> cases h <;> decide

theorem jsonLetter?_eq_none {c : Char} (h : jsonLetter? c = none) : c ≠ '\\' ∧ c ≠ '"' := by
  constructor
  · rintro rfl
    cases h
  · rintro rfl
    cases h

theorem readJson_short {x : Char} (h : x ≠ 'u') (rest : List Char) :
    readJson ('\\' :: x :: rest) = some (jsonUnescaped x, rest) := by
  rw [readJson.eq_3]
  rintro a b c d cs rfl
  exact absurd rfl h

theorem readJson_plain {c : Char} (h : c ≠ '\\') (rest : List Char) :
    readJson (c :: rest) = some (c, rest) := by
  rw [readJson.eq_4]
  · rintro a b c d cs rfl
    exact absurd rfl h
  · rintro x cs rfl
    exact absurd rfl h

/-- A control character is given by two hexadecimal digits behind two zeros. -/
theorem readJson_control {c : Char} (h : c.toNat < 0x20) (rest : List Char) :
    readJson ('\\' :: 'u' :: '0' :: '0' :: Nat.digitChar (c.toNat / 16) ::
      Nat.digitChar (c.toNat % 16) :: rest) = some (c, rest) := by
  have hzero : hexValue '0' = 0 := rfl
  have hhigh := hexValue_digitChar (c.toNat / 16) (by omega)
  have hlow := hexValue_digitChar (c.toNat % 16) (by omega)
  have hcode : ofHex ['0', '0', Nat.digitChar (c.toNat / 16), Nat.digitChar (c.toNat % 16)] =
      c.toNat := by
    simp only [ofHex, List.foldl_cons, List.foldl_nil, hzero, hhigh, hlow, Nat.mul_zero,
      Nat.zero_add]
    exact Nat.div_add_mod c.toNat 16
  rw [readJson, hcode, Char.ofNat_toNat]

/-- A character that is written is read, and what follows it is left. -/
theorem readJson_jsonChar (c : Char) (rest : List Char) :
    readJson (jsonChar c ++ rest) = some (c, rest) := by
  rw [jsonChar]
  cases hletter : jsonLetter? c with
  | some x =>
      obtain ⟨hc, hx⟩ := jsonLetter?_eq_some hletter
      rw [← hc]
      exact readJson_short hx rest
  | none =>
      dsimp only
      split
      next hcontrol => exact readJson_control hcontrol rest
      next => exact readJson_plain (jsonLetter?_eq_none hletter).1 rest

/-- No character is written like the closing quote. -/
theorem jsonChar_append_ne (c : Char) (xs ys : List Char) : jsonChar c ++ xs ≠ '"' :: ys := by
  rw [jsonChar]
  cases hletter : jsonLetter? c with
  | some x =>
      rw [List.cons_append]
      exact fun h => absurd (List.cons.inj h).1 (by decide)
  | none =>
      dsimp only
      split
      · rw [List.cons_append]
        exact fun h => absurd (List.cons.inj h).1 (by decide)
      · rw [List.cons_append]
        exact fun h => (jsonLetter?_eq_none hletter).2 (List.cons.inj h).1

theorem legible_jsonChar : Legible jsonChar readJson where
  reads := readJson_jsonChar
  unclosed := jsonChar_append_ne

/-- A JSON string is its escaped characters in quotes. -/
theorem jsonString_eq (s : String) :
    jsonString s = "\"" ++ String.ofList (s.toList.flatMap jsonChar) ++ "\"" := by
  rw [← String.toList_inj]
  simp [jsonString]

/-- A JSON string determines its text. -/
theorem jsonString_inj {s t : String} : jsonString s = jsonString t ↔ s = t := by
  constructor
  · intro h
    exact (legible_jsonChar.enclosed_append_inj (congrArg (· ++ "") h)).1
  · rintro rfl
    rfl

end Redaction.Text
