import Redaction.Proofs.Text.Legible
import Redaction.Text.Quoted

/-!
# Quotations can be read back

Each character between the quotes is written so that it can be told from all others and from what
follows it, and none is written like the closing quote. So a quotation determines the text and where
it ends, and texts that are quoted one after another can be told apart.
-/

namespace Redaction.Text

/-- The character that is meant by the second character of an escape of two. -/
def unescaped : Char → Char
  | '0' => '\x00'
  | 't' => '\t'
  | 'r' => '\r'
  | 'n' => '\n'
  | c => c

/-- The first character that is written between quotes, and what follows it. -/
def readQuoted : List Char → Option (Char × List Char)
  | [] => none
  | '\\' :: 'u' :: '{' :: cs =>
    some (Char.ofNat (ofHex (cs.takeWhile (· ≠ '}'))), (cs.dropWhile (· ≠ '}')).tail)
  | '\\' :: c :: cs => some (unescaped c, cs)
  | c :: cs => some (c, cs)

/-! ## Code points in hexadecimal -/

theorem digitChar_ne_brace : ∀ d < 16, Nat.digitChar d ≠ '}' := by decide

theorem ofHex_toDigits (n : Nat) : ofHex (Nat.toDigits 16 n) = n := by
  induction n using Nat.strongRecOn with
  | ind n ih =>
      rw [Nat.toDigits_eq_if (by decide)]
      split
      next hlt => simp [ofHex, hexValue_digitChar n hlt]
      next hle =>
        have hrest := ih (n / 16) (by omega)
        rw [ofHex] at hrest
        rw [ofHex, List.foldl_append, hrest, List.foldl_cons, List.foldl_nil,
          hexValue_digitChar _ (Nat.mod_lt n (by decide)), Nat.div_add_mod]

theorem brace_not_mem_toDigits (n : Nat) : ∀ c ∈ Nat.toDigits 16 n, c ≠ '}' := by
  induction n using Nat.strongRecOn with
  | ind n ih =>
      rw [Nat.toDigits_eq_if (by decide)]
      split
      next hlt =>
        intro c hc
        rw [List.mem_singleton.1 hc]
        exact digitChar_ne_brace n hlt
      next hle =>
        intro c hc
        obtain hc | hc := List.mem_append.1 hc
        · exact ih (n / 16) (by omega) c hc
        · rw [List.mem_singleton.1 hc]
          exact digitChar_ne_brace _ (Nat.mod_lt n (by decide))

/-! ## Characters between quotes -/

theorem escapeLetter?_eq_some {c x : Char} (h : escapeLetter? c = some x) :
    unescaped x = c ∧ x ≠ 'u' := by
  unfold escapeLetter? at h
  split at h <;> cases h <;> decide

theorem escapeLetter?_eq_none {c : Char} (h : escapeLetter? c = none) : c ≠ '\\' ∧ c ≠ '"' := by
  constructor
  · rintro rfl
    cases h
  · rintro rfl
    cases h

theorem readQuoted_short {x : Char} (h : x ≠ 'u') (rest : List Char) :
    readQuoted ('\\' :: x :: rest) = some (unescaped x, rest) := by
  rw [readQuoted.eq_3]
  rintro cs rfl
  exact absurd rfl h

theorem readQuoted_plain {c : Char} (h : c ≠ '\\') (rest : List Char) :
    readQuoted (c :: rest) = some (c, rest) := by
  rw [readQuoted.eq_4]
  · rintro cs rfl
    exact absurd rfl h
  · rintro x cs rfl
    exact absurd rfl h

/-- The digits end at the brace. -/
theorem readQuoted_hex (c : Char) (rest : List Char) :
    readQuoted ('\\' :: 'u' :: '{' :: (Nat.toDigits 16 c.toNat ++ '}' :: rest)) =
      some (c, rest) := by
  have hdigits : ∀ d ∈ Nat.toDigits 16 c.toNat, decide (d ≠ '}') = true :=
    fun d hd => decide_eq_true (brace_not_mem_toDigits c.toNat d hd)
  rw [readQuoted, List.takeWhile_append_of_pos hdigits, List.dropWhile_append_of_pos hdigits,
    List.takeWhile_cons_of_neg (by decide), List.dropWhile_cons_of_neg (by decide),
    List.append_nil, ofHex_toDigits, Char.ofNat_toNat, List.tail_cons]

/-- A character that is written is read, and what follows it is left. -/
theorem readQuoted_quotedChar (c : Char) (rest : List Char) :
    readQuoted (quotedChar c ++ rest) = some (c, rest) := by
  rw [quotedChar]
  cases hletter : escapeLetter? c with
  | some x =>
      obtain ⟨hc, hx⟩ := escapeLetter?_eq_some hletter
      rw [← hc]
      exact readQuoted_short hx rest
  | none =>
      dsimp only
      split
      · rw [List.append_assoc, List.append_assoc]
        exact readQuoted_hex c rest
      · exact readQuoted_plain (escapeLetter?_eq_none hletter).1 rest

/-- No character is written like the closing quote. -/
theorem quotedChar_append_ne (c : Char) (xs ys : List Char) : quotedChar c ++ xs ≠ '"' :: ys := by
  rw [quotedChar]
  cases hletter : escapeLetter? c with
  | some x =>
      rw [List.cons_append]
      exact fun h => absurd (List.cons.inj h).1 (by decide)
  | none =>
      dsimp only
      split
      · rw [List.append_assoc, List.cons_append]
        exact fun h => absurd (List.cons.inj h).1 (by decide)
      · rw [List.cons_append]
        exact fun h => (escapeLetter?_eq_none hletter).2 (List.cons.inj h).1

theorem legible_quotedChar : Legible quotedChar readQuoted where
  reads := readQuoted_quotedChar
  unclosed := quotedChar_append_ne

/-! ## Quotations -/

/-- A quotation tells which text it quotes, and where it ends. -/
theorem quoted_append_inj {s t u v : String} (h : quoted s ++ u = quoted t ++ v) :
    s = t ∧ u = v :=
  legible_quotedChar.enclosed_append_inj h

theorem quoted_append_ne_empty (s t : String) : quoted s ++ t ≠ "" := by
  rw [Ne, ← String.toList_eq_nil_iff, quoted, String.toList_append, String.toList_ofList]
  exact List.cons_ne_nil _ _

/-- Further quotations, with a comma in front of each. -/
def furtherQuoted : List String → String
  | [] => ""
  | s :: ss => ", " ++ (quoted s ++ furtherQuoted ss)

theorem furtherQuoted_inj {names others : List String}
    (h : furtherQuoted names = furtherQuoted others) : names = others := by
  have hcomma : ∀ text : String, ", " ++ text ≠ "" := fun text => by simp
  induction names generalizing others with
  | nil =>
      cases others with
      | nil => rfl
      | cons other others => exact absurd h.symm (hcomma _)
  | cons name names ih =>
      cases others with
      | nil => exact absurd h (hcomma _)
      | cons other others =>
          rw [furtherQuoted, furtherQuoted, String.append_right_inj] at h
          obtain ⟨rfl, hrest⟩ := quoted_append_inj h
          rw [ih hrest]

theorem intercalate_quoted_cons (name : String) (names : List String) :
    ", ".intercalate ((name :: names).map quoted) = quoted name ++ furtherQuoted names := by
  induction names generalizing name with
  | nil => simp [furtherQuoted]
  | cons other names ih =>
      rw [List.map_cons, List.map_cons, String.intercalate_cons_cons, ← List.map_cons, ih,
        furtherQuoted, String.append_assoc]

/-- A list of quotations tells which texts it quotes. -/
theorem intercalate_quoted_inj {names others : List String}
    (h : ", ".intercalate (names.map quoted) = ", ".intercalate (others.map quoted)) :
    names = others := by
  cases names with
  | nil =>
      cases others with
      | nil => rfl
      | cons other others =>
          rw [intercalate_quoted_cons] at h
          exact absurd h.symm (quoted_append_ne_empty other _)
  | cons name names =>
      rw [intercalate_quoted_cons] at h
      cases others with
      | nil => exact absurd h (quoted_append_ne_empty name _)
      | cons other others =>
          rw [intercalate_quoted_cons] at h
          obtain ⟨rfl, hrest⟩ := quoted_append_inj h
          rw [furtherQuoted_inj hrest]

end Redaction.Text
