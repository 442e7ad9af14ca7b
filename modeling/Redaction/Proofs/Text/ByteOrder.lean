import Mathlib.Data.String.Basic

/-!
# Code points and bytes order texts alike

Texts are ordered by their code points. UTF-8 writes a character as one to four bytes: the digits of
its code point to the base 64, with a tag on the first one that is greater the more bytes there are.
So a smaller character has the smaller bytes from the first difference on, and the order of texts by
their bytes is the same.
-/

namespace Redaction.Text

/-- The code points of a text. -/
def codePoints (s : String) : List Nat := s.toList.map Char.toNat

/-- The bytes of a text in UTF-8. -/
def bytes (s : String) : List UInt8 := s.toUTF8.data.toList

/-! ## Code points -/

theorem map_toNat_lt_iff {cs ds : List Char} :
    cs.map Char.toNat < ds.map Char.toNat ↔ cs < ds := by
  induction cs generalizing ds with
  | nil => cases ds <;> simp
  | cons c cs ih =>
      cases ds with
      | nil => simp
      | cons d ds =>
          rw [List.map_cons, List.map_cons, List.cons_lt_cons_iff, List.cons_lt_cons_iff, ih,
            Char.toNat_inj]
          exact Iff.rfl

theorem codePoints_lt_iff {s t : String} : codePoints s < codePoints t ↔ s < t :=
  map_toNat_lt_iff.trans String.lt_iff_toList_lt.symm

/-! ## Bytes of a character -/

/-- A number written to the base 64 in `k` digits behind the leading one. The tag marks the leading
digit, and every other one has the tag 128. -/
def digits (tag : Nat) : Nat → Nat → List UInt8
  | 0, n => [UInt8.ofNat (n + tag)]
  | k + 1, n => digits tag k (n / 64) ++ [UInt8.ofNat (n % 64 + 128)]

/-- The tags of the first byte, by the number of bytes behind it. -/
def leadTag : Nat → Nat
  | 0 => 0
  | 1 => 192
  | 2 => 224
  | 3 => 240
  | _ => 248

/-- The code points that need no more bytes than one and these are below this bound. -/
def reach : Nat → Nat
  | 0 => 0x80
  | 1 => 0x800
  | 2 => 0x10000
  | _ => 0x110000

theorem ofNat_lt_ofNat {n m : Nat} (h : n < m) (small : m < 256) :
    UInt8.ofNat n < UInt8.ofNat m := by
  rw [UInt8.lt_iff_toNat_lt, UInt8.toNat_ofNat', UInt8.toNat_ofNat', Nat.mod_eq_of_lt small,
    Nat.mod_eq_of_lt (by omega)]
  exact h

/-- With the same number of digits the smaller number comes first, whatever follows. -/
theorem digits_append_lt {tag k n m : Nat} (h : n < m) (small : m / 64 ^ k + tag < 256)
    (xs ys : List UInt8) : digits tag k n ++ xs < digits tag k m ++ ys := by
  induction k generalizing n m xs ys with
  | zero =>
      rw [Nat.pow_zero, Nat.div_one] at small
      exact List.cons_lt_cons_iff.2 (.inl (ofNat_lt_ofNat (by omega) small))
  | succ k ih =>
      rw [digits, digits, List.append_assoc, List.append_assoc]
      obtain hlt | heq := Nat.lt_or_eq_of_le (Nat.div_le_div_right (c := 64) h.le)
      · rw [Nat.pow_succ', ← Nat.div_div_eq_div_mul] at small
        exact ih hlt small _ _
      · have hlast : n % 64 < m % 64 := by omega
        rw [heq]
        exact List.append_left_lt
          (List.cons_lt_cons_iff.2 (.inl (ofNat_lt_ofNat (by omega) (by omega))))

theorem exists_digits_eq_cons (tag k n : Nat) :
    ∃ rest, digits tag k n = UInt8.ofNat (n / 64 ^ k + tag) :: rest := by
  induction k generalizing n with
  | zero => exact ⟨[], by rw [digits, Nat.pow_zero, Nat.div_one]⟩
  | succ k ih =>
      obtain ⟨rest, hrest⟩ := ih (n / 64)
      refine ⟨rest ++ [UInt8.ofNat (n % 64 + 128)], ?_⟩
      rw [digits, hrest, Nat.div_div_eq_div_mul, Nat.pow_succ', List.cons_append]

/-- The first byte decides between different numbers of bytes. -/
theorem digits_append_lt_of_lead {tag tag' k j n m : Nat}
    (h : n / 64 ^ k + tag < m / 64 ^ j + tag') (small : m / 64 ^ j + tag' < 256)
    (xs ys : List UInt8) : digits tag k n ++ xs < digits tag' j m ++ ys := by
  obtain ⟨rest, hrest⟩ := exists_digits_eq_cons tag k n
  obtain ⟨rest', hrest'⟩ := exists_digits_eq_cons tag' j m
  rw [hrest, hrest']
  exact List.cons_lt_cons_iff.2 (.inl (ofNat_lt_ofNat h small))

/-- A character is written with the least number of bytes that reaches it. -/
theorem utf8EncodeChar_eq_digits (c : Char) :
    ∃ k < 4, String.utf8EncodeChar c = digits (leadTag k) k c.toNat ∧ c.toNat < reach k ∧
      ∀ j < k, reach j ≤ c.toNat := by
  have hvalid : c.toNat < 0x110000 := by
    obtain h | ⟨-, h⟩ := c.valid
    · exact Nat.lt_trans h (by decide)
    · exact h
  have hnat : c.val.toNat = c.toNat := rfl
  rw [String.utf8EncodeChar.eq_1, hnat]
  generalize c.toNat = n at *
  split
  next h => exact ⟨0, by decide, rfl, Nat.lt_succ_of_le h, by simp⟩
  next hone =>
    split
    next h =>
      have hlead : n / 64 % 32 = n / 64 := by omega
      rw [hlead]
      refine ⟨1, by decide, rfl, Nat.lt_succ_of_le h, fun j hj => ?_⟩
      obtain rfl : j = 0 := by omega
      exact Nat.lt_of_not_le hone
    next htwo =>
      split
      next h =>
        have hlead : n / 4096 % 16 = n / 64 / 64 := by omega
        rw [hlead]
        refine ⟨2, by decide, rfl, Nat.lt_succ_of_le h, fun j hj => ?_⟩
        obtain rfl | rfl : j = 0 ∨ j = 1 := by omega
        · exact Nat.lt_of_not_le hone
        · exact Nat.lt_of_not_le htwo
      next hthree =>
        have hlead : n / 262144 % 8 = n / 64 / 64 / 64 := by omega
        have hnext : n / 4096 % 64 = n / 64 / 64 % 64 := by omega
        rw [hlead, hnext]
        refine ⟨3, by decide, rfl, hvalid, fun j hj => ?_⟩
        obtain rfl | rfl | rfl : j = 0 ∨ j = 1 ∨ j = 2 := by omega
        · exact Nat.lt_of_not_le hone
        · exact Nat.lt_of_not_le htwo
        · exact Nat.lt_of_not_le hthree

/-- The first byte of a character has the tag of its number of bytes. -/
theorem lead_lt {k n : Nat} (hk : k < 4) (h : n < reach k) :
    n / 64 ^ k + leadTag k < leadTag (k + 1) := by
  obtain rfl | rfl | rfl | rfl : k = 0 ∨ k = 1 ∨ k = 2 ∨ k = 3 := by omega
  all_goals
    simp only [reach, leadTag] at *
    omega

theorem leadTag_mono : ∀ j < 4, ∀ k < j, leadTag (k + 1) ≤ leadTag j := by decide

theorem leadTag_lt : ∀ k < 5, leadTag k < 256 := by decide

/-- A smaller character has the smaller bytes, whatever follows. -/
theorem utf8EncodeChar_append_lt {c d : Char} (h : c < d) (xs ys : List UInt8) :
    String.utf8EncodeChar c ++ xs < String.utf8EncodeChar d ++ ys := by
  have hlt : c.toNat < d.toNat := h
  obtain ⟨k, hk, hc, hreach, hleast⟩ := utf8EncodeChar_eq_digits c
  obtain ⟨j, hj, hd, hreach', -⟩ := utf8EncodeChar_eq_digits d
  have hsmall : d.toNat / 64 ^ j + leadTag j < 256 :=
    Nat.lt_trans (lead_lt hj hreach') (leadTag_lt (j + 1) (by omega))
  rw [hc, hd]
  obtain hlt' | rfl | hgt := Nat.lt_trichotomy k j
  · refine digits_append_lt_of_lead ?_ hsmall xs ys
    calc c.toNat / 64 ^ k + leadTag k
      _ < leadTag (k + 1) := lead_lt hk hreach
      _ ≤ leadTag j := leadTag_mono j hj k hlt'
      _ ≤ d.toNat / 64 ^ j + leadTag j := Nat.le_add_left _ _
  · exact digits_append_lt hlt hsmall xs ys
  · have hbelow := hleast j hgt
    omega

/-! ## Bytes of a text -/

theorem flatMap_utf8EncodeChar_lt {cs ds : List Char} (h : cs < ds) :
    cs.flatMap String.utf8EncodeChar < ds.flatMap String.utf8EncodeChar := by
  induction cs generalizing ds with
  | nil =>
      cases ds with
      | nil => exact absurd h (List.lt_irrefl [])
      | cons d ds =>
          obtain ⟨b, rest, hd⟩ := List.exists_cons_of_ne_nil (String.utf8EncodeChar_ne_nil (c := d))
          rw [List.flatMap_nil, List.flatMap_cons, hd, List.cons_append]
          exact List.nil_lt_cons b _
  | cons c cs ih =>
      cases ds with
      | nil => exact absurd h (List.not_lt_nil _)
      | cons d ds =>
          rw [List.flatMap_cons, List.flatMap_cons]
          obtain hlt | ⟨rfl, hrest⟩ := List.cons_lt_cons_iff.1 h
          · exact utf8EncodeChar_append_lt hlt _ _
          · exact List.append_left_lt (ih hrest)

theorem toList_data_toByteArray (l : List UInt8) : l.toByteArray.data.toList = l := by
  apply List.ext_getElem
  · rw [Array.length_toList]
    exact List.size_toByteArray
  · intro i _ _
    rw [Array.getElem_toList]
    exact List.getElem_toByteArray

theorem bytes_eq (s : String) : bytes s = s.toList.flatMap String.utf8EncodeChar := by
  rw [bytes, String.toUTF8_eq_toByteArray, ← String.utf8Encode_toList, List.utf8Encode,
    toList_data_toByteArray]

/-- The bytes of texts are in the order of the texts. -/
theorem bytes_lt_iff {s t : String} : bytes s < bytes t ↔ s < t := by
  have hmono : ∀ {s t : String}, s < t → bytes s < bytes t := by
    intro s t h
    rw [bytes_eq, bytes_eq]
    exact flatMap_utf8EncodeChar_lt h
  refine ⟨fun h => ?_, hmono⟩
  obtain hlt | rfl | hgt := lt_trichotomy s t
  · exact hlt
  · exact absurd h (List.lt_irrefl _)
  · exact absurd h (List.lt_asymm (hmono hgt))

end Redaction.Text
