/-!
# Legible text

Between quotes a character may be written as several. What is written is legible if each character
can be read off from the front, whatever follows it, and if none is written like the closing quote.
Then the text between the quotes determines the text that is meant and the place where it ends.
-/

namespace Redaction.Text

/-- The value of a hexadecimal digit in small letters. -/
def hexValue (c : Char) : Nat := if c.isDigit then c.toNat - 48 else c.toNat - 87

/-- The number that hexadecimal digits write. -/
def ofHex (cs : List Char) : Nat := cs.foldl (fun n c => 16 * n + hexValue c) 0

theorem hexValue_digitChar : ∀ d < 16, hexValue (Nat.digitChar d) = d := by decide

/-- Characters are read as they are written, and none is written like the closing quote. -/
structure Legible (write : Char → List Char) (read : List Char → Option (Char × List Char)) :
    Prop where
  reads : ∀ c rest, read (write c ++ rest) = some (c, rest)
  unclosed : ∀ c rest others, write c ++ rest ≠ '"' :: others

namespace Legible

variable {write : Char → List Char} {read : List Char → Option (Char × List Char)}

/-- A written character and what follows it can be told apart from all others. -/
theorem append_inj (h : Legible write read) {c d : Char} {xs ys : List Char}
    (heq : write c ++ xs = write d ++ ys) : c = d ∧ xs = ys := by
  have hread := h.reads c xs
  rw [heq, h.reads, Option.some.injEq, Prod.mk.injEq] at hread
  exact ⟨hread.1.symm, hread.2.symm⟩

/-- The text ends at the closing quote. -/
theorem flatMap_append_inj (h : Legible write read) {cs ds xs ys : List Char}
    (heq : cs.flatMap write ++ '"' :: xs = ds.flatMap write ++ '"' :: ys) :
    cs = ds ∧ xs = ys := by
  induction cs generalizing ds with
  | nil =>
      cases ds with
      | nil => exact ⟨rfl, (List.cons.inj heq).2⟩
      | cons d ds =>
          rw [List.flatMap_cons, List.append_assoc] at heq
          exact absurd heq.symm (h.unclosed d _ _)
  | cons c cs ih =>
      rw [List.flatMap_cons, List.append_assoc] at heq
      cases ds with
      | nil => exact absurd heq (h.unclosed c _ _)
      | cons d ds =>
          rw [List.flatMap_cons, List.append_assoc] at heq
          obtain ⟨rfl, hrest⟩ := h.append_inj heq
          obtain ⟨rfl, rfl⟩ := ih hrest
          exact ⟨rfl, rfl⟩

/-- A text between quotes tells which text is meant, and where it ends. -/
theorem enclosed_append_inj (h : Legible write read) {s t u v : String}
    (heq : String.ofList ('"' :: s.toList.flatMap write ++ ['"']) ++ u =
      String.ofList ('"' :: t.toList.flatMap write ++ ['"']) ++ v) : s = t ∧ u = v := by
  have hlists := congrArg String.toList heq
  simp only [String.toList_append, String.toList_ofList, List.append_assoc, List.cons_append,
    List.nil_append, List.cons.injEq, true_and] at hlists
  obtain ⟨htext, hrest⟩ := h.flatMap_append_inj hlists
  exact ⟨String.toList_inj.1 htext, String.toList_inj.1 hrest⟩

end Legible

end Redaction.Text
