/-!
# Pieces between separators

A list is made of pieces with a separator between each two. The pieces are free of the separator,
so they are the same in every account of the list, and dividing the list at the separator gives
them.
-/

namespace Redaction

variable {α : Type} {sep : α} {pieces : List (List α)} {whole : List α}

/-- The list consists of the pieces, of which there is one at least, with a separator between each
two; no piece holds a separator. -/
structure Separated (sep : α) (pieces : List (List α)) (whole : List α) : Prop where
  some : pieces ≠ []
  apart : ∀ piece ∈ pieces, sep ∉ piece
  joined : whole = [sep].intercalate pieces

/-! ## Putting pieces together -/

section Joining

variable {piece : List α} {others : List (List α)}

theorem intercalate_append (some : pieces ≠ []) (more : others ≠ []) :
    [sep].intercalate (pieces ++ others) =
      [sep].intercalate pieces ++ sep :: [sep].intercalate others := by
  induction pieces with
  | nil => exact absurd rfl some
  | cons first rest ih =>
      cases rest with
      | nil =>
          rw [List.singleton_append, List.intercalate_cons_of_ne_nil more,
            List.intercalate_singleton, List.append_assoc, List.singleton_append]
      | cons next rest =>
          rw [List.cons_append, List.cons_append, List.intercalate_cons_cons, ← List.cons_append,
            ih (List.cons_ne_nil next rest), List.intercalate_cons_cons, ← List.append_assoc]

/-- What stands at the end of the last piece stands at the end of the whole. -/
theorem intercalate_append_singleton (more : List α) :
    [sep].intercalate (pieces ++ [piece ++ more]) =
      [sep].intercalate (pieces ++ [piece]) ++ more := by
  cases pieces with
  | nil => rw [List.nil_append, List.nil_append, List.intercalate_singleton,
      List.intercalate_singleton]
  | cons first rest =>
      rw [intercalate_append (List.cons_ne_nil first rest) (List.cons_ne_nil _ []),
        intercalate_append (List.cons_ne_nil first rest) (List.cons_ne_nil _ []),
        List.intercalate_singleton, List.intercalate_singleton, List.append_assoc, List.cons_append]

/-- Whatever occurs is a separator or comes from a piece. -/
theorem eq_or_mem_of_mem_intercalate {a : α} (h : a ∈ [sep].intercalate pieces) :
    a = sep ∨ ∃ piece ∈ pieces, a ∈ piece := by
  induction pieces with
  | nil => cases h
  | cons first rest ih =>
      cases rest with
      | nil =>
          rw [List.intercalate_singleton] at h
          exact .inr ⟨first, List.mem_cons_self, h⟩
      | cons next rest =>
          rw [List.intercalate_cons_cons, List.append_assoc, List.mem_append, List.singleton_append,
            List.mem_cons] at h
          obtain h | rfl | h := h
          · exact .inr ⟨first, List.mem_cons_self, h⟩
          · exact .inl rfl
          · refine (ih h).imp_right ?_
            rintro ⟨piece, hpiece, ha⟩
            exact ⟨piece, List.mem_cons_of_mem first hpiece, ha⟩

theorem head?_intercalate_cons (some : piece ≠ []) :
    ([sep].intercalate (piece :: pieces)).head? = piece.head? := by
  cases pieces with
  | nil => rw [List.intercalate_singleton]
  | cons next rest =>
      obtain ⟨a, piece, rfl⟩ := List.exists_cons_of_ne_nil some
      rw [List.intercalate_cons_cons, List.append_assoc, List.cons_append, List.head?_cons,
        List.head?_cons]

theorem getLast?_intercalate_append (some : piece ≠ []) :
    ([sep].intercalate (pieces ++ [piece])).getLast? = piece.getLast? := by
  cases pieces with
  | nil => rw [List.nil_append, List.intercalate_singleton]
  | cons first rest =>
      rw [intercalate_append (List.cons_ne_nil first rest) (List.cons_ne_nil piece []),
        List.intercalate_singleton, List.append_cons, List.getLast?_append,
        List.getLast?_eq_some_getLast some, Option.some_or]

end Joining

/-! ## Dividing -/

variable [BEq α] [LawfulBEq α]

/-- No piece holds the separator at which it was divided. -/
theorem not_mem_of_mem_splitOn {piece : List α} (h : piece ∈ whole.splitOn sep) : sep ∉ piece := by
  induction whole generalizing piece with
  | nil =>
      rw [List.splitOn_nil, List.mem_singleton] at h
      simp [h]
  | cons a whole ih =>
      rw [List.splitOn, List.splitOnP_cons_eq_if_modifyHead] at h
      split at h
      next =>
        obtain rfl | h := List.mem_cons.1 h
        · exact List.not_mem_nil
        · exact ih h
      next hne =>
        have hsep : sep ≠ a := by
          rintro rfl
          exact hne (beq_self_eq_true sep)
        cases hrest : whole.splitOn sep with
        | nil => exact absurd hrest (List.splitOn_ne_nil sep whole)
        | cons first rest =>
            have hfirst : sep ∉ first := ih (by rw [hrest]; exact List.mem_cons_self)
            rw [← List.splitOn, hrest, List.modifyHead_cons] at h
            obtain rfl | h := List.mem_cons.1 h
            · simp [hsep, hfirst]
            · exact ih (by rw [hrest]; exact List.mem_cons_of_mem first h)

/-- Dividing the list gives the pieces that it consists of. -/
theorem separated_iff : Separated sep pieces whole ↔ whole.splitOn sep = pieces := by
  constructor
  · rintro ⟨some, apart, rfl⟩
    exact List.splitOn_intercalate sep apart some
  · rintro rfl
    exact ⟨List.splitOn_ne_nil sep whole, fun _ h => not_mem_of_mem_splitOn h,
      (List.intercalate_splitOn sep).symm⟩

end Redaction
