/-!
# Cutting a text in two

`cut d` divides a text at the first occurrence of the delimiter `d`. The delimiter belongs to
neither half, and a text without it is not divided.
-/

namespace Redaction.Text

/-- The halves of a text before and after the first `d`, if it has one. -/
def cut (d : Char) : List Char → Option (List Char × List Char)
  | [] => none
  | c :: cs =>
    if c = d then some ([], cs)
    else (cut d cs).map fun (before, after) => (c :: before, after)

@[simp] theorem cut_nil (d : Char) : cut d [] = none := rfl

@[simp] theorem cut_cons_self (d : Char) (cs : List Char) : cut d (d :: cs) = some ([], cs) := by
  simp [cut]

/-- A text is left whole exactly when the delimiter does not occur in it. -/
theorem cut_eq_none_iff {d : Char} {cs : List Char} : cut d cs = none ↔ d ∉ cs := by
  induction cs with
  | nil => simp
  | cons c cs ih =>
    by_cases h : c = d
    · simp [cut, h]
    · simp [cut, h, ih, Ne.symm h]

/-- The halves put back around the delimiter give the text, and the first half is free of it. -/
theorem cut_eq_some_iff {d : Char} {cs before after : List Char} :
    cut d cs = some (before, after) ↔ cs = before ++ d :: after ∧ d ∉ before := by
  induction cs generalizing before with
  | nil => simp
  | cons c cs ih =>
    by_cases h : c = d
    · subst h
      cases before with
      | nil => simp [cut, eq_comm]
      | cons b bs => simp [cut]; intro hb _; simp [hb]
    · cases before with
      | nil => simp [cut, h]
      | cons b bs =>
        simp only [cut, if_neg h, Option.map_eq_some_iff, Prod.mk.injEq, List.cons.injEq,
          List.cons_append, List.mem_cons, not_or]
        constructor
        · rintro ⟨⟨x, y⟩, hxy, ⟨rfl, rfl⟩, rfl⟩
          obtain ⟨rfl, hx⟩ := ih.1 hxy
          exact ⟨⟨rfl, rfl⟩, Ne.symm h, hx⟩
        · rintro ⟨⟨rfl, hcs⟩, _, hbs⟩
          exact ⟨(bs, after), ih.2 ⟨hcs, hbs⟩, ⟨rfl, rfl⟩, rfl⟩

end Redaction.Text
