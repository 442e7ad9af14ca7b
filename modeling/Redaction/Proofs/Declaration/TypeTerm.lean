import Redaction.Declaration.TypeTerm

/-!
# Where a name stands in a type

A name occurs in a type if it stands there as a type of its own: as a path of this one name, at
any depth, but not among the arguments of the marker type. What a derivation meets is not quite the
same. It meets the last name of every path, however long the path is, and it looks into arguments,
references and parentheses, but neither into tuples nor between brackets.

So it misses a name that stands in a tuple, an array or a slice, and it takes a longer path for the
name that the path ends in. In a type with neither it meets exactly the names that occur.
-/

namespace Redaction.TypeTerm

/-- The name stands in the type as a type of its own, and not inside the marker type. -/
inductive Occurs (name : String) : TypeTerm → Prop where
  | here {args : List TypeTerm} : Occurs name (.path .scope [name] args)
  | argument {start : Start} {names : List String} {last : String} {args : List TypeTerm}
      {t : TypeTerm} (ends : names.getLast? = some last) (noMarker : last ≠ phantom)
      (mem : t ∈ args) (inside : Occurs name t) : Occurs name (.path start names args)
  | reference {t : TypeTerm} (inside : Occurs name t) : Occurs name (.reference t)
  | paren {t : TypeTerm} (inside : Occurs name t) : Occurs name (.paren t)
  | slice {t : TypeTerm} (inside : Occurs name t) : Occurs name (.slice t)
  | array {t : TypeTerm} (inside : Occurs name t) : Occurs name (.array t)
  | tuple {ts : List TypeTerm} {t : TypeTerm} (mem : t ∈ ts) (inside : Occurs name t) :
      Occurs name (.tuple ts)

/-- The name is met: a path ends in it that is reached through arguments, references and
parentheses, and not inside the marker type. -/
inductive Meets (name : String) : TypeTerm → Prop where
  | here {start : Start} {names : List String} {args : List TypeTerm}
      (ends : names.getLast? = some name) (noMarker : name ≠ phantom) :
      Meets name (.path start names args)
  | argument {start : Start} {names : List String} {last : String} {args : List TypeTerm}
      {t : TypeTerm} (ends : names.getLast? = some last) (noMarker : last ≠ phantom)
      (mem : t ∈ args) (inside : Meets name t) : Meets name (.path start names args)
  | reference {t : TypeTerm} (inside : Meets name t) : Meets name (.reference t)
  | paren {t : TypeTerm} (inside : Meets name t) : Meets name (.paren t)

/-- Nothing in the type hides the name, or is mistaken for it. -/
inductive Clear (name : String) : TypeTerm → Prop where
  | own {args : List TypeTerm} (noMarker : name ≠ phantom) (inside : ∀ t ∈ args, Clear name t) :
      Clear name (.path .scope [name] args)
  | other {start : Start} {names : List String} {args : List TypeTerm}
      (ends : names.getLast? ≠ some name)
      (inside : names.getLast? ≠ some phantom → ∀ t ∈ args, Clear name t) :
      Clear name (.path start names args)
  | reference {t : TypeTerm} (inside : Clear name t) : Clear name (.reference t)
  | paren {t : TypeTerm} (inside : Clear name t) : Clear name (.paren t)
  | slice {t : TypeTerm} (absent : ¬ Occurs name t) : Clear name (.slice t)
  | array {t : TypeTerm} (absent : ¬ Occurs name t) : Clear name (.array t)
  | tuple {ts : List TypeTerm} (absent : ∀ t ∈ ts, ¬ Occurs name t) : Clear name (.tuple ts)
  | lifetime (label : String) : Clear name (.lifetime label)
  | constant : Clear name .constant
  | unread : Clear name .other

/-- In a path without arguments no other name occurs than the path itself. -/
theorem Occurs.eq_singleton {start : Start} {names : List String} {name : String}
    (h : Occurs name (.path start names [])) : names = [name] := by
  cases h with
  | here => rfl
  | argument _ _ mem _ => cases mem

/-! ## What is mentioned is what is met -/

theorem mentionsAll_eq (ts : List TypeTerm) : mentionsAll ts = ts.flatMap mentions := by
  induction ts with
  | nil => rfl
  | cons t ts ih => rw [mentionsAll, ih, List.flatMap_cons]

theorem mem_mentions_path {start : Start} {names : List String} {args : List TypeTerm}
    {name : String} :
    name ∈ (path start names args).mentions ↔
      ∃ last, names.getLast? = some last ∧ last ≠ phantom ∧
        ((∃ t ∈ args, name ∈ t.mentions) ∨ name = last) := by
  rw [mentions]
  cases names.getLast? with
  | none => simp
  | some last => by_cases h : last = phantom <;> simp [h, mentionsAll_eq]

variable {name : String}

theorem Meets.mem_mentions {t : TypeTerm} (h : Meets name t) : name ∈ t.mentions := by
  induction h with
  | here ends noMarker => exact mem_mentions_path.2 ⟨_, ends, noMarker, .inr rfl⟩
  | argument ends noMarker mem _ ih =>
      exact mem_mentions_path.2 ⟨_, ends, noMarker, .inl ⟨_, mem, ih⟩⟩
  | reference _ ih => exact ih
  | paren _ ih => exact ih

theorem meets_of_mem_mentions : ∀ {t : TypeTerm}, name ∈ t.mentions → Meets name t
  | .path _ _ _, h => by
      obtain ⟨last, ends, noMarker, ⟨t, mem, ht⟩ | rfl⟩ := mem_mentions_path.1 h
      · exact .argument ends noMarker mem (meets_of_mem_mentions ht)
      · exact .here ends noMarker
  | .reference _, h => .reference (meets_of_mem_mentions h)
  | .paren _, h => .paren (meets_of_mem_mentions h)

/-- The names that a type mentions are those that are met in it. -/
theorem mem_mentions_iff {t : TypeTerm} : name ∈ t.mentions ↔ Meets name t :=
  ⟨meets_of_mem_mentions, Meets.mem_mentions⟩

/-! ## What is met is what occurs, where the type is clear -/

/-- In a clear type the names that are met are those that occur. -/
theorem Clear.occurs_iff_meets {t : TypeTerm} (h : Clear name t) :
    Occurs name t ↔ Meets name t := by
  -- along the constructors of `Clear`; neither side holds of a clear slice, array or tuple
  induction h with
  | own noMarker => exact iff_of_true .here (.here rfl noMarker)
  | @other start names args ends _ ih =>
      constructor
      · intro occurs
        cases occurs with
        | here => exact absurd rfl ends
        | argument there noMarker mem inside =>
            have hmarker : names.getLast? ≠ some phantom := by simpa [there] using noMarker
            exact .argument there noMarker mem ((ih hmarker _ mem).1 inside)
      · intro meets
        cases meets with
        | here there _ => exact absurd there ends
        | argument there noMarker mem inside =>
            have hmarker : names.getLast? ≠ some phantom := by simpa [there] using noMarker
            exact .argument there noMarker mem ((ih hmarker _ mem).2 inside)
  | reference _ ih =>
      constructor
      · intro occurs
        cases occurs with
        | reference inside => exact .reference (ih.1 inside)
      · intro meets
        cases meets with
        | reference inside => exact .reference (ih.2 inside)
  | paren _ ih =>
      constructor
      · intro occurs
        cases occurs with
        | paren inside => exact .paren (ih.1 inside)
      · intro meets
        cases meets with
        | paren inside => exact .paren (ih.2 inside)
  | slice absent =>
      refine iff_of_false ?_ (by rintro ⟨⟩)
      intro occurs
      cases occurs with
      | slice inside => exact absent inside
  | array absent =>
      refine iff_of_false ?_ (by rintro ⟨⟩)
      intro occurs
      cases occurs with
      | array inside => exact absent inside
  | tuple absent =>
      refine iff_of_false ?_ (by rintro ⟨⟩)
      intro occurs
      cases occurs with
      | tuple mem inside => exact absent _ mem inside
  | lifetime => exact iff_of_false (by rintro ⟨⟩) (by rintro ⟨⟩)
  | constant => exact iff_of_false (by rintro ⟨⟩) (by rintro ⟨⟩)
  | unread => exact iff_of_false (by rintro ⟨⟩) (by rintro ⟨⟩)

end Redaction.TypeTerm
