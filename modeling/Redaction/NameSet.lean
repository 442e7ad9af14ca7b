/-!
# Sets of names

A set of names is kept as a list in strictly ascending order of code points, so it has one
representation: two sets with the same members are equal, and inspecting a set lists each member
once, in order.
-/

namespace Redaction

/-- A finite set of names. -/
structure NameSet where
  toList : List String
  ascending : toList.Pairwise (· < ·)
  deriving DecidableEq

namespace NameSet

/-- The list with a name put in its place, unless it is there already. -/
def insertInto (name : String) : List String → List String
  | [] => [name]
  | n :: ns =>
    if name < n then name :: n :: ns
    else if name = n then n :: ns
    else n :: insertInto name ns

@[simp] theorem mem_insertInto {name m : String} {ns : List String} :
    m ∈ insertInto name ns ↔ m = name ∨ m ∈ ns := by
  induction ns with
  | nil => simp [insertInto]
  | cons n ns ih =>
    rw [insertInto]
    split
    · simp
    · split <;> simp_all [or_left_comm]

theorem pairwise_insertInto {name : String} {ns : List String} (h : ns.Pairwise (· < ·)) :
    (insertInto name ns).Pairwise (· < ·) := by
  induction ns with
  | nil => simp [insertInto]
  | cons n ns ih =>
    obtain ⟨hn, hns⟩ := List.pairwise_cons.1 h
    rw [insertInto]
    split
    · rename_i hlt
      refine List.pairwise_cons.2 ⟨fun m hm => ?_, h⟩
      rcases List.mem_cons.1 hm with rfl | hm
      · exact hlt
      · exact String.lt_trans hlt (hn m hm)
    · split
      · exact h
      · rename_i hlt hne
        refine List.pairwise_cons.2 ⟨fun m hm => ?_, ih hns⟩
        rcases mem_insertInto.1 hm with rfl | hm
        · grind
        · exact hn m hm

/-- The set without members. -/
def empty : NameSet := ⟨[], .nil⟩

/-- The set with one more member. -/
def insert (s : NameSet) (name : String) : NameSet :=
  ⟨insertInto name s.toList, pairwise_insertInto s.ascending⟩

/-- The set of the names in a list. -/
def ofList (names : List String) : NameSet := names.foldl insert empty

instance : Membership String NameSet := ⟨fun s name => name ∈ s.toList⟩

theorem mem_def {s : NameSet} {name : String} : name ∈ s ↔ name ∈ s.toList := Iff.rfl

instance (name : String) (s : NameSet) : Decidable (name ∈ s) :=
  inferInstanceAs (Decidable (name ∈ s.toList))

@[simp] theorem not_mem_empty {name : String} : ¬ name ∈ empty := List.not_mem_nil

@[simp] theorem mem_insert {s : NameSet} {name m : String} :
    m ∈ s.insert name ↔ m = name ∨ m ∈ s := mem_insertInto

theorem mem_foldl_insert {names : List String} {s : NameSet} {m : String} :
    m ∈ names.foldl insert s ↔ m ∈ names ∨ m ∈ s := by
  induction names generalizing s with
  | nil => simp
  | cons n ns ih => simp [ih, or_assoc, or_left_comm]

@[simp] theorem mem_ofList {names : List String} {m : String} : m ∈ ofList names ↔ m ∈ names := by
  simp [ofList, mem_foldl_insert]

/-- Lists in strictly ascending order with the same members are equal. -/
theorem eq_of_pairwise_of_mem_iff {as bs : List String} (ha : as.Pairwise (· < ·))
    (hb : bs.Pairwise (· < ·)) (h : ∀ m, m ∈ as ↔ m ∈ bs) : as = bs := by
  induction as generalizing bs with
  | nil =>
    cases bs with
    | nil => rfl
    | cons b bs => exact absurd ((h b).2 (by simp)) (by simp)
  | cons a as ih =>
    cases bs with
    | nil => exact absurd ((h a).1 (by simp)) (by simp)
    | cons b bs =>
      obtain ⟨ha₁, ha₂⟩ := List.pairwise_cons.1 ha
      obtain ⟨hb₁, hb₂⟩ := List.pairwise_cons.1 hb
      have hab : a = b := by
        have h₁ := (h a).1 (by simp)
        have h₂ := (h b).2 (by simp)
        grind
      subst hab
      congr 1
      refine ih ha₂ hb₂ fun m => ?_
      have := h m
      have := ha₁ m
      have := hb₁ m
      grind

theorem ext {s t : NameSet} (h : ∀ name, name ∈ s ↔ name ∈ t) : s = t := by
  obtain ⟨as, ha⟩ := s
  obtain ⟨bs, hb⟩ := t
  have : as = bs := eq_of_pairwise_of_mem_iff ha hb h
  subst this
  rfl

theorem toList_inj {s t : NameSet} : s.toList = t.toList ↔ s = t := by
  refine ⟨fun h => ext fun name => ?_, congrArg toList⟩
  rw [mem_def, h, mem_def]

end NameSet

end Redaction
