import Redaction.Composite
import Redaction.Options

/-!
# Registers

A script keeps composites, segments and render options in registers, each kind in a bank of its
own. Writing a register replaces what it held; the others, and the other banks, are left alone.
-/

namespace Redaction.Script

/-- The registers of one kind. The newest entry of a name counts. -/
structure Bank (α : Type) where
  entries : List (String × α)

namespace Bank

variable {α : Type}

/-- No register holds anything. -/
def empty : Bank α := ⟨[]⟩

/-- What a register holds. -/
def get? (b : Bank α) (name : String) : Option α := b.entries.lookup name

/-- The bank with a register written. -/
def set (b : Bank α) (name : String) (a : α) : Bank α := ⟨(name, a) :: b.entries⟩

@[simp] theorem get?_empty (name : String) : (empty : Bank α).get? name = none := rfl

@[simp] theorem get?_set_self (b : Bank α) (name : String) (a : α) :
    (b.set name a).get? name = some a := by
  simp [get?, set]

@[simp] theorem get?_set_of_ne (b : Bank α) {name other : String} (h : other ≠ name) (a : α) :
    (b.set name a).get? other = b.get? other := by
  simp [get?, set, List.lookup_cons, beq_eq_false_iff_ne.2 h]

end Bank

/-- The three banks of a script. -/
structure Registers where
  composites : Bank Composite
  segments : Bank Segment
  options : Bank Options

namespace Registers

/-- The registers before the first step. -/
def empty : Registers := ⟨.empty, .empty, .empty⟩

/-- Writes a composite register. -/
def setComposite (r : Registers) (name : String) (c : Composite) : Registers :=
  { r with composites := r.composites.set name c }

/-- Writes a segment register. -/
def setSegment (r : Registers) (name : String) (s : Segment) : Registers :=
  { r with segments := r.segments.set name s }

/-- Writes an options register. -/
def setOptions (r : Registers) (name : String) (o : Options) : Registers :=
  { r with options := r.options.set name o }

end Registers

end Redaction.Script
