import Redaction.Script.Step

/-!
# What a step contributes

Which parts a step puts into a composite is decided by the registers before the step alone. The
functions of this module say which, without regard to what is logged: `Operand.parts?` for an
operand, `Build.parts?` for a new composite and `Growth.parts?` for what is added to one. There are
no parts only if some register that is read holds nothing.

`Computes` compares an evaluation with such an account of it, and is kept by every way of composing
evaluations. So each operation needs the parts that it makes of its operands, and no more.
-/

namespace Redaction.Script

/-- The outcome is the one that is accounted for: a result related to that of the account, or the
failure that a register holds nothing where there is no account. -/
inductive Accounted {α β : Type} (R : α → β → Prop) : Except Failure α → Option β → Prop where
  | found {a : α} {b : β} (h : R a b) : Accounted R (.ok a) (some b)
  | unbound (register : String) : Accounted R (.error (.unbound register)) none

/-- The evaluation, whatever it logs, has the outcome that is accounted for. -/
def Computes {α β : Type} (R : α → β → Prop) (x : Eval α) (account : Option β) : Prop :=
  Accounted R x.run.value account

/-- What a sequence of evaluations comes to. -/
theorem Eval.value_bind {α β : Type} (x : Eval α) (f : α → Eval β) :
    (x >>= f).run.value =
      match x.run.value with
      | .ok a => (f a).run.value
      | .error failure => .error failure := by
  change (x.run >>= ExceptT.bindCont f).value = _
  rw [Logged.value_bind]
  cases x.run.value <;> rfl

namespace Computes

variable {α β γ δ : Type} {R : α → β → Prop} {S : γ → δ → Prop}
variable {x : Eval α} {account : Option β}

theorem pure {a : α} {b : β} (h : R a b) : Computes R (Pure.pure a) (some b) := .found h

/-- A logged computation that cannot fail. -/
theorem lift {u : Logged α} {b : β} (h : R u.value b) : Computes R (u : Eval α) (some b) :=
  .found h

theorem fetch (bank : Bank α) (name : String) :
    Computes (· = ·) (bank.fetch name) (bank.get? name) := by
  rw [Bank.fetch]
  cases bank.get? name with
  | none => exact .unbound name
  | some a => exact .found rfl

theorem bind {f : α → Eval γ} {next : β → Option δ} (h : Computes R x account)
    (step : ∀ a b, R a b → Computes S (f a) (next b)) : Computes S (x >>= f) (account >>= next) := by
  rw [Computes] at h
  rw [Computes, Eval.value_bind]
  generalize x.run.value = outcome at h ⊢
  cases h with
  | found related => exact step _ _ related
  | unbound register => exact .unbound register

theorem map {f : α → γ} {g : β → δ} (h : Computes R x account)
    (step : ∀ a b, R a b → S (f a) (g b)) : Computes S (f <$> x) (account.map g) := by
  have hmap : account.map g = account >>= fun b => some (g b) := by cases account <;> rfl
  rw [map_eq_pure_bind, hmap]
  exact h.bind fun a b related => .pure (step a b related)

/-- The two ways in which an evaluation can have the outcome that is accounted for. -/
theorem outcome (h : Computes R x account) :
    (∃ a b, x.run.value = .ok a ∧ account = some b ∧ R a b) ∨
    ∃ register, x.run.value = .error (.unbound register) ∧ account = none := by
  rw [Computes] at h
  generalize x.run.value = outcome at h ⊢
  cases h with
  | found related => exact .inl ⟨_, _, rfl, rfl, related⟩
  | unbound register => exact .inr ⟨register, rfl, rfl⟩

/-- The result is made into another one that the same account fits. -/
theorem map_result {S : γ → β → Prop} {f : α → γ} (h : Computes R x account)
    (step : ∀ a b, R a b → S (f a) b) : Computes S (f <$> x) account := by
  have hmap : Computes S (f <$> x) (account.map id) := h.map step
  rwa [Option.map_id, id_eq] at hmap

/-- The result fits another account of it. -/
theorem map_account {S : α → δ → Prop} {g : β → δ} (h : Computes R x account)
    (step : ∀ a b, R a b → S a (g b)) : Computes S x (account.map g) := by
  have hmap : Computes S (id <$> x) (account.map g) := h.map step
  rwa [id_map] at hmap

end Computes

/-! ## Operands -/

/-- The segment of a term. -/
def SegmentTerm.segment? (r : Registers) : SegmentTerm → Option Segment
  | .form f => some ⟨f.value, f.name.getD "", f.hidden⟩
  | .register name => r.segments.get? name

/-- The part of a term. -/
def PartTerm.part? (r : Registers) : PartTerm → Option Part
  | .text t => some (.text t)
  | .segment s => (s.segment? r).map .segment

/-- The parts that an operand contributes. -/
def Operand.parts? (r : Registers) : Operand → Option (List Part)
  | .part p => (p.part? r).map fun part => [part]
  | .composite register => (r.composites.get? register).map Composite.parts

/-- The parts that operands contribute from left to right. -/
def Operand.allParts? (r : Registers) : List Operand → Option (List Part)
  | [] => some []
  | operand :: rest => do
    let ps ← operand.parts? r
    let qs ← Operand.allParts? r rest
    return ps ++ qs

variable {r : Registers}

theorem SegmentTerm.eval_computes (s : SegmentTerm) :
    Computes (· = ·) (s.eval r) (s.segment? r) := by
  cases s with
  | form form => exact .lift form.value_build
  | register name => exact .fetch r.segments name

theorem PartTerm.eval_computes (p : PartTerm) : Computes (· = ·) (p.eval r) (p.part? r) := by
  cases p with
  | text text => exact .pure rfl
  | segment segment => exact segment.eval_computes.map fun _ _ same => congrArg Part.segment same

theorem Operand.eval_computes (x : Operand) :
    Computes (fun addend ps => addend.parts = ps) (x.eval r) (x.parts? r) := by
  cases x with
  | part part =>
      refine part.eval_computes.map fun p q same => ?_
      rw [same]
      rfl
  | composite register =>
      refine (Computes.fetch r.composites register).map fun c d same => ?_
      rw [same]
      rfl

theorem Operand.evalAll_computes (xs : List Operand) :
    Computes (fun addends ps => addends.flatMap Addend.parts = ps) (Operand.evalAll r xs)
      (Operand.allParts? r xs) := by
  induction xs with
  | nil => exact .pure rfl
  | cons x xs ih =>
      refine x.eval_computes.bind fun addend ps first => ?_
      refine ih.bind fun addends qs rest => .pure ?_
      rw [List.flatMap_cons, first, rest]

/-! ## Composites -/

/-- The parts of a new composite: those of the composite that it goes on from, if there is one, and
then those of the operands. -/
def Build.parts? (r : Registers) : Build → Option (List Part)
  | .empty => some []
  | .ofOperand operand => operand.parts? r
  | .ofOperands operands => Operand.allParts? r operands
  | .concat source operand => do
    let ps ← operand.parts? r
    let c ← r.composites.get? source
    return c.parts ++ ps
  | .add source operand => do
    let ps ← operand.parts? r
    let c ← r.composites.get? source
    return c.parts ++ ps
  | .segmentAdd segment operand => do
    let ps ← operand.parts? r
    let s ← (SegmentTerm.form segment).segment? r
    return .segment s :: ps
  | .textAdd text operand => do
    let ps ← operand.parts? r
    return .text text :: ps
  | .copy source => (r.composites.get? source).map Composite.parts

/-- The parts that are added when a composite grows. -/
def Growth.parts? (r : Registers) : Growth → Option (List Part)
  | .extend operand => operand.parts? r
  | .extendAll operands => Operand.allParts? r operands
  | .push p => (p.part? r).map fun part => [part]
  | .append text name hidden =>
    some [if name = "" then .text text else .segment ⟨text, name, hidden⟩]

theorem Build.eval_computes (how : Build) :
    Computes (fun c ps => c.parts = ps) (how.eval r) (how.parts? r) := by
  cases how with
  | empty => exact .pure rfl
  | ofOperand operand =>
      refine operand.eval_computes.map_result fun addend ps same => ?_
      rw [Composite.parts_ofAddend, same]
  | ofOperands operands =>
      refine (Operand.evalAll_computes operands).map_result fun addends ps same => ?_
      rw [Composite.parts_ofAddends, same]
  | concat source operand =>
      refine operand.eval_computes.bind fun addend ps same => ?_
      refine (Computes.fetch r.composites source).bind fun c d held => .pure ?_
      rw [Composite.parts_concat, same, held]
  | add source operand =>
      refine operand.eval_computes.bind fun addend ps same => ?_
      refine (Computes.fetch r.composites source).bind fun c d held => .pure ?_
      rw [Composite.parts_add, same, held]
  | segmentAdd segment operand =>
      refine operand.eval_computes.bind fun addend ps same => ?_
      refine (SegmentTerm.form segment).eval_computes.bind fun s t built => .pure ?_
      rw [Composite.parts_segment_add, same, built]
  | textAdd text operand =>
      refine operand.eval_computes.bind fun addend ps same => .pure ?_
      rw [Composite.parts_text_add, same]
  | copy source =>
      exact (Computes.fetch r.composites source).map_account fun _ _ held =>
        congrArg Composite.parts held

/-- Growing adds these parts after those that are there. -/
theorem Growth.eval_computes (growth : Growth) (c : Composite) :
    Computes (fun grown ps => grown.parts = c.parts ++ ps) (growth.eval r c)
      (growth.parts? r) := by
  cases growth with
  | extend operand =>
      refine operand.eval_computes.map_result fun addend ps same => ?_
      rw [Composite.parts_extend, same]
  | extendAll operands =>
      refine (Operand.evalAll_computes operands).map_result fun addends ps same => ?_
      rw [Composite.parts_foldl_extend, same]
  | push part =>
      refine part.eval_computes.map fun p q same => ?_
      rw [Composite.parts_push, same]
  | append text name hidden => exact .lift (c.parts_append text name hidden)

end Redaction.Script
