import Redaction.Proofs.Script.Contribution

/-!
# What a step leaves alone

A step writes one register at most. Every other register holds what it held, and what is written is
made of what the registers held before the step, also where the step reads the register that it
writes. A step that fails writes nothing, so a script goes on after it as if it had not been there.

The frame of a script follows from the frame of its steps: a register that no step writes holds at
the end what it held at the beginning, and a composite that is only made to grow keeps the parts
that it had in front.
-/

namespace Redaction.Script

/-- A register of one of the three banks. -/
inductive Cell where
  | composite (name : String)
  | segment (name : String)
  | options (name : String)
  deriving DecidableEq, Repr

/-- The register that a step writes. An observation writes none. -/
def Step.target? : Step → Option Cell
  | .build target _ => some (.composite target)
  | .grow target _ => some (.composite target)
  | .segment target _ => some (.segment target)
  | .options target _ => some (.options target)
  | .observe _ => none

/-- All registers hold what they held, except those that may have changed. -/
structure Registers.SameBut (changed : Cell → Prop) (r r' : Registers) : Prop where
  composites (name : String) (h : ¬ changed (.composite name)) :
    r'.composites.get? name = r.composites.get? name
  segments (name : String) (h : ¬ changed (.segment name)) :
    r'.segments.get? name = r.segments.get? name
  options (name : String) (h : ¬ changed (.options name)) :
    r'.options.get? name = r.options.get? name

namespace Registers.SameBut

variable {changed changed' : Cell → Prop} {r r' r'' : Registers}

theorem refl (changed : Cell → Prop) (r : Registers) : r.SameBut changed r :=
  ⟨fun _ _ => rfl, fun _ _ => rfl, fun _ _ => rfl⟩

theorem trans (h : r.SameBut changed r') (h' : r'.SameBut changed r'') :
    r.SameBut changed r'' where
  composites name hname := (h'.composites name hname).trans (h.composites name hname)
  segments name hname := (h'.segments name hname).trans (h.segments name hname)
  options name hname := (h'.options name hname).trans (h.options name hname)

theorem mono (h : r.SameBut changed r') (more : ∀ cell, changed cell → changed' cell) :
    r.SameBut changed' r' where
  composites name hname := h.composites name fun hchanged => hname (more _ hchanged)
  segments name hname := h.segments name fun hchanged => hname (more _ hchanged)
  options name hname := h.options name fun hchanged => hname (more _ hchanged)

theorem setComposite {target : String} (r : Registers) (c : Composite)
    (h : changed (.composite target)) : r.SameBut changed (r.setComposite target c) where
  composites name hname := by
    have hne : name ≠ target := fun same => hname (same ▸ h)
    exact r.composites.get?_set_of_ne hne c
  segments _ _ := rfl
  options _ _ := rfl

theorem setSegment {target : String} (r : Registers) (s : Segment)
    (h : changed (.segment target)) : r.SameBut changed (r.setSegment target s) where
  composites _ _ := rfl
  segments name hname := by
    have hne : name ≠ target := fun same => hname (same ▸ h)
    exact r.segments.get?_set_of_ne hne s
  options _ _ := rfl

theorem setOptions {target : String} (r : Registers) (o : Options)
    (h : changed (.options target)) : r.SameBut changed (r.setOptions target o) where
  composites _ _ := rfl
  segments _ _ := rfl
  options name hname := by
    have hne : name ≠ target := fun same => hname (same ▸ h)
    exact r.options.get?_set_of_ne hne o

end Registers.SameBut

/-! ## Steps -/

/-- What a step makes of the registers, and what it answers. All that is read is read in the
registers before the step. A building step stores the parts of the composite that it goes on from
and then those of its operands; a step that makes a composite grow stores the old parts and then
those that are added; either fails only if it reads a register that holds nothing. -/
inductive Step.Effect (r : Registers) : Step → Registers → Answer → Prop where
  | build {target : String} {how : Build} {ps : List Part} (parts : how.parts? r = some ps) :
      Effect r (.build target how) (r.setComposite target ⟨ps⟩) (.composite ⟨ps⟩)
  | buildUnbound {target : String} {how : Build} (register : String)
      (parts : how.parts? r = none) :
      Effect r (.build target how) r (.failed (.unbound register))
  | grow {target : String} {growth : Growth} {c : Composite} {ps : List Part}
      (old : r.composites.get? target = some c) (added : growth.parts? r = some ps) :
      Effect r (.grow target growth) (r.setComposite target ⟨c.parts ++ ps⟩)
        (.composite ⟨c.parts ++ ps⟩)
  | growUnbound {target : String} {growth : Growth} (register : String)
      (missing : r.composites.get? target = none ∨ growth.parts? r = none) :
      Effect r (.grow target growth) r (.failed (.unbound register))
  | segment {target : String} {form : SegmentForm} {s : Segment}
      (written : (SegmentTerm.form form).segment? r = some s) :
      Effect r (.segment target form) (r.setSegment target s) (.segment s)
  | options {target : String} {term : OptionsTerm} {o : Options}
      (read : (term.eval r).run.value = .ok o) :
      Effect r (.options target term) (r.setOptions target o) (.options o)
  | optionsFailed {target : String} {term : OptionsTerm} {failure : Failure}
      (read : (term.eval r).run.value = .error failure) :
      Effect r (.options target term) r (.failed failure)
  | observe {observation : Observation} {answer : Answer} :
      Effect r (.observe observation) r answer

theorem Step.value_run (r : Registers) (step : Step) :
    (step.run r).value =
      match (step.eval r).run.value with
      | .ok result => result
      | .error failure => (r, .failed failure) := by
  rw [Step.run, Logged.value_bind]
  cases (step.eval r).run.value <;> rfl

/-- A step that starts with an evaluation fails with it, and otherwise goes on with its result. -/
theorem Step.value_run_of_bind {α : Type} {r : Registers} {step : Step} {x : Eval α}
    {f : α → Registers × Answer} (h : step.eval r = x >>= fun a => pure (f a)) :
    (step.run r).value =
      match x.run.value with
      | .ok a => f a
      | .error failure => (r, .failed failure) := by
  rw [Step.value_run, h, Eval.value_bind]
  cases x.run.value <;> rfl

/-- Reading the composite and making it grow comes to its old parts and those that are added. -/
theorem Growth.fetch_computes {r : Registers} (growth : Growth) (target : String) :
    Computes (fun grown ps => grown.parts = ps)
      (r.composites.fetch target >>= fun c => growth.eval r c)
      (r.composites.get? target >>= fun c => (growth.parts? r).map (c.parts ++ ·)) := by
  refine (Computes.fetch r.composites target).bind fun c d held => ?_
  subst held
  exact (growth.eval_computes c).map_account fun grown ps same => same

theorem Step.run_effect (r : Registers) (step : Step) :
    step.Effect r (step.run r).value.1 (step.run r).value.2 := by
  cases step with
  | build target how =>
      rw [Step.value_run_of_bind (x := how.eval r) rfl]
      have outcome := (how.eval_computes (r := r)).outcome
      obtain ⟨c, ps, evaluated, parts, rfl⟩ | ⟨register, evaluated, parts⟩ := outcome
      · rw [evaluated]
        exact .build parts
      · rw [evaluated]
        exact .buildUnbound register parts
  | grow target growth =>
      have order : (Step.grow target growth).eval r =
          (r.composites.fetch target >>= fun c => growth.eval r c) >>= fun grown =>
            pure (r.setComposite target grown, .composite grown) := by
        rw [bind_assoc]
        rfl
      rw [Step.value_run_of_bind order]
      have outcome := (growth.fetch_computes (r := r) target).outcome
      obtain ⟨grown, ps, evaluated, parts, rfl⟩ | ⟨register, evaluated, parts⟩ := outcome
      · rw [evaluated]
        obtain ⟨c, old, parts⟩ := Option.bind_eq_some_iff.1 parts
        obtain ⟨added, hadded, same⟩ := Option.map_eq_some_iff.1 parts
        have hgrown : grown = ⟨c.parts ++ added⟩ := congrArg Composite.mk same.symm
        rw [hgrown]
        exact .grow old hadded
      · rw [evaluated]
        refine .growUnbound register ?_
        cases old : r.composites.get? target with
        | none => exact .inl rfl
        | some c =>
            rw [old] at parts
            exact .inr (Option.map_eq_none_iff.1 parts)
  | segment target form =>
      rw [Step.value_run_of_bind (x := (SegmentTerm.form form).eval r) rfl]
      have outcome := ((SegmentTerm.form form).eval_computes (r := r)).outcome
      obtain ⟨s, t, evaluated, written, rfl⟩ | ⟨register, evaluated, written⟩ := outcome
      · rw [evaluated]
        exact .segment written
      · cases written
  | options target term =>
      rw [Step.value_run_of_bind (x := term.eval r) rfl]
      cases hread : (term.eval r).run.value with
      | ok o => exact .options hread
      | error failure => exact .optionsFailed hread
  | observe observation =>
      rw [Step.value_run_of_bind (x := observation.eval r) rfl]
      cases (observation.eval r).run.value with
      | ok answer => exact .observe
      | error failure => exact .observe

namespace Step.Effect

variable {r r' : Registers} {step : Step} {answer : Answer}

/-- Only the register that the step stores to is written. -/
theorem sameBut (h : step.Effect r r' answer) :
    r.SameBut (fun cell => step.target? = some cell) r' := by
  cases h with
  | build parts => exact .setComposite r _ rfl
  | grow old added => exact .setComposite r _ rfl
  | segment written => exact .setSegment r _ rfl
  | options read => exact .setOptions r _ rfl
  | buildUnbound register parts => exact .refl _ r
  | growUnbound register missing => exact .refl _ r
  | optionsFailed read => exact .refl _ r
  | observe => exact .refl _ r

/-- A step that has no register to store to, or that fails, writes nothing. -/
theorem unchanged (h : step.Effect r r' answer)
    (inert : step.target? = none ∨ ∃ failure, answer = .failed failure) : r' = r := by
  obtain untargeted | ⟨failure, rfl⟩ := inert
  · cases h with
    | observe => rfl
    | _ => cases untargeted
  -- An answer that is a failure leaves only the cases that write nothing.
  · cases h <;> rfl

/-- A composite that is not replaced keeps the parts that it had in front. -/
theorem keeps_parts (h : step.Effect r r' answer) {name : String} {c : Composite}
    (held : r.composites.get? name = some c) (kept : ∀ how, step ≠ .build name how) :
    ∃ grown, r'.composites.get? name = some grown ∧ c.parts <+: grown.parts := by
  by_cases htarget : step.target? = some (.composite name)
  · cases h with
    | @build target how ps parts =>
        obtain rfl : target = name := by simpa [Step.target?] using htarget
        exact absurd rfl (kept how)
    | @grow target growth old ps hold added =>
        obtain rfl : target = name := by simpa [Step.target?] using htarget
        obtain rfl : old = c := Option.some.inj (hold.symm.trans held)
        exact ⟨_, Bank.get?_set_self .., List.prefix_append ..⟩
    | segment written => cases htarget
    | options read => cases htarget
    | buildUnbound register parts => exact ⟨c, held, List.prefix_rfl⟩
    | growUnbound register missing => exact ⟨c, held, List.prefix_rfl⟩
    | optionsFailed read => exact ⟨c, held, List.prefix_rfl⟩
    | observe => exact ⟨c, held, List.prefix_rfl⟩
  · rw [h.sameBut.composites name htarget]
    exact ⟨c, held, List.prefix_rfl⟩

/-- A new composite whose parts are known is stored. -/
theorem build_eq {target : String} {how : Build} {ps : List Part}
    (h : (Step.build target how).Effect r r' answer) (parts : how.parts? r = some ps) :
    r' = r.setComposite target ⟨ps⟩ := by
  cases h with
  | build parts' => rw [Option.some.inj (parts.symm.trans parts')]
  | buildUnbound register missing => cases parts.symm.trans missing

/-- A composite that is there grows by parts that are known. -/
theorem grow_eq {target : String} {growth : Growth} {c : Composite} {ps : List Part}
    (h : (Step.grow target growth).Effect r r' answer)
    (old : r.composites.get? target = some c) (added : growth.parts? r = some ps) :
    r' = r.setComposite target ⟨c.parts ++ ps⟩ := by
  cases h with
  | grow old' added' =>
      rw [Option.some.inj (old.symm.trans old'), Option.some.inj (added.symm.trans added')]
  | growUnbound register missing =>
      obtain unbound | unread := missing
      · cases old.symm.trans unbound
      · cases added.symm.trans unread

end Step.Effect

/-- The step puts the parts of a composite twice into a register. -/
inductive Step.Doubles (name : String) : Step → String → Prop where
  | concat (target : String) : Doubles name (.build target (.concat name (.composite name))) target
  | add (target : String) : Doubles name (.build target (.add name (.composite name))) target
  | extend : Doubles name (.grow name (.extend (.composite name))) name
  | extendAll : Doubles name (.grow name (.extendAll [.composite name])) name

/-- A composite that meets itself contributes its old parts twice, wherever they are stored. -/
theorem Step.Effect.doubled {r r' : Registers} {step : Step} {answer : Answer}
    {name target : String} {c : Composite} (h : step.Effect r r' answer)
    (doubles : step.Doubles name target) (held : r.composites.get? name = some c) :
    r' = r.setComposite target ⟨c.parts ++ c.parts⟩ := by
  have operand : (Operand.composite name).parts? r = some c.parts := by
    rw [Operand.parts?, held]
    rfl
  have operands : Operand.allParts? r [.composite name] = some c.parts := by
    rw [Operand.allParts?, operand]
    exact congrArg some (List.append_nil c.parts)
  have appended : (Build.concat name (.composite name)).parts? r = some (c.parts ++ c.parts) := by
    rw [Build.parts?, operand, held]
    rfl
  cases doubles with
  | concat target => exact h.build_eq appended
  | add target => exact h.build_eq appended
  | extend => exact h.grow_eq held operand
  | extendAll => exact h.grow_eq held operands

/-- What is known of a step from the registers before and after it and from its answer. -/
structure Step.Framed (r : Registers) (step : Step) (r' : Registers) (answer : Answer) : Prop where
  effect : step.Effect r r' answer
  frame : r.SameBut (fun cell => step.target? = some cell) r'
  /-- A step that grows a composite adds behind the parts that are there. -/
  keeps_parts (name : String) (c : Composite) (held : r.composites.get? name = some c)
    (kept : ∀ how, step ≠ .build name how) :
    ∃ grown, r'.composites.get? name = some grown ∧ c.parts <+: grown.parts
  unchanged (inert : step.target? = none ∨ ∃ failure, answer = .failed failure) : r' = r
  doubled (name target : String) (c : Composite) (doubles : step.Doubles name target)
    (held : r.composites.get? name = some c) : r' = r.setComposite target ⟨c.parts ++ c.parts⟩

theorem Step.run_framed (r : Registers) (step : Step) :
    step.Framed r (step.run r).value.1 (step.run r).value.2 where
  effect := step.run_effect r
  frame := (step.run_effect r).sameBut
  keeps_parts _ _ held kept := (step.run_effect r).keeps_parts held kept
  unchanged inert := (step.run_effect r).unchanged inert
  doubled _ _ _ doubles held := (step.run_effect r).doubled doubles held

/-! ## Scripts -/

/-- The registers after the steps of a script. -/
def after (r : Registers) : List Step → Registers
  | [] => r
  | step :: rest => after (step.run r).value.1 rest

theorem after_append (r : Registers) (before later : List Step) :
    after r (before ++ later) = after (after r before) later := by
  induction before generalizing r with
  | nil => rfl
  | cons step before ih => exact ih _

theorem run_append (r : Registers) (before later : List Step) :
    run r (before ++ later) = run r before ++ run (after r before) later := by
  induction before generalizing r with
  | nil => rfl
  | cons step before ih => exact congrArg (_ :: ·) (ih _)

@[simp] theorem length_run (r : Registers) (steps : List Step) :
    (run r steps).length = steps.length := by
  induction steps generalizing r with
  | nil => rfl
  | cons step steps ih => exact congrArg (· + 1) (ih _)

/-- The answer to a step of a script, which runs on the registers that the steps before it leave. -/
theorem getElem?_run (r : Registers) (before : List Step) (step : Step) (later : List Step) :
    (run r (before ++ step :: later))[before.length]? =
      some (Prod.snd <$> step.run (after r before)) := by
  rw [run_append, ← length_run r before, List.getElem?_append_right (Nat.le_refl _), Nat.sub_self]
  rfl

/-- A script leaves alone each register that none of its steps stores to. -/
theorem after_sameBut (r : Registers) (steps : List Step) :
    r.SameBut (fun cell => ∃ step ∈ steps, step.target? = some cell) (after r steps) := by
  induction steps generalizing r with
  | nil => exact .refl _ r
  | cons step steps ih =>
      have first := (step.run_effect r).sameBut
      refine (first.mono fun cell htarget => ?_).trans ((ih _).mono fun cell later => ?_)
      · exact ⟨step, List.mem_cons_self, htarget⟩
      · obtain ⟨step', hmem, htarget⟩ := later
        exact ⟨step', List.mem_cons_of_mem step hmem, htarget⟩

/-- A composite that no step of a script replaces keeps the parts that it had in front. -/
theorem after_keeps_parts {r : Registers} {steps : List Step} {name : String} {c : Composite}
    (held : r.composites.get? name = some c) (kept : ∀ how, Step.build name how ∉ steps) :
    ∃ grown, (after r steps).composites.get? name = some grown ∧ c.parts <+: grown.parts := by
  induction steps generalizing r c with
  | nil => exact ⟨c, held, List.prefix_rfl⟩
  | cons step steps ih =>
      have kept_first : ∀ how, step ≠ .build name how :=
        fun how same => kept how (same ▸ List.mem_cons_self)
      obtain ⟨d, held', first⟩ := (step.run_effect r).keeps_parts held kept_first
      have kept_rest : ∀ how, Step.build name how ∉ steps :=
        fun how later => kept how (List.mem_cons_of_mem step later)
      obtain ⟨grown, final, rest⟩ := ih held' kept_rest
      exact ⟨grown, final, first.trans rest⟩

/-- A script changes no register but those that its steps store to, and makes a composite that it
does not replace only longer. Each of its steps, whatever comes before and after it, has its effect
on the registers that it meets and on no others. A step that only observes, or that fails, leaves
all of them as they were, and the rest of the script runs as if the step were not there. -/
theorem steps_framed (start : Registers) (steps : List Step) :
    start.SameBut (fun cell => ∃ step ∈ steps, step.target? = some cell) (after start steps) ∧
      (∀ name c, start.composites.get? name = some c → (∀ how, Step.build name how ∉ steps) →
        ∃ grown, (after start steps).composites.get? name = some grown ∧
          c.parts <+: grown.parts) ∧
      ∀ before step later, steps = before ++ step :: later →
        ∃ answer, (run start steps)[before.length]? = some answer ∧
          step.Framed (after start before) (after start (before ++ [step])) answer.value ∧
          ((step.target? = none ∨ ∃ failure, answer.value = .failed failure) →
            (run start steps).eraseIdx before.length = run start (before ++ later) ∧
            after start steps = after start (before ++ later)) := by
  refine ⟨after_sameBut start steps, fun name c held kept => after_keeps_parts held kept, ?_⟩
  rintro before step later rfl
  have framed := step.run_framed (after start before)
  have hafter : after start (before ++ [step]) = (step.run (after start before)).value.1 :=
    after_append start before [step]
  have hrun : run start (before ++ step :: later) = run start before ++
      (Prod.snd <$> step.run (after start before)) ::
        run (after start (before ++ [step])) later := by
    rw [run_append, hafter]
    rfl
  rw [← hafter] at framed
  refine ⟨_, getElem?_run start before step later, framed, fun inert => ?_⟩
  · have same := framed.unchanged inert
    constructor
    · rw [hrun, same, run_append, ← length_run start before,
        List.eraseIdx_append_of_length_le (Nat.le_refl _), Nat.sub_self]
      rfl
    · rw [List.append_cons, after_append, same, after_append]

/-- A line is doubled, and the options that were refused before that have left no trace. -/
theorem line_doubled_after_refusal :
    let line : Step := .build "line" (.ofOperand (.part (.text "a")))
    let refused : Step := .options "options" (.form (.spec "$"))
    let doubling : Step := .grow "line" (.extend (.composite "line"))
    (after .empty [line, refused, doubling]).composites.get? "line" =
        some ⟨[.text "a", .text "a"]⟩ ∧
      (run .empty [line, refused, doubling]).eraseIdx 1 = run .empty [line, doubling] ∧
      after .empty [line, refused, doubling] = after .empty [line, doubling] := by
  intro line refused doubling
  obtain ⟨-, -, framed⟩ := steps_framed .empty [line, refused, doubling]
  obtain ⟨_, -, doubled, -⟩ := framed [line, refused] doubling [] rfl
  obtain ⟨answer, answered, -, traceless⟩ := framed [line] refused [doubling] rfl
  have failed : answer.value = .failed (.rejected .missingAllowList) :=
    congrArg Logged.value (Option.some.inj answered).symm
  have held : after .empty [line, refused, doubling] = _ :=
    doubled.doubled "line" "line" ⟨[.text "a"]⟩ .extend rfl
  refine ⟨?_, traceless (.inr ⟨_, failed⟩)⟩
  rw [held]
  rfl

end Redaction.Script
