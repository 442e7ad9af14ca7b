import Redaction.Proofs.Derivation.Acceptance
import Redaction.Proofs.Derivation.Run

/-!
# Structures and variants are derived alike

A structure and a variant with the same attributes and the same fields have the same faults, and are
run in the same way. What differs is the path in the pattern of the arm, and a run does not look
at it. So neither the other variants of an enumeration nor the position among them have any
influence on the composite of a value.
-/

namespace Redaction.Derivation

variable {attributes : List Attribute} {fields : Fields}

/-! ## The same faults -/

/-- A structure is accepted if its attributes are understood and a template suits its fields. -/
theorem structure_judged (name : String) (parameters : List Parameter)
    (attributes : List Attribute) (fields : Fields) :
    Judged (ofDeclaration ⟨name, attributes, parameters, .structure fields⟩)
      (Compose.WellFormed attributes ∧ ∃ template, fields.Suit attributes template)
      (fun e => Compose.Faulty attributes e ∨
        Compose.WellFormed attributes ∧ fields.Refused attributes e) := by
  refine (compose_judged attributes).bind ?_
  intro given hgiven
  have hknows := Compose.says_of_ofAttributes (mapError_eq_ok.1 hgiven)
  exact (branch_judged "Self" hknows fields).bind_pure.bind_pure

/-- An enumeration with one variant is accepted if this is, unless it asks for `skip_display`. -/
theorem single_judged (name : String) (parameters : List Parameter) (variant : String)
    (fields : Fields) (noSkip : ¬ Compose.Skips attributes) :
    Judged (ofDeclaration ⟨name, [], parameters, .enumeration [⟨variant, attributes, fields⟩]⟩)
      (Compose.WellFormed attributes ∧ ∃ template, fields.Suit attributes template)
      (fun e => Compose.Faulty attributes e ∨
        Compose.WellFormed attributes ∧ fields.Refused attributes e) := by
  have hvariant :=
    (variantBranch_judged name ⟨variant, attributes, fields⟩).bind_pure (f := fun b => [b])
  -- no attributes give no template, so deriving from the enumeration evaluates to its one branch
  refine hvariant.bind_pure.congr ?_ ?_
  · constructor
    · rintro ⟨attributes, -, suited⟩
      exact ⟨attributes, suited⟩
    · rintro ⟨attributes, suited⟩
      exact ⟨attributes, noSkip, suited⟩
  · intro e
    constructor
    · intro h
      cases h with
      | attributes faulty => exact .inl faulty
      | skips _ skips => exact absurd skips noSkip
      | fields attributes _ refused => exact .inr ⟨attributes, refused⟩
    · rintro (faulty | ⟨attributes, refused⟩)
      · exact .attributes faulty
      · exact .fields attributes noSkip refused

/-! ## The same runs -/

/-- What a piece refers to is determined. -/
theorem Reference.Of.unique {slots : List Slot} : Relator.RightUnique (Reference.Of slots) := by
  intro piece r r' h h'
  cases h with
  | literal text =>
      cases h'
      rfl
  | field here refers =>
      cases h' with
      | field here' refers' =>
          obtain rfl := refers.unique refers'
          rw [here, Option.some.injEq] at here'
          rw [here']

/-- Branches that belong to the same attributes and fields run alike. -/
theorem Branch.BelongsTo.run_eq {b b' : Branch} {pieces others : List Template.Piece}
    (h : b.BelongsTo attributes fields pieces) (h' : b'.BelongsTo attributes fields others)
    (testing : Bool) (values : List Value) :
    b.arm.run testing fields.labels values = b'.arm.run testing fields.labels values := by
  -- the arms may differ in their paths, but the references are the same
  obtain rfl : pieces = others := Templated.unique h.template h'.template
  have hreferences := List.right_unique_forall₂' Reference.Of.unique h.references h'.references
  obtain ⟨path, harm⟩ := h.arm
  obtain ⟨path', harm'⟩ := h'.arm
  rw [harm, harm', hreferences]
  refine Arm.run_congr rfl rfl ?_
  cases fields <;> rfl

/-- The shape of a variant is the same at every position of an enumeration, if no variant before it
has its name. -/
theorem shape?_of_body {d : Declaration} {before after : List Variant} {v : Variant}
    (body : d.body = .enumeration (before ++ v :: after))
    (first : ∀ other ∈ before, other.name ≠ v.name) :
    d.shape? (some v.name) = some (v.attributes, v.fields) := by
  have hbefore : before.find? (fun other => decide (some other.name = some v.name)) = none := by
    rw [List.find?_eq_none]
    intro other hother
    simpa using first other hother
  rw [Declaration.shape?, body]
  dsimp only
  rw [List.find?_append, hbefore, Option.none_or, List.find?_cons_of_pos (by simp), Option.map_some]

/-- A structure and an enumeration whose only variant has the same attributes and fields are both
accepted, or are refused for the same fault. The values of an accepted structure are run like
those of such a variant among any others, to the end if no captured field is displayed. -/
theorem structure_alike_variant (fields : Fields) (noSkip : ¬ Compose.Skips attributes)
    (name name' : String) (parameters parameters' : List Parameter) (variant : String) :
    let single : Declaration :=
      ⟨name', [], parameters', .enumeration [⟨variant, attributes, fields⟩]⟩
    let alone : Declaration := ⟨name, attributes, parameters, .structure fields⟩
    ((∃ derivation, ofDeclaration alone = .ok derivation) ↔
      ∃ derivation, ofDeclaration single = .ok derivation) ∧
    (∀ fault, ofDeclaration alone = .error fault ↔ ofDeclaration single = .error fault) ∧
    ∀ derivation, ofDeclaration alone = .ok derivation →
      ∀ (d : Declaration) (derivation' : Derivation) (before after : List Variant),
        ofDeclaration d = .ok derivation' →
        d.body = .enumeration (before ++ ⟨variant, attributes, fields⟩ :: after) →
        (∀ other ∈ before, other.name ≠ variant) →
        ∀ (testing : Bool) (values : List Value), values.length = fields.entries.length →
          ∃ run, compose alone derivation ⟨none, values⟩ testing = some run ∧
            compose d derivation' ⟨some variant, values⟩ testing = some run ∧
            ((∃ composite events, Yields run composite events) ↔
              ∃ pieces, Templated attributes pieces ∧ fields.Displayable pieces) := by
  intro single alone
  have hsingle := single_judged name' parameters' variant fields noSkip
  have halone := structure_judged name parameters attributes fields
  refine ⟨halone.ok.trans hsingle.ok.symm,
    fun fault => (halone.error fault).trans (hsingle.error fault).symm, ?_⟩
  intro derivation accepted d derivation' before after accepted' body first testing values complete
  have hshape : alone.shape? none = some (attributes, fields) := rfl
  obtain ⟨b, pieces, hbelongs, -, hcompose⟩ := compose_of_accepted accepted hshape
  obtain ⟨b', others, hbelongs', -, hcompose'⟩ :=
    compose_of_accepted accepted' (shape?_of_body body first)
  refine ⟨b.arm.run testing fields.labels values, hcompose testing values, ?_,
    hbelongs.exists_yields_iff testing complete⟩
  rw [hcompose' testing values, hbelongs.run_eq hbelongs' testing values]

/-- The template and the fields of a login. -/
def loginShape : List Attribute × Fields :=
  ([⟨"compose", .list [.text "login \x7buser\x7d from \x7bip\x7d"]⟩],
    .named [("user", {}), ("ip", { attributes := [⟨"protected", .bare⟩] })])

/-- A login is shown in the same way between the other events of a session. -/
theorem login_alike_among_events :
    let login : Declaration := ⟨"Login", loginShape.1, [], .structure loginShape.2⟩
    let event : Declaration :=
      ⟨"Event", [], [], .enumeration
        [⟨"Opened", [⟨"doc", .value (.text " opened")⟩], .unit⟩,
          ⟨"Login", loginShape.1, loginShape.2⟩,
          ⟨"Token", [⟨"compose", .list [.text "token \x7b0\x7d"]⟩], .tuple [{}]⟩]⟩
    ∃ derivation derivation', ofDeclaration login = .ok derivation ∧
      ofDeclaration event = .ok derivation' ∧
      ∀ user ip, ∃ run composite events, compose login derivation ⟨none, [user, ip]⟩ = some run ∧
        compose event derivation' ⟨some "Login", [user, ip]⟩ = some run ∧
        Yields run composite events := by
  intro login event
  have hordinary : loginShape.2.Ordinary := .of_heads (by decide)
  have noSkip : ¬ Compose.Skips loginShape.1 := by
    rintro ⟨a, mem, -, skips⟩
    obtain rfl := List.mem_singleton.1 mem
    exact absurd skips (by decide)
  obtain ⟨derivation, accepted⟩ : ∃ derivation, ofDeclaration login = .ok derivation := ⟨_, rfl⟩
  obtain ⟨derivation', accepted'⟩ : ∃ derivation', ofDeclaration event = .ok derivation' := ⟨_, rfl⟩
  obtain ⟨-, -, halike⟩ :=
    structure_alike_variant loginShape.2 noSkip "Login" "Event" [] [] "Login"
  refine ⟨derivation, derivation', accepted, accepted', fun user ip => ?_⟩
  obtain ⟨run, hlogin, hevent, hends⟩ := halike derivation accepted event derivation' [_] [_]
    accepted' rfl (by simp) false [user, ip] rfl
  obtain ⟨composite, events, hyields⟩ :=
    hends.2 ⟨_, ⟨_, ⟨_, rfl, rfl⟩, rfl⟩, hordinary.displayable _⟩
  exact ⟨run, composite, events, hlogin, hevent, hyields⟩

end Redaction.Derivation
