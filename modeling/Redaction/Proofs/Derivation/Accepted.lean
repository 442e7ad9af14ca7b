import Redaction.Derivation.Run
import Redaction.Proofs.Derivation.Fields

/-!
# Accepted declarations

What an accepted declaration guarantees for each of its structures or variants: there is a template
for it, the template is one, every placeholder refers to a field, and the values of this structure
or variant are composed by the arm for these references.
-/

namespace Redaction

/-- The attributes and the fields of a structure, or of the variant with this name. -/
def Declaration.shape? (d : Declaration) (variant : Option String) :
    Option (List Attribute × Fields) :=
  match d.body with
  | .structure fields => some (d.attributes, fields)
  | .enumeration variants =>
    (variants.find? fun v => decide (some v.name = variant)).map fun v => (v.attributes, v.fields)
  | .union => none

/-- The attributes and the fields of a structure, or of every variant. -/
def Declaration.shapes (d : Declaration) : List (List Attribute × Fields) :=
  match d.body with
  | .structure fields => [(d.attributes, fields)]
  | .enumeration variants => variants.map fun v => (v.attributes, v.fields)
  | .union => []

namespace Derivation

/-- The template that attributes give: in an attribute `compose`, or else as documentation. -/
def Resolves (attributes : List Attribute) (template : String) : Prop :=
  ∃ given, Compose.ofAttributes attributes = .ok given ∧
    resolveTemplate given.template attributes = .ok template

/-- The pieces of the template that attributes give. -/
def Templated (attributes : List Attribute) (pieces : List Template.Piece) : Prop :=
  ∃ template, Resolves attributes template ∧ Template.parse template = .ok pieces

theorem Resolves.unique {attributes : List Attribute} {template other : String}
    (h : Resolves attributes template) (h' : Resolves attributes other) : template = other := by
  obtain ⟨given, hgiven, htemplate⟩ := h
  obtain ⟨given', hgiven', hother⟩ := h'
  rw [hgiven, Except.ok.injEq] at hgiven'
  rw [← hgiven', htemplate, Except.ok.injEq] at hother
  exact hother

/-- Attributes give the pieces of one template at most. -/
theorem Templated.unique {attributes : List Attribute} {pieces others : List Template.Piece}
    (h : Templated attributes pieces) (h' : Templated attributes others) : pieces = others := by
  obtain ⟨template, hresolves, hparse⟩ := h
  obtain ⟨template', hresolves', hparse'⟩ := h'
  obtain rfl := hresolves.unique hresolves'
  rw [hparse, Except.ok.injEq] at hparse'
  exact hparse'

/-- A branch belongs to attributes and fields: their template is one, and the arm is made for the
fields that its placeholders refer to. -/
structure Branch.BelongsTo (b : Branch) (attributes : List Attribute) (fields : Fields)
    (pieces : List Template.Piece) : Prop where
  template : ∃ template, Resolves attributes template ∧ Template.parse template = .ok pieces
  references : List.Forall₂ (Reference.Of fields.slots) pieces b.references
  arm : ∃ path, b.arm = Arm.ofReferences path fields fields.slots b.references

theorem branch_eq_ok {path : String} {given : Compose} {attributes : List Attribute}
    {fields : Fields} {b : Branch} (hgiven : Compose.ofAttributes attributes = .ok given)
    (h : branch path given.template attributes fields = .ok b) :
    ∃ pieces, b.BelongsTo attributes fields pieces := by
  simp only [branch, bind_eq_ok, pure_eq_ok, mapError_eq_ok] at h
  obtain ⟨template, htemplate, slots, hslots, pieces, hpieces, references, hreferences, rfl⟩ := h
  obtain rfl := Slot.ofFields_eq_ok hslots
  exact ⟨pieces, ⟨template, ⟨given, hgiven, htemplate⟩, hpieces⟩,
    Reference.ofPieces_eq_ok hreferences, ⟨path, rfl⟩⟩

theorem variantBranch_eq_ok {name : String} {variant : Variant} {b : Branch}
    (h : variantBranch name variant = .ok b) :
    ∃ pieces, b.BelongsTo variant.attributes variant.fields pieces := by
  simp only [variantBranch, variantTemplate, bind_eq_ok, mapError_eq_ok] at h
  obtain ⟨template, ⟨given, hgiven, htemplate⟩, hbranch⟩ := h
  split at htemplate
  · cases htemplate
  · obtain rfl := pure_eq_ok.1 htemplate
    exact branch_eq_ok hgiven hbranch

/-- The branches stand at the positions of their variants. -/
theorem getElem?_variantBranches {name : String} {variants : List Variant}
    {branches : List Branch} {index : Nat} {variant : Variant}
    (h : variantBranches name variants = .ok branches) (hv : variants[index]? = some variant) :
    ∃ b, branches[index]? = some b ∧ variantBranch name variant = .ok b := by
  induction variants generalizing index branches with
  | nil => cases hv
  | cons first rest ih =>
      simp only [variantBranches, bind_eq_ok, pure_eq_ok] at h
      obtain ⟨b, hb, others, hothers, rfl⟩ := h
      cases index with
      | zero =>
          cases hv
          exact ⟨b, rfl, hb⟩
      | succ index =>
          obtain ⟨c, hc, hvariant⟩ := ih hothers hv
          exact ⟨c, hc, hvariant⟩

theorem variantBranches_eq_ok {name : String} {variants : List Variant} {branches : List Branch}
    (h : variantBranches name variants = .ok branches) :
    List.Forall₂ (fun v b => ∃ pieces, Branch.BelongsTo b v.attributes v.fields pieces)
      variants branches := by
  induction variants generalizing branches with
  | nil =>
      cases h
      exact .nil
  | cons first rest ih =>
      simp only [variantBranches, bind_eq_ok, pure_eq_ok] at h
      obtain ⟨b, hb, others, hothers, rfl⟩ := h
      exact .cons (variantBranch_eq_ok hb) (ih hothers)

/-- There is one branch for the structure, or for every variant, and it belongs to it. -/
theorem branches_eq_ok {d : Declaration} {given : Compose} {branches : List Branch}
    (hgiven : Compose.ofAttributes d.attributes = .ok given)
    (h : Derivation.branches d given = .ok branches) :
    List.Forall₂ (fun shape b => ∃ pieces, Branch.BelongsTo b shape.1 shape.2 pieces)
      d.shapes branches := by
  rw [Derivation.branches] at h
  rw [Declaration.shapes]
  cases hbody : d.body with
  | union =>
      rw [hbody] at h
      cases h
  | «structure» fields =>
      rw [hbody] at h
      simp only [bind_eq_ok, pure_eq_ok] at h
      obtain ⟨b, hb, rfl⟩ := h
      exact .cons (branch_eq_ok hgiven hb) .nil
  | enumeration variants =>
      rw [hbody] at h
      dsimp only at h
      split at h
      · cases h
      · exact List.forall₂_map_left_iff.2 (variantBranches_eq_ok h)

/-- The first variant with a name is found together with its position. -/
theorem find?_zipIdx {variants : List Variant} {name : Option String} {variant : Variant}
    (h : variants.find? (fun v => decide (some v.name = name)) = some variant) :
    ∃ index, variants[index]? = some variant ∧
      variants.zipIdx.find? (fun entry => decide (some entry.1.name = name)) =
        some (variant, index) := by
  rw [← List.zipIdx_map_fst 0 variants, List.find?_map, Option.map_eq_some_iff] at h
  obtain ⟨⟨_, index⟩, hfind, rfl⟩ := h
  refine ⟨index, ?_, hfind⟩
  obtain ⟨i, hi⟩ := List.mem_iff_getElem?.1 (List.mem_of_find?_eq_some hfind)
  rw [List.getElem?_zipIdx, Option.map_eq_some_iff] at hi
  obtain ⟨v, hv, heq⟩ := hi
  rw [Prod.mk.injEq, Nat.zero_add] at heq
  rw [← heq.1, ← heq.2, hv]

/-- For the values of a structure or variant of an accepted declaration the arm of a branch is
selected that belongs to it. -/
theorem selected_of_accepted {d : Declaration} {derivation : Derivation} {variant : Option String}
    {attributes : List Attribute} {fields : Fields} (accepted : ofDeclaration d = .ok derivation)
    (shape : d.shape? variant = some (attributes, fields)) :
    ∃ (b : Branch) (pieces : List Template.Piece) (index : Nat),
      b.BelongsTo attributes fields pieces ∧ derivation.arms[index]? = some b.arm ∧
      ∀ values, armOf d ⟨variant, values⟩ = some (index, fields.labels) := by
  simp only [ofDeclaration, bind_eq_ok, pure_eq_ok, mapError_eq_ok] at accepted
  obtain ⟨given, hgiven, branches, hbranches, rfl⟩ := accepted
  rw [Derivation.branches] at hbranches
  rw [Declaration.shape?] at shape
  cases hbody : d.body with
  | union =>
      rw [hbody] at shape
      cases shape
  | «structure» fields =>
      rw [hbody] at shape hbranches
      cases shape
      simp only [bind_eq_ok, pure_eq_ok] at hbranches
      obtain ⟨b, hb, rfl⟩ := hbranches
      obtain ⟨pieces, hbelongs⟩ := branch_eq_ok hgiven hb
      refine ⟨b, pieces, 0, hbelongs, rfl, ?_⟩
      intro values
      simp [armOf, hbody]
  | enumeration variants =>
      rw [hbody] at shape hbranches
      obtain ⟨found, hfind, heq⟩ := Option.map_eq_some_iff.1 shape
      cases heq
      obtain ⟨index, hindex, hposition⟩ := find?_zipIdx hfind
      dsimp only at hbranches
      split at hbranches
      · cases hbranches
      · obtain ⟨b, hb, hbranch⟩ := getElem?_variantBranches hbranches hindex
        obtain ⟨pieces, hbelongs⟩ := variantBranch_eq_ok hbranch
        refine ⟨b, pieces, index, hbelongs, by simp [hb], ?_⟩
        intro values
        simp [armOf, hbody, hposition]

/-- The values of a structure or variant of an accepted declaration are composed by the arm of a
branch that belongs to it. -/
theorem compose_of_accepted {d : Declaration} {derivation : Derivation} {variant : Option String}
    {attributes : List Attribute} {fields : Fields} (accepted : ofDeclaration d = .ok derivation)
    (shape : d.shape? variant = some (attributes, fields)) :
    ∃ (b : Branch) (pieces : List Template.Piece), b.BelongsTo attributes fields pieces ∧
      b.arm ∈ derivation.arms ∧ ∀ testing values, compose d derivation ⟨variant, values⟩ testing =
        some (b.arm.run testing fields.labels values) := by
  obtain ⟨b, pieces, index, hbelongs, harm, hselected⟩ := selected_of_accepted accepted shape
  refine ⟨b, pieces, hbelongs, List.mem_of_getElem? harm, ?_⟩
  intro testing values
  simp [compose, hselected, harm]

end Derivation

end Redaction
