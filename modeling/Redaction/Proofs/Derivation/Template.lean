import Redaction.Proofs.Derivation.Run
import Redaction.Proofs.Template

/-!
# Derived composites follow their templates

The composite of a value of a derived type has one part for every piece of the template, in order:
the literal itself, the formatted field, or a segment with the formatted field as its value. With
every value revealed it reads like the template with the fields in their places, whether they are
protected or not. This is so wherever every field is read under its own name, which the names of
the fields decide.
-/

namespace Redaction

/-- The part that stands for a field with this plain name, when the field is formatted as the text:
a segment if the field is protected, or else the text itself. -/
def Field.part (f : Field) (name : Option String) (text : String) : Part :=
  if f.IsProtected then .segment ⟨text, f.segmentName name, f.hidesName⟩ else .text text

theorem Field.plain_part (f : Field) (name : Option String) (text : String) :
    (f.part name text).plain = text := by
  rw [part]
  split <;> rfl

namespace Fields

variable (fields : Fields) (values : List Value)

/-- The part that a piece stands for, when the fields have these values. -/
inductive Realizes : Template.Piece → Part → Prop where
  | literal (text : String) : Realizes (.literal text) (.text text)
  | field {key : Template.Key} {mode : Template.Mode} {index : Nat} {name : Option String}
      {field : Field} {v : Value} (refers : key.Refers fields.names index)
      (here : fields.entries[index]? = some (name, field)) (value : values[index]? = some v) :
      Realizes (.field key mode) (field.part name (v.format mode))

/-- The text of the field that a key refers to. Protection plays no part in it. -/
def Shows (key : Template.Key) (mode : Template.Mode) (text : String) : Prop :=
  ∃ index v, key.Refers fields.names index ∧ values[index]? = some v ∧ text = v.format mode

variable {fields values} {piece : Template.Piece} {part : Part}

theorem Realizes.shows (h : fields.Realizes values piece part) :
    piece.Shows (fields.Shows values) part.plain := by
  cases h with
  | literal text => exact .literal text
  | field refers here value =>
      rw [Field.plain_part]
      exact .field ⟨_, _, refers, value, rfl⟩

/-- Each piece has one part at most. -/
theorem Realizes.unique {other : Part} (h : fields.Realizes values piece part)
    (h' : fields.Realizes values piece other) : part = other := by
  cases h with
  | literal text =>
      cases h'
      rfl
  | field refers here value =>
      cases h' with
      | field refers' here' value' =>
          obtain rfl := refers.unique refers'
          rw [here, Option.some.injEq, Prod.mk.injEq] at here'
          rw [value, Option.some.injEq] at value'
          rw [here'.1, here'.2, value']

/-- A field that is read for itself adds the part that its piece stands for. -/
theorem Adds.realizes {pieces : List Template.Piece} {uses : List (Nat × Template.Mode)}
    {segments : List Segment} (h : fields.Adds pieces uses values segments piece part)
    (built : List.Forall₂ (fields.SegmentOf pieces values) uses segments)
    (free : ∀ use, ¬ fields.Captured pieces use) : fields.Realizes values piece part := by
  cases h with
  | literal text => exact .literal text
  | @plain key use v text refers plain value own =>
      obtain ⟨⟨name, field⟩, here⟩ := exists_of_refers (Eq.refl fields.entries.length) refers
      have hfield : ¬ field.IsProtected := fun h => plain ⟨name, field, here, h⟩
      have hpart : field.part name (v.format use.2) = .text text := by
        rw [Field.part, if_neg hfield, own (free use)]
      rw [← hpart]
      exact .field refers here value
  | shared refers secret here segment =>
      obtain ⟨s', hs', hsegment⟩ := getElem?_of_forall₂ built here
      obtain rfl := Option.some.inj (segment.symm.trans hs')
      obtain ⟨name', field', hentry', hfield⟩ := secret
      cases hsegment with
      | @intro index name field v mode text hentry value own =>
          rw [hentry, Option.some.injEq, Prod.mk.injEq] at hentry'
          obtain ⟨rfl, rfl⟩ := hentry'
          have hpart : field.part name (v.format mode) =
              .segment ⟨text, field.segmentName name, field.hidesName⟩ := by
            rw [Field.part, if_pos hfield, own (free _)]
          rw [← hpart]
          exact .field refers hentry value

end Fields

namespace Derivation

/-- The parts of a run are those that the pieces stand for, if no field is called like a name of
the body. -/
theorem Branch.BelongsTo.realizes {b : Branch} {attributes : List Attribute} {fields : Fields}
    {pieces : List Template.Piece} {values : List Value}
    (h : b.BelongsTo attributes fields pieces) (testing : Bool) (ordinary : fields.Ordinary)
    (complete : values.length = fields.entries.length) :
    ∃ c events, Yields (b.arm.run testing fields.labels values) c events ∧
      List.Forall₂ (fields.Realizes values) pieces c.parts := by
  obtain ⟨c, events, hrun⟩ := (h.yields_iff testing complete).2 (ordinary.displayable pieces)
  obtain ⟨-, segments, -, hsegments, hparts⟩ := h.run_built complete hrun
  exact ⟨c, events, hrun,
    hparts.imp fun _ _ hadds => hadds.realizes hsegments ordinary.not_captured⟩

/-- The composite of a value of a derived type is its template. Whatever the values of the fields
are, building it succeeds, and its parts are exactly those that the pieces of the template stand
for, in order; with all values revealed, it is the template with the fields in their places. As no
field is called like a name of the body, every expression reads its own field. -/
theorem composite_follows_template {d : Declaration} {derivation : Derivation}
    {variant : Option String} {attributes : List Attribute} {fields : Fields}
    {values : List Value} (testing : Bool) (accepted : ofDeclaration d = .ok derivation)
    (shape : d.shape? variant = some (attributes, fields)) (ordinary : fields.Ordinary)
    (complete : values.length = fields.entries.length) :
    ∃ template pieces run composite events,
      Resolves attributes template ∧ Template.parse template = .ok pieces ∧
      compose d derivation ⟨variant, values⟩ testing = some run ∧ Yields run composite events ∧
      (∀ parts, List.Forall₂ (fields.Realizes values) pieces parts ↔ parts = composite.parts) ∧
      ∃ tokens, Template.Reads template.toList tokens ∧
        Template.Fills (fields.Shows values) 0 tokens composite.plain.toList := by
  obtain ⟨b, pieces, hbelongs, -, hcompose⟩ := compose_of_accepted accepted shape
  obtain ⟨template, hresolves, hparse⟩ := hbelongs.template
  obtain ⟨composite, events, hrun, hrealizes⟩ :=
    hbelongs.realizes testing ordinary complete
  have hunique : ∀ parts, List.Forall₂ (fields.Realizes values) pieces parts ↔
      parts = composite.parts := by
    intro parts
    have hpart : Relator.RightUnique (fields.Realizes values) :=
      fun _ _ _ => Fields.Realizes.unique
    constructor
    · intro h
      exact List.right_unique_forall₂' hpart h hrealizes
    · rintro rfl
      exact hrealizes
  have hshows : List.Forall₂ (Template.Piece.Shows (fields.Shows values)) pieces
      (composite.parts.map Part.plain) := by
    rw [List.forall₂_map_right_iff]
    exact hrealizes.imp fun _ _ h => h.shows
  obtain ⟨tokens, hreads, rfl⟩ := Template.parse_eq_ok hparse
  obtain ⟨text, hfills, htext⟩ := Template.fills_of_assemble hshows
  refine ⟨template, _, _, composite, events, hresolves, hparse, hcompose testing values, hrun,
    hunique, tokens, hreads, ?_⟩
  rw [Composite.plain, htext]
  exact hfills

/-- The fields of an account: the pin keeps its name to itself, the address is given another one. -/
def accountFields : Fields :=
  .named
    [("user", {}),
      ("pin", { attributes := [⟨"protected", .list [.word "hide_name"]⟩] }),
      ("mail", { attributes :=
        [⟨"protected", .list [.word "name", .mark '=', .text "contact"]⟩] })]

theorem ordinary_accountFields : accountFields.Ordinary := .of_heads (by decide)

/-- A type whose template doubles braces and refers to one field in both modes. -/
def accountType : Declaration where
  name := "Account"
  attributes := [⟨"compose",
    .list [.text "\x7b\x7b\x7bpin:?\x7d\x7d\x7d of \x7buser\x7d: \x7bpin\x7d\x7bmail\x7d"]⟩]
  parameters := []
  body := .structure accountFields

/-- The values of an account. -/
def accountValues (pin : String) : List Value := [.text "eve", .text pin, .text "e@x"]

/-- In both modes the pin of an account becomes a segment, and the address one of another name. -/
theorem account_follows_template : ∃ derivation run composite events,
    ofDeclaration accountType = .ok derivation ∧
    compose accountType derivation ⟨none, accountValues "1"⟩ = some run ∧
    Yields run composite events ∧
    composite.parts = [.text "\x7b", .segment ⟨"\"1\"", "pin", true⟩, .text "\x7d of ",
      .text "eve", .text ": ", .segment ⟨"1", "pin", true⟩,
      .segment ⟨"e@x", "contact", false⟩] := by
  have hshape : accountType.shape? none = some (accountType.attributes, accountFields) := rfl
  have hcomplete : (accountValues "1").length = accountFields.entries.length := rfl
  obtain ⟨_, _, run, composite, events, ⟨_, hgiven, htemplate⟩, hpieces, hrun, hyields, hparts,
    -⟩ := composite_follows_template (d := accountType) false rfl hshape
      ordinary_accountFields hcomplete
  refine ⟨_, run, composite, events, rfl, hrun, hyields, ?_⟩
  cases hgiven
  cases htemplate
  cases hpieces
  have huser : Template.Key.Refers accountFields.names (.named "user") 0 :=
    .named rfl (by decide)
  have hpin : Template.Key.Refers accountFields.names (.named "pin") 1 := .named rfl (by decide)
  have hmail : Template.Key.Refers accountFields.names (.named "mail") 2 :=
    .named rfl (by decide)
  exact ((hparts _).1 (.cons (.literal _) (.cons (.field hpin rfl rfl) (.cons (.literal _)
    (.cons (.field huser rfl rfl) (.cons (.literal _) (.cons (.field hpin rfl rfl)
    (.cons (.field hmail rfl rfl) .nil)))))))).symm

end Derivation

end Redaction
