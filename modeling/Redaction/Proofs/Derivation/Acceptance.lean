import Redaction.Derivation
import Redaction.Proofs.Attribute.Compose
import Redaction.Proofs.Derivation.Lookup

/-!
# Declarations are accepted if they are well formed

A structure or variant is well formed if it has a template, if the attributes of all its fields are
understood, and if the template is one whose placeholders are all resolved. A declaration is well
formed if its own attributes are understood and its structure is well formed, or all its variants
are; an enumeration has no template itself, a variant does not ask for `skip_display`, and a union
is never well formed.

Well-formed declarations are accepted. In any other one there is a first fault in the order in which
these conditions are checked, and this fault is reported.
-/

namespace Redaction

/-- The template that attributes give: the text of an attribute `compose`, or else the
documentation. -/
inductive TemplateOf (attributes : List Attribute) : String → Prop where
  | given {a : Attribute} {template : String} (here : a ∈ attributes)
      (gives : Compose.Gives a template) : TemplateOf attributes template
  | documented {template : String} (noneGiven : ∀ a ∈ attributes, ¬ Compose.GivesSome a)
      (documented : Doc.template? attributes = some template) : TemplateOf attributes template

/-- The template is the one of these attributes, it is one by its grammar, and all its placeholders
refer to fields, of which every one is well formed. -/
structure Fields.Suit (fields : Fields) (attributes : List Attribute) (template : String) :
    Prop where
  source : TemplateOf attributes template
  formed : ∀ field ∈ fields.members, field.WellFormed
  grammatical : Template.IsTemplate template.toList
  resolved : ∀ placeholders, Template.HasPlaceholders template.toList placeholders →
    ∀ asked ∈ placeholders, asked.1.Resolves fields.names

/-- The first fault of a structure or variant: there is no template, or else a field is not well
formed, or else the template is not one by its grammar, or else a placeholder refers to no field. -/
inductive Fields.Refused (fields : Fields) (attributes : List Attribute) :
    Derivation.Fault → Prop where
  | missing (noTemplate : ∀ template, ¬ TemplateOf attributes template) :
      Refused fields attributes .missingTemplate
  | field {template : String} {fault : Derivation.Fault} (source : TemplateOf attributes template)
      (first : FirstRefusedOf Field.WellFormed Field.Refused fields.members fault) :
      Refused fields attributes fault
  | grammar {template : String} {e : Template.Error} (source : TemplateOf attributes template)
      (formed : ∀ field ∈ fields.members, field.WellFormed)
      (stuck : Template.StuckWith template.toList e) : Refused fields attributes (.template e)
  | placeholder {template : String} {placeholders : List (Template.Key × Template.Mode)}
      {fault : Derivation.Fault} (source : TemplateOf attributes template)
      (formed : ∀ field ∈ fields.members, field.WellFormed)
      (made : Template.HasPlaceholders template.toList placeholders)
      (first : FirstRefusedOf (fun asked => asked.1.Resolves fields.names)
        (fun asked => asked.1.Dangles fields.names) placeholders fault) :
      Refused fields attributes fault

/-- The first fault of the attributes `compose`. -/
inductive Compose.Faulty (attributes : List Attribute) : Derivation.Fault → Prop where
  | intro {fault : Compose.Fault} (first : FirstRefused WellFormed Refused attributes fault) :
      Faulty attributes (.compose fault)

/-- What is required of a variant. -/
structure Variant.WellFormed (v : Variant) : Prop where
  attributes : Compose.WellFormed v.attributes
  noSkip : ¬ Compose.Skips v.attributes
  suited : ∃ template, v.fields.Suit v.attributes template

/-- The first fault of a variant. -/
inductive Variant.Refused (v : Variant) : Derivation.Fault → Prop where
  | attributes {fault : Derivation.Fault} (faulty : Compose.Faulty v.attributes fault) :
      Refused v fault
  | skips (attributes : Compose.WellFormed v.attributes) (skips : Compose.Skips v.attributes) :
      Refused v .skipDisplayOnVariant
  | fields {fault : Derivation.Fault} (attributes : Compose.WellFormed v.attributes)
      (noSkip : ¬ Compose.Skips v.attributes) (refused : v.fields.Refused v.attributes fault) :
      Refused v fault

/-- What is required of what is declared with these attributes. -/
inductive Declaration.Body.Suits (attributes : List Attribute) : Declaration.Body → Prop where
  | «structure» {fields : Fields} (suited : ∃ template, fields.Suit attributes template) :
      Suits attributes (.structure fields)
  | enumeration {variants : List Variant} (noneGiven : ∀ a ∈ attributes, ¬ Compose.GivesSome a)
      (formed : ∀ v ∈ variants, v.WellFormed) : Suits attributes (.enumeration variants)

/-- The first fault of what is declared with these attributes. -/
inductive Declaration.Body.Refused (attributes : List Attribute) :
    Declaration.Body → Derivation.Fault → Prop where
  | union : Refused attributes .union .union
  | «structure» {fields : Fields} {fault : Derivation.Fault}
      (refused : fields.Refused attributes fault) : Refused attributes (.structure fields) fault
  | template {variants : List Variant} {a : Attribute} (here : a ∈ attributes)
      (gives : Compose.GivesSome a) :
      Refused attributes (.enumeration variants) .templateOnEnumeration
  | variant {variants : List Variant} {fault : Derivation.Fault}
      (noneGiven : ∀ a ∈ attributes, ¬ Compose.GivesSome a)
      (first : FirstRefusedOf Variant.WellFormed Variant.Refused variants fault) :
      Refused attributes (.enumeration variants) fault

/-- What is required of a declaration. -/
structure Declaration.WellFormed (d : Declaration) : Prop where
  attributes : Compose.WellFormed d.attributes
  body : d.body.Suits d.attributes

/-- The first fault of a declaration. -/
inductive Declaration.Refused (d : Declaration) : Derivation.Fault → Prop where
  | attributes {fault : Derivation.Fault} (faulty : Compose.Faulty d.attributes fault) :
      Refused d fault
  | body {fault : Derivation.Fault} (attributes : Compose.WellFormed d.attributes)
      (refused : d.body.Refused d.attributes fault) : Refused d fault

namespace Derivation

/-! ## Structures and variants -/

theorem compose_judged (attributes : List Attribute) :
    Judged ((Compose.ofAttributes attributes).mapError Fault.compose)
      (Compose.WellFormed attributes) (Compose.Faulty attributes) := by
  refine (Compose.ofAttributes_judged attributes).mapError.congr Iff.rfl ?_
  intro e
  constructor
  · rintro ⟨fault, first, rfl⟩
    exact .intro first
  · rintro ⟨first⟩
    exact ⟨_, first, rfl⟩

/-- The template that is resolved is the one of the attributes. -/
theorem resolveTemplate_eq_ok_iff {attributes : List Attribute} {given : Compose}
    (hknows : Compose.Says attributes given) {template : String} :
    resolveTemplate given.template attributes = .ok template ↔ TemplateOf attributes template := by
  rw [resolveTemplate]
  cases hgiven : given.template with
  | some text =>
      obtain ⟨a, here, gives⟩ := (hknows.template text).1 hgiven
      constructor
      · intro h
        cases h
        exact .given here gives
      · rintro (⟨there, other⟩ | ⟨noneGiven, _⟩)
        · have htext := (hknows.template template).2 ⟨_, there, other⟩
          rw [hgiven] at htext
          cases htext
          rfl
        · exact absurd ⟨text, gives⟩ (noneGiven a here)
  | none =>
      have noneGiven : ∀ a ∈ attributes, ¬ Compose.GivesSome a := by
        rintro a here ⟨text, gives⟩
        have htext := (hknows.template text).2 ⟨a, here, gives⟩
        rw [hgiven] at htext
        cases htext
      rw [Option.none_or]
      constructor
      · intro h
        split at h
        next hdoc =>
          cases h
          exact .documented noneGiven hdoc
        next => cases h
      · rintro (⟨here, gives⟩ | ⟨_, hdoc⟩)
        · exact absurd ⟨_, gives⟩ (noneGiven _ here)
        · rw [hdoc]

theorem resolveTemplate_judged {attributes : List Attribute} {given : Compose}
    (hknows : Compose.Says attributes given) :
    Judged (resolveTemplate given.template attributes) (∃ template, TemplateOf attributes template)
      (fun e => (∀ template, ¬ TemplateOf attributes template) ∧ e = .missingTemplate) := by
  refine .of_exhaustive ?_ ?_ ?_
  · rintro ⟨template, source⟩
    exact ⟨template, (resolveTemplate_eq_ok_iff hknows).2 source⟩
  · rintro e ⟨noTemplate, rfl⟩
    cases hresolved : given.template.or (Doc.template? attributes) with
    | some template =>
        refine absurd ((resolveTemplate_eq_ok_iff hknows).1 ?_) (noTemplate template)
        rw [resolveTemplate, hresolved]
    | none => rw [resolveTemplate, hresolved]
  · by_cases hsource : ∃ template, TemplateOf attributes template
    · exact .inl hsource
    · exact .inr ⟨_, not_exists.1 hsource, rfl⟩

/-- A structure or variant is accepted if a template suits its fields. -/
theorem branch_judged (path : String) {attributes : List Attribute} {given : Compose}
    (hknows : Compose.Says attributes given) (fields : Fields) :
    Judged (branch path given.template attributes fields)
      (∃ template, fields.Suit attributes template) (fields.Refused attributes) := by
  have hslots : ∀ slots, Slot.ofFields fields = .ok slots → slots.map Slot.name = fields.names := by
    intro slots h
    rw [Slot.ofFields_eq_ok h, fields.map_name_slots]
  refine .of_exhaustive ?_ ?_ ?_
  · rintro ⟨template, suit⟩
    obtain ⟨slots, hfields⟩ := (Slot.ofFields_judged fields).ok.2 suit.formed
    obtain ⟨pieces, hpieces⟩ := (Template.parse_judged template).ok.2 suit.grammatical
    have hresolved := suit.resolved _ ((Template.hasPlaceholders_iff hpieces).2 rfl)
    rw [← hslots slots hfields] at hresolved
    obtain ⟨references, hreferences⟩ := (Reference.ofPieces_judged slots pieces).ok.2 hresolved
    simp only [branch, (resolveTemplate_eq_ok_iff hknows).2 suit.source, hfields, hpieces,
      hreferences, ok_bind, mapError_ok]
    exact ⟨_, rfl⟩
  · intro e h
    cases h with
    | missing noTemplate =>
        rw [branch, ((resolveTemplate_judged hknows).error _).2 ⟨noTemplate, rfl⟩]
        rfl
    | field source first =>
        have hfields := ((Slot.ofFields_judged fields).error e).2 first
        simp only [branch, (resolveTemplate_eq_ok_iff hknows).2 source, hfields, ok_bind,
          error_bind]
    | grammar source formed stuck =>
        obtain ⟨slots, hfields⟩ := (Slot.ofFields_judged fields).ok.2 formed
        have hparse := ((Template.parse_judged _).error _).2 stuck
        simp only [branch, (resolveTemplate_eq_ok_iff hknows).2 source, hfields, hparse, ok_bind,
          mapError_error, error_bind]
    | placeholder source formed made first =>
        obtain ⟨slots, hfields⟩ := (Slot.ofFields_judged fields).ok.2 formed
        obtain ⟨pieces, hpieces⟩ := (Template.parse_judged _).ok.2 made.isTemplate
        obtain rfl := (Template.hasPlaceholders_iff hpieces).1 made
        rw [← hslots slots hfields] at first
        have hreferences := ((Reference.ofPieces_judged slots pieces).error e).2 first
        simp only [branch, (resolveTemplate_eq_ok_iff hknows).2 source, hfields, hpieces,
          hreferences, ok_bind, mapError_ok, error_bind]
  · obtain ⟨template, source⟩ | ⟨_, noTemplate, _⟩ := (resolveTemplate_judged hknows).exhaustive
    · obtain formed | ⟨e, first⟩ := (Slot.ofFields_judged fields).exhaustive
      · obtain grammatical | ⟨e, stuck⟩ := (Template.parse_judged template).exhaustive
        · obtain ⟨slots, hfields⟩ := (Slot.ofFields_judged fields).ok.2 formed
          obtain ⟨pieces, hpieces⟩ := (Template.parse_judged template).ok.2 grammatical
          have hpiecewise := (Reference.ofPieces_judged slots pieces).exhaustive
          rw [hslots slots hfields] at hpiecewise
          obtain resolved | ⟨e, first⟩ := hpiecewise
          · refine .inl ⟨template, source, formed, grammatical, ?_⟩
            intro placeholders made
            obtain rfl := (Template.hasPlaceholders_iff hpieces).1 made
            exact resolved
          · have made := (Template.hasPlaceholders_iff hpieces).2 rfl
            exact .inr ⟨e, .placeholder source formed made first⟩
        · exact .inr ⟨_, .grammar source formed stuck⟩
      · exact .inr ⟨e, .field source first⟩
    · exact .inr ⟨_, .missing noTemplate⟩

/-- A variant is accepted if it is well formed. -/
theorem variantBranch_judged (name : String) (v : Variant) :
    Judged (variantBranch name v) v.WellFormed v.Refused := by
  have hshape : ∀ given, (Compose.ofAttributes v.attributes).mapError Fault.compose = .ok given →
      Judged
        ((if given.skipDisplay then .error .skipDisplayOnVariant else return given.template) >>=
          fun template => branch (name ++ "::" ++ v.name) template v.attributes v.fields)
        (¬ Compose.Skips v.attributes ∧ ∃ template, v.fields.Suit v.attributes template)
        (fun e => Compose.Skips v.attributes ∧ e = .skipDisplayOnVariant ∨
          ¬ Compose.Skips v.attributes ∧ v.fields.Refused v.attributes e) := by
    intro given hgiven
    have hknows := Compose.says_of_ofAttributes (mapError_eq_ok.1 hgiven)
    rw [← hknows.skipDisplay]
    split
    next hskips =>
      refine .of_error (.inl ⟨hskips, rfl⟩) (fun h => h.1 hskips) ?_
      rintro e (⟨_, rfl⟩ | ⟨noSkip, _⟩)
      · rfl
      · exact absurd hskips noSkip
    next noSkip =>
      refine (branch_judged _ hknows v.fields).congr (and_iff_right noSkip).symm ?_
      intro e
      rw [and_iff_right noSkip, or_iff_right fun h => noSkip h.1]
  rw [variantBranch, variantTemplate, bind_assoc]
  refine ((compose_judged v.attributes).bind hshape).congr ?_ ?_
  · constructor
    · rintro ⟨attributes, noSkip, suited⟩
      exact ⟨attributes, noSkip, suited⟩
    · rintro ⟨attributes, noSkip, suited⟩
      exact ⟨attributes, noSkip, suited⟩
  · intro e
    constructor
    · rintro (faulty | ⟨attributes, ⟨skips, rfl⟩ | ⟨noSkip, refused⟩⟩)
      · exact .attributes faulty
      · exact .skips attributes skips
      · exact .fields attributes noSkip refused
    · intro h
      cases h with
      | attributes faulty => exact .inl faulty
      | skips attributes skips => exact .inr ⟨attributes, .inl ⟨skips, rfl⟩⟩
      | fields attributes noSkip refused => exact .inr ⟨attributes, .inr ⟨noSkip, refused⟩⟩

theorem variantBranches_judged (name : String) (variants : List Variant) :
    Judged (variantBranches name variants) (∀ v ∈ variants, v.WellFormed)
      (FirstRefusedOf Variant.WellFormed Variant.Refused variants) := by
  induction variants with
  | nil => exact judged_nil
  | cons v rest ih => exact (variantBranch_judged name v).cons ih

/-! ## Declarations -/

theorem branches_judged {d : Declaration} {given : Compose}
    (hknows : Compose.Says d.attributes given) :
    Judged (branches d given) (d.body.Suits d.attributes) (d.body.Refused d.attributes) := by
  rw [branches]
  cases d.body with
  | union =>
      refine .of_error .union ?_ ?_
      · rintro ⟨⟩
      · rintro e ⟨⟩
        rfl
  | «structure» fields =>
      refine (branch_judged "Self" hknows fields).bind_pure.congr ?_ ?_
      · constructor
        · exact .structure
        · rintro ⟨suited⟩
          exact suited
      · intro e
        constructor
        · exact .structure
        · rintro ⟨⟩
          assumption
  | enumeration variants =>
      dsimp only
      by_cases hgives : ∃ a ∈ d.attributes, Compose.GivesSome a
      · rw [if_pos (hknows.isSome_iff.2 hgives)]
        obtain ⟨a, here, gives⟩ := hgives
        refine .of_error (.template here gives) ?_ ?_
        · intro h
          cases h with
          | enumeration noneGiven _ => exact absurd gives (noneGiven a here)
        · intro e h
          cases h with
          | template _ _ => rfl
          | variant noneGiven _ => exact absurd gives (noneGiven a here)
      · rw [if_neg (mt hknows.isSome_iff.1 hgives)]
        have noneGiven : ∀ a ∈ d.attributes, ¬ Compose.GivesSome a := by
          intro a here gives
          exact hgives ⟨a, here, gives⟩
        refine (variantBranches_judged d.name variants).congr ?_ ?_
        · constructor
          · exact .enumeration noneGiven
          · intro h
            cases h with
            | enumeration _ formed => exact formed
        · intro e
          constructor
          · exact .variant noneGiven
          · intro h
            cases h with
            | template here gives => exact absurd ⟨_, here, gives⟩ hgives
            | variant _ first => exact first

/-- A declaration is accepted if and only if it is well formed, and it is refused for a fault if and
only if this is its first one. -/
theorem accepts_exactly_well_formed (d : Declaration) :
    ((∃ derivation, ofDeclaration d = .ok derivation) ↔ d.WellFormed) ∧
    ∀ fault, ofDeclaration d = .error fault ↔ d.Refused fault := by
  have hjudged : Judged (ofDeclaration d) d.WellFormed d.Refused := by
    have hbody : ∀ given, (Compose.ofAttributes d.attributes).mapError Fault.compose = .ok given →
        Judged (branches d given) (d.body.Suits d.attributes) (d.body.Refused d.attributes) := by
      intro given hgiven
      exact branches_judged (Compose.says_of_ofAttributes (mapError_eq_ok.1 hgiven))
    refine ((compose_judged d.attributes).bind fun given hgiven =>
      (hbody given hgiven).bind_pure).congr ?_ ?_
    · constructor
      · rintro ⟨attributes, body⟩
        exact ⟨attributes, body⟩
      · rintro ⟨attributes, body⟩
        exact ⟨attributes, body⟩
    · intro e
      constructor
      · rintro (faulty | ⟨attributes, refused⟩)
        · exact .attributes faulty
        · exact .body attributes refused
      · intro h
        cases h with
        | attributes faulty => exact .inl faulty
        | body attributes refused => exact .inr ⟨attributes, refused⟩
  exact ⟨hjudged.ok, hjudged.error⟩

/-- A field that the template does not mention is refused, and that counts before the brace of the
template that is never closed. -/
example : ofDeclaration
    { name := "Login"
      attributes := [⟨"compose", .list [.text "\x7buser"]⟩]
      parameters := []
      body := .structure (.named [("user", {}),
        ("pin", { attributes := [⟨"protected", .value (.text "code")⟩] })]) } =
    .error (.protection .assigned) := rfl

end Derivation

end Redaction
