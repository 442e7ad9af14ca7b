import Redaction.Proofs.Declaration.TypeTerm
import Redaction.Proofs.Derivation.Accepted

/-!
# Bounds of derived implementations

A structure or variant formats the fields that the placeholders of its template refer to, each in
the mode of the placeholder. A declaration needs a bound for a type parameter and a mode if the
parameter is met in the type of some field that is formatted in this mode, wherever that is. What
is derived has the declared parameters in their order; a type parameter keeps its own bounds, and
those that are needed stand behind them, each once.

So the bounds depend on nothing but the placeholders that are there and the types of the fields
under their keys. They are complete for parameters that occur in no tuple, array or slice; in these
a derivation meets no name.
-/

namespace Redaction

open Redaction.Derivation (Templated)

/-- The key refers to a field of this type. -/
def Fields.TypeAt (fields : Fields) (key : Template.Key) (type : TypeTerm) : Prop :=
  ∃ index name field, key.Refers fields.names index ∧
    fields.entries[index]? = some (name, field) ∧ field.type = type

theorem Fields.TypeAt.unique {fields : Fields} {key : Template.Key} {type type' : TypeTerm}
    (h : fields.TypeAt key type) (h' : fields.TypeAt key type') : type = type' := by
  obtain ⟨index, name, field, refers, here, rfl⟩ := h
  obtain ⟨index', name', field', refers', there, rfl⟩ := h'
  obtain rfl := refers.unique refers'
  rw [here, Option.some.injEq, Prod.mk.injEq] at there
  rw [there.2]

/-- A placeholder of the template that the attributes give formats a field of this type in this
mode. -/
def Fields.Formats (fields : Fields) (attributes : List Attribute) (mode : Template.Mode)
    (type : TypeTerm) : Prop :=
  ∃ pieces key, Templated attributes pieces ∧ .field key mode ∈ pieces ∧ fields.TypeAt key type

namespace Declaration

/-- The structure or one of the variants formats a field of this type in this mode. -/
def Formats (d : Declaration) (mode : Template.Mode) (type : TypeTerm) : Prop :=
  ∃ shape ∈ d.shapes, shape.2.Formats shape.1 mode type

/-- The name is met in the type of a field that is formatted in this mode. -/
def Needs (d : Declaration) (mode : Template.Mode) (name : String) : Prop :=
  ∃ type, d.Formats mode type ∧ type.Meets name

/-- The templates of two structures or variants have the same placeholders, in any order and any
number, and refer by them to fields of the same types. -/
def UsedAlike (shape other : List Attribute × Fields) : Prop :=
  ∃ pieces others, Templated shape.1 pieces ∧ Templated other.1 others ∧
    (∀ key mode, .field key mode ∈ pieces ↔ .field key mode ∈ others) ∧
    ∀ key mode, .field key mode ∈ pieces →
      ∃ type, shape.2.TypeAt key type ∧ other.2.TypeAt key type

/-- Each structure or variant of one declaration is used like one of the other. -/
structure Resembles (d d' : Declaration) : Prop where
  covered : ∀ shape ∈ d.shapes, ∃ partner ∈ d'.shapes, UsedAlike shape partner
  covering : ∀ shape ∈ d'.shapes, ∃ partner ∈ d.shapes, UsedAlike shape partner

theorem UsedAlike.formats {shape other : List Attribute × Fields} {mode : Template.Mode}
    {type : TypeTerm} (h : UsedAlike shape other) (hformats : shape.2.Formats shape.1 mode type) :
    other.2.Formats other.1 mode type := by
  obtain ⟨pieces, others, htemplate, hother, hplaceholders, htypes⟩ := h
  obtain ⟨pieces', key, htemplate', mem, htype⟩ := hformats
  obtain rfl := htemplate'.unique htemplate
  obtain ⟨type', hhere, hthere⟩ := htypes key mode mem
  obtain rfl := hhere.unique htype
  exact ⟨others, key, hother, (hplaceholders key mode).1 mem, hthere⟩

theorem UsedAlike.symm {shape other : List Attribute × Fields} (h : UsedAlike shape other) :
    UsedAlike other shape := by
  obtain ⟨pieces, others, htemplate, hother, hplaceholders, htypes⟩ := h
  refine ⟨others, pieces, hother, htemplate, fun key mode => (hplaceholders key mode).symm, ?_⟩
  intro key mode mem
  obtain ⟨type, hhere, hthere⟩ := htypes key mode ((hplaceholders key mode).2 mem)
  exact ⟨type, hthere, hhere⟩

theorem Resembles.symm {d d' : Declaration} (h : d.Resembles d') : d'.Resembles d where
  covered := h.covering
  covering := h.covered

theorem Resembles.formats {d d' : Declaration} {mode : Template.Mode} {type : TypeTerm}
    (h : d.Resembles d') (hformats : d.Formats mode type) : d'.Formats mode type := by
  obtain ⟨shape, hshape, hformats⟩ := hformats
  obtain ⟨partner, hpartner, halike⟩ := h.covered shape hshape
  exact ⟨partner, hpartner, halike.formats hformats⟩

/-- Declarations that resemble each other need the same bounds. -/
theorem Resembles.needs_eq {d d' : Declaration} (h : d.Resembles d') : d'.Needs = d.Needs := by
  have hformats : ∀ mode type, d'.Formats mode type ↔ d.Formats mode type :=
    fun _ _ => ⟨h.symm.formats, h.formats⟩
  funext mode name
  simp only [Needs, hformats]

end Declaration

namespace Derivation

/-- The bounds that a mode adds: its own if it is needed, or else none. -/
inductive Bounds.Added (needed : Prop) (mode : Template.Mode) : List String → Prop where
  | needed (h : needed) : Added needed mode [Bounds.bound mode]
  | spared (h : ¬ needed) : Added needed mode []

/-- A parameter as it is declared, and as it stands in what is derived. -/
inductive ExtendedBy (needs : Template.Mode → String → Prop) : Parameter → Parameter → Prop where
  | lifetime (text : String) : ExtendedBy needs (.lifetime text) (.lifetime text)
  | constant (text : String) (default : Option String) :
      ExtendedBy needs (.constant text default) (.constant text none)
  | type {name : String} {bounds shown debugged : List String} (default : Option String)
      (display : Bounds.Added (needs .display name) .display shown)
      (debug : Bounds.Added (needs .debug name) .debug debugged) :
      ExtendedBy needs (.type name bounds default) (.type name (bounds ++ shown ++ debugged) none)

/-! ## What the references need -/

variable {attributes : List Attribute} {fields : Fields} {pieces : List Template.Piece}
variable {b : Branch} {mode : Template.Mode} {name : String}

/-- A placeholder becomes a reference to a field of the type that its key stands for. -/
theorem Reference.Of.typeAt {key : Template.Key} {r : Reference}
    (h : Reference.Of fields.slots (.field key mode) r) :
    ∃ index slot, r = .field index slot mode ∧ fields.TypeAt key slot.type := by
  cases h with
  | @field _ _ index slot here refers =>
      obtain ⟨field, hentry, htype, -⟩ := Fields.getElem?_slots here
      rw [Fields.map_name_slots] at refers
      exact ⟨index, slot, rfl, index, slot.name, field, refers, hentry, htype.symm⟩

theorem Bounds.mem_mentions {r : Reference} :
    name ∈ Bounds.mentions mode r ↔
      ∃ index slot, r = .field index slot mode ∧ slot.type.Meets name := by
  constructor
  · intro h
    cases r with
    | literal _ => cases h
    | field index slot m =>
        rw [Bounds.mentions] at h
        split at h
        next heq =>
          subst heq
          exact ⟨index, slot, rfl, TypeTerm.mem_mentions_iff.1 h⟩
        next => cases h
  · rintro ⟨index, slot, rfl, meets⟩
    rw [Bounds.mentions, if_pos rfl]
    exact TypeTerm.mem_mentions_iff.2 meets

/-- The references of a branch mention what is met in the fields that the template formats. -/
theorem Branch.BelongsTo.mem_mentions (h : b.BelongsTo attributes fields pieces) :
    name ∈ b.references.flatMap (Bounds.mentions mode) ↔
      ∃ type, fields.Formats attributes mode type ∧ type.Meets name := by
  simp only [List.mem_flatMap, Bounds.mem_mentions]
  constructor
  · rintro ⟨_, mem, index, slot, rfl, meets⟩
    obtain ⟨piece, hpiece, hof⟩ := exists_of_forall₂ h.references.flip mem
    cases piece with
    | literal _ => cases hof
    | field key m =>
        obtain ⟨_, _, heq, htype⟩ := Reference.Of.typeAt hof
        cases heq
        exact ⟨slot.type, ⟨pieces, key, h.template, hpiece, htype⟩, meets⟩
  · rintro ⟨type, ⟨others, key, templated, hpiece, htype⟩, meets⟩
    -- attributes give one template, so the placeholder is among those of the branch
    obtain rfl := templated.unique h.template
    obtain ⟨r, mem, hof⟩ := exists_of_forall₂ h.references hpiece
    obtain ⟨index, slot, rfl, hslot⟩ := Reference.Of.typeAt hof
    obtain rfl := hslot.unique htype
    exact ⟨_, mem, index, slot, rfl, meets⟩

/-- The references of all branches mention what the declaration needs. -/
theorem mem_mentions_branches {d : Declaration} {branches : List Branch}
    (h : List.Forall₂ (fun shape b => ∃ pieces, Branch.BelongsTo b shape.1 shape.2 pieces)
      d.shapes branches) :
    name ∈ (branches.flatMap (·.references)).flatMap (Bounds.mentions mode) ↔
      d.Needs mode name := by
  rw [List.flatMap_assoc, List.mem_flatMap]
  constructor
  · rintro ⟨b, hb, mem⟩
    obtain ⟨shape, hshape, pieces, hbelongs⟩ := exists_of_forall₂ h.flip hb
    obtain ⟨type, hformats, meets⟩ := hbelongs.mem_mentions.1 mem
    exact ⟨type, ⟨shape, hshape, hformats⟩, meets⟩
  · rintro ⟨type, ⟨shape, hshape, hformats⟩, meets⟩
    obtain ⟨b, hb, pieces, hbelongs⟩ := exists_of_forall₂ h hshape
    exact ⟨b, hb, hbelongs.mem_mentions.2 ⟨type, hformats, meets⟩⟩

/-! ## The parameters of what is derived -/

theorem Bounds.Added.unique {needed : Prop} {added others : List String}
    (h : Bounds.Added needed mode added) (h' : Bounds.Added needed mode others) :
    added = others := by
  cases h with
  | needed h =>
      cases h' with
      | needed => rfl
      | spared h' => exact absurd h h'
  | spared h =>
      cases h' with
      | needed h' => exact absurd h' h
      | spared => rfl

/-- A mode adds no other bound than its own. -/
theorem Bounds.Added.mem_iff {needed : Prop} {added : List String} {other : Template.Mode}
    (h : Bounds.Added needed mode added) :
    Bounds.bound other ∈ added ↔ other = mode ∧ needed := by
  have injective : Bounds.bound other = Bounds.bound mode ↔ other = mode := by
    cases other <;> cases mode <;> decide
  cases h with
  | needed h => rw [List.mem_singleton, injective, and_iff_left h]
  | spared h => exact iff_of_false List.not_mem_nil fun h' => h h'.2

/-- What is needed determines how a parameter is extended. -/
theorem ExtendedBy.unique {needs : Template.Mode → String → Prop} :
    Relator.RightUnique (ExtendedBy needs) := by
  intro p q q' h h'
  cases h with
  | lifetime text =>
      cases h'
      rfl
  | constant text default =>
      cases h'
      rfl
  | type default display debug =>
      cases h' with
      | type _ display' debug' => rw [display.unique display', debug.unique debug']

theorem Bounds.added_ite {mentioned needed : Prop} [Decidable mentioned]
    (h : mentioned ↔ needed) :
    Bounds.Added needed mode (if mentioned then [Bounds.bound mode] else []) := by
  split
  next hmentioned => exact .needed (h.1 hmentioned)
  next hmentioned => exact .spared (mt h.2 hmentioned)

theorem Bounds.extend_type (references : List Reference) (bounds : List String)
    (default : Option String) :
    Bounds.extend references (.type name bounds default) =
      .type name
        (bounds ++
          (if name ∈ references.flatMap (Bounds.mentions .display) then [Bounds.bound .display]
            else []) ++
          (if name ∈ references.flatMap (Bounds.mentions .debug) then [Bounds.bound .debug]
            else [])) none := by
  rw [Bounds.extend, List.append_assoc]
  by_cases display : name ∈ references.flatMap (Bounds.mentions .display) <;>
    by_cases debug : name ∈ references.flatMap (Bounds.mentions .debug) <;>
    simp [display, debug, -List.mem_flatMap]

/-- A parameter is extended by what is mentioned. -/
theorem extendedBy_extend {references : List Reference} {needs : Template.Mode → String → Prop}
    (h : ∀ mode name, name ∈ references.flatMap (Bounds.mentions mode) ↔ needs mode name)
    (p : Parameter) : ExtendedBy needs p (Bounds.extend references p) := by
  cases p with
  | lifetime text => exact .lifetime text
  | constant text default => exact .constant text default
  | type name bounds default =>
      rw [Bounds.extend_type]
      exact .type default (Bounds.added_ite (h .display name)) (Bounds.added_ite (h .debug name))

/-- The parameters of what is derived are the declared ones, in order, extended by what the
declaration needs. -/
theorem parameters_extendedBy {d : Declaration} {derivation : Derivation}
    (accepted : ofDeclaration d = .ok derivation) :
    List.Forall₂ (ExtendedBy d.Needs) d.parameters derivation.parameters := by
  simp only [ofDeclaration, bind_eq_ok, pure_eq_ok, mapError_eq_ok] at accepted
  obtain ⟨given, hgiven, branches, hbranches, rfl⟩ := accepted
  have hneeds : ∀ mode name,
      name ∈ (branches.flatMap (·.references)).flatMap (Bounds.mentions mode) ↔
        d.Needs mode name :=
    fun _ _ => mem_mentions_branches (branches_eq_ok hgiven hbranches)
  rw [List.forall₂_map_right_iff, List.forall₂_same]
  exact fun p _ => extendedBy_extend hneeds p

/-- A type parameter of an accepted declaration gets the bound of a mode if and only if it is met in
the type of a field that is formatted in this mode. Where no such type hides it or has a longer path
that ends in it, these are the types that it occurs in. -/
theorem bound_added_iff_met {d : Declaration} {derivation : Derivation} {index : Nat}
    {bounds : List String} {default : Option String}
    (accepted : ofDeclaration d = .ok derivation)
    (declared : d.parameters[index]? = some (.type name bounds default)) :
    ∃ added, derivation.parameters[index]? = some (.type name (bounds ++ added) none) ∧
      ∀ mode,
        (Bounds.bound mode ∈ added ↔ ∃ type, d.Formats mode type ∧ type.Meets name) ∧
        ((∀ type, d.Formats mode type → type.Clear name) →
          (Bounds.bound mode ∈ added ↔ ∃ type, d.Formats mode type ∧ type.Occurs name)) := by
  have hextended := parameters_extendedBy accepted
  obtain ⟨hindex, hparameter⟩ := List.getElem?_eq_some_iff.1 declared
  have hlength := hextended.length_eq ▸ hindex
  have hat := hextended.get hindex hlength
  rw [List.get_eq_getElem, List.get_eq_getElem, hparameter] at hat
  generalize hderived : derivation.parameters[index] = derived at hat
  cases hat with
  | @type _ _ shown debugged _ display debug =>
      -- neither of the two lists can hold the bound of the other mode
      have hneeds : ∀ mode, Bounds.bound mode ∈ shown ++ debugged ↔ d.Needs mode name := by
        intro mode
        rw [List.mem_append, display.mem_iff, debug.mem_iff]
        cases mode <;> simp
      refine ⟨shown ++ debugged, ?_, ?_⟩
      · rw [List.getElem?_eq_getElem hlength, hderived, List.append_assoc]
      · intro mode
        refine ⟨hneeds mode, ?_⟩
        intro clear
        rw [hneeds mode]
        refine exists_congr fun type => and_congr_right fun hformats => ?_
        exact (clear type hformats).occurs_iff_meets.symm

/-- A gauge with one parameter formats its value for debugging. -/
def gaugeOf (type : TypeTerm) : Declaration where
  name := "Gauge"
  attributes := [⟨"compose", .list [.text "\x7bvalue:?\x7d"]⟩]
  parameters := [.type "T" ["Copy"] none]
  body := .structure (.named [("value", { type })])

theorem gaugeOf_formats_iff {type formatted : TypeTerm} :
    (gaugeOf type).Formats mode formatted ↔ mode = .debug ∧ formatted = type := by
  have templated : Templated (gaugeOf type).attributes [.field (.named "value") .debug] :=
    ⟨_, ⟨_, rfl, rfl⟩, rfl⟩
  have typed : Fields.TypeAt (.named [("value", { type })]) (.named "value") type :=
    ⟨0, _, _, .named rfl fun i hi => absurd hi (Nat.not_lt_zero i), rfl, rfl⟩
  constructor
  · rintro ⟨shape, hshape, pieces, key, htemplated, hpiece, htype⟩
    obtain rfl := List.mem_singleton.1 hshape
    obtain rfl := htemplated.unique templated
    cases List.mem_singleton.1 hpiece
    exact ⟨rfl, htype.unique typed⟩
  · rintro ⟨rfl, rfl⟩
    exact ⟨_, List.mem_singleton_self _, _, _, templated, List.mem_singleton_self _, typed⟩

/-- The parameter of an optional value gets one bound, for debugging, behind its own. -/
theorem bound_of_optional_value : ∃ derivation,
    ofDeclaration (gaugeOf (.applied "Option" [.named "T"])) = .ok derivation ∧
    derivation.parameters = [.type "T" ["Copy", "::core::fmt::Debug"] none] ∧
    (∃ type, (gaugeOf (.applied "Option" [.named "T"])).Formats .debug type ∧ type.Occurs "T") ∧
    ¬ ∃ type,
      (gaugeOf (.applied "Option" [.named "T"])).Formats .display type ∧ type.Meets "T" := by
  have declared : (gaugeOf (.applied "Option" [.named "T"])).parameters[0]? =
      some (.type "T" ["Copy"] none) := rfl
  obtain ⟨added, hderived, hbound⟩ := bound_added_iff_met rfl declared
  have hparameter : some (Parameter.type "T" ["Copy", Bounds.bound .debug] none) =
      some (.type "T" (["Copy"] ++ added) none) := hderived
  cases hparameter
  refine ⟨_, rfl, rfl, ?_, ?_⟩
  · refine ((hbound .debug).2 ?_).1 (List.mem_singleton_self _)
    intro type hformats
    obtain ⟨-, rfl⟩ := gaugeOf_formats_iff.1 hformats
    refine .other (by decide) fun _ t ht => ?_
    obtain rfl := List.mem_singleton.1 ht
    exact .own (by decide) (by simp)
  · exact mt (hbound .display).1.2 (by decide)

/-- A parameter gets no bound where it occurs in a tuple, and one where it does not occur but is
called like the end of a longer path. -/
theorem tuple_missed_and_longer_path_mistaken :
    ((∃ type, (gaugeOf (.tuple [.named "T"])).Formats .debug type ∧ type.Occurs "T") ∧
      (ofDeclaration (gaugeOf (.tuple [.named "T"]))).map (·.parameters) =
        .ok [.type "T" ["Copy"] none]) ∧
    (¬ (∃ type, (gaugeOf (.path .scope ["m", "T"] [])).Formats .debug type ∧ type.Occurs "T") ∧
      (ofDeclaration (gaugeOf (.path .scope ["m", "T"] []))).map (·.parameters) =
        .ok [.type "T" ["Copy", "::core::fmt::Debug"] none]) := by
  refine ⟨⟨⟨_, gaugeOf_formats_iff.2 ⟨rfl, rfl⟩, ?_⟩, rfl⟩, ?_, rfl⟩
  · exact .tuple (List.mem_singleton_self _) .here
  · rintro ⟨type, hformats, occurs⟩
    obtain ⟨-, rfl⟩ := gaugeOf_formats_iff.1 hformats
    exact absurd occurs.eq_singleton (by decide)

/-- Nothing but the needed bounds is added to the declared parameters. They depend neither on the
order of variants or placeholders nor on repetitions, nor on fields that no placeholder refers
to. -/
theorem parameters_extended_by_use {d : Declaration} {derivation : Derivation}
    (accepted : ofDeclaration d = .ok derivation) :
    List.Forall₂ (ExtendedBy d.Needs) d.parameters derivation.parameters ∧
    ∀ d' derivation', ofDeclaration d' = .ok derivation' → d'.parameters = d.parameters →
      d.Resembles d' → derivation'.parameters = derivation.parameters := by
  have hextended := parameters_extendedBy accepted
  refine ⟨hextended, ?_⟩
  intro d' derivation' accepted' hsame hresembles
  have hextended' := parameters_extendedBy accepted'
  rw [hsame, hresembles.needs_eq] at hextended'
  exact List.right_unique_forall₂' ExtendedBy.unique hextended' hextended

/-- The shape of a signal that is raised: a number and a note are formatted. -/
def raised : List Attribute × Fields :=
  ([⟨"compose", .list [.text "\x7bid\x7d \x7bnote:?\x7d"]⟩],
    .named [("id", { type := .named "T" }), ("note", { type := .applied "Option" [.named "U"] }),
      ("extra", {})])

/-- The same in another order and with a repetition. The type of the field that is not formatted
has a parameter. -/
def raisedRearranged : List Attribute × Fields :=
  ([⟨"compose", .list [.text "\x7bnote:?\x7d\x7bid\x7d\x7bnote:?\x7d"]⟩],
    .named [("note", { type := .applied "Option" [.named "U"] }), ("extra", { type := .named "U" }),
      ("id", { type := .named "T" })])

theorem raised_usedAlike_rearranged : Declaration.UsedAlike raised raisedRearranged := by
  have hid : raised.2.TypeAt (.named "id") (.named "T") :=
    ⟨0, _, _, .named rfl (by decide), rfl, rfl⟩
  have hid' : raisedRearranged.2.TypeAt (.named "id") (.named "T") :=
    ⟨2, _, _, .named rfl (by decide), rfl, rfl⟩
  have hnote : raised.2.TypeAt (.named "note") (.applied "Option" [.named "U"]) :=
    ⟨1, _, _, .named rfl (by decide), rfl, rfl⟩
  have hnote' : raisedRearranged.2.TypeAt (.named "note") (.applied "Option" [.named "U"]) :=
    ⟨0, _, _, .named rfl (by decide), rfl, rfl⟩
  refine ⟨[.field (.named "id") .display, .literal " ", .field (.named "note") .debug],
    [.field (.named "note") .debug, .field (.named "id") .display, .field (.named "note") .debug],
    ⟨_, ⟨_, rfl, rfl⟩, rfl⟩, ⟨_, ⟨_, rfl, rfl⟩, rfl⟩, ?_, ?_⟩
  · intro key mode
    simp only [List.mem_cons, List.not_mem_nil, or_false, reduceCtorEq, false_or]
    grind
  · intro key mode mem
    simp only [List.mem_cons, List.not_mem_nil, or_false, reduceCtorEq, false_or] at mem
    rcases mem with heq | heq
    · cases heq
      exact ⟨_, hid, hid'⟩
    · cases heq
      exact ⟨_, hnote, hnote'⟩

/-- The shape of a signal that is cleared, which has a number only. -/
def cleared : List Attribute × Fields :=
  ([⟨"compose", .list [.text "\x7b\x7d"]⟩], .tuple [{ type := .reference (.named "T") }])

theorem cleared_usedAlike : Declaration.UsedAlike cleared cleared := by
  refine ⟨_, _, ⟨_, ⟨_, rfl, rfl⟩, rfl⟩, ⟨_, ⟨_, rfl, rfl⟩, rfl⟩, fun _ _ => Iff.rfl, ?_⟩
  intro key mode mem
  cases List.mem_singleton.1 mem
  exact ⟨_, ⟨0, _, _, .index rfl, rfl, rfl⟩, ⟨0, _, _, .index rfl, rfl, rfl⟩⟩

/-- A signal that can be raised and cleared. -/
def signal : Declaration where
  name := "Signal"
  attributes := []
  parameters := [.lifetime "'a", .type "T" ["Clone"] none, .type "U" [] (some "u8"),
    .constant "N:usize" (some "4")]
  body := .enumeration [⟨"Raised", raised.1, raised.2⟩, ⟨"Cleared", cleared.1, cleared.2⟩]

/-- The same signal with its variants in another order. -/
def signalRearranged : Declaration :=
  { signal with
    body := .enumeration [⟨"Cleared", cleared.1, cleared.2⟩,
      ⟨"Raised", raisedRearranged.1, raisedRearranged.2⟩] }

theorem signal_resembles_rearranged : signal.Resembles signalRearranged := by
  have hshapes : signal.shapes = [raised, cleared] := rfl
  have hshapes' : signalRearranged.shapes = [cleared, raisedRearranged] := rfl
  constructor
  · rw [hshapes, hshapes']
    simp [raised_usedAlike_rearranged, cleared_usedAlike]
  · rw [hshapes, hshapes']
    simp [raised_usedAlike_rearranged.symm, cleared_usedAlike]

/-- In both orders one parameter gets a bound for display and the other one for debugging. -/
theorem bounds_of_rearranged_signal : ∃ derivation derivation',
    ofDeclaration signal = .ok derivation ∧ ofDeclaration signalRearranged = .ok derivation' ∧
    derivation.parameters = [.lifetime "'a", .type "T" ["Clone", "::core::fmt::Display"] none,
      .type "U" ["::core::fmt::Debug"] none, .constant "N:usize" none] ∧
    derivation'.parameters = derivation.parameters := by
  obtain ⟨derivation, accepted⟩ : ∃ derivation, ofDeclaration signal = .ok derivation := ⟨_, rfl⟩
  obtain ⟨derivation', accepted'⟩ :
      ∃ derivation', ofDeclaration signalRearranged = .ok derivation' := ⟨_, rfl⟩
  obtain ⟨-, hsame⟩ := parameters_extended_by_use accepted
  refine ⟨derivation, derivation', accepted, accepted', ?_,
    hsame _ _ accepted' rfl signal_resembles_rearranged⟩
  cases accepted
  rfl

end Derivation

end Redaction
