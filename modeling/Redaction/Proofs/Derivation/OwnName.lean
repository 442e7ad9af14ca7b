import Redaction.Derivation
import Redaction.Proofs.Derivation.Lookup
import Redaction.Proofs.Template.FieldName

/-!
# Fields under their own names

Whatever a template asks for by name is looked up among the plain names of the fields, and a field
is found under its own name unless an earlier one has it too. But a template can only ask for names
in ASCII, and fields with names cannot be asked for by position. So a field whose name has a letter
of another script cannot be referred to at all, though its name is an identifier, and a segment of
that name can be revealed.
-/

namespace Redaction

/-- No field before the position has the name of the field there. -/
def Fields.FirstOfName (fields : Fields) (index : Nat) : Prop :=
  ∀ i < index, fields.names[i]? ≠ fields.names[index]?

namespace Derivation.Slot

/-- The field at the position is found under the key. -/
def Finds (slots : List Slot) (key : Template.Key) (index : Nat) : Prop :=
  ∃ slot, slots[index]? = some slot ∧ find slots key = .ok (index, slot)

/-- Some template has a placeholder under whose key the field at the position is found. -/
def Referable (slots : List Slot) (index : Nat) : Prop :=
  ∃ template pieces key mode, Template.parse template = .ok pieces ∧
    .field key mode ∈ pieces ∧ Finds slots key index

theorem Finds.refers {slots : List Slot} {key : Template.Key} {index : Nat}
    (h : Finds slots key index) : key.Refers (slots.map Slot.name) index := by
  obtain ⟨slot, -, hfind⟩ := h
  exact (find_eq_ok hfind).2

/-- Under a name the field is found that the name refers to. -/
theorem finds_of_refers {slots : List Slot} {name : String} {index : Nat}
    (refers : Template.Key.Refers (slots.map Slot.name) (.named name) index) :
    Finds slots (.named name) index := by
  cases refers with
  | named here first =>
      obtain ⟨⟨i, slot⟩, hfind⟩ :=
        (find_judged slots (.named name)).ok.2 (.named (List.mem_of_getElem? here))
      obtain ⟨there, refers⟩ := find_eq_ok hfind
      obtain rfl := refers.unique (.named here first)
      exact ⟨slot, there, hfind⟩

variable {fields : List (String × Field)} {slots : List Slot} {index : Nat} {label : String}
variable {field : Field}

theorem getElem?_names_named (here : fields[index]? = some (label, field)) :
    (Fields.named fields).names[index]? = some (some (plainName label)) := by
  simp [Fields.names, Fields.entries, here]

/-- A field with a name is found under this name if it is the first one that has it. -/
theorem finds_plainName_iff (accepted : ofFields (.named fields) = .ok slots)
    (here : fields[index]? = some (label, field)) :
    Finds slots (.named (plainName label)) index ↔ (Fields.named fields).FirstOfName index := by
  have hnames : slots.map Slot.name = (Fields.named fields).names := by
    rw [ofFields_eq_ok accepted, Fields.map_name_slots]
  have hname := getElem?_names_named here
  constructor
  · intro h i hi
    have refers := h.refers
    rw [hnames] at refers
    cases refers with
    | named _ first =>
        rw [hname]
        exact first i hi
  · intro first
    apply finds_of_refers
    rw [hnames]
    refine .named hname ?_
    intro i hi
    rw [← hname]
    exact first i hi

/-- What refers to a field with a name is the name. -/
theorem eq_plainName_of_refers (here : fields[index]? = some (label, field)) {key : Template.Key}
    (refers : key.Refers (Fields.named fields).names index) : key = .named (plainName label) := by
  have hname := getElem?_names_named here
  cases refers with
  | named there _ =>
      rw [hname, Option.some.injEq, Option.some.injEq] at there
      rw [there]
  | index there =>
      rw [hname] at there
      cases there

/-- A field with a name is found under no other key than this name. -/
theorem Finds.eq_plainName (accepted : ofFields (.named fields) = .ok slots)
    (here : fields[index]? = some (label, field)) {key : Template.Key}
    (h : Finds slots key index) : key = .named (plainName label) := by
  have refers := h.refers
  rw [ofFields_eq_ok accepted, Fields.map_name_slots] at refers
  exact eq_plainName_of_refers here refers

/-- Templates ask for names in ASCII only. -/
theorem isAscii_of_mem_pieces {template : String} {pieces : List Template.Piece} {name : String}
    {mode : Template.Mode} (parsed : Template.parse template = .ok pieces)
    (mem : .field (.named name) mode ∈ pieces) : Text.IsAscii name.toList :=
  Template.isAscii_of_isFieldName (Template.isFieldName_of_mem_pieces parsed mem)

/-- A field whose name is an identifier can be referred to if and only if the name is in ASCII, and
no earlier field has it. Then its name alone between braces is a placeholder that finds it, in
both modes. The same text is refused if the name is not in ASCII. -/
theorem referable_iff_ascii (accepted : ofFields (.named fields) = .ok slots)
    (here : fields[index]? = some (label, field))
    (identifier : isIdentifier (plainName label) = true) :
    (Text.IsAscii (plainName label).toList → ∀ mode,
      Template.parse (Template.alone (plainName label) mode) =
        .ok [.field (.named (plainName label)) mode]) ∧
    (¬ Text.IsAscii (plainName label).toList → ∀ mode,
      Template.parse (Template.alone (plainName label) mode) =
        .error (.unsupportedPlaceholder (plainName label))) ∧
    (Finds slots (.named (plainName label)) index ↔ (Fields.named fields).FirstOfName index) ∧
    (Referable slots index ↔
      Text.IsAscii (plainName label).toList ∧ (Fields.named fields).FirstOfName index) := by
  have hread : Text.IsAscii (plainName label).toList → ∀ mode,
      Template.parse (Template.alone (plainName label) mode) =
        .ok [.field (.named (plainName label)) mode] := by
    intro ascii mode
    rw [Template.parse_alone identifier, if_pos (Template.isFieldName_iff.2 ⟨identifier, ascii⟩)]
  have hfound := finds_plainName_iff accepted here
  refine ⟨hread, ?_, hfound, ?_⟩
  · intro foreign mode
    rw [Template.parse_alone identifier,
      if_neg fun h => foreign (Template.isAscii_of_isFieldName h)]
  · constructor
    · rintro ⟨template, pieces, key, mode, parsed, mem, finds⟩
      obtain rfl := finds.eq_plainName accepted here
      exact ⟨isAscii_of_mem_pieces parsed mem, hfound.1 finds⟩
    · rintro ⟨ascii, first⟩
      exact ⟨_, _, _, .display, hread ascii .display, List.mem_singleton_self _, hfound.2 first⟩

/-- A raw name is referred to without its mark, and a name of another script is not at all. -/
theorem type_referable_and_cyrillic_not :
    let slots := (Fields.named [("r#type", {}), ("ключ", {})]).slots
    Template.parse "\x7btype:?\x7d" = .ok [.field (.named "type") .debug] ∧
    Referable slots 0 ∧ isIdentifier "ключ" = true ∧ ¬ Referable slots 1 := by
  have hslots : ofFields (.named [("r#type", {}), ("ключ", {})]) = .ok _ := rfl
  have hkey : isIdentifier "ключ" = true := by decide +kernel
  let fields : List (String × Field) := [("r#type", {}), ("ключ", {})]
  have hfirst : fields[0]? = some ("r#type", ({} : Field)) := rfl
  have hsecond : fields[1]? = some ("ключ", ({} : Field)) := rfl
  obtain ⟨hread, -, -, htype⟩ := referable_iff_ascii hslots hfirst (by decide +kernel)
  obtain ⟨-, -, -, hcyrillic⟩ := referable_iff_ascii hslots hsecond hkey
  have ascii : Text.IsAscii (plainName "r#type").toList := by decide
  have foreign : ¬ Text.IsAscii (plainName "ключ").toList := by decide
  refine ⟨hread ascii .debug, htype.2 ⟨ascii, ?_⟩, hkey, fun h => foreign (hcyrillic.1 h).1⟩
  intro i hi
  exact absurd hi (Nat.not_lt_zero i)

/-- A field may be called `naïve`, but a template that asks for it is refused. -/
theorem asking_for_naive_diaeresis_refused :
    isIdentifier "naïve" = true ∧
    Template.parse "\x7bnaïve\x7d" = .error (.unsupportedPlaceholder "naïve") ∧
    ofDeclaration
      { name := "Guess"
        attributes := [⟨"compose", .list [.text "\x7bnaïve\x7d"]⟩]
        parameters := []
        body := .structure (.named [("naïve", {})]) } =
      .error (.template (.unsupportedPlaceholder "naïve")) :=
  ⟨by decide +kernel, rfl, rfl⟩

end Derivation.Slot

end Redaction
