import Redaction.Proofs.Identifier
import Redaction.Proofs.Success
import Redaction.Proofs.Text.Trim
import Redaction.Spec

/-!
# The grammar of format specs

`Spec.Writes o text` says that the text is one of the ways to write the options: the marker, and
for a policy that goes by names a dollar sign and a list of entries. An entry is a name with blanks
around it, or blanks alone; what counts is which names occur, and neither how often nor in which
order. The options that have such a text at all are the printable ones.
-/

namespace Redaction

/-- Options that a format spec can write: the marker, if there is one, is a text without a dollar
sign, and what is revealed is nothing or a set of identifiers that has a member. -/
structure Options.Printable (o : Options) : Prop where
  marker : ∀ m, o.marker = some m → m ≠ "" ∧ '$' ∉ m.toList
  policy : o.policy = .nothing ∨
    ∃ set : NameSet, o.policy = .names set ∧ set ≠ .empty ∧
      ∀ name ∈ set, isIdentifier name = true

namespace Spec

/-- A text of blanks. -/
abbrev Blanks := { cs : List Char // ∀ c ∈ cs, Text.isBlank c = true }

/-- No blanks at all. -/
def Blanks.none : Blanks := ⟨[], by simp⟩

/-- An entry of an allow-list as it is written. -/
inductive Entry where
  | blank (blanks : Blanks)
  | named (before : Blanks) (name : String) (after : Blanks)

namespace Entry

/-- The characters between two commas. -/
def text : Entry → List Char
  | .blank blanks => blanks.1
  | .named before name after => before.1 ++ name.toList ++ after.1

/-- The name that the entry lists, if it is not blank. -/
def name? : Entry → Option String
  | .blank _ => Option.none
  | .named _ name _ => some name

end Entry

/-- An allow-list as it is written: its entries with commas between them. -/
def allowList (es : List Entry) : List Char := [','].intercalate (es.map Entry.text)

/-- The text is a way to write the options. -/
inductive Writes : Options → String → Prop where
  | markerOnly (marker : Option String) : Writes ⟨marker, .nothing⟩ (marker.getD "")
  | withNames (marker : Option String) (set : NameSet) (es : List Entry)
      (names : ∀ name, name ∈ set ↔ name ∈ es.filterMap Entry.name?) :
      Writes ⟨marker, .names set⟩ (marker.getD "" ++ "$" ++ String.ofList (allowList es))

/-- The plainest way to write options: every name once, in order, and no blanks. -/
def print (o : Options) : String :=
  match o.policy with
  | .names set => o.marker.getD "" ++ "$" ++ ",".intercalate set.toList
  | _ => o.marker.getD ""

/-! ## Entries -/

namespace Entry

variable {e : Entry}

/-- The name of an entry is what stripping leaves of its characters, as no identifier has blanks;
of an entry without a name nothing is left. -/
theorem trim_text (h : ∀ name, e.name? = some name → isIdentifier name = true) :
    Text.trim e.text = (e.name?.map String.toList).getD [] := by
  cases e with
  | blank blanks => exact Text.trim_of_blank blanks.2
  | named before name after =>
      have hname : isIdentifier name = true := h name rfl
      exact Text.trim_padded before.2 (fun c hc => Identifier.isBlank_of_accepts hname hc) after.2

/-- A comma is neither blank nor part of an identifier. -/
theorem comma_not_mem_text (h : ∀ name, e.name? = some name → isIdentifier name = true) :
    ',' ∉ e.text := by
  have hcomma : Text.isBlank ',' = false := by decide
  have hblanks : ∀ blanks : Blanks, ',' ∉ blanks.1 := by
    intro blanks hmem
    rw [blanks.2 _ hmem] at hcomma
    exact Bool.false_ne_true hcomma.symm
  cases e with
  | blank blanks => exact hblanks blanks
  | named before name after =>
      have hname : ',' ∉ name.toList :=
        Identifier.not_mem_of_accepts (h name rfl) Identifier.isContinue_comma
      simp only [text, List.mem_append, not_or]
      exact ⟨⟨hblanks before, hname⟩, hblanks after⟩

end Entry

/-- Taking an allow-list apart gives the names of its entries, in order. -/
theorem entries_allowList {es : List Entry} (hes : es ≠ [])
    (h : ∀ name ∈ es.filterMap Entry.name?, isIdentifier name = true) :
    entries (allowList es) = es.filterMap Entry.name? := by
  have hidentifier : ∀ e ∈ es, ∀ name, e.name? = some name → isIdentifier name = true := by
    intro e he name hname
    exact h name (List.mem_filterMap.2 ⟨e, he, hname⟩)
  have hcomma : ∀ l ∈ es.map Entry.text, ',' ∉ l := by
    intro l hl
    obtain ⟨e, he, rfl⟩ := List.mem_map.1 hl
    exact Entry.comma_not_mem_text (hidentifier e he)
  rw [entries, allowList, List.splitOn_intercalate ',' hcomma (by simpa using hes)]
  clear hcomma hes h
  induction es with
  | nil => rfl
  | cons e es ih =>
      have hrest := ih fun f hf => hidentifier f (by simp [hf])
      have hhead := Entry.trim_text (hidentifier e (by simp))
      rw [List.map_cons, List.map_cons, hhead]
      cases hname : e.name? with
      | none => simpa [List.filterMap_cons, hname] using hrest
      | some name =>
          have hne : name.toList ≠ [] :=
            Identifier.ne_nil_of_accepts (hidentifier e (by simp) name hname)
          simpa [List.filterMap_cons, hname, hne] using hrest

/-! ## Allow-lists and markers -/

@[simp] theorem entries_nil : entries [] = [] := rfl

/-- No entry is reported exactly when all entries are identifiers. -/
theorem invalid_eq_nil_iff {names : List String} :
    (names.filter fun name => !isIdentifier name).eraseDups = [] ↔
      ∀ name ∈ names, isIdentifier name = true := by
  rw [List.eq_nil_iff_forall_not_mem]
  simp only [List.mem_eraseDups, List.mem_filter, Bool.not_eq_true', not_and,
    Bool.not_eq_false]

/-- An allow-list is accepted when some entry is left and all that are left are identifiers. -/
theorem parseAllowList_eq_ok_iff {l : List Char} {set : NameSet} :
    parseAllowList l = .ok set ↔
      entries l ≠ [] ∧ (∀ name ∈ entries l, isIdentifier name = true) ∧
        set = .ofList (entries l) := by
  rw [parseAllowList]
  by_cases hl : l = []
  · subst hl
    simp
  rw [if_neg hl]
  by_cases hnames : entries l = []
  · simp [hnames]
  by_cases hall : ∀ name ∈ entries l, isIdentifier name = true
  · have hinvalid := invalid_eq_nil_iff.2 hall
    simp only [if_neg hnames, hinvalid, ne_eq, not_true_eq_false, if_false, Except.ok.injEq]
    exact ⟨fun h => ⟨hnames, hall, h.symm⟩, fun h => h.2.2.symm⟩
  · have hinvalid := mt invalid_eq_nil_iff.1 hall
    simp only [if_neg hnames, ne_eq, hinvalid, not_false_eq_true, if_true, reduceCtorEq, false_iff]
    exact fun h => hall h.2.1

/-- A marker that is read is a text that is not empty, and it is read as it is written. -/
theorem markerOf_eq_some_iff {cs : List Char} {m : String} :
    markerOf cs = some m ↔ m ≠ "" ∧ m.toList = cs := by
  rw [markerOf]
  by_cases hcs : cs = []
  · subst hcs
    simp
  · rw [if_neg hcs, Option.some.injEq]
    constructor
    · rintro rfl
      refine ⟨?_, String.toList_ofList⟩
      intro hempty
      rw [← String.toList_eq_nil_iff, String.toList_ofList] at hempty
      exact hcs hempty
    · rintro ⟨_, rfl⟩
      exact String.ofList_toList

/-- A marker that a spec can write is read back from its text; so is the lack of one. -/
theorem markerOf_getD {marker : Option String} (h : ∀ m, marker = some m → m ≠ "") :
    markerOf (marker.getD "").toList = marker := by
  cases marker with
  | none => rfl
  | some m => exact markerOf_eq_some_iff.2 ⟨h m rfl, rfl⟩

/-- The options that a spec writes are decided by its first dollar sign, if there is one. -/
theorem parse_eq_ok_iff {spec : String} {o : Options} :
    parse spec = .ok o ↔
      ('$' ∉ spec.toList ∧ o = ⟨markerOf spec.toList, .nothing⟩) ∨
      ∃ before after set, spec.toList = before ++ '$' :: after ∧ '$' ∉ before ∧
        parseAllowList after = .ok set ∧ o = ⟨markerOf before, .names set⟩ := by
  rw [parse]
  cases hcut : Text.cut '$' spec.toList with
  | none =>
      have hfree := Text.cut_eq_none_iff.1 hcut
      constructor
      · intro h
        exact .inl ⟨hfree, (Except.ok.inj h).symm⟩
      · rintro (⟨_, rfl⟩ | ⟨before, after, set, hspec, _⟩)
        · rfl
        · rw [hspec] at hfree
          simp at hfree
  | some halves =>
      obtain ⟨before, after⟩ := halves
      have hspec := Text.cut_eq_some_iff.1 hcut
      constructor
      · intro h
        obtain ⟨set, hset, ho⟩ := bind_eq_ok.1 h
        exact .inr ⟨before, after, set, hspec.1, hspec.2, hset, (pure_eq_ok.1 ho).symm⟩
      · rintro (⟨hfree, _⟩ | ⟨before', after', set, hspec', hfree', hset, rfl⟩)
        · rw [hspec.1] at hfree
          simp at hfree
        · have hcut' := Text.cut_eq_some_iff.2 ⟨hspec', hfree'⟩
          rw [hcut] at hcut'
          cases hcut'
          exact bind_eq_ok.2 ⟨set, hset, rfl⟩

/-- Reading a spec that is accepted logs nothing. -/
theorem read_eq_pure_of_parse {spec : String} {o : Options} (h : parse spec = .ok o) :
    read spec = pure (.ok o) := by
  rw [read, h]

theorem value_read (spec : String) : (read spec).value = parse spec := by
  rw [read]
  cases parse spec <;> rfl

end Spec

end Redaction
