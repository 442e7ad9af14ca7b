import Redaction.Proofs.Template.Print

/-!
# The placeholders of a template

A placeholder with an argument has the key that is written there. The others take the positions from
zero on, one after another, and the placeholders between them do not count. `Numbering` says so of
the words of a template, without regard to how they are read.

The placeholders of a template are the same however it is divided into words: they are the fields
that are read of it.
-/

namespace Redaction.Template

/-- The mode that is written after the colon. -/
inductive Asks : List Char → Mode → Prop where
  | display : Asks [] .display
  | debug : Asks ['?'] .debug

/-- The key that an argument gives: a position of 64 bits in decimal digits, or a name. -/
inductive Gives : List Char → Key → Prop where
  | index {digits : List Char} (nonempty : digits ≠ []) (decimal : ∀ c ∈ digits, c.isDigit = true)
      (small : Nat.ofDigitChars 10 digits 0 < 2 ^ 64) :
      Gives digits (.index (Nat.ofDigitChars 10 digits 0))
  | named {name : List Char} (isName : IsName name) : Gives name (.named (String.ofList name))

/-- The words of a template, taken apart, have placeholders with these keys and modes, in order;
`next` is the number of placeholders without an argument that come before the words. -/
inductive Numbering : Nat → List (List Char) → List (Key × Mode) → Prop where
  | nil {next : Nat} : Numbering next [] []
  | char {next : Nat} {c : Char} {words : List (List Char)} {fields : List (Key × Mode)}
      (notOpen : c ≠ '{') (notClose : c ≠ '}') (rest : Numbering next words fields) :
      Numbering next ([c] :: words) fields
  | doubled {next : Nat} {c : Char} {words : List (List Char)} {fields : List (Key × Mode)}
      (brace : c = '{' ∨ c = '}') (rest : Numbering next words fields) :
      Numbering next ([c, c] :: words) fields
  | next {next : Nat} {inside argument format : List Char} {mode : Mode}
      {words : List (List Char)} {fields : List (Key × Mode)}
      (split : Splits inside argument format) (empty : Text.trim argument = [])
      (asks : Asks format mode)
      (rest : Numbering (next + 1) words fields) :
      Numbering next (('{' :: (inside ++ ['}'])) :: words) ((.index next, mode) :: fields)
  | given {next : Nat} {inside argument format : List Char} {key : Key} {mode : Mode}
      {words : List (List Char)} {fields : List (Key × Mode)}
      (split : Splits inside argument format) (gives : Gives (Text.trim argument) key)
      (asks : Asks format mode)
      (rest : Numbering next words fields) :
      Numbering next (('{' :: (inside ++ ['}'])) :: words) ((key, mode) :: fields)

/-- The key and the mode of a field. -/
def Piece.field? : Piece → Option (Key × Mode)
  | .literal _ => none
  | .field key mode => some (key, mode)

/-- The text is made of words that have placeholders with these keys and modes, in order. -/
def HasPlaceholders (cs : List Char) (fields : List (Key × Mode)) : Prop :=
  ∃ words : List (List Char), (∀ word ∈ words, Word word) ∧ cs = words.flatten ∧
    Numbering 0 words fields

theorem HasPlaceholders.isTemplate {cs : List Char} {fields : List (Key × Mode)}
    (h : HasPlaceholders cs fields) : IsTemplate cs := by
  obtain ⟨words, hwords, hcs, _⟩ := h
  exact ⟨words, hwords, hcs⟩

/-! ## Words have one list of placeholders -/

theorem Splits.unique {inside argument format argument' format' : List Char}
    (h : Splits inside argument format) (h' : Splits inside argument' format') :
    argument = argument' ∧ format = format' :=
  Prod.mk.inj ((splits_iff.1 h).symm.trans (splits_iff.1 h'))

theorem Asks.unique {format : List Char} {mode mode' : Mode} (h : Asks format mode)
    (h' : Asks format mode') : mode = mode' := by
  cases h <;> cases h' <;> rfl

theorem Gives.ne_nil {cs : List Char} {key : Key} (h : Gives cs key) : cs ≠ [] := by
  cases h with
  | index nonempty _ _ => exact nonempty
  | named isName =>
      obtain ⟨c, rest, rfl, _⟩ := isName
      exact List.cons_ne_nil c rest

theorem Gives.unique {cs : List Char} {key key' : Key} (h : Gives cs key) (h' : Gives cs key') :
    key = key' := by
  have hmixed : IsName cs → ¬ ∀ c ∈ cs, c.isDigit = true := by
    intro isName decimal
    obtain ⟨c, hc, hdigit⟩ := isName.mixed
    rw [decimal c hc] at hdigit
    cases hdigit
  cases h with
  | index _ decimal _ =>
      cases h' with
      | index _ _ _ => rfl
      | named isName => exact absurd decimal (hmixed isName)
  | named isName =>
      cases h' with
      | index _ decimal _ => exact absurd decimal (hmixed isName)
      | named _ => rfl

section

variable {next : Nat} {words : List (List Char)} {fields : List (Key × Mode)}

theorem Numbering.of_char {c : Char} (h : Numbering next ([c] :: words) fields) :
    Numbering next words fields := by
  generalize hword : [c] = word at h
  cases h with
  | char _ _ rest => exact rest
  | doubled _ _ => simp at hword
  | next _ _ _ _ => simp at hword
  | given _ _ _ _ => simp at hword

theorem Numbering.of_doubled {c : Char} (h : Numbering next ([c, c] :: words) fields) :
    Numbering next words fields := by
  have hplaceholder : ∀ inside, [c, c] ≠ '{' :: (inside ++ ['}']) := by
    intro inside hinside
    obtain ⟨rfl, hrest⟩ := List.cons_eq_cons.1 hinside
    obtain ⟨_, hclose⟩ | ⟨_, hclose⟩ := List.singleton_eq_append_iff.1 hrest <;> simp at hclose
  generalize hword : [c, c] = word at h
  cases h with
  | char _ _ _ => simp at hword
  | doubled _ rest => exact rest
  | next _ _ _ _ => exact absurd hword (hplaceholder _)
  | given _ _ _ _ => exact absurd hword (hplaceholder _)

theorem Numbering.of_placeholder {inside : List Char}
    (h : Numbering next (('{' :: (inside ++ ['}'])) :: words) fields) :
    ∃ argument format mode others, Splits inside argument format ∧ Asks format mode ∧
      ((Text.trim argument = [] ∧ Numbering (next + 1) words others ∧
          fields = (.index next, mode) :: others) ∨
        ∃ key, Gives (Text.trim argument) key ∧ Numbering next words others ∧
          fields = (key, mode) :: others) := by
  generalize hword : '{' :: (inside ++ ['}']) = word at h
  cases h with
  | char _ _ _ => simp at hword
  | doubled _ _ =>
      obtain ⟨rfl, hrest⟩ := List.cons_eq_cons.1 hword
      obtain ⟨_, hclose⟩ | ⟨_, hclose⟩ := List.append_eq_singleton_iff.1 hrest <;> simp at hclose
  | next split empty asks rest =>
      rw [List.cons.injEq, List.append_left_inj] at hword
      obtain ⟨_, rfl⟩ := hword
      exact ⟨_, _, _, _, split, asks, .inl ⟨empty, rest, rfl⟩⟩
  | given split gives asks rest =>
      rw [List.cons.injEq, List.append_left_inj] at hword
      obtain ⟨_, rfl⟩ := hword
      exact ⟨_, _, _, _, split, asks, .inr ⟨_, gives, rest, rfl⟩⟩

/-- The placeholders of words are determined. -/
theorem Numbering.unique {others : List (Key × Mode)} (h : Numbering next words fields)
    (h' : Numbering next words others) : fields = others := by
  induction h generalizing others with
  | nil =>
      cases h'
      rfl
  | char _ _ _ ih => exact ih h'.of_char
  | doubled _ _ ih => exact ih h'.of_doubled
  | next split empty asks _ ih =>
      obtain ⟨_, _, _, _, split', asks', hcase⟩ := h'.of_placeholder
      obtain ⟨rfl, rfl⟩ := split.unique split'
      obtain rfl := asks.unique asks'
      obtain ⟨_, rest, rfl⟩ | ⟨_, gives, _⟩ := hcase
      · rw [ih rest]
      · exact absurd empty gives.ne_nil
  | given split gives asks _ ih =>
      obtain ⟨_, _, _, _, split', asks', hcase⟩ := h'.of_placeholder
      obtain ⟨rfl, rfl⟩ := split.unique split'
      obtain rfl := asks.unique asks'
      obtain ⟨empty, _⟩ | ⟨_, gives', rest, rfl⟩ := hcase
      · exact absurd empty gives.ne_nil
      · rw [gives.unique gives', ih rest]

end

/-! ## Placeholders are read as they are written -/

theorem readArgument_eq_ok {cs : List Char} {argument : Argument}
    (h : readArgument cs = .ok argument) :
    (cs = [] ∧ argument = .next) ∨ ∃ key, argument = .key key ∧ Gives cs key := by
  have hargument : IsArgument cs := (readArgument_judged cs).ok.1 ⟨argument, h⟩
  cases hargument with
  | none =>
      cases h
      exact .inl ⟨rfl, rfl⟩
  | index nonempty decimal small =>
      rw [readArgument_of_decimal nonempty decimal, if_pos small] at h
      cases h
      exact .inr ⟨_, rfl, .index nonempty decimal small⟩
  | @name c rest first others =>
      have hmixed : ∃ d ∈ c :: rest, d.isDigit = false :=
        ⟨c, List.mem_cons_self, isDigit_of_first first⟩
      rw [readArgument_of_mixed hmixed, if_pos (isFieldName_cons_iff.2 ⟨first, others⟩)] at h
      cases h
      exact .inr ⟨_, rfl, .named ⟨c, rest, rfl, first, others⟩⟩

theorem readMode_eq_ok {format : List Char} {mode : Mode} (h : readMode format = .ok mode) :
    Asks format mode := by
  obtain rfl | rfl := (readMode_judged format).ok.1 ⟨mode, h⟩
  · cases h
    exact .display
  · cases h
    exact .debug

/-- What is read between braces is what stands on the two sides of the colon. -/
theorem readPlaceholder_eq_ok {inside : List Char} {token : Token}
    (h : readPlaceholder inside = .ok token) :
    ∃ argument format mode, Splits inside argument format ∧ Asks format mode ∧
      ((Text.trim argument = [] ∧ token = .placeholder .next mode) ∨
        ∃ key, Gives (Text.trim argument) key ∧ token = .placeholder (.key key) mode) := by
  simp only [readPlaceholder, bind_eq_ok, pure_eq_ok] at h
  obtain ⟨mode, hmode, argument, hargument, rfl⟩ := h
  refine ⟨_, _, mode, splits_iff.2 rfl, readMode_eq_ok hmode, ?_⟩
  obtain ⟨hempty, rfl⟩ | ⟨key, rfl, hkey⟩ := readArgument_eq_ok hargument
  · exact .inl ⟨hempty, rfl⟩
  · exact .inr ⟨key, hkey, rfl⟩

/-! ## The fields of a template that is read -/

theorem filterMap_flush (read : List Char) (pieces : List Piece) :
    (flush read pieces).filterMap Piece.field? = pieces.filterMap Piece.field? := by
  rw [flush]
  split <;> rfl

/-- The fields that are assembled are numbered as the words are. -/
theorem numbering_assemble {words : List (List Char)} {tokens : List Token}
    (h : List.Forall₂ (fun word token => Token.Written word token) words tokens) (next : Nat)
    (read : List Char) :
    Numbering next words ((assemble next read tokens).filterMap Piece.field?) := by
  induction h generalizing next read with
  | nil =>
      rw [assemble, filterMap_flush]
      exact .nil
  | cons here _ ih =>
      cases here with
      | char notOpen notClose => exact .char notOpen notClose (ih next _)
      | doubledOpen => exact .doubled (.inl rfl) (ih next _)
      | doubledClose => exact .doubled (.inr rfl) (ih next _)
      | placeholder enclosed placeholder =>
          obtain ⟨_, _, mode, split, asks, ⟨hempty, rfl⟩ | ⟨key, hkey, rfl⟩⟩ :=
            readPlaceholder_eq_ok placeholder
          · rw [assemble, filterMap_flush]
            exact .next split hempty asks (ih (next + 1) [])
          · rw [assemble, filterMap_flush]
            exact .given split hkey asks (ih next [])

theorem exists_written {words : List (List Char)} (h : ∀ word ∈ words, Word word) :
    ∃ tokens, List.Forall₂ (fun word token => Token.Written word token) words tokens := by
  induction words with
  | nil => exact ⟨[], .nil⟩
  | cons word words ih =>
      obtain ⟨token, htoken⟩ := (h word List.mem_cons_self).exists_written
      obtain ⟨tokens, htokens⟩ := ih fun other hother => h other (List.mem_cons_of_mem word hother)
      exact ⟨token :: tokens, .cons htoken htokens⟩

theorem reads_flatten {words : List (List Char)} {tokens : List Token}
    (h : List.Forall₂ (fun word token => Token.Written word token) words tokens) :
    Reads words.flatten tokens := by
  induction h with
  | nil => exact .nil
  | cons here _ ih => exact .cons here ih

/-- Wherever a template is divided into words, its fields are the placeholders among them. -/
theorem numbering_of_parse {template : String} {pieces : List Piece}
    (h : parse template = .ok pieces) {words : List (List Char)}
    (hwords : ∀ word ∈ words, Word word) (htemplate : template.toList = words.flatten) :
    Numbering 0 words (pieces.filterMap Piece.field?) := by
  obtain ⟨tokens, hwritten⟩ := exists_written hwords
  rw [parse, htemplate, (reads_flatten hwritten).scan_eq] at h
  cases h
  exact numbering_assemble hwritten 0 []

/-- The placeholders of a template that is read are the fields of its pieces, and no others. -/
theorem hasPlaceholders_iff {template : String} {pieces : List Piece}
    (h : parse template = .ok pieces) {fields : List (Key × Mode)} :
    HasPlaceholders template.toList fields ↔ fields = pieces.filterMap Piece.field? := by
  constructor
  · rintro ⟨words, hwords, htemplate, numbering⟩
    exact numbering.unique (numbering_of_parse h hwords htemplate)
  · rintro rfl
    obtain ⟨words, hwords, htemplate⟩ := (parse_judged template).ok.1 ⟨pieces, h⟩
    exact ⟨words, hwords, htemplate, numbering_of_parse h hwords htemplate⟩

end Redaction.Template
