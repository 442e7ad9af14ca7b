import Redaction.Proofs.Template.Numbering

/-!
# Templates are read as they are printed

Reading undoes printing. Normal pieces are printed as a template that is read as exactly these
pieces, however braces of the text and braces of placeholders meet. What is read is normal in turn,
so it can be printed and read again, and nothing is lost.
-/

namespace Redaction.Template

/-! ## Printing undone -/

/-- The characters of a text are gathered in front of what is assembled after them. -/
theorem assemble_map_char (next : Nat) (read cs : List Char) (tokens : List Token) :
    assemble next read (cs.map .char ++ tokens) = assemble next (cs.reverse ++ read) tokens := by
  induction cs generalizing read with
  | nil => rfl
  | cons c cs ih =>
      rw [List.map_cons, List.cons_append, assemble, ih, List.reverse_cons, List.append_assoc]
      rfl

/-- A literal ends where a field begins, and at the end. -/
theorem assemble_tokens_of_parted {next : Nat} {read : List Char} {pieces : List Piece}
    (h : ∀ text, pieces.head? ≠ some (.literal text)) :
    assemble next read (pieces.flatMap Piece.tokens) =
      flush read (assemble next [] (pieces.flatMap Piece.tokens)) := by
  cases pieces with
  | nil => rfl
  | cons p rest =>
      cases p with
      | literal text => exact absurd rfl (h text)
      | field key mode => rfl

theorem flush_of_ne_empty {text : String} (h : text ≠ "") (pieces : List Piece) :
    flush text.toList.reverse pieces = .literal text :: pieces := by
  have hread : text.toList.reverse ≠ [] := by
    rwa [Ne, List.reverse_eq_nil_iff, String.toList_eq_nil_iff]
  rw [flush, if_neg hread, List.reverse_reverse, String.ofList_toList]

theorem Normal.tail {p : Piece} {rest : List Piece} (h : Normal (p :: rest)) : Normal rest where
  filled text htext := h.filled text (List.mem_cons_of_mem p htext)
  parted := (List.isChain_cons.1 h.parted).2
  keys key mode hfield := h.keys key mode (List.mem_cons_of_mem p hfield)

/-- Normal pieces are assembled from their tokens again. -/
theorem Normal.assemble_eq {pieces : List Piece} (h : Normal pieces) (next : Nat) :
    assemble next [] (pieces.flatMap Piece.tokens) = pieces := by
  induction pieces with
  | nil => rfl
  | cons p rest ih =>
      have hrest := ih h.tail
      cases p with
      | literal text =>
          have hfield : ∀ other, rest.head? ≠ some (.literal other) := by
            intro other hother
            exact (List.isChain_cons.1 h.parted).1 _ hother text other ⟨rfl, rfl⟩
          rw [List.flatMap_cons, Piece.tokens, assemble_map_char, List.append_nil,
            assemble_tokens_of_parted hfield, hrest,
            flush_of_ne_empty (h.filled text List.mem_cons_self)]
      | field key mode =>
          change flush [] (.field key mode :: assemble next [] (rest.flatMap Piece.tokens)) = _
          rw [hrest]
          rfl

/-- Normal pieces are read as they are printed. -/
theorem Normal.parse_print {pieces : List Piece} (h : Normal pieces) :
    parse (print pieces) = .ok pieces := by
  rw [parse, (reads_print h.keys).scan_eq]
  exact congrArg Except.ok (h.assemble_eq 0)

/-! ## What is read is normal -/

theorem mem_flush {p : Piece} {read : List Char} {pieces : List Piece} :
    p ∈ flush read pieces ↔
      (read ≠ [] ∧ p = .literal (String.ofList read.reverse)) ∨ p ∈ pieces := by
  rw [flush]
  split
  next hread => simp [hread]
  next hread => simp [hread]

/-- Literals are put down only when there are characters for them. -/
theorem literal_of_mem_assemble {next : Nat} {read : List Char} {tokens : List Token}
    {text : String} (h : .literal text ∈ assemble next read tokens) : text ≠ "" := by
  have hflush : ∀ {read : List Char} {pieces : List Piece}, .literal text ∈ flush read pieces →
      (.literal text ∈ pieces → text ≠ "") → text ≠ "" := by
    intro read pieces hmem hpieces
    obtain ⟨hread, htext⟩ | hmem := mem_flush.1 hmem
    · rw [Piece.literal.injEq] at htext
      rwa [htext, Ne, ← String.toList_eq_nil_iff, String.toList_ofList, List.reverse_eq_nil_iff]
    · exact hpieces hmem
  induction tokens generalizing next read with
  | nil => exact hflush h (by simp)
  | cons token tokens ih =>
      cases token with
      | char c => exact ih h
      | placeholder argument mode =>
          cases argument with
          | next => exact hflush h fun hmem => ih (by simpa using hmem)
          | key key => exact hflush h fun hmem => ih (by simpa using hmem)

/-- A field comes from a placeholder with its key, or it is one of those that are counted. -/
theorem field_of_mem_assemble {next : Nat} {read : List Char} {tokens : List Token} {key : Key}
    {mode : Mode} (h : .field key mode ∈ assemble next read tokens) :
    .placeholder (.key key) mode ∈ tokens ∨
      ∃ i, i < next + tokens.length ∧ key = .index i := by
  induction tokens generalizing next read with
  | nil =>
      obtain ⟨_, hp⟩ | hmem := mem_flush.1 h
      · cases hp
      · cases hmem
  | cons token tokens ih =>
      have hrest : ∀ {next' : Nat} {read' : List Char}, next' ≤ next + 1 →
          .field key mode ∈ assemble next' read' tokens →
          .placeholder (.key key) mode ∈ token :: tokens ∨
            ∃ i, i < next + (token :: tokens).length ∧ key = .index i := by
        intro next' read' hnext hmem
        obtain hmem | ⟨i, hi, hkey⟩ := ih hmem
        · exact .inl (List.mem_cons_of_mem token hmem)
        · exact .inr ⟨i, by rw [List.length_cons]; omega, hkey⟩
      cases token with
      | char c => exact hrest (Nat.le_succ next) h
      | placeholder argument mode' =>
          cases argument with
          | next =>
              obtain ⟨_, hp⟩ | hmem := mem_flush.1 h
              · cases hp
              · obtain hp | hmem := List.mem_cons.1 hmem
                · cases hp
                  exact .inr ⟨next, by rw [List.length_cons]; omega, rfl⟩
                · exact hrest (Nat.le_refl _) hmem
          | key key' =>
              obtain ⟨_, hp⟩ | hmem := mem_flush.1 h
              · cases hp
              · obtain hp | hmem := List.mem_cons.1 hmem
                · cases hp
                  exact .inl List.mem_cons_self
                · exact hrest (Nat.le_succ next) hmem

/-- Between two literals there is a field. -/
theorem isChain_assemble (next : Nat) (read : List Char) (tokens : List Token) :
    (assemble next read tokens).IsChain Piece.Parted := by
  have hflush : ∀ {read : List Char} {key : Key} {mode : Mode} {pieces : List Piece},
      pieces.IsChain Piece.Parted →
      (flush read (.field key mode :: pieces)).IsChain Piece.Parted := by
    intro read key mode pieces hpieces
    have hfield : (Piece.field key mode :: pieces).IsChain Piece.Parted :=
      hpieces.cons fun q _ s t hliterals => by cases hliterals.1
    rw [flush]
    split
    · exact hfield
    · refine hfield.cons fun q hq s t hliterals => ?_
      cases hq
      cases hliterals.2
  induction tokens generalizing next read with
  | nil =>
      rw [assemble, flush]
      split <;> simp
  | cons token tokens ih =>
      cases token with
      | char c => exact ih next (c :: read)
      | placeholder argument mode =>
          cases argument with
          | next => exact hflush (ih (next + 1) [])
          | key key => exact hflush (ih next [])

theorem Gives.writable {cs : List Char} {key : Key} (h : Gives cs key) : key.Writable := by
  cases h with
  | index nonempty decimal small => exact small
  | named isName =>
      rw [Key.Writable, String.toList_ofList]
      exact isName

theorem Token.Written.writable {word : List Char} {key : Key} {mode : Mode}
    (h : Token.Written word (.placeholder (.key key) mode)) : key.Writable := by
  cases h with
  | placeholder enclosed read =>
      obtain ⟨_, _, _, _, _, ⟨_, htoken⟩ | ⟨key', hkey, htoken⟩⟩ := readPlaceholder_eq_ok read
      · cases htoken
      · cases htoken
        exact hkey.writable

theorem Reads.writable {cs : List Char} {tokens : List Token} (h : Reads cs tokens) {key : Key}
    {mode : Mode} (hkey : .placeholder (.key key) mode ∈ tokens) : key.Writable := by
  induction h with
  | nil => cases hkey
  | cons here _ ih =>
      obtain rfl | hkey := List.mem_cons.1 hkey
      · exact here.writable
      · exact ih hkey

theorem Token.Written.ne_nil {word : List Char} {token : Token} (h : token.Written word) :
    word ≠ [] := by
  cases h <;> simp

/-- Every token takes a character at least. -/
theorem Reads.length_le {cs : List Char} {tokens : List Token} (h : Reads cs tokens) :
    tokens.length ≤ cs.length := by
  induction h with
  | nil => exact Nat.le_refl 0
  | cons here _ ih =>
      have hfirst := List.length_pos_iff.2 here.ne_nil
      rw [List.length_cons, List.length_append]
      omega

/-- What is read of a text that fits into the memory of a machine is normal. Only the positions
that are counted need the bound: there are no more of them than characters. -/
theorem normal_of_parse {template : String} {pieces : List Piece}
    (fits : template.length < 2 ^ 64) (h : parse template = .ok pieces) : Normal pieces := by
  obtain ⟨tokens, hreads, rfl⟩ := parse_eq_ok h
  refine ⟨fun text htext => literal_of_mem_assemble htext, isChain_assemble 0 [] tokens, ?_⟩
  intro key mode hfield
  obtain hgiven | ⟨i, hi, rfl⟩ := field_of_mem_assemble hfield
  · exact hreads.writable hgiven
  · have hlength := hreads.length_le
    rw [String.length_toList] at hlength
    change i < 2 ^ 64
    omega

/-! ## Round trips -/

/-- Reading undoes printing: normal pieces are printed as a template that is accepted as these
pieces. What is read of a template is normal, so it is printed as a template that is read alike:
no text in memory is so long that counting its placeholders could pass `2 ^ 64`. The template is
made of words, of which the placeholders are its fields in order, and those
without an argument have the positions from zero on. -/
theorem parse_undoes_print :
    (∀ pieces, Normal pieces → parse (print pieces) = .ok pieces) ∧
    (∀ template pieces, parse template = .ok pieces →
      (template.length < 2 ^ 64 → Normal pieces ∧ parse (print pieces) = parse template) ∧
      IsTemplate template.toList ∧
      ∀ words : List (List Char), (∀ word ∈ words, Word word) →
        template.toList = words.flatten → Numbering 0 words (pieces.filterMap Piece.field?)) := by
  refine ⟨?_, ?_⟩
  · intro pieces normal
    exact normal.parse_print
  · intro template pieces hparse
    refine ⟨?_, ?_, ?_⟩
    · intro fits
      have normal := normal_of_parse fits hparse
      exact ⟨normal, by rw [normal.parse_print, hparse]⟩
    · exact (parse_judged template).ok.1 ⟨pieces, hparse⟩
    · intro words hwords htemplate
      exact numbering_of_parse hparse hwords htemplate

/-- Braces of the text on both sides of a placeholder, and a name that is inspected. -/
def bracedPieces : List Piece :=
  [.literal "\x7b", .field (.index 10) .display, .literal "\x7d \x7d",
    .field (.named "a_1") .debug]

/-- A brace of the text never pairs with one of a placeholder when the pieces are printed; and a
placeholder with an argument between two without one does not count. -/
theorem braces_stay_apart :
    print bracedPieces = "\x7b\x7b\x7b10\x7d\x7d\x7d \x7d\x7d\x7ba_1:?\x7d" ∧
    parse (print bracedPieces) = .ok bracedPieces ∧
    Normal [.field (.index 0) .display, .field (.index 7) .debug, .field (.index 1) .display] ∧
    Numbering 0 ["\x7b\x7d".toList, "\x7b 07:?\x7d".toList, "\x7b \x7d".toList]
      [(.index 0, .display), (.index 7, .debug), (.index 1, .display)] := by
  have normal : Normal bracedPieces := by
    refine ⟨by simp [bracedPieces], ?_, ?_⟩
    · simp [bracedPieces, Piece.Parted]
    · intro key mode hfield
      simp only [bracedPieces, List.mem_cons, Piece.field.injEq, List.not_mem_nil, or_false,
        reduceCtorEq, false_or] at hfield
      obtain ⟨rfl, _⟩ | ⟨rfl, _⟩ := hfield
      · exact (by decide : 10 < 2 ^ 64)
      · exact ⟨'a', ['_', '1'], rfl, by decide, by simp⟩
  have hread : parse "\x7b\x7d\x7b 07:?\x7d\x7b \x7d" =
      .ok [.field (.index 0) .display, .field (.index 7) .debug, .field (.index 1) .display] := rfl
  obtain ⟨hnormal, _, hnumbering⟩ := parse_undoes_print.2 _ _ hread
  refine ⟨rfl, parse_undoes_print.1 _ normal, (hnormal (by decide)).1, ?_⟩
  refine hnumbering _ ?_ rfl
  intro word hword
  have hnone : IsPlaceholder [] := ⟨.whole (by simp), .inl rfl, .none⟩
  have hfree : ':' ∉ [' ', '0', '7'] := by decide
  have hposition : IsArgument ['0', '7'] := .index (by decide) (by simp) (by decide)
  have hseven : IsPlaceholder [' ', '0', '7', ':', '?'] := ⟨.colon hfree, .inr rfl, hposition⟩
  have hblank : IsPlaceholder [' '] := ⟨.whole (by decide), .inl rfl, .none⟩
  simp only [List.mem_cons, List.not_mem_nil, or_false] at hword
  obtain rfl | rfl | rfl := hword
  · exact .placeholder ⟨by simp, by simp⟩ hnone
  · exact .placeholder ⟨by decide, by decide⟩ hseven
  · exact .placeholder ⟨by decide, by decide⟩ hblank

end Redaction.Template
