import Redaction.Proofs.Template.Grammar

/-!
# Templates are accepted as the grammar has it

A text is a template if it is made of words, and only then. Words cannot be confused with each
other or with a fault: where a word begins, no fault does. So a text that is no template is made of
words up to one place, the first where no word begins, and the fault at that place is what is
reported.
-/

namespace Redaction.Template

/-! ## Words and faults -/

theorem Word.ne_nil {word : List Char} (h : Word word) : word ≠ [] := by
  cases h <;> simp

theorem Fault.ne_nil {cs : List Char} {e : Error} (h : Fault cs e) : cs ≠ [] := by
  cases h <;> simp

theorem Word.exists_written {word : List Char} (h : Word word) :
    ∃ token : Token, token.Written word := by
  cases h with
  | char notOpen notClose => exact ⟨_, .char notOpen notClose⟩
  | doubledOpen => exact ⟨_, .doubledOpen⟩
  | doubledClose => exact ⟨_, .doubledClose⟩
  | placeholder enclosed placeholder =>
      obtain ⟨token, read⟩ := (readPlaceholder_judged _).ok.2 placeholder
      exact ⟨token, .placeholder enclosed read⟩

/-- Nothing is opened twice by the inside of a placeholder and the brace that closes it. -/
theorem Enclosed.head?_append {inside rest : List Char} (h : Enclosed inside) :
    (inside ++ '}' :: rest).head? ≠ some '{' := by
  cases inside with
  | nil => simp
  | cons c cs => simpa using h.single

/-- The inside of a placeholder ends at the first closing brace, so it is determined by the text. -/
theorem Enclosed.eq_of_prefix {inside other rest : List Char} (h : Enclosed inside)
    (h' : Enclosed other) (heq : other ++ ['}'] <+: inside ++ '}' :: rest) : other = inside := by
  obtain ⟨after, hafter⟩ := heq
  have hother : Text.cut '}' (inside ++ '}' :: rest) = some (other, after) :=
    Text.cut_eq_some_iff.2 ⟨by rw [← hafter, List.append_assoc]; rfl, h'.unclosed⟩
  have hinside : Text.cut '}' (inside ++ '}' :: rest) = some (inside, rest) :=
    Text.cut_eq_some_iff.2 ⟨rfl, h.unclosed⟩
  rw [hinside] at hother
  cases hother
  rfl

/-- No word begins where there is a fault. -/
theorem Fault.not_prefix {cs : List Char} {e : Error} (h : Fault cs e) {word : List Char}
    (hword : Word word) : ¬ word <+: cs := by
  intro hprefix
  cases h with
  | @unclosed cs single unclosed =>
      cases hword with
      | char notOpen notClose => exact notOpen (List.cons_prefix_cons.1 hprefix).1
      | doubledOpen =>
          have hopen := (List.cons_prefix_cons.1 hprefix).2
          exact single (List.singleton_prefix_iff_head?_eq_some.1 hopen)
      | doubledClose => exact absurd (List.cons_prefix_cons.1 hprefix).1 (by decide)
      | placeholder enclosed placeholder =>
          have hclosed := (List.cons_prefix_cons.1 hprefix).2
          exact unclosed (hclosed.subset (by simp))
  | @placeholder inside rest e enclosed fault =>
      cases hword with
      | char notOpen notClose => exact notOpen (List.cons_prefix_cons.1 hprefix).1
      | doubledOpen =>
          have hopen := (List.cons_prefix_cons.1 hprefix).2
          exact enclosed.head?_append (List.singleton_prefix_iff_head?_eq_some.1 hopen)
      | doubledClose => exact absurd (List.cons_prefix_cons.1 hprefix).1 (by decide)
      | @placeholder other enclosed' placeholder =>
          have hclosed := (List.cons_prefix_cons.1 hprefix).2
          obtain rfl := enclosed.eq_of_prefix enclosed' hclosed
          exact (readPlaceholder_judged other).not_rejected placeholder e fault
  | @unopened cs single =>
      cases hword with
      | char notOpen notClose => exact notClose (List.cons_prefix_cons.1 hprefix).1
      | doubledOpen => exact absurd (List.cons_prefix_cons.1 hprefix).1 (by decide)
      | doubledClose =>
          have hclose := (List.cons_prefix_cons.1 hprefix).2
          exact single (List.singleton_prefix_iff_head?_eq_some.1 hclose)
      | placeholder enclosed placeholder =>
          exact absurd (List.cons_prefix_cons.1 hprefix).1 (by decide)

/-- At every place of a text there is a word or a fault. -/
theorem word_or_fault (c : Char) (cs : List Char) :
    (∃ word rest, Word word ∧ c :: cs = word ++ rest) ∨ ∃ e, Fault (c :: cs) e := by
  by_cases hopen : c = '{'
  · subst hopen
    by_cases hdoubled : cs.head? = some '{'
    · obtain ⟨rest, rfl⟩ := List.head?_eq_some_iff.1 hdoubled
      exact .inl ⟨_, rest, .doubledOpen, rfl⟩
    by_cases hclosed : '}' ∈ cs
    · obtain ⟨inside, rest, rfl, hinside⟩ := List.eq_append_cons_of_mem hclosed
      have enclosed : Enclosed inside := by
        refine ⟨hinside, ?_⟩
        cases inside with
        | nil => simp
        | cons d ds => simpa using hdoubled
      obtain placeholder | ⟨e, fault⟩ := (readPlaceholder_judged inside).exhaustive
      · exact .inl ⟨_, rest, .placeholder enclosed placeholder, by simp⟩
      · exact .inr ⟨e, .placeholder enclosed fault⟩
    · exact .inr ⟨_, .unclosed hdoubled hclosed⟩
  by_cases hclose : c = '}'
  · subst hclose
    by_cases hdoubled : cs.head? = some '}'
    · obtain ⟨rest, rfl⟩ := List.head?_eq_some_iff.1 hdoubled
      exact .inl ⟨_, rest, .doubledClose, rfl⟩
    · exact .inr ⟨_, .unopened hdoubled⟩
  · exact .inl ⟨_, cs, .char hopen hclose, rfl⟩

/-- Every text is made of words, up to its end or to a fault. -/
theorem exists_words (cs : List Char) :
    ∃ (words : List (List Char)) (rest : List Char), (∀ word ∈ words, Word word) ∧
      cs = words.flatten ++ rest ∧ (rest = [] ∨ ∃ e, Fault rest e) := by
  induction hlength : cs.length using Nat.strongRecOn generalizing cs with
  | ind length ih =>
      cases cs with
      | nil => exact ⟨[], [], by simp, rfl, .inl rfl⟩
      | cons c cs =>
          obtain ⟨word, others, hword, hcs⟩ | ⟨e, fault⟩ := word_or_fault c cs
          · have hpos : 0 < word.length := List.length_pos_iff.2 hword.ne_nil
            have hshorter : others.length < length := by
              rw [← hlength, hcs, List.length_append]
              omega
            obtain ⟨words, rest, hwords, rfl, hrest⟩ := ih _ hshorter others rfl
            refine ⟨word :: words, rest, ?_, ?_, hrest⟩
            · intro w hw
              obtain rfl | hw := List.mem_cons.1 hw
              · exact hword
              · exact hwords w hw
            · rw [hcs, List.flatten_cons, List.append_assoc]
          · exact ⟨[], c :: cs, by simp, rfl, .inr ⟨e, fault⟩⟩

/-! ## Scanning words and faults -/

/-- A placeholder under way is read when it is closed. -/
theorem scan_inside_append {read inside rest : List Char} (h : '}' ∉ inside) :
    scan (.inside read) (inside ++ '}' :: rest) = do
      let token ← readPlaceholder (read.reverse ++ inside)
      let tokens ← scan .text rest
      return token :: tokens := by
  induction inside generalizing read with
  | nil => simp [scan]
  | cons c inside ih =>
      obtain ⟨hc, hinside⟩ := List.ne_and_not_mem_of_not_mem_cons h
      rw [List.cons_append, scan, if_neg hc.symm, ih hinside]
      simp

/-- A placeholder that is never closed is blamed on its opening brace. -/
theorem scan_inside_of_not_mem {read inside : List Char} (h : '}' ∉ inside) :
    scan (.inside read) inside = .error .unmatchedOpen := by
  induction inside generalizing read with
  | nil => rfl
  | cons c inside ih =>
      obtain ⟨hc, hinside⟩ := List.ne_and_not_mem_of_not_mem_cons h
      rw [scan, if_neg hc.symm, ih hinside]

theorem scan_placeholder {inside rest : List Char} (h : Enclosed inside) :
    scan .text ('{' :: (inside ++ '}' :: rest)) = do
      let token ← readPlaceholder inside
      let tokens ← scan .text rest
      return token :: tokens := by
  rw [scan, if_pos rfl]
  cases inside with
  | nil => rfl
  | cons c inside =>
      have hopen : c ≠ '{' := by simpa using h.single
      obtain ⟨hclose, hinside⟩ := List.ne_and_not_mem_of_not_mem_cons h.unclosed
      rw [List.cons_append, scan, if_neg hopen, if_neg hclose.symm, scan_inside_append hinside]
      rfl

/-- Scanning past a word gives its token and leaves the rest to be scanned. -/
theorem scan_written_append {word rest : List Char} {token : Token} (h : token.Written word) :
    scan .text (word ++ rest) = (scan .text rest).map (token :: ·) := by
  cases h with
  | @char c notOpen notClose =>
      rw [List.singleton_append, scan, if_neg notOpen, if_neg notClose]
      rfl
  | doubledOpen => rfl
  | doubledClose => rfl
  | @placeholder inside token enclosed read =>
      have hcons : '{' :: (inside ++ ['}']) ++ rest = '{' :: (inside ++ '}' :: rest) := by simp
      rw [hcons, scan_placeholder enclosed, read]
      rfl

theorem scan_words_append {words : List (List Char)} (h : ∀ word ∈ words, Word word) :
    ∃ tokens, ∀ rest,
      scan .text (words.flatten ++ rest) = (scan .text rest).map (tokens ++ ·) := by
  induction words with
  | nil => exact ⟨[], fun rest => by cases hscan : scan .text rest <;> simp [hscan, Except.map]⟩
  | cons word words ih =>
      obtain ⟨token, written⟩ := (h word (by simp)).exists_written
      obtain ⟨tokens, htokens⟩ := ih fun other hother => h other (by simp [hother])
      refine ⟨token :: tokens, fun rest => ?_⟩
      rw [List.flatten_cons, List.append_assoc, scan_written_append written, htokens]
      cases scan .text rest <;> rfl

theorem scan_fault {cs : List Char} {e : Error} (h : Fault cs e) : scan .text cs = .error e := by
  cases h with
  | @unclosed cs single unclosed =>
      rw [scan, if_pos rfl]
      cases cs with
      | nil => rfl
      | cons c cs =>
          have hopen : c ≠ '{' := by simpa using single
          obtain ⟨hclose, hinside⟩ := List.ne_and_not_mem_of_not_mem_cons unclosed
          rw [scan, if_neg hopen, if_neg hclose.symm, scan_inside_of_not_mem hinside]
  | @placeholder inside rest e enclosed fault =>
      rw [scan_placeholder enclosed, ((readPlaceholder_judged inside).error e).2 fault]
      rfl
  | @unopened cs single =>
      rw [scan, if_neg (by decide), if_pos rfl]
      cases cs with
      | nil => rfl
      | cons c cs =>
          have hclose : c ≠ '}' := by simpa using single
          rw [scan, if_neg hclose]

/-! ## Templates -/

theorem scan_judged (cs : List Char) :
    Judged (scan .text cs) (IsTemplate cs) (StuckWith cs) := by
  refine .of_exhaustive ?_ ?_ ?_
  · rintro ⟨words, hwords, rfl⟩
    obtain ⟨tokens, htokens⟩ := scan_words_append hwords
    have hscan := htokens []
    rw [List.append_nil] at hscan
    exact ⟨tokens ++ [], hscan⟩
  · rintro e ⟨words, rest, hwords, rfl, -, -, fault⟩
    obtain ⟨tokens, htokens⟩ := scan_words_append hwords
    rw [htokens, scan_fault fault]
    rfl
  · obtain ⟨words, rest, hwords, hcs, rfl | ⟨e, fault⟩⟩ := exists_words cs
    · exact .inl ⟨words, hwords, by rw [hcs, List.append_nil]⟩
    · exact .inr ⟨e, words, rest, hwords, hcs, fault.ne_nil, fun _ word => fault.not_prefix word,
        fault⟩

theorem parse_judged (template : String) :
    Judged (parse template) (IsTemplate template.toList) (StuckWith template.toList) :=
  (scan_judged template.toList).bind_pure

/-- A text is accepted if and only if it is a sequence of words, and it is rejected for a cause if
and only if words can be read off it up to a place where none begins and the fault has this cause
there. -/
theorem parse_accepts_exactly_templates (template : String) :
    ((∃ pieces, parse template = .ok pieces) ↔ IsTemplate template.toList) ∧
    ∀ e, parse template = .error e ↔ StuckWith template.toList e := by
  have hjudged := parse_judged template
  exact ⟨hjudged.ok, hjudged.error⟩

end Redaction.Template
