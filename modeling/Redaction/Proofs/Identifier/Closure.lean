import Redaction.Proofs.Spec.Grammar
import Redaction.Proofs.Template.FieldName

/-!
# Identifiers are closed and unbroken

An identifier that is cut short is an identifier as long as anything is left of it, and it can be
continued by all characters of `XID_Continue` and by no others. No separator of format specs is
among them, so an identifier is its own entry wherever a list is stripped and divided. The names
that templates take for fields are identifiers, too.
-/

namespace Redaction

/-- What takes lists apart leaves the text whole: it is not empty, and neither a separator nor a
blank occurs in it. -/
structure Unbroken (s : String) : Prop where
  some : s ≠ ""
  noDollar : '$' ∉ s.toList
  noComma : ',' ∉ s.toList
  noBlank : ∀ c ∈ s.toList, Text.isBlank c = false
  stripped : Text.trim s.toList = s.toList
  uncut : Text.cut '$' s.toList = none
  undivided : s.toList.splitOn '$' = [s.toList] ∧ s.toList.splitOn ',' = [s.toList]
  entry : Spec.entries s.toList = [s]

namespace Identifier

variable {cs ds : List Char} {s : String}

/-- The first character decides what an identifier may be continued by. -/
theorem accepts_append_iff (h : accepts cs = true) :
    accepts (cs ++ ds) = true ↔ ∀ d ∈ ds, isContinue d = true := by
  cases cs with
  | nil => cases h
  | cons c cs =>
      obtain ⟨hopens, hcontinue⟩ := Bool.and_eq_true_iff.1 h
      rw [List.cons_append, accepts, hopens, Bool.true_and, List.all_append, hcontinue,
        Bool.true_and, List.all_eq_true]

theorem accepts_of_append (h : accepts (cs ++ ds) = true) (some : cs ≠ []) :
    accepts cs = true := by
  cases cs with
  | nil => exact absurd rfl some
  | cons c cs =>
      rw [List.cons_append, accepts, List.all_append] at h
      obtain ⟨hopens, hboth⟩ := Bool.and_eq_true_iff.1 h
      rw [accepts, hopens, (Bool.and_eq_true_iff.1 hboth).1, Bool.and_self]

theorem isContinue_dollar : isContinue '$' = false := by decide +kernel

theorem unbroken (h : isIdentifier s = true) : Unbroken s := by
  have hdollar : '$' ∉ s.toList := not_mem_of_accepts h isContinue_dollar
  have hcomma : ',' ∉ s.toList := not_mem_of_accepts h isContinue_comma
  have hblank : ∀ c ∈ s.toList, Text.isBlank c = false := fun c hc => isBlank_of_accepts h hc
  have hsome : s.toList ≠ [] := ne_nil_of_accepts h
  have hstripped := Text.trim_of_not_blank hblank
  have hpieces := List.splitOn_eq_singleton hcomma
  refine ⟨mt String.toList_eq_nil_iff.2 hsome, hdollar, hcomma, hblank, hstripped,
    Text.cut_eq_none_iff.2 hdollar, ⟨List.splitOn_eq_singleton hdollar, hpieces⟩, ?_⟩
  rw [Spec.entries, hpieces, List.map_singleton, hstripped,
    List.filter_singleton, decide_eq_true hsome, cond_true, List.map_singleton,
    String.ofList_toList]

/-- An identifier is not empty, and it has neither separators nor blanks, so that lists are not
divided within it. What stands at its front is an identifier unless it is empty, and what is put
behind it leaves it one if and only if all characters there are of `XID_Continue`. The names in
placeholders of templates are identifiers. -/
theorem identifiers_closed_and_unbroken :
    (∀ s, isIdentifier s = true → Unbroken s) ∧
    (∀ s t, isIdentifier (s ++ t) = true → s ≠ "" → isIdentifier s = true) ∧
    (∀ s t, isIdentifier s = true →
      (isIdentifier (s ++ t) = true ↔ ∀ c ∈ t.toList, isContinue c = true)) ∧
    (∀ s, Template.isFieldName s.toList = true → isIdentifier s = true) := by
  refine ⟨fun _ => unbroken, ?_, ?_, fun s h => (Template.isFieldName_iff.1 h).1⟩
  · intro s t h some
    rw [isIdentifier, String.toList_append] at h
    exact accepts_of_append h (mt String.toList_eq_nil_iff.1 some)
  · intro s t h
    rw [isIdentifier, String.toList_append]
    exact accepts_append_iff h

/-- A word with a combining mark is a single entry; without its last letters it still is an
identifier, and a dollar sign behind it is no continuation. -/
theorem decomposed_word_unbroken :
    Unbroken "e\u0301tat" ∧ isIdentifier "e\u0301" = true ∧ isIdentifier "e\u0301$" = false ∧
      isIdentifier "api_key2" = true := by
  obtain ⟨hunbroken, hprefix, hcontinued, hnames⟩ := identifiers_closed_and_unbroken
  have hword : isIdentifier ("e\u0301" ++ "tat") = true := by decide +kernel
  have hshort : isIdentifier "e\u0301" = true := hprefix "e\u0301" "tat" hword (by decide)
  refine ⟨hunbroken _ hword, hshort, ?_, hnames "api_key2" (by decide)⟩
  rw [← Bool.not_eq_true]
  intro hdollar
  have hcontinue := (hcontinued "e\u0301" "$" hshort).1 hdollar '$' (by decide)
  rw [isContinue_dollar] at hcontinue
  exact Bool.false_ne_true hcontinue

end Identifier

end Redaction
