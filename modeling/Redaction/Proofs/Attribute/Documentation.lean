import Mathlib.Data.List.Forall2
import Redaction.Derivation
import Redaction.Proofs.Separated
import Redaction.Proofs.Success
import Redaction.Proofs.Text.Trim

/-!
# Templates from documentation

Where no template is given, the documentation is one, and it counts only by the texts of its lines.
Blanks in front of a line are no part of the template, and neither are lines of blanks before the
first other line and after the last one; behind a line blanks stay, except at the very end. So the
template neither begins nor ends with a blank, and its lines are those that have something to say,
with all lines between them.
-/

namespace Redaction

namespace Doc

/-- The attribute that a line of documentation is. -/
def written (text : String) : Attribute := ⟨"doc", .value (.text text)⟩

/-- The text of a line of documentation, as it is written. -/
def text? (a : Attribute) : Option String :=
  match a.form with
  | .value (.text text) => if a.path = "doc" then some text else none
  | _ => none

/-- The texts of the lines of documentation among the attributes, in order. -/
def texts (attributes : List Attribute) : List String := attributes.filterMap text?

/-- All characters are blank. -/
def Blank (text : String) : Prop := ∀ c ∈ text.toList, Text.isBlank c = true

instance (text : String) : Decidable (Blank text) := List.decidableBAll _ text.toList

/-- The second text is the first one with blanks put in front of it. -/
def Indented (text other : String) : Prop :=
  ∃ blanks, (∀ c ∈ blanks, Text.isBlank c = true) ∧ other.toList = blanks ++ text.toList

/-- The texts from the first to the last one that are not blank: `last`, and those in front of it
from the first one on. -/
structure Core (whole middle : List String) (last : String) : Prop where
  around : ∃ before after, whole = before ++ (middle ++ [last]) ++ after ∧
    (∀ text ∈ before, Blank text) ∧ ∀ text ∈ after, Blank text
  first : ∀ text, (middle ++ [last]).head? = some text → ¬ Blank text
  last : ¬ Blank last

/-- What counts of a line. -/
def line (text : String) : List Char := Text.trimStart text.toList

/-- The template that lines make together. -/
def folded (ls : List (List Char)) : List Char := Text.trim (['\n'].intercalate ls)

variable {attributes others : List Attribute} {whole before after middle : List String}
variable {text other last : String}

/-! ## Lines of documentation -/

theorem text?_eq_some_iff {a : Attribute} : text? a = some text ↔ a = written text := by
  obtain ⟨path, form⟩ := a
  rw [written, Attribute.mk.injEq, text?]
  split
  next value hform =>
    obtain rfl : form = _ := hform
    rw [Option.ite_none_right_eq_some, Option.some.injEq, Attribute.Form.value.injEq,
      Token.text.injEq]
  next hother =>
    constructor
    · intro h
      cases h
    · rintro ⟨-, hform⟩
      exact (hother text hform).elim

theorem mem_texts_iff : text ∈ texts attributes ↔ written text ∈ attributes := by
  rw [texts, List.mem_filterMap]
  simp only [text?_eq_some_iff, exists_eq_right]

theorem line?_eq (a : Attribute) : line? a = (text? a).map line := by
  cases htext : text? a with
  | some text =>
      obtain rfl := text?_eq_some_iff.1 htext
      rw [line?, written]
      exact if_pos rfl
  | none =>
      obtain ⟨path, form⟩ := a
      rw [line?]
      split
      next value hform =>
        obtain rfl : form = _ := hform
        rw [text?, ite_eq_right_iff] at htext
        exact if_neg fun hpath => absurd (htext hpath) (Option.some_ne_none value)
      next => rfl

theorem lines_eq (attributes : List Attribute) : lines attributes = (texts attributes).map line := by
  rw [lines, texts, List.map_filterMap, funext line?_eq]

theorem line_eq_nil_iff : line text = [] ↔ Blank text := by
  refine ⟨fun h => ?_, Text.trimStart_of_blank⟩
  rw [line] at h
  exact Text.trim_eq_nil_iff.1 (by rw [Text.trim, h, Text.trimEnd_nil])

/-- The documentation is a template if there is any. -/
theorem template?_eq (attributes : List Attribute) :
    template? attributes =
      if texts attributes = [] then none
      else some (String.ofList (folded ((texts attributes).map line))) := by
  rw [template?, lines_eq]
  cases texts attributes <;> rfl

/-! ## Blank lines -/

/-- A line feed is blank, so blank lines are blank together. -/
theorem blank_of_mem_joined {ls : List (List Char)} (h : ∀ l ∈ ls, ∀ c ∈ l, Text.isBlank c = true)
    {c : Char} (hc : c ∈ ['\n'].intercalate ls) : Text.isBlank c = true := by
  obtain rfl | ⟨l, hl, hc⟩ := eq_or_mem_of_mem_intercalate hc
  · decide
  · exact h l hl c hc

theorem blank_of_mem_lines (h : ∀ text ∈ whole, Blank text) :
    ∀ l ∈ whole.map line, ∀ c ∈ l, Text.isBlank c = true := by
  intro l hl c hc
  obtain ⟨text, htext, rfl⟩ := List.mem_map.1 hl
  rw [line_eq_nil_iff.2 (h text htext)] at hc
  cases hc

theorem folded_append_of_blank {ls ms : List (List Char)} (some : ls ≠ [])
    (h : ∀ l ∈ ms, ∀ c ∈ l, Text.isBlank c = true) : folded (ls ++ ms) = folded ls := by
  by_cases hms : ms = []
  · rw [hms, List.append_nil]
  · have hafter : ∀ c ∈ '\n' :: ['\n'].intercalate ms, Text.isBlank c = true :=
      List.forall_mem_cons.2 ⟨by decide, fun c hc => blank_of_mem_joined h hc⟩
    rw [folded, intercalate_append some hms, Text.trim_append_of_blank hafter, folded]

theorem folded_append_of_blank_left {ls ms : List (List Char)} (some : ms ≠ [])
    (h : ∀ l ∈ ls, ∀ c ∈ l, Text.isBlank c = true) : folded (ls ++ ms) = folded ms := by
  by_cases hls : ls = []
  · rw [hls, List.nil_append]
  · have hbefore : ∀ c ∈ ['\n'].intercalate ls ++ ['\n'], Text.isBlank c = true := by
      intro c hc
      obtain hc | hc := List.mem_append.1 hc
      · exact blank_of_mem_joined h hc
      · rw [List.mem_singleton.1 hc]
        decide
    rw [folded, intercalate_append hls some, List.append_cons,
      Text.trim_append_of_blank_left hbefore, folded]

/-- Lines of blanks at both ends are no part of the template. -/
theorem folded_surrounded {shown : List String} (some : shown ≠ [])
    (hbefore : ∀ text ∈ before, Blank text) (hafter : ∀ text ∈ after, Blank text) :
    folded ((before ++ shown ++ after).map line) = folded (shown.map line) := by
  have hshown : shown.map line ≠ [] := mt List.map_eq_nil_iff.1 some
  rw [List.map_append, List.map_append, List.append_assoc,
    folded_append_of_blank_left (List.append_ne_nil_of_left_ne_nil hshown _)
      (blank_of_mem_lines hbefore),
    folded_append_of_blank hshown (blank_of_mem_lines hafter)]

/-! ## The lines of the template -/

theorem exists_first (h : ∃ text ∈ whole, ¬ Blank text) :
    ∃ before first rest, whole = before ++ first :: rest ∧ (∀ text ∈ before, Blank text) ∧
      ¬ Blank first := by
  induction whole with
  | nil =>
      obtain ⟨text, htext, -⟩ := h
      cases htext
  | cons text whole ih =>
      by_cases hblank : Blank text
      · obtain ⟨other, hother, hfilled⟩ := h
        obtain rfl | hother := List.mem_cons.1 hother
        · exact absurd hblank hfilled
        obtain ⟨before, first, rest, rfl, hbefore, hfirst⟩ := ih ⟨other, hother, hfilled⟩
        exact ⟨text :: before, first, rest, rfl, List.forall_mem_cons.2 ⟨hblank, hbefore⟩, hfirst⟩
      · exact ⟨[], text, whole, rfl, by simp, hblank⟩

/-- Where some line is not blank, there are a first and a last one. -/
theorem exists_core (h : ∃ text ∈ whole, ¬ Blank text) : ∃ middle last, Core whole middle last := by
  obtain ⟨before, first, rest, rfl, hbefore, hfirst⟩ := exists_first h
  -- The last one is the first one from the back.
  obtain ⟨after, last, middle, hreverse, hafter, hlast⟩ : ∃ after last middle,
      (first :: rest).reverse = after ++ last :: middle ∧ (∀ text ∈ after, Blank text) ∧
        ¬ Blank last :=
    exists_first ⟨first, List.mem_reverse.2 List.mem_cons_self, hfirst⟩
  have hrest : first :: rest = middle.reverse ++ [last] ++ after.reverse := by
    rw [← List.reverse_reverse (first :: rest), hreverse, List.reverse_append, List.reverse_cons]
  refine ⟨middle.reverse, last, ⟨before, after.reverse, ?_, hbefore, ?_⟩, ?_, hlast⟩
  · rw [hrest, ← List.append_assoc]
  · intro text htext
    exact hafter text (List.mem_reverse.1 htext)
  · intro text htext
    have hhead : (first :: rest).head? = some text := by
      rw [hrest, List.head?_append, htext, Option.some_or]
    obtain rfl : first = text := Option.some.inj hhead
    exact hfirst

/-- The lines in front of the last one keep the blanks at their ends, and the last one does not. -/
theorem Core.folded_eq (h : Core whole middle last) :
    folded (whole.map line) = ['\n'].intercalate (middle.map line ++ [Text.trim last.toList]) := by
  obtain ⟨⟨before, after, rfl, hbefore, hafter⟩, hfirst, hlast⟩ := h
  have hsome : middle ++ [last] ≠ [] := List.append_ne_nil_of_right_ne_nil middle (by simp)
  have htrim : Text.trim last.toList ≠ [] := mt Text.trim_eq_nil_iff.1 hlast
  have hstripped := Text.stripped_trim last.toList
  rw [folded_surrounded hsome hbefore hafter, List.map_append, List.map_singleton]
  refine Text.stripped_iff.1 ⟨?_, ?_, ?_⟩
  · obtain ⟨blanks, hline, hblanks, -⟩ := Text.exists_eq_trimEnd_append (line last)
    refine ⟨[], blanks, ?_, by simp, hblanks⟩
    rw [List.nil_append, ← intercalate_append_singleton]
    exact congrArg (fun l => ['\n'].intercalate (middle.map line ++ [l])) hline
  · cases middle with
    | nil =>
        rw [List.map_nil, List.nil_append, List.intercalate_singleton]
        exact hstripped.first
    | cons text middle =>
        have htext : line text ≠ [] := mt line_eq_nil_iff.1 (hfirst text rfl)
        obtain ⟨-, -, -, hhead⟩ := Text.exists_eq_append_trimStart text.toList
        rw [List.map_cons, List.cons_append, head?_intercalate_cons htext]
        exact hhead
  · rw [getLast?_intercalate_append htrim]
    exact hstripped.last

/-- Without line feeds in them, the lines of the template are those of the documentation. -/
theorem Core.separated (h : Core whole middle last)
    (single : ∀ text ∈ whole, '\n' ∉ text.toList) :
    Separated '\n' (middle.map line ++ [Text.trim last.toList]) (folded (whole.map line)) := by
  refine ⟨List.append_ne_nil_of_right_ne_nil _ (List.cons_ne_nil _ []), ?_, h.folded_eq⟩
  obtain ⟨⟨before, after, rfl, -, -⟩, -, -⟩ := h
  intro l hl hfeed
  obtain hl | hl := List.mem_append.1 hl
  · obtain ⟨text, htext, rfl⟩ := List.mem_map.1 hl
    exact single text (by simp [htext]) (Text.mem_of_mem_trimStart hfeed)
  · rw [List.mem_singleton.1 hl] at hfeed
    exact single last (by simp) (Text.mem_of_mem_trim hfeed)

theorem Indented.line_eq (h : Indented text other) : line other = line text := by
  obtain ⟨blanks, hblanks, hother⟩ := h
  rw [line, hother, Text.trimStart_append_of_blank hblanks, line]

theorem map_line_eq_of_indented {deeper : List String} (h : List.Forall₂ Indented whole deeper) :
    deeper.map line = whole.map line := by
  induction h with
  | nil => rfl
  | cons hline _ ih => rw [List.map_cons, List.map_cons, hline.line_eq, ih]

end Doc

namespace Derivation

open Doc (Blank Indented Core written texts line folded)

variable {attributes others : List Attribute}

theorem resolveTemplate_none (attributes : List Attribute) :
    resolveTemplate none attributes =
      if texts attributes = [] then .error .missingTemplate
      else .ok (String.ofList (folded ((texts attributes).map line))) := by
  rw [resolveTemplate, Option.none_or, Doc.template?_eq]
  by_cases hnone : texts attributes = []
  · rw [if_pos hnone, if_pos hnone]
  · rw [if_neg hnone, if_neg hnone]

theorem resolveTemplate_none_of_ne_nil (some : texts attributes ≠ []) :
    resolveTemplate none attributes =
      .ok (String.ofList (folded ((texts attributes).map line))) := by
  rw [resolveTemplate_none, if_neg some]

/-- Where no template is given, one is missing exactly if there is no line of documentation. -/
theorem resolveTemplate_none_judged (attributes : List Attribute) :
    Judged (resolveTemplate none attributes) (∃ text, written text ∈ attributes)
      (fun fault => fault = .missingTemplate ∧ ∀ text, written text ∉ attributes) := by
  by_cases hnone : texts attributes = []
  · have hnot : ∀ text, written text ∉ attributes := by
      intro text htext
      rw [← Doc.mem_texts_iff, hnone] at htext
      cases htext
    rw [resolveTemplate_none, if_pos hnone]
    exact .of_error ⟨rfl, hnot⟩ (fun ⟨text, htext⟩ => hnot text htext) fun _ h => h.1
  · obtain ⟨text, htext⟩ := List.exists_mem_of_ne_nil _ hnone
    rw [Doc.mem_texts_iff] at htext
    rw [resolveTemplate_none_of_ne_nil hnone]
    exact .of_ok ⟨text, htext⟩ fun _ h => h.2 text htext

/-- Where no template is given, one is missing if and only if there is no line of documentation.
Otherwise the texts of these lines make the template, whatever attributes stand before, behind and
between them. It neither begins nor ends with a blank. Putting blanks in front of lines, or lines of
blanks before the first line or after the last one, makes no difference. Where no line holds a line
feed and not all are blank, the lines of the template are those from the first to the last one that
is not blank, without the blanks in front of them; behind them blanks are taken away from the last
one only. A template that is given is taken as it is. -/
theorem documentation_makes_template :
    (∀ attributes, (∃ template, resolveTemplate none attributes = .ok template) ↔
      ∃ text, written text ∈ attributes) ∧
    (∀ attributes fault, resolveTemplate none attributes = .error fault ↔
      fault = .missingTemplate ∧ ∀ text, written text ∉ attributes) ∧
    (∀ attributes others, texts attributes = texts others →
      resolveTemplate none attributes = resolveTemplate none others) ∧
    (∀ attributes template, resolveTemplate none attributes = .ok template →
      (∀ c, template.toList.head? = some c → Text.isBlank c = false) ∧
      ∀ c, template.toList.getLast? = some c → Text.isBlank c = false) ∧
    (∀ attributes others, List.Forall₂ Indented (texts attributes) (texts others) →
      resolveTemplate none others = resolveTemplate none attributes) ∧
    (∀ attributes others before after, texts attributes ≠ [] →
      texts others = before ++ texts attributes ++ after →
      (∀ text ∈ before, Blank text) → (∀ text ∈ after, Blank text) →
      resolveTemplate none others = resolveTemplate none attributes) ∧
    (∀ attributes, (∀ text ∈ texts attributes, '\n' ∉ text.toList) →
      (∃ text ∈ texts attributes, ¬ Blank text) →
      (∃ middle last, Core (texts attributes) middle last) ∧
      ∀ middle last, Core (texts attributes) middle last →
        ∃ template, resolveTemplate none attributes = .ok template ∧
          Separated '\n' (middle.map line ++ [Text.trim last.toList]) template.toList) ∧
    (∀ given attributes, resolveTemplate (some given) attributes = .ok given) := by
  refine ⟨fun attributes => (resolveTemplate_none_judged attributes).ok,
    fun attributes => (resolveTemplate_none_judged attributes).error, ?_, ?_, ?_, ?_, ?_,
    fun _ _ => rfl⟩
  · intro attributes others same
    rw [resolveTemplate_none, resolveTemplate_none, same]
  · intro attributes template h
    rw [resolveTemplate_none] at h
    split at h
    · cases h
    · cases h
      rw [String.toList_ofList]
      have hstripped := Text.stripped_trim (['\n'].intercalate ((texts attributes).map line))
      exact ⟨hstripped.first, hstripped.last⟩
  · intro attributes others deeper
    have hlines := Doc.map_line_eq_of_indented deeper
    have hnil : texts others = [] ↔ texts attributes = [] := by
      rw [← List.map_eq_nil_iff, hlines, List.map_eq_nil_iff]
    rw [resolveTemplate_none, resolveTemplate_none, hlines, if_congr hnil rfl rfl]
  · intro attributes others before after some same hbefore hafter
    have hsome : texts others ≠ [] := by
      rw [same]
      simp [some]
    rw [resolveTemplate_none_of_ne_nil some, resolveTemplate_none_of_ne_nil hsome, same,
      Doc.folded_surrounded some hbefore hafter]
  · intro attributes single filled
    refine ⟨Doc.exists_core filled, fun middle last hcore => ?_⟩
    obtain ⟨text, htext, -⟩ := filled
    refine ⟨_, resolveTemplate_none_of_ne_nil (List.ne_nil_of_mem htext), ?_⟩
    rw [String.toList_ofList]
    exact hcore.separated single

/-- A greeting, documented among other attributes. -/
def greeting : List Attribute :=
  [written " ", ⟨"derive", .list [.word "Clone"]⟩, written "  hello  ", written "",
    ⟨"doc", .list [.word "hidden"]⟩, written " bye \t", written ""]

/-- The blank lines around the greeting and the blanks in front of its lines go; the empty line
within and the blanks behind the first line stay. Three lines say the same. -/
theorem greeting_documented :
    ∃ template, resolveTemplate none greeting = .ok template ∧
      Separated '\n' ["hello  ".toList, [], "bye".toList] template.toList ∧
      template.toList.getLast? ≠ some '\t' ∧
      resolveTemplate none [written "hello  ", written "", written "bye \t"] = .ok template := by
  obtain ⟨-, -, -, hends, hdeeper, hblank, hlines, -⟩ := documentation_makes_template
  have hcore : Core (texts greeting) ["  hello  ", ""] " bye \t" := by
    refine ⟨⟨[" "], [""], rfl, by decide, by decide⟩, ?_, by decide⟩
    intro text htext
    obtain rfl : "  hello  " = text := Option.some.inj htext
    decide
  obtain ⟨-, hsome⟩ := hlines greeting (by decide) ⟨" bye \t", by decide, hcore.last⟩
  obtain ⟨template, htemplate, hseparated⟩ := hsome _ _ hcore
  refine ⟨template, htemplate, hseparated, ?_, ?_⟩
  · intro hlast
    have htab := (hends greeting template htemplate).2 '\t' hlast
    exact absurd htab (by decide)
  · have hindented : List.Forall₂ Indented ["hello  ", "", "bye \t"]
        ["  hello  ", "", " bye \t"] :=
      .cons ⟨[' ', ' '], List.all_eq_true.1 rfl, rfl⟩ (.cons ⟨[], List.all_eq_true.1 rfl, rfl⟩
        (.cons ⟨[' '], List.all_eq_true.1 rfl, rfl⟩ .nil))
    rw [← hdeeper [written "hello  ", written "", written "bye \t"]
        [written "  hello  ", written "", written " bye \t"] hindented,
      ← hblank _ greeting [" "] [""] (by decide) rfl (by decide) (by decide)]
    exact htemplate

end Derivation

end Redaction
