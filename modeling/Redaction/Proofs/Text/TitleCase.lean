import Redaction.Proofs.Text.LetterCase
import Redaction.Segment

/-!
# Title case works word by word

The words of a text are its stretches without blanks. Title case takes each word for itself,
capitalizes its first character and lowers the others, and leaves the blanks where they are, in
front of the first word and behind the last one as well as between words. So the name in the
placeholder of a segment has the words of the name of the segment, each in title case, and the same
blanks.
-/

namespace Redaction.Text

/-- The stretches of a text between its blanks. There is an empty one wherever a blank follows
another one or stands at an end. -/
def stretches (cs : List Char) : List (List Char) := cs.splitOnP isBlank

/-- The words of a text, in order. -/
def words (s : String) : List String :=
  ((stretches s.toList).filter (· ≠ [])).map String.ofList

/-- The blanks of a text, in order. -/
def blanks (s : String) : List Char := s.toList.filter isBlank

/-- A word with a capital first character, the rest in small letters. -/
def capitalized : List Char → List Char
  | [] => []
  | c :: cs => upper c ++ cs.flatMap lower

/-! ## Stretches -/

section Stretches

variable {word : List Char} {c : Char}

theorem stretches_of_not_blank (h : ∀ d ∈ word, isBlank d = false) : stretches word = [word] :=
  List.splitOnP_eq_singleton h

theorem stretches_append (h : isBlank c = true) (before after : List Char) :
    stretches (before ++ c :: after) = stretches before ++ stretches after :=
  List.splitOnP_append_cons before after h

/-- A text without blanks is one stretch; any other one is a stretch, a blank, and a text that is
shorter. -/
theorem stretch_induction {motive : List Char → Prop}
    (word : ∀ word, (∀ d ∈ word, isBlank d = false) → motive word)
    (blank : ∀ word c after, (∀ d ∈ word, isBlank d = false) → isBlank c = true →
      motive after → motive (word ++ c :: after))
    (cs : List Char) : motive cs := by
  induction hlength : cs.length using Nat.strongRecOn generalizing cs with
  | ind n ih =>
      subst hlength
      have hword : ∀ d ∈ cs.takeWhile (!isBlank ·), isBlank d = false := by
        intro d hd
        simpa using List.all_eq_true.1 List.all_takeWhile d hd
      have hhead := List.head?_dropWhile_not (!isBlank ·) cs
      have hcs : cs.takeWhile (!isBlank ·) ++ cs.dropWhile (!isBlank ·) = cs :=
        List.takeWhile_append_dropWhile
      generalize cs.takeWhile (!isBlank ·) = first, cs.dropWhile (!isBlank ·) = rest at *
      subst hcs
      cases rest with
      | nil =>
          rw [List.append_nil]
          exact word first hword
      | cons c after =>
          have hc : isBlank c = true := by simpa using hhead
          have hshorter : after.length < (first ++ c :: after).length := by
            rw [List.length_append, List.length_cons]
            omega
          exact blank first c after hword hc (ih _ hshorter after rfl)

theorem not_blank_of_mem_stretches {cs stretch : List Char} (h : stretch ∈ stretches cs) :
    ∀ d ∈ stretch, isBlank d = false := by
  induction cs using stretch_induction with
  | word word hword =>
      rw [stretches_of_not_blank hword, List.mem_singleton] at h
      rwa [h]
  | blank word c after hword hc ih =>
      rw [stretches_append hc, stretches_of_not_blank hword, List.singleton_append,
        List.mem_cons] at h
      obtain rfl | h := h
      · exact hword
      · exact ih h

end Stretches

/-! ## Title case -/

section TitleCase

variable {word : List Char}

/-- A blank opens a word, whatever stands before it. -/
theorem titleFrom_append {c : Char} (h : isBlank c = true) (opening : Bool)
    (before after : List Char) :
    titleFrom opening (before ++ c :: after) =
      titleFrom opening before ++ c :: titleFrom true after := by
  induction before generalizing opening with
  | nil => exact titleFrom_cons_of_blank h opening after
  | cons d before ih =>
      rw [List.cons_append, titleFrom, titleFrom, ih, ih]
      split
      · rfl
      · rw [List.append_assoc]

theorem titleFrom_false_of_not_blank (h : ∀ d ∈ word, isBlank d = false) :
    titleFrom false word = word.flatMap lower := by
  induction word with
  | nil => rfl
  | cons d word ih =>
      obtain ⟨hd, hword⟩ := List.forall_mem_cons.1 h
      rw [titleFrom, hd, ih hword]
      rfl

theorem titleFrom_true_of_not_blank (h : ∀ d ∈ word, isBlank d = false) :
    titleFrom true word = capitalized word := by
  cases word with
  | nil => rfl
  | cons d word =>
      obtain ⟨hd, hword⟩ := List.forall_mem_cons.1 h
      rw [titleFrom, hd, titleFrom_false_of_not_blank hword]
      rfl

theorem capitalized_not_blank (h : ∀ d ∈ word, isBlank d = false) :
    ∀ d ∈ capitalized word, isBlank d = false := by
  cases word with
  | nil => exact h
  | cons c word =>
      obtain ⟨hc, hword⟩ := List.forall_mem_cons.1 h
      intro d hd
      obtain hd | hd := List.mem_append.1 hd
      · exact (upper_not_blank hc).2 d hd
      · obtain ⟨e, he, hd⟩ := List.mem_flatMap.1 hd
        exact (lower_not_blank (hword e he)).2 d hd

/-- No word vanishes. -/
theorem capitalized_eq_nil_iff (h : ∀ d ∈ word, isBlank d = false) :
    capitalized word = [] ↔ word = [] := by
  cases word with
  | nil => exact Iff.rfl
  | cons c word =>
      have hsome := (upper_not_blank (h c List.mem_cons_self)).1
      simp [capitalized, hsome]

/-- Each stretch is capitalized for itself. -/
theorem stretches_titleFrom (cs : List Char) :
    stretches (titleFrom true cs) = (stretches cs).map capitalized := by
  induction cs using stretch_induction with
  | word word hword =>
      rw [titleFrom_true_of_not_blank hword, stretches_of_not_blank hword,
        stretches_of_not_blank (capitalized_not_blank hword), List.map_singleton]
  | blank word c after hword hc ih =>
      rw [titleFrom_append hc, stretches_append hc, ih, stretches_append hc, List.map_append,
        titleFrom_true_of_not_blank hword, stretches_of_not_blank hword,
        stretches_of_not_blank (capitalized_not_blank hword), List.map_singleton]

/-- The blanks stay as they are. -/
theorem filter_isBlank_titleFrom (opening : Bool) (cs : List Char) :
    (titleFrom opening cs).filter isBlank = cs.filter isBlank := by
  induction cs generalizing opening with
  | nil => rfl
  | cons c cs ih =>
      by_cases hc : isBlank c = true
      · rw [titleFrom_cons_of_blank hc, List.filter_cons_of_pos hc, List.filter_cons_of_pos hc, ih]
      · rw [Bool.not_eq_true] at hc
        have himage : (if opening then upper c else lower c).filter isBlank = [] := by
          rw [List.filter_eq_nil_iff]
          intro d hd
          rw [Bool.not_eq_true]
          split at hd
          · exact (upper_not_blank hc).2 d hd
          · exact (lower_not_blank hc).2 d hd
        rw [titleFrom, if_neg (by simp [hc]), List.filter_append, himage, ih, List.nil_append,
          List.filter_cons_of_neg (by simp [hc])]

end TitleCase

/-! ## Texts -/

theorem toList_titleCase (s : String) : (titleCase s).toList = titleFrom true s.toList :=
  String.toList_ofList

theorem titleCase_append {c : Char} (h : isBlank c = true) (u v : String) :
    titleCase (u ++ String.singleton c ++ v) =
      titleCase u ++ String.singleton c ++ titleCase v := by
  rw [← String.toList_inj]
  simp only [toList_titleCase, String.toList_append, String.toList_singleton, List.append_assoc,
    List.singleton_append, titleFrom_append h]

theorem titleCase_word {word : List Char} (h : ∀ d ∈ word, isBlank d = false) :
    titleCase (String.ofList word) = String.ofList (capitalized word) := by
  rw [titleCase, String.toList_ofList, titleFrom_true_of_not_blank h]

theorem blanks_titleCase (s : String) : blanks (titleCase s) = blanks s := by
  rw [blanks, toList_titleCase, filter_isBlank_titleFrom, blanks]

/-- The words of a text in title case are its words in title case. -/
theorem words_titleCase (s : String) : words (titleCase s) = (words s).map titleCase := by
  have hfilter : ((stretches s.toList).map capitalized).filter (· ≠ []) =
      ((stretches s.toList).filter (· ≠ [])).map capitalized := by
    rw [List.filter_map]
    refine congrArg _ (List.filter_congr fun stretch hstretch => ?_)
    simp [capitalized_eq_nil_iff (not_blank_of_mem_stretches hstretch)]
  rw [words, toList_titleCase, stretches_titleFrom, hfilter, words, List.map_map, List.map_map]
  refine List.map_congr_left fun word hword => ?_
  have hmem := (List.mem_filter.1 hword).1
  exact (titleCase_word (not_blank_of_mem_stretches hmem)).symm

/-- A blank divides a text into two whose title cases are taken apart from each other, and in a
word the first character goes to its capital image and every other one to its small image. So the
blanks of a name are those of its title case, and so is the number of words; the name that the
placeholder of a segment shows has them all, each word in title case. -/
theorem title_case_word_by_word :
    (∀ (u v : String) (c : Char), isBlank c = true →
      titleCase (u ++ String.singleton c ++ v) =
        titleCase u ++ String.singleton c ++ titleCase v) ∧
    (∀ (c : Char) (cs : List Char), (∀ d ∈ c :: cs, isBlank d = false) →
      titleCase (String.ofList (c :: cs)) = String.ofList (upper c ++ cs.flatMap lower)) ∧
    (∀ name : String, blanks (titleCase name) = blanks name ∧
      words (titleCase name) = (words name).map titleCase ∧
      stretches (titleCase name).toList = (stretches name.toList).map capitalized) ∧
    (∀ s : Segment, s.name ≠ "" → s.nameHidden = false →
      ∃ shown, s.placeholder = "<Redacted " ++ shown ++ ">" ∧ blanks shown = blanks s.name ∧
        (words shown).length = (words s.name).length ∧
        ∀ (i : Nat) (word : String), (words s.name)[i]? = some word →
          (words shown)[i]? = some (titleCase word)) := by
  refine ⟨fun u v c hc => titleCase_append hc u v, fun c cs h => titleCase_word h, ?_, ?_⟩
  · intro name
    refine ⟨blanks_titleCase name, words_titleCase name, ?_⟩
    rw [toList_titleCase, stretches_titleFrom]
  · intro s named shown
    refine ⟨titleCase s.name, ?_, blanks_titleCase s.name, ?_, ?_⟩
    · rw [Segment.placeholder, if_neg (by simp [named, shown])]
    · rw [words_titleCase, List.length_map]
    · intro i word hword
      rw [words_titleCase, List.getElem?_map, hword]
      rfl

/-- A sharp s has two capitals, and the blanks around the words and between them are kept. -/
theorem sharp_s_capitalized :
    titleCase ("ßIG" ++ String.singleton ' ' ++ "straße") = "SSig Straße" ∧
    ∃ shown, (Segment.mk "v" " ßIG  straße " false).placeholder = "<Redacted " ++ shown ++ ">" ∧
      blanks shown = [' ', ' ', ' ', ' '] ∧ (words shown)[0]? = some "SSig" := by
  obtain ⟨hblank, hword, -, hplaceholder⟩ := title_case_word_by_word
  constructor
  · rw [hblank "ßIG" "straße" ' ' (by decide)]
    have hsharp : ['ß', 'I', 'G'].all (!isBlank ·) = true := by decide
    have hroad : ['s', 't', 'r', 'a', 'ß', 'e'].all (!isBlank ·) = true := by decide
    have hfirst : titleCase "ßIG" = "SSig" := hword 'ß' ['I', 'G'] (by simpa using hsharp)
    have hsecond : titleCase "straße" = "Straße" :=
      hword 's' ['t', 'r', 'a', 'ß', 'e'] (by simpa using hroad)
    rw [hfirst, hsecond]
    rfl
  · obtain ⟨shown, htext, hblanks, -, hwords⟩ :=
      hplaceholder ⟨"v", " ßIG  straße ", false⟩ (by decide) rfl
    exact ⟨shown, htext, hblanks, hwords 0 "ßIG" (by decide)⟩

end Redaction.Text
