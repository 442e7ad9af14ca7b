import Mathlib.Data.List.Forall2
import Mathlib.Logic.Relation
import Redaction.Proofs.FirstUse
import Redaction.Proofs.Separated
import Redaction.Proofs.Spec.Grammar

/-!
# What becomes of a format spec

Every format spec is accepted without a word in the log, or rejected for one of three causes with
one event for debugging. Which of these happens is decided by the entries of the allow-list: the
texts between its commas, stripped of the blanks around them, as far as anything is left. Where no
dollar sign promises an allow-list, nothing is rejected.

The entries count as a set. Lists that differ in the order of the pieces between commas, in
repetitions, in blanks around entries and in blank pieces have the same options or offenders, as
long as there is an entry at all.
-/

namespace Redaction

namespace Spec

/-- The entries of an allow-list: what is left of the pieces between its commas, in order. -/
inductive Lists (allowList : String) : List String → Prop where
  | intro {pieces texts : List (List Char)} (separated : Separated ',' pieces allowList.toList)
      (stripped : List.Forall₂ Text.Stripped pieces texts) :
      Lists allowList ((texts.filter (· ≠ [])).map String.ofList)

/-- The names are the entries that are no identifiers, each once, as they first appear. -/
structure Offenders (listed names : List String) : Prop where
  members : ∀ name, name ∈ names ↔ name ∈ listed ∧ isIdentifier name = false
  ordered : names.Pairwise fun a b => listed.idxOf a < listed.idxOf b

/-- The spec is accepted as the options, and nothing is logged. -/
def Accepts (spec : String) (o : Options) : Prop := read spec = ⟨.ok o, []⟩

/-- The spec is rejected, and the event, which is for debugging, is all that is logged. -/
def Rejects (spec : String) (e : Error) (event : Event) : Prop :=
  read spec = ⟨.error e, [event]⟩ ∧ event.level = .debug

/-- What becomes of a spec with this marker in front of its first dollar sign, this allow-list
behind it, and these entries. -/
structure Classified (spec marker allowList : String) (listed : List String) : Prop where
  missing : Rejects spec .missingAllowList .specWithoutAllowList ↔ allowList = ""
  noNames : Rejects spec (.noNames allowList) (.specWithoutNames allowList) ↔
    allowList ≠ "" ∧ listed = []
  invalid : ∀ names, Rejects spec (.invalidNames names) (.specWithInvalidNames names) ↔
    (∃ name ∈ listed, isIdentifier name = false) ∧ Offenders listed names
  accepted : ∀ o, Accepts spec o ↔ listed ≠ [] ∧ (∀ name ∈ listed, isIdentifier name = true) ∧
    ∃ set : NameSet, (∀ name, name ∈ set ↔ name ∈ listed) ∧
      o = ⟨if marker = "" then none else some marker, .names set⟩

/-- The second list of pieces has the pieces of the first in another order, or repeats one, or has
other blanks around one, or has a blank one more. -/
inductive Relisted : List (List Char) → List (List Char) → Prop where
  | permuted {pieces others : List (List Char)} (perm : pieces.Perm others) :
      Relisted pieces others
  | repeated {pieces : List (List Char)} {piece : List Char} (here : piece ∈ pieces) :
      Relisted pieces (piece :: pieces)
  | padded {piece other text : List Char} {pieces : List (List Char)}
      (stripped : Text.Stripped piece text) (alike : Text.Stripped other text) :
      Relisted (piece :: pieces) (other :: pieces)
  | blank {pieces : List (List Char)} {piece : List Char}
      (blank : ∀ c ∈ piece, Text.isBlank c = true) : Relisted pieces (piece :: pieces)

/-- Pieces that differ in order, repetitions and blanks only. -/
def SameEntries : List (List Char) → List (List Char) → Prop := Relation.EqvGen Relisted

/-- Both specs are accepted as the same options, or both are rejected for the same offenders, in
whatever order. -/
def SameOutcome (spec other : String) : Prop :=
  (∃ o, Accepts spec o ∧ Accepts other o) ∨
    ∃ names names', Rejects spec (.invalidNames names) (.specWithInvalidNames names) ∧
      Rejects other (.invalidNames names') (.specWithInvalidNames names') ∧
      ∀ name, name ∈ names ↔ name ∈ names'

/-! ## Entries and offenders -/

/-- Taking an allow-list apart gives its entries. -/
theorem lists_iff {allowList : String} {listed : List String} :
    Lists allowList listed ↔ listed = entries allowList.toList := by
  constructor
  · rintro ⟨separated, stripped⟩
    have htexts := stripped.imp fun _ _ h => Text.stripped_iff.1 h
    rw [← List.forall₂_map_left_iff, List.forall₂_eq_eq_eq] at htexts
    rw [entries, separated_iff.1 separated, htexts]
  · rintro rfl
    refine .intro (separated_iff.2 rfl) ?_
    rw [List.forall₂_map_right_iff, List.forall₂_same]
    exact fun piece _ => Text.stripped_trim piece

/-- Members that are kept are in the order in which they first appear in the whole list. -/
theorem pairwise_idxOf_eraseDups (l : List String) (p : String → Bool) :
    (l.filter p).eraseDups.Pairwise fun a b => l.idxOf a < l.idxOf b := by
  have huses := firstUses_eraseDups (Option.guard p) l
  rw [List.filterMap_eq_filter] at huses
  refine huses.ordered.imp_of_mem fun {a b} _ hb ⟨i, ⟨c, hi, hc⟩, unused⟩ => ?_
  obtain ⟨rfl, -⟩ := Option.guard_eq_some_iff.1 hc
  obtain ⟨hmem, hkept⟩ : b ∈ l ∧ p b = true := by rwa [List.mem_eraseDups, List.mem_filter] at hb
  have hfirst : l.idxOf c ≤ i := by
    by_contra hlt
    obtain ⟨hlength, hc⟩ := List.getElem?_eq_some_iff.1 hi
    have hne := List.not_of_lt_findIdx (Nat.lt_of_not_le hlt)
    simp [hc] at hne
  have hlater : i < l.idxOf b := by
    by_contra hle
    have hhere : l[l.idxOf b]? = some b := by
      rw [List.getElem?_eq_getElem (List.idxOf_lt_length_iff.2 hmem), List.getElem_idxOf]
    exact unused _ (Nat.le_of_not_lt hle) ⟨b, hhere, Option.guard_eq_some_iff.2 ⟨rfl, hkept⟩⟩
  exact Nat.lt_of_le_of_lt hfirst hlater

theorem Offenders.nodup {listed names : List String} (h : Offenders listed names) :
    names.Nodup := by
  refine h.ordered.imp fun {a b} hlt => ?_
  rintro rfl
  exact Nat.lt_irrefl _ hlt

/-- Filtering the entries and dropping repetitions gives the offenders, and nothing else does. -/
theorem offenders_iff {listed names : List String} :
    Offenders listed names ↔
      names = (listed.filter fun name => !isIdentifier name).eraseDups := by
  have hfound : Offenders listed (listed.filter fun name => !isIdentifier name).eraseDups := by
    refine ⟨fun name => ?_, pairwise_idxOf_eraseDups listed _⟩
    rw [List.mem_eraseDups, List.mem_filter, Bool.not_eq_true']
  constructor
  · intro h
    refine List.Perm.eq_of_pairwise ?_ h.ordered hfound.ordered ?_
    · intro a b _ _ hab hba
      exact absurd hab (Nat.lt_asymm hba)
    · rw [List.perm_ext_iff_of_nodup h.nodup hfound.nodup]
      intro name
      rw [h.members, hfound.members]
  · rintro rfl
    exact hfound

/-! ## Acceptance and rejection -/

/-- Every rejection is reported for debugging. -/
theorem Error.level_event (e : Error) : e.event.level = .debug := by
  cases e <;> rfl

theorem accepts_iff {spec : String} {o : Options} : Accepts spec o ↔ parse spec = .ok o := by
  constructor
  · intro h
    rw [← value_read, show read spec = _ from h]
  · exact read_eq_pure_of_parse

theorem rejects_iff {spec : String} {e : Error} :
    Rejects spec e e.event ↔ parse spec = .error e := by
  constructor
  · rintro ⟨h, _⟩
    rw [← value_read, h]
  · intro h
    refine ⟨?_, e.level_event⟩
    rw [read, h]
    rfl

/-- An allow-list is rejected if it is empty, if no entry is left, or if some are no
identifiers. -/
theorem parseAllowList_eq_error_iff {l : List Char} {e : Error} :
    parseAllowList l = .error e ↔
      (l = [] ∧ e = .missingAllowList) ∨
      (l ≠ [] ∧ entries l = [] ∧ e = .noNames (String.ofList l)) ∨
      (∃ name ∈ entries l, isIdentifier name = false) ∧
        ∃ names, Offenders (entries l) names ∧ e = .invalidNames names := by
  rw [parseAllowList]
  by_cases hl : l = []
  · rw [if_pos hl, Except.error.injEq]
    constructor
    · rintro rfl
      exact .inl ⟨hl, rfl⟩
    · rintro (⟨_, rfl⟩ | ⟨hsome, _⟩ | ⟨⟨name, hname, _⟩, _⟩)
      · rfl
      · exact absurd hl hsome
      · rw [hl] at hname
        exact absurd hname List.not_mem_nil
  rw [if_neg hl]
  by_cases hnames : entries l = []
  · rw [if_pos hnames, Except.error.injEq]
    constructor
    · rintro rfl
      exact .inr (.inl ⟨hl, hnames, rfl⟩)
    · rintro (⟨hnil, _⟩ | ⟨_, _, rfl⟩ | ⟨⟨name, hname, _⟩, _⟩)
      · exact absurd hnil hl
      · rfl
      · rw [hnames] at hname
        exact absurd hname List.not_mem_nil
  rw [if_neg hnames]
  have hinvalid : ((entries l).filter fun name => !isIdentifier name).eraseDups ≠ [] ↔
      ∃ name ∈ entries l, isIdentifier name = false := by
    rw [Ne, invalid_eq_nil_iff]
    simp
  simp only [hl, hnames, offenders_iff, false_and, and_false, false_or, exists_eq_left,
    ← hinvalid]
  split
  next hsome =>
    rw [Except.error.injEq, eq_comm]
    exact (and_iff_right hsome).symm
  next hnone =>
    constructor
    · intro h
      cases h
    · rintro ⟨hsome, _⟩
      exact absurd hsome hnone

/-- What stands behind the first dollar sign decides about a spec. -/
theorem parse_dollar {marker : String} (h : '$' ∉ marker.toList) (allowList : String) :
    parse (marker ++ "$" ++ allowList) =
      (parseAllowList allowList.toList).map fun set => ⟨markerOf marker.toList, .names set⟩ := by
  have hspec : (marker ++ "$" ++ allowList).toList = marker.toList ++ '$' :: allowList.toList := by
    rw [String.toList_append, String.toList_append, List.append_assoc]
    rfl
  rw [parse, hspec, Text.cut_eq_some_iff.2 ⟨rfl, h⟩]
  dsimp only
  cases parseAllowList allowList.toList <;> rfl

theorem markerOf_toList (marker : String) :
    markerOf marker.toList = if marker = "" then none else some marker := by
  rw [markerOf]
  by_cases hmarker : marker = ""
  · rw [if_pos hmarker, if_pos (String.toList_eq_nil_iff.2 hmarker)]
  · rw [if_neg hmarker, if_neg (mt String.toList_eq_nil_iff.1 hmarker), String.ofList_toList]

theorem parse_dollar_eq_error_iff {marker allowList : String} (h : '$' ∉ marker.toList)
    {e : Error} : parse (marker ++ "$" ++ allowList) = .error e ↔
      parseAllowList allowList.toList = .error e := by
  rw [parse_dollar h]
  cases parseAllowList allowList.toList <;> simp [Except.map]

theorem parse_dollar_eq_ok_iff {marker allowList : String} (h : '$' ∉ marker.toList)
    {o : Options} : parse (marker ++ "$" ++ allowList) = .ok o ↔
      ∃ set, parseAllowList allowList.toList = .ok set ∧
        o = ⟨if marker = "" then none else some marker, .names set⟩ := by
  rw [parse_dollar h, markerOf_toList]
  cases parseAllowList allowList.toList <;> simp [Except.map, eq_comm]

/-- The four outcomes, each with its condition. -/
theorem classified {marker allowList : String} {listed : List String}
    (hmarker : '$' ∉ marker.toList) (hlists : Lists allowList listed) :
    Classified (marker ++ "$" ++ allowList) marker allowList listed := by
  obtain rfl := lists_iff.1 hlists
  have hrejects : ∀ e : Error, Rejects (marker ++ "$" ++ allowList) e e.event ↔
      parseAllowList allowList.toList = .error e := by
    intro e
    rw [rejects_iff, parse_dollar_eq_error_iff hmarker]
  refine ⟨?_, ?_, ?_, ?_⟩
  · rw [show Event.specWithoutAllowList = Error.missingAllowList.event from rfl, hrejects,
      parseAllowList_eq_error_iff]
    simp
  · rw [show Event.specWithoutNames allowList = (Error.noNames allowList).event from rfl, hrejects,
      parseAllowList_eq_error_iff]
    simp
  · intro names
    rw [show Event.specWithInvalidNames names = (Error.invalidNames names).event from rfl, hrejects,
      parseAllowList_eq_error_iff]
    simp
  · intro o
    rw [accepts_iff, parse_dollar_eq_ok_iff hmarker]
    simp only [parseAllowList_eq_ok_iff]
    constructor
    · rintro ⟨set, ⟨hsome, hidentifiers, rfl⟩, rfl⟩
      exact ⟨hsome, hidentifiers, _, fun name => NameSet.mem_ofList, rfl⟩
    · rintro ⟨hsome, hidentifiers, set, hset, rfl⟩
      refine ⟨set, ⟨hsome, hidentifiers, NameSet.ext fun name => ?_⟩, rfl⟩
      rw [hset, NameSet.mem_ofList]

/-! ## Lists with the same entries -/

/-- An entry is a text, not the empty one, that some piece leaves. -/
theorem mem_entries {pieces : List (List Char)} {allowList : List Char}
    (h : Separated ',' pieces allowList) {name : String} :
    name ∈ entries allowList ↔ name ≠ "" ∧ ∃ piece ∈ pieces, Text.Stripped piece name.toList := by
  rw [entries, separated_iff.1 h]
  simp only [List.mem_map, List.mem_filter, decide_eq_true_eq, Text.stripped_iff]
  constructor
  · rintro ⟨_, ⟨⟨piece, hpiece, rfl⟩, hsome⟩, rfl⟩
    refine ⟨?_, piece, hpiece, String.toList_ofList.symm⟩
    rwa [Ne, ← String.toList_eq_nil_iff, String.toList_ofList]
  · rintro ⟨hname, piece, hpiece, htext⟩
    refine ⟨_, ⟨⟨piece, hpiece, htext⟩, ?_⟩, String.ofList_toList⟩
    rwa [Ne, String.toList_eq_nil_iff]

/-- Writing a list anew leaves its entries. -/
theorem Relisted.exists_stripped_iff {pieces others : List (List Char)} (h : Relisted pieces others)
    {text : List Char} (some : text ≠ []) :
    (∃ piece ∈ pieces, Text.Stripped piece text) ↔
      ∃ piece ∈ others, Text.Stripped piece text := by
  cases h with
  | permuted perm => simp only [perm.mem_iff]
  | @repeated _ piece here =>
      rw [List.exists_mem_cons_iff]
      constructor
      · exact .inr
      · rintro (h | h)
        · exact ⟨piece, here, h⟩
        · exact h
  | padded stripped alike =>
      rw [List.exists_mem_cons_iff, List.exists_mem_cons_iff, Text.stripped_iff, Text.stripped_iff,
        Text.stripped_iff.1 stripped, Text.stripped_iff.1 alike]
  | @blank _ piece blank =>
      have hpiece : ¬ Text.Stripped piece text := by
        rw [Text.stripped_iff, Text.trim_of_blank blank]
        exact some.symm
      rw [List.exists_mem_cons_iff, or_iff_right hpiece]

theorem SameEntries.exists_stripped_iff {pieces others : List (List Char)}
    (h : SameEntries pieces others) {text : List Char} (some : text ≠ []) :
    (∃ piece ∈ pieces, Text.Stripped piece text) ↔
      ∃ piece ∈ others, Text.Stripped piece text := by
  induction h with
  | rel _ _ h => exact h.exists_stripped_iff some
  | refl _ => exact Iff.rfl
  | symm _ _ _ ih => exact ih.symm
  | trans _ _ _ _ _ ih ih' => exact ih.trans ih'

/-- Only the set of entries matters, if there is one at all. -/
theorem sameOutcome_of_mem_iff {marker allowList other : String} (hmarker : '$' ∉ marker.toList)
    (hsome : entries allowList.toList ≠ [])
    (hentries : ∀ name, name ∈ entries allowList.toList ↔ name ∈ entries other.toList) :
    SameOutcome (marker ++ "$" ++ allowList) (marker ++ "$" ++ other) := by
  have hfirst : Classified _ marker allowList _ := classified hmarker (lists_iff.2 rfl)
  have hsecond : Classified _ marker other _ := classified hmarker (lists_iff.2 rfl)
  by_cases hidentifiers : ∀ name ∈ entries allowList.toList, isIdentifier name = true
  · have hother : ∀ name ∈ entries other.toList, isIdentifier name = true :=
      fun name hname => hidentifiers name ((hentries name).2 hname)
    have hsome' : entries other.toList ≠ [] := by
      obtain ⟨name, hname⟩ := List.exists_mem_of_ne_nil _ hsome
      exact List.ne_nil_of_mem ((hentries name).1 hname)
    refine .inl ⟨_, (hfirst.accepted _).2 ⟨hsome, hidentifiers, _, fun name => ?_, rfl⟩,
      (hsecond.accepted _).2 ⟨hsome', hother, .ofList (entries allowList.toList), fun name => ?_,
        rfl⟩⟩
    · exact NameSet.mem_ofList
    · rw [NameSet.mem_ofList, hentries]
  · have hfault : ∃ name ∈ entries allowList.toList, isIdentifier name = false := by
      simpa using hidentifiers
    have hother : ∃ name ∈ entries other.toList, isIdentifier name = false := by
      obtain ⟨name, hname, hno⟩ := hfault
      exact ⟨name, (hentries name).1 hname, hno⟩
    have hoffenders : Offenders (entries allowList.toList) _ := offenders_iff.2 rfl
    have hoffenders' : Offenders (entries other.toList) _ := offenders_iff.2 rfl
    refine .inr ⟨_, _, (hfirst.invalid _).2 ⟨hfault, hoffenders⟩,
      (hsecond.invalid _).2 ⟨hother, hoffenders'⟩, fun name => ?_⟩
    rw [hoffenders.members, hoffenders'.members, hentries]

/-- What becomes of every format spec. Without a dollar sign it is accepted, with all of it as the
marker. Any other spec is a marker, a dollar sign and an allow-list, and its outcome is the one that
the entries of the list decide. Writing the list with its entries in another order, more or less
often, with other blanks around them or with other blank pieces between them never makes a
difference to the options that are read, or to which entries are reported. -/
theorem read_classifies_specs :
    (∀ spec, '$' ∉ spec.toList →
      Accepts spec ⟨if spec = "" then none else some spec, .nothing⟩) ∧
    (∀ spec, '$' ∈ spec.toList → ∃ marker allowList listed, spec = marker ++ "$" ++ allowList ∧
      '$' ∉ marker.toList ∧ Lists allowList listed) ∧
    (∀ marker allowList listed, '$' ∉ marker.toList → Lists allowList listed →
      Classified (marker ++ "$" ++ allowList) marker allowList listed) ∧
    (∀ marker pieces others allowList other, '$' ∉ marker.toList →
      Separated ',' pieces allowList.toList → Separated ',' others other.toList →
      SameEntries pieces others → (∃ piece ∈ pieces, ∃ c ∈ piece, Text.isBlank c = false) →
      SameOutcome (marker ++ "$" ++ allowList) (marker ++ "$" ++ other)) := by
  refine ⟨?_, ?_, ?_, ?_⟩
  · intro spec hfree
    rw [accepts_iff, parse, Text.cut_eq_none_iff.2 hfree, markerOf_toList]
  · intro spec hdollar
    obtain ⟨before, after, hspec, hbefore⟩ := List.eq_append_cons_of_mem hdollar
    refine ⟨String.ofList before, String.ofList after, _, ?_, ?_, lists_iff.2 rfl⟩
    · rw [← String.toList_inj, hspec]
      simp
    · rwa [String.toList_ofList]
  · intro marker allowList listed hmarker hlists
    exact classified hmarker hlists
  · intro marker pieces others allowList other hmarker hpieces hothers hsame hpiece
    have hentries : ∀ name, name ∈ entries allowList.toList ↔ name ∈ entries other.toList := by
      intro name
      rw [mem_entries hpieces, mem_entries hothers]
      refine and_congr_right fun hname => hsame.exists_stripped_iff ?_
      rwa [Ne, String.toList_eq_nil_iff]
    refine sameOutcome_of_mem_iff hmarker ?_ hentries
    obtain ⟨piece, hpiece, c, hc, hblank⟩ := hpiece
    have hstripped := Text.stripped_trim piece
    have htext : Text.trim piece ≠ [] := by
      intro hnone
      rw [hnone] at hstripped
      obtain ⟨before, after, rfl, hbefore, hafter⟩ := hstripped.padded
      rw [List.append_nil, List.mem_append] at hc
      have hc := hc.elim (hbefore c) (hafter c)
      rw [hblank] at hc
      exact Bool.false_ne_true hc
    have hname : String.ofList (Text.trim piece) ∈ entries allowList.toList := by
      refine (mem_entries hpieces).2 ⟨?_, piece, hpiece, ?_⟩
      · rwa [Ne, ← String.toList_eq_nil_iff, String.toList_ofList]
      · rwa [String.toList_ofList]
    exact List.ne_nil_of_mem hname

/-- Two names are no identifiers, and the one that is listed twice is reported once. The same two
are reported of a list in another order, with a blank piece in place of the repetition. -/
theorem offenders_once_each :
    Accepts "log" ⟨some "log", .nothing⟩ ∧
    Rejects "*$ 1bad ,ok,^,1bad" (.invalidNames ["1bad", "^"])
      (.specWithInvalidNames ["1bad", "^"]) ∧
    SameOutcome "*$ 1bad ,ok,^,1bad" "*$^,,1bad,ok" := by
  obtain ⟨hfree, _, hclassified, hrelisted⟩ := read_classifies_specs
  have hmarker : '$' ∉ "*".toList := by decide
  have hlists : Lists " 1bad ,ok,^,1bad" ["1bad", "ok", "^", "1bad"] := lists_iff.2 rfl
  refine ⟨hfree "log" (by decide), ?_, ?_⟩
  · refine ((hclassified _ _ _ hmarker hlists).invalid _).2 ⟨⟨"^", by decide, by decide +kernel⟩, ?_⟩
    exact offenders_iff.2 (by decide +kernel)
  · have hpieces : Separated ',' [" 1bad ".toList, "ok".toList, "^".toList, "1bad".toList]
        " 1bad ,ok,^,1bad".toList := separated_iff.2 (by decide)
    have hothers : Separated ',' ["^".toList, [], "1bad".toList, "ok".toList]
        "^,,1bad,ok".toList := separated_iff.2 (by decide)
    have hpadded : Relisted (" 1bad ".toList :: ["ok".toList, "^".toList, "1bad".toList])
        ("1bad".toList :: ["ok".toList, "^".toList, "1bad".toList]) :=
      .padded (Text.stripped_iff.2 rfl) (Text.stripped_iff.2 rfl)
    have hrepeated : Relisted ["ok".toList, "^".toList, "1bad".toList]
        ("1bad".toList :: ["ok".toList, "^".toList, "1bad".toList]) := .repeated (by decide)
    have hblank : Relisted ["ok".toList, "^".toList, "1bad".toList]
        ([] :: ["ok".toList, "^".toList, "1bad".toList]) := .blank (by simp)
    have hpermuted : Relisted [[], "ok".toList, "^".toList, "1bad".toList]
        ["^".toList, [], "1bad".toList, "ok".toList] := .permuted (by decide)
    have hshorter : SameEntries (" 1bad ".toList :: ["ok".toList, "^".toList, "1bad".toList])
        ["ok".toList, "^".toList, "1bad".toList] :=
      .trans _ _ _ (.rel _ _ hpadded) (.symm _ _ (.rel _ _ hrepeated))
    have hlonger : SameEntries ["ok".toList, "^".toList, "1bad".toList]
        ["^".toList, [], "1bad".toList, "ok".toList] :=
      .trans _ _ _ (.rel _ _ hblank) (.rel _ _ hpermuted)
    refine hrelisted _ _ _ _ _ hmarker hpieces hothers (.trans _ _ _ hshorter hlonger) ?_
    exact ⟨"ok".toList, by decide, 'o', by decide, by decide⟩

end Spec

end Redaction
