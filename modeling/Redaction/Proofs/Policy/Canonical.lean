import Redaction.Options
import Redaction.Proofs.Spec.Classification
import Redaction.Proofs.Text.ByteOrder
import Redaction.Proofs.Text.Quoted

/-!
# Policies by names are sets

A policy that is made from a list of names keeps each of them once, in the order of their code
points, which is the order of their bytes. How often a name was listed, and where, leaves no trace:
lists with the same members make the same policy, and so the same options. Other members make
another policy, and both its inspection and its decisions show the difference.

Names are compared as texts. Neither letter case nor the composition of characters is looked
through, and nothing but the name of a segment is looked at.
-/

namespace Redaction

namespace Policy

/-- The list has the names as its members, each once, in strictly ascending order. -/
structure Canonical (names listed : List String) : Prop where
  members : ∀ name, name ∈ listed ↔ name ∈ names
  once : ∀ name ∈ names, listed.count name = 1
  byCodePoints : listed.Pairwise fun a b => Text.codePoints a < Text.codePoints b
  byBytes : listed.Pairwise fun a b => Text.bytes a < Text.bytes b

/-- The policy is made from the names: by itself, by allowing them in options, or by reading a
format spec that lists them. -/
inductive MadeFrom (names : List String) : Policy → Prop where
  | alone : MadeFrom names (.ofNames names)
  | allowed (o : Options) : MadeFrom names (o.allowNames names).policy
  | read {marker allowList : String} {o : Options} (bare : '$' ∉ marker.toList)
      (listed : Spec.Lists allowList names)
      (accepted : Spec.Accepts (marker ++ "$" ++ allowList) o) : MadeFrom names o.policy

/-- Nothing tells the policies apart: not their texts, not their decisions, and not the options that
have them. -/
structure Alike (policy other : Policy) : Prop where
  inspection : policy.inspect = other.inspect
  options : ∀ o : Options, o.withPolicy policy = o.withPolicy other
  decisions : ∀ s, policy.allows s = other.allows s

/-- Policies by names that can be told apart by what they store, by their texts and those of any
options that have them, and by what they decide. -/
structure Apart (policy other : Policy) : Prop where
  stored : ∃ set set', policy = .names set ∧ other = .names set' ∧ set.toList ≠ set'.toList
  inspection : policy.inspect.inline ≠ other.inspect.inline
  options : ∀ o p : Options,
    (o.withPolicy policy).inspect.inline ≠ (p.withPolicy other).inspect.inline
  decision : ∃ s, policy.allows s ≠ other.allows s

/-- There is one way to make a policy from names. -/
theorem MadeFrom.eq_ofNames {names : List String} {policy : Policy} (h : MadeFrom names policy) :
    policy = .ofNames names := by
  cases h with
  | alone => rfl
  | allowed o => rfl
  | read bare listed accepted =>
      obtain ⟨-, -, set, hset, rfl⟩ := ((Spec.classified bare listed).accepted _).1 accepted
      refine congrArg Policy.names (NameSet.ext fun name => ?_)
      rw [hset, NameSet.mem_ofList]

/-! ## The stored list -/

theorem canonical_ofList (names : List String) : Canonical names (NameSet.ofList names).toList := by
  have hascending := (NameSet.ofList names).ascending
  have hmembers : ∀ name, name ∈ (NameSet.ofList names).toList ↔ name ∈ names :=
    fun name => NameSet.mem_ofList
  refine ⟨hmembers, fun name hname => ?_, ?_, ?_⟩
  · have hnodup : (NameSet.ofList names).toList.Nodup := hascending.imp fun h => ne_of_lt h
    exact List.count_eq_one_of_mem hnodup ((hmembers name).2 hname)
  · exact hascending.imp Text.codePoints_lt_iff.2
  · exact hascending.imp Text.bytes_lt_iff.2

/-- Names can be listed in one canonical way. -/
theorem Canonical.unique {names listed others : List String} (h : Canonical names listed)
    (h' : Canonical names others) : listed = others := by
  refine NameSet.eq_of_pairwise_of_mem_iff (h.byCodePoints.imp Text.codePoints_lt_iff.1)
    (h'.byCodePoints.imp Text.codePoints_lt_iff.1) fun name => ?_
  rw [h.members, h'.members]

/-- Only the members of the list matter. -/
theorem ofNames_eq_iff {names others : List String} :
    ofNames names = ofNames others ↔ ∀ name, name ∈ names ↔ name ∈ others := by
  rw [ofNames, ofNames, Policy.names.injEq]
  constructor
  · intro h name
    rw [← NameSet.mem_ofList, h, NameSet.mem_ofList]
  · intro h
    refine NameSet.ext fun name => ?_
    rw [NameSet.mem_ofList, h, NameSet.mem_ofList]

/-! ## Inspections -/

theorem names_inspect_inline (set : NameSet) :
    (names set).inspect.inline =
      "Names(" ++ ("\x7b" ++ ", ".intercalate (set.toList.map Text.quoted) ++ "\x7d") ++ ")" := by
  have hquoted : (set.toList.map Text.Inspection.text).map (·.inline) =
      set.toList.map Text.quoted := List.map_map
  rw [inspect, Text.Inspection.call, Text.Inspection.set, hquoted]
  rfl

/-- The inspection lists the members, so it tells the sets apart. -/
theorem names_inspect_inline_inj {s t : NameSet}
    (h : (names s).inspect.inline = (names t).inspect.inline) : s = t := by
  rw [names_inspect_inline, names_inspect_inline, String.append_left_inj, String.append_right_inj,
    String.append_left_inj, String.append_right_inj] at h
  exact NameSet.toList_inj.1 (Text.intercalate_quoted_inj h)

end Policy

namespace Options

theorem inspect_inline (o : Options) :
    o.inspect.inline =
      "RenderOptions \x7b " ++
        ("marker: " ++ (Text.Inspection.optional (o.marker.map .text)).inline ++ ", " ++
          ("allow: " ++ o.policy.inspect.inline)) ++ " \x7d" := by
  simp [inspect, Text.Inspection.record]

/-- A marker is quoted, so it can be told from what follows it. -/
theorem optional_text_append_inj {marker other : Option String} {s t : String}
    (h : (Text.Inspection.optional (marker.map .text)).inline ++ s =
      (Text.Inspection.optional (other.map .text)).inline ++ t) : marker = other ∧ s = t := by
  have hnone : (Text.Inspection.optional (Option.map .text none)).inline = "None" := rfl
  have hsome : ∀ m : String, (Text.Inspection.optional (Option.map .text (some m))).inline =
      "Some(" ++ Text.quoted m ++ ")" := fun m => rfl
  have hapart : ∀ m s t : String, "None" ++ s ≠ "Some(" ++ Text.quoted m ++ ")" ++ t := by
    intro m s t h
    have hchars := congrArg String.toList h
    simp at hchars
  cases marker with
  | none =>
      rw [hnone] at h
      cases other with
      | none =>
          rw [hnone, String.append_right_inj] at h
          exact ⟨rfl, h⟩
      | some other =>
          rw [hsome] at h
          exact absurd h (hapart other s t)
  | some marker =>
      rw [hsome] at h
      cases other with
      | none =>
          rw [hnone] at h
          exact absurd h.symm (hapart marker t s)
      | some other =>
          simp only [hsome, String.append_assoc, String.append_right_inj] at h
          obtain ⟨rfl, hrest⟩ := Text.quoted_append_inj h
          rw [String.append_right_inj] at hrest
          exact ⟨rfl, hrest⟩

/-- Options with policies by names can be told apart. -/
theorem inspect_inline_inj {o p : Options} {s t : NameSet} (ho : o.policy = .names s)
    (hp : p.policy = .names t) (h : o.inspect.inline = p.inspect.inline) : o = p := by
  simp only [inspect_inline, String.append_assoc, String.append_right_inj] at h
  obtain ⟨hmarker, hrest⟩ := optional_text_append_inj h
  rw [String.append_right_inj, String.append_right_inj, String.append_left_inj, ho, hp] at hrest
  obtain ⟨marker, policy⟩ := o
  obtain ⟨other, policy'⟩ := p
  obtain rfl : marker = other := hmarker
  obtain rfl : policy = .names s := ho
  obtain rfl : policy' = .names t := hp
  rw [Policy.names_inspect_inline_inj hrest]

end Options

namespace Policy

theorem apart_ofNames {names others : List String} (h : ofNames names ≠ ofNames others) :
    Apart (ofNames names) (ofNames others) := by
  have hsets : NameSet.ofList names ≠ NameSet.ofList others := fun hsame =>
    h (congrArg Policy.names hsame)
  refine ⟨⟨_, _, rfl, rfl, fun hlists => ?_⟩, fun htexts => ?_, fun o p htexts => ?_, ?_⟩
  · exact hsets (NameSet.toList_inj.1 hlists)
  · exact hsets (names_inspect_inline_inj htexts)
  · exact h (congrArg Options.policy (Options.inspect_inline_inj rfl rfl htexts))
  · by_contra hnone
    push Not at hnone
    refine h (ofNames_eq_iff.2 fun name => ?_)
    have hsame := hnone ⟨"", name, false⟩
    rwa [allows_ofNames, allows_ofNames, decide_eq_decide] at hsame

/-- Policies by names are sets of names. Such a policy stores its names in the one canonical list
and reveals exactly the segments with one of them, whatever their values and whether they hide their
names. Which names were listed is all there is to it: with the same ones nothing tells the policies
apart, and with others everything does. Names with different characters are different names. -/
theorem name_policies_are_sets :
    (∀ names policy, MadeFrom names policy →
      ∃ set, policy = .names set ∧ ∀ listed, Canonical names listed ↔ listed = set.toList) ∧
    (∀ names others policy other, MadeFrom names policy → MadeFrom others other →
      (∀ name, name ∈ names ↔ name ∈ others) → Alike policy other) ∧
    (∀ names others policy other, MadeFrom names policy → MadeFrom others other →
      (∃ name, ¬ (name ∈ names ↔ name ∈ others)) → Apart policy other) ∧
    (∀ names policy, MadeFrom names policy → ∀ s : Segment,
      (policy.allows s = true ↔ s.name ∈ names) ∧
      ∀ value hidden, policy.allows ⟨value, s.name, hidden⟩ = policy.allows s) ∧
    (∀ name policy, MadeFrom [name] policy → ∀ s : Segment,
      s.name.toList ≠ name.toList → policy.allows s = false) := by
  refine ⟨?_, ?_, ?_, ?_, ?_⟩
  · intro names policy hpolicy
    obtain rfl := hpolicy.eq_ofNames
    refine ⟨_, rfl, fun listed => ⟨fun h => h.unique (canonical_ofList names), ?_⟩⟩
    rintro rfl
    exact canonical_ofList names
  · intro names others policy other hpolicy hother hmembers
    obtain rfl := hpolicy.eq_ofNames
    obtain rfl := hother.eq_ofNames
    rw [ofNames_eq_iff.2 hmembers]
    exact ⟨rfl, fun _ => rfl, fun _ => rfl⟩
  · intro names others policy other hpolicy hother ⟨name, hname⟩
    obtain rfl := hpolicy.eq_ofNames
    obtain rfl := hother.eq_ofNames
    exact apart_ofNames fun hsame => hname (ofNames_eq_iff.1 hsame name)
  · intro names policy hpolicy s
    obtain rfl := hpolicy.eq_ofNames
    rw [allows_ofNames, decide_eq_true_eq]
    exact ⟨Iff.rfl, fun value hidden => allows_ofNames names _⟩
  · intro name policy hpolicy s hname
    obtain rfl := hpolicy.eq_ofNames
    rw [allows_ofNames, decide_eq_false_iff_not, List.mem_singleton]
    exact fun hsame => hname (congrArg String.toList hsame)

/-- Names in any order, one of them twice, make the policy that a format spec reads from a list with
the same two. The empty text is a name as well, and makes another set. A name does not stand for
the same name in small letters, nor one character for a letter and its accent. -/
theorem listed_twice_stored_once :
    Canonical ["b", "a", "b"] ["a", "b"] ∧
    (∃ o, Spec.Accepts "*$ a,, b" o ∧ Alike (ofNames ["b", "a", "b"]) o.policy) ∧
    Apart (ofNames ["b", "a", "b"]) (ofNames ["a", "b", ""]) ∧
    (ofNames ["b", "a", "b"]).allows ⟨"value", "a", true⟩ = true ∧
    (ofNames ["MyName"]).allows ⟨"value", "myname", false⟩ = false ∧
    (ofNames ["\u00e9"]).allows ⟨"value", "e\u0301", false⟩ = false := by
  obtain ⟨hstored, hsame, hothers, hdecision, hdistinct⟩ := name_policies_are_sets
  have hmarker : '$' ∉ "*".toList := by decide
  have hlists : Spec.Lists " a,, b" ["a", "b"] := Spec.lists_iff.2 rfl
  have haccepted : Spec.Accepts ("*" ++ "$" ++ " a,, b") ⟨some "*", ofNames ["a", "b"]⟩ :=
    ((Spec.classified hmarker hlists).accepted _).2
      ⟨by decide, by decide +kernel, _, fun name => NameSet.mem_ofList, rfl⟩
  refine ⟨?_, ⟨_, haccepted, ?_⟩, ?_, ?_, ?_, ?_⟩
  · obtain ⟨set, hset, hcanonical⟩ := hstored ["b", "a", "b"] _ .alone
    obtain rfl := Policy.names.inj hset
    exact (hcanonical _).2 (by decide)
  · refine hsame _ _ _ _ .alone (.read hmarker hlists haccepted) fun name => ?_
    simp only [List.mem_cons, List.not_mem_nil, or_false]
    rw [or_left_comm, or_self]
  · exact hothers ["b", "a", "b"] ["a", "b", ""] _ _ .alone .alone ⟨"", by decide⟩
  · exact (hdecision _ _ .alone _).1.2 (by decide)
  · exact hdistinct "MyName" _ .alone _ (by decide)
  · exact hdistinct "\u00e9" _ .alone _ (by decide)

end Policy

end Redaction
