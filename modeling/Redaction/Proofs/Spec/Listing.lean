import Redaction.Proofs.Spec.RoundTrip
import Redaction.Segment.Form

/-!
# Names that format specs can list

A format spec reveals a segment if it is accepted and its options allow the segment. An accepted
spec lists identifiers only, and a dollar sign with an identifier after it is always accepted. So a
name other than the empty one can be listed by some spec or else carries a warning, and never both;
a segment without a name has no warning, although no spec reveals it.
-/

namespace Redaction

namespace Spec

/-- The spec is accepted, and its options allow the segment. -/
def Reveals (spec : String) (s : Segment) : Prop :=
  ∃ o, (read spec).value = .ok o ∧ o.policy.allows s = true

/-- What is revealed has an identifier for a name: a spec without a dollar sign reveals nothing,
and one with it lists identifiers. -/
theorem Reveals.isIdentifier {spec : String} {s : Segment} (h : Reveals spec s) :
    isIdentifier s.name = true := by
  obtain ⟨o, hread, hallowed⟩ := h
  rw [value_read] at hread
  obtain hpolicy | ⟨set, hpolicy, _, hidentifiers⟩ := (printable_of_parse hread).policy
  · rw [hpolicy, Policy.allows_nothing] at hallowed
    exact absurd hallowed Bool.false_ne_true
  · rw [hpolicy, Policy.allows_names, decide_eq_true_iff] at hallowed
    exact hidentifiers s.name hallowed

/-- Without a name there is nothing to list: the empty text is no identifier. -/
theorem not_reveals_of_unnamed {spec : String} {s : Segment} (unnamed : s.name = "") :
    ¬ Reveals spec s := by
  intro h
  have hidentifier := h.isIdentifier
  rw [unnamed] at hidentifier
  exact Identifier.ne_nil_of_accepts hidentifier rfl

/-- The options that reveal one name and show a marker, if there is one, for all others. -/
def listing (marker : Option String) (name : String) : Options := ⟨marker, .ofNames [name]⟩

/-- The options without a marker that reveal one name. -/
def only (name : String) : Options := ⟨none, .ofNames [name]⟩

theorem printable_listing {marker : Option String} {name : String}
    (hmarker : ∀ m, marker = some m → m ≠ "" ∧ '$' ∉ m.toList) (h : isIdentifier name = true) :
    (listing marker name).Printable := by
  refine ⟨hmarker, .inr ⟨.ofList [name], rfl, ?_, ?_⟩⟩
  · intro hempty
    have hmem : name ∈ NameSet.ofList [name] := NameSet.mem_ofList.2 (List.mem_singleton.2 rfl)
    rw [hempty] at hmem
    exact NameSet.not_mem_empty hmem
  · intro other hother
    rw [NameSet.mem_ofList, List.mem_singleton] at hother
    rw [hother]
    exact h

/-- A marker, a dollar sign and a name write the options that reveal this name. -/
theorem writes_listing (marker : Option String) (name : String) :
    Writes (listing marker name) (marker.getD "" ++ "$" ++ name) := by
  have hwritten : Writes (listing marker name) _ :=
    .withNames marker (.ofList [name]) [Entry.plain name] (by
      intro other
      rw [NameSet.mem_ofList]
      rfl)
  have hlist : String.ofList (allowList [Entry.plain name]) = name := by
    rw [allowList, List.map_singleton, text_plain, List.intercalate_singleton, String.ofList_toList]
  rwa [hlist] at hwritten

/-- A text without a dollar sign, a dollar sign and an identifier are read as the marker and the
name. -/
theorem read_listing {marker name : String} (free : '$' ∉ marker.toList)
    (h : isIdentifier name = true) :
    read (marker ++ "$" ++ name) = pure (.ok (listing (markerOf marker.toList) name)) := by
  have hmarker : ∀ m, markerOf marker.toList = some m → m ≠ "" ∧ '$' ∉ m.toList := by
    intro m hm
    obtain ⟨hne, hchars⟩ := markerOf_eq_some_iff.1 hm
    exact ⟨hne, hchars ▸ free⟩
  have hwritten := writes_listing (markerOf marker.toList) name
  have htext : (markerOf marker.toList).getD "" = marker := by
    rw [markerOf]
    split
    next hnil => exact (String.toList_inj.1 hnil).symm
    next => exact String.ofList_toList
  rw [htext] at hwritten
  exact read_eq_pure_of_parse (hwritten.parse_eq (printable_listing hmarker h))

theorem read_dollar {name : String} (h : isIdentifier name = true) :
    read ("$" ++ name) = pure (.ok (only name)) := by
  rw [← String.empty_append (s := "$")]
  exact read_listing (by simp) h

theorem allows_only (value name : String) (hidden : Bool) :
    (only name).policy.allows ⟨value, name, hidden⟩ = true := by
  rw [only, Policy.allows_ofNames, decide_eq_true_iff]
  exact List.mem_singleton.2 rfl

/-- An identifier after a dollar sign reveals the segments of this name, whatever they hold and
whether or not they show the name. -/
theorem reveals_dollar {name : String} (h : Redaction.isIdentifier name = true) (value : String)
    (hidden : Bool) : Reveals ("$" ++ name) ⟨value, name, hidden⟩ :=
  ⟨only name, by rw [read_dollar h]; rfl, allows_only value name hidden⟩

/-- What a revealed segment looks like is its value. -/
theorem renderSpec_dollar {name : String} (h : Redaction.isIdentifier name = true) (value : String)
    (hidden : Bool) :
    (Segment.toComposite ⟨value, name, hidden⟩).renderSpec ("$" ++ name) = pure (.ok value) := by
  have hparts : (Segment.toComposite ⟨value, name, hidden⟩).parts =
      [.segment ⟨value, name, hidden⟩] := Composite.parts_ofAddend _
  have htext : (Segment.toComposite ⟨value, name, hidden⟩).renderWith (only name) = value := by
    rw [Composite.renderWith, Composite.render, hparts, renderParts_cons, renderParts_nil,
      Part.render, Segment.render_of_allows (allows_only value name hidden), String.append_empty]
  rw [Composite.renderSpec, read_dollar h, pure_bind]
  exact congrArg (fun text => (pure (.ok text) : Logged (Except Error String))) htext

/-- The warning about a name says exactly that no format spec reveals the segment. A segment under
a name is revealed by some spec if and only if the name is an identifier, and then a dollar sign
with the name reveals it and shows its value, whatever the value is and whether or not the name is
hidden. A segment built without a name, or under the empty one, has no warning, and no spec reveals
it. -/
theorem nameWarning?_isSome_iff_not_revealed :
    (∀ s : Segment, s.name ≠ "" →
      (s.nameWarning?.isSome = true ↔ ¬ ∃ spec, Reveals spec s) ∧
      ((∃ spec, Reveals spec s) ↔ isIdentifier s.name = true) ∧
      (isIdentifier s.name = true → ∀ value hidden,
        Reveals ("$" ++ s.name) ⟨value, s.name, hidden⟩ ∧
        (Segment.toComposite ⟨value, s.name, hidden⟩).renderSpec ("$" ++ s.name) =
          pure (.ok value))) ∧
    (∀ form : SegmentForm, form.name = none ∨ form.name = some "" →
      form.build.value.nameWarning? = none ∧ ¬ ∃ spec, Reveals spec form.build.value) := by
  refine ⟨?_, ?_⟩
  · intro s named
    have hrevealed : (∃ spec, Reveals spec s) ↔ isIdentifier s.name = true := by
      constructor
      · rintro ⟨spec, h⟩
        exact h.isIdentifier
      · intro identifier
        exact ⟨_, reveals_dollar identifier s.value s.nameHidden⟩
    refine ⟨?_, hrevealed, ?_⟩
    · rw [Segment.nameWarning?_isSome_iff named, hrevealed]
    · intro identifier value hidden
      exact ⟨reveals_dollar identifier value hidden, renderSpec_dollar identifier value hidden⟩
  · intro form hform
    have unnamed : form.build.value.name = "" := by
      rw [SegmentForm.value_build]
      obtain hname | hname := hform <;> rw [hname] <;> rfl
    refine ⟨Segment.nameWarning?_eq_none unnamed, ?_⟩
    rintro ⟨spec, h⟩
    exact not_reveals_of_unnamed unnamed h

/-- No spec reveals the name of a login that has a blank in it, and its warning says so; the hidden
name of a password is listed without one; an account without a name cannot be listed at all. -/
theorem full_name_not_revealed :
    ((⟨"alice", "full name", false⟩ : Segment).nameWarning?.isSome = true ∧
      ¬ ∃ spec, Reveals spec ⟨"alice", "full name", false⟩) ∧
    (Reveals "$pässword" ⟨"hunter2", "pässword", true⟩ ∧
      (⟨"hunter2", "pässword", true⟩ : Segment).nameWarning?.isSome ≠ true) ∧
    ¬ ∃ spec, Reveals spec (SegmentForm.build ⟨"42", some "", true⟩).value := by
  have hname := nameWarning?_isSome_iff_not_revealed.1 ⟨"alice", "full name", false⟩ (by decide)
  have hpassword := nameWarning?_isSome_iff_not_revealed.1 ⟨"hunter2", "pässword", true⟩ (by decide)
  have hidentifier : isIdentifier "pässword" = true := by decide +kernel
  have hreveals := (hpassword.2.2 hidentifier "hunter2" true).1
  refine ⟨?_, ⟨hreveals, ?_⟩, ?_⟩
  · have hwarned : (⟨"alice", "full name", false⟩ : Segment).nameWarning?.isSome = true := by
      decide +kernel
    exact ⟨hwarned, hname.1.1 hwarned⟩
  · intro hwarned
    exact hpassword.1.1 hwarned ⟨_, hreveals⟩
  · exact (nameWarning?_isSome_iff_not_revealed.2 ⟨"42", some "", true⟩ (.inr rfl)).2

end Spec

end Redaction
