import Redaction.Proofs.Derivation.Template
import Redaction.Proofs.Similarity

/-!
# Protected fields stay hidden

Values of a derived type that differ in protected fields alone cannot be told apart while nothing
is revealed. Where a policy reveals some names, only fields whose segments have such a name can
tell them apart.

Two runs are compared statement by statement. An expression that reads its own field reads values
that agree, or makes the text of a segment, which is hidden. A captured one reads a segment or the
composite, and these show placeholders to it, except in a program that is built for testing.
-/

namespace Redaction

open Redaction.Derivation (Arm Entity Memory Push Reference Statement)

namespace Fields

variable (fields : Fields)

/-- The values agree on the fields that are not protected. -/
def AgreeInPublic (vs ws : List Value) : Prop :=
  ∀ (index : Nat) name field, fields.entries[index]? = some (name, field) → ¬field.IsProtected →
    vs[index]? = ws[index]?

/-- The values agree on the protected fields whose segments have a name in the set. -/
def AgreeOn (set : NameSet) (vs ws : List Value) : Prop :=
  ∀ (index : Nat) name field, fields.entries[index]? = some (name, field) → field.IsProtected →
    field.segmentName name ∈ set → vs[index]? = ws[index]?

variable {fields} {vs ws : List Value}

/-- The memories of two runs on values of which the second replace the first, with a number of
segments: what has been built is treated alike by a policy that reveals these names. -/
structure BuiltAlike (set : NameSet) (vs ws : List Value) (bound : Nat) (left right : Memory) :
    Prop where
  valuesLeft : left.values = vs
  valuesRight : right.values = ws
  bound : left.segments.length = bound
  segments : List.Forall₂ (fun s t => (Part.segment s).AlikeUnder (.names set) (.segment t))
    left.segments right.segments
  composite : left.composite.AlikeUnder (.names set) right.composite

variable {pieces : List Template.Piece} {arm : Arm} {uses : List (Nat × Template.Mode)}
variable {set : NameSet} {position bound : Nat} {use : Nat × Template.Mode} {e : Entity}
variable {left right : Memory} {testing : Bool}

/-- What the body has introduced is inspected alike in both memories. -/
theorem BuiltAlike.content (h : BuiltAlike set vs ws bound left right)
    (before : e.BoundBefore bound) : ∃ c d, left.content? e = some c ∧ right.content? e = some d ∧
      ∀ mode, c.format? false mode = d.format? false mode := by
  cases e with
  | field index => cases before
  | segment position =>
      have hlt : position < left.segments.length := h.bound ▸ before
      have hs := List.getElem?_eq_getElem hlt
      obtain ⟨t, ht, halike⟩ := getElem?_of_forall₂ h.segments hs
      refine ⟨.segment _, .segment t, by rw [Memory.content?, hs]; rfl,
        by rw [Memory.content?, ht]; rfl, ?_⟩
      rintro (_ | _)
      · rfl
      · cases halike with
        | segment similar =>
            exact congrArg (some ∘ Text.Inspection.inline) similar.inspect
  | composite =>
      refine ⟨_, _, rfl, rfl, ?_⟩
      rintro (_ | _)
      · rfl
      · exact congrArg (some ∘ Text.Inspection.inline) h.composite.similar.sameWhenHidden.inspect

/-- The name of a field is formatted to the same text in both memories, if the values of the field
are the same. -/
theorem StandsFor.sameOutcome (stands : fields.StandsFor pieces bound use e)
    (alike : BuiltAlike set vs ws bound left right) {resolve? : String → Option Entity}
    {identifier : String} {v w : Value} (resolves : resolve? identifier = some e)
    (value : vs[use.1]? = some v) (value' : ws[use.1]? = some w)
    (own : testing = true → ¬ fields.Captured pieces use) :
    SameOutcome (fun t u => v = w → t = u) (left.format resolve? testing identifier use.2)
      (right.format resolve? testing identifier use.2) := by
  cases stands with
  | own =>
      rw [Memory.format_field resolves (alike.valuesLeft ▸ value),
        Memory.format_field resolves (alike.valuesRight ▸ value')]
      refine .ok ?_
      rintro rfl
      rfl
  | captured captured before =>
      obtain rfl : testing = false := by
        cases testing with
        | false => rfl
        | true => exact absurd captured (own rfl)
      obtain ⟨c, d, hc, hd, hformat⟩ := alike.content before
      rw [Memory.format, Memory.format, Memory.find_eq_ok resolves hc,
        Memory.find_eq_ok resolves hd]
      simp only [ok_bind, hformat]
      exact .refl (fun _ _ => rfl) _

/-- A binding makes segments of two texts that are treated alike, if the texts are the same where
the name is revealed. -/
theorem paired_build {b : Derivation.Binding} {t u : String}
    (same : b.name.getD "" ∈ set → t = u) :
    Logged.Paired (fun s s' => (Part.segment s).AlikeUnder (.names set) (.segment s'))
      (b.build t) (b.build u) := by
  rw [b.build_eq, b.build_eq]
  refine ⟨rfl, .segment ⟨rfl, rfl⟩ rfl fun revealed => same ?_⟩
  rwa [Policy.allows_names, decide_eq_true_eq] at revealed

/-- Pushing parts that are treated alike keeps two runs alike. -/
theorem BuiltAlike.push {i : Nat} {p : Push} {resolve? : String → Option Entity}
    (h : BuiltAlike set vs ws (min (uses.length + 1 + i) uses.length) left right)
    (parts : SameOutcome (Part.AlikeUnder (.names set)) (left.part resolve? testing p)
      (right.part resolve? testing p)) :
    PairedRuns (BuiltAlike set vs ws (min (uses.length + 1 + i + 1) uses.length))
      ((Statement.push p).run testing resolve? left)
      ((Statement.push p).run testing resolve? right) := by
  refine (PairedRuns.ofExcept parts).bind fun part part' hpart => .pure ?_
  refine ⟨h.valuesLeft, h.valuesRight, ?_, h.segments, ?_⟩
  · rw [h.bound]
    omega
  · exact List.rel_append h.composite (.cons hpart .nil)

/-- Every statement keeps two runs alike. -/
theorem BuiltAlike.step (completeLeft : vs.length = fields.entries.length)
    (completeRight : ws.length = fields.entries.length) (inPublic : fields.AgreeInPublic vs ws)
    (onNames : fields.AgreeOn set vs ws)
    (own : testing = true → ∀ i use, fields.RefersAt pieces i use → ¬ fields.Captured pieces use)
    {s : Statement} (written : fields.Written pieces arm uses position s)
    (h : BuiltAlike set vs ws (min position uses.length) left right) :
    PairedRuns (BuiltAlike set vs ws (min (position + 1) uses.length))
      (s.run testing (arm.resolve? fields.labels position) left)
      (s.run testing (arm.resolve? fields.labels position) right) := by
  cases written with
  | @bind _ use b e here asked binding resolves stands =>
      obtain ⟨i, refersAt, ⟨name, field, hentry, hfield⟩⟩ := asked
      obtain ⟨v, value⟩ := exists_of_refers completeLeft refersAt.choose_spec.2
      obtain ⟨w, value'⟩ := exists_of_refers completeRight refersAt.choose_spec.2
      have hlt := (List.getElem?_eq_some_iff.1 here).1
      rw [Nat.min_eq_left (Nat.le_of_lt hlt)] at h
      have hformat := stands.sameOutcome h resolves value value' fun t => own t i use refersAt
      rw [← Reference.mode_eq binding] at hformat
      have hname : b.name.getD "" = field.segmentName name := by
        rw [Reference.segmentName_eq binding, segmentNameAt, hentry]
      refine (PairedRuns.ofExcept hformat).bind fun t u htu => ?_
      have hsame : b.name.getD "" ∈ set → t = u := by
        intro revealed
        have hagree := onNames use.1 name field hentry hfield (hname ▸ revealed)
        rw [value, value', Option.some.injEq] at hagree
        exact htu hagree
      refine (PairedRuns.lift (paired_build hsame)).bind fun s s' hs => .pure ?_
      refine ⟨h.valuesLeft, h.valuesRight, ?_, List.rel_append h.segments (.cons hs .nil),
        h.composite⟩
      rw [List.length_append, h.bound, Nat.min_eq_left hlt]
      rfl
  | start =>
      refine .pure ⟨h.valuesLeft, h.valuesRight, ?_, h.segments, .nil⟩
      rw [h.bound, Nat.min_self, Nat.min_eq_right (Nat.le_succ _)]
  | literal piece => exact h.push (.ok (.text _))
  | @plain i key use name e piece refers plain resolves stands =>
      obtain ⟨v, value⟩ := exists_of_refers completeLeft refers
      obtain ⟨w, value'⟩ := exists_of_refers completeRight refers
      obtain ⟨⟨label, field⟩, hentry⟩ := exists_of_refers (Eq.refl fields.entries.length) refers
      have hagree := inPublic use.1 label field hentry fun hfield => plain ⟨_, _, hentry, hfield⟩
      rw [value, value', Option.some.injEq] at hagree
      have halike := h
      rw [Nat.min_eq_right (by omega)] at halike
      have hformat := stands.sameOutcome halike resolves value value'
        fun t => own t i use ⟨key, piece, refers⟩
      refine h.push (hformat.map fun t u htu => ?_)
      rw [htu hagree]
      exact .text u
  | @shared i position key use identifier piece refers secret here resolves =>
      have hbound := h.bound
      rw [Nat.min_eq_right (by omega)] at hbound
      have hlt : position < left.segments.length := hbound ▸ (List.getElem?_eq_some_iff.1 here).1
      have hs := List.getElem?_eq_getElem hlt
      obtain ⟨t, ht, halike⟩ := getElem?_of_forall₂ h.segments hs
      refine h.push ?_
      rw [Memory.part_segment resolves hs, Memory.part_segment resolves ht]
      exact .ok halike

end Fields

namespace Derivation

end Derivation

end Redaction
