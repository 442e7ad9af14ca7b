import Mathlib.Data.List.Forall2
import Redaction.Rendering

/-!
# Similar composites

Two segments are similar if they differ in their values at most, and two composites are similar if
they agree part by part up to the values of segments. Whoever may see no value must not be able to
tell similar composites apart: their default texts, their inspections and everything that leaves
the program under a policy revealing nothing are equal.

A policy that reveals something may tell similar composites apart only where it reveals: if it
decides alike on both sides, and the values agree wherever it says yes, all renderings under it
are equal. A policy that goes by names always decides alike.
-/

namespace Redaction

/-- Lists related part by part have equal images under a function that respects the relation. -/
theorem map_eq_map_of_forall₂ {α β γ : Type} {R : α → β → Prop} {f : α → γ} {g : β → γ}
    (step : ∀ a b, R a b → f a = g b) {as : List α} {bs : List β} (h : List.Forall₂ R as bs) :
    as.map f = bs.map g := by
  have hmapped : List.Forall₂ (· = ·) (as.map f) (bs.map g) := by
    rw [List.forall₂_map_left_iff, List.forall₂_map_right_iff]
    exact h.imp step
  rwa [List.forall₂_eq_eq_eq] at hmapped

namespace Segment

/-- The segments agree in everything but their values. -/
structure Similar (s t : Segment) : Prop where
  name : s.name = t.name
  nameHidden : s.nameHidden = t.nameHidden

namespace Similar

variable {s t : Segment}

theorem placeholder (h : s.Similar t) : s.placeholder = t.placeholder := by
  rw [Segment.placeholder, Segment.placeholder, h.name, h.nameHidden]

theorem inspect (h : s.Similar t) : s.inspect = t.inspect := by
  simp only [Segment.inspect, Segment.inspectWith, h.placeholder, h.name, h.nameHidden]

theorem nameWarning? (h : s.Similar t) : s.nameWarning? = t.nameWarning? := by
  rw [Segment.nameWarning?, Segment.nameWarning?, h.name]

theorem hideNameIf (h : s.Similar t) (hidden : Bool) :
    (s.hideNameIf hidden).Similar (t.hideNameIf hidden) := by
  cases hidden with
  | false => exact h
  | true => exact ⟨h.name, rfl⟩

end Similar

end Segment

namespace Part

/-- Equal texts, or similar segments. -/
inductive Similar : Part → Part → Prop where
  | text (t : String) : Similar (.text t) (.text t)
  | segment {s t : Segment} (h : s.Similar t) : Similar (.segment s) (.segment t)

/-- Similar parts that a policy treats alike: it decides the same on both segments, and where it
reveals them their values are the same. -/
inductive AlikeUnder (policy : Policy) : Part → Part → Prop where
  | text (t : String) : AlikeUnder policy (.text t) (.text t)
  | segment {s t : Segment} (similar : s.Similar t) (decision : policy.allows s = policy.allows t)
      (value : policy.allows s = true → s.value = t.value) :
      AlikeUnder policy (.segment s) (.segment t)

theorem Similar.inspectWith {p q : Part} (h : p.Similar q) :
    p.inspectWith Segment.inspect = q.inspectWith Segment.inspect := by
  cases h with
  | text t => rfl
  | @segment s t h =>
      change Text.Inspection.call "Protected" [s.inspect] = .call "Protected" [t.inspect]
      rw [h.inspect]

/-- The segments of similar parts, where there are any, are similar. -/
theorem Similar.segment? {p q : Part} (h : p.Similar q) :
    Option.Rel Segment.Similar p.segment? q.segment? := by
  cases h with
  | text t => exact .none
  | segment h => exact .some h

/-- Nothing is revealed, so nothing needs to agree beyond similarity. -/
theorem Similar.alikeUnder_nothing {p q : Part} (h : p.Similar q) :
    p.AlikeUnder .nothing q := by
  cases h with
  | text t => exact .text t
  | segment h => exact .segment h rfl (fun revealed => by simp at revealed)

theorem AlikeUnder.similar {policy : Policy} {p q : Part} (h : p.AlikeUnder policy q) :
    p.Similar q := by
  cases h with
  | text t => exact .text t
  | segment similar _ _ => exact .segment similar

theorem AlikeUnder.render {policy : Policy} {p q : Part} (h : p.AlikeUnder policy q)
    (marker : Option String) : p.render marker policy = q.render marker policy := by
  cases h with
  | text t => rfl
  | @segment s t similar decision value =>
      change s.render marker policy = t.render marker policy
      simp only [Segment.render, ← decision, similar.placeholder]
      by_cases revealed : policy.allows s = true
      · rw [if_pos revealed, if_pos revealed, value revealed]
      · rw [if_neg revealed, if_neg revealed]

end Part

/-- Lists of parts that a policy treats alike render alike, with or without a marker. -/
theorem renderParts_eq_of_alikeUnder {policy : Policy} {ps qs : List Part}
    (h : List.Forall₂ (Part.AlikeUnder policy) ps qs) (marker : Option String) :
    renderParts ps marker policy = renderParts qs marker policy := by
  have htexts : ps.map (Part.render marker policy) = qs.map (Part.render marker policy) :=
    map_eq_map_of_forall₂ (fun _ _ alike => alike.render marker) h
  rw [renderParts, renderParts, htexts]

/-- The addends contribute equally many parts, and similar ones. -/
def Addend.Similar (x y : Addend) : Prop := List.Forall₂ Part.Similar x.parts y.parts

theorem Addend.Similar.text (t : String) : Addend.Similar (.text t) (.text t) :=
  .cons (.text t) .nil

theorem Addend.Similar.segment {s t : Segment} (h : s.Similar t) :
    Addend.Similar (.segment s) (.segment t) :=
  .cons (.segment h) .nil

namespace Composite

/-- The composites have equally many parts and agree part by part up to the values of segments. -/
def Similar (c d : Composite) : Prop := List.Forall₂ Part.Similar c.parts d.parts

/-- Similar composites whose parts a policy treats alike, one by one. -/
def AlikeUnder (policy : Policy) (c d : Composite) : Prop :=
  List.Forall₂ (Part.AlikeUnder policy) c.parts d.parts

/-- Everything that is shown of a composite and of its segments while their values are hidden:
the default texts, the inspections in both layouts, serialization and structured logging. -/
structure SameWhenHidden (c d : Composite) : Prop where
  display : c.display = d.display
  inspect : c.inspect = d.inspect
  inspectView (o : Options) : (c.view o).inspect = (d.view o).inspect
  serialize : c.serialize = d.serialize
  logEntry (key : String) : c.logEntry key = d.logEntry key
  displaySegments : c.segments.map Segment.display = d.segments.map Segment.display
  inspectSegments : c.segments.map Segment.inspect = d.segments.map Segment.inspect
  serializeSegments : c.segments.map Segment.serialize = d.segments.map Segment.serialize
  logSegments (key : String) :
    c.segments.map (Segment.logEntry · key) = d.segments.map (Segment.logEntry · key)

/-- Every rendering of a composite under given options. -/
structure SameUnder (o : Options) (c d : Composite) : Prop where
  render : c.render o.marker o.policy = d.render o.marker o.policy
  renderWith : c.renderWith o = d.renderWith o
  displayView : (c.view o).display = (d.view o).display
  serializeView : (c.view o).serialize = (d.view o).serialize
  logView (key : String) : (c.view o).logEntry key = (d.view o).logEntry key

theorem AlikeUnder.similar {policy : Policy} {c d : Composite} (h : c.AlikeUnder policy d) :
    c.Similar d :=
  h.imp fun _ _ part => part.similar

/-- All renderings under options are made of one text. -/
theorem SameUnder.of_renderParts {o : Options} {c d : Composite}
    (h : renderParts c.parts o.marker o.policy = renderParts d.parts o.marker o.policy) :
    SameUnder o c d := by
  have hview : (c.view o).display = (d.view o).display := h
  refine ⟨h, h, hview, ?_, ?_⟩
  · rw [View.serialize, View.serialize, hview]
  · intro key
    rw [View.logEntry, View.logEntry, hview]

theorem AlikeUnder.sameUnder {o : Options} {c d : Composite} (h : c.AlikeUnder o.policy d) :
    SameUnder o c d :=
  .of_renderParts (renderParts_eq_of_alikeUnder h o.marker)

namespace Similar

variable {c d : Composite}

theorem alikeUnder_nothing (h : c.Similar d) : c.AlikeUnder .nothing d :=
  h.imp fun _ _ part => part.alikeUnder_nothing

theorem display (h : c.Similar d) : c.display = d.display :=
  h.alikeUnder_nothing.sameUnder (o := {}) |>.render

theorem segments (h : c.Similar d) : List.Forall₂ Segment.Similar c.segments d.segments :=
  List.rel_filterMap (fun _ _ part => part.segment?) h

theorem inspectParts (h : c.Similar d) :
    c.parts.map (·.inspectWith Segment.inspect) = d.parts.map (·.inspectWith Segment.inspect) :=
  map_eq_map_of_forall₂ (fun _ _ part => part.inspectWith) h

theorem sameWhenHidden (h : c.Similar d) : SameWhenHidden c d where
  display := h.display
  inspect := by simp only [Composite.inspect, Composite.inspectWith, h.inspectParts]
  inspectView o := by simp only [View.inspect, Composite.view, h.inspectParts]
  serialize := by rw [Composite.serialize, Composite.serialize, h.display]
  logEntry key := by rw [Composite.logEntry, Composite.logEntry, h.display]
  displaySegments := map_eq_map_of_forall₂ (fun _ _ similar => similar.placeholder) h.segments
  inspectSegments := map_eq_map_of_forall₂ (fun _ _ similar => similar.inspect) h.segments
  serializeSegments :=
    map_eq_map_of_forall₂ (fun _ _ similar => congrArg Text.jsonString similar.placeholder)
      h.segments
  logSegments key :=
    map_eq_map_of_forall₂ (fun _ _ similar => congrArg (key, ·) similar.placeholder) h.segments

/-! Similarity is kept by every way of putting composites together. -/

theorem empty : Composite.empty.Similar Composite.empty := .nil

theorem push {p q : Part} (h : c.Similar d) (part : p.Similar q) :
    (c.push p).Similar (d.push q) :=
  List.rel_append h (.cons part .nil)

theorem concat {x y : Addend} (h : c.Similar d) (addend : x.Similar y) :
    (c.concat x).Similar (d.concat y) :=
  List.rel_append h addend

theorem extend {x y : Addend} (h : c.Similar d) (addend : x.Similar y) :
    (c.extend x).Similar (d.extend y) := by
  rw [Similar, parts_extend, parts_extend]
  exact List.rel_append h addend

theorem extendAll {xs ys : List Addend} (h : c.Similar d)
    (addends : List.Forall₂ Addend.Similar xs ys) :
    (xs.foldl Composite.extend c).Similar (ys.foldl Composite.extend d) := by
  induction addends generalizing c d with
  | nil => exact h
  | cons first _ ih => exact ih (h.extend first)

theorem ofAddends {xs ys : List Addend} (addends : List.Forall₂ Addend.Similar xs ys) :
    (Composite.ofAddends xs).Similar (Composite.ofAddends ys) :=
  empty.extendAll addends

theorem ofAddend {x y : Addend} (addend : x.Similar y) :
    (Composite.ofAddend x).Similar (Composite.ofAddend y) :=
  ofAddends (.cons addend .nil)

end Similar

end Composite

end Redaction
