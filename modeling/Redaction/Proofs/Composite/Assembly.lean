import Redaction.Proofs.Composite.Growth

/-!
# Assemblies

An assembly is a tree that says how a composite is put together: from what, in which order, by which
operations and in which brackets. Its leaves are texts, segments and parts, and the composite is
the leaves from left to right, whatever the operations and the brackets are.
-/

namespace Redaction

mutual

/-- A way to put a composite together. `concat` keeps the composite that it goes on from, `add` uses
it up, and `extend` makes it grow in place. -/
inductive Assembly where
  | empty
  | ofMaterial (x : Material)
  | ofMaterials (xs : List Material)
  | concat (base : Assembly) (x : Material)
  | add (base : Assembly) (x : Material)
  | segmentAdd (segment : Segment) (x : Material)
  | textAdd (text : String) (x : Material)
  | extend (base : Assembly) (x : Material)
  | extendAll (base : Assembly) (xs : List Material)
  | push (base : Assembly) (part : Part)
  | append (base : Assembly) (text name : String) (hidden : Bool)
  | copy (base : Assembly)

/-- What is added: a text, a segment, a part, or a composite that is itself put together. Who else
holds it makes no difference: a segment that other composites share is added like any other. -/
inductive Material where
  | text (text : String)
  | segment (segment : Segment)
  | part (part : Part)
  | composite (assembly : Assembly)

end

mutual

/-- Puts the composite together. -/
def Assembly.build : Assembly → Logged Composite
  | .empty => pure .empty
  | .ofMaterial x => Composite.ofAddend <$> x.build
  | .ofMaterials xs => Composite.ofAddends <$> Material.buildAll xs
  | .concat base x => do
    let c ← base.build
    let a ← x.build
    return c.concat a
  | .add base x => do
    let c ← base.build
    let a ← x.build
    return c + a
  | .segmentAdd segment x => do
    let a ← x.build
    return segment + a
  | .textAdd text x => do
    let a ← x.build
    return text + a
  | .extend base x => do
    let c ← base.build
    let a ← x.build
    return c.extend a
  | .extendAll base xs => do
    let c ← base.build
    let addends ← Material.buildAll xs
    return addends.foldl Composite.extend c
  | .push base part => do
    let c ← base.build
    return c.push part
  | .append base text name hidden => do
    let c ← base.build
    c.append text name hidden
  | .copy base => base.build

/-- Makes the addend. -/
def Material.build : Material → Logged Addend
  | .text text => pure (.text text)
  | .segment segment => pure (.segment segment)
  | .part part => pure (.part part)
  | .composite assembly => Addend.composite <$> assembly.build

/-- Makes addends from left to right. -/
def Material.buildAll : List Material → Logged (List Addend)
  | [] => pure []
  | x :: xs => do
    let a ← x.build
    let addends ← Material.buildAll xs
    return a :: addends

end

mutual

/-- The leaves of an assembly from left to right. What is appended under a name is a segment; what
is appended without a name is a text. -/
def Assembly.leaves : Assembly → List Part
  | .empty => []
  | .ofMaterial x => x.leaves
  | .ofMaterials xs => Material.allLeaves xs
  | .concat base x => base.leaves ++ x.leaves
  | .add base x => base.leaves ++ x.leaves
  | .segmentAdd segment x => .segment segment :: x.leaves
  | .textAdd text x => .text text :: x.leaves
  | .extend base x => base.leaves ++ x.leaves
  | .extendAll base xs => base.leaves ++ Material.allLeaves xs
  | .push base part => base.leaves ++ [part]
  | .append base text name hidden =>
    base.leaves ++ [if name = "" then .text text else .segment ⟨text, name, hidden⟩]
  | .copy base => base.leaves

/-- The leaves of what is added. -/
def Material.leaves : Material → List Part
  | .text text => [.text text]
  | .segment segment => [.segment segment]
  | .part part => [part]
  | .composite assembly => assembly.leaves

/-- The leaves of everything that is added. -/
def Material.allLeaves : List Material → List Part
  | [] => []
  | x :: xs => x.leaves ++ Material.allLeaves xs

end

/-! ## Composites are their leaves

One case for each operation: with the leaves of the operands known, it is what the operation does to
the parts. -/

mutual

theorem Assembly.parts_build : ∀ e : Assembly, e.build.value.parts = e.leaves
  | .empty => rfl
  | .ofMaterial x => by
      rw [Assembly.leaves, ← Material.parts_build x]
      exact Composite.parts_ofAddend x.build.value
  | .ofMaterials xs => by
      rw [Assembly.leaves, ← Material.parts_buildAll xs]
      exact Composite.parts_ofAddends (Material.buildAll xs).value
  | .concat base x => by
      rw [Assembly.leaves, ← Assembly.parts_build base, ← Material.parts_build x]
      exact Composite.parts_concat base.build.value x.build.value
  | .add base x => by
      rw [Assembly.leaves, ← Assembly.parts_build base, ← Material.parts_build x]
      exact Composite.parts_add base.build.value x.build.value
  | .segmentAdd segment x => by
      rw [Assembly.leaves, ← Material.parts_build x]
      exact Composite.parts_segment_add segment x.build.value
  | .textAdd text x => by
      rw [Assembly.leaves, ← Material.parts_build x]
      exact Composite.parts_text_add text x.build.value
  | .extend base x => by
      rw [Assembly.leaves, ← Assembly.parts_build base, ← Material.parts_build x]
      exact Composite.parts_extend base.build.value x.build.value
  | .extendAll base xs => by
      rw [Assembly.leaves, ← Assembly.parts_build base, ← Material.parts_buildAll xs]
      exact Composite.parts_foldl_extend (Material.buildAll xs).value base.build.value
  | .push base part => by
      rw [Assembly.leaves, ← Assembly.parts_build base]
      exact Composite.parts_push base.build.value part
  | .append base text name hidden => by
      rw [Assembly.leaves, ← Assembly.parts_build base]
      exact Composite.parts_append base.build.value text name hidden
  | .copy base => Assembly.parts_build base

theorem Material.parts_build : ∀ x : Material, x.build.value.parts = x.leaves
  | .text _ => rfl
  | .segment _ => rfl
  | .part _ => rfl
  | .composite assembly => Assembly.parts_build assembly

theorem Material.parts_buildAll :
    ∀ xs : List Material, (Material.buildAll xs).value.flatMap Addend.parts = Material.allLeaves xs
  | [] => rfl
  | x :: xs => by
      rw [Material.allLeaves, ← Material.parts_build x, ← Material.parts_buildAll xs]
      rfl

end

/-- The composite is the sequence of these parts, and all that is made of it is made of them in
order. -/
structure Composite.ConsistsOf (c : Composite) (ps : List Part) : Prop where
  parts : c.parts = ps
  render (marker : Option String) (policy : Policy) :
    c.render marker policy = String.join (ps.map (Part.render marker policy))
  plain : c.plain = String.join (ps.map Part.plain)
  segments : c.segments = ps.flatMap (·.segment?.toList)

theorem Composite.consistsOf_of_parts {c : Composite} {ps : List Part} (h : c.parts = ps) :
    c.ConsistsOf ps where
  parts := h
  render marker policy := by rw [c.render_eq_join, h]
  plain := by rw [Composite.plain, h]
  segments := by rw [Composite.segments, h, List.filterMap_eq_flatMap_toList]

/-- However a composite is put together, it consists of the leaves in order, so assemblies with the
same leaves make the same composite. Every operation keeps the parts that are there and adds those
of its operand, as many as the operand counts, and in a list of operands the counts add up.
Rendering operands without building their composite gives the texts of their leaves in order.
Brackets do not matter, and the composite without parts is neutral. Where texts are cut, and where
there are empty ones, changes no rendering. -/
theorem composite_consists_of_leaves :
    (∀ e : Assembly, e.build.value.ConsistsOf e.leaves) ∧
    (∀ e e' : Assembly, e.leaves = e'.leaves → e.build.value = e'.build.value) ∧
    (∀ (c : Composite) (x : Addend),
      c.GrownBy x (c.concat x) ∧ c.GrownBy x (c.extend x) ∧ c.GrownBy x (c + x)) ∧
    (∀ (c : Composite) (p : Part), c.GrownBy (.part p) (c.push p)) ∧
    (∀ xs : List Addend,
      (Composite.ofAddends xs).parts.length = (xs.map Addend.count).sum) ∧
    (∀ (xs : List Material) (marker : Option String) (policy : Policy),
      Composite.join (Material.buildAll xs).value marker policy =
        String.join ((Material.allLeaves xs).map (Part.render marker policy))) ∧
    (∀ (a b : Composite) (x : Addend),
      (a.concat b).concat x = a.concat (b.concat x) ∧
      Composite.empty.concat a = a ∧ a.concat Composite.empty = a) ∧
    (∀ e e' : Assembly, Part.SameButCuts e.leaves e'.leaves →
      e.build.value.display = e'.build.value.display ∧
      e.build.value.plain = e'.build.value.plain ∧
      ∀ o, e.build.value.SameUnder o e'.build.value) := by
  refine ⟨?_, ?_, ?_, ?_, ?_, ?_, ?_, ?_⟩
  · intro e
    exact Composite.consistsOf_of_parts e.parts_build
  · intro e e' hleaves
    apply Composite.ext_parts
    rw [e.parts_build, e'.parts_build, hleaves]
  · intro c x
    exact ⟨c.grownBy_concat x, c.grownBy_extend x, c.grownBy_add x⟩
  · intro c p
    exact c.grownBy_push p
  · intro xs
    exact Composite.length_ofAddends xs
  · intro xs marker policy
    rw [← Material.parts_buildAll xs, ← Composite.parts_ofAddends]
    rfl
  · intro a b x
    exact ⟨a.concat_assoc b x, a.empty_concat, a.concat_empty⟩
  · intro e e' hcuts
    rw [← e.parts_build, ← e'.parts_build] at hcuts
    have hsame := Composite.sameUnder_of_sameButCuts hcuts
    exact ⟨(hsame {}).render, Composite.plain_eq_of_sameButCuts hcuts, hsame⟩

namespace Assembly

/-- A text is added to a segment, and a password is appended to both. -/
def stepwise : Assembly :=
  .append (.segmentAdd ⟨"alice", "full name", false⟩ (.text " with ")) "hunter2" "pw" true

/-- The same leaves from a list of operands, the first of which grew from nothing. -/
def listed : Assembly :=
  .ofMaterials
    [.composite (.push (.push .empty (.segment ⟨"alice", "full name", false⟩)) (.text " with ")),
      .segment ⟨"hunter2", "pw", true⟩]

/-- The text between the segments is cut in two, and an empty one is appended. -/
def cut : Assembly :=
  .append
    (.add
      (.extendAll (.segmentAdd ⟨"alice", "full name", false⟩ (.text " wi"))
        [.text "th ", .part (.segment ⟨"hunter2", "pw", true⟩)])
      (.composite (.copy .empty))) "" "" true

end Assembly

/-- Three ways to put a line together: the first two make the same composite, and the third one
differs in its texts and in no rendering. -/
theorem stepwise_consists_of_leaves :
    Assembly.stepwise.build.value = Assembly.listed.build.value ∧
    Assembly.stepwise.build.value.SameUnder ⟨some "***", .ofNames ["pw"]⟩
      Assembly.cut.build.value := by
  have hcut : Part.SameButCuts Assembly.stepwise.leaves Assembly.cut.leaves := by
    refine .trans _ _ _ (.rel _ _ (.cut [_] [_] " wi" "th ")) (.rel _ _ ?_)
    exact .insert [_, _, _, _] []
  exact ⟨composite_consists_of_leaves.2.1 _ _ rfl,
    (composite_consists_of_leaves.2.2.2.2.2.2.2 _ _ hcut).2.2 _⟩

end Redaction
