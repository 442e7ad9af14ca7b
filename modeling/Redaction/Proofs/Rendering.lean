import Redaction.Composable
import Redaction.Derivation.Showing
import Redaction.Proofs.Attribute.Compose
import Redaction.Proofs.Composite.Growth
import Redaction.Proofs.Derivation.Template
import Redaction.Proofs.Spec.Classification
import Redaction.Proofs.Text.JsonString
import Redaction.Sink

/-!
# One text on every route

Under a marker and a policy a composite has one text, and whichever way it leaves the program, this
is the text that leaves: as a whole, through options, through a view, as a composable value, as the
join of the parts, in serialized form, in a structured log, or written to a sink part by part.

The routes without options of their own carry the text without a marker that reveals nothing. The
routes that read a format spec carry the text of the options that it stands for, or its rejection.
-/

namespace Redaction

/-! ## Sinks -/

namespace Sink

variable {σ : Type} {sink : Sink σ} {marker : Option String} {policy : Policy}

/-- The sink does not notice where one text ends and the next one begins. -/
structure Lawful (sink : Sink σ) : Prop where
  write_empty : ∀ s, sink.write s "" = some s
  write_append : ∀ s t u,
    sink.write s (t ++ u) = (sink.write s t).bind fun next => sink.write next u

theorem lawful_buffer : buffer.Lawful where
  write_empty s := by simp [buffer]
  write_append s t u := by simp [buffer, String.append_assoc]

theorem lawful_json : json.Lawful where
  write_empty s := by simp [json]
  write_append s t u := by simp [json, String.append_assoc]

/-- Writing parts one by one is writing their rendering at once. -/
theorem Lawful.writeParts_eq (h : sink.Lawful) (s : σ) (parts : List Part) :
    sink.writeParts marker policy s parts = sink.write s (renderParts parts marker policy) := by
  induction parts generalizing s with
  | nil => rw [writeParts, renderParts_nil, h.write_empty]
  | cons p ps ih =>
      rw [writeParts, renderParts_cons, h.write_append]
      refine Option.bind_congr fun next _ => ?_
      exact ih next

end Sink

/-! ## Routes -/

/-- Every route on which the marker and the policy are given carries the text; the serialized form
is the JSON string of this text and of no other. -/
structure Composite.Carries (c : Composite) (marker : Option String) (policy : Policy)
    (text : String) : Prop where
  render : c.render marker policy = text
  renderWith : c.renderWith ⟨marker, policy⟩ = text
  composable : Composable.render c marker policy = text
  composableWith : Composable.renderWith c ⟨marker, policy⟩ = text
  join : Composite.join (c.parts.map Addend.part) marker policy = text
  display : (c.view ⟨marker, policy⟩).display = text
  serialize (other : String) :
    (c.view ⟨marker, policy⟩).serialize = Text.jsonString other ↔ other = text
  logEntry (key : String) : (c.view ⟨marker, policy⟩).logEntry key = (key, text)
  buffered : Sink.buffer.writeParts marker policy "" c.parts = some text
  escaped :
    (Sink.json.writeParts marker policy "" c.parts).map (fun inner => "\"" ++ inner ++ "\"") =
      some (Text.jsonString text)
  written {σ : Type} (sink : Sink σ) (lawful : sink.Lawful) (s : σ) :
    sink.writeParts marker policy s c.parts = sink.write s text

/-- Every route without options carries the text, and the serialized form this text alone. -/
structure Composite.ShownAs (c : Composite) (text : String) : Prop where
  display : c.display = text
  serialize (other : String) : c.serialize = Text.jsonString other ↔ other = text
  logEntry (key : String) : c.logEntry key = (key, text)

/-- The segment is shown on every route as the composite is. -/
structure Segment.ShownLike (s : Segment) (c : Composite) : Prop where
  toComposite : Composable.toComposite s = c
  render (marker : Option String) (policy : Policy) :
    Composable.render s marker policy = c.render marker policy
  renderWith (o : Options) : Composable.renderWith s o = c.renderWith o
  renderSpec (spec : String) : Composable.renderSpec s spec = c.renderSpec spec
  display : s.display = c.display
  serialize : s.serialize = c.serialize
  logEntry (key : String) : s.logEntry key = c.logEntry key

/-- The answer to a format spec: it is rejected for the same error as when the spec is read alone,
and then this one rejection is logged for debugging; otherwise the answer is the text under the
options that are read, and nothing is logged. -/
structure Composite.Answers (c : Composite) (spec : String)
    (answer : Logged (Except Spec.Error String)) : Prop where
  rejected (e : Spec.Error) : answer.value = .error e ↔ (Spec.read spec).value = .error e
  logged (e : Spec.Error) : answer.value = .error e →
    answer.events = [e.event] ∧ e.event.level = .debug
  accepted (o : Options) : (Spec.read spec).value = .ok o → answer = pure (.ok (c.renderWith o))

theorem Composite.carries_render (c : Composite) (marker : Option String) (policy : Policy) :
    c.Carries marker policy (c.render marker policy) where
  render := rfl
  renderWith := rfl
  composable := rfl
  composableWith := rfl
  join := by
    have hparts : (c.parts.map Addend.part).flatMap Addend.parts = c.parts := by
      rw [List.flatMap_map]
      exact List.flatMap_singleton' c.parts
    rw [Composite.join, Composite.render, Composite.parts_ofAddends, hparts, Composite.render]
  display := rfl
  serialize _ := Text.jsonString_inj.trans eq_comm
  logEntry _ := rfl
  buffered := by
    rw [Sink.lawful_buffer.writeParts_eq]
    exact congrArg some String.empty_append
  escaped := by
    rw [Sink.lawful_json.writeParts_eq, Text.jsonString_eq]
    exact congrArg (fun inner => some ("\"" ++ inner ++ "\"")) String.empty_append
  written _ lawful s := lawful.writeParts_eq s c.parts

theorem Composite.shownAs_render (c : Composite) : c.ShownAs (c.render none .nothing) where
  display := rfl
  serialize _ := Text.jsonString_inj.trans eq_comm
  logEntry _ := rfl

theorem Segment.shownLike_composite (s : Segment) : s.ShownLike ⟨[.segment s]⟩ := by
  have hcomposite : s.toComposite = ⟨[.segment s]⟩ :=
    Composite.ext_parts (Composite.parts_ofAddend (.segment s))
  have hdisplay : s.display = (⟨[.segment s]⟩ : Composite).display := by
    simp [Segment.display, Composite.display, Part.render, Segment.render]
  refine ⟨hcomposite, ?_, ?_, ?_, hdisplay, ?_, ?_⟩
  · intro marker policy
    exact congrArg (Composite.render · marker policy) hcomposite
  · intro o
    exact congrArg (Composite.renderWith · o) hcomposite
  · intro spec
    exact congrArg (Composite.renderSpec · spec) hcomposite
  · rw [Segment.serialize, Composite.serialize, hdisplay]
  · intro key
    rw [Segment.logEntry, Composite.logEntry, hdisplay]

/-- With every value revealed the marker does not count. -/
theorem Composite.plain_eq_render (c : Composite) (marker : Option String) :
    c.plain = c.render marker .everything := by
  have hpart : ∀ p : Part, p.plain = p.render marker .everything := by
    intro p
    cases p with
    | text t => rfl
    | segment s => exact (Segment.render_of_allows rfl marker).symm
  rw [Composite.plain, Composite.render_eq_join, List.map_congr_left fun p _ => hpart p]

theorem Composite.answers_renderSpec (c : Composite) (spec : String) :
    c.Answers spec (c.renderSpec spec) := by
  cases hparse : Spec.parse spec with
  | error e =>
      have hread : Spec.read spec = ⟨.error e, [e.event]⟩ := (Spec.rejects_iff.2 hparse).1
      have hanswer : c.renderSpec spec = ⟨.error e, [e.event]⟩ := by
        rw [Composite.renderSpec, hread]
        rfl
      rw [hanswer]
      refine ⟨?_, ?_, ?_⟩
      · intro e'
        rw [hread, Except.error.injEq, Except.error.injEq]
      · intro e' h
        cases h
        exact ⟨rfl, e.level_event⟩
      · intro o h
        rw [hread] at h
        cases h
  | ok o =>
      have hread : Spec.read spec = pure (.ok o) := Spec.read_eq_pure_of_parse hparse
      have hanswer : c.renderSpec spec = pure (.ok (c.renderWith o)) := by
        rw [Composite.renderSpec, hread]
        rfl
      rw [hanswer]
      refine ⟨?_, ?_, ?_⟩
      · intro e
        simp [hread]
      · intro e h
        cases h
      · intro o' h
        rw [hread] at h
        cases h
        rfl

/-! ## Derived types -/

namespace Derivation

/-- The default text is derived unless an attribute says that its author writes it. -/
theorem mem_interfaces_iff {d : Declaration} {derivation : Derivation}
    (accepted : ofDeclaration d = .ok derivation) :
    "::core::fmt::Display" ∈ derivation.interfaces ↔ ¬ Compose.Skips d.attributes := by
  simp only [ofDeclaration, bind_eq_ok, pure_eq_ok, mapError_eq_ok] at accepted
  obtain ⟨given, hgiven, branches, _, rfl⟩ := accepted
  rw [← (Compose.says_of_ofAttributes hgiven).skipDisplay, interfaces]
  cases given.skipDisplay <;> simp

/-- The default text that is derived is the one of the composite, with the same events. -/
theorem yields_defaultText_iff {run : Run Composite} {text : String} {events : List Event} :
    Yields (defaultText none run) text events ↔
      ∃ c, Yields run c events ∧ c.render none .nothing = text :=
  Yields.map_iff

end Derivation

/-- There is one text on every route: under a marker and a policy it is the rendering, without them
the one that has no marker and reveals nothing, and with every value revealed the plain text. A
segment is shown like the composite of nothing else. A format spec is answered as reading it alone
says, whether the composite is asked or the composable value. A type whose attributes do not ask to
skip the default text has one, which is that of the composite its values make; they make one unless
a captured field is displayed. -/
theorem every_route_carries_one_text :
    (∀ (c : Composite) marker policy, c.Carries marker policy (c.render marker policy)) ∧
    (∀ c : Composite, c.ShownAs (c.render none .nothing)) ∧
    (∀ s : Segment, s.ShownLike ⟨[.segment s]⟩) ∧
    (∀ (c : Composite) marker, c.plain = c.render marker .everything) ∧
    (∀ (c : Composite) spec, c.Answers spec (c.renderSpec spec) ∧
      c.Answers spec (Composable.renderSpec c spec)) ∧
    (∀ d derivation variant attributes fields (values : List Value),
      Derivation.ofDeclaration d = .ok derivation → ¬ Compose.Skips d.attributes →
      d.shape? variant = some (attributes, fields) → values.length = fields.entries.length →
      "::core::fmt::Display" ∈ derivation.interfaces ∧ ∀ testing,
      ∃ run, Derivation.compose d derivation ⟨variant, values⟩ testing = some run ∧
        ((∃ composite events, Yields run composite events) ↔
          ∃ pieces, Derivation.Templated attributes pieces ∧ fields.Displayable pieces) ∧
        ∀ text events, Yields (Derivation.defaultText none run) text events ↔
          ∃ composite, Yields run composite events ∧ composite.render none .nothing = text) := by
  refine ⟨Composite.carries_render, Composite.shownAs_render, Segment.shownLike_composite,
    Composite.plain_eq_render, ?_, ?_⟩
  · intro c spec
    exact ⟨c.answers_renderSpec spec, c.answers_renderSpec spec⟩
  · intro d derivation variant attributes fields values accepted noSkip shape complete
    refine ⟨(Derivation.mem_interfaces_iff accepted).2 noSkip, fun testing => ?_⟩
    obtain ⟨b, _, hbelongs, -, hcompose⟩ := Derivation.compose_of_accepted accepted shape
    exact ⟨_, hcompose testing values, hbelongs.exists_yields_iff testing complete,
      fun text events => Derivation.yields_defaultText_iff⟩

/-- A line with a hidden user is the same wherever it is written, an account has the default text of
its composite, and a spec with nothing behind its dollar sign is rejected for any of them. -/
theorem account_shown_on_every_route :
    Sink.buffer.writeParts (some "*") .nothing "" [.text "user=", .segment ⟨"eve", "user", false⟩] =
      some "user=*" ∧
    (∀ c : Composite, (Composable.renderSpec c "*$").events = [.specWithoutAllowList]) ∧
    ∃ derivation run composite events,
      Derivation.ofDeclaration Derivation.accountType = .ok derivation ∧
      "::core::fmt::Display" ∈ derivation.interfaces ∧
      Derivation.compose Derivation.accountType derivation ⟨none, Derivation.accountValues "1"⟩ =
        some run ∧
      Yields run composite events ∧
      Yields (Derivation.defaultText none run) (composite.render none .nothing) events := by
  obtain ⟨hcarries, _, _, _, hanswers, hderived⟩ := every_route_carries_one_text
  refine ⟨?_, ?_, ?_⟩
  · have hline := hcarries ⟨[.text "user=", .segment ⟨"eve", "user", false⟩]⟩ (some "*") .nothing
    rw [hline.buffered]
    decide
  · intro c
    have hanswer := (hanswers c "*$").2
    have hrejected := (hanswer.rejected .missingAllowList).2 rfl
    exact (hanswer.logged _ hrejected).1
  · have hskip : ¬ Compose.Skips Derivation.accountType.attributes := by
      unfold Compose.Skips
      decide
    obtain ⟨hdisplay, hruns⟩ :=
      hderived Derivation.accountType _ none _ Derivation.accountFields
        (Derivation.accountValues "1") rfl hskip rfl rfl
    obtain ⟨run, hrun, hends, htexts⟩ := hruns false
    obtain ⟨composite, events, hyields⟩ := hends.2
      ⟨_, ⟨_, ⟨_, rfl, rfl⟩, rfl⟩, Derivation.ordinary_accountFields.displayable _⟩
    exact ⟨_, run, composite, events, rfl, hdisplay, hrun, hyields,
      (htexts _ events).2 ⟨composite, hyields, rfl⟩⟩

end Redaction
