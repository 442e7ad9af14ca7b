import Redaction.Derivation.Run
import Redaction.Options.Form

/-!
# Showing values of derived types

A value of a derived type is shown through its composite: under a marker and a policy, under
options, under a format spec, and by its default text. Every way of showing a value builds the
composite anew, and so logs the warnings of its segments anew. Options are read before the
composite is built, so rejected options build nothing; a format spec is read by the composite, so
the warnings come before its rejection.

A type whose author writes the default text builds no composite for it.
-/

namespace Redaction.Derivation

/-- How a value is to be shown. -/
structure Request where
  marker : Option String := none
  policy : Policy := .nothing
  options : Option OptionsForm := none
  spec : Option String := none

/-- A composite with its renderings. -/
structure Shown where
  composite : Composite
  render : String
  renderSpec : Option (Except Spec.Error String)

/-- A value of a derived type, with its default text and all renderings that were asked for. -/
structure Presented where
  composite : Composite
  text : String
  render : String
  renderWith : Option (Except Spec.Error String)
  renderSpec : Option (Except Spec.Error String)

/-- Renders the composite that a run builds, with a single run. -/
def Request.show (q : Request) (build : Run Composite) : Run Shown := do
  let c ← build
  let bySpec ←
    match q.spec with
    | none => pure none
    | some spec => some <$> (c.renderSpec spec : Logged _)
  return ⟨c, c.render q.marker q.policy, bySpec⟩

/-- The text under options, if they are not rejected. -/
def renderWith (form : OptionsForm) (build : Run Composite) : Run (Except Spec.Error String) := do
  match ← (form.read : Logged _) with
  | .error e => return .error e
  | .ok o => do
    let c ← build
    return .ok (c.renderWith o)

/-- The text under a format spec, if it is not rejected. -/
def renderSpec (spec : String) (build : Run Composite) : Run (Except Spec.Error String) := do
  let c ← build
  (c.renderSpec spec : Logged _)

/-- The default text: that of the composite, unless the author of the type wrote another one. -/
def defaultText (own : Option String) (build : Run Composite) : Run String :=
  match own with
  | some text => pure text
  | none => Composite.display <$> build

/-- Shows a value in every way that was asked for, each with a run of its own. -/
def Request.present (q : Request) (own : Option String) (build : Run Composite) :
    Run Presented := do
  let c ← build
  let text ← defaultText own build
  let rendered ← (fun d => d.render q.marker q.policy) <$> build
  let byOptions ←
    match q.options with
    | none => pure none
    | some form => some <$> renderWith form build
  let bySpec ←
    match q.spec with
    | none => pure none
    | some spec => some <$> renderSpec spec build
  return ⟨c, text, rendered, byOptions, bySpec⟩

end Redaction.Derivation
