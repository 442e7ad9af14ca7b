import Redaction.Rendering

/-!
# Sinks

A rendering is written part by part to whatever takes text: a buffer keeps every text as it comes,
and a JSON string under way escapes it. A sink may fail; then nothing more is written.
-/

namespace Redaction

/-- Takes a text after those it has taken before, or fails. -/
structure Sink (σ : Type) where
  write : σ → String → Option σ

namespace Sink

variable {σ : Type}

/-- A buffer never fails. -/
def buffer : Sink String := ⟨fun written t => some (written ++ t)⟩

/-- A JSON string without its quotes. -/
def json : Sink String :=
  ⟨fun written t => some (written ++ String.ofList (t.toList.flatMap Text.jsonChar))⟩

/-- Writes the texts of parts under a marker and a policy, one after another. -/
def writeParts (sink : Sink σ) (marker : Option String) (policy : Policy) :
    σ → List Part → Option σ
  | s, [] => some s
  | s, p :: ps => do
    let next ← sink.write s (p.render marker policy)
    sink.writeParts marker policy next ps

end Sink

end Redaction
