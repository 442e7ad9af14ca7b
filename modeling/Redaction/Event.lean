import Redaction.Text.Inspection

/-!
# Logged events

Two things are worth a line in the log: a segment is built under a name that no format spec can
list, and a format spec is rejected. The first is a warning, because the segment exists all the
same; the second is for debugging, because whoever wrote the spec also receives the error.
-/

namespace Redaction

/-- The advice that a segment of this name cannot be revealed by a format spec. -/
structure NameWarning where
  name : String
  deriving DecidableEq, Repr

/-- The wording of the advice. -/
def NameWarning.message (w : NameWarning) : String :=
  "segment name `" ++ w.name ++
    "` is not a valid identifier; it cannot be revealed through a format spec"

/-- The inspection of the advice. -/
def NameWarning.inspect (w : NameWarning) : Text.Inspection :=
  .record "IdentifierWarning" [("name", .text w.name)]

/-- How urgent an event is. -/
inductive Level where
  | warning
  | debug
  deriving DecidableEq, Repr

/-- Something that happened and is reported in the log. -/
inductive Event where
  | unlistableName (warning : NameWarning)
  | specWithoutAllowList
  | specWithoutNames (allowList : String)
  | specWithInvalidNames (names : List String)
  deriving DecidableEq, Repr

namespace Event

def level : Event → Level
  | .unlistableName _ => .warning
  | .specWithoutAllowList => .debug
  | .specWithoutNames _ => .debug
  | .specWithInvalidNames _ => .debug

/-- The line in the log. -/
def message : Event → String
  | .unlistableName w => w.message
  | .specWithoutAllowList => "format spec rejected: `$` without allowed names"
  | .specWithoutNames _ => "format spec rejected: no names left after filtering"
  | .specWithInvalidNames _ => "format spec rejected: invalid identifiers"

/-- The detail that is logged beside the message, under its key. -/
def detail? : Event → Option (String × String)
  | .unlistableName w => some ("name", w.name)
  | .specWithoutAllowList => none
  | .specWithoutNames allowList => some ("allow_list", allowList)
  | .specWithInvalidNames names =>
    some ("invalid", "[" ++ ", ".intercalate (names.map Text.quoted) ++ "]")

end Event

end Redaction
