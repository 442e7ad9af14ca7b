import Redaction.Options
import Redaction.Rendering
import Redaction.Text.Cut
import Redaction.Text.Trim

/-!
# Format specs

A format spec writes render options in one line: a marker, and after the first `$` the names to
reveal, separated by commas. Without a `$` the whole text is the marker and nothing is revealed.
An empty marker means none. Blanks around names and entries that hold only blanks are skipped; the
marker keeps its blanks.

A `$` promises names. A spec is rejected when nothing follows the `$`, when only blanks and commas
follow, or when some entry is not an identifier; in the last case all such entries are reported,
each once, in the order in which they first appear.
-/

namespace Redaction

namespace Spec

/-- Why a format spec is rejected. -/
inductive Error where
  | missingAllowList
  | noNames (allowList : String)
  | invalidNames (names : List String)
  deriving DecidableEq, Repr

namespace Error

/-- The wording of the rejection. -/
def message : Error → String
  | .missingAllowList => "format spec `$` requires allowed names"
  | .noNames _ => "no valid names provided after filtering"
  | .invalidNames names =>
    "invalid identifier(s) in allowed names: " ++ ", ".intercalate names

open Text in
/-- The inspection of the rejection. -/
def inspect : Error → Inspection
  | .missingAllowList => .verbatim "MissingAllowList"
  | .noNames _ => .verbatim "NoValidNames"
  | .invalidNames names => .record "InvalidIdentifiers" [("names", .list (names.map .text))]

/-- The event that reports the rejection. -/
def event : Error → Event
  | .missingAllowList => .specWithoutAllowList
  | .noNames allowList => .specWithoutNames allowList
  | .invalidNames names => .specWithInvalidNames names

end Error

/-- The entries of an allow-list, without surrounding blanks; blank entries are left out. -/
def entries (allowList : List Char) : List String :=
  (((allowList.splitOn ',').map Text.trim).filter (· ≠ [])).map String.ofList

/-- The names of an allow-list, the text after the `$`. -/
def parseAllowList (allowList : List Char) : Except Error NameSet :=
  if allowList = [] then .error .missingAllowList
  else
    let names := entries allowList
    let invalid := (names.filter fun name => !isIdentifier name).eraseDups
    if names = [] then .error (.noNames (String.ofList allowList))
    else if invalid ≠ [] then .error (.invalidNames invalid)
    else .ok (.ofList names)

/-- A marker as it is written: the empty text writes none. -/
def markerOf (written : List Char) : Option String :=
  if written = [] then none else some (String.ofList written)

/-- The options that a format spec writes. -/
def parse (spec : String) : Except Error Options :=
  match Text.cut '$' spec.toList with
  | none => .ok { marker := markerOf spec.toList, policy := .nothing }
  | some (marker, allowList) => do
    let names ← parseAllowList allowList
    return { marker := markerOf marker, policy := .names names }

/-- Reads a format spec. A rejection is logged. -/
def read (spec : String) : Logged (Except Error Options) :=
  match parse spec with
  | .ok options => pure (.ok options)
  | .error e => do
    Logged.emit e.event
    pure (.error e)

end Spec

/-- The text of a composite under the options of a format spec. -/
def Composite.renderSpec (c : Composite) (spec : String) : Logged (Except Spec.Error String) := do
  let options ← Spec.read spec
  return options.map c.renderWith

end Redaction
