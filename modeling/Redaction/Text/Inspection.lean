import Redaction.Text.Quoted

/-!
# The inspection text of a value

A value shown for inspection has two layouts: inline, on one line, and spread, where every entry
of a structure has a line of its own. An entry of a spread structure stands four columns further
in than the structure and ends with a comma; structures without entries stay on one line.

An `Inspection` carries both layouts, and the layouts of a structure are made from those of its
entries, so a type says once how it is inspected.
-/

namespace Redaction.Text

/-- The inline and the spread layout of one value. -/
structure Inspection where
  inline : String
  spread : String
  deriving DecidableEq, Repr

/-- Every line of the text four columns further in. A line feed belongs to the line it ends. -/
def indentFrom (atLineStart : Bool) : List Char → List Char
  | [] => []
  | c :: cs => (if atLineStart then [' ', ' ', ' ', ' '] else []) ++ c :: indentFrom (c == '\n') cs

/-- A text with all its lines four columns further in. -/
def indented (s : String) : String := String.ofList (indentFrom true s.toList)

namespace Inspection

/-- A value that looks the same in both layouts. -/
def verbatim (s : String) : Inspection := ⟨s, s⟩

/-- A text in quotes. -/
def text (s : String) : Inspection := verbatim (quoted s)

/-- A truth value. -/
def flag (b : Bool) : Inspection := verbatim (if b then "true" else "false")

/-- The entries one per line between an opening and a closing line, or nothing between them. -/
def spreadOut (opening : String) (entries : List String) (closing : String) : String :=
  match entries with
  | [] => opening ++ closing
  | _ =>
    opening ++ "\n" ++ String.join (entries.map fun e => indented (e ++ ",\n")) ++ closing

/-- A name with its arguments in parentheses. -/
def call (name : String) (args : List Inspection) : Inspection where
  inline := name ++ "(" ++ ", ".intercalate (args.map (·.inline)) ++ ")"
  spread := spreadOut (name ++ "(") (args.map (·.spread)) ")"

/-- A name with labelled entries in braces. -/
def record (name : String) (entries : List (String × Inspection)) : Inspection where
  inline :=
    name ++ " \x7b " ++ ", ".intercalate (entries.map fun e => e.1 ++ ": " ++ e.2.inline) ++ " \x7d"
  spread := spreadOut (name ++ " \x7b") (entries.map fun e => e.1 ++ ": " ++ e.2.spread) "\x7d"

/-- Entries in square brackets. -/
def list (items : List Inspection) : Inspection where
  inline := "[" ++ ", ".intercalate (items.map (·.inline)) ++ "]"
  spread := spreadOut "[" (items.map (·.spread)) "]"

/-- Entries in braces. -/
def set (items : List Inspection) : Inspection where
  inline := "\x7b" ++ ", ".intercalate (items.map (·.inline)) ++ "\x7d"
  spread := spreadOut "\x7b" (items.map (·.spread)) "\x7d"

/-- A value that may be absent. -/
def optional : Option Inspection → Inspection
  | none => verbatim "None"
  | some i => call "Some" [i]

end Inspection

end Redaction.Text
