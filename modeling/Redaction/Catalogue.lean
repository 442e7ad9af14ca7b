import Redaction.Derivation.Showing

/-!
# A catalogue of declarations

Declarations that between them use every feature of derivations: names, positions and units, both
modes of formatting, repeated and renamed and hidden segments, escapes, documentation as template,
raw names, type parameters, and a default text of the author's own.
-/

namespace Redaction.Catalogue

/-- A declared type, the variant that its values belong to, how a request lists their fields, and
the default text where the author wrote one. -/
structure Entry where
  declaration : Declaration
  variant : Option String := none
  arrange : List Value → List Value := id
  ownText : Option String := none

/-- An attribute with a template. -/
def template (text : String) : Attribute := ⟨"compose", .list [.text text]⟩

/-- A line of documentation. -/
def doc (line : String) : Attribute := ⟨"doc", .value (.text line)⟩

/-- A protected field. -/
def secret : Field := { attributes := [⟨"protected", .bare⟩] }

/-- A protected field with options. -/
def secretWith (tokens : List Token) : Field := { attributes := [⟨"protected", .list tokens⟩] }

/-- The option that names a segment. -/
def rename (name : String) : List Token := [.word "name", .mark '=', .text name]

/-- A field with another type. -/
def ofType (field : Field) (type : TypeTerm) : Field := { field with type := type }

/-- A declaration without type parameters. -/
def plainStructure (name : String) (attributes : List Attribute) (fields : Fields) :
    Declaration :=
  ⟨name, attributes, [], .structure fields⟩

/-- The wrapper of a value of any type. -/
def wrapper : Declaration where
  name := "Wrapper"
  attributes := [template "value=\x7bvalue\x7d debug=\x7bvalue:?\x7d"]
  parameters := [.type "T" [] none]
  body := .structure (.named
    [("value", ofType secret (.named "T")),
      ("marker", { type := .applied "PhantomData" [.named "T"] })])

/-- The events of a session. -/
def event : Declaration where
  name := "Event"
  attributes := []
  parameters := []
  body := .enumeration
    [⟨"Login", [template "login \x7buser\x7d from \x7bip\x7d"],
        .named [("user", {}), ("ip", secret)]⟩,
      ⟨"Token", [template "token \x7b0\x7d"], .tuple [secretWith (rename "token")]⟩,
      ⟨"Shutdown", [doc " shutdown requested"], .unit⟩]

/-- The entry of a name. -/
def find? : String → Option Entry
  | "Login" => some {
      declaration := plainStructure "Login"
        [template "login user=\x7buser\x7d token=\x7btoken\x7d attempts=\x7battempts\x7d"]
        (.named [("user", {}), ("token", secret), ("attempts", { type := .named "i64" })]) }
  | "Transfer" => some {
      declaration := plainStructure "Transfer" [template "\x7b0\x7d -> \x7b1\x7d"]
        (.tuple [{}, secretWith (rename "account")]) }
  | "Id" => some {
      declaration := plainStructure "Id" [template "id \x7b\x7d"]
        (.tuple [ofType secret (.named "i64")]) }
  | "Credentials" => some {
      declaration := plainStructure "Credentials" [template "pw=\x7bpassword\x7d"]
        (.named [("password", secretWith [.word "hide_name"])]) }
  | "Tagged" => some {
      declaration := plainStructure "Tagged" [template "tags=\x7btags:?\x7d raw=\x7btags:?\x7d"]
        (.named [("tags", ofType secret (.applied "Vec" [.named "String"]))])
      arrange := fun values => [.list values] }
  | "WrapperInt" => some { declaration := wrapper, arrange := fun values => values ++ [.absent] }
  | "WrapperStr" => some { declaration := wrapper, arrange := fun values => values ++ [.absent] }
  | "Twice" => some {
      declaration := plainStructure "Twice" [template "\x7btoken\x7d then \x7btoken\x7d"]
        (.named [("token", secretWith (rename "bad name"))]) }
  | "Escaped" => some {
      declaration := plainStructure "Escaped" [template "\x7b\x7bliteral\x7d\x7d \x7btype\x7d"]
        (.named [("r#type", secret)]) }
  | "Quiet" => some {
      declaration := plainStructure "Quiet"
        [template "\x7b0\x7d", ⟨"compose", .list [.word "skip_display"]⟩] (.tuple [secret])
      ownText := some "quiet" }
  | "Mixed" => some {
      declaration := plainStructure "Mixed"
        [template "\x7b\x7d \x7b1:?\x7d \x7b0\x7d \x7b:?\x7d \x7b\x7d"]
        (.tuple [{}, secret,
          secretWith (rename "third" ++ [.mark ',', .word "hide_name"])]) }
  | "Session" => some {
      declaration := plainStructure "Session"
        [doc " session \x7bid\x7d opened", doc "   at \x7b\x7b\x7bplace\x7d\x7d\x7d"]
        (.named [("id", secret), ("place", {})]) }
  | "EventLogin" => some { declaration := event, variant := some "Login" }
  | "EventToken" => some { declaration := event, variant := some "Token" }
  | "EventShutdown" => some { declaration := event, variant := some "Shutdown" }
  | _ => none

/-- Shows a value of a declared type. There is nothing to show where the declaration has a fault
or no such value. -/
def Entry.present? (entry : Entry) (q : Derivation.Request) (values : List Value) :
    Option (Derivation.Run Derivation.Presented) := do
  let derivation ← (Derivation.ofDeclaration entry.declaration).toOption
  let build ← Derivation.compose entry.declaration derivation
    ⟨entry.variant, entry.arrange values⟩
  return q.present entry.ownText build

end Redaction.Catalogue
