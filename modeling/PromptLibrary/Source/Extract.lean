import PromptLibrary.Source.Scan
import PromptLibrary.Text.Search
/-!
# Extracting a literal from source text

The literal assigned to a marker begins at the first brace after the first equals sign at or after
the marker's first occurrence, and ends where its braces balance.
-/

namespace PromptLibrary.Source

/-- Why no literal could be extracted. Offsets count characters of the source. -/
inductive ExtractError where
  | markerNotFound (marker : List Char)
  | assignmentNotFound (marker : List Char) (offset : Nat)
  | objectNotFound (offset : Nat)
  /-- The text ends while `depth` braces are open. -/
  | unbalanced (offset depth : Nat) (quote : QuoteMode)
  deriving DecidableEq, Repr

namespace ExtractError

/-- The offset that the error points at. -/
def offset : ExtractError → Nat
  | markerNotFound _ => 0
  | assignmentNotFound _ offset => offset
  | objectNotFound offset => offset
  | unbalanced offset _ _ => offset

/-- What is wrong, without the place. -/
def reason : ExtractError → String
  | markerNotFound marker => s!"Marker '{String.ofList marker}' not found in source"
  | assignmentNotFound marker _ => s!"No '=' found after marker '{String.ofList marker}'"
  | objectNotFound _ => "No '\x7b' found to start the object literal"
  | unbalanced _ depth quote =>
    let quoted :=
      if quote = .none then "" else s!", inside an unterminated {quote.name}-quoted string"
    s!"Could not balance braces: {depth} unclosed brace(s)" ++ quoted

def message (e : ExtractError) : String :=
  s!"{e.reason} (at offset {e.offset})"

end ExtractError

/-- A literal found in source text, with its place. -/
structure Extracted where
  text : List Char
  start : Nat
  stop : Nat
  /-- The deepest nesting of braces in the literal. -/
  deepest : Nat
  deriving DecidableEq, Repr

/-- The source from the opening brace of the literal on. -/
def fromLiteral (source marker : List Char) : Except ExtractError (List Char) :=
  match Search.fromFirst? marker source with
  | none => .error (.markerNotFound marker)
  | some fromMarker =>
    match Search.fromFirst? ['='] fromMarker with
    | none => .error (.assignmentNotFound marker (source.length - fromMarker.length))
    | some fromEquals =>
      match Search.fromFirst? ['\x7b'] fromEquals with
      | none => .error (.objectNotFound (source.length - fromEquals.length))
      | some fromBrace => .ok fromBrace

/-- The offset of the opening brace of the literal assigned to `marker`. -/
def locate (source marker : List Char) : Except ExtractError Nat :=
  (fromLiteral source marker).map fun rest => source.length - rest.length

/-- The balanced literal assigned to `marker`. -/
def extract (source marker : List Char) : Except ExtractError Extracted :=
  match fromLiteral source marker with
  | .error e => .error e
  | .ok rest =>
    let start := source.length - rest.length
    match Scan.run {} rest with
    | .error s => .error (.unbalanced start s.depth s.quote)
    | .ok (s, after) =>
      let length := rest.length - after.length
      .ok ⟨rest.take length, start, start + length, s.deepest⟩

end PromptLibrary.Source
