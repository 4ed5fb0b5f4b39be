/-!
# Scanning for a balanced literal

One pass over source text that knows quoting, backslashes and the depth of braces, and nothing
else of the language: comments and regular expressions are ordinary text to it.
-/

namespace PromptLibrary.Source

/-- The quotes that the scan is inside of. -/
inductive QuoteMode where
  | none
  | single
  | double
  | backtick
  deriving DecidableEq, Repr

namespace QuoteMode

def name : QuoteMode → String
  | none => "none"
  | single => "single"
  | double => "double"
  | backtick => "backtick"

/-- The quotes that a character opens or closes. -/
def of? : Char → Option QuoteMode
  | '\'' => some single
  | '"' => some double
  | '\x60' => some backtick
  | _ => Option.none

end QuoteMode

/-- Where the scan stands. -/
structure Scan where
  depth : Nat := 0
  /-- The greatest depth so far. -/
  deepest : Nat := 0
  quote : QuoteMode := .none
  /-- The next character follows a backslash and means nothing. -/
  escaped : Bool := false
  deriving DecidableEq, Repr

namespace Scan

/-- What one character does to the scan. -/
def step (s : Scan) (c : Char) : Scan :=
  if s.escaped then { s with escaped := false }
  else if c = '\\' then { s with escaped := true }
  else if s.quote ≠ .none then
    if QuoteMode.of? c = some s.quote then { s with quote := .none } else s
  else match QuoteMode.of? c with
    | some quote => { s with quote }
    | none =>
      if c = '\x7b' then { s with depth := s.depth + 1, deepest := max s.deepest (s.depth + 1) }
      else if c = '\x7d' then { s with depth := s.depth - 1 }
      else s

/--
Scans until no brace is open. The result is the state and the text there, or the state at the end
of the text if a brace is still open.
-/
def run (s : Scan) : List Char → Except Scan (Scan × List Char)
  | [] => .error s
  | c :: rest =>
    let next := s.step c
    if next.depth = 0 then .ok (next, rest) else run next rest

end Scan

end PromptLibrary.Source
