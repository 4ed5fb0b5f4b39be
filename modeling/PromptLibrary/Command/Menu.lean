import PromptLibrary.Mapping
import PromptLibrary.Number.Integer
import PromptLibrary.Text.Search
/-!
# Menus

A template is chosen from a numbered list, by its number or by its key. Lines are read until one
of them chooses.
-/

namespace PromptLibrary.Command

/-- A line of digits that is no integer. -/
structure BadNumber where
  line : List Char
  cause : Integer.ReadError
  deriving DecidableEq, Repr

namespace Menu

/-- A number, filled up with blanks to three places. -/
def padded (n : Nat) : List Char :=
  let digits := Nat.toDigits 10 n
  List.replicate (3 - digits.length) ' ' ++ digits

/-- The numbered keys, from a number on. -/
def entriesFrom (n : Nat) : List Text → List Text
  | [] => []
  | key :: rest =>
    (Text.ofString "  " ++ Text.ofChars (padded n) ++ Text.ofString ". " ++ key) ::
      entriesFrom (n + 1) rest

/-- The lines that show a menu. -/
def lines (keys : List Text) : List Text :=
  Text.ofString s!"Select analysis template ({keys.length} available):" :: entriesFrom 1 keys

/-- What is asked before each line. -/
def question : Text := Text.ofString "Template: "

/-- What is said about a line that chooses nothing. -/
def advice (keys : List Text) : Text :=
  Text.ofString s!"Enter a number between 1 and {keys.length} or a template name."

/-- The key of a given number; the first one has the number 1. -/
def keyAt? (keys : List Text) (n : Int) : Option Text :=
  if 1 ≤ n then keys[n.toNat - 1]? else none

/-- The key that a line names. -/
def keyNamed? (keys : List Text) (line : List Char) : Option Text :=
  keys.find? (· = Text.ofChars line)

/-- The key that a line chooses, blanks around it aside. A number that is in the list goes first. -/
def choose (keys : List Text) (line : List Char) : Except BadNumber (Option Text) :=
  let choice := Search.trim Text.isWhiteSpace line
  if choice ≠ [] ∧ choice.all Text.isDigit then
    match Integer.read 10 choice with
    | .error cause => .error ⟨choice, cause⟩
    | .ok n =>
      match keyAt? keys n with
      | some key => .ok (some key)
      | none => .ok (keyNamed? keys choice)
  else .ok (keyNamed? keys choice)

/-- What came of asking. -/
structure Answer where
  /-- The key that was chosen; none if the lines ended first. -/
  key : Except BadNumber (Option Text)
  /-- How many lines chose nothing. -/
  refused : Nat
  /-- The lines that were not read. -/
  rest : List (List Char)

/-- Reads lines up to the first that chooses a key. -/
def ask (keys : List Text) : List (List Char) → Answer
  | [] => ⟨.ok none, 0, []⟩
  | line :: rest =>
    match choose keys line with
    | .ok none =>
      let later := ask keys rest
      { later with refused := later.refused + 1 }
    | chosen => ⟨chosen, 0, rest⟩

end Menu

end PromptLibrary.Command
