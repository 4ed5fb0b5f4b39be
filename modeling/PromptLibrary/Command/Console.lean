import PromptLibrary.Analysis
import PromptLibrary.Command.Menu
import PromptLibrary.Conversion
/-!
# Consoles

A command works on files, on services and on a console, which has lines to read and takes output
and error messages. A command either ends with an exit code or is broken off by a failure that it
does not handle.
-/

namespace PromptLibrary.Command

/-- Everything that a command can change. -/
structure World where
  tree : Tree := {}
  exchange : Model.Exchange := {}
  /-- The lines that are still to be read. -/
  lines : List (List Char) := []
  output : Text := []
  errors : Text := []
  /-- What had been written when a line was asked for and there was none. -/
  pause : Option Text := none

/-- A failure that a command does not handle. -/
inductive Crash where
  | convert (e : ConvertError)
  | load (e : LoadError)
  | choice (e : BadNumber)
  | invalidEnvelope
  | call (e : Model.CallError)
  /-- A variable is to be set, but there is no pair that says how. -/
  | missingPair
  /-- The output would hold a surrogate half. -/
  | unprintable
  deriving DecidableEq, Repr

/-- What a command does. -/
abbrev Run (α : Type) := ExceptT Crash (StateM World) α

/-- Writes to the output. -/
def write (t : Text) : Run Unit :=
  if t.WellFormed then modify fun w => { w with output := w.output ++ t }
  else throw .unprintable

/-- Writes a line to the output. -/
def print (t : Text) : Run Unit :=
  write (t ++ [.char '\n'])

def printString (s : String) : Run Unit :=
  print (Text.ofString s)

/-- How an error message shows a code point: a surrogate half by its number. -/
def shownPoint : CodePoint → Text
  | .char c => [.char c]
  | p => Text.ofChars (Text.numberEscape p.toNat)

/-- Writes a line to the error messages. -/
def complain (t : Text) : Run Unit :=
  modify fun w => { w with errors := w.errors ++ t.flatMap shownPoint ++ [.char '\n'] }

/-- Tells about an error, and ends with the exit code for errors. -/
def failWith (message : Text) : Run Nat := do
  complain (Text.ofString "Error: " ++ message)
  return 1

/-- Notes that the lines have ended. -/
def noteEnd : Run Unit :=
  modify fun w => { w with pause := w.pause.or (some w.output) }

/-- Asks for a line. There is none when the input has ended. -/
def askLine (question : Text) : Run (Option (List Char)) := do
  write question
  let w ← get
  match w.lines with
  | [] =>
    noteEnd
    return none
  | line :: rest =>
    set { w with lines := rest }
    return some line

/-- The lines of an input; each ends with a line feed, but for the last one. -/
def linesOf (input : List Char) : List (List Char) :=
  let parts := Search.splitOn '\n' input
  if parts.getLast? = some [] then parts.dropLast else parts

/-- Carries out a change of files. -/
def changeFiles {ε α : Type} (action : ExceptT ε (StateM Tree) α) : Run (Except ε α) := do
  let w ← get
  let (result, tree) := action.run.run w.tree
  set { w with tree }
  return result

/-- Carries out calls of a service. -/
def useService {α : Type} (action : StateM Model.Exchange α) : Run α := do
  let w ← get
  let (result, exchange) := action.run w.exchange
  set { w with exchange }
  return result

end PromptLibrary.Command
