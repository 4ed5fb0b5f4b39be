import PromptLibrary.Command.Run
import Std.Time.Format
/-!
# The program

Reads the environment, the files that a command line is about and the lines that it asks for, runs
the command, and writes what has changed. There is no network: each service is out of reach.
-/

namespace PromptLibrary.Main

open PromptLibrary.Command

/-- The text of a place as a path. -/
def placeText : Place → String
  | [] => "."
  | "/" :: rest => "/" ++ "/".intercalate rest
  | names => "/".intercalate names

/-- Takes one file or directory into a tree. -/
def take (t : Tree) (p : Path) : IO Tree := do
  match t.place p with
  | .error _ => return t
  | .ok place =>
    if Tree.isGround place then return t
    let path := placeText place
    try
      let found ← IO.FS.readBinFile path
      return t.set place (.file found.toList)
    catch
      | .noSuchThing .. => return t
      | .noFileOrDirectory .. => return t
      | .inappropriateType .. => return t.set place .directory
      | _ => return t

/-- Takes what lies along a path into a tree. -/
def takeAlong (t : Tree) (p : Path) : IO Tree :=
  (List.range p.parts.length).foldlM
    (fun t n => take t { p with parts := p.parts.take (n + 1) }) t

/-- Writes a file by way of a temporary file beside it. -/
def writeFile (token path : String) (content : List UInt8) : IO Unit := do
  let beside := s!"{path}.{token}.tmp"
  IO.FS.writeBinFile beside (ByteArray.mk content.toArray)
  IO.FS.rename beside path

/-- Writes what is new in a tree, in the order in which it came. -/
def writeChanges (token : String) (before after : Tree) : IO Unit :=
  after.entries.reverse.forM fun (place, entry) => do
    if before.get? place ≠ some entry then
      match entry with
      | .directory => IO.FS.createDirAll (placeText place)
      | .file content => writeFile token (placeText place) content

/-- A name part that no other file has: eight characters. -/
def freshToken : IO String := do
  let letters := "abcdefghijklmnopqrstuvwxyz0123456789_".toList
  let picks ← (List.range 8).mapM fun _ => IO.rand 0 36
  return String.ofList (picks.filterMap (letters[·]?))

/-- The time, in universal time. -/
def timeText : IO String := do
  let now ← Std.Time.Timestamp.now
  let plain := Std.Time.PlainDateTime.ofWallTime (now.toWallTime Std.Time.TimeZone.Offset.zero)
  return String.ofList (plain.toLeanDateTimeString.toList.take 26) ++ "+00:00"

/-- The variables of the environment that count. -/
def environment : IO (List (String × String)) :=
  Settings.names.filterMapM fun name => return (← IO.getEnv name).map (name, ·)

/--
Runs a command line with the lines that were read so far. When it asks for more, what it has
written is shown and one more line is read.
-/
partial def interact (env : Environment) (args : List String) (tree : Tree)
    (lines : List (List Char)) (shown : Nat) : IO (Outcome × World × Nat) := do
  let (outcome, w) := (runArguments env args).run { tree, lines }
  match w.pause with
  | none => return (outcome, w, shown)
  | some output =>
    IO.print (Text.asString (output.drop shown))
    (← IO.getStdout).flush
    let line ← (← IO.getStdin).getLine
    if line = "" then return (outcome, w, output.length)
    else interact env args tree (lines ++ linesOf line.toList) output.length

/-- What is said about a failure that ends the program. -/
def crashText : Crash → String
  | .convert e => e.message
  | .load e => e.message.asString
  | .choice e => Integer.malformedMessage e.line
  | .invalidEnvelope => "the result of the analysis is not valid"
  | .call e => e.message.asString
  | .missingPair => "a variable is to be set without a pair that says how"
  | .unprintable => "the output holds a surrogate half"

def usageText : String :=
  "usage: archkit [-h] [--templates TEMPLATES] [--verbose] " ++
    "\x7bconvert,list,render,analyze,models\x7d ..."

/-- Runs a command line, and gives the exit code. -/
def run (args : List String) : IO UInt32 := do
  match Settings.ofEnvironment (← environment) with
  | .error _ =>
    IO.eprintln "MAX_TOKENS is no integer"
    return 1
  | .ok settings =>
    let paths := match Request.ofArguments args with
      | .ok request => request.paths settings
      | .error _ => []
    let tree ← paths.foldlM takeAlong {}
    let token ← freshToken
    let env : Environment :=
      { settings, files := { token }, now := Text.ofString (← timeText) }
    let (outcome, w, shown) ← interact env args tree [] 0
    writeChanges token tree w.tree
    IO.print (Text.asString (w.output.drop shown))
    IO.eprint w.errors.asString
    match outcome with
    | .help =>
      IO.println usageText
      return 0
    | .usage =>
      IO.println usageText
      return 1
    | .badUsage =>
      IO.eprintln usageText
      return 2
    | .exit code => return code.toUInt32
    | .crash e =>
      IO.eprintln (crashText e)
      return 1

end PromptLibrary.Main

/-- The command line. -/
def main (args : List String) : IO UInt32 :=
  PromptLibrary.Main.run args
