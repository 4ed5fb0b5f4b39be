import PromptLibrary.Number.Shortest
import PromptLibrary.Value.Basic
/-!
# Writing JSON

JSON with two spaces of indentation. Only quotes, backslashes and control characters are escaped.
-/

namespace PromptLibrary.Json

/-- One code point inside a JSON string. -/
def escaped : CodePoint → Text
  | .char c => Text.ofChars <|
    if c = '"' then ['\\', '"']
    else if c = '\\' then ['\\', '\\']
    else if c = '\n' then ['\\', 'n']
    else if c = '\r' then ['\\', 'r']
    else if c = '\t' then ['\\', 't']
    else if c = '\x08' then ['\\', 'b']
    else if c = '\x0c' then ['\\', 'f']
    else if c.toNat < 0x20 then '\\' :: 'u' :: Text.hexDigits 4 c.toNat
    else [c]
  | p => [p]

def writeString (t : Text) : Text :=
  .char '"' :: t.flatMap escaped ++ [.char '"']

def writeDouble (x : Double) : List Char :=
  if x.isNaN then "NaN".toList
  else if x.isFinite then x.text
  else if x.negative then "-Infinity".toList
  else "Infinity".toList

/-- A new line at a level of nesting. -/
def newLine (level : Nat) : Text :=
  Text.ofChars ('\n' :: List.replicate (2 * level) ' ')

mutual

/-- A value that stands `level` brackets deep. -/
def writeAt (level : Nat) : Value → Text
  | .null => Text.ofString "null"
  | .bool b => Text.ofString (if b then "true" else "false")
  | .int i => Text.ofString (toString i)
  | .float x => Text.ofChars (writeDouble x)
  | .string t => writeString t
  | .array [] => Text.ofString "[]"
  | .array (v :: items) =>
    .char '[' :: newLine (level + 1) ++ writeAt (level + 1) v ++ writeItems (level + 1) items ++
      newLine level ++ [.char ']']
  | .object [] => Text.ofChars ['\x7b', '\x7d']
  | .object ((k, v) :: members) =>
    .char '\x7b' :: newLine (level + 1) ++ writeString k ++ Text.ofString ": " ++
      writeAt (level + 1) v ++ writeMembers (level + 1) members ++ newLine level ++ [.char '\x7d']

def writeItems (level : Nat) : List Value → Text
  | [] => []
  | v :: rest => .char ',' :: newLine level ++ writeAt level v ++ writeItems level rest

def writeMembers (level : Nat) : List (Text × Value) → Text
  | [] => []
  | (k, v) :: rest =>
    .char ',' :: newLine level ++ writeString k ++ Text.ofString ": " ++ writeAt level v ++
      writeMembers level rest

end

/-- A value as a JSON document. -/
def write (v : Value) : Text :=
  writeAt 0 v

end PromptLibrary.Json
