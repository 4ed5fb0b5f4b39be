import PromptLibrary.Json.Writer
/-!
# Writing JSON without blanks

The form in which documents are sent: nothing stands between the parts but commas and colons.
-/

namespace PromptLibrary.Json

mutual

/-- A value as a document without blanks. -/
def compact : Value → Text
  | .null => Text.ofString "null"
  | .bool b => Text.ofString (if b then "true" else "false")
  | .int i => Text.ofString (toString i)
  | .float x => Text.ofChars (writeDouble x)
  | .string t => writeString t
  | .array [] => Text.ofString "[]"
  | .array (v :: items) => .char '[' :: compact v ++ compactItems items
  | .object [] => Text.ofChars ['\x7b', '\x7d']
  | .object ((k, v) :: members) =>
    .char '\x7b' :: writeString k ++ .char ':' :: compact v ++ compactMembers members

/-- The items behind the first one, up to the closing bracket. -/
def compactItems : List Value → Text
  | [] => [.char ']']
  | v :: rest => .char ',' :: compact v ++ compactItems rest

/-- The members behind the first one, up to the closing brace. -/
def compactMembers : List (Text × Value) → Text
  | [] => [.char '\x7d']
  | (k, v) :: rest => .char ',' :: writeString k ++ .char ':' :: compact v ++ compactMembers rest

end

end PromptLibrary.Json
