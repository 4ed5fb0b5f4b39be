import PromptLibrary.Number.Shortest
import PromptLibrary.Value.Basic
/-!
# Displaying values

How a value is put into running text: a string as it is, anything else with brackets, quotes and
capitalised names.
-/

namespace PromptLibrary.Value

mutual

/-- A value with its quotes. -/
def shown : Value → List Char
  | null => "None".toList
  | bool b => (if b then "True" else "False").toList
  | int i => (ToString.toString i).toList
  | float x => x.text
  | string t => Text.quoted t
  | array items => '[' :: shownItems items ++ [']']
  | object members => '\x7b' :: shownMembers members ++ ['\x7d']

def shownItems : List Value → List Char
  | [] => []
  | [v] => v.shown
  | v :: rest => v.shown ++ ',' :: ' ' :: shownItems rest

def shownMembers : List (Text × Value) → List Char
  | [] => []
  | [(k, v)] => Text.quoted k ++ ':' :: ' ' :: v.shown
  | (k, v) :: rest => Text.quoted k ++ ':' :: ' ' :: v.shown ++ ',' :: ' ' :: shownMembers rest

end

/-- The text that stands for a value. -/
def display : Value → Text
  | string t => t
  | v => Text.ofChars v.shown

end PromptLibrary.Value
