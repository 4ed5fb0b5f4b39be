import PromptLibrary.Text.Digit
import PromptLibrary.Text.Letter
/-!
# Names

Bare names: keywords and the keys of objects.
-/

namespace PromptLibrary.Literal

def isNameStart (c : Char) : Bool :=
  Text.isLetter c || c = '_' || c = '$'

def isNamePart (c : Char) : Bool :=
  Text.isLetter c || Text.isNumeral c || c = '_' || c = '$'

/-- Whether a name would go on with this text. -/
def continuesName : List Char → Bool
  | [] => false
  | c :: _ => isNamePart c

end PromptLibrary.Literal
