import PromptLibrary.Text.Blank
import PromptLibrary.Text.CodePoint
import PromptLibrary.Text.Search
/-!
# Options

The options of a variable stand between commas. The first one, without the blanks around it, is
the default.
-/

namespace PromptLibrary.Template

/-- The options as they are written, blanks included. -/
def splitOptions (raw : Text) : List Text :=
  Search.splitOn (.char ',') raw

/-- An option without the blanks around it. -/
def trimOption (option : Text) : Text :=
  Search.trim (fun p => Text.isTrimmed p.toNat) option

/-- The first of some options, trimmed; nothing if there is none. -/
def firstOption (options : List Text) : Text :=
  (options.head?.map trimOption).getD []

/-- The default of a variable. -/
def defaultOption (raw : Text) : Text :=
  firstOption (splitOptions raw)

end PromptLibrary.Template
