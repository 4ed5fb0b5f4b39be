import PromptLibrary.Domain.Composition
import PromptLibrary.Domain.Direction
import PromptLibrary.Domain.Letter
import PromptLibrary.Domain.Punycode
/-!
# Domain names in any script

A domain name is a row of labels. Labels of other scripts are written in ASCII, after RFC 5891;
what is no label in the sense of that standard makes the whole name invalid.
-/

namespace PromptLibrary.Domain

/-- Hyphens stand at no end of a label, and not both third and fourth. -/
def hasHyphensRight (label : List Char) : Bool :=
  (label.drop 2).take 2 ≠ ['-', '-'] && label.head? ≠ some '-' && label.getLast? ≠ some '-'

/-- Whether a text is a label. -/
def isLabel (label : List Char) : Bool :=
  label ≠ [] && hasHyphensRight label && !label.head?.any isMark &&
    (Search.contexts label).all (fun (before, c, after) => isAllowedAt before c after) &&
    composed label = label && keepsDirection label

/-- What stands in front of labels that are written in ASCII. -/
def asciiPrefix : List Char := ['x', 'n', '-', '-']

/-- Whether a text in ASCII is a label, or stands for one. -/
def isAsciiLabel (text : List Char) : Bool :=
  match text.map Char.toLower with
  | 'x' :: 'n' :: '-' :: '-' :: written =>
    written ≠ [] && written.getLast? ≠ some '-' && (Punycode.decode? written).any isLabel
  | plain => isLabel plain

/-- The most characters of a label. -/
def labelLimit : Nat := 63

/-- A label in ASCII. -/
def asciiLabel? (label : List Char) : Option (List Char) :=
  let isAscii := label.all fun c => c.toNat < 0x80
  let text := if isAscii then label else asciiPrefix ++ Punycode.encode label
  if (if isAscii then isAsciiLabel label else isLabel label) ∧ text.length ≤ labelLimit then
    some text
  else none

/-- Whether a character parts labels. -/
def isDot (c : Char) : Bool :=
  c = '.' || c = '\u3002' || c = '\uFF0E' || c = '\uFF61'

/-- The most characters of a name, without a dot at its end. -/
def nameLimit : Nat := 253

/-- A domain name in ASCII. A dot at its end is kept. -/
def asciiName? (name : List Char) : Option (List Char) := do
  let labels := Search.splitOn '.' (name.map fun c => if isDot c then '.' else c)
  let hasEnd := labels.getLast? = some []
  let texts ← (if hasEnd then labels.dropLast else labels).mapM asciiLabel?
  let text := Search.joinWith ['.'] (if hasEnd then texts ++ [[]] else texts)
  if text.length ≤ nameLimit + (if hasEnd then 1 else 0) then some text else none

end PromptLibrary.Domain
