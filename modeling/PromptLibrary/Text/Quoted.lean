import PromptLibrary.Text.CodePoint
import PromptLibrary.Text.Printable
/-!
# Quoted text

How messages show text: between single quotes, or between double quotes where that saves escaping
single ones. What cannot be printed is shown by its number.
-/

namespace PromptLibrary.Text

/-- The digits of `n` in base 16, at least `width` of them. -/
def hexDigits (width n : Nat) : List Char :=
  let digits := Nat.toDigits 16 n
  List.replicate (width - digits.length) '0' ++ digits

/-- A code point by number: two, four or eight digits. -/
def numberEscape (n : Nat) : List Char :=
  if n < 0x100 then '\\' :: 'x' :: hexDigits 2 n
  else if n < 0x10000 then '\\' :: 'u' :: hexDigits 4 n
  else '\\' :: 'U' :: hexDigits 8 n

/-- One code point inside quotes. -/
def quotedPoint (quote : Char) : CodePoint → List Char
  | .char '\t' => ['\\', 't']
  | .char '\n' => ['\\', 'n']
  | .char '\r' => ['\\', 'r']
  | .char c =>
    if c = quote || c = '\\' then ['\\', c]
    else if isPrintable c then [c]
    else numberEscape c.toNat
  | p => numberEscape p.toNat

/-- The quotes around a text: single ones, unless the text has single and no double ones. -/
def quoteFor (t : Text) : Char :=
  if .char '\'' ∈ t ∧ .char '"' ∉ t then '"' else '\''

/-- The text as messages quote it. -/
def quoted (t : Text) : List Char :=
  let quote := quoteFor t
  quote :: t.flatMap (quotedPoint quote) ++ [quote]

/-- A string as messages quote it. -/
def quotedString (cs : List Char) : String :=
  String.ofList (quoted (ofChars cs))

end PromptLibrary.Text
