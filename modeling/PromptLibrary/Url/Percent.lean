import PromptLibrary.Encoding.Utf8
import PromptLibrary.Number.Integer
/-!
# Percent signs in addresses

A character that an address cannot hold is written by the bytes that it has in UTF-8, each by two
digits after a percent sign.
-/

namespace PromptLibrary.Url

/-- The characters that stand for themselves everywhere. -/
def isUnreserved (c : Char) : Bool :=
  c.isAlphanum || c = '-' || c = '.' || c = '_' || c = '~'

/-- A byte by its number. -/
def escapedByte (b : UInt8) : List Char :=
  '%' :: (Text.hexDigits 2 b.toNat).map Char.toUpper

/-- Escapes the characters that are neither unreserved nor safe. -/
def escape (isSafe : Char → Bool) (cs : List Char) : List Char :=
  cs.flatMap fun c =>
    if isUnreserved c || isSafe c then [c] else (Encoding.Utf8.encode [c]).flatMap escapedByte

/-- The bytes of a text in which percent signs stand before numbers of bytes. -/
def unescapedBytes : List Char → List UInt8
  | [] => []
  | '%' :: a :: b :: rest =>
    if Integer.isDigitOf 16 a && Integer.isDigitOf 16 b then
      UInt8.ofNat (Integer.ofAscii 16 [a, b]) :: unescapedBytes rest
    else Encoding.Utf8.encode ['%'] ++ unescapedBytes (a :: b :: rest)
  | c :: rest => Encoding.Utf8.encode [c] ++ unescapedBytes rest

/-- The text that an escaped text stands for. -/
def unescape (cs : List Char) : List Char :=
  Encoding.Utf8.decodeReplacing (unescapedBytes cs)

end PromptLibrary.Url
