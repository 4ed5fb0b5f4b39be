import PromptLibrary.Encoding.Utf16
/-!
# UTF-32

Decoding of four-byte units in either byte order. A unit in the range of the surrogates stands for
a half.
-/

namespace PromptLibrary.Encoding.Utf32

open Utf16 (ByteOrder)

/-- The number that four bytes denote. -/
def word : ByteOrder → UInt8 → UInt8 → UInt8 → UInt8 → Nat
  | .little, a, b, c, d => ByteOrder.little.unit c d * 65536 + ByteOrder.little.unit a b
  | .big, a, b, c, d => ByteOrder.big.unit a b * 65536 + ByteOrder.big.unit c d

/-- Decodes bytes of which the first has the given position. -/
def decodeFrom (order : ByteOrder) (position : Nat) : List UInt8 → Except Malformed Text
  | [] => .ok []
  | a :: b :: c :: d :: rest =>
    match CodePoint.ofNat? (word order a b c d) with
    | some p => (decodeFrom order (position + 4) rest).map (p :: ·)
    | none => .error ⟨position, 4, "code point not in range(0x110000)"⟩
  | rest => .error ⟨position, rest.length, "truncated data"⟩

end PromptLibrary.Encoding.Utf32
