import PromptLibrary.Encoding.Utf8
import PromptLibrary.Text.CodePoint
/-!
# UTF-16

Decoding of two-byte units in either byte order.
-/

namespace PromptLibrary.Encoding.Utf16

/-- The order of the two bytes of a unit. -/
inductive ByteOrder where
  | little
  | big
  deriving DecidableEq, Repr

def ByteOrder.unit : ByteOrder → UInt8 → UInt8 → Nat
  | little, a, b => b.toNat * 256 + a.toNat
  | big, a, b => a.toNat * 256 + b.toNat

/-- Decodes bytes of which the first has the given position. -/
def decodeFrom (order : ByteOrder) (position : Nat) : List UInt8 → Except Malformed (List Char)
  | [] => .ok []
  | [_] => .error ⟨position, 1, "truncated data"⟩
  | a :: b :: rest =>
    match CodePoint.ofNat? (order.unit a b) with
    | some (.char c) => (decodeFrom order (position + 2) rest).map (c :: ·)
    | some (.lead i) =>
      match rest with
      | c :: d :: more =>
        match CodePoint.ofNat? (order.unit c d) with
        | some (.trail j) =>
          (decodeFrom order (position + 4) more).map (surrogatePair i j :: ·)
        | _ => .error ⟨position, 2, "illegal UTF-16 surrogate"⟩
      | _ => .error ⟨position, 2 + rest.length, "unexpected end of data"⟩
    | _ => .error ⟨position, 2, "illegal encoding"⟩

/-- The units in bytes of which the first has the given position, each as a code point. -/
def unitsFrom (order : ByteOrder) (position : Nat) : List UInt8 → Except Malformed Text
  | [] => .ok []
  | [_] => .error ⟨position, 1, "truncated data"⟩
  | a :: b :: rest =>
    match CodePoint.ofNat? (order.unit a b) with
    | some p => (unitsFrom order (position + 2) rest).map (p :: ·)
    | none => .error ⟨position, 2, "illegal encoding"⟩

def decode (order : ByteOrder) (bytes : List UInt8) : Except Malformed (List Char) :=
  decodeFrom order 0 bytes

end PromptLibrary.Encoding.Utf16
