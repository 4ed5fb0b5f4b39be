/-!
# UTF-8

Decoding by the byte sequences that the Unicode Standard calls well formed. A fault covers the
longest start of a sequence that could still have become a character.
-/

namespace PromptLibrary.Encoding

/-- Bytes that cannot be decoded: where they begin, how many they are, and why. -/
structure Malformed where
  position : Nat
  length : Nat
  reason : String
  deriving DecidableEq, Repr

namespace Utf8

/-- How many bytes follow the first byte of a longer sequence. -/
def tailCount? (first : Nat) : Option Nat :=
  if 0xC2 ≤ first ∧ first ≤ 0xDF then some 1
  else if 0xE0 ≤ first ∧ first ≤ 0xEF then some 2
  else if 0xF0 ≤ first ∧ first ≤ 0xF4 then some 3
  else none

/-- Whether a byte may be the second of a sequence with the given first byte. -/
def isSecond (first b : Nat) : Bool :=
  let low := if first = 0xE0 then 0xA0 else if first = 0xF0 then 0x90 else 0x80
  let high := if first = 0xED then 0x9F else if first = 0xF4 then 0x8F else 0xBF
  low ≤ b && b ≤ high

/-- Whether a byte may be the third or fourth of a sequence. -/
def isLater (b : Nat) : Bool :=
  0x80 ≤ b && b ≤ 0xBF

/-- The bytes at the front that may follow the given first byte, at most `count` of them. -/
def tail (first count : Nat) : List Nat → List Nat
  | [] => []
  | b :: rest =>
    if 0 < count ∧ isSecond first b then b :: (rest.take (count - 1)).takeWhile isLater else []

/-- The number that a sequence of bytes encodes. -/
def combine (first : Nat) (tail : List Nat) : Nat :=
  tail.foldl (fun n b => n * 64 + b % 64) (first % Nat.pow 2 (6 - tail.length))

/-- Decodes bytes of which the first has the given position. -/
def decodeFrom (position : Nat) : List Nat → Except Malformed (List Char)
  | [] => .ok []
  | b :: rest =>
    if b < 0x80 then (decodeFrom (position + 1) rest).map (Char.ofNat b :: ·)
    else match tailCount? b with
      | none => .error ⟨position, 1, "invalid start byte"⟩
      | some count =>
        let found := tail b count rest
        if found.length = count then
          (decodeFrom (position + 1 + count) (rest.drop count)).map
            (Char.ofNat (combine b found) :: ·)
        else if found.length = rest.length then
          .error ⟨position, 1 + found.length, "unexpected end of data"⟩
        else .error ⟨position, 1 + found.length, "invalid continuation byte"⟩
termination_by bytes => bytes.length
decreasing_by
  · exact Nat.lt_succ_self _
  · exact Nat.lt_succ_of_le (List.length_drop ▸ Nat.sub_le _ _)

def decode (bytes : List UInt8) : Except Malformed (List Char) :=
  decodeFrom 0 (bytes.map UInt8.toNat)

/-- Decodes bytes with one replacement character for each fault. -/
def replaceFaults : List Nat → List Char
  | [] => []
  | b :: rest =>
    if b < 0x80 then Char.ofNat b :: replaceFaults rest
    else
      let count := tailCount? b
      let found := tail b (count.getD 0) rest
      (if count = some found.length then Char.ofNat (combine b found) else '\uFFFD') ::
        replaceFaults (rest.drop found.length)
termination_by bytes => bytes.length
decreasing_by
  · exact Nat.lt_succ_self _
  · exact Nat.lt_succ_of_le (List.length_drop ▸ Nat.sub_le _ _)

/-- The text in bytes, with replacement characters where they are malformed. -/
def decodeReplacing (bytes : List UInt8) : List Char :=
  replaceFaults (bytes.map UInt8.toNat)

/-- The bytes of a text. -/
def encode (cs : List Char) : List UInt8 :=
  cs.flatMap String.utf8EncodeChar

end Utf8

end PromptLibrary.Encoding
