import PromptLibrary.Text.Search
/-!
# Punycode

Labels in ASCII, after RFC 3492. The ASCII characters of a label come first. The others follow by
rising number, each as the distance from the one before it: how many numbers and places lie in
between. A distance is written to the base 36, with a last digit that is small enough to be known
as the last; how small depends on the distances so far.
-/

namespace PromptLibrary.Domain.Punycode

/-- A digit to the base 36: letters, then decimal digits. -/
def digitChar (d : Nat) : Char :=
  if d < 26 then Char.ofNat ('a'.toNat + d) else Char.ofNat ('0'.toNat + (d - 26))

def digitValue? (c : Char) : Option Nat :=
  if 'a' ≤ c ∧ c ≤ 'z' then some (c.toNat - 'a'.toNat)
  else if 'A' ≤ c ∧ c ≤ 'Z' then some (c.toNat - 'A'.toNat)
  else if '0' ≤ c ∧ c ≤ '9' then some (c.toNat - '0'.toNat + 26)
  else none

/-- Below this, the digit of weight `k` is the last one. -/
def threshold (k bias : Nat) : Nat :=
  max 1 (min 26 (k - bias))

/-- Divides a distance until it is small, and counts on `k` for each division. -/
def settle (k delta : Nat) : Nat :=
  if 455 < delta then settle (k + 36) (delta / 35) else k + 36 * delta / (delta + 38)
termination_by delta
decreasing_by exact Nat.div_lt_self (by omega) (by omega)

/-- The bias after a distance, when there are `count` characters. -/
def adapt (delta count : Nat) (isFirst : Bool) : Nat :=
  let d := if isFirst then delta / 700 else delta / 2
  settle 0 (d + d / count)

/-- The bias before the first distance. -/
def firstBias : Nat := 72

/-! ## Writing -/

theorem rest_lt (k bias : Nat) {q : Nat} (h : ¬q < threshold k bias) :
    (q - threshold k bias) / (36 - threshold k bias) < q := by
  have ht : 1 ≤ threshold k bias := Nat.le_max_left 1 _
  exact Nat.lt_of_le_of_lt (Nat.div_le_self _ _) (by omega)

/-- The digits of a distance, the least first. -/
def digits (bias k q : Nat) : List Char :=
  let t := threshold k bias
  if q < t then [digitChar q]
  else digitChar (t + (q - t) % (36 - t)) :: digits bias (k + 36) ((q - t) / (36 - t))
termination_by q
decreasing_by exact rest_lt k bias ‹_›

/-- How far a label is written. -/
structure Writing where
  text : List Char
  delta : Nat
  bias : Nat
  /-- How many characters are written. -/
  count : Nat

/-- Goes on by one character of the label, while those of number `n` are written. -/
def Writing.pass (isFirst : Nat → Bool) (n : Nat) (w : Writing) (c : Char) : Writing :=
  if c.toNat < n then { w with delta := w.delta + 1 }
  else if c.toNat = n then
    { text := w.text ++ digits w.bias 36 w.delta
      delta := 0
      bias := adapt w.delta (w.count + 1) (isFirst w.count)
      count := w.count + 1 }
  else w

/-- Writes the characters of the given numbers, which rise from `next`. -/
def writeNumbers (label : List Char) (basic : Nat) : (next : Nat) → List Nat → Writing → Writing
  | _, [], w => w
  | next, n :: rest, w =>
    let w := { w with delta := w.delta + (n - next) * (w.count + 1) }
    let w := label.foldl (Writing.pass (· = basic) n) w
    writeNumbers label basic (n + 1) rest { w with delta := w.delta + 1 }

/-- The label in ASCII. -/
def encode (label : List Char) : List Char :=
  let basic := label.filter fun c => c.toNat < 0x80
  let numbers := (label.map Char.toNat).filter (0x80 ≤ ·)
  let rising := (numbers.mergeSort (· ≤ ·)).eraseDups
  let start : Writing := ⟨[], 0, firstBias, basic.length⟩
  basic ++ (if basic.isEmpty then [] else ['-']) ++
    (writeNumbers label basic.length 0x80 rising start).text

/-! ## Reading -/

/-- A distance at the front of a text, of which the digits so far make `sum`. -/
def readNumber? (bias k weight sum : Nat) : List Char → Option (Nat × List Char)
  | [] => none
  | c :: rest =>
    match digitValue? c with
    | none => none
    | some d =>
      let t := threshold k bias
      if d < t then some (sum + d * weight, rest)
      else readNumber? bias (k + 36) (weight * (36 - t)) (sum + d * weight) rest

theorem length_readNumber_lt {bias k weight sum : Nat} {s r : List Char} {n : Nat}
    (h : readNumber? bias k weight sum s = some (n, r)) : r.length < s.length := by
  fun_induction readNumber? bias k weight sum s <;> grind

/-- The character of a number; there is none for a surrogate half. -/
def charOf? (n : Nat) : Option Char :=
  if n < 0xD800 ∨ (0xDFFF < n ∧ n < 0x110000) then some (Char.ofNat n) else none

/-- Puts characters into a label, the first of them at the number `n` and the place `i`. -/
def readNumbers? (bias n i : Nat) (isFirst : Bool) (label : List Char) :
    List Char → Option (List Char)
  | [] => some label
  | c :: rest =>
    match _h : readNumber? bias 36 1 0 (c :: rest) with
    | none => none
    | some (delta, more) =>
      let count := label.length + 1
      let next := n + (i + delta) / count
      let place := (i + delta) % count
      match charOf? next with
      | none => none
      | some d =>
        readNumbers? (adapt delta count isFirst) next (place + 1) false
          (label.take place ++ d :: label.drop place) more
termination_by s => s.length
decreasing_by exact length_readNumber_lt _h

/-- The label that a text in ASCII stands for. -/
def decode? (text : List Char) : Option (List Char) :=
  let (basic, extended) := (Search.cutLast? '-' text).getD ([], text)
  readNumbers? firstBias 0x80 0 true basic extended

end PromptLibrary.Domain.Punycode
