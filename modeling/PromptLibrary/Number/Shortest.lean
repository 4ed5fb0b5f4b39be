import PromptLibrary.Number.Double
/-!
# Shortest decimals

A double is written with the fewest digits that read back as the same double; of the decimals
of that length, the nearest one.
-/

namespace PromptLibrary.Double

/-- The exponent of the least power of ten above `num / den`. -/
def decimalPlace (num den : Nat) : Int :=
  if den ≤ num then (Nat.toDigits 10 (num / den)).length
  else 1 - ((Nat.toDigits 10 ((den + num - 1) / num - 1)).length : Int)

/-- The decimal of `length` digits nearest to a magnitude, if it reads back. -/
def decimalOfLength? (rank length : Nat) : Option (Nat × Int) :=
  let (num, den) := fraction rank
  let e := decimalPlace num den - length
  let (n, d) :=
    if 0 ≤ e then (num, den * Nat.pow 10 e.toNat) else (num * Nat.pow 10 (-e).toNat, den)
  let below := n / d
  let nearest := roundHalfEven n d
  let other := if nearest = below then below + 1 else below
  [nearest, other].findSome? fun digits =>
    if rankOfDecimal digits e = rank then some (digits, e) else none

/-- The shortest decimal `digits * 10 ^ exponent` that reads back as a positive magnitude. -/
def shortest (rank : Nat) : Nat × Int :=
  ((List.range 17).findSome? fun n => decimalOfLength? rank (n + 1)).getD (0, 0)

/--
Decimals are positional while the point falls among sixteen digits or at most three zeros before
the first one, and then have a digit on both sides of it. An exponent has at least two digits.
-/
def magnitudeText (rank : Nat) : List Char :=
  let (n, e) := if rank = 0 then (0, 0) else shortest rank
  let all := Nat.toDigits 10 n
  let digits := if n = 0 then all else (all.reverse.dropWhile (· = '0')).reverse
  let place : Int := all.length + e
  if -4 < place ∧ place ≤ 16 then
    if place ≤ 0 then
      '0' :: '.' :: (List.replicate (-place).toNat '0' ++ digits)
    else
      let whole := digits.take place.toNat
      let part := digits.drop place.toNat
      whole ++ List.replicate (place.toNat - whole.length) '0' ++
        '.' :: (if part = [] then ['0'] else part)
  else
    let power := (place - 1).natAbs
    let powerDigits := Nat.toDigits 10 power
    let point := match digits with
      | first :: more => if more = [] then [first] else first :: '.' :: more
      | [] => []
    point ++ 'e' :: (if place - 1 < 0 then '-' else '+') ::
      (List.replicate (2 - powerDigits.length) '0' ++ powerDigits)

/-- The text of a double. -/
def text (x : Double) : List Char :=
  if x.isNaN then "nan".toList
  else
    let magnitude := if x.isFinite then magnitudeText x.rank else "inf".toList
    if x.negative then '-' :: magnitude else magnitude

end PromptLibrary.Double
