import PromptLibrary.Number.Integer
/-!
# Double precision numbers

A double is a sign and the rank of its magnitude: the magnitudes are numbered upwards from zero,
which makes rank and bit pattern the same thing. Decimal text is read by exact arithmetic; the
nearest double is taken, and of two equally near ones that of even rank.
-/

namespace PromptLibrary

/-- A double, by its sign and the rank of its magnitude. -/
structure Double where
  negative : Bool
  rank : Nat
  deriving DecidableEq, Repr, Inhabited

namespace Double

/-- The rank of the least normal magnitude, which is its significand too. -/
def normalRank : Nat := Nat.pow 2 52

/-- The rank of infinity; what is above is not a number. -/
def infinityRank : Nat := 0x7FF * normalRank

def infinity : Double := ⟨false, infinityRank⟩

def nan : Double := ⟨false, infinityRank + normalRank / 2⟩

def neg (x : Double) : Double := { x with negative := !x.negative }

/-- `x` with its sign turned if `negative` says so. -/
def withSign (negative : Bool) (x : Double) : Double := if negative then x.neg else x

def isFinite (x : Double) : Bool := x.rank < infinityRank

def isNaN (x : Double) : Bool := infinityRank < x.rank

/-- A finite magnitude of the given rank is `significand * 2 ^ exponent`. -/
def significand (rank : Nat) : Nat :=
  if rank < normalRank then rank else normalRank + rank % normalRank

def exponent (rank : Nat) : Int :=
  if rank < normalRank then -1074 else (rank / normalRank : Nat) - 1075

/-- A finite magnitude as a fraction: numerator and denominator. -/
def fraction (rank : Nat) : Nat × Nat :=
  let e := exponent rank
  if 0 ≤ e then (significand rank * Nat.pow 2 e.toNat, 1)
  else (significand rank, Nat.pow 2 (-e).toNat)

/-- `num / den` rounded to a whole number, a half to the even neighbour. -/
def roundHalfEven (num den : Nat) : Nat :=
  let q := num / den
  let r := num % den
  if 2 * r < den ∨ (2 * r = den ∧ q % 2 = 0) then q else q + 1

/-- The rank of the double nearest to the positive fraction `num / den`. -/
def rankOfFraction (num den : Nat) : Nat :=
  let guess : Int := (num.log2 : Int) - den.log2 - 52
  let scaled (e : Int) : Nat × Nat :=
    if 0 ≤ e then (num, den * Nat.pow 2 e.toNat) else (num * Nat.pow 2 (-e).toNat, den)
  let first := scaled guess
  let e := max (-1074) (if first.1 / first.2 < normalRank then guess - 1 else guess)
  let (n, d) := scaled e
  min infinityRank ((e + 1074).toNat * normalRank + roundHalfEven n d)

/-- The rank of the double nearest to `digits * 10 ^ e`. -/
def rankOfDecimal (digits : Nat) (e : Int) : Nat :=
  let length : Int := (Nat.toDigits 10 digits).length
  if digits = 0 ∨ length + e < -330 then 0
  else if 330 < length + e then infinityRank
  else if 0 ≤ e then rankOfFraction (digits * Nat.pow 10 e.toNat) 1
  else rankOfFraction digits (Nat.pow 10 (-e).toNat)

/-- The double nearest to `digits * 10 ^ e`. -/
def ofDecimal (digits : Nat) (e : Int) : Double :=
  ⟨false, rankOfDecimal digits e⟩

/-- The integer that a finite double is equal to, if there is one. -/
def toInt? (x : Double) : Option Int :=
  if x.isFinite then
    let (num, den) := fraction x.rank
    if num % den = 0 then
      some (if x.negative then -((num / den : Nat) : Int) else (num / den : Nat))
    else none
  else none

/-- The pattern of 64 bits. -/
def bits (x : Double) : Nat :=
  (if x.negative then 0x8000000000000000 else 0) + x.rank

/-! ## Reading decimal text -/

/-- Takes out underscores that stand between digits; any other underscore is refused. -/
def dropUnderscores? : List Char → Option (List Char)
  | a :: '_' :: b :: rest =>
    if a.isDigit ∧ b.isDigit then (dropUnderscores? (b :: rest)).map (a :: ·) else none
  | '_' :: _ => none
  | [_, '_'] => none
  | a :: rest => (dropUnderscores? rest).map (a :: ·)
  | [] => some []

/-- Reads an exponent part that goes to the end of the text. -/
def readExponent? : List Char → Option Int
  | [] => some 0
  | e :: rest =>
    let (negative, digits) := Integer.takeSign rest
    if (e = 'e' ∨ e = 'E') ∧ digits ≠ [] ∧ digits.all Char.isDigit then
      some (Integer.withSign negative (Integer.ofAscii 10 digits))
    else none

/-- Reads a magnitude: decimal digits with a point and an exponent, or a name. -/
def readMagnitude? (s : List Char) : Option Double :=
  let name := s.map Char.toLower
  if name = "inf".toList ∨ name = "infinity".toList then some infinity
  else if name = "nan".toList then some nan
  else
    let whole := s.takeWhile Char.isDigit
    let (part, rest) := match s.dropWhile Char.isDigit with
      | '.' :: more => (more.takeWhile Char.isDigit, more.dropWhile Char.isDigit)
      | more => ([], more)
    if whole = [] ∧ part = [] then none
    else (readExponent? rest).map fun e =>
      ofDecimal (Integer.ofAscii 10 (whole ++ part)) (e - part.length)

/-- Reads a number with an optional sign and blanks around it. -/
def read? (s : List Char) : Option Double := do
  let body := ((s.map Integer.toAscii).dropWhile Text.isAsciiSpace).reverse.dropWhile
    Text.isAsciiSpace
  let (negative, rest) := Integer.takeSign (← dropUnderscores? body.reverse)
  (readMagnitude? rest).map (withSign negative)

end Double

end PromptLibrary
