import PromptLibrary.Text.Blank
import PromptLibrary.Text.Digit
import PromptLibrary.Text.Quoted
/-!
# Reading integers

Integer text has an optional sign and digits, with single underscores between digits and blanks
around it. In base 16 it may be marked with `0x`. Decimals of any script count as digits.
Conversion between integers and decimal text has a limit on the number of digits.
-/

namespace PromptLibrary.Integer

/-- The most digits that decimal text of an integer may have. -/
def digitLimit : Nat := 4300

inductive ReadError where
  | malformed
  | tooManyDigits
  deriving DecidableEq, Repr

/-- The value of an ASCII digit or letter as a digit in base 36. -/
def asciiDigit? (c : Char) : Option Nat :=
  if '0' ≤ c ∧ c ≤ '9' then some (c.toNat - '0'.toNat)
  else if 'a' ≤ c ∧ c ≤ 'z' then some (c.toNat - 'a'.toNat + 10)
  else if 'A' ≤ c ∧ c ≤ 'Z' then some (c.toNat - 'A'.toNat + 10)
  else none

/-- Whether a character is an ASCII digit of the base. -/
def isDigitOf (base : Nat) (c : Char) : Bool :=
  match asciiDigit? c with
  | some d => d < base
  | none => false

/-- The number that digits denote, most significant first. -/
def ofDigits (base : Nat) (digits : List Nat) : Nat :=
  digits.foldl (fun n d => n * base + d) 0

/-- The number that ASCII digits denote. -/
def ofAscii (base : Nat) (digits : List Char) : Nat :=
  ofDigits base (digits.filterMap asciiDigit?)

/-- Replaces decimals and blanks of other scripts by their ASCII counterparts. -/
def toAscii (c : Char) : Char :=
  if c.toNat < 127 then c
  else if Text.isWhiteSpace c then ' '
  else match Text.decimalValue? c with
    | some d => Char.ofNat ('0'.toNat + d)
    | none => '?'

/-- No underscore stands beside another one or last. -/
def underscoresSeparate : List Char → Bool
  | [] => true
  | ['_'] => false
  | '_' :: '_' :: _ => false
  | _ :: rest => underscoresSeparate rest

/-- Takes off the mark of base 16, and an underscore after it. -/
def dropMark (base : Nat) : List Char → List Char
  | '0' :: x :: rest =>
    if base = 16 ∧ (x = 'x' ∨ x = 'X') then
      match rest with
      | '_' :: more => more
      | _ => rest
    else '0' :: x :: rest
  | s => s

/-- Takes off a sign; the first part tells whether it was a minus. -/
def takeSign : List Char → Bool × List Char
  | '-' :: rest => (true, rest)
  | '+' :: rest => (false, rest)
  | s => (false, s)

theorem length_takeSign_le (s : List Char) : (takeSign s).2.length ≤ s.length := by
  unfold takeSign; split <;> simp

/-- `n` with its sign. -/
def withSign (negative : Bool) (n : Nat) : Int :=
  if negative then -n else n

/-- Reads digits that go to the end of the text, blanks aside. -/
def readDigits (base : Nat) (s : List Char) : Except ReadError Nat :=
  let isPart (c : Char) : Bool := isDigitOf base c || c = '_'
  let run := s.takeWhile isPart
  let digits := run.filter (· ≠ '_')
  if run.head? = some '_' ∨ ¬ underscoresSeparate run then .error .malformed
  else if base = 10 ∧ digitLimit < digits.length then .error .tooManyDigits
  else if digits = [] ∨ ¬ (s.dropWhile isPart).all Text.isAsciiSpace then .error .malformed
  else .ok (ofAscii base digits)

/-- Reads an integer in base 10 or 16. -/
def read (base : Nat) (s : List Char) : Except ReadError Int :=
  let (negative, rest) := takeSign ((s.map toAscii).dropWhile Text.isAsciiSpace)
  (readDigits base (dropMark base rest)).map (withSign negative)

/-- The decimal text of an integer, unless it has too many digits. -/
def text? (i : Int) : Option (List Char) :=
  let digits := Nat.toDigits 10 i.natAbs
  if digitLimit < digits.length then none
  else some (if i < 0 then '-' :: digits else digits)

/-- What a message says about text that is no integer: at most 200 characters of it, quoted. -/
def malformedMessage (s : List Char) : String :=
  "invalid literal for int() with base 10: " ++
    String.ofList ((Text.quoted (Text.ofChars s)).take 200)

end PromptLibrary.Integer
