import PromptLibrary.Number.Integer
import PromptLibrary.Text.Search
/-!
# Numerical hosts

Hosts that are given by number: four decimal numbers with dots between them, or eight numbers to
the base 16 with colons between them, of which a run of zeros may be left out.
-/

namespace PromptLibrary.Url

/-- Whether a text is a number of at most three digits, up to 255, without needless zeros. -/
def isByteNumber (s : List Char) : Bool :=
  s ≠ [] && s.all Char.isDigit && s.length ≤ 3 && (s.head? ≠ some '0' || s = ['0']) &&
    Integer.ofAscii 10 s ≤ 255

/-- Whether a text is an address of four numbers. -/
def isIpv4 (s : List Char) : Bool :=
  let numbers := Search.splitOn '.' s
  numbers.length = 4 && numbers.all isByteNumber

/-- How far a text may be read as runs of digits: the runs to come, and if there is a digit yet. -/
structure RunState where
  due : Nat
  begun : Bool
  deriving DecidableEq, Repr

/-- Goes on by one character, which may part two runs whatever it is. -/
def RunState.next (c : Char) (s : RunState) : List RunState :=
  (if c.isDigit then [{ s with begun := true }] else []) ++
    (if s.begun && s.due ≠ 0 then [⟨s.due - 1, false⟩] else [])

/-- Whether a text looks like four numbers: four runs of digits, any character between them. -/
def looksIpv4 (s : List Char) : Bool :=
  let start : List RunState := [⟨3, false⟩]
  ⟨0, true⟩ ∈ s.foldl (fun states c => (states.flatMap (RunState.next c)).eraseDups) start

/-- Whether a text is a number of at most four digits to the base 16. -/
def isWordNumber (s : List Char) : Bool :=
  s ≠ [] && s.all (Integer.isDigitOf 16) && s.length ≤ 4

/-- How many numbers stand on one side of two colons; none if something there is no number. -/
def sideLength? (numbers : List (List Char)) : Option Nat :=
  if numbers = [[]] then some 0
  else if numbers.all isWordNumber then some numbers.length
  else none

/-- Whether texts with colons between them are eight numbers, or fewer with one gap for zeros. -/
def areWordNumbers (numbers : List (List Char)) : Bool :=
  let inner := (numbers.drop 1).dropLast
  let before := 1 + (inner.takeWhile (· ≠ [])).length
  if inner.contains [] then
    match sideLength? (numbers.take before), sideLength? (numbers.drop (before + 1)) with
    | some a, some b => a + b ≤ 7
    | _, _ => false
  else numbers.length = 8 && numbers.all isWordNumber

/-- Whether a text is an address of eight numbers, the last two perhaps written as four. -/
def isPlainIpv6 (s : List Char) : Bool :=
  let numbers := Search.splitOn ':' s
  let last := numbers.getLast?.getD []
  if '.' ∈ last then
    isIpv4 last && areWordNumbers (numbers.dropLast ++ [['0'], ['0']])
  else areWordNumbers numbers

/-- Whether a text is an address of eight numbers, perhaps with the name of a zone. -/
def isIpv6 (s : List Char) : Bool :=
  match s.dropWhile (· ≠ '%') with
  | [] => isPlainIpv6 s
  | _ :: zone => zone ≠ [] && '%' ∉ zone && isPlainIpv6 (s.takeWhile (· ≠ '%'))

end PromptLibrary.Url
