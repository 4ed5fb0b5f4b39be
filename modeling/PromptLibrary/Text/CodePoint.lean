/-!
# Code points and decoded text

Decoded text may hold one half of a surrogate pair without the other, which no character can.
A text is a list of code points; `Text.join` puts neighbouring halves together, and
`Text.chars?` gives the characters of a text that has no half left.
-/

namespace PromptLibrary

/-- A Unicode code point: a character, or half of a surrogate pair. -/
inductive CodePoint where
  | char (c : Char)
  /-- First half of a pair, U+D800 plus `index`. -/
  | lead (index : Fin 1024)
  /-- Second half of a pair, U+DC00 plus `index`. -/
  | trail (index : Fin 1024)
  deriving DecidableEq, Repr, Inhabited

namespace CodePoint

/-- The code point of a given number; there are 1114112 of them. -/
def ofNat? (n : Nat) : Option CodePoint :=
  if h : 0xD800 ≤ n ∧ n < 0xDC00 then some (.lead ⟨n - 0xD800, by omega⟩)
  else if h : 0xDC00 ≤ n ∧ n < 0xE000 then some (.trail ⟨n - 0xDC00, by omega⟩)
  else if n < 0x110000 then some (.char (Char.ofNat n))
  else none

def toNat : CodePoint → Nat
  | char c => c.toNat
  | lead i => 0xD800 + i
  | trail i => 0xDC00 + i

def char? : CodePoint → Option Char
  | char c => some c
  | _ => none

end CodePoint

/-- The character that a surrogate pair stands for. -/
def surrogatePair (lead trail : Fin 1024) : Char :=
  Char.ofNat (0x10000 + lead * 1024 + trail)

/-- Decoded text, in which surrogate halves may stand alone. -/
abbrev Text := List CodePoint

namespace Text

def ofChars (cs : List Char) : Text :=
  cs.map .char

def ofString (s : String) : Text :=
  ofChars s.toList

/-- Joins each first half that is directly followed by a second half. -/
def join : Text → Text
  | .lead a :: .trail b :: rest => .char (surrogatePair a b) :: join rest
  | p :: rest => p :: join rest
  | [] => []

/-- The characters of a text, unless a surrogate half stands in it. -/
def chars? (t : Text) : Option (List Char) :=
  t.mapM CodePoint.char?

/-- No surrogate half stands in the text. -/
def WellFormed (t : Text) : Prop :=
  ∀ p ∈ t, ∃ c, p = .char c

instance (t : Text) : Decidable t.WellFormed :=
  decidable_of_iff (t.all (·.char?.isSome)) <| by
    simp only [List.all_eq_true, WellFormed]
    refine forall_congr' fun p => imp_congr_right fun _ => ?_
    cases p <;> simp [CodePoint.char?]

/-- Text as a string, with the replacement character for a half that stands alone. -/
def asString (t : Text) : String :=
  String.ofList (t.map fun p => p.char?.getD '\uFFFD')

/-- Texts are ordered by their code points, as words in a dictionary are by letters. -/
def le : Text → Text → Bool
  | [], _ => true
  | _ :: _, [] => false
  | a :: s, b :: t =>
    if a.toNat < b.toNat then true else if b.toNat < a.toNat then false else le s t

end Text

end PromptLibrary
