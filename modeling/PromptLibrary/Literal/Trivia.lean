import PromptLibrary.Literal.Failure
import PromptLibrary.Text.Blank
/-!
# Blanks and comments

What may stand between the tokens of a literal: white space, comments to the end of the line and
comments between `/*` and `*/`.
-/

namespace PromptLibrary.Literal

/-- Blank characters; the byte order mark is one of them. -/
def isBlank (c : Char) : Bool :=
  Text.isWhiteSpace c || c = '\uFEFF'

/-- The text after the next line feed. -/
def afterLine : List Char → List Char
  | [] => []
  | c :: rest => if c = '\n' then rest else afterLine rest

/-- The text after the next `*/`. -/
def afterComment? : List Char → Option (List Char)
  | [] => none
  | '*' :: '/' :: rest => some rest
  | _ :: rest => afterComment? rest

theorem length_afterLine_le (s : List Char) : (afterLine s).length ≤ s.length := by
  fun_induction afterLine s <;> simp <;> omega

theorem length_afterComment_le {s r : List Char} (h : afterComment? s = some r) :
    r.length ≤ s.length := by
  fun_induction afterComment? s <;> simp_all <;> omega

/-- Skips blanks and comments. -/
def skipTrivia (s : List Char) : Except Failure (List Char) :=
  match s with
  | [] => .ok []
  | '/' :: '/' :: rest =>
    have := length_afterLine_le rest
    skipTrivia (afterLine rest)
  | '/' :: '*' :: rest =>
    match h : afterComment? rest with
    | none => .error (.refused .unterminatedComment s)
    | some after =>
      have := length_afterComment_le h
      skipTrivia after
  | c :: rest => if isBlank c then skipTrivia rest else .ok (c :: rest)
termination_by s.length

theorem length_skipTrivia_le {s r : List Char} (h : skipTrivia s = .ok r) :
    r.length ≤ s.length := by
  fun_induction skipTrivia s <;> simp_all <;> grind

theorem length_skipTrivia_lt {s r : List Char} {c : Char} (h : skipTrivia s = .ok (c :: r)) :
    r.length < s.length :=
  length_skipTrivia_le h

end PromptLibrary.Literal
