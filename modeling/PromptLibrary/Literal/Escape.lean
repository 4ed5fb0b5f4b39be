import PromptLibrary.Literal.Failure
import PromptLibrary.Text.Reader
/-!
# Escapes

What a backslash and the characters after it stand for. Most escapes stand for one code point; a
backslash before a line ending stands for nothing.
-/

namespace PromptLibrary.Literal

/-- The control characters with a letter of their own. -/
def controlEscape? (c : Char) : Option Char :=
  if c = 'n' then some '\n'
  else if c = 't' then some '\t'
  else if c = 'r' then some '\r'
  else if c = 'b' then some '\x08'
  else if c = 'f' then some '\x0c'
  else if c = 'v' then some '\x0b'
  else none

/-- Whether a character is a digit in base 8. -/
def isOctal (c : Char) : Bool :=
  Integer.isDigitOf 8 c

/-- A code point by exactly `count` hexadecimal digits. -/
def hexEscape (count : Nat) (s : List Char) : Except Failure (Text × List Char) :=
  let digits := s.take count
  if digits.length = count ∧ digits.all (Integer.isDigitOf 16) then
    .ok ((CodePoint.ofNat? (Integer.ofAscii 16 digits)).toList, s.drop count)
  else .error (.refused (.badHex digits) s)

/-- The number that is too large for a code point of any kind. -/
def codePointRange : Int := 0x80000000

/-- A code point by a number between braces; `s` follows the opening brace. -/
def bracedEscape (s : List Char) : Except Failure (Text × List Char) :=
  match s.dropWhile (· ≠ '\x7d') with
  | [] => .error (.refused .unterminatedCodePoint ('\x7b' :: s))
  | _ :: rest =>
    let digits := s.takeWhile (· ≠ '\x7d')
    match Integer.read 16 digits with
    | .error _ => .error (.refused (.badCodePoint digits) ('\x7b' :: s))
    | .ok n =>
      if n < -codePointRange ∨ codePointRange ≤ n then .error .codePointTooLarge
      else if n < 0 then .error (.refused (.badCodePoint digits) ('\x7b' :: s))
      else match CodePoint.ofNat? n.toNat with
        | some p => .ok ([p], rest)
        | none => .error (.refused (.badCodePoint digits) ('\x7b' :: s))

/-- How many octal digits an escape may have. -/
def octalLength (first : Char) : Nat :=
  if first ≤ '3' then 3 else 2

/-- A code point by octal digits, of which `first` is the first. A zero alone is always allowed. -/
def octalEscape (inTemplate : Bool) (first : Char) (s : List Char) :
    Except Failure (Text × List Char) :=
  if first = '0' ∧ ¬ s.head?.any Char.isDigit then .ok ([.char '\x00'], s)
  else if inTemplate then .error (.refused .octalInTemplate s)
  else
    let more := (s.take (octalLength first - 1)).takeWhile isOctal
    .ok ((CodePoint.ofNat? (Integer.ofAscii 8 (first :: more))).toList, s.drop more.length)

/-- What an escape stands for; `s` follows the backslash. -/
def escape (inTemplate : Bool) (s : List Char) : Except Failure (Text × List Char) :=
  match s with
  | [] => .error (.refused .unterminatedEscape [])
  | '\r' :: '\n' :: rest => .ok ([], rest)
  | '\n' :: rest => .ok ([], rest)
  | '\r' :: rest => .ok ([], rest)
  | '\u2028' :: rest => .ok ([], rest)
  | '\u2029' :: rest => .ok ([], rest)
  | 'x' :: rest => hexEscape 2 rest
  | 'u' :: '\x7b' :: rest => bracedEscape rest
  | 'u' :: rest => hexEscape 4 rest
  | c :: rest =>
    match controlEscape? c with
    | some d => .ok ([.char d], rest)
    | none => if isOctal c then octalEscape inTemplate c rest else .ok ([.char c], rest)

/-! ## Progress -/

theorem length_hexEscape_le {count : Nat} {s r : List Char} {t : Text}
    (h : hexEscape count s = .ok (t, r)) : r.length ≤ s.length := by
  unfold hexEscape at h
  simp only at h
  split at h
  · simp only [Except.ok.injEq, Prod.mk.injEq] at h
    simp [← h.2]
  · simp at h

theorem length_bracedEscape_lt {s r : List Char} {t : Text}
    (h : bracedEscape s = .ok (t, r)) : r.length < s.length := by
  unfold bracedEscape at h
  split at h
  · simp at h
  · next c rest hd =>
    have := (List.dropWhile_suffix (l := s) (· ≠ '\x7d')).length_le
    rw [hd] at this
    simp only at h
    split at h
    · simp at h
    · repeat' split at h
      all_goals simp_all <;> omega

theorem length_octalEscape_le {inTemplate : Bool} {c : Char} {s r : List Char} {t : Text}
    (h : octalEscape inTemplate c s = .ok (t, r)) : r.length ≤ s.length := by
  unfold octalEscape at h
  simp only at h
  split at h
  · simp_all
  · split at h
    · simp at h
    · simp only [Except.ok.injEq, Prod.mk.injEq] at h
      simp [← h.2]

theorem length_escape_lt {inTemplate : Bool} {s r : List Char} {t : Text}
    (h : escape inTemplate s = .ok (t, r)) : r.length < s.length := by
  unfold escape at h
  split at h
  case h_7 | h_9 => have := length_hexEscape_le h; simp; omega
  case h_8 => have := length_bracedEscape_lt h; simp; omega
  case h_10 =>
    split at h
    · simp_all
    · split at h
      · have := length_octalEscape_le h; simp; omega
      · simp_all
  all_goals simp_all <;> omega

end PromptLibrary.Literal
