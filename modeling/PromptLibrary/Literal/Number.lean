import PromptLibrary.Literal.Failure
import PromptLibrary.Literal.Name
import PromptLibrary.Number.Shortest
import PromptLibrary.Text.Reader
/-!
# Numbers

Numbers in base 16, 8 and 2 are marked by `0x`, `0o` and `0b`. Decimal numbers are integers, of any
size up to the limit on digits, unless they have a point or an exponent. Decimals of any script
count as digits of a decimal number.
-/

namespace PromptLibrary.Literal

/-- The spelling of a number, in its parts. -/
inductive NumberBody where
  | radix (base : Nat) (mark : Char) (digits : List Char)
  /-- A power is its mark, its sign and its digits. -/
  | decimal (whole : List Char) (point : Bool) (part : List Char)
      (power : Option (Char × Option Char × List Char))
  deriving DecidableEq, Repr

structure Number where
  sign : Option Char
  body : NumberBody
  deriving DecidableEq, Repr

/-- The base that the mark after a zero stands for. -/
def baseOf? (mark : Char) : Option Nat :=
  if mark = 'x' ∨ mark = 'X' then some 16
  else if mark = 'o' ∨ mark = 'O' then some 8
  else if mark = 'b' ∨ mark = 'B' then some 2
  else none

/-- A sign at the front of a text. -/
def signAt : List Char → Option Char × List Char
  | c :: rest => if c = '+' ∨ c = '-' then (some c, rest) else (none, c :: rest)
  | [] => (none, [])

/-- A number with a marked base, if at least one digit follows the mark. -/
def radixBody? : List Char → Option (NumberBody × List Char)
  | '0' :: mark :: rest =>
    match baseOf? mark with
    | none => none
    | some base =>
      let digits := rest.takeWhile (Integer.isDigitOf base)
      if digits = [] then none
      else some (.radix base mark digits, rest.dropWhile (Integer.isDigitOf base))
  | _ => none

/-- An exponent, if a digit follows its mark and sign; else nothing is taken. -/
def powerAt : List Char → Option (Char × Option Char × List Char) × List Char
  | [] => (none, [])
  | e :: rest =>
    let (sign, more) := signAt rest
    let digits := more.takeWhile Text.isDecimal
    if (e = 'e' ∨ e = 'E') ∧ digits ≠ [] then
      (some (e, sign, digits), more.dropWhile Text.isDecimal)
    else (none, e :: rest)

/-- A decimal number: digits on at least one side of a point, or without one. -/
def decimalBody? (s : List Char) : Option (NumberBody × List Char) :=
  let whole := s.takeWhile Text.isDecimal
  match s.dropWhile Text.isDecimal with
  | '.' :: rest =>
    let part := rest.takeWhile Text.isDecimal
    if whole = [] ∧ part = [] then none
    else
      let (power, after) := powerAt (rest.dropWhile Text.isDecimal)
      some (.decimal whole true part power, after)
  | rest =>
    if whole = [] then none
    else
      let (power, after) := powerAt rest
      some (.decimal whole false [] power, after)

/-- The longest number at the front of a text. -/
def Number.lex? (s : List Char) : Option (Number × List Char) :=
  let (sign, rest) := signAt s
  match radixBody? rest with
  | some (body, after) => some (⟨sign, body⟩, after)
  | none => (decimalBody? rest).map fun (body, after) => (⟨sign, body⟩, after)

namespace NumberBody

/-- The text of a number without its sign. -/
def spelling : NumberBody → List Char
  | radix _ mark digits => '0' :: mark :: digits
  | decimal whole point part power =>
    whole ++ (if point then ['.'] else []) ++ part ++
      match power with
      | none => []
      | some (mark, sign, digits) => mark :: sign.toList ++ digits

/-- The number that decimals of any script denote. -/
def ofDecimals (digits : List Char) : Nat :=
  Integer.ofDigits 10 (digits.filterMap Text.decimalValue?)

def powerValue : Option (Char × Option Char × List Char) → Int
  | none => 0
  | some (_, sign, digits) => Integer.withSign (sign = some '-') (ofDecimals digits)

end NumberBody

namespace Number

def spelling (n : Number) : List Char :=
  n.sign.toList ++ n.body.spelling

/-- The value of a number. -/
def value (n : Number) : Except Failure Value :=
  let negative : Bool := n.sign = some '-'
  match n.body with
  | .radix base _ digits => .ok (.int (Integer.withSign negative (Integer.ofAscii base digits)))
  | .decimal whole point part power =>
    if point ∨ power.isSome then
      let x := Double.ofDecimal (NumberBody.ofDecimals (whole ++ part))
        (NumberBody.powerValue power - part.length)
      .ok (.float (x.withSign negative))
    else if Integer.digitLimit < whole.length then .error .tooManyDigits
    else .ok (.int (Integer.withSign negative (NumberBody.ofDecimals whole)))

/-- The number that begins with `first`. No name may follow it directly. -/
def read (first : Char) (more : List Char) : Except Failure (Value × List Char) :=
  match lex? (first :: more) with
  | none => .error (.refused (.badNumber first) (first :: more))
  | some (n, rest) =>
    if continuesName rest then .error (.refused (.nameAfterNumber n.spelling) rest)
    else n.value.map fun v => (v, rest)

/-- A number as a key of an object: the decimal text of an integer, or the shortest decimal. -/
def keyText : Value → Except Failure Text
  | .int i => (Integer.text? i).elim (.error .tooManyDigits) (.ok ∘ Text.ofChars)
  | .float x =>
    match x.toInt? with
    | some i => (Integer.text? i).elim (.error .tooManyDigits) (.ok ∘ Text.ofChars)
    | none => .ok (Text.ofChars x.text)
  | _ => .ok []

end Number

/-! ## Progress -/

theorem length_signAt_le (s : List Char) : (signAt s).2.length ≤ s.length := by
  unfold signAt; split <;> (try split) <;> simp

theorem length_powerAt_le (s : List Char) : (powerAt s).2.length ≤ s.length := by
  unfold powerAt
  split
  · simp
  · next e rest =>
    have h1 := length_signAt_le rest
    have h2 := (List.dropWhile_suffix (l := (signAt rest).2) Text.isDecimal).length_le
    simp only
    split <;> simp <;> omega

theorem length_radixBody_lt {s r : List Char} {b : NumberBody} (h : radixBody? s = some (b, r)) :
    r.length < s.length := by
  unfold radixBody? at h
  split at h
  · next mark rest =>
    split at h
    · simp at h
    · next base _ =>
      simp only at h
      split at h
      · simp at h
      · simp only [Option.some.injEq, Prod.mk.injEq] at h
        have := (List.dropWhile_suffix (l := rest) (Integer.isDigitOf base)).length_le
        rw [← h.2]; simp; omega
  · simp at h

theorem length_decimalBody_lt {s r : List Char} {b : NumberBody}
    (h : decimalBody? s = some (b, r)) : r.length < s.length := by
  have hs : s.length =
      (s.takeWhile Text.isDecimal).length + (s.dropWhile Text.isDecimal).length := by
    rw [← List.length_append, List.takeWhile_append_dropWhile]
  unfold decimalBody? at h
  simp only at h
  split at h
  · next rest hd =>
    have h1 := (List.dropWhile_suffix (l := rest) Text.isDecimal).length_le
    have h2 := length_powerAt_le (rest.dropWhile Text.isDecimal)
    split at h
    · simp at h
    · simp only [Option.some.injEq, Prod.mk.injEq] at h
      rw [← h.2, hs, hd]; simp; omega
  · have h2 := length_powerAt_le (s.dropWhile Text.isDecimal)
    split at h
    · simp at h
    · next hw =>
      have := List.length_pos_iff.2 hw
      simp only [Option.some.injEq, Prod.mk.injEq] at h
      rw [← h.2, hs]; omega

theorem length_lex_lt {s r : List Char} {n : Number} (h : Number.lex? s = some (n, r)) :
    r.length < s.length := by
  have h1 := length_signAt_le s
  unfold Number.lex? at h
  simp only at h
  split at h
  · next body after hb =>
    have := length_radixBody_lt hb
    simp only [Option.some.injEq, Prod.mk.injEq] at h
    rw [← h.2]; omega
  · simp only [Option.map_eq_some_iff, Prod.mk.injEq, Prod.exists] at h
    obtain ⟨body, after, hb, _, rfl⟩ := h
    have := length_decimalBody_lt hb
    omega

theorem length_readNumber_lt {c : Char} {s r : List Char} {v : Value}
    (h : Number.read c s = .ok (v, r)) : r.length < (c :: s).length := by
  unfold Number.read at h
  split at h
  · simp at h
  · next n rest hl =>
    have := length_lex_lt hl
    split at h
    · simp at h
    · simp only [map_eq_ok, Prod.mk.injEq] at h
      obtain ⟨_, _, _, rfl⟩ := h
      exact this

end PromptLibrary.Literal
