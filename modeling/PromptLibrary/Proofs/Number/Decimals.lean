import PromptLibrary.Literal.Number
import PromptLibrary.Proofs.Number.Digits
import PromptLibrary.Proofs.Number.Integer
import PromptLibrary.Proofs.Number.Length
import PromptLibrary.Proofs.Text.Classes
/-!
# Decimals of any script

A decimal of any script stands for one of the ten ASCII digits, so that a row of decimals is read as
the number that they denote (`read_of_isDecimal`).  A digit of no positional system stands for none,
and no text that holds one is read (`read_ne_ok_of_looseDigit`).
-/

namespace PromptLibrary.Proofs.Number.Decimals

open PromptLibrary.Integer
open PromptLibrary.Text
open PromptLibrary.Literal (NumberBody.ofDecimals)
open PromptLibrary.Proofs.Number.Digits
open PromptLibrary.Proofs.Number.Integer (IsIntegerChar isIntegerChar_of_read)
open PromptLibrary.Proofs.Number.Length (decimalValue_lt)
open PromptLibrary.Proofs.Text.Classes

variable {c : Char} {s : List Char} {n : Nat} {i : Int} {ranges : Ranges}

theorem isSome_find_eq_contains : (ranges.find? n).isSome = ranges.contains n := by
  induction ranges with
  | nil => rfl
  | cons range rest ih =>
    obtain ⟨low, high⟩ := range
    by_cases hlow : n < low
    · simp [Ranges.find?, Ranges.contains, hlow]
    · by_cases hhigh : n ≤ high
      · simp [Ranges.find?, Ranges.contains, hlow, hhigh, Nat.not_lt.1 hlow]
      · simp [Ranges.find?, Ranges.contains, hlow, hhigh, Nat.not_lt.1 hlow, ih]

theorem isSome_decimalValue : (decimalValue? c).isSome = isDecimal c := by
  rw [decimalValue?, Option.isSome_map, isSome_find_eq_contains, isDecimal]

/-- The decimals among the ASCII characters, and their values. -/
theorem decimal_of_ascii : ∀ n < 127, decimalRanges.contains n = true →
    48 ≤ n ∧ (decimalRanges.find? n).map (fun run => (n - run.1) % 10) = some (n - 48) := by
  decide +kernel

theorem digitChar_eq : ∀ d < 10, Nat.digitChar d = Char.ofNat ('0'.toNat + d) := by
  decide

/-- A decimal is replaced by the digit of its value. -/
theorem exists_digit_of_isDecimal (h : isDecimal c = true) :
    ∃ d : Digit 10, d.char = toAscii c ∧ decimalValue? c = some d.value.val := by
  obtain ⟨v, hv⟩ : ∃ v, decimalValue? c = some v :=
    Option.isSome_iff_exists.1 (isSome_decimalValue.trans h)
  have hlt : v < 10 := decimalValue_lt hv
  have hchar : (⟨⟨v, hlt⟩, false⟩ : Digit 10).char = Char.ofNat ('0'.toNat + v) :=
    digitChar_eq v hlt
  refine ⟨⟨⟨v, hlt⟩, false⟩, ?_, hv⟩
  rw [hchar, toAscii]
  split
  · next hascii =>
    obtain ⟨hlow, hvalue⟩ := decimal_of_ascii c.toNat hascii h
    obtain rfl : c.toNat - 48 = v := Option.some.inj (hvalue.symm.trans hv)
    have hzero : '0'.toNat = 48 := rfl
    rw [hzero, Nat.add_sub_cancel' hlow, Char.ofNat_toNat]
  · have hblank : isWhiteSpace c = false :=
      not_contains_of_apart apart_decimal_whiteSpace h
    simp [hblank, hv]

/-- A row of decimals stands for a row of digits. -/
theorem exists_spelled_of_isDecimal (h : ∀ c ∈ s, isDecimal c = true) :
    ∃ digits : List (Digit 10), s.map toAscii = spelled digits ∧
      number digits = NumberBody.ofDecimals s := by
  obtain ⟨digits, hchars, hvalues⟩ : ∃ digits : List (Digit 10), s.map toAscii = spelled digits ∧
      s.filterMap decimalValue? = digits.map (·.value.val) := by
    induction s with
    | nil => exact ⟨[], rfl, rfl⟩
    | cons c s ih =>
      obtain ⟨d, hchar, hvalue⟩ := exists_digit_of_isDecimal (h c List.mem_cons_self)
      obtain ⟨digits, hchars, hvalues⟩ := ih fun c hc => h c (List.mem_cons_of_mem _ hc)
      refine ⟨d :: digits, ?_, ?_⟩
      · rw [List.map_cons, hchars, ← hchar]
        rfl
      · rw [List.filterMap_cons_some hvalue, hvalues]
        rfl
  refine ⟨digits, hchars, ?_⟩
  rw [NumberBody.ofDecimals, hvalues, ofDigits_eq, ← List.map_reverse]
  rfl

theorem isDecimal_of_mem_spelled {digits : List (Digit 10)} (hc : c ∈ spelled digits) :
    isDecimal c = true := by
  have hdecimal : ∀ (v : Fin 10) (u : Bool), isDecimal (Digit.char ⟨v, u⟩) = true := by
    decide
  obtain ⟨d, _, rfl⟩ := exists_digit_of_mem_spelled hc
  exact hdecimal d.value d.upper

/-- ASCII digits stand for themselves. -/
theorem ofDecimals_spelled (digits : List (Digit 10)) :
    NumberBody.ofDecimals (spelled digits) = number digits := by
  obtain ⟨row, hrow, hnumber⟩ :=
    exists_spelled_of_isDecimal fun c (hc : c ∈ spelled digits) => isDecimal_of_mem_spelled hc
  rw [map_toAscii_spelled (by decide)] at hrow
  rw [← hnumber, ← ofAscii_spelled (by decide), ← hrow, ofAscii_spelled (by decide)]

/-- **Decimals are read as their number**, unless there are too many. -/
theorem read_of_isDecimal (hne : s ≠ []) (h : ∀ c ∈ s, isDecimal c = true) :
    Integer.read 10 s =
      if digitLimit < s.length then .error .tooManyDigits
      else .ok (NumberBody.ofDecimals s) := by
  obtain ⟨digits, hchars, hnumber⟩ := exists_spelled_of_isDecimal h
  have hlength : digits.length = s.length := by
    have hmap := congrArg List.length hchars
    simpa [spelled] using hmap.symm
  have hdigits : digits ≠ [] := by
    rintro rfl
    exact hne (List.eq_nil_of_length_eq_zero hlength.symm)
  -- Only the digits that stand for the decimals are looked at.
  have hread : Integer.read 10 s = Integer.read 10 (spelled digits) := by
    unfold Integer.read
    rw [map_toAscii_spelled (by decide), hchars]
  rw [hread, read_spelled_eq (by decide) hdigits, hlength, hnumber]
  simp

/-! ## Digits of no positional system -/

theorem apart_looseDigit_whiteSpace : apart looseDigitRanges whiteSpaceRanges = true := by
  decide +kernel

theorem apart_looseDigit_ascii : apart looseDigitRanges [(0, 126)] = true := by
  decide +kernel

theorem toAscii_of_looseDigit (hdigit : isDigit c = true) (h : isDecimal c = false) :
    toAscii c = '?' := by
  have hloose : looseDigitRanges.contains c.toNat = true := by
    simpa [isDigit, h] using hdigit
  have hascii : ¬ c.toNat < 127 := by
    have hapart := not_contains_of_apart apart_looseDigit_ascii hloose
    simp only [Ranges.contains, Nat.zero_le, decide_true, Bool.true_and, Bool.or_false,
      decide_eq_false_iff_not] at hapart
    omega
  have hblank : isWhiteSpace c = false :=
    not_contains_of_apart apart_looseDigit_whiteSpace hloose
  have hvalue : decimalValue? c = none :=
    Option.not_isSome_iff_eq_none.1 (by simp [isSome_decimalValue, h])
  simp [toAscii, hascii, hblank, hvalue]

/-- No integer text holds a digit of no positional system. -/
theorem read_ne_ok_of_looseDigit (hc : c ∈ s) (hdigit : isDigit c = true)
    (h : isDecimal c = false) : Integer.read 10 s ≠ .ok i := by
  intro hread
  have hchar : IsIntegerChar 10 (toAscii c) := isIntegerChar_of_read hread hc
  rw [toAscii_of_looseDigit hdigit h] at hchar
  exact absurd hchar (by decide)

end PromptLibrary.Proofs.Number.Decimals
