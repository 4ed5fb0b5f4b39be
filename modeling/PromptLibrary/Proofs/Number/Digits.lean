import PromptLibrary.Number.Integer
import PromptLibrary.Proofs.Text.Runs
import Mathlib.Data.Nat.Digits.Defs
/-!
# Digits by their values

A digit of a base up to sixteen has a value and, where it is a letter, a case.  Text made of such
digits alone is read as the number that the values denote, however many digits there are and
whatever the case of each.
-/

namespace PromptLibrary.Proofs.Number.Digits

open PromptLibrary.Integer
open PromptLibrary.Proofs.Text.Runs (takeWhile_eq_run)

/-- A digit of a base up to sixteen; its letter may be of either case. -/
structure Digit (base : Nat) where
  value : Fin base
  upper : Bool := false
  deriving DecidableEq

def Digit.char {base : Nat} (d : Digit base) : Char :=
  if d.upper then (Nat.digitChar d.value).toUpper else Nat.digitChar d.value

/-- Digits as they are written. -/
def spelled {base : Nat} (digits : List (Digit base)) : List Char :=
  digits.map Digit.char

/-- The number that digits denote, the first being the most significant. -/
def number {base : Nat} (digits : List (Digit base)) : Nat :=
  Nat.ofDigits base (digits.reverse.map (·.value.val))

variable {base v : Nat} {digits : List (Digit base)} {c : Char}

/-! ## One digit -/

/-- A digit of a smaller base is a digit of base sixteen. -/
def Digit.widen (h : base ≤ 16) (d : Digit base) : Digit 16 :=
  ⟨d.value.castLE h, d.upper⟩

/-- What holds of the thirty-two spellings of digits. -/
theorem facts_of_sixteen : ∀ (v : Fin 16) (u : Bool),
    asciiDigit? (Digit.char ⟨v, u⟩) = some v.val ∧ toAscii (Digit.char ⟨v, u⟩) = Digit.char ⟨v, u⟩ ∧
      Text.isAsciiSpace (Digit.char ⟨v, u⟩) = false ∧
      Digit.char ⟨v, u⟩ ∉ ['_', '-', '+', 'x', 'X', '\x7d'] := by
  decide

theorem facts_of_char (h : base ≤ 16) (d : Digit base) :
    asciiDigit? d.char = some d.value.val ∧ toAscii d.char = d.char ∧
      Text.isAsciiSpace d.char = false ∧ d.char ∉ ['_', '-', '+', 'x', 'X', '\x7d'] :=
  facts_of_sixteen (d.widen h).value d.upper

theorem isDigitOf_char (h : base ≤ 16) (d : Digit base) : isDigitOf base d.char = true := by
  rw [isDigitOf, (facts_of_char h d).1]
  exact decide_eq_true d.value.isLt

theorem eq_ofNat_add {low : Nat} (h : low ≤ c.toNat) : c = Char.ofNat (c.toNat - low + low) := by
  rw [Nat.sub_add_cancel h, Char.ofNat_toNat]

theorem exists_case_of_asciiDigit (h : asciiDigit? c = some v) (hv : v < 16) :
    ∃ u, (⟨⟨v, hv⟩, u⟩ : Digit 16).char = c := by
  have hdecimal : ∀ v : Fin 10, Nat.digitChar v = Char.ofNat (v + 48) := by decide
  have hlower : ∀ v : Fin 6, Nat.digitChar (v + 10) = Char.ofNat (v + 97) := by decide
  have hupper : ∀ v : Fin 6, (Nat.digitChar (v + 10)).toUpper = Char.ofNat (v + 65) := by decide
  unfold asciiDigit? at h
  split at h
  · next hc =>
    obtain rfl : c.toNat - 48 = v := Option.some.inj h
    have hlow : 48 ≤ c.toNat := hc.1
    have hhigh : c.toNat ≤ 57 := hc.2
    exact ⟨false, (hdecimal ⟨c.toNat - 48, by omega⟩).trans (eq_ofNat_add hlow).symm⟩
  · split at h
    · next hc =>
      obtain rfl : c.toNat - 97 + 10 = v := Option.some.inj h
      have hlow : 97 ≤ c.toNat := hc.1
      exact ⟨false, (hlower ⟨c.toNat - 97, by omega⟩).trans (eq_ofNat_add hlow).symm⟩
    · split at h
      · next hc =>
        obtain rfl : c.toNat - 65 + 10 = v := Option.some.inj h
        have hlow : 65 ≤ c.toNat := hc.1
        exact ⟨true, (hupper ⟨c.toNat - 65, by omega⟩).trans (eq_ofNat_add hlow).symm⟩
      · simp at h

/-- The readers know no other digits. -/
theorem exists_digit_of_isDigitOf (hbase : base ≤ 16) (h : isDigitOf base c = true) :
    ∃ d : Digit base, d.char = c := by
  unfold isDigitOf at h
  split at h
  · next v hv =>
    have hlt : v < base := of_decide_eq_true h
    obtain ⟨u, hu⟩ := exists_case_of_asciiDigit hv (Nat.lt_of_lt_of_le hlt hbase)
    exact ⟨⟨⟨v, hlt⟩, u⟩, hu⟩
  · simp at h

/-! ## Rows of digits -/

theorem exists_digit_of_mem_spelled (hc : c ∈ spelled digits) : ∃ d ∈ digits, d.char = c :=
  List.mem_map.1 hc

theorem spelled_ne_nil (h : digits ≠ []) : spelled digits ≠ [] :=
  fun he => h (List.map_eq_nil_iff.1 he)

theorem isDigitOf_of_mem_spelled (h : base ≤ 16) (hc : c ∈ spelled digits) :
    isDigitOf base c = true := by
  obtain ⟨d, _, rfl⟩ := exists_digit_of_mem_spelled hc
  exact isDigitOf_char h d

theorem not_mem_spelled (h : base ≤ 16) (hc : c ∈ ['_', '-', '+', 'x', 'X', '\x7d']) :
    c ∉ spelled digits := by
  intro hmem
  obtain ⟨d, _, rfl⟩ := exists_digit_of_mem_spelled hmem
  exact (facts_of_char h d).2.2.2 hc

/-- Digits are read from the left, so that the last one counts least. -/
theorem ofDigits_eq (values : List Nat) :
    ofDigits base values = Nat.ofDigits base values.reverse := by
  rw [Nat.ofDigits_eq_foldr, List.foldr_reverse, ofDigits]
  congr 1
  funext n d
  rw [Nat.mul_comm, Nat.add_comm]
  rfl

theorem ofAscii_spelled (h : base ≤ 16) (digits : List (Digit base)) :
    ofAscii base (spelled digits) = number digits := by
  have hvalues : (spelled digits).filterMap asciiDigit? = digits.map (·.value.val) := by
    rw [spelled, List.filterMap_map, ← List.filterMap_eq_map]
    congr 1
    funext d
    exact (facts_of_char h d).1
  rw [ofAscii, hvalues, ofDigits_eq, ← List.map_reverse]
  rfl

/-! ## Reading rows of digits -/

theorem underscoresSeparate_of_not_mem {s : List Char} (h : '_' ∉ s) :
    underscoresSeparate s = true := by
  fun_induction underscoresSeparate s with
  | case1 => rfl
  | case2 => simp at h
  | case3 => simp at h
  | case4 c rest _ _ ih => exact ih fun hmem => h (List.mem_cons_of_mem c hmem)

theorem readDigits_spelled (h : base ≤ 16) (hne : digits ≠ []) :
    readDigits base (spelled digits) =
      if base = 10 ∧ digitLimit < digits.length then .error .tooManyDigits
      else .ok (number digits) := by
  have hfree : '_' ∉ spelled digits := not_mem_spelled h (by simp)
  have hpart : ∀ c ∈ spelled digits, (isDigitOf base c || c = '_') = true := by
    intro c hc
    rw [isDigitOf_of_mem_spelled h hc, Bool.true_or]
  obtain ⟨htake, hdrop⟩ := takeWhile_eq_run (r := []) hpart (by simp)
  rw [List.append_nil] at htake hdrop
  have hfilter : (spelled digits).filter (· ≠ '_') = spelled digits :=
    List.filter_eq_self.2 fun c hc => decide_eq_true fun he => hfree (he ▸ hc)
  have hplain : ¬ ((spelled digits).head? = some '_' ∨
      ¬ underscoresSeparate (spelled digits) = true) := by
    rintro (hhead | hrest)
    · exact hfree (List.mem_of_mem_head? hhead)
    · exact hrest (underscoresSeparate_of_not_mem hfree)
  have hwhole : ¬ (spelled digits = [] ∨ ¬ ([] : List Char).all Text.isAsciiSpace = true) := by
    rintro (he | hspace)
    · exact spelled_ne_nil hne he
    · exact hspace rfl
  unfold readDigits
  simp only [htake, hdrop, hfilter]
  rw [if_neg hplain, if_neg hwhole, ofAscii_spelled h, spelled, List.length_map]

theorem map_toAscii_spelled (h : base ≤ 16) (digits : List (Digit base)) :
    (spelled digits).map toAscii = spelled digits := by
  refine (List.map_congr_left fun c hc => ?_).trans (List.map_id _)
  obtain ⟨d, _, rfl⟩ := exists_digit_of_mem_spelled hc
  exact (facts_of_char h d).2.1

/-- No blank, no sign and no mark is taken off from digits. -/
theorem read_spelled_eq (h : base ≤ 16) (hne : digits ≠ []) :
    Integer.read base (spelled digits) =
      if base = 10 ∧ digitLimit < digits.length then .error .tooManyDigits
      else .ok (number digits) := by
  have hread := readDigits_spelled h hne
  obtain ⟨d, more, rfl⟩ := List.exists_cons_of_ne_nil hne
  obtain ⟨_, _, hspace, hmark⟩ := facts_of_char h d
  have hblank : (spelled (d :: more)).dropWhile Text.isAsciiSpace = spelled (d :: more) :=
    List.dropWhile_cons_of_neg (Bool.eq_false_iff.1 hspace)
  have hsign : takeSign (spelled (d :: more)) = (false, spelled (d :: more)) := by
    simp only [List.mem_cons, List.not_mem_nil, or_false, not_or] at hmark
    unfold takeSign spelled
    split <;> simp_all
  have hunmarked : dropMark base (spelled (d :: more)) = spelled (d :: more) := by
    cases more with
    | nil => unfold dropMark spelled; split <;> simp_all
    | cons e more =>
      have hx : ¬ (base = 16 ∧ (e.char = 'x' ∨ e.char = 'X')) := by
        have he := (facts_of_char h e).2.2.2
        simp only [List.mem_cons, List.not_mem_nil, or_false, not_or] at he
        simp [he]
      unfold dropMark spelled
      split <;> simp_all
  unfold Integer.read
  rw [map_toAscii_spelled h, hblank, hsign]
  simp only [hunmarked, hread]
  split <;> rfl

/-- **Digits are read as their number.**  Only decimal ones are limited in number. -/
theorem read_spelled (h : base ≤ 16) (hne : digits ≠ [])
    (hlimit : base = 10 → digits.length ≤ digitLimit) :
    Integer.read base (spelled digits) = .ok (number digits) := by
  rw [read_spelled_eq h hne, if_neg]
  exact fun hlong => Nat.not_lt.2 (hlimit hlong.1) hlong.2

end PromptLibrary.Proofs.Number.Digits
