import PromptLibrary.Literal.Name
import PromptLibrary.Literal.Trivia
/-!
# Classes of characters that do not meet

The first character of a token tells its kind because the classes it may come from have no member
in common.  The classes are tables of ranges; two tables are apart when each range of one lies
beside each range of the other, which is a finite check.
-/

namespace PromptLibrary.Proofs.Text.Classes

open PromptLibrary.Text
open PromptLibrary.Literal

/-- Each range of one table lies below or above each range of the other. -/
def apart (a b : Ranges) : Bool :=
  a.all fun x => b.all fun y => Nat.blt x.2 y.1 || Nat.blt y.2 x.1

theorem exists_range_of_contains {a : Ranges} {n : Nat} (h : a.contains n = true) :
    ∃ x ∈ a, x.1 ≤ n ∧ n ≤ x.2 := by
  induction a with
  | nil => simp [Ranges.contains] at h
  | cons x rest ih =>
    simp only [Ranges.contains, Bool.and_eq_true, decide_eq_true_eq, Bool.or_eq_true] at h
    rcases h with ⟨hlow, hhigh | hrest⟩
    · exact ⟨x, List.mem_cons_self, hlow, hhigh⟩
    · obtain ⟨y, hy, hn⟩ := ih hrest
      exact ⟨y, List.mem_cons_of_mem x hy, hn⟩

/-- Tables that are apart have no member in common. -/
theorem not_contains_of_apart {a b : Ranges} {n : Nat} (hab : apart a b = true)
    (ha : a.contains n = true) : b.contains n = false := by
  rw [Bool.eq_false_iff]
  intro hb
  obtain ⟨x, hx, hxn⟩ := exists_range_of_contains ha
  obtain ⟨y, hy, hyn⟩ := exists_range_of_contains hb
  have hxy := List.all_eq_true.1 (List.all_eq_true.1 hab x hx) y hy
  simp only [Bool.or_eq_true, Nat.blt_eq] at hxy
  omega

theorem apart_letter_decimal : apart letterRanges decimalRanges = true := by
  decide +kernel

theorem apart_letter_looseDigit : apart letterRanges looseDigitRanges = true := by
  decide +kernel

theorem apart_letter_whiteSpace : apart letterRanges whiteSpaceRanges = true := by
  decide +kernel

theorem apart_decimal_whiteSpace : apart decimalRanges whiteSpaceRanges = true := by
  decide +kernel

variable {c : Char}

theorem isDigit_of_isDecimal (h : isDecimal c = true) : isDigit c = true := by
  rw [isDigit, h, Bool.true_or]

theorem isDigit_of_isLetter (h : isLetter c = true) : isDigit c = false := by
  rw [isDigit, isDecimal, not_contains_of_apart apart_letter_decimal h,
    not_contains_of_apart apart_letter_looseDigit h, Bool.or_false]

theorem isDigit_of_isNameStart (h : isNameStart c = true) : isDigit c = false := by
  simp only [isNameStart, Bool.or_eq_true, decide_eq_true_eq] at h
  rcases h with (h | rfl) | rfl
  · exact isDigit_of_isLetter h
  · decide
  · decide

theorem isBlank_of_isNameStart (h : isNameStart c = true) : isBlank c = false := by
  simp only [isNameStart, Bool.or_eq_true, decide_eq_true_eq] at h
  rcases h with (h | rfl) | rfl
  · have hne : c ≠ '\uFEFF' := by
      rintro rfl
      exact absurd h (by decide +kernel)
    rw [isBlank, isWhiteSpace, not_contains_of_apart apart_letter_whiteSpace h, Bool.false_or,
      decide_eq_false hne]
  · decide
  · decide

theorem isBlank_of_isDecimal (h : isDecimal c = true) : isBlank c = false := by
  have hne : c ≠ '\uFEFF' := by
    rintro rfl
    exact absurd h (by decide)
  rw [isBlank, isWhiteSpace, not_contains_of_apart apart_decimal_whiteSpace h, Bool.false_or,
    decide_eq_false hne]

end PromptLibrary.Proofs.Text.Classes
