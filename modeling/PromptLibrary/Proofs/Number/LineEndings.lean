import PromptLibrary.Proofs.Number.Grammar
import PromptLibrary.Proofs.Text.LineEndings
/-!
# Line endings around integers

Integer text has blanks around it and none inside, so the way in which its lines end does not change
what it denotes.
-/

namespace PromptLibrary.Proofs.Number.LineEndings

open PromptLibrary.Text
open PromptLibrary.Integer
open PromptLibrary.Proofs.Text.Runs
open PromptLibrary.Proofs.Text.LineEndings

variable {base : Nat} {s t : List Char} {c x : Char}

theorem isDigitOf_break (base : Nat) :
    isDigitOf base '\n' = false ∧ isDigitOf base '\r' = false :=
  ⟨rfl, rfl⟩

theorem not_isBreak_toAscii (hc : ¬ IsBreak c) : ¬ IsBreak (toAscii c) := by
  have hdigit : ∀ d < 10, ¬ IsBreak (Char.ofNat ('0'.toNat + d)) := by decide
  unfold toAscii
  split
  · exact hc
  split
  · decide
  split
  · next d hd =>
    obtain ⟨run, _, rfl⟩ := Option.map_eq_some_iff.1 hd
    exact hdigit _ (Nat.mod_lt _ (by decide))
  · decide

theorem readDigits_eq (base : Nat) (h : WithReturns s t) :
    readDigits base t = readDigits base s := by
  obtain ⟨hrun, hafter⟩ := runs_eq (p := fun c => isDigitOf base c || c = '_') h
    (by simp [isDigitOf_break]) (by simp [isDigitOf_break])
  have hall := all_eq (p := isAsciiSpace) hafter rfl
  simp only [readDigits, hrun, hall]

theorem takeSign_of_withReturns (h : WithReturns s t) :
    (takeSign t).1 = (takeSign s).1 ∧ WithReturns (takeSign s).2 (takeSign t).2 := by
  fun_cases takeSign s with
  | case1 s =>
    obtain ⟨t, rfl, hrest⟩ := exists_of_cons h (by decide)
    exact ⟨rfl, hrest⟩
  | case2 s =>
    obtain ⟨t, rfl, hrest⟩ := exists_of_cons h (by decide)
    exact ⟨rfl, hrest⟩
  | case3 s hminus hplus =>
    rw [takeSign.eq_3 t (ne_cons h (by decide) hminus) (ne_cons h (by decide) hplus)]
    exact ⟨rfl, h⟩

/-- The mark of base 16 is in front. -/
def Marked (base : Nat) (s : List Char) : Prop :=
  ∃ x rest, s = '0' :: x :: rest ∧ base = 16 ∧ (x = 'x' ∨ x = 'X')

theorem not_isBreak_of_mark (hx : base = 16 ∧ (x = 'x' ∨ x = 'X')) : ¬ IsBreak x := by
  rcases hx.2 with rfl | rfl <;> decide

theorem dropMark_of_mark (hx : base = 16 ∧ (x = 'x' ∨ x = 'X')) :
    dropMark base ('0' :: x :: s) = if s.head? = some '_' then s.tail else s := by
  unfold dropMark
  simp only [if_pos hx]
  split
  · rfl
  · next hne => exact (if_neg (head?_ne_of_ne_cons hne)).symm

theorem dropMark_of_not_marked (h : ¬ Marked base s) : dropMark base s = s := by
  unfold dropMark
  split
  · next x rest => exact if_neg fun hx => h ⟨x, rest, rfl, hx⟩
  · rfl

theorem dropMark_of_withReturns (base : Nat) (h : WithReturns s t) :
    WithReturns (dropMark base s) (dropMark base t) := by
  by_cases hm : Marked base s
  · obtain ⟨x, s, rfl, hx⟩ := hm
    obtain ⟨t, rfl, hrest⟩ := exists_of_cons_cons h (by decide) (not_isBreak_of_mark hx)
    have hsame := head?_eq_some_iff (c := '_') hrest (by decide)
    simp only [dropMark_of_mark hx]
    by_cases hunderscore : s.head? = some '_'
    · rw [if_pos hunderscore, if_pos (hsame.1 hunderscore)]
      exact withReturns_tail hrest hunderscore (by decide)
    · rw [if_neg hunderscore, if_neg (mt hsame.2 hunderscore)]
      exact hrest
  · have ht : ¬ Marked base t := by
      rintro ⟨x, t, rfl, hx⟩
      obtain ⟨_, rfl, hrest⟩ := exists_of_cons_right h (by decide)
      obtain ⟨s, rfl, _⟩ := exists_of_cons_right hrest (not_isBreak_of_mark hx)
      exact hm ⟨x, s, rfl, hx⟩
    rw [dropMark_of_not_marked hm, dropMark_of_not_marked ht]
    exact h

/-- **Integer text is read alike however its lines end.** -/
theorem read_eq (base : Nat) (h : WithReturns s t) :
    Integer.read base t = Integer.read base s := by
  have hascii : WithReturns (s.map toAscii) (t.map toAscii) :=
    withReturns_map h rfl rfl fun _ => not_isBreak_toAscii
  have hblank := (runs (p := isAsciiSpace) hascii rfl).2
  obtain ⟨hsign, hrest⟩ := takeSign_of_withReturns hblank
  simp only [Integer.read, hsign, readDigits_eq base (dropMark_of_withReturns base hrest)]

end PromptLibrary.Proofs.Number.LineEndings
