import PromptLibrary.Number.Integer
/-!
# The characters of integer text

Integer text holds digits of its base, blanks, underscores, a sign and the mark of base 16, and
nothing else.
-/

namespace PromptLibrary.Proofs.Number.Integer

open PromptLibrary.Integer

variable {base n : Nat} {i : Int} {s : List Char} {c : Char}

/-- The characters of integer text, after those of other scripts have been replaced. -/
def IsIntegerChar (base : Nat) (c : Char) : Prop :=
  Text.isAsciiSpace c = true ∨ isDigitOf base c = true ∨ c ∈ ['_', '-', '+', '0', 'x', 'X']

instance : Decidable (IsIntegerChar base c) :=
  inferInstanceAs (Decidable (_ ∨ _ ∨ _))

theorem isIntegerChar_of_readDigits (h : readDigits base s = .ok n) (hc : c ∈ s) :
    IsIntegerChar base c := by
  have hsplit : s.takeWhile (fun c => isDigitOf base c || c = '_') ++
      s.dropWhile (fun c => isDigitOf base c || c = '_') = s := List.takeWhile_append_dropWhile
  rw [← hsplit, List.mem_append] at hc
  rcases hc with hrun | hend
  · have hpart := List.all_eq_true.1 List.all_takeWhile c hrun
    simp only [Bool.or_eq_true, decide_eq_true_eq] at hpart
    rcases hpart with hd | rfl
    · exact .inr (.inl hd)
    · exact .inr (.inr (by simp))
  · unfold readDigits at h
    simp only at h
    iterate 2 (split at h; · simp at h)
    split at h
    · simp at h
    · next hspaces =>
      rw [not_or, Classical.not_not] at hspaces
      exact .inl (List.all_eq_true.1 hspaces.2 c hend)

theorem mem_dropMark (base : Nat) (hc : c ∈ s) :
    c ∈ dropMark base s ∨ c ∈ ['_', '0', 'x', 'X'] := by
  unfold dropMark
  split
  · next x rest =>
    split
    · next hx =>
      rw [List.mem_cons, List.mem_cons] at hc
      rcases hc with rfl | rfl | hc
      · exact .inr (by simp)
      · exact .inr (by rcases hx.2 with rfl | rfl <;> simp)
      · split
        · rw [List.mem_cons] at hc
          rcases hc with rfl | hc
          · exact .inr (by simp)
          · exact .inl hc
        · exact .inl hc
    · exact .inl hc
  · exact .inl hc

theorem mem_takeSign (hc : c ∈ s) : c ∈ (takeSign s).2 ∨ c ∈ ['-', '+'] := by
  unfold takeSign
  split
  · rw [List.mem_cons] at hc
    rcases hc with rfl | hc
    · exact .inr (by simp)
    · exact .inl hc
  · rw [List.mem_cons] at hc
    rcases hc with rfl | hc
    · exact .inr (by simp)
    · exact .inl hc
  · exact .inl hc

/-- **Integer text has no other characters.** -/
theorem isIntegerChar_of_read (h : Integer.read base s = .ok i) (hc : c ∈ s) :
    IsIntegerChar base (toAscii c) := by
  have hascii : toAscii c ∈ s.map toAscii := List.mem_map_of_mem hc
  rw [← List.takeWhile_append_dropWhile (p := Text.isAsciiSpace) (l := s.map toAscii),
    List.mem_append] at hascii
  rcases hascii with hblank | hrest
  · exact .inl (List.all_eq_true.1 List.all_takeWhile _ hblank)
  · unfold Integer.read at h
    simp only at h
    cases hd : readDigits base
        (dropMark base (takeSign ((s.map toAscii).dropWhile Text.isAsciiSpace)).2) with
    | error e => simp [hd, Except.map] at h
    | ok n =>
      rcases mem_takeSign hrest with hunsigned | hsign
      · rcases mem_dropMark base hunsigned with hdigits | hmark
        · exact isIntegerChar_of_readDigits hd hdigits
        · simp only [List.mem_cons, List.not_mem_nil, or_false] at hmark
          exact .inr (.inr (by rcases hmark with h | h | h | h <;> simp [h]))
      · simp only [List.mem_cons, List.not_mem_nil, or_false] at hsign
        exact .inr (.inr (by rcases hsign with h | h <;> simp [h]))

end PromptLibrary.Proofs.Number.Integer
