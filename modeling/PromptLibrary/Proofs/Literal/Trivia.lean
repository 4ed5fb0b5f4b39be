import PromptLibrary.Proofs.Text.Classes
/-!
# The grammar of trivia

What stands between tokens is a sequence of blanks and comments.  The reader of trivia takes the
longest such sequence; a derivation may stop earlier, as long as the reader would go on from there
to the same place.
-/

namespace PromptLibrary.Proofs.Literal.Trivia

open PromptLibrary.Literal

/-- Blanks and comments at the front of a text, and the text after them.  A comment to the end of
the line ends with its line feed or with the text; the others end with the first `*/`.  Each
comment has to be `allowed`. -/
inductive Trivia (allowed : List Char → Prop) : List Char → List Char → Prop where
  | none {s : List Char} : Trivia allowed s s
  | blank {c : Char} {s r : List Char} (hc : isBlank c = true) (h : Trivia allowed s r) :
      Trivia allowed (c :: s) r
  | line {body s r : List Char} (hb : '\n' ∉ body) (ha : allowed ('/' :: '/' :: body))
      (h : Trivia allowed s r) : Trivia allowed ('/' :: '/' :: (body ++ '\n' :: s)) r
  | lastLine {body : List Char} (hb : '\n' ∉ body) (ha : allowed ('/' :: '/' :: body)) :
      Trivia allowed ('/' :: '/' :: body) []
  | block {body s r : List Char} (hb : ¬ ['*', '/'] <:+: body)
      (ha : allowed ('/' :: '*' :: (body ++ ['*', '/']))) (h : Trivia allowed s r) :
      Trivia allowed ('/' :: '*' :: (body ++ '*' :: '/' :: s)) r

variable {allowed : List Char → Prop} {body s t r k : List Char} {c : Char}

theorem trivia_trans (h₁ : Trivia allowed s t) (h₂ : Trivia allowed t r) :
    Trivia allowed s r := by
  induction h₁ with
  | none => exact h₂
  | blank hc _ ih => exact .blank hc (ih h₂)
  | line hb ha _ ih => exact .line hb ha (ih h₂)
  | lastLine hb ha =>
    cases h₂ with
    | none => exact .lastLine hb ha
  | block hb ha _ ih => exact .block hb ha (ih h₂)

/-- Text that is put after the rest is not looked at, unless nothing was left. -/
theorem trivia_append (h : Trivia allowed s r) (hr : r ≠ []) :
    Trivia allowed (s ++ k) (r ++ k) := by
  induction h with
  | none => exact .none
  | blank hc _ ih => exact .blank hc (ih hr)
  | line hb ha _ ih =>
    have h := Trivia.line hb ha (ih hr)
    simpa using h
  | lastLine _ _ => exact absurd rfl hr
  | block hb ha _ ih =>
    have h := Trivia.block hb ha (ih hr)
    simpa using h

/-! ## The ends of comments -/

theorem afterLine_append (hb : '\n' ∉ body) : afterLine (body ++ '\n' :: s) = s := by
  induction body with
  | nil => rw [List.nil_append, afterLine, if_pos rfl]
  | cons c body ih =>
    rw [List.mem_cons, not_or] at hb
    rw [List.cons_append, afterLine, if_neg (Ne.symm hb.1), ih hb.2]

theorem afterLine_eq_nil (hb : '\n' ∉ s) : afterLine s = [] := by
  induction s with
  | nil => rfl
  | cons c s ih =>
    rw [List.mem_cons, not_or] at hb
    rw [afterLine, if_neg (Ne.symm hb.1), ih hb.2]

theorem exists_line (h : '\n' ∈ s) : ∃ body, '\n' ∉ body ∧ s = body ++ '\n' :: afterLine s := by
  induction s with
  | nil => exact absurd h (by simp)
  | cons c s ih =>
    rw [afterLine]
    by_cases hc : c = '\n'
    · rw [if_pos hc, hc]
      exact ⟨[], by simp, rfl⟩
    · rw [if_neg hc]
      rw [List.mem_cons] at h
      obtain ⟨body, hb, hs⟩ := ih (h.resolve_left (Ne.symm hc))
      exact ⟨c :: body, by simp [hb, Ne.symm hc], by rw [List.cons_append, ← hs]⟩

theorem afterComment_append (hb : ¬ ['*', '/'] <:+: body) :
    afterComment? (body ++ '*' :: '/' :: s) = some s := by
  induction body with
  | nil => rfl
  | cons c body ih =>
    have hrest : ¬ ['*', '/'] <:+: body := fun h => hb (List.infix_cons h)
    have hstep : afterComment? (c :: (body ++ '*' :: '/' :: s)) =
        afterComment? (body ++ '*' :: '/' :: s) := by
      rw [afterComment?]
      rintro rest rfl
      cases body with
      | nil => simp
      | cons d body =>
        rw [List.cons_append, List.cons.injEq]
        rintro ⟨rfl, _⟩
        exact hb ⟨[], body, rfl⟩
    rw [List.cons_append, hstep, ih hrest]

theorem exists_comment (h : afterComment? s = some r) :
    ∃ body, ¬ ['*', '/'] <:+: body ∧ s = body ++ '*' :: '/' :: r := by
  fun_induction afterComment? s with
  | case1 => simp at h
  | case2 rest =>
    rw [Option.some.injEq] at h
    exact ⟨[], by simp, by rw [h, List.nil_append]⟩
  | case3 c rest hne ih =>
    obtain ⟨body, hb, hs⟩ := ih h
    refine ⟨c :: body, ?_, by rw [hs, List.cons_append]⟩
    rw [List.infix_cons_iff, not_or]
    refine ⟨?_, hb⟩
    rintro ⟨more, hm⟩
    simp only [List.cons_append, List.nil_append, List.cons.injEq] at hm
    obtain ⟨rfl, rfl⟩ := hm
    exact hne _ rfl (by rw [hs, List.cons_append])

/-! ## The reader of trivia -/

theorem skipTrivia_blank (hc : isBlank c = true) : skipTrivia (c :: s) = skipTrivia s := by
  have hne : c ≠ '/' := by
    rintro rfl
    exact absurd hc (by decide)
  rw [skipTrivia]
  · rw [if_pos hc]
  · rintro rest rfl
    exact absurd rfl hne
  · rintro rest rfl
    exact absurd rfl hne

/-- The reader stays in front of a character that begins no trivia. -/
theorem skipTrivia_token (hc : isBlank c = false) (hne : c ≠ '/') :
    skipTrivia (c :: s) = .ok (c :: s) := by
  rw [skipTrivia]
  · rw [hc, if_neg Bool.false_ne_true]
  · rintro rest rfl
    exact absurd rfl hne
  · rintro rest rfl
    exact absurd rfl hne

theorem skipTrivia_nil : skipTrivia [] = .ok [] := by
  rw [skipTrivia]

theorem skipTrivia_line : skipTrivia ('/' :: '/' :: s) = skipTrivia (afterLine s) := by
  rw [skipTrivia]

theorem skipTrivia_block (h : afterComment? s = some r) :
    skipTrivia ('/' :: '*' :: s) = skipTrivia r := by
  rw [skipTrivia]
  split
  · next hn => simp [h] at hn
  · next hs =>
    rw [h, Option.some.injEq] at hs
    rw [hs]

/-- What a derivation takes off, the reader takes off too. -/
theorem skipTrivia_of_trivia (h : Trivia allowed s r) : skipTrivia s = skipTrivia r := by
  induction h with
  | none => rfl
  | blank hc _ ih => rw [skipTrivia_blank hc, ih]
  | line hb _ _ ih => rw [skipTrivia_line, afterLine_append hb, ih]
  | lastLine hb _ => rw [skipTrivia_line, afterLine_eq_nil hb]
  | block hb _ _ ih => rw [skipTrivia_block (afterComment_append hb), ih]

/-- Any comment is allowed. -/
abbrev anything : List Char → Prop := fun _ => True

theorem trivia_of_skipTrivia (h : skipTrivia s = .ok r) : Trivia anything s r := by
  fun_induction skipTrivia s with
  | case1 =>
    rw [Except.ok.injEq] at h
    exact h ▸ .none
  | case2 rest _ ih =>
    by_cases hn : '\n' ∈ rest
    · obtain ⟨body, hb, hs⟩ := exists_line hn
      rw [hs]
      exact .line hb trivial (ih h)
    · rw [afterLine_eq_nil hn, skipTrivia, Except.ok.injEq] at h
      exact h ▸ .lastLine hn trivial
  | case3 => simp at h
  | case4 rest after ha _ ih =>
    obtain ⟨body, hb, rfl⟩ := exists_comment ha
    exact .block hb trivial (ih h)
  | case5 c rest _ _ hc ih => exact .blank hc (ih h)
  | case6 c rest _ _ hc =>
    rw [Except.ok.injEq] at h
    exact h ▸ .none

theorem skipTrivia_idem (h : skipTrivia s = .ok r) : skipTrivia r = .ok r := by
  rw [← skipTrivia_of_trivia (trivia_of_skipTrivia h), h]

end PromptLibrary.Proofs.Literal.Trivia
