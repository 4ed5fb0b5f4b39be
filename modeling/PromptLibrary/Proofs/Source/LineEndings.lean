import PromptLibrary.Proofs.Source.Balanced
import PromptLibrary.Proofs.Text.LineEndings
/-!
# Line endings in source text

Neither the search for a literal nor the scan of its braces sees whether a line ends in one
character or in two.  A line break has no meaning to the scan but that a backslash in front of it is
used up, and then it is used up by the first of the two characters.
-/

namespace PromptLibrary.Proofs.Source.LineEndings

open PromptLibrary.Source
open PromptLibrary.Proofs.Source.Place
open PromptLibrary.Proofs.Source.Balanced
open PromptLibrary.Proofs.Text.LineEndings

variable {s t p q source source' marker rest : List Char} {c : Char} {state : Scan}
  {x y : Except Scan (Scan × List Char)}

/-! ## The scan -/

theorem step_of_isBreak (hc : IsBreak c) : state.step c = { state with escaped := false } := by
  obtain ⟨depth, deepest, quote, escaped⟩ := state
  rcases hc with rfl | rfl <;> cases escaped <;> cases quote <;> rfl

/-- Two scans that stopped in one state, behind what they read off `s` and `t`. -/
inductive SameRun (s t : List Char) :
    Except Scan (Scan × List Char) → Except Scan (Scan × List Char) → Prop where
  | stuck {state : Scan} : SameRun s t (.error state) (.error state)
  | ended {state : Scan} {p q r r' : List Char} (hs : s = p ++ r) (ht : t = q ++ r')
      (h : WithReturns p q) : SameRun s t (.ok (state, r)) (.ok (state, r'))

theorem SameRun.append (hp : WithReturns p q) (h : SameRun s t x y) :
    SameRun (p ++ s) (q ++ t) x y := by
  cases h with
  | stuck => exact .stuck
  | ended hs ht h =>
    subst hs ht
    exact .ended (List.append_assoc _ _ _).symm (List.append_assoc _ _ _).symm
      (withReturns_append hp h)

/-- Inside of braces a line break only uses up a backslash in front of it. -/
theorem run_of_isBreak (hc : IsBreak c) (hd : state.depth ≠ 0) :
    Scan.run state (c :: s) = Scan.run { state with escaped := false } s := by
  rw [Scan.run, step_of_isBreak hc]
  exact if_neg hd

theorem run_pair (hd : state.depth ≠ 0) :
    Scan.run state ('\r' :: '\n' :: s) = Scan.run { state with escaped := false } s :=
  (run_of_isBreak (.inr rfl) hd).trans (run_of_isBreak (.inl rfl) hd)

theorem sameRun_of_withReturns (h : WithReturns s t) (hd : state.depth ≠ 0) :
    SameRun s t (Scan.run state s) (Scan.run state t) := by
  induction h generalizing state with
  | nil => exact .stuck
  | @char c s t hc h ih =>
    have hself : WithReturns [c] [c] := .char hc .nil
    rw [Scan.run, Scan.run]
    by_cases hdepth : (state.step c).depth = 0
    · rw [if_pos hdepth, if_pos hdepth]
      exact .ended (p := [c]) (q := [c]) rfl rfl hself
    · rw [if_neg hdepth, if_neg hdepth]
      exact (ih hdepth).append hself
  | feed h ih =>
    rw [run_of_isBreak (.inl rfl) hd, run_of_isBreak (.inl rfl) hd]
    exact SameRun.append (.feed .nil) (@ih { state with escaped := false } hd)
  | pair h ih =>
    rw [run_of_isBreak (.inl rfl) hd, run_pair hd]
    exact SameRun.append (.pair .nil) (@ih { state with escaped := false } hd)

/-! ## Extraction -/

theorem take_length_sub : (p ++ q).take ((p ++ q).length - q.length) = p := by
  rw [List.length_append, Nat.add_sub_cancel, List.take_left]

/-- Errors of extraction for one cause. -/
inductive SameCause : ExtractError → ExtractError → Prop where
  | marker {m m' : List Char} : SameCause (.markerNotFound m) (.markerNotFound m')
  | equals {m m' : List Char} {n n' : Nat} :
      SameCause (.assignmentNotFound m n) (.assignmentNotFound m' n')
  | brace {n n' : Nat} : SameCause (.objectNotFound n) (.objectNotFound n')
  | unbalanced {n n' depth depth' : Nat} {quote quote' : QuoteMode} :
      SameCause (.unbalanced n depth quote) (.unbalanced n' depth' quote')

theorem exists_cons_of_fromFirst (h : Search.fromFirst? [c] source = some s) :
    ∃ rest, s = c :: rest := by
  obtain ⟨i, hi, rfl⟩ := fromFirst_eq_some_iff.1 h
  obtain ⟨rest, hrest⟩ := hi.here
  exact ⟨rest, hrest.symm⟩

theorem fromLiteral_of_withReturns (h : WithReturns source source') (hne : marker ≠ [])
    (hmarker : ∀ c ∈ marker, ¬ IsBreak c) :
    (∃ e e', fromLiteral source marker = .error e ∧ fromLiteral source' marker = .error e' ∧
      SameCause e e') ∨
    ∃ s t, fromLiteral source marker = .ok ('\x7b' :: s) ∧
      fromLiteral source' marker = .ok ('\x7b' :: t) ∧ WithReturns s t := by
  unfold fromLiteral
  rcases cases_of_rel (rel_fromFirst h hne hmarker) with ⟨hs, ht⟩ | ⟨m, m', hs, ht, hm⟩
  · exact .inl ⟨_, _, by rw [hs], by rw [ht], .marker⟩
  have hequals : Option.Rel WithReturns (Search.fromFirst? ['='] m) (Search.fromFirst? ['='] m') :=
    rel_fromFirst hm (by decide) (by simp [IsBreak])
  rw [hs, ht]
  simp only
  rcases cases_of_rel hequals with ⟨hs, ht⟩ | ⟨q, q', hs, ht, hq⟩
  · exact .inl ⟨_, _, by rw [hs], by rw [ht], .equals⟩
  have hbrace : Option.Rel WithReturns (Search.fromFirst? ['\x7b'] q)
      (Search.fromFirst? ['\x7b'] q') :=
    rel_fromFirst hq (by decide) (by simp [IsBreak])
  rw [hs, ht]
  simp only
  rcases cases_of_rel hbrace with ⟨hs, ht⟩ | ⟨b, b', hs, ht, hb⟩
  · exact .inl ⟨_, _, by rw [hs], by rw [ht], .brace⟩
  rw [hs, ht]
  obtain ⟨s, rfl⟩ := exists_cons_of_fromFirst hs
  obtain ⟨t, rfl, hrest⟩ := exists_of_cons hb (by decide)
  exact .inr ⟨s, t, rfl, rfl, hrest⟩

/-- **Extraction finds the same literal, line breaks aside, or fails for the same cause.** -/
theorem extract_of_withReturns (h : WithReturns source source') (hne : marker ≠ [])
    (hmarker : ∀ c ∈ marker, ¬ IsBreak c) :
    (∃ e e', extract source marker = .error e ∧ extract source' marker = .error e' ∧
      SameCause e e') ∨
    ∃ found found', extract source marker = .ok found ∧ extract source' marker = .ok found' ∧
      WithReturns found.text found'.text := by
  unfold extract
  rcases fromLiteral_of_withReturns h hne hmarker with
    ⟨e, e', hs, ht, hcause⟩ | ⟨s, t, hs, ht, hst⟩
  · exact .inl ⟨e, e', by rw [hs], by rw [ht], hcause⟩
  have hrun : SameRun s t (Scan.run (outside 1 1) s) (Scan.run (outside 1 1) t) :=
    sameRun_of_withReturns hst (by decide)
  have hopen (s : List Char) : Scan.run {} ('\x7b' :: s) = Scan.run (outside 1 1) s := run_open
  rw [hs, ht]
  simp only [hopen]
  generalize Scan.run (outside 1 1) s = x at hrun
  generalize Scan.run (outside 1 1) t = y at hrun
  cases hrun with
  | stuck => exact .inl ⟨_, _, rfl, rfl, .unbalanced⟩
  | ended hp hq hpq =>
    subst hp hq
    refine .inr ⟨_, _, rfl, rfl, ?_⟩
    rw [← List.cons_append, ← List.cons_append, take_length_sub, take_length_sub]
    exact .char (by decide) hpq

end PromptLibrary.Proofs.Source.LineEndings
