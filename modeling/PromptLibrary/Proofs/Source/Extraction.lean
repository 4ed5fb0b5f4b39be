import PromptLibrary.Proofs.Source.Balanced
/-!
# Extraction recognises balanced literals

Extraction is the search for the opening brace followed by the scan.  Its answer is settled by the
grammar alone: it is the one literal that stands at the brace, and an error if none does.
-/

namespace PromptLibrary.Proofs.Source.Extraction

open PromptLibrary.Source
open PromptLibrary.Proofs.Source.Place
open PromptLibrary.Proofs.Source.Balanced

variable {source marker : List Char} {start : Nat}

theorem extract_of_missing {e : ExtractError} (h : Located source marker (.error e)) :
    extract source marker = .error e := by
  have hl := locate_of_located h
  unfold locate at hl
  unfold extract
  cases hf : fromLiteral source marker with
  | error e' =>
    rw [hf] at hl
    simpa [Except.map] using hl
  | ok rest =>
    rw [hf] at hl
    exact absurd hl (by simp [Except.map])

/-- What extraction makes of a scan that ends. -/
theorem extract_of_run {state : Scan} {after : List Char} (h : Located source marker (.ok start))
    (hr : Scan.run {} (source.drop start) = .ok (state, after)) :
    extract source marker =
      .ok ⟨(source.drop start).take ((source.drop start).length - after.length), start,
        start + ((source.drop start).length - after.length), state.deepest⟩ := by
  obtain ⟨hf, hle, _⟩ := fromLiteral_of_located h
  simp only [extract, hf, hr, length_sub_length_drop hle]

theorem extract_of_stuck {state : Scan} (h : Located source marker (.ok start))
    (hr : Scan.run {} (source.drop start) = .error state) :
    extract source marker = .error (.unbalanced start state.depth state.quote) := by
  obtain ⟨hf, hle, _⟩ := fromLiteral_of_located h
  simp only [extract, hf, hr, length_sub_length_drop hle]

theorem extract_of_literal {d : Nat} {p : List Char} (h : Located source marker (.ok start))
    (hp : Literal d p) (hpre : p <+: source.drop start) :
    extract source marker = .ok ⟨p, start, start + p.length, d⟩ := by
  obtain ⟨after, ha⟩ := hpre
  have hlen : (source.drop start).length - after.length = p.length := by
    rw [← ha, List.length_append]
    omega
  rw [extract_of_run h (by rw [← ha]; exact run_literal hp), hlen, ← ha, List.take_left]
  rfl

theorem exists_literal_of_extract {found : Extracted} (h : Located source marker (.ok start))
    (he : extract source marker = .ok found) :
    ∃ d p, Literal d p ∧ p <+: source.drop start ∧ found = ⟨p, start, start + p.length, d⟩ := by
  cases hr : Scan.run {} (source.drop start) with
  | error state =>
    rw [extract_of_stuck h hr] at he
    exact absurd he (by simp)
  | ok x =>
    obtain ⟨state, after⟩ := x
    obtain ⟨_, _, rest, hrest⟩ := fromLiteral_of_located h
    obtain ⟨d, p, hp, heq, _⟩ := exists_literal_of_run (by rw [← hrest]; exact hr)
    have hpre : p <+: source.drop start := ⟨after, by rw [hrest, heq]⟩
    refine ⟨d, p, hp, hpre, ?_⟩
    rw [extract_of_literal h hp hpre] at he
    exact (Except.ok.inj he).symm

/-- Extraction answers with the literal at the brace, which is the only one that stands there. -/
theorem extract_eq_ok_iff {found : Extracted} (h : Located source marker (.ok start)) :
    extract source marker = .ok found ↔
      ∃ d p, Literal d p ∧ p <+: source.drop start ∧ found = ⟨p, start, start + p.length, d⟩ := by
  constructor
  · exact exists_literal_of_extract h
  · rintro ⟨d, p, hp, hpre, rfl⟩
    exact extract_of_literal h hp hpre

theorem extract_unbalanced_iff (h : Located source marker (.ok start)) :
    (∃ depth quote, extract source marker = .error (.unbalanced start depth quote)) ↔
      ¬ ∃ d p, Literal d p ∧ p <+: source.drop start := by
  constructor
  · rintro ⟨depth, quote, he⟩ ⟨d, p, hp, hpre⟩
    rw [extract_of_literal h hp hpre] at he
    exact absurd he (by simp)
  · intro hn
    cases hr : Scan.run {} (source.drop start) with
    | error state => exact ⟨_, _, extract_of_stuck h hr⟩
    | ok x =>
      obtain ⟨d, p, hp, hpre, _⟩ := exists_literal_of_extract h (extract_of_run h hr)
      exact absurd ⟨d, p, hp, hpre⟩ hn

/-- **Extraction recognises exactly the balanced literals.**  Its errors before the scan are those
of the search for the brace.  From the brace on it finds the literal that stands there, with its
span and its depth, or it reports the brace as unbalanced; and no literal is the beginning of
another one, so there is never a choice. -/
theorem extract_recognises_balanced_literals (source marker : List Char) :
    (∀ r, locate source marker = r ↔ Located source marker r) ∧
    (∀ e, Located source marker (.error e) → extract source marker = .error e) ∧
    (∀ start, Located source marker (.ok start) →
      (∀ found, extract source marker = .ok found ↔
        ∃ d p, Literal d p ∧ p <+: source.drop start ∧ found = ⟨p, start, start + p.length, d⟩) ∧
      ((∃ depth quote, extract source marker = .error (.unbalanced start depth quote)) ↔
        ¬ ∃ d p, Literal d p ∧ p <+: source.drop start)) ∧
    (∀ d e p q, Literal d p → Literal e q → p <+: q → p = q ∧ d = e) := by
  refine ⟨fun r => located_iff.symm, fun e => extract_of_missing, fun start h => ?_, ?_⟩
  · exact ⟨fun found => extract_eq_ok_iff h, extract_unbalanced_iff h⟩
  · intro d e p q hp hq hpre
    exact literal_prefix_unique hp hq hpre

end PromptLibrary.Proofs.Source.Extraction
