import PromptLibrary.Literal.Number
import PromptLibrary.Proofs.Text.Classes
import PromptLibrary.Proofs.Text.Runs
/-!
# Numbers as tokens

Where a number may begin, which characters it takes, and how far it looks ahead.  A number is read
to its end only if no name goes on there, so that a text in which something follows the number
reads the same when more is put after it: marks such as `0x` or `1e` that wait for digits at the
end of a text would go on as a name.
-/

namespace PromptLibrary.Proofs.Literal.Number

open PromptLibrary.Text
open PromptLibrary.Literal
open PromptLibrary.Proofs.Text.Classes
open PromptLibrary.Proofs.Text.Runs

variable {s r k rest : List Char} {c e mark : Char} {base : Nat} {body : NumberBody} {n : Number}
  {v : Value} {power : Option (Char × Option Char × List Char)}

/-! ## The first character -/

theorem decimalBody_nil : decimalBody? [] = none :=
  rfl

theorem radixBody_nil : radixBody? [] = none :=
  rfl

theorem head_of_decimalBody (h : decimalBody? (c :: s) = some (body, r)) :
    c = '.' ∨ isDecimal c = true := by
  by_cases hc : isDecimal c = true
  · exact .inr hc
  · left
    unfold decimalBody? at h
    rw [List.takeWhile_cons_of_neg hc, List.dropWhile_cons_of_neg hc] at h
    split at h
    · next heq => exact (List.cons.inj heq).1
    · simp at h

theorem head_of_radixBody (h : radixBody? (c :: s) = some (body, r)) : c = '0' := by
  unfold radixBody? at h
  split at h
  · next heq => exact (List.cons.inj heq).1
  · simp at h

/-- A number begins with a sign, a point or a decimal. -/
theorem head_of_read (h : Number.read c s = .ok (v, r)) :
    (c = '+' ∨ c = '-') ∨ c = '.' ∨ isDecimal c = true := by
  by_cases hsign : c = '+' ∨ c = '-'
  · exact .inl hsign
  right
  unfold Number.read at h
  split at h
  · simp at h
  · next n rest hlex =>
    unfold Number.lex? signAt at hlex
    simp only [if_neg hsign] at hlex
    split at hlex
    · next body after hb =>
      rw [head_of_radixBody hb]
      exact .inr (by decide)
    · simp only [Option.map_eq_some_iff, Prod.exists, Prod.mk.injEq] at hlex
      obtain ⟨body, after, hb, _⟩ := hlex
      exact head_of_decimalBody hb

/-! ## Looking ahead -/

theorem continuesName_append (hr : r ≠ []) : continuesName (r ++ k) = continuesName r := by
  cases r with
  | nil => exact absurd rfl hr
  | cons c r => rfl

theorem signAt_append (hs : s ≠ []) : signAt (s ++ k) = ((signAt s).1, (signAt s).2 ++ k) := by
  cases s with
  | nil => exact absurd rfl hs
  | cons c s =>
    rw [List.cons_append, signAt, signAt]
    split <;> rfl

theorem powerAt_append (hr : (powerAt s).2 ≠ []) (hn : continuesName (powerAt s).2 = false) :
    powerAt (s ++ k) = ((powerAt s).1, (powerAt s).2 ++ k) := by
  cases s with
  | nil => exact absurd rfl hr
  | cons e rest =>
    rw [List.cons_append]
    unfold powerAt at hr hn ⊢
    simp only at hr hn ⊢
    by_cases hp : (e = 'e' ∨ e = 'E') ∧ (signAt rest).2.takeWhile isDecimal ≠ []
    · rw [if_pos hp] at hr hn ⊢
      have hne : rest ≠ [] := by
        rintro rfl
        exact hp.2 rfl
      rw [signAt_append hne, takeWhile_append_of_stop hr, dropWhile_append_of_stop hr, if_pos hp]
    · rw [if_neg hp] at hr hn ⊢
      have he : ¬ (e = 'e' ∨ e = 'E') := by
        intro he
        have hpart : isNamePart e = true := by
          rcases he with rfl | rfl <;> decide
        exact absurd (hpart.symm.trans hn) (by simp)
      rw [if_neg (fun hand => he hand.1), List.cons_append]

theorem decimalBody_append (h : decimalBody? s = some (body, r)) (hr : r ≠ [])
    (hn : continuesName r = false) : decimalBody? (s ++ k) = some (body, r ++ k) := by
  unfold decimalBody? at h ⊢
  simp only at h ⊢
  split at h
  · next rest hd =>
    have hstop : s.dropWhile isDecimal ≠ [] := by
      rw [hd]
      exact List.cons_ne_nil _ _
    rw [takeWhile_append_of_stop hstop, dropWhile_append_of_stop hstop, hd]
    split at h
    · simp at h
    · next hdigits =>
      simp only [Option.some.injEq, Prod.mk.injEq] at h
      obtain ⟨rfl, rfl⟩ := h
      have hpart : rest.dropWhile isDecimal ≠ [] := by
        intro hnil
        rw [hnil] at hr
        exact hr rfl
      simp only [List.cons_append, takeWhile_append_of_stop hpart, dropWhile_append_of_stop hpart,
        if_neg hdigits, powerAt_append hr hn]
  · next hpoint =>
    split at h
    · simp at h
    · next hwhole =>
      simp only [Option.some.injEq, Prod.mk.injEq] at h
      obtain ⟨rfl, rfl⟩ := h
      have hstop : s.dropWhile isDecimal ≠ [] := by
        intro hnil
        rw [hnil] at hr
        exact hr rfl
      rw [takeWhile_append_of_stop hstop, dropWhile_append_of_stop hstop]
      split
      · next more hmore =>
        cases hd : s.dropWhile isDecimal with
        | nil => exact absurd hd hstop
        | cons c t =>
          rw [hd, List.cons_append, List.cons.injEq] at hmore
          exact absurd (by rw [hd, hmore.1]) (hpoint t)
      · simp only [if_neg hwhole, powerAt_append hr hn]

theorem mem_of_mark (hb : baseOf? mark = some base) : mark ∈ ['x', 'X', 'o', 'O', 'b', 'B'] := by
  unfold baseOf? at hb
  split at hb
  · next hx => rcases hx with rfl | rfl <;> decide
  · split at hb
    · next ho => rcases ho with rfl | rfl <;> decide
    · split at hb
      · next hbin => rcases hbin with rfl | rfl <;> decide
      · simp at hb

/-- The marks of bases are letters of names, and no decimal number is spelled with them. -/
theorem facts_of_mark (hb : baseOf? mark = some base) :
    isNamePart mark = true ∧ isDecimal mark = false ∧ mark ≠ '.' ∧ ¬ (mark = 'e' ∨ mark = 'E') := by
  have hmark := mem_of_mark hb
  simp only [List.mem_cons, List.not_mem_nil, or_false] at hmark
  rcases hmark with rfl | rfl | rfl | rfl | rfl | rfl <;> decide

/-- A zero with the mark of a base is read as a lone zero only in front of that mark. -/
theorem rest_of_decimalBody (hb : baseOf? mark = some base)
    (h : decimalBody? ('0' :: mark :: rest) = some (body, r)) : r = mark :: rest := by
  obtain ⟨_, hdecimal, hpoint, he⟩ := facts_of_mark hb
  have hzero : isDecimal '0' = true := by decide
  have hpower : powerAt (mark :: rest) = (none, mark :: rest) := by
    unfold powerAt
    simp only [he, false_and, if_false]
  unfold decimalBody? at h
  rw [List.takeWhile_cons_of_pos hzero, List.dropWhile_cons_of_pos hzero,
    List.takeWhile_cons_of_neg (Bool.eq_false_iff.1 hdecimal),
    List.dropWhile_cons_of_neg (Bool.eq_false_iff.1 hdecimal)] at h
  split at h
  · next heq => exact absurd (List.cons.inj heq).1 hpoint
  · simp only [hpower, List.cons_ne_nil, if_false, Option.some.injEq, Prod.mk.injEq] at h
    exact h.2.symm

theorem radixBody_append (h : radixBody? s = some (body, r)) (hr : r ≠ []) :
    radixBody? (s ++ k) = some (body, r ++ k) := by
  unfold radixBody? at h
  split at h
  · next mark rest =>
    split at h
    · simp at h
    · next base hbase =>
      simp only at h
      split at h
      · simp at h
      · next hdigits =>
        simp only [Option.some.injEq, Prod.mk.injEq] at h
        obtain ⟨rfl, rfl⟩ := h
        simp only [List.cons_append, radixBody?, hbase, takeWhile_append_of_stop hr,
          dropWhile_append_of_stop hr, if_neg hdigits]
  · simp at h

/-- A decimal number does not become one of another base by text put after what follows it. -/
theorem radixBody_append_none (h : radixBody? s = none) (hd : decimalBody? s = some (body, r))
    (hr : r ≠ []) (hn : continuesName r = false) : radixBody? (s ++ k) = none := by
  cases s with
  | nil => simp [decimalBody_nil] at hd
  | cons c s =>
    by_cases hc : c = '0'
    · subst hc
      cases s with
      | nil =>
        have hlone : decimalBody? ['0'] = some (.decimal ['0'] false [] none, []) := by decide
        rw [hlone, Option.some.injEq, Prod.mk.injEq] at hd
        exact absurd hd.2.symm hr
      | cons mark rest =>
        cases hbase : baseOf? mark with
        | none => simp only [List.cons_append, radixBody?, hbase]
        | some base =>
          rw [rest_of_decimalBody hbase hd] at hn
          have hpart := (facts_of_mark hbase).1
          exact absurd (hpart.symm.trans hn) (by simp)
    · rw [List.cons_append]
      unfold radixBody?
      split
      · next heq => exact absurd (List.cons.inj heq).1 hc
      · rfl

theorem lex_append (h : Number.lex? s = some (n, r)) (hr : r ≠ []) (hn : continuesName r = false) :
    Number.lex? (s ++ k) = some (n, r ++ k) := by
  have hs : s ≠ [] := by
    rintro rfl
    simp [Number.lex?, signAt, radixBody_nil, decimalBody_nil] at h
  unfold Number.lex? at h ⊢
  simp only [signAt_append hs] at h ⊢
  split at h
  · next body after hb =>
    simp only [Option.some.injEq, Prod.mk.injEq] at h
    obtain ⟨rfl, rfl⟩ := h
    rw [radixBody_append hb hr]
  · next hb =>
    simp only [Option.map_eq_some_iff, Prod.exists, Prod.mk.injEq] at h
    obtain ⟨body, after, hd, rfl, rfl⟩ := h
    rw [radixBody_append_none hb hd hr hn, decimalBody_append hd hr hn]
    rfl

/-- A number that is followed by something reads the same when more text is put behind. -/
theorem read_append (h : Number.read c s = .ok (v, r)) (hr : r ≠ []) :
    Number.read c (s ++ k) = .ok (v, r ++ k) := by
  unfold Number.read at h ⊢
  split at h
  · simp at h
  · next n rest hlex =>
    split at h
    · simp at h
    · next hn =>
      simp only [map_eq_ok, Prod.mk.injEq] at h
      obtain ⟨w, hw, rfl, rfl⟩ := h
      rw [Bool.not_eq_true] at hn
      rw [← List.cons_append, lex_append hlex hr hn]
      simp only [continuesName_append hr, hn, if_neg Bool.false_ne_true, hw]
      rfl

end PromptLibrary.Proofs.Literal.Number
