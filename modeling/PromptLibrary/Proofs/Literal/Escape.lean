import PromptLibrary.Literal.Escape
import PromptLibrary.Proofs.Text.Runs
/-!
# What an escape takes

Every escape is one character, and after some characters a stretch of digits, with or without
braces.  Only a carriage return, a zero and octal digits depend on the text behind the escape, and
only on its first character.
-/

namespace PromptLibrary.Proofs.Literal.Escape

open PromptLibrary.Literal
open PromptLibrary.Proofs.Text.Runs

variable {s r k digits : List Char} {t : Text} {count : Nat} {template : Bool} {c first : Char}

theorem hexEscape_eq_ok_iff :
    hexEscape count s = .ok (t, r) ↔
      ∃ digits, s = digits ++ r ∧ digits.length = count ∧
        digits.all (Integer.isDigitOf 16) = true ∧
        t = (CodePoint.ofNat? (Integer.ofAscii 16 digits)).toList := by
  unfold hexEscape
  simp only
  constructor
  · intro h
    split at h
    · next hdigits =>
      simp only [Except.ok.injEq, Prod.mk.injEq] at h
      exact ⟨s.take count, by rw [← h.2, List.take_append_drop], hdigits.1, hdigits.2, h.1.symm⟩
    · simp at h
  · rintro ⟨digits, rfl, rfl, hall, rfl⟩
    rw [List.take_left, List.drop_left, if_pos ⟨rfl, hall⟩]

theorem bracedEscape_eq_ok_iff :
    bracedEscape s = .ok (t, r) ↔
      ∃ digits n p, s = digits ++ '\x7d' :: r ∧ '\x7d' ∉ digits ∧
        Integer.read 16 digits = .ok n ∧ 0 ≤ n ∧ n < codePointRange ∧
        CodePoint.ofNat? n.toNat = some p ∧ t = [p] := by
  unfold bracedEscape
  constructor
  · intro h
    split at h
    · simp at h
    · next c rest hd =>
      obtain ⟨hsplit, hfree⟩ := cut_of_dropWhile_ne hd
      simp only at h
      split at h
      · simp at h
      · next n hn =>
        split at h
        · simp at h
        · next hrange =>
          split at h
          · simp at h
          · next hneg =>
            split at h
            · next p hp =>
              simp only [Except.ok.injEq, Prod.mk.injEq] at h
              obtain ⟨rfl, rfl⟩ := h
              exact ⟨_, n, p, hsplit.symm, hfree, hn, by omega, by omega, hp, rfl⟩
            · simp at h
  · rintro ⟨digits, n, p, rfl, hfree, hn, hpos, hlt, hp, rfl⟩
    obtain ⟨htake, hdrop⟩ := takeWhile_ne_eq_run (r := r) hfree
    have hrange : ¬ (n < -codePointRange ∨ codePointRange ≤ n) := by
      unfold codePointRange at hlt ⊢
      omega
    rw [hdrop, htake]
    simp only [hn, hp]
    rw [if_neg hrange, if_neg (by omega)]

/-- Where octal digits end: after as many as there may be, or before something else. -/
def OctalEnd (first : Char) (digits r : List Char) : Prop :=
  digits.length = octalLength first - 1 ∨ ∀ c ∈ r.head?, isOctal c = false

theorem octalEscape_eq_ok_iff :
    octalEscape template first s = .ok (t, r) ↔
      (first = '0' ∧ ¬ s.head?.any Char.isDigit ∧ t = [.char '\x00'] ∧ r = s) ∨
      (template = false ∧ ¬ (first = '0' ∧ ¬ s.head?.any Char.isDigit) ∧
        ∃ digits, s = digits ++ r ∧ digits.length ≤ octalLength first - 1 ∧
          digits.all isOctal = true ∧ OctalEnd first digits r ∧
          t = (CodePoint.ofNat? (Integer.ofAscii 8 (first :: digits))).toList) := by
  unfold octalEscape
  constructor
  · intro h
    split at h
    · next hzero =>
      simp only [Except.ok.injEq, Prod.mk.injEq] at h
      exact .inl ⟨hzero.1, hzero.2, h.1.symm, h.2.symm⟩
    · next hzero =>
      split at h
      · simp at h
      · next htemplate =>
        simp only [Except.ok.injEq, Prod.mk.injEq] at h
        obtain ⟨rfl, rfl⟩ := h
        obtain ⟨after, hsplit, hlen, hend⟩ :=
          exists_takeWhile_take (p := isOctal) (s := s) (n := octalLength first - 1)
        have hrest :
            s.drop ((s.take (octalLength first - 1)).takeWhile isOctal).length = after := by
          conv => lhs; arg 2; rw [hsplit]
          exact List.drop_left
        rw [hrest]
        exact .inr ⟨Bool.eq_false_iff.2 htemplate, hzero, _, hsplit, hlen, List.all_takeWhile, hend,
          rfl⟩
  · rintro (⟨rfl, hnext, rfl, rfl⟩ | ⟨rfl, hzero, digits, rfl, hlen, hall, hend, rfl⟩)
    · rw [if_pos ⟨rfl, hnext⟩]
    · have hrun : ((digits ++ r).take (octalLength first - 1)).takeWhile isOctal = digits :=
        takeWhile_take_eq_run (List.all_eq_true.1 hall) hlen hend
      rw [if_neg hzero, if_neg Bool.false_ne_true, hrun]
      simp only [List.drop_left]

/-! ## Text after an escape -/

theorem hexEscape_append (h : hexEscape count s = .ok (t, r)) :
    hexEscape count (s ++ k) = .ok (t, r ++ k) := by
  obtain ⟨digits, rfl, hlen, hall, ht⟩ := hexEscape_eq_ok_iff.1 h
  exact hexEscape_eq_ok_iff.2 ⟨digits, List.append_assoc _ _ _, hlen, hall, ht⟩

theorem bracedEscape_append (h : bracedEscape s = .ok (t, r)) :
    bracedEscape (s ++ k) = .ok (t, r ++ k) := by
  obtain ⟨digits, n, p, rfl, hfacts⟩ := bracedEscape_eq_ok_iff.1 h
  exact bracedEscape_eq_ok_iff.2 ⟨digits, n, p, List.append_assoc _ _ _, hfacts⟩

theorem octalEscape_append (h : octalEscape template first s = .ok (t, r)) (hr : r ≠ []) :
    octalEscape template first (s ++ k) = .ok (t, r ++ k) := by
  have hhead : s.head? = (s ++ k).head? := by
    refine (head?_append_of_ne_nil ?_).symm
    rintro rfl
    rcases octalEscape_eq_ok_iff.1 h with ⟨_, _, _, rfl⟩ | ⟨_, _, digits, hs, _⟩
    · exact hr rfl
    · exact hr (List.append_eq_nil_iff.1 hs.symm).2
  rw [octalEscape_eq_ok_iff] at h ⊢
  rw [← hhead]
  rcases h with ⟨hzero, hnext, ht, rfl⟩ | ⟨htemplate, hzero, digits, hs, hlen, hall, hend, ht⟩
  · exact .inl ⟨hzero, hnext, ht, rfl⟩
  · refine .inr ⟨htemplate, hzero, digits, by rw [hs, List.append_assoc], hlen, hall, ?_, ht⟩
    rcases hend with hfull | hstop
    · exact .inl hfull
    · exact .inr (by rwa [head?_append_of_ne_nil hr])

/-- The characters behind a backslash that are not read by their value alone. -/
def leaders : List Char := ['\r', '\n', '\u2028', '\u2029', 'x', 'u']

theorem escape_of_not_mem_leaders (hc : c ∉ leaders) :
    escape template (c :: s) = match controlEscape? c with
      | some d => .ok ([.char d], s)
      | none => if isOctal c then octalEscape template c s else .ok ([.char c], s) := by
  simp only [leaders, List.mem_cons, List.not_mem_nil, or_false, not_or] at hc
  obtain ⟨hr, hn, hl, hp, hx, hu⟩ := hc
  exact escape.eq_10 template c s (fun _ he _ => hr he) hn hr hl hp hx (fun _ he _ => hu he) hu

/-- An escape that ends before its text does is not changed by text put after it. -/
theorem escape_append (h : escape template s = .ok (t, r)) (hr : r ≠ []) :
    escape template (s ++ k) = .ok (t, r ++ k) := by
  unfold escape at h
  split at h
  case h_1 => simp at h
  case h_2 | h_3 | h_5 | h_6 =>
    simp only [Except.ok.injEq, Prod.mk.injEq] at h
    rw [← h.1, ← h.2]
    rfl
  case h_4 rest hne =>
    simp only [Except.ok.injEq, Prod.mk.injEq] at h
    obtain ⟨rfl, rfl⟩ := h
    obtain ⟨d, more, rfl⟩ := List.exists_cons_of_ne_nil hr
    have hd : d ≠ '\n' := fun he => hne more (by rw [he])
    simp [escape, hd]
  case h_7 => exact hexEscape_append h
  case h_8 => exact bracedEscape_append h
  case h_9 rest hne =>
    cases rest with
    | nil => simp [hexEscape] at h
    | cons d more =>
      have hd : d ≠ '\x7b' := fun he => hne more (by rw [he])
      have hlong := hexEscape_append (k := k) h
      simpa [escape, hd] using hlong
  case h_10 c rest _ hn hcr hl hp hx _ hu =>
    have hc : c ∉ leaders := by
      simp only [leaders, List.mem_cons, List.not_mem_nil, or_false, not_or]
      exact ⟨hcr, hn, hl, hp, hx, hu⟩
    rw [List.cons_append, escape_of_not_mem_leaders hc]
    cases hcontrol : controlEscape? c with
    | some d =>
      simp only [hcontrol, Except.ok.injEq, Prod.mk.injEq] at h ⊢
      exact ⟨h.1, by rw [h.2]⟩
    | none =>
      simp only [hcontrol] at h ⊢
      split at h
      · next hoctal =>
        rw [if_pos hoctal]
        exact octalEscape_append h hr
      · next hoctal =>
        simp only [Except.ok.injEq, Prod.mk.injEq] at h
        rw [if_neg hoctal, ← h.1, ← h.2]

end PromptLibrary.Proofs.Literal.Escape
