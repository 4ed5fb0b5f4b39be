import PromptLibrary.Proofs.Literal.Token
/-!
# Failures of tokens

Three failures come from inside a token and from nowhere else: an integer with too many digits, an
escape whose number is no code point of any kind, and an interpolation that is refused.  Each is
given here by what the token holds:

* `stringBody_eq_error_iff`, `templateBody_eq_error_iff` — the pieces before the fault are read;
* `LargeEscape`, `PieceFault` — a piece that fails.

The digits of numbers are looked at on their own.
-/

namespace PromptLibrary.Proofs.Literal.Faults

open PromptLibrary.Text
open PromptLibrary.Literal
open PromptLibrary.Proofs.Text.Runs
open PromptLibrary.Proofs.Literal.Escape
open PromptLibrary.Proofs.Literal.Quote

/-- The failures that come from inside a token. -/
def TokenFault : Failure → Prop
  | .refused (.interpolation _) _ => True
  | .refused _ _ => False
  | .tooManyDigits => True
  | .codePointTooLarge => True

variable {policy : Interpolation} {e : Failure} {quote c : Char} {s start t : List Char}
  {template : Bool}

/-! ## Escapes -/

/-- A number between braces that does not fit 32 bits; `s` follows the backslash. -/
def LargeEscape (s : List Char) : Prop :=
  ∃ digits n rest, s = 'u' :: '\x7b' :: (digits ++ '\x7d' :: rest) ∧ '\x7d' ∉ digits ∧
    Integer.read 16 digits = .ok n ∧ (n < -codePointRange ∨ codePointRange ≤ n)

theorem largeEscape_of_bracedEscape (h : bracedEscape s = .error e) (he : TokenFault e) :
    e = .codePointTooLarge ∧ LargeEscape ('u' :: '\x7b' :: s) := by
  unfold bracedEscape at h
  split at h
  · cases h
    exact he.elim
  · next c rest hd =>
    obtain ⟨hsplit, hfree⟩ := cut_of_dropWhile_ne hd
    simp only at h
    split at h
    · cases h
      exact he.elim
    · next n hn =>
      split at h
      · next hrange =>
        cases h
        exact ⟨rfl, _, n, rest, by rw [hsplit], hfree, hn, hrange⟩
      · split at h
        · cases h
          exact he.elim
        · split at h
          · simp at h
          · cases h
            exact he.elim

theorem escape_of_largeEscape (h : LargeEscape s) :
    escape template s = .error .codePointTooLarge := by
  obtain ⟨digits, n, rest, rfl, hfree, hn, hrange⟩ := h
  obtain ⟨htake, hdrop⟩ := takeWhile_ne_eq_run (r := rest) hfree
  rw [escape, bracedEscape, hdrop, htake]
  simp only [hn, if_pos hrange]

theorem not_tokenFault_of_hexEscape {count : Nat} (h : hexEscape count s = .error e) :
    ¬ TokenFault e := by
  unfold hexEscape at h
  simp only at h
  split at h
  · simp at h
  · cases h
    exact id

theorem not_tokenFault_of_octalEscape (h : octalEscape template c s = .error e) :
    ¬ TokenFault e := by
  unfold octalEscape at h
  simp only at h
  split at h
  · simp at h
  · split at h
    · cases h
      exact id
    · simp at h

theorem largeEscape_of_escape (h : escape template s = .error e) (he : TokenFault e) :
    e = .codePointTooLarge ∧ LargeEscape s := by
  unfold escape at h
  split at h
  case h_1 =>
    cases h
    exact he.elim
  case h_2 | h_3 | h_4 | h_5 | h_6 => simp at h
  case h_7 | h_9 => exact absurd he (not_tokenFault_of_hexEscape h)
  case h_8 => exact largeEscape_of_bracedEscape h he
  case h_10 =>
    split at h
    · simp at h
    · split at h
      · exact absurd he (not_tokenFault_of_octalEscape h)
      · simp at h

/-! ## Strings -/

/-- Inside a string whose rest after the opening quote is `s`, a piece begins at `t`. -/
inductive StringReaches (quote : Char) : List Char → List Char → Prop where
  | here {s : List Char} : StringReaches quote s s
  | escaped {s after t : List Char} {piece : Text} (h : escape false s = .ok (piece, after))
      (hrest : StringReaches quote after t) : StringReaches quote ('\\' :: s) t
  | plain {c : Char} {s t : List Char} (hc : c ∉ ['\n', '\r', quote, '\\'])
      (hrest : StringReaches quote s t) : StringReaches quote (c :: s) t

theorem prepend_eq_error {piece : Text} {x : Except Failure (Text × List Char)} :
    prepend piece x = .error e ↔ x = .error e := by
  cases x <;> simp [prepend, Except.map]

theorem stringReaches_of_error (h : stringBody quote start s = .error e) (he : TokenFault e) :
    e = .codePointTooLarge ∧ ∃ t, StringReaches quote s ('\\' :: t) ∧ LargeEscape t := by
  fun_induction stringBody quote start s with
  | case1 =>
    cases h
    exact he.elim
  | case2 =>
    cases h
    exact he.elim
  | case3 => simp at h
  | case4 rest e' hescape =>
    obtain rfl : e' = e := Except.error.inj h
    obtain ⟨rfl, hlarge⟩ := largeEscape_of_escape hescape he
    exact ⟨rfl, rest, .here, hlarge⟩
  | case5 rest piece after hescape _ _ _ ih =>
    obtain ⟨rfl, t, ht, hlarge⟩ := ih (prepend_eq_error.1 h)
    exact ⟨rfl, t, .escaped hescape ht, hlarge⟩
  | case6 c rest hline hclose hbackslash ih =>
    obtain ⟨rfl, t, ht, hlarge⟩ := ih (prepend_eq_error.1 h)
    rw [not_or] at hline
    exact ⟨rfl, t, .plain (by simp [hline, hclose, hbackslash]) ht, hlarge⟩

theorem stringBody_of_reaches (hq : quote = '\'' ∨ quote = '"') (h : StringReaches quote s t)
    (ht : stringBody quote start t = .error e) : stringBody quote start s = .error e := by
  induction h with
  | here => exact ht
  | escaped h _ ih => rw [stringBody_of_escape hq h, prepend_eq_error.2 (ih ht)]
  | plain hc _ ih => rw [stringBody_of_plain hc, prepend_eq_error.2 (ih ht)]

theorem stringBody_of_largeEscape (hq : quote = '\'' ∨ quote = '"') (h : LargeEscape s) :
    stringBody quote start ('\\' :: s) = .error .codePointTooLarge :=
  stringBody_of_failed hq (escape_of_largeEscape h)

theorem stringBody_eq_error_iff (hq : quote = '\'' ∨ quote = '"') (he : TokenFault e) :
    stringBody quote start s = .error e ↔
      e = .codePointTooLarge ∧ ∃ t, StringReaches quote s ('\\' :: t) ∧ LargeEscape t := by
  refine ⟨fun h => stringReaches_of_error h he, ?_⟩
  rintro ⟨rfl, t, hs, ht⟩
  exact stringBody_of_reaches hq hs (stringBody_of_largeEscape hq ht)

/-! ## Templates -/

/-- Inside a template whose rest after the opening backtick is `s`, a piece begins at `t`. -/
inductive TemplateReaches (policy : Interpolation) : List Char → List Char → Prop where
  | here {s : List Char} : TemplateReaches policy s s
  | escaped {s after t : List Char} {piece : Text} (h : escape true s = .ok (piece, after))
      (hrest : TemplateReaches policy after t) : TemplateReaches policy ('\\' :: s) t
  | crlf {s t : List Char} (hrest : TemplateReaches policy s t) :
      TemplateReaches policy ('\r' :: '\n' :: s) t
  | cr {s t : List Char} (hs : s.head? ≠ some '\n') (hrest : TemplateReaches policy s t) :
      TemplateReaches policy ('\r' :: s) t
  | interpolation {s inside after t : List Char} (hpolicy : policy = .literal)
      (h : SpanBody 0 none s inside after) (hrest : TemplateReaches policy after t) :
      TemplateReaches policy ('$' :: '\x7b' :: s) t
  | plain {c : Char} {s t : List Char} (hc : c ∉ ['\x60', '\\', '\r'])
      (hs : c = '$' → s.head? ≠ some '\x7b') (hrest : TemplateReaches policy s t) :
      TemplateReaches policy (c :: s) t

/-- A piece of a template that fails. -/
inductive PieceFault (policy : Interpolation) : Failure → List Char → Prop where
  | escape {s : List Char} (h : LargeEscape s) : PieceFault policy .codePointTooLarge ('\\' :: s)
  | interpolation {s inside after : List Char} (hpolicy : policy = .strict)
      (h : SpanBody 0 none s inside after) :
      PieceFault policy (.refused (.interpolation ('$' :: '\x7b' :: inside)) ('$' :: '\x7b' :: s))
        ('$' :: '\x7b' :: s)

theorem templateReaches_of_error (h : templateBody policy start s = .error e)
    (he : TokenFault e) : ∃ t, TemplateReaches policy s t ∧ PieceFault policy e t := by
  fun_induction templateBody policy start s with
  | case1 =>
    cases h
    exact he.elim
  | case2 => simp at h
  | case3 rest e' hescape =>
    obtain rfl : e' = e := Except.error.inj h
    obtain ⟨rfl, hlarge⟩ := largeEscape_of_escape hescape he
    exact ⟨_, .here, .escape hlarge⟩
  | case4 rest piece after hescape _ ih =>
    obtain ⟨t, ht, hfault⟩ := ih (prepend_eq_error.1 h)
    exact ⟨t, .escaped hescape ht, hfault⟩
  | case5 rest ih =>
    obtain ⟨t, ht, hfault⟩ := ih (prepend_eq_error.1 h)
    exact ⟨t, .crlf ht, hfault⟩
  | case6 rest hne ih =>
    obtain ⟨t, ht, hfault⟩ := ih (prepend_eq_error.1 h)
    exact ⟨t, .cr (head?_ne_of_ne_cons hne) ht, hfault⟩
  | case7 =>
    cases h
    exact he.elim
  | case8 rest inside after hclose _ _ hpolicy =>
    cases h
    exact ⟨_, .here, .interpolation hpolicy (spanBody_of_closingBrace hclose)⟩
  | case9 rest inside after hclose _ _ hpolicy ih =>
    -- A policy that is not strict keeps the interpolation and goes on behind its brace.
    subst hpolicy
    obtain ⟨t, ht, hfault⟩ := ih (prepend_eq_error.1 h)
    exact ⟨t, .interpolation rfl (spanBody_of_closingBrace hclose) ht, hfault⟩
  | case10 c rest hquote hbackslash _ hcr hdollar ih =>
    obtain ⟨t, ht, hfault⟩ := ih (prepend_eq_error.1 h)
    obtain ⟨hc, hhead⟩ := plain_of_ne hquote hbackslash hcr hdollar
    exact ⟨t, .plain hc hhead ht, hfault⟩

theorem templateBody_of_reaches (h : TemplateReaches policy s t)
    (ht : templateBody policy start t = .error e) : templateBody policy start s = .error e := by
  induction h with
  | here => exact ht
  | escaped h _ ih => rw [templateBody_of_escape h, prepend_eq_error.2 (ih ht)]
  | crlf _ ih => rw [templateBody, prepend_eq_error.2 (ih ht)]
  | cr hs _ ih =>
    rw [templateBody, prepend_eq_error.2 (ih ht)]
    rintro rest rfl
    exact hs rfl
  | interpolation hpolicy h _ ih =>
    rw [templateBody_of_interpolation hpolicy (closingBrace_of_spanBody h),
      prepend_eq_error.2 (ih ht)]
  | plain hc hs _ ih => rw [templateBody_of_plain hc hs, prepend_eq_error.2 (ih ht)]

theorem templateBody_of_pieceFault (h : PieceFault policy e s) :
    templateBody policy start s = .error e := by
  cases h with
  | escape h => exact templateBody_of_failed (escape_of_largeEscape h)
  | interpolation hpolicy h =>
    subst hpolicy
    exact templateBody_of_refused (closingBrace_of_spanBody h)

theorem templateBody_eq_error_iff (he : TokenFault e) :
    templateBody policy start s = .error e ↔
      ∃ t, TemplateReaches policy s t ∧ PieceFault policy e t :=
  ⟨fun h => templateReaches_of_error h he,
    fun ⟨_, hs, ht⟩ => templateBody_of_reaches hs (templateBody_of_pieceFault ht)⟩

end PromptLibrary.Proofs.Literal.Faults
