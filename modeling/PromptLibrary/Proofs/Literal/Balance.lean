import PromptLibrary.Proofs.Literal.Grammar
import PromptLibrary.Proofs.Number.Integer
import PromptLibrary.Proofs.Source.Balanced
/-!
# Literals are balanced

What the grammar of literals derives is also an item, or items, of the coarser grammar of balanced
text, as long as comments have no delimiters in them and interpolations no backtick:

* `exists_of_escape` — an escape is a backslash, one character and plain ones, so that both grammars
  see the same end of a string;
* `crosses_of_derives` — between the ends of a phrase stand items, by induction on the derivation.
-/

namespace PromptLibrary.Proofs.Literal.Balance

open PromptLibrary.Text
open PromptLibrary.Literal
open PromptLibrary.Proofs.Source.Balanced (quotes delimiters Quoted Body Literal body_append
  body_plain body_quoted)
open PromptLibrary.Proofs.Number.Integer
open PromptLibrary.Proofs.Literal.Escape
open PromptLibrary.Proofs.Literal.Quote
open PromptLibrary.Proofs.Literal.Trivia
open PromptLibrary.Proofs.Literal.Token
open PromptLibrary.Proofs.Literal.Grammar

/-- No delimiters in comments and no backtick in interpolations. -/
def plainLexis : Lexis := ⟨fun comment => ∀ c ∈ comment, c ∉ delimiters, fun span => '\x60' ∉ span⟩

/-- A character that is no delimiter. -/
abbrev Plain (c : Char) : Prop := c ∉ delimiters

/-- A character that means nothing between quotes: no quote of any kind and no backslash. -/
abbrev Inert (c : Char) : Prop := c ∉ quotes ∧ c ≠ '\\'

/-- A character that a number may consist of. -/
def NumberPoint (c : Char) : Prop :=
  isDecimal c = true ∨ isNamePart c = true ∨ (∃ base, Integer.isDigitOf base c = true) ∨
    c ∈ ['+', '-', '.']

/-- Only characters with `p` stand between `s` and `r`. -/
def Only (p : Char → Prop) (s r : List Char) : Prop :=
  ∃ w, s = w ++ r ∧ ∀ c ∈ w, p c

variable {policy : Interpolation} {d depth : Nat} {s t r u w more span : List Char} {c quote : Char}
  {piece text : Text} {template : Bool} {mode : Option Char} {spans : List (List Char)}
  {p q : Char → Prop} {f : Char → Bool} {v : Value} {key : Text} {ph : Phrase}

/-! ## Stretches of one kind of characters -/

theorem only_refl : Only p s s :=
  ⟨[], rfl, by simp⟩

theorem only_trans (h₁ : Only p s t) (h₂ : Only p t r) : Only p s r := by
  obtain ⟨w₁, rfl, hw₁⟩ := h₁
  obtain ⟨w₂, rfl, hw₂⟩ := h₂
  refine ⟨w₁ ++ w₂, (List.append_assoc _ _ _).symm, fun c hc => ?_⟩
  rcases List.mem_append.1 hc with hc | hc
  · exact hw₁ c hc
  · exact hw₂ c hc

theorem only_cons (hc : p c) (h : Only p s r) : Only p (c :: s) r :=
  only_trans ⟨[c], rfl, by simpa using hc⟩ h

theorem Only.imp (h : Only p s r) (hpq : ∀ c, p c → q c) : Only q s r := by
  obtain ⟨w, rfl, hw⟩ := h
  exact ⟨w, rfl, fun c hc => hpq c (hw c hc)⟩

theorem only_of_all (h : w.all f = true) (hf : ∀ c, f c = true → p c) : Only p (w ++ r) r :=
  ⟨w, rfl, fun c hc => hf c (List.all_eq_true.1 h c hc)⟩

theorem only_dropWhile (hf : ∀ c, f c = true → p c) : Only p s (s.dropWhile f) := by
  have h : Only p (s.takeWhile f ++ s.dropWhile f) (s.dropWhile f) :=
    only_of_all List.all_takeWhile hf
  rwa [List.takeWhile_append_dropWhile] at h

theorem plain_of_isDecimal (c : Char) (h : isDecimal c = true) : Plain c :=
  not_mem_of_class h (by decide)

theorem plain_of_isNamePart (c : Char) (h : isNamePart c = true) : Plain c :=
  not_mem_of_class h (by decide)

theorem not_mem_of_isDigitOf {base : Nat} {l : List Char} (h : Integer.isDigitOf base c = true)
    (hl : l.any (fun d => (Integer.asciiDigit? d).isSome) = false) : c ∉ l := by
  have hdigit : (Integer.asciiDigit? c).isSome = true := by
    unfold Integer.isDigitOf at h
    split at h
    · next hsome => simp [hsome]
    · simp at h
  exact fun hc => List.any_eq_false.1 hl c hc hdigit

theorem plain_of_isDigitOf {base : Nat} (c : Char) (h : Integer.isDigitOf base c = true) :
    Plain c :=
  not_mem_of_isDigitOf h (by decide)

theorem plain_of_numberPoint (c : Char) (h : NumberPoint c) : Plain c := by
  rcases h with h | h | ⟨_, h⟩ | h
  · exact plain_of_isDecimal c h
  · exact plain_of_isNamePart c h
  · exact plain_of_isDigitOf c h
  · simp only [List.mem_cons, List.not_mem_nil, or_false] at h
    rcases h with rfl | rfl | rfl <;> decide

theorem inert_of_plain (c : Char) (h : Plain c) : Inert c := by
  refine ⟨fun hq => h (List.mem_append_left _ hq), ?_⟩
  rintro rfl
  exact h (by decide)

/-! ## Trivia, numbers and names -/

theorem only_of_trivia (h : Trivia plainLexis.comment s r) : Only Plain s r := by
  induction h with
  | none => exact only_refl
  | blank hc _ ih => exact only_cons (not_mem_of_class hc (by decide)) ih
  | @line body s r _ ha _ ih =>
    have hline : Only Plain ('/' :: '/' :: (body ++ '\n' :: s)) ('\n' :: s) :=
      ⟨'/' :: '/' :: body, rfl, ha⟩
    exact only_trans hline (only_cons (by decide) ih)
  | @lastLine body _ ha => exact ⟨'/' :: '/' :: body, by simp, ha⟩
  | @block body s r _ ha _ ih =>
    have hblock : Only Plain ('/' :: '*' :: (body ++ '*' :: '/' :: s)) s :=
      ⟨'/' :: '*' :: (body ++ ['*', '/']), by simp, ha⟩
    exact only_trans hblock ih

theorem only_signAt : Only NumberPoint s (signAt s).2 := by
  unfold signAt
  split
  · next c rest =>
    split
    · next hsign =>
      refine only_cons (.inr (.inr (.inr ?_))) only_refl
      rcases hsign with rfl | rfl <;> decide
    · exact only_refl
  · exact only_refl

theorem only_powerAt : Only NumberPoint s (powerAt s).2 := by
  unfold powerAt
  split
  · exact only_refl
  · next e rest =>
    simp only
    split
    · next hpower =>
      have hmark : isNamePart e = true := by rcases hpower.1 with rfl | rfl <;> decide
      exact only_cons (.inr (.inl hmark))
        (only_trans only_signAt (only_dropWhile fun _ hc => .inl hc))
    · exact only_refl

theorem only_of_radixBody {body : NumberBody} (h : radixBody? s = some (body, r)) :
    Only NumberPoint s r := by
  unfold radixBody? at h
  split at h
  · next mark rest =>
    split at h
    · simp at h
    · next base hbase =>
      simp only at h
      split at h
      · simp at h
      · simp only [Option.some.injEq, Prod.mk.injEq] at h
        rw [← h.2]
        have hzero : NumberPoint '0' := .inl (by decide)
        have hmark : NumberPoint mark := .inr (.inl (Number.facts_of_mark hbase).1)
        exact only_cons hzero (only_cons hmark
          (only_dropWhile fun _ hc => .inr (.inr (.inl ⟨base, hc⟩))))
  · simp at h

theorem only_of_decimalBody {body : NumberBody} (h : decimalBody? s = some (body, r)) :
    Only NumberPoint s r := by
  unfold decimalBody? at h
  have hwhole : Only NumberPoint s (s.dropWhile isDecimal) := only_dropWhile fun _ hc => .inl hc
  simp only at h
  split at h
  · next rest hpoint =>
    split at h
    · simp at h
    · simp only [Option.some.injEq, Prod.mk.injEq] at h
      rw [hpoint] at hwhole
      rw [← h.2]
      have hdot : NumberPoint '.' := .inr (.inr (.inr (by decide)))
      exact only_trans hwhole (only_cons hdot
        (only_trans (only_dropWhile fun _ hc => .inl hc) only_powerAt))
  · split at h
    · simp at h
    · simp only [Option.some.injEq, Prod.mk.injEq] at h
      rw [← h.2]
      exact only_trans hwhole only_powerAt

theorem only_of_lex {n : Number} (h : Number.lex? s = some (n, r)) : Only NumberPoint s r := by
  unfold Number.lex? at h
  simp only at h
  split at h
  · next hb =>
    simp only [Option.some.injEq, Prod.mk.injEq] at h
    rw [← h.2]
    exact only_trans only_signAt (only_of_radixBody hb)
  · simp only [Option.map_eq_some_iff, Prod.exists, Prod.mk.injEq] at h
    obtain ⟨body, after, hb, _, rfl⟩ := h
    exact only_trans only_signAt (only_of_decimalBody hb)

theorem only_of_read (h : Number.read c s = .ok (v, r)) : Only NumberPoint (c :: s) r := by
  unfold Number.read at h
  split at h
  · simp at h
  · next n rest hlex =>
    split at h
    · simp at h
    · simp only [map_eq_ok, Prod.mk.injEq] at h
      obtain ⟨_, _, _, rfl⟩ := h
      exact only_of_lex hlex

/-! ## Escapes -/

theorem inert_of_isIntegerChar (h : IsIntegerChar 16 (Integer.toAscii c)) : Inert c := by
  have hnone : ('\\' :: quotes).any (fun d => IsIntegerChar 16 (Integer.toAscii d)) = false := by
    decide
  have hc : c ∉ '\\' :: quotes := fun hc => List.any_eq_false.1 hnone c hc (decide_eq_true h)
  rw [List.mem_cons, not_or] at hc
  exact ⟨hc.2, hc.1⟩

theorem only_of_bracedEscape (h : bracedEscape s = .ok (piece, r)) : Only Inert s r := by
  obtain ⟨digits, n, p, rfl, _, hn, _⟩ := bracedEscape_eq_ok_iff.1 h
  have hdigits : Only Inert (digits ++ '\x7d' :: r) ('\x7d' :: r) :=
    ⟨digits, rfl, fun c hc => inert_of_isIntegerChar (isIntegerChar_of_read hn hc)⟩
  exact only_trans hdigits (only_cons (by decide) only_refl)

theorem only_of_hexEscape {count : Nat} (h : hexEscape count s = .ok (piece, r)) :
    Only Inert s r := by
  obtain ⟨digits, rfl, _, hall, _⟩ := hexEscape_eq_ok_iff.1 h
  exact only_of_all hall fun c hc => inert_of_plain c (plain_of_isDigitOf c hc)

theorem only_of_octalEscape (h : octalEscape template c s = .ok (piece, r)) : Only Inert s r := by
  rcases octalEscape_eq_ok_iff.1 h with ⟨_, _, _, rfl⟩ | ⟨_, _, digits, rfl, _, hall, _⟩
  · exact only_refl
  · exact only_of_all hall fun c hc => inert_of_plain c (plain_of_isDigitOf c hc)

/-- Behind the character that an escape begins with there are no quotes and no backslash. -/
theorem exists_of_escape (h : escape template s = .ok (piece, r)) :
    ∃ c t, s = c :: t ∧ Only Inert t r := by
  unfold escape at h
  split at h
  case h_1 => simp at h
  case h_2 =>
    simp only [Except.ok.injEq, Prod.mk.injEq] at h
    exact ⟨_, _, rfl, h.2 ▸ only_cons (by decide) only_refl⟩
  case h_3 | h_4 | h_5 | h_6 =>
    simp only [Except.ok.injEq, Prod.mk.injEq] at h
    exact ⟨_, _, rfl, h.2 ▸ only_refl⟩
  case h_7 | h_9 => exact ⟨_, _, rfl, only_of_hexEscape h⟩
  case h_8 => exact ⟨_, _, rfl, only_cons (by decide) (only_of_bracedEscape h)⟩
  case h_10 =>
    refine ⟨_, _, rfl, ?_⟩
    split at h
    · simp only [Except.ok.injEq, Prod.mk.injEq] at h
      exact h.2 ▸ only_refl
    · split at h
      · exact only_of_octalEscape h
      · simp only [Except.ok.injEq, Prod.mk.injEq] at h
        exact h.2 ▸ only_refl

/-! ## Quotes -/

/-- The stretch that an opening quote in front of `s` begins goes on to `r`. -/
def Closes (quote : Char) (s r : List Char) : Prop :=
  ∃ w, s = w ++ r ∧ Quoted quote w

theorem closes_quote : Closes quote (quote :: r) r :=
  ⟨[quote], rfl, .close⟩

theorem closes_cons (hc : c ≠ quote ∧ c ≠ '\\') (h : Closes quote s r) :
    Closes quote (c :: s) r := by
  obtain ⟨w, rfl, hw⟩ := h
  exact ⟨c :: w, rfl, .plain hc hw⟩

theorem closes_backslash (h : Closes quote s r) : Closes quote ('\\' :: c :: s) r := by
  obtain ⟨w, rfl, hw⟩ := h
  exact ⟨'\\' :: c :: w, rfl, .escaped hw⟩

theorem closes_of_only (hq : quote ∈ quotes) (hst : Only Inert s t) (h : Closes quote t r) :
    Closes quote s r := by
  obtain ⟨w, rfl, hw⟩ := hst
  induction w with
  | nil => exact h
  | cons c w ih =>
    obtain ⟨hc, hmore⟩ := List.forall_mem_cons.1 hw
    have hne : c ≠ quote := by
      rintro rfl
      exact hc.1 hq
    exact closes_cons ⟨hne, hc.2⟩ (ih hmore)

theorem closes_of_escape (hq : quote ∈ quotes) (he : escape template s = .ok (piece, t))
    (h : Closes quote t r) : Closes quote ('\\' :: s) r := by
  obtain ⟨c, u, rfl, hu⟩ := exists_of_escape he
  exact closes_backslash (closes_of_only hq hu h)

theorem closes_of_stringBody (hq : quote ∈ quotes) (h : StringBody quote s text r) :
    Closes quote s r := by
  induction h with
  | close => exact closes_quote
  | escaped he _ ih => exact closes_of_escape hq he ih
  | plain hc _ ih =>
    simp only [List.mem_cons, List.not_mem_nil, or_false, not_or] at hc
    exact closes_cons hc.2.2 ih

/-- A span without a backtick ends inside the template, whatever quotes it opens. -/
theorem closes_of_spanBody (h : SpanBody depth mode s span t) (hspan : '\x60' ∉ span)
    (hr : Closes '\x60' t r) : Closes '\x60' s r := by
  induction h with
  | last => exact closes_cons (by decide) hr
  | inner _ ih =>
    rw [List.mem_cons, not_or] at hspan
    exact closes_cons (by decide) (ih hspan.2 hr)
  | escaped _ ih =>
    simp only [List.mem_cons, not_or] at hspan
    exact closes_backslash (ih hspan.2.2 hr)
  | plain hc _ _ ih =>
    rw [List.mem_cons, not_or] at hspan
    exact closes_cons ⟨Ne.symm hspan.1, hc⟩ (ih hspan.2 hr)

theorem closes_of_templateBody (h : TemplateBody policy s spans text r)
    (hspans : ∀ span ∈ spans, '\x60' ∉ span) : Closes '\x60' s r := by
  induction h with
  | close => exact closes_quote
  | escaped he _ ih => exact closes_of_escape (by decide) he (ih hspans)
  | crlf _ ih => exact closes_cons (by decide) (closes_cons (by decide) (ih hspans))
  | cr _ _ ih => exact closes_cons (by decide) (ih hspans)
  | interpolation _ h _ ih =>
    obtain ⟨hspan, hmore⟩ := List.forall_mem_cons.1 hspans
    simp only [List.mem_cons, not_or] at hspan
    exact closes_cons (by decide) (closes_cons (by decide)
      (closes_of_spanBody h hspan.2.2 (ih hmore)))
  | plain hc _ _ ih =>
    simp only [List.mem_cons, List.not_mem_nil, or_false, not_or] at hc
    exact closes_cons ⟨hc.1, hc.2.1⟩ (ih hspans)

/-! ## Items -/

/-- Only items stand between `s` and `r`, so that the scan crosses from one to the other. -/
def Crosses (s r : List Char) : Prop :=
  ∃ n w, s = w ++ r ∧ Body n w

theorem crosses_refl : Crosses s s :=
  ⟨0, [], rfl, .nil⟩

theorem crosses_trans (h₁ : Crosses s t) (h₂ : Crosses t r) : Crosses s r := by
  obtain ⟨m, w₁, rfl, hw₁⟩ := h₁
  obtain ⟨n, w₂, rfl, hw₂⟩ := h₂
  exact ⟨max m n, w₁ ++ w₂, (List.append_assoc _ _ _).symm, body_append hw₁ hw₂⟩

theorem crosses_cons (hc : Plain c) (h : Crosses s r) : Crosses (c :: s) r :=
  crosses_trans ⟨0, [c], rfl, body_plain hc⟩ h

theorem crosses_of_only (h : Only Plain s r) : Crosses s r := by
  obtain ⟨w, rfl, hw⟩ := h
  induction w with
  | nil => exact crosses_refl
  | cons c w ih =>
    obtain ⟨hc, hmore⟩ := List.forall_mem_cons.1 hw
    exact crosses_cons hc (ih hmore)

theorem crosses_of_closes (hq : quote ∈ quotes) (h : Closes quote s r) :
    Crosses (quote :: s) r := by
  obtain ⟨w, rfl, hw⟩ := h
  exact ⟨0, quote :: w, rfl, body_quoted hq hw⟩

theorem crosses_brace (h : Crosses s ('\x7d' :: r)) : Crosses ('\x7b' :: s) r := by
  obtain ⟨n, w, rfl, hw⟩ := h
  exact ⟨_, _, by simp, Body.literal hw .nil⟩

theorem crosses_of_trivia (h : Trivia plainLexis.comment s r) : Crosses s r :=
  crosses_of_only (only_of_trivia h)

theorem mem_quotes (hq : quote = '\'' ∨ quote = '"') : quote ∈ quotes := by
  rcases hq with rfl | rfl <;> decide

theorem crosses_of_name (hc : isNameStart c = true) (hm : ∀ d ∈ w, isNamePart d = true) :
    Crosses (c :: (w ++ r)) r :=
  crosses_cons (not_mem_of_class hc (by decide))
    (crosses_of_only ⟨w, rfl, fun d hd => plain_of_isNamePart d (hm d hd)⟩)

theorem crosses_of_token (h : Token plainLexis.span policy s v r) : Crosses s r := by
  cases h with
  | string hq h =>
    have hquote := mem_quotes hq
    exact crosses_of_closes hquote (closes_of_stringBody hquote (stringBody_of_read h))
  | template h hspans =>
    exact crosses_of_closes (by decide) (closes_of_templateBody (templateBody_of_read h) hspans)
  | number h => exact crosses_of_only ((only_of_read h).imp plain_of_numberPoint)
  | keyword h _ =>
    obtain ⟨c, w, rfl, hc, hw⟩ := exists_cons_of_keyword h
    exact crosses_of_name hc hw

theorem crosses_of_key (h : Key s key r) : Crosses s r := by
  cases h with
  | string hq h _ =>
    have hquote := mem_quotes hq
    exact crosses_of_closes hquote (closes_of_stringBody hquote (stringBody_of_read h))
  | number _ h _ => exact crosses_of_only ((only_of_read h).imp plain_of_numberPoint)
  | name hc hw _ => exact crosses_of_name hc hw

/-- What stands between the ends of a phrase; the members of an object end at its brace. -/
def PhraseCrosses : Phrase → List Char → List Char → Prop
  | .members _, s, r => Crosses s ('\x7d' :: r)
  | _, s, r => Crosses s r

/-- **Phrases are made of items.** -/
theorem crosses_of_derives (h : Derives plainLexis policy d ph s r) : PhraseCrosses ph s r := by
  induction h with
  | token h => exact crosses_of_token h
  | parentheses _ hc ih =>
    have hclose := crosses_trans (crosses_of_trivia hc) (crosses_cons (by decide) crosses_refl)
    exact crosses_cons (by decide) (crosses_trans ih hclose)
  | object _ ih => exact crosses_brace ih
  | array _ ih => exact crosses_cons (by decide) ih
  | noMore => exact crosses_refl
  | plus hplus ht _ _ ih₁ ih₂ =>
    have hoperand := crosses_trans (crosses_of_trivia ht) ih₁
    exact crosses_trans (crosses_of_trivia hplus)
      (crosses_cons (by decide) (crosses_trans hoperand ih₂))
  | literal ht _ _ _ ih₁ ih₂ =>
    -- How the operands are joined does not matter for the text that they take.
    exact crosses_trans (crosses_of_trivia ht) (crosses_trans ih₁ ih₂)
  | noMembers hc => exact crosses_of_trivia hc
  | lastMember ht hk hcolon _ hc ih =>
    refine crosses_trans (crosses_of_trivia ht) (crosses_trans (crosses_of_key hk) ?_)
    refine crosses_trans (crosses_of_trivia hcolon) (crosses_cons (by decide) ?_)
    exact crosses_trans ih (crosses_of_trivia hc)
  | member ht hk hcolon _ hc _ ih₁ ih₂ =>
    refine crosses_trans (crosses_of_trivia ht) (crosses_trans (crosses_of_key hk) ?_)
    refine crosses_trans (crosses_of_trivia hcolon) (crosses_cons (by decide) ?_)
    exact crosses_trans ih₁ (crosses_trans (crosses_of_trivia hc) (crosses_cons (by decide) ih₂))
  | noItems hc =>
    exact crosses_trans (crosses_of_trivia hc) (crosses_cons (by decide) crosses_refl)
  | lastItem _ hc ih =>
    have hclose := crosses_trans (crosses_of_trivia hc) (crosses_cons (by decide) crosses_refl)
    exact crosses_trans ih hclose
  | item _ hc _ ih₁ ih₂ =>
    exact crosses_trans ih₁ (crosses_trans (crosses_of_trivia hc) (crosses_cons (by decide) ih₂))

/-- **A plain document between braces is a balanced literal.** -/
theorem literal_of_document {doc : Parsed} (h : Document plainLexis policy d ('\x7b' :: s) doc)
    (hlast : ('\x7b' :: s).getLast? = some '\x7d') : ∃ n, Literal n ('\x7b' :: s) := by
  obtain ⟨m, hlit, hm⟩ := h
  obtain ⟨e, ms, _, _, hms⟩ := members_of_literal hlit
  obtain ⟨n, w, rfl, hw⟩ := crosses_of_derives hms
  obtain ⟨more, rfl, hmore⟩ := only_of_trivia hm
  cases more with
  | nil => exact ⟨n + 1, .mk hw⟩
  | cons c more =>
    -- What trails the object is plain, so the last character would be no brace.
    have hsplit : '\x7b' :: (w ++ '\x7d' :: (c :: more ++ [])) =
        ('\x7b' :: w ++ ['\x7d']) ++ c :: more := by simp
    rw [hsplit, List.getLast?_append, List.getLast?_cons, Option.some_or,
      ← List.getLast?_cons] at hlast
    exact absurd (by decide) (hmore '\x7d' (List.mem_of_getLast? hlast))

end PromptLibrary.Proofs.Literal.Balance
