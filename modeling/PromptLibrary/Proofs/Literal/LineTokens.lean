import PromptLibrary.Proofs.Literal.LineQuotes
import PromptLibrary.Proofs.Literal.LongNumber
/-!
# Line endings and tokens

Between tokens a line ending is a blank or ends a comment, and it ends in the same place when a
carriage return stands in front of it.  Numbers and names hold no line ending and end in front of
either.

* `alike_skipTrivia` — blanks and comments;
* `alike_readNumber`, `alike_scalar`, `alike_readKey` — what values and keys are read.
-/

namespace PromptLibrary.Proofs.Literal.LineTokens

open PromptLibrary.Text
open PromptLibrary.Literal
open PromptLibrary.Proofs.Text.LineEndings
open PromptLibrary.Proofs.Number.LineEndings
open PromptLibrary.Proofs.Literal.Trivia
open PromptLibrary.Proofs.Literal.LongNumber
open PromptLibrary.Proofs.Literal.LineQuotes

variable {s t start start' : List Char} {c : Char} {policy : Interpolation}

/-! ## Trivia -/

theorem withReturns_afterLine (h : WithReturns s t) :
    WithReturns (afterLine s) (afterLine t) := by
  induction h with
  | nil => exact .nil
  | char hc _ ih =>
    have hne := fun he => hc (.inl he)
    rw [afterLine, afterLine, if_neg hne, if_neg hne]
    exact ih
  | feed h _ =>
    rw [afterLine, afterLine, if_pos rfl, if_pos rfl]
    exact h
  | pair h _ =>
    rw [afterLine, afterLine, afterLine, if_pos rfl, if_neg (by decide), if_pos rfl]
    exact h

theorem afterComment_cons (h : ¬ ['*', '/'] <+: c :: s) :
    afterComment? (c :: s) = afterComment? s := by
  rw [afterComment?]
  rintro rest rfl rfl
  exact h (List.prefix_append ['*', '/'] rest)

theorem rel_afterComment (h : WithReturns s t) :
    Option.Rel WithReturns (afterComment? s) (afterComment? t) := by
  have hmark : ∀ c ∈ ['*', '/'], ¬ IsBreak c := by simp [IsBreak]
  have hbreak {c : Char} {s : List Char} (hc : IsBreak c) : ¬ ['*', '/'] <+: c :: s :=
    not_isPrefix_cons (by decide) hmark hc
  induction h with
  | nil => exact .none
  | @char c s t hc h ih =>
    have hsame := isPrefix_iff (.char hc h) hmark
    by_cases hp : ['*', '/'] <+: c :: s
    · obtain ⟨rest, hrest⟩ := hp
      obtain ⟨rfl, rfl⟩ := List.cons.inj hrest
      obtain ⟨t', rfl, ht⟩ := exists_of_cons h (by decide)
      exact .some ht
    · rw [afterComment_cons hp, afterComment_cons (mt hsame.2 hp)]
      exact ih
  | feed h ih =>
    rw [afterComment_cons (hbreak (.inl rfl)), afterComment_cons (hbreak (.inl rfl))]
    exact ih
  | pair h ih =>
    rw [afterComment_cons (hbreak (.inl rfl)), afterComment_cons (hbreak (.inr rfl)),
      afterComment_cons (hbreak (.inl rfl))]
    exact ih

theorem skipTrivia_unterminated (h : afterComment? s = none) :
    skipTrivia ('/' :: '*' :: s) =
      .error (.refused .unterminatedComment ('/' :: '*' :: s)) := by
  rw [skipTrivia]
  split
  · rfl
  · next hs => simp [h] at hs

theorem alike_skipTrivia (h : WithReturns s t) :
    Alike WithReturns (skipTrivia s) (skipTrivia t) := by
  fun_induction skipTrivia s generalizing t with
  | case1 =>
    cases h
    rw [skipTrivia_nil]
    exact .ok .nil
  | case2 rest _ ih =>
    obtain ⟨t, rfl, hrest⟩ := exists_of_cons_cons h (by decide) (by decide)
    rw [skipTrivia_line]
    exact ih (withReturns_afterLine hrest)
  | case3 rest hnone =>
    obtain ⟨t, rfl, hrest⟩ := exists_of_cons_cons h (by decide) (by decide)
    have hrel := rel_afterComment hrest
    rw [hnone] at hrel
    rcases cases_of_rel hrel with ⟨_, ht⟩ | ⟨_, _, hs, _⟩
    · rw [skipTrivia_unterminated ht]
      exact .refused
    · cases hs
  | case4 rest after hafter _ ih =>
    obtain ⟨t, rfl, hrest⟩ := exists_of_cons_cons h (by decide) (by decide)
    have hrel := rel_afterComment hrest
    rw [hafter] at hrel
    rcases cases_of_rel hrel with ⟨hs, _⟩ | ⟨_, _, hs, ht, hr⟩
    · cases hs
    · cases hs
      rw [skipTrivia_block ht]
      exact ih hr
  | case5 c rest hline hblock hc ih =>
    cases h with
    | char _ h =>
      rw [skipTrivia_blank hc]
      exact ih h
    | feed h =>
      rw [skipTrivia_blank hc]
      exact ih h
    | pair h =>
      rw [skipTrivia_blank (by decide), skipTrivia_blank (by decide)]
      exact ih h
  | case6 c rest hline hblock hc =>
    have hbreak : ¬ IsBreak c := by
      rintro (rfl | rfl) <;> exact hc (by decide)
    obtain ⟨t, rfl, hrest⟩ := exists_of_cons h hbreak
    rw [skipTrivia, if_neg hc]
    · exact .ok h
    · exact fun t' hslash => ne_cons hrest (by decide) (fun r => hline r hslash) t'
    · exact fun t' hslash => ne_cons hrest (by decide) (fun r => hblock r hslash) t'

/-! ## Numbers -/

theorem leaves_signAt (h : WithReturns s t) : Leaves id (signAt s) (signAt t) := by
  cases h with
  | nil => exact ⟨rfl, .nil⟩
  | @char c s t hc h =>
    rw [signAt, signAt]
    split
    · exact ⟨rfl, h⟩
    · exact ⟨rfl, .char hc h⟩
  | feed h => exact ⟨rfl, .feed h⟩
  | pair h => exact ⟨rfl, .pair h⟩

theorem runs_decimal (h : WithReturns s t) :
    t.takeWhile isDecimal = s.takeWhile isDecimal ∧
      WithReturns (s.dropWhile isDecimal) (t.dropWhile isDecimal) :=
  runs_eq h (by decide) (by decide)

theorem leaves_powerAt (h : WithReturns s t) : Leaves id (powerAt s) (powerAt t) := by
  cases h with
  | nil => exact ⟨rfl, .nil⟩
  | @char e s t hc h =>
    obtain ⟨hsign, hmore⟩ := leaves_signAt h
    obtain ⟨hdigits, hafter⟩ := runs_decimal hmore
    have hsign : (signAt t).1 = (signAt s).1 := hsign.symm
    simp only [powerAt, hsign, hdigits]
    split
    · exact ⟨rfl, hafter⟩
    · exact ⟨rfl, .char hc h⟩
  | feed h => exact ⟨rfl, .feed h⟩
  | pair h => exact ⟨rfl, .pair h⟩

theorem not_isBreak_of_radix {mark : Char} {base : Nat} {digits : List Char}
    (hbase : baseOf? mark = some base)
    (hdigits : ∀ d ∈ digits, Integer.isDigitOf base d = true) :
    ∀ c ∈ '0' :: mark :: digits, ¬ IsBreak c := by
  have hmark : ¬ IsBreak mark := by
    rintro (rfl | rfl) <;> cases hbase
  have hfree : ∀ d ∈ digits, ¬ IsBreak d := fun d hd =>
    not_isBreak_of_class (isDigitOf_break base).1 (isDigitOf_break base).2 (hdigits d hd)
  simpa using ⟨by decide, hmark, hfree⟩

theorem rel_radixBody (h : WithReturns s t) :
    Option.Rel (Leaves id) (radixBody? s) (radixBody? t) := by
  cases hs : radixBody? s with
  | some x =>
    obtain ⟨body, r⟩ := x
    obtain ⟨mark, base, digits, hbase, hne, hdigits, hend, rfl, rfl⟩ :=
      radixBody_eq_some_iff.1 hs
    obtain ⟨r', rfl, hr⟩ := exists_of_append (u := '0' :: mark :: digits) h
      (not_isBreak_of_radix hbase hdigits)
    have hend' := (head?_eq_false_iff hr (isDigitOf_break base).1 (isDigitOf_break base).2).1 hend
    have hread : radixBody? ('0' :: mark :: digits ++ r') = some (.radix base mark digits, r') :=
      radixBody_eq_some_iff.2 ⟨mark, base, digits, hbase, hne, hdigits, hend', rfl, rfl⟩
    rw [hread]
    exact .some ⟨rfl, hr⟩
  | none =>
    cases ht : radixBody? t with
    | none => exact .none
    | some x =>
      obtain ⟨body, r'⟩ := x
      obtain ⟨mark, base, digits, hbase, hne, hdigits, hend, rfl, rfl⟩ :=
        radixBody_eq_some_iff.1 ht
      obtain ⟨r, rfl, hr⟩ := exists_of_append_right (u := '0' :: mark :: digits) h
        (not_isBreak_of_radix hbase hdigits)
      have hend' :=
        (head?_eq_false_iff hr (isDigitOf_break base).1 (isDigitOf_break base).2).2 hend
      have hread : radixBody? ('0' :: mark :: digits ++ r) = some (.radix base mark digits, r) :=
        radixBody_eq_some_iff.2 ⟨mark, base, digits, hbase, hne, hdigits, hend', rfl, rfl⟩
      cases hs.symm.trans hread

theorem decimalBody_of_point {r : List Char} (h : s.dropWhile isDecimal = '.' :: r) :
    decimalBody? s =
      if s.takeWhile isDecimal = [] ∧ r.takeWhile isDecimal = [] then none
      else some (.decimal (s.takeWhile isDecimal) true (r.takeWhile isDecimal)
        (powerAt (r.dropWhile isDecimal)).1, (powerAt (r.dropWhile isDecimal)).2) := by
  simp only [decimalBody?, h]

theorem decimalBody_of_not_point (h : (s.dropWhile isDecimal).head? ≠ some '.') :
    decimalBody? s =
      if s.takeWhile isDecimal = [] then none
      else some (.decimal (s.takeWhile isDecimal) false []
        (powerAt (s.dropWhile isDecimal)).1, (powerAt (s.dropWhile isDecimal)).2) := by
  unfold decimalBody?
  simp only
  split
  · next hd => simp [hd] at h
  · rfl

theorem rel_decimalBody (h : WithReturns s t) :
    Option.Rel (Leaves id) (decimalBody? s) (decimalBody? t) := by
  obtain ⟨hwhole, hafter⟩ := runs_decimal h
  by_cases hpoint : (s.dropWhile isDecimal).head? = some '.'
  · obtain ⟨r, hr⟩ := List.head?_eq_some_iff.1 hpoint
    rw [hr] at hafter
    obtain ⟨r', hr', hrest⟩ := exists_of_cons hafter (by decide)
    obtain ⟨hpart, hpower⟩ := runs_decimal hrest
    obtain ⟨hvalue, hend⟩ := leaves_powerAt hpower
    rw [decimalBody_of_point hr, decimalBody_of_point hr', hwhole, hpart]
    split
    · exact .none
    · exact .some ⟨congrArg (NumberBody.decimal _ _ _) hvalue, hend⟩
  · have hpoint' := mt (head?_eq_some_iff hafter (by decide)).2 hpoint
    obtain ⟨hvalue, hend⟩ := leaves_powerAt hafter
    rw [decimalBody_of_not_point hpoint, decimalBody_of_not_point hpoint', hwhole]
    split
    · exact .none
    · exact .some ⟨congrArg (NumberBody.decimal _ _ _) hvalue, hend⟩

theorem rel_lex (h : WithReturns s t) :
    Option.Rel (Leaves id) (Number.lex? s) (Number.lex? t) := by
  obtain ⟨hsign, hrest⟩ := leaves_signAt h
  have hsign : (signAt t).1 = (signAt s).1 := hsign.symm
  simp only [Number.lex?, hsign]
  rcases cases_of_rel (rel_radixBody hrest) with ⟨hs, ht⟩ | ⟨⟨b, r⟩, ⟨_, r'⟩, hs, ht, rfl, hr⟩
  · rw [hs, ht]
    rcases cases_of_rel (rel_decimalBody hrest) with
      ⟨hs, ht⟩ | ⟨⟨b, r⟩, ⟨_, r'⟩, hs, ht, rfl, hr⟩
    · rw [hs, ht]
      exact .none
    · rw [hs, ht]
      exact .some ⟨rfl, hr⟩
  · rw [hs, ht]
    exact .some ⟨rfl, hr⟩

theorem continuesName_eq (h : WithReturns s t) : continuesName t = continuesName s := by
  cases h with
  | nil | char | feed => rfl
  | pair =>
    have hbreak : isNamePart '\r' = isNamePart '\n' := by decide
    exact hbreak

theorem alike_readNumber (h : WithReturns (c :: s) (c :: t)) :
    Alike (Leaves id) (Number.read c s) (Number.read c t) := by
  unfold Number.read
  rcases cases_of_rel (rel_lex h) with ⟨hs, ht⟩ | ⟨⟨n, r⟩, ⟨_, r'⟩, hs, ht, rfl, hr⟩
  · rw [hs, ht]
    exact .refused
  · rw [hs, ht]
    refine .ite (by rw [continuesName_eq hr]) (fun _ => .refused) fun _ => ?_
    simp only [id]
    cases Number.value n with
    | error e => exact .error .same
    | ok v => exact .ok ⟨rfl, hr⟩

/-! ## Values and keys -/

theorem runs_name (h : WithReturns s t) :
    t.takeWhile isNamePart = s.takeWhile isNamePart ∧
      WithReturns (s.dropWhile isNamePart) (t.dropWhile isNamePart) :=
  runs_eq h (by decide) (by decide)

theorem alike_resolve {text : Text} :
    Alike Eq (resolve start text) (resolve start' text) :=
  .ite .rfl (fun _ => .ok rfl) fun _ => .refused

theorem scalar_of_isBreak (hc : IsBreak c) :
    scalar policy (c :: s) = .error (.refused (.unexpected c) (c :: s)) := by
  rcases hc with rfl | rfl <;> rfl

theorem alike_scalar (h : WithReturns s t)
    (hspans : ∀ body, s = '\x60' :: body → OneLineSpans policy body) :
    Alike (Leaves id) (scalar policy s) (scalar policy t) := by
  cases h with
  | nil => exact .refused
  | feed h =>
    rw [scalar_of_isBreak (.inl rfl), scalar_of_isBreak (.inl rfl)]
    exact .refused
  | pair h =>
    rw [scalar_of_isBreak (.inl rfl), scalar_of_isBreak (.inr rfl)]
    exact .refused
  | @char c s t hc h =>
    have hstring {x y : Text × List Char} (hleaves : Leaves id x y) :
        Leaves id (Value.string x.1, x.2) (Value.string y.1, y.2) :=
      ⟨congrArg Value.string hleaves.1, hleaves.2⟩
    refine .ite .rfl (fun hq => (alike_stringBody hq h).map fun _ _ => hstring) fun _ => ?_
    refine .ite .rfl (fun hb => ?_) fun _ => ?_
    · exact (alike_templateBody h (hspans s (by rw [hb]))).map fun _ _ => hstring
    refine .ite .rfl (fun _ => alike_readNumber (.char hc h)) fun _ => ?_
    refine .ite .rfl (fun _ => ?_) fun _ => .refused
    obtain ⟨hname, hrest⟩ := runs_name h
    simp only [readName, hname]
    cases keyword? (c :: s.takeWhile isNamePart) with
    | none => exact .refused
    | some v => exact .ok ⟨rfl, hrest⟩

/-- The same key, written in the same way, and texts behind it that differ in line endings. -/
def LeavesKey (x y : Text × Bool × List Char) : Prop :=
  x.1 = y.1 ∧ x.2.1 = y.2.1 ∧ WithReturns x.2.2 y.2.2

theorem readKey_of_isBreak (hc : IsBreak c) :
    readKey (c :: s) = .error (.refused (.unexpectedInKey c) (c :: s)) := by
  rcases hc with rfl | rfl <;> rfl

theorem alike_readKey (h : WithReturns s t) : Alike LeavesKey (readKey s) (readKey t) := by
  cases h with
  | nil => exact .refused
  | feed h =>
    rw [readKey_of_isBreak (.inl rfl), readKey_of_isBreak (.inl rfl)]
    exact .refused
  | pair h =>
    rw [readKey_of_isBreak (.inl rfl), readKey_of_isBreak (.inr rfl)]
    exact .refused
  | @char c s t hc h =>
    have hspread : ['.', '.', '.'].isPrefixOf (c :: s) = true ↔
        ['.', '.', '.'].isPrefixOf (c :: t) = true := by
      rw [List.isPrefixOf_iff_prefix, List.isPrefixOf_iff_prefix]
      exact isPrefix_iff (.char hc h) (by simp [IsBreak])
    refine .ite .rfl (fun hq => ?_) fun _ => ?_
    · refine (alike_stringBody hq h).bind fun x y _ hleaves => ?_
      obtain ⟨text, r⟩ := x
      obtain ⟨text', r'⟩ := y
      obtain ⟨rfl, hr⟩ : text = text' ∧ WithReturns r r' := hleaves
      exact alike_resolve.bind fun _ _ _ hkey => .ok ⟨hkey, rfl, hr⟩
    refine .ite .rfl (fun _ => .refused) fun _ => .ite .rfl (fun _ => .refused) fun _ => ?_
    refine .ite hspread (fun _ => .refused) fun _ => .ite .rfl (fun _ => ?_) fun _ => ?_
    · refine (alike_readNumber (.char hc h)).bind fun x y _ hleaves => ?_
      obtain ⟨n, r⟩ := x
      obtain ⟨n', r'⟩ := y
      obtain ⟨rfl, hr⟩ : n = n' ∧ WithReturns r r' := hleaves
      simp only
      cases Number.keyText n with
      | error e => exact .error .same
      | ok key => exact .ok ⟨rfl, rfl, hr⟩
    · refine .ite .rfl (fun _ => ?_) fun _ => .refused
      obtain ⟨hname, hrest⟩ := runs_name h
      simp only [readName, hname]
      exact .ok ⟨rfl, rfl, hrest⟩

end PromptLibrary.Proofs.Literal.LineTokens
