import PromptLibrary.Literal.Parse
import PromptLibrary.Proofs.Literal.Number
import PromptLibrary.Proofs.Literal.Quote
import PromptLibrary.Proofs.Literal.Trivia
/-!
# Tokens

What one token of a literal may be, said without the order in which a reader tries the kinds.  The
kinds never compete: the first character of a token belongs to one of them only.
-/

namespace PromptLibrary.Proofs.Literal.Token

open PromptLibrary.Text
open PromptLibrary.Literal
open PromptLibrary.Proofs.Text.Classes
open PromptLibrary.Proofs.Text.Runs
open PromptLibrary.Proofs.Literal.Quote
open PromptLibrary.Proofs.Literal.Trivia

/-- A token that is a value, its meaning, and the text after it.  The interpolations in a template
have to be `allowed`. -/
inductive Token (allowed : List Char → Prop) (policy : Interpolation) :
    List Char → Value → List Char → Prop where
  | string {quote : Char} {s r : List Char} {t : Text} (hq : quote = '\'' ∨ quote = '"')
      (h : stringBody quote (quote :: s) s = .ok (t, r)) :
      Token allowed policy (quote :: s) (.string t) r
  | template {s r : List Char} {t : Text} (h : templateBody policy ('\x60' :: s) s = .ok (t, r))
      (ha : ∀ span ∈ spansOf s, allowed span) :
      Token allowed policy ('\x60' :: s) (.string t) r
  | number {c : Char} {s r : List Char} {v : Value} (h : Number.read c s = .ok (v, r)) :
      Token allowed policy (c :: s) v r
  | keyword {name r : List Char} {v : Value} (h : keyword? name = some v)
      (hr : continuesName r = false) : Token allowed policy (name ++ r) v r

/-- A key of an object, its meaning, and the text after it. -/
inductive Key : List Char → Text → List Char → Prop where
  | string {quote : Char} {s r : List Char} {t : Text} (hq : quote = '\'' ∨ quote = '"')
      (h : stringBody quote (quote :: s) s = .ok (t, r)) (hw : t.join.WellFormed) :
      Key (quote :: s) t.join r
  | number {c : Char} {s r : List Char} {v : Value} {key : Text} (hc : ¬ (c = '+' ∨ c = '-'))
      (h : Number.read c s = .ok (v, r)) (hk : Number.keyText v = .ok key) : Key (c :: s) key r
  | name {c : Char} {more r : List Char} (hc : isNameStart c = true)
      (hm : ∀ d ∈ more, isNamePart d = true) (hr : continuesName r = false) :
      Key (c :: (more ++ r)) (Text.ofChars (c :: more)) r

variable {allowed : List Char → Prop} {policy : Interpolation} {s r name : List Char} {c : Char}
  {v : Value} {key t : Text}

theorem token_mono {wider : List Char → Prop} (hw : ∀ b, allowed b → wider b)
    (h : Token allowed policy s v r) : Token wider policy s v r := by
  cases h with
  | string hq h => exact .string hq h
  | template h ha => exact .template h fun span hs => hw span (ha span hs)
  | number h => exact .number h
  | keyword h hr => exact .keyword h hr

/-! ## First characters -/

/-- The characters that begin something else than a number or a name. -/
def marks : List Char := ['\'', '"', '\x60', '\x7b', '[', '(', '/']

theorem not_mem_of_class {p : Char → Bool} {l : List Char} (h : p c = true)
    (hl : l.any p = false) : c ∉ l := by
  intro hc
  exact List.any_eq_false.1 hl c hc h

/-- The reader takes what a number may begin with for a number. -/
theorem facts_of_read (h : Number.read c s = .ok (v, r)) :
    (isDigit c = true ∨ c = '+' ∨ c = '-' ∨ c = '.') ∧ isBlank c = false ∧ c ∉ marks := by
  rcases Number.head_of_read h with (rfl | rfl) | rfl | hd
  · exact ⟨by simp, by decide⟩
  · exact ⟨by simp, by decide⟩
  · exact ⟨by simp, by decide⟩
  · exact ⟨.inl (isDigit_of_isDecimal hd), isBlank_of_isDecimal hd,
      not_mem_of_class hd (by decide)⟩

/-- The reader takes what a name may begin with for a name. -/
theorem facts_of_isNameStart (h : isNameStart c = true) :
    ¬ (isDigit c = true ∨ c = '+' ∨ c = '-' ∨ c = '.') ∧ isBlank c = false ∧ c ∉ marks := by
  refine ⟨?_, isBlank_of_isNameStart h, not_mem_of_class h (by decide)⟩
  have hsign : c ∉ ['+', '-', '.'] := not_mem_of_class h (by decide)
  rw [isDigit_of_isNameStart h]
  simpa using hsign

theorem ne_of_not_mem_marks (h : c ∉ marks) :
    ¬ (c = '\'' ∨ c = '"') ∧ c ≠ '\x60' ∧ c ≠ '[' ∧ isOpening c = false ∧ c ≠ '/' := by
  simp only [marks, List.mem_cons, List.not_mem_nil, or_false, not_or] at h
  simp [isOpening, h]

/-! ## Names -/

theorem continuesName_eq_false_iff :
    continuesName r = false ↔ ∀ d ∈ r.head?, isNamePart d = false := by
  cases r with
  | nil => simp [continuesName]
  | cons d r => simp [continuesName]

theorem readName_eq {more : List Char} (hm : ∀ d ∈ more, isNamePart d = true)
    (hr : continuesName r = false) : readName c (more ++ r) = (c :: more, r) := by
  obtain ⟨ht, hd⟩ := takeWhile_eq_run hm (continuesName_eq_false_iff.1 hr)
  rw [readName, ht, hd]

theorem continuesName_readName : continuesName (readName c s).2 = false :=
  continuesName_eq_false_iff.2 eq_false_of_mem_head?_dropWhile

/-- Keywords are names. -/
theorem exists_cons_of_keyword (h : keyword? name = some v) :
    ∃ c more, name = c :: more ∧ isNameStart c = true ∧ ∀ d ∈ more, isNamePart d = true := by
  have hname : name ∈ ["true".toList, "false".toList, "null".toList] := by
    unfold keyword? at h
    split at h
    · next heq => simp [heq]
    · split at h
      · next heq => simp [heq]
      · split at h
        · next heq => simp [heq]
        · simp at h
  simp only [List.mem_cons, List.not_mem_nil, or_false] at hname
  rcases hname with rfl | rfl | rfl
  · exact ⟨'t', "rue".toList, rfl, by decide, List.all_eq_true.1 (by decide)⟩
  · exact ⟨'f', "alse".toList, rfl, by decide, List.all_eq_true.1 (by decide)⟩
  · exact ⟨'n', "ull".toList, rfl, by decide, List.all_eq_true.1 (by decide)⟩

/-- What a token may not begin with: trivia, brackets, and the comma between items. -/
def separators : List Char := ['/', '\x7b', '[', '(', '\x7d', ']', ',']

theorem not_mem_separators_of_read (h : Number.read c s = .ok (v, r)) : c ∉ separators := by
  rcases (facts_of_read h).1 with hd | rfl | rfl | rfl
  · exact not_mem_of_class hd (by decide)
  · decide
  · decide
  · decide

theorem not_mem_separators_of_quote (hq : c = '\'' ∨ c = '"') :
    isBlank c = false ∧ c ∉ separators := by
  rcases hq with rfl | rfl <;> decide

theorem exists_cons_of_token (h : Token allowed policy s v r) :
    ∃ c rest, s = c :: rest ∧ isBlank c = false ∧ c ∉ separators := by
  cases h with
  | string hq _ => exact ⟨_, _, rfl, not_mem_separators_of_quote hq⟩
  | template _ _ => exact ⟨_, _, rfl, by decide, by decide⟩
  | number h => exact ⟨_, _, rfl, (facts_of_read h).2.1, not_mem_separators_of_read h⟩
  | keyword h _ =>
    obtain ⟨c, more, rfl, hc, _⟩ := exists_cons_of_keyword h
    exact ⟨c, _, rfl, (facts_of_isNameStart hc).2.1, not_mem_of_class hc (by decide)⟩

theorem exists_cons_of_key (h : Key s key r) :
    ∃ c rest, s = c :: rest ∧ isBlank c = false ∧ c ∉ separators := by
  cases h with
  | string hq _ _ => exact ⟨_, _, rfl, not_mem_separators_of_quote hq⟩
  | number _ h _ => exact ⟨_, _, rfl, (facts_of_read h).2.1, not_mem_separators_of_read h⟩
  | name hc _ _ => exact ⟨_, _, rfl, (facts_of_isNameStart hc).2.1, not_mem_of_class hc (by decide)⟩

/-! ## The readers of tokens -/

theorem scalar_of_token (h : Token allowed policy s v r) : scalar policy s = .ok (v, r) := by
  cases h with
  | string hq h =>
    rw [scalar, if_pos hq, h]
    rfl
  | template h _ =>
    rw [scalar, if_neg (by decide), if_pos rfl, h]
    rfl
  | number h =>
    obtain ⟨hfirst, _, hm⟩ := facts_of_read h
    obtain ⟨hq, hb, _⟩ := ne_of_not_mem_marks hm
    rw [scalar, if_neg hq, if_neg hb, if_pos hfirst, h]
  | @keyword name _ _ h hr =>
    obtain ⟨c, more, rfl, hc, hmore⟩ := exists_cons_of_keyword h
    obtain ⟨hfirst, _, hm⟩ := facts_of_isNameStart hc
    obtain ⟨hq, hb, _⟩ := ne_of_not_mem_marks hm
    rw [List.cons_append, scalar, if_neg hq, if_neg hb, if_neg hfirst, if_pos hc,
      readName_eq hmore hr]
    simp only [h]

theorem token_of_scalar (h : scalar policy s = .ok (v, r)) : Token anything policy s v r := by
  unfold scalar at h
  split at h
  · simp at h
  · next c rest =>
    split at h
    · next hq =>
      simp only [map_eq_ok, Prod.exists, Prod.mk.injEq] at h
      obtain ⟨t, after, ht, rfl, rfl⟩ := h
      exact .string hq ht
    split at h
    · next hb =>
      simp only [map_eq_ok, Prod.exists, Prod.mk.injEq] at h
      obtain ⟨t, after, ht, rfl, rfl⟩ := h
      subst hb
      exact .template ht fun _ _ => trivial
    split at h
    · exact .number h
    split at h
    · simp only at h
      split at h
      · next hk =>
        simp only [Except.ok.injEq, Prod.mk.injEq] at h
        obtain ⟨rfl, rfl⟩ := h
        have hsplit : c :: rest = (readName c rest).1 ++ (readName c rest).2 := by
          rw [readName, List.cons_append, List.takeWhile_append_dropWhile]
        rw [hsplit]
        exact .keyword hk continuesName_readName
      · simp at h
    · simp at h

/-- **The reader of scalars reads exactly the tokens.** -/
theorem scalar_eq_ok_iff : scalar policy s = .ok (v, r) ↔ Token anything policy s v r :=
  ⟨token_of_scalar, scalar_of_token⟩

theorem readKey_of_key (h : Key s key r) : ∃ bare, readKey s = .ok (key, bare, r) := by
  cases h with
  | string hq h hw =>
    refine ⟨false, ?_⟩
    rw [readKey, if_pos hq, h]
    simp only [bind, Except.bind, resolve, if_pos hw]
    rfl
  | @number c s _ _ _ hc h hk =>
    obtain ⟨hfirst, _, hm⟩ := facts_of_read h
    obtain ⟨hq, hb, hbracket, _⟩ := ne_of_not_mem_marks hm
    have hfirst : isDigit c = true ∨ c = '.' := by
      rcases hfirst with hd | hp | hn | hdot
      · exact .inl hd
      · exact absurd (.inl hp) hc
      · exact absurd (.inr hn) hc
      · exact .inr hdot
    -- No number begins with three points, since no digit is at either side of the first one.
    have hspread : ¬ ['.', '.', '.'].isPrefixOf (c :: s) = true := by
      intro hpre
      obtain ⟨t, ht⟩ := List.isPrefixOf_iff_prefix.1 hpre
      simp only [List.cons_append, List.nil_append, List.cons.injEq] at ht
      obtain ⟨rfl, rfl⟩ := ht
      simp [Number.read, Number.lex?, signAt, radixBody?, decimalBody?, isDecimal,
        decimalRanges, Ranges.contains] at h
    refine ⟨false, ?_⟩
    rw [readKey, if_neg hq, if_neg hb, if_neg hbracket, if_neg hspread, if_pos hfirst, h]
    simp only [bind, Except.bind, hk]
    rfl
  | @name c more _ hc hmore hr =>
    obtain ⟨hfirst, _, hm⟩ := facts_of_isNameStart hc
    obtain ⟨hq, hb, hbracket, _⟩ := ne_of_not_mem_marks hm
    have hdot : c ≠ '.' := fun h => hfirst (.inr (.inr (.inr h)))
    have hspread : ¬ ['.', '.', '.'].isPrefixOf (c :: (more ++ r)) = true := by
      intro hpre
      obtain ⟨t, ht⟩ := List.isPrefixOf_iff_prefix.1 hpre
      exact hdot (List.cons.inj ht).1.symm
    have hnumber : ¬ (isDigit c = true ∨ c = '.') := by
      rintro (hd | hd)
      · exact hfirst (.inl hd)
      · exact hdot hd
    refine ⟨true, ?_⟩
    rw [readKey, if_neg hq, if_neg hb, if_neg hbracket, if_neg hspread, if_neg hnumber, if_pos hc,
      readName_eq hmore hr]

theorem key_of_readKey {bare : Bool} (h : readKey s = .ok (key, bare, r)) : Key s key r := by
  unfold readKey at h
  split at h
  · simp at h
  · next c rest =>
    split at h
    · next hq =>
      cases hs : stringBody c (c :: rest) rest with
      | error e => simp [hs, bind, Except.bind] at h
      | ok x =>
        obtain ⟨t, after⟩ := x
        by_cases hw : t.join.WellFormed
        · simp [hs, bind, Except.bind, resolve, hw, pure, Except.pure] at h
          obtain ⟨rfl, _, rfl⟩ := h
          exact .string hq hs hw
        · simp [hs, bind, Except.bind, resolve, hw] at h
    iterate 3 (split at h; · simp at h)
    split at h
    · next hnumber =>
      have hsign : ¬ (c = '+' ∨ c = '-') := by
        rintro (rfl | rfl)
        · exact absurd hnumber (by decide)
        · exact absurd hnumber (by decide)
      cases hn : Number.read c rest with
      | error e => simp [hn, bind, Except.bind] at h
      | ok x =>
        obtain ⟨v, after⟩ := x
        cases hk : Number.keyText v with
        | error e => simp [hn, hk, bind, Except.bind] at h
        | ok k =>
          simp [hn, hk, bind, Except.bind, pure, Except.pure] at h
          obtain ⟨rfl, _, rfl⟩ := h
          exact .number hsign hn hk
    split at h
    · next hc =>
      simp only [Except.ok.injEq, Prod.mk.injEq] at h
      obtain ⟨rfl, _, rfl⟩ := h
      have hsplit : c :: rest = c :: (rest.takeWhile isNamePart ++ (readName c rest).2) := by
        rw [readName, List.takeWhile_append_dropWhile]
      rw [hsplit]
      exact .name hc (List.all_eq_true.1 List.all_takeWhile) continuesName_readName
    · simp at h

/-- **The reader of keys reads exactly the keys.** -/
theorem readKey_eq_ok_iff : (∃ bare, readKey s = .ok (key, bare, r)) ↔ Key s key r :=
  ⟨fun ⟨_, h⟩ => key_of_readKey h, readKey_of_key⟩

end PromptLibrary.Proofs.Literal.Token
