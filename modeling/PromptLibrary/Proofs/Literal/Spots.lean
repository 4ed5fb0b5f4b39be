import PromptLibrary.Proofs.Literal.LongNumber
/-!
# Tokens that fail

A token is read at a spot where a value or a key is to come.  The relation says for which of the
failures of tokens it fails there, and by what part of its text; the readers fail for exactly these.
-/

namespace PromptLibrary.Proofs.Literal.Spots

open PromptLibrary.Text
open PromptLibrary.Literal
open PromptLibrary.Proofs.Text.Classes
open PromptLibrary.Proofs.Literal.Faults
open PromptLibrary.Proofs.Literal.LongNumber
open PromptLibrary.Proofs.Literal.Token

/-- What is to be read at a place in a literal. -/
inductive Spot where
  | value
  | key
  deriving DecidableEq

/-- The reader of what is to come at a spot fails on the text there. -/
def FailsAt (policy : Interpolation) (e : Failure) : Spot → List Char → Prop
  | .value, s => scalar policy s = .error e
  | .key, s => readKey s = .error e

/-- The token at a spot holds what a failure is about. -/
inductive SpotFault (policy : Interpolation) : Failure → Spot → List Char → Prop where
  | string {spot : Spot} {quote : Char} {s t : List Char} (hq : quote = '\'' ∨ quote = '"')
      (h : StringReaches quote s ('\\' :: t)) (ht : LargeEscape t) :
      SpotFault policy .codePointTooLarge spot (quote :: s)
  | template {e : Failure} {s t : List Char} (h : TemplateReaches policy s t)
      (ht : PieceFault policy e t) : SpotFault policy e .value ('\x60' :: s)
  | integer {spot : Spot} {sign : Option Char} {digits rest : List Char}
      (hsign : sign ∈ [none, some '+', some '-']) (hspot : spot = .key → sign = none)
      (h : LongInteger digits rest) :
      SpotFault policy .tooManyDigits spot (sign.toList ++ (digits ++ rest))
  | marked {mark : Char} {digits rest : List Char} (h : LongMarked mark digits rest) :
      SpotFault policy .tooManyDigits .key ('0' :: mark :: (digits ++ rest))

variable {policy : Interpolation} {e : Failure} {spot : Spot} {s : List Char} {c : Char}
  {sign : Option Char} {digits rest : List Char}

/-! ## Values -/

theorem spotFault_of_scalar (h : scalar policy s = .error e) (he : TokenFault e) :
    SpotFault policy e .value s := by
  unfold scalar at h
  split at h
  · cases h
    exact he.elim
  · next c rest =>
    split at h
    · next hq =>
      obtain ⟨rfl, t, ht, hlarge⟩ := (stringBody_eq_error_iff hq he).1 (map_eq_error.1 h)
      exact .string hq ht hlarge
    split at h
    · next hb =>
      subst hb
      obtain ⟨t, ht, hpiece⟩ := (templateBody_eq_error_iff he).1 (map_eq_error.1 h)
      exact .template ht hpiece
    split at h
    · obtain ⟨rfl, sign, digits, after, hs, hsign, hlong⟩ := longInteger_of_read h he
      rw [hs]
      exact .integer hsign (by simp) hlong
    split at h
    · simp only at h
      split at h
      · simp at h
      · cases h
        exact he.elim
    · cases h
      exact he.elim

/-- An integer with too many digits begins like any number. -/
theorem exists_cons_of_longInteger (hsign : sign ∈ [none, some '+', some '-'])
    (h : LongInteger digits rest) : ∃ c s, sign.toList ++ (digits ++ rest) = c :: s ∧
      (isDecimal c = true ∨ sign ≠ none ∧ (c = '+' ∨ c = '-')) := by
  obtain ⟨d, more, rfl⟩ : ∃ d more, digits = d :: more := by
    cases digits with
    | nil => exact absurd h.long (by simp)
    | cons d more => exact ⟨d, more, rfl⟩
  simp only [List.mem_cons, List.not_mem_nil, or_false] at hsign
  rcases hsign with rfl | rfl | rfl
  · exact ⟨d, more ++ rest, rfl, .inl (h.decimal d List.mem_cons_self)⟩
  · exact ⟨'+', _, rfl, .inr (by simp)⟩
  · exact ⟨'-', _, rfl, .inr (by simp)⟩

theorem facts_of_isDecimal (h : isDecimal c = true) :
    isDigit c = true ∧ ¬ (c = '\'' ∨ c = '"') ∧ c ≠ '\x60' ∧ c ≠ '[' := by
  obtain ⟨hq, hb, hbracket, _⟩ := ne_of_not_mem_marks (not_mem_of_class h (by decide))
  exact ⟨isDigit_of_isDecimal h, hq, hb, hbracket⟩

/-- The value that a decimal or a sign begins is a number. -/
theorem scalar_eq_read (hc : isDecimal c = true ∨ c = '+' ∨ c = '-') :
    scalar policy (c :: s) = Number.read c s := by
  rcases hc with hc | rfl | rfl
  · obtain ⟨hdigit, hq, hb, _⟩ := facts_of_isDecimal hc
    rw [scalar, if_neg hq, if_neg hb, if_pos (.inl hdigit)]
  · rfl
  · rfl

theorem scalar_of_spotFault (h : SpotFault policy e .value s) : scalar policy s = .error e := by
  generalize hspot : Spot.value = spot at h
  cases h with
  | @string _ quote s t hq h ht =>
    have hbody : stringBody quote (quote :: s) s = .error .codePointTooLarge :=
      stringBody_of_reaches hq h (stringBody_of_largeEscape hq ht)
    rw [scalar, if_pos hq, map_eq_error.2 hbody]
  | template h ht =>
    rw [scalar, if_neg (by decide), if_pos rfl,
      map_eq_error.2 (templateBody_of_reaches h (templateBody_of_pieceFault ht))]
  | integer hsign _ h =>
    obtain ⟨c, s, hs, hc⟩ := exists_cons_of_longInteger hsign h
    rw [hs, scalar_eq_read (hc.imp_right And.right), read_of_longInteger hsign h hs.symm]
  | marked h => cases hspot

/-! ## Keys -/

theorem not_tokenFault_of_resolve {t : Text} {start : List Char}
    (h : resolve start t = .error e) : ¬ TokenFault e := by
  unfold resolve at h
  split at h
  · simp at h
  · cases h
    exact id

/-- The key that a decimal begins is the text of a number. -/
theorem readKey_of_isDecimal (hc : isDecimal c = true) : readKey (c :: s) = (do
    let (n, after) ← Number.read c s
    let key ← Number.keyText n
    return (key, false, after)) := by
  obtain ⟨hdigit, hq, hb, hbracket⟩ := facts_of_isDecimal hc
  -- A spread begins with a point, which is no decimal.
  have hspread : ¬ ['.', '.', '.'].isPrefixOf (c :: s) = true := by
    intro hpre
    obtain ⟨t, ht⟩ := List.isPrefixOf_iff_prefix.1 hpre
    exact (isDecimal_facts hc).2 (List.cons.inj ht).1.symm
  rw [readKey, if_neg hq, if_neg hb, if_neg hbracket, if_neg hspread, if_pos (.inl hdigit)]

theorem spotFault_of_number (hc : ¬ (c = '+' ∨ c = '-'))
    (h : (do
      let (n, after) ← Number.read c s
      let key ← Number.keyText n
      return (key, false, after) : Except Failure (Text × Bool × List Char)) = .error e)
    (he : TokenFault e) : SpotFault policy e .key (c :: s) := by
  cases hread : Number.read c s with
  | error e' =>
    obtain rfl : e' = e := by simpa [hread, bind, Except.bind] using h
    obtain ⟨rfl, sign, digits, rest, hs, hsign, hlong⟩ := longInteger_of_read hread he
    have hnone : sign = none := by
      simp only [List.mem_cons, List.not_mem_nil, or_false] at hsign
      rcases hsign with rfl | rfl | rfl
      · rfl
      · exact absurd (.inl (List.cons.inj hs).1) hc
      · exact absurd (.inr (List.cons.inj hs).1) hc
    rw [hs]
    exact .integer hsign (fun _ => hnone) hlong
  | ok x =>
    obtain ⟨v, after⟩ := x
    cases hkey : Number.keyText v with
    | ok key => simp [hread, hkey, bind, Except.bind, pure, Except.pure] at h
    | error e' =>
      obtain rfl : e' = e := by simpa [hread, hkey, bind, Except.bind] using h
      obtain ⟨rfl, i, rfl, hlong⟩ := keyText_eq_error_iff.1 hkey
      obtain ⟨mark, digits, hs, hmarked⟩ := longMarked_of_read hc hread hlong
      rw [hs]
      exact .marked hmarked

theorem spotFault_of_readKey (h : readKey s = .error e) (he : TokenFault e) :
    SpotFault policy e .key s := by
  unfold readKey at h
  split at h
  · cases h
    exact he.elim
  · next c rest =>
    split at h
    · next hq =>
      cases hbody : stringBody c (c :: rest) rest with
      | error e' =>
        obtain rfl : e' = e := by simpa [hbody, bind, Except.bind] using h
        obtain ⟨rfl, t, ht, hlarge⟩ := (stringBody_eq_error_iff hq he).1 hbody
        exact .string hq ht hlarge
      | ok x =>
        cases hkey : resolve (c :: rest) x.1 with
        | ok key => simp [hbody, hkey, bind, Except.bind, pure, Except.pure] at h
        | error e' =>
          obtain rfl : e' = e := by simpa [hbody, hkey, bind, Except.bind] using h
          exact absurd he (not_tokenFault_of_resolve hkey)
    iterate 3
      split at h
      · cases h
        exact he.elim
    split at h
    · next hnumber =>
      have hsign : ¬ (c = '+' ∨ c = '-') := by
        rintro (rfl | rfl) <;> exact absurd hnumber (by decide)
      exact spotFault_of_number hsign h he
    split at h
    · simp at h
    · cases h
      exact he.elim

theorem readKey_of_spotFault (h : SpotFault policy e .key s) : readKey s = .error e := by
  generalize hspot : Spot.key = spot at h
  cases h with
  | @string _ quote s t hq h ht =>
    have hbody : stringBody quote (quote :: s) s = .error .codePointTooLarge :=
      stringBody_of_reaches hq h (stringBody_of_largeEscape hq ht)
    rw [readKey, if_pos hq, hbody]
    rfl
  | template => cases hspot
  | @integer _ sign digits rest hsign hnone h =>
    obtain rfl : sign = none := hnone hspot.symm
    obtain ⟨c, s, hs, hc⟩ := exists_cons_of_longInteger hsign h
    have hread := read_of_longInteger hsign h hs.symm
    have hdecimal : isDecimal c = true := hc.resolve_right fun h => h.1 rfl
    rw [hs, readKey_of_isDecimal hdecimal, hread]
    rfl
  | marked h =>
    obtain ⟨i, hread, hlong⟩ := read_of_longMarked h
    have hkey : Number.keyText (.int i) = .error .tooManyDigits :=
      keyText_eq_error_iff.2 ⟨rfl, i, rfl, hlong⟩
    rw [readKey_of_isDecimal (by decide), hread]
    simp only [bind, Except.bind, hkey]

/-- **A token fails at a spot exactly for what it holds there.** -/
theorem failsAt_iff (he : TokenFault e) : FailsAt policy e spot s ↔ SpotFault policy e spot s := by
  cases spot with
  | value => exact ⟨fun h => spotFault_of_scalar h he, scalar_of_spotFault⟩
  | key => exact ⟨fun h => spotFault_of_readKey h he, readKey_of_spotFault⟩

/-- A token that fails at a spot, and that begins neither with trivia nor with a bracket or a comma,
so that nothing stops the reader before it. -/
structure Breaks (policy : Interpolation) (e : Failure) (spot : Spot) (s : List Char) : Prop where
  head : ∃ c rest, s = c :: rest ∧ isBlank c = false ∧ c ∉ separators
  fails : FailsAt policy e spot s

/-- The characters that numbers begin with begin nothing else. -/
theorem facts_of_number_head (hc : isDecimal c = true ∨ c = '+' ∨ c = '-') :
    isBlank c = false ∧ c ∉ separators := by
  rcases hc with hc | rfl | rfl
  · exact ⟨isBlank_of_isDecimal hc, not_mem_of_class hc (by decide)⟩
  · decide
  · decide

theorem exists_cons_of_spotFault (h : SpotFault policy e spot s) :
    ∃ c rest, s = c :: rest ∧ isBlank c = false ∧ c ∉ separators := by
  cases h with
  | string hq _ _ => exact ⟨_, _, rfl, not_mem_separators_of_quote hq⟩
  | template _ _ => exact ⟨_, _, rfl, by decide, by decide⟩
  | integer hsign _ h =>
    obtain ⟨c, s, hs, hc⟩ := exists_cons_of_longInteger hsign h
    exact ⟨c, s, hs, facts_of_number_head (hc.imp_right And.right)⟩
  | marked _ => exact ⟨_, _, rfl, by decide, by decide⟩

theorem breaks_of_spotFault (h : SpotFault policy e spot s) : Breaks policy e spot s :=
  ⟨exists_cons_of_spotFault h, by
    cases spot with
    | value => exact scalar_of_spotFault h
    | key => exact readKey_of_spotFault h⟩

end PromptLibrary.Proofs.Literal.Spots
