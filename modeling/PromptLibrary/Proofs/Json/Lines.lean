import PromptLibrary.Proofs.Encoding.Utf8
import PromptLibrary.Proofs.Json.Limits
import PromptLibrary.Proofs.Text.Points
/-!
# Line endings in documents

A file is read with its line endings turned into line feeds.  That is no matter for a document: a
token holds no line ending, and between tokens one blank is as good as another.

* `SameLines` — texts that differ in the spelling of line endings only;
* `derives_of_sameLines` — they hold the same phrases;
* `exceeds_of_sameLines` — they meet the same limits.
-/

namespace PromptLibrary.Proofs.Json.Lines

open PromptLibrary.Json
open PromptLibrary.Encoding (plainLines)
open PromptLibrary.Proofs.Json.Grammar
open PromptLibrary.Proofs.Json.LongInteger
open PromptLibrary.Proofs.Json.Limits
open PromptLibrary.Proofs.Text.Points

variable {s t r e pre opening opening' start start' key : Text} {p : CodePoint} {v : Value}
  {ps : List Spelled} {lexis : Lexis} {n d count : Nat} {ph : Phrase} {due : Due}
  {failure : Failure} {negative : Bool} {whole w : List Char} {c : Char}

/-! ## Texts with the same lines -/

def IsBreak (p : CodePoint) : Prop :=
  p = .char '\n' ∨ p = .char '\r'

instance : Decidable (IsBreak p) :=
  inferInstanceAs (Decidable (_ ∨ _))

/-- The ways to end a line. -/
def endings : List Text :=
  [[.char '\n'], [.char '\r'], [.char '\r', .char '\n']]

/-- The texts differ in the spelling of line endings only. -/
inductive SameLines : Text → Text → Prop where
  | nil : SameLines [] []
  | point {p : CodePoint} {s t : Text} (hp : ¬ IsBreak p) (h : SameLines s t) :
      SameLines (p :: s) (p :: t)
  | ending {e e' s t : Text} (he : e ∈ endings) (he' : e' ∈ endings) (h : SameLines s t) :
      SameLines (e ++ s) (e' ++ t)

theorem SameLines.symm (h : SameLines s t) : SameLines t s := by
  induction h with
  | nil => exact .nil
  | point hp _ ih => exact .point hp ih
  | ending he he' _ ih => exact .ending he' he ih

theorem sameLines_plainLines (cs : List Char) :
    SameLines (Text.ofChars cs) (Text.ofChars (plainLines cs)) := by
  have hends (e : Text) (he : e ∈ endings) (s t : Text) (h : SameLines s t) :
      SameLines (e ++ s) (.char '\n' :: t) := by
    show SameLines (e ++ s) ([.char '\n'] ++ t)
    exact .ending he (by decide) h
  fun_induction plainLines cs with
  | case1 => exact .nil
  | case2 rest ih => exact hends [.char '\r', .char '\n'] (by decide) _ _ ih
  | case3 rest _ ih => exact hends [.char '\r'] (by decide) _ _ ih
  | case4 c rest _ hreturn ih =>
    by_cases hc : c = '\n'
    · subst hc
      exact hends [.char '\n'] (by decide) _ _ ih
    · refine .point ?_ ih
      simp only [IsBreak, CodePoint.char.injEq, not_or]
      exact ⟨hc, hreturn⟩

theorem exists_of_ending (he : e ∈ endings) : ∃ p more, e = p :: more ∧ IsBreak p := by
  simp only [endings, List.mem_cons, List.not_mem_nil, or_false] at he
  rcases he with rfl | rfl | rfl
  · exact ⟨_, _, rfl, .inl rfl⟩
  · exact ⟨_, _, rfl, .inr rfl⟩
  · exact ⟨_, _, rfl, .inr rfl⟩

/-- How texts with the same lines begin. -/
inductive Heads : Text → Text → Prop where
  | nil : Heads [] []
  | point {p : CodePoint} {s t : Text} (hp : ¬ IsBreak p) (h : SameLines s t) :
      Heads (p :: s) (p :: t)
  | ending {p q : CodePoint} {s t : Text} (hp : IsBreak p) (hq : IsBreak q) :
      Heads (p :: s) (q :: t)

theorem heads (h : SameLines s t) : Heads s t := by
  cases h with
  | nil => exact .nil
  | point hp h => exact .point hp h
  | ending he he' h =>
    obtain ⟨p, more, rfl, hp⟩ := exists_of_ending he
    obtain ⟨q, more', rfl, hq⟩ := exists_of_ending he'
    exact .ending hp hq

theorem exists_of_cons (h : SameLines (p :: s) t) (hp : ¬ IsBreak p) :
    ∃ t', t = p :: t' ∧ SameLines s t' := by
  cases heads h with
  | point _ hrest => exact ⟨_, rfl, hrest⟩
  | ending hbreak _ => exact absurd hbreak hp

theorem exists_of_append (h : SameLines (pre ++ s) t) (hpre : ∀ p ∈ pre, ¬ IsBreak p) :
    ∃ t', t = pre ++ t' ∧ SameLines s t' := by
  induction pre generalizing t with
  | nil => exact ⟨t, rfl, h⟩
  | cons p pre ih =>
    obtain ⟨hp, hpre⟩ := List.forall_mem_cons.1 hpre
    obtain ⟨u, rfl, hu⟩ := exists_of_cons h hp
    obtain ⟨t', rfl, h'⟩ := ih hu hpre
    exact ⟨t', rfl, h'⟩

theorem ne_cons_of_sameLines (h : SameLines s t) (hp : ¬ IsBreak p) (hs : ∀ r, s ≠ p :: r) :
    ∀ r, t ≠ p :: r := by
  rintro r rfl
  obtain ⟨s', rfl, _⟩ := exists_of_cons h.symm hp
  exact hs s' rfl

theorem eq_nil_of_sameLines (h : SameLines [] t) : t = [] := by
  cases heads h
  rfl

/-! ## Blanks -/

theorem blanks_cons_iff :
    Blanks (p :: s) r ↔ r = p :: s ∨ isBlank p = true ∧ Blanks s r := by
  constructor
  · rintro ⟨b, hs, hb⟩
    cases b with
    | nil => exact .inl hs.symm
    | cons q b =>
      obtain ⟨rfl, rfl⟩ := List.cons.inj hs
      obtain ⟨hq, hb⟩ := List.forall_mem_cons.1 hb
      exact .inr ⟨hq, b, rfl, hb⟩
  · rintro (rfl | ⟨hp, b, rfl, hb⟩)
    · exact blanks_refl
    · exact ⟨p :: b, rfl, List.forall_mem_cons.2 ⟨hp, hb⟩⟩

/-- Blanks may end in the middle of a line ending, which leaves another one. -/
theorem blanks_ending (he : e ∈ endings) (h : Blanks (e ++ s) r) :
    (∃ e' ∈ endings, r = e' ++ s) ∨ Blanks s r := by
  by_cases hr : r = e ++ s
  · exact .inl ⟨e, he, hr⟩
  simp only [endings, List.mem_cons, List.not_mem_nil, or_false] at he
  rcases he with rfl | rfl | rfl
  · exact .inr ((blanks_cons_iff.1 h).resolve_left hr).2
  · exact .inr ((blanks_cons_iff.1 h).resolve_left hr).2
  · obtain ⟨_, h⟩ := (blanks_cons_iff.1 h).resolve_left hr
    rcases blanks_cons_iff.1 h with rfl | ⟨_, h⟩
    · exact .inl ⟨[.char '\n'], by decide, rfl⟩
    · exact .inr h

theorem blanks_of_ending (he : e ∈ endings) (h : Blanks s r) : Blanks (e ++ s) r := by
  have hblank : ∀ e ∈ endings, ∀ p ∈ e, isBlank p = true := by decide
  obtain ⟨b, rfl, hb⟩ := h
  refine ⟨e ++ b, (List.append_assoc e b r).symm, fun p hp => ?_⟩
  exact (List.mem_append.1 hp).elim (hblank e he p) (hb p)

theorem exists_of_blanks (h : SameLines s t) (hb : Blanks s r) :
    ∃ r', SameLines r r' ∧ Blanks t r' := by
  induction h with
  | nil =>
    obtain ⟨b, hs, _⟩ := hb
    obtain ⟨rfl, rfl⟩ := List.append_eq_nil_iff.1 hs.symm
    exact ⟨[], .nil, blanks_refl⟩
  | point hp h ih =>
    rcases blanks_cons_iff.1 hb with rfl | ⟨hblank, hb⟩
    · exact ⟨_, .point hp h, blanks_refl⟩
    · obtain ⟨r', hr, hb'⟩ := ih hb
      exact ⟨r', hr, blanks_cons_iff.2 (.inr ⟨hblank, hb'⟩)⟩
  | ending he he' h ih =>
    rcases blanks_ending he hb with ⟨e₁, he₁, rfl⟩ | hb
    · exact ⟨_, .ending he₁ he' h, blanks_refl⟩
    · obtain ⟨r', hr, hb'⟩ := ih hb
      exact ⟨r', hr, blanks_of_ending he' hb'⟩

theorem exists_of_blanks_mark (h : SameLines s t) (hb : Blanks s (p :: r)) (hp : ¬ IsBreak p) :
    ∃ r', SameLines r r' ∧ Blanks t (p :: r') := by
  obtain ⟨u, hu, hb'⟩ := exists_of_blanks h hb
  obtain ⟨r', rfl, hr⟩ := exists_of_cons hu hp
  exact ⟨r', hr, hb'⟩

/-! ## Strings -/

theorem not_isBreak_of_fourDigits (h : fourDigits? s = some p) : ∀ q ∈ s, ¬ IsBreak q := by
  unfold fourDigits? at h
  split at h
  · simp at h
  next cs hcs =>
  split at h
  · next hdigits =>
    rw [eq_ofChars_of_chars hcs]
    rintro q hq hbreak
    obtain ⟨c, hc, rfl⟩ := List.mem_map.1 hq
    have hdigit := List.all_eq_true.1 hdigits c hc
    rcases hbreak with hbreak | hbreak <;> obtain rfl := CodePoint.char.inj hbreak <;>
      exact absurd hdigit (by decide)
  · simp at h

theorem not_isBreak_of_simpleEscape (h : simpleEscape? p = some c) : ¬ IsBreak p := by
  rintro (rfl | rfl) <;> simp [simpleEscape?] at h

theorem not_isBreak_of_le (h : ¬ p.toNat < 0x20) : ¬ IsBreak p := by
  rintro (rfl | rfl) <;> exact h (by decide)

/-- A string holds no line ending. -/
theorem stringBody_of_sameLines (h : SameLines s t) (hs : stringBody opening s = .ok (ps, r)) :
    ∃ r', SameLines r r' ∧ stringBody opening' t = .ok (ps, r') := by
  fun_induction stringBody opening s generalizing t ps
  case case2 rest =>
    obtain ⟨t', rfl, h'⟩ := exists_of_cons h (by decide)
    obtain ⟨rfl, rfl⟩ := Prod.mk.inj (Except.ok.inj hs)
    exact ⟨t', h', rfl⟩
  case case5 a b c d rest q hq hrest ih =>
    have hpre : ∀ p ∈ [.char '\\', .char 'u', a, b, c, d], ¬ IsBreak p := by
      simpa [IsBreak] using not_isBreak_of_fourDigits hq
    obtain ⟨t', rfl, h'⟩ := @exists_of_append _ _ [_, _, a, b, c, d] h hpre
    obtain ⟨⟨qs, _⟩, hread, he⟩ := map_eq_ok.1 hs
    obtain ⟨rfl, rfl⟩ := Prod.mk.inj he
    obtain ⟨r', hr, hread'⟩ := ih h' hread
    have ht : t' ≠ [] := fun hnil => hrest (eq_nil_of_sameLines (hnil ▸ h'.symm))
    refine ⟨r', hr, ?_⟩
    simp only [List.cons_append, List.nil_append]
    rw [stringBody, hq]
    simp only [if_neg ht, hread']
    rfl
  case case8 q rest hlast hnumber c hc ih =>
    obtain ⟨u, rfl, h₁⟩ := exists_of_cons h (by decide)
    obtain ⟨t', rfl, h'⟩ := exists_of_cons h₁ (not_isBreak_of_simpleEscape hc)
    obtain ⟨⟨qs, _⟩, hread, he⟩ := map_eq_ok.1 hs
    obtain ⟨rfl, rfl⟩ := Prod.mk.inj he
    obtain ⟨r', hr, hread'⟩ := ih h' hread
    refine ⟨r', hr, ?_⟩
    rw [stringBody]
    · simp only [hc, hread']
      rfl
    · exact fun _ _ _ _ _ hu _ => hnumber hu
    · exact hnumber
  case case11 q rest hquote hlast _ _ hescape hcontrol ih =>
    obtain ⟨t', rfl, h'⟩ := exists_of_cons h (not_isBreak_of_le hcontrol)
    obtain ⟨⟨qs, _⟩, hread, he⟩ := map_eq_ok.1 hs
    obtain ⟨rfl, rfl⟩ := Prod.mk.inj he
    obtain ⟨r', hr, hread'⟩ := ih h' hread
    have hbackslash : q ≠ .char '\\' := by
      rintro rfl
      cases rest with
      | nil => exact hlast rfl rfl
      | cons p rest => exact hescape p rest rfl rfl
    refine ⟨r', hr, ?_⟩
    rw [stringBody, if_neg hcontrol, hread']
    · rfl
    · exact hquote
    all_goals simp [hbackslash]
  all_goals simp at hs

theorem stringAfter_of_sameLines (h : SameLines s t)
    (hs : stringAfter opening s = .ok (key, r)) :
    ∃ r', SameLines r r' ∧ stringAfter opening' t = .ok (key, r') := by
  obtain ⟨⟨ps, _⟩, hread, he⟩ := map_eq_ok.1 hs
  obtain ⟨rfl, rfl⟩ := Prod.mk.inj he
  obtain ⟨r', hr, hread'⟩ := stringBody_of_sameLines h hread
  exact ⟨r', hr, map_eq_ok.2 ⟨_, hread', rfl⟩⟩

/-! ## Numbers -/

/-- What two readers take is the same, and so are the lines of what they leave. -/
def Agree {α : Type} (x y : α × Text) : Prop :=
  x.1 = y.1 ∧ SameLines x.2 y.2

theorem digitRun_of_isBreak (hp : IsBreak p) : digitRun (p :: s) = ([], p :: s) := by
  rcases hp with rfl | rfl <;> rfl

theorem agree_digitRun (h : SameLines s t) : Agree (digitRun s) (digitRun t) := by
  induction h with
  | nil => exact ⟨rfl, .nil⟩
  | @point p s t hp h ih =>
    cases hd : digit? p with
    | none =>
      rw [digitRun_of_not_digit hd, digitRun_of_not_digit hd]
      exact ⟨rfl, .point hp h⟩
    | some c =>
      rw [digitRun, digitRun, hd]
      exact ⟨congrArg (c :: ·) ih.1, ih.2⟩
  | ending he he' h =>
    have hlines := SameLines.ending he he' h
    obtain ⟨p, more, rfl, hp⟩ := exists_of_ending he
    obtain ⟨q, more', rfl, hq⟩ := exists_of_ending he'
    rw [List.cons_append, List.cons_append, digitRun_of_isBreak hp, digitRun_of_isBreak hq]
    exact ⟨rfl, hlines⟩

theorem agree_fractionPart (h : SameLines s t) : Agree (fractionPart s) (fractionPart t) := by
  by_cases hs : ∃ r, s = .char '.' :: r
  · obtain ⟨s, rfl⟩ := hs
    obtain ⟨t, rfl, hrest⟩ := exists_of_cons h (by decide)
    obtain ⟨hrun, hafter⟩ := agree_digitRun hrest
    rw [fractionPart_point, fractionPart_point, ← hrun]
    split
    · exact ⟨rfl, h⟩
    · exact ⟨hrun, hafter⟩
  · have hs : ∀ r, s ≠ .char '.' :: r := fun r he => hs ⟨r, he⟩
    have ht := ne_cons_of_sameLines h (by decide) hs
    rw [fractionPart_of_ne_point hs, fractionPart_of_ne_point ht]
    exact ⟨rfl, h⟩

theorem takeSign_of_ne (hminus : ∀ r, s ≠ .char '-' :: r) (hplus : ∀ r, s ≠ .char '+' :: r) :
    takeSign s = (false, s) := by
  unfold takeSign
  split
  · next r => exact absurd rfl (hminus r)
  · next r => exact absurd rfl (hplus r)
  · rfl

theorem agree_takeSign (h : SameLines s t) : Agree (takeSign s) (takeSign t) := by
  fun_cases takeSign s with
  | case1 s =>
    obtain ⟨t, rfl, hrest⟩ := exists_of_cons h (by decide)
    exact ⟨rfl, hrest⟩
  | case2 s =>
    obtain ⟨t, rfl, hrest⟩ := exists_of_cons h (by decide)
    exact ⟨rfl, hrest⟩
  | case3 s hminus hplus =>
    rw [takeSign_of_ne (ne_cons_of_sameLines h (by decide) hminus)
      (ne_cons_of_sameLines h (by decide) hplus)]
    exact ⟨rfl, h⟩

theorem agree_exponentPart (h : SameLines s t) : Agree (exponentPart s) (exponentPart t) := by
  cases heads h with
  | nil => exact ⟨rfl, .nil⟩
  | point hp hrest =>
    obtain ⟨hsign, hmore⟩ := agree_takeSign hrest
    obtain ⟨hdigits, hafter⟩ := agree_digitRun hmore
    rw [exponentPart, exponentPart]
    simp only [← hsign, ← hdigits]
    split
    · exact ⟨rfl, hafter⟩
    · exact ⟨rfl, h⟩
  | ending hp hq =>
    have hnone {p : CodePoint} {s : Text} (hp : IsBreak p) :
        exponentPart (p :: s) = (none, p :: s) := by
      rcases hp with rfl | rfl <;> simp [exponentPart]
    rw [hnone hp, hnone hq]
    exact ⟨rfl, h⟩

theorem wholePart_of_sameLines (h : SameLines s t) (hs : wholePart? s = some (whole, r)) :
    ∃ r', SameLines r r' ∧ wholePart? t = some (whole, r') := by
  unfold wholePart? at hs
  split at hs
  · obtain ⟨rfl, rfl⟩ := Prod.mk.inj (Option.some.inj hs)
    obtain ⟨t, rfl, hrest⟩ := exists_of_cons h (by decide)
    exact ⟨t, hrest, rfl⟩
  next hzero =>
  split at hs
  · simp at hs
  next hne =>
  obtain ⟨hrun, hafter⟩ := agree_digitRun h
  rw [Option.some.inj hs] at hrun hafter hne
  have ht : digitRun t = (whole, (digitRun t).2) := Prod.ext hrun.symm rfl
  refine ⟨(digitRun t).2, hafter, ?_⟩
  rw [wholePart?, ht]
  · split
    · next he => exact (hne r (by rw [(Prod.mk.inj he).1])).elim
    · rfl
  · exact ne_cons_of_sameLines h (by decide) hzero

theorem unsignedNumber_of_sameLines (h : SameLines s t)
    (hs : unsignedNumber negative start s = .ok (v, r)) :
    ∃ r', SameLines r r' ∧ unsignedNumber negative start' t = .ok (v, r') := by
  unfold unsignedNumber at hs ⊢
  split at hs
  · simp at hs
  next whole after hwhole =>
  obtain ⟨after', hafter, hwhole'⟩ := wholePart_of_sameLines h hwhole
  obtain ⟨hpart, hbehind⟩ := agree_fractionPart hafter
  obtain ⟨hpower, hrest⟩ := agree_exponentPart hbehind
  rw [hwhole']
  simp only [← hpart, ← hpower] at hs ⊢
  split at hs
  · next hinteger =>
    split at hs
    · simp at hs
    next hshort =>
    obtain ⟨rfl, rfl⟩ := Prod.mk.inj (Except.ok.inj hs)
    rw [if_pos hinteger, if_neg hshort]
    exact ⟨_, hrest, rfl⟩
  · next hfloat =>
    obtain ⟨rfl, rfl⟩ := Prod.mk.inj (Except.ok.inj hs)
    rw [if_neg hfloat]
    exact ⟨_, hrest, rfl⟩

theorem not_isBreak_ofChars (hw : ∀ c ∈ w, ¬ IsBreak (.char c)) :
    ∀ p ∈ Text.ofChars w, ¬ IsBreak p := by
  intro p hp
  obtain ⟨c, hc, rfl⟩ := List.mem_map.1 hp
  exact hw c hc

theorem longInteger_of_sameLines (h : SameLines s t) (hs : LongInteger s count) :
    LongInteger t count := by
  obtain ⟨digits, rest, rfl, hcount, hlong, hdigits, hzero, hrest⟩ := hs
  have hbreak : ∀ c ∈ digits, ¬ IsBreak (.char c) := by
    intro c hc hbreak
    have hdigit := hdigits c hc
    rcases hbreak with hbreak | hbreak <;> obtain rfl := CodePoint.char.inj hbreak <;>
      exact absurd hdigit (by decide)
  obtain ⟨rest', rfl, hlines⟩ := exists_of_append h (not_isBreak_ofChars hbreak)
  refine ⟨digits, rest', rfl, hcount, hlong, hdigits, hzero, ?_⟩
  obtain ⟨hrun, hpart, hpower⟩ := not_continues_iff.1 hrest
  have hfraction := fractionPart_eq_nil_iff.1 hpart
  obtain ⟨hpart', hbehind⟩ := agree_fractionPart hlines
  rw [hfraction] at hpart' hbehind
  refine not_continues_iff.2 ⟨?_, hpart'.symm, ?_⟩
  · rw [← (agree_digitRun hlines).1]
    exact hrun
  · rw [← (agree_exponentPart hlines).1]
    exact hpower

/-! ## Phrases -/

theorem exists_of_constant (h : SameLines (Text.ofChars w ++ r) t) (hw : (w, v) ∈ constants) :
    ∃ r', t = Text.ofChars w ++ r' ∧ SameLines r r' := by
  have hall : ∀ x ∈ constants, ∀ c ∈ x.1, ¬ IsBreak (.char c) := by
    simp [constants, IsBreak]
  exact exists_of_append h (not_isBreak_ofChars (hall _ hw))

theorem token_of_sameLines (h : SameLines s t) (hs : Token lexis s v r) :
    ∃ r', SameLines r r' ∧ Token lexis t v r' := by
  cases hs with
  | string hstring ha =>
    obtain ⟨t, rfl, hrest⟩ := exists_of_cons h (by decide)
    obtain ⟨r', hr, hstring'⟩ := stringAfter_of_sameLines hrest hstring
    exact ⟨r', hr, .string hstring' ha⟩
  | word hw =>
    obtain ⟨r', rfl, hr⟩ := exists_of_constant h (List.mem_append_left extremes hw)
    exact ⟨r', hr, .word hw⟩
  | extreme hw ha =>
    obtain ⟨r', rfl, hr⟩ := exists_of_constant h (List.mem_append_right words hw)
    exact ⟨r', hr, .extreme hw ha⟩
  | number hnumber =>
    obtain ⟨r', hr, hnumber'⟩ := unsignedNumber_of_sameLines h hnumber
    exact ⟨r', hr, .number hnumber'⟩
  | negative hnumber =>
    obtain ⟨t, rfl, hrest⟩ := exists_of_cons h (by decide)
    obtain ⟨r', hr, hnumber'⟩ := unsignedNumber_of_sameLines hrest hnumber
    exact ⟨r', hr, .negative hnumber'⟩

theorem exists_of_key {a b u : Text} (h : SameLines (.char '"' :: s) t)
    (hk : stringAfter (.char '"' :: s) s = .ok (key, a)) (hcolon : Blanks a (.char ':' :: b))
    (hb : Blanks b u) :
    ∃ t' a' b' u', t = .char '"' :: t' ∧ stringAfter (.char '"' :: t') t' = .ok (key, a') ∧
      Blanks a' (.char ':' :: b') ∧ Blanks b' u' ∧ SameLines u u' := by
  obtain ⟨t', rfl, hrest⟩ := exists_of_cons h (by decide)
  obtain ⟨a', hafter, hk'⟩ := stringAfter_of_sameLines hrest hk
  obtain ⟨b', hbetween, hcolon'⟩ := exists_of_blanks_mark hafter hcolon (by decide)
  obtain ⟨u', hu, hb'⟩ := exists_of_blanks hbetween hb
  exact ⟨t', a', b', u', rfl, hk', hcolon', hb', hu⟩

theorem exists_of_comma {u : Text} (h : SameLines s t) (hc : Blanks s (.char ',' :: u))
    (hb : Blanks u r) :
    ∃ u' r', Blanks t (.char ',' :: u') ∧ Blanks u' r' ∧ SameLines r r' := by
  obtain ⟨u', hu, hc'⟩ := exists_of_blanks_mark h hc (by decide)
  obtain ⟨r', hr, hb'⟩ := exists_of_blanks hu hb
  exact ⟨u', r', hc', hb', hr⟩

/-- **Line endings make no difference to a phrase.** -/
theorem derives_of_sameLines (h : SameLines s t) (hs : Derives lexis d ph s r) :
    ∃ r', SameLines r r' ∧ Derives lexis d ph t r' := by
  induction hs generalizing t with
  | token htoken =>
    obtain ⟨r', hr, htoken'⟩ := token_of_sameLines h htoken
    exact ⟨r', hr, .token htoken'⟩
  | emptyArray hc =>
    obtain ⟨t, rfl, hrest⟩ := exists_of_cons h (by decide)
    obtain ⟨r', hr, hc'⟩ := exists_of_blanks_mark hrest hc (by decide)
    exact ⟨r', hr, .emptyArray hc'⟩
  | array hb _ ih =>
    obtain ⟨t, rfl, hrest⟩ := exists_of_cons h (by decide)
    obtain ⟨t', ht, hb'⟩ := exists_of_blanks hrest hb
    obtain ⟨r', hr, hitems⟩ := ih ht
    exact ⟨r', hr, .array hb' hitems⟩
  | emptyObject hc hk =>
    obtain ⟨t, rfl, hrest⟩ := exists_of_cons h (by decide)
    obtain ⟨r', hr, hc'⟩ := exists_of_blanks_mark hrest hc (by decide)
    exact ⟨r', hr, .emptyObject hc' hk⟩
  | object hb _ hk ih =>
    obtain ⟨t, rfl, hrest⟩ := exists_of_cons h (by decide)
    obtain ⟨t', ht, hb'⟩ := exists_of_blanks hrest hb
    obtain ⟨r', hr, hmembers⟩ := ih ht
    exact ⟨r', hr, .object hb' hmembers hk⟩
  | lastItem _ hc ih =>
    obtain ⟨m', hm, hvalue⟩ := ih h
    obtain ⟨r', hr, hc'⟩ := exists_of_blanks_mark hm hc (by decide)
    exact ⟨r', hr, .lastItem hvalue hc'⟩
  | item _ hc hb _ ih ihmore =>
    obtain ⟨m', hm, hvalue⟩ := ih h
    obtain ⟨n', t', hc', hb', ht⟩ := exists_of_comma hm hc hb
    obtain ⟨r', hr, hmore⟩ := ihmore ht
    exact ⟨r', hr, .item hvalue hc' hb' hmore⟩
  | lastMember hk ha hcolon hb _ hc ih =>
    obtain ⟨t, a', b', c', rfl, hk', hcolon', hb', hvalue⟩ := exists_of_key h hk hcolon hb
    obtain ⟨m', hm, hv⟩ := ih hvalue
    obtain ⟨r', hr, hc'⟩ := exists_of_blanks_mark hm hc (by decide)
    exact ⟨r', hr, .lastMember hk' ha hcolon' hb' hv hc'⟩
  | member hk ha hcolon hb _ hc hn _ ih ihmore =>
    obtain ⟨t, a', b', c', rfl, hk', hcolon', hb', hvalue⟩ := exists_of_key h hk hcolon hb
    obtain ⟨m', hm, hv⟩ := ih hvalue
    obtain ⟨n', t', hc', hn', ht⟩ := exists_of_comma hm hc hn
    obtain ⟨r', hr, hmore⟩ := ihmore ht
    exact ⟨r', hr, .member hk' ha hcolon' hb' hv hc' hn' hmore⟩

theorem document_of_sameLines (h : SameLines s t) (hs : Document lexis d s v) :
    Document lexis d t v := by
  obtain ⟨u, r, hb, hvalue, hr⟩ := hs
  obtain ⟨u', hu, hb'⟩ := exists_of_blanks h hb
  obtain ⟨r', hr', hvalue'⟩ := derives_of_sameLines hu hvalue
  obtain ⟨k, hk, hblank⟩ := exists_of_blanks hr' hr
  obtain rfl := eq_nil_of_sameLines hk
  exact ⟨u', r', hb', hvalue', hblank⟩

theorem document_plainLines_iff {cs : List Char} :
    Document lexis d (Text.ofChars (plainLines cs)) v ↔ Document lexis d (Text.ofChars cs) v :=
  ⟨document_of_sameLines (sameLines_plainLines cs).symm,
    document_of_sameLines (sameLines_plainLines cs)⟩

/-! ## Limits -/

theorem exceeds_of_sameLines (h : SameLines s t) (hs : Exceeds n due s failure) :
    Exceeds n due t failure := by
  induction hs generalizing t with
  | digits hlong => exact .digits (longInteger_of_sameLines h hlong)
  | negative hlong =>
    obtain ⟨t, rfl, hrest⟩ := exists_of_cons h (by decide)
    exact .negative (longInteger_of_sameLines hrest hlong)
  | noArray =>
    obtain ⟨t, rfl, _⟩ := exists_of_cons h (by decide)
    exact .noArray
  | noObject =>
    obtain ⟨t, rfl, _⟩ := exists_of_cons h (by decide)
    exact .noObject
  | array hb _ ih =>
    obtain ⟨t, rfl, hrest⟩ := exists_of_cons h (by decide)
    obtain ⟨t', ht, hb'⟩ := exists_of_blanks hrest hb
    exact .array hb' (ih ht)
  | object hb _ ih =>
    obtain ⟨t, rfl, hrest⟩ := exists_of_cons h (by decide)
    obtain ⟨t', ht, hb'⟩ := exists_of_blanks hrest hb
    exact .object hb' (ih ht)
  | item _ ih => exact .item (ih h)
  | items hd hv hc hb _ ih =>
    obtain ⟨m', hm, hv'⟩ := derives_of_sameLines h hv
    obtain ⟨u', t', hc', hb', ht⟩ := exists_of_comma hm hc hb
    exact .items hd hv' hc' hb' (ih ht)
  | member hk hcolon hb _ ih =>
    obtain ⟨t, a', b', c', rfl, hk', hcolon', hb', hvalue⟩ := exists_of_key h hk hcolon hb
    exact .member hk' hcolon' hb' (ih hvalue)
  | members hd hk hcolon hb hv hc hu _ ih =>
    obtain ⟨t, a', b', c', rfl, hk', hcolon', hb', hvalue⟩ := exists_of_key h hk hcolon hb
    obtain ⟨m', hm, hv'⟩ := derives_of_sameLines hvalue hv
    obtain ⟨u', t', hc', hu', ht⟩ := exists_of_comma hm hc hu
    exact .members hd hk' hcolon' hb' hv' hc' hu' (ih ht)

theorem oversize_of_sameLines (h : SameLines s t) (hs : Oversize n s failure) :
    Oversize n t failure := by
  obtain ⟨u, hb, hexceeds⟩ := hs
  obtain ⟨u', hu, hb'⟩ := exists_of_blanks h hb
  exact ⟨u', hb', exceeds_of_sameLines hu hexceeds⟩

theorem oversize_plainLines_iff {cs : List Char} :
    Oversize n (Text.ofChars (plainLines cs)) failure ↔ Oversize n (Text.ofChars cs) failure :=
  ⟨oversize_of_sameLines (sameLines_plainLines cs).symm,
    oversize_of_sameLines (sameLines_plainLines cs)⟩

end PromptLibrary.Proofs.Json.Lines
