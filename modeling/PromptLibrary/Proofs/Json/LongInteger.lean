import PromptLibrary.Proofs.Json.Grammar
/-!
# Integers that are too long

An integer in a document has more digits than are converted, whatever stands behind them, unless a
fraction or an exponent makes it another kind of number.

* `LongInteger` — the digits, and what they may not go on with;
* `unsignedNumber_eq_error_iff` — the one way in which the reader of numbers fails other than by
  finding no number.
-/

namespace PromptLibrary.Proofs.Json.LongInteger

open PromptLibrary.Json
open PromptLibrary.Proofs.Json.Grammar

variable {e : Failure} {s r start : Text} {negative : Bool} {count : Nat} {p : CodePoint} {c : Char}
  {digits : List Char}

/-- The failures that tell of a limit. -/
def Limit : Failure → Prop
  | .malformed _ _ => False
  | .tooManyDigits _ => True
  | .tooDeep _ => True

/-! ## Runs of digits -/

theorem digit_eq_some_iff : digit? p = some c ↔ p = .char c ∧ c.isDigit = true := by
  cases p with
  | char d =>
    simp only [digit?, CodePoint.char.injEq]
    constructor
    · intro h
      split at h
      · next hd =>
        obtain rfl := Option.some.inj h
        exact ⟨rfl, hd⟩
      · simp at h
    · rintro ⟨rfl, hd⟩
      rw [if_pos hd]
  | lead i | trail i => simp [digit?]

theorem digitRun_eq_nil_iff :
    (digitRun s).1 = [] ↔ ∀ c r, s = .char c :: r → ¬ c.isDigit = true := by
  cases s with
  | nil => simp [digitRun]
  | cons p s =>
    cases hp : digit? p with
    | none =>
      rw [digitRun_of_not_digit hp]
      refine iff_of_true rfl ?_
      rintro c r hs hc
      obtain ⟨rfl, rfl⟩ := List.cons.inj hs
      simp [digit_eq_some_iff.2 ⟨rfl, hc⟩] at hp
    | some c =>
      obtain ⟨rfl, hc⟩ := digit_eq_some_iff.1 hp
      rw [digitRun, hp]
      exact iff_of_false (by simp) fun h => h c s rfl hc

theorem digitRun_of_eq_nil (h : (digitRun s).1 = []) : digitRun s = ([], s) := by
  cases s with
  | nil => rfl
  | cons p s =>
    cases hp : digit? p with
    | none => exact digitRun_of_not_digit hp
    | some c => simp [digitRun, hp] at h

theorem digitRun_append (hdigits : ∀ c ∈ digits, c.isDigit = true) (hr : (digitRun r).1 = []) :
    digitRun (Text.ofChars digits ++ r) = (digits, r) := by
  induction digits with
  | nil => exact digitRun_of_eq_nil hr
  | cons c digits ih =>
    have hc : digit? (.char c) = some c :=
      digit_eq_some_iff.2 ⟨rfl, hdigits c List.mem_cons_self⟩
    have hrest := ih fun d hd => hdigits d (List.mem_cons_of_mem c hd)
    rw [Text.ofChars, List.map_cons, ← Text.ofChars, List.cons_append, digitRun, hc]
    simp only [hrest]

theorem digitRun_eq (s : Text) : s = Text.ofChars (digitRun s).1 ++ (digitRun s).2 ∧
    (∀ c ∈ (digitRun s).1, c.isDigit = true) ∧ (digitRun (digitRun s).2).1 = [] := by
  induction s with
  | nil => exact ⟨rfl, by simp [digitRun], rfl⟩
  | cons p s ih =>
    obtain ⟨hs, hdigits, hr⟩ := ih
    cases hp : digit? p with
    | none =>
      have hrun : digitRun (p :: s) = ([], p :: s) := digitRun_of_not_digit hp
      rw [hrun]
      exact ⟨rfl, by simp, congrArg Prod.fst hrun⟩
    | some c =>
      obtain ⟨rfl, hc⟩ := digit_eq_some_iff.1 hp
      rw [digitRun, hp]
      refine ⟨?_, List.forall_mem_cons.2 ⟨hc, hdigits⟩, hr⟩
      simp only [Text.ofChars, List.map_cons, List.cons_append]
      rw [← Text.ofChars, ← hs]

/-! ## What a number goes on with -/

/-- Text that a number goes on with behind its digits: one more digit, a fraction or an exponent. -/
inductive Continues : Text → Prop where
  | digit {c : Char} {r : Text} (hc : c.isDigit = true) : Continues (.char c :: r)
  | fraction {c : Char} {r : Text} (hc : c.isDigit = true) : Continues (.char '.' :: .char c :: r)
  | exponent {mark c : Char} {sign : List Char} {r : Text} (hm : mark = 'e' ∨ mark = 'E')
      (hs : sign ∈ [[], ['+'], ['-']]) (hc : c.isDigit = true) :
      Continues (.char mark :: (Text.ofChars sign ++ .char c :: r))

theorem fractionPart_point : fractionPart (.char '.' :: s) =
    if (digitRun s).1 = [] then ([], .char '.' :: s) else digitRun s := by
  rw [fractionPart]
  split
  · next h => rw [if_pos (congrArg Prod.fst h)]
  · next h => rw [if_neg fun he => h _ (Prod.ext he rfl)]

theorem fractionPart_of_ne_point (h : ∀ r, s ≠ .char '.' :: r) : fractionPart s = ([], s) := by
  unfold fractionPart
  split
  · next r => exact absurd rfl (h r)
  · rfl

theorem fractionPart_eq_nil_iff : (fractionPart s).1 = [] ↔ fractionPart s = ([], s) := by
  refine ⟨fun h => ?_, fun h => by rw [h]⟩
  by_cases hs : ∃ r, s = .char '.' :: r
  · obtain ⟨r, rfl⟩ := hs
    rw [fractionPart_point] at h ⊢
    split at h
    · next hrun => rw [if_pos hrun]
    · next hrun => exact absurd h hrun
  · exact fractionPart_of_ne_point fun r he => hs ⟨r, he⟩

theorem fractionPart_of_not_continues (h : ¬ Continues s) : fractionPart s = ([], s) := by
  by_cases hs : ∃ r, s = .char '.' :: r
  · obtain ⟨r, rfl⟩ := hs
    rw [fractionPart_point, if_pos]
    exact digitRun_eq_nil_iff.2 fun c more hr hc => h (hr ▸ .fraction hc)
  · exact fractionPart_of_ne_point fun r he => hs ⟨r, he⟩

theorem takeSign_eq (s : Text) :
    ∃ sign ∈ [[], ['+'], ['-']], s = Text.ofChars sign ++ (takeSign s).2 := by
  unfold takeSign
  split
  · exact ⟨['-'], by simp, rfl⟩
  · exact ⟨['+'], by simp, rfl⟩
  · exact ⟨[], by simp, rfl⟩

theorem takeSign_sign {sign : List Char} (hs : sign ∈ [[], ['+'], ['-']]) (hc : c.isDigit = true) :
    (takeSign (Text.ofChars sign ++ .char c :: r)).2 = .char c :: r := by
  have hne : c ≠ '-' ∧ c ≠ '+' := by
    constructor <;> rintro rfl <;> simp at hc
  simp only [List.mem_cons, List.not_mem_nil, or_false] at hs
  rcases hs with rfl | rfl | rfl
  · unfold takeSign
    split <;> simp_all [Text.ofChars]
  · rfl
  · rfl

/-- The exponent of a number is read exactly where there is one. -/
theorem exponentPart_eq_none_iff : (exponentPart s).1 = none ↔
    ∀ mark sign c r, mark = 'e' ∨ mark = 'E' → sign ∈ [[], ['+'], ['-']] →
      s = .char mark :: (Text.ofChars sign ++ .char c :: r) → ¬ c.isDigit = true := by
  cases s with
  | nil => simp [exponentPart]
  | cons p s =>
    obtain ⟨sign, hsign, hs⟩ := takeSign_eq s
    rw [exponentPart]
    simp only
    constructor
    · intro h mark sign c r hm hsign' he hc
      obtain ⟨rfl, rfl⟩ := List.cons.inj he
      rw [takeSign_sign hsign' hc] at h
      have hrun : (digitRun (.char c :: r)).1 ≠ [] := fun hnil =>
        digitRun_eq_nil_iff.1 hnil c r rfl hc
      have hmark : CodePoint.char mark = .char 'e' ∨ CodePoint.char mark = .char 'E' := by
        simpa using hm
      rw [if_pos ⟨hmark, hrun⟩] at h
      simp at h
    · intro h
      rw [if_neg]
      rintro ⟨hmark, hrun⟩
      refine hrun (digitRun_eq_nil_iff.2 fun c r hr => ?_)
      rw [hr] at hs
      rcases hmark with rfl | rfl
      · exact h 'e' sign c r (.inl rfl) hsign (by rw [← hs])
      · exact h 'E' sign c r (.inr rfl) hsign (by rw [← hs])

theorem not_continues_iff : ¬ Continues s ↔
    (digitRun s).1 = [] ∧ (fractionPart s).1 = [] ∧ (exponentPart s).1 = none := by
  constructor
  · intro h
    refine ⟨digitRun_eq_nil_iff.2 fun c r hs hc => h (hs ▸ .digit hc), ?_,
      exponentPart_eq_none_iff.2 fun mark sign c r hm hs he hc => h (he ▸ .exponent hm hs hc)⟩
    rw [fractionPart_of_not_continues h]
  · rintro ⟨hrun, hpart, hpower⟩ h
    cases h with
    | digit hc => exact digitRun_eq_nil_iff.1 hrun _ _ rfl hc
    | @fraction c r hc =>
      have hmore : (digitRun (.char c :: r)).1 ≠ [] := fun hnil =>
        digitRun_eq_nil_iff.1 hnil c r rfl hc
      rw [fractionPart_point, if_neg hmore] at hpart
      exact hmore hpart
    | exponent hm hs hc => exact exponentPart_eq_none_iff.1 hpower _ _ _ _ hm hs rfl hc

/-! ## Integers -/

/-- An integer without its sign that has more digits than the limit allows. -/
def LongInteger (s : Text) (count : Nat) : Prop :=
  ∃ digits rest, s = Text.ofChars digits ++ rest ∧ digits.length = count ∧
    Integer.digitLimit < count ∧ (∀ c ∈ digits, c.isDigit = true) ∧ digits.head? ≠ some '0' ∧
    ¬ Continues rest

/-- A zero stands alone, so a longer whole part is a whole run of digits. -/
theorem wholePart_eq_some_iff (hlong : 1 < digits.length) : wholePart? s = some (digits, r) ↔
    s = Text.ofChars digits ++ r ∧ (∀ c ∈ digits, c.isDigit = true) ∧
      digits.head? ≠ some '0' ∧ (digitRun r).1 = [] := by
  constructor
  · intro h
    unfold wholePart? at h
    split at h
    · obtain ⟨rfl, rfl⟩ := Prod.mk.inj (Option.some.inj h)
      simp at hlong
    next hzero =>
    split at h
    · simp at h
    have hrun : digitRun s = (digits, r) := Option.some.inj h
    obtain ⟨hs, hdigits, hr⟩ := digitRun_eq s
    rw [hrun] at hs hdigits hr
    refine ⟨hs, hdigits, fun hhead => ?_, hr⟩
    obtain ⟨more, rfl⟩ := List.head?_eq_some_iff.1 hhead
    exact hzero _ hs
  · rintro ⟨rfl, hdigits, hzero, hr⟩
    cases digits with
    | nil => simp at hlong
    | cons c digits =>
      rw [wholePart?, digitRun_append hdigits hr]
      rintro more hmore
      obtain ⟨hc, _⟩ := List.cons.inj hmore
      obtain rfl := CodePoint.char.inj hc
      exact hzero rfl

theorem unsignedNumber_eq_error_iff (he : Limit e) :
    unsignedNumber negative start s = .error e ↔
      ∃ count, e = .tooManyDigits count ∧ LongInteger s count := by
  have hlimit : 1 < Integer.digitLimit := by decide
  constructor
  · intro h
    unfold unsignedNumber at h
    split at h
    · obtain rfl := Except.error.inj h
      exact he.elim
    next whole rest hwhole =>
    simp only at h
    split at h
    · next hinteger =>
      split at h
      · next hlong =>
        obtain rfl := Except.error.inj h
        obtain ⟨hs, hdigits, hzero, hr⟩ := (wholePart_eq_some_iff (by omega)).1 hwhole
        obtain ⟨hpart, hpower⟩ := hinteger
        rw [fractionPart_eq_nil_iff.1 hpart] at hpower
        exact ⟨_, rfl, whole, rest, hs, rfl, hlong, hdigits, hzero,
          not_continues_iff.2 ⟨hr, hpart, hpower⟩⟩
      · simp at h
    · simp at h
  · rintro ⟨count, rfl, digits, rest, hs, hcount, hlong, hdigits, hzero, hrest⟩
    obtain ⟨hr, hpart, hpower⟩ := not_continues_iff.1 hrest
    have hwhole := (wholePart_eq_some_iff (by omega)).2 ⟨hs, hdigits, hzero, hr⟩
    unfold unsignedNumber
    rw [hwhole]
    simp only [fractionPart_of_not_continues hrest, hpower]
    rw [if_pos ⟨trivial, trivial⟩, if_pos (by omega), hcount]

/-- A long integer begins with a digit. -/
theorem exists_digit_of_longInteger (h : LongInteger s count) :
    ∃ c rest, s = .char c :: rest ∧ c.isDigit = true := by
  obtain ⟨digits, rest, rfl, hcount, hlong, hdigits, _, _⟩ := h
  cases digits with
  | nil => simp at hcount; omega
  | cons c digits => exact ⟨c, _, rfl, hdigits c List.mem_cons_self⟩

end PromptLibrary.Proofs.Json.LongInteger
