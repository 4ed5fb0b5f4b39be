import PromptLibrary.Proofs.Json.Grammar
import PromptLibrary.Proofs.Literal.Grammar
import PromptLibrary.Proofs.Text.Points
import Mathlib.Data.List.Basic
import Mathlib.Tactic.IntervalCases
/-!
# Tokens of documents as tokens of literals

Strings, numbers and words of JSON are read by the readers of literals with the same meaning, as
long as something follows that ends a token in a document:

* `stringBody_of_json` — strings, up to the pairing of surrogate halves, which literals put off
  until the operands of a `+` are joined;
* `read_of_parts` — numbers, by their spelling in parts;
* `token_of_json` — all tokens.
-/

namespace PromptLibrary.Proofs.Json.Tokens

open PromptLibrary.Json
open PromptLibrary.Literal (escape hexEscape Number NumberBody decimalBody? radixBody? powerAt
  signAt continuesName baseOf? isNamePart keyword? Parsed Interpolation)
open PromptLibrary.Proofs.Json.Grammar
open PromptLibrary.Proofs.Text.Points
open PromptLibrary.Proofs.Text.Runs
open PromptLibrary.Proofs.Literal.Quote (StringBody read_of_stringBody)
open PromptLibrary.Proofs.Literal.Token (Key continuesName_eq_false_iff)
open PromptLibrary.Proofs.Literal.Grammar (Joined joined_one_iff)

variable {cs more whole part tail digits : List Char} {r t : Text} {v : Value} {c : Char}
  {p : CodePoint}

/-! ## Strings -/

/-- A half is spelled by its number wherever no half stands in the text itself. -/
def ByNumber (ps : List Spelled) : Prop :=
  ∀ q ∈ ps, q.byNumber = true ∨ ∃ c, q.point = .char c

theorem joinSpelled_eq_join {ps : List Spelled} (h : ByNumber ps) :
    joinSpelled ps = Text.join (ps.map Spelled.point) := by
  fun_induction joinSpelled ps with
  | case1 a b rest ih =>
    have hrest : ByNumber rest := fun q hq => h q (by simp [hq])
    rw [ih hrest]
    rfl
  | case2 q rest hne ih =>
    have hrest : ByNumber rest := fun u hu => h u (List.mem_cons_of_mem q hu)
    rw [ih hrest, List.map_cons]
    obtain ⟨point, byNumber⟩ := q
    cases point with
    | char c => rfl
    | trail i => rfl
    | lead i =>
      -- The half is spelled by number, so what follows it is no second half.
      have hnumber : byNumber = true := by simpa using h _ List.mem_cons_self
      subst hnumber
      cases rest with
      | nil => rfl
      | cons u rest =>
        obtain ⟨point, byNumber⟩ := u
        cases point with
        | char c => rfl
        | lead j => rfl
        | trail j =>
          have hnext : byNumber = true := by simpa using hrest _ List.mem_cons_self
          subst hnext
          exact (hne i j rest rfl rfl).elim
  | case3 => rfl

theorem escape_of_simpleEscape {e : Char} (h : simpleEscape? p = some c) (hp : p = .char e) :
    escape false (e :: cs) = .ok ([.char c], cs) := by
  subst hp
  unfold simpleEscape? at h
  split at h <;> simp_all [escape] <;> subst h <;> rfl

theorem escape_of_fourDigits {d₁ d₂ d₃ d₄ : Char}
    (h : fourDigits? (Text.ofChars [d₁, d₂, d₃, d₄]) = some p) :
    escape false ('u' :: d₁ :: d₂ :: d₃ :: d₄ :: cs) = .ok ([p], cs) := by
  unfold fourDigits? at h
  rw [chars_ofChars] at h
  simp only at h
  split at h
  · next hdigits =>
    have hbrace : d₁ ≠ '\x7b' := by
      rintro rfl
      simp [Integer.isDigitOf, Integer.asciiDigit?] at hdigits
    have hread : hexEscape 4 (d₁ :: d₂ :: d₃ :: d₄ :: cs) = .ok ([p], cs) := by
      simp only [hexEscape, List.take_succ_cons, List.take_zero, List.length_cons, List.length_nil,
        List.drop_succ_cons, List.drop_zero]
      rw [if_pos ⟨trivial, hdigits⟩, h]
      rfl
    simpa [escape, hbrace] using hread
  · simp at h

/-- **Strings of documents are strings of literals**, up to the pairing of halves. -/
theorem stringBody_of_json {opening : Text} {ps : List Spelled}
    (h : stringBody opening (Text.ofChars cs) = .ok (ps, r)) :
    ∃ more, r = Text.ofChars more ∧ StringBody '"' cs (ps.map Spelled.point) more ∧
      ByNumber ps := by
  generalize hs : Text.ofChars cs = s at h
  fun_induction stringBody opening s generalizing cs ps with
  | case1 => simp at h
  | case2 rest =>
    obtain ⟨_, more, rfl, hc, rfl⟩ := ofChars_eq_cons hs
    obtain rfl := CodePoint.char.inj hc
    obtain ⟨rfl, rfl⟩ := Prod.mk.inj (Except.ok.inj h)
    exact ⟨more, rfl, .close, by simp [ByNumber]⟩
  | case3 => simp at h
  | case4 => simp at h
  | case5 d₁ d₂ d₃ d₄ rest q hq _ ih =>
    -- `\uXXXX`: the literal reads the same four digits.
    obtain ⟨_, _, rfl, hc, hs₁⟩ := ofChars_eq_cons hs
    obtain ⟨_, _, rfl, hu, hs₂⟩ := ofChars_eq_cons hs₁.symm
    obtain ⟨c₁, _, rfl, rfl, hs₃⟩ := ofChars_eq_cons hs₂.symm
    obtain ⟨c₂, _, rfl, rfl, hs₄⟩ := ofChars_eq_cons hs₃.symm
    obtain ⟨c₃, _, rfl, rfl, hs₅⟩ := ofChars_eq_cons hs₄.symm
    obtain ⟨c₄, cs, rfl, rfl, hs₆⟩ := ofChars_eq_cons hs₅.symm
    obtain rfl := CodePoint.char.inj hc
    obtain rfl := CodePoint.char.inj hu
    simp only [map_eq_ok, Prod.exists, Prod.mk.injEq] at h
    obtain ⟨qs, _, hread, rfl, rfl⟩ := h
    obtain ⟨more, hr, hbody, hnumber⟩ := ih hs₆.symm hread
    exact ⟨more, hr, .escaped (escape_of_fourDigits hq) hbody,
      List.forall_mem_cons.2 ⟨.inl rfl, hnumber⟩⟩
  | case6 => simp at h
  | case7 => simp at h
  | case8 q rest _ _ c hc ih =>
    obtain ⟨_, _, rfl, hbackslash, hs₁⟩ := ofChars_eq_cons hs
    obtain ⟨e, cs, rfl, rfl, hs₂⟩ := ofChars_eq_cons hs₁.symm
    obtain rfl := CodePoint.char.inj hbackslash
    simp only [map_eq_ok, Prod.exists, Prod.mk.injEq] at h
    obtain ⟨qs, _, hread, rfl, rfl⟩ := h
    obtain ⟨more, hr, hbody, hnumber⟩ := ih hs₂.symm hread
    exact ⟨more, hr, .escaped (escape_of_simpleEscape hc rfl) hbody,
      List.forall_mem_cons.2 ⟨.inr ⟨c, rfl⟩, hnumber⟩⟩
  | case9 => simp at h
  | case10 => simp at h
  | case11 q rest hquote hlast _ _ hescape hcontrol ih =>
    obtain ⟨c, cs, rfl, rfl, hs₁⟩ := ofChars_eq_cons hs
    simp only [map_eq_ok, Prod.exists, Prod.mk.injEq] at h
    obtain ⟨qs, _, hread, rfl, rfl⟩ := h
    obtain ⟨more, hr, hbody, hnumber⟩ := ih hs₁.symm hread
    have hplain : c ∉ ['\n', '\r', '"', '\\'] := by
      simp only [List.mem_cons, List.not_mem_nil, or_false, not_or]
      refine ⟨?_, ?_, ?_, ?_⟩
      · rintro rfl
        exact hcontrol (by decide)
      · rintro rfl
        exact hcontrol (by decide)
      · rintro rfl
        exact hquote rfl
      · rintro rfl
        cases rest with
        | nil => exact hlast rfl rfl
        | cons q rest => exact hescape q rest rfl rfl
    exact ⟨more, hr, .plain hplain hbody, List.forall_mem_cons.2 ⟨.inr ⟨c, rfl⟩, hnumber⟩⟩

/-! ## Numbers -/

/-- What may follow a token in a document: nothing, a blank, or the mark that comes next. -/
def Ends (tail : List Char) : Prop :=
  ∀ c ∈ tail.head?, c ∈ [' ', '\t', '\n', '\r', ',', ']', '\x7d']

/-- The digits of documents are decimals, with the value that they have in base 10, and mark no
base. -/
theorem facts_of_isDigit (h : c.isDigit = true) : Text.isDecimal c = true ∧
    Integer.asciiDigit? c = Text.decimalValue? c ∧ baseOf? c = none := by
  have hbounds : 48 ≤ c.toNat ∧ c.toNat ≤ 57 := by
    simp only [Char.isDigit, Bool.and_eq_true, decide_eq_true_eq, ge_iff_le,
      UInt32.le_iff_toNat_le] at h
    exact h
  have hc : Char.ofNat c.toNat = c := Char.ofNat_toNat c
  obtain ⟨hlow, hhigh⟩ := hbounds
  rw [← hc]
  interval_cases c.toNat <;> decide

theorem ofDecimals_eq (h : ∀ c ∈ digits, c.isDigit = true) :
    NumberBody.ofDecimals digits = Integer.ofAscii 10 digits := by
  unfold NumberBody.ofDecimals Integer.ofAscii
  congr 1
  exact List.filterMap_congr fun c hc => (facts_of_isDigit (h c hc)).2.1.symm

theorem exists_digitRun (cs : List Char) :
    ∃ digits tail, digitRun (Text.ofChars cs) = (digits, Text.ofChars tail) ∧
      cs = digits ++ tail ∧ ∀ c ∈ digits, c.isDigit = true := by
  induction cs with
  | nil => exact ⟨[], [], rfl, rfl, by simp⟩
  | cons c cs ih =>
    obtain ⟨digits, tail, hrun, hcs, hall⟩ := ih
    by_cases hc : c.isDigit = true
    · refine ⟨c :: digits, tail, ?_, by rw [hcs, List.cons_append], ?_⟩
      · rw [Text.ofChars, List.map_cons, ← Text.ofChars, digitRun, hrun]
        simp [digit?, hc]
      · exact List.forall_mem_cons.2 ⟨hc, hall⟩
    · refine ⟨[], c :: cs, ?_, rfl, by simp⟩
      exact digitRun_of_not_digit (by simp [digit?, hc])

theorem exists_wholePart (h : wholePart? (Text.ofChars cs) = some (whole, r)) :
    ∃ tail, cs = whole ++ tail ∧ r = Text.ofChars tail ∧ whole ≠ [] ∧
      ∀ c ∈ whole, c.isDigit = true := by
  generalize hs : Text.ofChars cs = s at h
  unfold wholePart? at h
  split at h
  · obtain ⟨_, more, rfl, hc, rfl⟩ := ofChars_eq_cons hs
    obtain rfl := CodePoint.char.inj hc
    obtain ⟨rfl, rfl⟩ := Prod.mk.inj (Option.some.inj h)
    exact ⟨more, rfl, rfl, by simp, by simp⟩
  · obtain ⟨digits, tail, hrun, hcs, hall⟩ := exists_digitRun cs
    rw [← hs, hrun] at h
    split at h
    · simp at h
    · next hne =>
      obtain ⟨rfl, rfl⟩ := Prod.mk.inj (Option.some.inj h)
      exact ⟨tail, hcs, rfl, fun hnil => hne _ (by rw [hnil]), hall⟩

/-- How the digits after a point are written. -/
def fractionText (part : List Char) : List Char :=
  if part = [] then [] else '.' :: part

theorem exists_fractionPart (cs : List Char) :
    ∃ part tail, fractionPart (Text.ofChars cs) = (part, Text.ofChars tail) ∧
      cs = fractionText part ++ tail ∧ ∀ c ∈ part, c.isDigit = true := by
  generalize hs : Text.ofChars cs = s
  unfold fractionPart
  split
  · obtain ⟨_, more, rfl, hc, rfl⟩ := ofChars_eq_cons hs
    obtain rfl := CodePoint.char.inj hc
    obtain ⟨digits, tail, hrun, rfl, hall⟩ := exists_digitRun more
    rw [hrun]
    cases digits with
    | nil => exact ⟨[], '.' :: tail, rfl, rfl, by simp⟩
    | cons d digits => exact ⟨d :: digits, tail, rfl, rfl, hall⟩
  · exact ⟨[], cs, by rw [hs], rfl, by simp⟩

/-- An exponent in parts: its mark, its sign and its digits. -/
abbrev Power : Type := Char × Option Char × List Char

/-- How an exponent is written. -/
def powerText : Option Power → List Char
  | none => []
  | some (mark, sign, digits) => mark :: sign.toList ++ digits

/-- What the parts of an exponent may be. -/
def IsPower (power : Option Power) : Prop :=
  ∀ x ∈ power, (x.1 = 'e' ∨ x.1 = 'E') ∧ (∀ c ∈ x.2.1, c = '+' ∨ c = '-') ∧ x.2.2 ≠ [] ∧
    ∀ c ∈ x.2.2, c.isDigit = true

theorem exists_takeSign (cs : List Char) :
    ∃ sign more, takeSign (Text.ofChars cs) = (decide (sign = some '-'), Text.ofChars more) ∧
      cs = sign.toList ++ more ∧ ∀ c ∈ sign, c = '+' ∨ c = '-' := by
  generalize hs : Text.ofChars cs = s
  unfold takeSign
  split
  · obtain ⟨_, more, rfl, hc, rfl⟩ := ofChars_eq_cons hs
    obtain rfl := CodePoint.char.inj hc
    exact ⟨some '-', more, rfl, rfl, by simp⟩
  · obtain ⟨_, more, rfl, hc, rfl⟩ := ofChars_eq_cons hs
    obtain rfl := CodePoint.char.inj hc
    exact ⟨some '+', more, rfl, rfl, by simp⟩
  · exact ⟨none, cs, by rw [hs]; rfl, rfl, by simp⟩

theorem exists_exponentPart (cs : List Char) :
    ∃ power tail, exponentPart (Text.ofChars cs) =
        (power.map fun x => NumberBody.powerValue (some x), Text.ofChars tail) ∧
      cs = powerText power ++ tail ∧ IsPower power := by
  cases cs with
  | nil => exact ⟨none, [], rfl, rfl, by simp [IsPower]⟩
  | cons e rest =>
    obtain ⟨sign, more, hsign, rfl, hmark⟩ := exists_takeSign rest
    obtain ⟨digits, tail, hrun, rfl, hall⟩ := exists_digitRun more
    rw [Text.ofChars, List.map_cons, ← Text.ofChars, exponentPart]
    simp only [hsign, hrun, CodePoint.char.injEq]
    split
    · next h =>
      refine ⟨some (e, sign, digits), tail, ?_, by simp [powerText], ?_⟩
      · simp [NumberBody.powerValue, ofDecimals_eq hall]
      · simp only [IsPower, Option.mem_def, Option.some.injEq, forall_eq']
        exact ⟨h.1, hmark, h.2, hall⟩
    · exact ⟨none, e :: (sign.toList ++ (digits ++ tail)), rfl, rfl, by simp [IsPower]⟩

/-- The number that the parts of a JSON number make for literals. -/
def numberOf (sign : Option Char) (whole part : List Char) (power : Option Power) : Number :=
  ⟨sign, .decimal whole (decide (part ≠ [])) part power⟩

/-- **A number without its sign is written in three parts**, and they mean the same in a literal. -/
theorem exists_parts {start : Text} {sign : Option Char}
    (h : unsignedNumber (decide (sign = some '-')) start (Text.ofChars cs) = .ok (v, r)) :
    ∃ whole part power tail, cs = whole ++ (fractionText part ++ (powerText power ++ tail)) ∧
      r = Text.ofChars tail ∧ whole ≠ [] ∧ (∀ c ∈ whole, c.isDigit = true) ∧
      (∀ c ∈ part, c.isDigit = true) ∧ IsPower power ∧
      (numberOf sign whole part power).value = .ok v := by
  unfold unsignedNumber at h
  split at h
  · simp at h
  · next whole after hwhole =>
    obtain ⟨more, rfl, rfl, hne, hwholeDigits⟩ := exists_wholePart hwhole
    obtain ⟨part, rest, hpart, rfl, hpartDigits⟩ := exists_fractionPart more
    obtain ⟨power, tail, hpower, rfl, hpowerParts⟩ := exists_exponentPart rest
    simp only [hpart, hpower] at h
    have hall : ∀ c ∈ whole ++ part, c.isDigit = true := by
      intro c hc
      rcases List.mem_append.1 hc with hc | hc
      · exact hwholeDigits c hc
      · exact hpartDigits c hc
    have hvalue : (numberOf sign whole part power).value = .ok v ∧ r = Text.ofChars tail := by
      simp only [numberOf, Number.value, ofDecimals_eq hall, ofDecimals_eq hwholeDigits]
      cases power with
      | none =>
        by_cases hp : part = []
        · simp only [hp, Option.map_none, and_self, if_true] at h ⊢
          split at h
          · simp at h
          · next hlimit =>
            obtain ⟨rfl, rfl⟩ := Prod.mk.inj (Except.ok.inj h)
            simp only [hlimit, if_false, and_true]
            rfl
        · simp only [hp, Option.map_none, false_and, if_false] at h
          obtain ⟨rfl, rfl⟩ := Prod.mk.inj (Except.ok.inj h)
          simp only [ne_eq, hp, not_false_eq_true, decide_true, true_or, if_true, and_true]
          rfl
      | some x =>
        simp only [Option.map_some, reduceCtorEq, and_false, if_false] at h
        obtain ⟨rfl, rfl⟩ := Prod.mk.inj (Except.ok.inj h)
        simp only [Option.isSome_some, or_true, if_true, and_true]
        rfl
    exact ⟨whole, part, power, tail, rfl, hvalue.2, hne, hwholeDigits, hpartDigits, hpowerParts,
      hvalue.1⟩

/-! ## The reader of numbers in literals -/

/-- The digits of a number end in front of such a character, and no base is marked by it. -/
def Stops (c : Char) : Prop :=
  Text.isDecimal c = false ∧ baseOf? c = none

theorem facts_of_ends (h : Ends tail) : ∀ c ∈ tail.head?,
    Stops c ∧ isNamePart c = false ∧ c ∉ ['.', 'e', 'E'] := by
  intro c hc
  have hmem := h c hc
  simp only [List.mem_cons, List.not_mem_nil, or_false] at hmem
  unfold Stops
  rcases hmem with rfl | rfl | rfl | rfl | rfl | rfl | rfl <;> decide

theorem continuesName_of_ends (h : Ends tail) : continuesName tail = false :=
  continuesName_eq_false_iff.2 fun c hc => (facts_of_ends h c hc).2.1

theorem signAt_digits {sign : Option Char} (hsign : ∀ c ∈ sign, c = '+' ∨ c = '-')
    (hne : digits ≠ []) (hdigits : ∀ c ∈ digits, c.isDigit = true) :
    signAt (sign.toList ++ (digits ++ tail)) = (sign, digits ++ tail) := by
  cases sign with
  | some c => simp [signAt, hsign c rfl]
  | none =>
    obtain ⟨d, more, rfl⟩ := List.exists_cons_of_ne_nil hne
    have hd : ¬ (d = '+' ∨ d = '-') := by
      have hdigit := hdigits d List.mem_cons_self
      rintro (rfl | rfl) <;> simp at hdigit
    simp [signAt, hd]

theorem powerAt_eq {power : Option Power} (hp : IsPower power) (ht : Ends tail) :
    powerAt (powerText power ++ tail) = (power, tail) := by
  cases power with
  | none =>
    cases tail with
    | nil => rfl
    | cons c tail =>
      have hc := (facts_of_ends ht c rfl).2.2
      simp only [List.mem_cons, List.not_mem_nil, or_false, not_or] at hc
      simp [powerText, powerAt, hc]
  | some x =>
    obtain ⟨mark, sign, digits⟩ := x
    obtain ⟨hmark, hsign, hne, hdigits⟩ := hp _ rfl
    have hdecimal : ∀ c ∈ digits, Text.isDecimal c = true :=
      fun c hc => (facts_of_isDigit (hdigits c hc)).1
    have htext : powerText (some (mark, sign, digits)) ++ tail =
        mark :: (sign.toList ++ (digits ++ tail)) := by
      simp [powerText]
    obtain ⟨htake, hdrop⟩ :=
      takeWhile_eq_run hdecimal fun c hc => (facts_of_ends ht c hc).1.1
    rw [htext, powerAt, signAt_digits hsign hne hdigits]
    simp only [htake, hdrop]
    rw [if_pos ⟨hmark, hne⟩]

/-- What stands behind the digits of a number without a point. -/
theorem stops_of_rest {power : Option Power} (hp : IsPower power) (ht : Ends tail) :
    ∀ c ∈ (powerText power ++ tail).head?, Stops c ∧ c ≠ '.' := by
  intro c hc
  cases power with
  | none =>
    obtain ⟨hstops, _, hne⟩ := facts_of_ends ht c hc
    exact ⟨hstops, fun h => hne (by simp [h])⟩
  | some x =>
    obtain ⟨hmark, _⟩ := hp x rfl
    obtain rfl : x.1 = c := by simpa [powerText] using hc
    rcases hmark with hmark | hmark <;> rw [hmark] <;> exact ⟨⟨by decide, by decide⟩, by decide⟩

theorem decimalBody_eq {power : Option Power} (hne : whole ≠ [])
    (hwhole : ∀ c ∈ whole, c.isDigit = true) (hpart : ∀ c ∈ part, c.isDigit = true)
    (hp : IsPower power) (ht : Ends tail) :
    decimalBody? (whole ++ (fractionText part ++ (powerText power ++ tail))) =
      some (.decimal whole (decide (part ≠ [])) part power, tail) := by
  have hrest := stops_of_rest hp ht
  have hdecimal : ∀ {l : List Char}, (∀ c ∈ l, c.isDigit = true) →
      ∀ c ∈ l, Text.isDecimal c = true := fun hl c hc => (facts_of_isDigit (hl c hc)).1
  unfold decimalBody?
  by_cases hpoint : part = []
  · subst hpoint
    obtain ⟨htake, hdrop⟩ := takeWhile_eq_run (hdecimal hwhole) fun c hc => (hrest c hc).1.1
    simp only [fractionText, if_true, List.nil_append, htake, hdrop]
    split
    · next more heq => exact absurd rfl (hrest '.' (by rw [heq]; rfl)).2
    · rw [if_neg hne, powerAt_eq hp ht]
      simp
  · have hhead : ∀ c ∈ ('.' :: (part ++ (powerText power ++ tail))).head?,
        Text.isDecimal c = false := by
      simp only [List.head?_cons, Option.mem_def, Option.some.injEq, forall_eq']
      decide
    obtain ⟨htake, hdrop⟩ := takeWhile_eq_run (hdecimal hwhole) hhead
    obtain ⟨htakePart, hdropPart⟩ :=
      takeWhile_eq_run (hdecimal hpart) fun c hc => (hrest c hc).1.1
    simp only [fractionText, hpoint, if_false, List.cons_append, htake, hdrop, htakePart, hdropPart]
    rw [if_neg (by simp [hne]), powerAt_eq hp ht]
    simp [hpoint]

/-- No base is marked behind the digits, nor by one of them. -/
theorem radixBody_eq_none {rest : List Char} (hwhole : ∀ c ∈ whole, c.isDigit = true)
    (hrest : ∀ c ∈ rest.head?, baseOf? c = none) (hne : whole ≠ []) :
    radixBody? (whole ++ rest) = none := by
  unfold radixBody?
  split
  · next mark more heq =>
    have hmark : baseOf? mark = none := by
      cases whole with
      | nil => exact absurd rfl hne
      | cons d whole =>
        obtain ⟨_, heq⟩ := List.cons.inj heq
        cases whole with
        | nil =>
          have hhead : rest.head? = some mark := congrArg List.head? heq
          exact hrest mark hhead
        | cons e whole =>
          obtain ⟨rfl, _⟩ := List.cons.inj heq
          exact (facts_of_isDigit (hwhole e (by simp))).2.2
    rw [hmark]
  · rfl

/-- **A number in parts is read whole**, with the value that its parts make. -/
theorem read_of_parts {power : Option Power} {sign : Option Char}
    (hsign : ∀ c ∈ sign, c = '+' ∨ c = '-') (hne : whole ≠ [])
    (hwhole : ∀ c ∈ whole, c.isDigit = true) (hpart : ∀ c ∈ part, c.isDigit = true)
    (hp : IsPower power) (ht : Ends tail) (hv : (numberOf sign whole part power).value = .ok v)
    (hcs : c :: cs = sign.toList ++ (whole ++ (fractionText part ++ (powerText power ++ tail)))) :
    Number.read c cs = .ok (v, tail) := by
  have hmarks : ∀ d ∈ (fractionText part ++ (powerText power ++ tail)).head?,
      baseOf? d = none := by
    intro d hd
    unfold fractionText at hd
    split at hd
    · exact (stops_of_rest hp ht d hd).1.2
    · obtain rfl : '.' = d := by simpa using hd
      decide
  have hlex : Number.lex? (c :: cs) = some (numberOf sign whole part power, tail) := by
    unfold Number.lex?
    rw [hcs, signAt_digits hsign hne hwhole]
    simp only [radixBody_eq_none hwhole hmarks hne, decimalBody_eq hne hwhole hpart hp ht]
    rfl
  unfold Number.read
  rw [hlex]
  simp only [continuesName_of_ends ht, if_neg Bool.false_ne_true, hv]
  rfl

/-! ## All tokens -/

variable {lexis : Lexis} {allowed : List Char → Prop} {policy : Interpolation}

/-- What the strings of a document have to be for a literal to take it. -/
structure Common (lexis : Lexis) : Prop where
  constant : ¬ lexis.constant
  string : ∀ t, lexis.string t → t.WellFormed

theorem string_of_json {opening t : Text} (h : stringAfter opening (Text.ofChars cs) = .ok (t, r)) :
    ∃ more u, r = Text.ofChars more ∧ StringBody '"' cs u more ∧ Text.join u = t := by
  obtain ⟨⟨ps, after⟩, hbody, he⟩ := map_eq_ok.1 h
  obtain ⟨rfl, rfl⟩ := Prod.mk.inj he
  obtain ⟨more, hr, hliteral, hnumber⟩ := stringBody_of_json hbody
  exact ⟨more, ps.map Spelled.point, hr, hliteral, (joinSpelled_eq_join hnumber).symm⟩

theorem key_of_json {opening key : Text} (hl : Common lexis)
    (h : stringAfter opening (Text.ofChars cs) = .ok (key, r)) (ha : lexis.string key) :
    ∃ more, r = Text.ofChars more ∧ Key ('"' :: cs) key more := by
  obtain ⟨more, u, hr, hbody, rfl⟩ := string_of_json h
  exact ⟨more, hr, .string (.inr rfl) (read_of_stringBody (.inr rfl) hbody) (hl.string _ ha)⟩

theorem kind_of_value {n : Number} (h : n.value = .ok v) : v.kind ≠ .string := by
  unfold Number.value at h
  split at h
  · obtain rfl := Except.ok.inj h
    exact Kind.noConfusion
  · split at h
    · obtain rfl := Except.ok.inj h
      exact Kind.noConfusion
    · split at h
      · simp at h
      · obtain rfl := Except.ok.inj h
        exact Kind.noConfusion

theorem number_of_json (sign : Option Char) {start : Text} (hsign : ∀ c ∈ sign, c = '+' ∨ c = '-')
    (hcs : cs = sign.toList ++ more)
    (h : unsignedNumber (decide (sign = some '-')) start (Text.ofChars more) = .ok (v, r)) :
    ∃ tail, r = Text.ofChars tail ∧ v.kind ≠ .string ∧
      (Ends tail → Literal.Token.Token allowed policy cs v tail) := by
  obtain ⟨whole, part, power, tail, rfl, hr, hne, hwhole, hpart, hp, hv⟩ := exists_parts h
  refine ⟨tail, hr, kind_of_value hv, fun ht => ?_⟩
  cases cs with
  | nil => simp [hne] at hcs
  | cons c cs => exact .number (read_of_parts hsign hne hwhole hpart hp ht hv hcs)

theorem keyword_of_word {w : List Char} (hw : (w, v) ∈ words) :
    keyword? w = some v ∧ v.kind ≠ .string := by
  simp only [words, List.mem_cons, Prod.mk.injEq, List.not_mem_nil, or_false] at hw
  rcases hw with ⟨rfl, rfl⟩ | ⟨rfl, rfl⟩ | ⟨rfl, rfl⟩ <;> exact ⟨rfl, by decide⟩

/-- **Tokens of documents are tokens of literals.**  The string that a literal makes of the token
alone is the one of the document. -/
theorem token_of_json (hl : Common lexis) (h : Grammar.Token lexis (Text.ofChars cs) v r) :
    ∃ more, r = Text.ofChars more ∧ (Ends more → ∃ u, Literal.Token.Token allowed policy cs u more ∧
      Literal.Grammar.Joined [.leaf u] (.leaf v)) := by
  generalize hs : Text.ofChars cs = s at h
  cases h with
  | string h ha =>
    obtain ⟨_, cs, rfl, hquote, rfl⟩ := ofChars_eq_cons hs
    obtain rfl := CodePoint.char.inj hquote
    obtain ⟨more, u, hr, hbody, rfl⟩ := string_of_json h
    refine ⟨more, hr, fun _ => ⟨.string u, ?_, ?_⟩⟩
    · exact .string (.inr rfl) (read_of_stringBody (.inr rfl) hbody)
    · exact joined_one_iff.2 (.inr ⟨u, rfl, hl.string _ ha, rfl⟩)
  | word hw =>
    obtain ⟨front, more, rfl, hfront, hr⟩ := ofChars_eq_append hs
    obtain rfl := ofChars_inj hfront
    obtain ⟨hkeyword, hkind⟩ := keyword_of_word hw
    exact ⟨more, hr, fun ht => ⟨v, .keyword hkeyword (continuesName_of_ends ht), .value hkind⟩⟩
  | extreme _ ha => exact absurd ha hl.constant
  | number h =>
    subst hs
    obtain ⟨more, hr, hkind, htoken⟩ := number_of_json none (by simp) rfl h
    exact ⟨more, hr, fun ht => ⟨v, htoken ht, .value hkind⟩⟩
  | negative h =>
    obtain ⟨_, cs, rfl, hc, rfl⟩ := ofChars_eq_cons hs
    obtain rfl := CodePoint.char.inj hc
    obtain ⟨more, hr, hkind, htoken⟩ := number_of_json (some '-') (by simp) rfl h
    exact ⟨more, hr, fun ht => ⟨v, htoken ht, .value hkind⟩⟩

end PromptLibrary.Proofs.Json.Tokens
