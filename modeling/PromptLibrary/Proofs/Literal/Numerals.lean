import PromptLibrary.Proofs.Literal.Reached
import PromptLibrary.Proofs.Number.Decimals
import PromptLibrary.Proofs.Text.Points
/-!
# Numerals

An integer is written in decimals or behind the mark of a base, with any zeros in front and with
letters of either case.  With a sign or without one it stands for its number as a value, and as a
key for the decimal text of its number.  It is never cut: a name right after it is refused, unless
the name makes a longer number of it.

* `lex_signed` — a numeral is taken whole if nothing after it makes a longer number of it;
* `scalar_signed`, `readKey_numeral` — what is read at a value and at a key;
* `numerals_denote` — what literals with numerals evaluate to.
-/

namespace PromptLibrary.Proofs.Literal.Numerals

open PromptLibrary.Text
open PromptLibrary.Literal
open PromptLibrary.Proofs.Number.Decimals
open PromptLibrary.Proofs.Number.Digits
open PromptLibrary.Proofs.Text.Points (ofChars_inj)
open PromptLibrary.Proofs.Literal.Grammar
open PromptLibrary.Proofs.Literal.LongNumber
open PromptLibrary.Proofs.Literal.Number
open PromptLibrary.Proofs.Literal.Reached
open PromptLibrary.Proofs.Literal.Recognition
open PromptLibrary.Proofs.Literal.Spots
open PromptLibrary.Proofs.Literal.Token
open PromptLibrary.Proofs.Literal.Trivia

/-! ## Numerals and their numbers -/

/-- Decimal digits, no more than the limit allows, or digits behind the mark of their base. -/
inductive Numeral where
  | decimal (first : Digit 10) (more : List (Digit 10)) (h : more.length < Integer.digitLimit)
  | marked (mark : Char) (base : Nat) (h : baseOf? mark = some base) (first : Digit base)
      (more : List (Digit base))

namespace Numeral

def text : Numeral → List Char
  | decimal first more _ => spelled (first :: more)
  | marked mark _ _ first more => '0' :: mark :: spelled (first :: more)

def value : Numeral → Nat
  | decimal first more _ => number (first :: more)
  | marked _ _ _ first more => number (first :: more)

/-- The parts that a numeral is read in. -/
def body : Numeral → NumberBody
  | decimal first more _ => .decimal (spelled (first :: more)) false [] none
  | marked mark base _ first more => .radix base mark (spelled (first :: more))

end Numeral

/-- A numeral with a sign or without one. -/
structure Signed where
  sign : Option Char
  numeral : Numeral
  legal : sign ∈ [none, some '+', some '-']

namespace Signed

def text (n : Signed) : List Char :=
  n.sign.toList ++ n.numeral.text

def value (n : Signed) : Int :=
  Integer.withSign (n.sign = some '-') n.numeral.value

end Signed

def Numeral.unsigned (k : Numeral) : Signed :=
  ⟨none, k, by simp⟩

/-- The key that a number is. -/
def keyOf (n : Nat) : PromptLibrary.Text :=
  Text.ofChars (Nat.toDigits 10 n)

/-! ## The pattern of numbers -/

def Decimals (s : List Char) : Prop :=
  s ≠ [] ∧ ∀ c ∈ s, isDecimal c = true

/-- What an exponent looks like; there may be none. -/
inductive PowerPattern : List Char → Prop where
  | none : PowerPattern []
  | some {mark : Char} {sign : Option Char} {digits : List Char} (hmark : mark = 'e' ∨ mark = 'E')
      (hsign : sign ∈ [Option.none, Option.some '+', Option.some '-']) (h : Decimals digits) :
      PowerPattern (mark :: (sign.toList ++ digits))

/-- What a number looks like, its sign aside. -/
inductive NumberPattern : List Char → Prop where
  | marked {mark : Char} {base : Nat} {digits : List Char} (hbase : baseOf? mark = some base)
      (hne : digits ≠ []) (h : ∀ d ∈ digits, Integer.isDigitOf base d = true) :
      NumberPattern ('0' :: mark :: digits)
  | whole {whole power : List Char} (h : Decimals whole) (hpower : PowerPattern power) :
      NumberPattern (whole ++ power)
  | pointed {whole part power : List Char} (hwhole : ∀ c ∈ whole, isDecimal c = true)
      (hpart : ∀ c ∈ part, isDecimal c = true) (hne : whole ≠ [] ∨ part ≠ [])
      (hpower : PowerPattern power) : NumberPattern (whole ++ '.' :: (part ++ power))

/-- Nothing at the front of the text after it makes a longer number of a text. -/
def Longest (s rest : List Char) : Prop :=
  ∀ more, more ≠ [] → more <+: rest → ¬ NumberPattern (s ++ more)

variable {policy : Interpolation} {s digits rest text : List Char} {mark c : Char} {base m k : Nat}
  {n : Signed} {numeral : Numeral} {spot : Spot}

theorem longest_nil : Longest s [] :=
  fun _ hne hfront => absurd (List.prefix_nil.1 hfront) hne

theorem decimals_append (h : Decimals digits) (hs : ∀ d ∈ s, isDecimal d = true) :
    Decimals (digits ++ s) :=
  ⟨List.append_ne_nil_of_left_ne_nil h.1 s, List.forall_mem_append.2 ⟨h.2, hs⟩⟩

/-- Characters that no number is written with. -/
def Outside (c : Char) : Prop :=
  isDecimal c = false ∧ Integer.isDigitOf 16 c = false ∧ c ∉ ['.', '+', '-', 'x', 'X', 'o', 'O']

instance : Decidable (Outside c) :=
  inferInstanceAs (Decidable (_ ∧ _ ∧ _))

theorem le_sixteen_of_mark (h : baseOf? mark = some base) : base ≤ 16 := by
  have hmark := mem_of_mark h
  simp only [List.mem_cons, List.not_mem_nil, or_false] at hmark
  rcases hmark with rfl | rfl | rfl | rfl | rfl | rfl <;> simp [baseOf?] at h <;> omega

theorem isDigitOf_sixteen (hbase : base ≤ 16) (h : Integer.isDigitOf base c = true) :
    Integer.isDigitOf 16 c = true := by
  obtain ⟨d, rfl⟩ := exists_digit_of_isDigitOf hbase h
  exact isDigitOf_char (Nat.le_refl 16) (d.widen hbase)

theorem not_mem_decimals (hc : Outside c) (h : ∀ d ∈ s, isDecimal d = true) : c ∉ s :=
  fun hmem => absurd (h c hmem) (by simp [hc.1])

theorem not_mem_power (hc : Outside c) (h : PowerPattern s) : c ∉ s := by
  cases h with
  | none => simp
  | @some mark sign digits hmark hsign h =>
    have hdigit := hc.2.1
    have hsymbol := hc.2.2
    simp only [List.mem_cons, List.not_mem_nil, or_false, not_or] at hsymbol
    have hmark : c ≠ mark := by
      rintro rfl
      rcases hmark with rfl | rfl <;> exact absurd hdigit (by decide)
    have hsign : c ∉ sign.toList := by
      simp only [List.mem_cons, List.not_mem_nil, or_false] at hsign
      rcases hsign with rfl | rfl | rfl <;> simp [hsymbol]
    simp [hmark, hsign, not_mem_decimals hc h.2]

theorem not_mem_number (hc : Outside c) (h : NumberPattern s) : c ∉ s := by
  have hdigit := hc.2.1
  have hsymbol := hc.2.2
  simp only [List.mem_cons, List.not_mem_nil, or_false, not_or] at hsymbol
  cases h with
  | @marked mark base digits hbase _ h =>
    have hzero : c ≠ '0' := by
      rintro rfl
      exact absurd hdigit (by decide)
    have hmark : c ≠ mark := by
      rintro rfl
      have hmem := mem_of_mark hbase
      simp only [List.mem_cons, List.not_mem_nil, or_false, hsymbol, false_or] at hmem
      rcases hmem with rfl | rfl <;> exact absurd hdigit (by decide)
    have hdigits : c ∉ digits := fun hmem =>
      absurd (isDigitOf_sixteen (le_sixteen_of_mark hbase) (h c hmem)) (by simp [hdigit])
    simp [hzero, hmark, hdigits]
  | whole h hpower => simp [not_mem_decimals hc h.2, not_mem_power hc hpower]
  | pointed hwhole hpart _ hpower =>
    simp [not_mem_decimals hc hwhole, hsymbol, not_mem_decimals hc hpart, not_mem_power hc hpower]

/-- A character that no number is written with makes no longer number. -/
theorem longest_of_outside (hc : Outside c) : Longest s (c :: rest) := by
  intro more hne hfront hnumber
  obtain ⟨d, more, rfl⟩ := List.exists_cons_of_ne_nil hne
  obtain ⟨rfl, _⟩ := List.cons_prefix_cons.1 hfront
  exact not_mem_number hc hnumber (by simp)

/-! ## Where numerals end -/

theorem isDigitOf_of_longest (hbase : baseOf? mark = some base)
    (hdigits : ∀ d ∈ digits, Integer.isDigitOf base d = true)
    (h : Longest ('0' :: mark :: digits) rest) :
    ∀ c ∈ rest.head?, Integer.isDigitOf base c = false := by
  intro c hc
  obtain ⟨more, rfl⟩ := List.head?_eq_some_iff.1 hc
  refine Bool.eq_false_iff.2 fun hdigit => ?_
  have hlonger : NumberPattern ('0' :: mark :: (digits ++ [c])) :=
    .marked hbase (by simp) (List.forall_mem_append.2 ⟨hdigits, by simpa using hdigit⟩)
  exact h [c] (by simp) ⟨more, rfl⟩ hlonger

section Decimal

variable (hdigits : Decimals digits) (h : Longest digits rest)

include hdigits h

theorem isDecimal_of_longest : ∀ c ∈ rest.head?, isDecimal c = false := by
  intro c hc
  obtain ⟨more, rfl⟩ := List.head?_eq_some_iff.1 hc
  refine Bool.eq_false_iff.2 fun hdecimal => ?_
  have hlonger : NumberPattern ((digits ++ [c]) ++ []) :=
    .whole (decimals_append hdigits (by simpa using hdecimal)) .none
  rw [List.append_nil] at hlonger
  exact h [c] (by simp) ⟨more, rfl⟩ hlonger

theorem head_ne_point_of_longest : rest.head? ≠ some '.' := by
  intro hpoint
  obtain ⟨more, rfl⟩ := List.head?_eq_some_iff.1 hpoint
  have hlonger : NumberPattern (digits ++ '.' :: ([] ++ [])) :=
    .pointed hdigits.2 (by simp) (.inl hdigits.1) .none
  exact h ['.'] (by simp) ⟨more, rfl⟩ hlonger

theorem powerAt_of_longest : powerAt rest = (none, rest) := by
  cases rest with
  | nil => rfl
  | cons e rest =>
    obtain ⟨hsplit, hsign⟩ := signAt_eq rest
    by_cases hpower : (e = 'e' ∨ e = 'E') ∧ (signAt rest).2.takeWhile isDecimal ≠ []
    · have hpattern : PowerPattern
          (e :: ((signAt rest).1.toList ++ (signAt rest).2.takeWhile isDecimal)) :=
        .some hpower.1 hsign ⟨hpower.2, List.all_eq_true.1 List.all_takeWhile⟩
      have hfront : e :: ((signAt rest).1.toList ++ (signAt rest).2.takeWhile isDecimal) <+:
          e :: rest := by
        refine ⟨(signAt rest).2.dropWhile isDecimal, ?_⟩
        rw [List.cons_append, List.append_assoc, List.takeWhile_append_dropWhile, ← hsplit]
      exact absurd (.whole hdigits hpattern) (h _ (by simp) hfront)
    · unfold powerAt
      simp only [if_neg hpower]

/-- A zero marks no base here, since the digits behind the mark would make a longer number. -/
theorem radixBody_of_longest : radixBody? (digits ++ rest) = none := by
  rw [Option.eq_none_iff_forall_ne_some]
  rintro ⟨body, r⟩ hradix
  obtain ⟨mark, base, behind, hbase, hne, hall, _, hs, _⟩ := radixBody_eq_some_iff.1 hradix
  obtain ⟨d, more, rfl⟩ := List.exists_cons_of_ne_nil hdigits.1
  obtain ⟨rfl, htail⟩ : d = '0' ∧ more ++ rest = mark :: (behind ++ r) := List.cons.inj hs
  cases more with
  | nil =>
    have hfront : mark :: behind <+: rest := ⟨r, htail.symm⟩
    exact h _ (by simp) hfront (.marked hbase hne hall)
  | cons e more =>
    obtain ⟨rfl, _⟩ := List.cons.inj htail
    have hdecimal : isDecimal e = true := hdigits.2 e (by simp)
    rw [(facts_of_mark hbase).2.1] at hdecimal
    simp at hdecimal

end Decimal

/-! ## Reading numerals -/

theorem decimals_spelled {first : Digit 10} {more : List (Digit 10)} :
    Decimals (spelled (first :: more)) :=
  ⟨spelled_ne_nil (List.cons_ne_nil _ _), fun _ hc => isDecimal_of_mem_spelled hc⟩

theorem lex_signed (h : Longest n.numeral.text rest) :
    Number.lex? (n.text ++ rest) = some (⟨n.sign, n.numeral.body⟩, rest) := by
  obtain ⟨sign, numeral, legal⟩ := n
  rw [Signed.text, List.append_assoc]
  cases numeral with
  | decimal first more hfew =>
    have hdigits : Decimals (spelled (first :: more)) := decimals_spelled
    have hhead : ∀ c ∈ (spelled (first :: more) ++ rest).head?, ¬ (c = '+' ∨ c = '-') := by
      rintro c hc
      obtain rfl : first.char = c := by simpa [spelled] using hc
      exact (isDecimal_facts (hdigits.2 _ (by simp [spelled]))).1
    exact lex_of_decimalBody legal hhead (radixBody_of_longest hdigits h)
      (decimalBody_of_decimals hdigits.1 hdigits.2 (isDecimal_of_longest hdigits h)
        (head_ne_point_of_longest hdigits h) (powerAt_of_longest hdigits h))
  | marked mark base hbase first more =>
    have hall : ∀ d ∈ spelled (first :: more), Integer.isDigitOf base d = true :=
      fun d hd => isDigitOf_of_mem_spelled (le_sixteen_of_mark hbase) hd
    exact lex_of_radixBody legal (radixBody_eq_some_iff.2 ⟨mark, base, _, hbase,
      spelled_ne_nil (List.cons_ne_nil _ _), hall, isDigitOf_of_longest hbase hall h, rfl, rfl⟩)

theorem value_body (n : Signed) :
    (⟨n.sign, n.numeral.body⟩ : PromptLibrary.Literal.Number).value = .ok (.int n.value) := by
  obtain ⟨sign, numeral, legal⟩ := n
  cases numeral with
  | decimal first more hfew =>
    have hshort : ¬ Integer.digitLimit < (spelled (first :: more)).length := by
      rw [spelled, List.length_map, List.length_cons]
      omega
    unfold PromptLibrary.Literal.Number.value
    simp only [Numeral.body, Option.isSome_none, Bool.false_eq_true, or_self, if_false,
      if_neg hshort, ofDecimals_spelled]
    rfl
  | marked mark base hbase first more =>
    unfold PromptLibrary.Literal.Number.value
    simp only [Numeral.body, ofAscii_spelled (le_sixteen_of_mark hbase)]
    rfl

theorem spelling_body (n : Signed) :
    (⟨n.sign, n.numeral.body⟩ : PromptLibrary.Literal.Number).spelling = n.text := by
  obtain ⟨sign, numeral, legal⟩ := n
  cases numeral with
  | decimal first more hfew =>
    simp [PromptLibrary.Literal.Number.spelling, NumberBody.spelling, Numeral.body, Signed.text,
      Numeral.text]
  | marked mark base hbase first more => rfl

/-- What the readers of numbers make of a numeral. -/
theorem read_signed (h : Longest n.numeral.text rest) (hs : n.text ++ rest = c :: s) :
    Number.read c s = if continuesName rest then .error (.refused (.nameAfterNumber n.text) rest)
      else .ok (.int n.value, rest) := by
  unfold PromptLibrary.Literal.Number.read
  rw [← hs, lex_signed h]
  simp only [value_body, spelling_body]
  rfl

theorem exists_cons_of_numeral (k : Numeral) : ∃ c s, k.text = c :: s ∧ isDecimal c = true := by
  cases k with
  | decimal first more hfew =>
    have hfirst : first.char ∈ spelled [first] := List.mem_cons_self
    exact ⟨_, _, rfl, isDecimal_of_mem_spelled hfirst⟩
  | marked mark base hbase first more => exact ⟨_, _, rfl, by decide⟩

theorem exists_cons_of_signed (n : Signed) :
    ∃ c s, n.text = c :: s ∧ (isDecimal c = true ∨ c = '+' ∨ c = '-') := by
  obtain ⟨sign, k, legal⟩ := n
  obtain ⟨c, s, hs, hc⟩ := exists_cons_of_numeral k
  simp only [List.mem_cons, List.not_mem_nil, or_false] at legal
  rcases legal with rfl | rfl | rfl
  · exact ⟨c, s, hs, .inl hc⟩
  · exact ⟨'+', _, rfl, by simp⟩
  · exact ⟨'-', _, rfl, by simp⟩

/-- **A numeral is read as its number**, and refused if a name goes on after it. -/
theorem scalar_signed (h : Longest n.numeral.text rest) : scalar policy (n.text ++ rest) =
    if continuesName rest then .error (.refused (.nameAfterNumber n.text) rest)
    else .ok (.int n.value, rest) := by
  obtain ⟨c, s, hs, hc⟩ := exists_cons_of_signed n
  have hcons : n.text ++ rest = c :: (s ++ rest) := by rw [hs, List.cons_append]
  rw [hcons, scalar_eq_read hc, read_signed h hcons]

theorem keyText_of_lt (hm : m < 10 ^ Integer.digitLimit) :
    Number.keyText (.int m) = .ok (keyOf m) := by
  have hshort : ¬ Integer.digitLimit < (Nat.toDigits 10 m).length :=
    Nat.not_lt.2 (Nat.toDigits_length 10 _ _ (by decide) hm)
  have htext : Integer.text? m = some (Nat.toDigits 10 m) := by
    unfold Integer.text?
    simp [hshort]
  unfold PromptLibrary.Literal.Number.keyText
  simp only [htext]
  rfl

theorem readKey_unsigned {k : Numeral} (h : Longest k.text rest) : readKey (k.text ++ rest) =
    if continuesName rest then .error (.refused (.nameAfterNumber k.text) rest)
    else (Number.keyText (.int k.value)).map fun key => (key, false, rest) := by
  obtain ⟨c, s, hs, hc⟩ := exists_cons_of_numeral k
  have hcons : k.unsigned.text ++ rest = c :: (s ++ rest) :=
    (congrArg (· ++ rest) hs).trans (List.cons_append)
  have hread := read_signed (n := k.unsigned) h hcons
  have hsame : k.text = k.unsigned.text := rfl
  rw [hsame, hcons, readKey_of_isDecimal hc, hread]
  split
  · rfl
  · have hvalue : k.unsigned.value = k.value := rfl
    rw [hvalue]
    simp only [bind, Except.bind]
    cases Number.keyText (.int k.value) <;> rfl

/-- **A numeral is a key by its number.** -/
theorem readKey_numeral {k : Numeral} (hk : k.value < 10 ^ Integer.digitLimit)
    (h : Longest k.text rest) : readKey (k.text ++ rest) =
      if continuesName rest then .error (.refused (.nameAfterNumber k.text) rest)
      else .ok (keyOf k.value, false, rest) := by
  rw [readKey_unsigned h, keyText_of_lt hk]
  rfl

theorem keyOf_inj {a b : Nat} : keyOf a = keyOf b ↔ a = b := by
  refine ⟨fun h => ?_, congrArg keyOf⟩
  have hdigits : Nat.toDigits 10 a = Nat.toDigits 10 b := ofChars_inj h
  calc
    a = Nat.ofDigitChars 10 (Nat.toDigits 10 a) 0 := Nat.ofDigitChars_ten_toDigits.symm
    _ = Nat.ofDigitChars 10 (Nat.toDigits 10 b) 0 := by rw [hdigits]
    _ = b := Nat.ofDigitChars_ten_toDigits

/-! ## Literals with numerals -/

/-- A member of an object of which the key and the value are numerals, with the comma after it. -/
def memberText : Numeral × Signed → List Char
  | (k, v) => k.text ++ ':' :: (v.text ++ [','])

/-- An object of such members. -/
def objectText (entries : List (Numeral × Signed)) : List Char :=
  '\x7b' :: (entries.flatMap memberText ++ ['\x7d'])

/-- What a member of numerals stands for. -/
def memberOf : Numeral × Signed → PromptLibrary.Text × Value
  | (k, v) => (keyOf k.value, .int v.value)

theorem derives_signed (h : Longest n.numeral.text rest) (hrest : continuesName rest = false) :
    Derives .free policy 0 (.literal (.leaf (.int n.value))) (n.text ++ rest) rest := by
  have hscalar : scalar policy (n.text ++ rest) = .ok (.int n.value, rest) := by
    rw [scalar_signed h, hrest]
    rfl
  exact .literal .none (.token (token_of_scalar hscalar)) .noMore (.value Kind.noConfusion)

theorem parseValue_signed (policy : Interpolation) (n : Signed) :
    parseValue policy n.text = .ok ⟨.int n.value, []⟩ := by
  have hderives : Derives .free policy 0 (.literal (.leaf (.int n.value))) n.text [] := by
    simpa using @derives_signed policy [] n longest_nil rfl
  have hparse : parseWithin depthLimit policy n.text = .ok (.leaf (.int n.value)) :=
    parseWithin_eq_ok_iff.2 ⟨0, Nat.zero_le _, [], hderives, .none⟩
  rw [parseValue, hparse]
  rfl

theorem derives_members (entries : List (Numeral × Signed))
    (hkeys : ∀ e ∈ entries, e.1.value < 10 ^ Integer.digitLimit) :
    ∃ ms, Derives .free policy 0 (.members ms) (entries.flatMap memberText ++ ['\x7d']) [] ∧
      ms.map (fun m => (m.key, m.parsed.value)) = entries.map memberOf := by
  induction entries with
  | nil => exact ⟨[], .noMembers .none, rfl⟩
  | cons e entries ih =>
    obtain ⟨k, v⟩ := e
    obtain ⟨hk, hkeys⟩ := List.forall_mem_cons.1 hkeys
    obtain ⟨ms, hmore, hms⟩ := ih hkeys
    have hsplit : ((k, v) :: entries).flatMap memberText ++ ['\x7d'] =
        k.text ++ ':' :: (v.text ++ ',' :: (entries.flatMap memberText ++ ['\x7d'])) := by
      simp [memberText]
    rw [hsplit]
    generalize entries.flatMap memberText ++ ['\x7d'] = back at hmore ⊢
    have hkey : Key (k.text ++ ':' :: (v.text ++ ',' :: back)) (keyOf k.value)
        (':' :: (v.text ++ ',' :: back)) :=
      key_of_readKey (readKey_numeral hk (longest_of_outside (by decide)))
    have hvalue : Derives .free policy 0 (.literal (.leaf (.int v.value))) (v.text ++ ',' :: back)
        (',' :: back) :=
      derives_signed (longest_of_outside (by decide)) rfl
    refine ⟨_, .member .none hkey .none hvalue .none hmore, ?_⟩
    rw [List.map_cons, hms]
    rfl

/-- An object has the numbers of its keys, each with the number of its last value. -/
theorem parseValue_object (policy : Interpolation) (entries : List (Numeral × Signed))
    (hkeys : ∀ e ∈ entries, e.1.value < 10 ^ Integer.digitLimit) :
    (parseValue policy (objectText entries)).map (·.value) =
      .ok (.object (Mapping.ofEntries (entries.map memberOf))) := by
  obtain ⟨ms, hderives, hms⟩ := @derives_members policy entries hkeys
  have hparse : parseWithin depthLimit policy (objectText entries) = .ok (.ofMembers ms) :=
    parseWithin_eq_ok_iff.2 ⟨1, by decide, document_of_members hderives .none⟩
  rw [parseValue, hparse, ← hms]
  rfl

/-- Wherever a numeral is reached that a name goes on after, the literal is refused there. -/
theorem parseValue_of_name (h : Reaches policy depthLimit .literal text spot (n.text ++ c :: rest))
    (hspot : spot = .key → n.sign = none) (hc : isNamePart c = true)
    (hlongest : Longest n.numeral.text (c :: rest)) :
    parseValue policy text =
      .error (.refused (.nameAfterNumber n.text) (some (text.length - (rest.length + 1)))) := by
  have hfails : FailsAt policy (.refused (.nameAfterNumber n.text) (c :: rest)) spot
      (n.text ++ c :: rest) := by
    cases spot with
    | value =>
      rw [FailsAt, scalar_signed hlongest]
      exact if_pos hc
    | key =>
      have hplain : n.text = n.numeral.text := by rw [Signed.text, hspot rfl]; rfl
      rw [hplain, FailsAt, readKey_unsigned hlongest]
      exact if_pos hc
  obtain ⟨d, s, hs, hd⟩ := exists_cons_of_signed n
  obtain ⟨hblank, hseparator⟩ := facts_of_number_head hd
  have hhead : n.text ++ c :: rest = d :: (s ++ c :: rest) := by rw [hs, List.cons_append]
  have hparse := parseWithin_of_reaches h ⟨⟨d, _, hhead, hblank, hseparator⟩, hfails⟩
  rw [parseValue, hparse]
  rfl

/-- **Numerals stand for their numbers.**  As values they stand for the integer, and as keys for its
decimal text, which tells numbers apart.  A name right after a numeral that does not make a longer
number of it is refused, wherever a value or a key is to come. -/
theorem numerals_denote (policy : Interpolation) :
    (∀ n : Signed, parseValue policy n.text = .ok ⟨.int n.value, []⟩) ∧
    (∀ entries : List (Numeral × Signed), (∀ e ∈ entries, e.1.value < 10 ^ Integer.digitLimit) →
      (parseValue policy (objectText entries)).map (·.value) =
        .ok (.object (Mapping.ofEntries (entries.map memberOf)))) ∧
    (∀ a b, keyOf a = keyOf b ↔ a = b) ∧
    ∀ (text : List Char) (spot : Spot) (n : Signed) (c : Char) (rest : List Char),
      Reaches policy depthLimit .literal text spot (n.text ++ c :: rest) →
      (spot = .key → n.sign = none) → isNamePart c = true →
      Longest n.numeral.text (c :: rest) → parseValue policy text =
        .error (.refused (.nameAfterNumber n.text) (some (text.length - (rest.length + 1)))) :=
  ⟨parseValue_signed policy, parseValue_object policy, fun _ _ => keyOf_inj,
    fun _ _ _ _ _ => parseValue_of_name⟩

/-- Numerals of three bases, two keys that are one, and names after a value and after a key. -/
theorem numerals_denote_neighbours :
    parseValue .strict ['-', '0', 'X', '1', 'f'] = .ok ⟨.int (-31), []⟩ ∧
    (parseValue .strict ['\x7b', '0', '7', ':', '0', 'B', '1', '1', ',', '7', ':', '+', '2', ',',
      '\x7d']).map (·.value) = .ok (.object [([.char '7'], .int 2)]) ∧
    keyOf 7 ≠ keyOf 8 ∧
    parseValue .strict ['0', 'x', '1', 'g'] =
      .error (.refused (.nameAfterNumber ['0', 'x', '1']) (some 3)) ∧
    parseValue .strict ['\x7b', '1', '_', '0'] =
      .error (.refused (.nameAfterNumber ['1']) (some 2)) := by
  obtain ⟨hvalue, hobject, hkey, hname⟩ := numerals_denote .strict
  have hseven : ∀ e ∈ ([(.decimal ⟨0, false⟩ [⟨7, false⟩] (by decide),
        Numeral.unsigned (.marked 'B' 2 rfl ⟨1, false⟩ [⟨1, false⟩])),
      (.decimal ⟨7, false⟩ [] (by decide),
        ⟨some '+', .decimal ⟨2, false⟩ [] (by decide), by decide⟩)] : List (Numeral × Signed)),
      e.1.value < 10 ^ Integer.digitLimit := by
    decide +kernel
  refine ⟨hvalue ⟨some '-', .marked 'X' 16 rfl ⟨1, false⟩ [⟨15, false⟩], by decide⟩,
    hobject _ hseven, fun h => absurd ((hkey 7 8).1 h) (by decide), ?_, ?_⟩
  · exact hname ['0', 'x', '1', 'g'] .value (Numeral.unsigned (.marked 'x' 16 rfl ⟨1, false⟩ []))
      'g' [] (.first .none .here) (by simp) (by decide) (longest_of_outside (by decide))
  · exact hname ['\x7b', '1', '_', '0'] .key (Numeral.unsigned (.decimal ⟨1, false⟩ [] (by decide)))
      '_' ['0'] (.first .none (.object (.key .none))) (fun _ => rfl) (by decide)
      (longest_of_outside (by decide))

end PromptLibrary.Proofs.Literal.Numerals
