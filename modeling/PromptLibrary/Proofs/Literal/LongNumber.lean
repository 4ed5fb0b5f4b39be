import PromptLibrary.Proofs.Literal.Faults
import PromptLibrary.Proofs.Number.Length
/-!
# Numbers with too many digits

An integer in decimals is read by its digits, so it fails by how many there are.  As a key a number
is written again in decimals, so that one with a marked base may fail there; a number with a point
or an exponent never does.
-/

namespace PromptLibrary.Proofs.Literal.LongNumber

open PromptLibrary.Text
open PromptLibrary.Literal
open PromptLibrary.Proofs.Text.Classes
open PromptLibrary.Proofs.Text.Runs
open PromptLibrary.Proofs.Literal.Faults
open PromptLibrary.Proofs.Literal.Number
open PromptLibrary.Proofs.Literal.Token (not_mem_of_class)
open PromptLibrary.Proofs.Number.Length

variable {e : Failure} {s r digits whole part rest : List Char} {c mark : Char} {base : Nat}
  {sign : Option Char} {v : Value} {body : NumberBody}

/-- Whether digits of a class end in front of a text, and with them the number. -/
structure DigitsEnd (p : Char → Bool) (rest : List Char) : Prop where
  digit : ∀ c ∈ rest.head?, p c = false
  name : continuesName rest = false

/-- An integer with more decimals than the limit; no point goes on after them. -/
structure LongInteger (digits rest : List Char) : Prop where
  decimal : ∀ d ∈ digits, isDecimal d = true
  long : Integer.digitLimit < digits.length
  point : rest.head? ≠ some '.'
  ends : DigitsEnd isDecimal rest

/-- A number with a marked base whose decimal text is beyond the limit. -/
structure LongMarked (mark : Char) (digits rest : List Char) : Prop where
  marked : ∃ base, baseOf? mark = some base ∧ (∀ d ∈ digits, Integer.isDigitOf base d = true) ∧
    DigitsEnd (Integer.isDigitOf base) rest ∧
    Integer.digitLimit < (Nat.toDigits 10 (Integer.ofAscii base digits)).length

/-! ## Numbers with a marked base -/

theorem radixBody_eq_some_iff : radixBody? s = some (body, r) ↔
    ∃ mark base digits, baseOf? mark = some base ∧ digits ≠ [] ∧
      (∀ d ∈ digits, Integer.isDigitOf base d = true) ∧
      (∀ c ∈ r.head?, Integer.isDigitOf base c = false) ∧
      s = '0' :: mark :: (digits ++ r) ∧ body = .radix base mark digits := by
  constructor
  · intro h
    unfold radixBody? at h
    split at h
    · next mark rest =>
      split at h
      · simp at h
      · next base hbase =>
        simp only at h
        split at h
        · simp at h
        · next hdigits =>
          simp only [Option.some.injEq, Prod.mk.injEq] at h
          obtain ⟨rfl, rfl⟩ := h
          exact ⟨mark, base, _, hbase, hdigits, List.all_eq_true.1 List.all_takeWhile,
            eq_false_of_mem_head?_dropWhile, by rw [List.takeWhile_append_dropWhile], rfl⟩
    · simp at h
  · rintro ⟨mark, base, digits, hbase, hdigits, hall, hend, rfl, rfl⟩
    obtain ⟨htake, hdrop⟩ := takeWhile_eq_run hall hend
    simp only [radixBody?, hbase, htake, hdrop, if_neg hdigits]

/-! ## What is read as an integer -/

theorem signAt_eq (s : List Char) : s = (signAt s).1.toList ++ (signAt s).2 ∧
    (signAt s).1 ∈ [none, some '+', some '-'] := by
  unfold signAt
  split
  · split
    · next hc => rcases hc with rfl | rfl <;> exact ⟨rfl, by simp⟩
    · exact ⟨rfl, by simp⟩
  · exact ⟨rfl, by simp⟩

theorem powerAt_none (h : (powerAt s).1 = none) : (powerAt s).2 = s := by
  unfold powerAt at h ⊢
  split
  · rfl
  · simp only at h ⊢
    split at h
    · simp at h
    · next hpower => rw [if_neg hpower]

/-- A decimal number without a point and without an exponent is its digits. -/
theorem integer_of_decimalBody (h : decimalBody? s = some (.decimal whole false part none, r)) :
    s = whole ++ r ∧ (∀ d ∈ whole, isDecimal d = true) ∧
      (∀ c ∈ r.head?, isDecimal c = false) ∧ r.head? ≠ some '.' := by
  have hsplit : s.takeWhile isDecimal ++ s.dropWhile isDecimal = s :=
    List.takeWhile_append_dropWhile
  have hall : ∀ d ∈ s.takeWhile isDecimal, isDecimal d = true :=
    List.all_eq_true.1 List.all_takeWhile
  have hend : ∀ c ∈ (s.dropWhile isDecimal).head?, isDecimal c = false :=
    eq_false_of_mem_head?_dropWhile
  unfold decimalBody? at h
  simp only at h
  split at h
  · split at h <;> simp at h
  · next hpoint =>
    split at h
    · simp at h
    · simp only [Option.some.injEq, Prod.mk.injEq, NumberBody.decimal.injEq] at h
      obtain ⟨⟨rfl, _, _, hpower⟩, hr⟩ := h
      rw [powerAt_none hpower] at hr
      subst hr
      refine ⟨hsplit.symm, hall, hend, ?_⟩
      intro hhead
      obtain ⟨more, hmore⟩ := List.head?_eq_some_iff.1 hhead
      exact hpoint more hmore

theorem value_eq_error_iff {n : Number} : n.value = .error e ↔
    e = .tooManyDigits ∧ ∃ whole part, n.body = .decimal whole false part none ∧
      Integer.digitLimit < whole.length := by
  unfold Number.value
  cases hbody : n.body with
  | radix base mark digits => simp
  | decimal whole point part power =>
    by_cases hfloat : point = true ∨ power.isSome = true
    · have hbody' : ∀ w p, NumberBody.decimal whole point part power ≠ .decimal w false p none := by
        rintro w p he
        obtain ⟨_, rfl, _, rfl⟩ := NumberBody.decimal.inj he
        simp at hfloat
      simp [hfloat, hbody']
    · simp only [not_or, Bool.not_eq_true, Option.isSome_eq_false_iff, Option.isNone_iff_eq_none]
        at hfloat
      obtain ⟨rfl, rfl⟩ := hfloat
      by_cases hlong : Integer.digitLimit < whole.length
      · simp [hlong, eq_comm]
      · simp [hlong]

/-- Behind its sign a number is of one of two kinds. -/
theorem lex_cases {n : Number} (h : Number.lex? s = some (n, r)) :
    radixBody? (signAt s).2 = some (n.body, r) ∨ decimalBody? (signAt s).2 = some (n.body, r) := by
  unfold Number.lex? at h
  simp only at h
  split at h
  · next hradix =>
    simp only [Option.some.injEq, Prod.mk.injEq] at h
    obtain ⟨rfl, rfl⟩ := h
    exact .inl hradix
  · simp only [Option.map_eq_some_iff, Prod.exists, Prod.mk.injEq] at h
    obtain ⟨body, after, hdecimal, rfl, rfl⟩ := h
    exact .inr hdecimal

theorem longInteger_of_read (h : Number.read c s = .error e) (he : TokenFault e) :
    e = .tooManyDigits ∧ ∃ sign digits rest, c :: s = sign.toList ++ (digits ++ rest) ∧
      sign ∈ [none, some '+', some '-'] ∧ LongInteger digits rest := by
  unfold Number.read at h
  split at h
  · cases h
    exact he.elim
  · next n rest hlex =>
    split at h
    · cases h
      exact he.elim
    · next hname =>
      cases hvalue : n.value with
      | ok v => simp [hvalue, Except.map] at h
      | error e' =>
        obtain rfl : e' = e := by simpa [hvalue, Except.map] using h
        obtain ⟨rfl, whole, part, hbody, hlong⟩ := value_eq_error_iff.1 hvalue
        obtain ⟨hsplit, hsign⟩ := signAt_eq (c :: s)
        obtain hradix | hdecimal := lex_cases hlex
        · obtain ⟨mark, base, digits, _, _, _, _, _, hmarked⟩ := radixBody_eq_some_iff.1 hradix
          simp [hbody] at hmarked
        · rw [hbody] at hdecimal
          obtain ⟨hdigits, hall, hend, hpoint⟩ := integer_of_decimalBody hdecimal
          refine ⟨rfl, _, whole, rest, ?_, hsign, hall, hlong, hpoint, hend, ?_⟩
          · rw [← hdigits, ← hsplit]
          · exact Bool.eq_false_iff.2 hname

theorem signAt_of_not_sign (hc : ¬ (c = '+' ∨ c = '-')) : signAt (c :: s) = (none, c :: s) :=
  if_neg hc

theorem signAt_of_sign {t : List Char} (hsign : sign ∈ [none, some '+', some '-'])
    (ht : ∀ c ∈ t.head?, ¬ (c = '+' ∨ c = '-')) : signAt (sign.toList ++ t) = (sign, t) := by
  simp only [List.mem_cons, List.not_mem_nil, or_false] at hsign
  rcases hsign with rfl | rfl | rfl
  · cases t with
    | nil => rfl
    | cons c t => exact signAt_of_not_sign (ht c rfl)
  · rfl
  · rfl

theorem isDecimal_facts (h : isDecimal c = true) : ¬ (c = '+' ∨ c = '-') ∧ c ≠ '.' := by
  have hne : c ∉ ['+', '-', '.'] := not_mem_of_class h (by decide)
  simpa [and_assoc] using hne

theorem powerAt_of_end (h : continuesName s = false) : powerAt s = (none, s) := by
  cases s with
  | nil => rfl
  | cons c s =>
    have hc : ¬ (c = 'e' ∨ c = 'E') := by
      intro hc
      have hpart : isNamePart c = true := by
        rcases hc with rfl | rfl <;> decide
      exact absurd (hpart.symm.trans h) (by simp)
    simp only [powerAt, hc, false_and, if_false]

/-- A decimal is no mark of a base. -/
theorem radixBody_eq_none_of_isDecimal {d₀ d₁ : Char} (h : isDecimal d₁ = true) :
    radixBody? (d₀ :: d₁ :: s) = none := by
  rw [Option.eq_none_iff_forall_ne_some]
  rintro ⟨body, r⟩ hradix
  obtain ⟨mark, base, _, hbase, _, _, _, he, _⟩ := radixBody_eq_some_iff.1 hradix
  obtain rfl : d₁ = mark := (List.cons.inj (List.cons.inj he).2).1
  rw [(facts_of_mark hbase).2.1] at h
  exact absurd h (by simp)

/-- Decimals that no point and no exponent goes on after are an integer. -/
theorem decimalBody_of_decimals (hne : digits ≠ []) (hall : ∀ d ∈ digits, isDecimal d = true)
    (hend : ∀ c ∈ rest.head?, isDecimal c = false) (hpoint : rest.head? ≠ some '.')
    (hpower : powerAt rest = (none, rest)) :
    decimalBody? (digits ++ rest) = some (.decimal digits false [] none, rest) := by
  obtain ⟨htake, hdrop⟩ := takeWhile_eq_run hall hend
  unfold decimalBody?
  simp only [htake, hdrop]
  split
  · exact absurd rfl hpoint
  · simp [hne, hpower]

theorem decimalBody_of_longInteger (h : LongInteger digits rest) :
    decimalBody? (digits ++ rest) = some (.decimal digits false [] none, rest) :=
  decimalBody_of_decimals (List.ne_nil_of_length_pos (Nat.zero_lt_of_lt h.long)) h.decimal
    h.ends.digit h.point (powerAt_of_end h.ends.name)

/-- A number of which the base is not marked, behind its sign. -/
theorem lex_of_decimalBody {t : List Char} (hsign : sign ∈ [none, some '+', some '-'])
    (ht : ∀ c ∈ t.head?, ¬ (c = '+' ∨ c = '-')) (hradix : radixBody? t = none)
    (hdecimal : decimalBody? t = some (body, r)) :
    Number.lex? (sign.toList ++ t) = some (⟨sign, body⟩, r) := by
  unfold Number.lex?
  simp only [signAt_of_sign hsign ht, hradix, hdecimal, Option.map_some]

/-- A number of which the base is marked, behind its sign. -/
theorem lex_of_radixBody {t : List Char} (hsign : sign ∈ [none, some '+', some '-'])
    (hradix : radixBody? ('0' :: t) = some (body, r)) :
    Number.lex? (sign.toList ++ '0' :: t) = some (⟨sign, body⟩, r) := by
  have hhead : ∀ c ∈ ('0' :: t).head?, ¬ (c = '+' ∨ c = '-') := by simp
  unfold Number.lex?
  simp only [signAt_of_sign hsign hhead, hradix]

theorem lex_of_longInteger (hsign : sign ∈ [none, some '+', some '-'])
    (h : LongInteger digits rest) :
    Number.lex? (sign.toList ++ (digits ++ rest)) =
      some (⟨sign, .decimal digits false [] none⟩, rest) := by
  have hdecimal := decimalBody_of_longInteger h
  -- The first digit may be a zero, so that it takes the second to see that no base is marked.
  obtain ⟨d₀, d₁, more, rfl⟩ : ∃ d₀ d₁ more, digits = d₀ :: d₁ :: more := by
    have hlong := h.long
    rcases digits with _ | ⟨d₀, _ | ⟨d₁, more⟩⟩
    · simp at hlong
    · simp [Integer.digitLimit] at hlong
    · exact ⟨d₀, d₁, more, rfl⟩
  have hhead : ∀ c ∈ (d₀ :: d₁ :: more ++ rest).head?, ¬ (c = '+' ∨ c = '-') := by
    rintro c hc
    obtain rfl : d₀ = c := by simpa using hc
    exact (isDecimal_facts (h.decimal d₀ (by simp))).1
  have hradix : radixBody? (d₀ :: d₁ :: more ++ rest) = none :=
    radixBody_eq_none_of_isDecimal (h.decimal d₁ (by simp))
  exact lex_of_decimalBody hsign hhead hradix hdecimal

theorem read_of_longInteger (hsign : sign ∈ [none, some '+', some '-'])
    (h : LongInteger digits rest) (hs : c :: s = sign.toList ++ (digits ++ rest)) :
    Number.read c s = .error .tooManyDigits := by
  have hvalue : (⟨sign, .decimal digits false [] none⟩ : Number).value = .error .tooManyDigits :=
    value_eq_error_iff.2 ⟨rfl, digits, [], rfl, h.long⟩
  unfold Number.read
  rw [hs, lex_of_longInteger hsign h]
  simp only [h.ends.name, hvalue]
  rfl

/-! ## Keys -/

theorem text_eq_none_iff {i : Int} :
    Integer.text? i = none ↔ Integer.digitLimit < (Nat.toDigits 10 i.natAbs).length := by
  unfold Integer.text?
  simp

theorem elim_text_eq_error_iff {i : Int} :
    ((Integer.text? i).elim (.error .tooManyDigits) (.ok ∘ Text.ofChars) : Except Failure Text) =
      .error e ↔ e = .tooManyDigits ∧ Integer.text? i = none := by
  cases Integer.text? i <;> simp [eq_comm]

/-- Only integers fail as keys: doubles that are integers are within the limit. -/
theorem keyText_eq_error_iff : Number.keyText v = .error e ↔
    e = .tooManyDigits ∧ ∃ i, v = .int i ∧
      Integer.digitLimit < (Nat.toDigits 10 i.natAbs).length := by
  unfold Number.keyText
  split
  · next i => rw [elim_text_eq_error_iff, text_eq_none_iff]; simp
  · next x =>
    split
    · next i hi =>
      -- The limit on digits is beyond the largest finite double.
      have hshort := Nat.toDigits_length 10 _ _ (by decide)
        (natAbs_toInt_lt (k := Integer.digitLimit) hi (by decide))
      rw [elim_text_eq_error_iff, text_eq_none_iff]
      simp [Nat.not_lt.2 hshort]
    · simp
  · next hint _ =>
    simp only [reduceCtorEq, false_iff, not_and, not_exists]
    intro _ i hi
    exact absurd hi (hint i)

theorem natAbs_withSign {negative : Bool} {n : Nat} : (Integer.withSign negative n).natAbs = n := by
  unfold Integer.withSign
  split
  · rw [Int.natAbs_neg, Int.natAbs_natCast]
  · rw [Int.natAbs_natCast]

theorem exists_decimal_of_decimalBody (h : decimalBody? s = some (body, r)) :
    ∃ whole point part power, body = .decimal whole point part power := by
  unfold decimalBody? at h
  simp only at h
  split at h <;> split at h <;> simp at h <;> exact ⟨_, _, _, _, h.1.symm⟩

/-- An integer that is read from decimals is written with as many of them at most. -/
theorem short_of_decimal {i : Int} {point : Bool} {power : Option (Char × Option Char × List Char)}
    (h : (⟨sign, .decimal whole point part power⟩ : Number).value = .ok (.int i)) :
    (Nat.toDigits 10 i.natAbs).length ≤ Integer.digitLimit := by
  unfold Number.value at h
  simp only at h
  split at h
  · simp at h
  · split at h
    · simp at h
    · next hshort =>
      simp only [Except.ok.injEq, Value.int.injEq] at h
      subst h
      have hlt := Nat.lt_of_lt_of_le (ofDecimals_lt whole)
        (Nat.pow_le_pow_right (by decide) (Nat.not_lt.1 hshort))
      rw [natAbs_withSign]
      exact Nat.toDigits_length 10 _ _ (by decide) hlt

/-- An integer that is read and has too many digits is one with a marked base. -/
theorem longMarked_of_read {i : Int} (hc : ¬ (c = '+' ∨ c = '-'))
    (h : Number.read c s = .ok (.int i, r))
    (hlong : Integer.digitLimit < (Nat.toDigits 10 i.natAbs).length) :
    ∃ mark digits, c :: s = '0' :: mark :: (digits ++ r) ∧ LongMarked mark digits r := by
  unfold Number.read at h
  split at h
  · simp at h
  · next n rest hlex =>
    split at h
    · simp at h
    · next hname =>
      simp only [map_eq_ok, Prod.mk.injEq] at h
      obtain ⟨w, hvalue, rfl, rfl⟩ := h
      obtain ⟨sign, body⟩ := n
      obtain hradix | hdecimal := lex_cases hlex
      · rw [signAt_of_not_sign hc] at hradix
        obtain ⟨mark, base, digits, hbase, _, hall, hend, hs, rfl⟩ := radixBody_eq_some_iff.1 hradix
        simp only [Number.value, Except.ok.injEq, Value.int.injEq] at hvalue
        subst hvalue
        rw [natAbs_withSign] at hlong
        exact ⟨mark, digits, hs, base, hbase, hall, ⟨hend, Bool.eq_false_iff.2 hname⟩, hlong⟩
      · obtain ⟨whole, point, part, power, rfl⟩ := exists_decimal_of_decimalBody hdecimal
        exact absurd hlong (Nat.not_lt.2 (short_of_decimal hvalue))

theorem read_of_longMarked (h : LongMarked mark digits rest) : ∃ i,
    Number.read '0' (mark :: (digits ++ rest)) = .ok (.int i, rest) ∧
      Integer.digitLimit < (Nat.toDigits 10 i.natAbs).length := by
  obtain ⟨base, hbase, hall, hend, hlong⟩ := h
  have hdigits : digits ≠ [] := by
    rintro rfl
    have hzero : Integer.ofAscii base [] = 0 := rfl
    rw [hzero] at hlong
    exact absurd hlong (by decide)
  have hradix : radixBody? ('0' :: mark :: (digits ++ rest)) =
      some (.radix base mark digits, rest) :=
    radixBody_eq_some_iff.2 ⟨mark, base, digits, hbase, hdigits, hall, hend.digit, rfl, rfl⟩
  have hunsigned : (none : Option Char) ∈ [none, some '+', some '-'] := by simp
  have hlex : Number.lex? ('0' :: mark :: (digits ++ rest)) =
      some (⟨none, .radix base mark digits⟩, rest) := lex_of_radixBody hunsigned hradix
  refine ⟨Integer.withSign false (Integer.ofAscii base digits), ?_, ?_⟩
  · unfold Number.read
    simp only [hlex, hend.name]
    rfl
  · rwa [natAbs_withSign]

end PromptLibrary.Proofs.Literal.LongNumber
