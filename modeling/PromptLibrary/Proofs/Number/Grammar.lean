import PromptLibrary.Proofs.Number.Digits
import PromptLibrary.Text.Reader
/-!
# The grammar of integer text

Integer text is written in parts: blanks, a sign, the mark of base sixteen, digits that single
underscores may separate, and blanks again.

* `readDigits_eq_ok_iff` — digits are read up to the blanks at the end, as `Grouped` tells them;
* `read_eq_ok_iff` — exactly the texts of the grammar are read, each as its number.
-/

namespace PromptLibrary.Proofs.Number.Grammar

open PromptLibrary.Integer
open PromptLibrary.Proofs.Number.Digits
open PromptLibrary.Proofs.Text.Runs (takeWhile_eq_run eq_false_of_mem_head?_dropWhile)

/-- Digits as they are written, with underscores that stand alone and between digits. -/
inductive Grouped {base : Nat} : List Char → List (Digit base) → Prop where
  | last (d : Digit base) : Grouped [d.char] [d]
  | next {s : List Char} {ds : List (Digit base)} (d : Digit base) (h : Grouped s ds) :
      Grouped (d.char :: s) (d :: ds)
  | underscore {s : List Char} {ds : List (Digit base)} (d : Digit base) (h : Grouped s ds) :
      Grouped (d.char :: '_' :: s) (d :: ds)

def Blanks (s : List Char) : Prop :=
  ∀ c ∈ s, Text.isAsciiSpace c = true

/-- The signs, each with whether it negates. -/
def signs : List (List Char × Bool) :=
  [([], false), (['+'], false), (['-'], true)]

/-- What may stand between the sign and the digits. -/
def marks (base : Nat) : List (List Char) :=
  if base = 16 then [[], ['0', 'x'], ['0', 'X'], ['0', 'x', '_'], ['0', 'X', '_']] else [[]]

/-- The digits of text in base ten have to be few enough. -/
def Short {base : Nat} (digits : List (Digit base)) : Prop :=
  base = 10 → digits.length ≤ digitLimit

/-- Text that denotes an integer, once its characters of other scripts have been replaced. -/
def IntegerText (base : Nat) (s : List Char) (i : Int) : Prop :=
  ∃ before sign negative mark body after, ∃ digits : List (Digit base),
    s.map toAscii = before ++ (sign ++ (mark ++ (body ++ after))) ∧ Blanks before ∧
      (sign, negative) ∈ signs ∧ mark ∈ marks base ∧ Grouped body digits ∧ Short digits ∧
      Blanks after ∧ i = withSign negative (number digits)

variable {base n : Nat} {i : Int} {s body after mark sign : List Char} {c : Char}
  {digits : List (Digit base)} {negative : Bool}

/-! ## Digits and underscores -/

/-- The characters that a reader of digits takes. -/
def isPart (base : Nat) (c : Char) : Bool :=
  isDigitOf base c || c = '_'

theorem isPart_char (h : base ≤ 16) (d : Digit base) : isPart base d.char = true := by
  rw [isPart, isDigitOf_char h d, Bool.true_or]

theorem char_ne_underscore (h : base ≤ 16) (d : Digit base) : d.char ≠ '_' := by
  have hmark := (facts_of_char h d).2.2.2
  simp only [List.mem_cons, List.not_mem_nil, or_false, not_or] at hmark
  exact hmark.1

theorem isPart_of_isAsciiSpace (h : base ≤ 16) (hc : Text.isAsciiSpace c = true) :
    isPart base c = false := by
  rw [isPart, Bool.or_eq_false_iff]
  refine ⟨Bool.eq_false_iff.2 fun hd => ?_, decide_eq_false ?_⟩
  · obtain ⟨d, rfl⟩ := exists_digit_of_isDigitOf h hd
    rw [(facts_of_char h d).2.2.1] at hc
    simp at hc
  · rintro rfl
    simp [Text.isAsciiSpace] at hc

theorem exists_cons_of_grouped (h : Grouped body digits) :
    ∃ (d : Digit base) (more : List Char), body = d.char :: more := by
  cases h with
  | last d | next d h | underscore d h => exact ⟨d, _, rfl⟩

/-- A digit in front does not bring underscores together. -/
theorem underscoresSeparate_cons (hc : c ≠ '_') :
    underscoresSeparate (c :: s) = underscoresSeparate s := by
  rw [underscoresSeparate]
  · rintro rfl
    exact absurd rfl hc
  · rintro rest rfl
    exact absurd rfl hc

theorem facts_of_grouped (h : base ≤ 16) (hg : Grouped body digits) :
    (∀ c ∈ body, isPart base c = true) ∧ body.filter (· ≠ '_') = spelled digits ∧
      underscoresSeparate body = true ∧ digits ≠ [] := by
  induction hg with
  | last d =>
    have hd := char_ne_underscore h d
    refine ⟨by simpa using isPart_char h d, by simp [spelled, hd], ?_, by simp⟩
    exact underscoresSeparate_cons hd
  | next d hg ih =>
    obtain ⟨hpart, hfilter, hseparate, _⟩ := ih
    have hd := char_ne_underscore h d
    refine ⟨?_, ?_, (underscoresSeparate_cons hd).trans hseparate, by simp⟩
    · simpa [isPart_char h d] using hpart
    · rw [List.filter_cons_of_pos (by simpa using hd), hfilter]
      rfl
  | underscore d hg ih =>
    obtain ⟨hpart, hfilter, hseparate, _⟩ := ih
    obtain ⟨e, more, rfl⟩ := exists_cons_of_grouped hg
    have hd := char_ne_underscore h d
    have he := char_ne_underscore h e
    refine ⟨?_, ?_, ?_, by simp⟩
    · have hunder : isPart base '_' = true := by simp [isPart]
      simpa [isPart_char h d, hunder] using hpart
    · rw [List.filter_cons_of_pos (by simpa using hd), List.filter_cons_of_neg (by simp), hfilter]
      rfl
    · rw [underscoresSeparate_cons hd, underscoresSeparate]
      · exact hseparate
      · simp
      · intro rest _ hrest
        exact he (List.cons.inj hrest).1

/-- Digits and underscores that stand alone and not in front are grouped digits.  Behind a digit the
next digit may come after an underscore, so both kinds of rests are looked at together. -/
theorem grouped_of_run (h : base ≤ 16) (hpart : ∀ c ∈ s, isPart base c = true)
    (hs : underscoresSeparate s = true) :
    (s ≠ [] → s.head? ≠ some '_' → ∃ ds : List (Digit base), Grouped s ds) ∧
      ∀ rest, s = '_' :: rest → ∃ ds : List (Digit base), Grouped rest ds := by
  induction s with
  | nil => exact ⟨fun hne => absurd rfl hne, fun rest hrest => by simp at hrest⟩
  | cons c s ih =>
    have hrest : underscoresSeparate s = true := by
      unfold underscoresSeparate at hs
      split at hs <;> simp_all
    obtain ⟨hdigits, hafter⟩ := ih (fun c hc => hpart c (List.mem_cons_of_mem _ hc)) hrest
    constructor
    · intro _ hhead
      have hc : isDigitOf base c = true := by
        have hc := hpart c List.mem_cons_self
        simp only [isPart, Bool.or_eq_true, decide_eq_true_eq] at hc
        exact hc.resolve_right fun he => hhead (by rw [he]; rfl)
      obtain ⟨d, rfl⟩ := exists_digit_of_isDigitOf h hc
      by_cases hend : s = []
      · rw [hend]
        exact ⟨_, .last d⟩
      · by_cases hunder : s.head? = some '_'
        · obtain ⟨rest, rfl⟩ := List.head?_eq_some_iff.1 hunder
          obtain ⟨ds, hds⟩ := hafter rest rfl
          exact ⟨_, .underscore d hds⟩
        · obtain ⟨ds, hds⟩ := hdigits hend hunder
          exact ⟨_, .next d hds⟩
    · intro rest he
      obtain ⟨rfl, rfl⟩ := List.cons.inj he
      refine hdigits ?_ ?_
      · rintro rfl
        simp [underscoresSeparate] at hs
      · intro hunder
        obtain ⟨more, rfl⟩ := List.head?_eq_some_iff.1 hunder
        simp [underscoresSeparate] at hs

theorem head?_not_part (h : base ≤ 16) (hafter : Blanks after) :
    ∀ c ∈ after.head?, isPart base c = false := fun c hc =>
  isPart_of_isAsciiSpace h (hafter c (List.mem_of_mem_head? hc))

/-- A run of digits and underscores, with the text after it, is read by its digits. -/
theorem readDigits_append (hpart : ∀ c ∈ body, isPart base c = true)
    (hstop : ∀ c ∈ after.head?, isPart base c = false) : readDigits base (body ++ after) =
      if body.head? = some '_' ∨ ¬ underscoresSeparate body then .error .malformed
      else if base = 10 ∧ digitLimit < (body.filter (· ≠ '_')).length then .error .tooManyDigits
      else if body.filter (· ≠ '_') = [] ∨ ¬ after.all Text.isAsciiSpace then .error .malformed
      else .ok (ofAscii base (body.filter (· ≠ '_'))) := by
  obtain ⟨htake, hdrop⟩ := takeWhile_eq_run hpart hstop
  change (body ++ after).takeWhile (fun c => isDigitOf base c || c = '_') = body at htake
  change (body ++ after).dropWhile (fun c => isDigitOf base c || c = '_') = after at hdrop
  unfold readDigits
  simp only [htake, hdrop]

theorem readDigits_grouped (h : base ≤ 16) (hg : Grouped body digits) (hshort : Short digits)
    (hafter : Blanks after) : readDigits base (body ++ after) = .ok (number digits) := by
  obtain ⟨hpart, hfilter, hseparate, hne⟩ := facts_of_grouped h hg
  obtain ⟨d, more, rfl⟩ := exists_cons_of_grouped hg
  have hhead : ¬ ((d.char :: more).head? = some '_' ∨
      ¬ underscoresSeparate (d.char :: more) = true) := by
    simpa [hseparate] using char_ne_underscore h d
  have hfew : ¬ (base = 10 ∧ digitLimit < (spelled digits).length) := by
    rw [spelled, List.length_map]
    exact fun hlong => Nat.not_le.2 hlong.2 (hshort hlong.1)
  have hblank : after.all Text.isAsciiSpace = true := List.all_eq_true.2 hafter
  have hwhole : ¬ (spelled digits = [] ∨ ¬ after.all Text.isAsciiSpace = true) := by
    simpa [hblank] using spelled_ne_nil hne
  rw [readDigits_append hpart (head?_not_part h hafter), hfilter, if_neg hhead, if_neg hfew,
    if_neg hwhole, ofAscii_spelled h]

/-- **Digits are read up to the blanks at the end.** -/
theorem readDigits_eq_ok_iff (h : base ≤ 16) :
    readDigits base s = .ok n ↔ ∃ body after, ∃ digits : List (Digit base), s = body ++ after ∧
      Grouped body digits ∧ Short digits ∧ Blanks after ∧ n = number digits := by
  refine ⟨fun hread => ?_, ?_⟩
  · have hsplit : s.takeWhile (isPart base) ++ s.dropWhile (isPart base) = s :=
      List.takeWhile_append_dropWhile
    have hrun : ∀ c ∈ s.takeWhile (isPart base), isPart base c = true :=
      List.all_eq_true.1 List.all_takeWhile
    rw [← hsplit, readDigits_append hrun eq_false_of_mem_head?_dropWhile] at hread
    split at hread
    · simp at hread
    next hhead =>
    split at hread
    · simp at hread
    next hfew =>
    split at hread
    · simp at hread
    next hwhole =>
    simp only [not_or, Classical.not_not] at hhead hwhole
    have hne : s.takeWhile (isPart base) ≠ [] := fun he => hwhole.1 (by rw [he]; rfl)
    obtain ⟨digits, hg⟩ := (grouped_of_run h hrun hhead.2).1 hne hhead.1
    obtain ⟨_, hfilter, _, _⟩ := facts_of_grouped h hg
    rw [hfilter] at hfew hread
    refine ⟨_, _, digits, hsplit.symm, hg, fun hbase => ?_, List.all_eq_true.1 hwhole.2, ?_⟩
    · rw [spelled, List.length_map] at hfew
      exact Nat.not_lt.1 fun hlong => hfew ⟨hbase, hlong⟩
    · rw [← Except.ok.inj hread, ofAscii_spelled h]
  · rintro ⟨body, after, digits, rfl, hg, hshort, hafter, rfl⟩
    exact readDigits_grouped h hg hshort hafter

/-! ## Signs and marks -/

theorem takeSign_eq (s : List Char) :
    ∃ sign, (sign, (takeSign s).1) ∈ signs ∧ s = sign ++ (takeSign s).2 := by
  fun_cases takeSign s with
  | case1 rest => exact ⟨['-'], by simp [signs], rfl⟩
  | case2 rest => exact ⟨['+'], by simp [signs], rfl⟩
  | case3 => exact ⟨[], by simp [signs], rfl⟩

theorem dropMark_eq (base : Nat) (s : List Char) :
    ∃ mark ∈ marks base, s = mark ++ dropMark base s := by
  fun_cases dropMark base s with
  | case1 x hx more =>
    obtain ⟨rfl, rfl | rfl⟩ := hx
    · exact ⟨['0', 'x', '_'], by simp [marks], rfl⟩
    · exact ⟨['0', 'X', '_'], by simp [marks], rfl⟩
  | case2 x rest hx _ =>
    obtain ⟨rfl, rfl | rfl⟩ := hx
    · exact ⟨['0', 'x'], by simp [marks], rfl⟩
    · exact ⟨['0', 'X'], by simp [marks], rfl⟩
  | case3 | case4 => exact ⟨[], by unfold marks; split <;> simp, rfl⟩

/-- A digit is not taken for a sign. -/
theorem takeSign_sign (hsign : (sign, negative) ∈ signs) (hs : ∀ c ∈ s.head?, c ∉ ['-', '+']) :
    takeSign (sign ++ s) = (negative, s) := by
  simp only [signs, List.mem_cons, Prod.mk.injEq, List.not_mem_nil, or_false] at hsign
  rcases hsign with ⟨rfl, rfl⟩ | ⟨rfl, rfl⟩ | ⟨rfl, rfl⟩
  · unfold takeSign
    split <;> simp_all
  · rfl
  · rfl

theorem not_mem_marks_of_isPart (h : base ≤ 16) (hc : isPart base c = true) :
    c ∉ ['x', 'X'] := by
  simp only [isPart, Bool.or_eq_true, decide_eq_true_eq] at hc
  rcases hc with hd | rfl
  · obtain ⟨d, rfl⟩ := exists_digit_of_isDigitOf h hd
    have hmark := (facts_of_char h d).2.2.2
    simp only [List.mem_cons, List.not_mem_nil, or_false, not_or] at hmark
    simp [hmark]
  · decide

theorem dropMark_of_not_mem (hx : ∀ x ∈ s.tail.head?, x ∉ ['x', 'X']) : dropMark base s = s := by
  unfold dropMark
  split
  · next x rest =>
    have hne : x ∉ ['x', 'X'] := hx x rfl
    simp only [List.mem_cons, List.not_mem_nil, or_false] at hne
    rw [if_neg fun hmark => hne hmark.2]
  · rfl

theorem dropMark_underscore (hx : c = 'x' ∨ c = 'X') : dropMark 16 ('0' :: c :: '_' :: s) = s :=
  if_pos ⟨rfl, hx⟩

theorem dropMark_plain (hx : c = 'x' ∨ c = 'X') (hs : s.head? ≠ some '_') :
    dropMark 16 ('0' :: c :: s) = s := by
  rw [dropMark, if_pos ⟨rfl, hx⟩]
  · rintro more rfl
    exact hs rfl

/-- Digits hold no mark, and they do not begin with the underscore of one. -/
theorem dropMark_mark (h : base ≤ 16) (hmark : mark ∈ marks base) (hg : Grouped body digits)
    (hafter : Blanks after) : dropMark base (mark ++ (body ++ after)) = body ++ after := by
  obtain ⟨hpart, _⟩ := facts_of_grouped h hg
  obtain ⟨d, more, rfl⟩ := exists_cons_of_grouped hg
  have hhead : (d.char :: more ++ after).head? ≠ some '_' := by
    simpa using char_ne_underscore h d
  have hplain : dropMark base (d.char :: more ++ after) = d.char :: more ++ after := by
    refine dropMark_of_not_mem fun x hx => ?_
    have hmem : x ∈ more ++ after := List.mem_of_mem_head? hx
    rcases List.mem_append.1 hmem with hmore | hblank
    · exact not_mem_marks_of_isPart h (hpart x (List.mem_cons_of_mem _ hmore))
    · have hspace := hafter x hblank
      rintro hx
      simp only [List.mem_cons, List.not_mem_nil, or_false] at hx
      rcases hx with rfl | rfl <;> simp [Text.isAsciiSpace] at hspace
  unfold marks at hmark
  split at hmark
  · next hbase =>
    subst hbase
    simp only [List.mem_cons, List.not_mem_nil, or_false] at hmark
    rcases hmark with rfl | rfl | rfl | rfl | rfl
    · exact hplain
    · exact dropMark_plain (.inl rfl) hhead
    · exact dropMark_plain (.inr rfl) hhead
    · exact dropMark_underscore (.inl rfl)
    · exact dropMark_underscore (.inr rfl)
  · obtain rfl : mark = [] := by simpa using hmark
    exact hplain

/-! ## Whole texts -/

/-- What follows the blanks in front begins with no blank, and what follows a sign with no sign. -/
theorem head_of_marked (h : base ≤ 16) (hmark : mark ∈ marks base) (hg : Grouped body digits) :
    ∀ c ∈ (mark ++ (body ++ after)).head?, Text.isAsciiSpace c = false ∧ c ∉ ['-', '+'] := by
  obtain ⟨d, more, rfl⟩ := exists_cons_of_grouped hg
  obtain ⟨_, _, hspace, hd⟩ := facts_of_char h d
  simp only [List.mem_cons, List.not_mem_nil, or_false, not_or] at hd
  have hdigit : Text.isAsciiSpace d.char = false ∧ d.char ∉ ['-', '+'] := ⟨hspace, by simp [hd]⟩
  unfold marks at hmark
  split at hmark
  · simp only [List.mem_cons, List.not_mem_nil, or_false] at hmark
    rcases hmark with rfl | rfl | rfl | rfl | rfl <;> intro c hc <;>
      simp only [List.cons_append, List.nil_append, List.head?_cons, Option.mem_some_iff] at hc <;>
      subst hc
    · exact hdigit
    all_goals decide
  · obtain rfl : mark = [] := by simpa using hmark
    intro c hc
    obtain rfl : d.char = c := by simpa using hc
    exact hdigit

/-- **Exactly the texts of the grammar are read**, each as the number it denotes. -/
theorem read_eq_ok_iff (h : base ≤ 16) : Integer.read base s = .ok i ↔ IntegerText base s i := by
  unfold Integer.read
  simp only
  constructor
  · intro hread
    obtain ⟨n, hn, rfl⟩ := map_eq_ok.1 hread
    obtain ⟨body, after, digits, hbody, hg, hshort, hafter, rfl⟩ := (readDigits_eq_ok_iff h).1 hn
    obtain ⟨sign, hsign, hrest⟩ := takeSign_eq ((s.map toAscii).dropWhile Text.isAsciiSpace)
    obtain ⟨mark, hmark, hunsigned⟩ := dropMark_eq base
      (takeSign ((s.map toAscii).dropWhile Text.isAsciiSpace)).2
    have hblank : Blanks ((s.map toAscii).takeWhile Text.isAsciiSpace) :=
      List.all_eq_true.1 List.all_takeWhile
    refine ⟨_, sign, _, mark, body, after, digits, ?_, hblank, hsign, hmark, hg, hshort, hafter,
      rfl⟩
    rw [← hbody, ← hunsigned, ← hrest, List.takeWhile_append_dropWhile]
  · rintro ⟨before, sign, negative, mark, body, after, digits, hs, hbefore, hsign, hmark, hg,
      hshort, hafter, rfl⟩
    have hhead : ∀ c ∈ (mark ++ (body ++ after)).head?, Text.isAsciiSpace c = false ∧
        c ∉ ['-', '+'] := head_of_marked h hmark hg
    have hstop : ∀ c ∈ (sign ++ (mark ++ (body ++ after))).head?, Text.isAsciiSpace c = false := by
      simp only [signs, List.mem_cons, Prod.mk.injEq, List.not_mem_nil, or_false] at hsign
      rcases hsign with ⟨rfl, _⟩ | ⟨rfl, _⟩ | ⟨rfl, _⟩
      · exact fun c hc => (hhead c hc).1
      · simp [Text.isAsciiSpace]
      · simp [Text.isAsciiSpace]
    rw [hs, (takeWhile_eq_run hbefore hstop).2, takeSign_sign hsign fun c hc => (hhead c hc).2]
    simp only [dropMark_mark h hmark hg hafter, readDigits_grouped h hg hshort hafter]
    rfl

end PromptLibrary.Proofs.Number.Grammar
