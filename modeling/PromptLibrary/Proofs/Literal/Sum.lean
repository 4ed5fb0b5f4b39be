import PromptLibrary.Proofs.Literal.Reached
import PromptLibrary.Proofs.Literal.Spelling
import PromptLibrary.Proofs.Text.Units
/-!
# Sums of strings

Strings joined by `+` mean the row of their code units, so that a surrogate pair may begin in one
operand and end in another.  A group in parentheses is paired by itself; where it pairs up, its
parentheses change nothing.

* `outcome_spells` — what the readers make of a sum, by induction on how it is written;
* `parseValue_sum` — the value of a text that is a sum, told by its code units alone.
-/

namespace PromptLibrary.Proofs.Literal.Sum

open PromptLibrary.Literal
open PromptLibrary.Proofs.Literal.Grammar (Lexis)
open PromptLibrary.Proofs.Literal.Spelling
open PromptLibrary.Proofs.Literal.Token
open PromptLibrary.Proofs.Literal.Trivia
open PromptLibrary.Proofs.Literal.Steps
open PromptLibrary.Proofs.Literal.Recognition
open PromptLibrary.Proofs.Literal.Reached
open PromptLibrary.Proofs.Text.Points
open PromptLibrary.Proofs.Text.Units

/-- The parts of a sum: one operand, the operands after the first one, and the whole. -/
inductive Part where
  | operand
  | more
  | sum

/-- The text `s` is a part of a sum followed by `r`.  The strings in it decode to `ts`, from left to
right and whatever groups they stand in, and `d` is the greatest number of groups that are open at
once.  Without groups it is zero.  Each group pairs up by itself. -/
inductive Spells (policy : Interpolation) :
    Nat → Part → List PromptLibrary.Text → List Char → List Char → Prop where
  | string {t : PromptLibrary.Text} {s r : List Char}
      (h : Token Lexis.free.span policy s (.string t) r) : Spells policy 0 .operand [t] s r
  | group {d : Nat} {ts : List PromptLibrary.Text} {s m r : List Char}
      (h : Spells policy d .sum ts s m) (hc : Trivia Lexis.free.comment m (')' :: r))
      (hpaired : ¬ Unpaired (ts.flatMap units)) : Spells policy (d + 1) .operand ts ('(' :: s) r
  | noMore {s : List Char} : Spells policy 0 .more [] s s
  | plus {d e : Nat} {ts us : List PromptLibrary.Text} {s t u m r : List Char}
      (hplus : Trivia Lexis.free.comment s ('+' :: t)) (hu : Trivia Lexis.free.comment t u)
      (h : Spells policy d .operand ts u m) (hmore : Spells policy e .more us m r) :
      Spells policy (max d e) .more (ts ++ us) s r
  | sum {d e : Nat} {ts us : List PromptLibrary.Text} {s u m r : List Char}
      (hu : Trivia Lexis.free.comment s u) (h : Spells policy d .operand ts u m)
      (hmore : Spells policy e .more us m r) : Spells policy (max d e) .sum (ts ++ us) s r

variable {policy : Interpolation} {d e n : Nat} {part : Part} {ts us : List PromptLibrary.Text}
  {s m r start text other : List Char} {t u : PromptLibrary.Text} {cs : List Char}

/-! ## Pairing -/

/-- What strings resolve to is told by their code units. -/
theorem resolve_congr (h : units t = units u) : resolve start t = resolve start u := by
  by_cases hpaired : Unpaired (units t)
  · have ht : ¬ t.join.WellFormed := fun hw => (wellFormed_join_iff t).1 hw hpaired
    have hu : ¬ u.join.WellFormed := fun hw => (wellFormed_join_iff u).1 hw (h ▸ hpaired)
    rw [resolve, resolve, if_neg ht, if_neg hu]
  · obtain ⟨cs, hcs⟩ := exists_ofChars_of_wellFormed ((wellFormed_join_iff t).2 hpaired)
    have hu : u.join = Text.ofChars cs := join_eq_ofChars_iff.2 (h ▸ join_eq_ofChars_iff.1 hcs)
    rw [resolve, resolve, hcs, hu]

theorem resolve_of_paired (h : ¬ Unpaired (units t)) : resolve start t = .ok t.join :=
  if_pos ((wellFormed_join_iff t).2 h)

theorem resolve_of_unpaired (h : Unpaired (units t)) :
    resolve start t = .error (.refused .unpairedSurrogate start) :=
  if_neg fun hw => (wellFormed_join_iff t).1 hw h

theorem wellFormed_flatten (h : ∀ t ∈ ts, t.WellFormed) : Text.WellFormed ts.flatten := by
  intro p hp
  obtain ⟨t, ht, hpt⟩ := List.mem_flatten.1 hp
  exact h t ht p hpt

/-! ## Reading a sum -/

/-- What the reader of a part makes of it, with any room for the groups. -/
def Adds (policy : Interpolation) (d : Nat) (ts : List PromptLibrary.Text) :
    Part → List Char → List Char → Prop
  | .operand, s, r => ∀ n, d ≤ n → ∃ t, units t = units ts.flatten ∧
      outcome (operandWithin policy n) s = .ok (.leaf (.string t), r)
  | .more, s, r => ∀ n, d ≤ n → ∀ start t x, skipTrivia r = .ok x → x.head? ≠ some '+' →
      chainOutcome (operandWithin policy n) start (.leaf (.string t)) s =
        (resolve start (t ++ ts.flatten)).map fun u => (.leaf (.string u), x)
  | .sum, s, r => ∀ n, d ≤ n → ∀ v x, skipTrivia v = skipTrivia s → skipTrivia r = .ok x →
      x.head? ≠ some '+' → outcome (expression (operandWithin policy n)) v =
        (resolve v ts.flatten).map fun u => (.leaf (.string u), x)

theorem outcome_spells (h : Spells policy d part ts s r) : Adds policy d ts part s r := by
  induction h with
  | string h =>
    intro n _
    exact ⟨_, by simp, outcome_of_reads (reads_token h)⟩
  | @group d ts s m r h hc hpaired ih =>
    intro n hn
    obtain ⟨k, rfl⟩ : ∃ k, n = k + 1 := ⟨n - 1, by omega⟩
    have hclose := skipTrivia_of_mark hc (by decide)
    have hsum := ih k (by omega) s _ rfl hclose (by simp)
    rw [resolve_of_paired (by rwa [units_flatten])] at hsum
    refine ⟨Text.join ts.flatten, units_join _, ?_⟩
    rw [outcome_bracket (by decide), outcome_bracketed, if_neg (by decide), if_neg (by decide),
      outcome_parenthesised, hsum]
    simp [bind, Except.bind, Except.map, skipTrivia_idem hclose]
  | noMore =>
    intro n _ start t x hx hplus
    rw [chainOutcome_eq, hx]
    simp only [bind, Except.bind, if_neg hplus, Parsed.leaf, List.flatten_nil, List.append_nil]
  | @plus d e ts us s t u m r hplus hu _ _ ih ihmore =>
    intro n hn start w x hx hhead
    obtain ⟨v, hv, hread⟩ := ih n (by omega)
    have hmore := ihmore n (by omega) start (w ++ v) x hx hhead
    have hoperand := (outcome_operand_congr (skipTrivia_of_trivia hu)).trans hread
    have hpaired : resolve start (w ++ v ++ us.flatten) =
        resolve start (w ++ (ts ++ us).flatten) := by
      apply resolve_congr
      simp only [units_append, List.flatten_append, hv, List.append_assoc]
    rw [← hpaired, ← hmore, chainOutcome_eq, skipTrivia_of_mark hplus (by decide)]
    simp [bind, Except.bind, hoperand, Parsed.leaf]
  | @sum d e ts us s u m r hu _ _ ih ihmore =>
    intro n hn v x hv hx hhead
    obtain ⟨w, hw, hread⟩ := ih n (by omega)
    have hmore := ihmore n (by omega) v w x hx hhead
    have hoperand := (outcome_operand_congr (hv.trans (skipTrivia_of_trivia hu))).trans hread
    have hpaired : resolve v (w ++ us.flatten) = resolve v (ts ++ us).flatten := by
      apply resolve_congr
      simp only [units_append, List.flatten_append, hw]
    rw [← hpaired, ← hmore, outcome_expression, hoperand]
    rfl

/-! ## Whole texts -/

/-- A text that is a sum, with trivia at both ends and no more groups open than the limit allows. -/
def Sums (policy : Interpolation) (ts : List PromptLibrary.Text) (text : List Char) : Prop :=
  ∃ d m, d ≤ depthLimit ∧ Spells policy d .sum ts text m ∧ Trivia Lexis.free.comment m []

theorem parseValue_of_sums (h : Sums policy ts text) :
    parseValue policy text = match resolve text ts.flatten with
      | .ok t => .ok ⟨.string t, []⟩
      | .error e => .error (e.toError text) := by
  obtain ⟨d, m, hd, h, hend⟩ := h
  have hskip : skipTrivia m = .ok [] := by rw [skipTrivia_of_trivia hend, skipTrivia_nil]
  have hread := outcome_spells h depthLimit hd text [] rfl hskip (by simp)
  rw [parseValue, parseWithin_eq, hread]
  cases resolve text ts.flatten with
  | error e => rfl
  | ok t => simp [bind, Except.bind, Except.map, skipTrivia_nil, Parsed.leaf]

theorem parseValue_of_paired (h : Sums policy ts text) (hp : ¬ Unpaired (ts.flatMap units)) :
    parseValue policy text = .ok ⟨.string (Text.join ts.flatten), []⟩ := by
  rw [← units_flatten] at hp
  rw [parseValue_of_sums h, resolve_of_paired hp]

theorem parseValue_of_unpaired (h : Sums policy ts text) (hp : Unpaired (ts.flatMap units)) :
    parseValue policy text = .error (.refused .unpairedSurrogate (some 0)) := by
  rw [← units_flatten] at hp
  rw [parseValue_of_sums h, resolve_of_unpaired hp]
  simp [Failure.toError]

/-- A literal between quotes of any style is an operand. -/
theorem spells_literal (style : Style) (es : List Element) (h : Legal style es) :
    Spells policy 0 .operand [meaning es] (style.literal es ++ r) r :=
  .string (token_of_scalar (scalar_literal es h))

/-- **A sum of strings is the text with the code units of its operands.**  There is at most one such
text without halves.  The sum is refused exactly if a unit stands unpaired in the whole row.
Operands without halves are put one after the other, and all ways to put groups into a sum mean the
same. -/
theorem parseValue_sum (h : Sums policy ts text) :
    (∀ v, parseValue policy text = .ok v ↔
      ∃ cs, units (Text.ofChars cs) = ts.flatMap units ∧ v = ⟨.string (Text.ofChars cs), []⟩) ∧
    (∀ cs ds, units (Text.ofChars cs) = ts.flatMap units →
      units (Text.ofChars ds) = ts.flatMap units → cs = ds) ∧
    (∀ e, parseValue policy text = .error e ↔
      Unpaired (ts.flatMap units) ∧ e = .refused .unpairedSurrogate (some 0)) ∧
    Reason.unpairedSurrogate.message = "Unpaired surrogate escape in string" ∧
    ((∀ t ∈ ts, t.WellFormed) → parseValue policy text = .ok ⟨.string ts.flatten, []⟩) ∧
    ∀ other, Sums policy ts other → parseValue policy other = parseValue policy text := by
  have hunits {cs : List Char} :
      units (Text.ofChars cs) = ts.flatMap units ↔ Text.join ts.flatten = Text.ofChars cs := by
    rw [join_eq_ofChars_iff, units_flatten]
  refine ⟨fun v => ?_, fun cs ds hcs hds => ofChars_inj_of_units (hcs.trans hds.symm),
    fun e => ?_, rfl, fun hw => ?_, fun other hother => ?_⟩
  · by_cases hp : Unpaired (ts.flatMap units)
    · rw [parseValue_of_unpaired h hp]
      refine iff_of_false (by simp) ?_
      rintro ⟨cs, hcs, _⟩
      exact not_unpaired_ofChars cs (hcs ▸ hp)
    · rw [parseValue_of_paired h hp, Except.ok.injEq]
      constructor
      · rintro rfl
        have hjoined : (Text.join ts.flatten).WellFormed := by
          rwa [wellFormed_join_iff, units_flatten]
        obtain ⟨cs, hcs⟩ := exists_ofChars_of_wellFormed hjoined
        exact ⟨cs, hunits.2 hcs, by rw [hcs]⟩
      · rintro ⟨cs, hcs, rfl⟩
        rw [hunits.1 hcs]
  · by_cases hp : Unpaired (ts.flatMap units)
    · rw [parseValue_of_unpaired h hp, Except.error.injEq]
      exact ⟨fun he => ⟨hp, he.symm⟩, fun he => he.2.symm⟩
    · rw [parseValue_of_paired h hp]
      exact iff_of_false (by simp) fun he => hp he.1
  · have hflat := wellFormed_flatten hw
    have hp : ¬ Unpaired (ts.flatMap units) := by
      rwa [← units_flatten, ← wellFormed_join_iff, join_of_wellFormed hflat]
    rw [parseValue_of_paired h hp, join_of_wellFormed hflat]
  · by_cases hp : Unpaired (ts.flatMap units)
    · rw [parseValue_of_unpaired h hp, parseValue_of_unpaired hother hp]
    · rw [parseValue_of_paired h hp, parseValue_of_paired hother hp]

/-- A pair whose halves stand in a string and in a template with an empty string between them, and
two more strings in a group with a comment inside. -/
theorem parseValue_sum_spread :
    Sums .strict [[.lead 0x3d], [], [.trail 0x200], [.char 'a'], [.char 'b']]
      ['\'', '\\', 'u', 'd', '8', '3', 'd', '\'', ' ', '+', '"', '"', '+', '\x60', '\\', 'u', 'd',
        'e', '0', '0', '\x60', '+', '(', '\'', 'a', '\'', '/', '*', '*', '/', '+', '\'', 'b', '\'',
        ')', '\n'] ∧
    parseValue .strict
      ['\'', '\\', 'u', 'd', '8', '3', 'd', '\'', ' ', '+', '"', '"', '+', '\x60', '\\', 'u', 'd',
        'e', '0', '0', '\x60', '+', '(', '\'', 'a', '\'', '/', '*', '*', '/', '+', '\'', 'b', '\'',
        ')', '\n'] =
      .ok ⟨.string [.char (Char.ofNat 0x1F600), .char 'a', .char 'b'], []⟩ := by
  have hb : Spells .strict 0 .operand [[.char 'b']] ['\'', 'b', '\'', ')', '\n'] [')', '\n'] :=
    spells_literal .single [.plain 'b'] (by decide)
  have hcomment : Trivia Lexis.free.comment
      ['/', '*', '*', '/', '+', '\'', 'b', '\'', ')', '\n'] ['+', '\'', 'b', '\'', ')', '\n'] :=
    @Trivia.block _ [] _ _ (by simp) trivial .none
  have ha : Spells .strict 0 .sum [[.char 'a'], [.char 'b']]
      ['\'', 'a', '\'', '/', '*', '*', '/', '+', '\'', 'b', '\'', ')', '\n'] [')', '\n'] :=
    .sum .none (spells_literal .single [.plain 'a'] (by decide)) (.plus hcomment .none hb .noMore)
  have hgroup : Spells .strict 1 .operand [[.char 'a'], [.char 'b']]
      ['(', '\'', 'a', '\'', '/', '*', '*', '/', '+', '\'', 'b', '\'', ')', '\n'] ['\n'] :=
    .group ha .none (not_unpaired_ofChars ['a', 'b'])
  have hsum : Spells .strict 1 .sum [[.lead 0x3d], [], [.trail 0x200], [.char 'a'], [.char 'b']]
      ['\'', '\\', 'u', 'd', '8', '3', 'd', '\'', ' ', '+', '"', '"', '+', '\x60', '\\', 'u', 'd',
        'e', '0', '0', '\x60', '+', '(', '\'', 'a', '\'', '/', '*', '*', '/', '+', '\'', 'b', '\'',
        ')', '\n'] ['\n'] :=
    .sum .none
      (spells_literal .single
        [.escape (.fourDigits ⟨13, false⟩ ⟨8, false⟩ ⟨3, false⟩ ⟨13, false⟩)] (by decide))
      (.plus (.blank (by decide) .none) .none (spells_literal .double [] (by decide))
        (.plus .none .none
          (spells_literal .template
            [.escape (.fourDigits ⟨13, false⟩ ⟨14, false⟩ ⟨0, false⟩ ⟨0, false⟩)] (by decide))
          (.plus .none .none hgroup .noMore)))
  have h := show Sums .strict _ _ from ⟨1, ['\n'], by decide, hsum, .blank (by decide) .none⟩
  exact ⟨h, ((parseValue_sum h).1 _).2 ⟨[Char.ofNat 0x1F600, 'a', 'b'], by decide, rfl⟩⟩

end PromptLibrary.Proofs.Literal.Sum
