import PromptLibrary.Proofs.Literal.Congruence
import PromptLibrary.Proofs.Literal.Places
/-!
# Progress of the parser

The cursor goes forward and stays within the text, every reader takes something, and so the parser
comes to an end.  That it does is told twice: the ways of the cursor are bounded by the length of
the text, and the equation by which operands are read, with no limit on brackets, has exactly one
solution.  A refusal tells an offset of the text at which what it complains about stands.

* `operand_congr` — the recursion calls itself on shorter texts only;
* `eq_whole_iff` — so it has one solution, which the limited readers agree with as far as they have
  room;
* `exists_offset_of_parseValue`;
* `progress_and_places`.
-/

namespace PromptLibrary.Proofs.Literal.Progress

open PromptLibrary.Literal
open PromptLibrary.Proofs.Literal.Trivia
open PromptLibrary.Proofs.Literal.Steps
open PromptLibrary.Proofs.Literal.Congruence
open PromptLibrary.Proofs.Literal.Cursor
open PromptLibrary.Proofs.Literal.Places

variable {policy : Interpolation} {f g : Reader Char Failure Parsed} {n m : Nat}
  {s text : List Char} {reason : Reason}

/-! ## One solution of the recursion -/

theorem stepwise_eq : Stepwise fun x y => x = y where
  refl _ := rfl
  bind := by
    rintro α β x y g g' rfl hg
    cases x with
    | error e => rfl
    | ok a => exact hg a rfl

/-- A reader that has the same outcome on a text gives the same there. -/
theorem eq_of_outcome (h : outcome f s = outcome g s) : f s = g s := by
  unfold outcome at h
  cases hf : f s with
  | error e =>
    cases hg : g s with
    | error e' => simpa [hf, hg, Except.map] using h
    | ok w => simp [hf, hg, Except.map] at h
  | ok v =>
    cases hg : g s with
    | error e => simp [hf, hg, Except.map] at h
    | ok w =>
      obtain ⟨v, r, hv⟩ := v
      obtain ⟨w, u, hw⟩ := w
      simp only [hf, hg, Except.map, Taken.pair, Except.ok.injEq, Prod.mk.injEq] at h
      obtain ⟨rfl, rfl⟩ := h
      rfl

/-- An operand that holds literals in brackets calls the reader of operands on shorter texts. -/
theorem operand_congr (h : ∀ t, t.length < s.length → f t = g t) :
    operand policy (some (expression f)) s = operand policy (some (expression g)) s :=
  eq_of_outcome (related_operand stepwise_eq (fun _ => rfl) fun t ht => by
    rw [outcome, h t ht, outcome])

theorem operand_nil {inner : Option (Reader Char Failure Parsed)} :
    operand policy inner [] = .error (.refused .endOfInput []) := by
  have h : outcome (operand policy inner) [] = .error (.refused .endOfInput []) := by
    rw [outcome_operand, skipTrivia_nil]
    rfl
  exact map_eq_error.1 h

/-- Room for more brackets than the text has characters makes no difference. -/
theorem operandWithin_of_length_le (hn : s.length ≤ n) (hm : s.length ≤ m) :
    operandWithin policy n s = operandWithin policy m s := by
  induction n generalizing m s with
  | zero =>
    obtain rfl : s = [] := List.eq_nil_of_length_eq_zero (Nat.le_zero.1 hn)
    cases m with
    | zero => rfl
    | succ m => rw [operandWithin, operandWithin, operand_nil, operand_nil]
  | succ n ih =>
    cases m with
    | zero =>
      obtain rfl : s = [] := List.eq_nil_of_length_eq_zero (Nat.le_zero.1 hm)
      rw [operandWithin, operandWithin, operand_nil, operand_nil]
    | succ m => exact operand_congr fun t ht => ih (by omega) (by omega)

/-- The reader of operands that has room for all brackets. -/
def whole (policy : Interpolation) : Reader Char Failure Parsed :=
  fun s => operandWithin policy s.length s

theorem operandWithin_eq_whole (h : s.length ≤ n) : operandWithin policy n s = whole policy s :=
  operandWithin_of_length_le h (Nat.le_refl _)

theorem whole_eq : whole policy = operand policy (some (expression (whole policy))) := by
  funext s
  cases hs : s.length with
  | zero =>
    obtain rfl : s = [] := List.eq_nil_of_length_eq_zero hs
    rw [operand_nil, whole, List.length_nil, operandWithin, operand_nil]
  | succ k =>
    rw [whole, hs, operandWithin]
    exact operand_congr fun t ht => operandWithin_eq_whole (by omega)

/-- **The equation of operands without a limit has one solution.** -/
theorem eq_whole_iff : g = operand policy (some (expression g)) ↔ g = whole policy := by
  constructor
  · intro h
    funext s
    induction hl : s.length using Nat.strongRecOn generalizing s with
    | _ l ih =>
    subst hl
    rw [h, whole_eq]
    exact operand_congr fun t ht => ih _ ht t rfl
  · rintro rfl
    exact whole_eq

/-! ## Offsets of refusals -/

/-- **A refusal tells an offset of the text, and what it is about stands there.** -/
theorem exists_offset_of_parseValue {place : Option Nat}
    (h : parseValue policy text = .error (.refused reason place)) :
    ∃ stage offset, place = some offset ∧ offset ≤ text.length ∧
      Visits policy ⟨.whole depthLimit, text⟩ ⟨stage, text.drop offset⟩ ∧
      Fits reason ⟨stage, text.drop offset⟩ := by
  unfold parseValue at h
  split at h
  · next failure hfailure =>
    have htold : failure.toError text = .refused reason place := Except.error.inj h
    have hpoints := points_of_parseWithin hfailure
    cases failure with
    | refused told rest =>
      obtain ⟨rfl, rfl⟩ : told = reason ∧ some (text.length - rest.length) = place := by
        simpa [Failure.toError] using htold
      obtain ⟨⟨stage, rest⟩, rfl, hvisits, hfits⟩ := hpoints.exists_of_refused
      refine ⟨stage, _, rfl, Nat.sub_le _ _, ?_⟩
      rw [drop_of_visits hvisits]
      exact ⟨hvisits, hfits⟩
    | tooManyDigits => simp [Failure.toError] at htold
    | codePointTooLarge => simp [Failure.toError] at htold
  · cases h

/-- **The parser goes forward, comes to an end and points at what it refuses.**  From each point
that the cursor comes to it goes on to ends of what is left; what a reader leaves is shorter than
what it was given; a way of the cursor has no more moves than eight for each character and seven,
and the recursion through brackets has one solution, whatever their number; an accepted text is
crossed to its end, and a refusal tells an offset of the text that the cursor has come to, where
stands what the refusal is about. -/
theorem progress_and_places (policy : Interpolation) (text : List Char) :
    (∀ a b, Visits policy ⟨.whole depthLimit, text⟩ a → Visits policy a b →
      a.rest <:+ text ∧ b.rest <:+ a.rest) ∧
    (∀ s r, Takes policy s r → r <:+ s ∧ r.length < s.length) ∧
    (∀ points, List.IsChain (Moves policy) (⟨.whole depthLimit, text⟩ :: points) →
      points.length ≤ 8 * text.length + 7) ∧
    (∃ f : Reader Char Failure Parsed, (∀ g, g = operand policy (some (expression g)) ↔ g = f) ∧
      ∀ n s, s.length ≤ n → operandWithin policy n s = f s) ∧
    (∀ parsed, parseValue policy text = .ok parsed →
      Visits policy ⟨.whole depthLimit, text⟩ ⟨.trivia, []⟩) ∧
    ∀ reason place, parseValue policy text = .error (.refused reason place) →
      ∃ stage offset, place = some offset ∧ offset ≤ text.length ∧
        Visits policy ⟨.whole depthLimit, text⟩ ⟨stage, text.drop offset⟩ ∧
        Fits reason ⟨stage, text.drop offset⟩ := by
  refine ⟨fun a b ha hb => ⟨suffix_of_visits ha, suffix_of_visits hb⟩,
    fun s r h => ahead_of_takes h, fun points h => length_le_of_moves h,
    ⟨whole policy, fun g => eq_whole_iff, fun n s h => operandWithin_eq_whole h⟩,
    fun parsed h => ?_, fun reason place h => exists_offset_of_parseValue h⟩
  unfold parseValue at h
  split at h
  · cases h
  · next hparse => exact visits_of_parseWithin hparse

theorem progress_and_places_sum :
    let refusedText := ['(', '\'', 'a', '\'', '+', 'b', ')']
    let acceptedText := ['\'', 'a', '\'']
    let start : Point := ⟨.whole depthLimit, refusedText⟩
    let first : Point := ⟨.literal depthLimit, refusedText⟩
    parseValue .strict refusedText = .error (.refused (.undefinedSymbol ['b']) (some 5)) ∧
      (∃ stage offset, some 5 = some offset ∧ offset ≤ 7 ∧
        Visits .strict start ⟨stage, refusedText.drop offset⟩ ∧
        Fits (.undefinedSymbol ['b']) ⟨stage, refusedText.drop offset⟩) ∧
      (Takes .strict ['b', ')'] [')'] ∧ [')'] <:+ ['b', ')'] ∧ 1 < 2) ∧
      (List.IsChain (Moves .strict) [start, first] ∧ 1 ≤ 8 * 7 + 7) ∧
      (Visits .strict start first ∧ first.rest <:+ refusedText) ∧
      Visits .strict ⟨.whole depthLimit, acceptedText⟩ ⟨.trivia, []⟩ := by
  intro refusedText acceptedText start first
  obtain ⟨hforward, htakes, hmoves, _, _, hplaces⟩ := progress_and_places .strict refusedText
  have hrefused : parseValue .strict refusedText =
      .error (.refused (.undefinedSymbol ['b']) (some 5)) := by with_unfolding_all rfl
  have haccepted : parseValue .strict acceptedText = .ok ⟨.string [.char 'a'], []⟩ := by
    with_unfolding_all rfl
  have hname : Takes .strict ['b', ')'] [')'] := .name
  have hchain : List.IsChain (Moves .strict) [start, first] :=
    .cons_cons .whole (List.isChain_singleton first)
  have hvisits : Visits .strict start first := .single .whole
  exact ⟨hrefused, hplaces _ _ hrefused, ⟨hname, htakes _ _ hname⟩, ⟨hchain, hmoves _ hchain⟩,
    ⟨hvisits, (hforward _ _ hvisits .refl).1⟩,
    (progress_and_places .strict acceptedText).2.2.2.2.1 _ haccepted⟩

end PromptLibrary.Proofs.Literal.Progress
