import PromptLibrary.Proofs.Literal.Places
/-!
# Reading without a limit

No text opens more brackets than it has characters.  With room for that many the reader never fails
for the limit on nesting, so that what it gives is what a reader without the limit gives.

* `room_of_moves`, `room_of_visits` — the cursor pays for room with the brackets that it crosses;
* `lt_length_of_tooDeep` — a parser that refuses a text for the limit has opened all brackets that
  it has room for;
* `parseUnlimited`, `shallow_of_unlimited`.
-/

namespace PromptLibrary.Proofs.Literal.Unlimited

open PromptLibrary.Literal
open PromptLibrary.Proofs.Literal.Cursor
open PromptLibrary.Proofs.Literal.Places

/-- A failure for another reason than the limit on nesting. -/
def Shallow (e : Failure) : Prop :=
  ∀ rest, e ≠ .refused .tooDeep rest

/-- How many more brackets may open in what the parser is at; inside of a token none do. -/
def room? : Stage → Option Nat
  | .whole n => some n
  | .literal n => some n
  | .chain n => some n
  | .operand n => some n
  | .inside _ n => some n
  | .items n => some n
  | .members n => some n
  | _ => none

/-- What is left of the text, with the bracket that has opened and is still to be paid for. -/
def unpaid : Point → Nat
  | ⟨.inside _ _, rest⟩ => rest.length + 1
  | ⟨_, rest⟩ => rest.length

variable {policy : Interpolation} {n m : Nat} {text rest : List Char} {e : Failure} {a b : Point}

/-- **Room is lost only to brackets that the cursor crosses.** -/
theorem room_of_moves (h : Moves policy a b) (hb : room? b.stage = some m) :
    ∃ n, room? a.stage = some n ∧ n + unpaid b ≤ m + unpaid a := by
  have hle := (forward_of_moves h).1.length_le
  cases h with
  | whole | first | afterFirst | next | afterNext | item | nextItem | value | nextMember =>
    cases hb
    exact ⟨_, rfl, Nat.add_le_add_left hle _⟩
  | bracket hs _ =>
    cases hb
    exact ⟨_, rfl, Nat.add_le_add_left (length_skipTrivia_lt hs) _⟩
  | parentheses | array | object =>
    cases hb
    exact ⟨_, rfl, by simp only [unpaid]; omega⟩
  | _ => cases hb

theorem room_of_visits (h : Visits policy a b) (hb : room? b.stage = some m) :
    ∃ n, room? a.stage = some n ∧ n + unpaid b ≤ m + unpaid a := by
  induction h generalizing m with
  | refl => exact ⟨m, hb, Nat.le_refl _⟩
  | tail _ hmove ih =>
    obtain ⟨k, hk, hlast⟩ := room_of_moves hmove hb
    obtain ⟨n, hn, hway⟩ := ih hk
    exact ⟨n, hn, by omega⟩

/-- **A parser that refuses a text for the limit has opened all brackets that it has room for.** -/
theorem lt_length_of_tooDeep (h : parseWithin n policy text = .error (.refused .tooDeep rest)) :
    n < text.length := by
  obtain ⟨⟨stage, rest⟩, _, hvisits, c, _, hstage⟩ := (points_of_parseWithin h).exists_of_refused
  obtain rfl : stage = .inside c 0 := hstage
  obtain ⟨k, hk, hle⟩ := room_of_visits hvisits rfl
  obtain rfl : n = k := Option.some.inj hk
  simp only [unpaid] at hle
  omega

/-- The parser that has room for all brackets. -/
def parseUnlimited (policy : Interpolation) (text : List Char) : Except Failure Parsed :=
  parseWithin text.length policy text

/-- **Without a limit no text is refused for it.** -/
theorem shallow_of_unlimited (h : parseUnlimited policy text = .error e) : Shallow e := by
  rintro rest rfl
  exact absurd (lt_length_of_tooDeep h) (Nat.lt_irrefl _)

end PromptLibrary.Proofs.Literal.Unlimited
