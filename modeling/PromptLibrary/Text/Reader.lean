/-!
# Readers

A reader takes something off the front of a list of symbols and says what is left. It always takes
at least one symbol, so reading again and again comes to an end.
-/

namespace PromptLibrary

/-- What a reader made of the front of `s`. -/
structure Taken {σ : Type} (α : Type) (s : List σ) where
  value : α
  rest : List σ
  shorter : rest.length < s.length

/-- A reader of `α` from symbols `σ` that may fail with `ε`. -/
abbrev Reader (σ ε α : Type) := (s : List σ) → Except ε (Taken α s)

namespace Taken

variable {σ α β : Type} {s t : List σ}

/-- What was taken off the end of a list, as taken off the whole list. -/
def lift (f : α → β) (h : s.length ≤ t.length) (r : Taken α s) : Taken β t :=
  ⟨f r.value, r.rest, Nat.lt_of_lt_of_le r.shorter h⟩

/-- The value and the rest, without the proof that something was taken. -/
def pair (r : Taken α s) : α × List σ :=
  (r.value, r.rest)

end Taken

/-- A mapped result is a value only if the result was one. -/
theorem map_eq_ok {ε α β : Type} {f : α → β} {x : Except ε α} {b : β} :
    x.map f = .ok b ↔ ∃ a, x = .ok a ∧ f a = b := by
  cases x <;> simp [Except.map]

/-- Mapping a result does not mend a failure, nor make one. -/
theorem map_eq_error {ε α β : Type} {f : α → β} {x : Except ε α} {e : ε} :
    x.map f = .error e ↔ x = .error e := by
  cases x <;> simp [Except.map]

end PromptLibrary
