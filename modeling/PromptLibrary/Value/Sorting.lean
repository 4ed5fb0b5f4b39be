import PromptLibrary.Value.Order
/-!
# Sorting by comparisons that may fail

The run at the front of a list is kept, turned round if it descends. Each further item is put by
bisection behind all items that it does not come before, so that equal items keep their order.
-/

namespace PromptLibrary.Sorting

variable {ε α : Type} (before : α → α → Except ε Bool)

/-- The items in front that go on descending, or not descending, from the one before them. -/
def run (descends : Bool) (last : α) : List α → Except ε (List α × List α)
  | [] => .ok ([], [])
  | x :: rest =>
    match before x last with
    | .error e => .error e
    | .ok b =>
      if b = descends then (run descends x rest).map fun (more, after) => (x :: more, after)
      else .ok ([], x :: rest)

theorem length_take_half_lt {s after : List α} {p : α} (h : s.drop (s.length / 2) = p :: after) :
    (s.take (s.length / 2)).length < s.length := by
  have hl := congrArg List.length h
  rw [List.length_drop, List.length_cons] at hl
  rw [List.length_take]
  omega

theorem length_after_half_lt {s after : List α} {p : α} (h : s.drop (s.length / 2) = p :: after) :
    after.length < s.length := by
  have hl := congrArg List.length h
  rw [List.length_drop, List.length_cons] at hl
  omega

/-- Puts an item into a sorted list. -/
def insert (x : α) (s : List α) : Except ε (List α) :=
  match _h : s.drop (s.length / 2) with
  | [] => .ok [x]
  | p :: after =>
    match before x p with
    | .error e => .error e
    | .ok true => (insert x (s.take (s.length / 2))).map (· ++ p :: after)
    | .ok false => (insert x after).map (s.take (s.length / 2) ++ p :: ·)
termination_by s.length
decreasing_by
  · exact length_take_half_lt _h
  · exact length_after_half_lt _h

/-- A list in ascending order. -/
def sort : List α → Except ε (List α)
  | [] => .ok []
  | [a] => .ok [a]
  | a :: b :: rest => do
    let descends ← before b a
    let (more, after) ← run before descends b rest
    let front := a :: b :: more
    after.foldlM (fun s x => insert before x s) (if descends then front.reverse else front)

end PromptLibrary.Sorting
