/-!
# Searching and cutting lists

Searching, replacing, splitting and trimming, on lists of any symbols. A place in a list is
named by the part of the list that follows it.
-/

namespace PromptLibrary.Search

variable {α : Type} [DecidableEq α]

/-- The end of the list that starts with the first occurrence of `pattern`. -/
def fromFirst? (pattern : List α) : List α → Option (List α)
  | [] => if pattern.isEmpty then some [] else none
  | a :: s => if pattern.isPrefixOf (a :: s) then some (a :: s) else fromFirst? pattern s

/-- What stands before and after the first occurrence of `pattern`. -/
def cut? (pattern : List α) : List α → Option (List α × List α)
  | [] => if pattern.isEmpty then some ([], []) else none
  | a :: s =>
    if pattern.isPrefixOf (a :: s) then some ([], (a :: s).drop pattern.length)
    else (cut? pattern s).map fun (before, after) => (a :: before, after)

/-- Whether `pattern` occurs in the list. -/
def occurs (pattern s : List α) : Bool :=
  (fromFirst? pattern s).isSome

/--
Puts `value` in place of each occurrence of the pattern `first :: more`, taken from the left
without overlap.
-/
def replaceAll (first : α) (more value : List α) : List α → List α
  | [] => []
  | a :: s =>
    if (first :: more).isPrefixOf (a :: s) then
      value ++ replaceAll first more value (s.drop more.length)
    else a :: replaceAll first more value s
termination_by s => s.length
decreasing_by all_goals simp; try omega

/-- The parts between separators; one part more than there are separators. -/
def splitOn (separator : α) : List α → List (List α)
  | [] => [[]]
  | a :: s =>
    if a = separator then [] :: splitOn separator s
    else match splitOn separator s with
      | [] => [[a]]
      | part :: parts => (a :: part) :: parts

/-- Drops the symbols that satisfy `p` from both ends. -/
def trim (p : α → Bool) (s : List α) : List α :=
  ((s.dropWhile p).reverse.dropWhile p).reverse

/-- The parts joined, with `separator` between them. -/
def joinWith (separator : List α) (parts : List (List α)) : List α :=
  (parts.intersperse separator).flatten

/-- What stands before and after the last occurrence of a symbol. -/
def cutLast? (symbol : α) (s : List α) : Option (List α × List α) :=
  match s.reverse.dropWhile (· ≠ symbol) with
  | [] => none
  | _ :: before => some (before.reverse, (s.reverse.takeWhile (· ≠ symbol)).reverse)

omit [DecidableEq α] in
/-- Each symbol in its place: what stands before it, backwards, and what stands after it. -/
def contexts (s : List α) : List (List α × α × List α) :=
  go [] s
where
  go (before : List α) : List α → List (List α × α × List α)
    | [] => []
    | a :: rest => (before, a, rest) :: go (a :: before) rest

end PromptLibrary.Search
