import PromptLibrary.Files.Path
/-!
# File trees

The files below a working directory. Every file and directory has its place, the list of names
that lead to it. The working directory itself, the directories around it and the root of absolute
paths are always there.
-/

namespace PromptLibrary

/-- The names that lead from the working directory to a file. -/
abbrev Place := List String

inductive Entry where
  | file (content : List UInt8)
  | directory
  deriving DecidableEq, Repr

/-- Files and directories by place. -/
structure Tree where
  entries : List (Place × Entry) := []
  deriving DecidableEq, Repr, Inhabited

namespace Tree

/-- The entry at a place in a list of entries. -/
def lookup (place : Place) : List (Place × Entry) → Option Entry
  | [] => none
  | (p, e) :: rest => if p = place then some e else lookup place rest

/-- Whether a place is one of the directories that are always there. -/
def isGround (place : Place) : Bool :=
  place.all (· = "..") || place = ["/"]

/-- What stands at a place. -/
def get? (t : Tree) (place : Place) : Option Entry :=
  if isGround place then some .directory else lookup place t.entries

/-- The entries at other places. -/
def without (place : Place) (l : List (Place × Entry)) : List (Place × Entry) :=
  l.filter fun x => !decide (x.1 = place)

/-- Puts an entry at a place. -/
def set (t : Tree) (place : Place) (e : Entry) : Tree :=
  ⟨(place, e) :: without place t.entries⟩

/-- Takes away what stands at a place. -/
def erase (t : Tree) (place : Place) : Tree :=
  ⟨without place t.entries⟩

/-- Whether another entry stands below a place. -/
def hasInside (t : Tree) (place : Place) : Bool :=
  t.entries.any fun (p, _) => p ≠ place && place.isPrefixOf p

/--
What there is to list below the working directory: the files, and the directories in which nothing
stands.
-/
def listing (t : Tree) : List (Place × Entry) :=
  t.entries.filter fun (p, e) =>
    p.head?.all (fun first => first ≠ ".." && first ≠ "/") &&
      (e ≠ .directory || !t.hasInside p)

theorem lookup_without (place other : Place) (l : List (Place × Entry)) :
    lookup place (without other l) = if place = other then none else lookup place l := by
  induction l with
  | nil => simp [lookup, without]
  | cons x l ih =>
    obtain ⟨p, e⟩ := x
    simp only [without] at ih
    by_cases hp : p = other
    · subst hp
      by_cases hq : place = p
      · subst hq; simpa [without, lookup] using ih
      · simpa [without, lookup, hq, Ne.symm hq] using ih
    · by_cases hq : p = place
      · subst hq; simp [without, lookup, hp]
      · simpa [without, lookup, hp, hq] using ih

/-- After an entry is put at a place, only that place has changed. -/
theorem get?_set (t : Tree) {place : Place} (e : Entry) (other : Place)
    (h : isGround place = false) :
    (t.set place e).get? other = if other = place then some e else t.get? other := by
  by_cases ho : other = place
  · subst ho; simp [get?, set, h, lookup]
  · simp [get?, set, lookup, lookup_without, ho, Ne.symm ho]

/-- After a place is cleared, only that place has changed. -/
theorem get?_erase (t : Tree) {place : Place} (other : Place) (h : isGround place = false) :
    (t.erase place).get? other = if other = place then none else t.get? other := by
  by_cases ho : other = place
  · subst ho; simp [get?, erase, h, lookup_without]
  · simp [get?, erase, lookup_without, ho]

end Tree

end PromptLibrary
