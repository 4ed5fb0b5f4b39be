import PromptLibrary.Text.Search
/-!
# Paths

A path is kept without empty components and without single dots. Two dots stay, since what they
mean depends on the files that are there.
-/

namespace PromptLibrary

/-- A path: the slashes of its root, none for a relative path, and its components. -/
structure Path where
  root : String
  parts : List String
  deriving DecidableEq, Repr, Inhabited

namespace Path

/-- Reads a path. Exactly two slashes in front are kept; any other number makes one root. -/
def ofString (s : String) : Path :=
  let cs := s.toList
  let slashes := (cs.takeWhile (· = '/')).length
  let root := if slashes = 0 then "" else if slashes = 2 then "//" else "/"
  let parts := (Search.splitOn '/' cs).filter fun part => part ≠ [] && part ≠ ['.']
  ⟨root, parts.map String.ofList⟩

/-- The text of a path; the path without components is a dot. -/
def text (p : Path) : String :=
  if p.root = "" ∧ p.parts = [] then "." else p.root ++ "/".intercalate p.parts

/-- The last component. -/
def name (p : Path) : String :=
  p.parts.getLast?.getD ""

/-- The path without its last component. -/
def parent (p : Path) : Path :=
  { p with parts := p.parts.dropLast }

/-- The path of something in the directory of this path. -/
def child (p : Path) (name : String) : Path :=
  { p with parts := p.parts ++ [name] }

/-- Takes two dots to lead back one component, where there is one to lead back from. -/
def collapse (before : List String) : List String → List String
  | [] => before
  | ".." :: rest =>
    if before = [] ∨ before.getLast? = some ".." then collapse (before ++ [".."]) rest
    else collapse before.dropLast rest
  | part :: rest => collapse (before ++ [part]) rest

/-- The path with two dots worked out on the text alone. -/
def normal (p : Path) : Path :=
  { p with parts := collapse [] p.parts }

end Path

end PromptLibrary
