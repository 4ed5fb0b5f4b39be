import PromptLibrary.Mapping
/-!
# Assignments

Render variables are given as pairs `NAME=VALUE`. A pair is cut at its first equals sign, and the
last pair of a name counts.
-/

namespace PromptLibrary.Command

/-- A pair that assigns nothing. -/
structure InvalidPair where
  pair : Text
  deriving DecidableEq, Repr

def InvalidPair.message (e : InvalidPair) : Text :=
  Text.ofString "Invalid variable '" ++ e.pair ++ Text.ofString "', expected NAME=VALUE"

/-- The name and the value of a pair. The name may not be empty. -/
def assignment? (pair : Text) : Option (Text × Text) :=
  let isName (p : CodePoint) : Bool := p ≠ .char '='
  match pair.takeWhile isName, pair.dropWhile isName with
  | [], _ => none
  | _, [] => none
  | name, _ :: value => some (name, value)

/-- The variables that some pairs assign, one after the other. -/
def assignments (pairs : List Text) : Except InvalidPair (Mapping Text) :=
  pairs.foldlM (fun m pair =>
    match assignment? pair with
    | some (name, value) => .ok (m.put name value)
    | none => .error ⟨pair⟩) []

end PromptLibrary.Command
