import PromptLibrary.Mapping
import PromptLibrary.Template.Segment
/-!
# Placeholders

The placeholders of a body with their places: each occurrence of the input marker, and each
variable. They are listed in the order in which they begin.
-/

namespace PromptLibrary.Template

/-- What a placeholder stands for. -/
inductive PlaceholderKind where
  | input
  | named
  deriving DecidableEq, Repr

def PlaceholderKind.name : PlaceholderKind → String
  | input => "input"
  | named => "variable"

/-- A placeholder in a body. -/
structure Placeholder where
  name : Text
  kind : PlaceholderKind
  spelling : Text
  /-- The options as they are written. -/
  options : List Text
  start : Nat
  stop : Nat
  deriving DecidableEq, Repr

/-- What stands in the place of a placeholder that gets no value. -/
def Placeholder.default (p : Placeholder) : Text :=
  firstOption p.options

def inputPlaceholder (start : Nat) : Placeholder :=
  ⟨Text.ofString "INPUT", .input, inputMarker, [], start, start + inputMarker.length⟩

def Variable.placeholder (v : Variable) (start : Nat) : Placeholder :=
  ⟨v.name, .named, v.spelling, splitOptions v.options, start, start + v.spelling.length⟩

/-- The occurrences of the input marker in a text that begins at `offset`. -/
def inputsFrom (offset : Nat) (s : Text) : List Placeholder :=
  match s with
  | [] => []
  | p :: rest =>
    if inputMarker.isPrefixOf (p :: rest) then
      inputPlaceholder offset ::
        inputsFrom (offset + inputMarker.length) (rest.drop (inputMarker.length - 1))
    else inputsFrom (offset + 1) rest
termination_by s.length
decreasing_by all_goals simp; try omega

/-- The variables among segments of which the first begins at `offset`. -/
def variablesFrom (offset : Nat) : List Segment → List Placeholder
  | [] => []
  | .point _ :: rest => variablesFrom (offset + 1) rest
  | .slot v :: rest => v.placeholder offset :: variablesFrom (offset + v.spelling.length) rest

/-- All placeholders of a body. -/
def placeholders (body : Text) : List Placeholder :=
  (inputsFrom 0 body).merge (variablesFrom 0 (segments body)) fun a b => a.start ≤ b.start

/-- Each variable of a body with its options, trimmed; the first place of a name counts. -/
def variableOptions (body : Text) : Mapping (List Text) :=
  (placeholders body).foldl (fun m p =>
    if p.kind = .named ∧ ¬ m.contains p.name then m ++ [(p.name, p.options.map trimOption)]
    else m) []

/-- Whether the body takes the input of the caller. -/
def usesInput (body : Text) : Bool :=
  Search.occurs inputMarker body

end PromptLibrary.Template
