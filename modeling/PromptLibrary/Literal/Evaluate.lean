import PromptLibrary.Literal.Parse
/-!
# Evaluating literals

The value of a literal, and the mapping of templates that an object of strings stands for. Places
are told as offsets into the text of the literal.
-/

namespace PromptLibrary.Literal

/-- A warning: a key came again at an offset, and its last value counts. -/
structure DuplicateKey where
  key : Text
  offset : Nat
  deriving DecidableEq, Repr

def DuplicateKey.message (d : DuplicateKey) : String :=
  s!"Duplicate key '{d.key.asString}' at offset {d.offset}; last value wins"

/-- What evaluation gives, with its warnings in order. -/
structure Evaluated (α : Type) where
  value : α
  warnings : List DuplicateKey

/-- The value of the literal that a text holds. -/
def parseValue (policy : Interpolation) (text : List Char) :
    Except EvalError (Evaluated Value) :=
  match parseWithin depthLimit policy text with
  | .error e => .error (e.toError text)
  | .ok p => .ok ⟨p.value, p.duplicates.map fun d => ⟨d.key, text.length - d.rest.length⟩⟩

/-- The members of an object as templates; each has to be a string. -/
def templatesOf : List (Text × Value) → Except EvalError (Mapping Text)
  | [] => .ok []
  | (key, .string body) :: rest => (templatesOf rest).map ((key, body) :: ·)
  | (key, v) :: _ => .error (.refused (.notTemplate key v.kind) none)

/-- The templates that the literal in a text stands for. -/
def evaluate (policy : Interpolation) (text : List Char) :
    Except EvalError (Evaluated (Mapping Text)) := do
  let parsed ← parseValue policy text
  match parsed.value with
  | .object members => return ⟨← templatesOf members, parsed.warnings⟩
  | v => throw (.refused (.notObject v.kind) none)

end PromptLibrary.Literal
