import PromptLibrary.Text.Quoted
/-!
# Text that an encoding has no bytes for

A message about such text tells of its first run of code points that cannot be encoded.
-/

namespace PromptLibrary.Text

/-- An encoding of code points, by what it can encode and what is said of the rest. -/
structure Repertoire where
  name : String
  has : CodePoint → Bool
  complaint : String

/-- Characters below 128. -/
def asciiRepertoire : Repertoire where
  name := "ascii"
  has p := p.toNat < 128
  complaint := "ordinal not in range(128)"

/-- All characters, and no surrogate half. -/
def utf8Repertoire : Repertoire where
  name := "utf-8"
  has p := p.char?.isSome
  complaint := "surrogates not allowed"

namespace Repertoire

/-- Whether a text can be encoded. -/
def hasAll (r : Repertoire) (t : Text) : Bool :=
  t.all r.has

/-- What is said about a text that cannot be encoded. -/
def message (r : Repertoire) (t : Text) : String :=
  let position := (t.takeWhile r.has).length
  let run := (t.dropWhile r.has).takeWhile (!r.has ·)
  let what := match run with
    | [p] => s!"character '{String.ofList (numberEscape p.toNat)}' in position {position}"
    | _ => s!"characters in position {position}-{position + run.length - 1}"
  s!"'{r.name}' codec can't encode {what}: {r.complaint}"

end Repertoire

end PromptLibrary.Text
