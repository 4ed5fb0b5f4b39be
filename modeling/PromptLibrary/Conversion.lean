import PromptLibrary.Encoding.Basic
import PromptLibrary.Files.Action
import PromptLibrary.Json.Writer
import PromptLibrary.Literal.Evaluate
import PromptLibrary.Settings
import PromptLibrary.Source.Extract
/-!
# Converting a library

The templates of a source file are extracted, evaluated and stored as JSON. Nothing is written
unless all templates were evaluated.
-/

namespace PromptLibrary

/-- Why a conversion failed. -/
inductive ConvertError where
  | unknownPolicy (name : String)
  | unknownEncoding (name : String)
  | inputNotFound (path : Path)
  | file (e : FileError)
  | undecodable (fault : Encoding.Fault)
  | extraction (e : Source.ExtractError)
  | evaluation (e : Literal.EvalError)
  /-- A template holds a surrogate half, which has no encoding. -/
  | unencodable
  deriving DecidableEq, Repr

def ConvertError.message : ConvertError → String
  | unknownPolicy name => Literal.Interpolation.unknownMessage name
  | unknownEncoding name => s!"unknown encoding: {name}"
  | inputNotFound path => s!"Input file not found: {path.text}"
  | file e => e.message
  | undecodable fault => fault.message
  | extraction e => e.message
  | evaluation e => e.message
  | unencodable => "surrogates not allowed"

/-- What the caller asks for; what is missing or empty comes from the settings. -/
structure ConvertOptions where
  marker : Option String := none
  interpolation : Option String := none
  encoding : Option String := none
  deriving DecidableEq, Repr

namespace ConvertOptions

def markerOr (o : ConvertOptions) (settings : Settings) : String :=
  Settings.orUsual o.marker settings.sourceMarker

def encodingOr (o : ConvertOptions) (settings : Settings) : String :=
  Settings.orUsual o.encoding settings.sourceEncoding

/-- The policy that is asked for or set, by its name. -/
def policy (o : ConvertOptions) (settings : Settings) : Except ConvertError Literal.Interpolation :=
  let name := Settings.orUsual o.interpolation settings.interpolation
  match Literal.Interpolation.named? name with
  | some p => .ok p
  | none => .error (.unknownPolicy name)

end ConvertOptions

namespace Conversion

open Literal in
/-- The templates of a source text under a marker and a policy. -/
def templatesOf (marker : List Char) (policy : Interpolation) (source : List Char) :
    Except ConvertError (Evaluated (Mapping Text)) :=
  match Source.extract source marker with
  | .error e => .error (.extraction e)
  | .ok found =>
    match Literal.evaluate policy found.text with
    | .error e => .error (.evaluation e)
    | .ok templates => .ok templates

/-- Converts a source text. -/
def convertText (settings : Settings) (o : ConvertOptions) (source : List Char) :
    Except ConvertError (Literal.Evaluated (Mapping Text)) := do
  let policy ← o.policy settings
  templatesOf (o.markerOr settings).toList policy source

/-- The document that stores a mapping. -/
def document (templates : Mapping Text) : Text :=
  Json.write (.object (templates.map fun (key, body) => (key, .string body)))

/-- Stores a mapping in a file. -/
def writeTemplates (fs : FileSystem) (templates : Mapping Text) (output : Path) :
    ExceptT ConvertError (StateM Tree) Unit :=
  match (document templates).chars? with
  | none => throw .unencodable
  | some cs => (fs.writeFile output (Encoding.Utf8.encode cs)).adapt .file

/-- The text of a source file. -/
def readSource (tree : Tree) (encoding : String) (input : Path) :
    Except ConvertError (List Char) :=
  match tree.isThere input with
  | .error e => .error (.file e)
  | .ok false => .error (.inputNotFound input)
  | .ok true =>
    match tree.read input with
    | .error e => .error (.file e)
    | .ok bytes =>
      match Encoding.named? encoding with
      | none => .error (.unknownEncoding encoding)
      | some e => (e.readText bytes).mapError .undecodable

/-- Converts a source file and stores its templates. -/
def convert (fs : FileSystem) (settings : Settings) (o : ConvertOptions) (input output : Path) :
    ExceptT ConvertError (StateM Tree) (Mapping Text) := do
  let policy ← o.policy settings
  let source ← readSource (← get) (o.encodingOr settings) input
  let templates ← templatesOf (o.markerOr settings).toList policy source
  writeTemplates fs templates.value output
  return templates.value

end Conversion

end PromptLibrary
