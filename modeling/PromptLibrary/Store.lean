import PromptLibrary.Encoding.Basic
import PromptLibrary.Files.Action
import PromptLibrary.Json.Reader
import PromptLibrary.Template.Render
/-!
# The template store

A store reads its file at the first load that succeeds and answers from memory ever after.
-/

namespace PromptLibrary

/-- What is wrong with a stored file. -/
inductive Corruption where
  | undecodable (fault : Encoding.Fault)
  /-- The text of the file is no JSON document; the fault lies where `rest` begins. -/
  | malformed (text : Text) (fault : Json.Fault) (rest : Text)
  | notObject (kind : Kind)
  | notText (key : Text) (kind : Kind)
  deriving DecidableEq, Repr

def Corruption.message : Corruption → Text
  | undecodable fault => Text.ofString s!"not valid JSON: {fault.message}"
  | malformed text fault rest =>
    Text.ofString s!"not valid JSON: {Json.describe text fault rest}"
  | notObject kind => Text.ofString s!"expected an object, got {kind.storedName}"
  | notText key kind =>
    Text.ofString "template '" ++ key ++ Text.ofString s!"' is {kind.storedName}, not a string"

/-- Why a store could not be loaded. -/
inductive LoadError where
  | notFound (path : Path)
  | corrupt (path : Path) (what : Corruption)
  | file (e : FileError)
  /-- An integer in the file has more digits than the limit allows. -/
  | tooManyDigits (count : Nat)
  | tooDeep (kind : Kind)
  deriving DecidableEq, Repr

def LoadError.message : LoadError → Text
  | notFound path => Text.ofString <|
    s!"Templates file not found at {path.text}. " ++
      "Generate it with 'archkit convert <library.js>'."
  | corrupt path what =>
    Text.ofString s!"Templates file at {path.text} is invalid (" ++ what.message ++
      Text.ofString "). Regenerate it with 'archkit convert <library.js>'."
  | file e => Text.ofString e.message
  | tooManyDigits count => Text.ofString ((Json.Failure.tooManyDigits count).message [])
  | tooDeep kind => Text.ofString ((Json.Failure.tooDeep kind).message [])

/-- Why a template could not be looked up. -/
inductive LookupError where
  | load (e : LoadError)
  | notFound (key : Text)
  deriving DecidableEq, Repr

def LookupError.message : LookupError → Text
  | load e => e.message
  | notFound key => Text.ofString "Template not found: " ++ key

/-- The members of a document as templates; each has to be a string. -/
def storedTemplates : List (Text × Value) → Except Corruption (Mapping Text)
  | [] => .ok []
  | (key, .string body) :: rest => (storedTemplates rest).map ((key, body) :: ·)
  | (key, v) :: _ => .error (.notText key v.kind)

/-- The templates in a file at a path. -/
def readTemplates (tree : Tree) (path : Path) : Except LoadError (Mapping Text) :=
  match tree.isThere path with
  | .error e => .error (.file e)
  | .ok false => .error (.notFound path)
  | .ok true =>
    match tree.read path with
    | .error e => .error (.file e)
    | .ok bytes =>
      match Encoding.utf8.readText bytes with
      | .error fault => .error (.corrupt path (.undecodable fault))
      | .ok cs =>
        let text := Text.ofChars cs
        match Json.read text with
        | .error (.malformed fault rest) => .error (.corrupt path (.malformed text fault rest))
        | .error (.tooManyDigits count) => .error (.tooManyDigits count)
        | .error (.tooDeep kind) => .error (.tooDeep kind)
        | .ok (.object members) => (storedTemplates members).mapError (.corrupt path)
        | .ok v => .error (.corrupt path (.notObject v.kind))

/-- A store of templates: its file, and the mapping once it is loaded. -/
structure Store where
  path : Path
  loaded : Option (Mapping Text) := none
  deriving DecidableEq, Repr

namespace Store

def isLoaded (s : Store) : Bool :=
  s.loaded.isSome

/-- The mapping, from memory or else from the file, and the store afterwards. -/
def load (s : Store) (tree : Tree) : Except LoadError (Mapping Text) × Store :=
  match s.loaded with
  | some m => (.ok m, s)
  | none =>
    match readTemplates tree s.path with
    | .error e => (.error e, s)
    | .ok m => (.ok m, { s with loaded := some m })

/-- The body of a template. -/
def get (s : Store) (tree : Tree) (key : Text) : Except LookupError Text × Store :=
  let (result, after) := s.load tree
  match result with
  | .error e => (.error (.load e), after)
  | .ok m =>
    match m.get? key with
    | some body => (.ok body, after)
    | none => (.error (.notFound key), after)

/-- The keys in the order of the file. -/
def keys (s : Store) (tree : Tree) : Except LoadError (List Text) × Store :=
  let (result, after) := s.load tree
  (result.map Mapping.keys, after)

/-- Whether there is a template of a key. -/
def contains (s : Store) (tree : Tree) (key : Text) : Except LoadError Bool × Store :=
  let (result, after) := s.load tree
  (result.map (·.contains key), after)

/-- The prompt that a template gives. -/
def render (s : Store) (tree : Tree) (key : Text) (values : Mapping Value) :
    Except LookupError Text × Store :=
  let (result, after) := s.get tree key
  (result.map (Template.render · values), after)

end Store

end PromptLibrary
