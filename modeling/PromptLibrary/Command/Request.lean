import PromptLibrary.Command.Grammar
import PromptLibrary.Files.Path
import PromptLibrary.Literal.Failure
/-!
# Requests

What a command line asks for: a command with its arguments, and what holds for any command.
-/

namespace PromptLibrary.Command

/-- Converts a source file. -/
structure ConvertRequest where
  input : Path := .ofString ""
  output : Option Path := none
  marker : Option String := none
  interpolation : Option String := none
  deriving DecidableEq, Repr

/-- Prints the prompt that a template gives. -/
structure RenderRequest where
  template : String := ""
  input : Option String := none
  /-- Pairs `NAME=VALUE`, of which some may be missing. -/
  pairs : List (Option String) := []
  deriving DecidableEq, Repr

/-- Analyses a text with a template; what is missing is asked for. -/
structure AnalyzeRequest where
  template : Option String := none
  input : Option String := none
  pairs : List (Option String) := []
  /-- Whether the prompt is sent to the service. -/
  send : Bool := false
  deriving DecidableEq, Repr

/-- Lists the models of which the id holds a text. -/
structure ModelsRequest where
  part : Option String := some ""
  deriving DecidableEq, Repr

inductive Subcommand where
  | convert (request : ConvertRequest)
  | list
  | render (request : RenderRequest)
  | analyze (request : AnalyzeRequest)
  | models (request : ModelsRequest)
  deriving DecidableEq, Repr

structure Request where
  /-- The file of the templates. -/
  templates : Option Path := none
  verbose : Bool := false
  command : Option Subcommand := none
  deriving DecidableEq, Repr

/-! ## Grammars -/

def helpRule (σ : Type) : OptionRule σ := ⟨["-h", "--help"], .help⟩

/-- An argument that is one of a few words, if there is one. -/
def oneOf {σ : Type} (words : List String) (set : Option String → σ → σ) (word : Option String)
    (s : σ) : Except Stop σ :=
  if word.all (· ∈ words) then .ok (set word s) else .error .badUsage

def convertGrammar : Grammar ConvertRequest where
  options := [helpRule _,
    ⟨["--marker"], .valued fun w r => .ok { r with marker := w }⟩,
    ⟨["--interpolation"], .valued <| oneOf (Literal.Interpolation.all.map (·.name))
      fun w r => { r with interpolation := w }⟩]
  positionals := [.required fun w r => { r with input := .ofString w },
    .optional fun w r => { r with output := some (.ofString w) }]

def listGrammar : Grammar Unit where
  options := [helpRule _]
  positionals := []

def renderGrammar : Grammar RenderRequest where
  options := [helpRule _,
    ⟨["--var"], .valued fun w r => .ok { r with pairs := r.pairs ++ [w] }⟩]
  positionals := [.required fun w r => { r with template := w },
    .optional fun w r => { r with input := some w }]

def analyzeGrammar : Grammar AnalyzeRequest where
  options := [helpRule _,
    ⟨["--var"], .valued fun w r => .ok { r with pairs := r.pairs ++ [w] }⟩,
    ⟨["--send"], .flag fun r => { r with send := true }⟩]
  positionals := [.optional fun w r => { r with template := some w },
    .optional fun w r => { r with input := some w }]

def modelsGrammar : Grammar ModelsRequest where
  options := [helpRule _, ⟨["--filter"], .valued fun w r => .ok { r with part := w }⟩]
  positionals := []

/-- Reads the words behind a command's name. -/
def readCommand (name : String) (args : List String) : Except Stop (Subcommand × List String) :=
  match name with
  | "convert" => (convertGrammar.read args {}).map fun (r, rest) => (.convert r, rest)
  | "list" => (listGrammar.read args ()).map fun (_, rest) => (.list, rest)
  | "render" => (renderGrammar.read args {}).map fun (r, rest) => (.render r, rest)
  | "analyze" => (analyzeGrammar.read args {}).map fun (r, rest) => (.analyze r, rest)
  | "models" => (modelsGrammar.read args {}).map fun (r, rest) => (.models r, rest)
  | _ => .error .badUsage

def requestGrammar : Grammar Request where
  options := [helpRule _,
    ⟨["--templates"], .valued fun w r => .ok { r with templates := w.map .ofString }⟩,
    ⟨["--verbose", "-v"], .flag fun r => { r with verbose := true }⟩]
  positionals := [.command fun name args r =>
    (readCommand name args).map fun (c, rest) => ({ r with command := some c }, rest)]

/-- Reads a command line. Each of its words has to be of use. -/
def Request.ofArguments (args : List String) : Except Stop Request := do
  let (request, leftover) ← requestGrammar.read args {}
  if leftover = [] then return request else throw .badUsage

end PromptLibrary.Command
