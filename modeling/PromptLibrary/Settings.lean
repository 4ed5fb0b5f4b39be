import PromptLibrary.Files.Path
import PromptLibrary.Literal.Failure
import PromptLibrary.Number.Integer
import PromptLibrary.Text.Blank
/-!
# Settings

What can be set from the environment, and the defaults.
-/

namespace PromptLibrary

structure Settings where
  /-- Where the templates are stored. -/
  templatesPath : Path := .ofString "data/templates.json"
  /-- What the library is assigned to in a source file. -/
  sourceMarker : String := "window.ARCH_LIBRARY"
  sourceEncoding : String := "utf-8"
  /-- The name of the policy for `${...}` in templates. -/
  interpolation : String := "strict"
  defaultTemplate : String := "DEV"
  provider : String := "none"
  anthropicKey : Option String := none
  openRouterKey : Option String := none
  openRouterModel : String := "anthropic/claude-3.5-sonnet"
  modelName : String := "claude-sonnet-4-20250514"
  maxTokens : Int := 4096
  logLevel : String := "INFO"
  debug : Bool := false
  deriving DecidableEq, Repr, Inhabited

namespace Settings

/-- What is asked for, unless it is missing or empty; then what is usual. -/
def orUsual (asked : Option String) (usual : String) : String :=
  match asked with
  | some s => if s = "" then usual else s
  | none => usual

/-- The value of a variable; of several, the last. -/
def lookup? (env : List (String × String)) (name : String) : Option String :=
  (env.reverse.find? (·.1 = name)).map (·.2)

/--
The text in lower case, for comparison with words in lower case that have no `k`: no character
outside ASCII is turned into one of their letters.
-/
def lowered (s : String) : String :=
  String.ofList (s.toList.map Char.toLower)

/-- The variables that count. -/
def names : List String :=
  ["ARCHKIT_TEMPLATES_PATH", "ARCHKIT_SOURCE_MARKER", "ARCHKIT_SOURCE_ENCODING",
    "ARCHKIT_INTERPOLATION", "ARCHKIT_DEFAULT_TEMPLATE", "LLM_PROVIDER", "ANTHROPIC_API_KEY",
    "OPENROUTER_API_KEY", "OPENROUTER_MODEL", "MODEL_NAME", "MAX_TOKENS", "LOG_LEVEL", "DEBUG"]

/-- The policy that a variable names, blanks and case aside; the strict one unless it names one. -/
def policyName (value : String) : String :=
  let name := lowered (String.ofList (Search.trim Text.isWhiteSpace value.toList))
  if (Literal.Interpolation.named? name).isSome then name else "strict"

/-- The settings that an environment gives. The limit on tokens has to be an integer. -/
def ofEnvironment (env : List (String × String)) : Except Integer.ReadError Settings := do
  let get (name fallback : String) : String := (lookup? env name).getD fallback
  let usual : Settings := {}
  let maxTokens ← match lookup? env "MAX_TOKENS" with
    | none => pure usual.maxTokens
    | some text => Integer.read 10 text.toList
  return {
    templatesPath := ((lookup? env "ARCHKIT_TEMPLATES_PATH").map Path.ofString).getD
      usual.templatesPath
    sourceMarker := get "ARCHKIT_SOURCE_MARKER" usual.sourceMarker
    sourceEncoding := get "ARCHKIT_SOURCE_ENCODING" usual.sourceEncoding
    interpolation := policyName (get "ARCHKIT_INTERPOLATION" usual.interpolation)
    defaultTemplate := get "ARCHKIT_DEFAULT_TEMPLATE" usual.defaultTemplate
    provider := get "LLM_PROVIDER" usual.provider
    anthropicKey := lookup? env "ANTHROPIC_API_KEY"
    openRouterKey := lookup? env "OPENROUTER_API_KEY"
    openRouterModel := get "OPENROUTER_MODEL" usual.openRouterModel
    modelName := get "MODEL_NAME" usual.modelName
    maxTokens
    logLevel := get "LOG_LEVEL" usual.logLevel
    debug := lowered (get "DEBUG" "false") = "true" }

end Settings

end PromptLibrary
