import PromptLibrary.Command.Assignment
import PromptLibrary.Command.Console
import PromptLibrary.Command.Request
import PromptLibrary.Template.Placeholder
/-!
# Running requests

What each command prints, asks and changes, and its exit code.
-/

namespace PromptLibrary.Command

/-- What a command is given from outside. -/
structure Environment where
  settings : Settings := {}
  files : FileSystem
  /-- The time at which analyses are made. -/
  now : Text

/-! ## Converting -/

/-- The name under which a failed conversion is reported. -/
def reportName : ConvertError → String
  | .unknownPolicy _ => "ValueError"
  | .unknownEncoding _ => "LookupError"
  | .inputNotFound _ => "FileNotFoundError"
  | .file e => e.cause.reportName
  | .undecodable (.malformed _ _ _) => "UnicodeDecodeError"
  | .undecodable .noByteOrderMark => "UnicodeError"
  | .extraction (.markerNotFound _) => "MarkerNotFoundError"
  | .extraction (.assignmentNotFound _ _) => "AssignmentNotFoundError"
  | .extraction (.objectNotFound _) => "ObjectLiteralNotFoundError"
  | .extraction (.unbalanced _ _ _) => "UnbalancedDelimitersError"
  | .evaluation (.refused _ _) => "EvaluationError"
  | .evaluation .tooManyDigits => "ValueError"
  | .evaluation .codePointTooLarge => "OverflowError"
  | .unencodable => "UnicodeEncodeError"

/-- Whether the user is told about a failed conversion; else the command is broken off. -/
def isReported : ConvertError → Bool
  | .unknownPolicy _ => false
  | .unknownEncoding _ => false
  | .file ⟨.nullCharacter, _⟩ => false
  | .evaluation .tooManyDigits => false
  | .evaluation .codePointTooLarge => false
  | _ => true

/-- Whether a failure lies in the text of the source. -/
def isAboutSource : ConvertError → Bool
  | .extraction _ => true
  | .evaluation _ => true
  | _ => false

/-- How a failure is reported: under its name, but for a missing file, which needs none. -/
def convertReport (e : ConvertError) : Text :=
  if reportName e = "FileNotFoundError" then Text.ofString e.message
  else Text.ofString s!"{reportName e}: {e.message}"

/-- What helps if a template was refused for an interpolation. -/
def interpolationAdvice : Text := Text.ofString <|
  "Templates that use $\x7b...\x7d referencing outside values cannot be " ++
    "evaluated; retry with --interpolation literal to keep them as text."

def runConvert (env : Environment) (templates : Option Path) (r : ConvertRequest) : Run Nat := do
  let output := (r.output.or templates).getD env.settings.templatesPath
  let options : ConvertOptions := { marker := r.marker, interpolation := r.interpolation }
  match ← changeFiles (Conversion.convert env.files env.settings options r.input output) with
  | .ok found =>
    printString s!"Converted {found.length} templates: {output.text}"
    return 0
  | .error e =>
    if isReported e then
      let code ← failWith (convertReport e)
      if isAboutSource e ∧ Search.occurs "interpolation".toList e.message.toList then
        complain interpolationAdvice
      return code
    else throw (.convert e)

/-! ## Listing and rendering -/

/-- The store that the request or the settings name. -/
def storeOf (env : Environment) (templates : Option Path) : Store :=
  { path := templates.getD env.settings.templatesPath }

/-- Tells about a store that cannot be loaded, if that is told. -/
def failLoad (e : LoadError) : Run Nat :=
  if e.isTold then failWith e.message else throw (.load e)

/-- What a template takes: the input, and its variables with their options. -/
def details (body : Text) : List Text :=
  (if Template.usesInput body then [Text.ofString "INPUT"] else []) ++
    (Template.variableOptions body).map fun (name, options) =>
      name ++ .char '=' :: Search.joinWith [.char '|'] options

/-- The line that lists a template. -/
def listLine (key body : Text) : Text :=
  let shown := match details body with
    | [] => []
    | ds => Text.ofString "  [" ++ Search.joinWith (Text.ofString ", ") ds ++ [.char ']']
  Text.ofString "  " ++ key ++ shown

def runList (env : Environment) (templates : Option Path) : Run Nat := do
  match ((storeOf env templates).load (← get).tree).1 with
  | .error e => failLoad e
  | .ok stored =>
    printString s!"{stored.length} templates available:"
    for (key, body) in stored do
      print (listLine key body)
    return 0

/-- Variables as they are given to a template. -/
def renderVariables (pairs : Mapping Text) (input : Option Text) : Mapping Value :=
  let given := pairs.map fun (name, value) => (name, Value.string value)
  match input with
  | none => given
  | some t => Mapping.put Template.inputName (.string t) given

def runRender (env : Environment) (templates : Option Path) (key : Text) (input : Option Text)
    (pairs : Mapping Text) : Run Nat := do
  let values := renderVariables pairs input
  match ((storeOf env templates).render (← get).tree key values).1 with
  | .ok prompt =>
    print prompt
    return 0
  | .error (.load e) => failLoad e
  | .error (.notFound k) => failWith (LookupError.notFound k).message

/-! ## Analysing -/

/-- The line between the parts of an output. -/
def ruler : Text :=
  Text.ofChars (List.replicate 40 '=')

def cancelled : Run Nat := do
  printString "Operation cancelled."
  return 0

/-- Shows the menu and asks for a template. -/
def askTemplate (keys : List Text) : Run (Option Text) := do
  for line in Menu.lines keys do
    print line
  let answer := Menu.ask keys (← get).lines
  modify fun w => { w with lines := answer.rest }
  for _ in List.range answer.refused do
    print (Menu.question ++ Menu.advice keys)
  write Menu.question
  match answer.key with
  | .ok (some key) => return some key
  | .ok none =>
    noteEnd
    return none
  | .error e => throw (.choice e)

/-- The client of a provider. A service that takes no plain requests is out of reach. -/
def clientOf : Model.Provider → Client Model.Exchange
  | .openRouter account => fun prompt model maxTokens => do
    match ← (account.generate prompt model maxTokens).run with
    | .ok reply => return .ok reply
    | .error e => return .error e.message
  | .anthropic _ => fun _ _ _ => return .error Model.CallError.unreachable.message

/-- The client that a request wants. -/
def wantedClient (settings : Settings) (send : Bool) :
    Except Text (Option (Client Model.Exchange)) :=
  if ¬ send then .ok none
  else match Model.providerOf settings with
    | .error e => .error (Text.ofString e.message)
    | .ok none => .error (Text.ofString "--send requires LLM_PROVIDER to be set")
    | .ok (some provider) => .ok (some (clientOf provider))

/-- Prints what came of an analysis. -/
def printResult (env : Environment) (key : Text) (e : Envelope) : Run Nat := do
  printString ""
  print ruler
  print (Text.ofString "RESULT (" ++ key ++ Text.ofString "):")
  print ruler
  print ((e.response.or e.prompt).getD (Text.ofString "None"))
  print ruler
  if env.settings.debug then print (Json.write e.toValue)
  printString "Analysis complete."
  return 0

/-- Analyses a text with a template that is chosen. -/
def runAnalysis (env : Environment) (store : Store) (key input : Text) (pairs : Mapping Text)
    (send : Bool) : Run Nat := do
  match wantedClient env.settings send with
  | .error message => failWith message
  | .ok client =>
    print (Text.ofString "Analyzing with template: " ++ key ++ Text.ofString "...")
    let tree := (← get).tree
    let inquiry : Inquiry := { key, values := renderVariables pairs (some input) }
    let (result, _) ← useService
      (Analysis.analyze env.settings env.now tree store inquiry client)
    match result with
    | .error (.load e) => throw (.load e)
    | .error .invalid => throw .invalidEnvelope
    | .ok e =>
      if e.success then printResult env key e else failWith (e.error.getD (Text.ofString "None"))

/-- Asks for the text to analyse unless it is given. -/
def withInput (input : Option Text) (next : Text → Run Nat) : Run Nat :=
  match input with
  | some t => next t
  | none => do
    match ← askLine (Text.ofString "Enter text to analyze: ") with
    | some line => next (Text.ofChars line)
    | none => cancelled

def runAnalyze (env : Environment) (templates : Option Path) (template input : Option Text)
    (pairs : Mapping Text) (send : Bool) : Run Nat := do
  let store := storeOf env templates
  printString "Arch Analysis Tool"
  print ruler
  let finish (store : Store) (key : Text) : Run Nat :=
    withInput input fun text => runAnalysis env store key text pairs send
  match template with
  | some (p :: key) => finish store (p :: key)
  | _ =>
    let (keys, loaded) := store.keys (← get).tree
    match keys with
    | .error e => failLoad e
    | .ok keys =>
      match ← askTemplate keys with
      | none => cancelled
      | some key => finish loaded key

/-! ## Listing models -/

/-- What the ids have to hold: a text, or else an array without items. -/
def wantedPart (part : Option Text) : Value :=
  (part.map .string).getD (.array [])

def runModels (env : Environment) (part : Option Text) : Run Nat := do
  match Model.usableKey? env.settings.openRouterKey with
  | none => failWith (Text.ofString "OPENROUTER_API_KEY is not set")
  | some key =>
    let account : Model.OpenRouter := { key }
    match ← useService (account.listModels (wantedPart part)).run with
    | .error (.http e) =>
      if e.isOfExchange then failWith (Text.ofString s!"could not list models: {e.message}")
      else throw (.call (.http e))
    | .error e => throw (.call e)
    | .ok [] =>
      printString "No models found."
      return 0
    | .ok models =>
      for m in models do
        print m.display
      return 0

/-! ## Command lines -/

/-- The paths that a request is about. -/
def Request.paths (r : Request) (settings : Settings) : List Path :=
  let stored := r.templates.getD settings.templatesPath
  match r.command with
  | some (.convert c) => [c.input, c.output.getD stored]
  | some (.models _) => []
  | some _ => [stored]
  | none => []

/-- What came of a command line. -/
inductive Outcome where
  /-- Help was asked for. -/
  | help
  | badUsage
  /-- No command was given. -/
  | usage
  | exit (code : Nat)
  | crash (e : Crash)
  deriving DecidableEq, Repr

/--
Runs a command of which the variables are to be read from pairs. The pairs count up to one that is
missing, which breaks the command off.
-/
def withPairs (pairs : List (Option String)) (next : Mapping Text → Run Outcome) :
    Run Outcome :=
  match assignments (((pairs.takeWhile Option.isSome).filterMap id).map Text.ofString) with
  | .error _ => return .badUsage
  | .ok m => if pairs.all Option.isSome then next m else throw .missingPair

/-- Runs a command. -/
def runCommand (env : Environment) (templates : Option Path) : Subcommand → Run Outcome
  | .convert r => .exit <$> runConvert env templates r
  | .list => .exit <$> runList env templates
  | .render r => withPairs r.pairs fun pairs =>
    .exit <$> runRender env templates (Text.ofString r.template) (r.input.map Text.ofString) pairs
  | .analyze r => withPairs r.pairs fun pairs =>
    .exit <$> runAnalyze env templates (r.template.map Text.ofString) (r.input.map Text.ofString)
      pairs r.send
  | .models r => .exit <$> runModels env (r.part.map Text.ofString)

/-- Runs a command line. -/
def runArguments (env : Environment) (args : List String) : StateM World Outcome := do
  match Request.ofArguments args with
  | .error .help => return .help
  | .error .badUsage => return .badUsage
  | .ok request =>
    match request.command with
    | none => return .usage
    | some command =>
      match ← (runCommand env request.templates command).run with
      | .ok outcome => return outcome
      | .error e => return .crash e

end PromptLibrary.Command
