import PromptLibrary.Model.Provider
import PromptLibrary.Store
/-!
# Analyses

An analysis renders a template and, if there is a client, sends the prompt to it. What came of it
is told by an envelope, so that a caller looks at one flag and handles no errors.
-/

namespace PromptLibrary

/-- What came of an analysis. -/
structure Envelope where
  success : Bool
  templateKey : Text
  prompt : Option Text := none
  response : Option Text := none
  error : Option Text := none
  metadata : Mapping Value := []

/-- The envelope as a value. -/
def Envelope.toValue (e : Envelope) : Value :=
  let text (t : Option Text) : Value := (t.map Value.string).getD .null
  .object [(Text.ofString "success", .bool e.success),
    (Text.ofString "template_key", .string e.templateKey), (Text.ofString "prompt", text e.prompt),
    (Text.ofString "response", text e.response), (Text.ofString "error", text e.error),
    (Text.ofString "metadata", .object e.metadata)]

/-- Why an analysis ended without an envelope. -/
inductive AnalysisError where
  /-- The file of the store could not be read at all. -/
  | load (e : LoadError)
  /-- The response is no text. -/
  | invalid
  deriving DecidableEq, Repr

/-- Whether a load error says that there are no templates to be had from the file. -/
def LoadError.isTold : LoadError → Bool
  | notFound _ => true
  | corrupt _ _ => true
  | _ => false

/-- A service that takes a prompt, a model and a limit on tokens. It may change a state. -/
abbrev Client (σ : Type) := Text → String → Int → StateM σ (Except Text Model.Reply)

/-- What is to be analysed, and how. -/
structure Inquiry where
  key : Text
  /-- The values of the template's variables. -/
  values : Mapping Value := []
  /-- The model to use; the one that goes with the service if missing or empty. -/
  model : Option String := none
  /-- The most tokens in the answer; what is set if missing or zero. -/
  maxTokens : Option Int := none

namespace Inquiry

def modelOr (q : Inquiry) (settings : Settings) : String :=
  Settings.orUsual q.model (Model.modelOf settings)

def maxTokensOr (q : Inquiry) (settings : Settings) : Int :=
  match q.maxTokens with
  | some n => if n = 0 then settings.maxTokens else n
  | none => settings.maxTokens

end Inquiry

namespace Analysis

/-- The envelope of a template that could not be rendered. -/
def unavailable (key message : Text) : Envelope :=
  { success := false, templateKey := key, error := some message }

/-- The time of an analysis, the first of its metadata. -/
def produced (now : Text) : Mapping Value :=
  [(Text.ofString "produced_at", .string now)]

/-- The envelope of a prompt that was not sent. -/
def rendered (now key prompt : Text) : Envelope :=
  { success := true, templateKey := key, prompt := some prompt, metadata := produced now }

/-- The envelope of a prompt that was not answered. -/
def unanswered (now key prompt message : Text) : Envelope :=
  { success := false, templateKey := key, prompt := some prompt,
    error := some (Text.ofString "LLM call failed: " ++ message), metadata := produced now }

/-- What the metadata says about a reply: its model, and its usage if there is any. -/
def replyMetadata (reply : Model.Reply) : Mapping Value :=
  (Text.ofString "model", reply.model) ::
    match reply.usage with
    | none => []
    | some [] => []
    | some usage => [(Text.ofString "usage", .object usage)]

/-- The envelope of a reply; the text of the reply has to be a text or missing. -/
def answered (now key prompt : Text) (reply : Model.Reply) : Except AnalysisError Envelope :=
  let withResponse (response : Option Text) : Envelope :=
    { success := true, templateKey := key, prompt := some prompt, response,
      metadata := produced now ++ replyMetadata reply }
  match reply.text with
  | .null => .ok (withResponse none)
  | .string t => .ok (withResponse (some t))
  | _ => .error .invalid

/-- The envelope of a prompt that a client gets. -/
def send {σ : Type} (settings : Settings) (now : Text) (q : Inquiry) (client : Client σ)
    (prompt : Text) : StateM σ (Except AnalysisError Envelope) := do
  match ← client prompt (q.modelOr settings) (q.maxTokensOr settings) with
  | .ok reply => return answered now q.key prompt reply
  | .error message => return .ok (unanswered now q.key prompt message)

/-- Analyses a template of a store; the store comes back with what it has loaded. -/
def analyze {σ : Type} (settings : Settings) (now : Text) (tree : Tree) (store : Store)
    (q : Inquiry) (client : Option (Client σ)) :
    StateM σ (Except AnalysisError Envelope × Store) := do
  let (result, after) := store.render tree q.key q.values
  match result with
  | .error (.load e) =>
    if e.isTold then return (.ok (unavailable q.key e.message), after)
    else return (.error (.load e), after)
  | .error (.notFound key) =>
    return (.ok (unavailable q.key (LookupError.notFound key).message), after)
  | .ok prompt =>
    match client with
    | none => return (.ok (rendered now q.key prompt), after)
    | some c => return (← send settings now q c prompt, after)

/-- An inquiry about one text, which takes the place of each input marker. -/
def textInquiry (key input : Text) (model : Option String) : Inquiry where
  key
  values := [(Template.inputName, .string input)]
  model

end Analysis

end PromptLibrary
