import PromptLibrary.Model.Reply
import PromptLibrary.Text.Search
import PromptLibrary.Value.Sorting
/-!
# The OpenRouter service

Prompts are sent as a chat of one message; the models that an account may use can be listed.
Replies are taken as they come: a member of an unexpected kind fails where it is used.
-/

namespace PromptLibrary.Model

/-- An account of the service. -/
structure OpenRouter where
  key : String
  baseUrl : String := "https://openrouter.ai/api/v1"
  deriving DecidableEq, Repr

namespace OpenRouter

def headers (account : OpenRouter) : List (String × String) :=
  [("Authorization", s!"Bearer {account.key}"), ("Content-Type", "application/json"),
    ("X-Title", "archkit")]

/-- The request that sends a prompt. -/
def promptRequest (account : OpenRouter) (prompt : Text) (model : String) (maxTokens : Int) :
    HttpRequest where
  method := "POST"
  url := s!"{account.baseUrl}/chat/completions"
  headers := account.headers
  payload := some <| .object
    [(Text.ofString "model", .string (Text.ofString model)),
      (Text.ofString "messages", .array [.object
        [(Text.ofString "role", .string (Text.ofString "user")),
          (Text.ofString "content", .string prompt)]]),
      (Text.ofString "max_tokens", .int maxTokens)]

/-- The first of some items. -/
def firstItem (v : Value) : Except CallError Value :=
  match v with
  | .array (first :: _) => .ok first
  | .array [] => .error (.noItems .array)
  | .string (p :: _) => .ok (.string [p])
  | .string [] => .error (.noItems .string)
  | .object _ => .error .noFirstItem
  | _ => .error (.noItems v.kind)

/-- The counts of tokens in a reply, where there are any. -/
def usageOf (usage : Value) : Except CallError (Option (Mapping Value)) :=
  if usage.isNothing then .ok none
  else do
    let input := (← member? usage "prompt_tokens").getD (.int 0)
    let output := (← member? usage "completion_tokens").getD (.int 0)
    return some [(Text.ofString "input_tokens", input), (Text.ofString "output_tokens", output)]

/-- The reply that a document holds: its first choice counts. -/
def replyOf (document : Value) (model : String) : Except CallError Reply := do
  let choices ← memberOrNull document "choices"
  if choices.isNothing then
    let shown := (← member? document "error").getD document
    throw (.noChoices shown.display)
  let choice ← firstItem choices
  let message := (← member? choice "message").getD (.object [])
  let usage ← memberOrNull document "usage"
  let content ← memberOrNull message "content"
  let text := if content.isNothing then .string [] else content
  let used := (← member? document "model").getD (.string (Text.ofString model))
  let stopReason ← memberOrNull choice "finish_reason"
  return ⟨text, used, stopReason, ← usageOf usage⟩

/-- Sends a prompt and takes the reply. -/
def generate (account : OpenRouter) (prompt : Text) (model : String) (maxTokens : Int) :
    ExceptT CallError (StateM Exchange) Reply := do
  let body ← (Exchange.send 60 (account.promptRequest prompt model maxTokens)).adapt .http
  let document ← readBody body
  replyOf document model

/-! ## Models -/

/-- The ids among the entries of a listing. -/
def idsOf (document : Value) : Except CallError (List Value) := do
  let data := (← member? document "data").getD (.array [])
  let entries ← match data with
    | .array items => pure items
    | .object members => pure (members.map fun (key, _) => .string key)
    | .string t => pure (t.map fun p => .string [p])
    | _ => throw (.notIterable data.kind)
  entries.mapM (memberOrNull · "id")

/-- Whether an id holds a value: as a part of a string, or as an item or key. -/
def holds (part id : Value) : Except CallError Bool :=
  match id, part with
  | .string t, .string p => .ok (Search.occurs p t)
  | .string _, _ => .error (.notPartOfText part.kind)
  | .array items, _ => .ok (items.any (part.same ·))
  | .object members, .string p => .ok (members.any (·.1 = p))
  | .object _, .array _ => .error (.notKey .array)
  | .object _, .object _ => .error (.notKey .object)
  | .object _, _ => .ok false
  | _, _ => .error (.notSearchable id.kind)

/-- The ids that count and hold a value, in their order in the listing. -/
def selected (part : Value) : List Value → Except CallError (List Value)
  | [] => .ok []
  | id :: rest =>
    if id.isNothing then selected part rest
    else do
      let found ← holds part id
      let more ← selected part rest
      return if found then id :: more else more

/-- The text of an id, if it is a string. -/
def idText? : Value → Option Text
  | .string t => some t
  | _ => none

/-- Ids in ascending order. There has to be an order between any two of them. -/
def sorted (ids : List Value) : Except CallError (List Value) :=
  match ids.mapM idText? with
  | some texts => .ok ((texts.mergeSort Text.le).map .string)
  | none => (Sorting.sort Value.before ids).mapError .unordered

/-- The ids of a listing that hold a value, in ascending order. -/
def modelsOf (document part : Value) : Except CallError (List Value) := do
  sorted (← selected part (← idsOf document))

def listRequest (account : OpenRouter) : HttpRequest where
  method := "GET"
  url := s!"{account.baseUrl}/models"
  headers := account.headers
  payload := none

/-- Lists the models of which the id holds a value. -/
def listModels (account : OpenRouter) (part : Value) :
    ExceptT CallError (StateM Exchange) (List Value) := do
  let body ← (Exchange.send 30 account.listRequest).adapt .http
  let document ← readBody body
  modelsOf document part

end OpenRouter

end PromptLibrary.Model
