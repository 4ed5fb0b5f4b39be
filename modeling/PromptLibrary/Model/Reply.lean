import PromptLibrary.Json.Bytes
import PromptLibrary.Json.Reader
import PromptLibrary.Model.Http
import PromptLibrary.Value.Display
import PromptLibrary.Value.Order
/-!
# Replies of models

What a model answers to a prompt, and the ways in which a service may fail to answer.
-/

namespace PromptLibrary.Model

/-- The answer of a model, its parts as the service gives them. -/
structure Reply where
  text : Value
  model : Value
  stopReason : Value
  usage : Option (Mapping Value)

/-- Why a call of a service failed. -/
inductive CallError where
  | http (e : HttpError)
  /-- The body of a reply is not text in the encoding that it seems to have. -/
  | undecodable (fault : Encoding.Fault)
  /-- The body of a reply cannot be read as JSON. -/
  | unreadable (body : Text) (failure : Json.Failure)
  | noChoices (shown : Text)
  /-- A member is asked of a value that has none. -/
  | noMembers (kind : Kind)
  /-- The first item is asked of a value that has no items. -/
  | noItems (kind : Kind)
  /-- The first item is asked of an object. -/
  | noFirstItem
  /-- Items are asked one by one of a value that has none. -/
  | notIterable (kind : Kind)
  /-- A text is looked for in a value that holds none. -/
  | notSearchable (kind : Kind)
  /-- Something other than a text is looked for in a text. -/
  | notPartOfText (kind : Kind)
  /-- A value that cannot be a key is looked for in an object. -/
  | notKey (kind : Kind)
  /-- Between values of two kinds there is no order. -/
  | unordered (pair : Value.Unordered)
  /-- A block has no text, or a text that is no string. -/
  | blockWithoutText
  | blockNotText (index : Nat) (kind : Kind)
  /-- The service is not within reach. -/
  | unreachable
  deriving DecidableEq, Repr

def CallError.message : CallError → Text
  | http e => Text.ofString e.message
  | undecodable fault => Text.ofString fault.message
  | unreadable body failure => Text.ofString (failure.message body)
  | noChoices shown => Text.ofString "OpenRouter returned no choices: " ++ shown
  | noMembers kind => Text.ofString s!"'{kind.storedName}' object has no attribute 'get'"
  | noItems kind => Text.ofString s!"'{kind.storedName}' object is not subscriptable"
  | noFirstItem => Text.ofString "0"
  | notIterable kind => Text.ofString s!"'{kind.storedName}' object is not iterable"
  | notSearchable kind =>
    Text.ofString s!"argument of type '{kind.storedName}' is not iterable"
  | notPartOfText kind => Text.ofString
    s!"'in <string>' requires string as left operand, not {kind.storedName}"
  | notKey kind => Text.ofString s!"unhashable type: '{kind.storedName}'"
  | unordered ⟨left, right⟩ => Text.ofString
    s!"'<' not supported between instances of '{left.storedName}' and '{right.storedName}'"
  | blockWithoutText => Text.ofString "'TextBlock' object has no attribute 'text'"
  | blockNotText index kind =>
    Text.ofString s!"sequence item {index}: expected str instance, {kind.storedName} found"
  | unreachable => Text.ofString "Connection error."

/-- The document in the body of a reply. -/
def readBody (body : String) : Except CallError Value := do
  let text ← (Json.textOf (Encoding.Utf8.encode body.toList)).mapError .undecodable
  (Json.readDocument text).mapError (.unreadable text)

/-- A member of an object, if the object has it. -/
def member? (v : Value) (name : String) : Except CallError (Option Value) :=
  match v with
  | .object members => .ok (Mapping.get? (Text.ofString name) members)
  | _ => .error (.noMembers v.kind)

/-- A member of an object, or `null`. -/
def memberOrNull (v : Value) (name : String) : Except CallError Value :=
  (member? v name).map (·.getD .null)

end PromptLibrary.Model
