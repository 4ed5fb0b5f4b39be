import PromptLibrary.Model.Reply
/-!
# The Anthropic service

A reply comes in blocks; the text of the reply is that of its text blocks, one after the other.
-/

namespace PromptLibrary.Model.Anthropic

/-- What is sent for a prompt. -/
structure Request where
  model : String
  maxTokens : Int
  prompt : Text
  deriving DecidableEq, Repr

/-- What comes back: blocks, each with the attributes that it has, and counts of tokens. -/
structure Message where
  content : List (Mapping Value)
  stopReason : Value
  inputTokens : Value
  outputTokens : Value

/-- Whether a block holds text. -/
def isText (block : Mapping Value) : Bool :=
  match block.get? (Text.ofString "type") with
  | some (.string t) => t = Text.ofString "text"
  | _ => false

/-- The text of each block that holds text. -/
def textsOf : List (Mapping Value) → Except CallError (List Value)
  | [] => .ok []
  | block :: rest =>
    if isText block then
      match block.get? (Text.ofString "text") with
      | none => .error .blockWithoutText
      | some v => (textsOf rest).map (v :: ·)
    else textsOf rest

/-- Texts one after the other; `index` is the number of the first. -/
def joinTexts (index : Nat) : List Value → Except CallError Text
  | [] => .ok []
  | .string t :: rest => (joinTexts (index + 1) rest).map (t ++ ·)
  | v :: _ => .error (.blockNotText index v.kind)

/-- The reply that a message holds. -/
def replyOf (message : Message) (model : String) : Except CallError Reply := do
  let text ← joinTexts 0 (← textsOf message.content)
  return ⟨.string text, .string (Text.ofString model), message.stopReason,
    some [(Text.ofString "input_tokens", message.inputTokens),
      (Text.ofString "output_tokens", message.outputTokens)]⟩

end PromptLibrary.Model.Anthropic
