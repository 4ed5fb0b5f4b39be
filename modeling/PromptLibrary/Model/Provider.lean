import PromptLibrary.Model.OpenRouter
import PromptLibrary.Settings
/-!
# Choosing a service

The settings name the service to use, its key and its model.
-/

namespace PromptLibrary.Model

/-- A service with what is needed to use it. -/
inductive Provider where
  | anthropic (key : String)
  | openRouter (account : OpenRouter)
  deriving DecidableEq, Repr

/-- Why no service can be used. -/
inductive ProviderError where
  | noAnthropicKey
  | noOpenRouterKey
  | unknown (name : String)
  deriving DecidableEq, Repr

def ProviderError.message : ProviderError → String
  | noAnthropicKey => "ANTHROPIC_API_KEY is required when LLM_PROVIDER=anthropic"
  | noOpenRouterKey => "OPENROUTER_API_KEY is required when LLM_PROVIDER=openrouter"
  | unknown name => s!"Unknown LLM provider: {name}"

/-- A key that is there and not empty. -/
def usableKey? (key : Option String) : Option String :=
  key.filter (· ≠ "")

/-- The service that the settings name; none if it is turned off. -/
def providerOf (settings : Settings) : Except ProviderError (Option Provider) :=
  let name := Settings.lowered settings.provider
  if name = "" ∨ name = "none" then .ok none
  else if name = "anthropic" then
    match usableKey? settings.anthropicKey with
    | some key => .ok (some (.anthropic key))
    | none => .error .noAnthropicKey
  else if name = "openrouter" then
    match usableKey? settings.openRouterKey with
    | some key => .ok (some (.openRouter { key }))
    | none => .error .noOpenRouterKey
  else .error (.unknown settings.provider)

/-- The model that goes with the service. -/
def modelOf (settings : Settings) : String :=
  if Settings.lowered settings.provider = "openrouter" then settings.openRouterModel
  else settings.modelName

end PromptLibrary.Model
