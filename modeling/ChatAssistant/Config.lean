import ChatAssistant.Catalogue
import ChatAssistant.Number.Decimal
import ChatAssistant.Number.Layout
import ChatAssistant.Text.Quoted

/-!
# The configuration

The parameters of requests to the gateway, and what is set directly in a session.
-/

namespace ChatAssistant

open ChatAssistant.Number

structure Config where
  apiKey : String
  provider : Provider
  model : String
  temperature : Finite single
  maxTokens : Nat
  showTokenUsage : Bool
  endpoint : String
  deriving DecidableEq

namespace Config

def defaultEndpoint : String := "https://openrouter.ai/api/v1/chat/completions"

/-- The nearest value to `num / den`. -/
def singleOf (num den : Nat) : Finite single :=
  (Finite.ofRatio? single false num den).getD (Finite.zero single false)

def minTemperature : Finite single := singleOf 0 1

def maxTemperature : Finite single := singleOf 2 1

def minTokens : Nat := 100

def maxTokenLimit : Nat := 32000

/-- The configuration of a session without settings. -/
def default : Config where
  apiKey := ""
  provider := .openAI
  model := Catalogue.resolve "gpt-4"
  temperature := singleOf 7 10
  maxTokens := 2000
  showTokenUsage := true
  endpoint := defaultEndpoint

/-- There is a key to send; a blank one counts as none. -/
def hasApiKey (c : Config) : Bool := !Text.isBlankText c.apiKey

/-- A temperature within its bounds; what is no number leaves the old one. -/
def clampTemperature (t : Extended single) (old : Finite single) : Finite single :=
  (t.clamp? minTemperature maxTemperature).getD old

/-- A token limit within its bounds. -/
def clampTokens (n : Nat) : Nat := min maxTokenLimit (max minTokens n)

/-! ## Direct settings -/

def setApiKey (key : String) (c : Config) : Config := { c with apiKey := key }

/-- Switches to a provider and to the model that it starts out with, if it has one. -/
def setProvider (provider : Provider) (c : Config) : Config :=
  { c with provider, model := (Catalogue.defaultFor provider).getD c.model }

/-- Switches to a model by alias or identifier; a blank text changes nothing. -/
def setModel (aliasOrId : String) (c : Config) : Config :=
  if Text.isBlankText aliasOrId then c else { c with model := Catalogue.resolve aliasOrId }

def setTemperature (t : Extended single) (c : Config) : Config :=
  { c with temperature := clampTemperature t c.temperature }

def setMaxTokens (n : Nat) (c : Config) : Config :=
  { c with maxTokens := clampTokens n }

def setShowTokenUsage (enabled : Bool) (c : Config) : Config :=
  { c with showTokenUsage := enabled }

def setEndpoint (endpoint : String) (c : Config) : Config := { c with endpoint }

/-! ## Diagnostics -/

/-- Temperatures from `1e-4` to below `1e16` stand with their point in place. -/
def diagnosticLayout : Layout := ⟨fun k => -3 ≤ k && k ≤ 16, true, false⟩

/-- The configuration for diagnostics.  It says whether there is a key, and never which. -/
def diagnostic (c : Config) : String :=
  let apiKey := if c.hasApiKey then "<redacted>" else "<unset>"
  String.join
    ["AiConfig \x7b api_key: ", Text.quoted apiKey, ", provider: ", c.provider.diagnosticName,
     ", model: ", Text.quoted c.model, ", temperature: ", diagnosticLayout.write c.temperature,
     ", max_tokens: ", toString c.maxTokens,
     ", show_token_usage: ", if c.showTokenUsage then "true" else "false",
     ", endpoint: ", Text.quoted c.endpoint, " \x7d"]

end Config

end ChatAssistant
