/-!
# Setting keys

The settings that the assistant reads.
-/

namespace ChatAssistant.Settings

inductive Key
  | apiKey
  | provider
  | model
  | temperature
  | maxTokens
  | showTokenUsage
  | endpoint
  deriving DecidableEq

namespace Key

/-- All keys, in the order in which they are listed. -/
def all : List Key :=
  [apiKey, provider, model, temperature, maxTokens, showTokenUsage, endpoint]

def name : Key → String
  | apiKey => "ai.apiKey"
  | provider => "ai.provider"
  | model => "ai.model"
  | temperature => "ai.temperature"
  | maxTokens => "ai.maxTokens"
  | showTokenUsage => "ai.showTokenUsage"
  | endpoint => "ai.endpoint"

/-- The names of all keys, in the same order. -/
def names : List String := all.map name

end Key

end ChatAssistant.Settings
