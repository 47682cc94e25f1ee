import ChatAssistant.Config
import ChatAssistant.Json.Printer
import ChatAssistant.Log
import ChatAssistant.Settings.Change

/-!
# Reading settings into the configuration

A change makes the configuration read the settings of the keys it affects, each on its own: what it
does to a parameter depends on that parameter's setting and old value only.
-/

namespace ChatAssistant

open ChatAssistant.Number

namespace Settings

/-- Where settings are read: the value under a key, if there is one. -/
abbrev Source := String → Option Json.Value

/-- The text under a key, without blanks around it. -/
def text? (source : Source) (key : Key) : Option String :=
  ((source key.name).bind Json.Value.toString?).map Text.trim

/-- The count that a value states: an integer, or a double that is not negative, rounded. -/
def count? : Json.Value → Option Nat
  | .number n =>
    match n.toCount? with
    | some count => some count
    | none =>
      match n.toDouble with
      | .finite x => if x.negative && !x.isZero then none else some x.roundMagnitude
      | _ => none
  | _ => none

end Settings

namespace Config

open Settings

/-! ## Single parameters -/

/-- The key: without a setting it is cleared, and a number is taken by its text. -/
def apiKeyFrom (source : Source) (old : String) : String :=
  match source Key.apiKey.name with
  | none => ""
  | some .null => ""
  | some (.string key) => Text.trim key
  | some (.number n) => n.toText
  | some _ => old

/-- The provider that the setting names; a name that is none changes nothing. -/
def providerFrom (source : Source) (old : Provider) : Provider :=
  match (text? source .provider).map Provider.parse with
  | some (.ok provider) => provider
  | _ => old

def modelFrom (source : Source) (old : String) : String :=
  match text? source .model with
  | some model => if model.isEmpty then old else Catalogue.resolve model
  | none => old

def temperatureFrom (source : Source) (old : Finite single) : Finite single :=
  match (source Key.temperature.name).bind Json.Value.toDouble? with
  | some t => clampTemperature (t.convert single) old
  | none => old

def maxTokensFrom (source : Source) (old : Nat) : Nat :=
  match (source Key.maxTokens.name).bind count? with
  | some n => clampTokens n
  | none => old

def showTokenUsageFrom (source : Source) (old : Bool) : Bool :=
  ((source Key.showTokenUsage.name).bind Json.Value.toBool?).getD old

/-- The endpoint; without a setting it is the default one. -/
def endpointFrom (source : Source) : String :=
  match text? source .endpoint with
  | some endpoint => if endpoint.isEmpty then defaultEndpoint else endpoint
  | none => defaultEndpoint

/-! ## All affected parameters -/

/-- Reads the settings that a change affects. -/
def refresh (change : Change) (source : Source) (c : Config) : Config where
  apiKey := if change.affects Key.apiKey.name then apiKeyFrom source c.apiKey else c.apiKey
  provider :=
    if change.affects Key.provider.name then providerFrom source c.provider else c.provider
  model := if change.affects Key.model.name then modelFrom source c.model else c.model
  temperature :=
    if change.affects Key.temperature.name then temperatureFrom source c.temperature
    else c.temperature
  maxTokens :=
    if change.affects Key.maxTokens.name then maxTokensFrom source c.maxTokens else c.maxTokens
  showTokenUsage :=
    if change.affects Key.showTokenUsage.name then showTokenUsageFrom source c.showTokenUsage
    else c.showTokenUsage
  endpoint := if change.affects Key.endpoint.name then endpointFrom source else c.endpoint

/-- The configuration that settings give on their own. -/
def ofSource (source : Source) : Config := default.refresh .everything source

/-! ## What is reported -/

/-- A key of a kind that is no text. -/
def apiKeyReport (source : Source) : List Log.Event :=
  match source Key.apiKey.name with
  | some (.bool b) => [.apiKeyIgnored (Json.Value.bool b).kind]
  | some (.array items) => [.apiKeyIgnored (Json.Value.array items).kind]
  | some (.object members) => [.apiKeyIgnored (Json.Value.object members).kind]
  | _ => []

/-- A provider that there is not. -/
def providerReport (source : Source) : List Log.Event :=
  match (text? source .provider).map Provider.parse with
  | some (.error failure) => [.providerIgnored failure]
  | _ => []

/-- The log of reading the settings that a change affects. -/
def refreshLog (change : Change) (source : Source) : List Log.Event :=
  (if change.affects Key.apiKey.name then apiKeyReport source else []) ++
    (if change.affects Key.provider.name then providerReport source else []) ++
    [.configurationUpdated change.keys]

end Config

end ChatAssistant
