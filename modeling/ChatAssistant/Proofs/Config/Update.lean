import ChatAssistant.Config.Refresh

/-!
# Updates of the configuration

Everything that changes a configuration while it is in use.
-/

namespace ChatAssistant.Config

open ChatAssistant.Number ChatAssistant.Settings

/-- A direct setting, or the settings of a change that are read again. -/
inductive Update
  | apiKey (key : String)
  | provider (provider : Provider)
  | model (aliasOrId : String)
  | temperature (t : Extended single)
  | maxTokens (n : Nat)
  | showTokenUsage (enabled : Bool)
  | endpoint (endpoint : String)
  | refresh (change : Change) (source : Source)

namespace Update

def apply : Update → Config → Config
  | apiKey key => setApiKey key
  | provider p => setProvider p
  | model aliasOrId => setModel aliasOrId
  | temperature t => setTemperature t
  | maxTokens n => setMaxTokens n
  | showTokenUsage enabled => setShowTokenUsage enabled
  | endpoint text => setEndpoint text
  | refresh change source => Config.refresh change source

/-- The configuration after updates, the first one first. -/
def applyAll (updates : List Update) (c : Config) : Config :=
  updates.foldl (fun c update => update.apply c) c

/-- What an update reports. -/
def log : Update → List Log.Event
  | refresh change source => refreshLog change source
  | _ => []

end Update

/-- A configuration that a program can come to: it starts from the default or from settings, and updates
follow. -/
inductive Reached : Config → Prop
  | default : Reached Config.default
  | ofSource (source : Source) : Reached (Config.ofSource source)
  | update {c : Config} (update : Update) : Reached c → Reached (update.apply c)

end ChatAssistant.Config
