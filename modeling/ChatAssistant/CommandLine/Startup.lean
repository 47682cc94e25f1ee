import ChatAssistant.CommandLine.Arguments
import ChatAssistant.Config.Refresh

/-!
# Starting up

The configuration that a run of the program starts with.  Options go before settings, settings before
defaults, and the environment gives a key only where the settings have none.
-/

namespace ChatAssistant.CommandLine

open ChatAssistant.Settings

/-- The folder of the program in the home of its user. -/
def homeFolder (home : String) : String := home ++ "/.aiassist"

/-- The settings file: the one that is asked for, or the one of the user. -/
def settingsPath (args : Arguments) (home : String) : String :=
  args.config.getD (homeFolder home ++ "/config.yaml")

/-- Takes the key of the environment, as it stands, where there is none. -/
def withKey (key : Option String) (c : Config) : Config :=
  if c.hasApiKey then c else key.elim c c.setApiKey

/-- Takes the options.  The provider goes first, because it chooses a model. -/
def withOptions (args : Arguments) (c : Config) : Config :=
  let c := args.provider.elim c c.setProvider
  let c := args.model.elim c c.setModel
  let c := args.temperature.elim c c.setTemperature
  args.maxTokens.elim c c.setMaxTokens

/-- The configuration of a run. -/
def startConfig (args : Arguments) (key : Option String) (source : Source) : Config :=
  withOptions args (withKey key (Config.ofSource source))

end ChatAssistant.CommandLine
