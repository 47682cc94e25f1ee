/-!
# Slash commands

The commands of a chat session: their names and what the help says about them.
-/

namespace ChatAssistant

inductive Command
  | quit
  | help
  | clear
  | model
  | models
  | provider
  | config
  | set
  | reload
  deriving DecidableEq

namespace Command

/-- All commands, in the order in which the help lists them. -/
def all : List Command := [quit, help, clear, model, models, provider, config, set, reload]

def name : Command → String
  | quit => "quit"
  | help => "help"
  | clear => "clear"
  | model => "model"
  | models => "models"
  | provider => "provider"
  | config => "config"
  | set => "set"
  | reload => "reload"

/-- The line of the help. -/
def description : Command → String
  | quit => "/quit - Exit the chat session"
  | help => "/help - Show available commands"
  | clear => "/clear - Clear conversation history"
  | model => "/model <alias|id> - Show or change the current model"
  | models => "/models - List model aliases"
  | provider => "/provider <name> - Show or change the provider (resets the model)"
  | config => "/config - Show the active configuration"
  | set => "/set <key> <value> - Change a setting and save it"
  | reload => "/reload - Re-read the settings file"

/-- The command of a name, which is exact. -/
def ofName? (name : String) : Option Command :=
  all.find? fun c => c.name == name

/-- The names in ascending order. -/
def names : List String :=
  ["clear", "config", "help", "model", "models", "provider", "quit", "reload", "set"]

theorem ofName?_name (c : Command) : ofName? c.name = some c := by
  cases c <;> rfl

theorem name_of_ofName? {name : String} {command : Command} (h : ofName? name = some command) :
    command.name = name := by
  simpa using List.find?_some h

theorem mem_names_iff {name : String} : name ∈ names ↔ ∃ c : Command, c.name = name := by
  constructor
  · intro h
    simp only [names, List.mem_cons, List.not_mem_nil, or_false] at h
    rcases h with h | h | h | h | h | h | h | h | h <;> subst h
    · exact ⟨clear, rfl⟩
    · exact ⟨config, rfl⟩
    · exact ⟨help, rfl⟩
    · exact ⟨model, rfl⟩
    · exact ⟨models, rfl⟩
    · exact ⟨provider, rfl⟩
    · exact ⟨quit, rfl⟩
    · exact ⟨reload, rfl⟩
    · exact ⟨set, rfl⟩
  · rintro ⟨c, rfl⟩
    cases c <;> simp [names, Command.name]

end Command

end ChatAssistant
