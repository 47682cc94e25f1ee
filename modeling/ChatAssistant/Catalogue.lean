import ChatAssistant.Provider

/-!
# The model catalogue

Short names of models and the identifiers under which the gateway knows them.
-/

namespace ChatAssistant.Catalogue

/-- Aliases with their identifiers, in the order in which they are listed. -/
def entries : List (String × String) :=
  [("gpt-4", "openai/gpt-4"),
   ("gpt-4-turbo", "openai/gpt-4-turbo-preview"),
   ("claude-sonnet-4", "anthropic/claude-sonnet-4"),
   ("deepseek-coder", "deepseek/deepseek-coder-33b-instruct"),
   ("gemini-pro", "google/gemini-pro"),
   ("llama-3-70b", "meta-llama/llama-3-70b-instruct"),
   ("mixtral-8x7b", "mistralai/mixtral-8x7b-instruct"),
   ("phind-codellama", "phind/phind-codellama-34b-v2")]

/-- The identifier that an alias names. -/
def lookup (name : String) : Option String :=
  (entries.find? fun entry => entry.1 == name).map Prod.snd

/-- The identifier of an alias; any other text stands for itself. -/
def resolve (aliasOrId : String) : String :=
  (lookup aliasOrId).getD aliasOrId

/-- The model that a provider starts out with. -/
def defaultFor : Provider → Option String
  | .openAI => lookup "gpt-4"
  | .anthropic => lookup "claude-sonnet-4"
  | .selfHosted => none

end ChatAssistant.Catalogue
