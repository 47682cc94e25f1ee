import ChatAssistant.Failure
import ChatAssistant.Text.Blank
import ChatAssistant.Text.LowerCase

/-!
# Providers

The providers of models that the gateway knows.
-/

namespace ChatAssistant

inductive Provider
  | openAI
  | anthropic
  | selfHosted
  deriving DecidableEq

namespace Provider

/-- All providers, in the order in which they are listed. -/
def all : List Provider := [openAI, anthropic, selfHosted]

def name : Provider → String
  | openAI => "openai"
  | anthropic => "anthropic"
  | selfHosted => "local"

/-- The name in diagnostics. -/
def diagnosticName : Provider → String
  | openAI => "OpenAI"
  | anthropic => "Anthropic"
  | selfHosted => "Local"

/-- The provider of a name, which is exact. -/
def ofName? (name : String) : Option Provider :=
  all.find? fun p => p.name == name

/-- The provider that a text names in any case, with blanks around it. -/
def parse (s : String) : Except Failure Provider :=
  let name := Text.toLower (Text.trim s)
  match ofName? name with
  | some p => .ok p
  | none => .error (.config ("Unsupported provider: " ++ name))

theorem ofName?_name (p : Provider) : ofName? p.name = some p := by
  cases p <;> rfl

end Provider

end ChatAssistant
