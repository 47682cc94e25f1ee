import ChatAssistant.Settings.Key

/-!
# Prompts

The fixed texts around what a user asks.
-/

namespace ChatAssistant.Prompt

def chatPersona : String :=
  "You are an AI programming assistant integrated into the editor."

def codePersona : String :=
  "You are an expert programming assistant with deep knowledge of best practices."

/-- Code that a chat is about. -/
def context (code : String) : String :=
  "Current code context:\n```\n" ++ code ++ "\n```"

/-- An instruction about the content of a file. -/
def file (content instruction : String) : String :=
  String.join
    ["You are an expert code assistant. Analyze the following code.\n\n```\n", content,
     "\n```\n\nInstruction: ", instruction]

/-- What is said in place of a reply where there is no key. -/
def missingCredential : String :=
  String.join
    ["Please set your OpenRouter API key in the `", Settings.Key.apiKey.name,
     "` setting (or the OPENROUTER_API_KEY environment variable).\n",
     "Get a key: https://openrouter.ai/keys"]

end ChatAssistant.Prompt
