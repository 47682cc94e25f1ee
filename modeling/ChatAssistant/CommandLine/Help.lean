import ChatAssistant.CommandLine.Arguments

/-!
# Help

What is shown in place of a run: the help, the version, or why arguments are not accepted.
-/

namespace ChatAssistant.CommandLine

def usageLine : String := "Usage: aiassist [OPTIONS] [QUERY]"

def versionText : String := "ai-assist 0.1.0"

/-- The lines of the options, with the letter, the long name and its value, and the meaning. -/
def optionRows : List (String × String) :=
  [("-c, --chat", "Start an interactive chat session"),
   ("-f, --file <FILE>", "Run a single-shot code action on this file"),
   ("-a, --action <ACTION>",
    "Code action for --file [possible values: explain, improve, find-bugs, add-comments, refactor, " ++
      "generate-tests]"),
   ("-i, --instruction <INSTRUCTION>",
    "Free-form instruction for --file, instead of a predefined action"),
   ("-m, --model <MODEL>", "Model alias or fully qualified model id"),
   ("-p, --provider <PROVIDER>", "Provider [possible values: openai, anthropic, local]"),
   ("    --temperature <TEMPERATURE>", "Sampling temperature (0-2)"),
   ("    --max-tokens <MAX_TOKENS>", "Maximum tokens in the reply (100-32000)"),
   ("    --config <CONFIG>", "Settings file (defaults to ~/.aiassist/config.yaml)"),
   ("-h, --help", "Print help"),
   ("-V, --version", "Print version")]

/-- The width of the names, the longest one included. -/
def nameWidth : Nat := 31

def optionLine (row : String × String) : String :=
  String.join ["  ", row.1, String.ofList (List.replicate (nameWidth - row.1.length) ' '), "  ", row.2]

def helpText : String :=
  "\n".intercalate
    ([usageLine, "", "Arguments:",
      "  [QUERY]  Question for the assistant. Piped stdin is attached as code context", "",
      "Options:"] ++ optionRows.map optionLine)

namespace Refusal

/-- Help and version are what was asked for. -/
def isRequest : Refusal → Bool
  | help => true
  | version => true
  | _ => false

def exitCode (r : Refusal) : Nat := if r.isRequest then 0 else 2

/-- Why arguments are not accepted. -/
def reason : Refusal → String
  | unknownArgument => "unexpected argument"
  | missingValue => "a value is required"
  | unneededValue => "unexpected value"
  | badValue => "invalid value"
  | conflict => "arguments cannot be used together, or more than once"
  | missingArgument => "a required argument was not provided"
  | help => ""
  | version => ""

/-- What is shown. -/
def text : Refusal → String
  | help => helpText
  | version => versionText
  | r => String.join ["error: ", r.reason, "\n\n", usageLine, "\n\nFor more information, try '--help'."]

end Refusal

end ChatAssistant.CommandLine
