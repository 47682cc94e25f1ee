import ChatAssistant.CommandLine.Arguments
import ChatAssistant.Conversation.Client
import ChatAssistant.Files

/-!
# One-shot questions

Without a chat, a run of the program asks one question: about a file, with a query on the input as
code, or with the input alone.
-/

namespace ChatAssistant.CommandLine

open ChatAssistant.Conversation

inductive Question
  | file (content instruction : String)
  | query (text : String) (context : Option String)
  | bare (text : String)
  deriving DecidableEq

namespace Question

/-- The text on the input; a blank one counts as none. -/
def piped (input : List Nat) : Except Failure (Option String) :=
  match Text.Utf8.decode? input with
  | some text => .ok (if Text.isBlankText text then none else some text)
  | none => .error (.input ("Failed to read from stdin: " ++ FileError.undecodable.text))

/-- The instruction for a file: the one that is given, or the one of an action. -/
def instructionOf (args : Arguments) : String :=
  args.instruction.getD (args.action.getD .explain).instruction

/-- The question that the arguments and the input ask. -/
def ofArguments (args : Arguments) (files : FileTree) (input : List Nat) :
    Except Failure Question := do
  let context ← piped input
  match args.file, args.query, context with
  | some path, _, _ =>
    match files.read path with
    | .ok content => .ok (.file content (instructionOf args))
    | .error e => .error e.failure
  | none, some text, context => .ok (.query text context)
  | none, none, some text => .ok (.bare text)
  | none, none, none => .error (.input "No query provided")

/-- The call that a question begins. -/
def call (q : Question) (c : Client) : Call :=
  match q with
  | file content instruction => (c.beginFile content instruction).value
  | query text context => (c.beginChat text context).value.call
  | bare text => (c.beginComplete text).value

/-- Asks the question. -/
def ask (q : Question) (c : Client) (respond : Request → Outcome) : Step String :=
  match q with
  | file content instruction => Client.complete (c.beginFile content instruction) respond
  | query text context => c.chat respond text context
  | bare text => Client.complete (c.beginComplete text) respond

end Question

end ChatAssistant.CommandLine
