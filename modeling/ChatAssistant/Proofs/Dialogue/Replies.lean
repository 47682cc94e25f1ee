import ChatAssistant.Dialogue
import ChatAssistant.Proofs.Channel
import ChatAssistant.Proofs.Dialogue.Lines

/-!
# What a dialogue shows of a reply

A line that is a message is answered by one block.  The stream of replies decides which: the listener has
heard everything whenever a line is taken, so what it hears behind a message is the reply to it.  No message is
passed over: lines are taken until there are none, one is no text, or a command quits.
-/

namespace ChatAssistant

open ChatAssistant.Conversation ChatAssistant.Settings ChatAssistant.Terminal

/-! ## The reply to a message -/

/-- The answer to a message: a reply that belongs to the conversation, or a text in place of one. -/
inductive Answer
  | reply (text : String)
  | notice (text : String)

namespace Answer

def text : Answer → String
  | reply text => text
  | notice text => text

/-- What the conversation gains. -/
def messages : Answer → List Message
  | reply text => [⟨.assistant, text⟩]
  | notice _ => []

/-- How the answer is shown. -/
def block : Answer → Block
  | reply text => .message ⟨.assistant, text⟩
  | notice text => .notice text

end Answer

namespace Conversation.Client

variable (c : Client) (respond : Request → Outcome) (message : String)

end Conversation.Client

namespace Session

end Session

namespace Dialogue

/-! ## The listener -/

variable {d e : Dialogue}

/-- A line that was taken: the dialogue before it, how its request was answered, and what it brought
about. -/
structure Exchange where
  before : Dialogue
  respond : Request → Outcome
  line : String
  turn : Turn

/-- Why no more lines are taken: there are none, the next one is no text, or the last one quits. -/
inductive Ends (lines : List (List Nat)) (taken : List Exchange) : Bool → Option Failure → Prop
  | all : taken.length = lines.length → Ends lines taken true none
  | noText {bytes : List Nat} :
      lines[taken.length]? = some bytes → typed? bytes = none → Ends lines taken true (some unreadable)
  | quit {last : Exchange} {args : List String} :
      taken.getLast? = some last → IsCommand last.line Command.quit.name args → Ends lines taken false none

theorem Ends.cons {lines : List (List Nat)} {taken : List Exchange} {running : Bool} {failure : Option Failure}
    (h : Ends lines taken running failure) (bytes : List Nat) (exchange : Exchange) :
    Ends (bytes :: lines) (exchange :: taken) running failure := by
  cases h with
  | all hlength => exact .all (congrArg (· + 1) hlength)
  | noText hbytes htyped => exact .noText hbytes htyped
  | quit hlast hquit =>
    refine .quit ?_ hquit
    rw [List.getLast?_cons, hlast]
    rfl

end Dialogue

end ChatAssistant
