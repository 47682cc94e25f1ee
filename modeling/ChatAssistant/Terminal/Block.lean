import ChatAssistant.Failure
import ChatAssistant.Message
import ChatAssistant.Terminal.Box

/-!
# What is shown

The program shows blocks: replies, notices, answers of commands and failures.  Failures go to the
stream for errors, all else to the output.
-/

namespace ChatAssistant.Terminal

/-- How a terminal shows text. -/
structure Display where
  hasColor : Bool
  columns : Nat

inductive Block
  /-- A chat with a model begins. -/
  | greeting (model : String)
  /-- A message of the conversation. -/
  | message (message : Message)
  /-- A reply that stands alone. -/
  | reply (text : String)
  /-- A text in place of a reply. -/
  | notice (text : String)
  /-- The answer of a command. -/
  | answer (text : String)
  | failure (failure : Failure)
  deriving DecidableEq

def Block.isFailure : Block → Bool
  | failure _ => true
  | _ => false

def speaker : Role → Style
  | .system => ⟨some .yellow, [.bold]⟩
  | .user => ⟨some .cyan, [.bold]⟩
  | .assistant => ⟨some .magenta, [.bold]⟩

/-- What a speaker is called. -/
def speakerName : Role → String
  | .system => "system"
  | .user => "you"
  | .assistant => "assistant"

def clockStyle : Style := ⟨none, [.dim]⟩

def noticeStyle : Style := ⟨some .yellow, []⟩

def failureStyle : Style := ⟨some .red, [.bold]⟩

/-- The style of the sign that asks for a line. -/
def promptStyle : Style := ⟨some .cyan, [.bold]⟩

def greetingText (model : String) : String :=
  String.join ["Chatting with ", model,
    ". Type '/help' for available commands. Press Ctrl+D or type /quit to exit."]

/-- The lines of a block; `clock` is the time of day at which it is shown. -/
def Block.lines (d : Display) (clock : String) : Block → List String
  | greeting model => [greetingText model]
  | message m =>
    ((speaker m.role).paint d.hasColor (speakerName m.role) ++ " " ++
        clockStyle.paint d.hasColor clock) ::
      box d.hasColor d.columns m.content
  | reply text => box d.hasColor d.columns text
  | notice text => [noticeStyle.paint d.hasColor text]
  | answer text => [text]
  | failure f => [failureStyle.paint d.hasColor "error:" ++ " " ++ f.message]

/-- The text of a block, each line with its end. -/
def Block.text (d : Display) (clock : String) (b : Block) : String :=
  String.join ((b.lines d clock).map (· ++ "\n"))

/-- The text of blocks on the output. -/
def outputText (d : Display) (clock : String) (blocks : List Block) : String :=
  String.join ((blocks.filter fun b => !b.isFailure).map (Block.text d clock))

/-- The text of blocks on the stream for errors. -/
def errorText (d : Display) (clock : String) (blocks : List Block) : String :=
  String.join ((blocks.filter Block.isFailure).map (Block.text d clock))

end ChatAssistant.Terminal
