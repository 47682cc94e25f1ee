import ChatAssistant.Command.Session
import ChatAssistant.Dialogue.Line
import ChatAssistant.Dialogue.LineHistory
import ChatAssistant.Terminal.Block

/-!
# Dialogues

A dialogue is a session that takes lines of input.  A command is run, and its changes of settings reach
the configuration before the next line.  A message is sent, and its reply is shown as the message that
the stream of replies delivers, or as a notice where the stream delivers none.
-/

namespace ChatAssistant

open ChatAssistant.Conversation ChatAssistant.Settings ChatAssistant.Terminal

structure Dialogue where
  session : Session
  /-- Hears the replies of the conversation. -/
  listener : Receiver
  lines : Dialogue.LineHistory

namespace Dialogue

/-- What a line brings about: the dialogue after it, what is shown, the requests that were made, and
what was reported. -/
structure Turn where
  dialogue : Dialogue
  blocks : List Block
  requests : List Request
  log : List Log.Event

/-- A dialogue over a store of settings. -/
def start (client : Client) (store : Store) (files : FileTree) (lines : LineHistory) : Dialogue :=
  ⟨Session.start client store files, client.replies.subscribe, lines⟩

/-- What is shown of the outcome of a command. -/
def commandBlocks : Except Failure (Option String) → List Block
  | .ok text => text.toList.map .answer
  | .error failure => [.failure failure]

/-- Runs a command and lets its changes take effect. -/
def command (d : Dialogue) (hasColor : Bool) (name : String) (args : List String) : Turn :=
  let reaction := d.session.run hasColor name args
  let (session, log) := reaction.session.settle
  ⟨{ d with session }, commandBlocks reaction.output, [], reaction.log ++ log⟩

/-- What is shown of a reply: the messages that were delivered, or else its text. -/
def replyBlocks (text : String) (delivered : List Message) : List Block :=
  if delivered.isEmpty then [.notice text] else delivered.map .message

/-- Sends a message. -/
def say (d : Dialogue) (respond : Request → Outcome) (text : String) : Turn :=
  let begun := d.session.client.beginChat text none
  let done := Client.completeChat begun respond
  let (delivered, listener) := done.client.replies.receiveMessages d.listener
  ⟨{ d with session := { d.session with client := done.client }, listener },
    replyBlocks done.value delivered, begun.value.call.requests, done.log⟩

/-- Keeps a line in the history of lines, unless it is blank. -/
def note (d : Dialogue) (line : String) : Dialogue :=
  if Text.isBlankText line then d else { d with lines := d.lines.add line }

theorem note_eq (d : Dialogue) (line : String) : d.note line = { d with lines := (d.note line).lines } := by
  unfold note
  split <;> rfl

/-- Takes a line of input. -/
def enter (d : Dialogue) (hasColor : Bool) (respond : Request → Outcome) (line : String) : Turn :=
  let d := d.note line
  match Entry.ofLine line with
  | .nothing => ⟨d, [], [], []⟩
  | .command name args => d.command hasColor name args
  | .message text => d.say respond text

/-- A line that is no text. -/
def unreadable : Failure := .input ("Input error: " ++ FileError.undecodable.text)

/-- Lines of input, of which each is answered by its own `respond`, until one ends the dialogue. -/
def takeLines (d : Dialogue) (hasColor : Bool) (respond : Nat → Request → Outcome) :
    List (List Nat) → Turn × Option Failure
  | [] => (⟨d, [], [], []⟩, none)
  | bytes :: rest =>
    match typed? bytes with
    | none => (⟨d, [], [], []⟩, some unreadable)
    | some line =>
      let turn := d.enter hasColor (respond 0) line
      if turn.dialogue.session.running then
        let (later, failure) :=
          takeLines turn.dialogue hasColor (fun n => respond (n + 1)) rest
        (⟨later.dialogue, turn.blocks ++ later.blocks, turn.requests ++ later.requests,
          turn.log ++ later.log⟩, failure)
      else (turn, none)

end Dialogue

end ChatAssistant
