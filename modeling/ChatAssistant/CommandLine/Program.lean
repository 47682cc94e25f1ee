import ChatAssistant.CommandLine.OneShot
import ChatAssistant.CommandLine.Startup
import ChatAssistant.Dialogue

/-!
# A run of the program

A run takes its arguments and surroundings to what is shown, the files it leaves and whether it failed.
The network is a parameter: a function that answers requests.
-/

namespace ChatAssistant.CommandLine

open ChatAssistant.Conversation ChatAssistant.Settings ChatAssistant.Terminal

/-- What a run finds. -/
structure Surroundings where
  /-- The home of the user. -/
  home : String
  /-- The key in the environment. -/
  key : Option String
  hasColor : Bool
  files : FileTree
  /-- The bytes on the input. -/
  input : List Nat

/-- What a run leaves. -/
structure Ending where
  blocks : List Block
  requests : List Request
  log : List Log.Event
  files : FileTree
  hasFailed : Bool

namespace Ending

/-- A run that has failed so far ends by showing why. -/
def fail (blocks : List Block) (requests : List Request) (log : List Log.Event) (files : FileTree)
    (failure : Failure) : Ending :=
  ⟨blocks ++ [.failure failure], requests, log, files, true⟩

/-- A failed run ends with one. -/
def exitCode (e : Ending) : Nat := if e.hasFailed then 1 else 0

end Ending

/-- The name of the file with the history of lines. -/
def lineHistoryName : String := "input_history.txt"

/-- The history of lines of the user. -/
def loadLines (s : Surroundings) : Dialogue.LineHistory :=
  Dialogue.LineHistory.load s.files (homeFolder s.home ++ "/" ++ lineHistoryName)

/-- The end of a dialogue: the history of lines is written, unless a line was no text. -/
def endDialogue (s : Surroundings) (d : Dialogue) : Option Failure → Ending
  | some failure => .fail [] [] [] d.session.files failure
  | none =>
    match d.lines.save d.session.files (homeFolder s.home) lineHistoryName with
    | .ok files => ⟨[], [], [], files, false⟩
    | .error failure => .fail [] [] [] d.session.files failure

/-- Takes lines of input. -/
def runDialogue (s : Surroundings) (respond : Nat → Request → Outcome) (client : Client)
    (store : Store) (log : List Log.Event) : Ending :=
  let d := Dialogue.start client store s.files (loadLines s)
  let (turn, failure) := d.takeLines s.hasColor respond (Text.byteLines s.input)
  let last := endDialogue s turn.dialogue failure
  { last with
    blocks := .greeting client.config.model :: turn.blocks ++ last.blocks
    requests := turn.requests
    log := log ++ turn.log }

/-- Asks one question. -/
def runQuestion (s : Surroundings) (respond : Request → Outcome) (args : Arguments)
    (client : Client) (log : List Log.Event) : Ending :=
  match Question.ofArguments args s.files s.input with
  | .error failure => .fail [] [] log s.files failure
  | .ok question =>
    let step := question.ask client respond
    ⟨[.reply step.value], (question.call client).requests, log ++ step.log, s.files, false⟩

/-- A run of the program. -/
def run (s : Surroundings) (respond : Nat → Request → Outcome) (args : Arguments) : Ending :=
  match Store.load s.files (settingsPath args s.home) with
  | .error failure => .fail [] [] [] s.files failure
  | .ok store =>
    let client := Client.ofConfig (startConfig args s.key store.source)
    let log := Config.refreshLog .everything store.source
    if args.chat then runDialogue s respond client store log
    else runQuestion s (respond 0) args client log

end ChatAssistant.CommandLine
