import ChatAssistant.CommandLine.Help
import ChatAssistant.CommandLine.Program
import ChatAssistant.Gateway.Exchange
import ChatAssistant.Timestamp
import Std.Time.DateTime.Timestamp

/-!
# The program on a terminal

The outer layer: it reads arguments, environment, files and lines of input, lets the library decide,
and prints and writes what comes out.  There is no network here, so that every request ends as one to
a gateway that is not reached.
-/

namespace ChatAssistant.Console

open ChatAssistant.CommandLine ChatAssistant.Conversation ChatAssistant.Terminal

/-- Answers every request by the lack of a network. -/
def offline (request : Request) : Outcome :=
  Gateway.respond (fun _ => .noAnswer "no route to the gateway") none request

/-- Takes what is at a path of the disk into a tree of files. -/
def takeIn (files : FileTree) (path : String) : IO FileTree := do
  match files.makeWay (files.startOf path) (FileTree.steps path) with
  | .error _ => return files
  | .ok (made, place) =>
    try
      let bytes ← IO.FS.readBinFile path
      return made.put place (.ofBytes (bytes.toList.map UInt8.toNat))
    catch e =>
      match e with
      | .inappropriateType _ _ _ => return { made with folders := place :: made.folders }
      | _ => return files

/-- The folder that a path lies in. -/
def folderOf (path : String) : String :=
  (if path.startsWith "/" then "/" else "./") ++ "/".intercalate (FileTree.steps path).dropLast

/-- Writes the file at a path where two trees of files differ. -/
def putOut (before after : FileTree) (path : String) : IO Unit := do
  match after.readBytes path with
  | .error _ => return
  | .ok bytes =>
    if (before.readBytes path).toOption = some bytes then return
    IO.FS.createDirAll (folderOf path)
    IO.FS.writeBinFile path ⟨(bytes.map Nat.toUInt8).toArray⟩

/-- The time of day. -/
def clockNow : IO String := do
  let now ← Std.Time.Timestamp.now
  return String.ofList (ChatAssistant.Timestamp.mk now.toSecondsSinceUnixEpoch.val 0).clock

/-- Prints blocks and the log. -/
def present (display : Display) (least : Nat) (blocks : List Block) (log : List Log.Event) :
    IO Unit := do
  let clock ← clockNow
  IO.eprint (String.join ((Log.shown least log).map fun e => e.line ++ "\n"))
  IO.print (outputText display clock blocks)
  (← IO.getStdout).flush
  IO.eprint (errorText display clock blocks)

/-- All bytes of the input. -/
partial def readAll (input : IO.FS.Stream) (sofar : ByteArray) : IO ByteArray := do
  let chunk ← input.read 65536
  if chunk.isEmpty then return sofar
  readAll input (sofar ++ chunk)

/-- The bytes of the next line, or nothing at the end of the input. -/
partial def readLine (input : IO.FS.Stream) (sofar : ByteArray) : IO ByteArray := do
  let chunk ← input.read 1
  if chunk.isEmpty || chunk.toList = [10] then return sofar ++ chunk
  readLine input (sofar ++ chunk)

/-- Takes lines one by one, and shows what each brings about before it reads the next. -/
partial def converse (display : Display) (least : Nat) (paths : List String) (prompt : String)
    (input : IO.FS.Stream) (d : Dialogue) : IO (Dialogue × Option Failure) := do
  IO.print prompt
  (← IO.getStdout).flush
  let bytes := (← readLine input ByteArray.empty).toList.map UInt8.toNat
  let (turn, failure) := d.takeLines display.hasColor (fun _ => offline) (Text.byteLines bytes)
  present display least turn.blocks turn.log
  for path in paths do
    putOut d.session.files turn.dialogue.session.files path
  if failure.isSome || bytes.isEmpty || !turn.dialogue.session.running then
    return (turn.dialogue, failure)
  converse display least paths prompt input turn.dialogue

/-- Runs a dialogue on a terminal. -/
def runTerminal (s : Surroundings) (args : Arguments) (display : Display) (least : Nat)
    (paths : List String) (input : IO.FS.Stream) : IO UInt32 := do
  match Settings.Store.load s.files (settingsPath args s.home) with
  | .error failure =>
    present display least [.failure failure] []
    return 1
  | .ok store =>
    let client := Client.ofConfig (startConfig args s.key store.source)
    present display least [.greeting client.config.model] (Config.refreshLog .everything store.source)
    let prompt := promptStyle.paint display.hasColor "> "
    let start := Dialogue.start client store s.files (loadLines s)
    let (d, failure) ← converse display least paths prompt input start
    let ending := endDialogue s d failure
    present display least ending.blocks ending.log
    for path in paths do
      putOut d.session.files ending.files path
    return ending.exitCode.toUInt32

/-- Colours are shown on a terminal, and where they are asked for. -/
def wantsColor : IO Bool := do
  if let some force ← IO.getEnv "CLICOLOR_FORCE" then
    if force ≠ "0" then return true
  return (← (← IO.getStdout).isTty) && (← IO.getEnv "NO_COLOR").isNone

/-- Runs the program with its arguments. -/
def runArguments (argv : List String) : IO UInt32 := do
  match Arguments.parse argv with
  | .error refusal =>
    if refusal.isRequest then IO.println refusal.text else IO.eprintln refusal.text
    return refusal.exitCode.toUInt32
  | .ok args =>
    let home := (← IO.getEnv "HOME").getD "."
    let paths := [settingsPath args home, homeFolder home ++ "/" ++ lineHistoryName]
    let files ← (paths ++ args.file.toList).foldlM takeIn ⟨[], [], []⟩
    let display : Display := ⟨← wantsColor, 80⟩
    let least := Log.leastWeight (← IO.getEnv "AIASSIST_LOG")
    let input ← IO.getStdin
    let key ← IO.getEnv "OPENROUTER_API_KEY"
    if args.chat && (← input.isTty) then
      runTerminal ⟨home, key, display.hasColor, files, []⟩ args display least paths input
    else
      let bytes ← if ← input.isTty then pure [] else
        pure ((← readAll input ByteArray.empty).toList.map UInt8.toNat)
      let ending := run ⟨home, key, display.hasColor, files, bytes⟩ (fun _ => offline) args
      present display least ending.blocks ending.log
      for path in paths do
        putOut files ending.files path
      return ending.exitCode.toUInt32

end ChatAssistant.Console

def main (argv : List String) : IO UInt32 := ChatAssistant.Console.runArguments argv
