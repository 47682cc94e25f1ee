import ChatAssistant.Command
import ChatAssistant.Conversation.Client
import ChatAssistant.Json.Decode
import ChatAssistant.Settings.Store
import ChatAssistant.Settings.Watcher
import ChatAssistant.Terminal.Style

/-!
# Running commands

A session holds a conversation, the settings store with its file, and the watcher that carries changes
of settings into the configuration.  A command answers with a text, or fails.
-/

namespace ChatAssistant

open ChatAssistant.Conversation ChatAssistant.Settings

structure Session where
  client : Client
  store : Store
  files : FileTree
  /-- How the file system answers at present. -/
  disk : Disk
  changes : Channel Change
  /-- The watcher, if one runs. -/
  watcher : Option Receiver
  running : Bool

/-- The result of a command: the session after it, its text or failure, and what was reported. -/
structure Reaction where
  session : Session
  output : Except Failure (Option String)
  log : List Log.Event

namespace Session

def config (s : Session) : Config := s.client.config

/-- Changes the configuration directly. -/
def configure (s : Session) (f : Config → Config) : Session :=
  { s with client := { s.client with config := f s.client.config } }

/-- Hands a change to the watcher, if there is a change. -/
def publish (s : Session) (change : Change) : Session × List Log.Event :=
  if change.isEmpty then (s, [])
  else if s.watcher.isSome then ({ s with changes := s.changes.send change }, [])
  else (s, [.changeNotApplied])

/-- Lets the watcher run until it is idle. -/
def settle (s : Session) : Session × List Log.Event :=
  match s.watcher with
  | none => (s, [])
  | some r =>
    let (config, r, log) := Watcher.run s.store.source s.changes r s.config
    ({ s.configure (fun _ => config) with watcher := some r }, log)

/-! ## The texts of commands -/

/-- A text that is brought to a width by blanks behind it. -/
def padTo (width : Nat) (s : String) : String :=
  s ++ String.ofList (List.replicate (width - s.length) ' ')

def helpText (color : Bool) : String :=
  "\n".intercalate
    (Terminal.title.paint color "Available Commands" :: Command.all.map Command.description)

/-- The aliases with their models, the current model marked. -/
def modelsText (current : String) : String :=
  "\n".intercalate (Catalogue.entries.map fun entry =>
    String.join [if entry.2 = current then "*" else " ", " ", padTo 16 entry.1, " ", entry.2])

def configText (c : Config) (path : String) : String :=
  "\n".intercalate
    ["provider:         " ++ c.provider.name,
     "model:            " ++ c.model,
     "temperature:      " ++ c.temperature.toText,
     "max tokens:       " ++ toString c.maxTokens,
     "show token usage: " ++ (if c.showTokenUsage then "true" else "false"),
     "endpoint:         " ++ c.endpoint,
     "api key:          " ++ (if c.hasApiKey then "set" else "not set"),
     "settings file:    " ++ path]

def setUsage : String :=
  "Usage: /set <key> <value> where key is one of: " ++ ", ".intercalate Key.names

/-- The value that a text means: a number, a truth value, null or a string in JSON, and otherwise the
text itself. -/
def valueOfText (text : String) : Json.Value :=
  match Json.Value.parse? text with
  | some (.array _) => .string text
  | some (.object _) => .string text
  | some value => value
  | none => .string text

/-! ## Commands -/

def answer (s : Session) (text : String) : Reaction := ⟨s, .ok (some text), []⟩

def fail (s : Session) (failure : Failure) : Reaction := ⟨s, .error failure, []⟩

def runModel (s : Session) : List String → Reaction
  | [] => s.answer ("Current model: " ++ s.config.model)
  | model :: _ =>
    let s := s.configure (Config.setModel model)
    s.answer ("Model changed to: " ++ s.config.model)

def runProvider (s : Session) : List String → Reaction
  | [] =>
    s.answer (String.join ["Current provider: ", s.config.provider.name, " (available: ",
      ", ".intercalate (Provider.all.map Provider.name), ")"])
  | name :: _ =>
    match Provider.parse name with
    | .error failure => s.fail failure
    | .ok provider =>
      let s := s.configure (Config.setProvider provider)
      s.answer (String.join ["Provider changed to: ", s.config.provider.name, " (model: ",
        s.config.model, ")"])

/-- Sets a value in the store, saves the file and hands on the change.  Where saving fails, the store
keeps the value. -/
def setValue (s : Session) (key : String) (value : Json.Value) : Reaction :=
  let (store, change) := s.store.set key value
  let s := { s with store }
  match store.saveOn s.disk s.files with
  | .error failure => s.fail failure
  | .ok files =>
    let (s, log) := { s with files }.publish change
    ⟨s, .ok (some ("Updated " ++ key)), log⟩

def runSet (s : Session) : List String → Reaction
  | key :: word :: rest =>
    if Key.names.contains key then s.setValue key (valueOfText (" ".intercalate (word :: rest)))
    else s.fail (.input ("Unknown setting: " ++ key))
  | _ => s.answer setUsage

def runReload (s : Session) : Reaction :=
  match s.store.reloadOn s.disk s.files with
  | .error failure => s.fail failure
  | .ok (store, change) =>
    let s := { s with store }
    if change.isEmpty then s.answer "Settings unchanged."
    else
      let (s, log) := s.publish change
      ⟨s, .ok (some ("Reloaded: " ++ ", ".intercalate change.keys)), log⟩

/-- Runs a command with its arguments. -/
def runCommand (s : Session) (color : Bool) (command : Command) (args : List String) : Reaction :=
  match command with
  | .quit => ⟨{ s with running := false }, .ok none, []⟩
  | .help => s.answer (helpText color)
  | .clear =>
    let step := s.client.clear
    ⟨{ s with client := step.client }, .ok (some "Chat history cleared."), step.log⟩
  | .model => s.runModel args
  | .models => s.answer (modelsText s.config.model)
  | .provider => s.runProvider args
  | .config => s.answer (configText s.config s.store.path)
  | .set => s.runSet args
  | .reload => s.runReload

/-- Runs the command of a name. -/
def run (s : Session) (color : Bool) (name : String) (args : List String) : Reaction :=
  match Command.ofName? name with
  | some command => s.runCommand color command args
  | none => s.fail (.input ("Unknown command: " ++ name))

/-- How many changes the watcher of a session may fall behind. -/
def changeCapacity : Nat := 16

/-- A session with a watcher that has seen all changes so far. -/
def start (client : Client) (store : Store) (files : FileTree) : Session :=
  let changes := Channel.ofCapacity changeCapacity
  ⟨client, store, files, .tree, changes, some changes.subscribe, true⟩

end Session

end ChatAssistant
