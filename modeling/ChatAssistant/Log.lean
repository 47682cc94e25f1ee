import ChatAssistant.Provider
import ChatAssistant.Text.Quoted

/-!
# The log

What the assistant reports about its work, as events with a level and a text.
-/

namespace ChatAssistant

/-- Counts of tokens that the gateway reports. -/
structure Usage where
  promptTokens : Nat
  completionTokens : Nat
  totalTokens : Nat
  deriving DecidableEq

namespace Log

inductive Level
  | debug
  | info
  | warn
  deriving DecidableEq

def Level.name : Level → String
  | debug => "DEBUG"
  | info => "INFO"
  | warn => "WARN"

/-- The weight of a level. -/
def Level.weight : Level → Nat
  | debug => 0
  | info => 1
  | warn => 2

/-- The least weight that is shown, by the name of a level; what names none stands for warnings. -/
def leastWeight : Option String → Nat
  | some "trace" => Level.debug.weight
  | some "debug" => Level.debug.weight
  | some "info" => Level.info.weight
  | some "error" => Level.warn.weight + 1
  | some "off" => Level.warn.weight + 1
  | _ => Level.warn.weight

inductive Event
  /-- The keys of a change have been read again. -/
  | configurationUpdated (keys : List String)
  /-- The setting of the key holds a value of a kind that is no key. -/
  | apiKeyIgnored (kind : String)
  | providerIgnored (reason : Failure)
  /-- Changes were lost, and all keys are read again. -/
  | changesMissed (count : Nat)
  | historyCleared
  /-- A reply came after the history had been cleared. -/
  | lateReply
  | requestSent (model : String) (provider : Provider) (messages : Nat)
  | tokenUsage (usage : Usage)
  | requestFailed (reason : Failure)
  /-- Nobody listens for changes. -/
  | changeNotApplied
  deriving DecidableEq

namespace Event

def level : Event → Level
  | apiKeyIgnored _ => .warn
  | providerIgnored _ => .warn
  | changesMissed _ => .warn
  | tokenUsage _ => .info
  | requestFailed _ => .warn
  | changeNotApplied => .warn
  | _ => .debug

/-- A status, or that there is none. -/
def statusText : Option Nat → String
  | some n => "Some(" ++ toString n ++ ")"
  | none => "None"

/-- The message and the fields behind it. -/
def text : Event → String
  | configurationUpdated keys => "configuration updated keys=" ++ Text.quotedList keys
  | apiKeyIgnored kind => "ignoring non-text apiKey setting kind=" ++ kind
  | providerIgnored reason => "ignoring provider setting error=" ++ reason.message
  | changesMissed count =>
    "configuration changes dropped, re-reading all keys missed=" ++ toString count
  | historyCleared => "conversation history cleared"
  | lateReply => "history cleared while request was in flight, reply not recorded"
  | requestSent model provider messages =>
    String.join ["sending completion request model=", model, " provider=", provider.name,
      " messages=", toString messages]
  | tokenUsage usage =>
    String.join ["token usage prompt_tokens=", toString usage.promptTokens,
      " completion_tokens=", toString usage.completionTokens,
      " total_tokens=", toString usage.totalTokens]
  | requestFailed reason =>
    String.join ["completion request failed error=", reason.message,
      " status=", statusText reason.status]
  | changeNotApplied => "no configuration watcher running, change not applied"

/-- The line of the log. -/
def line (e : Event) : String := e.level.name ++ " " ++ e.text

end Event

/-- The events that are heavy enough. -/
def shown (least : Nat) (events : List Event) : List Event :=
  events.filter fun e => least ≤ e.level.weight

end Log

end ChatAssistant
