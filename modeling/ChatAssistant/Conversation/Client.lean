import ChatAssistant.Channel
import ChatAssistant.Config
import ChatAssistant.Conversation.Action
import ChatAssistant.Conversation.History
import ChatAssistant.Conversation.Prompt
import ChatAssistant.Log

/-!
# The conversation client

A client holds the configuration, the history and the stream of replies.  Asking takes two steps: a
call begins and hands over a request, and it ends with the outcome of that request.  Between the two
anything may happen to the client, so calls may overlap.  Every outcome becomes a text for the user.
-/

namespace ChatAssistant.Conversation

/-- The gateway's answer to a request. -/
structure Completion where
  content : String
  usage : Option Usage
  deriving DecidableEq

/-- What the gateway is asked, and with which configuration. -/
structure Request where
  config : Config
  messages : List Message
  deriving DecidableEq

abbrev Outcome := Except Failure Completion

structure Client where
  config : Config
  history : History
  replies : Channel Message

/-- The result of a step: the client after it, its value, and what was reported. -/
structure Step (α : Type) where
  client : Client
  value : α
  log : List Log.Event

/-- A call that has begun: it has its text already, or waits for the outcome of a request. -/
inductive Call
  | answered (text : String)
  | waiting (request : Request)

/-- The requests that a call hands over: at most one. -/
def Call.requests : Call → List Request
  | answered _ => []
  | waiting request => [request]

namespace Client

/-- How many replies a receiver may fall behind. -/
def replyCapacity : Nat := 64

def ofConfig (config : Config) : Client :=
  ⟨config, History.empty, Channel.ofCapacity replyCapacity⟩

/-- Begins a request.  Without a key there is none, and the text says what to do. -/
def ask (c : Client) (messages : List Message) : Step Call :=
  if c.config.hasApiKey then
    ⟨c, .waiting ⟨c.config, messages⟩,
      [.requestSent c.config.model c.config.provider messages.length]⟩
  else ⟨c, .answered Prompt.missingCredential, []⟩

/-- The report on tokens, where the configuration of the request asks for it. -/
def usageLog (config : Config) (completion : Completion) : List Log.Event :=
  if config.showTokenUsage then completion.usage.toList.map .tokenUsage else []

/-! ## One-shot calls

They leave the history as it is. -/

/-- The request about the content of a file. -/
def fileMessages (content instruction : String) : List Message :=
  [⟨.system, Prompt.codePersona⟩, ⟨.user, Prompt.file content instruction⟩]

def beginFile (c : Client) (content instruction : String) : Step Call :=
  c.ask (fileMessages content instruction)

def beginAction (c : Client) (action : CodeAction) (content : String) : Step Call :=
  c.beginFile content action.instruction

/-- A bare prompt. -/
def beginComplete (c : Client) (prompt : String) : Step Call :=
  c.ask [⟨.user, prompt⟩]

/-- The end of a one-shot call. -/
def finish (c : Client) (request : Request) : Outcome → Step String
  | .ok completion => ⟨c, completion.content, usageLog request.config completion⟩
  | .error failure => ⟨c, failure.userMessage, [.requestFailed failure]⟩

/-! ## Chats -/

/-- A chat under way: the generation of its message, and its call. -/
structure Chat where
  generation : Nat
  call : Call

/-- The request of a chat: the persona, the code it is about, and the end of the history. -/
def chatMessages (history : History) (context : Option String) : List Message :=
  ⟨.system, Prompt.chatPersona⟩ ::
    (context.toList.map fun code => ⟨.system, Prompt.context code⟩) ++ history.window

/-- Begins a chat with a message of the user. -/
def beginChat (c : Client) (message : String) (context : Option String) : Step Chat :=
  let c := { c with history := c.history.push ⟨.user, message⟩ }
  let step := c.ask (chatMessages c.history context)
  ⟨step.client, ⟨c.history.generation, step.value⟩, step.log⟩

/-- Records a reply and hands it to the receivers, unless the history has been cleared since. -/
def record (c : Client) (generation : Nat) (text : String) : Step String :=
  let reply : Message := ⟨.assistant, text⟩
  match c.history.pushIfCurrent generation reply with
  | some history => ⟨{ c with history, replies := c.replies.send reply }, text, []⟩
  | none => ⟨c, text, [.lateReply]⟩

/-- The end of a chat that waited for an outcome. -/
def finishChat (c : Client) (generation : Nat) (request : Request) : Outcome → Step String
  | .ok completion =>
    let step := c.record generation completion.content
    { step with log := usageLog request.config completion ++ step.log }
  | .error failure => ⟨c, failure.userMessage, [.requestFailed failure]⟩

/-- Empties the history. -/
def clear (c : Client) : Step Unit :=
  ⟨{ c with history := c.history.clear }, (), [.historyCleared]⟩

/-! ## Calls in one go -/

/-- Ends a one-shot call that has begun, with the outcome that `respond` gives. -/
def complete (step : Step Call) (respond : Request → Outcome) : Step String :=
  match step.value with
  | .answered text => ⟨step.client, text, step.log⟩
  | .waiting request =>
    let last := step.client.finish request (respond request)
    { last with log := step.log ++ last.log }

/-- Ends a chat that has begun, with the outcome that `respond` gives. -/
def completeChat (step : Step Chat) (respond : Request → Outcome) : Step String :=
  match step.value.call with
  | .answered text =>
    let last := step.client.record step.value.generation text
    { last with log := step.log ++ last.log }
  | .waiting request =>
    let last := step.client.finishChat step.value.generation request (respond request)
    { last with log := step.log ++ last.log }

/-- A chat during which nothing else happens. -/
def chat (c : Client) (respond : Request → Outcome) (message : String)
    (context : Option String) : Step String :=
  completeChat (c.beginChat message context) respond

end Client

end ChatAssistant.Conversation
