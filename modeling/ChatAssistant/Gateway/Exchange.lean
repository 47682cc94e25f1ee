import ChatAssistant.Gateway.Answer
import ChatAssistant.Text.Utf8

/-!
# Asking the gateway

A request of a conversation becomes one message of HTTP, and what the network brings back becomes an
outcome.  The network is a parameter, and with it the client that hands messages to it: which addresses and
which headers that client takes is part of what it brings back.
-/

namespace ChatAssistant.Gateway

open ChatAssistant.Json ChatAssistant.Conversation ChatAssistant.Number

/-- One message to a server. -/
structure HttpRequest where
  url : String
  headers : List (String × String)
  body : String
  deriving DecidableEq

/-- What the network brings back. -/
inductive NetworkResult
  | response (status : Nat) (body : List Nat)
  /-- The answer broke off before its end. -/
  | brokenOff
  /-- There was no answer: the message was not sent, or nothing came back. -/
  | noAnswer (reason : String)

/-- Temperatures from `1e-6` to below `1e13` stand with their point in place. -/
def temperatureLayout : Layout := ⟨fun k => -5 ≤ k && k ≤ 13, true, true⟩

/-- The body of a request. -/
def requestBody (request : Request) : List Char :=
  writeObject
    [("model", writeString request.config.model),
     ("messages", writeArray (request.messages.map Wire.writeMessage)),
     ("temperature", (temperatureLayout.write request.config.temperature).toList),
     ("max_tokens", writeInt request.config.maxTokens)]

/-- The name under which the assistant introduces itself. -/
def applicationTitle : String := "AI Assist"

/-- The message to the server, with the page that the application names as its own. -/
def httpRequest (referer : Option String) (request : Request) : HttpRequest where
  url := request.config.endpoint
  headers :=
    [("authorization", "Bearer " ++ request.config.apiKey),
     ("content-type", "application/json"),
     ("x-title", applicationTitle)] ++
      referer.toList.map fun page => ("http-referer", page)
  body := String.ofList (requestBody request)

/-- The outcome of what the network brings back. -/
def outcomeOf : NetworkResult → Outcome
  | .response status body =>
    let text := Text.Utf8.decodeLenient body
    if isSuccess status then readCompletion text else .error (classify status text)
  | .brokenOff => .error .malformedResponse
  | .noAnswer reason => .error (.unreachable reason)

/-- Asks the gateway. -/
def respond (network : HttpRequest → NetworkResult) (referer : Option String) (request : Request) : Outcome :=
  outcomeOf (network (httpRequest referer request))

end ChatAssistant.Gateway
