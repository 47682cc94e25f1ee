import ChatAssistant.Json.Printer
import ChatAssistant.Json.Record
import ChatAssistant.Log
import ChatAssistant.Message
import ChatAssistant.Timestamp

/-!
# Messages on the wire

How roles, providers, messages and counts of tokens are read from JSON and written to it.  Written
records have their fields in one fixed order.
-/

namespace ChatAssistant

open ChatAssistant.Json

/-- A message with the instant at which it was said. -/
structure DatedMessage where
  role : Role
  content : String
  timestamp : Timestamp
  deriving DecidableEq

namespace Wire

/-! ## Reading -/

def role? (raw : Raw) : Option Role := raw.variant?.bind Role.ofName?

def provider? (raw : Raw) : Option Provider := raw.variant?.bind Provider.ofName?

def message? (raw : Raw) : Option Message := do
  match ← raw.fields? ["role", "content"] with
  | [some role, some content] => do
    let role ← role? role
    let content ← content.toText?
    some ⟨role, content⟩
  | _ => none

/-- A count; an absent one is zero. -/
def count? : Option Raw → Option Nat
  | none => some 0
  | some raw => raw.count?

def usage? (raw : Raw) : Option Usage := do
  match ← raw.fields? ["prompt_tokens", "completion_tokens", "total_tokens"] with
  | [prompt, completion, total] => do
    let prompt ← count? prompt
    let completion ← count? completion
    let total ← count? total
    some ⟨prompt, completion, total⟩
  | _ => none

def datedMessage? (raw : Raw) : Option DatedMessage := do
  match ← raw.fields? ["role", "content", "timestamp"] with
  | [some role, some content, some timestamp] => do
    let role ← role? role
    let content ← content.toText?
    let timestamp ← timestamp.toText?.bind Timestamp.parse?
    some ⟨role, content, timestamp⟩
  | _ => none

/-! ## Writing -/

def writeRole (role : Role) : List Char := writeString role.name

def writeProvider (provider : Provider) : List Char := writeString provider.name

def writeMessage (m : Message) : List Char :=
  writeObject [("role", writeRole m.role), ("content", writeString m.content)]

def writeUsage (u : Usage) : List Char :=
  writeObject
    [("prompt_tokens", writeInt u.promptTokens),
     ("completion_tokens", writeInt u.completionTokens),
     ("total_tokens", writeInt u.totalTokens)]

def writeDatedMessage (m : DatedMessage) : List Char :=
  writeObject
    [("role", writeRole m.role), ("content", writeString m.content),
     ("timestamp", writeString m.timestamp.toText)]

/-- Reads a text and writes what it says. -/
def normalize {α : Type} (read : Raw → Option α) (write : α → List Char) (text : String) :
    Except Failure String :=
  match (Raw.parse? text).bind read with
  | some value => .ok (String.ofList (write value))
  | none => .error (.serialization "JSON error")

end Wire

end ChatAssistant
