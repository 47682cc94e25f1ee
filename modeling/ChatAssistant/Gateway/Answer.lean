import ChatAssistant.Conversation.Client
import ChatAssistant.Gateway.Status
import ChatAssistant.Message.Wire

/-!
# Answers of the gateway

A success carries the text of a reply, and perhaps counts of tokens; those are read loosely, so that a
bad count does not cost the reply.  Any other answer becomes a failure with the best message that its
body has to offer.
-/

namespace ChatAssistant.Gateway

open ChatAssistant.Json ChatAssistant.Conversation

/-! ## Success -/

/-- The text of a choice, which may be absent. -/
def choiceContent? (choice : Raw) : Option (Option String) := do
  match ← choice.fields? ["message"] with
  | [some message] =>
    match ← message.fields? ["role", "content"] with
    | [role, content] => do
      let _ ← Raw.optional? Wire.role? role
      Raw.optional? Raw.toText? content
    | _ => none
  | _ => none

/-- A count in a value; an absent one is zero. -/
def countValue? : Option Value → Option Nat
  | none => some 0
  | some (.number n) => n.toCount?
  | some _ => none

/-- Counts of tokens: an object, or an array of them in order. -/
def usageValue? : Value → Option Usage
  | .object members => do
    let prompt ← countValue? (Table.get? "prompt_tokens" members)
    let completion ← countValue? (Table.get? "completion_tokens" members)
    let total ← countValue? (Table.get? "total_tokens" members)
    some ⟨prompt, completion, total⟩
  | .array items =>
    if 3 < items.length then none
    else do
      let prompt ← countValue? items[0]?
      let completion ← countValue? items[1]?
      let total ← countValue? items[2]?
      some ⟨prompt, completion, total⟩
  | _ => none

/-- The value of the counts of tokens, with what it has below the level of the answer. -/
def usageField? : Option Raw → Option (Option Usage)
  | none => some none
  | some raw => (raw.toValue? (depthLimit - 1)).map usageValue?

/-- The completion in the body of a success: the text of the first choice, which is not empty.  Every
choice has to be well formed. -/
def completion? (body : String) : Option Completion := do
  let raw ← Raw.parse? body
  match ← raw.fields? ["choices", "usage"] with
  | [some choices, usage] => do
    let contents ← choices.items? choiceContent?
    let usage ← usageField? usage
    match contents with
    | some content :: _ => if content.isEmpty then none else some ⟨content, usage⟩
    | _ => none
  | _ => none

/-- The outcome of a success. -/
def readCompletion (body : String) : Outcome :=
  match completion? body with
  | some completion => .ok completion
  | none => .error .malformedResponse

/-! ## Refusal -/

/-- The members of an object in a body, with their names and values. -/
def namedValues? (depth : Nat) : Raw → Option (List (String × Value))
  | .object members => Raw.memberValues? depth members
  | _ => none

/-- What the `error` member of a body says: the one `message` text of an object, a text, or the text of
any other value. -/
def errorText? (error : Raw) : Option String := do
  let value ← error.toValue? (depthLimit - 1)
  let messages := ((namedValues? (depthLimit - 2) error).getD []).filter fun m => m.1 == "message"
  match value, messages with
  | .object _, [(_, .string message)] => some message
  | .string text, _ => some text
  | .null, _ => none
  | value, _ => some value.toText

/-- The message in the body of a refusal, which is not blank. -/
def errorMessage? (body : String) : Option String := do
  let raw ← Raw.parse? body
  match ← raw.fields? ["error"] with
  | [some error] => do
    let text ← errorText? error
    if Text.isBlankText text then none else some text
  | _ => none

/-- The message of a refusal without one. -/
def statusLine (status : Nat) : String :=
  Text.trimEnd (String.join
    ["OpenRouter API error: ", toString status, " ", (reason? status).getD ""])

/-- The failure that a refusal stands for. -/
def classify (status : Nat) (body : String) : Failure :=
  if status = 401 then .unauthorized
  else if status = 402 then .insufficientQuota
  else if status = 429 then .rateLimited
  else .refused status ((errorMessage? body).getD (statusLine status))

end ChatAssistant.Gateway
