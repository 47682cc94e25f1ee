/-!
# Failures

Everything that can go wrong, by its cause, with the text that names it and the text that a user gets
in place of a reply.
-/

namespace ChatAssistant

inductive Failure
  /-- The gateway refused the key. -/
  | unauthorized
  /-- The account has no credits left. -/
  | insufficientQuota
  /-- Too many requests. -/
  | rateLimited
  /-- Any other refusal, with its status and what the gateway said. -/
  | refused (status : Nat) (message : String)
  /-- The gateway was not reached. -/
  | unreachable (reason : String)
  /-- An answer without the text of a reply. -/
  | malformedResponse
  | config (reason : String)
  | input (reason : String)
  | io (reason : String)
  | serialization (reason : String)
  deriving DecidableEq

namespace Failure

/-- The text that names the failure. -/
def message : Failure → String
  | unauthorized => "Invalid API key."
  | insufficientQuota => "Insufficient credits on OpenRouter."
  | rateLimited => "Rate limit exceeded. Try again shortly."
  | refused _ message => message
  | unreachable reason => "Network error: " ++ reason
  | malformedResponse => "Unexpected response format from OpenRouter"
  | config reason => "Configuration error: " ++ reason
  | input reason => "Input error: " ++ reason
  | io reason => "IO error: " ++ reason
  | serialization reason => "Serialization error: " ++ reason

/-- The text that stands in place of a reply. -/
def userMessage : Failure → String
  | unreachable _ => "Network error. Please check your connection."
  | failure => "Error: " ++ failure.message

/-- The status of the gateway's answer, where the failure comes from one. -/
def status : Failure → Option Nat
  | unauthorized => some 401
  | insufficientQuota => some 402
  | rateLimited => some 429
  | refused status _ => some status
  | _ => none

end Failure

end ChatAssistant
