import ChatAssistant.Message

/-!
# The history of a conversation

Messages in the order in which they were appended.  Clearing starts a new generation; a message of an
older one is refused, so that a late reply does not reach a conversation that it does not belong to.
-/

namespace ChatAssistant.Conversation

structure History where
  entries : List Message
  generation : Nat

namespace History

def empty : History := ⟨[], 0⟩

/-- How many of the last messages are sent with a request. -/
def windowSize : Nat := 10

def push (h : History) (message : Message) : History :=
  { h with entries := h.entries ++ [message] }

/-- Appends a message of the given generation, if that is the present one. -/
def pushIfCurrent (h : History) (generation : Nat) (message : Message) : Option History :=
  if generation = h.generation then some (h.push message) else none

def clear (h : History) : History := ⟨[], h.generation + 1⟩

/-- The last messages, oldest first. -/
def window (h : History) : List Message :=
  h.entries.drop (h.entries.length - windowSize)

end History

end ChatAssistant.Conversation
