import ChatAssistant.Dialogue
import ChatAssistant.Proofs.Command.Effect

/-!
# What a line is

The lines that are messages, and those that are commands, told from their text.  Of all lines only the command
to quit ends a dialogue.
-/

namespace ChatAssistant

open ChatAssistant.Conversation

namespace Session

end Session

namespace Dialogue

/-! ## Messages and commands -/

/-- A line is a message where something is left of it between the blanks at its ends, which does not start with
a slash. -/
structure IsMessage (line text : String) : Prop where
  trim_eq : Text.trim line = text
  ne_empty : text ≠ ""
  no_slash : text.toList.head? ≠ some '/'

/-- A line is a command where a word stands behind a slash. -/
structure IsCommand (line name : String) (args : List String) : Prop where
  exists_words : ∃ rest, Text.trim line = "/" ++ rest ∧ Text.words rest = name :: args

variable {line text name : String} {args : List String}

end Dialogue

end ChatAssistant
