import ChatAssistant.Text.Blank
import ChatAssistant.Text.Cluster
import ChatAssistant.Text.Utf8

/-!
# Lines of input

A line is typed as bytes.  A backspace takes back the cluster before it, and what is left is a
command, a message or nothing.
-/

namespace ChatAssistant.Dialogue

/-- Takes back the cluster before each backspace; `kept` holds the clusters so far, the last one
first. -/
def takeBackFrom (kept : List (List Char)) : List (List Char) → List Char
  | [] => kept.reverse.flatten
  | cluster :: rest =>
    if cluster = ['\x08'] then takeBackFrom kept.tail rest
    else takeBackFrom (cluster :: kept) rest

/-- The characters of a line without those that were taken back. -/
def takeBack (cs : List Char) : List Char := takeBackFrom [] (Text.clusters cs)

/-- The text of a line, if its bytes are one. -/
def typed? (bytes : List Nat) : Option String :=
  (Text.Utf8.decode? bytes).map fun s => String.ofList (takeBack s.toList)

/-- What a line asks for. -/
inductive Entry
  | nothing
  | command (name : String) (args : List String)
  | message (text : String)
  deriving DecidableEq

/-- A slash starts a command, whose words are its name and arguments; any other text is a message. -/
def Entry.ofLine (line : String) : Entry :=
  match Text.trimChars line.toList with
  | [] => .nothing
  | '/' :: rest =>
    match Text.wordsFrom [] rest with
    | [] => .nothing
    | name :: args => .command name args
  | text => .message (String.ofList text)

end ChatAssistant.Dialogue
