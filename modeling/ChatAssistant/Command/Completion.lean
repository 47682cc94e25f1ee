import ChatAssistant.Command

/-!
# Completing what is typed

A line that starts with a slash is completed to the names of commands, and the end of a line to the
latest line of the history that starts with it.  Places in a line are counted in bytes.
-/

namespace ChatAssistant.Command

/-- The text up to a place and the text behind it, where the place lies between two characters. -/
def splitAt? : Nat → List Char → Option (List Char × List Char)
  | 0, cs => some ([], cs)
  | _ + 1, [] => none
  | n + 1, c :: rest =>
    if c.utf8Size ≤ n + 1 then
      (splitAt? (n + 1 - c.utf8Size) rest).map fun parts => (c :: parts.1, parts.2)
    else none
termination_by _ cs => cs.length

/-- The start of a command name before the cursor: the line starts with a slash, and there is no space
between it and the cursor. -/
def typedPart? (line : String) (cursor : Nat) : Option (List Char) :=
  match line.toList, cursor with
  | '/' :: rest, n + 1 =>
    match splitAt? n rest with
    | some (typed, _) => if typed.contains ' ' then none else some typed
    | none => none
  | _, _ => none

/-- What can stand in a line from a place on. -/
structure Completion where
  start : Nat
  candidates : List String
  deriving DecidableEq

/-- The names of commands that go on from what is typed before the cursor. -/
def complete (line : String) (cursor : Nat) : Completion :=
  match typedPart? line cursor with
  | some typed => ⟨1, names.filter fun name => typed.isPrefixOf name.toList⟩
  | none => ⟨cursor, []⟩

/-- The rest of the latest entry, if it is longer than the line; `entries` are given latest first. -/
def continuation? (line : List Char) : List String → Option String
  | [] => none
  | entry :: older =>
    if line.isPrefixOf entry.toList then
      if entry.toList = line then none
      else some (String.ofList (entry.toList.drop line.length))
    else continuation? line older

/-- What the history, oldest entry first, suggests behind a cursor at the end of a line. -/
def suggestion? (history : List String) (line : String) (cursor : Nat) : Option String :=
  if line.isEmpty || cursor != line.utf8ByteSize then none
  else continuation? line.toList history.reverse

end ChatAssistant.Command
