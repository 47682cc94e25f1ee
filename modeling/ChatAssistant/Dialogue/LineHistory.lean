import ChatAssistant.Files
import ChatAssistant.Text.Blank
import ChatAssistant.Text.Lines

/-!
# The history of lines

The lines that were entered in earlier chats and in this one are kept in a file.  Its first line names
the format; in every other line a backslash is doubled and a line feed is written with one.
-/

namespace ChatAssistant.Dialogue

structure LineHistory where
  /-- The lines, oldest first. -/
  entries : List String
  /-- How many of them have come since the file was read. -/
  fresh : Nat
  deriving DecidableEq

namespace LineHistory

def empty : LineHistory := ⟨[], 0⟩

/-- How many lines are kept. -/
def capacity : Nat := 100

/-- A line is kept unless it is empty, starts with a blank or repeats the line before it. -/
def keeps (h : LineHistory) (line : String) : Bool :=
  match line.toList with
  | [] => false
  | c :: _ => !Text.isBlank c && h.entries.getLast? != some line

/-- Adds a line; the oldest one goes where there is no room. -/
def add (h : LineHistory) (line : String) : LineHistory :=
  if h.keeps line then
    let entries := (if h.entries.length < capacity then h.entries else h.entries.tail) ++ [line]
    ⟨entries, min (h.fresh + 1) entries.length⟩
  else h

/-! ## The file -/

def escape : List Char → List Char
  | [] => []
  | '\\' :: rest => '\\' :: '\\' :: escape rest
  | '\n' :: rest => '\\' :: 'n' :: escape rest
  | c :: rest => c :: escape rest

/-- A backslash stands only in an escape. -/
def unescape? : List Char → Option (List Char)
  | [] => some []
  | '\\' :: 'n' :: rest => (unescape? rest).map ('\n' :: ·)
  | '\\' :: '\\' :: rest => (unescape? rest).map ('\\' :: ·)
  | '\\' :: _ => none
  | c :: rest => (unescape? rest).map (c :: ·)

theorem unescape?_escape (cs : List Char) : unescape? (escape cs) = some cs := by
  fun_induction escape cs with
  | case1 => rfl
  | case2 rest ih => simp [unescape?, ih]
  | case3 rest ih => simp [unescape?, ih]
  | case4 c rest hbackslash hfeed ih =>
    rw [unescape?.eq_5 _ _ (by simp_all) (by simp_all) (by simp_all), ih]
    rfl

/-- The first line of the file. -/
def formatName : String := "#V2"

/-- The entry of a line; one that is not well escaped stands for itself. -/
def entryOf (isEscaped : Bool) (line : String) : String :=
  if isEscaped then ((unescape? line.toList).map String.ofList).getD line else line

/-- Adds the lines of a file up to one that is no text. -/
def addLines (isEscaped : Bool) (h : LineHistory) : List (List Nat) → LineHistory
  | [] => { h with fresh := 0 }
  | bytes :: rest =>
    match Text.Utf8.decode? bytes with
    | none => h
    | some line => addLines isEscaped (h.add (entryOf isEscaped line)) rest

/-- The history in the lines of a file.  In a file of another format all lines are entries as they
stand. -/
def ofLines (lines : List (List Nat)) : LineHistory :=
  if lines.head? = some (Text.Utf8.encode formatName) then addLines true empty lines.tail
  else addLines false empty lines

/-- The history in a file; where none can be read, it is empty. -/
def load (files : FileTree) (path : String) : LineHistory :=
  match files.readBytes path with
  | .ok bytes => ofLines (Text.byteLines bytes)
  | .error _ => empty

/-- The text of the file. -/
def toText (h : LineHistory) : String :=
  String.ofList (formatName.toList ++ '\n' ::
    h.entries.flatMap fun line => escape line.toList ++ ['\n'])

/-- Writes the file, if there is something new, into a folder that is made if need be. -/
def save (h : LineHistory) (files : FileTree) (folder name : String) : Except Failure FileTree :=
  match if files.exists? folder then .ok files else files.makeFolder folder with
  | .error e => .error e.failure
  | .ok files =>
    if h.fresh = 0 then .ok files
    else
      match files.write (folder ++ "/" ++ name) h.toText with
      | .ok files => .ok files
      | .error e => .error (.input ("Failed to save history: " ++ e.text))

end LineHistory

end ChatAssistant.Dialogue
