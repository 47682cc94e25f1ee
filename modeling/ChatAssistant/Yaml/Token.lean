import ChatAssistant.Yaml.Characters

/-!
# YAML tokens

The tokens of a stream, and the place in the text up to which they have been read.
-/

namespace ChatAssistant.Yaml

/-- A token.  Block structure, which the text shows by indentation, has tokens for its starts and its
ends. -/
inductive Token
  | version (major minor : Nat)
  | tagHandle (handle uri : String)
  | documentStart
  | documentEnd
  | blockSequence
  | blockMapping
  | blockEnd
  | openSequence
  | closeSequence
  | openMapping
  | closeMapping
  | blockEntry
  | flowEntry
  | key
  | value
  | aliasOf (name : String)
  | anchor (name : String)
  | tag (handle suffix : String)
  | scalar (isPlain : Bool) (text : String)
  deriving DecidableEq

/-- A place in the text: what is left of it, how much has been read, and the line and column. -/
structure Cursor where
  rest : List Char
  index : Nat
  line : Nat
  column : Nat

namespace Cursor

/-- The place after characters of one line. -/
def skip (c : Cursor) (count : Nat) : Cursor :=
  ⟨c.rest.drop count, c.index + count, c.line, c.column + count⟩

/-- The place after a character that is no line end. -/
def along (c : Cursor) (rest : List Char) : Cursor :=
  ⟨rest, c.index + 1, c.line, c.column + 1⟩

/-- The place after a line end. -/
def newLine (c : Cursor) (rest : List Char) : Cursor :=
  ⟨rest, c.index + 1, c.line + 1, 0⟩

/-- The place after one character. -/
def step (c : Cursor) (char : Char) (rest : List Char) : Cursor :=
  if isBreak char then c.newLine rest else c.along rest

/-- The place after the leading characters of a kind, which is not that of line ends. -/
def skipWhile (c : Cursor) (p : Char → Bool) : Cursor :=
  c.skip (c.rest.takeWhile p).length

/-- At the start of a line, a mark that starts or ends a document comes next. -/
def atDocumentMark (c : Cursor) : Bool :=
  c.column == 0 && isDocumentMark c.rest

end Cursor

end ChatAssistant.Yaml
