/-!
# The characters of YAML

Which characters a stream may hold, which end a line, and the one spelling that line ends are brought
to before a stream is read.
-/

namespace ChatAssistant.Yaml

/-- A character that a stream may hold. -/
def isReadable (c : Char) : Bool :=
  let n := c.toNat
  n == 9 || n == 10 || n == 13 || (0x20 ≤ n && n ≤ 0x7E) || n == 0x85 ||
    (0xA0 ≤ n && n ≤ 0xD7FF) || (0xE000 ≤ n && n ≤ 0xFFFD) || 0x10000 ≤ n

/-- The byte order mark. -/
def byteOrderMark : Char := '\uFEFF'

/-- A line end: a line feed, or one of the two Unicode separators, which keep their identity. -/
def isBreak (c : Char) : Bool := c == '\n' || c == '\u2028' || c == '\u2029'

/-- A space or a tab. -/
def isBlank (c : Char) : Bool := c == ' ' || c == '\t'

/-- A blank, a line end, or the end of the stream comes next. -/
def endsWord : List Char → Bool
  | [] => true
  | c :: _ => isBlank c || isBreak c

/-- Carriage returns, alone or before a line feed, and next-line characters become line feeds. -/
def unifyBreaks : List Char → List Char
  | [] => []
  | '\r' :: '\n' :: rest => '\n' :: unifyBreaks rest
  | c :: rest => (if c = '\r' ∨ c = '\u0085' then '\n' else c) :: unifyBreaks rest

/-- A letter, a digit, an underscore or a hyphen: the characters of names. -/
def isNameChar (c : Char) : Bool := c.isAlphanum || c == '_' || c == '-'

/-- `---` or `...` with nothing after it on its line but what a blank separates. -/
def isDocumentMark (cs : List Char) : Bool :=
  match cs with
  | a :: b :: c :: rest => a == b && b == c && (a == '-' || a == '.') && endsWord rest
  | _ => false

end ChatAssistant.Yaml
