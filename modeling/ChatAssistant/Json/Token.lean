import ChatAssistant.Number.Decimal

/-!
# JSON tokens

The text of a document is cut into tokens by a machine that looks at one character at a time.  A
string keeps its four-digit escapes as code units, because a string that nobody reads may hold units
that make up no character.
-/

namespace ChatAssistant.Json

open ChatAssistant.Number

/-- A part of a string: a character, or a code unit of sixteen bits written as an escape. -/
inductive Piece
  | char (c : Char)
  | unit (u : Nat)
  deriving DecidableEq

inductive Token
  | openObject
  | closeObject
  | openArray
  | closeArray
  | colon
  | comma
  | null
  | bool (value : Bool)
  | number (text : DecimalText)
  | string (pieces : List Piece)
  deriving DecidableEq

/-- The characters between tokens. -/
def isSpace (c : Char) : Bool := c == ' ' || c == '\t' || c == '\n' || c == '\r'

/-- The value of a hexadecimal digit. -/
def hexValue? (c : Char) : Option Nat :=
  if c.isDigit then some (c.toNat - 48)
  else if 'a' ≤ c ∧ c ≤ 'f' then some (c.toNat - 87)
  else if 'A' ≤ c ∧ c ≤ 'F' then some (c.toNat - 55)
  else none

/-- The character of a one-letter escape. -/
def shortEscape? (c : Char) : Option Char :=
  match c with
  | '"' => some '"'
  | '\\' => some '\\'
  | '/' => some '/'
  | 'b' => some '\x08'
  | 'f' => some '\x0c'
  | 'n' => some '\n'
  | 'r' => some '\r'
  | 't' => some '\t'
  | _ => none

/-- A number after its sign: no superfluous zero, and digits on both sides of a point. -/
def unsignedText? (negative : Bool) : List Char → Option DecimalText
  | [] => none
  | first :: more =>
    if !first.isDigit then none
    else if first == '0' && more.head?.any Char.isDigit then none
    else
      match decimalText? negative (first :: more) with
      | none => none
      | some t => if t.fraction.isEmpty && (first :: more).contains '.' then none else some t

/-- A number: no blank and no plus sign in front. -/
def numberText? : List Char → Option DecimalText
  | '-' :: body => unsignedText? true body
  | body => unsignedText? false body

/-- What the machine is reading.  Lists hold the last character first. -/
inductive Mode
  | between
  | word (letters : List Char)
  | number (chars : List Char)
  | string (pieces : List Piece)
  | escape (pieces : List Piece)
  | hex (pieces : List Piece) (missing value : Nat)

/-- The token of a word. -/
def wordToken? (letters : List Char) : Option Token :=
  if letters = ['l', 'l', 'u', 'n'] then some .null
  else if letters = ['e', 'u', 'r', 't'] then some (.bool true)
  else if letters = ['e', 's', 'l', 'a', 'f'] then some (.bool false)
  else none

def isNumberChar (c : Char) : Bool :=
  c.isDigit || c == '-' || c == '+' || c == '.' || c == 'e' || c == 'E'

/-- A character where a token may start. -/
def startToken (c : Char) : Option (Mode × List Token) :=
  if isSpace c then some (.between, [])
  else if c = '\x7b' then some (.between, [.openObject])
  else if c = '\x7d' then some (.between, [.closeObject])
  else if c = '[' then some (.between, [.openArray])
  else if c = ']' then some (.between, [.closeArray])
  else if c = ':' then some (.between, [.colon])
  else if c = ',' then some (.between, [.comma])
  else if c = '"' then some (.string [], [])
  else if c.isLower then some (.word [c], [])
  else if c.isDigit || c == '-' then some (.number [c], [])
  else none

/-- One character: the next mode and the tokens that end here. -/
def Mode.step : Mode → Char → Option (Mode × List Token)
  | between, c => startToken c
  | word letters, c =>
    if c.isLower then some (.word (c :: letters), [])
    else do
      let token ← wordToken? letters
      let (mode, tokens) ← startToken c
      some (mode, token :: tokens)
  | number chars, c =>
    if isNumberChar c then some (.number (c :: chars), [])
    else do
      let text ← numberText? chars.reverse
      let (mode, tokens) ← startToken c
      some (mode, .number text :: tokens)
  | string pieces, c =>
    if c = '"' then some (.between, [.string pieces.reverse])
    else if c = '\\' then some (.escape pieces, [])
    else if c.toNat < 0x20 then none
    else some (.string (.char c :: pieces), [])
  | escape pieces, c =>
    if c = 'u' then some (.hex pieces 4 0, [])
    else (shortEscape? c).map fun d => (.string (.char d :: pieces), [])
  | hex pieces missing value, c =>
    (hexValue? c).map fun d =>
      let value := value * 16 + d
      if missing ≤ 1 then (.string (.unit value :: pieces), [])
      else (.hex pieces (missing - 1) value, [])

/-- The tokens that the end of the text completes. -/
def Mode.finish : Mode → Option (List Token)
  | between => some []
  | word letters => (wordToken? letters).map ([·])
  | number chars => (numberText? chars.reverse).map fun t => [.number t]
  | _ => none

/-- The tokens of the rest of a text. -/
def tokensFrom (mode : Mode) : List Char → Option (List Token)
  | [] => mode.finish
  | c :: rest =>
    match mode.step c with
    | none => none
    | some (next, out) => (tokensFrom next rest).map (out ++ ·)

/-- The tokens of a text. -/
def tokens? (s : String) : Option (List Token) := tokensFrom .between s.toList

end ChatAssistant.Json
