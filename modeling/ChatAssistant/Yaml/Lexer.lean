import ChatAssistant.Text.Utf8
import ChatAssistant.Yaml.Scalar

/-!
# The tokens of a stream

Tokens are read one after another.  A mapping key is recognised only by the colon behind it, so every
place where a key may start is kept in mind, and the tokens of the key are put in front of it when the
colon is met.
-/

namespace ChatAssistant.Yaml

/-- A place where a key may have started. -/
structure KeyStart where
  /-- A line that starts here must turn out to be a key. -/
  required : Bool
  /-- How many tokens stand before it. -/
  tokens : Nat
  index : Nat
  line : Nat
  column : Nat

/-- The state between two tokens. -/
structure Lexer where
  cursor : Cursor
  /-- The column of the innermost block collection, or -1. -/
  indent : Int
  /-- The columns of the collections around it. -/
  outer : List Int
  /-- A key may start here. -/
  keyAllowed : Bool
  /-- The last place where a key may have started, on each level of brackets, innermost first. -/
  keys : List (Option KeyStart)
  /-- The tokens so far, the last one first. -/
  out : List Token
  count : Nat

namespace Lexer

def start (cs : List Char) : Lexer := ⟨⟨cs, 0, 0, 0⟩, -1, [], true, [none], [], 0⟩

def inFlow (s : Lexer) : Bool := 1 < s.keys.length

def emit (s : Lexer) (token : Token) : Lexer :=
  { s with out := token :: s.out, count := s.count + 1 }

/-- Puts a token in front of the tokens from the given number on. -/
def insertAt (s : Lexer) (number : Nat) (token : Token) : Lexer :=
  let later := s.count - number
  { s with out := s.out.take later ++ token :: s.out.drop later, count := s.count + 1 }

/-! ## Indentation and keys -/

/-- Opens a block collection where the column is further right than the one around it. -/
def roll (s : Lexer) (column : Nat) (number : Nat) (token : Token) : Lexer :=
  if s.inFlow || decide ((column : Int) ≤ s.indent) then s
  else ({ s with indent := column, outer := s.indent :: s.outer }).insertAt number token

/-- Closes the block collections that lie right of a column. -/
def unrollFrom (column : Int) : List Int → Lexer → Lexer
  | [], s => s
  | parent :: rest, s =>
    if column < s.indent then
      unrollFrom column rest ({ s with indent := parent, outer := rest }.emit .blockEnd)
    else s

def unroll (s : Lexer) (column : Int) : Lexer :=
  if s.inFlow then s else unrollFrom column s.outer s

/-- A place is too far back for a key: on another line, or more than 1024 characters away. -/
def isStale (cursor : Cursor) (key : KeyStart) : Bool :=
  decide (key.line < cursor.line) || decide (key.index + 1024 < cursor.index)

/-- Forgets the places that are too far back; one that had to be a key is an error. -/
def dropStale (s : Lexer) : Option Lexer := do
  let keys ← s.keys.mapM fun key =>
    match key with
    | none => some none
    | some k =>
      if isStale s.cursor k then (if k.required then none else some none) else some (some k)
  some { s with keys }

/-- Forgets the place on the innermost level; one that had to be a key is an error. -/
def dropKey (s : Lexer) : Option Lexer :=
  match s.keys with
  | some k :: rest => if k.required then none else some { s with keys := none :: rest }
  | _ => some s

/-- Keeps this place in mind where a key may start. -/
def saveKey (s : Lexer) : Option Lexer :=
  if s.keyAllowed then do
    let required := !s.inFlow && s.indent == s.cursor.column
    let s ← s.dropKey
    some { s with
      keys := some ⟨required, s.count, s.cursor.index, s.cursor.line, s.cursor.column⟩ ::
        s.keys.tail }
  else some s

/-! ## White space and comments -/

/-- The place of the next token, and whether a line end was passed.  A tab counts as white space
where no key may start. -/
def blankFrom (inFlow keyAllowed inComment : Bool) (cursor : Cursor) :
    List Char → Cursor × Bool
  | [] => (cursor, keyAllowed)
  | c :: rest =>
    if isBreak c then
      blankFrom inFlow (keyAllowed || !inFlow) false (cursor.newLine rest) rest
    else if inComment then blankFrom inFlow keyAllowed true (cursor.along rest) rest
    else if c = byteOrderMark ∧ cursor.column = 0 then
      blankFrom inFlow keyAllowed false (cursor.along rest) rest
    else if c = ' ' ∨ (c = '\t' ∧ (inFlow ∨ !keyAllowed)) then
      blankFrom inFlow keyAllowed false (cursor.along rest) rest
    else if c = '#' then blankFrom inFlow keyAllowed true (cursor.along rest) rest
    else (cursor, keyAllowed)

def skipBlank (s : Lexer) : Lexer :=
  let (cursor, keyAllowed) := blankFrom s.inFlow s.keyAllowed false s.cursor s.cursor.rest
  { s with cursor, keyAllowed }

/-! ## Directives -/

/-- A number of at most nine digits. -/
def number? (cursor : Cursor) : Option (Nat × Cursor) :=
  let digits := cursor.rest.takeWhile Char.isDigit
  if digits.isEmpty || 9 < digits.length then none
  else some (digits.foldl (fun n c => n * 10 + (c.toNat - 48)) 0, cursor.skip digits.length)

/-- A character that a tag may hold. -/
def isTagChar (verbatim : Bool) (c : Char) : Bool :=
  isNameChar c || ";/?:@&=+$.%!~*'()".toList.contains c ||
    (verbatim && (c == ',' || c == '[' || c == ']'))

/-- The bytes of a tag and the rest of the text.  A percent sign starts a byte in hexadecimal;
`missing` bytes of a character are still to come, each as an escape. -/
def tagBytes (verbatim : Bool) (missing : Nat) : List Char → Option (List Nat × List Char)
  | [] => if missing = 0 then some ([], []) else none
  | '%' :: a :: b :: rest => do
    let high ← hexDigit? a
    let low ← hexDigit? b
    let byte := high * 16 + low
    let missing ←
      if 0 < missing then (if byte / 64 = 2 then some (missing - 1) else none)
      else if byte < 0x80 then some 0
      else if byte / 32 = 6 then some 1
      else if byte / 16 = 14 then some 2
      else if byte / 8 = 30 then some 3
      else none
    let (bytes, rest) ← tagBytes verbatim missing rest
    some (byte :: bytes, rest)
  | c :: rest =>
    if 0 < missing ∨ c = '%' then none
    else if isTagChar verbatim c then do
      let (bytes, rest) ← tagBytes verbatim 0 rest
      some (c.toNat :: bytes, rest)
    else some ([], c :: rest)

/-- The part of a tag that is not its handle, and the place after it. -/
def tagText? (verbatim : Bool) (cursor : Cursor) : Option (String × Cursor) := do
  let (bytes, rest) ← tagBytes verbatim 0 cursor.rest
  let text := Text.Utf8.decodeLenient bytes
  some (text, cursor.skip (cursor.rest.length - rest.length))

/-- The characters from an exclamation mark on that may be a handle: name characters, and a second
exclamation mark. -/
def handleChars (cursor : Cursor) : List Char :=
  let name := cursor.rest.tail.takeWhile isNameChar
  let close := if (cursor.rest.tail.dropWhile isNameChar).head? = some '!' then ['!'] else []
  '!' :: name ++ close

/-- A handle between two exclamation marks. -/
def isHandle (handle : List Char) : Bool :=
  1 < handle.length && handle.getLast? == some '!'

/-- A directive behind its percent sign. -/
def directive? (cursor : Cursor) : Option (Token × Cursor) := do
  let name := cursor.rest.takeWhile isNameChar
  let cursor := cursor.skip name.length
  if name.isEmpty || !endsWord cursor.rest then none
  else if name = "YAML".toList then do
    let (major, cursor) ← number? (cursor.skipWhile isBlank)
    if cursor.rest.head? = some '.' then do
      let (minor, cursor) ← number? (cursor.skip 1)
      some (.version major minor, cursor)
    else none
  else if name = "TAG".toList then do
    let cursor := cursor.skipWhile isBlank
    if cursor.rest.head? = some '!' then do
      let handle := handleChars cursor
      let cursor := cursor.skip handle.length
      if !(isHandle handle || handle = ['!']) || !(cursor.rest.head?.any isBlank) then none
      else do
        let (uri, cursor) ← tagText? true (cursor.skipWhile isBlank)
        if uri.isEmpty || !endsWord cursor.rest then none
        else some (.tagHandle (String.ofList handle) uri, cursor)
    else none
  else none

/-- The place after the rest of a line that holds at most a comment. -/
def restOfLine? (cursor : Cursor) : Option Cursor :=
  let cursor := cursor.skipWhile isBlank
  let cursor :=
    if cursor.rest.head? = some '#' then cursor.skipWhile (fun c => !isBreak c) else cursor
  match cursor.rest with
  | [] => some cursor
  | c :: rest => if isBreak c then some (cursor.newLine rest) else none

/-! ## Anchors and tags -/

/-- A character that may follow the name of an anchor without a blank. -/
def endsName (cs : List Char) : Bool :=
  endsWord cs || cs.head?.any fun c => "?:,]%@`".toList.contains c || c == '\x7d'

/-- The name of an anchor or an alias behind its sign. -/
def name? (cursor : Cursor) : Option (String × Cursor) :=
  let name := cursor.rest.takeWhile isNameChar
  let cursor := cursor.skip name.length
  if name.isEmpty || !endsName cursor.rest then none
  else some (String.ofList name, cursor)

/-- A tag at its exclamation mark. -/
def tag? (inFlow : Bool) (cursor : Cursor) : Option (Token × Cursor) := do
  let (token, cursor) ←
    match cursor.rest with
    | '!' :: '<' :: _ => do
      let (text, cursor) ← tagText? true (cursor.skip 2)
      if text.isEmpty || cursor.rest.head? != some '>' then none
      else some (Token.tag "" text, cursor.skip 1)
    | _ => do
      let handle := handleChars cursor
      if isHandle handle then do
        let (text, cursor) ← tagText? false (cursor.skip handle.length)
        if text.isEmpty then none else some (Token.tag (String.ofList handle) text, cursor)
      else do
        let (text, cursor) ← tagText? false (cursor.skip 1)
        if text.isEmpty then some (Token.tag "" "!", cursor)
        else some (Token.tag "!" text, cursor)
  if endsWord cursor.rest || (inFlow && cursor.rest.head? == some ',') then some (token, cursor)
  else none

/-! ## One token -/

/-- An indicator of one character at this place. -/
def indicator (s : Lexer) (token : Token) : Lexer :=
  { s with cursor := s.cursor.skip 1 }.emit token

/-- A directive or a mark between documents, before which all block collections are closed. -/
def leaveDocument (s : Lexer) : Option Lexer := do
  let s ← (s.unroll (-1)).dropKey
  some { s with keyAllowed := false }

def fetchDirective (s : Lexer) : Option Lexer := do
  let s ← s.leaveDocument
  let (token, cursor) ← directive? (s.cursor.skip 1)
  let cursor ← restOfLine? cursor
  some ({ s with cursor }.emit token)

def fetchDocumentMark (s : Lexer) (token : Token) : Option Lexer := do
  let s ← s.leaveDocument
  some ({ s with cursor := s.cursor.skip 3 }.emit token)

def openFlow (s : Lexer) (token : Token) : Option Lexer := do
  let s ← s.saveKey
  some ({ s with keys := none :: s.keys, keyAllowed := true }.indicator token)

def closeFlow (s : Lexer) (token : Token) : Option Lexer := do
  let s ← s.dropKey
  let keys := if s.inFlow then s.keys.tail else s.keys
  some ({ s with keys, keyAllowed := false }.indicator token)

def fetchFlowEntry (s : Lexer) : Option Lexer := do
  let s ← s.dropKey
  some ({ s with keyAllowed := true }.indicator .flowEntry)

def fetchBlockEntry (s : Lexer) : Option Lexer := do
  if !s.inFlow && !s.keyAllowed then none
  else do
    let s ← (s.roll s.cursor.column s.count .blockSequence).dropKey
    some ({ s with keyAllowed := true }.indicator .blockEntry)

def fetchKey (s : Lexer) : Option Lexer := do
  if !s.inFlow && !s.keyAllowed then none
  else do
    let s ← (s.roll s.cursor.column s.count .blockMapping).dropKey
    some ({ s with keyAllowed := !s.inFlow }.indicator .key)

/-- A colon: behind a key, the tokens of the key are put in front of it. -/
def fetchValue (s : Lexer) : Option Lexer :=
  match s.keys with
  | some k :: rest =>
    let s := (s.insertAt k.tokens .key).roll k.column k.tokens .blockMapping
    some ({ s with keys := none :: rest, keyAllowed := false }.indicator .value)
  | _ =>
    if !s.inFlow && !s.keyAllowed then none
    else
      let s := s.roll s.cursor.column s.count .blockMapping
      some ({ s with keyAllowed := !s.inFlow }.indicator .value)

def fetchName (s : Lexer) (token : String → Token) : Option Lexer := do
  let s ← s.saveKey
  let (name, cursor) ← name? (s.cursor.skip 1)
  some ({ s with cursor, keyAllowed := false }.emit (token name))

def fetchTag (s : Lexer) : Option Lexer := do
  let s ← s.saveKey
  let (token, cursor) ← tag? s.inFlow s.cursor
  some ({ s with cursor, keyAllowed := false }.emit token)

def fetchBlockScalar (s : Lexer) (folds : Bool) : Option Lexer := do
  let s ← s.dropKey
  let (text, cursor) ← block? folds s.indent (s.cursor.skip 1)
  some ({ s with cursor, keyAllowed := true }.emit (.scalar false (String.ofList text.reverse)))

def fetchQuoted (s : Lexer) (isDouble : Bool) : Option Lexer := do
  let s ← s.saveKey
  let cursor := s.cursor.skip 1
  let (text, cursor) ←
    if isDouble then doubleQuotedFrom .text [] .none cursor cursor.rest
    else singleQuotedFrom false [] .none cursor cursor.rest
  some ({ s with cursor, keyAllowed := false }.emit (.scalar false (String.ofList text.reverse)))

def fetchPlain (s : Lexer) : Option Lexer := do
  let s ← s.saveKey
  let (text, atBreak, cursor) ←
    plainFrom s.inFlow (s.indent + 1) [] .none s.cursor s.cursor.rest
  some ({ s with cursor, keyAllowed := atBreak }.emit (.scalar true (String.ofList text.reverse)))

/-- A character that starts no plain scalar by itself. -/
def isIndicator (c : Char) : Bool :=
  "-?:,[]#&*!|>'\"%@`".toList.contains c || c == '\x7b' || c == '\x7d'

/-- Reads the token that starts with the character `c`, before `rest`. -/
def fetch (s : Lexer) (c : Char) (rest : List Char) : Option Lexer :=
  if s.cursor.column = 0 ∧ c = '%' then s.fetchDirective
  else if s.cursor.atDocumentMark then
    s.fetchDocumentMark (if c = '-' then .documentStart else .documentEnd)
  else if c = '[' then s.openFlow .openSequence
  else if c = '\x7b' then s.openFlow .openMapping
  else if c = ']' then s.closeFlow .closeSequence
  else if c = '\x7d' then s.closeFlow .closeMapping
  else if c = ',' then s.fetchFlowEntry
  else if c = '-' ∧ endsWord rest then s.fetchBlockEntry
  else if c = '?' ∧ (s.inFlow ∨ endsWord rest) then s.fetchKey
  else if c = ':' ∧ (s.inFlow ∨ endsWord rest) then s.fetchValue
  else if c = '*' then s.fetchName .aliasOf
  else if c = '&' then s.fetchName .anchor
  else if c = '!' then s.fetchTag
  else if c = '|' ∧ !s.inFlow then s.fetchBlockScalar false
  else if c = '>' ∧ !s.inFlow then s.fetchBlockScalar true
  else if c = '\'' then s.fetchQuoted false
  else if c = '"' then s.fetchQuoted true
  else if !(isBlank c || isIndicator c) || (c = '-' && !(rest.head?.any isBlank)) ||
      (!s.inFlow && (c == '?' || c == ':')) then s.fetchPlain
  else none

/-- The end of the stream closes everything that is open. -/
def finish (s : Lexer) : Option Lexer := do
  let s := if s.cursor.column = 0 then s else { s with cursor := s.cursor.newLine [] }
  let s ← (s.unroll (-1)).dropKey
  some s

/-- Reads tokens to the end of the stream.  Every token takes a character at least, so `fuel` is the
number of characters and one more. -/
def run : Nat → Lexer → Option Lexer
  | 0, _ => none
  | fuel + 1, s => do
    let s ← s.skipBlank.dropStale
    let s := s.unroll s.cursor.column
    match s.cursor.rest with
    | [] => s.finish
    | c :: rest => do
      let s ← s.fetch c rest
      run fuel s

end Lexer

/-- The tokens of a stream of readable characters; a byte order mark at its start is no part of
it. -/
def tokens? (cs : List Char) : Option (List Token) :=
  let cs := if cs.head? = some byteOrderMark then cs.tail else cs
  if cs.all isReadable then
    let cs := unifyBreaks cs
    (Lexer.run (cs.length + 1) (Lexer.start cs)).map fun s => s.out.reverse
  else none

end ChatAssistant.Yaml
