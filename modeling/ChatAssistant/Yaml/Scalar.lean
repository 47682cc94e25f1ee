import ChatAssistant.Yaml.Token

/-!
# Reading scalars

Plain, quoted and block scalars, each read character by character from a cursor.  Line ends inside a
scalar are folded: a single line feed becomes a space, and of several the first is dropped.
-/

namespace ChatAssistant.Yaml

/-! ## White space inside a scalar -/

/-- White space that has been read but does not belong to the text yet: none, blanks on a line, or
line ends.  `first` is the first line end, which a quoted scalar may escape; the lists hold the last
character first. -/
inductive Gap
  | none
  | blanks (chars : List Char)
  | breaks (first : Option Char) (more : List Char)

/-- What a gap stands for, last character first. -/
def Gap.folded : Gap → List Char
  | none => []
  | blanks chars => chars
  | breaks first more =>
    if first = some '\n' then (if more.isEmpty then [' '] else more)
    else more ++ first.toList

def Gap.addBreak (gap : Gap) (c : Char) : Gap :=
  match gap with
  | breaks first more => .breaks first (c :: more)
  | _ => .breaks (some c) []

def Gap.addBlank (gap : Gap) (c : Char) : Gap :=
  match gap with
  | none => .blanks [c]
  | blanks chars => .blanks (c :: chars)
  | breaks first more => .breaks first more

def Gap.isNone : Gap → Bool
  | none => true
  | _ => false

def Gap.isBreaks : Gap → Bool
  | breaks _ _ => true
  | _ => false

/-! ## Plain scalars -/

/-- A character that ends a plain scalar inside brackets. -/
def isFlowEnd (c : Char) : Bool :=
  c == ',' || c == '[' || c == ']' || c == '\x7b' || c == '\x7d'

/-- A character that may not follow a colon inside brackets. -/
def isFlowMark (c : Char) : Bool := isFlowEnd c || c == '?'

/-- The text of a plain scalar, whether it ends with line ends behind it, and the place of its end.
`indent` is the least column of a continuation line outside brackets. -/
def plainFrom (inFlow : Bool) (indent : Int) (text : List Char) (gap : Gap) (cursor : Cursor) :
    List Char → Option (List Char × Bool × Cursor)
  | [] => some (text, gap.isBreaks, cursor)
  | c :: rest =>
    if isBlank c then
      if gap.isBreaks && c == '\t' && cursor.column < indent then none
      else plainFrom inFlow indent text (gap.addBlank c) (cursor.along rest) rest
    else if isBreak c then
      plainFrom inFlow indent text (gap.addBreak c) (cursor.newLine rest) rest
    else if !gap.isNone &&
        ((!inFlow && cursor.column < indent) || cursor.atDocumentMark || c == '#') then
      some (text, gap.isBreaks, cursor)
    else if inFlow && c == ':' && rest.head?.any isFlowMark then none
    else if (c == ':' && endsWord rest) || (inFlow && isFlowEnd c) then
      some (text, gap.isBreaks, cursor)
    else plainFrom inFlow indent (c :: (gap.folded ++ text)) .none (cursor.along rest) rest

/-! ## Quoted scalars -/

/-- What is being read between quotes: text, an escape, or the digits of an escape. -/
inductive QuoteMode
  | text
  | escape
  | code (missing value : Nat)

/-- The value of a hexadecimal digit. -/
def hexDigit? (c : Char) : Option Nat :=
  if c.isDigit then some (c.toNat - 48)
  else if 'a' ≤ c ∧ c ≤ 'f' then some (c.toNat - 87)
  else if 'A' ≤ c ∧ c ≤ 'F' then some (c.toNat - 55)
  else none

/-- The character of an escape of one letter. -/
def escapedChar? (c : Char) : Option Char :=
  match c with
  | '0' => some '\x00'
  | 'a' => some '\x07'
  | 'b' => some '\x08'
  | 't' | '\t' => some '\t'
  | 'n' => some '\n'
  | 'v' => some '\x0b'
  | 'f' => some '\x0c'
  | 'r' => some '\r'
  | 'e' => some '\x1b'
  | ' ' => some ' '
  | '"' => some '"'
  | '/' => some '/'
  | '\\' => some '\\'
  | 'N' => some '\u0085'
  | '_' => some '\u00A0'
  | 'L' => some '\u2028'
  | 'P' => some '\u2029'
  | _ => none

/-- The number of digits of an escape by code. -/
def codeLength? (c : Char) : Option Nat :=
  match c with
  | 'x' => some 2
  | 'u' => some 4
  | 'U' => some 8
  | _ => none

/-- The character of a code, where there is one. -/
def charOfCode? (n : Nat) : Option Char :=
  if h : n.isValidChar then some (Char.ofNatAux n h) else none

/-- The text between double quotes, and the place after the closing one. -/
def doubleQuotedFrom (mode : QuoteMode) (text : List Char) (gap : Gap) (cursor : Cursor) :
    List Char → Option (List Char × Cursor)
  | [] => none
  | c :: rest =>
    match mode with
    | .code missing value => do
      let d ← hexDigit? c
      let value := value * 16 + d
      if missing ≤ 1 then
        let char ← charOfCode? value
        doubleQuotedFrom .text (char :: text) .none (cursor.along rest) rest
      else doubleQuotedFrom (.code (missing - 1) value) text .none (cursor.along rest) rest
    | .escape =>
      if isBreak c then doubleQuotedFrom .text text (.breaks none []) (cursor.newLine rest) rest
      else
        match escapedChar? c, codeLength? c with
        | some char, _ => doubleQuotedFrom .text (char :: text) .none (cursor.along rest) rest
        | none, some digits => doubleQuotedFrom (.code digits 0) text .none (cursor.along rest) rest
        | none, none => none
    | .text =>
      if isBlank c then doubleQuotedFrom .text text (gap.addBlank c) (cursor.along rest) rest
      else if isBreak c then
        doubleQuotedFrom .text text (gap.addBreak c) (cursor.newLine rest) rest
      else if cursor.atDocumentMark then none
      else
        let text := gap.folded ++ text
        if c = '"' then some (text, cursor.along rest)
        else if c = '\\' then doubleQuotedFrom .escape text .none (cursor.along rest) rest
        else doubleQuotedFrom .text (c :: text) .none (cursor.along rest) rest

/-- The text between single quotes, and the place after the closing one.  `closing` says that the
character before was a quote that may be the first of two. -/
def singleQuotedFrom (closing : Bool) (text : List Char) (gap : Gap) (cursor : Cursor) :
    List Char → Option (List Char × Cursor)
  | [] => if closing then some (text, cursor) else none
  | c :: rest =>
    if closing then
      if c = '\'' then singleQuotedFrom false ('\'' :: text) .none (cursor.along rest) rest
      else some (text, cursor)
    else if isBlank c then singleQuotedFrom false text (gap.addBlank c) (cursor.along rest) rest
    else if isBreak c then
      singleQuotedFrom false text (gap.addBreak c) (cursor.newLine rest) rest
    else if cursor.atDocumentMark then none
    else
      let text := gap.folded ++ text
      if c = '\'' then singleQuotedFrom true text .none (cursor.along rest) rest
      else singleQuotedFrom false (c :: text) .none (cursor.along rest) rest

/-! ## Block scalars -/

/-- What becomes of the line ends behind a block scalar. -/
inductive Chomping
  | strip
  | clip
  | keep
  deriving DecidableEq

/-- The sign of a block scalar and the indentation that it states. -/
structure BlockHeader where
  chomping : Chomping
  increment : Option Nat

/-- The chomping that a sign means. -/
def chomping? (c : Char) : Option Chomping :=
  match c with
  | '+' => some .keep
  | '-' => some .strip
  | _ => none

/-- A digit of a block header other than zero; a zero is refused. -/
def increment? (cs : List Char) : Option (Option Nat × List Char) :=
  match cs with
  | c :: rest =>
    if c.isDigit then (if c = '0' then none else some (some (c.toNat - 48), rest))
    else some (none, cs)
  | [] => some (none, [])

/-- The header behind `|` or `>`: a sign and a digit in either order. -/
def blockHeader? (cs : List Char) : Option (BlockHeader × List Char) :=
  match cs.head?.bind chomping? with
  | some chomping => do
    let (increment, rest) ← increment? cs.tail
    some (⟨chomping, increment⟩, rest)
  | none => do
    let (increment, rest) ← increment? cs
    match increment, rest.head?.bind chomping? with
    | some _, some chomping => some (⟨chomping, increment⟩, rest.tail)
    | _, _ => some (⟨.clip, increment⟩, rest)

/-- A block scalar under way.  Lists hold the last character first. -/
structure BlockState where
  text : List Char
  /-- The line end of the last line with content. -/
  lineEnd : List Char
  /-- The line ends after it. -/
  blankEnds : List Char
  /-- The last line with content started with a blank. -/
  afterBlank : Bool
  /-- The column of the content, once it is known. -/
  indent : Option Nat
  /-- The largest column reached by leading spaces. -/
  maxIndent : Nat
  /-- The cursor is inside a line with content. -/
  inLine : Bool

/-- The column of the content; `least` is the least column that it may have. -/
def BlockState.settledIndent (s : BlockState) (least column : Nat) : Nat :=
  match s.indent with
  | some n => n
  | none => max (max s.maxIndent column) least

/-- A line with content begins with the character `c`. -/
def BlockState.openLine (s : BlockState) (folds : Bool) (indent : Nat) (c : Char) : BlockState :=
  let blank := isBlank c
  let joined :=
    if folds && s.lineEnd == ['\n'] && !s.afterBlank && !blank then
      (if s.blankEnds.isEmpty then [' '] else [])
    else s.lineEnd
  { s with
    text := c :: (s.blankEnds ++ joined ++ s.text)
    lineEnd := []
    blankEnds := []
    afterBlank := blank
    indent := some indent
    inLine := true }

/-- The text with the line ends that stay. -/
def BlockState.finish (s : BlockState) (chomping : Chomping) : List Char :=
  match chomping with
  | .strip => s.text
  | .clip => s.lineEnd ++ s.text
  | .keep => s.blankEnds ++ s.lineEnd ++ s.text

/-- The text of a block scalar and the place of its end. -/
def blockFrom (folds : Bool) (chomping : Chomping) (least : Nat) (s : BlockState)
    (cursor : Cursor) : List Char → Option (List Char × Cursor)
  | [] => some (s.finish chomping, cursor)
  | c :: rest =>
    if s.inLine then
      if isBreak c then
        blockFrom folds chomping least { s with lineEnd := [c], inLine := false }
          (cursor.newLine rest) rest
      else
        blockFrom folds chomping least { s with text := c :: s.text } (cursor.along rest) rest
    else
      let before := s.indent.all fun n => decide (cursor.column < n)
      if before && c == ' ' then
        blockFrom folds chomping least s (cursor.along rest) rest
      else if before && c == '\t' then none
      else if isBreak c then
        blockFrom folds chomping least
          { s with blankEnds := c :: s.blankEnds, maxIndent := max s.maxIndent cursor.column }
          (cursor.newLine rest) rest
      else
        let indent := s.settledIndent least cursor.column
        if cursor.column = indent then
          blockFrom folds chomping least (s.openLine folds indent c) (cursor.along rest) rest
        else some (s.finish chomping, cursor)

/-- A block scalar behind its sign, which has been read.  `parent` is the indentation around it. -/
def block? (folds : Bool) (parent : Int) (cursor : Cursor) : Option (List Char × Cursor) := do
  let (header, _) ← blockHeader? cursor.rest
  let signs := (if header.chomping = .clip then 0 else 1) + (if header.increment.isSome then 1 else 0)
  let cursor := (cursor.skip signs).skipWhile isBlank
  let cursor :=
    if cursor.rest.head? = some '#' then cursor.skipWhile (fun c => !isBreak c) else cursor
  let cursor ←
    match cursor.rest with
    | [] => some cursor
    | c :: rest => if isBreak c then some (cursor.newLine rest) else none
  let indent := header.increment.map fun n => if 0 ≤ parent then parent.toNat + n else n
  let least := max 1 (parent + 1).toNat
  blockFrom folds header.chomping least ⟨[], [], [], false, indent, 0, false⟩ cursor cursor.rest

end ChatAssistant.Yaml
