import ChatAssistant.Json.Value
import ChatAssistant.Number.Layout
import ChatAssistant.Text.LowerCase
import ChatAssistant.Yaml.Characters

/-!
# Writing YAML

A table is written in block style, one entry after another in key order.  Every string gets the first
of four styles that keeps it: plain, a literal block where it has line feeds, single quotes, and double
quotes with escapes.
-/

namespace ChatAssistant.Yaml

open ChatAssistant.Number

/-! ## The style of a string -/

/-- A line end in any spelling. -/
def isAnyBreak (c : Char) : Bool := isBreak c || c == '\r' || c == '\u0085'

/-- A character that is written as it is, in every style. -/
def isVisible (c : Char) : Bool :=
  let n := c.toNat
  n == 10 || (0x20 ≤ n && n ≤ 0x7E) || (0xA0 ≤ n && n != 0xFEFF && n != 0xFFFE && n != 0xFFFF)

/-- Words that readers of older documents take for something else than a string. -/
def reservedWords : List String :=
  ["null", "~", "true", "false", "y", "yes", "n", "no", "on", "off", "nan"]

/-- A plain scalar of this spelling might be no string. -/
def isAmbiguous (s : String) : Bool :=
  match s.toList with
  | [] => true
  | c :: _ =>
    c.isDigit || c == '-' || c == '.' || c == '+' || reservedWords.contains (Text.toLower s)

/-- What follows a character separates words. -/
def isSeparatedBy : List Char → Bool
  | [] => true
  | c :: _ => isBlank c || isAnyBreak c || c == '\x00'

/-- An indicator where a plain scalar starts. -/
def startsWithIndicator : List Char → Bool
  | [] => false
  | c :: rest =>
    "#,[]&*!|>'\"%@`".toList.contains c || c == '\x7b' || c == '\x7d' ||
      ((c == '?' || c == ':' || c == '-') && isSeparatedBy rest)

/-- An indicator inside a plain scalar: a colon before a blank, or a number sign behind one. -/
def hasInnerIndicator (afterBlank : Bool) : List Char → Bool
  | [] => false
  | c :: rest =>
    (c == ':' && isSeparatedBy rest) || (c == '#' && afterBlank) ||
      hasInnerIndicator (isSeparatedBy [c]) rest

/-- Two neighbours of which the first and the second are of two kinds. -/
def hasPair (p q : Char → Bool) : List Char → Bool
  | a :: b :: rest => (p a && q b) || hasPair p q (b :: rest)
  | _ => false

def isSpace (c : Char) : Bool := c == ' '

/-- A space in front of a line end, or a character that is not written as it is. -/
def needsEscape (cs : List Char) : Bool :=
  hasPair isSpace isAnyBreak cs || !cs.all isVisible

def plainAllowed (cs : List Char) : Bool :=
  !(needsEscape cs || cs.any isAnyBreak || cs.head?.any isSpace || cs.getLast?.any isSpace ||
    cs.take 3 == "---".toList || cs.take 3 == "...".toList || startsWithIndicator cs ||
    hasInnerIndicator true cs)

def singleAllowed (cs : List Char) : Bool :=
  !(needsEscape cs || hasPair isAnyBreak isSpace cs)

def literalAllowed (cs : List Char) : Bool :=
  !(needsEscape cs || cs.getLast?.any isSpace)

inductive Style
  | plain
  | single
  | double
  | literal
  deriving DecidableEq

/-- The style of a string. -/
def styleOf (s : String) : Style :=
  let cs := s.toList
  if cs.contains '\n' then (if literalAllowed cs then .literal else .double)
  else if !isAmbiguous s && plainAllowed cs then .plain
  else if singleAllowed cs then .single
  else .double

/-! ## Strings -/

def spaces (n : Nat) : List Char := List.replicate n ' '

/-- The text between single quotes.  `atBreak` says that a line end was written last; the next line is
indented. -/
def singleBody (indent : Nat) (atBreak : Bool) : List Char → List Char
  | [] => if atBreak then spaces indent else []
  | c :: rest =>
    if isBreak c then c :: singleBody indent true rest
    else
      (if atBreak then spaces indent else []) ++ (if c = '\'' then ['\'', '\''] else [c]) ++
        singleBody indent false rest

/-- A digit of a number in base sixteen, in capital letters. -/
def upperHex (n : Nat) : Char :=
  if n < 10 then Char.ofNat (48 + n) else Char.ofNat (55 + n)

/-- The last `count` digits of a number in base sixteen. -/
def hexOf (n : Nat) : Nat → List Char
  | 0 => []
  | count + 1 => hexOf (n / 16) count ++ [upperHex (n % 16)]

/-- A character between double quotes. -/
def doubleChar (c : Char) : List Char :=
  match c with
  | '\x00' => ['\\', '0']
  | '\x07' => ['\\', 'a']
  | '\x08' => ['\\', 'b']
  | '\t' => ['\\', 't']
  | '\n' => ['\\', 'n']
  | '\x0b' => ['\\', 'v']
  | '\x0c' => ['\\', 'f']
  | '\r' => ['\\', 'r']
  | '\x1b' => ['\\', 'e']
  | '"' => ['\\', '"']
  | '\\' => ['\\', '\\']
  | '\u0085' => ['\\', 'N']
  | '\u2028' => ['\\', 'L']
  | '\u2029' => ['\\', 'P']
  | c =>
    if isVisible c then [c]
    else if c.toNat ≤ 0xFF then ['\\', 'x'] ++ hexOf c.toNat 2
    else if c.toNat ≤ 0xFFFF then ['\\', 'u'] ++ hexOf c.toNat 4
    else ['\\', 'U'] ++ hexOf c.toNat 8

/-- The signs behind the bar of a literal block: the indentation where the text starts with white
space, and what becomes of the line ends at its end. -/
def literalSigns (cs : List Char) : List Char :=
  let indent := if cs.head?.any (fun c => isSpace c || isAnyBreak c) then ['2'] else []
  let chomping :=
    match cs.reverse with
    | [] => ['-']
    | [c] => if isAnyBreak c then ['+'] else ['-']
    | c :: d :: _ => if !isAnyBreak c then ['-'] else if isAnyBreak d then ['+'] else []
  indent ++ chomping

/-- The lines of a literal block; empty lines are not indented. -/
def literalBody (indent : Nat) (atBreak : Bool) : List Char → List Char
  | [] => if atBreak then [] else ['\n']
  | c :: rest =>
    if isBreak c then c :: literalBody indent true rest
    else (if atBreak then spaces indent else []) ++ c :: literalBody indent false rest

/-- A string on one line, apart from line ends that it keeps. -/
def inlineString (indent : Nat) (style : Style) (s : String) : List Char :=
  match style with
  | .single => '\'' :: (singleBody indent false s.toList ++ ['\''])
  | .double => '"' :: (s.toList.flatMap doubleChar ++ ['"'])
  | _ => s.toList

/-- A string up to the end of its last line; further lines are indented. -/
def writeString (indent : Nat) (s : String) : List Char :=
  match styleOf s with
  | .literal => '|' :: (literalSigns s.toList ++ '\n' :: literalBody indent true s.toList)
  | style => inlineString indent style s ++ ['\n']

/-! ## Values -/

/-- Doubles from `1e-5` to below `1e16` stand with their point in place. -/
def numberLayout : Layout := ⟨fun k => -4 ≤ k && k ≤ 16, true, false⟩

def writeNumber : Json.Number → List Char
  | .int n => if n < 0 then '-' :: Nat.toDigits 10 n.natAbs else Nat.toDigits 10 n.natAbs
  | .float x => (numberLayout.write x).toList

/-- The longest key in bytes that stands in front of its colon. -/
def keyLimit : Nat := 128

/-- A key that stands in front of its colon: one line, and not too long. -/
def isSimpleKey (key : String) : Bool :=
  !key.toList.any isAnyBreak && decide (key.utf8ByteSize ≤ keyLimit)

/-- A collection with entries of its own lines. -/
def isBlockSequence : Json.Value → Bool
  | .array (_ :: _) => true
  | _ => false

def isBlockMapping : Json.Value → Bool
  | .object (_ :: _) => true
  | _ => false

/-- A key and its value, which `written` writes with further lines at a column.  A list stands right
below a simple key, a mapping further right. -/
def placeEntry (indent : Nat) (key : String) (value : Json.Value)
    (written : Nat → List Char) : List Char :=
  if isSimpleKey key then
    let line := inlineString (indent + 2) (styleOf key) key ++ [':']
    if isBlockSequence value then line ++ '\n' :: (spaces indent ++ written indent)
    else if isBlockMapping value then line ++ '\n' :: (spaces (indent + 2) ++ written (indent + 2))
    else line ++ ' ' :: written (indent + 2)
  else
    '?' :: ' ' :: (writeString (indent + 2) key ++
      (spaces indent ++ ':' :: ' ' :: written (indent + 2)))

mutual

/-- A value up to the end of its last line, from a place in column `indent` or behind a sign on its
line; further lines start at column `indent`, and text inside a scalar two columns further right than
`outer`. -/
def writeValue (outer indent : Nat) : Json.Value → List Char
  | .null => "null\n".toList
  | .bool true => "true\n".toList
  | .bool false => "false\n".toList
  | .number n => writeNumber n ++ ['\n']
  | .string s => writeString (outer + 2) s
  | .array items => if items.isEmpty then "[]\n".toList else writeItems indent true items
  | .object members =>
    if members.isEmpty then "\x7b\x7d\n".toList else writeEntries indent true members

/-- Items, each on lines of its own; the first stands at its column already. -/
def writeItems (indent : Nat) (first : Bool) : List Json.Value → List Char
  | [] => []
  | item :: rest =>
    (if first then [] else spaces indent) ++ '-' :: ' ' ::
      (writeValue indent (indent + 2) item ++ writeItems indent false rest)

/-- Entries, each on lines of its own; the first stands at its column already. -/
def writeEntries (indent : Nat) (first : Bool) : List (String × Json.Value) → List Char
  | [] => []
  | (key, value) :: rest =>
    (if first then [] else spaces indent) ++
      (placeEntry indent key value (fun inner => writeValue indent inner value) ++
        writeEntries indent false rest)

end

/-- The text of a table. -/
def printTable (t : Table Json.Value) : String :=
  String.ofList (writeValue 0 0 (.object t))

end ChatAssistant.Yaml
