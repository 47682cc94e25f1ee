import ChatAssistant.Json.Value
import ChatAssistant.Number.Decimal
import ChatAssistant.Yaml.Node

/-!
# The values of YAML documents

A plain scalar is null, a truth value, a number or a string by its spelling; a quoted one is a string.
A tag of the core schema asks for one kind; a tag of the document's own is refused.  A document is
nested at most 128 levels deep, and follows at most a hundred aliases for each of its events.
-/

namespace ChatAssistant.Yaml

open ChatAssistant.Number

/-! ## Scalars -/

/-- The number that digits of a radix write. -/
def natOfRadix? (radix : Nat) (cs : List Char) : Option Nat :=
  if cs.isEmpty then none
  else cs.foldlM (fun n c => do
    let d ← hexDigit? c
    if d < radix then some (n * radix + d) else none) 0

/-- More than one digit, and a zero in front: no number. -/
def isZeroPadded (cs : List Char) : Bool :=
  let body :=
    match cs with
    | '-' :: rest => rest
    | '+' :: rest => rest
    | _ => cs
  match body with
  | '0' :: rest => !rest.isEmpty && rest.all Char.isDigit
  | _ => false

/-- Digits with the mark of a radix, or decimal digits. -/
def magnitude? (cs : List Char) : Option Nat :=
  match cs with
  | '0' :: 'x' :: rest => natOfRadix? 16 rest
  | '0' :: 'o' :: rest => natOfRadix? 8 rest
  | '0' :: 'b' :: rest => natOfRadix? 2 rest
  | _ => if isZeroPadded cs then none else natOfRadix? 10 cs

/-- The integer of a spelling. -/
def integer? (cs : List Char) : Option Int :=
  match cs with
  | '-' :: rest => (magnitude? rest).map fun n => -(n : Int)
  | '+' :: rest => (magnitude? rest).map Int.ofNat
  | _ => (magnitude? cs).map Int.ofNat

/-- The double of a spelling, which may be infinite or no number only in the words for that. -/
def double? (cs : List Char) : Option (Extended double) :=
  let body? :=
    match cs with
    | '+' :: '+' :: _ => none
    | '+' :: '-' :: _ => none
    | '+' :: rest => some rest
    | _ => some cs
  match body? with
  | none => none
  | some body =>
    let word := String.ofList body
    let whole := String.ofList cs
    if [".inf", ".Inf", ".INF"].contains word then some (.infinite false)
    else if ["-.inf", "-.Inf", "-.INF"].contains whole then some (.infinite true)
    else if [".nan", ".NaN", ".NAN"].contains whole then some .nan
    else
      match Extended.ofText? double word with
      | some (.finite x) => some (.finite x)
      | _ => none

def isNullWord (s : String) : Bool := ["null", "Null", "NULL", "~"].contains s

def boolWord? (s : String) : Option Bool :=
  if ["true", "True", "TRUE"].contains s then some true
  else if ["false", "False", "FALSE"].contains s then some false
  else none

/-- The value of a double: what is not finite is null. -/
def doubleValue : Extended double → Json.Value
  | .finite x => .number (.float x)
  | _ => .null

/-- Integers that a number holds: from `-2 ^ 63` to `2 ^ 64 - 1`. -/
def fitsNumber (n : Int) : Bool :=
  decide (-0x8000000000000000 ≤ n) && decide (n < 0x10000000000000000)

/-- Integers that are refused where they fit no number: from `-2 ^ 127` to `2 ^ 128 - 1`.  Beyond them
a spelling is no integer. -/
def fitsWide (n : Int) : Bool :=
  decide (-0x80000000000000000000000000000000 ≤ n) &&
    decide (n < 0x100000000000000000000000000000000)

/-- What a spelling says about an integer: nothing, that it is refused, or its value. -/
def integerValue? (cs : List Char) : Option (Option Json.Value) :=
  match integer? cs with
  | none => none
  | some n =>
    if fitsNumber n then some (some (.number (.int n)))
    else if fitsWide n then some none
    else none

/-- The value of a plain scalar. -/
def plainValue? (s : String) : Option Json.Value :=
  if s.isEmpty || isNullWord s then some .null
  else
    match boolWord? s, integerValue? s.toList with
    | some b, _ => some (.bool b)
    | none, some result => result
    | none, none =>
      if isZeroPadded s.toList then some (.string s)
      else
        match double? s.toList with
        | some x => some (doubleValue x)
        | none => some (.string s)

/-- A tag of the core schema. -/
def coreTag (name : String) : String := "tag:yaml.org,2002:" ++ name

/-- A tag of the document's own. -/
def isLocalTag (tag : String) : Bool := tag.toList.head? == some '!'

/-- The value of a scalar. -/
def scalarValue? (tag : Option String) (isPlain : Bool) (s : String) : Option Json.Value :=
  match tag with
  | none => if isPlain then plainValue? s else some (.string s)
  | some tag =>
    if isLocalTag tag then none
    else if tag = coreTag "bool" then (boolWord? s).map .bool
    else if tag = coreTag "int" then (integerValue? s.toList).join
    else if tag = coreTag "float" then (double? s.toList).map doubleValue
    else if tag = coreTag "null" then (if isNullWord s then some .null else none)
    else some (.string s)

/-! ## Nodes -/

namespace Node

/-- The node itself, or the one that it stands for.  `jumps` aliases may still be followed. -/
def target? (slots : Nat → Option Node) (jumps : Nat) : Node → Option (Node × Nat)
  | aliasOf slot =>
    match jumps with
    | 0 => none
    | left + 1 => (slots slot).map fun node => (node, left)
  | node => some (node, jumps)

/-- The text of a key, which is a scalar. -/
def keyText? (slots : Nat → Option Node) (jumps : Nat) (node : Node) : Option (String × Nat) := do
  let (node, jumps) ← target? slots jumps node
  match node with
  | scalar _ _ _ text => some (text, jumps)
  | _ => none

def hasLocalTag (tag : Option String) : Bool := tag.any isLocalTag

/-- The value of a node, and how many aliases may still be followed after it; `depth` levels may be
opened. -/
def value? (slots : Nat → Option Node) : Nat → Nat → Node → Option (Json.Value × Nat)
  | depth, jumps, node => do
    let (node, jumps) ← target? slots jumps node
    match node, depth with
    | scalar _ tag isPlain text, _ => (scalarValue? tag isPlain text).map fun v => (v, jumps)
    | sequence _ tag items, depth + 1 =>
      if hasLocalTag tag then none
      else
        let (values, jumps) ← items.foldlM (fun acc item => do
          let (v, jumps) ← value? slots depth acc.2 item
          some (v :: acc.1, jumps)) (([] : List Json.Value), jumps)
        some (.array values.reverse, jumps)
    | mapping _ tag entries, depth + 1 =>
      if hasLocalTag tag then none
      else
        let (members, jumps) ← entries.foldlM (fun acc entry => do
          let (key, jumps) ← keyText? slots acc.2 entry.1
          let (v, jumps) ← value? slots depth jumps entry.2
          some ((key, v) :: acc.1, jumps)) (([] : List (String × Json.Value)), jumps)
        some (.object (Table.ofList members.reverse), jumps)
    | _, _ => none

/-- Levels of collections that a document may have. -/
def depthLimit : Nat := 128

/-- The entries of a document that is a mapping or says nothing. -/
def table? (node : Node) : Option (Table Json.Value) :=
  match node with
  | scalar _ tag isPlain text =>
    if !isPlain then none
    else if tag = some (coreTag "null") then (if isNullWord text then some [] else none)
    else if text.isEmpty || (tag.isNone && isNullWord text) then some []
    else none
  | mapping slot _ entries =>
    let anchors := (anchored node).reverse
    let slots := fun n => (anchors.find? (·.1 == n)).map Prod.snd
    match value? slots depthLimit (100 * eventCount node) (mapping slot none entries) with
    | some (.object members, _) => some members
    | _ => none
  | _ => none

end Node

/-- The entries of the text of a document: one mapping with scalar keys, or nothing. -/
def parseTable? (s : String) : Option (Table Json.Value) := do
  let documents ← Node.parse? s
  match documents with
  | [] => some []
  | [node] => node.table?
  | _ => none

end ChatAssistant.Yaml
