import ChatAssistant.Json.Raw
import ChatAssistant.Json.Value

/-!
# The values of JSON documents

A document gets a value where each of its strings is made of characters, each of its numbers lies in
the range of a double, and it is nested at most 127 levels deep.
-/

namespace ChatAssistant.Json

open ChatAssistant.Number

/-- Levels of arrays and objects that a document may have. -/
def depthLimit : Nat := 127

/-! ## Strings -/

def isHighSurrogate (u : Nat) : Bool := 0xD800 ≤ u && u ≤ 0xDBFF

def isLowSurrogate (u : Nat) : Bool := 0xDC00 ≤ u && u ≤ 0xDFFF

/-- The characters of a string; `high` is a high surrogate that waits for its partner. -/
def charsFrom (high : Option Nat) : List Piece → Option (List Char)
  | [] => if high.isSome then none else some []
  | piece :: rest =>
    match high, piece with
    | none, .char c => (charsFrom none rest).map (c :: ·)
    | none, .unit u =>
      if isHighSurrogate u then charsFrom (some u) rest
      else if isLowSurrogate u then none
      else (charsFrom none rest).map (Char.ofNat u :: ·)
    | some h, .unit u =>
      if isLowSurrogate u then
        (charsFrom none rest).map
          (Char.ofNat (0x10000 + (h - 0xD800) * 0x400 + (u - 0xDC00)) :: ·)
      else none
    | some _, .char _ => none

/-- The text of a string whose units make up characters. -/
def text? (pieces : List Piece) : Option String :=
  (charsFrom none pieces).map String.ofList

/-! ## Numbers

A number that is no integer of sixty-four bits is read with the precision of its first digits: as many
digits as fit in sixty-four bits make a double, which one product or quotient with a power of ten
scales. -/

/-- The largest integer of sixty-four bits. -/
def maxCount : Nat := 0xFFFFFFFFFFFFFFFF

/-- The digits that fit, from a start, and how many are left over. -/
def takeDigits (n : Nat) : List Char → Nat × Nat
  | [] => (n, 0)
  | c :: rest =>
    let next := n * 10 + digitValue c
    if next ≤ maxCount then takeDigits next rest else (n, rest.length + 1)

/-- The double nearest to a power of ten. -/
def powerOfTen (e : Nat) : Finite double :=
  (Finite.ofNat? double (Nat.pow 10 e)).getD (Finite.zero double false)

/-- Scales by a power of ten with one rounding for each step; the smallest scales take several
steps.  Nothing is left where the result is too large. -/
def scaled? (x : Finite double) : Nat → Int → Option (Finite double)
  | 0, _ => some x
  | steps + 1, e =>
    if 308 < e then (if x.isZero then some x else none)
    else if 0 ≤ e then x.mul? (powerOfTen e.toNat)
    else if -308 ≤ e then x.div? (powerOfTen (-e).toNat)
    else if x.isZero then some x
    else (x.div? (powerOfTen 308)).bind fun y => scaled? y steps (e + 308)

/-- The largest exponent that is computed with; past it a number is zero or too large. -/
def exponentLimit : Nat := 0x7FFFFFFF

/-- The double of a number that is no integer of sixty-four bits. -/
def double? (t : DecimalText) : Option (Finite double) :=
  let (whole, wholeLeft) := takeDigits 0 t.whole
  let (digits, fractionLeft) := takeDigits whole t.fraction
  let shift : Int := (wholeLeft : Int) - (t.fraction.length - fractionLeft : Nat)
  let magnitude :=
    if exponentLimit < natOfDigits t.exponent then
      if digits ≠ 0 ∧ !t.exponentNegative then none else some (Finite.zero double false)
    else
      ((Finite.ofNat? double digits).bind fun x => scaled? x 8 (shift + t.scale))
  magnitude.map fun x => { x with negative := t.negative }

/-- The number of its text. -/
def Number.ofText? (t : DecimalText) : Option Number :=
  if t.fraction.isEmpty && t.exponent.isEmpty then
    let n := natOfDigits t.whole
    if !t.negative && n ≤ maxCount then some (.int n)
    else if t.negative && n ≠ 0 && n ≤ 0x8000000000000000 then some (.int (-n))
    else (double? t).map .float
  else (double? t).map .float

/-! ## Values -/

namespace Raw

mutual

/-- The value of a document; `depth` levels may still be opened. -/
def toValue? (depth : Nat) : Raw → Option Value
  | null => some .null
  | bool b => some (.bool b)
  | number t => (Number.ofText? t).map .number
  | string s => (text? s).map .string
  | array items =>
    match depth with
    | 0 => none
    | d + 1 => (itemValues? d items).map .array
  | object members =>
    match depth with
    | 0 => none
    | d + 1 => (memberValues? d members).map fun entries => .object (Table.ofList entries)

/-- The values of the items of an array. -/
def itemValues? (depth : Nat) : List Raw → Option (List Value)
  | [] => some []
  | item :: rest => do
    let value ← toValue? depth item
    let values ← itemValues? depth rest
    some (value :: values)

/-- The keys and values of the members of an object. -/
def memberValues? (depth : Nat) : List (List Piece × Raw) → Option (List (String × Value))
  | [] => some []
  | (key, item) :: rest => do
    let name ← text? key
    let value ← toValue? depth item
    let values ← memberValues? depth rest
    some ((name, value) :: values)

end

end Raw

/-- The value of the text of a document. -/
def Value.parse? (s : String) : Option Value :=
  (Raw.parse? s).bind (Raw.toValue? depthLimit)

end ChatAssistant.Json
