import ChatAssistant.Number.Shortest

/-!
# Reading decimals

The text of a decimal, its exact value and the nearest value of a binary format.
-/

namespace ChatAssistant.Number

/-- The value of a digit. -/
def digitValue (c : Char) : Nat := c.toNat - '0'.toNat

/-- The number that digits write. -/
def natOfDigits (ds : List Char) : Nat :=
  ds.foldl (fun n c => n * 10 + digitValue c) 0

/-- The parts of the text of a decimal. -/
structure DecimalText where
  negative : Bool
  whole : List Char
  fraction : List Char
  exponentNegative : Bool
  exponent : List Char
  deriving DecidableEq

namespace DecimalText

/-- The exponent of ten. -/
def scale (t : DecimalText) : Int :=
  let e : Int := natOfDigits t.exponent
  if t.exponentNegative then -e else e

/-- The nearest value of a format.  With `n` digits and the scale `e` the value lies below
`10 ^ (n + e)`, so it is not computed where it must be zero or infinite. -/
def value (f : Format) (t : DecimalText) : Extended f :=
  let digits := natOfDigits (t.whole ++ t.fraction)
  if digits = 0 then .finite (Finite.zero f t.negative)
  else
    let e := t.scale - t.fraction.length
    let top := (digitCount digits : Int) + e
    if top < -400 then .finite (Finite.zero f t.negative)
    else if 400 < top then .infinite t.negative
    else if 0 ≤ e then Extended.ofRatio f t.negative (digits * Nat.pow 10 e.toNat) 1
    else Extended.ofRatio f t.negative digits (Nat.pow 10 (-e).toNat)

end DecimalText

/-- Reads a sign and leaves the rest; the sign is minus or not. -/
def takeSign : List Char → Bool × List Char
  | '-' :: rest => (true, rest)
  | '+' :: rest => (false, rest)
  | rest => (false, rest)

/-- The letters of a word, in either case. -/
def isWord (word : String) (cs : List Char) : Bool :=
  cs.map Char.toLower == word.toList

/-- Reads a point and the digits after it, if there is a point, and leaves the rest. -/
def takeFraction : List Char → List Char × List Char
  | '.' :: more => (more.takeWhile Char.isDigit, more.dropWhile Char.isDigit)
  | rest => ([], rest)

/-- Reads an exponent up to the end, if there is one: its sign, minus or not, and its digits. -/
def exponent? : List Char → Option (Bool × List Char)
  | [] => some (false, [])
  | c :: more =>
    if c = 'e' ∨ c = 'E' then
      let (negative, ds) := takeSign more
      if ds.isEmpty || !ds.all Char.isDigit then none else some (negative, ds)
    else none

/-- Reads `whole.fraction`, with at least one digit in all, and an exponent if there is one. -/
def decimalText? (negative : Bool) (cs : List Char) : Option DecimalText :=
  let whole := cs.takeWhile Char.isDigit
  let (fraction, rest) := takeFraction (cs.dropWhile Char.isDigit)
  if whole.isEmpty && fraction.isEmpty then none
  else
    (exponent? rest).map fun (exponentNegative, ds) =>
      ⟨negative, whole, fraction, exponentNegative, ds⟩

/-- Reads a number of a format from text: an optional sign and a decimal, or the words for infinity
and for no number. -/
def Extended.ofText? (f : Format) (s : String) : Option (Extended f) :=
  let (negative, cs) := takeSign s.toList
  if isWord "inf" cs || isWord "infinity" cs then some (.infinite negative)
  else if isWord "nan" cs then some .nan
  else (decimalText? negative cs).map (DecimalText.value f)

end ChatAssistant.Number
