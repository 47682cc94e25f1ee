/-!
# Binary floating point

A format fixes how many bits a significand has and which exponents there are.  A finite value is a
sign, a significand and an exponent of two; rounding a quotient of natural numbers to the nearest
value, a tie to the even significand, is the one operation that the others are built from.
-/

namespace ChatAssistant.Number

/-- A binary format: `precision` bits, and exponents of the last bit from `minExponent` to
`maxExponent`. -/
structure Format where
  precision : Nat
  minExponent : Int
  maxExponent : Int
  deriving DecidableEq

/-- Sixty-four bits. -/
def double : Format := ⟨53, -1074, 971⟩

/-- Thirty-two bits. -/
def single : Format := ⟨24, -149, 104⟩

/-- A finite value: `significand * 2 ^ exponent` with a sign.  `ofRatio?` yields the one
representation with the largest possible significand, or the least exponent. -/
structure Finite (f : Format) where
  negative : Bool
  significand : Nat
  exponent : Int
  deriving DecidableEq

/-- A value, an infinity with its sign, or no number. -/
inductive Extended (f : Format)
  | finite (value : Finite f)
  | infinite (negative : Bool)
  | nan
  deriving DecidableEq

/-- The integer nearest to `num / den`, a tie to the even one. -/
def roundHalfEven (num den : Nat) : Nat :=
  let q := num / den
  let r := num % den
  if 2 * r < den then q
  else if den < 2 * r then q + 1
  else if q % 2 = 0 then q else q + 1

/-- The integer nearest to `num / den`, a tie to the larger one. -/
def roundHalfUp (num den : Nat) : Nat :=
  (2 * num + den) / (2 * den)

/-- `num / den` in units of `2 ^ e`, as a fraction. -/
def inUnits (num den : Nat) (e : Int) : Nat × Nat :=
  if 0 ≤ e then (num, den * Nat.pow 2 e.toNat) else (num * Nat.pow 2 (-e).toNat, den)

namespace Finite

variable {f : Format}

/-- Zero, with a sign. -/
def zero (f : Format) (negative : Bool) : Finite f := ⟨negative, 0, f.minExponent⟩

def isZero (x : Finite f) : Bool := x.significand == 0

/-- The magnitude as a fraction. -/
def ratio (x : Finite f) : Nat × Nat :=
  if 0 ≤ x.exponent then (x.significand * Nat.pow 2 x.exponent.toNat, 1)
  else (x.significand, Nat.pow 2 (-x.exponent).toNat)

/-- The exponent of the last bit of a value near `num / den`: the magnitude lies between
`2 ^ (log2 num - log2 den - 1)` and `2 ^ (log2 num - log2 den + 1)`, so one of two exponents
leaves a full significand. -/
def lastBit (f : Format) (num den : Nat) : Int :=
  let e := (num.log2 : Int) - den.log2 - f.precision + 1
  let (n, d) := inUnits num den e
  let e := if n / d < Nat.pow 2 (f.precision - 1) then e - 1 else e
  max f.minExponent e

/-- The value of the format nearest to `num / den`, or nothing where that is past the largest. -/
def ofRatio? (f : Format) (negative : Bool) (num den : Nat) : Option (Finite f) :=
  if num = 0 then some (zero f negative)
  else
    let e := lastBit f num den
    let (n, d) := inUnits num den e
    let m := roundHalfEven n d
    let (m, e) := if m = Nat.pow 2 f.precision then (Nat.pow 2 (f.precision - 1), e + 1) else (m, e)
    if f.maxExponent < e then none else some ⟨negative, m, e⟩

def ofNat? (f : Format) (n : Nat) : Option (Finite f) :=
  ofRatio? f false n 1

/-- The rounded product, or nothing where it is past the largest value. -/
def mul? (x y : Finite f) : Option (Finite f) :=
  let (a, b) := x.ratio
  let (c, d) := y.ratio
  ofRatio? f (x.negative != y.negative) (a * c) (b * d)

/-- The rounded quotient by a value that is not zero. -/
def div? (x y : Finite f) : Option (Finite f) :=
  let (a, b) := x.ratio
  let (c, d) := y.ratio
  ofRatio? f (x.negative != y.negative) (a * d) (b * c)

/-- The order by value; the two zeros are one value. -/
def lt (x y : Finite f) : Bool :=
  let (a, b) := x.ratio
  let (c, d) := y.ratio
  match x.negative && !x.isZero, y.negative && !y.isZero with
  | true, true => c * b < a * d
  | true, false => true
  | false, true => false
  | false, false => a * d < c * b

/-- Equality by value; the two zeros are one value. -/
def same (x y : Finite f) : Bool :=
  if x.isZero then y.isZero
  else x.negative == y.negative && x.significand == y.significand && x.exponent == y.exponent

/-- The magnitude rounded to an integer, a half upwards. -/
def roundMagnitude (x : Finite f) : Nat :=
  let (a, b) := x.ratio
  roundHalfUp a b

end Finite

namespace Extended

variable {f : Format}

/-- A magnitude `num / den` in the format; what is past the largest value is infinite. -/
def ofRatio (f : Format) (negative : Bool) (num den : Nat) : Extended f :=
  match Finite.ofRatio? f negative num den with
  | some x => .finite x
  | none => .infinite negative

/-- The nearest value of another format. -/
def convert (g : Format) : Extended f → Extended g
  | .finite x => let (a, b) := x.ratio; ofRatio g x.negative a b
  | .infinite negative => .infinite negative
  | .nan => .nan

/-- The nearest value between two bounds; nothing for what is no number.  A value that equals a
bound is kept as it is. -/
def clamp? (low high : Finite f) : Extended f → Option (Finite f)
  | .finite x => some (if x.lt low then low else if high.lt x then high else x)
  | .infinite true => some low
  | .infinite false => some high
  | .nan => none

end Extended

end ChatAssistant.Number
