import ChatAssistant.Number.Binary

/-!
# Shortest decimals

The decimal digits of a value: of the decimals that round to it, one with the fewest digits, and of
those the nearest to it.
-/

namespace ChatAssistant.Number

/-- A decimal `digits * 10 ^ exponent`. -/
structure Decimal where
  digits : Nat
  exponent : Int
  deriving DecidableEq

/-- The decimal as a fraction. -/
def Decimal.ratio (d : Decimal) : Nat × Nat :=
  if 0 ≤ d.exponent then (d.digits * Nat.pow 10 d.exponent.toNat, 1)
  else (d.digits, Nat.pow 10 (-d.exponent).toNat)

/-- How many decimal digits a number has. -/
def digitCount (n : Nat) : Nat := (Nat.toDigits 10 n).length

/-- The decimal rounds to the magnitude of the value. -/
def Decimal.readsAs {f : Format} (x : Finite f) (d : Decimal) : Bool :=
  let (a, b) := d.ratio
  match Finite.ofRatio? f false a b with
  | some y => y.significand == x.significand && y.exponent == x.exponent
  | none => false

/-- The number of digits before the point of `num / den`, which is not zero: the least `k` with
`num / den < 10 ^ k`, sought upwards from a lower estimate. -/
def magnitudeFrom (num den : Nat) : Nat → Int → Int
  | 0, k => k
  | fuel + 1, k =>
    let below := if 0 ≤ k then num < den * Nat.pow 10 k.toNat else num * Nat.pow 10 (-k).toNat < den
    if below then k else magnitudeFrom num den fuel (k + 1)

/-- The number of digits before the point; the estimate from the binary logarithms is at most
two too low. -/
def magnitude (num den : Nat) : Int :=
  let bits : Int := (num.log2 : Int) - den.log2 - 1
  magnitudeFrom num den 4 (Int.fdiv (bits * 30103) 100000 - 1)

/-- The two neighbours of the magnitude of a value among the multiples of `10 ^ k`. -/
def neighbours {f : Format} (x : Finite f) (k : Int) : Decimal × Decimal :=
  let (a, b) := x.ratio
  let q := if 0 ≤ k then a / (b * Nat.pow 10 k.toNat) else a * Nat.pow 10 (-k).toNat / b
  (⟨q, k⟩, ⟨q + 1, k⟩)

/-- The distance from the value to the lower neighbour against that to the upper: which is
nearer, a tie to the even digits. -/
def upperIsNearer {f : Format} (x : Finite f) (k : Int) : Bool :=
  let (a, b) := x.ratio
  let (n, d) := if 0 ≤ k then (a, b * Nat.pow 10 k.toNat) else (a * Nat.pow 10 (-k).toNat, b)
  let r := n % d
  if 2 * r < d then false else if d < 2 * r then true else (n / d) % 2 = 1

/-- The best decimal among the multiples of `10 ^ k`, if one reads as the value. -/
def onGrid? {f : Format} (x : Finite f) (k : Int) : Option Decimal :=
  let (lower, upper) := neighbours x k
  match lower.readsAs x, upper.readsAs x with
  | true, true => some (if upperIsNearer x k then upper else lower)
  | true, false => some lower
  | false, true => some upper
  | false, false => none

/-- Searches the grids from coarse to fine. -/
def shortestFrom {f : Format} (x : Finite f) : Nat → Int → Decimal
  | 0, k => (neighbours x k).1
  | fuel + 1, k => (onGrid? x k).getD (shortestFrom x fuel (k - 1))

/-- Takes the zeros off the end of the digits. -/
def Decimal.stripZeros : Nat → Decimal → Decimal
  | 0, d => d
  | fuel + 1, d =>
    if d.digits ≠ 0 ∧ d.digits % 10 = 0 then stripZeros fuel ⟨d.digits / 10, d.exponent + 1⟩ else d

/-- The shortest decimal of the magnitude of a value.  Eighteen grids suffice: seventeen digits tell
any two values of a format of at most fifty-three bits apart. -/
def Finite.shortest {f : Format} (x : Finite f) : Decimal :=
  if x.isZero then ⟨0, 0⟩
  else
    let (a, b) := x.ratio
    (shortestFrom x 18 (magnitude a b)).stripZeros 18

end ChatAssistant.Number
