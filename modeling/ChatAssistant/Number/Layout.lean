import ChatAssistant.Number.Shortest

/-!
# Layouts of decimals

A layout says how the shortest digits of a value are written: for which magnitudes with a point in
its place, and how otherwise.
-/

namespace ChatAssistant.Number

/-- How a value is written.  `positional` takes the number `k` of digits before the point, so that
the value is `0.d…d * 10 ^ k`; `pointZero` writes a whole number with `.0`, also in positional form
only; `plusSign` marks an exponent that is not negative. -/
structure Layout where
  positional : Int → Bool
  pointZero : Bool
  plusSign : Bool

namespace Layout

/-- Digits with the point after the first `k`. -/
def placed (layout : Layout) (digits : List Char) (k : Int) : List Char :=
  let n : Int := digits.length
  if n ≤ k then
    digits ++ List.replicate (k - n).toNat '0' ++ (if layout.pointZero then ['.', '0'] else [])
  else if 0 < k then digits.take k.toNat ++ '.' :: digits.drop k.toNat
  else '0' :: '.' :: List.replicate (-k).toNat '0' ++ digits

/-- Digits with the point after the first, and an exponent. -/
def scientific (layout : Layout) (digits : List Char) (k : Int) : List Char :=
  let mantissa :=
    match digits with
    | d :: rest => if rest.isEmpty then [d] else d :: '.' :: rest
    | [] => []
  let e := k - 1
  let sign := if e < 0 then ['-'] else if layout.plusSign then ['+'] else []
  mantissa ++ 'e' :: sign ++ Nat.toDigits 10 e.natAbs

/-- The text of a value. -/
def write {f : Format} (layout : Layout) (x : Finite f) : String :=
  let sign := if x.negative then ['-'] else []
  if x.isZero then
    String.ofList (sign ++ '0' :: (if layout.pointZero then ['.', '0'] else []))
  else
    let d := x.shortest
    let digits := Nat.toDigits 10 d.digits
    let k : Int := digits.length + d.exponent
    String.ofList (sign ++ (if layout.positional k then layout.placed digits k
      else layout.scientific digits k))

/-- No exponent, and whole numbers without a point. -/
def plain : Layout := ⟨fun _ => true, false, false⟩

end Layout

/-- The text of a value without an exponent: `0.7`, `2`, `-0`. -/
def Finite.toText {f : Format} (x : Finite f) : String := Layout.plain.write x

end ChatAssistant.Number
