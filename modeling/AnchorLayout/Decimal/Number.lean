import AnchorLayout.Decimal.Binary64

/-!
# Numbers of a data format

A number is an integer of at most 64 bits, signed or not, or else a double. Its text is the plain
decimal of the integer, or the shortest decimal of the double.
-/

namespace AnchorLayout.Decimal

/-- A number as it stands in a text. -/
inductive Number where
  | integer (n : Int)
  | floating (x : Binary64)
deriving DecidableEq

/-- Doubles are written positionally from `0.00001` up to sixteen digits before the point, always
with a point; beyond that with a signed exponent. -/
def numberStyle : Style where
  leastPositional := -5
  greatestPositional := 15
  exponentMark := "e"
  plusSign := "+"
  integralSuffix := ".0"

/-- The text of a double. -/
def Binary64.text (x : Binary64) : String := numberStyle.text x

/-- The text of a number. -/
def Number.text : Number → String
  | integer n => toString n
  | floating x => x.text

/-- The value `significand / 10 ^ scale`, divided step by step by powers of ten that are doubles
themselves. Once the value is zero no further step changes it. -/
def divideByPower (x : Float) (scale : Nat) : Float :=
  if h : 308 < scale then
    if x == 0 then x else divideByPower (x / Float.ofScientific 1 false 308) (scale - 308)
  else x / Float.ofScientific 1 false scale
termination_by scale
decreasing_by omega

/-- The double for `significand * 10 ^ exponent`, rounded once for the significand and once for each
scaling step; `none` if it is too large. -/
def scaled (significand : Nat) (exponent : Int) : Option Float :=
  let x := (UInt64.ofNat significand).toFloat
  if exponent < 0 then some (divideByPower x exponent.natAbs)
  else if 308 < exponent then (if x == 0 then some x else none)
  else
    let y := x * Float.ofScientific 1 false exponent.toNat
    if y.isInf then none else some y

/-- The number with a sign, a significand below `2 ^ 64` and an exponent of ten. -/
def Number.ofScaled (negative : Bool) (significand : Nat) (exponent : Int) : Option Number :=
  (scaled significand exponent).map fun x => .floating (.ofFloat (if negative then -x else x))

end AnchorLayout.Decimal
