/-!
# Binary floating point and its shortest decimal text

A double is kept by its bits, so that values can be compared and reasoned about. `shortest` finds
the decimal with the fewest digits among those that lie closer to the value than to any other
double; of two such decimals it takes the nearer. `Layout` says how digits and exponent are written.
-/

namespace AnchorLayout.Decimal

/-- A finite floating-point number of 64 bits. -/
structure Binary64 where
  bits : UInt64
deriving DecidableEq

/-- How a decimal is written: positional notation between two exponents, else a mark, the sign of
the exponent, and the exponent itself. -/
structure Style where
  leastPositional : Int
  greatestPositional : Int
  exponentMark : String
  plusSign : String
  integralSuffix : String

namespace Binary64

/-- The double nearest to the value of a machine float. -/
def ofFloat (x : Float) : Binary64 := ⟨x.toBits⟩

/-- Whether the sign bit is set. -/
def isNegative (x : Binary64) : Bool := x.bits.toNat.testBit 63

/-- The eleven bits of the exponent. -/
def biasedExponent (x : Binary64) : Nat := (x.bits.toNat >>> 52) % 2048

/-- What the bit before the fraction is worth; it is set in all but the least doubles. -/
def leadingBit : Nat := 1 <<< 52

/-- The fifty-two bits of the fraction. -/
def fraction (x : Binary64) : Nat := x.bits.toNat % leadingBit

/-- The magnitude is `significand * 2 ^ (shift - 1074)`. -/
def significand (x : Binary64) : Nat :=
  if x.biasedExponent = 0 then x.fraction else leadingBit + x.fraction

/-- The exponent of the last place, counted from that of the least double. -/
def shift (x : Binary64) : Nat := x.biasedExponent - 1

end Binary64

/-- A range of positive rationals over one denominator, with its ends or without them. -/
structure Interval where
  lower : Nat
  upper : Nat
  denominator : Nat
  closed : Bool

namespace Interval

/-- Whether `count * unit` lies in the range, where a unit is a fraction. -/
def holds (i : Interval) (count unitNumerator unitDenominator : Nat) : Bool :=
  let value := count * unitNumerator * i.denominator
  let lower := i.lower * unitDenominator
  let upper := i.upper * unitDenominator
  if i.closed then lower ≤ value && value ≤ upper else lower < value && value < upper

end Interval

/-- The numbers that round to a double. A double that begins a new power of two is closer to its
lower neighbour than to the upper one; the ends belong to the range if the significand is even. -/
def Binary64.roundingInterval (x : Binary64) : Interval :=
  let m := x.significand <<< x.shift
  let below := if x.fraction = 0 && 1 < x.biasedExponent then 1 else 2
  { lower := 4 * m - (below <<< x.shift)
    upper := 4 * m + (2 <<< x.shift)
    denominator := 4 <<< 1074
    closed := x.significand % 2 = 0 }

/-- Tries the powers of ten from `10 ^ (steps - 345)` downward. The first that has a multiple in the
rounding interval gives the shortest decimal `count * 10 ^ exponent`: if a multiple lies there, then
so does one of the two around the value. -/
def Binary64.shortestFrom (x : Binary64) : Nat → Nat × Int
  | 0 => (0, 0)
  | steps + 1 =>
    let exponent : Int := (steps : Int) - 344
    let unitNumerator := Nat.pow 10 exponent.toNat
    let unitDenominator := Nat.pow 10 (-exponent).toNat
    let value := (x.significand <<< x.shift) * unitDenominator
    let unit := unitNumerator <<< 1074
    let floor := value / unit
    let rest := value % unit
    let fits count := 0 < count && x.roundingInterval.holds count unitNumerator unitDenominator
    let low := fits floor
    let high := fits (floor + 1)
    if low && high then
      if 2 * rest < unit || (2 * rest = unit && floor % 2 = 0) then (floor, exponent)
      else (floor + 1, exponent)
    else if low then (floor, exponent)
    else if high then (floor + 1, exponent)
    else x.shortestFrom steps

/-- The decimal `count * 10 ^ exponent` with the fewest digits that reads back as the magnitude. No
double has digits above `10 ^ 308` or is closer to zero than half of `10 ^ -323`. -/
def Binary64.shortest (x : Binary64) : Nat × Int :=
  if x.significand = 0 then (0, 0) else x.shortestFrom 655

/-- Writes `count * 10 ^ exponent`. -/
def Style.write (l : Style) (count : Nat) (exponent : Int) : String :=
  let digits := toString count
  let places : Int := digits.length
  let leading := exponent + places - 1
  if l.leastPositional ≤ leading && leading ≤ l.greatestPositional then
    if 0 ≤ exponent then
      digits ++ String.ofList (List.replicate exponent.toNat '0') ++ l.integralSuffix
    else if 0 ≤ leading then
      let whole := (leading + 1).toNat
      String.ofList (digits.toList.take whole) ++ "." ++ String.ofList (digits.toList.drop whole)
    else
      "0." ++ String.ofList (List.replicate (-leading - 1).toNat '0') ++ digits
  else
    let fraction := String.ofList (digits.toList.drop 1)
    String.ofList (digits.toList.take 1) ++ (if fraction.isEmpty then "" else "." ++ fraction) ++
      l.exponentMark ++ (if leading < 0 then "-" else l.plusSign) ++ toString leading.natAbs

/-- The shortest decimal text of a double, with its sign. -/
def Style.text (l : Style) (x : Binary64) : String :=
  let (count, exponent) := x.shortest
  (if x.isNegative then "-" else "") ++ l.write count exponent

end AnchorLayout.Decimal
