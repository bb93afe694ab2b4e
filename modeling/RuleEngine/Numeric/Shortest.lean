import RuleEngine.Numeric.Binary64

/-!
# Shortest decimals

The text of a floating point number is the decimal with the fewest significant digits that reads
back as the same number, and of two such decimals the nearer one.  A tie goes to the larger.

The search works on one decimal scale.  Four times the significand of a number, and the ends of the
interval of reals that round to it, are whole multiples of one unit; multiplied by a power of ten
that unit is a whole number too.  On that scale every candidate is a natural number.
-/

namespace RuleEngine

/-- The non-negative decimal `coefficient / 10 ^ places`. -/
structure Decimal where
  coefficient : Nat
  places : Nat
deriving DecidableEq

namespace Decimal

def digits (n : Nat) : List Char :=
  Nat.toDigits 10 n

/-- Positional notation: the whole part, then the fraction without trailing zeros, if any. -/
def toText (d : Decimal) : String :=
  let scale := Nat.pow 10 d.places
  let whole := digits (d.coefficient / scale)
  let part := digits (d.coefficient % scale)
  let padded := List.replicate (d.places - part.length) '0' ++ part
  let trimmed := (padded.reverse.dropWhile (· = '0')).reverse
  String.ofList (if trimmed.isEmpty then whole else whole ++ '.' :: trimmed)

end Decimal

namespace Binary64

/-- The reals that read back as one magnitude, on the scale `10 ^ -places`. -/
structure Neighbourhood where
  value : Nat
  lower : Nat
  upper : Nat
  closed : Bool
  places : Nat

namespace Neighbourhood

/-- The neighbourhood of a finite magnitude other than zero.  Below a power of two the numbers lie
twice as dense, so the lower end is half as far away there. -/
def ofMagnitude (magnitude : Nat) : Neighbourhood :=
  let (significand, exponent) := decompose magnitude
  let below :=
    if significand = exponentUnit ∧ 2 * exponentUnit ≤ magnitude then 1 else 2
  -- a quarter of the last bit is `2 ^ (exponent - 2)`, so this many places make it whole
  let places := (2 - exponent).toNat
  let unit := Nat.pow 2 (exponent - 2).toNat * Nat.pow 5 places
  { value := 4 * significand * unit
    lower := (4 * significand - below) * unit
    upper := (4 * significand + 2) * unit
    closed := significand % 2 = 0
    places := places }

/-- Whether a decimal on the scale reads back as the number. -/
def admits (n : Neighbourhood) (candidate : Nat) : Bool :=
  if n.closed then
    n.lower ≤ candidate && candidate ≤ n.upper
  else
    n.lower < candidate && candidate < n.upper

/-- The admitted multiple of `step` that is nearest to the value, if one of the two multiples around
the value is admitted. -/
def onGrid (n : Neighbourhood) (step : Nat) : Option Nat :=
  let down := n.value / step * step
  let up := down + step
  if n.admits down && (!n.admits up || n.value - down < up - n.value) then
    some down
  else if n.admits up then
    some up
  else
    none

/-- The admitted decimal with the fewest digits: grids of one digit, two digits and so on are tried
in turn, and the value itself lies on the last of them. -/
def shortest (n : Neighbourhood) : Nat :=
  let length := (Decimal.digits n.value).length
  ((List.range length).findSome? fun k => n.onGrid (Nat.pow 10 (length - (k + 1)))).getD n.value

end Neighbourhood

def decimalOf (magnitude : Nat) : Decimal :=
  if magnitude = 0 then
    ⟨0, 0⟩
  else
    let around := Neighbourhood.ofMagnitude magnitude
    ⟨around.shortest, around.places⟩

/-- The text of a number, without an exponent however large or small it is. -/
def toText (x : Binary64) : String :=
  if x.isNaN then
    "NaN"
  else
    let unsigned :=
      if x.magnitude = infinity then "inf" else (decimalOf x.magnitude).toText
    if x.isNegative then "-" ++ unsigned else unsigned

end Binary64
end RuleEngine
