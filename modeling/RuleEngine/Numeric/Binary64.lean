/-!
# Binary floating point numbers

A number is kept as its 64 bits, so that every payload of a NaN and both zeros survive storing and
reading.  Three notions are built on the bits: equality, which is equality of bits; the order,
which places the numbers along `rank` and leaves a NaN apart; and the rounding of an integer to the
nearest number.
-/

namespace RuleEngine

/-- A 64-bit binary floating point number, as its bits. -/
structure Binary64 where
  bits : UInt64
deriving DecidableEq

namespace Binary64

/-! ## Fields -/

def signBit : Nat := 0x8000000000000000

def fractionWidth : Nat := 52

/-- The lowest bit of the exponent, which is also the bit above the fraction. -/
def exponentUnit : Nat := 0x10000000000000

/-- The magnitude of an infinity: all exponent bits set and no fraction. -/
def infinity : Nat := 0x7ff * exponentUnit

def isNegative (x : Binary64) : Bool :=
  signBit ≤ x.bits.toNat

def magnitude (x : Binary64) : Nat :=
  x.bits.toNat % signBit

def isNaN (x : Binary64) : Bool :=
  infinity < x.magnitude

/-- The significand and the exponent of a finite magnitude, `significand * 2 ^ exponent`. -/
def decompose (magnitude : Nat) : Nat × Int :=
  let field := magnitude / exponentUnit
  let fraction := magnitude % exponentUnit
  if field = 0 then
    -- below the least power of two with a full significand the leading bit is not implied
    (fraction, -1074)
  else
    (exponentUnit + fraction, field - 1075)

/-! ## Order -/

/-- The position of a number among all numbers; both zeros stand at zero. -/
def rank (x : Binary64) : Int :=
  if x.isNegative then -(x.magnitude : Int) else x.magnitude

def compare? (x y : Binary64) : Option Ordering :=
  if x.isNaN || y.isNaN then none else some (compare x.rank y.rank)

/-! ## Integers -/

/-- The quotient `n / 2 ^ shift`, rounded to the nearest integer and to the even one at a tie. -/
def roundShift (n shift : Nat) : Nat :=
  let divisor := Nat.pow 2 shift
  let quotient := n / divisor
  let twice := 2 * (n % divisor)
  if divisor < twice ∨ (divisor = twice ∧ quotient % 2 = 1) then quotient + 1 else quotient

/-- The magnitude of the number nearest to `n`.  A significand that rounds up to the next power of
two carries into the exponent by itself. -/
def magnitudeOfNat (n : Nat) : Nat :=
  if n = 0 then
    0
  else
    let exponent := n.log2
    -- with its leading bit, which adds one to the exponent field below
    let significand :=
      if exponent ≤ fractionWidth then
        n * Nat.pow 2 (fractionWidth - exponent)
      else
        roundShift n (exponent - fractionWidth)
    (exponent + 1022) * exponentUnit + significand

/-- The number nearest to an integer, the one with the even significand at a tie. -/
def ofInt (n : Int) : Binary64 :=
  if n < 0 then
    ⟨.ofNat (signBit + magnitudeOfNat n.natAbs)⟩
  else
    ⟨.ofNat (magnitudeOfNat n.natAbs)⟩

end Binary64
end RuleEngine
