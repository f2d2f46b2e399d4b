import TypedSql.Binary64.Basic

/-!
# Rounding to the nearest double

A rational number is rounded to the nearest `Binary64`, and a number halfway between two
neighbours goes to the one with the even significand. Integers, products, quotients and
single-precision numbers are all rounded through this one function.

The magnitude bits of consecutive numbers are consecutive naturals, so a significand that
rounds up to the next power of two needs no separate case, and a result beyond the largest
finite number is capped at the bits of infinity.
-/

namespace TypedSql.Binary64

set_option autoImplicit false

/-- The quotient of two naturals rounded to the nearest natural, ties to even. -/
def roundedQuotient (numerator denominator : Nat) : Nat :=
  let quotient := numerator / denominator
  let doubled := 2 * (numerator % denominator)
  if doubled < denominator then quotient
  else if denominator < doubled then quotient + 1
  else quotient + quotient % 2

/-- The scale at which the significand of a number of so many whole units fits 53 bits. -/
def scaleOf (wholeUnits : Nat) : Nat := wholeUnits.log2 - 52

/-- The double nearest to `± numerator / denominator`; the denominator is positive. -/
def ofRatio (negative : Bool) (numerator denominator : Nat) : Binary64 :=
  let scale := scaleOf (numerator * unitsPerOne / denominator)
  let significand := roundedQuotient (numerator * unitsPerOne) (denominator * Nat.pow 2 scale)
  ofMagnitudeBits negative (min (scale * Nat.pow 2 52 + significand) infinityBits)

/-- The double nearest to an integer. -/
def ofInt (n : Int) : Binary64 := ofRatio (n < 0) n.natAbs 1

/-- The rounded product of two finite numbers. -/
def mul (x y : Binary64) : Binary64 :=
  ofRatio (x.isNegative != y.isNegative) (x.units * y.units) (unitsPerOne * unitsPerOne)

/-- The rounded quotient of two finite numbers, the second of which is not zero. -/
def div (x y : Binary64) : Binary64 :=
  ofRatio (x.isNegative != y.isNegative) x.units y.units

end TypedSql.Binary64

namespace TypedSql

/-- A number in the IEEE 754 single format. -/
structure Binary32 where
  bits : UInt32
deriving DecidableEq, Repr

/-- The double equal to a single. A NaN keeps its payload in the leading bits of the
fraction. -/
def Binary32.toBinary64 (x : Binary32) : Binary64 :=
  let negative : Bool := Nat.pow 2 31 ≤ x.bits.toNat
  let exponentField := x.bits.toNat / Nat.pow 2 23 % Nat.pow 2 8
  let fraction := x.bits.toNat % Nat.pow 2 23
  if exponentField = 255 then
    .ofMagnitudeBits negative (Binary64.infinityBits + fraction * Nat.pow 2 29)
  else if exponentField = 0 then .ofRatio negative fraction (Nat.pow 2 149)
  else .ofRatio negative ((Nat.pow 2 23 + fraction) * Nat.pow 2 exponentField) (Nat.pow 2 150)

end TypedSql
