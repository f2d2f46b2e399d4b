/-!
# Binary floating-point numbers

A `Binary64` is a number in the IEEE 754 double format, held as its 64 bits: a sign, eleven
bits of exponent and 52 bits of fraction. A finite number is an integer multiple of the
smallest positive one, `2 ^ -1074`, and everything the library does with such numbers is
exact arithmetic on that multiple, `units`.

Two numbers are *numerically equal* when they have the same rank and neither is a NaN, so
the two zeros are equal and a NaN is equal to nothing. Equality of the structure is equality
of bits.
-/

namespace TypedSql

set_option autoImplicit false

/-- A number in the IEEE 754 double format. -/
structure Binary64 where
  bits : UInt64
deriving DecidableEq, Repr

namespace Binary64

/-! ## The parts of the format -/

/-- Whether the sign bit is set. -/
def isNegative (x : Binary64) : Bool := Nat.pow 2 63 ≤ x.bits.toNat

/-- All bits but the sign. -/
def magnitudeBits (x : Binary64) : Nat := x.bits.toNat % Nat.pow 2 63

/-- The eleven bits of the exponent. -/
def exponentField (x : Binary64) : Nat := x.magnitudeBits / Nat.pow 2 52

/-- The 52 bits of the fraction. -/
def fraction (x : Binary64) : Nat := x.magnitudeBits % Nat.pow 2 52

/-- Neither infinite nor a NaN. -/
def isFinite (x : Binary64) : Bool := x.exponentField ≠ 2047

/-- Not a number. -/
def isNaN (x : Binary64) : Bool := x.exponentField = 2047 ∧ x.fraction ≠ 0

/-- The number with these magnitude bits and this sign. -/
def ofMagnitudeBits (negative : Bool) (magnitude : Nat) : Binary64 :=
  ⟨UInt64.ofNat (if negative then Nat.pow 2 63 + magnitude else magnitude)⟩

/-- Zero with a sign. -/
def zero (negative : Bool) : Binary64 := ofMagnitudeBits negative 0

/-- The magnitude bits of infinity, which follow those of the largest finite number. -/
def infinityBits : Nat := 2047 * Nat.pow 2 52

/-! ## The value of a finite number -/

/-- The significand, below `2 ^ 53`. -/
def significand (x : Binary64) : Nat :=
  if x.exponentField = 0 then x.fraction else Nat.pow 2 52 + x.fraction

/-- The power of two that the significand is multiplied by, in units of the smallest
positive number. -/
def scale (x : Binary64) : Nat := x.exponentField - 1

/-- How many units of the smallest positive number make one. -/
def unitsPerOne : Nat := Nat.pow 2 1074

/-- The absolute value of a finite number in units of the smallest positive number. -/
def units (x : Binary64) : Nat := x.significand * Nat.pow 2 x.scale

/-- An absolute value with the sign of a number. -/
def signed (x : Binary64) (magnitude : Nat) : Int :=
  if x.isNegative then -magnitude else magnitude

/-- The integer that a number is equal to, if there is one. -/
def toInt? (x : Binary64) : Option Int :=
  if x.isFinite ∧ x.units % unitsPerOne = 0 then some (x.signed (x.units / unitsPerOne))
  else none

/-! ## Order -/

/-- The position of a number in the numeric order: an infinity lies beyond every finite
number, and the two zeros share a position. -/
def rank (x : Binary64) : Int := x.signed x.magnitudeBits

/-- Numeric equality, under which a NaN is equal to nothing. -/
def equals (x y : Binary64) : Bool := !x.isNaN && !y.isNaN && x.rank == y.rank

/-- How a number that is not a NaN compares with an integer. -/
def compareInt (x : Binary64) (n : Int) : Ordering :=
  if x.isFinite then compare (x.signed x.units) (n * unitsPerOne)
  else if x.isNegative then .lt
  else .gt

end Binary64

end TypedSql
