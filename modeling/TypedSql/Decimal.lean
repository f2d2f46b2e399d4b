/-!
# Decimal numbers and their plain text

A `Decimal` is a natural coefficient times a power of ten. Its plain text never has an
exponent and shows a fraction only where there is one: `1000`, `0.001`, `12.5`.
-/

namespace TypedSql

set_option autoImplicit false

/-- The number `coefficient · 10 ^ exponent`. -/
structure Decimal where
  coefficient : Nat
  exponent : Int
deriving DecidableEq, Repr

/-- The decimal digits of a natural number. -/
def decimalDigits (n : Nat) : List Char := Nat.toDigits 10 n

/-- The decimal digits of an integer, after a minus sign if it is negative. -/
def integerDigits (n : Int) : List Char :=
  if n < 0 then '-' :: decimalDigits n.natAbs else decimalDigits n.natAbs

namespace Decimal

/-- Puts a decimal point before the last `places` digits, writing zeros where the digits do
not reach it. -/
def withPoint (digits : List Char) (places : Nat) : List Char :=
  let padded := List.replicate (places + 1 - digits.length) '0' ++ digits
  padded.take (padded.length - places) ++ '.' :: padded.drop (padded.length - places)

/-- The digits of a decimal number without an exponent. -/
def plain (x : Decimal) : List Char :=
  let digits := decimalDigits x.coefficient
  if 0 ≤ x.exponent then digits ++ List.replicate x.exponent.toNat '0'
  else withPoint digits (-x.exponent).toNat

end Decimal

end TypedSql
