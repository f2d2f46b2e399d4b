import TypedSql.Json.Basic

/-!
# The values of number literals

A literal is split into its sign, its digits before the point, its digits after the point and
its exponent. A literal of an integer of 64 bits has that integer as its value, and `-0` is
the negative zero of the doubles.

Every other literal becomes a double in few steps. Its leading digits are collected into a
significand as long as it stays below `2 ^ 64`; later digits only move the decimal point, or
are dropped behind it. The significand is rounded to a double and multiplied or divided by a
power of ten that is a double itself, so the result may differ from the nearest double in the
last place. A literal beyond the largest double has no value.
-/

namespace TypedSql.Json

set_option autoImplicit false

/-- The parts of a number literal. -/
structure NumberLiteral where
  negative : Bool
  whole : List Nat
  fraction : List Nat
  exponent : Option Int
deriving DecidableEq, Repr

/-- The bound that a collected significand stays below. -/
def significandBound : Nat := UInt64.size

/-- Collects digits into a significand below the bound, and returns it with the digits that
did not fit. -/
def collect (significand : Nat) : List Nat → Nat × List Nat
  | [] => (significand, [])
  | digit :: rest =>
      if significand * 10 + digit < significandBound then collect (significand * 10 + digit) rest
      else (significand, digit :: rest)

/-- The largest power of ten by which a double is multiplied or divided in one step. -/
def largestPower : Nat := 308

/-- The double nearest to a power of ten. -/
def powerOfTen (exponent : Nat) : Binary64 := .ofInt (Nat.pow 10 exponent)

/-- A significand times a power of ten, if it does not exceed the doubles. A number below
`10 ^ -largestPower` is divided twice, and far smaller ones are zero. -/
def scale (significand : Nat) (exponent : Int) : Option Binary64 :=
  let start := Binary64.ofInt significand
  if significand = 0 then some start
  else if 0 ≤ exponent then
    if exponent ≤ largestPower then
      let product := start.mul (powerOfTen exponent.toNat)
      if product.isFinite then some product else none
    else none
  else
    let places := exponent.natAbs
    if places ≤ largestPower then some (start.div (powerOfTen places))
    else if places ≤ 2 * largestPower then
      some ((start.div (powerOfTen largestPower)).div (powerOfTen (places - largestPower)))
    else some (.zero false)

namespace NumberLiteral

/-- The value of a literal read as a double. -/
def double? (literal : NumberLiteral) : Option Binary64 :=
  let (whole, moved) := collect 0 literal.whole
  let (significand, dropped) := collect whole literal.fraction
  let exponent : Int := moved.length - (literal.fraction.length - dropped.length : Nat) +
    literal.exponent.getD 0
  (scale significand exponent).map fun x =>
    if literal.negative then .ofMagnitudeBits true x.magnitudeBits else x

/-- The integer of 64 bits that a literal without point and exponent stands for. -/
def integer? (literal : NumberLiteral) : Option Int :=
  let (magnitude, moved) := collect 0 literal.whole
  if !literal.fraction.isEmpty || literal.exponent.isSome || !moved.isEmpty then none
  else if !literal.negative then some magnitude
  else if 0 < magnitude ∧ magnitude ≤ Nat.pow 2 63 then some (-magnitude)
  else none

/-- The value of a literal. -/
def value? (literal : NumberLiteral) : Option Number :=
  match literal.integer? with
  | some n => some (.integer n)
  | none => literal.double?.map .float

end NumberLiteral

end TypedSql.Json
