import TypedSql.Binary64.Rounding
import TypedSql.Decimal
import TypedSql.Stored

/-!
# Numbers in texts

The engine reads numbers at the start of texts: blanks, a sign, digits with a decimal point
among them, and an exponent. A numeral of digits alone is an integer if it fits 64 bits, and
every other one the nearest double. A text is numeric if nothing but blanks follows its
numeral.

In the other direction a double becomes a text of at most fifteen significant digits that
always shows a decimal point.
-/

namespace TypedSql.Engine

set_option autoImplicit false

/-- A number as it is written in a text. -/
structure Numeral where
  negative : Bool
  magnitude : Decimal
  isInteger : Bool
deriving DecidableEq, Repr

/-- The value of a string of digits. -/
def naturalOf (digits : List Char) : Nat :=
  digits.foldl (fun n digit => n * 10 + (digit.toNat - '0'.toNat)) 0

/-- The blanks that may surround a numeral. -/
def isNumeralBlank (c : Char) : Bool := c = ' ' ∨ (9 ≤ c.toNat ∧ c.toNat ≤ 13)

/-- The double nearest to a decimal number. Far beyond the range of the doubles the power of
ten is not worked out. -/
def doubleOf (negative : Bool) (magnitude : Decimal) : Binary64 :=
  let size := (decimalDigits magnitude.coefficient).length + magnitude.exponent
  if magnitude.coefficient = 0 ∨ size < -400 then .zero negative
  else if 400 < size then .ofMagnitudeBits negative Binary64.infinityBits
  else .ofRatio negative (magnitude.coefficient * Nat.pow 10 magnitude.exponent.toNat)
    (Nat.pow 10 (-magnitude.exponent).toNat)

namespace Numeral

/-- A sign, and the input after it. -/
def readSign : List Char → Bool × List Char
  | '-' :: rest => (true, rest)
  | '+' :: rest => (false, rest)
  | input => (false, input)

/-- The digits after a decimal point, if there is a point. -/
def readFraction : List Char → Option (List Char) × List Char
  | '.' :: rest => (some (rest.takeWhile Char.isDigit), rest.dropWhile Char.isDigit)
  | input => (none, input)

/-- The exponent at the start of an input, if there is one. -/
def readExponent? : List Char → Option (Int × List Char)
  | c :: rest =>
      if c = 'e' ∨ c = 'E' then
        let (negative, rest) := readSign rest
        match rest.takeWhile Char.isDigit with
        | [] => none
        | digits =>
            let size : Int := naturalOf digits
            some (if negative then -size else size, rest.dropWhile Char.isDigit)
      else none
  | [] => none

/-- Reads the numeral at the start of an input, after blanks. -/
def read? (input : List Char) : Option (Numeral × List Char) :=
  let (negative, rest) := readSign (input.dropWhile isNumeralBlank)
  let whole := rest.takeWhile Char.isDigit
  let (fraction, rest) := readFraction (rest.dropWhile Char.isDigit)
  let digits := whole ++ fraction.getD []
  if digits.isEmpty then none
  else
    let places := (fraction.getD []).length
    match readExponent? rest with
    | some (exponent, rest) => some (⟨negative, ⟨naturalOf digits, exponent - places⟩, false⟩, rest)
    | none => some (⟨negative, ⟨naturalOf digits, -places⟩, fraction.isNone⟩, rest)

/-- The value of a numeral. -/
def toStored (numeral : Numeral) : Stored :=
  let n : Int :=
    if numeral.negative then -numeral.magnitude.coefficient else numeral.magnitude.coefficient
  if numeral.isInteger ∧ Int64.minValue.toInt ≤ n ∧ n ≤ Int64.maxValue.toInt then
    .int (Int64.ofInt n)
  else .float (doubleOf numeral.negative numeral.magnitude)

/-- The numeral that makes up a whole text. -/
def ofText? (text : String) : Option Numeral :=
  match read? text.toList with
  | some (numeral, rest) => if rest.all isNumeralBlank then some numeral else none
  | none => none

end Numeral

/-! ## Doubles as texts -/

/-- How many digits the text of a double shows. -/
def shownDigits : Nat := 15

/-- The digits of the exponent of a double, of which there are at least two. -/
def exponentDigits (n : Nat) : List Char :=
  if n < 10 then '0' :: decimalDigits n else decimalDigits n

/-- The exponent of the leading decimal digit of a positive quotient, searched downwards from
`start`. -/
def leadingExponent (numerator denominator : Nat) : Nat → Int → Int
  | 0, start => start
  | steps + 1, start =>
      if denominator * Nat.pow 10 start.toNat ≤ numerator * Nat.pow 10 (-start).toNat then start
      else leadingExponent numerator denominator steps (start - 1)

/-- A positive quotient rounded to the shown digits, as those digits and the exponent of the
first of them. A half is rounded up. -/
def roundedDigits (numerator denominator : Nat) : List Char × Int :=
  let leading := leadingExponent numerator denominator 640 309
  let shift : Int := shownDigits - 1 - leading
  let top := numerator * Nat.pow 10 shift.toNat
  let bottom := denominator * Nat.pow 10 (-shift).toNat
  let digits := decimalDigits ((2 * top + bottom) / (2 * bottom))
  if digits.length = shownDigits then (digits, leading) else (digits.take shownDigits, leading + 1)

/-- Digits without the zeros at their end. -/
def withoutTrailingZeros (digits : List Char) : List Char :=
  (digits.reverse.dropWhile (· = '0')).reverse

/-- Digits after a decimal point, of which there is at least one. -/
def pointAnd (digits : List Char) : List Char :=
  '.' :: if (withoutTrailingZeros digits).isEmpty then ['0'] else withoutTrailingZeros digits

/-- The text of the absolute value of a finite double. -/
def magnitudeText (x : Binary64) : List Char :=
  if x.units = 0 then "0.0".toList
  else
    let (digits, leading) := roundedDigits x.units Binary64.unitsPerOne
    if leading < -4 then
      digits.take 1 ++ pointAnd (digits.drop 1) ++ 'e' :: '-' :: exponentDigits leading.natAbs
    else if shownDigits ≤ leading then
      digits.take 1 ++ pointAnd (digits.drop 1) ++ 'e' :: '+' :: exponentDigits leading.natAbs
    else if leading < 0 then
      '0' :: pointAnd (List.replicate (leading.natAbs - 1) '0' ++ digits)
    else
      digits.take (leading.toNat + 1) ++ pointAnd (digits.drop (leading.toNat + 1))

/-- The text of a double. -/
def doubleText (x : Binary64) : String :=
  let magnitude := if x.isFinite then magnitudeText x else "Inf".toList
  String.ofList (if x.isNegative ∧ x.magnitudeBits ≠ 0 then '-' :: magnitude else magnitude)

end TypedSql.Engine
