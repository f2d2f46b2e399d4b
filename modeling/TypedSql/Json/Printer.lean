import TypedSql.Binary64.Shortest
import TypedSql.Json.Basic

/-!
# Writing JSON

The compact text of a JSON value. A double is written with the fewest digits that read back,
ties to the even digit, positionally from `0.00001` up to sixteen digits before the point and
otherwise with an exponent, and always with a sign that it is no integer.
-/

namespace TypedSql.Json

set_option autoImplicit false

/-- The text of a positive decimal number. Its coefficient is not a multiple of ten. -/
def decimalText (x : Decimal) : List Char :=
  let digits := decimalDigits x.coefficient
  let pointAt : Int := digits.length + x.exponent
  if 0 ≤ x.exponent ∧ pointAt ≤ 16 then x.plain ++ ".0".toList
  else if -5 < pointAt ∧ pointAt ≤ 16 then x.plain
  else
    let exponent := 'e' :: integerDigits (pointAt - 1)
    match digits with
    | [digit] => digit :: exponent
    | first :: rest => first :: '.' :: (rest ++ exponent)
    | [] => exponent

/-- The text of a finite double. -/
def doubleText (x : Binary64) : List Char :=
  let magnitude := if x.units = 0 then "0.0".toList else decimalText (x.shortest .even)
  if x.isNegative then '-' :: magnitude else magnitude

/-- The text of a number. -/
def numberText : Number → List Char
  | .integer n => integerDigits n
  | .float x => doubleText x

/-- A hexadecimal digit below sixteen in lower case. -/
def hexLetter (n : Nat) : Char := Nat.digitChar n

/-- A character inside a string. -/
def escape (c : Char) : List Char :=
  if c = '"' ∨ c = '\\' then ['\\', c]
  else if c = '\x08' then ['\\', 'b']
  else if c = '\x0c' then ['\\', 'f']
  else if c = '\n' then ['\\', 'n']
  else if c = '\r' then ['\\', 'r']
  else if c = '\t' then ['\\', 't']
  else if c.toNat < 32 then
    ['\\', 'u', '0', '0', hexLetter (c.toNat / 16), hexLetter (c.toNat % 16)]
  else [c]

/-- The text of a string. -/
def stringText (text : String) : List Char :=
  '"' :: (text.toList.flatMap escape ++ ['"'])

mutual

/-- The characters of a value. -/
def chars : Json → List Char
  | null => "null".toList
  | bool b => (if b then "true" else "false").toList
  | number n => numberText n
  | string s => stringText s
  | array [] => ['[', ']']
  | array (first :: rest) => '[' :: (first.chars ++ itemsChars rest)
  | object [] => ['\x7b', '\x7d']
  | object ((key, first) :: rest) =>
      '\x7b' :: (stringText key ++ ':' :: first.chars ++ membersChars rest)

/-- The items after the first one, and the closing bracket. -/
def itemsChars : List Json → List Char
  | [] => [']']
  | next :: rest => ',' :: (next.chars ++ itemsChars rest)

/-- The members after the first one, and the closing brace. -/
def membersChars : List (String × Json) → List Char
  | [] => ['\x7d']
  | (key, next) :: rest =>
      ',' :: (stringText key ++ ':' :: next.chars ++ membersChars rest)

end

/-- The compact text of a value. -/
def render (json : Json) : String := String.ofList json.chars

end TypedSql.Json
