import TypedSql.Engine.Numeral

/-!
# Affinities

A column prefers values of one kind, its affinity, which follows from the name of its type.
Values are converted to the affinity when they are stored, as far as nothing is lost: a text
becomes a number if it is numeric, an integral double an integer in an integer column, an
integer a double in a real column, and a number a text in a text column.

Values of different storage classes are ordered by class: NULL before numbers before texts
before blobs. When two values are compared, the affinity of a column on one side is applied
to the other side, and with columns on both sides a numeric affinity wins.
-/

namespace TypedSql.Engine

set_option autoImplicit false

/-- The kind of values that a column prefers. -/
inductive Affinity where
  | blob
  | text
  | numeric
  | integer
  | real
deriving DecidableEq, Repr

/-- Whether a word occurs in a text. -/
def occurs (word : List Char) : List Char → Bool
  | [] => word.isEmpty
  | c :: rest => word.isPrefixOf (c :: rest) || occurs word rest

namespace Affinity

/-- The parts of type names that decide about the affinity, in the order in which they are
tried. -/
def rules : List (String × Affinity) :=
  [("INT", integer), ("CHAR", text), ("CLOB", text), ("TEXT", text), ("BLOB", blob),
    ("REAL", real), ("FLOA", real), ("DOUB", real)]

/-- The affinity of a type name. -/
def ofTypeName (name : String) : Affinity :=
  if name.isEmpty then blob
  else ((rules.find? fun rule => occurs rule.1.toList name.toUpper.toList).map (·.2)).getD numeric

/-- Whether an affinity prefers numbers. -/
def isNumeric : Affinity → Bool
  | numeric | integer | real => true
  | text | blob => false

end Affinity

/-! ## Conversions -/

/-- A number as an integer if it is an integral double within the integers of 64 bits, the
least and the greatest left out. -/
def asInteger : Stored → Stored
  | .float x =>
      match x.toInt? with
      | some n =>
          if Int64.minValue.toInt < n ∧ n < Int64.maxValue.toInt then .int (Int64.ofInt n)
          else .float x
      | none => .float x
  | value => value

/-- A text as the number that it is, if it is numeric. -/
def asNumber : Stored → Stored
  | .text s =>
      match Numeral.ofText? s with
      | some numeral => numeral.toStored
      | none => .text s
  | value => value

/-- An integer as the nearest double. -/
def asDouble : Stored → Stored
  | .int n => .float (.ofInt n.toInt)
  | value => value

/-- A number as a text. -/
def asText : Stored → Stored
  | .int n => .text (String.ofList (integerDigits n.toInt))
  | .float x => .text (doubleText x)
  | value => value

/-- The value that a column of an affinity stores. -/
def Affinity.convert : Affinity → Stored → Stored
  | .blob, value => value
  | .text, value => asText value
  | .numeric, value => asInteger (asNumber value)
  | .integer, value => asInteger (asNumber value)
  | .real, value => asDouble (asInteger (asNumber value))

/-! ## Comparison -/

/-- The place of a storage class in the order of all values. -/
def classRank : Stored → Nat
  | .null => 0
  | .int _ => 1
  | .float _ => 1
  | .text _ => 2
  | .blob _ => 3

/-- The lexicographic order of bytes. -/
def compareBytes : List UInt8 → List UInt8 → Ordering
  | [], [] => .eq
  | [], _ :: _ => .lt
  | _ :: _, [] => .gt
  | first :: rest, first' :: rest' => (compare first first').then (compareBytes rest rest')

/-- The order of all values. -/
def compareStored : Stored → Stored → Ordering
  | .int a, .int b => compare a.toInt b.toInt
  | .int a, .float b => (b.compareInt a.toInt).swap
  | .float a, .int b => a.compareInt b.toInt
  | .float a, .float b => compare a.rank b.rank
  | .text a, .text b => compare a b
  | .blob a, .blob b => compareBytes a b
  | a, b => compare (classRank a) (classRank b)

/-- Whether a value is a text. -/
def isText : Stored → Bool
  | .text _ => true
  | _ => false

/-- Two values as they are compared under an affinity. -/
def prepared (affinity : Affinity) (a b : Stored) : Stored × Stored :=
  if affinity.isNumeric then (asNumber a, asNumber b)
  else if affinity = .text ∧ (isText a ∨ isText b) then (asText a, asText b)
  else (a, b)

/-- The affinity under which two operands are compared, of which columns have one. -/
def comparisonAffinity : Option Affinity → Option Affinity → Affinity
  | some a, some b => if a.isNumeric || b.isNumeric then .numeric else .blob
  | some a, none => a
  | none, some b => b
  | none, none => .blob

/-- How two values compare, unless one of them is NULL. -/
def compareUnder? (affinity : Affinity) (a b : Stored) : Option Ordering :=
  match a, b with
  | .null, _ => none
  | _, .null => none
  | a, b =>
      let (a, b) := prepared affinity a b
      some (compareStored a b)

/-! ## Truth and texts of values -/

/-- Bytes as characters, byte by byte. -/
def charsOfBytes (bytes : List UInt8) : List Char :=
  (String.fromUTF8? ⟨bytes.toArray⟩).elim (bytes.map fun byte => Char.ofNat byte.toNat) (·.toList)

/-- Whether the number at the start of a text is other than zero. -/
def leadingNumberHolds (chars : List Char) : Bool :=
  match Numeral.read? chars with
  | some (numeral, _) => (doubleOf false numeral.magnitude).magnitudeBits ≠ 0
  | none => false

/-- Whether a value counts as true, unless it is NULL. -/
def truth? : Stored → Option Bool
  | .null => none
  | .int n => some (n ≠ 0)
  | .float x => some (x.magnitudeBits ≠ 0)
  | .text s => some (leadingNumberHolds s.toList)
  | .blob bytes => some (leadingNumberHolds (charsOfBytes bytes))

/-- A truth value as a stored one. -/
def ofTruth : Option Bool → Stored
  | none => .null
  | some b => .int (if b then 1 else 0)

/-- The characters of a value where a text is asked for, up to a null character. -/
def textForm? : Stored → Option (List Char)
  | .null => none
  | .blob bytes => some ((charsOfBytes bytes).takeWhile (· ≠ '\x00'))
  | value =>
      match asText value with
      | .text s => some (s.toList.takeWhile (· ≠ '\x00'))
      | _ => none

/-! ## LIKE -/

/-- All ends of a text, the whole text first. -/
def suffixes : List Char → List (List Char)
  | [] => [[]]
  | c :: rest => (c :: rest) :: suffixes rest

/-- Whether a text matches a pattern in which `%` stands for any characters and `_` for one.
ASCII letters match in both cases. -/
def isLike : List Char → List Char → Bool
  | [], text => text.isEmpty
  | c :: pattern, text =>
      if c = '%' then (suffixes text).any (isLike pattern)
      else
        match text with
        | [] => false
        | first :: rest => (c = '_' || c.toLower = first.toLower) && isLike pattern rest

end TypedSql.Engine
