import TypedSql.Calendar.Instant

/-!
# RFC 3339 date-times

Reads texts such as `2024-02-29T12:00:00.5+01:00`. The reader works on the bytes of the text
and stops at the first part that is wrong, in the order in which it reads them: the length,
the form of the date, whether that day exists, the form of the time, its fraction, the range
of the time, the offset, what follows it, and the range of the offset.

A second of 60 is a leap second. Nine digits of the fraction count and further ones are
dropped. The offset may be signed with a hyphen, a plus or the minus sign `−`.
-/

namespace TypedSql.Rfc3339

set_option autoImplicit false

/-- Why a text is not a date-time. -/
inductive Fault where
  | premature
  | invalid
  | outOfRange
  | trailing
deriving DecidableEq, Repr

/-- The wording of a fault. -/
def Fault.message : Fault → String
  | .premature => "premature end of input"
  | .invalid => "input contains invalid characters"
  | .outOfRange => "input is out of range"
  | .trailing => "trailing input"

/-! ## The calendar -/

/-- Whether a year of the Gregorian calendar has 366 days. -/
def isLeapYear (year : Nat) : Bool := year % 4 = 0 ∧ (year % 100 ≠ 0 ∨ year % 400 = 0)

/-- The lengths of the months of a year. -/
def monthLengths (year : Nat) : List Nat :=
  [31, if isLeapYear year then 29 else 28, 31, 30, 31, 30, 31, 31, 30, 31, 30, 31]

/-- The days of the years before this one, from year 0 on. -/
def daysBeforeYear (year : Nat) : Nat :=
  365 * year + (year + 3) / 4 - (year + 99) / 100 + (year + 399) / 400

/-- The days from the start of 1970 to a day of the calendar, if there is such a day. -/
def dayNumber? (year month day : Nat) : Option Int :=
  if 1 ≤ month ∧ 1 ≤ day ∧ ((monthLengths year)[month - 1]?).any (day ≤ ·) then
    let before := ((monthLengths year).take (month - 1)).foldl (· + ·) 0
    some ((daysBeforeYear year + before + (day - 1) : Nat) - (daysBeforeYear 1970 : Nat))
  else none

/-! ## Reading bytes -/

/-- The bytes of a text in UTF-8. -/
def bytesOf (text : String) : List UInt8 := text.toList.flatMap String.utf8EncodeChar

/-- The byte of an ASCII character. -/
def ascii (c : Char) : UInt8 := UInt8.ofNat c.toNat

/-- The value of an ASCII digit. -/
def digit? (byte : UInt8) : Option Nat :=
  if ascii '0' ≤ byte ∧ byte ≤ ascii '9' then some (byte - ascii '0').toNat else none

/-- Reads exactly `count` digits. -/
def digits (count : Nat) (bytes : List UInt8) : Except Fault (Nat × List UInt8) :=
  match (bytes.take count).mapM digit? with
  | some values =>
      if values.length = count then
        .ok (values.foldl (fun number value => number * 10 + value) 0, bytes.drop count)
      else .error .invalid
  | none => .error .invalid

/-- Reads one of the given bytes. -/
def oneOf (allowed : List UInt8) : List UInt8 → Except Fault (List UInt8)
  | byte :: rest => if byte ∈ allowed then .ok rest else .error .invalid
  | [] => .error .invalid

/-- Reads two digits, where a text that ends before them is premature. -/
def twoDigits (bytes : List UInt8) : Except Fault (Nat × List UInt8) :=
  if bytes.length < 2 then .error .premature else digits 2 bytes

/-! ## The parts of a date-time -/

/-- Reads the day as the number of days from the start of 1970. -/
def date (bytes : List UInt8) : Except Fault (Int × List UInt8) := do
  let (year, bytes) ← digits 4 bytes
  let bytes ← oneOf [ascii '-'] bytes
  let (month, bytes) ← digits 2 bytes
  let bytes ← oneOf [ascii '-'] bytes
  let (day, bytes) ← digits 2 bytes
  match dayNumber? year month day with
  | some number => .ok (number, bytes)
  | none => .error .outOfRange

/-- Reads the digits after a decimal point as nanoseconds. -/
def fraction : List UInt8 → Except Fault (Nat × List UInt8)
  | [] => .error .premature
  | first :: rest =>
      if (digit? first).isNone then .error .invalid
      else
        let isDigit := fun byte => (digit? byte).isSome
        let values := ((first :: rest).takeWhile isDigit).filterMap digit?
        let kept := values.take 9 ++ List.replicate (9 - values.length) 0
        .ok (kept.foldl (fun number value => number * 10 + value) 0,
          (first :: rest).dropWhile isDigit)

/-- Reads the time of day as seconds and nanoseconds. -/
def time (bytes : List UInt8) : Except Fault ((Nat × Nat) × List UInt8) := do
  let (hour, bytes) ← digits 2 bytes
  let bytes ← oneOf [ascii ':'] bytes
  let (minute, bytes) ← digits 2 bytes
  let bytes ← oneOf [ascii ':'] bytes
  let (second, bytes) ← digits 2 bytes
  let (nanos, bytes) ←
    match bytes with
    | byte :: rest => if byte = ascii '.' then fraction rest else .ok (0, bytes)
    | [] => .ok (0, bytes)
  let (second, nanos) :=
    if second = 60 then (59, nanos + Instant.nanosPerSecond) else (second, nanos)
  if 23 < hour ∨ 59 < minute ∨ 59 < second then .error .outOfRange
  else .ok ((hour * 3600 + minute * 60 + second, nanos), bytes)

/-- The bytes of the sign of an offset: a hyphen, a plus or the minus sign U+2212. -/
def sign : List UInt8 → Except Fault (Int × List UInt8)
  | [] => .error .premature
  | first :: rest =>
      if first = ascii '+' then .ok (1, rest)
      else if first = ascii '-' then .ok (-1, rest)
      else
        let minus := String.utf8EncodeChar '−'
        if (first :: rest).take minus.length = minus then
          .ok (-1, (first :: rest).drop minus.length)
        else .error .invalid

/-- Reads the minutes of an offset, of which 60 to 99 are out of range. -/
def offsetMinutes (bytes : List UInt8) : Except Fault (Nat × List UInt8) := do
  let (minutes, rest) ← twoDigits bytes
  if minutes < 60 then .ok (minutes, rest) else .error .outOfRange

/-- Reads the offset from UTC in seconds. -/
def offset : List UInt8 → Except Fault (Int × List UInt8)
  | [] => .error .premature
  | first :: rest =>
      if first ∈ [ascii 'Z', ascii 'z'] then .ok (0, rest)
      else do
        let (direction, bytes) ← sign (first :: rest)
        let (hours, bytes) ← twoDigits bytes
        let bytes ← if bytes.isEmpty then .error .premature else oneOf [ascii ':'] bytes
        let (minutes, bytes) ← offsetMinutes bytes
        .ok (direction * (hours * 3600 + minutes * 60 : Nat), bytes)

/-- Reads the bytes of a date-time. -/
def parseBytes (bytes : List UInt8) : Except Fault Instant := do
  if bytes.length < 19 then .error .premature
  let (day, bytes) ← date bytes
  let bytes ← oneOf [ascii 'T', ascii 't', ascii ' '] bytes
  let ((second, nanos), bytes) ← time bytes
  let (shift, bytes) ← offset bytes
  if !bytes.isEmpty then .error .trailing
  if 86400 ≤ shift.natAbs then .error .outOfRange
  match Instant.ofParts? (day * 86400 + second - shift) nanos with
  | some instant => .ok instant
  | none => .error .outOfRange

/-- Reads a date-time with its offset from UTC. -/
def parse (text : String) : Except Fault Instant := parseBytes (bytesOf text)

end TypedSql.Rfc3339
