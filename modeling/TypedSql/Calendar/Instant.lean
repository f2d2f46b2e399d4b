/-!
# Instants

An `Instant` is a point on the UTC time scale: whole seconds since the start of 1970, floored
so that the nanoseconds are never negative. A leap second has no number of its own. It shares
the number of the second before it, and its nanoseconds run from one thousand million upwards.
Built from its parts (`ofParts?`), it stands only behind the last second of a minute.

Storage keeps instants to the millisecond. `millis` floors, also before 1970, and `ofMillis?`
reads a count of milliseconds back if it lies within the calendar.
-/

namespace TypedSql

set_option autoImplicit false

namespace Instant

/-- The first second of the calendar. -/
def firstSecond : Int := -8334601228800

/-- The last second of the calendar. -/
def lastSecond : Int := 8210266876799

/-- How many nanoseconds make a second. -/
def nanosPerSecond : Nat := 1000000000

/-- How many nanoseconds make a millisecond. -/
def nanosPerMilli : Nat := 1000000

end Instant

/-- A point in time to the nanosecond. -/
structure Instant where
  seconds : Int
  nanos : Nat
  seconds_in_calendar : Instant.firstSecond ≤ seconds ∧ seconds ≤ Instant.lastSecond
  nanos_lt : nanos < 2 * Instant.nanosPerSecond
deriving DecidableEq, Repr

namespace Instant

/-- The instant with these parts, if they name one: a leap second ends a minute. -/
def ofParts? (seconds : Int) (nanos : Nat) : Option Instant :=
  if calendar : firstSecond ≤ seconds ∧ seconds ≤ lastSecond then
    if bound : nanos < 2 * nanosPerSecond then
      if nanosPerSecond ≤ nanos → seconds % 60 = 59 then some ⟨seconds, nanos, calendar, bound⟩
      else none
    else none
  else none

/-- Milliseconds since the start of 1970, rounded down. -/
def millis (x : Instant) : Int := x.seconds * 1000 + (x.nanos / nanosPerMilli : Nat)

/-- The instant at a number of milliseconds since the start of 1970. -/
def ofMillis? (millis : Int) : Option Instant :=
  ofParts? (millis / 1000) ((millis % 1000).toNat * nanosPerMilli)

end Instant

end TypedSql
