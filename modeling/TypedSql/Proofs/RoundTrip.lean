import TypedSql.Codec
import TypedSql.Proofs.Nearest
import TypedSql.Proofs.Outcome

/-!
# Values that come back from storage

A value that a column can store is read back, and storing it again stores the same
(`Codec.comes_back`). What is read back need not be the value itself: an instant loses what is
smaller than a millisecond, an integer in a float column becomes the nearest double, and a float
in an integer column the integer that it is equal to (`Codec.Returns`).

An instant is counted in milliseconds from 1970, and a leap second shares its number with the
second before it. A leap second at the very end of the calendar has milliseconds behind the last
ordinary instant, and only these are not read back.
-/

set_option autoImplicit false

namespace TypedSql

/-! ## Instants -/

namespace Instant

/-- The last instant of the calendar that is not in a leap second. -/
def last : Instant where
  seconds := lastSecond
  nanos := nanosPerSecond - 1
  seconds_in_calendar := by decide
  nanos_lt := by decide

/-- Nanoseconds since the start of 1970. -/
def total (x : Instant) : Int := x.seconds * nanosPerSecond + x.nanos

/-- An instant is another one rounded down to the millisecond. -/
structure IsFloorOf (y x : Instant) : Prop where
  seconds : y.seconds = x.seconds
  total : y.total = x.total / nanosPerMilli * nanosPerMilli

theorem millis_bounds (x : Instant) : firstSecond * 1000 ≤ x.millis ∧
    x.millis ≤ lastSecond * 1000 + 1999 := by
  have calendar := x.seconds_in_calendar
  have bound := x.nanos_lt
  simp only [millis, nanosPerMilli, nanosPerSecond] at *
  omega

theorem last_millis : last.millis = lastSecond * 1000 + 999 := rfl

/-- A leap second at the very end, whose milliseconds lie behind the last instant. -/
structure IsBehindLast (x : Instant) : Prop where
  millis : last.millis < x.millis
  seconds : x.seconds = lastSecond
  leap : nanosPerSecond ≤ x.nanos

theorem isBehindLast_of_millis {x : Instant} (millis : last.millis < x.millis) :
    x.IsBehindLast := by
  have calendar := x.seconds_in_calendar
  have parts : lastSecond * 1000 + 999 < x.seconds * 1000 + (x.nanos / 1000000 : Nat) := millis
  have bound : x.nanos < 2 * 1000000000 := x.nanos_lt
  exact ⟨millis, by omega, by rw [nanosPerSecond]; omega⟩

/-- A number of milliseconds in the calendar is read as an instant with the same number. -/
theorem exists_ofMillis? {millis : Int} (first : firstSecond * 1000 ≤ millis)
    (atMost : millis ≤ last.millis) : ∃ y, ofMillis? millis = some y ∧ y.millis = millis ∧
      y.seconds = millis / 1000 ∧ y.nanos = (millis % 1000).toNat * nanosPerMilli := by
  rw [last_millis] at atMost
  have calendar : firstSecond ≤ millis / 1000 ∧ millis / 1000 ≤ lastSecond := by omega
  have ordinary : (millis % 1000).toNat * nanosPerMilli < nanosPerSecond := by
    rw [nanosPerMilli, nanosPerSecond]
    omega
  have bound : (millis % 1000).toNat * nanosPerMilli < 2 * nanosPerSecond := by omega
  have leap : nanosPerSecond ≤ (millis % 1000).toNat * nanosPerMilli →
      millis / 1000 % 60 = 59 := by omega
  refine ⟨⟨millis / 1000, (millis % 1000).toNat * nanosPerMilli, calendar, bound⟩,
    ?_, ?_, rfl, rfl⟩
  · rw [ofMillis?, ofParts?, dif_pos calendar, dif_pos bound, if_pos leap]
  · simp only [Instant.millis, nanosPerMilli]
    omega

/-- An instant outside leap seconds is read back rounded down. -/
theorem isFloorOf_of_millis {x y : Instant} (ordinary : x.nanos < nanosPerSecond)
    (seconds : y.seconds = x.millis / 1000)
    (nanos : y.nanos = (x.millis % 1000).toNat * nanosPerMilli) : y.IsFloorOf x := by
  rw [millis, nanosPerMilli] at seconds nanos
  rw [nanosPerSecond] at ordinary
  constructor
  · omega
  · rw [total, total, seconds, nanos, nanosPerMilli, nanosPerSecond]
    omega

end Instant

/-! ## Floats that are integers -/

namespace Binary64

theorem natAbs_signed (x : Binary64) (magnitude : Nat) :
    (x.signed magnitude).natAbs = magnitude := by
  rw [signed]
  split
  · rw [Int.natAbs_neg, Int.natAbs_natCast]
  · rw [Int.natAbs_natCast]

theorem signed_mul (x : Binary64) (magnitude factor : Nat) :
    x.signed (magnitude * factor) = x.signed magnitude * factor := by
  rw [signed, signed]
  split
  · rw [Int.natCast_mul, Int.neg_mul]
  · rw [Int.natCast_mul]

/-- A float is read as an integer if it is finite and equal to it. -/
theorem toInt?_eq_some_iff {x : Binary64} {n : Int} :
    x.toInt? = some n ↔ x.isFinite = true ∧ x.signed x.units = n * unitsPerOne := by
  have positive := unitsPerOne_pos
  rw [toInt?]
  constructor
  · intro found
    split at found
    case isFalse => cases found
    case isTrue integral =>
      obtain rfl := Option.some.inj found
      refine ⟨integral.1, ?_⟩
      rw [← signed_mul, Nat.div_mul_cancel (Nat.dvd_of_mod_eq_zero integral.2)]
  · rintro ⟨finite, equal⟩
    have units : x.units = n.natAbs * unitsPerOne := by
      rw [← x.natAbs_signed x.units, equal, Int.natAbs_mul, Int.natAbs_natCast]
    rw [units, signed_mul] at equal
    rw [units, Nat.mul_mod_left, Nat.mul_div_cancel _ positive, if_pos ⟨finite, rfl⟩]
    exact congrArg some (Int.eq_of_mul_eq_mul_right (Int.natCast_ne_zero.mpr positive.ne') equal)

end Binary64

/-- A float becomes the 64-bit integer that it is equal to. -/
theorem Codec.narrow_eq_ok_iff {x : Binary64} {n : Int64} :
    narrow x = .ok n ↔
      x.isFinite = true ∧ x.signed x.units = n.toInt * Binary64.unitsPerOne := by
  rw [← Binary64.toInt?_eq_some_iff, narrow]
  cases found : x.toInt? with
  | none => simp
  | some integer =>
      simp only [Int64.toInt_minValue, Int64.toInt_maxValue, Option.some.injEq]
      constructor
      · intro narrowed
        split at narrowed
        case isFalse => cases narrowed
        case isTrue inRange =>
          obtain rfl := Except.ok.inj narrowed
          rw [Int64.toInt_ofInt_of_le inRange.1 (by omega)]
      · rintro rfl
        have atLeast := n.le_toInt
        have below := n.toInt_lt
        rw [if_pos (by omega), Int64.ofInt_toInt]

/-! ## What comes back -/

/-- Whether a value is of the kind that a column type is for. -/
def Value.IsOf (value : Value) (type : ColumnType) : Prop :=
  value.columnType? = some type ∨ type = .varchar ∧ value.columnType? = some .text

namespace Codec

/-- What a column gives back for a value that it has stored. -/
inductive Returns : ColumnType → Value → Value → Prop where
  | null (type : ColumnType) : Returns type .null .null
  | same {type : ColumnType} {value : Value} (own : value.IsOf type)
      (timeless : type ≠ .datetime) : Returns type value value
  | instant {x y : Instant} (millis : y.millis = x.millis)
      (floor : x.nanos < Instant.nanosPerSecond → y.IsFloorOf x) :
      Returns .datetime (.datetime x) (.datetime y)
  | widened {n : Int64} {x : Binary64} (nearest : x.IsNearest n.toInt) :
      Returns .float (.integer n) (.float x)
  | narrowed {x : Binary64} {n : Int64} (finite : x.isFinite = true)
      (equal : x.signed x.units = n.toInt * Binary64.unitsPerOne) :
      Returns .integer (.float x) (.integer n)

theorem isNearest_widen (n : Int64) : (widen n).IsNearest n.toInt := by
  refine Binary64.isNearest_ofInt ?_
  have := n.le_toInt
  have := n.toInt_lt
  omega

variable {type : ColumnType} {value : Value} {stored : Stored}

theorem decode_encode_datetime {x : Instant} (atMost : x.millis ≤ Instant.last.millis) :
    ∃ y : Instant, decode .datetime (.int (Int64.ofInt x.millis)) = .ok (.datetime y) ∧
      y.millis = x.millis ∧ (x.nanos < Instant.nanosPerSecond → y.IsFloorOf x) := by
  obtain ⟨first, last⟩ := x.millis_bounds
  obtain ⟨y, read, millis, seconds, nanos⟩ := Instant.exists_ofMillis? first atMost
  have number : (Int64.ofInt x.millis).toInt = x.millis := by
    rw [Instant.firstSecond] at first
    rw [Instant.lastSecond] at last
    exact Int64.toInt_ofInt_of_le (by omega) (by omega)
  refine ⟨y, ?_, millis, fun ordinary => Instant.isFloorOf_of_millis ordinary seconds nanos⟩
  rw [decode, number, instantAt, read]

/-- **A stored value comes back, and storing it again stores the same.** What comes back is NULL
only for NULL. The one value that does not come back is a leap second at the end of the
calendar. -/
theorem comes_back (encoded : encode type value = .ok stored) :
    (∃ x, value = .datetime x ∧ x.IsBehindLast) ∨
      ∃ back, decode type stored = .ok back ∧ encode type back = .ok stored ∧
        (back = .null ↔ value = .null) ∧ Returns type value back := by
  fun_cases encode type value with
  | case1 type =>
      have encodes : encode type .null = .ok .null := by rw [encode]
      obtain rfl := Except.ok.inj (encodes.symm.trans encoded)
      exact .inr ⟨.null, by rw [decode], encodes, Iff.rfl, .null type⟩
  | case2 b =>
      obtain rfl := Except.ok.inj encoded
      exact .inr ⟨.bool b, by cases b <;> rfl, encoded, Iff.rfl, .same (.inl rfl) (by decide)⟩
  | case3 x =>
      obtain rfl := Except.ok.inj encoded
      rcases lt_or_ge Instant.last.millis x.millis with behind | atMost
      · exact .inl ⟨x, rfl, Instant.isBehindLast_of_millis behind⟩
      · obtain ⟨y, decoded, millis, floor⟩ := decode_encode_datetime atMost
        exact .inr ⟨.datetime y, decoded, by rw [encode, millis], by simp, .instant millis floor⟩
  | case5 x =>
      obtain ⟨n, narrowed, rfl⟩ := Outcome.map_eq_ok.mp encoded
      obtain ⟨finite, equal⟩ := narrow_eq_ok_iff.mp narrowed
      exact .inr ⟨.integer n, rfl, rfl, by simp, .narrowed finite equal⟩
  | case7 n =>
      obtain rfl := Except.ok.inj encoded
      exact .inr ⟨.float (widen n), rfl, rfl, by simp, .widened (isNearest_widen n)⟩
  | case9 s =>
      obtain rfl := Except.ok.inj encoded
      exact .inr ⟨.text s, rfl, encoded, Iff.rfl, .same (.inr ⟨rfl, rfl⟩) (by decide)⟩
  | case4 | case6 | case8 | case10 =>
      obtain rfl := Except.ok.inj encoded
      exact .inr ⟨_, rfl, encoded, Iff.rfl, .same (.inl rfl) (by decide)⟩
  -- No other equation of `encode` answers.
  | case11 => simp_all [encode]

/-- The last nanosecond before 1970. -/
def eve : Instant where
  seconds := -1
  nanos := 999999999
  seconds_in_calendar := by decide
  nanos_lt := by decide

/-- The last nanosecond before 1970 comes back as the start of its millisecond. -/
theorem comes_back_eve : ∃ y : Instant, encode .datetime (.datetime eve) = .ok (.int (-1)) ∧
    decode .datetime (.int (-1)) = .ok (.datetime y) ∧ y.total = -1000000 := by
  have encoded : encode .datetime (.datetime eve) = .ok (.int (-1)) := rfl
  rcases comes_back encoded with ⟨x, same, behind⟩ | ⟨back, decoded, -, -, returns⟩
  · rw [← Value.datetime.inj same] at behind
    exact absurd behind.leap (by decide)
  · cases returns with
    | same own timeless => exact absurd rfl timeless
    | instant millis floor => exact ⟨_, encoded, decoded, (floor (by decide)).total⟩

end Codec

end TypedSql
