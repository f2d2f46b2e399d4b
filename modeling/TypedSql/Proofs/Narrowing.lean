import Mathlib.Data.Rat.Floor
import Mathlib.Tactic.FieldSimp
import TypedSql.Proofs.RoundTrip
import TypedSql.Proofs.Shortest

/-!
# Floats in integer columns

`Binary64.value` is the rational number that the parts of a finite double stand for, and
`Binary64.saturated` is its conversion to 64 bits, which cuts off what stands behind the point and
stops at the ends of the range.

An integer column takes a float that is an integer in the range of 64 bits and refuses every other
one. Once both have been asked, the conversion changes nothing: what it would cut off is zero, and
what lies beyond its ends has been refused (`Codec.narrow_eq`). The lower end belongs to the range
and the upper one does not. `Codec.narrow_exact` says so of the column in both directions.
-/

set_option autoImplicit false

namespace TypedSql

/-! ## The value of a double -/

namespace Binary64

/-- The absolute value of a finite double, from its exponent and its fraction. -/
def magnitude (x : Binary64) : ℚ :=
  if x.exponentField = 0 then (x.fraction : ℚ) / 2 ^ 52 * 2 ^ (-1022 : ℤ)
  else (1 + (x.fraction : ℚ) / 2 ^ 52) * 2 ^ ((x.exponentField : ℤ) - 1023)

/-- The number that a finite double stands for. -/
def value (x : Binary64) : ℚ := if x.isNegative then -x.magnitude else x.magnitude

/-- A number without what stands behind the point. -/
def truncate (q : ℚ) : ℤ := if q < 0 then ⌈q⌉ else ⌊q⌋

/-- The conversion of a double to 64 bits. What stands behind the point is cut off, numbers beyond
the range become its ends, and a NaN becomes zero. -/
def saturated (x : Binary64) : Int64 :=
  if x.isNaN then 0
  else if x.isFinite then
    Int64.ofInt (max Int64.minValue.toInt (min (truncate x.value) Int64.maxValue.toInt))
  else if x.isNegative then Int64.minValue
  else Int64.maxValue

theorem natCast_two_pow (n : ℕ) : ((Nat.pow 2 n : ℕ) : ℚ) = 2 ^ (n : ℤ) := by
  rw [Nat.pow_eq, Nat.cast_pow, Nat.cast_ofNat, zpow_natCast]

theorem natCast_unitsPerOne : (unitsPerOne : ℚ) = 2 ^ ((1074 : ℕ) : ℤ) := by
  unfold unitsPerOne
  generalize 1074 = n
  exact natCast_two_pow n

theorem natCast_units (x : Binary64) : (x.units : ℚ) = x.significand * 2 ^ (x.scale : ℤ) := by
  rw [units, Nat.cast_mul, natCast_two_pow]

/-- The absolute value counts the units of the smallest positive double. -/
theorem magnitude_eq (x : Binary64) : x.magnitude = x.units / unitsPerOne := by
  rw [magnitude, natCast_units, natCast_unitsPerOne, significand, scale, mul_div_assoc,
    ← zpow_sub₀ two_ne_zero]
  split
  case isTrue subnormal =>
    have lowest : ((x.exponentField - 1 : ℕ) : ℤ) - (1074 : ℕ) = -1022 - (52 : ℕ) := by
      rw [subnormal]
      rfl
    rw [lowest, zpow_sub₀ two_ne_zero, zpow_natCast]
    field_simp
  case isFalse normal =>
    have shifted : ((x.exponentField - 1 : ℕ) : ℤ) - (1074 : ℕ) =
        x.exponentField - 1023 - (52 : ℕ) := by
      omega
    rw [shifted, zpow_sub₀ two_ne_zero _ (52 : ℕ), Nat.cast_add, natCast_two_pow, zpow_natCast]
    field_simp

theorem value_eq (x : Binary64) : x.value = (x.signed x.units : ℚ) / unitsPerOne := by
  rw [value, magnitude_eq, signed]
  split
  · push_cast
    rw [neg_div]
  · rfl

theorem value_eq_intCast_iff {x : Binary64} {n : ℤ} :
    x.value = n ↔ x.signed x.units = n * unitsPerOne := by
  have positive : (unitsPerOne : ℚ) ≠ 0 := by
    rw [natCast_unitsPerOne]
    exact zpow_ne_zero _ two_ne_zero
  rw [value_eq, div_eq_iff positive]
  exact_mod_cast Iff.rfl

/-- A finite double is read as the integer that is its value. -/
theorem toInt?_eq_some_iff_value {x : Binary64} {n : ℤ} :
    x.toInt? = some n ↔ x.isFinite = true ∧ x.value = n := by
  rw [toInt?_eq_some_iff, value_eq_intCast_iff]

/-- A finite double is read as an integer if nothing stands behind the point. -/
theorem exists_toInt?_iff {x : Binary64} :
    (∃ n, x.toInt? = some n) ↔ x.isFinite = true ∧ Int.fract x.value = 0 := by
  rw [Int.fract_eq_zero_iff, Set.mem_range]
  simp only [toInt?_eq_some_iff_value, exists_and_left, @eq_comm ℚ x.value]

/-! ## The conversion -/

theorem truncate_intCast (n : ℤ) : truncate n = n := by
  rw [truncate, Int.ceil_intCast, Int.floor_intCast, ite_self]

/-- A whole number in the range of 64 bits is converted to itself. -/
theorem saturated_eq_ofInt {x : Binary64} {n : ℤ} (finite : x.isFinite = true)
    (same : x.value = n) (least : Int64.minValue.toInt ≤ n) (greatest : n ≤ Int64.maxValue.toInt) :
    x.saturated = Int64.ofInt n := by
  rw [saturated, isNaN_eq_false_of_isFinite finite, if_neg Bool.false_ne_true, if_pos finite, same,
    truncate_intCast, min_eq_left greatest, max_eq_right least]

end Binary64

namespace Codec

variable {x : Binary64}

/-- A finite float with nothing behind the point is converted if it is in the range of 64 bits. -/
theorem narrow_eq (x : Binary64) :
    narrow x =
      if x.isFinite = true ∧ Int.fract x.value = 0 then
        if -2 ^ 63 ≤ x.value ∧ x.value < 2 ^ 63 then .ok x.saturated
        else .error (.integerOutOfRange x)
      else .error (.notIntegral x) := by
  rw [narrow]
  by_cases whole : x.isFinite = true ∧ Int.fract x.value = 0
  · obtain ⟨n, read⟩ := Binary64.exists_toInt?_iff.mpr whole
    obtain ⟨finite, same⟩ := Binary64.toInt?_eq_some_iff_value.mp read
    have range : Int64.minValue.toInt ≤ n ∧ n ≤ Int64.maxValue.toInt ↔
        -2 ^ 63 ≤ x.value ∧ x.value < 2 ^ 63 := by
      rw [Int64.toInt_minValue, Int64.toInt_maxValue, same, Int.le_sub_one_iff]
      exact_mod_cast Iff.rfl
    rw [read, if_pos whole]
    by_cases inside : Int64.minValue.toInt ≤ n ∧ n ≤ Int64.maxValue.toInt
    · rw [if_pos (range.mp inside), Binary64.saturated_eq_ofInt finite same inside.1 inside.2]
      exact if_pos inside
    · rw [if_neg (mt range.mpr inside)]
      exact if_neg inside
  · have unread : x.toInt? = none :=
      Option.eq_none_iff_forall_ne_some.mpr fun n read =>
        whole (Binary64.exists_toInt?_iff.mp ⟨n, read⟩)
    rw [unread, if_neg whole]

theorem exists_narrow_iff :
    (∃ n, narrow x = .ok n) ↔ (x.isFinite = true ∧ Int.fract x.value = 0) ∧
      -2 ^ 63 ≤ x.value ∧ x.value < 2 ^ 63 := by
  rw [narrow_eq]
  split
  case isTrue whole => split <;> simp [*]
  case isFalse broken => simp [broken]

theorem narrow_eq_notIntegral_iff :
    narrow x = .error (.notIntegral x) ↔ ¬ (x.isFinite = true ∧ Int.fract x.value = 0) := by
  rw [narrow_eq]
  split
  case isTrue whole => split <;> simp [whole]
  case isFalse broken => simp [broken]

theorem narrow_eq_outOfRange_iff :
    narrow x = .error (.integerOutOfRange x) ↔ (x.isFinite = true ∧ Int.fract x.value = 0) ∧
      ¬ (-2 ^ 63 ≤ x.value ∧ x.value < 2 ^ 63) := by
  rw [narrow_eq]
  split
  case isTrue whole => split <;> simp [*]
  case isFalse broken => simp [broken]

/-- **A float passes an integer column exactly if it is an integer of 64 bits, and unchanged.** It
passes if it is finite, has no fractional part and lies from `-2 ^ 63` up to, but not at, `2 ^ 63`.
What it becomes then equals it: the conversion to 64 bits cuts nothing off and stops at no end.
It is refused as not integral exactly if it is infinite, no number or has a fractional part, and as
out of range exactly if it is finite and whole and lies outside. Storing and reading follow the
same rule. -/
theorem narrow_exact (x : Binary64) :
    ((∃ n, narrow x = .ok n) ↔ (x.isFinite = true ∧ Int.fract x.value = 0) ∧
      -2 ^ 63 ≤ x.value ∧ x.value < 2 ^ 63) ∧
    (∀ n, narrow x = .ok n → n.toInt = x.value ∧ n = x.saturated) ∧
    (narrow x = .error (.notIntegral x) ↔ x.isFinite = false ∨ Int.fract x.value ≠ 0) ∧
    (narrow x = .error (.integerOutOfRange x) ↔ (x.isFinite = true ∧ Int.fract x.value = 0) ∧
      (x.value < -2 ^ 63 ∨ 2 ^ 63 ≤ x.value)) ∧
    encode .integer (.float x) = (narrow x).map .int ∧
    decode .integer (.float x) = (narrow x).map .integer := by
  refine ⟨exists_narrow_iff, fun n narrowed => ⟨?equal, ?converted⟩, ?notIntegral, ?outOfRange,
    rfl, rfl⟩
  case equal =>
    obtain ⟨-, equal⟩ := narrow_eq_ok_iff.mp narrowed
    exact (Binary64.value_eq_intCast_iff.mpr equal).symm
  case converted =>
    obtain ⟨whole, inside⟩ := exists_narrow_iff.mp ⟨n, narrowed⟩
    rw [narrow_eq, if_pos whole, if_pos inside] at narrowed
    exact (Except.ok.inj narrowed).symm
  case notIntegral => rw [narrow_eq_notIntegral_iff, not_and_or, Bool.not_eq_true]
  case outOfRange => rw [narrow_eq_outOfRange_iff, not_and_or, not_le, not_lt]

/-- The lower end of the range passes as itself, and the upper one is refused. -/
theorem narrow_exact_ends :
    (∃ n, narrow ⟨0xC3E0000000000000⟩ = .ok n ∧ n.toInt = -2 ^ 63 ∧
      (n.toInt : ℚ) = Binary64.value ⟨0xC3E0000000000000⟩ ∧
      n = Binary64.saturated ⟨0xC3E0000000000000⟩) ∧
    narrow ⟨0x43E0000000000000⟩ = .error (.integerOutOfRange ⟨0x43E0000000000000⟩) := by
  have narrowed : narrow ⟨0xC3E0000000000000⟩ = .ok Int64.minValue := by decide +kernel
  obtain ⟨equal, converted⟩ := (narrow_exact ⟨0xC3E0000000000000⟩).2.1 _ narrowed
  exact ⟨⟨_, narrowed, Int64.toInt_minValue, equal, converted⟩, by decide +kernel⟩

end Codec

end TypedSql
