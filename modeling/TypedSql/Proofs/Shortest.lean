import Mathlib.Tactic.Ring
import TypedSql.Binary64.Shortest
import TypedSql.Engine.Numeral
import TypedSql.Proofs.Literals
import TypedSql.Proofs.Nearest

/-!
# The shortest decimal is read back

What lies in the rounding interval of a double is rounded to it (`Binary64.ofRatio_of_reads`). The
interval is cut short below a power of two, where the neighbour is nearer: what lies there is
rounded at the next smaller scale, and the quotient carries back into the exponent.

The search over the grids comes to an end, since every finite double is a multiple of `10 ^ -1074`,
and the grid point that it returns lies in the interval (`Binary64.covers_shortest`). So the
shortest decimal of a finite double is read as that double, with the sign of a zero
(`Binary64.doubleOf_shortest`).
-/

set_option autoImplicit false

namespace TypedSql

/-! ## The number of digits -/

/-- A number is below the power of ten that its digits count. -/
theorem lt_pow_length_decimalDigits (n : Nat) : n < 10 ^ (decimalDigits n).length :=
  (Nat.length_toDigits_le_iff (by decide) Nat.length_toDigits_pos).mp (Nat.le_refl _)

/-- A positive number is not below the power of ten before that. -/
theorem pow_length_decimalDigits_le {n : Nat} (positive : 0 < n) :
    10 ^ ((decimalDigits n).length - 1) ≤ n := by
  refine Nat.le_of_not_lt fun short => ?_
  rcases Nat.eq_zero_or_pos ((decimalDigits n).length - 1) with single | several
  · rw [single] at short
    omega
  · have fewer := (Nat.length_toDigits_le_iff (by decide) several).mpr short
    rw [decimalDigits] at fewer several
    omega

namespace Binary64

variable {x : Binary64}

/-! ## The bits of a double -/

/-- A double is assembled of its own scale and significand. -/
theorem assembled_self (x : Binary64) : x.Assembled x.scale x.significand := by
  have bound : x.fraction < 2 ^ 52 := Nat.mod_lt _ (by decide)
  have bits : x.magnitudeBits = x.exponentField * 2 ^ 52 + x.fraction := by
    rw [exponentField, fraction, Nat.pow_eq, Nat.div_add_mod']
  rw [scale, significand, Nat.pow_eq]
  generalize x.exponentField = exponent at *
  generalize x.fraction = fraction at *
  by_cases subnormal : exponent = 0
  · rw [if_pos subnormal]
    exact ⟨by rw [bits, subnormal], by omega, by omega⟩
  · rw [if_neg subnormal]
    exact ⟨by rw [bits]; omega, by omega, by omega⟩

theorem magnitudeBits_lt (finite : x.isFinite = true) : x.magnitudeBits < infinityBits := by
  have bound : x.magnitudeBits < 2 ^ 63 := Nat.mod_lt _ (by decide)
  rw [isFinite, decide_eq_true_eq, exponentField, Nat.pow_eq] at finite
  rw [infinityBits, Nat.pow_eq]
  omega

theorem isNaN_eq_false_of_isFinite {x : Binary64} (finite : x.isFinite = true) :
    x.isNaN = false := by
  rw [isFinite, decide_eq_true_eq] at finite
  rw [isNaN, decide_eq_false_iff_not]
  exact fun nan => finite nan.1

/-- A double is made of its sign and its other bits. -/
theorem ofMagnitudeBits_magnitudeBits (x : Binary64) :
    ofMagnitudeBits x.isNegative x.magnitudeBits = x := by
  have bound : x.bits.toNat < 2 ^ 64 := x.bits.toNat_lt
  have number : (if x.isNegative then Nat.pow 2 63 + x.magnitudeBits else x.magnitudeBits) =
      x.bits.toNat := by
    rw [isNegative, magnitudeBits, Nat.pow_eq]
    simp only [decide_eq_true_eq]
    split <;> omega
  rw [ofMagnitudeBits, number, UInt64.ofNat_toNat]

/-! ## What is in the rounding interval -/

section

variable {target quotient step : Nat}

/-- A multiple that is at most half a step away is the rounded one, if it is even or nearer. -/
theorem roundedQuotient_eq (positive : 0 < step)
    (lower : (2 * quotient) * step ≤ 2 * target + step)
    (upper : 2 * target ≤ (2 * quotient + 1) * step)
    (even : quotient % 2 = 0 ∨
      (2 * quotient) * step < 2 * target + step ∧ 2 * target < (2 * quotient + 1) * step) :
    roundedQuotient target step = quotient := by
  have small := Nat.mod_lt target positive
  have parts : target / step * step + target % step = target := Nat.div_add_mod' target step
  have cases := roundedQuotient_cases target step
  generalize roundedQuotient target step = rounded at *
  generalize target / step = whole at *
  generalize target % step = remainder at *
  subst parts
  rw [Nat.mul_assoc] at lower even
  rw [Nat.add_mul, Nat.mul_assoc, Nat.one_mul] at upper even
  -- A multiple on the other side of the target, or beyond the next one, is too far away.
  rcases Nat.lt_trichotomy quotient whole with below | rfl | above
  · rcases Nat.eq_or_lt_of_le below with next | beyond
    · obtain rfl : whole = quotient + 1 := next.symm
      rw [Nat.add_mul, Nat.one_mul] at lower even upper
      omega
    · have : (quotient + 2) * step ≤ whole * step := Nat.mul_le_mul_right step beyond
      rw [Nat.add_mul] at this
      omega
  · omega
  · rcases Nat.eq_or_lt_of_le above with next | beyond
    · obtain rfl : quotient = whole + 1 := next.symm
      rw [Nat.add_mul, Nat.one_mul] at lower even upper
      omega
    · have : (whole + 2) * step ≤ quotient * step := Nat.mul_le_mul_right step beyond
      rw [Nat.add_mul] at this
      omega

end

/-- A number has 53 bits at one scale only. -/
theorem scaleOf_eq {numerator denominator scale : Nat} (positive : 0 < denominator)
    (atLeast : scale = 0 ∨ 2 ^ 52 * (denominator * 2 ^ scale) ≤ numerator)
    (below : numerator < 2 ^ 53 * (denominator * 2 ^ scale)) :
    scaleOf (numerator / denominator) = scale := by
  have other := scaleOf_spec numerator positive
  generalize scaleOf (numerator / denominator) = actual at other
  have coarser {fine coarse : Nat} (finer : fine < coarse) :
      2 ^ 53 * (denominator * 2 ^ fine) ≤ 2 ^ 52 * (denominator * 2 ^ coarse) := by
    have doubled : 2 * 2 ^ fine ≤ 2 ^ coarse := by
      rw [← Nat.pow_succ']
      exact Nat.pow_le_pow_right (by decide) finer
    have scaled := Nat.mul_le_mul_left denominator doubled
    rw [Nat.mul_left_comm] at scaled
    omega
  rcases Nat.lt_trichotomy actual scale with finer | same | finer
  · have := coarser finer
    omega
  · exact same
  · have := coarser finer
    omega

/-- What is in the rounding interval is at most half a step from the significand, and nearer if
that is odd. -/
theorem near_of_reads {target denominator : Nat}
    (reads : x.reads (4 * target) denominator = true) :
    (2 * x.significand) * (denominator * 2 ^ x.scale) ≤ 2 * target + denominator * 2 ^ x.scale ∧
      2 * target ≤ (2 * x.significand + 1) * (denominator * 2 ^ x.scale) ∧
      (x.significand % 2 = 0 ∨
        (2 * x.significand) * (denominator * 2 ^ x.scale) <
            2 * target + denominator * 2 ^ x.scale ∧
          2 * target < (2 * x.significand + 1) * (denominator * 2 ^ x.scale)) := by
  have regroup (count : Nat) :
      count * Nat.pow 2 x.scale * denominator = count * (denominator * 2 ^ x.scale) := by
    rw [Nat.pow_eq, Nat.mul_assoc, Nat.mul_comm denominator]
  rw [Binary64.reads, lowerEnd, upperEnd, regroup, regroup, Nat.sub_mul, Nat.add_mul,
    Nat.mul_assoc] at reads
  rw [Nat.add_mul, Nat.mul_assoc]
  generalize denominator * 2 ^ x.scale = step at *
  have short : (if x.fraction = 0 ∧ 1 < x.exponentField then 1 else 2) * step ≤ 2 * step := by
    split <;> omega
  generalize x.significand = significand at *
  generalize (if x.fraction = 0 ∧ 1 < x.exponentField then 1 else 2) * step = cut at *
  generalize significand * step = product at *
  by_cases even : significand % 2 = 0
  · rw [if_pos even, decide_eq_true_eq] at reads
    exact ⟨by omega, by omega, .inl even⟩
  · rw [if_neg even, decide_eq_true_eq] at reads
    exact ⟨by omega, by omega, .inr ⟨by omega, by omega⟩⟩

/-- What is in the rounding interval is not outside its ends. -/
theorem bounds_of_reads {position factor : Nat} (reads : x.reads position factor = true) :
    x.lowerEnd * factor ≤ position ∧ position ≤ x.upperEnd * factor := by
  rw [Binary64.reads] at reads
  split at reads
  · exact of_decide_eq_true reads
  · exact (of_decide_eq_true reads).imp Nat.le_of_lt Nat.le_of_lt

/-- Below the lowest number of its scale only a power of two has something in its interval, and
the interval is cut short there. -/
theorem powerOfTwo_of_reads {target denominator : Nat} (positive : 0 < denominator)
    (scaled : x.scale ≠ 0) (below : target < 2 ^ 52 * (denominator * 2 ^ x.scale))
    (reads : x.reads (4 * target) denominator = true) :
    x.significand = 2 ^ 52 ∧
      (2 ^ 54 - 1) * (denominator * 2 ^ x.scale) ≤ 4 * target := by
  have product : 0 < denominator * 2 ^ x.scale := Nat.mul_pos positive (Nat.two_pow_pos _)
  have lowest : 2 ^ 52 ≤ x.significand := x.assembled_self.normal.resolve_left scaled
  have power : x.significand = 2 ^ 52 := by
    refine Nat.le_antisymm ?_ lowest
    have near := (near_of_reads reads).1
    by_contra beyond
    have : (2 * (2 ^ 52 + 1)) * (denominator * 2 ^ x.scale) ≤
        (2 * x.significand) * (denominator * 2 ^ x.scale) :=
      Nat.mul_le_mul_right _ (by omega)
    omega
  have cut : x.fraction = 0 ∧ 1 < x.exponentField := by
    rw [scale] at scaled
    rw [significand, if_neg (by omega), Nat.pow_eq] at power
    omega
  have even : x.significand % 2 = 0 := by omega
  refine ⟨power, ?_⟩
  rw [Binary64.reads, if_pos even, decide_eq_true_eq, lowerEnd, if_pos cut, power,
    Nat.pow_eq, Nat.mul_assoc, Nat.mul_comm _ denominator] at reads
  exact reads.1

/-- The bits of a number are those of a rounded ratio if it has the significand at the scale. -/
theorem ofRatio_eq {numerator denominator scale significand : Nat} (finite : x.isFinite = true)
    (scaled : scaleOf (numerator * unitsPerOne / denominator) = scale)
    (rounded : roundedQuotient (numerator * unitsPerOne) (denominator * 2 ^ scale) = significand)
    (bits : x.magnitudeBits = scale * 2 ^ 52 + significand) :
    ofRatio x.isNegative numerator denominator = x := by
  have fits := Nat.min_eq_left (magnitudeBits_lt finite).le
  rw [ofRatio, scaled, Nat.pow_eq, Nat.pow_eq, rounded, ← bits, fits,
    ofMagnitudeBits_magnitudeBits]

/-- **What lies in the rounding interval of a double is rounded to it.** -/
theorem ofRatio_of_reads {numerator denominator : Nat} (finite : x.isFinite = true)
    (positive : 0 < denominator)
    (reads : x.reads (4 * (numerator * unitsPerOne)) denominator = true) :
    ofRatio x.isNegative numerator denominator = x := by
  obtain ⟨bits, normal, -⟩ := x.assembled_self
  have bound := x.significand_lt
  obtain ⟨lower, upper, even⟩ := near_of_reads reads
  have product : 0 < denominator * 2 ^ x.scale := Nat.mul_pos positive (Nat.two_pow_pos _)
  have below : numerator * unitsPerOne < 2 ^ 53 * (denominator * 2 ^ x.scale) := by
    have : (2 * x.significand + 1) * (denominator * 2 ^ x.scale) <
        (2 * 2 ^ 53) * (denominator * 2 ^ x.scale) :=
      Nat.mul_lt_mul_of_pos_right (by omega) product
    omega
  by_cases atLeast : x.scale = 0 ∨ 2 ^ 52 * (denominator * 2 ^ x.scale) ≤ numerator * unitsPerOne
  · exact ofRatio_eq finite (scaleOf_eq positive atLeast below)
      (roundedQuotient_eq product lower upper even) bits
  · rw [not_or, Nat.not_le] at atLeast
    obtain ⟨power, short⟩ := powerOfTwo_of_reads positive atLeast.1 atLeast.2 reads
    obtain ⟨previous, next⟩ := Nat.exists_eq_succ_of_ne_zero atLeast.1
    have halved : denominator * 2 ^ x.scale = 2 * (denominator * 2 ^ previous) := by
      rw [next, Nat.pow_succ', Nat.mul_left_comm]
    rw [halved] at atLeast short product
    have scaled : scaleOf (numerator * unitsPerOne / denominator) = previous :=
      scaleOf_eq positive (.inr (by omega)) (by omega)
    have rounded : roundedQuotient (numerator * unitsPerOne) (denominator * 2 ^ previous) =
        2 ^ 53 :=
      roundedQuotient_eq (by omega) (by omega) (by omega) (.inl rfl)
    exact ofRatio_eq finite scaled rounded (by rw [bits, power, next]; omega)

/-! ## Decimals in the rounding interval -/

/-- Whether a decimal is in the rounding interval. -/
def Covers (x : Binary64) (d : Decimal) : Prop :=
  x.reads (4 * (d.coefficient * 10 ^ d.exponent.toNat * unitsPerOne)) (10 ^ (-d.exponent).toNat) =
    true

theorem one_le_lowerEnd (nonzero : x.units ≠ 0) : 1 ≤ x.lowerEnd := by
  have significand : x.significand ≠ 0 := left_ne_zero_of_mul nonzero
  rw [lowerEnd]
  refine Nat.mul_pos ?_ (Nat.two_pow_pos _)
  split <;> omega

theorem scale_le (finite : x.isFinite = true) : x.scale ≤ 2045 := by
  have bits := magnitudeBits_lt finite
  rw [infinityBits, Nat.pow_eq] at bits
  rw [scale, exponentField, Nat.pow_eq]
  generalize x.magnitudeBits = magnitude at *
  omega

theorem upperEnd_le (x : Binary64) : x.upperEnd ≤ 2 ^ (55 + x.scale) := by
  have bound := x.significand_lt
  rw [upperEnd, Nat.pow_eq, Nat.pow_add]
  exact Nat.mul_le_mul_right _ (by omega)

section

variable {d : Decimal}

theorem coefficient_ne_zero_of_covers (nonzero : x.units ≠ 0) (covers : x.Covers d) :
    d.coefficient ≠ 0 := by
  rintro zero
  have lower := (bounds_of_reads covers).1
  rw [zero, Nat.zero_mul, Nat.zero_mul, Nat.mul_zero] at lower
  exact Nat.not_lt.mpr lower
    (Nat.mul_pos (one_le_lowerEnd nonzero) (Nat.pow_pos (by decide)))

/-- A decimal in the interval of a double is not far below the smallest one. -/
theorem neg_le_size_of_covers (nonzero : x.units ≠ 0) (covers : x.Covers d) :
    -400 ≤ (decimalDigits d.coefficient).length + d.exponent := by
  have lower := (bounds_of_reads covers).1
  have digits := lt_pow_length_decimalDigits d.coefficient
  have units : 4 * unitsPerOne < 10 ^ 400 := by decide +kernel
  generalize (decimalDigits d.coefficient).length = length at *
  generalize whole : d.exponent.toNat = left at *
  generalize broken : (-d.exponent).toNat = right at *
  by_contra tiny
  have power : 10 ^ 400 * 10 ^ (length + left) ≤ 10 ^ right := by
    rw [← Nat.pow_add]
    exact Nat.pow_le_pow_right (by decide) (by omega)
  have position : 10 ^ right < 10 ^ 400 * 10 ^ (length + left) := by
    calc 10 ^ right ≤ x.lowerEnd * 10 ^ right := Nat.le_mul_of_pos_left _ (one_le_lowerEnd nonzero)
      _ ≤ 4 * (d.coefficient * 10 ^ left * unitsPerOne) := lower
      _ = 4 * unitsPerOne * (d.coefficient * 10 ^ left) := by
          rw [Nat.mul_assoc 4, Nat.mul_comm unitsPerOne]
      _ < 10 ^ 400 * 10 ^ (length + left) := by
          rw [Nat.pow_add]
          exact Nat.mul_lt_mul'' units
            (Nat.mul_lt_mul_of_pos_right digits (Nat.pow_pos (by decide)))
  exact Nat.not_lt.mpr power position

/-- A decimal in the interval of a double is not far above the largest one. -/
theorem size_le_of_covers (finite : x.isFinite = true) (nonzero : d.coefficient ≠ 0)
    (covers : x.Covers d) : (decimalDigits d.coefficient).length + d.exponent ≤ 400 := by
  have upper := (bounds_of_reads covers).2
  obtain ⟨limit, scaled, units⟩ :
      ∃ limit, x.scale ≤ limit ∧ 2 ^ (55 + limit) < 4 * unitsPerOne * 10 ^ 400 :=
    ⟨2045, scale_le finite, by decide +kernel⟩
  have highest : x.upperEnd ≤ 2 ^ (55 + limit) :=
    x.upperEnd_le.trans (Nat.pow_le_pow_right (by decide) (Nat.add_le_add_left scaled 55))
  have digits := pow_length_decimalDigits_le (Nat.pos_of_ne_zero nonzero)
  generalize (decimalDigits d.coefficient).length = length at *
  generalize whole : d.exponent.toNat = left at *
  generalize broken : (-d.exponent).toNat = right at *
  by_contra huge
  have power : 10 ^ 400 * 10 ^ right ≤ 10 ^ (length - 1) * 10 ^ left := by
    rw [← Nat.pow_add, ← Nat.pow_add]
    exact Nat.pow_le_pow_right (by decide) (by omega)
  have position : 4 * unitsPerOne * (10 ^ (length - 1) * 10 ^ left) <
      4 * unitsPerOne * (10 ^ 400 * 10 ^ right) := by
    calc 4 * unitsPerOne * (10 ^ (length - 1) * 10 ^ left)
        ≤ 4 * unitsPerOne * (d.coefficient * 10 ^ left) :=
          Nat.mul_le_mul_left _ (Nat.mul_le_mul_right _ digits)
      _ = 4 * (d.coefficient * 10 ^ left * unitsPerOne) := by
          rw [Nat.mul_assoc, Nat.mul_comm unitsPerOne]
      _ ≤ x.upperEnd * 10 ^ right := upper
      _ ≤ 2 ^ (55 + limit) * 10 ^ right := Nat.mul_le_mul_right _ highest
      _ < 4 * unitsPerOne * 10 ^ 400 * 10 ^ right :=
          Nat.mul_lt_mul_of_pos_right units (Nat.pow_pos (by decide))
      _ = 4 * unitsPerOne * (10 ^ 400 * 10 ^ right) := Nat.mul_assoc ..
  exact Nat.not_lt.mpr (Nat.mul_le_mul_left _ power) position

/-- A double without units is a zero. -/
theorem eq_zero_of_units (none : x.units = 0) : x = zero x.isNegative := by
  obtain ⟨bits, normal, -⟩ := x.assembled_self
  have significand : x.significand = 0 := by
    rcases Nat.mul_eq_zero.mp none with nothing | power
    · exact nothing
    · exact absurd power (Nat.two_pow_pos x.scale).ne'
  have magnitude : x.magnitudeBits = 0 := by
    rw [significand] at bits normal
    have scaled : x.scale = 0 := normal.resolve_right (by decide)
    rw [bits, scaled, Nat.zero_mul]
  rw [zero, ← magnitude, ofMagnitudeBits_magnitudeBits]

/-- **A decimal in the rounding interval of a double is read as that double.** -/
theorem doubleOf_of_covers (finite : x.isFinite = true) (covers : x.Covers d) :
    Engine.doubleOf x.isNegative d = x := by
  rw [Engine.doubleOf]
  by_cases nothing : d.coefficient = 0 ∨ (decimalDigits d.coefficient).length + d.exponent < -400
  · have units : x.units = 0 := by
      by_contra nonzero
      rcases nothing with none | tiny
      · exact coefficient_ne_zero_of_covers nonzero covers none
      · exact Int.not_lt.mpr (neg_le_size_of_covers nonzero covers) tiny
    rw [if_pos nothing]
    exact (eq_zero_of_units units).symm
  · have greatest := size_le_of_covers finite (not_or.mp nothing).1 covers
    rw [if_neg nothing, if_neg (Int.not_lt.mpr greatest)]
    exact ofRatio_of_reads finite (Nat.pow_pos (by decide)) covers

end

/-! ## The search for the shortest decimal -/

section

variable {tie : Tie} {exponent : Int} {coefficient : Nat}

theorem covers_iff :
    x.Covers ⟨coefficient, exponent⟩ ↔
      x.reads (coefficient * (gridSpacing exponent).1) (gridSpacing exponent).2 = true := by
  have position : coefficient * (4 * unitsPerOne * 10 ^ exponent.toNat) =
      4 * (coefficient * 10 ^ exponent.toNat * unitsPerOne) := by
    ring
  rw [Covers, gridSpacing, Nat.pow_eq, Nat.pow_eq, position]

/-- What is found on a grid is one of the two points around the number, and in the interval. -/
theorem covers_of_gridPoint? (hit : x.gridPoint? tie exponent = some coefficient) :
    x.Covers ⟨coefficient, exponent⟩ := by
  rw [covers_iff]
  simp only [gridPoint?] at hit
  generalize (gridSpacing exponent).1 = spacing at *
  generalize (gridSpacing exponent).2 = factor at *
  generalize x.quarters * factor % spacing = remainder at *
  generalize x.quarters * factor / spacing = below at *
  split at hit
  case isTrue both =>
    rw [Bool.and_eq_true] at both
    have either : coefficient = below ∨ coefficient = below + 1 := by
      cases tie <;> grind
    rcases either with rfl | rfl
    · exact both.1
    · exact both.2
  case isFalse =>
    split at hit
    case isTrue belowReads =>
      obtain rfl := Option.some.inj hit
      exact belowReads
    case isFalse =>
      split at hit
      case isTrue aboveReads =>
        obtain rfl := Option.some.inj hit
        exact aboveReads
      case isFalse => cases hit

/-- A number is in its own interval. -/
theorem reads_self (nonzero : x.units ≠ 0) (factor : Nat) (positive : 0 < factor) :
    x.reads (x.quarters * factor) factor = true := by
  have power : 0 < 2 ^ x.scale := Nat.two_pow_pos _
  have significand : x.significand ≠ 0 := left_ne_zero_of_mul nonzero
  have lower : x.lowerEnd < x.quarters := by
    rw [lowerEnd, quarters, units, ← Nat.mul_assoc, Nat.pow_eq]
    refine Nat.mul_lt_mul_of_pos_right ?_ power
    split <;> omega
  have upper : x.quarters < x.upperEnd := by
    rw [upperEnd, quarters, units, ← Nat.mul_assoc, Nat.pow_eq]
    exact Nat.mul_lt_mul_of_pos_right (by omega) power
  have below := Nat.mul_lt_mul_of_pos_right lower positive
  have above := Nat.mul_lt_mul_of_pos_right upper positive
  rw [reads]
  split
  · exact decide_eq_true ⟨below.le, above.le⟩
  · exact decide_eq_true ⟨below, above⟩

/-- A grid that the number is on has a point in the interval. -/
theorem exists_gridPoint? (nonzero : x.units ≠ 0)
    (onGrid : (gridSpacing exponent).1 ∣ x.quarters * (gridSpacing exponent).2) :
    ∃ coefficient, x.gridPoint? tie exponent = some coefficient := by
  have belowReads := reads_self nonzero (gridSpacing exponent).2 (Nat.pow_pos (by decide))
  rw [← Nat.div_mul_cancel onGrid] at belowReads
  simp only [gridPoint?, belowReads, Bool.true_and, if_true]
  split
  · split
    · exact ⟨_, rfl⟩
    · split
      · exact ⟨_, rfl⟩
      · cases tie <;> exact ⟨_, rfl⟩
  · exact ⟨_, rfl⟩

/-- The search ends at a decimal in the interval if one of the grids that it tries has a point. -/
theorem covers_searchGrids {tries steps : Nat} (enough : steps < tries)
    (point : ∃ coefficient, x.gridPoint? tie (exponent - steps) = some coefficient) :
    x.Covers (x.searchGrids tie tries exponent) := by
  induction tries generalizing exponent steps with
  | zero => omega
  | succ tries ih =>
    rw [searchGrids]
    cases hit : x.gridPoint? tie exponent with
    | some coefficient => exact covers_of_gridPoint? hit
    | none =>
      cases steps with
      | zero =>
        obtain ⟨coefficient, found⟩ := point
        rw [Int.natCast_zero, Int.sub_zero, hit] at found
        cases found
      | succ steps =>
        rw [Int.natCast_add, Int.natCast_one, Int.add_comm, ← Int.sub_sub] at point
        exact ih (Nat.lt_of_succ_lt_succ enough) point

/-- Every finite double is a multiple of the smallest one, and that of `10 ^ -1074`. -/
theorem exists_finest_gridPoint? (nonzero : x.units ≠ 0) :
    ∃ coefficient, x.gridPoint? tie (309 - (1383 : Nat)) = some coefficient := by
  refine exists_gridPoint? nonzero ?_
  obtain ⟨places, one, finest⟩ :
      ∃ places : Nat, unitsPerOne = Nat.pow 2 places ∧ (309 - (1383 : Nat) : Int) = -places := by
    refine ⟨1074, ?_, rfl⟩
    unfold unitsPerOne
    generalize 1074 = places
    rfl
  rw [finest, gridSpacing, quarters, one, Int.toNat_neg_natCast, Int.neg_neg,
    Int.toNat_natCast, Nat.pow_eq, Nat.pow_eq, Nat.pow_eq, Nat.pow_zero, Nat.mul_one]
  exact Nat.mul_dvd_mul (Nat.dvd_mul_right 4 x.units) (pow_dvd_pow_of_dvd (by decide) places)

/-- **The shortest decimal of a double is in its rounding interval.** -/
theorem covers_shortest (x : Binary64) (tie : Tie) : x.Covers (x.shortest tie) := by
  rw [shortest]
  by_cases none : x.units = 0
  · rw [if_pos none, covers_iff, Nat.zero_mul, eq_zero_of_units none]
    cases x.isNegative <;> decide +kernel
  · rw [if_neg none]
    exact covers_searchGrids (Nat.lt_succ_self 1383) (exists_finest_gridPoint? none)

/-- **The shortest decimal of a finite double is read as that double.** -/
theorem doubleOf_shortest (finite : x.isFinite = true) (tie : Tie) :
    Engine.doubleOf x.isNegative (x.shortest tie) = x :=
  doubleOf_of_covers finite (x.covers_shortest tie)

end

/-- The sign of a zero is read back. -/
example : Engine.doubleOf true ((zero true).shortest .away) = zero true :=
  doubleOf_shortest (by decide +kernel) .away

end Binary64

end TypedSql
