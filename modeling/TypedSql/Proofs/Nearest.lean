import Mathlib.Data.Nat.Dist
import TypedSql.Binary64.Rounding

/-!
# The double nearest to a number

Rounding divides by the power of two at which the quotient has 53 bits, and writes the quotient
behind the exponent of that power. A quotient that is rounded up to 54 bits carries into the
exponent, which is the number that is meant (`Binary64.units_ofMagnitudeBits`).

No finite double comes nearer to the number. At this scale every double is a multiple of the
power of two or lies below the lowest number of 53 bits (`Binary64.dvd_units_or_lt`), and among
the multiples the rounded quotient is the nearest, where of two the even one is taken
(`Binary64.dist_roundedQuotient_le`). `Binary64.isNearest_ofInt` says it of 64-bit integers.
-/

set_option autoImplicit false

namespace TypedSql.Binary64

/-! ## The parts of an assembled number -/

section

variable {negative : Bool} {magnitude : Nat}

theorem toNat_ofMagnitudeBits (bound : magnitude < 2 ^ 63) :
    (ofMagnitudeBits negative magnitude).bits.toNat =
      if negative then 2 ^ 63 + magnitude else magnitude := by
  have fits : (if negative then 2 ^ 63 + magnitude else magnitude) < UInt64.size := by
    rw [UInt64.size]
    split <;> omega
  exact UInt64.toNat_ofNat_of_lt' fits

theorem magnitudeBits_ofMagnitudeBits (bound : magnitude < 2 ^ 63) :
    (ofMagnitudeBits negative magnitude).magnitudeBits = magnitude := by
  rw [magnitudeBits, toNat_ofMagnitudeBits bound, Nat.pow_eq]
  split <;> omega

theorem isNegative_ofMagnitudeBits (bound : magnitude < 2 ^ 63) :
    (ofMagnitudeBits negative magnitude).isNegative = negative := by
  rw [isNegative, toNat_ofMagnitudeBits bound, Nat.pow_eq]
  cases negative
  · simpa using bound
  · simp

end

theorem significand_lt (x : Binary64) : x.significand < 2 ^ 53 := by
  have fraction : x.fraction < 2 ^ 52 := Nat.mod_lt _ (by decide)
  rw [significand, Nat.pow_eq]
  split <;> omega

/-- The bits of a number are those of a significand behind the exponent of its scale. The
significand may carry into the exponent. -/
structure Assembled (x : Binary64) (scale significand : Nat) : Prop where
  bits : x.magnitudeBits = scale * 2 ^ 52 + significand
  normal : scale = 0 ∨ 2 ^ 52 ≤ significand
  bound : significand ≤ 2 ^ 53

namespace Assembled

variable {x : Binary64} {scale significand : Nat}

/-- A significand that carries is read as its half at the next scale. -/
theorem parts (assembled : x.Assembled scale significand) :
    x.significand = significand ∧ x.scale = scale ∨
      significand = 2 ^ 53 ∧ x.significand = 2 ^ 52 ∧ x.scale = scale + 1 := by
  obtain ⟨bits, normal, bound⟩ := assembled
  rw [Binary64.significand, Binary64.scale, exponentField, fraction, bits, Nat.pow_eq]
  rcases Nat.lt_or_ge significand (2 ^ 52) with subnormal | normalized
  · have zero : (scale * 2 ^ 52 + significand) / 2 ^ 52 = 0 := by omega
    rw [zero, if_pos rfl]
    omega
  · have positive : (scale * 2 ^ 52 + significand) / 2 ^ 52 ≠ 0 := by omega
    rw [if_neg positive]
    omega

theorem units (assembled : x.Assembled scale significand) :
    x.units = significand * 2 ^ scale := by
  rw [Binary64.units, Nat.pow_eq]
  rcases assembled.parts with ⟨same, scaled⟩ | ⟨carried, half, scaled⟩
  · rw [same, scaled]
  · rw [half, scaled, carried, ← Nat.pow_add, ← Nat.pow_add]
    congr 1
    omega

theorem even (assembled : x.Assembled scale significand) (even : significand % 2 = 0) :
    x.significand % 2 = 0 := by
  rcases assembled.parts with ⟨same, -⟩ | ⟨-, half, -⟩
  · rw [same, even]
  · rw [half]
    rfl

theorem isFinite (assembled : x.Assembled scale significand) (fits : scale < 2045) :
    x.isFinite = true := by
  obtain ⟨bits, -, bound⟩ := assembled
  rw [Binary64.isFinite, exponentField, bits, Nat.pow_eq, decide_eq_true_eq]
  omega

end Assembled

/-- At every scale a finite number is a multiple of the power of two, or it lies below the
lowest number of 53 bits. -/
theorem dvd_units_or_lt (x : Binary64) (scale : Nat) :
    2 ^ scale ∣ x.units ∨ x.units < 2 ^ (scale + 52) := by
  rw [units, Nat.pow_eq]
  rcases Nat.lt_or_ge x.scale scale with finer | coarser
  · right
    calc x.significand * 2 ^ x.scale < 2 ^ 53 * 2 ^ x.scale :=
          Nat.mul_lt_mul_of_pos_right x.significand_lt (Nat.two_pow_pos _)
      _ = 2 ^ (x.scale + 53) := by rw [Nat.pow_add, Nat.mul_comm]
      _ ≤ 2 ^ (scale + 52) := Nat.pow_le_pow_right (by decide) (by omega)
  · exact .inl (Nat.dvd_mul_left_of_dvd (Nat.pow_dvd_pow 2 coarser) _)

/-! ## Rounded quotients -/

section

variable {numerator denominator : Nat}

theorem roundedQuotient_cases (numerator denominator : Nat) :
    (2 * (numerator % denominator) < denominator ∧
        roundedQuotient numerator denominator = numerator / denominator) ∨
      (denominator < 2 * (numerator % denominator) ∧
        roundedQuotient numerator denominator = numerator / denominator + 1) ∨
      (2 * (numerator % denominator) = denominator ∧
        (roundedQuotient numerator denominator = numerator / denominator ∨
          roundedQuotient numerator denominator = numerator / denominator + 1) ∧
        roundedQuotient numerator denominator % 2 = 0) := by
  simp only [roundedQuotient]
  split
  · omega
  · split <;> omega

/-- The two multiples of the denominator around the numerator are near to it, and no other. -/
theorem dist_multiple (numerator : Nat) (positive : 0 < denominator) (other : Nat) :
    (other = numerator / denominator ∧
        Nat.dist (other * denominator) numerator = numerator % denominator) ∨
      (other = numerator / denominator + 1 ∧
        Nat.dist (other * denominator) numerator = denominator - numerator % denominator) ∨
      (other ≠ numerator / denominator ∧ other ≠ numerator / denominator + 1 ∧
        denominator ≤ Nat.dist (other * denominator) numerator) := by
  have parts : numerator / denominator * denominator + numerator % denominator = numerator :=
    Nat.div_add_mod' numerator denominator
  have small := Nat.mod_lt numerator positive
  generalize numerator / denominator = quotient at parts ⊢
  generalize numerator % denominator = remainder at parts small ⊢
  rcases Nat.lt_trichotomy other quotient with below | rfl | above
  · have atMost : (other + 1) * denominator ≤ quotient * denominator :=
      Nat.mul_le_mul_right _ below
    rw [Nat.succ_mul] at atMost
    exact .inr (.inr ⟨by omega, by omega, by rw [Nat.dist]; omega⟩)
  · exact .inl ⟨rfl, by rw [Nat.dist]; omega⟩
  · rcases Nat.eq_or_lt_of_le above with rfl | beyond
    · exact .inr (.inl ⟨rfl, by rw [Nat.succ_mul, Nat.dist]; omega⟩)
    · have atLeast : (quotient + 2) * denominator ≤ other * denominator :=
        Nat.mul_le_mul_right _ beyond
      rw [Nat.add_mul] at atLeast
      exact .inr (.inr ⟨by omega, by omega, by rw [Nat.dist]; omega⟩)

/-- No multiple of the denominator is nearer to the numerator than the rounded one. Another one
is as near only if the rounded quotient is even. -/
theorem dist_roundedQuotient_le (numerator : Nat) (positive : 0 < denominator) (other : Nat) :
    Nat.dist (roundedQuotient numerator denominator * denominator) numerator ≤
        Nat.dist (other * denominator) numerator ∧
      (Nat.dist (other * denominator) numerator =
          Nat.dist (roundedQuotient numerator denominator * denominator) numerator →
        other = roundedQuotient numerator denominator ∨
          roundedQuotient numerator denominator % 2 = 0) := by
  have small := Nat.mod_lt numerator positive
  have rounded := dist_multiple numerator positive (roundedQuotient numerator denominator)
  have others := dist_multiple numerator positive other
  rcases roundedQuotient_cases numerator denominator with
    ⟨near, same⟩ | ⟨far, same⟩ | ⟨tie, same | same, even⟩ <;>
  · rw [same] at rounded ⊢
    omega

theorem le_roundedQuotient (numerator denominator : Nat) :
    numerator / denominator ≤ roundedQuotient numerator denominator := by
  rcases roundedQuotient_cases numerator denominator with ⟨-, same⟩ | ⟨-, same⟩ | ⟨-, same, -⟩ <;>
    omega

theorem roundedQuotient_le (numerator denominator : Nat) :
    roundedQuotient numerator denominator ≤ numerator / denominator + 1 := by
  rcases roundedQuotient_cases numerator denominator with ⟨-, same⟩ | ⟨-, same⟩ | ⟨-, same, -⟩ <;>
    omega

theorem roundedQuotient_one (numerator : Nat) : roundedQuotient numerator 1 = numerator := by
  simp [roundedQuotient, Nat.mod_one]

/-- A common factor does not change the rounded quotient. -/
theorem roundedQuotient_mul_right {factor : Nat} (positive : 0 < factor)
    (numerator denominator : Nat) :
    roundedQuotient (numerator * factor) (denominator * factor) =
      roundedQuotient numerator denominator := by
  simp only [roundedQuotient, Nat.mul_div_mul_right _ _ positive, Nat.mul_mod_mul_right,
    ← Nat.mul_assoc, Nat.mul_lt_mul_right positive]

end

/-! ## Rounded numbers -/

/-- At its scale a number has 53 bits, or at most so many at scale zero. -/
theorem scaleOf_spec (numerator : Nat) {denominator : Nat} (positive : 0 < denominator) :
    (scaleOf (numerator / denominator) = 0 ∨
        2 ^ 52 * (denominator * 2 ^ scaleOf (numerator / denominator)) ≤ numerator) ∧
      numerator < 2 ^ 53 * (denominator * 2 ^ scaleOf (numerator / denominator)) := by
  have factored (power : Nat) :
      2 ^ power * (denominator * 2 ^ scaleOf (numerator / denominator)) =
        2 ^ (power + scaleOf (numerator / denominator)) * denominator := by
    rw [Nat.pow_add, Nat.mul_comm denominator, Nat.mul_assoc]
  rw [factored, factored, ← Nat.le_div_iff_mul_le positive, ← Nat.div_lt_iff_lt_mul positive]
  generalize numerator / denominator = whole
  constructor
  · rcases Nat.lt_or_ge 52 whole.log2 with large | small
    · right
      have nonzero : whole ≠ 0 := by
        rintro rfl
        simp at large
      rw [scaleOf, Nat.add_sub_cancel' large.le]
      exact Nat.log2_self_le nonzero
    · exact .inl (Nat.sub_eq_zero_of_le small)
  · refine Nat.lt_of_lt_of_le Nat.lt_log2_self (Nat.pow_le_pow_right (by decide) ?_)
    rw [scaleOf]
    omega

section

variable {negative : Bool} {numerator denominator : Nat}

theorem isNegative_ofRatio : (ofRatio negative numerator denominator).isNegative = negative :=
  isNegative_ofMagnitudeBits (Nat.lt_of_le_of_lt (Nat.min_le_right ..) (by decide))

/-- A rounded number that does not overflow has the rounded quotient for its significand. -/
theorem ofRatio_assembled (positive : 0 < denominator)
    (fits : scaleOf (numerator * unitsPerOne / denominator) < 2045) :
    (ofRatio negative numerator denominator).Assembled
      (scaleOf (numerator * unitsPerOne / denominator))
      (roundedQuotient (numerator * unitsPerOne)
        (denominator * 2 ^ scaleOf (numerator * unitsPerOne / denominator))) := by
  obtain ⟨atLeast, below⟩ := scaleOf_spec (numerator * unitsPerOne) positive
  rw [ofRatio, Nat.pow_eq, Nat.pow_eq]
  generalize scaleOf (numerator * unitsPerOne / denominator) = scale at *
  generalize numerator * unitsPerOne = units at *
  have product : 0 < denominator * 2 ^ scale := Nat.mul_pos positive (Nat.two_pow_pos scale)
  have normal : scale = 0 ∨ 2 ^ 52 ≤ roundedQuotient units (denominator * 2 ^ scale) :=
    atLeast.imp_right fun enough =>
      ((Nat.le_div_iff_mul_le product).mpr enough).trans (le_roundedQuotient ..)
  have bound : roundedQuotient units (denominator * 2 ^ scale) ≤ 2 ^ 53 :=
    (roundedQuotient_le ..).trans ((Nat.div_lt_iff_lt_mul product).mpr below)
  generalize roundedQuotient units (denominator * 2 ^ scale) = significand at *
  refine ⟨?_, normal, bound⟩
  rw [infinityBits, Nat.pow_eq, Nat.min_eq_left (by omega)]
  exact magnitudeBits_ofMagnitudeBits (by omega)

/-- Among the multiples of the power of two the rounded quotient gives the nearest. -/
theorem dist_rounded_le_of_dvd (target : Nat) {scale units : Nat} (positive : 0 < denominator)
    (multiple : 2 ^ scale ∣ units) :
    Nat.dist (roundedQuotient target (denominator * 2 ^ scale) * 2 ^ scale * denominator) target ≤
        Nat.dist (units * denominator) target ∧
      (Nat.dist (units * denominator) target = Nat.dist
          (roundedQuotient target (denominator * 2 ^ scale) * 2 ^ scale * denominator) target →
        units = roundedQuotient target (denominator * 2 ^ scale) * 2 ^ scale ∨
          roundedQuotient target (denominator * 2 ^ scale) % 2 = 0) := by
  obtain ⟨count, rfl⟩ := multiple
  have regroup (count : Nat) :
      count * 2 ^ scale * denominator = count * (denominator * 2 ^ scale) := by
    rw [Nat.mul_assoc, Nat.mul_comm (2 ^ scale)]
  obtain ⟨least, tie⟩ := dist_roundedQuotient_le target
    (Nat.mul_pos positive (Nat.two_pow_pos scale)) count
  rw [Nat.mul_comm (2 ^ scale) count, regroup, regroup]
  exact ⟨least, fun same => (tie same).imp_left fun counts => by rw [counts]⟩

/-- What lies below the lowest number of 53 bits is farther from a number that does not. -/
theorem dist_rounded_lt_of_lt {scale units target : Nat} (positive : 0 < denominator)
    (atLeast : 2 ^ 52 * (denominator * 2 ^ scale) ≤ target) (below : units < 2 ^ (scale + 52)) :
    Nat.dist (roundedQuotient target (denominator * 2 ^ scale) * 2 ^ scale * denominator) target <
      Nat.dist (units * denominator) target := by
  have lowest := (dist_rounded_le_of_dvd target positive
    (Nat.dvd_mul_left (2 ^ scale) (2 ^ 52))).1
  refine Nat.lt_of_le_of_lt lowest ?_
  have farther : units * denominator < 2 ^ 52 * 2 ^ scale * denominator := by
    rw [← Nat.pow_add, Nat.add_comm]
    exact Nat.mul_lt_mul_of_pos_right below positive
  rw [Nat.mul_comm denominator, ← Nat.mul_assoc] at atLeast
  rw [Nat.dist, Nat.dist]
  omega

/-- **No double is nearer to a ratio than the rounded one**, and another one is as near only if
the significand of the rounded one is even. -/
theorem dist_ofRatio_le (positive : 0 < denominator)
    (fits : scaleOf (numerator * unitsPerOne / denominator) < 2045) (other : Binary64) :
    Nat.dist ((ofRatio negative numerator denominator).units * denominator)
          (numerator * unitsPerOne) ≤
        Nat.dist (other.units * denominator) (numerator * unitsPerOne) ∧
      (Nat.dist (other.units * denominator) (numerator * unitsPerOne) =
          Nat.dist ((ofRatio negative numerator denominator).units * denominator)
            (numerator * unitsPerOne) →
        other.units = (ofRatio negative numerator denominator).units ∨
          (ofRatio negative numerator denominator).significand % 2 = 0) := by
  have assembled : (ofRatio negative numerator denominator).Assembled _ _ :=
    ofRatio_assembled positive fits
  have atLeast := (scaleOf_spec (numerator * unitsPerOne) positive).1
  have even := assembled.even
  rw [assembled.units]
  generalize scaleOf (numerator * unitsPerOne / denominator) = scale at *
  have onGrid (multiple : 2 ^ scale ∣ other.units) := dist_rounded_le_of_dvd
    (numerator * unitsPerOne) positive multiple
  rcases atLeast with rfl | atLeast
  · obtain ⟨least, tie⟩ := onGrid (one_dvd _)
    exact ⟨least, fun same => (tie same).imp_right even⟩
  · rcases other.dvd_units_or_lt scale with multiple | below
    · obtain ⟨least, tie⟩ := onGrid multiple
      exact ⟨least, fun same => (tie same).imp_right even⟩
    · have farther := dist_rounded_lt_of_lt positive atLeast below
      exact ⟨farther.le, fun same => absurd same farther.ne'⟩

end

/-! ## Nearest to an integer -/

/-- How far a finite number is from an integer, in units of the smallest positive number. -/
def distance (x : Binary64) (n : Int) : Nat := (x.signed x.units - n * unitsPerOne).natAbs

/-- A double is the nearest one to an integer. Where another one is as near, it is the one with
the even significand. Its sign is that of the integer. -/
structure IsNearest (x : Binary64) (n : Int) : Prop where
  finite : x.isFinite = true
  sign : x.isNegative = decide (n < 0)
  least : ∀ y : Binary64, y.isFinite = true → x.distance n ≤ y.distance n
  even : ∀ y : Binary64, y.isFinite = true → y.distance n = x.distance n →
    y.signed y.units = x.signed x.units ∨ x.significand % 2 = 0

theorem signed_mul_unitsPerOne (n : Int) :
    n * unitsPerOne =
      if n < 0 then -((n.natAbs * unitsPerOne : Nat) : Int)
      else (n.natAbs * unitsPerOne : Nat) := by
  rw [Int.natCast_mul]
  split
  · rw [Int.ofNat_natAbs_of_nonpos (by omega), Int.neg_mul, Int.neg_neg]
  · rw [Int.natAbs_of_nonneg (by omega)]

theorem distance_of_sign {x : Binary64} {n : Int} (sign : x.isNegative = decide (n < 0)) :
    x.distance n = Nat.dist x.units (n.natAbs * unitsPerOne) := by
  rw [distance, signed, sign, signed_mul_unitsPerOne, Nat.dist]
  simp only [decide_eq_true_eq]
  split <;> omega

theorem distance_of_other_sign {x : Binary64} {n : Int} (sign : x.isNegative ≠ decide (n < 0)) :
    x.distance n = x.units + n.natAbs * unitsPerOne := by
  rw [distance, signed, Bool.eq_not_of_ne sign, signed_mul_unitsPerOne]
  by_cases negative : n < 0
  · simp only [negative, decide_true, Bool.not_true, Bool.false_eq_true, if_false, if_true]
    omega
  · simp only [negative, decide_false, Bool.not_false, if_true, if_false]
    omega

theorem log2_mul_two_pow {n : Nat} (nonzero : n ≠ 0) (places : Nat) :
    (n * 2 ^ places).log2 = n.log2 + places := by
  rw [Nat.log2_eq_iff (Nat.mul_ne_zero nonzero (Nat.two_pow_pos _).ne')]
  constructor
  · rw [Nat.pow_add]
    exact Nat.mul_le_mul_right _ (Nat.log2_self_le nonzero)
  · rw [Nat.add_right_comm, Nat.pow_add]
    exact Nat.mul_lt_mul_of_pos_right Nat.lt_log2_self (Nat.two_pow_pos _)

theorem unitsPerOne_eq : unitsPerOne = 2 ^ 1074 := by
  unfold unitsPerOne
  generalize 1074 = places
  rfl

theorem unitsPerOne_pos : 0 < unitsPerOne := by
  unfold unitsPerOne
  generalize 1074 = places
  exact Nat.two_pow_pos places

/-- An integer below `2 ^ 64` is far from the largest double. -/
theorem scaleOf_lt_of_lt {n : Nat} (below : n < 2 ^ 64) : scaleOf (n * unitsPerOne / 1) < 2045 := by
  rw [Nat.div_one, scaleOf, unitsPerOne_eq]
  rcases Nat.eq_zero_or_pos n with rfl | positive
  · rw [Nat.zero_mul, Nat.log2_zero]
    decide
  · have bits : n.log2 < 64 := (Nat.log2_lt positive.ne').mpr below
    rw [log2_mul_two_pow positive.ne']
    omega

theorem scaleOf_lt_of_natAbs_le {n : Nat} (bound : n ≤ 2 ^ 63) :
    scaleOf (n * unitsPerOne / 1) < 2045 :=
  scaleOf_lt_of_lt (Nat.lt_of_le_of_lt bound (by decide))

/-- No double is nearer to the absolute value of a 64-bit integer than the converted one. -/
theorem dist_ofInt_le {n : Int} (bound : n.natAbs ≤ 2 ^ 63) (other : Binary64) :
    Nat.dist (ofInt n).units (n.natAbs * unitsPerOne) ≤
        Nat.dist other.units (n.natAbs * unitsPerOne) ∧
      (Nat.dist other.units (n.natAbs * unitsPerOne) =
          Nat.dist (ofInt n).units (n.natAbs * unitsPerOne) →
        other.units = (ofInt n).units ∨ (ofInt n).significand % 2 = 0) := by
  rw [ofInt]
  simpa only [Nat.mul_one] using
    dist_ofRatio_le Nat.one_pos (scaleOf_lt_of_natAbs_le bound) other

/-- **A 64-bit integer is converted to the nearest double.** -/
theorem isNearest_ofInt {n : Int} (bound : n.natAbs ≤ 2 ^ 63) : (ofInt n).IsNearest n := by
  have fits := scaleOf_lt_of_natAbs_le bound
  have sign : (ofInt n).isNegative = decide (n < 0) := isNegative_ofRatio
  have finite : (ofInt n).isFinite = true := (ofRatio_assembled Nat.one_pos fits).isFinite fits
  -- A number of the other sign is no nearer than its absolute value, which is what is rounded.
  have apart (y : Binary64) : Nat.dist y.units (n.natAbs * unitsPerOne) ≤ y.distance n := by
    by_cases same : y.isNegative = decide (n < 0)
    · rw [distance_of_sign same]
    · rw [distance_of_other_sign same, Nat.dist]
      omega
  have least (y : Binary64) : (ofInt n).distance n ≤ Nat.dist y.units (n.natAbs * unitsPerOne) := by
    rw [distance_of_sign sign]
    exact (dist_ofInt_le bound y).1
  refine ⟨finite, sign, fun y _ => (least y).trans (apart y), fun y _ same => ?_⟩
  have tie : Nat.dist y.units (n.natAbs * unitsPerOne) =
      Nat.dist (ofInt n).units (n.natAbs * unitsPerOne) := by
    rw [← distance_of_sign sign]
    exact Nat.le_antisymm ((apart y).trans_eq same) (least y)
  refine ((dist_ofInt_le bound y).2 tie).imp_left fun units => ?_
  by_cases signs : y.isNegative = decide (n < 0)
  · rw [signed, signed, signs, sign, units]
  · have zero : y.units = 0 := by
      have origin := least (zero false)
      rw [distance_of_other_sign signs] at same
      rw [← same, show (zero false).units = 0 from rfl, Nat.dist] at origin
      omega
    rw [signed, signed, units.symm.trans zero, zero]
    simp

/-- Halfway between two doubles the even one is taken. -/
example : ofInt 9007199254740993 = ofInt 9007199254740992 := by decide +kernel

end TypedSql.Binary64
