import TypedSql.Proofs.Shortest

/-!
# Integers as doubles

Rounding keeps the order: what is not less than a double is rounded to no smaller one
(`Binary64.units_le_ofRatio`).

An integer below `2 ^ 64` is converted to what is left of it in 53 bits (`Binary64.units_ofInt`).
So it can be said of an integer by itself whether it is a double (`Binary64.IsExact`), and a product
is bounded from below by the product of such integers. From `2 ^ 63` on the doubles are 2048 apart,
and the integers up to `2 ^ 63 + 1024` are converted to `2 ^ 63`.
-/

set_option autoImplicit false

namespace TypedSql

/-! ## Rounding keeps the order -/

namespace Binary64

variable {x y : Binary64} {negative : Bool} {numerator denominator : Nat}

/-- The bits of doubles are ordered as their absolute values. -/
theorem units_le_of_magnitudeBits_le (le : x.magnitudeBits ≤ y.magnitudeBits) :
    x.units ≤ y.units := by
  obtain ⟨xBits, xNormal, -⟩ := x.assembled_self
  obtain ⟨yBits, yNormal, -⟩ := y.assembled_self
  have xBound := x.significand_lt
  have yBound := y.significand_lt
  rw [xBits, yBits] at le
  rw [units, units, Nat.pow_eq, Nat.pow_eq]
  generalize x.significand = significand at *
  generalize y.significand = significand' at *
  generalize x.scale = scale at *
  generalize y.scale = scale' at *
  rcases Nat.lt_trichotomy scale scale' with finer | rfl | coarser
  · calc significand * 2 ^ scale ≤ 2 ^ 53 * 2 ^ scale := Nat.mul_le_mul_right _ xBound.le
      _ = 2 ^ 52 * 2 ^ (scale + 1) := by rw [Nat.pow_succ']; omega
      _ ≤ 2 ^ 52 * 2 ^ scale' := Nat.mul_le_mul_left _ (Nat.pow_le_pow_right (by decide) finer)
      _ ≤ significand' * 2 ^ scale' := Nat.mul_le_mul_right _ (yNormal.resolve_left (by omega))
  · exact Nat.mul_le_mul_right _ (by omega)
  · omega

/-- What is not less than a double is rounded to no smaller one. -/
theorem magnitudeBits_le_ofRatio (finite : x.isFinite = true) (positive : 0 < denominator)
    (atLeast : x.units * denominator ≤ numerator * unitsPerOne) :
    x.magnitudeBits ≤ (ofRatio negative numerator denominator).magnitudeBits := by
  obtain ⟨bits, normal, -⟩ := x.assembled_self
  have bound := x.significand_lt
  have capped := (magnitudeBits_lt finite).le
  have spec := scaleOf_spec (numerator * unitsPerOne) positive
  rw [ofRatio, magnitudeBits_ofMagnitudeBits (Nat.lt_of_le_of_lt (Nat.min_le_right ..) (by decide))]
  refine Nat.le_min.mpr ⟨?_, capped⟩
  rw [units, Nat.pow_eq, Nat.mul_assoc, Nat.mul_comm _ denominator] at atLeast
  rw [bits, Nat.pow_eq, Nat.pow_eq]
  generalize numerator * unitsPerOne = target at *
  generalize scaleOf (target / denominator) = scale at *
  have product : 0 < denominator * 2 ^ scale := Nat.mul_pos positive (Nat.two_pow_pos _)
  have least {count : Nat} (below : count * (denominator * 2 ^ scale) ≤ target) :
      count ≤ roundedQuotient target (denominator * 2 ^ scale) :=
    ((Nat.le_div_iff_mul_le product).mpr below).trans (le_roundedQuotient ..)
  rcases Nat.lt_trichotomy x.scale scale with finer | same | coarser
  · have normalized := least (spec.1.resolve_left (by omega))
    omega
  · rw [same] at atLeast ⊢
    have := least atLeast
    omega
  · have lowest : 2 ^ 52 * (denominator * 2 ^ (scale + 1)) ≤ target :=
      (Nat.mul_le_mul (normal.resolve_left (by omega)) (Nat.mul_le_mul_left _
        (Nat.pow_le_pow_right (by decide) coarser))).trans atLeast
    have doubled : denominator * 2 ^ (scale + 1) = 2 * (denominator * 2 ^ scale) := by
      rw [Nat.pow_succ', Nat.mul_left_comm]
    omega

theorem units_le_ofRatio (finite : x.isFinite = true) (positive : 0 < denominator)
    (atLeast : x.units * denominator ≤ numerator * unitsPerOne) :
    x.units ≤ (ofRatio negative numerator denominator).units :=
  units_le_of_magnitudeBits_le (magnitudeBits_le_ofRatio finite positive atLeast)

theorem magnitudeBits_ofMagnitudeBits_self (negative : Bool) (x : Binary64) :
    (ofMagnitudeBits negative x.magnitudeBits).magnitudeBits = x.magnitudeBits :=
  magnitudeBits_ofMagnitudeBits (Nat.mod_lt _ (by decide))

theorem isNegative_ofMagnitudeBits_self (negative : Bool) (x : Binary64) :
    (ofMagnitudeBits negative x.magnitudeBits).isNegative = negative :=
  isNegative_ofMagnitudeBits (Nat.mod_lt _ (by decide))

/-- The doubles of the two signs have the same absolute value. -/
theorem units_ofMagnitudeBits_self (negative : Bool) (x : Binary64) :
    (ofMagnitudeBits negative x.magnitudeBits).units = x.units :=
  Nat.le_antisymm (units_le_of_magnitudeBits_le (magnitudeBits_ofMagnitudeBits_self negative x).le)
    (units_le_of_magnitudeBits_le (magnitudeBits_ofMagnitudeBits_self negative x).ge)

theorem isFinite_ofMagnitudeBits_self (negative : Bool) (x : Binary64) :
    (ofMagnitudeBits negative x.magnitudeBits).isFinite = x.isFinite := by
  rw [isFinite, isFinite, exponentField, exponentField, magnitudeBits_ofMagnitudeBits_self]

/-! ## Integers as doubles -/

section

variable {negative : Bool} {n least : Nat}

/-- An integer with its lowest bits rounded, so that 53 bits are left. -/
def roundedInteger (n : Nat) : Nat :=
  roundedQuotient n (2 ^ (n.log2 - 52)) * 2 ^ (n.log2 - 52)

theorem isFinite_ofInt (below : n < 2 ^ 64) : (ofInt n).isFinite = true := by
  have fits := scaleOf_lt_of_lt below
  exact (ofRatio_assembled Nat.one_pos fits).isFinite fits

/-- **An integer is converted to what is left of it in 53 bits.** -/
theorem units_ofInt (below : n < 2 ^ 64) :
    (ofInt n).units = roundedInteger n * unitsPerOne := by
  rw [ofInt, Int.natAbs_natCast,
    (ofRatio_assembled Nat.one_pos (scaleOf_lt_of_lt below)).units, roundedInteger, Nat.div_one,
    scaleOf, Nat.one_mul, unitsPerOne_eq]
  obtain ⟨places, same, many⟩ : ∃ places, 1074 = places ∧ 52 ≤ places := ⟨1074, rfl, by decide⟩
  rw [same]
  rcases Nat.eq_zero_or_pos n with rfl | positive
  · simp [roundedQuotient]
  rw [log2_mul_two_pow positive.ne']
  rcases Nat.le_total 52 n.log2 with long | short
  · rw [Nat.sub_add_comm long, Nat.pow_add,
      roundedQuotient_mul_right (Nat.two_pow_pos places), Nat.mul_assoc]
  · have none : n.log2 - 52 = 0 := Nat.sub_eq_zero_of_le short
    have shifted : n * 2 ^ (52 - n.log2) * 2 ^ (n.log2 + places - 52) = n * 2 ^ places := by
      rw [Nat.mul_assoc, ← Nat.pow_add]
      congr 2
      omega
    have exact := roundedQuotient_mul_right (Nat.two_pow_pos (n.log2 + places - 52))
      (n * 2 ^ (52 - n.log2)) 1
    rw [Nat.one_mul, roundedQuotient_one, shifted] at exact
    rw [none, Nat.pow_zero, roundedQuotient_one, Nat.mul_one, exact, shifted]

/-- The integers from `2 ^ 63` on have eleven bits more. -/
theorem roundedInteger_eq (atLeast : 2 ^ 63 ≤ n) (below : n < 2 ^ 64) :
    roundedInteger n = roundedQuotient n 2048 * 2048 := by
  have bits : n.log2 = 63 := (Nat.log2_eq_iff (by omega)).mpr ⟨atLeast, below⟩
  rw [roundedInteger, bits]
  rfl

/-- Halfway to the next double the even one is taken, which is `2 ^ 63`. -/
theorem roundedInteger_eq_two_pow (atLeast : 2 ^ 63 ≤ n) (near : n ≤ 2 ^ 63 + 1024) :
    roundedInteger n = 2 ^ 63 := by
  rw [roundedInteger_eq atLeast (by omega)]
  rcases roundedQuotient_cases n 2048 with ⟨down, same⟩ | ⟨up, same⟩ | ⟨tie, same, even⟩ <;> omega

theorem le_roundedInteger (beyond : 2 ^ 63 + 1024 < n) (below : n < 2 ^ 64) :
    2 ^ 63 + 2048 ≤ roundedInteger n := by
  rw [roundedInteger_eq (by omega) below]
  rcases roundedQuotient_cases n 2048 with ⟨down, same⟩ | ⟨up, same⟩ | ⟨tie, same, even⟩ <;> omega

/-- An integer of 64 bits that is a double. -/
def IsExact (n : Nat) : Prop := n < 2 ^ 64 ∧ roundedInteger n = n

instance : DecidablePred IsExact := fun n =>
  inferInstanceAs (Decidable (n < 2 ^ 64 ∧ roundedInteger n = n))

theorem units_ofInt_of_isExact (exact : IsExact n) : (ofInt n).units = n * unitsPerOne := by
  rw [units_ofInt exact.1, exact.2]

/-- A number that is not less than an integer which is a double is rounded to no less. -/
theorem mul_unitsPerOne_le_ofRatio {numerator denominator : Nat} (exact : IsExact least)
    (positive : 0 < denominator) (atLeast : least * denominator ≤ numerator) :
    least * unitsPerOne ≤ (ofRatio negative numerator denominator).units := by
  rw [← units_ofInt_of_isExact exact]
  refine units_le_ofRatio (isFinite_ofInt exact.1) positive ?_
  rw [units_ofInt_of_isExact exact, Nat.mul_right_comm]
  exact Nat.mul_le_mul_right _ atLeast

theorem mul_unitsPerOne_le_ofInt (exact : IsExact least) (atLeast : least ≤ n) :
    least * unitsPerOne ≤ (ofInt n).units :=
  mul_unitsPerOne_le_ofRatio exact Nat.one_pos (by rwa [Nat.mul_one])

theorem mul_unitsPerOne_le_mul {first second : Nat} {x y : Binary64}
    (exact : IsExact (first * second)) (firstLe : first * unitsPerOne ≤ x.units)
    (secondLe : second * unitsPerOne ≤ y.units) :
    first * second * unitsPerOne ≤ (x.mul y).units := by
  refine mul_unitsPerOne_le_ofRatio exact (Nat.mul_pos unitsPerOne_pos unitsPerOne_pos) ?_
  rw [Nat.mul_mul_mul_comm]
  exact Nat.mul_le_mul firstLe secondLe

end

end Binary64

end TypedSql
