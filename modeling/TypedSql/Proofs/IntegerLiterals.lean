import TypedSql.Json.Reader
import TypedSql.Proofs.DefaultLiterals
import TypedSql.Proofs.RoundTrip
import TypedSql.Proofs.RoundedIntegers
import TypedSql.SchemaFile

/-!
# Integers in JSON documents

The reader takes the literal of an integer to its last digit (`Json.readValue_integerText`), however
many there are. Below `2 ^ 64` the integer is collected as it is, and outside the range of 64 bits
it is rounded to what is left of it in 53 bits (`Binary64.units_ofInt`). Of a longer literal the
leading digits are collected and rounded, and then multiplied by a power of ten. Rounding keeps the
order (`Binary64.units_le_ofRatio`), so the product is not less than `3 * 2 ^ 62`.

An integer column takes what is in the range of 64 bits. On the positive side rounding does not
lead into it, since `2 ^ 63` is a double and outside. On the negative side `-2 ^ 63` is a double
and inside, and the 1024 integers below it are rounded to it. So an integer that is taken is stored
as itself, or is one of these (`Json.stored_of_integerLiteral`).
-/

set_option autoImplicit false

namespace TypedSql

open Outcome

/-! ## The literals of integers -/

namespace Json

/-- The digits of a number as numbers. -/
def digitValues (n : Nat) : List Nat := (decimalDigits n).map fun c => c.toNat - '0'.toNat

/-- The literal of an integer. -/
def integerLiteral (negative : Bool) (magnitude : Nat) : NumberLiteral where
  negative := negative
  whole := digitValues magnitude
  fraction := []
  exponent := none

/-- The characters of the literal of an integer. -/
def integerText (negative : Bool) (magnitude : Nat) : List Char :=
  if negative then '-' :: decimalDigits magnitude else decimalDigits magnitude

/-- The integer that is written as this literal. -/
def signedInteger (negative : Bool) (magnitude : Nat) : Int :=
  if negative then -magnitude else magnitude

/-! ## Reading a literal -/

theorem foldl_digitValues (n : Nat) :
    (digitValues n).foldl (fun value digit => value * 10 + digit) 0 = n := by
  rw [digitValues, List.foldl_map]
  exact Engine.naturalOf_decimalDigits n

theorem le_nine_of_mem_digitValues {n digit : Nat} (member : digit ∈ digitValues n) :
    digit ≤ 9 := by
  obtain ⟨c, inDigits, rfl⟩ := List.mem_map.mp member
  have isDigit := isDigit_of_mem_decimalDigits inDigits
  rw [Char.isDigit_iff_toNat] at isDigit
  have nine : '9'.toNat = '0'.toNat + 9 := rfl
  omega

theorem foldl_lt {digits : List Nat} (each : ∀ digit ∈ digits, digit ≤ 9) (start : Nat) :
    digits.foldl (fun value digit => value * 10 + digit) start <
      (start + 1) * 10 ^ digits.length := by
  induction digits generalizing start with
  | nil => simp
  | cons digit rest ih =>
    obtain ⟨small, others⟩ := List.forall_mem_cons.mp each
    rw [List.foldl_cons, List.length_cons, Nat.pow_succ']
    calc rest.foldl (fun value digit => value * 10 + digit) (start * 10 + digit)
        < (start * 10 + digit + 1) * 10 ^ rest.length := ih others _
      _ ≤ (start + 1) * 10 * 10 ^ rest.length := Nat.mul_le_mul_right _ (by omega)
      _ = (start + 1) * (10 * 10 ^ rest.length) := Nat.mul_assoc ..

/-- No zero stands before the digits of a number. -/
theorem digitValues_ne_zero_cons (n : Nat) (first : Nat) (rest : List Nat) :
    digitValues n ≠ 0 :: first :: rest := by
  intro zero
  have length : (decimalDigits n).length = rest.length + 2 := by
    have := congrArg List.length zero
    simpa [digitValues] using this
  have below : n < 10 ^ (rest.length + 1) := by
    have each : ∀ digit ∈ first :: rest, digit ≤ 9 := by
      intro digit member
      exact le_nine_of_mem_digitValues (n := n) (zero ▸ List.mem_cons_of_mem _ member)
    have bound := foldl_lt each 0
    have value := foldl_digitValues n
    rw [zero, List.foldl_cons] at value
    rw [Nat.zero_add, Nat.one_mul, List.length_cons] at bound
    exact value ▸ bound
  rcases Nat.eq_zero_or_pos n with rfl | positive
  · cases zero
  · have atLeast := pow_length_decimalDigits_le positive
    rw [length] at atLeast
    exact absurd below (Nat.not_lt.mpr atLeast)

/-- What may stand behind the literal of an integer. -/
def EndsInteger (rest : List Char) : Prop :=
  ∀ c, rest.head? = some c → c.isDigit = false ∧ c ≠ '.' ∧ c ≠ 'e' ∧ c ≠ 'E'

section

variable {rest : List Char}

theorem exists_cons_decimalDigits (n : Nat) :
    ∃ first others, decimalDigits n = first :: others ∧ first.isDigit = true := by
  obtain ⟨first, others, starts⟩ := List.exists_cons_of_ne_nil (decimalDigits_ne_nil n)
  exact ⟨first, others, starts,
    isDigit_of_mem_decimalDigits (starts ▸ List.mem_cons_self)⟩

theorem readWhole_decimalDigits (ends : EndsInteger rest) (n : Nat) :
    readWhole (decimalDigits n ++ rest) = some (digitValues n, rest) := by
  have run := takeWhile_append_of_stop (fun _ => isDigit_of_mem_decimalDigits (n := n))
    fun c head => (ends c head).1
  have leading : leadingDigits (decimalDigits n ++ rest) = (digitValues n, rest) := by
    rw [leadingDigits, run.1, run.2]
    rfl
  have nonempty : digitValues n ≠ [] := by
    simpa [digitValues] using decimalDigits_ne_nil n
  have digits : readDigits (decimalDigits n ++ rest) = some (digitValues n, rest) := by
    rw [readDigits, leading]
    cases values : digitValues n with
    | nil => exact absurd values nonempty
    | cons first others => rfl
  have noZero := digitValues_ne_zero_cons n
  rw [readWhole, digits]
  generalize digitValues n = values at noZero
  rcases values with _ | ⟨_ | first, _ | ⟨second, others⟩⟩
  · rfl
  · rfl
  · exact absurd rfl (noZero second others)
  · rfl
  · rfl

theorem readFraction_of_ends (ends : EndsInteger rest) : readFraction rest = some ([], rest) := by
  unfold readFraction
  split
  · exact absurd rfl (ends '.' rfl).2.1
  · rfl

theorem readExponent_of_ends (ends : EndsInteger rest) :
    readExponent rest = some (none, rest) := by
  cases rest with
  | nil => rfl
  | cons c others =>
    obtain ⟨-, -, small, capital⟩ := ends c rfl
    rw [readExponent, if_neg (not_or.mpr ⟨small, capital⟩)]

theorem readNumber_integerText (ends : EndsInteger rest) (negative : Bool) (magnitude : Nat) :
    readNumber (integerText negative magnitude ++ rest) =
      some (integerLiteral negative magnitude, rest) := by
  have sign : numberSign (integerText negative magnitude ++ rest) =
      (negative, decimalDigits magnitude ++ rest) := by
    obtain ⟨first, others, starts, digit⟩ := exists_cons_decimalDigits magnitude
    cases negative with
    | true => rfl
    | false =>
      have notMinus : first ≠ '-' := by
        rintro rfl
        cases digit
      rw [integerText, if_neg Bool.false_ne_true, starts, List.cons_append]
      unfold numberSign
      split
      case h_1 same => exact absurd (List.cons.inj same).1 notMinus
      case h_2 => rfl
  simp only [readNumber, sign, readWhole_decimalDigits ends, readFraction_of_ends ends,
    readExponent_of_ends ends, Option.bind_eq_bind, Option.bind_some]
  rfl

/-- **The literal of an integer is read to its last digit.** -/
theorem readValue_integerText (ends : EndsInteger rest) (steps : Nat) (negative : Bool)
    (magnitude : Nat) :
    readValue (steps + 1) (integerText negative magnitude ++ rest) =
      some (.number (integerLiteral negative magnitude).value?, rest) := by
  have number := readNumber_integerText ends negative magnitude
  -- The first character is a digit or a sign, and so begins nothing else.
  obtain ⟨first, others, starts, kind⟩ : ∃ first others,
      integerText negative magnitude ++ rest = first :: others ∧
        (first.isDigit = true ∨ first = '-') := by
    obtain ⟨first, others, starts, digit⟩ := exists_cons_decimalDigits magnitude
    cases negative with
    | true => exact ⟨'-', _, rfl, .inr rfl⟩
    | false => exact ⟨first, others ++ rest, by simp [integerText, starts], .inl digit⟩
  rw [starts] at number ⊢
  have different {c : Char} (notDigit : c.isDigit = false) (notMinus : c ≠ '-') : c ≠ first := by
    rintro rfl
    rcases kind with digit | minus
    · exact absurd (notDigit.symm.trans digit) Bool.false_ne_true
    · exact notMinus minus
  have word {c : Char} (letters : List Char) (notDigit : c.isDigit = false) (notMinus : c ≠ '-') :
      expect (c :: letters) (first :: others) = none := by
    rw [expect, if_neg (different notDigit notMinus)]
  have scalar : readScalar (first :: others) =
      some (.number (integerLiteral negative magnitude).value?, rest) := by
    have null : expect "null".toList (first :: others) = none := word _ rfl (by decide)
    have true : expect "true".toList (first :: others) = none := word _ rfl (by decide)
    have false : expect "false".toList (first :: others) = none := word _ rfl (by decide)
    simp only [readScalar, null, true, false, number, Option.map_some]
  have visible : skipBlanks (first :: others) = first :: others := by
    have notBlank : isBlank first = false := by
      rw [isBlank, decide_eq_false_iff_not, not_or, not_or, not_or]
      exact ⟨(different rfl (by decide)).symm, (different rfl (by decide)).symm,
        (different rfl (by decide)).symm, (different rfl (by decide)).symm⟩
    rw [skipBlanks, List.dropWhile_cons_of_neg (by simp [notBlank])]
  rw [readValue, visible]
  split
  case h_1 same => exact absurd (List.cons.inj same).1.symm (different rfl (by decide))
  case h_2 same => exact absurd (List.cons.inj same).1.symm (different rfl (by decide))
  case h_3 same => exact absurd (List.cons.inj same).1.symm (different rfl (by decide))
  case h_4 => exact scalar

end

/-! ## Collecting digits -/

theorem le_foldl (digits : List Nat) (start : Nat) :
    start ≤ digits.foldl (fun value digit => value * 10 + digit) start := by
  induction digits generalizing start with
  | nil => exact Nat.le_refl start
  | cons digit rest ih => exact Nat.le_trans (by omega) (ih (start * 10 + digit))

/-- Digits are collected as long as the number stays below the bound. Those of a larger number
come near to the bound, and some are left. -/
theorem collect_cases {digits : List Nat} (each : ∀ digit ∈ digits, digit ≤ 9) {start : Nat}
    (below : start < significandBound) :
    (digits.foldl (fun value digit => value * 10 + digit) start < significandBound ∧
        collect start digits = (digits.foldl (fun value digit => value * 10 + digit) start, [])) ∨
      significandBound ≤ digits.foldl (fun value digit => value * 10 + digit) start ∧
        ∃ significand first rest, collect start digits = (significand, first :: rest) ∧
          significandBound ≤ significand * 10 + 9 := by
  induction digits generalizing start with
  | nil => exact .inl ⟨below, rfl⟩
  | cons digit rest ih =>
    obtain ⟨small, others⟩ := List.forall_mem_cons.mp each
    rw [collect, List.foldl_cons]
    by_cases fits : start * 10 + digit < significandBound
    · rw [if_pos fits]
      exact ih others fits
    · rw [if_neg fits]
      have reached := le_foldl rest (start * 10 + digit)
      exact .inr ⟨by omega, start, digit, rest, rfl, by omega⟩

/-! ## The value of a literal -/

section

variable {negative : Bool} {magnitude : Nat} {number : Number}

/-- An integer below `2 ^ 64` is collected as it is. -/
theorem collect_digitValues (small : magnitude < significandBound) :
    collect 0 (digitValues magnitude) = (magnitude, []) := by
  have cases := collect_cases (fun _ => le_nine_of_mem_digitValues (n := magnitude))
    (by decide : 0 < significandBound)
  rw [foldl_digitValues] at cases
  rcases cases with ⟨-, collected⟩ | ⟨large, -⟩
  · exact collected
  · exact absurd small (Nat.not_lt.mpr large)

/-- Multiplying by the zeroth power of ten changes nothing. -/
theorem mul_powerOfTen_zero {x : Binary64} (finite : x.isFinite = true) (nonzero : x.units ≠ 0) :
    x.mul (powerOfTen 0) = x := by
  have one : powerOfTen 0 = .ofInt (1 : Nat) := rfl
  have sign : (Binary64.ofInt (1 : Nat)).isNegative = false := Binary64.isNegative_ofRatio
  have units := Binary64.units_ofInt_of_isExact (n := 1) (by decide)
  have positive := Nat.mul_pos Binary64.unitsPerOne_pos Binary64.unitsPerOne_pos
  have reads := Binary64.reads_self nonzero _ positive
  rw [Binary64.quarters, Nat.mul_assoc, ← Nat.mul_assoc x.units] at reads
  rw [one, Binary64.mul, sign, units, Nat.one_mul, Bool.bne_false]
  exact Binary64.ofRatio_of_reads finite positive reads

/-- A literal has the value of an integer if all its digits are collected and it is in the range
of its sign. -/
theorem integer?_integerLiteral {significand : Nat} {moved : List Nat}
    (collected : collect 0 (digitValues magnitude) = (significand, moved)) :
    (integerLiteral negative magnitude).integer? =
      if moved = [] ∧ (negative = false ∨ 0 < significand ∧ significand ≤ 2 ^ 63) then
        some (signedInteger negative significand)
      else none := by
  simp only [NumberLiteral.integer?, integerLiteral, collected, signedInteger]
  cases moved with
  | cons first rest => simp
  | nil => cases negative <;> simp

/-- The digits that are not collected multiply the significand. -/
theorem double?_integerLiteral {significand : Nat} {moved : List Nat}
    (collected : collect 0 (digitValues magnitude) = (significand, moved)) :
    (integerLiteral negative magnitude).double? =
      (scale significand moved.length).map fun x =>
        if negative then .ofMagnitudeBits true x.magnitudeBits else x := by
  have exponent : (moved.length : Int) - ((([] : List Nat).length - ([] : List Nat).length : Nat)) +
      (none : Option Int).getD 0 = moved.length := by
    simp
  simp only [NumberLiteral.double?, integerLiteral, collected, collect, exponent]
  rfl

/-- A significand is multiplied by a power of ten in one step, if the product is finite. -/
theorem scale_natCast {significand : Nat} (nonzero : significand ≠ 0) (places : Nat) :
    scale significand places =
      if places ≤ largestPower ∧
          ((Binary64.ofInt significand).mul (powerOfTen places)).isFinite = true then
        some ((Binary64.ofInt significand).mul (powerOfTen places))
      else none := by
  have positive : (0 : Int) ≤ places := Int.natCast_nonneg places
  rw [scale, if_neg nonzero, if_pos positive, Int.toNat_natCast]
  simp only [Int.ofNat_le]
  by_cases few : places ≤ largestPower
  · simp [few]
  · simp [few]

theorem value?_integer (small : magnitude < significandBound)
    (inRange : negative = false ∨ 0 < magnitude ∧ magnitude ≤ 2 ^ 63) :
    (integerLiteral negative magnitude).value? =
      some (.integer (signedInteger negative magnitude)) := by
  rw [NumberLiteral.value?, integer?_integerLiteral (collect_digitValues small),
    if_pos ⟨rfl, inRange⟩]

/-- Zero with a sign and the integers below the range are rounded. -/
theorem value?_negative (small : magnitude < significandBound)
    (outside : ¬ (0 < magnitude ∧ magnitude ≤ 2 ^ 63)) :
    (integerLiteral true magnitude).value? =
      some (.float (.ofMagnitudeBits true (Binary64.ofInt magnitude).magnitudeBits)) := by
  have collected := collect_digitValues small
  have noInteger : ¬ (([] : List Nat) = [] ∧
      (true = false ∨ 0 < magnitude ∧ magnitude ≤ 2 ^ 63)) := by
    simpa using outside
  have scaled : scale magnitude (([] : List Nat).length : Nat) =
      some (Binary64.ofInt magnitude) := by
    by_cases zero : magnitude = 0
    · rw [scale, if_pos zero]
    · have nonzero : (Binary64.ofInt magnitude).units ≠ 0 := by
        have least := Binary64.mul_unitsPerOne_le_ofInt (by decide) (Nat.pos_of_ne_zero zero)
        have positive := Binary64.unitsPerOne_pos
        omega
      have finite := Binary64.isFinite_ofInt small
      have same : (Binary64.ofInt magnitude).mul (powerOfTen ([] : List Nat).length) =
          Binary64.ofInt magnitude := mul_powerOfTen_zero finite nonzero
      rw [scale_natCast zero, same, if_pos ⟨by decide, finite⟩]
  rw [NumberLiteral.value?, integer?_integerLiteral collected, if_neg noInteger,
    double?_integerLiteral collected, scaled]
  rfl

/-- A longer literal is far beyond the range of 64 bits. -/
theorem exists_large_of_value? (large : significandBound ≤ magnitude)
    (read : (integerLiteral negative magnitude).value? = some number) :
    ∃ x, number = .float x ∧ 3 * 2 ^ 59 * 8 * Binary64.unitsPerOne ≤ x.units := by
  have cases := collect_cases (fun _ => le_nine_of_mem_digitValues (n := magnitude))
    (by decide : 0 < significandBound)
  rw [foldl_digitValues] at cases
  rcases cases with ⟨small, -⟩ | ⟨-, significand, first, rest, collected, near⟩
  · exact absurd large (Nat.not_le.mpr small)
  · rw [NumberLiteral.value?, integer?_integerLiteral collected, if_neg (by simp),
      double?_integerLiteral collected] at read
    obtain ⟨y, scaled, rfl⟩ := Option.map_eq_some_iff.mp read
    obtain ⟨x, product, rfl⟩ := Option.map_eq_some_iff.mp scaled
    have nonzero : significand ≠ 0 := by
      rintro rfl
      exact absurd near (by decide)
    have atLeast : 3 * 2 ^ 59 * 8 * Binary64.unitsPerOne ≤ x.units := by
      rw [scale_natCast nonzero] at product
      split at product
      case isFalse => cases product
      case isTrue =>
        obtain rfl := Option.some.inj product
        have collectedLarge : 3 * 2 ^ 59 ≤ significand := by
          rw [significandBound, UInt64.size] at near
          omega
        have tenfold : 8 ≤ Nat.pow 10 (first :: rest).length := by
          rw [Nat.pow_eq, List.length_cons, Nat.pow_succ]
          have : 0 < 10 ^ rest.length := Nat.pow_pos (by decide)
          omega
        exact Binary64.mul_unitsPerOne_le_mul (by decide)
          (Binary64.mul_unitsPerOne_le_ofInt (by decide) collectedLarge)
          (Binary64.mul_unitsPerOne_le_ofInt (by decide) tenfold)
    refine ⟨_, rfl, ?_⟩
    split
    · rwa [Binary64.units_ofMagnitudeBits_self]
    · exact atLeast

/-! ## What an integer column stores -/

/-- A double that passes an integer column is as large as the integer and has its sign. -/
theorem units_of_narrow {x : Binary64} {n : Int64} (narrowed : Codec.narrow x = .ok n) :
    x.units = n.toInt.natAbs * Binary64.unitsPerOne ∧
      (x.isNegative = true → n.toInt ≤ 0) ∧ (x.isNegative = false → 0 ≤ n.toInt) := by
  obtain ⟨-, equal⟩ := Codec.narrow_eq_ok_iff.mp narrowed
  have positive : (0 : Int) < Binary64.unitsPerOne :=
    Int.natCast_pos.mpr Binary64.unitsPerOne_pos
  rw [Binary64.signed] at equal
  refine ⟨?_, fun negative => ?_, fun positiveSign => ?_⟩
  · have magnitude := congrArg Int.natAbs equal
    rw [Int.natAbs_mul, Int.natAbs_natCast] at magnitude
    rw [← magnitude]
    split <;> omega
  · rw [if_pos negative] at equal
    by_contra above
    have := Int.mul_pos (Int.lt_of_not_ge above) positive
    omega
  · rw [if_neg (by simp [positiveSign])] at equal
    by_contra below
    have := Int.mul_neg_of_neg_of_pos (Int.lt_of_not_ge below) positive
    omega

/-- A double that is not less than an integer passes as nothing smaller. -/
theorem le_natAbs_of_narrow {x : Binary64} {n : Int64} {least : Nat}
    (narrowed : Codec.narrow x = .ok n) (atLeast : least * Binary64.unitsPerOne ≤ x.units) :
    least ≤ n.toInt.natAbs := by
  rw [(units_of_narrow narrowed).1] at atLeast
  exact Nat.le_of_mul_le_mul_right atLeast Binary64.unitsPerOne_pos

/-- Above the range the rounded integer is outside as well. -/
theorem narrow_ofInt_ne_ok (atLeast : 2 ^ 63 ≤ magnitude) (n : Int64) :
    Codec.narrow (.ofInt magnitude) ≠ .ok n := by
  intro narrowed
  have positive : (Binary64.ofInt magnitude).isNegative = false := by
    rw [Binary64.ofInt, Binary64.isNegative_ofRatio, decide_eq_false_iff_not]
    omega
  have nonnegative := (units_of_narrow narrowed).2.2 positive
  have above := le_natAbs_of_narrow narrowed
    (Binary64.mul_unitsPerOne_le_ofInt (by decide) atLeast)
  have greatest := n.toInt_lt
  omega

/-- Below the range only what is rounded to its end passes. -/
theorem toInt_of_narrow_negative {n : Int64} (small : magnitude < significandBound)
    (outside : ¬ (0 < magnitude ∧ magnitude ≤ 2 ^ 63))
    (narrowed : Codec.narrow (.ofMagnitudeBits true (Binary64.ofInt magnitude).magnitudeBits) =
      .ok n) :
    magnitude ≤ 2 ^ 63 + 1024 ∧ n.toInt = max (-2 ^ 63) (-(magnitude : Int)) := by
  obtain ⟨units, nonpositive, -⟩ := units_of_narrow narrowed
  rw [Binary64.units_ofMagnitudeBits_self, Binary64.units_ofInt small] at units
  have whole := Nat.eq_of_mul_eq_mul_right Binary64.unitsPerOne_pos units
  have sign := nonpositive (Binary64.isNegative_ofMagnitudeBits_self true _)
  have least := n.le_toInt
  rcases Nat.eq_zero_or_pos magnitude with rfl | nonzero
  · have none : Binary64.roundedInteger 0 = 0 := rfl
    omega
  · have above : 2 ^ 63 < magnitude := by omega
    have near : magnitude ≤ 2 ^ 63 + 1024 := by
      by_contra beyond
      have := Binary64.le_roundedInteger (Nat.lt_of_not_le beyond) small
      omega
    have lowest := Binary64.roundedInteger_eq_two_pow above.le near
    omega

/-- **What an integer column stores of a literal.** It is the integer itself, or the least integer
of 64 bits for one of the 1024 integers below that. -/
theorem stored_of_integerLiteral {stored : Stored}
    (read : (integerLiteral negative magnitude).value? = some number)
    (encoded : Codec.encode .integer number.toValue = .ok stored) :
    -2 ^ 63 - 1024 ≤ signedInteger negative magnitude ∧
      signedInteger negative magnitude < 2 ^ 63 ∧
      ∃ n : Int64, stored = .int n ∧ n.toInt = max (-2 ^ 63) (signedInteger negative magnitude) := by
  have narrowing {x : Binary64} (encoded : Codec.encode .integer (.float x) = .ok stored) :
      ∃ n, Codec.narrow x = .ok n ∧ stored = .int n := by
    obtain ⟨n, narrowed, rfl⟩ := map_eq_ok.mp encoded
    exact ⟨n, narrowed, rfl⟩
  rcases Nat.lt_or_ge magnitude significandBound with small | large
  · by_cases inRange : negative = false ∨ 0 < magnitude ∧ magnitude ≤ 2 ^ 63
    · rw [value?_integer small inRange] at read
      obtain rfl := Option.some.inj read
      rw [Number.toValue] at encoded
      split at encoded
      case isTrue range =>
        rw [Int64.toInt_minValue, Int64.toInt_maxValue] at range
        obtain rfl := Except.ok.inj encoded
        refine ⟨by omega, by omega, _, rfl, ?_⟩
        rw [Int64.toInt_ofInt_of_le range.1 (by omega), Int.max_eq_right range.1]
      case isFalse outside =>
        rw [Int64.toInt_minValue, Int64.toInt_maxValue, signedInteger] at outside
        obtain ⟨n, narrowed, -⟩ := narrowing encoded
        cases negative with
        | true =>
          have range := inRange.resolve_left (by decide)
          rw [if_pos rfl] at outside
          omega
        | false =>
          rw [if_neg Bool.false_ne_true] at outside
          exact absurd narrowed (narrow_ofInt_ne_ok (by omega) n)
    · rw [not_or, Bool.not_eq_false] at inRange
      obtain ⟨rfl, outside⟩ := inRange
      rw [value?_negative small outside] at read
      obtain rfl := Option.some.inj read
      obtain ⟨n, narrowed, rfl⟩ := narrowing encoded
      obtain ⟨near, same⟩ := toInt_of_narrow_negative small outside narrowed
      rw [signedInteger, if_pos rfl]
      exact ⟨by omega, by omega, n, rfl, same⟩
  · obtain ⟨x, rfl, beyond⟩ := exists_large_of_value? large read
    obtain ⟨n, narrowed, rfl⟩ := narrowing encoded
    have above := le_natAbs_of_narrow narrowed beyond
    have least := n.le_toInt
    have greatest := n.toInt_lt
    omega

/-- Each of the 1024 integers below the range is taken, and stored as the least integer. -/
theorem encode_integerLiteral_below (above : 2 ^ 63 < magnitude)
    (near : magnitude ≤ 2 ^ 63 + 1024) :
    ∃ number, (integerLiteral true magnitude).value? = some number ∧
      Codec.encode .integer number.toValue = .ok (.int Int64.minValue) := by
  have small : magnitude < significandBound := by
    rw [significandBound, UInt64.size]
    omega
  have lowest : (Binary64.ofInt magnitude).units = 2 ^ 63 * Binary64.unitsPerOne := by
    rw [Binary64.units_ofInt small, Binary64.roundedInteger_eq_two_pow above.le near]
  have narrowed : Codec.narrow (.ofMagnitudeBits true (Binary64.ofInt magnitude).magnitudeBits) =
      .ok Int64.minValue := by
    rw [Codec.narrow_eq_ok_iff, Binary64.isFinite_ofMagnitudeBits_self, Binary64.signed,
      Binary64.isNegative_ofMagnitudeBits_self, if_pos rfl,
      Binary64.units_ofMagnitudeBits_self, lowest, Int64.toInt_minValue]
    exact ⟨Binary64.isFinite_ofInt small, by omega⟩
  exact ⟨_, value?_negative small (by omega), map_eq_ok.mpr ⟨_, narrowed, rfl⟩⟩

end

end Json

end TypedSql
