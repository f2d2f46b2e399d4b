import TypedSql.Binary64.Basic
import TypedSql.Decimal

/-!
# The shortest decimal that reads back

Every real number in the rounding interval of a finite double reads back as that double. The
shortest decimal is found on the coarsest decimal grid that has a point in the interval: the
multiples of `10 ^ k` for the largest such `k`. Where a grid has a point in the interval, one
of the two points around the double is in it, so only those two are tried, and of two hits
the nearer one is taken. What happens to an exact tie is the choice of the text that is
written, `Tie`.

The interval and the grid are compared in quarters of the smallest positive double, which
makes every bound a natural number.
-/

namespace TypedSql.Binary64

set_option autoImplicit false

/-- Which of two equally near decimals is written. -/
inductive Tie where
  | away
  | even
deriving DecidableEq, Repr

/-! ## The rounding interval -/

/-- The absolute value in quarters of the smallest positive number. -/
def quarters (x : Binary64) : Nat := 4 * x.units

/-- The upper end of the rounding interval, in quarters. -/
def upperEnd (x : Binary64) : Nat := (4 * x.significand + 2) * Nat.pow 2 x.scale

/-- The lower end of the rounding interval, in quarters. Below a power of two the spacing of
the numbers is halved. -/
def lowerEnd (x : Binary64) : Nat :=
  (4 * x.significand - (if x.fraction = 0 ∧ 1 < x.exponentField then 1 else 2)) *
    Nat.pow 2 x.scale

/-- Whether a position scaled by `factor` lies in the rounding interval, whose ends belong to
it when the significand is even. -/
def reads (x : Binary64) (position factor : Nat) : Bool :=
  if x.significand % 2 = 0 then x.lowerEnd * factor ≤ position ∧ position ≤ x.upperEnd * factor
  else x.lowerEnd * factor < position ∧ position < x.upperEnd * factor

/-! ## The grids -/

/-- The spacing of the grid of `10 ^ exponent` in quarters of the smallest positive number,
as a numerator and a denominator. -/
def gridSpacing (exponent : Int) : Nat × Nat :=
  (4 * unitsPerOne * Nat.pow 10 exponent.toNat, Nat.pow 10 (-exponent).toNat)

/-- The coefficient of the grid point nearest to the number, if one of the two points around
it lies in the rounding interval. -/
def gridPoint? (x : Binary64) (tie : Tie) (exponent : Int) : Option Nat :=
  let (spacing, factor) := gridSpacing exponent
  let value := x.quarters * factor
  let below := value / spacing
  let remainder := value % spacing
  let belowReads := x.reads (below * spacing) factor
  let aboveReads := x.reads ((below + 1) * spacing) factor
  if belowReads && aboveReads then
    if 2 * remainder < spacing then some below
    else if spacing < 2 * remainder then some (below + 1)
    else match tie with
      | .away => some (below + 1)
      | .even => some (below + below % 2)
  else if belowReads then some below
  else if aboveReads then some (below + 1)
  else none

/-- Tries the grid of `10 ^ exponent` and then the next finer ones. -/
def searchGrids (x : Binary64) (tie : Tie) : Nat → Int → Decimal
  | 0, exponent => ⟨0, exponent⟩
  | tries + 1, exponent =>
      match x.gridPoint? tie exponent with
      | some coefficient => ⟨coefficient, exponent⟩
      | none => searchGrids x tie tries (exponent - 1)

/-- The shortest decimal that reads back as the absolute value of a finite number. No finite
number reaches `10 ^ 309`, and every one is a multiple of `10 ^ -1074`. -/
def shortest (x : Binary64) (tie : Tie) : Decimal :=
  if x.units = 0 then ⟨0, 0⟩ else x.searchGrids tie 1384 309

/-! ## The plain text -/

/-- The text of a number in SQL and in messages: the shortest digits that read back, ties
away from zero, never with an exponent and without a fraction on integers. -/
def plainText (x : Binary64) : List Char :=
  if x.isNaN then "NaN".toList
  else
    let magnitude := if x.isFinite then (x.shortest .away).plain else "inf".toList
    if x.isNegative then '-' :: magnitude else magnitude

end TypedSql.Binary64
