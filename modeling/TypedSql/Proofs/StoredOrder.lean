import TypedSql.Dialect
import TypedSql.Engine.Database
import TypedSql.Proofs.RoundTrip

/-!
# The order of stored instants

Instants are ordered by their seconds and then by their nanoseconds. A datetime column stores the
whole milliseconds since 1970, and the database orders and compares these numbers.

The two orders agree, at the precision of milliseconds, as long as no second has more than a
thousand of them. A leap second shares the number of the second before it, so its milliseconds run
on from one thousand, up to the numbers that belong to the second behind it. An instant in a leap
second therefore reaches the instants of the next second up to the same fraction
(`Instant.Reaches`), and passes those before that (`Instant.Passes`).

These pairs are the only exceptions (`Codec.datetime_order`). A pair of the second kind is stored
in the wrong order (`Codec.datetime_misordered`).
-/

set_option autoImplicit false

namespace TypedSql

/-! ## Orders of instants -/

namespace Instant

/-- Instants are ordered by their seconds, and by their nanoseconds in one second. -/
instance : LE Instant :=
  ⟨fun x y => x.seconds < y.seconds ∨ x.seconds = y.seconds ∧ x.nanos ≤ y.nanos⟩

theorem le_iff {x y : Instant} :
    x ≤ y ↔ x.seconds < y.seconds ∨ x.seconds = y.seconds ∧ x.nanos ≤ y.nanos := Iff.rfl

/-- The whole milliseconds of an instant in its second. -/
def milliOfSecond (x : Instant) : Nat := x.nanos / nanosPerMilli

/-- The order of instants at the precision of milliseconds. -/
def compareMillis (x y : Instant) : Ordering :=
  (compare x.seconds y.seconds).then (compare x.milliOfSecond y.milliOfSecond)

/-- An instant has at least as many milliseconds as it takes to one in the next second. -/
structure Reaches (x y : Instant) : Prop where
  next : y.seconds = x.seconds + 1
  millis : y.milliOfSecond + 1000 ≤ x.milliOfSecond

/-- An instant has more milliseconds than it takes to one in the next second. -/
structure Passes (x y : Instant) : Prop where
  next : y.seconds = x.seconds + 1
  millis : y.milliOfSecond + 1000 < x.milliOfSecond

variable {x y : Instant}

theorem Passes.reaches (passes : x.Passes y) : x.Reaches y := ⟨passes.next, passes.millis.le⟩

theorem milliOfSecond_lt (x : Instant) : x.milliOfSecond < 2000 := by
  have bound := x.nanos_lt
  rw [milliOfSecond, nanosPerMilli]
  rw [nanosPerSecond] at bound
  omega

theorem millis_eq (x : Instant) : x.millis = x.seconds * 1000 + x.milliOfSecond := rfl

/-- Only an instant in a leap second reaches the next second, and only ordinary ones in it. -/
theorem Reaches.leap (reaches : x.Reaches y) :
    nanosPerSecond ≤ x.nanos ∧ y.nanos < nanosPerSecond := by
  have millis := reaches.millis
  have bound := x.nanos_lt
  simp only [milliOfSecond, nanosPerMilli, nanosPerSecond] at *
  omega

/-- An instant that is not after another one has no greater number, unless it passes it. -/
theorem millis_le_iff_of_le (le : x ≤ y) : x.millis ≤ y.millis ↔ ¬ x.Passes y := by
  have bound := x.milliOfSecond_lt
  rw [millis_eq, millis_eq]
  rcases le_iff.mp le with before | ⟨same, inSecond⟩
  · constructor
    · intro atMost passes
      have next := passes.next
      have millis := passes.millis
      omega
    · intro notPast
      by_contra greater
      exact notPast ⟨by omega, by omega⟩
  · have millis : x.milliOfSecond ≤ y.milliOfSecond := Nat.div_le_div_right inSecond
    refine iff_of_true (by omega) ?_
    intro passes
    have next := passes.next
    omega

theorem compareMillis_swap (x y : Instant) : (x.compareMillis y).swap = y.compareMillis x := by
  rw [compareMillis, Ordering.swap_then, Int.compare_swap, Nat.compare_swap, compareMillis]

theorem compareMillis_of_lt (before : x.seconds < y.seconds) : x.compareMillis y = .lt := by
  rw [compareMillis, Int.compare_eq_lt.mpr before, Ordering.lt_then]

/-- The numbers of instants in different seconds are in the order of these, unless the earlier one
reaches the later one. -/
theorem compare_millis_iff_of_lt (before : x.seconds < y.seconds) :
    compare x.millis y.millis = .lt ↔ ¬ x.Reaches y := by
  have bound := x.milliOfSecond_lt
  rw [Int.compare_eq_lt, millis_eq, millis_eq]
  constructor
  · intro less reaches
    have next := reaches.next
    have millis := reaches.millis
    omega
  · intro notReached
    by_contra atLeast
    exact notReached ⟨by omega, by omega⟩

theorem not_reaches_of_le (atMost : y.seconds ≤ x.seconds) : ¬ x.Reaches y := by
  intro reaches
  have next := reaches.next
  omega

/-- **The numbers of two instants are in the order that these have to the millisecond**, exactly
if neither reaches the other. -/
theorem compare_millis_iff (x y : Instant) :
    compare x.millis y.millis = x.compareMillis y ↔ ¬ x.Reaches y ∧ ¬ y.Reaches x := by
  rcases lt_trichotomy x.seconds y.seconds with before | same | behind
  · rw [compareMillis_of_lt before, compare_millis_iff_of_lt before]
    exact (and_iff_left (not_reaches_of_le before.le)).symm
  · refine iff_of_true ?_ ⟨not_reaches_of_le same.ge, not_reaches_of_le same.le⟩
    rw [compareMillis, same, Int.compare_eq_eq.mpr rfl, Ordering.eq_then, millis_eq, millis_eq,
      same]
    rcases Nat.lt_trichotomy x.milliOfSecond y.milliOfSecond with less | equal | greater
    · rw [Nat.compare_eq_lt.mpr less, Int.compare_eq_lt]
      omega
    · rw [equal, Nat.compare_eq_eq.mpr rfl, Int.compare_eq_eq]
    · rw [Nat.compare_eq_gt.mpr greater, Int.compare_eq_gt]
      omega
  · rw [← compareMillis_swap, compareMillis_of_lt behind, ← Int.compare_swap,
      Ordering.swap_inj, compare_millis_iff_of_lt behind]
    exact (and_iff_right (not_reaches_of_le behind.le)).symm

end Instant

/-! ## Comparing and sorting in the database -/

/-- An order in a direction. -/
def Direction.ranked : Direction → Ordering → Ordering
  | ascending, order => order
  | descending, order => order.swap

namespace Engine

/-- Integers are compared as they are, whatever the affinities of the operands. -/
theorem compareUnder?_int (affinity : Affinity) (m n : Int64) :
    compareUnder? affinity (.int m) (.int n) = some (compare m.toInt n.toInt) := by
  cases affinity <;> rfl

/-- The columns of integers, booleans and instants prefer integers. -/
theorem Affinity.ofTypeName_integer : ofTypeName "INTEGER" = integer := by decide +kernel

namespace Database

variable {place : Place} {direction : Direction} {later : List ResolvedOrder}

theorem compareRows_cons (first second : List Stored) :
    compareRows (⟨place, direction⟩ :: later) first second =
      (direction.ranked (compareStored (valueAt first place) (valueAt second place))).then
        (compareRows later first second) := by
  cases direction <;> rfl

/-- Rows are sorted by what their values stand for, if the database compares the values alike. -/
theorem sortRows_map {α : Type} {cells : α → List Stored} {order : α → α → Ordering}
    {items : List α}
    (alike : ∀ one ∈ items, ∀ other ∈ items,
      compareStored (valueAt (cells one) place) (valueAt (cells other) place) = order one other) :
    sortRows (⟨place, direction⟩ :: later) (items.map cells) =
      (items.mergeSort fun one other =>
        (direction.ranked (order one other)).then (compareRows later (cells one) (cells other)) ≠
          .gt).map cells := by
  refine (List.map_mergeSort ?_).symm
  intro one isOne other isOther
  rw [compareRows_cons, alike one isOne other isOther]

/-- Two members are exchanged if the first one ranks higher. -/
theorem mergeSort_pair {α : Type} (atMost : α → α → Bool) (first second : α) :
    [first, second].mergeSort atMost =
      if atMost first second then [first, second] else [second, first] := by
  simp [List.mergeSort, List.merge]

end Database

end Engine

/-! ## Stored instants -/

namespace Codec

open Engine

theorem encode_datetime (x : Instant) :
    encode .datetime (.datetime x) = .ok (.int (Int64.ofInt x.millis)) := rfl

/-- The number of an instant is in the range of 64 bits. -/
theorem toInt_ofInt_millis (x : Instant) : (Int64.ofInt x.millis).toInt = x.millis := by
  obtain ⟨first, last⟩ := x.millis_bounds
  rw [Instant.firstSecond] at first
  rw [Instant.lastSecond] at last
  exact Int64.toInt_ofInt_of_le (by omega) (by omega)

/-- The database compares stored instants to the millisecond, if neither reaches the other. -/
theorem compareStored_instants {x y : Instant} {first second : Stored}
    (isFirst : encode .datetime (.datetime x) = .ok first)
    (isSecond : encode .datetime (.datetime y) = .ok second)
    (apart : ¬ x.Reaches y ∧ ¬ y.Reaches x) : compareStored first second = x.compareMillis y := by
  obtain rfl := Except.ok.inj isFirst
  obtain rfl := Except.ok.inj isSecond
  rw [compareStored, toInt_ofInt_millis, toInt_ofInt_millis]
  exact (Instant.compare_millis_iff x y).mpr apart

/-- A comparison of stored instants compares the instants to the millisecond, if neither reaches
the other. -/
theorem eval_compare_instants {row : List Stored} {left right : Condition} {x y : Instant}
    (comparison : Sql.Comparison)
    (isLeft : encode .datetime (.datetime x) = .ok (left.eval row))
    (isRight : encode .datetime (.datetime y) = .ok (right.eval row))
    (apart : ¬ x.Reaches y ∧ ¬ y.Reaches x) :
    (Condition.compare comparison left right).eval row =
      ofTruth (some (Condition.accepts comparison (x.compareMillis y))) := by
  have first : left.eval row = _ := (Except.ok.inj isLeft).symm
  have second : right.eval row = _ := (Except.ok.inj isRight).symm
  simp only [Condition.eval, first, second, compareUnder?_int, toInt_ofInt_millis,
    (Instant.compare_millis_iff x y).mpr apart, Option.map_some]

/-- **Stored instants are in the order of the instants, but for the milliseconds of a leap second
that lie in the next second.** Of two instants the one that is not after the other is stored as
the greater number exactly if it passes the other one, and the numbers are ordered like the
instants to the millisecond exactly if neither reaches the other. Only an instant in a leap second
reaches another one, in the second behind it. What the codec stores stays as it is in a datetime
column of the database, and there a comparison of such values compares the instants, and rows are
sorted by the instants, whatever later terms the order has. -/
theorem datetime_order :
    (∀ x y : Instant, ∃ m n : Int64, encode .datetime (.datetime x) = .ok (.int m) ∧
      encode .datetime (.datetime y) = .ok (.int n) ∧
      (x ≤ y → (m ≤ n ↔ ¬ x.Passes y)) ∧
      (compare m.toInt n.toInt = x.compareMillis y ↔ ¬ x.Reaches y ∧ ¬ y.Reaches x)) ∧
    (∀ x y : Instant, x.Passes y → x.Reaches y) ∧
    (∀ x y : Instant, x.Reaches y →
      Instant.nanosPerSecond ≤ x.nanos ∧ y.nanos < Instant.nanosPerSecond) ∧
    (∀ (x : Instant) (size : Option Nat) (stored : Stored),
      encode .datetime (.datetime x) = .ok stored →
        (Affinity.ofTypeName (Dialect.sqlite.typeName .datetime size)).convert
          (Database.bind stored) = stored) ∧
    (∀ (row : List Stored) (left right : Condition) (x y : Instant),
      encode .datetime (.datetime x) = .ok (left.eval row) →
      encode .datetime (.datetime y) = .ok (right.eval row) →
      ¬ x.Reaches y ∧ ¬ y.Reaches x → ∀ comparison,
        (Condition.compare comparison left right).eval row =
          ofTruth (some (Condition.accepts comparison (x.compareMillis y)))) ∧
    ∀ (α : Type) (cells : α → List Stored) (time : α → Instant) (items : List α) (place : Place),
      (∀ item ∈ items,
        encode .datetime (.datetime (time item)) = .ok (Database.valueAt (cells item) place)) →
      (∀ one ∈ items, ∀ other ∈ items, ¬ (time one).Reaches (time other)) →
      ∀ direction later,
        Database.sortRows (⟨place, direction⟩ :: later) (items.map cells) =
          (items.mergeSort fun one other =>
            (direction.ranked ((time one).compareMillis (time other))).then
              (Database.compareRows later (cells one) (cells other)) ≠ .gt).map cells := by
  refine ⟨?numbers, fun x y => Instant.Passes.reaches, fun x y => Instant.Reaches.leap, ?column,
    ?comparison, ?sorting⟩
  case numbers =>
    intro x y
    refine ⟨_, _, encode_datetime x, encode_datetime y, ?_, ?_⟩
    · intro le
      rw [Int64.le_iff_toInt_le, toInt_ofInt_millis, toInt_ofInt_millis]
      exact Instant.millis_le_iff_of_le le
    · rw [toInt_ofInt_millis, toInt_ofInt_millis]
      exact Instant.compare_millis_iff x y
  case column =>
    intro x size stored encoded
    obtain rfl := Except.ok.inj encoded
    show (Affinity.ofTypeName "INTEGER").convert _ = _
    rw [Affinity.ofTypeName_integer]
    rfl
  case comparison =>
    intro row left right x y isLeft isRight apart comparison
    exact eval_compare_instants comparison isLeft isRight apart
  case sorting =>
    intro α cells time items place stored apart direction later
    refine Database.sortRows_map ?_
    intro one isOne other isOther
    exact compareStored_instants (stored one isOne) (stored other isOther)
      ⟨apart one isOne other isOther, apart other isOther one isOne⟩

/-- Half of the leap second at the end of 2016 is over. -/
def leapSecond : Instant where
  seconds := 1483228799
  nanos := 1500000000
  seconds_in_calendar := by decide
  nanos_lt := by decide

/-- The start of 2017. -/
def newYear : Instant where
  seconds := 1483228800
  nanos := 0
  seconds_in_calendar := by decide
  nanos_lt := by decide

/-- The last nanosecond before 1970 and the start of 2017 are stored in their order, one is found
to be less than the other, and sorting two rows puts the later one first if that is asked for. -/
theorem datetime_order_newYear : ∃ m n : Int64,
    encode .datetime (.datetime eve) = .ok (.int m) ∧
      encode .datetime (.datetime newYear) = .ok (.int n) ∧ m ≤ n ∧
      (Condition.compare .lt (.value (.int m)) (.value (.int n))).eval [] = .int 1 ∧
      Database.sortRows [⟨⟨0, .integer⟩, .descending⟩] [[.int m], [.int n]] =
        [[.int n], [.int m]] := by
  obtain ⟨numbers, -, leap, -, comparison, sorting⟩ := datetime_order
  have apart : ∀ one ∈ [eve, newYear], ∀ other ∈ [eve, newYear], ¬ one.Reaches other := by
    intro one isOne other _ reaches
    simp only [List.mem_cons, List.not_mem_nil, or_false] at isOne
    rcases isOne with rfl | rfl <;> exact absurd (leap _ _ reaches).1 (by decide)
  have both : ¬ eve.Reaches newYear ∧ ¬ newYear.Reaches eve :=
    ⟨apart _ (by simp) _ (by simp), apart _ (by simp) _ (by simp)⟩
  obtain ⟨m, n, isFirst, isSecond, atMost, -⟩ := numbers eve newYear
  refine ⟨m, n, isFirst, isSecond, ?_, ?_, ?_⟩
  · exact (atMost (.inl (by decide))).mpr fun passes => both.1 passes.reaches
  · exact comparison [] (.value (.int m)) (.value (.int n)) eve newYear isFirst isSecond both .lt
  · cases isFirst
    cases isSecond
    have sorted := sorting Instant (fun x => [.int (Int64.ofInt x.millis)]) id [eve, newYear]
      ⟨0, .integer⟩ (fun x _ => rfl) apart .descending []
    rw [Database.mergeSort_pair] at sorted
    exact sorted

/-- **An instant in a leap second is stored as a greater number than the start of the next
year.** -/
theorem datetime_misordered : leapSecond ≤ newYear ∧ ∃ m n : Int64,
    encode .datetime (.datetime leapSecond) = .ok (.int m) ∧
      encode .datetime (.datetime newYear) = .ok (.int n) ∧ ¬ m ≤ n ∧
      Database.sortRows [⟨⟨0, .integer⟩, .ascending⟩] [[.int m], [.int n]] =
        [[.int n], [.int m]] := by
  refine ⟨.inl (by decide), _, _, encode_datetime _, encode_datetime _, by decide, ?_⟩
  rw [Database.sortRows, Database.mergeSort_pair]
  decide

end Codec

end TypedSql
