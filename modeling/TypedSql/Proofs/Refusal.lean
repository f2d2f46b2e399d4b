import Mathlib.Data.List.Nodup
import TypedSql.Proofs.Definition

/-!
# Refused definitions

A definition is refused for its first declaration that does something wrong behind the ones
before it (`Table.Offends`). What it does wrong is looked for in a fixed order: a name that is
taken, a nullable primary key, a numbered column of another type than `integer`, a `varchar`
above the largest size. Each kind of offence says that the declaration passes the earlier
questions, so that the kinds exclude each other.

The declarations before the offending one are coherent, and together with the accepted
definitions this describes every answer (`Table.define_eq_error_iff`).
-/

set_option autoImplicit false

namespace TypedSql

/-- Where no two members share a key, the member of a key is the one that is found. -/
theorem find?_eq_some_iff_of_nodup {α β : Type} [DecidableEq β] {key : α → β} {members : List α}
    (distinct : (members.map key).Nodup) {value : β} {member : α} :
    members.find? (key · = value) = some member ↔ member ∈ members ∧ key member = value := by
  constructor
  · intro found
    exact ⟨List.mem_of_find?_eq_some found, by simpa using List.find?_some found⟩
  · rintro ⟨inside, same⟩
    cases found : members.find? (key · = value) with
    | none => exact absurd same (by simpa using List.find?_eq_none.mp found member inside)
    | some other =>
        have otherSame : key other = value := by simpa using List.find?_some found
        rw [List.inj_on_of_nodup_map distinct (List.mem_of_find?_eq_some found) inside
          (otherSame.trans same.symm)]

namespace Table

/-! ## Offending declarations -/

/-- Declarations with nothing wrong: no two have one name in SQL, and each is sound. -/
structure Coherent (specs : List ColumnSpec) : Prop where
  distinct : specs.Pairwise fun first second => first.sqlName ≠ second.sqlName
  sound : ∀ spec ∈ specs, spec.Sound

/-- What a declaration does wrong behind `earlier` ones. -/
inductive Offends (earlier : List ColumnSpec) (spec : ColumnSpec) : DefinitionFault → Prop where
  | duplicate {first : ColumnSpec} (member : first ∈ earlier) (same : first.name = spec.name) :
      Offends earlier spec (.duplicate spec.name)
  | collision {first : ColumnSpec} (member : first ∈ earlier)
      (same : first.sqlName = spec.sqlName) (different : first.name ≠ spec.name) :
      Offends earlier spec (.collision spec.name first.name spec.sqlName)
  | nullableKey (fresh : ∀ first ∈ earlier, first.sqlName ≠ spec.sqlName)
      (nullable : spec.nullable = true) (primaryKey : spec.primaryKey = true) :
      Offends earlier spec (.nullableKey spec.name)
  | autoincrementType (fresh : ∀ first ∈ earlier, first.sqlName ≠ spec.sqlName)
      (key : spec.nullable = true → spec.primaryKey = false)
      (autoincrement : spec.autoincrement = true) (type : spec.type ≠ .integer) :
      Offends earlier spec (.autoincrementType spec.name spec.type)
  | oversized {size : Nat} (fresh : ∀ first ∈ earlier, first.sqlName ≠ spec.sqlName)
      (key : spec.nullable = true → spec.primaryKey = false)
      (autoincrement : spec.autoincrement = true → spec.type = .integer)
      (varchar : spec.type = .varchar) (declared : spec.size = some size)
      (exceeds : ColumnType.maxVarcharSize < size) :
      Offends earlier spec (.oversized spec.name size)

variable {earlier specs : List ColumnSpec} {spec : ColumnSpec} {fault : DefinitionFault}

theorem find?_sqlName_eq_none (fresh : ∀ first ∈ earlier, first.sqlName ≠ spec.sqlName) :
    earlier.find? (·.sqlName = spec.sqlName) = none := by
  rw [List.find?_eq_none]
  simpa using fresh

/-- The fault that is found is an offence. -/
theorem offends_of_specFault? (found : specFault? earlier spec = some fault) :
    Offends earlier spec fault := by
  rw [specFault?] at found
  split at found
  next first taken =>
    have member := List.mem_of_find?_eq_some taken
    have same : first.sqlName = spec.sqlName := by simpa using List.find?_some taken
    split at found
    case isTrue name =>
      cases found
      exact .duplicate member name
    case isFalse different =>
      cases found
      exact .collision member same different
  next free =>
    have fresh : ∀ first ∈ earlier, first.sqlName ≠ spec.sqlName := by
      simpa using List.find?_eq_none.mp free
    split at found
    case isTrue both =>
      cases found
      rw [Bool.and_eq_true] at both
      exact .nullableKey fresh both.1 both.2
    case isFalse notBoth =>
      have key : spec.nullable = true → spec.primaryKey = false := by simpa using notBoth
      split at found
      case isTrue numbered =>
        cases found
        rw [Bool.and_eq_true, decide_eq_true_eq] at numbered
        exact .autoincrementType fresh key numbered.1 numbered.2
      case isFalse notNumbered =>
        have autoincrement : spec.autoincrement = true → spec.type = .integer := by
          simpa using notNumbered
        split at found
        next size declared =>
          split at found
          case isTrue large =>
            cases found
            exact .oversized fresh key autoincrement large.1 declared large.2
          case isFalse => cases found
        next => cases found

/-- Behind declarations of different names an offence is the fault that is found. -/
theorem specFault?_of_offends (distinct : (earlier.map (·.sqlName)).Nodup)
    (offends : Offends earlier spec fault) : specFault? earlier spec = some fault := by
  have taken {first : ColumnSpec} (member : first ∈ earlier)
      (same : first.sqlName = spec.sqlName) :
      earlier.find? (·.sqlName = spec.sqlName) = some first :=
    (find?_eq_some_iff_of_nodup distinct).mpr ⟨member, same⟩
  have keyless (key : spec.nullable = true → spec.primaryKey = false) :
      (spec.nullable && spec.primaryKey) = false := by
    cases nullable : spec.nullable with
    | true => simp [key nullable]
    | false => rfl
  rw [specFault?]
  cases offends with
  | duplicate member same => simp [taken member (congrArg snakeCase same), same]
  | collision member same different => simp [taken member same, different]
  | nullableKey fresh nullable primaryKey =>
      simp [find?_sqlName_eq_none fresh, nullable, primaryKey]
  | autoincrementType fresh key autoincrement type =>
      simp [find?_sqlName_eq_none fresh, keyless key, autoincrement, type]
  | oversized fresh key autoincrement varchar declared exceeds =>
      have unnumbered : spec.autoincrement = false := by
        cases numbered : spec.autoincrement with
        | true => exact absurd (autoincrement numbered) (by simp [varchar])
        | false => rfl
      simp [find?_sqlName_eq_none fresh, keyless key, unnumbered, varchar, declared, exceeds]

/-! ## The first of them -/

theorem coherent_iff : Coherent specs ↔ firstFault? [] specs = none := by
  rw [firstFault?_eq_none_iff]
  exact ⟨fun coherent => ⟨by simp, coherent.distinct, coherent.sound⟩,
    fun faultless => ⟨faultless.2.1, faultless.2.2⟩⟩

/-- The first fault is that of a declaration with none before it. -/
theorem firstFault?_eq_some_iff :
    firstFault? earlier specs = some fault ↔
      ∃ before spec after, specs = before ++ spec :: after ∧
        firstFault? earlier before = none ∧ specFault? (earlier ++ before) spec = some fault := by
  induction specs generalizing earlier with
  | nil => simp [firstFault?]
  | cons head rest ih =>
      rw [firstFault?]
      cases here : specFault? earlier head with
      | some found =>
          constructor
          · intro same
            obtain rfl : found = fault := Option.some.inj same
            exact ⟨[], head, rest, rfl, rfl, by rw [List.append_nil, here]⟩
          · rintro ⟨before, spec, after, split, faultless, offence⟩
            cases before with
            | nil =>
                obtain ⟨rfl, -⟩ := List.cons.inj split
                rwa [List.append_nil, here] at offence
            | cons first others =>
                obtain ⟨rfl, -⟩ := List.cons.inj split
                rw [firstFault?, here] at faultless
                cases faultless
      | none =>
          rw [ih]
          constructor
          · rintro ⟨before, spec, after, rfl, faultless, offence⟩
            refine ⟨head :: before, spec, after, rfl, ?_, by simpa using offence⟩
            rw [firstFault?, here]
            exact faultless
          · rintro ⟨before, spec, after, split, faultless, offence⟩
            cases before with
            | nil =>
                obtain ⟨rfl, -⟩ := List.cons.inj split
                rw [List.append_nil, here] at offence
                cases offence
            | cons first others =>
                obtain ⟨rfl, rfl⟩ := List.cons.inj split
                rw [firstFault?, here] at faultless
                exact ⟨others, spec, after, rfl, faultless, by simpa using offence⟩

/-- **A definition is refused for having no columns or for its first offending declaration.** -/
theorem define_eq_error_iff {name : String} {error : DefinitionError} :
    define name specs = .error error ↔ error.table = name ∧
      (specs = [] ∧ error.fault = .noColumns ∨
        ∃ before spec after, specs = before ++ spec :: after ∧ Coherent before ∧
          Offends before spec error.fault) := by
  have first (fault : DefinitionFault) : firstFault? [] specs = some fault ↔
      ∃ before spec after, specs = before ++ spec :: after ∧ Coherent before ∧
        Offends before spec fault := by
    rw [firstFault?_eq_some_iff]
    constructor
    · rintro ⟨before, spec, after, split, faultless, offence⟩
      exact ⟨before, spec, after, split, coherent_iff.mpr faultless, offends_of_specFault? offence⟩
    · rintro ⟨before, spec, after, split, coherent, offends⟩
      have distinct : (before.map (·.sqlName)).Nodup := List.pairwise_map.mpr coherent.distinct
      exact ⟨before, spec, after, split, coherent_iff.mp coherent,
        specFault?_of_offends distinct offends⟩
  obtain ⟨table, fault⟩ := error
  rw [define]
  cases found : firstFault? [] specs with
  | some other =>
      have nonempty : specs ≠ [] := by
        rintro rfl
        cases found
      simp only [Except.error.injEq, DefinitionError.mk.injEq, nonempty, false_and, false_or,
        ← first, found, Option.some.injEq]
      exact ⟨fun same => ⟨same.1.symm, same.2⟩, fun same => ⟨same.1.symm, same.2⟩⟩
  | none =>
      have never := (first fault).not.mp (by simp [found])
      cases specs with
      | nil => simp [eq_comm]
      | cons spec rest =>
          simp only [List.isEmpty_cons, Bool.false_eq_true, if_false, reduceCtorEq, false_and,
            never, or_self, and_false]

end Table

end TypedSql
