import TypedSql.Schema.Table

/-!
# Accepted definitions

A definition is accepted exactly when it has columns, no two of them have one name in SQL, and
each declaration is sound: no primary key is nullable, only an integer is numbered by the
database, and no `varchar` is above the largest size (`Table.define_eq_ok_iff`). So the columns
of a table have different names (`Table.nodup_names_of_define`), and a name stands for one cell
of a record.
-/

set_option autoImplicit false

namespace TypedSql

/-- A declaration with nothing wrong in itself. -/
structure ColumnSpec.Sound (spec : ColumnSpec) : Prop where
  key : spec.nullable = true → spec.primaryKey = false
  autoincrement : spec.autoincrement = true → spec.type = .integer
  size : spec.type = .varchar → ∀ size ∈ spec.size, size ≤ ColumnType.maxVarcharSize

namespace Table

/-- A declaration has no fault when no earlier one has its name in SQL and it is sound. -/
theorem specFault?_eq_none_iff {earlier : List ColumnSpec} {spec : ColumnSpec} :
    specFault? earlier spec = none ↔
      (∀ first ∈ earlier, first.sqlName ≠ spec.sqlName) ∧ spec.Sound := by
  rw [specFault?]
  cases found : earlier.find? (·.sqlName = spec.sqlName) with
  | some first =>
      have same : first.sqlName = spec.sqlName := by simpa using List.find?_some found
      have member := List.mem_of_find?_eq_some found
      constructor
      · intro none
        dsimp only at none
        split at none <;> cases none
      · intro sound
        exact absurd same (sound.1 first member)
  | none =>
      have fresh : ∀ first ∈ earlier, first.sqlName ≠ spec.sqlName := by
        simpa using List.find?_eq_none.mp found
      refine Iff.trans ?_ (and_iff_right fresh).symm
      constructor
      · intro none
        dsimp only at none
        split at none
        case isTrue => cases none
        case isFalse key =>
          split at none
          case isTrue => cases none
          case isFalse autoincrement =>
            refine ⟨by simpa using key, by simpa using autoincrement, ?_⟩
            intro varchar size declared
            rw [Option.mem_def.mp declared] at none
            simpa [varchar] using none
      · intro sound
        have key : (spec.nullable && spec.primaryKey) = false := by
          cases nullable : spec.nullable with
          | true => simp [sound.key nullable]
          | false => rfl
        have autoincrement : (spec.autoincrement && decide (spec.type ≠ .integer)) = false := by
          cases numbered : spec.autoincrement with
          | true => simp [sound.autoincrement numbered]
          | false => rfl
        simp only [key, autoincrement, Bool.false_eq_true, if_false]
        cases declared : spec.size with
        | none => rfl
        | some size =>
            refine if_neg ?_
            rintro ⟨varchar, exceeds⟩
            exact Nat.not_le_of_lt exceeds (sound.size varchar size declared)

theorem firstFault?_eq_none_iff {earlier specs : List ColumnSpec} :
    firstFault? earlier specs = none ↔
      (∀ spec ∈ specs, ∀ first ∈ earlier, first.sqlName ≠ spec.sqlName) ∧
        specs.Pairwise (fun first second => first.sqlName ≠ second.sqlName) ∧
        ∀ spec ∈ specs, spec.Sound := by
  induction specs generalizing earlier with
  | nil => simp [firstFault?]
  | cons spec rest ih =>
      have head := @specFault?_eq_none_iff earlier spec
      rw [firstFault?]
      cases fault : specFault? earlier spec with
      | some fault =>
          rw [fault] at head
          simp only [reduceCtorEq, false_iff] at head ⊢
          rintro ⟨fresh, _, sound⟩
          exact head ⟨fresh spec List.mem_cons_self, sound spec List.mem_cons_self⟩
      | none =>
          obtain ⟨fresh, sound⟩ := head.mp fault
          simp only [ih, List.mem_append, List.mem_singleton, List.forall_mem_cons,
            List.pairwise_cons, or_imp, forall_and, forall_eq]
          exact ⟨fun rest => ⟨⟨fresh, rest.1.1⟩, ⟨rest.1.2, rest.2.1⟩, sound, rest.2.2⟩,
            fun all => ⟨⟨all.1.2, all.2.1.1⟩, all.2.1.2, all.2.2.2⟩⟩

/-- **A definition is accepted exactly when it is not empty, its columns have different names in
SQL, and each declaration is sound.** The table has the declarations for its columns. -/
theorem define_eq_ok_iff {name : String} {specs : List ColumnSpec} {table : Table} :
    define name specs = .ok table ↔
      specs ≠ [] ∧ specs.Pairwise (fun first second => first.sqlName ≠ second.sqlName) ∧
        (∀ spec ∈ specs, spec.Sound) ∧ table = ⟨name, specs.map fun spec => ⟨spec, name⟩⟩ := by
  have faultless := @firstFault?_eq_none_iff [] specs
  rw [define]
  cases fault : firstFault? [] specs with
  | some fault =>
      rw [fault] at faultless
      simp only [List.not_mem_nil, reduceCtorEq, false_iff] at faultless ⊢
      rintro ⟨_, distinct, sound, _⟩
      exact faultless ⟨by simp, distinct, sound⟩
  | none =>
      obtain ⟨-, distinct, sound⟩ := faultless.mp fault
      cases specs with
      | nil => simp
      | cons spec rest =>
          simp only [List.isEmpty_cons, Bool.false_eq_true, if_false, Except.ok.injEq, ne_eq,
            reduceCtorEq, not_false_eq_true, true_and]
          exact ⟨fun same => ⟨distinct, sound, same.symm⟩, fun all => all.2.2.symm⟩

/-- The columns of an accepted table have different names. -/
theorem nodup_names_of_define {name : String} {specs : List ColumnSpec} {table : Table}
    (defined : define name specs = .ok table) : (table.columns.map (·.name)).Nodup := by
  obtain ⟨-, distinct, -, rfl⟩ := define_eq_ok_iff.mp defined
  rw [List.map_map, List.Nodup, List.pairwise_map]
  refine distinct.imp ?_
  intro first second different same
  exact different (congrArg snakeCase same)

end Table

end TypedSql
