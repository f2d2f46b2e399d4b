import TypedSql.Proofs.Issues
import TypedSql.Proofs.TableText

/-!
# Declared sizes and the validator

A definition in the generic dialect writes `VARCHAR(n)` for a column of that type, where `n` is the
declared size, or the largest size if none is declared. The number is read back from the text
(`TableText.limitOf?`).

The validator looks at declared sizes only. In a column that declares one it accepts exactly the
texts of at most so many characters, so the definition and the validator agree
(`Validation.enforces_declared_limit`). In a column that declares none it accepts a text of any
length, although the definition has a limit (`Validation.undeclared_limit_not_enforced`).
-/

set_option autoImplicit false

namespace TypedSql

/-! ## The limit in a definition -/

/-- The number of characters that a type allows, if it is a `VARCHAR`. -/
def TableText.limitOf? (type : String) : Option Nat :=
  (skip? "VARCHAR(" type.toList).map fun rest =>
    Nat.ofDigitChars 10 (rest.takeWhile Char.isDigit) 0

/-- The limit of a type is the number in its parentheses. -/
theorem TableText.limitOf?_varchar (n : Nat) :
    limitOf? ("VARCHAR(" ++ toString n ++ ")") = some n := by
  have stop : ∀ c, ")".toList.head? = some c → c.isDigit = false := by
    intro c head
    cases head
    rfl
  have digits := (takeWhile_append_of_stop (fun _ => isDigit_of_mem_toString (n := n)) stop).1
  rw [limitOf?, String.toList_append, String.toList_append, List.append_assoc, skip?_append,
    Option.map_some, digits]
  simp

namespace Column

/-- The limit of a `varchar` column in definitions. -/
def limit (column : Column) : Nat := column.size.getD ColumnType.maxVarcharSize

variable {column : Column}

theorem generic_typeName (varchar : column.type = .varchar) :
    Dialect.generic.typeName column.type column.size =
      "VARCHAR(" ++ toString column.limit ++ ")" := by
  rw [varchar]
  rfl

/-- A `varchar` column of an accepted table is written by applications, and its limit is within
the largest size. -/
theorem written_of_define {name : String} {specs : List ColumnSpec} {table : Table}
    (defined : Table.define name specs = .ok table) (member : column ∈ table.columns)
    (varchar : column.type = .varchar) :
    column.autoincrement = false ∧ column.limit ≤ ColumnType.maxVarcharSize := by
  obtain ⟨-, -, sound, rfl⟩ := Table.define_eq_ok_iff.mp defined
  obtain ⟨spec, declared, rfl⟩ := List.mem_map.mp member
  have sound := sound spec declared
  constructor
  · by_contra numbered
    have integer := sound.autoincrement (Bool.not_eq_false _ ▸ numbered)
    exact absurd (varchar.symm.trans integer) (by decide)
  · rw [limit]
    cases declaredSize : spec.size with
    | none => exact Nat.le_refl _
    | some size => exact sound.size varchar size declaredSize

end Column

/-! ## The limit of the validator -/

namespace Validation

variable {table : Table} {column : Column} {record : Record} {content : String}

/-- In a `varchar` column that applications write, a text is judged by the declared size, and by
nothing if none is declared. -/
theorem cellCause?_varchar_eq_none_iff (varchar : column.type = .varchar)
    (written : column.autoincrement = false)
    (given : record.get? column.name = some (.text content)) :
    cellCause? record column = none ↔ ∀ size, column.size = some size → content.length ≤ size := by
  have judged : cellCause? record column = excess? column (.text content) := by
    rw [cellCause?_of_present written given Value.noConfusion, valueCause?,
      encode_text (.inr varchar)]
  rw [judged, Option.eq_none_iff_forall_ne_some]
  constructor
  · intro short size declared
    by_contra exceeds
    exact short _ (excess?_eq_some_iff.mpr
      ⟨content, size, rfl, .inr varchar, declared, Nat.not_le.mp exceeds, rfl⟩)
  · intro short cause found
    obtain ⟨other, size, same, -, declared, exceeds, -⟩ := excess?_eq_some_iff.mp found
    cases same
    exact Nat.not_le_of_lt exceeds (short size declared)

/-- **The validator enforces the sizes that are declared.** The text of a definition in the
generic dialect gives a `varchar` column of an accepted table a number of characters, at most the
largest size. A text in a cell of a column with a declared size passes the validator exactly when
it is within that number, so every text in accepted records is. If no size is declared, every text
passes. -/
theorem enforces_declared_limit {name : String} {specs : List ColumnSpec}
    (defined : Table.define name specs = .ok table) (member : column ∈ table.columns)
    (varchar : column.type = .varchar) :
    column.limit ≤ ColumnType.maxVarcharSize ∧
      (∀ create compiled, create.table = table →
        (Statement.createTable create).compile .generic = .ok compiled →
          ∃ read, TableText.ofText? compiled.text = some read ∧
            ∀ index : Nat, table.columns[index]? = some column →
              ∃ text, read.columns[index]? = some text ∧ text.name = column.sqlName ∧
                TableText.limitOf? text.type = some column.limit) ∧
      (∀ record content, record.get? column.name = some (.text content) →
        (cellCause? record column = none ↔
          (column.size ≠ none → content.length ≤ column.limit))) ∧
      (column.size ≠ none → ∀ records, check table records = .ok () →
        ∀ record ∈ records, ∀ content, record.get? column.name = some (.text content) →
          content.length ≤ column.limit) := by
  obtain ⟨written, bounded⟩ := Column.written_of_define defined member varchar
  have judged (record : Record) (content : String)
      (given : record.get? column.name = some (.text content)) :
      cellCause? record column = none ↔ (column.size ≠ none → content.length ≤ column.limit) := by
    rw [cellCause?_varchar_eq_none_iff varchar written given, Column.limit]
    cases column.size with
    | none => simp
    | some size => simp
  refine ⟨bounded, ?_, judged, ?_⟩
  · intro create compiled same rendered
    subst same
    refine ⟨_, CreateTable.ofText?_text (.inr rfl) rendered, ?_⟩
    intro index found
    refine ⟨column.text .generic, by simp [found], rfl, ?_⟩
    rw [Column.text, Column.generic_typeName varchar, TableText.limitOf?_varchar]
  · intro declared records passed record given content cell
    have accepts := check_eq_ok_iff.mp passed record given
    exact (judged record content cell).mp (accepts.cells column member) declared

/-- The path of a backup. -/
def pathColumn : Column := ⟨{ name := "path", type := .varchar, size := some 8 }, "backups"⟩

/-- A backup whose path has eight characters, but more bytes. -/
def accentedPath : Record := .ofList [("path", .text "/größe/ä"), ("sizeBytes", .integer 1)]

/-- Paths have at most eight characters, and one of them is accepted. A longer one is not. -/
theorem enforces_declared_limit_backups : ∃ table,
    Table.define "backups" backupSpecs = .ok table ∧ check table [accentedPath] = .ok () ∧
      (∀ content, accentedPath.get? "path" = some (.text content) → content.length ≤ 8) ∧
      ∀ record : Record, record.get? "path" = some (.text "/a/very/long/path") →
        cellCause? record pathColumn ≠ none := by
  have defined : Table.define "backups" backupSpecs =
      .ok ⟨"backups", backupSpecs.map fun spec => ⟨spec, "backups"⟩⟩ := rfl
  have member : pathColumn ∈ backupSpecs.map fun spec => ⟨spec, "backups"⟩ := by
    simp [backupSpecs, pathColumn]
  obtain ⟨-, -, judged, enforced⟩ := enforces_declared_limit defined member rfl
  have declared : pathColumn.size ≠ none := Option.some_ne_none 8
  refine ⟨_, defined, rfl, ?_, ?_⟩
  · exact enforced declared [accentedPath] rfl _ (List.mem_singleton_self _)
  · intro record given accepted
    exact absurd ((judged record _ given).mp accepted declared) (by decide)

/-- People with a name of any size. -/
def people : Table := ⟨"people", [⟨{ name := "name", type := .varchar }, "people"⟩]⟩

theorem check_people (name : String) : check people [.ofList [("name", .text name)]] = .ok () := rfl

/-- A name of 256 characters passes the validator although its column is `VARCHAR(255)` in the
definition. -/
theorem undeclared_limit_not_enforced :
    Table.define "people" [{ name := "name", type := .varchar }] = .ok people ∧
      (∃ compiled, (Statement.createTable ⟨people, false, false⟩).compile .generic = .ok compiled ∧
        compiled.text = "CREATE TABLE \"people\" (\"name\" VARCHAR(255) NOT NULL);") ∧
      ∃ name : String, check people [.ofList [("name", .text name)]] = .ok () ∧
        255 < name.length := by
  refine ⟨rfl, ⟨_, rfl, ?_⟩, String.ofList (List.replicate 256 'a'), check_people _, ?_⟩
  · decide
  · rw [String.length_ofList, List.length_replicate]
    decide

end Validation

end TypedSql
