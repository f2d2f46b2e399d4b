import TypedSql.Proofs.Mapping
import TypedSql.Statement.Delete

/-!
# Where aliases are written

A query writes an alias behind `AS` after the source and after every joined table, and a
deletion behind `AS` after its table. Both write the alias of a column in front of its name.
Nothing else that they write comes from an alias: a template has a slot for each of these places
and is fixed otherwise, in the names of tables, columns and outputs, in words and in values.

A statement is its template with the aliases filled in, and the same statement with other
aliases is the same template filled in differently (`Select.Renames.written`,
`Delete.written_renamed`).
-/

set_option autoImplicit false

namespace TypedSql

/-! ## Slots -/

/-- A place in a statement, with fixed contents or for an alias. -/
inductive Slot where
  | fixed (fragment : Fragment)
  | ofAlias (name : String)
deriving DecidableEq, Repr

namespace Slot

/-- A word. -/
def word (text : String) : Slot := fixed (.word text)

/-- The name of a table, a column or an output. -/
def identifier (name : String) : Slot := fixed (.identifier name)

/-- Slots separated by a word. -/
def separated (separator : String) (parts : List (List Slot)) : List Slot :=
  List.intercalate [word separator] parts

/-- What is written in a slot, an alias under its new name. -/
def fill (rename : String → String) : Slot → Fragment
  | fixed fragment => fragment
  | ofAlias name => .identifier (rename name)

variable (rename : String → String)

@[simp] theorem fill_word (text : String) : (word text).fill rename = .word text := rfl

@[simp] theorem fill_identifier (name : String) :
    (identifier name).fill rename = .identifier name := rfl

@[simp] theorem fill_fixed (fragment : Fragment) : (fixed fragment).fill rename = fragment := rfl

@[simp] theorem fill_ofAlias (name : String) :
    (ofAlias name).fill rename = .identifier (rename name) := rfl

@[simp] theorem map_fill_separated (separator : String) (parts : List (List Slot)) :
    (separated separator parts).map (fill rename) =
      Fragment.separated separator (parts.map (·.map (fill rename))) := by
  induction parts with
  | nil => rfl
  | cons first rest ih =>
      rw [separated, Fragment.separated] at ih ⊢
      cases rest with
      | nil => simp
      | cons second others => simpa [List.intercalate_cons_cons] using ih

end Slot

/-! ## Other aliases -/

section

variable (rename : String → String)

/-- The same column under the new name of its owner. -/
def Column.renamed (column : Column) : Column := column.withOwner (rename column.owner)

/-- The same expression under new aliases. -/
abbrev Expr.renamed (e : Expr) : Expr := e.map (·.renamed rename) id

/-- The same output, whose own name stays as it is. -/
def Output.renamed (output : Output) : Output :=
  { output with column := output.column.renamed rename }

/-- The same join under new aliases. -/
def Join.renamed (join : Join) : Join :=
  { join with aliasName := rename join.aliasName, on := join.on.renamed rename }

/-- The same order under new aliases. -/
def OrderTerm.renamed (term : OrderTerm) : OrderTerm :=
  { term with column := term.column.renamed rename }

/-- The same table under the new name of its alias. -/
def AliasedTable.renamed (table : AliasedTable) : AliasedTable :=
  { table with
    aliasName := rename table.aliasName
    columns := table.columns.map (·.renamed rename) }

/-- The same deletion under new aliases. -/
def Delete.renamed (delete : Delete) : Delete :=
  { delete with
    aliasName := rename delete.aliasName
    condition := delete.condition.map (·.renamed rename) }

/-- A table under an alias becomes the table under the new name of the alias. -/
theorem Table.renamed_as (table : Table) (aliasName : String) :
    (table.as aliasName).renamed rename = table.as (rename aliasName) := by
  simp [AliasedTable.renamed, Table.as, Column.renamed, Column.withOwner]

theorem Column.owners_renamed (columns : List Column) :
    (columns.map (·.renamed rename)).map (·.owner) = (columns.map (·.owner)).map rename := by
  rw [List.map_map, List.map_map]
  rfl

theorem Expr.columns_renamed (e : Expr) :
    (e.renamed rename).columns = e.columns.map (·.renamed rename) :=
  columns_map e

theorem Expr.faults_renamed (e : Expr) : (e.renamed rename).faults = e.faults := faults_map e

theorem Expr.conjoin_renamed (existing : Option Expr) (condition : Expr) :
    (conjoin existing condition).renamed rename =
      conjoin (existing.map (·.renamed rename)) (condition.renamed rename) := by
  cases existing with
  | none => rfl
  | some existing =>
      cases existing with
      | junction kind members =>
          cases kind with
          | and => simp [conjoin, renamed, map, mapAll_eq_map]
          | or => rfl
      | _ => rfl

end

/-- A dictionary that answers under the new name of every key what another one answers under
the key. -/
def Dictionary.Rekeyed {α : Type} (rename : String → String) (dictionary other : Dictionary α) :
    Prop :=
  ∀ key, other.get? (rename key) = dictionary.get? key

/-! Under their own names, all stay as they are. -/

theorem Expr.renamed_id (e : Expr) : e.renamed id = e := map_id e

theorem Join.renamed_id (join : Join) : join.renamed id = join := by
  rw [renamed, Expr.renamed_id]
  rfl

/-! ## Templates -/

open Slot

/-- The template of a column. -/
def Column.template (column : Column) : List Slot :=
  [ofAlias column.owner, word ".", identifier column.sqlName]

namespace Expr

mutual

/-- The template of an expression. -/
def template : Expr → List Slot
  | column reference => reference.template
  | literal value => [fixed value.written]
  | binary left operator right =>
      if operator.isMembership then
        [word "("] ++ left.template ++ [word (operator.infixed ++ "(")] ++ right.template ++
          [word "))"]
      else
        [word "("] ++ left.template ++ [word operator.infixed] ++ right.template ++ [word ")"]
  | ofList left operator values =>
      [word "("] ++ left.template ++ [word (operator.infixed ++ "(")] ++
        separated "," (values.map fun value => [fixed value.written]) ++ [word "))"]
  | ofTruth left operator keyword =>
      [word "("] ++ left.template ++ [word (operator.infixed ++ keyword.symbol), word ")"]
  | junction kind members =>
      if members.isEmpty then [word kind.neutral.symbol]
      else
        [word "("] ++ separated (" " ++ kind.symbol ++ " ") (templateOfAll members) ++ [word ")"]
  | not inner => [word "NOT ("] ++ inner.template ++ [word ")"]

/-- The templates of expressions. -/
def templateOfAll : List Expr → List (List Slot)
  | [] => []
  | first :: rest => first.template :: templateOfAll rest

end

mutual

/-- **An expression under new aliases is its template with these filled in.** -/
theorem written_renamed (rename : String → String) : ∀ e : Expr,
    (e.renamed rename).written = e.template.map (fill rename)
  | column _ => rfl
  | literal _ => rfl
  | binary left operator right => by
      rw [renamed, map, written, template, writtenBinary, written_renamed rename left,
        written_renamed rename right]
      split <;> simp
  | ofList left operator values => by
      rw [renamed, map, written, template, written_renamed rename left]
      simp [Function.comp_def]
  | ofTruth left operator keyword => by
      rw [renamed, map, written, template, written_renamed rename left]
      simp
  | junction kind [] => rfl
  | junction kind (first :: rest) => by
      have members := writtenOfAll_renamed rename (first :: rest)
      simp only [mapAll] at members
      simp [map, mapAll, written, template, members]
  | not inner => by
      rw [renamed, map, written, template, written_renamed rename inner]
      simp

theorem writtenOfAll_renamed (rename : String → String) : ∀ members : List Expr,
    writtenOfAll (mapAll (·.renamed rename) id members) =
      (templateOfAll members).map (·.map (fill rename))
  | [] => rfl
  | first :: rest => by
      rw [mapAll, writtenOfAll, templateOfAll, written_renamed rename first,
        writtenOfAll_renamed rename rest, List.map_cons]

end

end Expr

/-- The template of a joined table with its condition. -/
def Join.template (join : Join) : List Slot :=
  [word (" " ++ join.kind.symbol ++ " "), identifier join.declaredName, word " AS ",
    ofAlias join.aliasName, word " ON "] ++ join.on.template

theorem Join.written_renamed (rename : String → String) (join : Join) :
    (join.renamed rename).written = join.template.map (fill rename) := by
  simp [written, renamed, template, Expr.written_renamed]

/-- The template of the condition of a statement. -/
def templateWhere : Option Expr → List Slot
  | none => []
  | some condition => word " WHERE " :: condition.template

theorem writtenWhere_renamed (rename : String → String) (condition : Option Expr) :
    writtenWhere (condition.map (·.renamed rename)) =
      (templateWhere condition).map (fill rename) := by
  cases condition with
  | none => rfl
  | some condition => simp [writtenWhere, templateWhere, Expr.written_renamed]

/-! ## Queries -/

namespace Select

/-- The template of a projection. -/
def projectionTemplate (outputs : List Output) : List Slot :=
  separated ", " (outputs.map fun output =>
    output.column.template ++ [word " AS ", identifier (snakeCase output.name)])

/-- The template of an order. -/
def orderTemplate (terms : List OrderTerm) : List Slot :=
  if terms.isEmpty then []
  else word " ORDER BY " :: separated ", " (terms.map fun term =>
    term.column.template ++ [word (" " ++ term.direction.symbol)])

/-- The template of a query. -/
def template (select : Select) : List Slot :=
  [word "SELECT "] ++ projectionTemplate select.projection ++
    [word " FROM ", identifier select.sourceTable, word " AS ", ofAlias select.source] ++
    select.joins.flatMap Join.template ++ templateWhere select.condition ++
    orderTemplate select.order ++ (writtenBound " LIMIT " select.limit).map fixed ++
    (writtenBound " OFFSET " select.offset).map fixed ++ [word ";"]

/-- A query under other aliases. -/
structure Renames (rename : String → String) (select other : Select) : Prop where
  scope : select.scope.Rekeyed rename other.scope
  projection : other.projection = select.projection.map (·.renamed rename)
  source : other.source = rename select.source
  joins : other.joins = select.joins.map (·.renamed rename)
  condition : other.condition = select.condition.map (·.renamed rename)
  order : other.order = select.order.map (·.renamed rename)
  limit : other.limit = select.limit
  offset : other.offset = select.offset

/-- Every query is itself under its own aliases. -/
theorem Renames.refl (select : Select) : Renames id select select where
  scope _ := rfl
  projection := (List.map_id _).symm
  source := rfl
  joins := by simp only [Join.renamed_id, List.map_id']
  condition := by simp only [Expr.renamed_id, Option.map_id']
  order := (List.map_id _).symm
  limit := rfl
  offset := rfl

variable {rename : String → String}

theorem projectionFragments_renamed (outputs : List Output) :
    projectionFragments (outputs.map (·.renamed rename)) =
      (projectionTemplate outputs).map (fill rename) := by
  simp [projectionFragments, projectionTemplate, Output.renamed, Column.renamed,
    Column.withOwner, Column.fragments, Column.template, Function.comp_def]

theorem orderFragments_renamed (terms : List OrderTerm) :
    orderFragments (terms.map (·.renamed rename)) = (orderTemplate terms).map (fill rename) := by
  rw [orderFragments, orderTemplate, List.isEmpty_map]
  split
  · rfl
  · simp [OrderTerm.renamed, Column.renamed, Column.withOwner, Column.fragments,
      Column.template, Function.comp_def]

theorem writtenBound_fill (keyword : String) (rows : Option Int64) :
    ((writtenBound keyword rows).map fixed).map (fill rename) =
      writtenBound keyword rows := by
  rw [List.map_map]
  exact List.map_id _

/-- **A query under other aliases is the template with these filled in**, if it knows its
source. -/
theorem Renames.written {select other : Select} (renames : Renames rename select other)
    (known : select.source ∈ select.scope.keys) :
    other.written = select.template.map (fill rename) := by
  have table : other.sourceTable = select.sourceTable := by
    rw [← Dictionary.contains_iff_mem_keys, Dictionary.contains_eq_isSome] at known
    obtain ⟨declaredName, found⟩ := Option.isSome_iff_exists.mp known
    rw [sourceTable, sourceTable, renames.source, renames.scope, found]
    rfl
  have joins : (select.joins.map (·.renamed rename)).flatMap Join.written =
      (select.joins.flatMap Join.template).map (fill rename) := by
    simp [List.flatMap_map, List.map_flatMap, Join.written_renamed]
  simp only [Select.written, template, List.map_append, table, renames.source, renames.projection,
    renames.joins, renames.condition, renames.order, renames.limit, renames.offset,
    projectionFragments_renamed, joins, writtenWhere_renamed, orderFragments_renamed,
    writtenBound_fill]
  rfl

end Select

/-! ## Deletions -/

namespace Delete

/-- The template of a deletion. -/
def template (delete : Delete) : List Slot :=
  [word "DELETE FROM ", identifier delete.declaredName, word " AS ",
    ofAlias delete.aliasName] ++ templateWhere delete.condition ++ [word ";"]

/-- **A deletion under other aliases is the template with these filled in.** -/
theorem written_renamed (rename : String → String) (delete : Delete) :
    (delete.renamed rename).written = delete.template.map (fill rename) := by
  simp [written, renamed, template, writtenWhere_renamed]

theorem renamed_id (delete : Delete) : delete.renamed id = delete := by
  simp [renamed, Expr.renamed_id]

end Delete

end TypedSql
