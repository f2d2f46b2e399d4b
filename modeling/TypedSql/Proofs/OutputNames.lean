import TypedSql.Proofs.Decoding
import TypedSql.Proofs.Definition
import TypedSql.Proofs.Lookup
import TypedSql.Proofs.Scope

/-!
# Outputs of one name

A returned row holds a value for every output of a query, and its record a value for every name.
The values of a row are added to the record one after another, so a name keeps what the last
output of that name has added (`get?_foldl_addCell`). An output is lost exactly if a later one has
its name.

A select starts with the columns of its table, whose names differ. Only a new projection changes
the outputs, and nothing keeps it from taking columns of one name from two tables.
`Select.decoded_keeps_last` states what a record keeps of a row, for every select that is built by
calls.
-/

set_option autoImplicit false

namespace TypedSql

open Outcome

/-! ## The cells of a row -/

/-- The value under a name is the one that the last cell of that name has added. -/
theorem get?_foldl_addCell (record : Record) (cells : List (Output × Stored)) (name : String) :
    (cells.foldl addCell record).get? name =
      ((cells.reverse.find? (·.1.name = name)).map fun cell =>
        (Codec.decode cell.1.column.type cell.2).toOption.getD .null).or (record.get? name) := by
  induction cells generalizing record with
  | nil => rfl
  | cons cell rest ih =>
    rw [List.foldl_cons, ih, addCell, Dictionary.get?_insert, List.reverse_cons,
      List.find?_append]
    by_cases same : name = cell.1.name
    · subst same
      cases rest.reverse.find? (·.1.name = cell.1.name) <;> simp
    · have other : [cell].find? (·.1.name = name) = none := by simp [Ne.symm same]
      rw [if_neg same, other, Option.or_none]

/-- An output has no later one of its name. -/
def IsLastOfName (projection : List Output) (index : Nat) : Prop :=
  ∀ output later other, projection[index]? = some output → index < later →
    projection[later]? = some other → other.name ≠ output.name

/-- A record holds the value of an output under its name. -/
def HoldsOutput (record : Record) (projection : List Output) (row : List Stored) (index : Nat) :
    Prop :=
  ∃ output stored value, projection[index]? = some output ∧ row[index]? = some stored ∧
    Codec.decode output.column.type stored = .ok value ∧ record.get? output.name = some value

section

variable {projection : List Output} {row : List Stored} {record : Record}

/-- A row that is decoded has no value that its codec refuses. -/
theorem decodeRow_eq_ok (decoded : decodeRow projection row = .ok record) :
    record = (projection.zip row).foldl addCell .empty ∧
      ∀ cell ∈ projection.zip row, ∃ value, Codec.decode cell.1.column.type cell.2 = .ok value := by
  rw [decodeRow_eq_answer, answer_eq_ok_iff, List.flatMap_eq_nil_iff] at decoded
  obtain ⟨readable, rfl⟩ := decoded
  refine ⟨rfl, fun cell member => ?_⟩
  have none := readable cell member
  rw [misreadings] at none
  cases read : Codec.decode cell.1.column.type cell.2 with
  | ok value => exact ⟨value, rfl⟩
  | error cause => simp [read] at none

/-- **The last output of a name is held under it.** -/
theorem holdsOutput_of_isLastOfName (complete : row.length = projection.length)
    (decoded : decodeRow projection row = .ok record) {index : Nat}
    (inside : index < projection.length) (last : IsLastOfName projection index) :
    HoldsOutput record projection row index := by
  obtain ⟨rfl, readable⟩ := decodeRow_eq_ok decoded
  have within : index < (projection.zip row).length := by
    rw [List.length_zip, complete, Nat.min_self]
    exact inside
  have cell : (projection.zip row)[index] = (projection[index], row[index]) := List.getElem_zip
  have parts : projection.zip row = (projection.zip row).take index ++
      (projection[index], row[index]) :: (projection.zip row).drop (index + 1) := by
    rw [← cell, ← List.drop_eq_getElem_cons within, List.take_append_drop]
  -- Behind the index there is no cell of the name, so the search from the end finds this one.
  have behind : ((projection.zip row).drop (index + 1)).reverse.find?
      (·.1.name = projection[index].name) = none := by
    rw [List.find?_eq_none]
    intro other member
    obtain ⟨offset, found⟩ := List.getElem?_of_mem (List.mem_reverse.mp member)
    rw [List.getElem?_drop, List.getElem?_zip_eq_some] at found
    have different := last _ _ _ (List.getElem?_eq_getElem inside) (by omega) found.1
    simpa using different
  obtain ⟨value, read⟩ := readable _ (List.mem_iff_getElem.mpr ⟨index, within, cell⟩)
  refine ⟨projection[index], row[index], value, List.getElem?_eq_getElem inside,
    List.getElem?_eq_getElem (complete ▸ inside), read, ?_⟩
  rw [get?_foldl_addCell, parts, List.reverse_append, List.reverse_cons, List.find?_append,
    List.find?_append, behind]
  simp [read, Except.toOption]

/-- The names in a record are those of the outputs. -/
theorem exists_get?_iff (complete : row.length = projection.length)
    (decoded : decodeRow projection row = .ok record) (name : String) :
    (∃ value, record.get? name = some value) ↔ ∃ output ∈ projection, output.name = name := by
  obtain ⟨rfl, -⟩ := decodeRow_eq_ok decoded
  have outputs : (projection.zip row).map (·.1) = projection :=
    List.map_fst_zip (Nat.le_of_eq complete.symm)
  rw [← Option.isSome_iff_exists, get?_foldl_addCell, Dictionary.get?_empty, Option.or_none,
    Option.isSome_map, List.find?_isSome]
  conv_rhs => rw [← outputs]
  simp

/-- Outputs of different names are all the last of theirs. -/
theorem isLastOfName_of_nodup (distinct : (projection.map (·.name)).Nodup) (index : Nat) :
    IsLastOfName projection index := by
  intro output later other found before foundLater same
  have names : (projection.map (·.name))[index]? = (projection.map (·.name))[later]? := by
    rw [List.getElem?_map, List.getElem?_map, found, foundLater, Option.map_some, Option.map_some,
      same]
  have inside : index < (projection.map (·.name)).length := by
    rw [List.length_map]
    exact (List.getElem?_eq_some_iff.mp found).1
  exact Nat.ne_of_lt before ((List.getElem?_inj inside distinct).mp names)

end

/-! ## The outputs of a built select -/

namespace Select

/-- Whether a call leaves the outputs of a select as they are. -/
def Step.keepsProjection : Step → Bool
  | project _ => false
  | projectColumns _ => false
  | _ => true

theorem Step.projection_next {select : Select} {step : Step} (keeps : step.keepsProjection = true) :
    (step.next select).projection = select.projection := by
  rw [next]
  cases answered : step.apply select with
  | error => rfl
  | ok after =>
    cases step with
    | project outputs => cases keeps
    | projectColumns columns => cases keeps
    | join kind table on =>
      obtain ⟨-, -, rfl⟩ := Scoped.join_eq_ok.mp answered
      rfl
    | restrict condition =>
      obtain ⟨-, -, rfl⟩ := bind_pure_eq_ok.mp answered
      rfl
    | orderBy column direction =>
      obtain ⟨-, -, rfl⟩ := bind_pure_eq_ok.mp answered
      rfl
    | withLimit limit =>
      cases answered
      rfl
    | withOffset offset =>
      cases answered
      rfl

/-- Calls that bring no new projection leave the outputs of a select as they are. -/
theorem projection_run {steps : List Step} (keeps : ∀ step ∈ steps, step.keepsProjection = true)
    (select : Select) : (select.run steps).projection = select.projection := by
  induction steps generalizing select with
  | nil => rfl
  | cons step rest ih =>
    obtain ⟨first, others⟩ := List.forall_mem_cons.mp keeps
    rw [run, List.foldl_cons, ← run, ih others, Step.projection_next first]

/-- The outputs of a select of a table have different names before they are projected anew. -/
theorem nodup_names_run {name aliasName : String} {specs : List ColumnSpec} {table : Table}
    (defined : Table.define name specs = .ok table) {steps : List Step}
    (keeps : ∀ step ∈ steps, step.keepsProjection = true) :
    (((ofTable (table.as aliasName)).run steps).projection.map (·.name)).Nodup := by
  rw [projection_run keeps]
  have names : (ofTable (table.as aliasName)).projection.map (·.name) =
      table.columns.map (·.name) := by
    simp [ofTable, Table.as, Output.ofColumn, Column.withOwner]
  rw [names]
  exact Table.nodup_names_of_define defined

/-- **A record keeps of every name the value of the last output of that name.** For a select that
is built by any calls and a row with a value for every output, a record that the row is decoded to
has the names of the outputs and no others, and under each of them what the codec reads of the
value of the last output of that name. Nothing is lost if no two outputs have one name. So it is
as long as the select of a defined table has the outputs that it started with. -/
theorem decoded_keeps_last (table : AliasedTable) (steps : List Step) {row : List Stored}
    {record : Record}
    (complete : row.length = ((ofTable table).run steps).projection.length)
    (decoded : decodeRow ((ofTable table).run steps).projection row = .ok record) :
    let projection := ((ofTable table).run steps).projection
    (∀ index < projection.length, IsLastOfName projection index →
        HoldsOutput record projection row index) ∧
      (∀ name, (∃ value, record.get? name = some value) ↔
        ∃ output ∈ projection, output.name = name) ∧
      ((projection.map (·.name)).Nodup →
        ∀ index < projection.length, HoldsOutput record projection row index) ∧
      ∀ name specs declared aliasName, Table.define name specs = .ok declared →
        table = declared.as aliasName → (∀ step ∈ steps, step.keepsProjection = true) →
          ∀ index < projection.length, HoldsOutput record projection row index := by
  have kept (index : Nat) := @holdsOutput_of_isLastOfName _ _ _ complete decoded index
  have distinct (names : (((ofTable table).run steps).projection.map (·.name)).Nodup)
      (index : Nat) (inside : index < ((ofTable table).run steps).projection.length) :=
    kept index inside (isLastOfName_of_nodup names index)
  refine ⟨kept, exists_get?_iff complete decoded, distinct, ?_⟩
  rintro name specs declared aliasName defined rfl keeps
  exact distinct (nodup_names_run defined keeps)

/-- A column of nodes under an alias. -/
def nodeColumn (aliasName name : String) : Column :=
  { name := name, type := .integer, owner := aliasName }

/-- Nodes under an alias, with the nodes above them. -/
def nodes (aliasName : String) : AliasedTable :=
  ⟨"nodes", aliasName, [nodeColumn aliasName "id", nodeColumn aliasName "parent"]⟩

/-- The calls that join nodes with the nodes above them and take the numbers of both. -/
def pairSteps : List Step :=
  [.join .inner (nodes "b")
      (.binary (.column (nodeColumn "b" "id")) .eq (.column (nodeColumn "a" "parent"))),
    .projectColumns [nodeColumn "a" "id", nodeColumn "b" "id"]]

/-- The number of the node above is kept, which is the last output. -/
theorem decoded_keeps_last_pairSteps : ∃ record,
    decodeRow ((ofTable (nodes "a")).run pairSteps).projection [.int 2, .int 1] = .ok record ∧
      [Stored.int 2, Stored.int 1].length =
        ((ofTable (nodes "a")).run pairSteps).projection.length ∧
      HoldsOutput record ((ofTable (nodes "a")).run pairSteps).projection [.int 2, .int 1] 1 := by
  have complete : [Stored.int 2, Stored.int 1].length =
      ((ofTable (nodes "a")).run pairSteps).projection.length := rfl
  have decoded : decodeRow ((ofTable (nodes "a")).run pairSteps).projection [.int 2, .int 1] =
      .ok _ := rfl
  have last : IsLastOfName ((ofTable (nodes "a")).run pairSteps).projection 1 := by
    intro output later other found behind foundLater
    have inside := (List.getElem?_eq_some_iff.mp foundLater).1
    rw [← complete] at inside
    exact absurd inside (Nat.not_lt.mpr behind)
  exact ⟨_, decoded, complete,
    (decoded_keeps_last (nodes "a") pairSteps complete decoded).1 1 (by decide) last⟩

/-- Every one of these calls answers, and the number of the first node is not in the record. -/
theorem output_lost_of_pairSteps : ∃ select record,
    pairSteps.foldlM Step.apply (ofTable (nodes "a")) = .ok select ∧
      select.projection = [.ofColumn (nodeColumn "a" "id"), .ofColumn (nodeColumn "b" "id")] ∧
      decodeRow select.projection [.int 2, .int 1] = .ok record ∧
      record.entries = [("id", .integer 1)] ∧
      ¬ HoldsOutput record select.projection [.int 2, .int 1] 0 := by
  refine ⟨_, _, rfl, rfl, rfl, rfl, ?_⟩
  rintro ⟨output, stored, value, outputAt, storedAt, read, held⟩
  cases outputAt
  cases storedAt
  cases read
  exact absurd held (by decide)

end Select

end TypedSql
