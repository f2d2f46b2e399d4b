import TypedSql.CommandLine.Report
import TypedSql.Proofs.Outcome
import TypedSql.Proofs.ReadableJson

/-!
# Schema files that are written and read again

A schema file may be written in many ways: fields may be left out, stand in any order, or be listed
without their names, and a null says that there is no default and no size. What is read keeps none
of this. Its declarations are stable (`ColumnDeclaration.Stable`): a default is the value of a
document and not null, and a size is a number of 32 bits.

Of a stable declaration every field is written, but a default or a size that is not there. So each
field is read as it was, and the whole schema file as well (`SchemaFile.survives_serialization`).
-/

set_option autoImplicit false

namespace TypedSql

open Outcome

/-- Where a step undoes what has been made of each member, it undoes it for the list. -/
theorem mapM_map_eq_some {α β γ : Type} {step : β → Option γ} {write : α → β} {f : α → γ}
    {members : List α} (each : ∀ member ∈ members, step (write member) = some (f member)) :
    (members.map write).mapM step = some (members.map f) := by
  rw [mapM_eq_some_iff, List.map_map, List.map_map]
  exact List.map_congr_left each

/-- Members of an object as fields of a document. -/
def Json.fieldTrees (members : List (String × Json)) : List (String × Json.Tree) :=
  members.map fun member => (member.1, member.2.tree)

namespace Json.Tree

/-- What is read of a list is read of its items. -/
theorem exists_of_mem_list? {α : Type} {read? : Tree → Option α} {tree : Tree} {results : List α}
    (read : list? read? tree = some results) :
    ∀ result ∈ results, ∃ item : Tree, read? item = some result := by
  intro result among
  cases tree with
  | array items =>
      have found : some result ∈ items.map read? :=
        mapM_eq_some_iff.mp read ▸ List.mem_map_of_mem among
      obtain ⟨item, -, answered⟩ := List.mem_map.mp found
      exact ⟨item, answered⟩
  | _ => cases read

/-- A list of values is read item by item. -/
theorem list?_array {α : Type} {read? : Tree → Option α} {write : α → Json} {values : List α}
    (each : ∀ value ∈ values, read? (write value).tree = some value) :
    list? read? (Json.array (values.map write)).tree = some values := by
  rw [Json.tree, itemTrees_eq_map, list?, List.map_map]
  exact (mapM_map_eq_some (f := id) each).trans (by rw [List.map_id])

/-- The fields of an object are its members, if these are different fields of the list. -/
theorem fields?_object {names : List String} {members : List (String × Json)}
    (distinct : (members.map (·.1)).Nodup) (known : ∀ member ∈ members, member.1 ∈ names) :
    (Json.object members).tree.fields? names = some (fieldTrees members) := by
  have named : (members.map fun member => (some member.1, member.2.tree)).mapM
      (fun entry : Option String × Tree => entry.1.map (·, entry.2)) =
        some (fieldTrees members) := mapM_map_eq_some fun _ _ => rfl
  have all : (fieldTrees members).filter (·.1 ∈ names) = fieldTrees members := by
    rw [List.filter_eq_self]
    intro entry inside
    obtain ⟨member, given, rfl⟩ := List.mem_map.mp inside
    exact decide_eq_true (known member given)
  have keys : ((fieldTrees members).map (·.1)).Nodup := by
    rwa [fieldTrees, List.map_map]
  rw [Json.tree, memberTrees_eq_map, fields?, Option.bind_eq_bind, named, Option.bind_some]
  simp only [all, if_pos keys]

theorem nullable?_eq_some_some {α : Type} {read? : Tree → Option α} {tree : Tree} {value : α} :
    nullable? read? tree = some (some value) ↔ tree ≠ .null ∧ read? tree = some value := by
  cases tree <;> simp [nullable?]

end Json.Tree

open Json.Tree

namespace ColumnDeclaration

/-- A declaration of a column as it can be read: its default is the value of a document and not
null, and its size is a number of 32 bits. -/
structure Stable (column : ColumnDeclaration) : Prop where
  default : ∀ json, column.default = some json → json.Readable maxDefaultDepth ∧ json ≠ .null
  size : ∀ size, column.size = some size → size < UInt32.size

variable {column : ColumnDeclaration} {tree : Json.Tree}

theorem default?_eq_some_iff {json : Json} : default? tree = some json ↔
    tree.depth ≤ maxDefaultDepth ∧ tree.value? = some json := by
  rw [default?]
  split <;> simp [*]

theorem ofFileName?_fileName (type : ColumnType) :
    ColumnType.ofFileName? type.fileName = some type := by
  cases type <;> rfl

theorem optional?_eq_some_some {α : Type} {given : List (String × Json.Tree)} {name : String}
    {read? : Json.Tree → Option α} {value : α}
    (read : optional? given name none (nullable? read?) = some (some value)) :
    ∃ tree, tree ≠ .null ∧ read? tree = some value := by
  rw [optional?] at read
  split at read
  · cases read
  · exact ⟨_, nullable?_eq_some_some.mp read⟩

theorem lt_of_natural32? {n : Nat} (read : natural32? tree = some n) : n < UInt32.size := by
  rw [natural32?.eq_def] at read
  split at read
  · split at read
    · obtain rfl := Option.some.inj read
      omega
    · cases read
  · cases read

theorem stable_of_ofTree? (read : ofTree? tree = some column) : column.Stable := by
  simp only [ofTree?, Option.bind_eq_bind, Option.bind_eq_some_iff, Option.pure_def,
    Option.some.injEq] at read
  obtain ⟨given, -, name, -, type, -, nullable, -, primaryKey, -, autoincrement, -, unique, -,
    default, defaultRead, size, sizeRead, rfl⟩ := read
  constructor
  case default =>
    rintro json rfl
    obtain ⟨tree, notNull, read⟩ := optional?_eq_some_some defaultRead
    obtain ⟨shallow, valued⟩ := default?_eq_some_iff.mp read
    refine ⟨tree.readable_of_value? shallow valued, ?_⟩
    rintro rfl
    exact notNull (value?_eq_null_iff.mp valued)
  case size =>
    rintro size rfl
    obtain ⟨tree, -, read⟩ := optional?_eq_some_some sizeRead
    exact lt_of_natural32? read

/-- The fields of a declaration as they are written. -/
def written (column : ColumnDeclaration) : List (String × Json) :=
  [("name", .string column.name), ("type", .string column.type.fileName),
    ("nullable", .bool column.nullable), ("primaryKey", .bool column.primaryKey),
    ("autoincrement", .bool column.autoincrement), ("unique", .bool column.unique)] ++
    (column.default.map (("default", ·))).toList ++
    (column.size.map fun size => ("size", Json.number (.integer size))).toList

/-- The written fields are those of a column in their order, possibly without the last ones. -/
theorem sublist_written (column : ColumnDeclaration) :
    (column.written.map (·.1)).Sublist fieldNames := by
  have common : ["name", "type", "nullable", "primaryKey", "autoincrement", "unique"].Sublist
      ["name", "type", "nullable", "primaryKey", "autoincrement", "unique"] := .refl _
  have default : ((column.default.map (("default", ·))).toList.map (·.1)).Sublist ["default"] := by
    cases column.default with
    | none => exact List.nil_sublist _
    | some json => exact .refl _
  have size : ((column.size.map fun size =>
      ("size", Json.number (.integer size))).toList.map (·.1)).Sublist ["size"] := by
    cases column.size with
    | none => exact List.nil_sublist _
    | some size => exact .refl _
  rw [written, List.map_append, List.map_append]
  exact (common.append default).append size

namespace Stable

variable (stable : column.Stable)
include stable

theorem optional?_default :
    optional? (Json.fieldTrees column.written) "default" none
      (nullable? default?) = some column.default := by
  have found : (Json.fieldTrees column.written).lookup "default" =
      column.default.map (·.tree) := by
    rw [written]
    cases column.default <;> cases column.size <;> rfl
  rw [optional?, found]
  cases default : column.default with
  | none => rfl
  | some json =>
      obtain ⟨readable, notNull⟩ := stable.default json default
      have tree : json.tree ≠ .null := by
        intro null
        have valued := readable.value?_tree
        rw [null] at valued
        exact notNull (Option.some.inj valued).symm
      exact nullable?_eq_some_some.mpr
        ⟨tree, default?_eq_some_iff.mpr ⟨readable.depth_tree, readable.value?_tree⟩⟩

theorem optional?_size :
    optional? (Json.fieldTrees column.written) "size" none
      (nullable? natural32?) = some column.size := by
  have found : (Json.fieldTrees column.written).lookup "size" =
      column.size.map fun size => .number (some (.integer size)) := by
    rw [written]
    cases column.default <;> cases column.size <;> rfl
  rw [optional?, found]
  cases size : column.size with
  | none => rfl
  | some n =>
      have bound := stable.size n size
      have read : natural32? (.number (some (.integer n))) = some n := by
        rw [natural32?, if_pos ⟨Int.natCast_nonneg n, Int.ofNat_lt.mpr bound⟩, Int.toNat_natCast]
      exact nullable?_eq_some_some.mpr ⟨by simp, read⟩

/-- A declaration that can be read is read from what is written of it. -/
theorem ofTree?_toJson : ofTree? column.toJson.tree = some column := by
  have fields : column.toJson.tree.fields? fieldNames =
      some (Json.fieldTrees column.written) := by
    refine fields?_object (column.sublist_written.nodup (by decide)) ?_
    intro member inside
    exact column.sublist_written.subset (List.mem_map_of_mem inside)
  have type : required? (Json.fieldTrees column.written) "type"
      ColumnType.ofTree? = some column.type := ofFileName?_fileName column.type
  -- The flags and the name are read back by computation. The other fields need an argument: the
  -- type for its seven names, the default and the size because they may be absent.
  rw [ofTree?, fields]
  simp only [Option.bind_eq_bind, Option.bind_some, type, stable.optional?_default,
    stable.optional?_size]
  rfl

end Stable

end ColumnDeclaration

namespace TableDeclaration

variable {table : TableDeclaration} {tree : Json.Tree}

theorem stable_of_ofTree? (read : ofTree? tree = some table) :
    ∀ column ∈ table.columns, column.Stable := by
  simp only [ofTree?, Option.bind_eq_bind, Option.bind_eq_some_iff, Option.pure_def,
    Option.some.injEq] at read
  obtain ⟨given, -, name, -, ifNotExists, -, unlogged, -, columns, columnsRead, rfl⟩ := read
  obtain ⟨list, -, listRead⟩ := Option.bind_eq_some_iff.mp columnsRead
  intro column member
  obtain ⟨item, itemRead⟩ := exists_of_mem_list? listRead column member
  exact ColumnDeclaration.stable_of_ofTree? itemRead

/-- The fields of a declaration as they are written. -/
def written (table : TableDeclaration) : List (String × Json) :=
  [("name", .string table.name), ("ifNotExists", .bool table.ifNotExists),
    ("unlogged", .bool table.unlogged), ("columns", .array (table.columns.map (·.toJson)))]

theorem ofTree?_toJson (stable : ∀ column ∈ table.columns, column.Stable) :
    ofTree? table.toJson.tree = some table := by
  have fields : table.toJson.tree.fields? fieldNames = some (Json.fieldTrees table.written) :=
    fields?_object (by simp) (by simp [fieldNames])
  have columns : list? ColumnDeclaration.ofTree?
      (Json.array (table.columns.map (·.toJson))).tree = some table.columns :=
    list?_array fun column member => (stable column member).ofTree?_toJson
  have read : required? (Json.fieldTrees table.written) "columns"
      (list? ColumnDeclaration.ofTree?) = some table.columns := columns
  rw [ofTree?, fields]
  simp only [Option.bind_eq_bind, Option.bind_some, read]
  rfl

end TableDeclaration

namespace SchemaFile

variable {file : SchemaFile} {tree : Json.Tree}

theorem stable_of_ofTree? (read : ofTree? tree = some file) :
    ∀ table ∈ file.tables, ∀ column ∈ table.columns, column.Stable := by
  simp only [ofTree?, Option.bind_eq_bind, Option.bind_eq_some_iff, Option.pure_def,
    Option.some.injEq] at read
  obtain ⟨given, -, tables, tablesRead, rfl⟩ := read
  obtain ⟨list, -, listRead⟩ := Option.bind_eq_some_iff.mp tablesRead
  intro table member
  obtain ⟨item, itemRead⟩ := exists_of_mem_list? listRead table member
  exact TableDeclaration.stable_of_ofTree? itemRead

theorem ofTree?_toJson (stable : ∀ table ∈ file.tables, ∀ column ∈ table.columns, column.Stable) :
    ofTree? file.toJson.tree = some file := by
  have fields : file.toJson.tree.fields? ["tables"] =
      some (Json.fieldTrees [("tables", .array (file.tables.map (·.toJson)))]) :=
    fields?_object (by simp) (by simp)
  have tables : required? (Json.fieldTrees [("tables", .array (file.tables.map (·.toJson)))])
      "tables" (list? TableDeclaration.ofTree?) = some file.tables :=
    list?_array fun table member => TableDeclaration.ofTree?_toJson (stable table member)
  rw [ofTree?, fields]
  simp only [Option.bind_eq_bind, Option.bind_some, tables]
  rfl

theorem parse_eq_ok {text : String} (parsed : Json.Tree.parse? text = some tree)
    (read : ofTree? tree = some file) : parse text = .ok file := by
  rw [parse, parsed, Option.bind_some, read]

/-- **A schema file survives being written.** Every document that is read as a schema file has
declarations that are read again from what is written of them: all names, types, flags, sizes and
defaults are the same, and no default is null, since a null in a document means that there is none.
So wherever texts are read as these two documents, both are the same schema file, and the command
line prints and applies them alike. -/
theorem survives_serialization (read : ofTree? tree = some file) :
    ofTree? file.toJson.tree = some file ∧
      (∀ table ∈ file.tables, ∀ column ∈ table.columns, column.default ≠ some .null) ∧
      ∀ text again, Json.Tree.parse? text = some tree →
        Json.Tree.parse? again = some file.toJson.tree →
          parse text = .ok file ∧ parse again = .ok file ∧
            (∀ path dialect, CommandLine.ddl path (.ok again) dialect =
              CommandLine.ddl path (.ok text) dialect) ∧
            ∀ verbose path url database, CommandLine.apply verbose path (.ok again) url database =
              CommandLine.apply verbose path (.ok text) url database := by
  have stable := stable_of_ofTree? read
  have readAgain := ofTree?_toJson stable
  refine ⟨readAgain, ?_, ?_⟩
  · intro table inFile column inTable null
    exact ((stable table inFile column inTable).default _ null).2 rfl
  · intro text again parsed parsedAgain
    have first := parse_eq_ok parsed read
    have second := parse_eq_ok parsedAgain readAgain
    have same (path : String) : CommandLine.statementsOf path (.ok again) =
        CommandLine.statementsOf path (.ok text) := by
      rw [CommandLine.statementsOf, CommandLine.statementsOf, first, second]
    refine ⟨first, second, ?_, ?_⟩
    · intro path dialect
      rw [CommandLine.ddl, CommandLine.ddl, same]
    · intro verbose path url database
      rw [CommandLine.apply, CommandLine.apply, same]

/-- A document that lists the fields of a table and of a column without their names. A type is
written as an object, a default is null, and another one repeats a key. -/
def document : Json.Tree :=
  .object [(some "tables", .array [.array [.string (some "t"), .bool true, .bool false, .array [
    .object [(some "name", .string (some "n")), (some "default", .null),
      (some "type", .object [(some "varchar", .null)]),
      (some "size", .number (some (.integer 8)))],
    .array [.string (some "m"), .string (some "text"), .bool true, .bool false, .bool false,
      .bool false, .object [(some "b", .null), (some "a", .string (some "x")),
        (some "b", .bool true)]]]]])]

/-- What the document is read as. -/
def ofDocument : SchemaFile where
  tables := [{
    name := "t"
    ifNotExists := true
    columns := [{ name := "n", type := .varchar, size := some 8 },
      { name := "m", type := .text, nullable := true,
        default := some (.object [("a", .string "x"), ("b", .bool true)]) }] }]

/-- The document is read again from another one, which is written of what was read. -/
theorem survives_serialization_document :
    ofTree? document = some ofDocument ∧ ofTree? ofDocument.toJson.tree = some ofDocument ∧
      ofDocument.toJson.tree ≠ document := by
  have read : ofTree? document = some ofDocument := rfl
  refine ⟨read, (survives_serialization read).1, ?_⟩
  intro same
  cases same

end SchemaFile

end TypedSql
