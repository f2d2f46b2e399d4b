import TypedSql.CommandLine.Report
import TypedSql.Proofs.Definition
import TypedSql.Proofs.Faults
import TypedSql.Proofs.RoundTrip

/-!
# Defaults in schema files

Reading the default of a column looks at its kind only: a scalar becomes a value, and a text in a
`datetime` column has to be a date-time. Whether the column can hold the value is looked at when
the statement is rendered. `ColumnType.Holds` says what a column can hold of a file.

A file that passes its check can be used exactly if every column can hold its default
(`SchemaFile.usable_iff_fits`). Otherwise the first default that does not fit is met by the
renderer and not by the check. Then nothing is printed, but applying the file creates the tables
before it.
-/

set_option autoImplicit false

namespace TypedSql

open Outcome

/-! ## What a column can hold of a file -/

/-- What a column of a type can hold of a file. -/
inductive ColumnType.Holds : ColumnType → Json → Prop where
  | null (type : ColumnType) : Holds type .null
  | boolean (b : Bool) : Holds .boolean (.bool b)
  | float (number : Json.Number) : Holds .float (.number number)
  | integer {n : Int} (least : Int64.minValue.toInt ≤ n) (greatest : n ≤ Int64.maxValue.toInt) :
      Holds .integer (.number (.integer n))
  | integral {number : Json.Number} {x : Binary64} {n : Int64} (read : number.toValue = .float x)
      (finite : x.isFinite = true) (equal : x.signed x.units = n.toInt * Binary64.unitsPerOne) :
      Holds .integer (.number number)
  | text (s : String) : Holds .text (.string s)
  | varchar (s : String) : Holds .varchar (.string s)
  | datetime {s : String} {instant : Instant} (read : Rfc3339.parse s = .ok instant) :
      Holds .datetime (.string s)

/-- The number of a file is an integer in the range of 64 bits, or else a float. -/
theorem Json.Number.toValue_cases (number : Number) :
    (∃ n : Int, number = .integer n ∧ Int64.minValue.toInt ≤ n ∧ n ≤ Int64.maxValue.toInt ∧
        number.toValue = .integer (Int64.ofInt n)) ∨
      ∃ x, number.toValue = .float x := by
  cases number with
  | float x => exact .inr ⟨x, rfl⟩
  | integer n =>
      rw [toValue]
      split
      case isTrue range => exact .inl ⟨n, rfl, range.1, range.2, rfl⟩
      case isFalse => exact .inr ⟨_, rfl⟩

namespace ColumnType

/-- An integer column holds the numbers that pass its codec. -/
theorem storable_integer_iff {number : Json.Number} :
    (∃ stored, Codec.encode .integer number.toValue = .ok stored) ↔
      Holds .integer (.number number) := by
  rcases number.toValue_cases with ⟨n, rfl, least, greatest, read⟩ | ⟨x, read⟩
  · rw [read]
    exact iff_of_true ⟨_, rfl⟩ (.integer least greatest)
  · rw [read]
    constructor
    · rintro ⟨stored, encoded⟩
      obtain ⟨n, narrowed, -⟩ := map_eq_ok.mp encoded
      obtain ⟨finite, equal⟩ := Codec.narrow_eq_ok_iff.mp narrowed
      exact .integral read finite equal
    · intro holds
      cases holds with
      | integer least greatest =>
          rw [Json.Number.toValue, if_pos ⟨least, greatest⟩] at read
          cases read
      | integral otherRead finite equal =>
          obtain rfl := Value.float.inj (otherRead.symm.trans read)
          exact ⟨_, map_eq_ok.mpr ⟨_, Codec.narrow_eq_ok_iff.mpr ⟨finite, equal⟩, rfl⟩⟩

theorem storable_number_iff {type : ColumnType} {number : Json.Number} :
    (∃ stored, Codec.encode type number.toValue = .ok stored) ↔ type.Holds (.number number) := by
  cases type with
  | integer => exact storable_integer_iff
  | float =>
      refine iff_of_true ?_ (.float number)
      rcases number.toValue_cases with ⟨n, -, -, -, read⟩ | ⟨x, read⟩
      · exact ⟨_, by rw [read]; rfl⟩
      · exact ⟨_, by rw [read]; rfl⟩
  | boolean | datetime | text | varchar | binary =>
      refine iff_of_false ?_ (by rintro ⟨⟩)
      rintro ⟨stored, encoded⟩
      rcases number.toValue_cases with ⟨n, -, -, -, read⟩ | ⟨x, read⟩
      · rw [read] at encoded
        cases encoded
      · rw [read] at encoded
        cases encoded

theorem storable_text_iff {type : ColumnType} (timeless : type ≠ .datetime) {s : String} :
    (∃ stored, Codec.encode type (.text s) = .ok stored) ↔ type.Holds (.string s) := by
  cases type with
  | datetime => exact absurd rfl timeless
  | text => exact iff_of_true ⟨_, rfl⟩ (.text s)
  | varchar => exact iff_of_true ⟨_, rfl⟩ (.varchar s)
  | boolean | integer | float | binary =>
      exact iff_of_false (by rintro ⟨stored, ⟨⟩⟩) (by rintro ⟨⟩)

/-- **A column holds a default of a file exactly if the value that is read passes its codec.** -/
theorem storable_iff_holds {type : ColumnType} {json : Json} {value : Value}
    (read : type.defaultValue json = .ok value) :
    (∃ stored, Codec.encode type value = .ok stored) ↔ type.Holds json := by
  cases json with
  | array => cases read
  | object => cases read
  | null =>
      cases read
      exact iff_of_true ⟨.null, by rw [Codec.encode]⟩ (.null type)
  | bool b =>
      cases read
      cases type with
      | boolean => exact iff_of_true ⟨_, rfl⟩ (.boolean b)
      | datetime | integer | float | text | varchar | binary =>
          exact iff_of_false (by rintro ⟨stored, ⟨⟩⟩) (by rintro ⟨⟩)
  | number number =>
      cases read
      exact storable_number_iff
  | string s =>
      rw [defaultValue] at read
      split at read
      case isTrue timed =>
        subst timed
        cases parsed : Rfc3339.parse s with
        | error fault => simp [parsed] at read
        | ok instant =>
            simp only [parsed, Except.ok.injEq] at read
            subst read
            exact iff_of_true ⟨_, rfl⟩ (.datetime parsed)
      case isFalse timeless =>
        cases read
        exact storable_text_iff timeless

end ColumnType

/-! ## Declarations -/

/-- A declared column that can hold its default, if it has one. -/
def ColumnDeclaration.DefaultFits (column : ColumnDeclaration) : Prop :=
  ∀ json ∈ column.default, column.type.Holds json

/-- A declared table of columns that can hold their defaults. -/
def TableDeclaration.DefaultsFit (table : TableDeclaration) : Prop :=
  ∀ column ∈ table.columns, column.DefaultFits

/-- A file in which every column can hold its default. -/
def SchemaFile.DefaultsFit (file : SchemaFile) : Prop :=
  ∀ table ∈ file.tables, table.DefaultsFit

/-- The failure of a default that its column cannot hold. -/
def ColumnDeclaration.misfits (table : String) (column : ColumnDeclaration) : List RenderError :=
  match column.default with
  | none => []
  | some json =>
      match column.type.defaultValue json with
      | .ok value => Codec.faults (.default table column.name) column.type value
      | .error _ => []

/-- The failures of the defaults of a table, column by column. -/
def TableDeclaration.misfits (table : TableDeclaration) : List RenderError :=
  table.columns.flatMap (·.misfits table.name)

/-- The failures of the defaults of a file, table by table. -/
def SchemaFile.misfits (file : SchemaFile) : List RenderError :=
  file.tables.flatMap (·.misfits)

/-- A default that is read to a value and then fails, since its column cannot hold the value. -/
inductive ColumnDeclaration.IsMisfit (table : String) (column : ColumnDeclaration) :
    RenderError → Prop where
  | intro {json : Json} {value : Value} {cause : CodecError} (given : column.default = some json)
      (read : column.type.defaultValue json = .ok value)
      (refused : Codec.encode column.type value = .error cause) :
      IsMisfit table column (.codec ⟨.default table column.name, cause⟩)

/-- The failure of the first default of a table that its column cannot hold. -/
def TableDeclaration.FirstMisfit (table : TableDeclaration) (error : RenderError) : Prop :=
  ∃ before column after, table.columns = before ++ column :: after ∧
    (∀ earlier ∈ before, earlier.DefaultFits) ∧ column.IsMisfit table.name error

namespace ColumnDeclaration

variable {table : String} {column : ColumnDeclaration} {spec : ColumnSpec}

/-- A declaration that is read has no default, or one that is a value. -/
theorem defaultSpec_eq_ok {default : Option Default}
    (read : column.defaultSpec table = .ok default) :
    column.default = none ∧ default = none ∨
      ∃ json value, column.default = some json ∧ column.type.defaultValue json = .ok value ∧
        default = some (.fixed value) := by
  rw [defaultSpec] at read
  cases given : column.default with
  | none =>
      rw [given] at read
      exact .inl ⟨rfl, (Except.ok.inj read).symm⟩
  | some json =>
      rw [given] at read
      cases found : column.type.defaultValue json with
      | error fault => simp [found] at read
      | ok value =>
          simp only [found, Except.ok.injEq] at read
          exact .inr ⟨json, value, rfl, found, read.symm⟩

/-- The column that is made of a declaration has the failure of its default. -/
theorem defaultFaults_spec (built : column.spec table = .ok spec) :
    Column.defaultFaults table ⟨spec, table⟩ = column.misfits table := by
  obtain ⟨default, read, rfl⟩ := bind_pure_eq_ok.mp built
  rw [misfits]
  rcases defaultSpec_eq_ok read with ⟨given, rfl⟩ | ⟨json, value, given, found, rfl⟩
  · rw [given]
    rfl
  · simp only [given, found]
    rfl

/-- A default that is read fits its column exactly if it does not fail. -/
theorem misfits_eq_nil_iff (built : column.spec table = .ok spec) :
    column.misfits table = [] ↔ column.DefaultFits := by
  obtain ⟨default, read, -⟩ := bind_pure_eq_ok.mp built
  rw [misfits, DefaultFits]
  rcases defaultSpec_eq_ok read with ⟨given, -⟩ | ⟨json, value, given, found, -⟩
  · simp [given]
  · simp only [given, found, Codec.faults_eq_nil_iff_exists, Option.mem_some_iff, forall_eq']
    exact ColumnType.storable_iff_holds found

/-- A failure of a default is that of its value. -/
theorem isMisfit_of_mem_misfits {error : RenderError} (member : error ∈ column.misfits table) :
    column.IsMisfit table error := by
  rw [misfits] at member
  cases given : column.default with
  | none => simp [given] at member
  | some json =>
      cases read : column.type.defaultValue json with
      | error => simp [given, read] at member
      | ok value =>
          simp only [given, read, Codec.faults] at member
          cases refused : Codec.encode column.type value with
          | ok => simp [refused] at member
          | error cause =>
              simp only [refused, List.mem_singleton] at member
              exact member ▸ .intro given read refused

end ColumnDeclaration

namespace TableDeclaration

variable {table : TableDeclaration} {create : CreateTable}

/-- The columns of a declared table are read one by one. -/
theorem statement_eq_ok (built : table.statement = .ok create) :
    ∃ specs, table.columns.mapM (·.spec table.name) = .ok specs ∧
      create.table = ⟨table.name, specs.map fun spec => ⟨spec, table.name⟩⟩ := by
  rw [statement] at built
  cases read : table.columns.mapM (·.spec table.name) with
  | error => simp [read, bind, Except.bind] at built
  | ok specs =>
      simp only [read] at built
      obtain ⟨defined, accepted, rfl⟩ := bind_pure_eq_ok.mp built
      obtain ⟨-, -, -, rfl⟩ := Table.define_eq_ok_iff.mp (mapError_eq_ok.mp accepted)
      exact ⟨specs, rfl, rfl⟩

/-- The statement of a declared table has the failures of its defaults. -/
theorem faults_statement (built : table.statement = .ok create) :
    create.faults = table.misfits := by
  obtain ⟨specs, read, made⟩ := statement_eq_ok built
  rw [CreateTable.faults, made, List.flatMap_map, misfits]
  exact flatMap_of_mapM_eq_ok ColumnDeclaration.defaultFaults_spec read

theorem misfits_eq_nil_iff (built : table.statement = .ok create) :
    table.misfits = [] ↔ table.DefaultsFit := by
  obtain ⟨specs, read, -⟩ := statement_eq_ok built
  rw [misfits, List.flatMap_eq_nil_iff, DefaultsFit]
  refine forall₂_congr fun column member => ?_
  obtain ⟨spec, columnRead⟩ := exists_of_mapM_eq_ok read column member
  exact ColumnDeclaration.misfits_eq_nil_iff columnRead

/-- The first failure of a table is that of its first default that does not fit. -/
theorem firstMisfit_of_head? (built : table.statement = .ok create) {error : RenderError}
    (first : table.misfits.head? = some error) : table.FirstMisfit error := by
  obtain ⟨specs, read, -⟩ := statement_eq_ok built
  obtain ⟨before, column, after, split, fits, here⟩ := exists_first_faulty first
  refine ⟨before, column, after, split, ?_,
    ColumnDeclaration.isMisfit_of_mem_misfits (List.mem_of_mem_head? here)⟩
  intro earlier inside
  have member : earlier ∈ table.columns := split ▸ List.mem_append_left _ inside
  obtain ⟨spec, columnRead⟩ := exists_of_mapM_eq_ok read earlier member
  exact (ColumnDeclaration.misfits_eq_nil_iff columnRead).mp (fits earlier inside)

end TableDeclaration

namespace SchemaFile

variable {file : SchemaFile} {statements : List CreateTable}

/-- The statements of a file have the failures of its defaults. -/
theorem faults_statements (built : file.statements = .ok statements) :
    statements.flatMap (·.faults) = file.misfits :=
  flatMap_of_mapM_eq_ok TableDeclaration.faults_statement built

theorem misfits_eq_nil_iff (built : file.statements = .ok statements) :
    file.misfits = [] ↔ file.DefaultsFit := by
  rw [misfits, List.flatMap_eq_nil_iff, DefaultsFit]
  refine forall₂_congr fun table member => ?_
  obtain ⟨create, made⟩ := exists_of_mapM_eq_ok built table member
  exact TableDeclaration.misfits_eq_nil_iff made

end SchemaFile

/-! ## Printing and applying -/

/-- Printing statements fails with their first fault. -/
theorem renderDdl_eq_answer (dialect : Dialect) (statements : List CreateTable) :
    ∃ text, renderDdl dialect statements = answer (statements.flatMap (·.faults)) text := by
  have each (create : CreateTable) := Statement.compile_eq_answer dialect (.createTable create)
  rw [renderDdl, mapM_answer each]
  exact ⟨_, bind_pure_answer⟩

namespace CommandLine

variable (verbose : Bool) {connection : Engine.Connection} {create : CreateTable}
  {earlier later : List CreateTable}

/-- A statement that creates a table is sent as it is rendered. -/
theorem prepare_create : (Request.create create).prepare =
    answer (create.faults.map .rendering) (.ofFragments .sqlite (create.written .sqlite)) := by
  show ((Statement.createTable create).compile .sqlite).mapError AdapterError.rendering = _
  rw [Statement.compile_eq_answer, mapError_answer]
  rfl

/-- A table with a fault is not created, and nothing after it. -/
theorem createAll_faulty {cause : RenderError} (faulty : create.faults.head? = some cause) :
    createAll verbose connection (create :: later) =
      { output := [], connection := connection, failure? := some (.rendering cause) } := by
  have unprepared : (Request.create create).prepare = .error (.rendering cause) := by
    rw [prepare_create, answer_eq_error_iff, List.head?_map, faulty]
    rfl
  rw [createAll, Adapter.perform, unprepared]
  rfl

/-- A table without faults may be refused by the engine, but does not fail to render. -/
theorem perform_create_ne_rendering (connection : Engine.Connection)
    (faultless : create.faults = []) (cause : RenderError) :
    (adapter.perform (.create create) connection).1.result ≠ .error (.rendering cause) := by
  rw [Adapter.perform, prepare_create, faultless]
  show (adapter.send _ _ connection).1.result ≠ _
  rw [Adapter.send]
  split <;> rintro ⟨⟩

/-- Tables are created one after another. -/
theorem createAll_append (done : (createAll verbose connection earlier).failure? = none) :
    createAll verbose connection (earlier ++ later) =
      let progress := createAll verbose connection earlier
      let others := createAll verbose progress.connection later
      { others with output := progress.output ++ others.output } := by
  induction earlier generalizing connection with
  | nil => rfl
  | cons create rest ih =>
      rw [List.cons_append, createAll, createAll]
      rw [createAll] at done
      cases created : (adapter.perform (.create create) connection).1.result with
      | error => simp [created] at done
      | ok response =>
          simp only [created] at done ⊢
          simp only [ih done, List.append_assoc, List.cons_append]

/-- Creating tables fails to render only for the first of their faults. -/
theorem head?_faults_of_createAll {statements : List CreateTable} {cause : RenderError}
    (failed : (createAll verbose connection statements).failure? = some (.rendering cause)) :
    (statements.flatMap (·.faults)).head? = some cause := by
  induction statements generalizing connection with
  | nil => cases failed
  | cons create rest ih =>
      rw [List.flatMap_cons, List.head?_append]
      cases fault : create.faults.head? with
      | some other =>
          rw [createAll_faulty verbose fault] at failed
          cases failed
          rfl
      | none =>
          have never := perform_create_ne_rendering connection
            (List.head?_eq_none_iff.mp fault) cause
          rw [createAll] at failed
          -- The engine may refuse the table, but that is no failure to render.
          cases created : (adapter.perform (.create create) connection).1.result with
          | error other =>
              simp only [created, Option.some.injEq] at failed
              exact absurd (failed ▸ created) never
          | ok response =>
              simp only [created] at failed
              exact ih failed

end CommandLine

namespace SchemaFile

variable {file : SchemaFile} {statements : List CreateTable}

open CommandLine

/-- A file that is read has a first table with a default that does not fit, or all fit. -/
theorem exists_firstMisfit (built : file.statements = .ok statements) {error : RenderError}
    (first : file.misfits.head? = some error) :
    ∃ before table after, file.tables = before ++ table :: after ∧
      (∀ earlier ∈ before, earlier.DefaultsFit) ∧ table.FirstMisfit error ∧
      ∃ earlier create later, statements = earlier ++ create :: later ∧
        SchemaFile.statements ⟨before⟩ = .ok earlier ∧ create.faults.head? = some error := by
  obtain ⟨before, table, after, split, fits, here⟩ := exists_first_faulty first
  rw [SchemaFile.statements, split] at built
  obtain ⟨earlier, rest, madeBefore, madeRest, rfl⟩ := mapM_append_eq_ok.mp built
  obtain ⟨create, later, made, -, rfl⟩ := mapM_cons_eq_ok.mp madeRest
  refine ⟨before, table, after, split, ?_, TableDeclaration.firstMisfit_of_head? made here,
    earlier, create, later, rfl, madeBefore, ?_⟩
  · intro other inside
    obtain ⟨_, otherMade⟩ := exists_of_mapM_eq_ok madeBefore other inside
    exact (TableDeclaration.misfits_eq_nil_iff otherMade).mp (fits other inside)
  · rw [TableDeclaration.faults_statement made]
    exact here

/-- **A file that passes its check can be used exactly if every column can hold its default.** Then
it is printed for every dialect, and applying it does not fail to render. Otherwise printing fails
with the first default that does not fit, for every dialect, and applying it fails with that default
after the tables before it are created. -/
theorem usable_iff_fits (built : file.statements = .ok statements) :
    (file.DefaultsFit →
      (∀ dialect, ∃ text, renderDdl dialect statements = .ok text) ∧
      ∀ verbose connection cause,
        (createAll verbose connection statements).failure? ≠ some (.rendering cause)) ∧
    (¬ file.DefaultsFit →
      ∃ before table after error, file.tables = before ++ table :: after ∧
        (∀ earlier ∈ before, earlier.DefaultsFit) ∧ table.FirstMisfit error ∧
        (∀ dialect, renderDdl dialect statements = .error error) ∧
        ∃ earlier, SchemaFile.statements ⟨before⟩ = .ok earlier ∧
          ∀ verbose connection,
            let progress := createAll verbose connection earlier
            progress.failure? = none → createAll verbose connection statements =
              { progress with failure? := some (.rendering error) }) := by
  have faults := faults_statements built
  constructor
  · intro fits
    have faultless : file.misfits = [] := (misfits_eq_nil_iff built).mpr fits
    constructor
    · intro dialect
      obtain ⟨text, answered⟩ := renderDdl_eq_answer dialect statements
      exact ⟨text, by rw [answered, faults, faultless]; rfl⟩
    · intro verbose connection cause failed
      have first := head?_faults_of_createAll verbose failed
      rw [faults, faultless] at first
      cases first
  · intro unfit
    have faulty : file.misfits ≠ [] := fun faultless =>
      unfit ((misfits_eq_nil_iff built).mp faultless)
    obtain ⟨error, first⟩ := Option.ne_none_iff_exists'.mp (mt List.head?_eq_none_iff.mp faulty)
    obtain ⟨before, table, after, split, fits, misfit, earlier, create, later, rfl, made, fault⟩ :=
      exists_firstMisfit built first
    refine ⟨before, table, after, error, split, fits, misfit, ?_, earlier, made, ?_⟩
    · intro dialect
      obtain ⟨text, answered⟩ := renderDdl_eq_answer dialect (earlier ++ create :: later)
      rw [answered, faults, answer_eq_error_iff]
      exact first
    · intro verbose connection progress done
      simp only [createAll_append verbose done, createAll_faulty verbose fault, List.append_nil]
      rfl

/-- A file of one table with a default of every kind, among them a float that is an integer. -/
def ofJobs : SchemaFile where
  tables := [{
    name := "jobs"
    columns := [
      { name := "state", type := .text, default := some (.string "queued") },
      { name := "attempts", type := .integer, default := some (.number (.float (.ofInt 3))) },
      { name := "done", type := .boolean, default := some (.bool false) },
      { name := "notBefore", type := .datetime, default := some (.string "1970-01-01T00:00:00Z") },
      { name := "content", type := .binary, nullable := true, default := some .null }] }]

/-- The columns of jobs can hold their defaults. -/
theorem defaultsFit_ofJobs : ofJobs.DefaultsFit := by
  intro table member
  obtain rfl := List.mem_singleton.mp member
  rw [TableDeclaration.DefaultsFit]
  simp only [List.forall_mem_cons, ColumnDeclaration.DefaultFits, Option.mem_some_iff,
    forall_eq']
  have epoch : Rfc3339.parse "1970-01-01T00:00:00Z" =
      .ok ⟨0, 0, by decide, by decide⟩ := by decide +kernel
  refine ⟨.text _, .integral (n := 3) rfl (by decide +kernel) (by decide +kernel), .boolean _,
    .datetime epoch, .null _, ?_⟩
  exact fun column impossible => absurd impossible List.not_mem_nil

/-- The table of jobs can be printed for every dialect. -/
theorem usable_iff_fits_jobs : ∃ statements, ofJobs.statements = .ok statements ∧
    ofJobs.DefaultsFit ∧ ∀ dialect, ∃ text, renderDdl dialect statements = .ok text :=
  ⟨_, rfl, defaultsFit_ofJobs, ((usable_iff_fits rfl).1 defaultsFit_ofJobs).1⟩

/-- A file of two tables, of which the second has an integer column whose default is a text. -/
def ofMisfit : SchemaFile where
  tables := [
    { name := "first", columns := [{ name := "a", type := .text }] },
    { name := "t", columns := [{ name := "aB", type := .integer, default := some (.string "x") }] }]

/-- The file passes its check, and is neither printed nor applied as a whole. -/
theorem ofMisfit_unusable :
    ∃ statements, ofMisfit.statements = .ok statements ∧
      let error := RenderError.codec ⟨.default "t" "aB", .typeMismatch .integer "text"⟩
      renderDdl .sqlite statements = .error error ∧ renderDdl .generic statements = .error error ∧
        let progress := createAll false {} statements
        progress.failure? = some (.rendering error) ∧
          progress.connection.database.keys = ["first"] :=
  ⟨_, rfl, rfl, rfl, by decide +kernel, by decide +kernel⟩

end SchemaFile

end TypedSql
