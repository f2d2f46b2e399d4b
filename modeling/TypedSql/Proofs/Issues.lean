import Mathlib.Data.List.Nodup
import TypedSql.Proofs.Definition
import TypedSql.Proofs.Tokens
import TypedSql.Proofs.Validity
import TypedSql.Proofs.Wording

/-!
# The issues that the validator reports

`Validation.Offends` says what is wrong with a cell without asking the validator: a key is no
column of the table, a value is given to a column that the database numbers, a required column
has none, the codec of the column refuses the value, or a text is longer than the declared size.
A record that complies has no such cell (`Validation.complies_iff`).

The validator reports exactly these cells (`Validation.mem_issues_iff`). Its issues stand in the
order of the rows, and no two issues of a row have one name (`Issue.Precedes`), because the keys
of a record differ, the columns of an accepted table differ, and a key that is no column is named
like none. So the paths differ as well: the digits of a row end at the bracket, and what stands
behind it is the name (`Issue.path_inj`).

The main statement is `Validation.issues_exact`.
-/

set_option autoImplicit false

namespace TypedSql

/-- The keys of a dictionary are different. -/
theorem Dictionary.nodup_keys {α : Type} (dictionary : Dictionary α) : dictionary.keys.Nodup := by
  rw [keys, List.Nodup, List.pairwise_map]
  refine dictionary.sorted.imp ?_
  intro first second before same
  exact String.lt_irrefl _ (same ▸ before)

/-! ## Paths -/

namespace Issue

/-- The path of an issue determines its row and its name. -/
theorem path_inj {first second : Issue} :
    first.path = second.path ↔ first.row = second.row ∧ first.name = second.name := by
  constructor
  · intro same
    have characters : (toString first.row).toList ++ ']' :: '.' :: first.name.toList =
        (toString second.row).toList ++ ']' :: '.' :: second.name.toList := by
      simpa [path] using congrArg String.toList same
    -- The bracket is the first character that is no digit, so both rows end there.
    have taken (issue : Issue) : ((toString issue.row).toList ++
        ']' :: '.' :: issue.name.toList).takeWhile Char.isDigit = (toString issue.row).toList :=
      (takeWhile_append_of_stop (fun _ => isDigit_of_mem_toString)
        fun c head => by cases head; rfl).1
    have digits : (toString first.row).toList = (toString second.row).toList := by
      rw [← taken first, characters, taken second]
    rw [digits] at characters
    have names := List.append_cancel_left characters
    simp only [List.cons.injEq, true_and, String.toList_inj] at names
    have numbers := congrArg (fun digits => Nat.ofDigitChars 10 digits 0) digits
    exact ⟨by simpa [Nat.toString_eq_ofList_toDigits] using numbers, names⟩
  · rintro ⟨row, name⟩
    rw [path, path, row, name]

/-- An issue that stands before another one: its row comes first, or it has another name in the
same row. -/
def Precedes (first second : Issue) : Prop :=
  first.row < second.row ∨ first.row = second.row ∧ first.name ≠ second.name

theorem Precedes.row_le {first second : Issue} (precedes : first.Precedes second) :
    first.row ≤ second.row := by
  rcases precedes with less | ⟨same, -⟩
  · exact Nat.le_of_lt less
  · exact Nat.le_of_eq same

theorem Precedes.path_ne {first second : Issue} (precedes : first.Precedes second) :
    first.path ≠ second.path := by
  rw [Ne, path_inj]
  rintro ⟨row, name⟩
  rcases precedes with less | ⟨-, different⟩
  · exact Nat.ne_of_lt less row
  · exact different name

end Issue

namespace Validation

/-! ## Offending cells -/

/-- What is wrong with the cell of a column in a record. -/
inductive CellOffends (record : Record) (column : Column) : IssueCause → Prop where
  | assigned {value : Value} (numbered : column.autoincrement = true)
      (given : record.get? column.name = some value) (present : value ≠ .null) :
      CellOffends record column .assignedByDatabase
  | missing (written : column.autoincrement = false) (notNull : column.nullable = false)
      (noDefault : column.default = none)
      (absent : ∀ value, record.get? column.name = some value → value = .null) :
      CellOffends record column .missing
  | unstorable {value : Value} {cause : CodecError} (written : column.autoincrement = false)
      (given : record.get? column.name = some value) (present : value ≠ .null)
      (refused : Codec.encode column.type value = .error cause) :
      CellOffends record column (.unstorable cause)
  | tooLong {content : String} {size : Nat} (textual : column.type = .text ∨ column.type = .varchar)
      (given : record.get? column.name = some (.text content)) (declared : column.size = some size)
      (exceeds : size < content.length) :
      CellOffends record column (.tooLong content.length size)

/-- What is wrong with the cell of a name in a record: the name is no column, or the cell of the
column offends. -/
inductive Offends (table : Table) (record : Record) : String → IssueCause → Prop where
  | unknown {name : String} (given : name ∈ record.keys)
      (foreign : ∀ column ∈ table.columns, column.name ≠ name) :
      Offends table record name .unknownColumn
  | known {column : Column} {cause : IssueCause} (member : column ∈ table.columns)
      (offends : CellOffends record column cause) : Offends table record column.name cause

/-- A record that a table can take as it is: every key is a column, the database numbers what it
numbers, every required column has a value, every value passes the codec of its column, and no
text exceeds a declared size. -/
structure Complies (table : Table) (record : Record) : Prop where
  known : ∀ key ∈ record.keys, ∃ column ∈ table.columns, column.name = key
  numbered : ∀ column ∈ table.columns, column.autoincrement = true →
    ∀ value, record.get? column.name = some value → value = .null
  required : ∀ column ∈ table.columns, column.nullable = false → column.autoincrement = false →
    column.default = none → ∃ value, record.get? column.name = some value ∧ value ≠ .null
  storable : ∀ column ∈ table.columns, column.autoincrement = false →
    ∀ value, record.get? column.name = some value → value ≠ .null →
      ∃ stored, Codec.encode column.type value = .ok stored
  short : ∀ column ∈ table.columns, (column.type = .text ∨ column.type = .varchar) →
    ∀ content, record.get? column.name = some (.text content) →
      ∀ size, column.size = some size → content.length ≤ size

variable {table : Table} {record : Record} {column : Column} {cause : IssueCause}

/-- A record complies exactly when none of its cells offends. -/
theorem complies_iff :
    Complies table record ↔ ∀ name cause, ¬ Offends table record name cause := by
  constructor
  · rintro complies name cause (⟨given, foreign⟩ | ⟨member, offends⟩)
    · obtain ⟨column, member, same⟩ := complies.known name given
      exact foreign column member same
    · cases offends with
      | assigned numbered given present =>
          exact present (complies.numbered _ member numbered _ given)
      | missing written notNull noDefault absent =>
          obtain ⟨value, given, present⟩ :=
            complies.required _ member notNull written noDefault
          exact present (absent value given)
      | unstorable written given present refused =>
          obtain ⟨stored, encoded⟩ := complies.storable _ member written _ given present
          rw [refused] at encoded
          cases encoded
      | tooLong textual given declared exceeds =>
          exact Nat.not_lt_of_le (complies.short _ member textual _ given _ declared) exceeds
  · intro faultless
    constructor
    case known =>
      intro key given
      by_contra unknown
      exact faultless key _ (.unknown given fun column member same =>
        unknown ⟨column, member, same⟩)
    case numbered =>
      intro column member numbered value given
      by_contra present
      exact faultless _ _ (.known member (.assigned numbered given present))
    case required =>
      intro column member notNull written noDefault
      by_contra none
      refine faultless _ _ (.known member (.missing written notNull noDefault ?_))
      intro value given
      by_contra present
      exact none ⟨value, given, present⟩
    case storable =>
      intro column member written value given present
      cases encoded : Codec.encode column.type value with
      | ok stored => exact ⟨stored, rfl⟩
      | error cause =>
          exact absurd (.known member (.unstorable written given present encoded))
            (faultless _ _)
    case short =>
      intro column member textual content given size declared
      by_contra exceeds
      exact faultless _ _ (.known member (.tooLong textual given declared (by omega)))

/-! ## The cells of columns -/

theorem excess?_eq_some_iff {value : Value} :
    excess? column value = some cause ↔
      ∃ content size, value = .text content ∧ (column.type = .text ∨ column.type = .varchar) ∧
        column.size = some size ∧ size < content.length ∧
        cause = .tooLong content.length size := by
  cases value with
  | text content =>
      rw [excess?]
      cases declared : column.size with
      | none => simp
      | some size =>
          simp [ColumnType.isTextual, and_assoc, eq_comm (b := cause)]
  | _ => simp [excess?]

/-- A text passes the codec of every column that holds texts. -/
theorem encode_text (textual : column.type = .text ∨ column.type = .varchar) (content : String) :
    Codec.encode column.type (.text content) = .ok (.text content) := by
  rcases textual with type | type <;> rw [type] <;> rfl

/-- A column that the database numbers takes no value. -/
theorem cellCause?_of_numbered (numbered : column.autoincrement = true) :
    cellCause? record column = some cause ↔
      cause = .assignedByDatabase ∧ ∃ value, record.get? column.name = some value ∧
        value ≠ .null := by
  simp only [cellCause?, numbered, if_true]
  cases record.get? column.name with
  | none => simp [Value.isNull]
  | some value => cases value <;> simp [Value.isNull, eq_comm (b := cause)]

/-- A cell without a value is at fault in a required column only. -/
theorem cellCause?_of_absent (written : column.autoincrement = false)
    (absent : ∀ value, record.get? column.name = some value → value = .null) :
    cellCause? record column = some cause ↔
      cause = .missing ∧ column.nullable = false ∧ column.default = none := by
  have null : (record.get? column.name).getD .null = .null := by
    cases given : record.get? column.name with
    | none => rfl
    | some value => exact absent value given
  simp only [cellCause?, null, written, Value.isNull, Bool.false_eq_true, if_false, if_true]
  cases nullable : column.nullable <;> cases default : column.default <;>
    simp [ColumnSpec.isRequired, nullable, default, written, eq_comm (b := cause)]

/-- A value is judged by its column. -/
theorem cellCause?_of_present {value : Value} (written : column.autoincrement = false)
    (given : record.get? column.name = some value) (present : value ≠ .null) :
    cellCause? record column = valueCause? column value := by
  have notNull : value.isNull = false := by
    cases value <;> first | rfl | exact absurd rfl present
  simp [cellCause?, given, written, notNull]

/-- A value is at fault when its column cannot store it, or when it is too long. -/
theorem valueCause?_eq_some_iff {value : Value} :
    valueCause? column value = some cause ↔
      (∃ failure, Codec.encode column.type value = .error failure ∧
        cause = .unstorable failure) ∨
      ∃ content size, value = .text content ∧ (column.type = .text ∨ column.type = .varchar) ∧
        column.size = some size ∧ size < content.length ∧
        cause = .tooLong content.length size := by
  rw [valueCause?]
  cases encoded : Codec.encode column.type value with
  | ok stored => simp [excess?_eq_some_iff]
  | error failure =>
      have storable : ∀ content, value = .text content →
          ¬ (column.type = .text ∨ column.type = .varchar) := by
        rintro content rfl textual
        rw [encode_text textual] at encoded
        cases encoded
      simp only [Option.some.injEq, Except.error.injEq, exists_eq_left']
      constructor
      · exact fun same => .inl same.symm
      · rintro (same | ⟨content, _, isText, textual, _⟩)
        · exact same.symm
        · exact absurd textual (storable content isText)

/-- **The validator finds in the cell of a column what is wrong with it.** A column that the
database numbers holds integers, so that its size does not matter. -/
theorem cellCause?_eq_some_iff (integral : column.autoincrement = true → column.type = .integer) :
    cellCause? record column = some cause ↔ CellOffends record column cause := by
  cases numbered : column.autoincrement with
  | true =>
      rw [cellCause?_of_numbered numbered]
      constructor
      · rintro ⟨rfl, value, given, present⟩
        exact .assigned numbered given present
      · rintro (⟨-, given, present⟩ | ⟨written⟩ | ⟨written⟩ | ⟨textual⟩)
        · exact ⟨rfl, _, given, present⟩
        · cases numbered.symm.trans written
        · cases numbered.symm.trans written
        · rw [integral numbered] at textual
          rcases textual with impossible | impossible <;> cases impossible
  | false =>
      by_cases absent : ∀ value, record.get? column.name = some value → value = .null
      · rw [cellCause?_of_absent numbered absent]
        constructor
        · rintro ⟨rfl, notNull, noDefault⟩
          exact .missing numbered notNull noDefault absent
        · rintro (⟨-, given, present⟩ | ⟨-, notNull, noDefault, -⟩ | ⟨-, given, present⟩ |
            ⟨-, given⟩)
          · exact absurd (absent _ given) present
          · exact ⟨rfl, notNull, noDefault⟩
          · exact absurd (absent _ given) present
          · cases absent _ given
      · push Not at absent
        obtain ⟨value, given, present⟩ := absent
        have same {other : Value} (found : record.get? column.name = some other) :
            value = other := Option.some.inj (given.symm.trans found)
        rw [cellCause?_of_present numbered given present, valueCause?_eq_some_iff]
        constructor
        · rintro (⟨failure, refused, rfl⟩ | ⟨content, size, rfl, textual, declared, exceeds, rfl⟩)
          · exact .unstorable numbered given present refused
          · exact .tooLong textual given declared exceeds
        · rintro (⟨byDatabase⟩ | ⟨-, -, -, none⟩ | ⟨-, found, -, refused⟩ |
            ⟨textual, found, declared, exceeds⟩)
          · cases numbered.symm.trans byDatabase
          · exact absurd (none value given) present
          · exact .inl ⟨_, same found ▸ refused, rfl⟩
          · exact .inr ⟨_, _, same found, textual, declared, exceeds, rfl⟩

/-! ## The issues of one record -/

/-- The keys of a record that are no columns. -/
def foreignKeys (table : Table) (record : Record) : List String :=
  record.keys.filter fun key => table.columns.all (·.name ≠ key)

/-- The names of the cells of a record in the order in which they are looked at: keys that are no
columns, in the order of the keys, and then the columns as they are declared. -/
def cellNames (table : Table) (record : Record) : List String :=
  foreignKeys table record ++ table.columns.map (·.name)

theorem nodup_cellNames (distinct : (table.columns.map (·.name)).Nodup) (record : Record) :
    (cellNames table record).Nodup := by
  refine List.Nodup.append (record.nodup_keys.filter _) distinct ?_
  intro key foreign isColumn
  obtain ⟨column, member, same⟩ := List.mem_map.mp isColumn
  have differs := List.all_eq_true.mp (List.mem_filter.mp foreign).2 column member
  simp [same] at differs

/-- The issues of a record name its cells in order, and no cell twice. -/
theorem names_recordIssues (table : Table) (row : Nat) (record : Record) :
    ((recordIssues table row record).map (·.name)).Sublist (cellNames table record) := by
  have unknown : (unknownKeys table row record).map (·.name) = foreignKeys table record := by
    simp [unknownKeys, foreignKeys, Function.comp_def]
  have known (columns : List Column) : ((columns.filterMap fun column =>
      (cellCause? record column).map (⟨row, column.name, ·⟩ : IssueCause → Issue)).map
        (·.name)).Sublist (columns.map (·.name)) := by
    induction columns with
    | nil => exact .slnil
    | cons first rest ih =>
        cases cause : cellCause? record first with
        | none => simpa [cause] using ih.cons first.name
        | some found => simpa [cause] using ih
  rw [recordIssues, List.map_append, unknown, cellNames]
  exact (List.Sublist.refl _).append (known table.columns)

theorem row_of_mem_recordIssues {row : Nat} {issue : Issue}
    (member : issue ∈ recordIssues table row record) : issue.row = row := by
  rcases List.mem_append.mp member with unknown | known
  · obtain ⟨key, -, rfl⟩ := List.mem_map.mp unknown
    rfl
  · obtain ⟨column, -, found⟩ := List.mem_filterMap.mp known
    obtain ⟨cause, -, rfl⟩ := Option.map_eq_some_iff.mp found
    rfl

/-- **The issues of a record are its offending cells.** -/
theorem mem_recordIssues_iff {row : Nat} {issue : Issue}
    (integral : ∀ column ∈ table.columns, column.autoincrement = true → column.type = .integer) :
    issue ∈ recordIssues table row record ↔
      issue.row = row ∧ Offends table record issue.name issue.cause := by
  constructor
  · intro member
    refine ⟨row_of_mem_recordIssues member, ?_⟩
    rcases List.mem_append.mp member with unknown | known
    · obtain ⟨key, isKey, rfl⟩ := List.mem_map.mp unknown
      obtain ⟨given, foreign⟩ := List.mem_filter.mp isKey
      exact .unknown given (by simpa using foreign)
    · obtain ⟨column, isColumn, found⟩ := List.mem_filterMap.mp known
      obtain ⟨cause, faulty, rfl⟩ := Option.map_eq_some_iff.mp found
      exact .known isColumn ((cellCause?_eq_some_iff (integral column isColumn)).mp faulty)
  · obtain ⟨issueRow, name, cause⟩ := issue
    rintro ⟨rfl, offends⟩
    cases offends with
    | unknown given foreign =>
        refine List.mem_append_left _ (List.mem_map.mpr ⟨name, ?_, rfl⟩)
        exact List.mem_filter.mpr ⟨given, by simpa using foreign⟩
    | known isColumn offends =>
        refine List.mem_append_right _ (List.mem_filterMap.mpr ⟨_, isColumn, ?_⟩)
        rw [(cellCause?_eq_some_iff (integral _ isColumn)).mpr offends]
        rfl

/-! ## The issues of all records -/

variable {records : List Record}

theorem le_row_of_mem_issuesFrom {start : Nat} {issue : Issue}
    (member : issue ∈ issuesFrom table start records) : start ≤ issue.row := by
  induction records generalizing start with
  | nil => cases member
  | cons first rest ih =>
      rcases List.mem_append.mp member with own | later
      · exact Nat.le_of_eq (row_of_mem_recordIssues own).symm
      · exact Nat.le_of_succ_le (ih later)

/-- Counted from some row on, the issues of a row are those of its record. -/
theorem filter_issuesFrom (start index : Nat) :
    (issuesFrom table start records).filter (·.row = start + index) =
      match records[index]? with
      | some record => recordIssues table (start + index) record
      | none => [] := by
  induction records generalizing start index with
  | nil => rfl
  | cons first rest ih =>
      rw [issuesFrom, List.filter_append]
      cases index with
      | zero =>
          have own : (recordIssues table start first).filter (·.row = start) =
              recordIssues table start first :=
            List.filter_eq_self.mpr fun issue member => by simp [row_of_mem_recordIssues member]
          have none : (issuesFrom table (start + 1) rest).filter (·.row = start) = [] := by
            refine List.filter_eq_nil_iff.mpr fun issue member => ?_
            have behind := le_row_of_mem_issuesFrom member
            simp only [decide_eq_true_eq]
            omega
          simp [own, none]
      | succ index =>
          have none : (recordIssues table start first).filter (·.row = start + (index + 1)) = [] :=
            List.filter_eq_nil_iff.mpr fun issue member => by simp [row_of_mem_recordIssues member]
          rw [none, List.nil_append, List.getElem?_cons_succ,
            show start + (index + 1) = start + 1 + index by omega]
          exact ih (start + 1) index

/-- The issues of a row are those of its record. -/
theorem filter_issues (row : Nat) :
    (issues table records).filter (·.row = row) =
      match records[row]? with
      | some record => recordIssues table row record
      | none => [] := by
  have counted := @filter_issuesFrom table records 0 row
  rwa [Nat.zero_add] at counted

/-- **The issues are the offending cells of the records.** -/
theorem mem_issues_iff {issue : Issue}
    (integral : ∀ column ∈ table.columns, column.autoincrement = true → column.type = .integer) :
    issue ∈ issues table records ↔
      ∃ record, records[issue.row]? = some record ∧
        Offends table record issue.name issue.cause := by
  have inRow : issue ∈ issues table records ↔
      issue ∈ (issues table records).filter (·.row = issue.row) := by simp
  rw [inRow, filter_issues]
  cases records[issue.row]? with
  | none => simp
  | some record => simp [mem_recordIssues_iff integral]

/-- The issues stand in the order of the rows, and those of one row have different names. -/
theorem pairwise_issuesFrom (distinct : (table.columns.map (·.name)).Nodup) (start : Nat) :
    (issuesFrom table start records).Pairwise Issue.Precedes := by
  induction records generalizing start with
  | nil => exact .nil
  | cons first rest ih =>
      refine List.pairwise_append.mpr ⟨?_, ih (start + 1), ?_⟩
      · have names := (names_recordIssues table start first).nodup (nodup_cellNames distinct first)
        refine (List.pairwise_map.mp names).imp_of_mem ?_
        intro one other isOne isOther different
        exact .inr ⟨(row_of_mem_recordIssues isOne).trans (row_of_mem_recordIssues isOther).symm,
          different⟩
      · intro own isOwn later isLater
        have behind := le_row_of_mem_issuesFrom isLater
        have here := row_of_mem_recordIssues isOwn
        exact .inl (by omega)

/-! ## The main statement -/

theorem check_eq_error_iff {found : List Issue} :
    check table records = .error found ↔ found ≠ [] ∧ issues table records = found := by
  rw [check]
  cases issues table records with
  | nil => simp [eq_comm]
  | cons first rest =>
      simp only [List.isEmpty_cons, Bool.false_eq_true, if_false, Except.error.injEq]
      constructor
      · rintro rfl
        exact ⟨List.cons_ne_nil _ _, rfl⟩
      · exact fun both => both.2

/-- **The validator is exact.** For an accepted table it passes the records that comply, and it
reports each offending cell of the others once and nothing else. Different issues have different
paths. They stand in the order of the rows, and those of a row in the order of its cells. What is
reported of a row depends on the record in this row only. -/
theorem issues_exact {name : String} {specs : List ColumnSpec} {table : Table}
    (defined : Table.define name specs = .ok table) (records : List Record) :
    (check table records = .ok () ↔ ∀ record ∈ records, Complies table record) ∧
      (∀ found, check table records = .error found ↔
        found ≠ [] ∧ issues table records = found) ∧
      (∀ issue, issue ∈ issues table records ↔ ∃ record, records[issue.row]? = some record ∧
        Offends table record issue.name issue.cause) ∧
      ((issues table records).map (·.path)).Nodup ∧
      (issues table records).Pairwise (fun first second => first.row ≤ second.row) ∧
      (∀ row record, records[row]? = some record →
        (((issues table records).filter (·.row = row)).map (·.name)).Sublist
          (cellNames table record)) ∧
      ∀ others row, records[row]? = others[row]? →
        (issues table records).filter (·.row = row) = (issues table others).filter (·.row = row) := by
  have distinct := Table.nodup_names_of_define defined
  have integral : ∀ column ∈ table.columns,
      column.autoincrement = true → column.type = .integer := by
    obtain ⟨-, -, sound, rfl⟩ := Table.define_eq_ok_iff.mp defined
    intro column member
    obtain ⟨spec, declared, rfl⟩ := List.mem_map.mp member
    exact (sound spec declared).autoincrement
  have ordered : (issues table records).Pairwise Issue.Precedes := pairwise_issuesFrom distinct 0
  refine ⟨?_, fun found => check_eq_error_iff, fun issue => mem_issues_iff integral, ?_,
    ordered.imp Issue.Precedes.row_le, ?_, ?_⟩
  · rw [check_eq_ok_iff]
    refine forall₂_congr fun record member => ?_
    rw [← @recordIssues_eq_nil_iff _ _ 0, complies_iff, List.eq_nil_iff_forall_not_mem]
    constructor
    · intro none name cause offends
      exact none ⟨0, name, cause⟩ ((mem_recordIssues_iff integral).mpr ⟨rfl, offends⟩)
    · intro faultless issue found
      exact faultless _ _ ((mem_recordIssues_iff integral).mp found).2
  · exact List.pairwise_map.mpr (ordered.imp Issue.Precedes.path_ne)
  · intro row record found
    rw [filter_issues, found]
    exact names_recordIssues table row record
  · intro others row same
    rw [filter_issues, filter_issues, same]

/-- Backups with a number from the database, a path of at most eight characters, and a size. -/
def backupSpecs : List ColumnSpec :=
  [{ name := "id", type := .integer, primaryKey := true, autoincrement := true },
    { name := "path", type := .varchar, size := some 8 },
    { name := "sizeBytes", type := .integer }]

/-- Two backups, one without a size, and one with a fault in each cell and a color. -/
def faultyBackups : List Record :=
  [.ofList [("path", .text "/a")],
    .ofList [("id", .integer 5), ("path", .text "/a/very/long/path"), ("sizeBytes", .text "big"),
      ("color", .text "red")]]

/-- Of the first backup the missing size is reported, and of the second one all cells, the color
before the columns. The paths of these issues differ. -/
theorem issues_exact_backups : ∃ table found,
    Table.define "backups" backupSpecs = .ok table ∧ check table faultyBackups = .error found ∧
      found.map (·.message) = ["[0].sizeBytes: is required", "[1].color: unknown column",
        "[1].id: is assigned by the database", "[1].path: is 17 characters, maximum is 8",
        "[1].sizeBytes: INTEGER cannot hold a text value"] ∧
      (found.map (·.path)).Nodup := by
  have defined : Table.define "backups" backupSpecs =
      .ok ⟨"backups", backupSpecs.map fun spec => ⟨spec, "backups"⟩⟩ := rfl
  obtain ⟨-, reported, -, distinct, -⟩ := issues_exact defined faultyBackups
  refine ⟨_, _, defined, (reported _).mpr ⟨?_, rfl⟩, ?_, distinct⟩
  · decide
  · decide

end Validation

end TypedSql
