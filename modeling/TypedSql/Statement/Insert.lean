import TypedSql.Statement.Output

/-!
# INSERT statements and their records

A new insert resolves its records against the table. For every column that an insert writes,
in order, a cell that is missing or NULL takes the default of the column if it has one, and
otherwise NULL if the column is nullable. All other entries stay as they are, also those that
the table does not know.

A `Supply` says what each producer yields when it is asked for the k-th time, and `Calls`
counts how often each has been asked. Building an insert is the only thing that asks a
producer, so it takes the counts and returns the new ones.
-/

namespace TypedSql

set_option autoImplicit false

/-- What every producer yields at its calls, counted from zero. -/
abbrev Supply := ProducerId → Nat → Value

/-- How often every producer has been asked. -/
abbrev Calls := ProducerId → Nat

/-- No producer has been asked. -/
def Calls.none : Calls := fun _ => 0

/-- The counts after one more call. -/
def Calls.count (calls : Calls) (id : ProducerId) : Calls :=
  fun other => if other = id then calls id + 1 else calls other

/-- A statement that inserts records. -/
structure Insert where
  table : Table
  records : List Record
  returnShape : List Output
deriving DecidableEq

namespace Insert

/-! ## Resolving records -/

/-- Whether a record gives a column a value other than NULL. -/
def isPresent (record : Record) (column : Column) : Bool :=
  (record.get? column.name).any (!·.isNull)

/-- Fills the cell of one column. -/
def resolveCell (supply : Supply) : Record × Calls → Column → Record × Calls
  | (record, calls), column =>
      if isPresent record column then (record, calls)
      else
        match column.default with
        | some (.fixed value) => (record.insert column.name value, calls)
        | some (.producer id) =>
            (record.insert column.name (supply id (calls id)), calls.count id)
        | none =>
            if column.nullable then (record.insert column.name .null, calls) else (record, calls)

/-- Fills the cells of all written columns of a record. -/
def resolveRecord (supply : Supply) (shape : List Column) (record : Record) (calls : Calls) :
    Record × Calls :=
  shape.foldl (resolveCell supply) (record, calls)

/-- Resolves records one after another. -/
def resolveRecords (supply : Supply) (shape : List Column) :
    List Record → Calls → List Record × Calls
  | [], calls => ([], calls)
  | record :: rest, calls =>
      let (resolved, calls) := resolveRecord supply shape record calls
      let (others, calls) := resolveRecords supply shape rest calls
      (resolved :: others, calls)

/-! ## Building inserts -/

/-- The insert of records into a table, returning every column. -/
def ofRecords (supply : Supply) (table : Table) (records : List Record) (calls : Calls) :
    Insert × Calls :=
  let (resolved, calls) := resolveRecords supply table.insertShape records calls
  (⟨table, resolved, table.columns.map .ofColumn⟩, calls)

/-- The same insert, returning the columns of these names. -/
def returning (insert : Insert) (names : List String) : Except ResolutionError Insert := do
  let outputs ← names.mapM fun name => do
    let column ← insert.table.column name
    pure ⟨name, column⟩
  pure { insert with returnShape := outputs }

/-- The same insert, returning nothing. -/
def returningNothing (insert : Insert) : Insert := { insert with returnShape := [] }

end Insert

end TypedSql
