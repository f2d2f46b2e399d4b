import Mathlib.Data.List.Nodup
import TypedSql.Proofs.Definition
import TypedSql.Proofs.Validity

/-!
# Resolving records and asking producers

A producer is code of the application. It may keep a state from one call to the next and share it
with other producers, so what a record is filled with depends on all calls that were made before.
`Producers` answer from such a state, of any type, and `Insert.fillRecords` resolves records with
them. A supply, which counts the calls of each producer, is one kind of them
(`Insert.resolveRecords_eq_fillRecords`).

`Insert.requests` lists who has to be asked: record by record, and in a record column by column,
each written column that has a producer and is missing or NULL. The resolved records show that
exactly these calls are made, in this order. The state at the end is the one after them
(`Insert.state_fillRecords`), and each requested cell holds the answer that its producer gives in
the state after all requests before its own (`Insert.Fills`).

Resolving what is already resolved changes nothing and asks nobody, unless a default was NULL
(`Insert.fillRecords_of_resolved`). The main statement is `Insert.resolves_in_order`.
-/

set_option autoImplicit false

namespace TypedSql

/-! ## Producers with a state -/

/-- What every producer yields in a state, and the state that it leaves. -/
abbrev Producers (σ : Type) := ProducerId → σ → Value × σ

namespace Producers

variable {σ : Type} (producers : Producers σ)

/-- The state after producers have been asked one after another. -/
def after (asked : List ProducerId) (state : σ) : σ :=
  asked.foldl (fun state id => (producers id state).2) state

theorem after_append (first second : List ProducerId) (state : σ) :
    producers.after (first ++ second) state = producers.after second (producers.after first state) :=
  List.foldl_append ..

/-- The value of a default, and the state after it has been taken. -/
def draw (state : σ) : Default → Value × σ
  | .fixed value => (value, state)
  | .producer id => producers id state

end Producers

/-- Producers that yield what a supply says and count how often each has been asked. -/
def Supply.producers (supply : Supply) : Producers Calls :=
  fun id calls => (supply id (calls id), calls.count id)

/-- Asking the producers of a supply only counts the calls. -/
theorem Supply.after_producers (supply : Supply) (asked : List ProducerId) (calls : Calls)
    (id : ProducerId) : supply.producers.after asked calls id = calls id + asked.count id := by
  induction asked generalizing calls with
  | nil => rfl
  | cons first rest ih =>
      have next : supply.producers.after (first :: rest) calls =
          supply.producers.after rest (calls.count first) := rfl
      rw [next, ih, Calls.count, List.count_cons]
      by_cases same : first = id
      · subst same
        simp
        omega
      · simp [same, Ne.symm same]

/-- The producer that a column asks for a value. -/
def Column.producer? (column : Column) : Option ProducerId :=
  match column.default with
  | some (.producer id) => some id
  | _ => none

theorem Column.producer?_eq_some_iff {column : Column} {id : ProducerId} :
    column.producer? = some id ↔ column.default = some (.producer id) := by
  rw [producer?]
  rcases column.default with _ | _ | _ <;> simp

namespace Insert

section Filling

variable {σ : Type} (producers : Producers σ)

/-! ## Filling records -/

/-- Fills the cell of one column. -/
def fillCell : Record × σ → Column → Record × σ
  | (record, state), column =>
      if isPresent record column then (record, state)
      else
        match column.default with
        | some default =>
            let (value, next) := producers.draw state default
            (record.insert column.name value, next)
        | none => if column.nullable then (record.insert column.name .null, state) else (record, state)

/-- Fills the cells of all written columns of a record. -/
def fillRecord (shape : List Column) (record : Record) (state : σ) : Record × σ :=
  shape.foldl (fillCell producers) (record, state)

/-- Fills records one after another. -/
def fillRecords (shape : List Column) : List Record → σ → List Record × σ
  | [], state => ([], state)
  | record :: rest, state =>
      let (filled, next) := fillRecord producers shape record state
      let (others, last) := fillRecords shape rest next
      (filled :: others, last)

end Filling

/-! ### A supply -/

theorem resolveCell_eq_fillCell (supply : Supply) :
    resolveCell supply = fillCell supply.producers := by
  funext state column
  rw [resolveCell, fillCell]
  rcases column.default with _ | _ | _ <;> rfl

theorem resolveRecord_eq_fillRecord (supply : Supply) (shape : List Column) (record : Record)
    (calls : Calls) :
    resolveRecord supply shape record calls = fillRecord supply.producers shape record calls := by
  rw [resolveRecord, fillRecord, resolveCell_eq_fillCell]

/-- **Resolving records is filling them from a supply.** -/
theorem resolveRecords_eq_fillRecords (supply : Supply) (shape : List Column)
    (records : List Record) (calls : Calls) :
    resolveRecords supply shape records calls =
      fillRecords supply.producers shape records calls := by
  induction records generalizing calls with
  | nil => rfl
  | cons record rest ih => simp only [resolveRecords, fillRecords, resolveRecord_eq_fillRecord, ih]

/-! ## The requests -/

/-- A request to the producer of a column for the cell in a row. -/
structure Request where
  row : Nat
  column : Column
  producer : ProducerId

/-- A request comes before those of later rows, and before those of later columns in its row. -/
def Request.Precedes (shape : List Column) (first second : Request) : Prop :=
  first.row < second.row ∨
    first.row = second.row ∧ [first.column, second.column].Sublist shape

/-- No request comes before itself, since no column is written twice. -/
theorem Request.Precedes.ne {shape : List Column} (distinct : shape.Nodup)
    {first second : Request} (precedes : first.Precedes shape second) : first ≠ second := by
  rintro rfl
  rcases precedes with less | ⟨-, twice⟩
  · exact Nat.lt_irrefl _ less
  · exact List.nodup_iff_sublist.mp distinct _ twice

/-- The request for one cell, if there is one. -/
def request? (row : Nat) (record : Record) (column : Column) : Option Request :=
  if isPresent record column then none
  else column.producer?.map fun id => ⟨row, column, id⟩

/-- The requests for the written columns of a record. -/
def recordRequests (shape : List Column) (row : Nat) (record : Record) : List Request :=
  shape.filterMap (request? row record)

/-- The requests for records of which the first has this row. -/
def requestsFrom (shape : List Column) : Nat → List Record → List Request
  | _, [] => []
  | row, record :: rest => recordRequests shape row record ++ requestsFrom shape (row + 1) rest

/-- The requests for all cells of records, in order. -/
def requests (shape : List Column) (records : List Record) : List Request :=
  requestsFrom shape 0 records

section Requests

variable {shape : List Column} {row : Nat} {record : Record} {records : List Record}
  {column : Column} {request : Request}

theorem request?_eq_some_iff :
    request? row record column = some request ↔
      isPresent record column = false ∧ column.default = some (.producer request.producer) ∧
        request.row = row ∧ request.column = column := by
  obtain ⟨requestRow, requestColumn, producer⟩ := request
  rw [request?, ← Column.producer?_eq_some_iff]
  cases isPresent record column with
  | true => simp
  | false =>
      simp only [Bool.false_eq_true, if_false, Option.map_eq_some_iff, Request.mk.injEq, true_and]
      constructor
      · rintro ⟨id, asks, rfl, rfl, rfl⟩
        exact ⟨asks, rfl, rfl⟩
      · rintro ⟨asks, rfl, rfl⟩
        exact ⟨producer, asks, rfl, rfl, rfl⟩

theorem recordRequests_cons (first : Column) (rest : List Column) :
    recordRequests (first :: rest) row record =
      (request? row record first).toList ++ recordRequests rest row record := by
  rw [recordRequests, List.filterMap_cons]
  cases request? row record first <;> rfl

theorem recordRequests_append (front back : List Column) :
    recordRequests (front ++ back) row record =
      recordRequests front row record ++ recordRequests back row record :=
  List.filterMap_append

theorem mem_recordRequests_iff :
    request ∈ recordRequests shape row record ↔
      request.row = row ∧ request.column ∈ shape ∧
        request.column.default = some (.producer request.producer) ∧
        isPresent record request.column = false := by
  rw [recordRequests, List.mem_filterMap]
  constructor
  · rintro ⟨column, member, asks⟩
    obtain ⟨absent, default, isRow, rfl⟩ := request?_eq_some_iff.mp asks
    exact ⟨isRow, member, default, absent⟩
  · rintro ⟨isRow, member, default, absent⟩
    exact ⟨request.column, member, request?_eq_some_iff.mpr ⟨absent, default, isRow, rfl⟩⟩

/-- A request is for a cell without a value, in a written column that has the producer. -/
theorem mem_requestsFrom_iff :
    request ∈ requestsFrom shape row records ↔
      ∃ index record, request.row = row + index ∧ records[index]? = some record ∧
        request.column ∈ shape ∧ request.column.default = some (.producer request.producer) ∧
        isPresent record request.column = false := by
  induction records generalizing row with
  | nil => simp [requestsFrom]
  | cons first rest ih =>
      rw [requestsFrom, List.mem_append, mem_recordRequests_iff, ih]
      constructor
      · rintro (⟨isRow, asks⟩ | ⟨index, record, isRow, found, asks⟩)
        · exact ⟨0, first, isRow, rfl, asks⟩
        · exact ⟨index + 1, record, by omega, found, asks⟩
      · rintro ⟨index, record, isRow, found, asks⟩
        cases index with
        | zero =>
            cases found
            exact .inl ⟨isRow, asks⟩
        | succ index => exact .inr ⟨index, record, by omega, found, asks⟩

theorem mem_requests_iff :
    request ∈ requests shape records ↔
      request.column ∈ shape ∧ request.column.default = some (.producer request.producer) ∧
        ∃ record, records[request.row]? = some record ∧
          isPresent record request.column = false := by
  rw [requests, mem_requestsFrom_iff]
  constructor
  · rintro ⟨index, record, isRow, found, member, default, absent⟩
    rw [Nat.zero_add] at isRow
    exact ⟨member, default, record, isRow ▸ found, absent⟩
  · rintro ⟨member, default, record, found, absent⟩
    exact ⟨request.row, record, (Nat.zero_add _).symm, found, member, default, absent⟩

/-- Requests are made row by row, and column by column in a row. -/
theorem pairwise_requestsFrom :
    (requestsFrom shape row records).Pairwise (Request.Precedes shape) := by
  induction records generalizing row with
  | nil => exact .nil
  | cons record rest ih =>
      refine List.pairwise_append.mpr ⟨?_, ih, ?_⟩
      · rw [recordRequests, List.pairwise_filterMap, List.pairwise_iff_forall_sublist]
        intro one other inOrder first isFirst second isSecond
        obtain ⟨-, -, firstRow, rfl⟩ := request?_eq_some_iff.mp isFirst
        obtain ⟨-, -, secondRow, rfl⟩ := request?_eq_some_iff.mp isSecond
        exact .inr ⟨firstRow.trans secondRow.symm, inOrder⟩
      · intro first isFirst second isSecond
        have firstRow := (mem_recordRequests_iff.mp isFirst).1
        obtain ⟨index, -, secondRow, -⟩ := mem_requestsFrom_iff.mp isSecond
        exact .inl (by omega)

/-- The producers that a record asks depend on its cells in the written columns only. -/
theorem recordRequests_congr {other : Record}
    (same : ∀ column ∈ shape, record.get? column.name = other.get? column.name) :
    recordRequests shape row record = recordRequests shape row other := by
  refine List.filterMap_congr ?_
  intro column member
  rw [request?, request?, isPresent, isPresent, same column member]

end Requests

section Cells

variable {σ : Type} {producers : Producers σ} {shape : List Column} {column : Column}
  {record : Record} {records : List Record} {state : σ}

/-! ## Filled cells -/

/-- What a cell holds when it has been filled in a state. -/
def filledCell? (producers : Producers σ) (state : σ) (record : Record) (column : Column) :
    Option Value :=
  if isPresent record column then record.get? column.name
  else
    match column.default with
    | some default => some (producers.draw state default).1
    | none => if column.nullable then some .null else record.get? column.name

theorem get?_fillCell (filling : Record × σ) :
    (fillCell producers filling column).1.get? column.name =
      filledCell? producers filling.2 filling.1 column := by
  rw [fillCell, filledCell?]
  split
  · rfl
  · cases column.default with
    | some default => exact (Dictionary.get?_insert ..).trans (if_pos rfl)
    | none =>
        dsimp only
        split
        · exact (Dictionary.get?_insert ..).trans (if_pos rfl)
        · rfl

/-- Filling the cell of one column leaves the others as they are. -/
theorem get?_fillCell_of_ne {name : String} (other : name ≠ column.name) (filling : Record × σ) :
    (fillCell producers filling column).1.get? name = filling.1.get? name := by
  rw [fillCell]
  split
  · rfl
  · cases column.default with
    | some default => exact (Dictionary.get?_insert ..).trans (if_neg other)
    | none =>
        dsimp only
        split
        · exact (Dictionary.get?_insert ..).trans (if_neg other)
        · rfl

/-- Filling a cell asks the producer that is requested for it, and no other. -/
theorem state_fillCell (row : Nat) (filling : Record × σ) :
    (fillCell producers filling column).2 =
      producers.after ((request? row filling.1 column).toList.map (·.producer)) filling.2 := by
  rw [fillCell, request?, Column.producer?]
  split
  · rfl
  · rcases column.default with _ | _ | _
    · dsimp only
      split <;> rfl
    · rfl
    · rfl

/-- The cells of a record that belong to no written column stay as they are. -/
theorem get?_fillRecord_of_notMem {name : String} (foreign : name ∉ shape.map (·.name)) :
    (fillRecord producers shape record state).1.get? name = record.get? name := by
  rw [fillRecord]
  generalize start : (record, state) = filling
  have given : record = filling.1 := by rw [← start]
  rw [given]
  clear start given
  induction shape generalizing filling with
  | nil => rfl
  | cons first rest ih =>
      simp only [List.map_cons, List.mem_cons, not_or] at foreign
      rw [List.foldl_cons, ih foreign.2, get?_fillCell_of_ne foreign.1]

theorem fillRecord_cons (first : Column) (rest : List Column) :
    fillRecord producers (first :: rest) record state =
      fillRecord producers rest (fillCell producers (record, state) first).1
        (fillCell producers (record, state) first).2 := rfl

theorem fillRecord_append (front back : List Column) :
    fillRecord producers (front ++ back) record state =
      fillRecord producers back (fillRecord producers front record state).1
        (fillRecord producers front record state).2 := by
  rw [fillRecord, List.foldl_append]
  rfl

/-- **Filling a record asks the producers that are requested for it, in order.** -/
theorem state_fillRecord (distinct : (shape.map (·.name)).Nodup) (row : Nat) :
    (fillRecord producers shape record state).2 =
      producers.after ((recordRequests shape row record).map (·.producer)) state := by
  induction shape generalizing record state with
  | nil => rfl
  | cons first rest ih =>
      rw [List.map_cons, List.nodup_cons] at distinct
      -- The cell that has been filled is none of those that are still to be filled.
      have kept : recordRequests rest row (fillCell producers (record, state) first).1 =
          recordRequests rest row record := by
        refine recordRequests_congr ?_
        intro column member
        refine get?_fillCell_of_ne ?_ _
        intro same
        exact distinct.1 (same ▸ List.mem_map_of_mem member)
      rw [fillRecord_cons, ih distinct.2, kept, state_fillCell row, recordRequests_cons,
        List.map_append, Producers.after_append]

/-- **A filled cell is filled once**, from the given record and after the requests of the columns
before. -/
theorem get?_fillRecord {front back : List Column}
    (distinct : ((front ++ column :: back).map (·.name)).Nodup) (row : Nat) :
    (fillRecord producers (front ++ column :: back) record state).1.get? column.name =
      filledCell? producers
        (producers.after ((recordRequests front row record).map (·.producer)) state) record
        column := by
  rw [List.map_append, List.map_cons, List.nodup_append] at distinct
  obtain ⟨distinctFront, distinctBack, apart⟩ := distinct
  have notFront : column.name ∉ front.map (·.name) := by
    intro member
    exact apart _ member _ List.mem_cons_self rfl
  have notBack : column.name ∉ back.map (·.name) := (List.nodup_cons.mp distinctBack).1
  have given : (fillRecord producers front record state).1.get? column.name =
      record.get? column.name := get?_fillRecord_of_notMem notFront
  rw [fillRecord_append, fillRecord_cons, get?_fillRecord_of_notMem notBack, get?_fillCell,
    state_fillRecord distinctFront row]
  rw [filledCell?, filledCell?, isPresent, isPresent, given]

/-! ## Filled records -/

theorem length_fillRecords :
    (fillRecords producers shape records state).1.length = records.length := by
  induction records generalizing state with
  | nil => rfl
  | cons record rest ih => exact congrArg (· + 1) ih

/-- **Filling records asks the producers that are requested for them, in order.** -/
theorem state_fillRecords (distinct : (shape.map (·.name)).Nodup) (row : Nat) :
    (fillRecords producers shape records state).2 =
      producers.after ((requestsFrom shape row records).map (·.producer)) state := by
  induction records generalizing state row with
  | nil => rfl
  | cons record rest ih =>
      rw [requestsFrom, List.map_append, Producers.after_append, ← state_fillRecord distinct,
        ← ih (row + 1)]
      rfl

/-- Each record is filled after the records before. -/
theorem getElem?_fillRecords (index : Nat) :
    (fillRecords producers shape records state).1[index]? =
      records[index]?.map fun record =>
        (fillRecord producers shape record
          (fillRecords producers shape (records.take index) state).2).1 := by
  induction records generalizing state index with
  | nil => rfl
  | cons record rest ih =>
      cases index with
      | zero => rfl
      | succ index => simp only [fillRecords, List.getElem?_cons_succ, ih, List.take_succ_cons]

/-! ### The answers -/

/-- Where the cell of a row and a column is requested, the requests before it are those of the
records before and of the columns before. -/
theorem requestsFrom_split (front : List Column) (column : Column) (back : List Column)
    (row : Nat) {index : Nat} (found : records[index]? = some record) :
    ∃ later, requestsFrom (front ++ column :: back) row records =
      requestsFrom (front ++ column :: back) row (records.take index) ++
        recordRequests front (row + index) record ++
        (request? (row + index) record column).toList ++ later := by
  induction records generalizing row index with
  | nil => cases found
  | cons first rest ih =>
      cases index with
      | zero =>
          cases found
          refine ⟨recordRequests back row record ++
            requestsFrom (front ++ column :: back) (row + 1) rest, ?_⟩
          rw [requestsFrom, recordRequests_append, recordRequests_cons]
          simp only [List.take_zero, requestsFrom, List.nil_append, List.append_assoc,
            Nat.add_zero]
      | succ index =>
          obtain ⟨later, split⟩ := ih (row + 1) found
          refine ⟨later, ?_⟩
          rw [requestsFrom, split, List.take_succ_cons, requestsFrom]
          simp only [List.append_assoc, Nat.add_assoc, Nat.add_comm 1]

end Cells

/-! ### What the cells of a row hold -/

/-- The cells of a row after records have been filled. -/
structure FillsRow {σ : Type} (producers : Producers σ) (shape : List Column)
    (records : List Record) (before : σ) (row : Nat) (record cells : Record) : Prop where
  /-- What belongs to no written column stays. -/
  foreign : ∀ key ∉ shape.map (·.name), cells.get? key = record.get? key
  /-- A value that is given stays. -/
  present : ∀ column ∈ shape, isPresent record column = true →
    cells.get? column.name = record.get? column.name
  /-- A missing value becomes the fixed default of the column. -/
  fixed : ∀ column ∈ shape, isPresent record column = false →
    ∀ value, column.default = some (.fixed value) → cells.get? column.name = some value
  /-- A missing value becomes the answer to the request for the cell, in the state after all
  requests before this one. -/
  produced : ∀ column ∈ shape, isPresent record column = false →
    ∀ id, column.default = some (.producer id) →
      ∃ earlier later, requests shape records = earlier ++ ⟨row, column, id⟩ :: later ∧
        cells.get? column.name =
          some (producers id (producers.after (earlier.map (·.producer)) before)).1
  /-- Without a default, the cell of a nullable column becomes NULL. -/
  nullable : ∀ column ∈ shape, isPresent record column = false → column.default = none →
    column.nullable = true → cells.get? column.name = some .null
  /-- Without a default, the cell of another column stays as it is. -/
  bare : ∀ column ∈ shape, isPresent record column = false → column.default = none →
    column.nullable = false → cells.get? column.name = record.get? column.name

/-- Records are filled row by row, and the state at the end is the one after all requests. -/
structure Fills {σ : Type} (producers : Producers σ) (shape : List Column) (records : List Record)
    (before : σ) (filled : List Record) (last : σ) : Prop where
  length : filled.length = records.length
  state : last = producers.after ((requests shape records).map (·.producer)) before
  rows : ∀ row record cells, records[row]? = some record → filled[row]? = some cells →
    FillsRow producers shape records before row record cells

section Filled

variable {σ : Type} {producers : Producers σ} {shape : List Column} {column : Column}
  {record cells : Record} {records : List Record} {state : σ} {row : Nat}

/-- A filled cell, and where the requests for it stand among all requests. -/
theorem get?_of_getElem?_fillRecords (distinct : (shape.map (·.name)).Nodup)
    (found : records[row]? = some record)
    (isFilled : (fillRecords producers shape records state).1[row]? = some cells)
    (member : column ∈ shape) :
    ∃ earlier later, requests shape records =
        earlier ++ (request? row record column).toList ++ later ∧
      (∃ front back, shape = front ++ column :: back ∧
        earlier = requests shape (records.take row) ++ recordRequests front row record) ∧
      cells.get? column.name = filledCell? producers
        (producers.after (earlier.map (·.producer)) state) record column := by
  obtain ⟨front, back, rfl⟩ := List.append_of_mem member
  obtain ⟨later, split⟩ := requestsFrom_split front column back 0 found
  rw [Nat.zero_add] at split
  refine ⟨_, later, split, ⟨front, back, rfl, rfl⟩, ?_⟩
  rw [getElem?_fillRecords, found, Option.map_some, Option.some.injEq] at isFilled
  rw [← isFilled, get?_fillRecord distinct row, state_fillRecords distinct 0, List.map_append,
    Producers.after_append]

/-- **Filled records have the cells that they should have.** -/
theorem fills_fillRecords (producers : Producers σ) (distinct : (shape.map (·.name)).Nodup)
    (records : List Record) (state : σ) :
    Fills producers shape records state (fillRecords producers shape records state).1
      (fillRecords producers shape records state).2 where
  length := length_fillRecords
  state := state_fillRecords distinct 0
  rows := by
    intro row record cells found isFilled
    have holds (column : Column) (member : column ∈ shape) :=
      get?_of_getElem?_fillRecords distinct found isFilled member
    constructor
    case foreign =>
      intro key foreign
      rw [getElem?_fillRecords, found, Option.map_some, Option.some.injEq] at isFilled
      rw [← isFilled, get?_fillRecord_of_notMem foreign]
    case present =>
      intro column member present
      obtain ⟨_, _, -, -, holds⟩ := holds column member
      rw [holds, filledCell?, if_pos present]
    case fixed =>
      intro column member absent value default
      obtain ⟨_, _, -, -, holds⟩ := holds column member
      rw [holds, filledCell?, absent, default]
      rfl
    case produced =>
      intro column member absent id default
      obtain ⟨earlier, later, split, -, holds⟩ := holds column member
      have asks : request? row record column = some ⟨row, column, id⟩ :=
        request?_eq_some_iff.mpr ⟨absent, default, rfl, rfl⟩
      rw [asks, Option.toList_some, List.append_assoc] at split
      refine ⟨earlier, later, split, ?_⟩
      rw [holds, filledCell?, absent, default]
      rfl
    case nullable =>
      intro column member absent default nullable
      obtain ⟨_, _, -, -, holds⟩ := holds column member
      rw [holds, filledCell?, absent, default]
      exact if_pos nullable
    case bare =>
      intro column member absent default nullable
      obtain ⟨_, _, -, -, holds⟩ := holds column member
      rw [holds, filledCell?, absent, default]
      exact if_neg (Bool.eq_false_iff.mp nullable)

end Filled

/-! ## Filling again -/

/-- Every default that has been used has given a value other than NULL. -/
def Complete (shape : List Column) (records filled : List Record) : Prop :=
  ∀ (row : Nat) (record cells : Record), records[row]? = some record → filled[row]? = some cells →
    ∀ column ∈ shape, isPresent record column = false → column.default ≠ none →
      isPresent cells column = true

/-- There is nothing to fill in a cell. -/
def Settled (record : Record) (column : Column) : Prop :=
  isPresent record column = true ∨
    column.default = none ∧ (column.nullable = true → record.get? column.name = some .null)

section Again

variable {σ : Type} {producers : Producers σ} {shape : List Column} {column : Column}
  {record : Record} {records filled : List Record} {state : σ} {row : Nat}

theorem fillCell_of_settled (settled : Settled record column) :
    fillCell producers (record, state) column = (record, state) := by
  rw [fillCell]
  rcases settled with present | ⟨default, null⟩
  · exact if_pos present
  · split
    · rfl
    · rw [default]
      dsimp only
      split
      case isTrue nullable => rw [Dictionary.insert_of_get? (null nullable)]
      case isFalse => rfl

theorem fillRecord_of_settled (settled : ∀ column ∈ shape, Settled record column) :
    fillRecord producers shape record state = (record, state) := by
  induction shape with
  | nil => rfl
  | cons first rest ih =>
      obtain ⟨here, others⟩ := List.forall_mem_cons.mp settled
      rw [fillRecord_cons, fillCell_of_settled here, ih others]

/-- Settled records are filled with nothing. -/
theorem fillRecords_of_settled
    (settled : ∀ record ∈ records, ∀ column ∈ shape, Settled record column) :
    fillRecords producers shape records state = (records, state) := by
  induction records with
  | nil => rfl
  | cons record rest ih =>
      obtain ⟨here, others⟩ := List.forall_mem_cons.mp settled
      simp only [fillRecords, fillRecord_of_settled here, ih others]

/-- Nobody is asked for settled records. -/
theorem requestsFrom_of_settled
    (settled : ∀ record ∈ records, ∀ column ∈ shape, Settled record column) :
    requestsFrom shape row records = [] := by
  refine List.eq_nil_iff_forall_not_mem.mpr ?_
  intro request member
  obtain ⟨index, record, -, found, isColumn, default, absent⟩ := mem_requestsFrom_iff.mp member
  rcases settled record (List.mem_of_getElem? found) _ isColumn with present | ⟨none, -⟩
  · rw [absent] at present
    cases present
  · rw [default] at none
    cases none

/-- Filled records are settled, unless a default was NULL. -/
theorem Fills.settled {last : σ} (fills : Fills producers shape records state filled last)
    (complete : Complete shape records filled) :
    ∀ cells ∈ filled, ∀ column ∈ shape, Settled cells column := by
  intro cells isFilled column member
  obtain ⟨row, found⟩ := List.mem_iff_getElem?.mp isFilled
  have inRecords : row < records.length := by
    rw [← fills.length]
    exact (List.getElem?_eq_some_iff.mp found).1
  have given := List.getElem?_eq_getElem inRecords
  have holds := fills.rows row _ cells given found
  cases present : isPresent records[row] column with
  | true => exact .inl (by rwa [isPresent, holds.present column member present])
  | false =>
      cases default : column.default with
      | none => exact .inr ⟨default, holds.nullable column member present default⟩
      | some value =>
          refine .inl (complete row _ cells given found column member present ?_)
          rw [default]
          exact Option.some_ne_none value

end Again

/-! ## A producer of one column -/

/-- A written column is the only one that asks a producer. -/
def AsksAlone (shape : List Column) (column : Column) (id : ProducerId) : Prop :=
  ∀ other ∈ shape, other.default = some (.producer id) ↔ other = column

section Alone

variable {shape : List Column} {column : Column} {id : ProducerId} {record : Record}
  {records : List Record} {row : Nat}

theorem AsksAlone.default_ne {other : Column} (alone : AsksAlone shape column id)
    (member : other ∈ shape) (different : other ≠ column) :
    other.default ≠ some (.producer id) :=
  fun default => different ((alone other member).mp default)

/-- A producer that no written column has is not requested. -/
theorem count_recordRequests_eq_zero
    (unused : ∀ column ∈ shape, column.default ≠ some (.producer id)) :
    ((recordRequests shape row record).map (·.producer)).count id = 0 := by
  rw [List.count_eq_zero, List.mem_map]
  rintro ⟨request, member, rfl⟩
  obtain ⟨-, isColumn, default, -⟩ := mem_recordRequests_iff.mp member
  exact unused _ isColumn default

/-- The columns before the one that asks a producer do not ask it. -/
theorem AsksAlone.count_front {front back : List Column}
    (distinct : (front ++ column :: back).Nodup)
    (alone : AsksAlone (front ++ column :: back) column id) :
    ((recordRequests front row record).map (·.producer)).count id = 0 := by
  refine count_recordRequests_eq_zero ?_
  intro other member
  refine alone.default_ne (List.mem_append_left _ member) ?_
  exact (List.nodup_append.mp distinct).2.2 other member column List.mem_cons_self

/-- The columns behind the one that asks a producer do not ask it. -/
theorem AsksAlone.count_back {front back : List Column}
    (distinct : (front ++ column :: back).Nodup)
    (alone : AsksAlone (front ++ column :: back) column id) :
    ((recordRequests back row record).map (·.producer)).count id = 0 := by
  refine count_recordRequests_eq_zero ?_
  intro other member
  refine alone.default_ne (List.mem_append_right _ (List.mem_cons_of_mem _ member)) ?_
  rintro rfl
  exact (List.nodup_cons.mp (List.nodup_append.mp distinct).2.1).1 member

/-- The producer of one written column is requested for the records without a value in it. -/
theorem AsksAlone.count_requestsFrom (distinct : shape.Nodup)
    (alone : AsksAlone shape column id) (member : column ∈ shape) :
    ((requestsFrom shape row records).map (·.producer)).count id =
      records.countP (!isPresent · column) := by
  obtain ⟨front, back, rfl⟩ := List.append_of_mem member
  have asks : column.producer? = some id :=
    Column.producer?_eq_some_iff.mpr ((alone column member).mpr rfl)
  induction records generalizing row with
  | nil => rfl
  | cons record rest ih =>
      rw [requestsFrom, recordRequests_append, recordRequests_cons, List.countP_cons,
        ← @ih (row + 1)]
      simp only [List.map_append, List.count_append, alone.count_front distinct,
        alone.count_back distinct, request?, asks]
      cases isPresent record column <;> simp [Nat.add_comm]

/-- **The k-th value of a producer goes to the k-th record that needs it**, when one written column
asks the producer. -/
theorem AsksAlone.get?_fillRecords {supply : Supply} {calls : Calls} {cells : Record}
    (distinct : (shape.map (·.name)).Nodup) (member : column ∈ shape)
    (alone : AsksAlone shape column id) (found : records[row]? = some record)
    (isFilled : (fillRecords supply.producers shape records calls).1[row]? = some cells)
    (absent : isPresent record column = false) :
    cells.get? column.name =
      some (supply id (calls id + (records.take row).countP (!isPresent · column))) := by
  obtain ⟨earlier, later, -, ⟨front, back, rfl, rfl⟩, holds⟩ :=
    get?_of_getElem?_fillRecords distinct found isFilled member
  have columns := List.Nodup.of_map _ distinct
  rw [holds, filledCell?, absent, (alone column member).mpr rfl]
  show some (supply id _) = _
  rw [Supply.after_producers, List.map_append, List.count_append, requests,
    alone.count_requestsFrom columns member, alone.count_front columns, Nat.add_zero]

end Alone

/-! ## Building an insert -/

theorem ofRecords_eq_fillRecords (supply : Supply) (table : Table) (records : List Record)
    (calls : Calls) :
    ofRecords supply table records calls =
      (⟨table, (fillRecords supply.producers table.insertShape records calls).1,
        table.columns.map .ofColumn⟩,
        (fillRecords supply.producers table.insertShape records calls).2) := by
  rw [ofRecords, resolveRecords_eq_fillRecords]

/-- **Resolving records asks the producers that are requested, in order, and fills the cells with
their answers; resolving again changes nothing.** This holds of producers with any state, and of
an insert that is built from a supply. There the k-th value that a producer yields goes to the
k-th record that needs it, as long as only one column has the producer. -/
theorem resolves_in_order {name : String} {specs : List ColumnSpec} {table : Table}
    (defined : Table.define name specs = .ok table) (records : List Record) :
    let shape := table.insertShape
    let asked := requests shape records
    (∀ request, request ∈ asked ↔
      request.column ∈ table.columns ∧ request.column.autoincrement = false ∧
        request.column.default = some (.producer request.producer) ∧
        ∃ record, records[request.row]? = some record ∧
          isPresent record request.column = false) ∧
    asked.Pairwise (Request.Precedes shape) ∧ asked.Nodup ∧
    (∀ (σ : Type) (producers : Producers σ) (before : σ),
      let filled := (fillRecords producers shape records before).1
      Fills producers shape records before filled
          (fillRecords producers shape records before).2 ∧
        (Complete shape records filled → ∀ (τ : Type) (others : Producers τ) (state : τ),
          fillRecords others shape filled state = (filled, state))) ∧
    ∀ (supply : Supply) (calls : Calls),
      let insert := (ofRecords supply table records calls).1
      let last := (ofRecords supply table records calls).2
      insert.table = table ∧
      Fills supply.producers shape records calls insert.records last ∧
      (∀ id, last id = calls id + (asked.map (·.producer)).count id) ∧
      (∀ column ∈ shape, ∀ id, AsksAlone shape column id →
        last id = calls id + records.countP (!isPresent · column) ∧
        ∀ (row : Nat) (record cells : Record), records[row]? = some record →
          insert.records[row]? = some cells → isPresent record column = false →
            cells.get? column.name =
              some (supply id (calls id + (records.take row).countP (!isPresent · column)))) ∧
      (Complete shape records insert.records → ∀ (again : Supply) (calls : Calls),
        requests shape insert.records = [] ∧
          ofRecords again table insert.records calls = (insert, calls)) := by
  intro shape asked
  have distinct : (shape.map (·.name)).Nodup :=
    (Table.nodup_names_of_define defined).sublist (List.filter_sublist.map _)
  have columns : shape.Nodup := .of_map _ distinct
  have inOrder : asked.Pairwise (Request.Precedes shape) := pairwise_requestsFrom
  refine ⟨?_, inOrder, inOrder.imp (Request.Precedes.ne columns), ?_, ?_⟩
  · intro request
    rw [mem_requests_iff, mem_insertShape_iff, and_assoc]
  · intro σ producers before filled
    have fills := fills_fillRecords producers distinct records before
    refine ⟨fills, ?_⟩
    intro complete τ others state
    exact fillRecords_of_settled (fills.settled complete)
  · intro supply calls
    rw [ofRecords_eq_fillRecords]
    dsimp only
    have fills := fills_fillRecords supply.producers distinct records calls
    refine ⟨rfl, fills, ?_, ?_, ?_⟩
    · intro id
      rw [fills.state, Supply.after_producers]
    · intro column member id alone
      refine ⟨?_, ?_⟩
      · rw [fills.state, Supply.after_producers, requests,
          alone.count_requestsFrom columns member]
      · intro row record cells found isFilled absent
        exact alone.get?_fillRecords distinct member found isFilled absent
    · intro complete again calls
      have settled := fills.settled complete
      refine ⟨requestsFrom_of_settled settled, ?_⟩
      rw [ofRecords_eq_fillRecords, fillRecords_of_settled settled]

/-- The table of jobs. -/
def jobTable : Table := ⟨"jobs", jobSpecs.map fun spec => ⟨spec, "jobs"⟩⟩

/-- Three jobs, of which only the second has a state and a place. -/
def jobs : List Record :=
  [.ofList [("jobState", .null)],
    .ofList [("jobState", .text "running"), ("place", .integer 3)], .empty]

/-- The two jobs without a place get the next two, and building the insert again asks nobody. -/
theorem resolves_in_order_jobs :
    Table.define "jobs" jobSpecs = .ok jobTable ∧
      let insert := (ofRecords countingSupply jobTable jobs fun _ => 10).1
      (ofRecords countingSupply jobTable jobs fun _ => 10).2 ⟨0⟩ = 12 ∧
        insert.records.map (·.get? "place") =
          [some (.integer 10), some (.integer 3), some (.integer 11)] ∧
        ofRecords countingSupply jobTable insert.records Calls.none = (insert, Calls.none) := by
  have defined : Table.define "jobs" jobSpecs = .ok jobTable := rfl
  obtain ⟨-, -, -, -, built⟩ := resolves_in_order defined jobs
  obtain ⟨-, -, asked, -, again⟩ := built countingSupply fun _ => 10
  have complete : ∀ cells ∈ (ofRecords countingSupply jobTable jobs fun _ => 10).1.records,
      ∀ column ∈ jobTable.insertShape, isPresent cells column = true := by
    decide
  refine ⟨defined, asked ⟨0⟩, rfl, (again ?_ countingSupply Calls.none).2⟩
  intro row record cells _ isFilled column member _ _
  exact complete cells (List.mem_of_getElem? isFilled) column member

end Insert

end TypedSql
