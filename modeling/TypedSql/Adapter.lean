import TypedSql.ConnectionConfig
import TypedSql.Request

/-!
# Adapters

An adapter sends requests to a database and tells its loggers. What it needs of a database is
a `Backend`: running a statement, and beginning, committing and rolling back a transaction. A
backend that refuses leaves its state as it was, so that a refusal carries no state.

A state is that of a connection at hand. Taking one from a pool comes before every request and
before every transaction, and is assumed to succeed. A pool that is closed, or that has no
connection free in time, fails a request before it is looked at, and nobody is told.

Every call leaves a trace: the request, what it came to, and what was done for it, in its order.
Before a statement is run every logger in turn is told of it, and is told again with the error if
it is refused. A request that fails before its statement is run, or when its rows are decoded, is
told to nobody.

`Work` is what is done in a transaction, a program whose next request depends on what the
earlier ones came to. A transaction commits work that succeeds and rolls back work that fails.
-/

namespace TypedSql

set_option autoImplicit false

/-! ## Backends -/

/-- What an adapter needs of a database with states of some type. -/
structure Backend (State : Type) where
  run : State → Compiled → Except Engine.EngineError (Engine.Reply × State)
  begin : State → Except Engine.EngineError State
  commit : State → Except Engine.EngineError State
  rollback : State → Except Engine.EngineError State

/-- The backend of connections to the engine. -/
def Backend.sqlite : Backend Engine.Connection where
  run connection statement := (connection.run statement).mapError .refused
  begin connection := .ok connection.begin
  commit connection := .ok connection.commit
  rollback connection := .ok connection.rollback

/-! ## Logs -/

/-- What a logger sees. -/
inductive LogEvent where
  | sent (statement : Compiled)
  | refused (statement : Compiled) (error : Engine.EngineError)
deriving DecidableEq, Repr

/-- What one of the loggers sees. -/
structure LogEntry where
  logger : Nat
  event : LogEvent
deriving DecidableEq, Repr

/-- What an adapter does for a request: it tells a logger of an event, or has the database run a
statement. -/
inductive Effect where
  | tell (entry : LogEntry)
  | run (statement : Compiled)
deriving DecidableEq, Repr

/-- What a logger sees of an effect. -/
def Effect.seen? : Effect → Option LogEntry
  | tell entry => some entry
  | run _ => none

/-- A request with what it came to and what was done for it. -/
structure Call where
  request : Request
  result : Except AdapterError Response
  effects : List Effect

/-- What the loggers saw of a call. -/
def Call.log (call : Call) : List LogEntry := call.effects.filterMap (·.seen?)

/-! ## Single requests -/

/-- A backend and the number of loggers. -/
structure Adapter (State : Type) where
  backend : Backend State
  loggers : Nat := 0

/-- What work comes to: its result, the state it leaves, and the calls it made. -/
structure Outcome (State α : Type) where
  result : Except AdapterError α
  state : State
  calls : List Call := []

namespace Adapter

variable {State α : Type}

/-- Tells all loggers of an event. -/
def announce (adapter : Adapter State) (event : LogEvent) : List Effect :=
  (List.range adapter.loggers).map fun logger => .tell ⟨logger, event⟩

/-- Sends a statement. -/
def send (adapter : Adapter State) (request : Request) (statement : Compiled) (state : State) :
    Call × State :=
  match adapter.backend.run state statement with
  | .ok (reply, after) =>
      (⟨request, request.interpret reply, adapter.announce (.sent statement) ++ [.run statement]⟩,
        after)
  | .error error =>
      (⟨request, .error (.execution error), adapter.announce (.sent statement) ++
        .run statement :: adapter.announce (.refused statement error)⟩, state)

/-- Performs a request on a connection that has been taken from the pool. -/
def perform (adapter : Adapter State) (request : Request) (state : State) : Call × State :=
  match request.prepare with
  | .ok statement => adapter.send request statement state
  | .error error => (⟨request, .error error, []⟩, state)

/-! ## Transactions -/

/-- Begins a transaction. -/
def begin (adapter : Adapter State) (state : State) : Except AdapterError State :=
  (adapter.backend.begin state).mapError .execution

/-- Commits a transaction. -/
def commit (adapter : Adapter State) (state : State) : Except AdapterError State :=
  (adapter.backend.commit state).mapError .execution

/-- Rolls a transaction back. -/
def rollback (adapter : Adapter State) (state : State) : Except AdapterError State :=
  (adapter.backend.rollback state).mapError .execution

/-- The state after a transaction that is given up: rolled back, as far as that succeeds. -/
def abandon (adapter : Adapter State) (state : State) : State :=
  match adapter.rollback state with
  | .ok before => before
  | .error _ => state

end Adapter

/-- What is done in a transaction: a request and what follows its result, or the end. -/
inductive Work (α : Type) where
  | finish (result : Except AdapterError α)
  | request (request : Request) (next : Except AdapterError Response → Work α)

namespace Work

variable {State α : Type}

/-- Does work with an adapter. -/
def run (adapter : Adapter State) : Work α → State → Outcome State α
  | finish result, state => { result := result, state := state }
  | request first next, state =>
      let (call, after) := adapter.perform first state
      let rest := (next call.result).run adapter after
      { rest with calls := call :: rest.calls }

/-- The work of performing requests one after another up to the first failure, and of
counting them. -/
def ofRequests (done : Nat) : List Request → Work Nat
  | [] => finish (.ok done)
  | first :: rest => request first fun
      | .ok _ => ofRequests (done + 1) rest
      | .error error => finish (.error error)

end Work

namespace Adapter

variable {State α : Type}

/-- Ends a transaction after its work: commits it if the work succeeded and gives it up if the
work or the commit failed. -/
def conclude (adapter : Adapter State) (outcome : Outcome State α) : Outcome State α :=
  match outcome.result with
  | .error _ => { outcome with state := adapter.abandon outcome.state }
  | .ok _ =>
      match adapter.commit outcome.state with
      | .ok after => { outcome with state := after }
      | .error error =>
          { outcome with result := .error error, state := adapter.abandon outcome.state }

/-- Does work in a transaction. -/
def transaction (adapter : Adapter State) (work : Work α) (state : State) : Outcome State α :=
  match adapter.begin state with
  | .ok opened => adapter.conclude (work.run adapter opened)
  | .error error => { result := .error error, state := state }

end Adapter

/-! ## Connecting -/

/-- Connects to the database of the settings, where `file` tells what a path leads to. -/
def ConnectionConfig.connect (config : ConnectionConfig) (file : String → Engine.FileState) :
    Except AdapterError Engine.Connection :=
  if config.maxConnections = 0 then .error .noConnections
  else
    match Engine.Location.ofUrl config.url with
    | .error fault => .error (.execution (.misconfigured fault))
    | .ok location =>
        (Engine.Connection.openAt location config.createIfMissing file).mapError fun refusal =>
          .execution (.refused refusal)

end TypedSql
