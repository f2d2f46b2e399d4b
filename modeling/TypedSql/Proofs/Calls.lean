import Mathlib.Data.List.Nodup
import TypedSql.Adapter
import TypedSql.Proofs.Decoding

/-!
# Calls and what the loggers see of them

A request takes one of four ways (`Adapter.performs`). It is stopped before its statement is run
because its records are invalid or because it cannot be rendered, or the statement is run and the
engine answers it or refuses it. Only an answer can leave another state.

A history is any sequence of requests and transactions, between which the state may change: a
transaction is begun or ended by hand, a call is made on another connection, or another client
writes. What a call shows does not depend on that. Before a statement is run every logger in turn
is told of it, and after a refusal every logger in turn is told of the refusal. So all loggers see
one sequence of events, which can be read off the statements that were run and the results of the
calls (`Adapter.History.log_discipline`).
-/

set_option autoImplicit false

namespace TypedSql

/-! ## What a call shows -/

/-- Whether a logger is told that a statement is about to be run. -/
def LogEvent.isSent : LogEvent → Bool
  | sent _ => true
  | refused _ _ => false

/-- What one logger sees of a log. -/
def LogEntry.seenBy (logger : Nat) (log : List LogEntry) : List LogEvent :=
  (log.filter (·.logger = logger)).map (·.event)

/-- The statement that an effect has the database run. -/
def Effect.statement? : Effect → Option Compiled
  | tell _ => none
  | run statement => some statement

namespace Call

/-- The statements that reached the engine. -/
def statements (call : Call) : List Compiled := call.effects.filterMap (·.statement?)

/-- The refusal of a statement, if the call came to one. -/
def refusal (call : Call) (statement : Compiled) : List LogEvent :=
  match call.result with
  | .error (.execution error) => [.refused statement error]
  | _ => []

/-- What there is to see of a call: each statement that reached the engine, and its refusal. -/
def events (call : Call) : List LogEvent :=
  call.statements.flatMap fun statement => .sent statement :: call.refusal statement

/-- The statements among the events of a call are those that reached the engine. -/
theorem filter_isSent_events (call : Call) :
    call.events.filter (·.isSent) = call.statements.map .sent := by
  have never (statement : Compiled) : (call.refusal statement).filter (·.isSent) = [] := by
    rw [refusal]
    split <;> rfl
  rw [events]
  induction call.statements with
  | nil => rfl
  | cons statement rest ih =>
      rw [List.flatMap_cons, List.filter_append, ih, List.filter_cons_of_pos rfl, never]
      rfl

end Call

theorem LogEntry.seenBy_append (logger : Nat) (first second : List LogEntry) :
    seenBy logger (first ++ second) = seenBy logger first ++ seenBy logger second := by
  rw [seenBy, List.filter_append, List.map_append]
  rfl

/-- A logger sees of calls what it sees of each of them. -/
theorem LogEntry.seenBy_flatMap (logger : Nat) (calls : List Call) :
    seenBy logger (calls.flatMap (·.log)) = calls.flatMap fun call => seenBy logger call.log := by
  induction calls with
  | nil => rfl
  | cons call rest ih => rw [List.flatMap_cons, seenBy_append, ih, List.flatMap_cons]

/-- Decoding does not fail as the engine does. -/
theorem Request.interpret_ne_execution {request : Request} {reply : Engine.Reply}
    {error : Engine.EngineError} : request.interpret reply ≠ .error (.execution error) := by
  intro failed
  obtain ⟨cell, -, misread⟩ := exists_misread_of_interpret failed
  obtain ⟨cause, -, impossible⟩ := mem_misreadings_iff.mp misread
  cases impossible

namespace Adapter

variable {State α : Type} {adapter : Adapter State}

/-! ## The ways of a request -/

/-- How a request goes in a state: the call that it leaves, and the state. All loggers are told of
a statement before the engine runs it, and once more if the engine refuses it. -/
inductive Performs (adapter : Adapter State) (request : Request) (before : State) :
    Call → State → Prop where
  | invalid {error : AdapterError} (refused : request.validate = .error error) :
      Performs adapter request before ⟨request, .error error, []⟩ before
  | unrendered {cause : RenderError} (valid : request.validate = .ok ())
      (failed : request.statement.compile .sqlite = .error cause) :
      Performs adapter request before ⟨request, .error (.rendering cause), []⟩ before
  | answered {statement : Compiled} {reply : Engine.Reply} {after : State}
      (valid : request.validate = .ok ())
      (rendered : request.statement.compile .sqlite = .ok statement)
      (ran : adapter.backend.run before statement = .ok (reply, after)) :
      Performs adapter request before
        ⟨request, request.interpret reply, adapter.announce (.sent statement) ++ [.run statement]⟩
        after
  | refused {statement : Compiled} {error : Engine.EngineError}
      (valid : request.validate = .ok ())
      (rendered : request.statement.compile .sqlite = .ok statement)
      (ran : adapter.backend.run before statement = .error error) :
      Performs adapter request before
        ⟨request, .error (.execution error), adapter.announce (.sent statement) ++
          .run statement :: adapter.announce (.refused statement error)⟩
        before

/-- Every request takes one of these ways. -/
theorem performs (adapter : Adapter State) (request : Request) (before : State) :
    adapter.Performs request before (adapter.perform request before).1
      (adapter.perform request before).2 := by
  simp only [perform, Request.prepare]
  cases valid : request.validate with
  | error error => exact .invalid valid
  | ok =>
      cases rendered : request.statement.compile .sqlite with
      | error cause => exact .unrendered valid rendered
      | ok statement =>
          show adapter.Performs request before (adapter.send request statement before).1
            (adapter.send request statement before).2
          rw [send]
          cases ran : adapter.backend.run before statement with
          | error error => exact .refused valid rendered ran
          | ok answer => exact .answered valid rendered ran

/-! ## What one call shows -/

section Shown

variable (adapter)

/-- Each logger is told once of an event. -/
theorem seenBy_announce (event : LogEvent) {logger : Nat} (attached : logger < adapter.loggers) :
    LogEntry.seenBy logger ((adapter.announce event).filterMap (·.seen?)) = [event] := by
  have once : (List.range adapter.loggers).count logger = 1 :=
    List.count_eq_one_of_mem List.nodup_range (List.mem_range.mpr attached)
  have own : (List.range adapter.loggers).filter (· = logger) = [logger] := by
    rw [List.filter_eq, once, List.replicate_one]
  have told : (adapter.announce event).filterMap (·.seen?) =
      (List.range adapter.loggers).map fun logger => LogEntry.mk logger event := by
    rw [announce, List.filterMap_map, ← List.filterMap_eq_map]
    rfl
  rw [told, LogEntry.seenBy, List.filter_map, List.map_map]
  exact congrArg (List.map fun _ => event) own

/-- Nothing is run by telling loggers. -/
theorem statements_announce (event : LogEvent) :
    (adapter.announce event).filterMap (·.statement?) = [] := by
  rw [announce, List.filterMap_map]
  exact List.filterMap_eq_nil_iff.mpr fun _ _ => rfl

/-- A logger sees a statement before it is run, and then what follows. -/
theorem seenBy_send (statement : Compiled) (later : List Effect) {logger : Nat}
    (attached : logger < adapter.loggers) :
    LogEntry.seenBy logger ((adapter.announce (.sent statement) ++
        .run statement :: later).filterMap (·.seen?)) =
      .sent statement :: LogEntry.seenBy logger (later.filterMap (·.seen?)) := by
  rw [List.filterMap_append, LogEntry.seenBy_append, seenBy_announce adapter _ attached]
  rfl

theorem statements_send (statement : Compiled) (later : List Effect) :
    (adapter.announce (.sent statement) ++ .run statement :: later).filterMap (·.statement?) =
      statement :: later.filterMap (·.statement?) := by
  rw [List.filterMap_append, statements_announce]
  rfl

end Shown

/-- **Every logger sees the events of a call**, which are as many statements as reached the engine
with their refusals. -/
theorem Performs.seenBy {request : Request} {before after : State} {call : Call}
    (performed : adapter.Performs request before call after) {logger : Nat}
    (attached : logger < adapter.loggers) : LogEntry.seenBy logger call.log = call.events := by
  cases performed with
  | invalid => rfl
  | unrendered => rfl
  | @answered statement reply _ valid rendered ran =>
      have silent : Call.refusal ⟨request, request.interpret reply,
          adapter.announce (.sent statement) ++ [.run statement]⟩ statement = [] := by
        rw [Call.refusal]
        split
        · next failed => exact absurd failed Request.interpret_ne_execution
        · rfl
      rw [Call.events, Call.statements, statements_send, Call.log, seenBy_send _ _ _ attached]
      simp [silent, LogEntry.seenBy]
  | @refused statement error valid rendered ran =>
      rw [Call.events, Call.statements, statements_send, statements_announce, Call.log,
        seenBy_send _ _ _ attached, seenBy_announce _ _ attached]
      rfl

/-! ## Histories -/

/-- What is done with an adapter from one state on, and the state at the end: requests and
transactions one after another. In between the state may become any other one. A transaction is
begun or ended by hand, a call is made on another connection, or another client writes. -/
inductive History (adapter : Adapter State) : State → List Call → State → Prop where
  | rest (state : State) : History adapter state [] state
  | request {before last : State} {calls : List Call} (request : Request)
      (later : History adapter (adapter.perform request before).2 calls last) :
      History adapter before ((adapter.perform request before).1 :: calls) last
  | transaction {before last : State} {calls : List Call} {α : Type} (work : Work α)
      (later : History adapter (adapter.transaction work before).state calls last) :
      History adapter before ((adapter.transaction work before).calls ++ calls) last
  | change {before after last : State} {calls : List Call}
      (later : History adapter after calls last) : History adapter before calls last

/-- A call that a request has left in some state. -/
def Performed (adapter : Adapter State) (call : Call) : Prop :=
  ∃ request before after, adapter.Performs request before call after

/-- All calls of some work are performed. -/
theorem performed_of_mem_run (work : Work α) (state : State) :
    ∀ call ∈ (work.run adapter state).calls, adapter.Performed call := by
  induction work generalizing state with
  | finish result => exact fun call member => absurd member List.not_mem_nil
  | request request next ih =>
      intro call member
      rcases List.mem_cons.mp member with rfl | inRest
      · exact ⟨request, _, _, adapter.performs request state⟩
      · exact ih _ _ call inRest

/-- Beginning and ending a transaction is no call. -/
theorem calls_transaction (work : Work α) (before : State) :
    (adapter.transaction work before).calls =
      match adapter.begin before with
      | .ok opened => (work.run adapter opened).calls
      | .error _ => [] := by
  rw [transaction]
  cases adapter.begin before with
  | error error => rfl
  | ok opened =>
      dsimp only
      rw [conclude]
      split
      · rfl
      · split <;> rfl

/-- All calls of a history are performed. -/
theorem History.performed {first last : State} {calls : List Call}
    (history : adapter.History first calls last) : ∀ call ∈ calls, adapter.Performed call := by
  induction history with
  | rest => exact fun call member => absurd member List.not_mem_nil
  | request request later ih =>
      intro call member
      rcases List.mem_cons.mp member with rfl | inRest
      · exact ⟨request, _, _, adapter.performs request _⟩
      · exact ih call inRest
  | @transaction before last calls α work later ih =>
      intro call member
      rcases List.mem_append.mp member with inWork | inRest
      · rw [calls_transaction] at inWork
        cases began : adapter.begin before with
        | error => simp [began] at inWork
        | ok opened =>
            rw [began] at inWork
            exact performed_of_mem_run work opened call inWork
      · exact ih call inRest
  | change later ih => exact ih

/-- **All loggers see one sequence of events.** A call whose records are invalid, or that cannot be
rendered, shows nothing. For any other one every logger in turn is told of the statement before the
engine runs it, and again with the error if the engine refuses it. So what a logger sees can be read
off the statements that reached the engine and the results of the calls, and it is told of as many
statements as reached the engine. -/
theorem History.log_discipline {first last : State} {calls : List Call}
    (history : adapter.History first calls last) :
    (∀ call ∈ calls, adapter.Performed call) ∧
      ∀ logger < adapter.loggers,
        let seen := LogEntry.seenBy logger (calls.flatMap (·.log))
        seen = calls.flatMap (·.events) ∧
          seen.countP (·.isSent) = (calls.flatMap (·.statements)).length := by
  refine ⟨history.performed, ?_⟩
  intro logger attached
  have seen : LogEntry.seenBy logger (calls.flatMap (·.log)) = calls.flatMap (·.events) := by
    rw [LogEntry.seenBy_flatMap]
    refine List.flatMap_congr fun call member => ?_
    obtain ⟨_, _, _, performed⟩ := history.performed call member
    exact performed.seenBy attached
  refine ⟨seen, ?_⟩
  rw [seen, List.countP_eq_length_filter, List.filter_flatMap]
  simp only [Call.filter_isSent_events, List.length_flatMap, List.length_map]

end Adapter

/-! ## A history of notes -/

/-- Notes, no two of which are the same. -/
def Table.notes : Table :=
  ⟨"notes", [{ name := "text", type := .text, unique := true, owner := "notes" }]⟩

/-- The insertion of one note that returns nothing. -/
def Insert.ofNote (note : Value) : Insert :=
  ⟨.notes, [Dictionary.empty.insert "text" note], []⟩

/-- The work of inserting one note twice, whatever comes of it. -/
def Work.insertTwice : Work Unit :=
  .request (.insert (.ofNote (.text "milk"))) fun _ =>
    .request (.insert (.ofNote (.text "milk"))) fun _ => .finish (.ok ())

/-- Two loggers are told of the table, of a note in a transaction, and of the same note once more,
which the engine refuses. Of a note that is no text they are not told. -/
theorem Adapter.log_discipline_notes :
    let adapter : Adapter Engine.Connection := { backend := .sqlite, loggers := 2 }
    ∃ calls last, adapter.History {} calls last ∧ (∀ call ∈ calls, adapter.Performed call) ∧
      calls.length = 4 ∧ ∀ logger < 2,
        let seen := LogEntry.seenBy logger (calls.flatMap (·.log))
        seen.length = 4 ∧ seen.countP (·.isSent) = 3 := by
  intro adapter
  have history : adapter.History {} _ _ :=
    .request (.create { table := .notes }) <| .transaction Work.insertTwice <|
      .request (.insert (.ofNote (.integer 7))) <| .rest _
  obtain ⟨performed, seen⟩ := history.log_discipline
  refine ⟨_, _, history, performed, by decide +kernel, ?_⟩
  intro logger attached
  obtain ⟨events, sent⟩ := seen logger attached
  exact ⟨by rw [events]; decide +kernel, by rw [sent]; decide +kernel⟩

end TypedSql
