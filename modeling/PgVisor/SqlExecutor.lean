import PgVisor.ClientSession
import PgVisor.SqlGuard

/-!
# The dashboard's SQL executor

One call of the executor: it acquires a connection as `postgres`, writes the
statement, collects the decoded answer until a ReadyForQuery of any status arrives,
and hands the connection back. The phases, events and the server's part are those of
a client session; decoding the frames is left to a decoder of which only the
treatment of ReadyForQuery is fixed. The measured time is left out of the result.
-/

namespace PgVisor.SqlExecutor

open ByteWords WireFrames ConnectionPool ClientSession Text SqlGuard

/-- Routing of dashboard statements. -/
def isLeaderRequired (upper : UpperCase) (sql : String) : Bool :=
  let statement := statementOf sql.toList
  if statement.contains ';' then true
  else
    let text := upper.apply statement
    if contains "PG_STAT_REPLICATION".toList text then true
    else
      let word := String.ofList (firstWord text)
      if word = "SELECT" then contains "INTO ".toList text
      else if word ∈ ["SHOW", "EXPLAIN"] then false
      else true

/-- The wire library's decoder, applied to one complete frame. It takes exactly the
frames tagged `Z` for ReadyForQuery and reads their status. -/
structure BackendDecoder where
  decode : Bytes → Except String (Option BackendMessage)
  ready : ∀ status, decode (readyFrame status).encode = .ok (some (.readyForQuery status))
  tagged : ∀ (frame : BackendFrame) (status : TransactionStatus),
    decode frame.encode = .ok (some (.readyForQuery status)) → frame.tag = readyTag

/-- What has been collected of the answer. -/
structure Collected where
  columns : List String
  rows : List (List String)
  commandTags : List String
  errorMsg : Option String
  truncated : Bool
deriving DecidableEq

def Collected.empty : Collected where
  columns := []
  rows := []
  commandTags := []
  errorMsg := none
  truncated := false

/-- Account for one decoded message. A new row description discards earlier rows. -/
def Collected.collect (collected : Collected) (maxRows : Nat) : BackendMessage → Collected
  | .rowDescription columns => { collected with columns := columns, rows := [] }
  | .dataRow values =>
    if collected.rows.length < maxRows then
      { collected with
        rows := collected.rows ++ [values.map fun value => value.getD "NULL"] }
    else { collected with truncated := true }
  | .commandComplete tag => { collected with commandTags := collected.commandTags ++ [tag] }
  | .errorResponse message => { collected with errorMsg := some message }
  | _ => collected

structure SqlQueryResult where
  columns : List String
  rows : List (List String)
  rowCount : Nat
  truncated : Bool
deriving DecidableEq

/-- The result of a completed answer; statements without rows show their tags. -/
def Collected.result (collected : Collected) : Except String SqlQueryResult :=
  match collected.errorMsg with
  | some message => .error message
  | none =>
    let shown :=
      if collected.columns = [] ∧ collected.commandTags ≠ [] then
        (["status"], collected.commandTags.map fun tag => [tag])
      else (collected.columns, collected.rows)
    .ok
      { columns := shown.1
        rows := shown.2
        rowCount := shown.2.length
        truncated := collected.truncated }

inductive ExecutorPhase where
  | acquiring
  | writing (backend : PooledConnection)
  | reading (backend : PooledConnection) (buffer : Bytes) (collected : Collected)
  | releasing (backend : PooledConnection) (collected : Collected)
  | finished (result : Except String SqlQueryResult)
  | cancelled

structure Executor where
  sql : String
  maxRows : Nat
  phase : ExecutorPhase

def Executor.new (sql : String) (maxRows : Nat) : Executor where
  sql := sql
  maxRows := maxRows
  phase := .acquiring

inductive ExecutorEvent where
  | acquired (backend : PooledConnection)
  | acquireFailed (err : PoolError)
  | written
  | writeFailed (reason : String)
  | received (count : Nat)
  | closed
  | readFailed (reason : String)
  | decoded
  | released
  | serverNotifies (frame : BackendFrame)
  | serverReady (status : TransactionStatus)
  | aborted
deriving DecidableEq

/-- The connection the call owns. -/
def Executor.owned (executor : Executor) : Option PooledConnection :=
  match executor.phase with
  | .writing backend => some backend
  | .reading backend _ _ => some backend
  | .releasing backend _ => some backend
  | _ => none

def Executor.withOwned (executor : Executor) (conn : PooledConnection) : Executor :=
  match executor.phase with
  | .writing _ => { executor with phase := .writing conn }
  | .reading _ buffer collected => { executor with phase := .reading conn buffer collected }
  | .releasing _ collected => { executor with phase := .releasing conn collected }
  | _ => executor

def Executor.serve (executor : Executor) (act : BackendStream → Option BackendStream) :
    Option Executor :=
  executor.owned.bind fun conn =>
    (act conn.stream).map fun stream => executor.withOwned { conn with stream := stream }

def Executor.fail (executor : Executor) (message : String) : Executor :=
  { executor with phase := .finished (.error message) }

/-- Handle one complete frame: any ReadyForQuery ends the answer, and a frame that
does not decode is skipped. -/
def Executor.onFrame (executor : Executor) (decoder : BackendDecoder)
    (backend : PooledConnection) (collected : Collected) (frame rest : Bytes) : Executor :=
  match decoder.decode frame with
  | .ok (some (.readyForQuery _)) => { executor with phase := .releasing backend collected }
  | .ok (some message) =>
    { executor with phase := .reading backend rest (collected.collect executor.maxRows message) }
  | .ok none => { executor with phase := .reading backend rest collected }
  | .error _ => { executor with phase := .reading backend rest collected }

/-- One step of a call, with the connection it hands back if it does. -/
def Executor.step (decoder : BackendDecoder) (executor : Executor) (event : ExecutorEvent) :
    Option (Executor × Option PooledConnection) :=
  match event with
  | .acquired backend =>
    match executor.phase with
    | .acquiring => some ({ executor with phase := .writing backend }, none)
    | _ => none
  | .acquireFailed err =>
    match executor.phase with
    | .acquiring =>
      some (executor.fail ("Failed to acquire backend connection: " ++ err.display), none)
    | _ => none
  | .written =>
    match executor.phase with
    | .writing backend =>
      some ({ executor with
        phase := .reading (PooledConnection.deliver backend (.query executor.sql)) []
          Collected.empty }, none)
    | _ => none
  | .writeFailed reason =>
    match executor.phase with
    | .writing _ =>
      some (executor.fail ("Failed to write SQL query to backend: " ++ reason), none)
    | _ => none
  | .received count =>
    match executor.phase with
    | .reading backend buffer collected =>
      if extractBackendFrame buffer = none ∧ 0 < count ∧
          count ≤ backend.stream.incoming.length then
        some ({ executor with
          phase := .reading (PooledConnection.receive backend count)
            (buffer ++ backend.stream.incoming.take count) collected }, none)
      else none
    | _ => none
  | .closed =>
    match executor.phase with
    | .reading _ buffer _ =>
      if extractBackendFrame buffer = none then
        some (executor.fail "Backend connection closed unexpectedly during query", none)
      else none
    | _ => none
  | .readFailed reason =>
    match executor.phase with
    | .reading _ buffer _ =>
      if extractBackendFrame buffer = none then
        some (executor.fail ("Error reading backend response: " ++ reason), none)
      else none
    | _ => none
  | .decoded =>
    match executor.phase with
    | .reading backend buffer collected =>
      match extractBackendFrame buffer with
      | some (_, frame, rest) =>
        some (executor.onFrame decoder backend collected frame rest, none)
      | none => none
    | _ => none
  | .released =>
    match executor.phase with
    | .releasing backend collected =>
      some ({ executor with phase := .finished collected.result }, some backend)
    | _ => none
  | .serverNotifies frame => (executor.serve (·.notify frame)).map fun next => (next, none)
  | .serverReady status => (executor.serve (·.becomeReady status)).map fun next => (next, none)
  | .aborted =>
    match executor.phase with
    | .finished _ => none
    | .cancelled => none
    | _ => some ({ executor with phase := .cancelled }, none)

variable {executor next : Executor}

theorem executor_serve_cases {act} (served : executor.serve act = some next) :
    ∃ conn stream, executor.owned = some conn ∧ act conn.stream = some stream ∧
      next = executor.withOwned { conn with stream := stream } := by
  obtain ⟨conn, owned, moved⟩ := Option.bind_eq_some_iff.mp served
  obtain ⟨stream, acted, rfl⟩ := Option.map_eq_some_iff.mp moved
  exact ⟨conn, stream, owned, acted, rfl⟩

/-- The phases in which each event of a call is accepted, under which guard, with what the
call becomes and hands back. -/
inductive Executor.Moves (decoder : BackendDecoder) (executor : Executor) :
    ExecutorEvent → Executor → Option PooledConnection → Prop where
  | acquired {backend} (phase : executor.phase = .acquiring) :
      Moves decoder executor (.acquired backend) { executor with phase := .writing backend } none
  | acquireFailed {err} (phase : executor.phase = .acquiring) :
      Moves decoder executor (.acquireFailed err)
        (executor.fail ("Failed to acquire backend connection: " ++ err.display)) none
  | written {backend} (phase : executor.phase = .writing backend) : Moves decoder executor .written
        { executor with
          phase := .reading (PooledConnection.deliver backend (.query executor.sql)) []
            Collected.empty } none
  | writeFailed {backend reason}
      (phase : executor.phase = .writing backend) : Moves decoder executor (.writeFailed reason)
        (executor.fail ("Failed to write SQL query to backend: " ++ reason)) none
  | received {backend buffer collected count}
      (phase : executor.phase = .reading backend buffer collected)
      (unframed : extractBackendFrame buffer = none) (positive : 0 < count)
      (available : count ≤ backend.stream.incoming.length) :
      Moves decoder executor (.received count)
        { executor with
          phase := .reading (PooledConnection.receive backend count)
            (buffer ++ backend.stream.incoming.take count) collected } none
  | closed {backend buffer collected}
      (phase : executor.phase = .reading backend buffer collected)
      (unframed : extractBackendFrame buffer = none) : Moves decoder executor .closed
        (executor.fail "Backend connection closed unexpectedly during query") none
  | readFailed {backend buffer collected reason}
      (phase : executor.phase = .reading backend buffer collected)
      (unframed : extractBackendFrame buffer = none) : Moves decoder executor (.readFailed reason)
        (executor.fail ("Error reading backend response: " ++ reason)) none
  | decoded {backend buffer frame rest collected tag}
      (phase : executor.phase = .reading backend buffer collected)
      (extracted : extractBackendFrame buffer = some (tag, frame, rest)) :
      Moves decoder executor .decoded (executor.onFrame decoder backend collected frame rest) none
  | released {backend collected}
      (phase : executor.phase = .releasing backend collected) : Moves decoder executor .released
        { executor with phase := .finished collected.result } (some backend)
  | notified {frame next}
      (served : executor.serve (·.notify frame) = some next) :
      Moves decoder executor (.serverNotifies frame) next none
  | ready {status next}
      (served : executor.serve (·.becomeReady status) = some next) :
      Moves decoder executor (.serverReady status) next none
  | aborted (unfinished : ∀ result, executor.phase ≠ .finished result)
      (running : executor.phase ≠ .cancelled) :
      Moves decoder executor .aborted { executor with phase := .cancelled } none

/-- Every step of a call is one of these moves. -/
theorem executor_step_moves {decoder event returned}
    (moved : executor.step decoder event = some (next, returned)) :
    executor.Moves decoder event next returned := by
  unfold Executor.step at moved
  -- an event is taken in the phase that awaits it, under its guard, and refused elsewhere
  split at moved
  all_goals try split at moved
  all_goals try split at moved
  all_goals try cases moved
  · exact .acquired ‹_›
  · exact .acquireFailed ‹_›
  · exact .written ‹_›
  · exact .writeFailed ‹_›
  next phase guard => exact .received phase guard.1 guard.2.1 guard.2.2
  · exact .closed ‹_› ‹_›
  · exact .readFailed ‹_› ‹_›
  · exact .decoded ‹_› ‹_›
  · exact .released ‹_›
  · obtain ⟨served, moves, same⟩ := Option.map_eq_some_iff.mp moved
    cases same
    exact .notified moves
  · obtain ⟨served, moves, same⟩ := Option.map_eq_some_iff.mp moved
    cases same
    exact .ready moves
  · exact .aborted ‹_› ‹_›

end PgVisor.SqlExecutor
