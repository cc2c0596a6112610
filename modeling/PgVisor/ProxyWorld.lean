import PgVisor.Conversation
import PgVisor.SqlExecutor

/-!
# Sessions and executor calls over one pool

Any number of client sessions and dashboard calls share a pool. An action is one step
of one of them, an attempt to acquire, a change of the topology or a server that sends
something on an idle connection; actions interleave freely at the points where the
pool's lock is taken. An attempt to acquire may be repeated until the caller's failover
window ends. A server that completes the startup handshake is outside a transaction.

A connection may enter the pool inside a transaction in four ways: its client closes
while the session holds it, a dashboard statement leaves a block open, a forwarded
synchronisation or function call makes the session read one answer late, or the read
that ends an answer also takes part of a later frame, which is lost with the buffer.
Runs without such steps keep every idle connection idle.
-/

namespace PgVisor.ProxyWorld

open ByteWords WireFrames ConnectionPool ClientSession SqlGuard SqlExecutor

variable {buffer frame rest : Bytes} {message : FrontendMessage} {backend : PooledConnection}
  {next : Executor} {event : ExecutorEvent} {outputs : List Output}

/-- The proxy's shared pool with everything that uses it. -/
structure World where
  pool : PoolInner
  sessions : Nat → Session
  executors : Nat → Executor

/-- What the proxy is built with. -/
structure Proxy where
  tls : Bool
  upper : UpperCase
  decoder : BackendDecoder

inductive Action where
  | session (client : Nat) (event : Event)
  | sessionAcquires (client : Nat) (dial : Dial) (elapsed : Option String)
  | executor (call : Nat) (event : ExecutorEvent)
  | executorAcquires (call : Nat) (dial : Dial) (elapsed : Option String)
  | updateTopology (leader : Option String) (standbys : List String)
  | drainAll
  | idleNotifies (standby : Option String) (position : Nat) (frame : BackendFrame)

def World.new (maxIdlePerNode : Nat) (configs : Nat → SessionConfig)
    (statements : Nat → String × Nat) : World where
  pool := PoolInner.new maxIdlePerNode
  sessions client := Session.new (configs client)
  executors call := Executor.new (statements call).1 (statements call).2

/-- The server behind an idle connection sends a frame unasked. -/
def notifyIdle (inner : PoolInner) (standby : Option String) (position : Nat)
    (frame : BackendFrame) : Option PoolInner :=
  match standby with
  | none =>
    inner.idleLeaders[position]?.bind fun conn =>
      (conn.stream.notify frame).map fun stream =>
        { inner with
          idleLeaders := inner.idleLeaders.set position { conn with stream := stream } }
  | some addr =>
    (inner.idleStandbys addr).bind fun queue =>
      queue[position]?.bind fun conn =>
        (conn.stream.notify frame).map fun stream =>
          { inner with
            idleStandbys := Function.update inner.idleStandbys addr
              (some (queue.set position { conn with stream := stream })) }

/-- Connections a session hands back go through `release`. -/
def absorb (pool : PoolInner) : Output → PoolInner
  | .release conn => pool.release conn
  | _ => pool

def BackendRole.name : BackendRole → String
  | .leader => "Leader"
  | .standby => "Standby"

/-- The error at the end of the failover window. -/
def timedOut (elapsed : String) (role : BackendRole) (err : PoolError) : PoolError :=
  .failoverTimeout
    ("Timed out after " ++ elapsed ++ " waiting for " ++ BackendRole.name role ++ ": " ++
      err.display)

/-- What one round of `acquire_with_retry` tells its caller: a connection, an error
because the window is over, or nothing yet. -/
def roundAnswer (role : BackendRole) (elapsed : Option String) :
    Except PoolError PooledConnection → Option (Except PoolError PooledConnection)
  | .ok conn => some (.ok conn)
  | .error err => elapsed.map fun text => .error (timedOut text role err)

def answerEvent : Except PoolError PooledConnection → Event
  | .ok conn => .acquired conn
  | .error err => .acquireFailed err

def answerExecutorEvent : Except PoolError PooledConnection → ExecutorEvent
  | .ok conn => .acquired conn
  | .error err => .acquireFailed err

def executorRole (upper : UpperCase) (executor : Executor) : BackendRole :=
  if isLeaderRequired upper executor.sql then .leader else .standby

/-- One session step with its effect on the pool. -/
def World.moveSession (world : World) (client : Nat) (event : Event) : Option World :=
  ((world.sessions client).step event).map fun (next, outputs) =>
    { world with
      pool := outputs.foldl absorb world.pool
      sessions := Function.update world.sessions client next }

def World.moveExecutor (world : World) (decoder : BackendDecoder) (call : Nat)
    (event : ExecutorEvent) : Option World :=
  ((world.executors call).step decoder event).map fun (next, returned) =>
    { world with
      pool := returned.elim world.pool world.pool.release
      executors := Function.update world.executors call next }

def World.step (proxy : Proxy) (world : World) : Action → Option World
  | .session client event =>
    match event with
    | .acquired _ => none
    | .acquireFailed _ => none
    | _ => world.moveSession client event
  | .sessionAcquires client dial elapsed =>
    let session := world.sessions client
    match session.phase with
    | .acquiring call _ =>
      if dial.startsIdle then
        let (answer, pool) :=
          world.pool.acquireFor proxy.tls call.role session.user session.database dial
        match roundAnswer call.role elapsed answer with
        | none => some { world with pool := pool }
        | some told => ({ world with pool := pool } : World).moveSession client (answerEvent told)
      else none
    | _ => none
  | .executor call event =>
    match event with
    | .acquired _ => none
    | .acquireFailed _ => none
    | _ => world.moveExecutor proxy.decoder call event
  | .executorAcquires call dial elapsed =>
    let executor := world.executors call
    match executor.phase with
    | .acquiring =>
      if dial.startsIdle then
        let role := executorRole proxy.upper executor
        let (answer, pool) := world.pool.acquireFor proxy.tls role none none dial
        match roundAnswer role elapsed answer with
        | none => some { world with pool := pool }
        | some told =>
          ({ world with pool := pool } : World).moveExecutor proxy.decoder call
            (answerExecutorEvent told)
      else none
    | _ => none
  | .updateTopology leader standbys =>
    some { world with pool := world.pool.updateTopology leader standbys }
  | .drainAll => some { world with pool := world.pool.drainAll }
  | .idleNotifies standby position frame =>
    (notifyIdle world.pool standby position frame).map fun pool => { world with pool := pool }

/-! ### Steps that keep conversations in order -/

/-- How an answer ends in a read buffer whose first frame is a ReadyForQuery: with this
status, and with bytes behind it that are thrown away with the buffer. -/
def answerEnd (buffer : Bytes) : Option (TransactionStatus × Bytes) :=
  match extractBackendFrame buffer with
  | some (tag, frame, rest) => if tag = readyTag then some (frameStatus frame, rest) else none
  | none => none

variable {tag : UInt8}

theorem answer_end_ready
    (extracted : extractBackendFrame buffer = some (tag, frame, rest)) (ready : tag = readyTag) :
    answerEnd buffer = some (frameStatus frame, rest) := by
  simp [answerEnd, extracted, ready]

/-- The session forwards nothing that asks for a ReadyForQuery outside a query, and
discards no part of a frame when an answer ends. -/
def SessionCareful (session : Session) : Event → Prop
  | .message (.query _) => True
  | .message message => session.activeBackend ≠ none → answersOwed message = 0
  | .relayed =>
    match session.phase with
    | .reading _ _ buffer _ => ∀ status rest, answerEnd buffer = some (status, rest) →
        WholeFrames rest
    | _ => True
  | _ => True

/-- The pool does not take the connection a session returns because its client left. -/
def DepartureCareful (pool : PoolInner) (session : Session) : Event → Prop
  | .released =>
    match session.phase with
    | .releasing backend true => pool.accepts backend = false
    | _ => True
  | _ => True

/-- The answer to a dashboard statement ends outside any transaction block, and no part
of a frame is discarded with it. -/
def ExecutorCareful (executor : Executor) : ExecutorEvent → Prop
  | .decoded =>
    match executor.phase with
    | .reading _ buffer _ => ∀ status rest, answerEnd buffer = some (status, rest) →
        status = .idle ∧ WholeFrames rest
    | _ => True
  | _ => True

/-- The steps that lead to no defect. -/
def Careful (world : World) : Action → Prop
  | .session client event =>
    SessionCareful (world.sessions client) event ∧
      DepartureCareful world.pool (world.sessions client) event
  | .executor call event => ExecutorCareful (world.executors call) event
  | _ => True

/-! ### Sessions -/

/-- The connection a session owns is in the state its phase calls for. -/
structure SessionKept (session : Session) : Prop where
  held : ∀ backend, session.activeBackend = some backend → Quiet backend.stream
  inUse :
    match session.phase with
    | .writing _ _ backend => Quiet backend.stream
    | .reading _ backend buffer _ => Answering buffer backend.stream
    | .releasing backend ends =>
      Quiet backend.stream ∧ (ends = false → backend.stream.reported = .idle)
    | _ => True

theorem finish_kept (session : Session) : SessionKept session.finish where
  held _ member := by cases member
  inUse := trivial

variable {session : Session}

theorem careful_silent (other : ∀ sql, message ≠ .query sql)
    (careful : SessionCareful session (.message message)) :
    session.activeBackend ≠ none → answersOwed message = 0 := by
  cases message with
  | query sql => exact absurd rfl (other sql)
  | _ => exact careful

/-- At the end of an answer the status read is the status reported. -/
theorem relay_ended {call relayedBytes} (kept : SessionKept session)
    (phase : session.phase = .reading call backend buffer relayedBytes)
    (extracted : extractBackendFrame buffer = some (readyTag, frame, rest))
    (careful : SessionCareful session .relayed) :
    frameStatus frame = backend.stream.reported ∧ Quiet backend.stream := by
  have answering : Answering buffer backend.stream := by
    simpa only [phase] using kept.inUse
  obtain ⟨shown, quieted⟩ := ready_read answering extracted rfl
  simp only [SessionCareful, phase] at careful
  exact ⟨by rw [shown, frame_status_ready],
    quieted (careful _ rest (answer_end_ready extracted rfl))⟩

/-- A server that acts keeps the owned connection in order. -/
theorem session_serve_kept {next act}
    (quiet : ∀ stream moved, Quiet stream → act stream = some moved →
      Quiet moved ∧ moved.reported = stream.reported)
    (answering : ∀ buffer stream moved, Answering buffer stream → act stream = some moved →
      Answering buffer moved)
    (kept : SessionKept session) (served : session.serve act = some next) :
    SessionKept next := by
  have inUse := kept.inUse
  cases serve_serves served with
  | command phase held acted =>
    refine ⟨?_, by simp [phase]⟩
    intro other same
    obtain rfl := Option.some.inj same
    exact (quiet _ _ (kept.held _ held) acted).1
  | writing phase acted =>
    simp only [phase] at inUse
    exact ⟨kept.held, (quiet _ _ inUse acted).1⟩
  | reading phase acted =>
    simp only [phase] at inUse
    exact ⟨kept.held, answering _ _ _ inUse acted⟩
  | releasing phase acted =>
    simp only [phase] at inUse
    obtain ⟨still, same⟩ := quiet _ _ inUse.1 acted
    exact ⟨kept.held, still, fun ending => same.trans (inUse.2 ending)⟩

/-- One careful session step, given quiet connections from the pool. -/
theorem session_step_kept {next event}
    (kept : SessionKept session) (careful : SessionCareful session event)
    (acquired : ∀ backend, event = .acquired backend → Quiet backend.stream)
    (moved : session.step event = some (next, outputs)) : SessionKept next := by
  cases step_moves moved with
  | declined | ignored => exact kept
  | query phase held => exact ⟨fun _ member => (by cases member), kept.held _ held⟩
  | unheld => exact ⟨fun _ member => (by cases member), trivial⟩
  | forwarded phase held other =>
    have unanswered := careful_silent other careful (by simp [held])
    refine ⟨?_, by simp [phase]⟩
    intro other same
    obtain rfl := Option.some.inj same
    exact deliver_quiet unanswered (kept.held _ held)
  | closed phase held =>
    exact ⟨fun _ member => (by cases member), kept.held _ held, fun ending => (by cases ending)⟩
  | acquired phase => exact ⟨kept.held, acquired _ rfl⟩
  | @written call stage backend phase =>
    have quiet : Quiet backend.stream := by simpa only [phase] using kept.inUse
    exact ⟨kept.held, deliver_answering call.sql quiet⟩
  | @received call backend buffer relayedBytes count phase unframed positive available =>
    have answering : Answering buffer backend.stream := by simpa only [phase] using kept.inUse
    exact ⟨kept.held, receive_answering count answering⟩
  | idle phase extracted idle =>
    obtain ⟨status, quiet⟩ := relay_ended kept phase extracted careful
    exact ⟨kept.held, quiet, fun _ => status ▸ idle⟩
  | block phase extracted =>
    refine ⟨?_, trivial⟩
    intro other same
    obtain rfl := Option.some.inj same
    exact (relay_ended kept phase extracted careful).2
  | @more call backend buffer frame rest relayedBytes tag phase extracted other =>
    have answering : Answering buffer backend.stream := by simpa only [phase] using kept.inUse
    exact ⟨kept.held, frame_answering answering extracted other⟩
  | @released backend ends phase =>
    refine ⟨kept.held, ?_⟩
    cases ends <;> trivial
  | notified served =>
    exact session_serve_kept (fun _ _ => notify_quiet) (fun _ _ _ => notify_answering) kept served
  | ready served =>
    exact session_serve_kept (fun _ _ quiet sent => absurd quiet (ready_not_quiet sent))
      (fun _ _ _ => ready_answering) kept served
  | refused | insecure | cancelled | closedEarly | terminated | left | writeAbandoned | aborted =>
    exact finish_kept session
  | upgraded | started | acquireFailed | rewrite | replayed | failed =>
    exact ⟨kept.held, trivial⟩

variable (pool : PoolInner)

/-- A session hands a connection back in one place only. -/
theorem session_absorbed {next event}
    (moved : session.step event = some (next, outputs)) : outputs.foldl absorb pool = pool ∨
      ∃ backend ends, event = .released ∧ session.phase = .releasing backend ends ∧
        outputs.foldl absorb pool = pool.release backend := by
  cases step_moves moved with
  | released phase => exact .inr ⟨_, _, rfl, phase, rfl⟩
  | _ => exact .inl rfl

/-! ### Executor calls -/

/-- The connection a call owns is in the state its phase calls for. -/
def ExecutorKept (executor : Executor) : Prop :=
  match executor.phase with
  | .writing backend => Quiet backend.stream
  | .reading backend buffer _ => Answering buffer backend.stream
  | .releasing backend _ => Quiet backend.stream ∧ backend.stream.reported = .idle
  | _ => True

variable {executor : Executor}

theorem executor_serve_kept {act} (quiet : ∀ stream moved, Quiet stream → act stream = some moved →
      Quiet moved ∧ moved.reported = stream.reported)
    (answering : ∀ buffer stream moved, Answering buffer stream → act stream = some moved →
      Answering buffer moved) (kept : ExecutorKept executor)
    (served : executor.serve act = some next) : ExecutorKept next := by
  obtain ⟨conn, stream, owned, acted, rfl⟩ := executor_serve_cases served
  unfold Executor.owned at owned
  unfold Executor.withOwned ExecutorKept
  unfold ExecutorKept at kept
  cases phase : executor.phase with
  | writing backend =>
    simp only [phase] at owned kept ⊢
    obtain rfl := Option.some.inj owned
    exact (quiet _ _ kept acted).1
  | reading backend buffer collected =>
    simp only [phase] at owned kept ⊢
    obtain rfl := Option.some.inj owned
    exact answering _ _ _ kept acted
  | releasing backend collected =>
    simp only [phase] at owned kept ⊢
    obtain rfl := Option.some.inj owned
    obtain ⟨still, same⟩ := quiet _ _ kept.1 acted
    exact ⟨still, same.trans kept.2⟩
  | acquiring | finished result | cancelled => simp [phase] at owned

/-- A frame the decoder takes for ReadyForQuery is tagged as one, and no other is. -/
theorem decoded_ready_iff (decoder : BackendDecoder) {stream} (answering : Answering buffer stream)
    (extracted : extractBackendFrame buffer = some (tag, frame, rest)) :
    (∃ status, decoder.decode frame = .ok (some (.readyForQuery status))) ↔ tag = readyTag := by
  constructor
  · rintro ⟨status, decoded⟩
    have framed : ∃ whole : BackendFrame, tag = whole.tag ∧ frame = whole.encode := by
      rcases answering with ⟨-, frames, bytes, -⟩ | ⟨-, before, after, bytes, -⟩
      all_goals
        obtain ⟨first, _, _, same, encoded, _⟩ := extract_stream bytes extracted
        exact ⟨first, same, encoded⟩
    obtain ⟨whole, rfl, rfl⟩ := framed
    exact decoder.tagged whole status decoded
  · intro ready
    obtain ⟨rfl, -⟩ := ready_read answering extracted ready
    exact ⟨_, decoder.ready _⟩

variable {decoder : BackendDecoder}

theorem frame_kept {collected}
    (kept : ExecutorKept executor) (phase : executor.phase = .reading backend buffer collected)
    (extracted : extractBackendFrame buffer = some (tag, frame, rest))
    (careful : ExecutorCareful executor .decoded) :
    ExecutorKept (executor.onFrame decoder backend collected frame rest) := by
  have answering : Answering buffer backend.stream := by
    simpa only [ExecutorKept, phase] using kept
  have ready_iff := decoded_ready_iff decoder answering extracted
  unfold Executor.onFrame
  split
  · rename_i status decoded
    have ready : tag = readyTag := ready_iff.mp ⟨status, decoded⟩
    simp only [ExecutorCareful, phase] at careful
    obtain ⟨idle, whole⟩ := careful _ rest (answer_end_ready extracted ready)
    obtain ⟨shown, quieted⟩ := ready_read answering extracted ready
    rw [shown, frame_status_ready] at idle
    exact ⟨quieted whole, idle⟩
  all_goals
    have other : tag ≠ readyTag := by
      intro ready
      obtain ⟨status, decoded⟩ := ready_iff.mpr ready
      simp_all
    exact frame_answering answering extracted other

theorem executor_step_kept {returned} (kept : ExecutorKept executor)
    (careful : ExecutorCareful executor event)
    (acquired : ∀ backend, event = .acquired backend → Quiet backend.stream)
    (moved : executor.step decoder event = some (next, returned)) : ExecutorKept next := by
  cases executor_step_moves moved with
  | acquired phase => exact acquired _ rfl
  | @written backend phase =>
    have quiet : Quiet backend.stream := by simpa only [ExecutorKept, phase] using kept
    exact deliver_answering executor.sql quiet
  | @received backend buffer collected count phase unframed positive available =>
    have answering : Answering buffer backend.stream := by
      simpa only [ExecutorKept, phase] using kept
    exact receive_answering count answering
  | decoded phase extracted => exact frame_kept kept phase extracted careful
  | notified served =>
    exact executor_serve_kept (fun _ _ => notify_quiet) (fun _ _ _ => notify_answering) kept served
  | ready served =>
    exact executor_serve_kept (fun _ _ quiet sent => absurd quiet (ready_not_quiet sent))
      (fun _ _ _ => ready_answering) kept served
  | acquireFailed | writeFailed | closed | readFailed | released | aborted => trivial

theorem executor_returns {conn} (moved : executor.step decoder event = some (next, some conn)) :
    event = .released ∧ ∃ collected, executor.phase = .releasing conn collected := by
  cases executor_step_moves moved with
  | released phase => exact ⟨rfl, _, phase⟩

end PgVisor.ProxyWorld
