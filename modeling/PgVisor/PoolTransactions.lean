import PgVisor.ProxyWorld

/-!
# Idle connections and transactions

Over every interleaving of sessions and executor calls, a run of careful steps leaves
no connection idle in the pool whose server is inside a transaction. The invariant
holds every connection of the world to the state its place calls for: idle ones are
quiet and idle, held ones are quiet, and one whose query is being answered is read up
to the status it reported.
-/

namespace PgVisor.ProxyWorld

open WireFrames ConnectionPool ClientSession SqlGuard SqlExecutor Transitions

/-- Every connection is in the state its place calls for. -/
structure WorldKept (world : World) : Prop where
  sessions : ∀ client, SessionKept (world.sessions client)
  executors : ∀ call, ExecutorKept (world.executors call)
  idle : ∀ conn, world.pool.Idle conn → Quiet conn.stream ∧ conn.stream.reported = .idle

theorem new_kept (maxIdlePerNode : Nat) (configs : Nat → SessionConfig)
    (statements : Nat → String × Nat) :
    WorldKept (World.new maxIdlePerNode configs statements) where
  sessions client := by
    refine ⟨?_, trivial⟩
    intro backend held
    cases held
  executors _ := trivial
  idle conn idle := absurd idle (new_idle maxIdlePerNode conn)

variable {conn : PooledConnection}

/-- An idle connection after its server sent something is one that was idle before. -/
theorem notify_idle_cases {inner next standby position frame}
    (notified : notifyIdle inner standby position frame = some next)
    (idle : next.Idle conn) :
    inner.Idle conn ∨ ∃ old stream, inner.Idle old ∧ old.stream.notify frame = some stream ∧
      conn.stream = stream := by
  cases standby with
  | none =>
    obtain ⟨old, found, moved⟩ := Option.bind_eq_some_iff.mp notified
    obtain ⟨stream, sent, rfl⟩ := Option.map_eq_some_iff.mp moved
    rcases idle with member | standbys
    · rcases List.mem_or_eq_of_mem_set member with same | rfl
      · exact .inl (.inl same)
      · exact .inr ⟨old, stream, .inl (List.mem_of_getElem? found), sent, rfl⟩
    · exact .inl (.inr standbys)
  | some addr =>
    obtain ⟨queue, stored, chosen⟩ := Option.bind_eq_some_iff.mp notified
    obtain ⟨old, found, moved⟩ := Option.bind_eq_some_iff.mp chosen
    obtain ⟨stream, sent, rfl⟩ := Option.map_eq_some_iff.mp moved
    rcases idle with member | ⟨key, kept, held, member⟩
    · exact .inl (.inl member)
    by_cases same : key = addr
    · subst same
      simp only [Function.update_self, Option.some.injEq] at held
      subst held
      rcases List.mem_or_eq_of_mem_set member with before | rfl
      · exact .inl (.inr ⟨key, queue, stored, before⟩)
      · exact .inr ⟨old, stream, .inr ⟨key, queue, stored, List.mem_of_getElem? found⟩, sent, rfl⟩
    · simp only [Function.update_of_ne same] at held
      exact .inl (.inr ⟨key, kept, held, member⟩)

variable {world : World}

/-- The pool hands out quiet connections whose servers are outside transactions. -/
theorem WorldKept.acquired (kept : WorldKept world) {tls role user database dial next}
    (starts : dial.startsIdle = true)
    (answered : world.pool.acquireFor tls role user database dial = (.ok conn, next)) :
    Quiet conn.stream ∧ conn.stream.reported = .idle := by
  rcases (acquire_for_cases answered).2 conn rfl with idle | ⟨target, opened⟩
  · exact kept.idle conn idle
  · exact ⟨connect_quiet opened, connect_idle starts opened⟩

theorem WorldKept.withPool (kept : WorldKept world) {pool}
    (idle : ∀ conn, pool.Idle conn → world.pool.Idle conn) :
    WorldKept { world with pool := pool } where
  sessions := kept.sessions
  executors := kept.executors
  idle conn sitting := kept.idle conn (idle conn sitting)

/-- One session step keeps the world in order. -/
theorem move_session_kept {next client event} (kept : WorldKept world)
    (careful : SessionCareful (world.sessions client) event)
    (returned : DepartureCareful world.pool (world.sessions client) event)
    (acquired : ∀ backend, event = .acquired backend → Quiet backend.stream)
    (moved : world.moveSession client event = some next) : WorldKept next := by
  obtain ⟨⟨session, outputs⟩, stepped, rfl⟩ := Option.map_eq_some_iff.mp moved
  have after := session_step_kept (kept.sessions client) careful acquired stepped
  refine ⟨?_, kept.executors, ?_⟩
  · exact (Function.forall_update_iff _ fun _ => SessionKept).mpr
      ⟨after, fun other _ => kept.sessions other⟩
  intro conn idle
  rcases session_absorbed world.pool stepped with
    unchanged | ⟨backend, ends, rfl, phase, handed⟩
  · simp only [unchanged] at idle
    exact kept.idle conn idle
  · simp only [handed] at idle
    rcases release_idle idle with before | ⟨rfl, accepted⟩
    · exact kept.idle conn before
    have inUse := (kept.sessions client).inUse
    simp only [phase] at inUse
    cases ends with
    | false => exact ⟨inUse.1, inUse.2 rfl⟩
    | true =>
      simp only [DepartureCareful, phase] at returned
      rw [returned] at accepted
      cases accepted

/-- One step of an executor call keeps the world in order. -/
theorem move_executor_kept {next decoder call event} (kept : WorldKept world)
    (careful : ExecutorCareful (world.executors call) event)
    (acquired : ∀ backend, event = .acquired backend → Quiet backend.stream)
    (moved : world.moveExecutor decoder call event = some next) : WorldKept next := by
  obtain ⟨⟨executor, handed⟩, stepped, rfl⟩ := Option.map_eq_some_iff.mp moved
  have after := executor_step_kept (kept.executors call) careful acquired stepped
  refine ⟨kept.sessions, ?_, ?_⟩
  · exact (Function.forall_update_iff _ fun _ => ExecutorKept).mpr
      ⟨after, fun other _ => kept.executors other⟩
  intro conn idle
  cases handed with
  | none => exact kept.idle conn idle
  | some backend =>
    obtain ⟨rfl, collected, phase⟩ := executor_returns stepped
    rcases release_idle idle with before | ⟨rfl, -⟩
    · exact kept.idle conn before
    · have inUse := kept.executors call
      simp only [ExecutorKept, phase] at inUse
      exact inUse

/-- The answer of one acquisition round is an answer of the pool or a time-out. -/
theorem round_answer_ok {role elapsed answer}
    (told : roundAnswer role elapsed answer = some (.ok conn)) : answer = .ok conn := by
  cases answer with
  | ok found =>
    cases told
    rfl
  | error err =>
    obtain ⟨_, _, same⟩ := Option.map_eq_some_iff.mp told
    cases same

section Rounds

variable {world next : World} {tls : Bool} {role : BackendRole} {user database : Option String}
  {dial : Dial} {elapsed : Option String} {answer : Except PoolError PooledConnection}
  {pool : PoolInner}

/-- A connection that a round of acquisition comes back with is quiet. -/
theorem WorldKept.told (kept : WorldKept world) (starts : dial.startsIdle = true)
    (asked : world.pool.acquireFor tls role user database dial = (answer, pool))
    (given : roundAnswer role elapsed answer = some (.ok conn)) : Quiet conn.stream := by
  obtain rfl := round_answer_ok given
  exact (kept.acquired starts asked).1

/-- A session goes on with what the round came back with. -/
theorem session_told_kept {client told} (kept : WorldKept world) (starts : dial.startsIdle = true)
    (asked : world.pool.acquireFor tls role user database dial = (answer, pool))
    (given : roundAnswer role elapsed answer = some told)
    (moved : ({ world with pool := pool } : World).moveSession client (answerEvent told) =
      some next) : WorldKept next := by
  have shrunk := kept.withPool (acquire_for_cases asked).1
  cases told with
  | ok conn =>
    refine move_session_kept shrunk ?_ ?_ ?_ moved
    · trivial
    · trivial
    rintro backend ⟨⟩
    exact kept.told starts asked given
  | error err =>
    refine move_session_kept shrunk ?_ ?_ ?_ moved
    · trivial
    · trivial
    rintro backend ⟨⟩

/-- So does a dashboard call. -/
theorem executor_told_kept {decoder call told}
    (kept : WorldKept world) (starts : dial.startsIdle = true)
    (asked : world.pool.acquireFor tls role user database dial = (answer, pool))
    (given : roundAnswer role elapsed answer = some told)
    (moved : ({ world with pool := pool } : World).moveExecutor decoder call
      (answerExecutorEvent told) = some next) : WorldKept next := by
  have shrunk := kept.withPool (acquire_for_cases asked).1
  cases told with
  | ok conn =>
    refine move_executor_kept shrunk ?_ ?_ moved
    · trivial
    rintro backend ⟨⟩
    exact kept.told starts asked given
  | error err =>
    refine move_executor_kept shrunk ?_ ?_ moved
    · trivial
    rintro backend ⟨⟩

end Rounds

/-- One careful action keeps the world in order. -/
theorem step_kept {proxy next action} (kept : WorldKept world)
    (careful : Careful world action) (moved : world.step proxy action = some next) :
    WorldKept next := by
  cases action with
  | session client event =>
    obtain ⟨quietly, returned⟩ := careful
    simp only [World.step] at moved
    split at moved
    · cases moved
    · cases moved
    · rename_i fresh _
      exact move_session_kept kept quietly returned
        (fun backend same => absurd same (fresh backend)) moved
  | sessionAcquires client dial elapsed =>
    simp only [World.step] at moved
    split at moved
    · rename_i call stage phase
      split at moved
      · rename_i starts
        generalize asked : world.pool.acquireFor proxy.tls call.role
          (world.sessions client).user (world.sessions client).database dial = answered at moved
        obtain ⟨answer, pool⟩ := answered
        split at moved
        · cases moved
          exact kept.withPool (acquire_for_cases asked).1
        next told given => exact session_told_kept kept starts asked given moved
      · cases moved
    · cases moved
  | executor call event =>
    simp only [World.step] at moved
    split at moved
    · cases moved
    · cases moved
    · rename_i fresh _
      exact move_executor_kept kept careful
        (fun backend same => absurd same (fresh backend)) moved
  | executorAcquires call dial elapsed =>
    simp only [World.step] at moved
    split at moved
    · rename_i phase
      split at moved
      · rename_i starts
        generalize asked : world.pool.acquireFor proxy.tls
          (executorRole proxy.upper (world.executors call)) none none dial = answered at moved
        obtain ⟨answer, pool⟩ := answered
        split at moved
        · cases moved
          exact kept.withPool (acquire_for_cases asked).1
        next told given => exact executor_told_kept kept starts asked given moved
      · cases moved
    · cases moved
  | updateTopology leader standbys =>
    cases moved
    exact kept.withPool (fun _ => update_topology_idle)
  | drainAll =>
    cases moved
    exact kept.withPool (fun conn idle => absurd idle (drain_all_idle _ conn))
  | idleNotifies standby position frame =>
    obtain ⟨pool, notified, rfl⟩ := Option.map_eq_some_iff.mp moved
    refine ⟨kept.sessions, kept.executors, ?_⟩
    intro conn idle
    rcases notify_idle_cases notified idle with before | ⟨old, stream, before, sent, same⟩
    · exact kept.idle conn before
    obtain ⟨quiet, reported⟩ := kept.idle old before
    obtain ⟨still, kept⟩ := notify_quiet quiet sent
    rw [same]
    exact ⟨still, kept.trans reported⟩

/-- In every run of careful steps, over any number of sessions and executor calls, the
last status each idle connection's server reported is idle, and no caller is handed a
connection inside a transaction. -/
theorem idle_outside_transactions (proxy : Proxy) (maxIdlePerNode : Nat)
    (configs : Nat → SessionConfig) (statements : Nat → String × Nat) (actions : List Action)
    (world : World)
    (careful : Meets (World.step proxy) Careful (World.new maxIdlePerNode configs statements)
      actions)
    (reached : run (World.step proxy) (World.new maxIdlePerNode configs statements) actions =
      some world) : (∀ conn, world.pool.Idle conn → conn.stream.reported = .idle) ∧
    ∀ role user database dial conn next, dial.startsIdle = true →
      world.pool.acquireFor proxy.tls role user database dial = (.ok conn, next) →
      conn.stream.reported = .idle := by
  have kept : WorldKept world :=
    run_invariant (World.step proxy) Careful WorldKept
      (fun _ _ _ before care moved => step_kept before care moved)
      (new_kept maxIdlePerNode configs statements) careful reached
  constructor
  · intro conn idle
    exact (kept.idle conn idle).2
  · intro role user database dial conn next starts answered
    exact (kept.acquired starts answered).2

/-! ### Runs -/

/-- A decoder that reads the status of ReadyForQuery and keeps other frames raw. -/
def statusDecoder : BackendDecoder where
  decode bytes :=
    match bytes with
    | 90 :: _ :: _ :: _ :: _ :: status :: _ =>
      match TransactionStatus.ofByte status with
      | some known => .ok (some (.readyForQuery known))
      | none => .error "Invalid transaction status"
    | tag :: rest => .ok (some (.raw tag (rest.drop 4)))
    | [] => .ok none
  ready status := by cases status <;> rfl
  tagged frame status decoded := by
    by_contra other
    have unlike : frame.tag ≠ 90 := other
    simp [BackendFrame.encode, unlike] at decoded

def plainProxy : Proxy where
  tls := false
  upper := asciiUpperCase
  decoder := statusDecoder

/-- A world whose first dashboard call runs the given statement. -/
def startWorld (statement : String) : World :=
  World.new 10 (fun _ => { tlsAcceptor := false, tlsRequired := false, processId := 1 })
    (fun _ => (statement, 500))

/-- Client 0 connects and has its query answered with the given status. -/
def servedQuery (sql : String) (status : TransactionStatus) : List Action :=
  [.updateTopology (some "leader:5432") [],
    .session 0 (.initial (.startup (startupFor none none)) false),
    .session 0 (.message (.query sql)), .sessionAcquires 0 (promptDial 1) none,
    .session 0 .written, .session 0 (.serverReady status), .session 0 (.received 6),
    .session 0 .relayed]

/-- The first dashboard call has its statement answered with the given status. -/
def servedStatement (status : TransactionStatus) : List Action :=
  [.updateTopology (some "leader:5432") [],
    .executorAcquires 0 (promptDial 1) none, .executor 0 .written,
    .executor 0 (.serverReady status), .executor 0 (.received 6), .executor 0 .decoded,
    .executor 0 .released]

def idleStatuses (world : World) : List TransactionStatus :=
  world.pool.idleLeaders.map fun conn => conn.stream.reported

/-- A client that opens a transaction and disconnects, and a dashboard statement that
opens one, both leave an idle connection inside it. -/
theorem open_block_pooled :
    (∃ world, run (World.step plainProxy) (startWorld "SELECT 1")
        (servedQuery "BEGIN" .transaction ++ [.session 0 .clientClosed, .session 0 .released]) =
          some world ∧ ∃ conn, world.pool.Idle conn ∧ conn.stream.reported = .transaction) ∧
    ∃ world, run (World.step plainProxy) (startWorld "BEGIN") (servedStatement .transaction) =
        some world ∧ ∃ conn, world.pool.Idle conn ∧ conn.stream.reported = .transaction := by
  have pooled (world : World) (statuses : idleStatuses world = [.transaction]) :
      ∃ conn, world.pool.Idle conn ∧ conn.stream.reported = .transaction := by
    have member : TransactionStatus.transaction ∈ idleStatuses world := by simp [statuses]
    obtain ⟨conn, idle, reported⟩ := List.mem_map.mp member
    exact ⟨conn, .inl idle, reported⟩
  constructor
  · obtain ⟨world, reached, statuses⟩ : ∃ world, run (World.step plainProxy)
        (startWorld "SELECT 1") (servedQuery "BEGIN" .transaction ++
          [.session 0 .clientClosed, .session 0 .released]) = some world ∧
        idleStatuses world = [.transaction] := by decide +kernel
    exact ⟨world, reached, pooled world statuses⟩
  · obtain ⟨world, reached, statuses⟩ : ∃ world, run (World.step plainProxy) (startWorld "BEGIN")
        (servedStatement .transaction) = some world ∧ idleStatuses world = [.transaction] := by
      decide +kernel
    exact ⟨world, reached, pooled world statuses⟩

/-- A test for careful steps of sessions that only send queries: nothing is left in the buffer,
and no client leaves. -/
def carefulTest (world : World) : Action → Bool
  | .session _ (.message (.query _)) => true
  | .session _ (.message _) => false
  | .session client .relayed =>
    match (world.sessions client).phase with
    | .reading _ _ buffer _ => (answerEnd buffer).all fun ending => ending.2.isEmpty
    | _ => true
  | .session client .released =>
    match (world.sessions client).phase with
    | .releasing _ ends => !ends
    | _ => true
  | .executor _ _ => false
  | _ => true

theorem careful_of_test (world : World) (action : Action)
    (passed : carefulTest world action = true) : Careful world action := by
  cases action with
  | session client event =>
    cases event with
    | message message => cases message <;> first | exact ⟨trivial, trivial⟩ | cases passed
    | relayed =>
      refine ⟨?_, trivial⟩
      simp only [SessionCareful]
      split
      next phase =>
        simp only [carefulTest, phase] at passed
        intro status rest left
        rw [left] at passed
        exact ⟨[], List.isEmpty_iff.mp passed⟩
      · trivial
    | released =>
      refine ⟨trivial, ?_⟩
      simp only [DepartureCareful]
      split
      next phase => simp [carefulTest, phase] at passed
      · trivial
    | initial | clientClosed | acquired | acquireFailed | written | writeFailed | received | lost
    | serverNotifies | serverReady | aborted => exact ⟨trivial, trivial⟩
  | executor call event => cases passed
  | sessionAcquires | executorAcquires | updateTopology | drainAll | idleNotifies => trivial

/-- An INSERT that is answered idle returns its connection to the pool, idle. -/
theorem served_insert_pooled :
    ∃ world, run (World.step plainProxy) (startWorld "SELECT 1")
        (servedQuery "INSERT INTO t VALUES (1)" .idle ++ [.session 0 .released]) = some world ∧
      (∃ conn, world.pool.Idle conn) ∧
      ∀ conn, world.pool.Idle conn → conn.stream.reported = .idle := by
  obtain ⟨world, reached, conn, idle⟩ : ∃ world, run (World.step plainProxy) (startWorld "SELECT 1")
      (servedQuery "INSERT INTO t VALUES (1)" .idle ++ [.session 0 .released]) = some world ∧
        ∃ conn, world.pool.idleLeaders.head? = some conn := by decide +kernel
  refine ⟨world, reached, ⟨conn, .inl (List.mem_of_head? idle)⟩, ?_⟩
  exact (idle_outside_transactions plainProxy 10 _ _ _ world (meets_mono
    (fun world action => carefulTest world action) careful_of_test (by decide +kernel)) reached).1

end PgVisor.ProxyWorld
