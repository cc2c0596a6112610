import Mathlib.Logic.Function.Basic
import PgVisor.WireFrames

/-!
# The connection pool

Idle backend connections are kept in one queue for the leader and one queue for
each standby address. `acquireFor` pops the front of the queue its role selects or
opens a new connection; `release` appends a connection if its address still plays
its role and the queue is not full.

A connection is a value that the pool, a session or the dashboard executor owns,
as in the source: a connection that is dropped exists nowhere. Its stream records
what the network and the server at its other end know: the startup packet it was
opened with, the ReadyForQuery messages the server still owes, the status in the
last one it sent, and the bytes sent but not read. The server speaks first only
with frames other than ReadyForQuery.

The watch channel that wakes waiting callers, the creation instant of a connection
and the count of idle connections are left out. Opening a connection touches no
shared state, so it is taken together with the lookup that precedes it.
-/

namespace PgVisor.ConnectionPool

open ByteWords WireFrames List

/-- Routing target of a statement. -/
inductive BackendRole where
  | leader
  | standby
deriving DecidableEq, Repr

inductive PoolError where
  | io (message : String)
  | backendUnavailable (message : String)
  | failoverTimeout (message : String)
deriving DecidableEq

def PoolError.display : PoolError → String
  | .io message => "I/O error connecting to backend: " ++ message
  | .backendUnavailable message => "Pool exhausted or backend unavailable: " ++ message
  | .failoverTimeout message =>
    "Failover timeout exceeded waiting for healthy backend: " ++ message

/-- A socket to a backend server and the server session behind it. `socket`
distinguishes connections. -/
structure BackendStream where
  socket : Nat
  encrypted : Bool
  startup : StartupMessage
  owed : Nat
  reported : TransactionStatus
  incoming : Bytes
deriving DecidableEq

/-- Bytes delivered to the server that make it owe `answers` further ReadyForQuery
messages. -/
def BackendStream.deliver (stream : BackendStream) (answers : Nat) : BackendStream :=
  { stream with owed := stream.owed + answers }

/-- The server sends a frame that is not a ReadyForQuery, which it may do at any time. -/
def BackendStream.notify (stream : BackendStream) (frame : BackendFrame) : Option BackendStream :=
  if frame.tag = readyTag then none
  else some { stream with incoming := stream.incoming ++ frame.encode }

/-- The server sends a ReadyForQuery it owes. -/
def BackendStream.becomeReady (stream : BackendStream) (status : TransactionStatus) :
    Option BackendStream :=
  match stream.owed with
  | 0 => none
  | owed + 1 => some
    { stream with
      owed := owed
      reported := status
      incoming := stream.incoming ++ (readyFrame status).encode }

/-- A live backend connection. -/
structure PooledConnection where
  stream : BackendStream
  role : BackendRole
  addr : String
deriving DecidableEq

/-- How the far end answers one attempt to open a connection: errors are those of
the system or of the TLS library, and the messages are what the decoder makes of
the bytes sent during the startup handshake, until the socket closes or fails. -/
structure Dial where
  socket : Nat
  connected : Except String Unit := .ok ()
  sslReply : Except String UInt8 := .ok 83
  serverName : Except String Unit := .ok ()
  handshake : Except String Unit := .ok ()
  startupSent : Except String Unit := .ok ()
  messages : List BackendMessage
  failure : Option String := none

/-- A server session that has just been opened is outside any transaction. -/
def Dial.startsIdle (dial : Dial) : Bool :=
  dial.messages.all fun message =>
    match message with
    | .readyForQuery status => decide (status = .idle)
    | _ => true

/-- A server that accepts the startup packet at once. -/
def promptDial (socket : Nat) : Dial where
  socket := socket
  messages := [.authenticationOk, .readyForQuery .idle]

/-- The address up to its first colon. -/
def hostOf (addr : String) : String :=
  String.ofList (addr.toList.takeWhile (· ≠ ':'))

/-- The handshake loop: skip messages until ReadyForQuery or ErrorResponse. -/
def awaitReady (addr : String) (failure : Option String) :
    List BackendMessage → Except PoolError TransactionStatus
  | [] =>
    match failure with
    | some reason => .error (.io reason)
    | none => .error (.backendUnavailable
        ("Backend at " ++ addr ++ " unexpectedly closed connection during startup handshake"))
  | .readyForQuery status :: _ => .ok status
  | .errorResponse message :: _ => .error (.backendUnavailable
      ("Backend at " ++ addr ++ " rejected startup handshake: " ++ message))
  | _ :: rest => awaitReady addr failure rest

/-- The optional TLS upgrade before the startup packet. -/
def upgrade (addr : String) (dial : Dial) : Except PoolError Unit :=
  match dial.sslReply with
  | .error reason => .error (.io reason)
  | .ok reply =>
    if reply = 83 then
      match dial.serverName with
      | .error reason => .error (.backendUnavailable
          ("Invalid DNS name " ++ hostOf addr ++ ": " ++ reason))
      | .ok () =>
        match dial.handshake with
        | .error reason => .error (.backendUnavailable
            ("TLS handshake failed with backend " ++ addr ++ ": " ++ reason))
        | .ok () => .ok ()
    else .error (.backendUnavailable
      ("Backend at " ++ addr ++ " does not support SSL (received '" ++
        String.singleton (Char.ofNat reply.toNat) ++ "')"))

/-- The startup packet of a pooled connection. -/
def startupFor (user database : Option String) : StartupMessage where
  protocolVersion := 196608
  parameters := [("user", user.getD "postgres"), ("database", database.getD "postgres"),
    ("client_encoding", "UTF8")]

/-- Open a connection and wait for the first ReadyForQuery. -/
def connectWithTls (addr : String) (role : BackendRole) (user database : Option String)
    (tls : Bool) (dial : Dial) : Except PoolError PooledConnection :=
  match dial.connected with
  | .error reason => .error (.io reason)
  | .ok () =>
    match if tls then upgrade addr dial else .ok () with
    | .error err => .error err
    | .ok () =>
      match dial.startupSent with
      | .error reason => .error (.io reason)
      | .ok () =>
        match awaitReady addr dial.failure dial.messages with
        | .error err => .error err
        | .ok status => .ok
          { stream :=
              { socket := dial.socket
                encrypted := tls
                startup := startupFor user database
                owed := 0
                reported := status
                incoming := [] }
            role := role
            addr := addr }

/-- The state behind the pool's lock. A standby address without a queue is told
apart from one with an empty queue. -/
structure PoolInner where
  leaderAddr : Option String
  standbyAddrs : List String
  standbyRrIndex : Nat
  idleLeaders : List PooledConnection
  idleStandbys : String → Option (List PooledConnection)
  maxIdlePerNode : Nat
  version : Nat

/-- `ConnectionPool::new`. -/
def PoolInner.new (maxIdlePerNode : Nat) : PoolInner where
  leaderAddr := none
  standbyAddrs := []
  standbyRrIndex := 0
  idleLeaders := []
  idleStandbys := fun _ => none
  maxIdlePerNode := maxIdlePerNode
  version := 0

def PoolInner.updateTopology (inner : PoolInner) (leader : Option String)
    (standbys : List String) : PoolInner :=
  { leaderAddr := leader
    standbyAddrs := standbys
    standbyRrIndex := 0
    -- an unchanged leader keeps its idle connections
    idleLeaders := if inner.leaderAddr ≠ leader then [] else inner.idleLeaders
    idleStandbys := fun addr => if addr ∈ standbys then inner.idleStandbys addr else none
    maxIdlePerNode := inner.maxIdlePerNode
    version := (inner.version + 1) % 2 ^ 64 }

def PoolInner.drainAll (inner : PoolInner) : PoolInner :=
  { inner with
    idleLeaders := []
    idleStandbys := fun _ => none
    version := (inner.version + 1) % 2 ^ 64 }

/-- `idle_leaders.pop_front()`, with the leader's address. -/
def PoolInner.popLeader (inner : PoolInner) (addr : String) :
    Option PooledConnection × String × PoolInner :=
  (inner.idleLeaders.head?, addr, { inner with idleLeaders := inner.idleLeaders.tail })

/-- The lookup `acquireFor` makes under the lock: an idle connection if the
selected queue has one, the address to dial otherwise. -/
def PoolInner.popIdle (inner : PoolInner) (role : BackendRole) :
    Except PoolError (Option PooledConnection × String × PoolInner) :=
  match role with
  | .leader =>
    match inner.leaderAddr with
    | none => .error (.backendUnavailable "No active Raft leader registered")
    | some addr => .ok (inner.popLeader addr)
  | .standby =>
    match inner.standbyAddrs[inner.standbyRrIndex % inner.standbyAddrs.length]? with
    | some addr =>
      let turned := { inner with standbyRrIndex := (inner.standbyRrIndex + 1) % 2 ^ 64 }
      match inner.idleStandbys addr with
      | some (conn :: rest) =>
        .ok (some conn, addr,
          { turned with idleStandbys := Function.update inner.idleStandbys addr (some rest) })
      | _ => .ok (none, addr, turned)
    | none =>
      -- only an empty list has no entry at the round-robin position
      match inner.leaderAddr with
      | some addr => .ok (inner.popLeader addr)
      | none => .error (.backendUnavailable "No database instances available")

/-- One call of `acquire_for`. -/
def PoolInner.acquireFor (inner : PoolInner) (tls : Bool) (role : BackendRole)
    (user database : Option String) (dial : Dial) : Except PoolError PooledConnection × PoolInner :=
  match inner.popIdle role with
  | .error err => (.error err, inner)
  | .ok (some conn, _, next) => (.ok conn, next)
  | .ok (none, target, next) => (connectWithTls target role user database tls dial, next)

/-- Whether `release` would put the connection into a queue. -/
def PoolInner.accepts (inner : PoolInner) (conn : PooledConnection) : Bool :=
  match conn.role with
  | .leader =>
    decide (some conn.addr = inner.leaderAddr) &&
      decide (inner.idleLeaders.length < inner.maxIdlePerNode)
  | .standby =>
    decide (conn.addr ∈ inner.standbyAddrs) &&
      decide (((inner.idleStandbys conn.addr).getD []).length < inner.maxIdlePerNode)

/-- Put a connection back. A connection that finds no place is dropped. -/
def PoolInner.release (inner : PoolInner) (conn : PooledConnection) : PoolInner :=
  match conn.role with
  | .leader =>
    if some conn.addr = inner.leaderAddr ∧ inner.idleLeaders.length < inner.maxIdlePerNode then
      { inner with idleLeaders := inner.idleLeaders ++ [conn] }
    else inner
  | .standby =>
    if conn.addr ∈ inner.standbyAddrs then
      let queue := (inner.idleStandbys conn.addr).getD []
      let grown := if queue.length < inner.maxIdlePerNode then queue ++ [conn] else queue
      -- the queue is created even when the connection does not fit
      { inner with idleStandbys := Function.update inner.idleStandbys conn.addr (some grown) }
    else inner

/-- Connections sitting in one of the idle queues. -/
def PoolInner.Idle (inner : PoolInner) (conn : PooledConnection) : Prop :=
  conn ∈ inner.idleLeaders ∨ ∃ addr queue, inner.idleStandbys addr = some queue ∧ conn ∈ queue

/-- The connection sits in a queue for connections of the role. -/
def PoolInner.IdleIn (inner : PoolInner) (conn : PooledConnection) : BackendRole → Prop
  | .leader => conn ∈ inner.idleLeaders
  | .standby => ∃ addr queue, inner.idleStandbys addr = some queue ∧ conn ∈ queue

/-! ### What each operation does to the idle connections -/

variable {next : PoolInner} {addr target : String} {popped : Option PooledConnection} {tls : Bool}
  {user database : Option String} {dial : Dial}

theorem new_idle (maxIdlePerNode : Nat) (conn : PooledConnection) :
    ¬ (PoolInner.new maxIdlePerNode).Idle conn := by
  simp [PoolInner.Idle, PoolInner.new]

theorem drain_all_idle (inner : PoolInner) (conn : PooledConnection) :
    ¬ inner.drainAll.Idle conn := by
  simp [PoolInner.Idle, PoolInner.drainAll]

variable {inner : PoolInner} {conn : PooledConnection}

theorem idle_iff : inner.Idle conn ↔ ∃ side, inner.IdleIn conn side := by
  constructor
  · rintro (leaders | standbys)
    · exact ⟨.leader, leaders⟩
    · exact ⟨.standby, standbys⟩
  · rintro ⟨side, inside⟩
    cases side with
    | leader => exact .inl inside
    | standby => exact .inr inside

variable {side : BackendRole}

/-- A new topology fills no queue, and a new leader's address empties that of the leader. -/
theorem update_topology_keeps {leader standbys}
    (idle : (inner.updateTopology leader standbys).IdleIn conn side) :
    inner.IdleIn conn side ∧ (side = .leader → inner.leaderAddr = leader) := by
  cases side with
  | leader =>
    simp only [PoolInner.IdleIn, PoolInner.updateTopology] at idle
    split at idle
    · cases idle
    next same => exact ⟨idle, fun _ => not_not.mp same⟩
  | standby =>
    obtain ⟨addr, queue, stored, member⟩ := idle
    simp only [PoolInner.updateTopology] at stored
    split at stored
    · exact ⟨⟨addr, queue, stored, member⟩, nofun⟩
    · cases stored

/-- A new topology never makes a connection idle. -/
theorem update_topology_idle {leader standbys}
    (idle : (inner.updateTopology leader standbys).Idle conn) : inner.Idle conn := by
  obtain ⟨side, inside⟩ := idle_iff.mp idle
  exact idle_iff.mpr ⟨side, (update_topology_keeps inside).1⟩

theorem pop_leader_keeps (chosen : inner.popLeader addr = (popped, target, next)) :
    (∀ conn, popped = some conn → inner.Idle conn) ∧
      ∀ conn side, next.IdleIn conn side → inner.IdleIn conn side := by
  obtain ⟨rfl, rfl, rfl⟩ := chosen
  constructor
  · intro conn front
    exact .inl (mem_of_mem_head? front)
  · intro conn side idle
    cases side with
    | leader => exact mem_of_mem_tail idle
    | standby => exact idle

variable {role : BackendRole}

/-- Popping hands out an idle connection and fills no queue. -/
theorem pop_keeps (found : inner.popIdle role = .ok (popped, target, next)) :
    (∀ conn, popped = some conn → inner.Idle conn) ∧
      ∀ conn side, next.IdleIn conn side → inner.IdleIn conn side := by
  unfold PoolInner.popIdle at found
  cases role with
  | leader =>
    simp only at found
    split at found
    · cases found
    · exact pop_leader_keeps (Except.ok.inj found)
  | standby =>
    simp only at found
    split at found
    · rename_i addr _
      split at found
      · rename_i conn rest stored
        simp only [Except.ok.injEq, Prod.mk.injEq] at found
        obtain ⟨rfl, rfl, rfl⟩ := found
        constructor
        · rintro _ ⟨⟩
          exact .inr ⟨addr, _, stored, mem_cons_self⟩
        intro other side idle
        cases side with
        | leader => exact idle
        | standby =>
          obtain ⟨key, queue, kept, member⟩ := idle
          by_cases same : key = addr
          · subst same
            simp only [Function.update_self, Option.some.injEq] at kept
            subst kept
            exact ⟨key, _, stored, mem_cons_of_mem conn member⟩
          · simp only [Function.update_of_ne same] at kept
            exact ⟨key, queue, kept, member⟩
      · simp only [Except.ok.injEq, Prod.mk.injEq] at found
        obtain ⟨rfl, rfl, rfl⟩ := found
        exact ⟨by simp, fun _ _ idle => idle⟩
    · split at found
      · exact pop_leader_keeps (Except.ok.inj found)
      · cases found

/-- Popping makes no connection idle. -/
theorem pop_idle (found : inner.popIdle role = .ok (popped, target, next)) (conn : PooledConnection)
    (idle : next.Idle conn) : inner.Idle conn := by
  obtain ⟨side, inside⟩ := idle_iff.mp idle
  exact idle_iff.mpr ⟨side, (pop_keeps found).2 conn side inside⟩

/-- A connection obtained by `acquireFor` was idle or has just been opened for the
caller, and no other connection becomes idle. -/
theorem acquire_for_cases {answer}
    (acquired : inner.acquireFor tls role user database dial = (answer, next)) :
    (∀ conn, next.Idle conn → inner.Idle conn) ∧ ∀ conn, answer = .ok conn → inner.Idle conn ∨
          ∃ target, connectWithTls target role user database tls dial = .ok conn := by
  unfold PoolInner.acquireFor at acquired
  split at acquired
  · obtain ⟨rfl, rfl⟩ := acquired
    exact ⟨fun _ idle => idle, by simp⟩
  · rename_i conn _ _ found
    obtain ⟨rfl, rfl⟩ := acquired
    refine ⟨pop_idle found, ?_⟩
    rintro other ⟨⟩
    exact .inl ((pop_keeps found).1 conn rfl)
  · rename_i target _ found
    obtain ⟨rfl, rfl⟩ := acquired
    exact ⟨pop_idle found, fun conn opened => .inr ⟨target, opened⟩⟩

/-- Release puts at most the released connection into a queue, that of its role, and only if
the pool accepts it. -/
theorem release_keeps {released} (idle : (inner.release released).IdleIn conn side) :
    inner.IdleIn conn side ∨
      conn = released ∧ released.role = side ∧ inner.accepts released = true := by
  unfold PoolInner.release at idle
  cases role : released.role with
  | leader =>
    simp only [role] at idle
    split at idle
    · rename_i fits
      cases side with
      | leader =>
        rcases mem_append.mp idle with old | new
        · exact .inl old
        · refine .inr ⟨mem_singleton.mp new, rfl, ?_⟩
          simp [PoolInner.accepts, role, fits.1, fits.2]
      | standby => exact .inl idle
    · exact .inl idle
  | standby =>
    simp only [role] at idle
    split at idle
    · rename_i registered
      cases side with
      | leader => exact .inl idle
      | standby =>
        obtain ⟨addr, queue, stored, member⟩ := idle
        by_cases same : addr = released.addr
        · subst same
          simp only [Function.update_self, Option.some.injEq] at stored
          subst stored
          have present (inQueue : conn ∈ (inner.idleStandbys released.addr).getD []) :
              inner.IdleIn conn .standby := by
            cases kept : inner.idleStandbys released.addr with
            | none => simp [kept] at inQueue
            | some queue =>
              rw [kept, Option.getD_some] at inQueue
              exact ⟨released.addr, queue, kept, inQueue⟩
          split at member
          · rename_i fits
            rcases mem_append.mp member with old | new
            · exact .inl (present old)
            · refine .inr ⟨mem_singleton.mp new, rfl, ?_⟩
              simp [PoolInner.accepts, role, registered, fits]
          · exact .inl (present member)
        · simp only [Function.update_of_ne same] at stored
          exact .inl ⟨addr, queue, stored, member⟩
    · exact .inl idle

/-- Release makes at most the released connection idle, and that one only if the
pool accepts it. -/
theorem release_idle {released} (idle : (inner.release released).Idle conn) :
    inner.Idle conn ∨ conn = released ∧ inner.accepts released = true := by
  obtain ⟨side, inside⟩ := idle_iff.mp idle
  rcases release_keeps inside with before | ⟨same, -, accepted⟩
  · exact .inl (idle_iff.mpr ⟨side, before⟩)
  · exact .inr ⟨same, accepted⟩

/-- A connection that has just been opened carries the caller's startup packet,
owes nothing and has reported the status of the handshake. -/
theorem connect_with_tls_stream
    (opened : connectWithTls addr role user database tls dial = .ok conn) :
    conn.stream.startup = startupFor user database ∧ conn.stream.owed = 0 ∧
      conn.stream.incoming = [] ∧
      awaitReady addr dial.failure dial.messages = .ok conn.stream.reported := by
  unfold connectWithTls at opened
  split at opened
  · cases opened
  split at opened
  · cases opened
  split at opened
  · cases opened
  split at opened
  · cases opened
  · rename_i status ready
    cases opened
    exact ⟨rfl, rfl, rfl, ready⟩

/-- A server that starts idle reports idle at the end of the handshake. -/
theorem await_ready_idle {failure messages status}
    (ready : awaitReady addr failure messages = .ok status)
    (idle : ∀ reported, BackendMessage.readyForQuery reported ∈ messages → reported = .idle) :
    status = .idle := by
  fun_induction awaitReady addr failure messages with
  | case1 | case2 => cases ready
  | case3 =>
    obtain rfl := Except.ok.inj ready
    exact idle _ mem_cons_self
  | case4 => cases ready
  | case5 message rest _ _ ih =>
    exact ih ready fun reported member =>
      idle reported (mem_cons_of_mem message member)

end PgVisor.ConnectionPool
