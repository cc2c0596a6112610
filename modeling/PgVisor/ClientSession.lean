import PgVisor.ConnectionPool
import PgVisor.QueryRouting
import PgVisor.Transitions

/-!
# Client sessions

One client session as a state machine: the handshake, the command loop and the
handling of one simple query with its two recovery paths. A phase is a point of
the source where the session waits for the client, the pool or a backend, and an
event is the answer it gets there; the order and the outcome of the answers are
free. What the session writes, and the connections it hands back, are outputs.

A session that leaves through an I/O error, a cancelled task or a panic drops the
connection it owns; `aborted` stands for all of these and may happen at any point.
The server behind the owned connection acts through `serverNotifies` and
`serverReady`. Audit records and metrics are written beside the query and influence
nothing here, and decoding the client's bytes happens before the messages arrive.
-/

namespace PgVisor.ClientSession

open ByteWords WireFrames ConnectionPool QueryRouting

/-- What a session is configured with. -/
structure SessionConfig where
  tlsAcceptor : Bool
  tlsRequired : Bool
  processId : Nat
deriving DecidableEq

/-- The query being handled and where it is routed. -/
structure QueryCall where
  sql : String
  role : BackendRole
deriving DecidableEq

/-- Why a backend is acquired: none is held, the query could not be written to the
held one, or the held one closed before anything of its answer was relayed. -/
inductive Stage where
  | initial
  | rewrite
  | replay
deriving DecidableEq

/-- Where the session waits. `reading` carries the bytes read but not yet framed and
the number of bytes relayed for the current query. -/
inductive Phase where
  | handshake (encrypted : Bool)
  | command
  | acquiring (call : QueryCall) (stage : Stage)
  | writing (call : QueryCall) (stage : Stage) (backend : PooledConnection)
  | reading (call : QueryCall) (backend : PooledConnection) (buffer : Bytes)
      (clientBytesWritten : Nat)
  | releasing (backend : PooledConnection) (ends : Bool)
  | ended
deriving DecidableEq

structure Session where
  config : SessionConfig
  tracker : TransactionTracker
  activeBackend : Option PooledConnection
  startupParams : Option StartupMessage
  phase : Phase
deriving DecidableEq

inductive Event where
  | initial (message : InitialClientMessage) (tlsAccepted : Bool)
  | message (message : FrontendMessage)
  | clientClosed
  | acquired (backend : PooledConnection)
  | acquireFailed (err : PoolError)
  | written
  | writeFailed
  | received (count : Nat)
  | lost
  | relayed
  | released
  | serverNotifies (frame : BackendFrame)
  | serverReady (status : TransactionStatus)
  | aborted
deriving DecidableEq

/-- Visible effects. `queryTo` marks the start of writing a query to a socket. -/
inductive Output where
  | sslReply (reply : UInt8)
  | replied (messages : List BackendMessage)
  | queryTo (socket : Nat) (sql : String)
  | forwardedTo (socket : Nat) (message : FrontendMessage)
  | relayed (socket : Nat) (tag : UInt8) (frame : Bytes)
  | release (conn : PooledConnection)
deriving DecidableEq

def Session.new (config : SessionConfig) : Session where
  config := config
  tracker := TransactionTracker.new
  activeBackend := none
  startupParams := none
  phase := .handshake false

/-- The session is over and owns nothing. -/
def Session.finish (session : Session) : Session :=
  { session with activeBackend := none, phase := .ended }

def Session.user (session : Session) : Option String :=
  session.startupParams.bind StartupMessage.user

def Session.database (session : Session) : Option String :=
  session.startupParams.bind StartupMessage.database

/-- What the client is sent once its startup packet is accepted. -/
def greeting (processId : Nat) : List BackendMessage :=
  [.authenticationOk,
    .parameterStatus "server_version" "18.6",
    .parameterStatus "server_encoding" "UTF8",
    .parameterStatus "client_encoding" "UTF8",
    .parameterStatus "standard_conforming_strings" "on",
    .parameterStatus "TimeZone" "UTC",
    .backendKeyData processId 12345678, .readyForQuery .idle]

/-- One packet of the initial handshake. -/
def Session.onInitial (session : Session) (encrypted : Bool) (message : InitialClientMessage)
    (tlsAccepted : Bool) : Session × List Output :=
  match message with
  | .sslRequest =>
    if session.config.tlsAcceptor then
      -- a second request over an encrypted stream is answered and then refused
      if !encrypted && tlsAccepted then
        ({ session with phase := .handshake true }, [.sslReply 83])
      else (session.finish, [.sslReply 83])
    else (session, [.sslReply 78])
  | .startup startup =>
    if session.config.tlsRequired && !encrypted then
      (session.finish,
        [.replied [.errorResponse "FATAL: TLS/SSL is required to connect to this server"]])
    else
      ({ session with startupParams := some startup, phase := .command },
        [.replied (greeting session.config.processId)])
  | .cancelRequest _ _ => (session.finish, [])

/-- ReadyForQuery messages a server owes for a message it receives: one for a query,
a synchronisation point and a function call. -/
def answersOwed : FrontendMessage → Nat
  | .query _ => 1
  | .sync => 1
  | .raw tag _ => if tag = 70 then 1 else 0
  | _ => 0

def PooledConnection.deliver (conn : PooledConnection) (message : FrontendMessage) :
    PooledConnection :=
  { conn with stream := conn.stream.deliver (answersOwed message) }

/-- Synchronisation and extended-protocol messages reach a backend only if one is held. -/
def Session.forward (session : Session) (message : FrontendMessage) : Session × List Output :=
  match session.activeBackend with
  | some backend =>
    ({ session with activeBackend := some (PooledConnection.deliver backend message) },
      [.forwardedTo backend.stream.socket message])
  | none => (session, [])

def Session.route (session : Session) (sql : String) : BackendRole :=
  if session.tracker.requiresLeader sql then .leader else .standby

/-- The start of `handle_query`: use the held backend or ask the pool for one. -/
def Session.startQuery (session : Session) (sql : String) : Session × List Output :=
  let call : QueryCall := { sql := sql, role := session.route sql }
  match session.activeBackend with
  | some backend =>
    ({ session with activeBackend := none, phase := .writing call .initial backend },
      [.queryTo backend.stream.socket sql])
  | none => ({ session with phase := .acquiring call .initial }, [])

/-- One message of the command loop. -/
def Session.onMessage (session : Session) (message : FrontendMessage) : Session × List Output :=
  match message with
  | .query sql => session.startQuery sql
  | .terminate => (session.finish, [])
  | .sync => session.forward .sync
  | .flush => session.forward .flush
  | .raw tag payload => session.forward (.raw tag payload)
  | _ => (session, [])

/-- The client is gone: a held backend goes back to the pool whatever its state. -/
def Session.onClientClosed (session : Session) : Session :=
  match session.activeBackend with
  | some backend => { session with activeBackend := none, phase := .releasing backend true }
  | none => { session with phase := .ended }

def Stage.failure : Stage → String
  | .initial => "PgVisor failover timeout: "
  | .rewrite => "PgVisor backend write failed during failover: "
  | .replay => "PgVisor failover retry failed: "

/-- The synthesised answer to a query that cannot be served. -/
def apology (message : String) : List BackendMessage :=
  [.errorResponse message, .readyForQuery .idle]

/-- Relay one complete frame. ReadyForQuery ends the query: an idle backend is
released, any other stays with the session. -/
def Session.relay (session : Session) (call : QueryCall) (backend : PooledConnection)
    (clientBytesWritten : Nat) (tag : UInt8) (frame rest : Bytes) : Session × List Output :=
  if tag = readyTag then
    let status := frameStatus frame
    let tracked := { session with tracker := session.tracker.onReadyForQuery status }
    if status = .idle then
      ({ tracked with phase := .releasing backend false },
        [.relayed backend.stream.socket tag frame])
    else
      ({ tracked with activeBackend := some backend, phase := .command },
        [.relayed backend.stream.socket tag frame])
  else
    ({ session with
        phase := .reading call backend rest (clientBytesWritten + frame.length) },
      [.relayed backend.stream.socket tag frame])

/-- Take bytes the server has sent into the read buffer. -/
def PooledConnection.receive (conn : PooledConnection) (count : Nat) : PooledConnection :=
  { conn with stream := { conn.stream with incoming := conn.stream.incoming.drop count } }

/-- The backend closed or failed: the query is replayed if nothing was relayed. -/
def Session.onLost (session : Session) (call : QueryCall) (clientBytesWritten : Nat) :
    Session × List Output :=
  if clientBytesWritten = 0 then ({ session with phase := .acquiring call .replay }, [])
  else
    ({ session with phase := .command },
      [.replied (apology "PgVisor: backend connection lost during failover mid-response")])

/-- The connection the session owns, held between queries or used by the current one. -/
def Session.owned (session : Session) : Option PooledConnection :=
  match session.phase with
  | .command => session.activeBackend
  | .writing _ _ backend => some backend
  | .reading _ backend _ _ => some backend
  | .releasing backend _ => some backend
  | _ => none

/-- Replace the owned connection. -/
def Session.withOwned (session : Session) (conn : PooledConnection) : Session :=
  match session.phase with
  | .command => { session with activeBackend := some conn }
  | .writing call stage _ => { session with phase := .writing call stage conn }
  | .reading call _ buffer clientBytesWritten =>
    { session with phase := .reading call conn buffer clientBytesWritten }
  | .releasing _ ends => { session with phase := .releasing conn ends }
  | _ => session

/-- Let the server behind the owned connection act. -/
def Session.serve (session : Session) (act : BackendStream → Option BackendStream) :
    Option Session :=
  session.owned.bind fun conn =>
    (act conn.stream).map fun stream => session.withOwned { conn with stream := stream }

/-- One step of the session. An event that cannot occur in the current phase is refused. -/
def Session.step (session : Session) (event : Event) : Option (Session × List Output) :=
  match event with
  | .initial message tlsAccepted =>
    match session.phase with
    | .handshake encrypted => some (session.onInitial encrypted message tlsAccepted)
    | _ => none
  | .message message =>
    match session.phase with
    | .command => some (session.onMessage message)
    | _ => none
  | .clientClosed =>
    match session.phase with
    | .handshake _ => some (session.finish, [])
    | .command => some (session.onClientClosed, [])
    | _ => none
  | .acquired backend =>
    match session.phase with
    | .acquiring call stage =>
      some ({ session with phase := .writing call stage backend },
        [.queryTo backend.stream.socket call.sql])
    | _ => none
  | .acquireFailed err =>
    match session.phase with
    | .acquiring _ stage =>
      some ({ session with phase := .command }, [.replied (apology (stage.failure ++ err.display))])
    | _ => none
  | .written =>
    match session.phase with
    | .writing call _ backend =>
      some ({ session with
        phase := .reading call (PooledConnection.deliver backend (.query call.sql)) [] 0 }, [])
    | _ => none
  | .writeFailed =>
    match session.phase with
    -- only the first write is retried; a failure on a replacement ends the session
    | .writing call .initial _ => some ({ session with phase := .acquiring call .rewrite }, [])
    | .writing _ _ _ => some (session.finish, [])
    | _ => none
  | .received count =>
    match session.phase with
    | .reading call backend buffer clientBytesWritten =>
      if extractBackendFrame buffer = none ∧ 0 < count ∧
          count ≤ backend.stream.incoming.length then
        some ({ session with
          phase := .reading call (PooledConnection.receive backend count)
            (buffer ++ backend.stream.incoming.take count) clientBytesWritten }, [])
      else none
    | _ => none
  | .lost =>
    match session.phase with
    | .reading call _ buffer clientBytesWritten =>
      if extractBackendFrame buffer = none then some (session.onLost call clientBytesWritten)
      else none
    | _ => none
  | .relayed =>
    match session.phase with
    | .reading call backend buffer clientBytesWritten =>
      match extractBackendFrame buffer with
      | some (tag, frame, rest) =>
        some (session.relay call backend clientBytesWritten tag frame rest)
      | none => none
    | _ => none
  | .released =>
    match session.phase with
    | .releasing backend ends =>
      some ({ session with phase := if ends then .ended else .command }, [.release backend])
    | _ => none
  | .serverNotifies frame => (session.serve (·.notify frame)).map fun next => (next, [])
  | .serverReady status => (session.serve (·.becomeReady status)).map fun next => (next, [])
  | .aborted =>
    match session.phase with
    | .ended => none
    | _ => some (session.finish, [])

/-! ### Servers -/

theorem notify_cases {stream next : BackendStream} {frame : BackendFrame}
    (sent : stream.notify frame = some next) :
    frame.tag ≠ readyTag ∧ next = { stream with incoming := stream.incoming ++ frame.encode } := by
  unfold BackendStream.notify at sent
  split at sent
  · cases sent
  · rename_i other
    exact ⟨other, (Option.some.inj sent).symm⟩

theorem become_ready_cases {stream next : BackendStream} {status : TransactionStatus}
    (sent : stream.becomeReady status = some next) : stream.owed = next.owed + 1 ∧
      next = { stream with
        owed := next.owed
        reported := status
        incoming := stream.incoming ++ (readyFrame status).encode } := by
  unfold BackendStream.becomeReady at sent
  split at sent
  · cases sent
  · rename_i owed due
    obtain rfl := Option.some.inj sent
    exact ⟨due, rfl⟩

variable {session next : Session} {act : BackendStream → Option BackendStream}

theorem serve_cases (served : session.serve act = some next) :
    ∃ conn stream, session.owned = some conn ∧ act conn.stream = some stream ∧
      next = session.withOwned { conn with stream := stream } := by
  obtain ⟨conn, owned, moved⟩ := Option.bind_eq_some_iff.mp served
  obtain ⟨stream, acted, rfl⟩ := Option.map_eq_some_iff.mp moved
  exact ⟨conn, stream, owned, acted, rfl⟩

/-! ### What a step can do -/

/-- The phases in which each event is accepted, under which guard, with what the session
becomes and writes. -/
inductive Session.Moves (session : Session) : Event → Session → List Output → Prop where
  | upgraded {encrypted tlsAccepted} (phase : session.phase = .handshake encrypted) :
      Moves session (.initial .sslRequest tlsAccepted) { session with phase := .handshake true }
        [.sslReply 83]
  | refused {encrypted tlsAccepted} (phase : session.phase = .handshake encrypted) :
      Moves session (.initial .sslRequest tlsAccepted) session.finish [.sslReply 83]
  | declined {encrypted tlsAccepted} (phase : session.phase = .handshake encrypted) :
      Moves session (.initial .sslRequest tlsAccepted) session [.sslReply 78]
  | insecure {encrypted startup tlsAccepted} (phase : session.phase = .handshake encrypted) :
      Moves session (.initial (.startup startup) tlsAccepted) session.finish
        [.replied [.errorResponse "FATAL: TLS/SSL is required to connect to this server"]]
  | started {encrypted startup tlsAccepted} (phase : session.phase = .handshake encrypted)
      (admitted : session.config.tlsRequired = true → encrypted = true) :
      Moves session (.initial (.startup startup) tlsAccepted)
        { session with startupParams := some startup, phase := .command }
        [.replied (greeting session.config.processId)]
  | cancelled {encrypted processId secretKey tlsAccepted}
      (phase : session.phase = .handshake encrypted) :
      Moves session (.initial (.cancelRequest processId secretKey) tlsAccepted) session.finish []
  | closedEarly {encrypted} (phase : session.phase = .handshake encrypted) :
      Moves session .clientClosed session.finish []
  -- a query takes the held connection or asks for one
  | query {sql backend} (phase : session.phase = .command)
      (held : session.activeBackend = some backend) : Moves session (.message (.query sql))
        { session with
          activeBackend := none
          phase := .writing { sql := sql, role := session.route sql } .initial backend }
        [.queryTo backend.stream.socket sql]
  | unheld {sql} (phase : session.phase = .command) (free : session.activeBackend = none) :
      Moves session (.message (.query sql))
        { session with
          activeBackend := none
          phase := .acquiring { sql := sql, role := session.route sql } .initial } []
  | terminated (phase : session.phase = .command) :
      Moves session (.message .terminate) session.finish []
  -- other messages go to the held connection or nowhere
  | forwarded {message backend} (phase : session.phase = .command)
      (held : session.activeBackend = some backend) (other : ∀ sql, message ≠ .query sql) :
      Moves session (.message message)
        { session with activeBackend := some (PooledConnection.deliver backend message) }
        [.forwardedTo backend.stream.socket message]
  | ignored {message} (phase : session.phase = .command) (other : ∀ sql, message ≠ .query sql) :
      Moves session (.message message) session []
  | closed {backend} (phase : session.phase = .command)
      (held : session.activeBackend = some backend) : Moves session .clientClosed
        { session with activeBackend := none, phase := .releasing backend true } []
  | left (phase : session.phase = .command) : Moves session .clientClosed session.finish []
  | acquired {call stage backend}
      (phase : session.phase = .acquiring call stage) :
      Moves session (.acquired backend) { session with phase := .writing call stage backend }
        [.queryTo backend.stream.socket call.sql]
  | acquireFailed {call stage err}
      (phase : session.phase = .acquiring call stage) :
      Moves session (.acquireFailed err) { session with phase := .command }
        [.replied (apology (stage.failure ++ err.display))]
  | written {call stage backend}
      (phase : session.phase = .writing call stage backend) : Moves session .written
        { session with
          phase := .reading call (PooledConnection.deliver backend (.query call.sql)) [] 0 } []
  | rewrite {call backend}
      (phase : session.phase = .writing call .initial backend) :
      Moves session .writeFailed { session with phase := .acquiring call .rewrite } []
  | writeAbandoned {call stage backend}
      (phase : session.phase = .writing call stage backend) (replacement : stage ≠ .initial) :
      Moves session .writeFailed session.finish []
  | received {call backend buffer clientBytesWritten count}
      (phase : session.phase = .reading call backend buffer clientBytesWritten)
      (unframed : extractBackendFrame buffer = none) (positive : 0 < count)
      (available : count ≤ backend.stream.incoming.length) : Moves session (.received count)
        { session with
          phase := .reading call (PooledConnection.receive backend count)
            (buffer ++ backend.stream.incoming.take count) clientBytesWritten } []
  | replayed {call backend buffer}
      (phase : session.phase = .reading call backend buffer 0)
      (unframed : extractBackendFrame buffer = none) :
      Moves session .lost { session with phase := .acquiring call .replay } []
  | failed {call backend buffer clientBytesWritten}
      (phase : session.phase = .reading call backend buffer clientBytesWritten)
      (unframed : extractBackendFrame buffer = none) (shown : clientBytesWritten ≠ 0) :
      Moves session .lost { session with phase := .command }
        [.replied (apology "PgVisor: backend connection lost during failover mid-response")]
  | idle {call backend buffer frame rest clientBytesWritten}
      (phase : session.phase = .reading call backend buffer clientBytesWritten)
      (extracted : extractBackendFrame buffer = some (readyTag, frame, rest))
      (idle : frameStatus frame = .idle) : Moves session .relayed
        { session with
          tracker := session.tracker.onReadyForQuery .idle
          phase := .releasing backend false }
        [.relayed backend.stream.socket readyTag frame]
  | block {call backend buffer frame rest clientBytesWritten}
      (phase : session.phase = .reading call backend buffer clientBytesWritten)
      (extracted : extractBackendFrame buffer = some (readyTag, frame, rest))
      (block : frameStatus frame ≠ .idle) : Moves session .relayed
        { session with
          tracker := session.tracker.onReadyForQuery (frameStatus frame)
          activeBackend := some backend
          phase := .command }
        [.relayed backend.stream.socket readyTag frame]
  | more {call backend buffer frame rest clientBytesWritten tag}
      (phase : session.phase = .reading call backend buffer clientBytesWritten)
      (extracted : extractBackendFrame buffer = some (tag, frame, rest))
      (other : tag ≠ readyTag) : Moves session .relayed
        { session with
          phase := .reading call backend rest (clientBytesWritten + frame.length) }
        [.relayed backend.stream.socket tag frame]
  | released {backend ends}
      (phase : session.phase = .releasing backend ends) :
      Moves session .released { session with phase := if ends then .ended else .command }
        [.release backend]
  | notified {frame next}
      (served : session.serve (·.notify frame) = some next) :
      Moves session (.serverNotifies frame) next []
  | ready {status next}
      (served : session.serve (·.becomeReady status) = some next) :
      Moves session (.serverReady status) next []
  | aborted (running : session.phase ≠ .ended) : Moves session .aborted session.finish []

variable {event : Event} {outputs : List Output}

theorem initial_moves {encrypted message tlsAccepted}
    (phase : session.phase = .handshake encrypted)
    (opened : session.onInitial encrypted message tlsAccepted = (next, outputs)) :
    session.Moves (.initial message tlsAccepted) next outputs := by
  unfold Session.onInitial at opened
  repeat' split at opened
  all_goals cases opened
  · exact .upgraded phase
  · exact .refused phase
  · exact .declined phase
  · exact .insecure phase
  next admitted => exact .started phase (by simpa using admitted)
  · exact .cancelled phase

theorem message_moves {message} (phase : session.phase = .command)
    (received : session.onMessage message = (next, outputs)) :
    session.Moves (.message message) next outputs := by
  have forwarded (sent : FrontendMessage) (other : ∀ sql, sent ≠ .query sql)
      (passed : session.forward sent = (next, outputs)) :
      session.Moves (.message sent) next outputs := by
    unfold Session.forward at passed
    split at passed
    next held =>
      cases passed
      exact .forwarded phase held other
    · cases passed
      exact .ignored phase other
  cases message with
  | query sql =>
    simp only [Session.onMessage, Session.startQuery] at received
    cases held : session.activeBackend with
    | none =>
      rw [held] at received
      cases received
      exact .unheld phase held
    | some backend =>
      rw [held] at received
      cases received
      exact .query phase held
  | terminate =>
    cases received
    exact .terminated phase
  | sync => exact forwarded .sync (by simp) received
  | flush => exact forwarded .flush (by simp) received
  | raw tag payload => exact forwarded (.raw tag payload) (by simp) received
  | parse | bind | describe | execute | close | password =>
    cases received
    exact .ignored phase (by simp)

theorem closed_moves (phase : session.phase = .command) :
    session.Moves .clientClosed session.onClientClosed [] := by
  unfold Session.onClientClosed
  split
  next held => exact .closed phase held
  next free =>
    have same : { session with phase := .ended } = session.finish := by
      rw [Session.finish, free]
    exact same ▸ .left phase

theorem lost_moves {call backend buffer clientBytesWritten}
    (phase : session.phase = .reading call backend buffer clientBytesWritten)
    (unframed : extractBackendFrame buffer = none)
    (lost : session.onLost call clientBytesWritten = (next, outputs)) :
    session.Moves .lost next outputs := by
  unfold Session.onLost at lost
  split at lost
  next nothing =>
    cases lost
    exact .replayed (nothing ▸ phase) unframed
  next shown =>
    cases lost
    exact .failed phase unframed shown

theorem relay_moves {call backend buffer clientBytesWritten tag frame rest}
    (phase : session.phase = .reading call backend buffer clientBytesWritten)
    (extracted : extractBackendFrame buffer = some (tag, frame, rest))
    (relayed : session.relay call backend clientBytesWritten tag frame rest = (next, outputs)) :
    session.Moves .relayed next outputs := by
  by_cases ready : tag = readyTag
  · subst ready
    by_cases idle : frameStatus frame = .idle
    · simp only [Session.relay, idle, ↓reduceIte] at relayed
      cases relayed
      exact .idle phase extracted idle
    · simp only [Session.relay, idle, ↓reduceIte] at relayed
      cases relayed
      exact .block phase extracted idle
  · simp only [Session.relay, ready, ↓reduceIte] at relayed
    cases relayed
    exact .more phase extracted ready

/-- Every step is one of these moves. -/
theorem step_moves (moved : session.step event = some (next, outputs)) :
    session.Moves event next outputs := by
  unfold Session.step at moved
  -- an event is taken in the phase that awaits it, under its guard, and refused elsewhere
  split at moved
  all_goals try split at moved
  all_goals try cases moved
  next phase => exact initial_moves phase (Option.some.inj moved)
  next phase => exact message_moves phase (Option.some.inj moved)
  · exact .closedEarly ‹_›
  · exact closed_moves ‹_›
  · exact .acquired ‹_›
  · exact .acquireFailed ‹_›
  · exact .written ‹_›
  · exact .rewrite ‹_›
  next replacement phase => exact .writeAbandoned phase replacement
  next phase =>
    obtain ⟨guard, same⟩ := Option.ite_none_right_eq_some.mp moved
    cases same
    exact .received phase guard.1 guard.2.1 guard.2.2
  next phase =>
    obtain ⟨unframed, same⟩ := Option.ite_none_right_eq_some.mp moved
    exact lost_moves phase unframed (Option.some.inj same)
  next phase =>
    split at moved
    next extracted => exact relay_moves phase extracted (Option.some.inj moved)
    · cases moved
  · exact .released ‹_›
  · obtain ⟨served, moves, same⟩ := Option.map_eq_some_iff.mp moved
    cases same
    exact .notified moves
  · obtain ⟨served, moves, same⟩ := Option.map_eq_some_iff.mp moved
    cases same
    exact .ready moves
  · exact .aborted ‹_›

/-- Where the server may act, and on what. -/
inductive Session.Serves (session : Session) (act : BackendStream → Option BackendStream) :
    Session → Prop where
  | command {conn stream} (phase : session.phase = .command)
      (held : session.activeBackend = some conn) (acted : act conn.stream = some stream) :
      Serves session act { session with activeBackend := some { conn with stream := stream } }
  | writing {call stage conn stream}
      (phase : session.phase = .writing call stage conn)
      (acted : act conn.stream = some stream) : Serves session act
        { session with phase := .writing call stage { conn with stream := stream } }
  | reading {call conn buffer clientBytesWritten stream}
      (phase : session.phase = .reading call conn buffer clientBytesWritten)
      (acted : act conn.stream = some stream) : Serves session act
        { session with
          phase := .reading call { conn with stream := stream } buffer clientBytesWritten }
  | releasing {conn ends stream}
      (phase : session.phase = .releasing conn ends) (acted : act conn.stream = some stream) :
      Serves session act
        { session with phase := .releasing { conn with stream := stream } ends }

theorem serve_serves (served : session.serve act = some next) : session.Serves act next := by
  obtain ⟨conn, stream, owned, acted, rfl⟩ := serve_cases served
  unfold Session.owned at owned
  unfold Session.withOwned
  cases phase : session.phase with
  | command =>
    simp only [phase] at owned
    have serves := Session.Serves.command phase owned acted
    simpa only [phase] using serves
  | writing call stage backend =>
    simp only [phase, Option.some.injEq] at owned
    exact .writing (owned ▸ phase) acted
  | reading call backend buffer clientBytesWritten =>
    simp only [phase, Option.some.injEq] at owned
    exact .reading (owned ▸ phase) acted
  | releasing backend ends =>
    simp only [phase, Option.some.injEq] at owned
    exact .releasing (owned ▸ phase) acted
  | handshake | acquiring | ended => simp [phase] at owned

/-! ### Where the connection is -/

/-- A connection is held between queries alone: the query that uses it takes it away. -/
def HeldBetween (session : Session) : Prop :=
  session.phase ≠ .command → session.activeBackend = none

theorem new_held_between (config : SessionConfig) : HeldBetween (Session.new config) :=
  fun _ => rfl

theorem held_between_of_none (free : session.activeBackend = none) :
    HeldBetween session := fun _ => free

theorem held_between_command (phase : session.phase = .command) :
    HeldBetween session := fun busy => absurd phase busy

theorem serve_held_between (held : HeldBetween session) (served : session.serve act = some next) :
    HeldBetween next := by
  cases serve_serves served with
  | command phase => exact held_between_command phase
  | writing phase | reading phase | releasing phase =>
    exact held_between_of_none (held (by simp [phase]))

/-- One step. -/
theorem step_held_between (held : HeldBetween session)
    (moved : session.step event = some (next, outputs)) : HeldBetween next := by
  cases step_moves moved with
  | refused | insecure | cancelled | closedEarly | query | unheld | terminated | closed | left
  | writeAbandoned | aborted => exact held_between_of_none rfl
  | started | block => exact held_between_command rfl
  | forwarded phase | ignored phase => exact held_between_command phase
  | upgraded phase | declined phase | acquired phase | acquireFailed phase | written phase
  | rewrite phase | received phase | replayed phase | failed phase | idle phase | more phase
  | released phase => exact held_between_of_none (held (by simp [phase]))
  | notified served | ready served => exact serve_held_between held served

/-! ### Where queries are written -/

/-- A query is written to the held backend when it arrives, or to a backend that has
just been acquired for it; there is no third place. -/
theorem query_written {socket sql} (moved : session.step event = some (next, outputs))
    (written : Output.queryTo socket sql ∈ outputs) :
    (session.phase = .command ∧ event = .message (.query sql) ∧
      ∃ backend, session.activeBackend = some backend ∧ socket = backend.stream.socket) ∨
    ∃ call stage backend, session.phase = .acquiring call stage ∧ event = .acquired backend ∧
      socket = backend.stream.socket ∧ sql = call.sql := by
  cases step_moves moved with
  | query phase held =>
    simp only [List.mem_singleton, Output.queryTo.injEq] at written
    obtain ⟨rfl, rfl⟩ := written
    exact .inl ⟨phase, rfl, _, held, rfl⟩
  | acquired phase =>
    simp only [List.mem_singleton, Output.queryTo.injEq] at written
    exact .inr ⟨_, _, _, phase, rfl, written.1, written.2⟩
  | upgraded | refused | declined | insecure | started | forwarded | acquireFailed | failed | idle
  | block | more | released => simp at written
  | cancelled | closedEarly | unheld | terminated | ignored | closed | left | written | rewrite
  | writeAbandoned | received | replayed | notified | ready | aborted => cases written

/-- While a backend is being acquired the session waits for the pool alone. -/
theorem acquiring_step {call stage} (phase : session.phase = .acquiring call stage)
    (moved : session.step event = some (next, outputs)) :
    event = .aborted ∨ (∃ backend, event = .acquired backend) ∨ ∃ err, event = .acquireFailed err ∧
        outputs = [.replied (apology (stage.failure ++ err.display))] := by
  cases event with
  | aborted => exact .inl rfl
  | acquired backend => exact .inr (.inl ⟨backend, rfl⟩)
  | acquireFailed err =>
    simp only [Session.step, phase] at moved
    cases moved
    exact .inr (.inr ⟨err, rfl, rfl⟩)
  | serverNotifies | serverReady =>
    simp [Session.step, Session.serve, Session.owned, phase] at moved
  | initial | message | clientClosed | written | writeFailed | received | lost | relayed
  | released => simp [Session.step, phase] at moved

/-- A leader connection on the given socket, fresh from the pool. -/
def freshLeader (socket : Nat) : PooledConnection where
  stream :=
    { socket := socket
      encrypted := false
      startup := startupFor none none
      owed := 0
      reported := .idle
      incoming := [] }
  role := .leader
  addr := "leader:5432"

end PgVisor.ClientSession
