import Mathlib.Data.Set.Basic
import PgVisor.ConnectionPool
import PgVisor.Transitions

/-!
# Identities of pooled connections

A connection is authenticated once, by the startup packet it is opened with. The
pool files idle connections by role and address only, so the user and database of
a caller decide nothing unless a connection is opened for it. Runs of the pool's
operations therefore serve every caller under its own identity exactly when the
pool keeps nothing idle or all callers have the same identity, an absent user or
database standing for `postgres`.

Connections in use are owned by the callers. Between acquisition and release an
owner may exchange any messages with the server; the startup packet stays.
-/

namespace PgVisor.ConnectionPool

open ByteWords WireFrames Transitions List

/-- The user and database a caller is served as. -/
def identity (request : Option String × Option String) : String × String :=
  (request.1.getD "postgres", request.2.getD "postgres")

/-- The connection was opened with the user and database of the caller. -/
def OpenedFor (conn : PooledConnection) (user database : Option String) : Prop :=
  conn.stream.startup.user = some (user.getD "postgres") ∧
    conn.stream.startup.database = some (database.getD "postgres")

instance (conn : PooledConnection) (user database : Option String) :
    Decidable (OpenedFor conn user database) := inferInstanceAs (Decidable (_ ∧ _))

/-- The pool and the connections its callers hold. -/
structure PoolState where
  inner : PoolInner
  checkedOut : List PooledConnection

def PoolState.new (maxIdlePerNode : Nat) : PoolState where
  inner := PoolInner.new maxIdlePerNode
  checkedOut := []

/-- Operations on the pool, and what the owners of connections do between them. -/
inductive PoolCall where
  | acquireFor (role : BackendRole) (user database : Option String) (dial : Dial)
  | release (position : Nat)
  | updateTopology (leader : Option String) (standbys : List String)
  | drainAll
  | exchange (position : Nat) (owed : Nat) (reported : TransactionStatus) (incoming : Bytes)
  | discard (position : Nat)

/-- The connection after its owner has used it. -/
def PooledConnection.used (conn : PooledConnection) (owed : Nat) (reported : TransactionStatus)
    (incoming : Bytes) : PooledConnection :=
  { conn with
    stream := { conn.stream with owed := owed, reported := reported, incoming := incoming } }

/-- Only an owned connection can be used, released or dropped. -/
def PoolCall.apply (tls : Bool) (state : PoolState) : PoolCall → Option PoolState
  | .acquireFor role user database dial =>
    match state.inner.acquireFor tls role user database dial with
    | (.ok conn, next) => some { inner := next, checkedOut := state.checkedOut ++ [conn] }
    | (.error _, next) => some { state with inner := next }
  | .release position =>
    state.checkedOut[position]?.map fun conn =>
      { inner := state.inner.release conn, checkedOut := state.checkedOut.eraseIdx position }
  | .updateTopology leader standbys =>
    some { state with inner := state.inner.updateTopology leader standbys }
  | .drainAll => some { state with inner := state.inner.drainAll }
  | .exchange position owed reported incoming =>
    state.checkedOut[position]?.map fun conn =>
      { state with
        checkedOut := state.checkedOut.set position (conn.used owed reported incoming) }
  | .discard position =>
    state.checkedOut[position]?.map fun _ =>
      { state with checkedOut := state.checkedOut.eraseIdx position }

/-- The call names only users and databases among the given ones. -/
def PoolCall.Within (requests : Set (Option String × Option String)) : PoolCall → Prop
  | .acquireFor _ user database _ => (user, database) ∈ requests
  | _ => True

/-! ### The size bound -/

variable {inner next : PoolInner} {user : Option String} {dial : Dial} {state : PoolState}
  {role : BackendRole}

theorem pop_idle_max {popped target} (found : inner.popIdle role = .ok (popped, target, next)) :
    next.maxIdlePerNode = inner.maxIdlePerNode := by
  unfold PoolInner.popIdle PoolInner.popLeader at found
  grind

variable {tls : Bool} {database : Option String}

theorem acquire_for_max {answer}
    (acquired : inner.acquireFor tls role user database dial = (answer, next)) :
    next.maxIdlePerNode = inner.maxIdlePerNode := by
  unfold PoolInner.acquireFor at acquired
  split at acquired
  · obtain ⟨-, rfl⟩ := acquired
    rfl
  · rename_i found
    obtain ⟨-, rfl⟩ := acquired
    exact pop_idle_max found
  · rename_i found
    obtain ⟨-, rfl⟩ := acquired
    exact pop_idle_max found

theorem release_max (inner : PoolInner) (conn : PooledConnection) :
    (inner.release conn).maxIdlePerNode = inner.maxIdlePerNode := by
  unfold PoolInner.release
  repeat' split
  all_goals rfl

variable {conn : PooledConnection}

theorem accepts_positive (accepted : inner.accepts conn = true) : 0 < inner.maxIdlePerNode := by
  unfold PoolInner.accepts at accepted
  split at accepted <;>
  · simp only [Bool.and_eq_true, decide_eq_true_eq] at accepted
    omega

/-! ### Identities along a run -/

theorem opened_for_congr {first second}
    (same : identity first = identity second) (opened : OpenedFor conn first.1 first.2) :
    OpenedFor conn second.1 second.2 := by
  simp only [identity, Prod.mk.injEq] at same
  unfold OpenedFor at opened ⊢
  rw [← same.1, ← same.2]
  exact opened

theorem identity_unique {first second}
    (here : OpenedFor conn first.1 first.2) (there : OpenedFor conn second.1 second.2) :
    identity first = identity second := by
  have user := Option.some.inj (here.1.symm.trans there.1)
  have database := Option.some.inj (here.2.symm.trans there.2)
  rw [identity, identity, user, database]

theorem connect_opened_for {addr}
    (opened : connectWithTls addr role user database tls dial = .ok conn) :
    OpenedFor conn user database := by
  obtain ⟨startup, -⟩ := connect_with_tls_stream opened
  rw [OpenedFor, startup]
  exact ⟨rfl, rfl⟩

/-- Some caller of the given set had this connection opened. -/
def OpenedWithin (requests : Set (Option String × Option String)) (conn : PooledConnection) :
    Prop :=
  ∃ request ∈ requests, OpenedFor conn request.1 request.2

/-- Every connection was opened for a caller, and only a pool with room has idle ones. -/
structure Traceable (maxIdlePerNode : Nat) (requests : Set (Option String × Option String))
    (state : PoolState) : Prop where
  bound : state.inner.maxIdlePerNode = maxIdlePerNode
  room : ∀ conn, state.inner.Idle conn → 0 < maxIdlePerNode
  idle : ∀ conn, state.inner.Idle conn → OpenedWithin requests conn
  held : ∀ conn ∈ state.checkedOut, OpenedWithin requests conn

theorem new_traceable (maxIdlePerNode : Nat) (requests : Set (Option String × Option String)) :
    Traceable maxIdlePerNode requests (PoolState.new maxIdlePerNode) where
  bound := rfl
  room conn idle := absurd idle (new_idle maxIdlePerNode conn)
  idle conn idle := absurd idle (new_idle maxIdlePerNode conn)
  held _ member := absurd member not_mem_nil

variable {maxIdlePerNode : Nat} {requests : Set (Option String × Option String)}
  (traceable : Traceable maxIdlePerNode requests state)

include traceable

/-- An operation that makes no connection idle and hands none out. -/
theorem Traceable.shrink {next} (bound : next.inner.maxIdlePerNode = state.inner.maxIdlePerNode)
    (idle : ∀ conn, next.inner.Idle conn → state.inner.Idle conn)
    (held : ∀ conn ∈ next.checkedOut, OpenedWithin requests conn) :
    Traceable maxIdlePerNode requests next where
  bound := bound.trans traceable.bound
  room conn sitting := traceable.room conn (idle conn sitting)
  idle conn sitting := traceable.idle conn (idle conn sitting)
  held := held

/-- The connection handed to a caller was opened for some caller. -/
theorem Traceable.acquired (request : (user, database) ∈ requests)
    (answered : state.inner.acquireFor tls role user database dial = (.ok conn, next)) :
    OpenedWithin requests conn := by
  rcases (acquire_for_cases answered).2 conn rfl with idle | ⟨target, opened⟩
  · exact traceable.idle conn idle
  · exact ⟨(user, database), request, connect_opened_for opened⟩

theorem apply_traceable {next : PoolState} {call : PoolCall} (within : call.Within requests)
    (applied : call.apply tls state = some next) : Traceable maxIdlePerNode requests next := by
  cases call with
  | acquireFor role user database dial =>
    simp only [PoolCall.apply] at applied
    split at applied
    · rename_i conn inner answered
      obtain rfl := Option.some.inj applied
      apply traceable.shrink (acquire_for_max answered) (acquire_for_cases answered).1
      intro other member
      rcases mem_append.mp member with old | new
      · exact traceable.held other old
      · rw [mem_singleton.mp new]
        exact traceable.acquired within answered
    · rename_i answered
      obtain rfl := Option.some.inj applied
      exact traceable.shrink (acquire_for_max answered) (acquire_for_cases answered).1
        traceable.held
  | release position =>
    obtain ⟨conn, owned, rfl⟩ := Option.map_eq_some_iff.mp applied
    have opened := traceable.held conn (mem_of_getElem? owned)
    refine ⟨(release_max _ conn).trans traceable.bound, ?_, ?_, ?_⟩
    · intro other idle
      rcases release_idle idle with old | ⟨-, accepted⟩
      · exact traceable.room other old
      · rw [← traceable.bound]
        exact accepts_positive accepted
    · intro other idle
      rcases release_idle idle with old | ⟨rfl, -⟩
      · exact traceable.idle other old
      · exact opened
    · intro other member
      exact traceable.held other (mem_of_mem_eraseIdx member)
  | updateTopology leader standbys =>
    obtain rfl := Option.some.inj applied
    exact traceable.shrink rfl (fun _ => update_topology_idle) traceable.held
  | drainAll =>
    obtain rfl := Option.some.inj applied
    exact traceable.shrink rfl (fun conn idle => absurd idle (drain_all_idle _ conn))
      traceable.held
  | exchange position owed reported incoming =>
    obtain ⟨conn, owned, rfl⟩ := Option.map_eq_some_iff.mp applied
    refine traceable.shrink rfl (fun _ idle => idle) ?_
    intro other member
    rcases mem_or_eq_of_mem_set member with old | rfl
    · exact traceable.held other old
    · exact traceable.held conn (mem_of_getElem? owned)
  | discard position =>
    obtain ⟨conn, owned, rfl⟩ := Option.map_eq_some_iff.mp applied
    refine traceable.shrink rfl (fun _ idle => idle) ?_
    intro other member
    exact traceable.held other (mem_of_mem_eraseIdx member)

omit traceable

/-- In every state a run of the given callers reaches, each of them is answered with
a connection opened under its own identity. -/
def ServesOwnIdentity (maxIdlePerNode : Nat) (tls : Bool)
    (requests : Set (Option String × Option String)) : Prop :=
  ∀ calls state, (∀ call ∈ calls, PoolCall.Within requests call) →
    run (PoolCall.apply tls) (PoolState.new maxIdlePerNode) calls = some state →
    ∀ role user database dial conn next, (user, database) ∈ requests →
      state.inner.acquireFor tls role user database dial = (.ok conn, next) →
      OpenedFor conn user database

/-- Runs of one identity, and pools that keep nothing, never mix identities. -/
theorem serves_own_identity (condition : maxIdlePerNode = 0 ∨
      ∀ first ∈ requests, ∀ second ∈ requests, identity first = identity second) :
    ServesOwnIdentity maxIdlePerNode tls requests := by
  intro calls state within reached role user database dial conn next request answered
  have traceable : Traceable maxIdlePerNode requests state :=
    run_invariant (PoolCall.apply tls) (fun _ call => call.Within requests)
      (Traceable maxIdlePerNode requests)
      (fun _ _ _ before allowed applied => apply_traceable before allowed applied)
      (new_traceable maxIdlePerNode requests)
      (meets_labels within) reached
  rcases (acquire_for_cases answered).2 conn rfl with idle | ⟨target, opened⟩
  · obtain ⟨other, member, opened⟩ := traceable.idle conn idle
    rcases condition with empty | single
    · exact absurd (traceable.room conn idle) (by omega)
    · exact opened_for_congr (single other member (user, database) request) opened
  · exact connect_opened_for opened

theorem prompt_dial_connects (addr : String) (role : BackendRole)
    (user database : Option String) (tls : Bool) (socket : Nat) :
    ∃ conn, connectWithTls addr role user database tls (promptDial socket) = .ok conn ∧
      conn.role = role ∧ conn.addr = addr ∧ OpenedFor conn user database := by
  cases tls <;> exact ⟨_, rfl, rfl, rfl, rfl, rfl⟩

/-- Register a leader, serve one caller on it and take the connection back. -/
def reuseCalls (request : Option String × Option String) : List PoolCall :=
  [.updateTopology (some "leader:5432") [],
    .acquireFor .leader request.1 request.2 (promptDial 0), .release 0]

/-- A pool with room then hands the same connection to the next caller, whoever it is. -/
theorem reuse_ignores_identity (room : 0 < maxIdlePerNode) (tls : Bool)
    (first second : Option String × Option String) :
    ∃ state conn next, run (PoolCall.apply tls) (PoolState.new maxIdlePerNode)
        (reuseCalls first) = some state ∧
      state.inner.acquireFor tls .leader second.1 second.2 (promptDial 1) = (.ok conn, next) ∧
      OpenedFor conn first.1 first.2 := by
  obtain ⟨conn, opened, role, addr, own⟩ :=
    prompt_dial_connects "leader:5432" .leader first.1 first.2 tls 0
  have reached : run (PoolCall.apply tls) (PoolState.new maxIdlePerNode) (reuseCalls first) = some
        { inner :=
            { (PoolInner.new maxIdlePerNode).updateTopology (some "leader:5432") [] with
              idleLeaders := [conn] }
          checkedOut := [] } := by
    simp [run, reuseCalls, PoolCall.apply, PoolInner.acquireFor, PoolInner.popIdle,
      PoolInner.popLeader, PoolInner.updateTopology, PoolState.new, PoolInner.new, opened,
      PoolInner.release, role, addr, room]
  exact ⟨_, conn, _, reached, rfl, own⟩

/-- Identities are kept exactly when the pool keeps nothing idle or all callers
have one identity. -/
theorem serves_own_identity_iff (maxIdlePerNode : Nat) (tls : Bool)
    (requests : Set (Option String × Option String)) :
    ServesOwnIdentity maxIdlePerNode tls requests ↔ maxIdlePerNode = 0 ∨
        ∀ first ∈ requests, ∀ second ∈ requests, identity first = identity second := by
  constructor
  · intro serves
    by_cases empty : maxIdlePerNode = 0
    · exact .inl empty
    right
    intro first firstRequest second secondRequest
    obtain ⟨state, conn, next, reached, answered, own⟩ :=
      reuse_ignores_identity (Nat.pos_of_ne_zero empty) tls first second
    have within : ∀ call ∈ reuseCalls first, PoolCall.Within requests call := by
      simp [reuseCalls, PoolCall.Within, firstRequest]
    exact identity_unique own
      (serves _ state within reached .leader _ _ _ conn next secondRequest answered)
  · exact serves_own_identity

/-- `alice` leaves an idle connection behind and `bob` is served over it. -/
theorem bob_served_as_alice : ∃ state conn next,
      run (PoolCall.apply false) (PoolState.new 10) (reuseCalls (some "alice", some "app")) =
        some state ∧
      state.inner.acquireFor false .leader (some "bob") (some "app") (promptDial 1) =
        (.ok conn, next) ∧
      conn.stream.startup.user = some "alice" ∧
      ¬ OpenedFor conn (some "bob") (some "app") :=
  ⟨_, _, _, rfl, rfl, rfl, by decide⟩

end PgVisor.ConnectionPool
