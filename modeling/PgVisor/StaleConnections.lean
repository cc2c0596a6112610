import PgVisor.PoolIdentity

/-!
# Connections that outlive a drain

A drain, and for leader connections a change of the leader, is to retire every connection
established before it. Both empty the idle queues under the lock. A connection that is
checked out at that time is not in a queue; when it comes back, `release` compares its
address with the registered ones and knows nothing of the drain.

The pool is put beside a history that counts drains and leader changes and notes when
each connection was established and handed out. The two halves of `acquire_for` are
separate events, since the lock is not held while a connection is dialled, so drains,
topology changes and other callers may come between them. A connection is handed out
after it was to be retired exactly if it was released after a drain that happened while
it was checked out.
-/

namespace PgVisor.ConnectionPool

open ByteWords WireFrames Transitions List

/-- How many drains and leader changes there have been. -/
structure Moment where
  drains : Nat
  leaderChanges : Nat
deriving DecidableEq

/-- No drain lies between the two moments, nor, for a leader connection, a leader change. -/
def Moment.Joined (role : BackendRole) (first second : Moment) : Prop :=
  first.drains = second.drains ∧ (role = .leader → first.leaderChanges = second.leaderChanges)

instance (role : BackendRole) (first second : Moment) :
    Decidable (Moment.Joined role first second) :=
  inferInstanceAs (Decidable (_ ∧ (_ → _)))

/-- How a socket came into being. -/
structure Origin where
  role : BackendRole
  moment : Moment
deriving DecidableEq

/-- The present, and for each socket how it was established, when it was last handed out
and whether its last release came across a drain. -/
structure History where
  now : Moment
  origin : Nat → Option Origin
  handedOut : Nat → Moment
  late : Nat → Bool

def History.new : History where
  now := { drains := 0, leaderChanges := 0 }
  origin := fun _ => none
  handedOut := fun _ => { drains := 0, leaderChanges := 0 }
  late := fun _ => false

def History.handOut (history : History) (socket : Nat) : History :=
  { history with handedOut := Function.update history.handedOut socket history.now }

def History.establish (history : History) (socket : Nat) (role : BackendRole) : History :=
  { history with
    origin := Function.update history.origin socket (some { role := role, moment := history.now })
    handedOut := Function.update history.handedOut socket history.now
    late := Function.update history.late socket false }

def History.giveBack (history : History) (conn : PooledConnection) : History :=
  let socket := conn.stream.socket
  { history with
    late := Function.update history.late socket
      !decide (Moment.Joined conn.role (history.handedOut socket) history.now) }

/-- A caller that waits for its connection to be dialled. -/
structure Dialling where
  target : String
  role : BackendRole
  user : Option String
  database : Option String
deriving DecidableEq

structure TimedPool where
  inner : PoolInner
  dialling : List Dialling
  checkedOut : List PooledConnection
  history : History

def TimedPool.new (maxIdlePerNode : Nat) : TimedPool where
  inner := PoolInner.new maxIdlePerNode
  dialling := []
  checkedOut := []
  history := .new

/-- What may happen to the pool. `lookup` is the part of `acquire_for` under the lock,
`connected` the end of the dial it may lead to. -/
inductive PoolEvent where
  | lookup (role : BackendRole) (user database : Option String)
  | connected (position : Nat) (dial : Dial)
  | release (position : Nat)
  | updateTopology (leader : Option String) (standbys : List String)
  | drainAll
  | exchange (position : Nat) (owed : Nat) (reported : TransactionStatus) (incoming : Bytes)
  | discard (position : Nat)

/-- One event, with the connection that is handed out by it. A new connection has a socket
of its own. -/
def PoolEvent.apply (tls : Bool) (state : TimedPool) :
    PoolEvent → Option (TimedPool × Option PooledConnection)
  | .lookup role user database =>
    match state.inner.popIdle role with
    | .error _ => some (state, none)
    | .ok (some conn, _, next) => some
      ({ state with
          inner := next
          checkedOut := state.checkedOut ++ [conn]
          history := state.history.handOut conn.stream.socket }, some conn)
    | .ok (none, target, next) => some
      ({ state with
          inner := next
          dialling := state.dialling ++
            [{ target := target, role := role, user := user, database := database }] }, none)
  | .connected position dial =>
    state.dialling[position]?.bind fun request =>
      match connectWithTls request.target request.role request.user request.database tls dial with
      | .error _ => some ({ state with dialling := state.dialling.eraseIdx position }, none)
      | .ok conn =>
        if state.history.origin conn.stream.socket = none then some
          ({ state with
              dialling := state.dialling.eraseIdx position
              checkedOut := state.checkedOut ++ [conn]
              history := state.history.establish conn.stream.socket conn.role }, some conn)
        else none
  | .release position =>
    state.checkedOut[position]?.map fun conn =>
      ({ state with
          inner := state.inner.release conn
          checkedOut := state.checkedOut.eraseIdx position
          history := state.history.giveBack conn }, none)
  | .updateTopology leader standbys => some
    ({ state with
        inner := state.inner.updateTopology leader standbys
        history := { state.history with
          now := { state.history.now with
            leaderChanges := state.history.now.leaderChanges +
              if state.inner.leaderAddr ≠ leader then 1 else 0 } } }, none)
  | .drainAll => some
    ({ state with
        inner := state.inner.drainAll
        history := { state.history with
          now := { state.history.now with drains := state.history.now.drains + 1 } } }, none)
  | .exchange position owed reported incoming =>
    state.checkedOut[position]?.map fun conn =>
      ({ state with
          checkedOut := state.checkedOut.set position (conn.used owed reported incoming) }, none)
  | .discard position =>
    state.checkedOut[position]?.map fun _ =>
      ({ state with checkedOut := state.checkedOut.eraseIdx position }, none)

def timedStep (tls : Bool) (state : TimedPool) (event : PoolEvent) : Option TimedPool :=
  (event.apply tls state).map Prod.fst

/-- The connection was established at this moment. -/
def History.Established (history : History) (conn : PooledConnection) (moment : Moment) : Prop :=
  history.origin conn.stream.socket = some { role := conn.role, moment := moment }

/-- The connection was established after the latest drain and, as a leader connection,
after the latest change of the leader. -/
def History.Current (history : History) (conn : PooledConnection) : Prop :=
  ∃ moment, history.Established conn moment ∧ Moment.Joined conn.role moment history.now

/-- Connections are handed out only if they are current. -/
def HandsOutCurrent (tls : Bool) (state : TimedPool) (event : PoolEvent) : Prop :=
  ∀ next conn, event.apply tls state = some (next, some conn) → next.history.Current conn

/-- No connection is handed out that was released across a drain. -/
def HandsOutTimely (tls : Bool) (state : TimedPool) (event : PoolEvent) : Prop :=
  ∀ next conn, event.apply tls state = some (next, some conn) →
    next.history.late conn.stream.socket = false

/-! ### Moments -/

variable {first second moment : Moment} {leader : Option String} {standbys : List String}
  {position : Nat}

theorem Moment.Joined.refl (role : BackendRole) (moment : Moment) :
    Moment.Joined role moment moment := ⟨rfl, fun _ => rfl⟩

variable {role : BackendRole}

theorem Moment.Joined.symm (joined : Moment.Joined role first second) :
    Moment.Joined role second first :=
  ⟨joined.1.symm, fun leader => (joined.2 leader).symm⟩

theorem Moment.Joined.trans {third} (left : Moment.Joined role first second)
    (right : Moment.Joined role second third) : Moment.Joined role first third :=
  ⟨left.1.trans right.1, fun leader => (left.2 leader).trans (right.2 leader)⟩

variable {history : History} {conn : PooledConnection}

theorem History.Established.unique (here : history.Established conn first)
    (there : history.Established conn second) : first = second := by
  have same := Option.some.inj (here.symm.trans there)
  exact (Origin.mk.inj same).2

/-! ### What the history knows of a connection -/

/-- An idle connection is current exactly if its last release was not late. -/
def History.Filed (history : History) (conn : PooledConnection) : Prop :=
  ∃ moment, history.Established conn moment ∧
    (Moment.Joined conn.role moment history.now ↔ history.late conn.stream.socket = false)

/-- A connection in use was current when it was handed out. -/
def History.Lent (history : History) (conn : PooledConnection) : Prop :=
  ∃ moment, history.Established conn moment ∧
    Moment.Joined conn.role moment (history.handedOut conn.stream.socket)

theorem History.Filed.current_iff (filed : history.Filed conn) :
    history.Current conn ↔ history.late conn.stream.socket = false := by
  obtain ⟨moment, established, timely⟩ := filed
  constructor
  · rintro ⟨other, same, joined⟩
    rw [same.unique established] at joined
    exact timely.mp joined
  · intro punctual
    exact ⟨moment, established, timely.mpr punctual⟩

variable {other : PooledConnection}

/-- Connections on one socket were established as one. -/
theorem same_socket_established (established : history.Established conn moment)
    (known : other = conn ∨ ∃ before, history.Established other before)
    (same : other.stream.socket = conn.stream.socket) :
    history.Established other moment ∧ other.role = conn.role := by
  rcases known with rfl | ⟨before, recorded⟩
  · exact ⟨established, rfl⟩
  have alike := recorded
  unfold History.Established at alike established
  rw [same, established, Option.some.injEq, Origin.mk.injEq] at alike
  obtain ⟨role, rfl⟩ := alike
  exact ⟨recorded, role.symm⟩

/-- Handing out a current connection. -/
theorem hand_out_lent (current : history.Current conn) (lent : other = conn ∨ history.Lent other) :
    (history.handOut conn.stream.socket).Lent other := by
  obtain ⟨moment, established, joined⟩ := current
  by_cases same : other.stream.socket = conn.stream.socket
  · have alike := same_socket_established established
      (lent.imp_right fun ⟨before, recorded, _⟩ => ⟨before, recorded⟩) same
    refine ⟨moment, alike.1, ?_⟩
    simp only [History.handOut, same, Function.update_self, alike.2]
    exact joined
  · rcases lent with rfl | ⟨before, recorded, kept⟩
    · exact absurd rfl same
    · refine ⟨before, recorded, ?_⟩
      simp only [History.handOut, Function.update_of_ne same]
      exact kept

/-- A new connection is lent at the moment it is established. -/
theorem establish_lent (history : History) (conn : PooledConnection) :
    (history.establish conn.stream.socket conn.role).Lent conn := by
  refine ⟨history.now, ?_, ?_⟩
  · simp [History.Established, History.establish]
  · simp only [History.establish, Function.update_self]
    exact .refl _ _

/-- The connections that were there before have sockets of their own, and a new one changes
nothing for them. -/
theorem establish_other (fresh : history.origin conn.stream.socket = none)
    (established : history.Established other moment) :
    ((history.establish conn.stream.socket conn.role).Lent other ↔ history.Lent other) ∧
      ((history.establish conn.stream.socket conn.role).Filed other ↔ history.Filed other) := by
  have apart : other.stream.socket ≠ conn.stream.socket := by
    intro same
    rw [History.Established, same, fresh] at established
    cases established
  simp only [History.Lent, History.Filed, History.Established, History.establish,
    Function.update_of_ne apart, and_self]

/-- Giving back files the connection: it is late exactly if it is no longer current. -/
theorem give_back_filed (lent : history.Lent conn) (filed : other = conn ∨ history.Filed other) :
    (history.giveBack conn).Filed other := by
  obtain ⟨moment, established, joined⟩ := lent
  by_cases same : other.stream.socket = conn.stream.socket
  · have alike := same_socket_established established
      (filed.imp_right fun ⟨before, recorded, _⟩ => ⟨before, recorded⟩) same
    refine ⟨moment, alike.1, ?_⟩
    simp only [History.giveBack, same, alike.2, Function.update_self, Bool.not_eq_false',
      decide_eq_true_eq]
    exact ⟨joined.symm.trans, joined.trans⟩
  · rcases filed with rfl | ⟨before, recorded, timely⟩
    · exact absurd rfl same
    · refine ⟨before, recorded, ?_⟩
      simpa only [History.giveBack, Function.update_of_ne same] using timely

/-! ### Along a run -/

structure Chronicled (state : TimedPool) : Prop where
  standby : ∀ conn, state.inner.IdleIn conn .standby → conn.role = .standby
  idle : ∀ conn, state.inner.Idle conn → state.history.Filed conn
  held : ∀ conn ∈ state.checkedOut, state.history.Lent conn

theorem new_chronicled (maxIdlePerNode : Nat) : Chronicled (TimedPool.new maxIdlePerNode) where
  standby conn idle := by
    obtain ⟨addr, queue, stored, -⟩ := idle
    cases stored
  idle conn idle := absurd idle (new_idle maxIdlePerNode conn)
  held _ member := absurd member not_mem_nil

variable {state next : TimedPool} {tls : Bool} {handed : Option PooledConnection}

theorem lookup_chronicled {user database} (chronicled : Chronicled state)
    (applied : (PoolEvent.lookup role user database).apply tls state = some (next, handed))
    (current : ∀ conn, handed = some conn → next.history.Current conn) : Chronicled next := by
  simp only [PoolEvent.apply] at applied
  split at applied
  · cases applied
    exact chronicled
  next conn target inner found =>
    cases applied
    refine ⟨?_, ?_, ?_⟩
    · exact fun other idle => chronicled.standby other ((pop_keeps found).2 other _ idle)
    · exact fun other idle => chronicled.idle other (pop_idle found other idle)
    intro other member
    refine hand_out_lent (current conn rfl) ?_
    rcases mem_append.mp member with old | new
    · exact .inr (chronicled.held other old)
    · exact .inl (mem_singleton.mp new)
  next target inner found =>
    cases applied
    refine ⟨?_, ?_, chronicled.held⟩
    · exact fun other idle => chronicled.standby other ((pop_keeps found).2 other _ idle)
    · exact fun other idle => chronicled.idle other (pop_idle found other idle)

theorem connected_chronicled {dial} (chronicled : Chronicled state)
    (applied : (PoolEvent.connected position dial).apply tls state = some (next, handed)) :
    Chronicled next := by
  obtain ⟨request, -, dialled⟩ := Option.bind_eq_some_iff.mp applied
  split at dialled
  · cases dialled
    exact { chronicled with }
  next conn connected =>
    split at dialled
    next fresh =>
      cases dialled
      refine ⟨chronicled.standby, ?_, ?_⟩
      · intro other idle
        obtain ⟨moment, established, timely⟩ := chronicled.idle other idle
        exact (establish_other fresh established).2.mpr ⟨moment, established, timely⟩
      intro other member
      rcases mem_append.mp member with old | new
      · obtain ⟨moment, established, joined⟩ := chronicled.held other old
        exact (establish_other fresh established).1.mpr ⟨moment, established, joined⟩
      · rw [mem_singleton.mp new]
        exact establish_lent state.history conn
    · cases dialled

theorem release_chronicled (chronicled : Chronicled state)
    (owned : state.checkedOut[position]? = some conn) : Chronicled
      { state with
        inner := state.inner.release conn
        checkedOut := state.checkedOut.eraseIdx position
        history := state.history.giveBack conn } := by
  have lent := chronicled.held conn (mem_of_getElem? owned)
  refine ⟨?_, ?_, ?_⟩
  · intro other idle
    rcases release_keeps idle with old | ⟨rfl, role, -⟩
    · exact chronicled.standby other old
    · exact role
  · intro other idle
    rcases release_idle idle with old | ⟨same, -⟩
    · exact give_back_filed lent (.inr (chronicled.idle other old))
    · exact give_back_filed lent (.inl same)
  · intro other member
    exact chronicled.held other (mem_of_mem_eraseIdx member)

/-- A change of the leader clears the leader queue, and standby connections do not mind. -/
theorem topology_chronicled (leader : Option String) (standbys : List String)
    (chronicled : Chronicled state) : Chronicled
      { state with
        inner := state.inner.updateTopology leader standbys
        history := { state.history with
          now := { state.history.now with
            leaderChanges := state.history.now.leaderChanges +
              if state.inner.leaderAddr ≠ leader then 1 else 0 } } } := by
  refine ⟨?_, ?_, chronicled.held⟩
  · exact fun conn idle => chronicled.standby conn (update_topology_keeps idle).1
  intro conn idle
  obtain ⟨moment, established, timely⟩ := chronicled.idle conn (update_topology_idle idle)
  refine ⟨moment, established, ?_⟩
  by_cases changed : state.inner.leaderAddr = leader
  · simpa [changed] using timely
  · obtain ⟨side, inside⟩ := idle_iff.mp idle
    obtain ⟨before, unchanged⟩ := update_topology_keeps inside
    cases side with
    | leader => exact absurd (unchanged rfl) changed
    | standby => simpa [Moment.Joined, chronicled.standby conn before] using timely

variable {event : PoolEvent}

/-- One event of the pool. -/
theorem apply_chronicled (chronicled : Chronicled state)
    (applied : event.apply tls state = some (next, handed))
    (current : ∀ conn, handed = some conn → next.history.Current conn) : Chronicled next := by
  cases event with
  | lookup role user database => exact lookup_chronicled chronicled applied current
  | connected position dial => exact connected_chronicled chronicled applied
  | release position =>
    obtain ⟨conn, owned, same⟩ := Option.map_eq_some_iff.mp applied
    cases same
    exact release_chronicled chronicled owned
  | updateTopology leader standbys =>
    cases applied
    exact topology_chronicled leader standbys chronicled
  | drainAll =>
    cases applied
    refine ⟨?_, ?_, chronicled.held⟩
    · exact fun conn idle => absurd (.inr idle) (drain_all_idle state.inner conn)
    · exact fun conn idle => absurd idle (drain_all_idle state.inner conn)
  | exchange position owed reported incoming =>
    obtain ⟨conn, owned, same⟩ := Option.map_eq_some_iff.mp applied
    cases same
    refine ⟨chronicled.standby, chronicled.idle, ?_⟩
    intro other member
    rcases mem_or_eq_of_mem_set member with old | rfl
    · exact chronicled.held other old
    · exact chronicled.held conn (mem_of_getElem? owned)
  | discard position =>
    obtain ⟨conn, owned, same⟩ := Option.map_eq_some_iff.mp applied
    cases same
    refine ⟨chronicled.standby, chronicled.idle, ?_⟩
    exact fun other member => chronicled.held other (mem_of_mem_eraseIdx member)

/-- What is handed out was idle, or is new. -/
theorem handed_cases (applied : event.apply tls state = some (next, some conn)) :
    (state.inner.Idle conn ∧ next.history = state.history.handOut conn.stream.socket) ∨
      next.history = state.history.establish conn.stream.socket conn.role := by
  cases event with
  | lookup role user database =>
    simp only [PoolEvent.apply] at applied
    split at applied
    · cases applied
    next found =>
      cases applied
      exact .inl ⟨(pop_keeps found).1 conn rfl, rfl⟩
    · cases applied
  | connected position dial =>
    obtain ⟨request, -, dialled⟩ := Option.bind_eq_some_iff.mp applied
    split at dialled
    · cases dialled
    split at dialled
    · cases dialled
      exact .inr rfl
    · cases dialled
  | updateTopology leader standbys | drainAll => cases applied
  | release position | exchange position owed reported incoming | discard position =>
    obtain ⟨other, -, same⟩ := Option.map_eq_some_iff.mp applied
    cases same

/-- A connection handed out is current exactly if it is not late. -/
theorem handed_current_iff (chronicled : Chronicled state)
    (applied : event.apply tls state = some (next, some conn)) :
    next.history.Current conn ↔ next.history.late conn.stream.socket = false := by
  rcases handed_cases applied with ⟨idle, same⟩ | same
  · rw [same]
    exact (chronicled.idle conn idle).current_iff
  rw [same]
  have punctual :
      (state.history.establish conn.stream.socket conn.role).late conn.stream.socket = false := by
    simp [History.establish]
  refine iff_of_true ⟨state.history.now, ?_, .refl _ _⟩ punctual
  simp [History.Established, History.establish]

/-- Over every interleaving, every connection handed out was established after the latest
drain and, as a leader connection, after the latest change of the leader, if and only if
none is handed out that was released after a drain or such a change had happened while it
was checked out. -/
theorem current_handed_out_iff (maxIdlePerNode : Nat) (tls : Bool) (events : List PoolEvent) :
    Meets (timedStep tls) (HandsOutCurrent tls) (TimedPool.new maxIdlePerNode) events ↔
      Meets (timedStep tls) (HandsOutTimely tls) (TimedPool.new maxIdlePerNode) events := by
  apply meets_congr (timedStep tls) (HandsOutCurrent tls) (HandsOutTimely tls) Chronicled
  · intro state event next chronicled current moved
    obtain ⟨⟨after, handed⟩, applied, rfl⟩ := Option.map_eq_some_iff.mp moved
    apply apply_chronicled chronicled applied
    rintro conn rfl
    exact current after conn applied
  · intro state event chronicled
    constructor
    · intro current next conn applied
      exact (handed_current_iff chronicled applied).mp (current next conn applied)
    · intro timely next conn applied
      exact (handed_current_iff chronicled applied).mpr (timely next conn applied)
  · exact new_chronicled maxIdlePerNode

/-- A leader connection is checked out while the given events happen, and then released. -/
def lentDuring (events : List PoolEvent) : List PoolEvent :=
  [.updateTopology (some "one:5432") [], .lookup .leader none none, .connected 0 (promptDial 0)] ++
    events ++ [.release 0]

theorem stale_handed_out (applied : event.apply tls state = some (next, some conn))
    (established : next.history.Established conn moment)
    (parted : ¬ Moment.Joined conn.role moment next.history.now) :
    ¬ HandsOutCurrent tls state event := by
  intro current
  obtain ⟨other, same, joined⟩ := current next conn applied
  rw [same.unique established] at joined
  exact parted joined

/-- The connection is handed to the next caller after a drain, and after the leader has
moved to another address and back. -/
theorem drained_connection_returns : (∃ state next conn,
      run (timedStep false) (TimedPool.new 10) (lentDuring [.drainAll]) = some state ∧
        (PoolEvent.lookup .leader none none).apply false state = some (next, some conn) ∧
        next.history.Established conn { drains := 0, leaderChanges := 1 } ∧
        next.history.now = { drains := 1, leaderChanges := 1 } ∧
        ¬ HandsOutCurrent false state (.lookup .leader none none)) ∧ ∃ state next conn,
      run (timedStep false) (TimedPool.new 10)
          (lentDuring [.updateTopology (some "two:5432") [],
            .updateTopology (some "one:5432") []]) = some state ∧
        (PoolEvent.lookup .leader none none).apply false state = some (next, some conn) ∧
        next.history.Established conn { drains := 0, leaderChanges := 1 } ∧
        next.history.now = { drains := 0, leaderChanges := 3 } ∧
        ¬ HandsOutCurrent false state (.lookup .leader none none) := by
  refine ⟨⟨_, _, _, rfl, rfl, rfl, rfl, ?_⟩, ⟨_, _, _, rfl, rfl, rfl, rfl, ?_⟩⟩
  all_goals exact stale_handed_out rfl rfl (by decide)

end PgVisor.ConnectionPool
