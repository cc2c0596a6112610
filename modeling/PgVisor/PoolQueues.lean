import PgVisor.StaleConnections

/-!
# What the idle queues hold

Only the sections under the pool's lock read or change the queues: the lookup of
`acquire_for`, `release`, `update_topology` and `drain_all`. An interleaving of calls is
therefore an order of such sections; the dial that may follow a lookup, and whatever
owners do with their connections, lies outside. The released connection is arbitrary: it
may have been opened for a topology that is long gone, or for a standby request that was
sent to the leader's address because no standby was registered.

After any order of sections the leader queue holds leader connections to the registered
leader, a standby queue holds standby connections to its own registered address, and no
queue is longer than the configured maximum.
-/

namespace PgVisor.ConnectionPool

open List

/-- A section under the pool's lock. -/
inductive PoolAccess where
  | lookup (role : BackendRole)
  | release (conn : PooledConnection)
  | updateTopology (leader : Option String) (standbys : List String)
  | drainAll

/-- The pool after a section. A lookup that fails changes nothing. -/
def PoolInner.access (inner : PoolInner) : PoolAccess → PoolInner
  | .lookup role =>
    match inner.popIdle role with
    | .error _ => inner
    | .ok (_, _, next) => next
  | .release conn => inner.release conn
  | .updateTopology leader standbys => inner.updateTopology leader standbys
  | .drainAll => inner.drainAll

/-- The pool after sections in the order in which the lock was taken. -/
def PoolInner.accessAll (inner : PoolInner) (accesses : List PoolAccess) : PoolInner :=
  accesses.foldl PoolInner.access inner

/-- The queue of a registered standby address. -/
structure StandbyQueue (inner : PoolInner) (addr : String) (queue : List PooledConnection) :
    Prop where
  registered : addr ∈ inner.standbyAddrs
  own : ∀ conn ∈ queue, conn.addr = addr ∧ conn.role = .standby
  fits : queue.length ≤ inner.maxIdlePerNode

/-- Every queue belongs to a registered node, holds connections to that node that were
opened for its role, and is not too long. -/
structure PoolInner.Sorted (inner : PoolInner) : Prop where
  leaders : ∀ conn ∈ inner.idleLeaders, conn.role = .leader ∧ some conn.addr = inner.leaderAddr
  leadersFit : inner.idleLeaders.length ≤ inner.maxIdlePerNode
  standbys : ∀ addr queue, inner.idleStandbys addr = some queue → StandbyQueue inner addr queue

/-- An idle connection handed out for the leader goes to the leader of that moment. -/
def PoolInner.HandsOutLeader (inner : PoolInner) : Prop :=
  ∀ conn target next, inner.popIdle .leader = .ok (some conn, target, next) →
    conn.role = .leader ∧ some conn.addr = inner.leaderAddr

theorem new_sorted (maxIdlePerNode : Nat) : (PoolInner.new maxIdlePerNode).Sorted where
  leaders _ member := absurd member not_mem_nil
  leadersFit := Nat.zero_le _
  standbys _ _ stored := nomatch stored

variable {inner : PoolInner}

/-- Popping from the leader queue, for a leader request or for want of a standby. -/
theorem pop_leader_sorted (addr : String) (sorted : inner.Sorted) :
    (inner.popLeader addr).2.2.Sorted where
  leaders conn member := sorted.leaders conn (mem_of_mem_tail member)
  leadersFit := by
    have shorter : inner.idleLeaders.tail.length ≤ inner.idleLeaders.length := by
      rw [length_tail]
      exact Nat.sub_le _ 1
    exact shorter.trans sorted.leadersFit
  standbys addr queue stored := by
    obtain ⟨registered, own, fits⟩ := sorted.standbys addr queue stored
    exact ⟨registered, own, fits⟩

/-- Replacing the queue of a registered standby by one that is in order. -/
theorem standby_queue_sorted {addr queue} (turn : Nat)
    (sorted : inner.Sorted) (inOrder : StandbyQueue inner addr queue) : PoolInner.Sorted
      { inner with
        standbyRrIndex := turn
        idleStandbys := Function.update inner.idleStandbys addr (some queue) } where
  leaders := sorted.leaders
  leadersFit := sorted.leadersFit
  standbys other kept stored := by
    by_cases same : other = addr
    · subst same
      simp only [Function.update_self] at stored
      obtain rfl := Option.some.inj stored
      exact { inOrder with }
    · simp only [Function.update_of_ne same] at stored
      obtain ⟨registered, own, fits⟩ := sorted.standbys other kept stored
      exact ⟨registered, own, fits⟩

theorem pop_idle_sorted {next role popped target} (sorted : inner.Sorted)
    (found : inner.popIdle role = .ok (popped, target, next)) : next.Sorted := by
  unfold PoolInner.popIdle at found
  cases role with
  | leader =>
    simp only at found
    split at found
    · cases found
    · cases found
      exact pop_leader_sorted target sorted
  | standby =>
    simp only at found
    split at found
    next addr _ =>
      split at found
      next conn rest stored =>
        cases found
        obtain ⟨registered, own, fits⟩ := sorted.standbys target _ stored
        refine standby_queue_sorted _ sorted ⟨registered, ?_, ?_⟩
        · exact fun other member => own other (mem_cons_of_mem conn member)
        · exact (Nat.le_succ rest.length).trans fits
      · cases found
        refine ⟨sorted.leaders, sorted.leadersFit, ?_⟩
        intro other queue stored
        obtain ⟨registered, own, fits⟩ := sorted.standbys other queue stored
        exact ⟨registered, own, fits⟩
    · split at found
      · cases found
        exact pop_leader_sorted target sorted
      · cases found

/-- A connection is queued only where it belongs, whatever topology it was opened for. -/
theorem release_sorted (conn : PooledConnection) (sorted : inner.Sorted) :
    (inner.release conn).Sorted := by
  unfold PoolInner.release
  cases role : conn.role with
  | leader =>
    by_cases fits : some conn.addr = inner.leaderAddr ∧
        inner.idleLeaders.length < inner.maxIdlePerNode
    · simp only [if_pos fits]
      refine ⟨?_, ?_, ?_⟩
      · intro other member
        rcases mem_append.mp member with old | new
        · exact sorted.leaders other old
        · rw [mem_singleton.mp new]
          exact ⟨role, fits.1⟩
      · rw [length_append, length_singleton]
        exact fits.2
      · intro addr queue stored
        obtain ⟨registered, own, short⟩ := sorted.standbys addr queue stored
        exact ⟨registered, own, short⟩
    · simp only [if_neg fits]
      exact sorted
  | standby =>
    by_cases registered : conn.addr ∈ inner.standbyAddrs
    · simp only [if_pos registered]
      -- the queue as it is found, created on the spot if the address had none
      have before : StandbyQueue inner conn.addr ((inner.idleStandbys conn.addr).getD []) := by
        cases stored : inner.idleStandbys conn.addr with
        | none => exact ⟨registered, fun _ member => absurd member not_mem_nil, Nat.zero_le _⟩
        | some queue => exact sorted.standbys conn.addr queue stored
      apply standby_queue_sorted inner.standbyRrIndex sorted
      split
      next room =>
        refine ⟨registered, ?_, ?_⟩
        · intro other member
          rcases mem_append.mp member with old | new
          · exact before.own other old
          · rw [mem_singleton.mp new]
            exact ⟨rfl, role⟩
        · rw [length_append, length_singleton]
          exact room
      · exact before
    · simp only [if_neg registered]
      exact sorted

/-- A new leader finds the leader queue empty, and a standby that is no longer registered
loses its queue. -/
theorem update_topology_sorted (leader : Option String) (standbys : List String)
    (sorted : inner.Sorted) : (inner.updateTopology leader standbys).Sorted where
  leaders conn member := by
    by_cases changed : inner.leaderAddr ≠ leader
    · simp only [PoolInner.updateTopology, if_pos changed] at member
      exact absurd member not_mem_nil
    · simp only [PoolInner.updateTopology, if_neg changed] at member
      obtain ⟨role, addr⟩ := sorted.leaders conn member
      exact ⟨role, addr.trans (not_not.mp changed)⟩
  leadersFit := by
    by_cases changed : inner.leaderAddr ≠ leader
    · simp only [PoolInner.updateTopology, if_pos changed]
      exact Nat.zero_le _
    · simp only [PoolInner.updateTopology, if_neg changed]
      exact sorted.leadersFit
  standbys addr queue stored := by
    by_cases kept : addr ∈ standbys
    · simp only [PoolInner.updateTopology, if_pos kept] at stored
      obtain ⟨-, own, fits⟩ := sorted.standbys addr queue stored
      exact ⟨kept, own, fits⟩
    · simp only [PoolInner.updateTopology, if_neg kept] at stored
      cases stored

theorem drain_all_sorted (inner : PoolInner) : inner.drainAll.Sorted where
  leaders _ member := absurd member not_mem_nil
  leadersFit := Nat.zero_le _
  standbys _ _ stored := nomatch stored

theorem access_sorted (access : PoolAccess) (sorted : inner.Sorted) :
    (inner.access access).Sorted := by
  cases access with
  | lookup role =>
    unfold PoolInner.access
    dsimp only
    split
    · exact sorted
    next found => exact pop_idle_sorted sorted found
  | release conn => exact release_sorted conn sorted
  | updateTopology leader standbys => exact update_topology_sorted leader standbys sorted
  | drainAll => exact drain_all_sorted inner

theorem access_all_sorted (accesses : List PoolAccess) (sorted : inner.Sorted) :
    (inner.accessAll accesses).Sorted := by
  induction accesses generalizing inner with
  | nil => exact sorted
  | cons access rest ih =>
    exact ih (access_sorted access sorted)

theorem PoolInner.Sorted.hands_out_leader (sorted : inner.Sorted) : inner.HandsOutLeader := by
  intro conn target next found
  unfold PoolInner.popIdle at found
  simp only at found
  split at found
  · cases found
  next addr registered =>
    unfold PoolInner.popLeader at found
    simp only [Except.ok.injEq, Prod.mk.injEq] at found
    exact sorted.leaders conn (mem_of_mem_head? found.1)

/-- After any order of locked sections the queues are in order, and a connection taken from
a queue for the leader role goes to the leader registered at that moment. -/
theorem idle_queues_sorted (maxIdlePerNode : Nat) (accesses : List PoolAccess) :
    ((PoolInner.new maxIdlePerNode).accessAll accesses).Sorted ∧
      ((PoolInner.new maxIdlePerNode).accessAll accesses).HandsOutLeader := by
  have sorted := access_all_sorted accesses (new_sorted maxIdlePerNode)
  exact ⟨sorted, sorted.hands_out_leader⟩

end PgVisor.ConnectionPool
