import PgVisor.StateMachine
import PgVisor.Transitions

/-!
# The failover orchestrator and its quorum lease

The orchestrator of a node turns notifications of the replication layer into actions on
Postgres. A leader holds a lease that every acknowledgement of a quorum renews; a periodic
check fences the leader when the lease has run out. Acknowledgements do not look at the lease,
elections do not look at whether the node is fenced, and recovery does not look at the role.

Instants and durations are natural numbers; the duration since a later instant is zero.
-/

namespace PgVisor.Orchestrator

open Transitions
open ClusterState (NodeRole)

structure QuorumLease where
  leaseDuration : Nat
  lastQuorumAck : Nat
deriving DecidableEq

namespace QuorumLease

def new (leaseDuration now : Nat) : QuorumLease := ⟨leaseDuration, now⟩

def renew (lease : QuorumLease) (now : Nat) : QuorumLease := { lease with lastQuorumAck := now }

def isValid (lease : QuorumLease) (now : Nat) : Bool :=
  decide (now - lease.lastQuorumAck ≤ lease.leaseDuration)

end QuorumLease

inductive OrchestratorAction where
  | noop
  | promoteToLeader
  | demoteToStandby (primaryNodeId : Nat)
  | fenceImmediately
deriving DecidableEq

structure FailoverOrchestrator where
  nodeId : Nat
  currentRole : NodeRole
  lease : QuorumLease
deriving DecidableEq

namespace FailoverOrchestrator

def new (nodeId leaseDuration now : Nat) : FailoverOrchestrator :=
  ⟨nodeId, .standby, .new leaseDuration now⟩

def onLeaderElected (node : FailoverOrchestrator) (leaderId now : Nat) :
    OrchestratorAction × FailoverOrchestrator :=
  if leaderId = node.nodeId then
    if node.currentRole ≠ .leader then
      (.promoteToLeader, { node with currentRole := .leader, lease := node.lease.renew now })
    else (.noop, node)
  else if node.currentRole = .leader then
    (.fenceImmediately, { node with currentRole := .fenced })
  else (.demoteToStandby leaderId, { node with currentRole := .standby })

def checkQuorumLease (node : FailoverOrchestrator) (now : Nat) :
    OrchestratorAction × FailoverOrchestrator :=
  if node.currentRole = .leader && !node.lease.isValid now then
    (.fenceImmediately, { node with currentRole := .fenced })
  else (.noop, node)

def onQuorumAcknowledged (node : FailoverOrchestrator) (now : Nat) : FailoverOrchestrator :=
  if node.currentRole = .leader then { node with lease := node.lease.renew now } else node

def recoverToStandby (node : FailoverOrchestrator) (primaryNodeId : Nat) :
    OrchestratorAction × FailoverOrchestrator :=
  (.demoteToStandby primaryNodeId, { node with currentRole := .standby })

end FailoverOrchestrator

inductive Event where
  | leaderElected (leaderId : Nat)
  | quorumAcknowledged
  | checkQuorumLease
  | recoverToStandby (primaryNodeId : Nat)
deriving DecidableEq

/-- An event and when it is handled. -/
structure Call where
  now : Nat
  event : Event
deriving DecidableEq

/-- An acknowledgement asks for no action. -/
def handle (node : FailoverOrchestrator) (call : Call) :
    OrchestratorAction × FailoverOrchestrator :=
  match call.event with
  | .leaderElected leaderId => node.onLeaderElected leaderId call.now
  | .quorumAcknowledged => (.noop, node.onQuorumAcknowledged call.now)
  | .checkQuorumLease => node.checkQuorumLease call.now
  | .recoverToStandby primaryNodeId => node.recoverToStandby primaryNodeId

/-- What handling a call can do. -/
inductive Outcome (node : FailoverOrchestrator) (call : Call) :
    OrchestratorAction → FailoverOrchestrator → Prop where
  | promoted (own : call.event = .leaderElected node.nodeId)
      (follows : node.currentRole ≠ .leader) :
    Outcome node call .promoteToLeader
      { node with currentRole := .leader, lease := node.lease.renew call.now }
  | reelected (own : call.event = .leaderElected node.nodeId) (leads : node.currentRole = .leader) :
    Outcome node call .noop node
  | deposed (leaderId : Nat) (other : leaderId ≠ node.nodeId)
      (elected : call.event = .leaderElected leaderId) (leads : node.currentRole = .leader) :
    Outcome node call .fenceImmediately { node with currentRole := .fenced }
  | followed (leaderId : Nat) (other : leaderId ≠ node.nodeId)
      (elected : call.event = .leaderElected leaderId) (follows : node.currentRole ≠ .leader) :
    Outcome node call (.demoteToStandby leaderId) { node with currentRole := .standby }
  | renewed (acknowledged : call.event = .quorumAcknowledged)
      (leads : node.currentRole = .leader) :
    Outcome node call .noop { node with lease := node.lease.renew call.now }
  | ignored (acknowledged : call.event = .quorumAcknowledged)
      (follows : node.currentRole ≠ .leader) : Outcome node call .noop node
  | lapsed (checked : call.event = .checkQuorumLease) (leads : node.currentRole = .leader)
      (expired : node.lease.isValid call.now = false) :
    Outcome node call .fenceImmediately { node with currentRole := .fenced }
  | passed (checked : call.event = .checkQuorumLease)
      (valid : node.currentRole = .leader → node.lease.isValid call.now = true) :
    Outcome node call .noop node
  | recovered (primaryNodeId : Nat) (asked : call.event = .recoverToStandby primaryNodeId) :
    Outcome node call (.demoteToStandby primaryNodeId) { node with currentRole := .standby }

theorem handle_outcome (node : FailoverOrchestrator) (call : Call) :
    Outcome node call (handle node call).1 (handle node call).2 := by
  obtain ⟨now, event⟩ := call
  cases event with
  | leaderElected leaderId =>
    simp only [handle, FailoverOrchestrator.onLeaderElected]
    by_cases own : leaderId = node.nodeId
    · by_cases leads : node.currentRole = .leader
      · simp only [own, leads, ↓reduceIte, ne_eq, not_true_eq_false]
        exact .reelected rfl leads
      · simp only [own, leads, ↓reduceIte, ne_eq, not_false_eq_true]
        exact .promoted rfl leads
    · by_cases leads : node.currentRole = .leader
      · simp only [own, leads, ↓reduceIte]
        exact .deposed leaderId own rfl leads
      · simp only [own, leads, ↓reduceIte]
        exact .followed leaderId own rfl leads
  | quorumAcknowledged =>
    simp only [handle, FailoverOrchestrator.onQuorumAcknowledged]
    by_cases leads : node.currentRole = .leader
    · rw [if_pos leads]
      exact .renewed rfl leads
    · rw [if_neg leads]
      exact .ignored rfl leads
  | checkQuorumLease =>
    simp only [handle, FailoverOrchestrator.checkQuorumLease]
    by_cases leads : node.currentRole = .leader
    · cases valid : node.lease.isValid now with
      | false =>
        simp only [leads, decide_true, Bool.not_false, Bool.and_self, ↓reduceIte]
        exact .lapsed rfl leads valid
      | true =>
        simp only [leads, decide_true, Bool.not_true, Bool.and_false, Bool.false_eq_true,
          ↓reduceIte]
        exact .passed rfl fun _ => valid
    · simp only [leads, decide_false, Bool.false_and, Bool.false_eq_true, ↓reduceIte]
      exact .passed rfl fun still => absurd still leads
  | recoverToStandby primaryNodeId => exact .recovered primaryNodeId rfl

/-- The actions that a trace asks for, one for each call. -/
def emitted : FailoverOrchestrator → List Call → List OrchestratorAction
  | _, [] => []
  | node, call :: rest => (handle node call).1 :: emitted (handle node call).2 rest

section Lease

/-- The orchestrator at the time of its last call. `overdue` says that the lease ran out while
the node acted as leader, and that it has not asked for a fence since. -/
structure Watched where
  node : FailoverOrchestrator
  clock : Nat
  overdue : Bool
deriving DecidableEq

def Watched.start (nodeId leaseDuration now : Nat) : Watched :=
  ⟨.new nodeId leaseDuration now, now, false⟩

/-- The lease of an acting leader has run out by now, and no fence was asked for. -/
def Watched.overdueAt (watched : Watched) (now : Nat) : Bool :=
  watched.overdue || decide (watched.node.currentRole = .leader) && !watched.node.lease.isValid now

def Watched.after (watched : Watched) (call : Call) : Watched :=
  let (action, node) := handle watched.node call
  ⟨node, call.now, watched.overdueAt call.now && decide (action ≠ .fenceImmediately)⟩

def watchStep (watched : Watched) (call : Call) : Option Watched := some (watched.after call)

/-- Calls come at non-decreasing times. -/
def InOrder (watched : Watched) (call : Call) : Prop := watched.clock ≤ call.now

/-- The call sets the time of the last acknowledgement. -/
def Renews (node : FailoverOrchestrator) (call : Call) : Prop :=
  call.event = .quorumAcknowledged ∧ node.currentRole = .leader ∨
    (handle node call).1 = .promoteToLeader

/-- A lease that ran out is not renewed before the node has asked for a fence. -/
def FencedFirst (watched : Watched) (call : Call) : Prop :=
  Renews watched.node call → watched.overdueAt call.now = false

/-- Acknowledgements reach a leader while its lease is valid, and a node is not elected after it
gave up the role of a leader whose lease had run out without a fence. -/
def Timely (watched : Watched) (call : Call) : Prop :=
  (call.event = .quorumAcknowledged → watched.node.currentRole = .leader →
      watched.node.lease.isValid call.now = true) ∧
    (call.event = .leaderElected watched.node.nodeId → watched.node.currentRole ≠ .leader →
      watched.overdue = false)

/-- Acknowledgements and recoveries reach a leader while its lease is valid. -/
def Checked (watched : Watched) (call : Call) : Prop :=
  call.event = .quorumAcknowledged ∨ (∃ primary, call.event = .recoverToStandby primary) →
    watched.node.currentRole = .leader → watched.node.lease.isValid call.now = true

instance (watched : Watched) (call : Call) : Decidable (InOrder watched call) :=
  inferInstanceAs (Decidable (_ ≤ _))

instance (watched : Watched) (call : Call) : Decidable (Timely watched call) :=
  inferInstanceAs (Decidable (_ ∧ _))

theorem invalid_later {lease : QuorumLease} {now later : Nat} (order : now ≤ later)
    (expired : lease.isValid now = false) : lease.isValid later = false := by
  simp only [QuorumLease.isValid, decide_eq_false_iff_not] at expired ⊢
  omega

/-- The lease of an overdue leader has run out. -/
def Lapsed (watched : Watched) : Prop :=
  watched.overdue = true → watched.node.currentRole = .leader →
    watched.node.lease.isValid watched.clock = false

variable {watched : Watched}

theorem Lapsed.invalid {now} (lapsed : Lapsed watched) (order : watched.clock ≤ now)
    (leads : watched.node.currentRole = .leader) (late : watched.overdueAt now = true) :
    watched.node.lease.isValid now = false := by
  rcases Bool.or_eq_true_iff.mp late with before | expired
  · exact invalid_later order (lapsed before leads)
  · simpa [leads] using expired

theorem overdueAt_follower (now : Nat) (follows : watched.node.currentRole ≠ .leader) :
    watched.overdueAt now = watched.overdue := by
  simp [Watched.overdueAt, follows]

/-- Only an election of the node itself promotes it. -/
theorem promotes_iff (node : FailoverOrchestrator) (call : Call) :
    (handle node call).1 = .promoteToLeader ↔
      call.event = .leaderElected node.nodeId ∧ node.currentRole ≠ .leader := by
  constructor
  · intro promotes
    have outcome := handle_outcome node call
    rw [promotes] at outcome
    generalize (handle node call).2 = next at outcome
    cases outcome with
    | promoted own follows => exact ⟨own, follows⟩
  · rintro ⟨own, follows⟩
    simp [handle, own, FailoverOrchestrator.onLeaderElected, follows]

variable {call : Call}

theorem fencedFirst_iff (lapsed : Lapsed watched) (order : InOrder watched call) :
    FencedFirst watched call ↔ Timely watched call := by
  constructor
  · intro first
    constructor
    · intro acknowledged leads
      have early := first (.inl ⟨acknowledged, leads⟩)
      simpa [leads] using (Bool.or_eq_false_iff.mp early).2
    · intro own follows
      have early := first (.inr ((promotes_iff _ _).mpr ⟨own, follows⟩))
      exact (Bool.or_eq_false_iff.mp early).1
  · rintro ⟨valid, unlapsed⟩ (⟨acknowledged, leads⟩ | promotes)
    · by_contra late
      have expired := lapsed.invalid order leads (Bool.eq_true_of_not_eq_false late)
      rw [valid acknowledged leads] at expired
      cases expired
    · obtain ⟨own, follows⟩ := (promotes_iff _ _).mp promotes
      rw [overdueAt_follower _ follows]
      exact unlapsed own follows

theorem overdue_after (still : (watched.after call).overdue = true) :
    watched.overdueAt call.now = true ∧ (handle watched.node call).1 ≠ .fenceImmediately := by
  obtain ⟨late, unfenced⟩ := Bool.and_eq_true_iff.mp still
  exact ⟨late, of_decide_eq_true unfenced⟩

/-- A lease that is not renewed while overdue stays as it was. -/
theorem Lapsed.after (lapsed : Lapsed watched) (order : InOrder watched call)
    (first : FencedFirst watched call) : Lapsed (watched.after call) := by
  intro still leads
  obtain ⟨late, -⟩ := overdue_after still
  change (handle watched.node call).2.currentRole = .leader at leads
  change (handle watched.node call).2.lease.isValid call.now = false
  have unrenewed : ¬ Renews watched.node call := by
    intro renews
    rw [first renews] at late
    cases late
  have outcome := handle_outcome watched.node call
  generalize (handle watched.node call).1 = action,
    (handle watched.node call).2 = node at outcome leads ⊢
  cases outcome with
  | promoted own follows =>
    exact absurd (.inr ((promotes_iff _ _).mpr ⟨own, follows⟩)) unrenewed
  | renewed acknowledged leads => exact absurd (.inl ⟨acknowledged, leads⟩) unrenewed
  | reelected own leads => exact lapsed.invalid order leads late
  | ignored acknowledged follows => exact absurd leads follows
  | passed checked valid => exact lapsed.invalid order leads late
  | deposed | followed | lapsed | recovered => cases leads

/-- An overdue node is a leader whose lease has run out. -/
def Overdue (watched : Watched) : Prop :=
  watched.overdue = true → watched.node.currentRole = .leader ∧
    watched.node.lease.isValid watched.clock = false

theorem Overdue.timely (overdue : Overdue watched) (checked : Checked watched call) :
    Timely watched call := by
  constructor
  · intro acknowledged
    exact checked (.inl acknowledged)
  · intro _ follows
    by_contra late
    exact follows (overdue (Bool.eq_true_of_not_eq_false late)).1

theorem Overdue.after (overdue : Overdue watched) (order : InOrder watched call)
    (checked : Checked watched call) : Overdue (watched.after call) := by
  intro still
  obtain ⟨late, unfenced⟩ := overdue_after still
  have leads : watched.node.currentRole = .leader := by
    by_contra follows
    rw [overdueAt_follower _ follows] at late
    exact follows (overdue late).1
  have expired : watched.node.lease.isValid call.now = false :=
    Lapsed.invalid (fun before _ => (overdue before).2) order leads late
  have unchecked : ¬ (call.event = .quorumAcknowledged ∨
      ∃ primary, call.event = .recoverToStandby primary) := by
    intro asked
    rw [checked asked leads] at expired
    cases expired
  change (handle watched.node call).2.currentRole = .leader ∧
    (handle watched.node call).2.lease.isValid call.now = false
  have outcome := handle_outcome watched.node call
  generalize (handle watched.node call).1 = action,
    (handle watched.node call).2 = node at outcome unfenced ⊢
  cases outcome with
  | promoted own follows => exact absurd leads follows
  | renewed acknowledged leads => exact absurd (.inl acknowledged) unchecked
  | reelected own leads => exact ⟨leads, expired⟩
  | ignored acknowledged follows => exact absurd leads follows
  | passed asked valid => exact ⟨leads, expired⟩
  | deposed => exact absurd rfl unfenced
  | followed leaderId other elected follows => exact absurd leads follows
  | lapsed => exact absurd rfl unfenced
  | recovered primary asked => exact absurd (.inr ⟨primary, asked⟩) unchecked

/-- Along every trace at non-decreasing times, a lease that ran out is never renewed before the
node has asked for a fence exactly if every call is timely. So it is along every trace in which
acknowledgements and recoveries reach a leader only while its lease is valid. -/
theorem expired_lease_fenced_iff (nodeId leaseDuration now : Nat) (calls : List Call)
    (order : Meets watchStep InOrder (.start nodeId leaseDuration now) calls) :
    (Meets watchStep FencedFirst (.start nodeId leaseDuration now) calls ↔
      Meets watchStep Timely (.start nodeId leaseDuration now) calls) ∧
    (Meets watchStep Checked (.start nodeId leaseDuration now) calls →
      Meets watchStep Timely (.start nodeId leaseDuration now) calls) := by
  constructor
  · apply meets_congr_within watchStep _ _ Lapsed _ _
      (fun late => nomatch (show false = true from late)) order
    · intro watched call next lapsed ordered first moved
      cases moved
      exact lapsed.after ordered first
    · intro watched call lapsed ordered
      exact fencedFirst_iff lapsed ordered
  · intro checked
    have both := (meets_and).mpr ⟨order, checked⟩
    apply meets_of_invariant watchStep _ Timely Overdue _ _
      (fun late => nomatch (show false = true from late)) both
    · rintro watched call next overdue ⟨ordered, check⟩ moved
      cases moved
      exact overdue.after ordered check
    · rintro watched call overdue ⟨-, check⟩
      exact overdue.timely check

/-- Elected at once, acknowledged and checked within the lease, and fenced by the check after
it ran out. The late acknowledgement renews nothing. -/
theorem late_check_fences :
    let calls : List Call :=
      [⟨0, .leaderElected 1⟩, ⟨8, .quorumAcknowledged⟩, ⟨15, .checkQuorumLease⟩,
        ⟨25, .checkQuorumLease⟩, ⟨26, .quorumAcknowledged⟩]
    Meets watchStep InOrder (.start 1 10 0) calls ∧
      Meets watchStep FencedFirst (.start 1 10 0) calls := by
  intro calls
  have order : Meets watchStep InOrder (.start 1 10 0) calls := by decide
  have timely : Meets watchStep Timely (.start 1 10 0) calls := by decide
  exact ⟨order, (expired_lease_fenced_iff 1 10 0 calls order).1.mpr timely⟩

/-- An acknowledgement long after the lease ran out renews it: the check that follows finds
nothing. And a leader that is recovered after its lease ran out is promoted again without a
fence. -/
theorem late_acknowledgement_revives :
    let acknowledged : List Call :=
      [⟨0, .leaderElected 1⟩, ⟨25, .quorumAcknowledged⟩, ⟨26, .checkQuorumLease⟩]
    let recovered : List Call :=
      [⟨0, .leaderElected 1⟩, ⟨25, .recoverToStandby 2⟩, ⟨30, .leaderElected 1⟩]
    Meets watchStep InOrder (.start 1 10 0) acknowledged ∧
      emitted (.new 1 10 0) acknowledged = [.promoteToLeader, .noop, .noop] ∧
      ¬ Meets watchStep FencedFirst (.start 1 10 0) acknowledged ∧
      Meets watchStep InOrder (.start 1 10 0) recovered ∧ emitted (.new 1 10 0) recovered =
        [.promoteToLeader, .demoteToStandby 2, .promoteToLeader] ∧
      ¬ Meets watchStep FencedFirst (.start 1 10 0) recovered := by
  intro acknowledged recovered
  refine ⟨by decide, by decide, ?_, by decide, by decide, ?_⟩
  · rintro ⟨-, later⟩
    have renewed := (later _ rfl).1 (.inl ⟨rfl, rfl⟩)
    cases renewed
  · rintro ⟨-, later⟩
    have promoted := ((later _ rfl).2 _ rfl).1 (.inr rfl)
    cases promoted

end Lease

section Postgres

/-- What the actions make of the managed Postgres process. -/
inductive PostgresState where
  | runningStandby
  | leader
  | fenced
deriving DecidableEq

namespace PostgresState

/-- A running standby can be promoted; a promoted process has to be fenced before it can follow
another; fencing and doing nothing are always possible. -/
def Accepts : PostgresState → OrchestratorAction → Prop
  | state, .promoteToLeader => state = .runningStandby
  | state, .demoteToStandby _ => state ≠ .leader
  | _, .noop => True
  | _, .fenceImmediately => True

def after (state : PostgresState) : OrchestratorAction → PostgresState
  | .noop => state
  | .promoteToLeader => .leader
  | .demoteToStandby _ => .runningStandby
  | .fenceImmediately => .fenced

end PostgresState

/-- The orchestrator and the process that carries out its actions. -/
structure Managed where
  node : FailoverOrchestrator
  postgres : PostgresState
deriving DecidableEq

def Managed.start (nodeId leaseDuration now : Nat) : Managed :=
  ⟨.new nodeId leaseDuration now, .runningStandby⟩

def Managed.after (managed : Managed) (call : Call) : Managed :=
  let (action, node) := handle managed.node call
  ⟨node, managed.postgres.after action⟩

def manageStep (managed : Managed) (call : Call) : Option Managed := some (managed.after call)

/-- The process can carry out the action that the call asks for. -/
def Legal (managed : Managed) (call : Call) : Prop :=
  managed.postgres.Accepts (handle managed.node call).1

/-- A fenced node is not elected, and a leader is not recovered. -/
def Sequenced (managed : Managed) (call : Call) : Prop :=
  (call.event = .leaderElected managed.node.nodeId → managed.node.currentRole ≠ .fenced) ∧
    ((∃ primary, call.event = .recoverToStandby primary) → managed.node.currentRole ≠ .leader)

/-- The state of the process is the one the role stands for. -/
def expected : NodeRole → PostgresState
  | .leader => .leader
  | .standby => .runningStandby
  | .fenced => .fenced

def InStep (managed : Managed) : Prop := managed.postgres = expected managed.node.currentRole

variable {managed : Managed}

theorem InStep.after (inStep : InStep managed) (call : Call) : InStep (managed.after call) := by
  change managed.postgres.after (handle managed.node call).1 =
    expected (handle managed.node call).2.currentRole
  have outcome := handle_outcome managed.node call
  generalize (handle managed.node call).1 = action, (handle managed.node call).2 = node at outcome ⊢
  cases outcome with
  | promoted | deposed | followed | lapsed | recovered => rfl
  | reelected | renewed | ignored | passed => exact inStep

theorem legal_iff (inStep : InStep managed) (call : Call) :
    Legal managed call ↔ Sequenced managed call := by
  rw [Legal, Sequenced, inStep]
  have outcome := handle_outcome managed.node call
  generalize (handle managed.node call).1 = action, (handle managed.node call).2 = node at outcome ⊢
  cases outcome with
  | promoted own follows =>
    rw [own]
    cases role : managed.node.currentRole with
    | leader => exact absurd role follows
    | standby | fenced => simp [PostgresState.Accepts, expected]
  | reelected own leads => simp [PostgresState.Accepts, own, leads]
  | deposed leaderId other elected leads => simp [PostgresState.Accepts, elected, other]
  | followed leaderId other elected follows =>
    rw [elected]
    cases role : managed.node.currentRole with
    | leader => exact absurd role follows
    | standby => simp [PostgresState.Accepts, expected]
    | fenced => simp [PostgresState.Accepts, expected, other]
  | renewed acknowledged leads => simp [PostgresState.Accepts, acknowledged]
  | ignored acknowledged follows => simp [PostgresState.Accepts, acknowledged]
  | lapsed checked leads expired => simp [PostgresState.Accepts, checked]
  | passed checked valid => simp [PostgresState.Accepts, checked]
  | recovered primary asked =>
    rw [asked]
    cases managed.node.currentRole with
    | leader | standby | fenced => simp [PostgresState.Accepts, expected]

/-- The node after a trace. -/
def settled (node : FailoverOrchestrator) (calls : List Call) : FailoverOrchestrator :=
  calls.foldl (fun node call => (handle node call).2) node

variable {node : FailoverOrchestrator} {calls : List Call}

/-- Actions asked for one after the other were asked for by parts of the trace. -/
theorem emitted_split {first second} (same : emitted node calls = first ++ second) :
    ∃ earlier later, calls = earlier ++ later ∧ emitted node earlier = first ∧
      emitted (settled node earlier) later = second := by
  induction first generalizing node calls with
  | nil => exact ⟨[], calls, rfl, rfl, same⟩
  | cons action rest ih =>
    cases calls with
    | nil => cases same
    | cons call remaining =>
      rw [emitted, List.cons_append] at same
      obtain ⟨asked, others⟩ := List.cons.inj same
      obtain ⟨earlier, later, rfl, former, latter⟩ := ih others
      refine ⟨call :: earlier, later, rfl, ?_, latter⟩
      rw [emitted, asked, former]

/-- An action that ends the role of a leader. -/
def OrchestratorAction.Withdraws (action : OrchestratorAction) : Prop :=
  action = .fenceImmediately ∨ ∃ primary, action = .demoteToStandby primary

theorem leader_stays (leads : node.currentRole = .leader)
    (kept : ∀ action ∈ emitted node calls, ¬ action.Withdraws) :
    (settled node calls).currentRole = .leader := by
  induction calls generalizing node with
  | nil => exact leads
  | cons call rest ih =>
    obtain ⟨here, later⟩ := List.forall_mem_cons.mp kept
    apply ih _ later
    have outcome := handle_outcome node call
    generalize (handle node call).1 = action, (handle node call).2 = next at outcome here
    cases outcome with
    | promoted => rfl
    | reelected | renewed | ignored | passed => exact leads
    | deposed | lapsed => exact absurd (.inl rfl) here
    | followed leaderId | recovered leaderId => exact absurd (.inr ⟨leaderId, rfl⟩) here

/-- Between two promotions the node withdraws. -/
theorem withdraws_between {before between later} (asked : emitted node calls =
      before ++ .promoteToLeader :: (between ++ .promoteToLeader :: later)) :
    ∃ action ∈ between, action.Withdraws := by
  by_contra none
  push Not at none
  obtain ⟨earlier, remaining, -, -, first⟩ := emitted_split asked
  cases remaining with
  | nil => cases first
  | cons call others =>
    obtain ⟨promotes, rest⟩ := List.cons.inj first
    have leads : (handle (settled node earlier) call).2.currentRole = .leader := by
      have outcome := handle_outcome (settled node earlier) call
      rw [promotes] at outcome
      generalize (handle (settled node earlier) call).2 = next at outcome ⊢
      cases outcome with
      | promoted => rfl
    obtain ⟨through, last, -, former, latter⟩ := emitted_split rest
    have still := leader_stays leads (former ▸ none)
    cases last with
    | nil => cases latter
    | cons again others =>
      obtain ⟨repeats, -⟩ := List.cons.inj latter
      exact ((promotes_iff _ _).mp repeats).2 still

/-- Along every trace, Postgres can carry out every action exactly if no election reaches a fenced
node and no recovery a leader. Two promotions always have a fence or a demotion between them. -/
theorem actions_legal_iff (nodeId leaseDuration now : Nat) (calls : List Call) :
    (Meets manageStep Legal (.start nodeId leaseDuration now) calls ↔
      Meets manageStep Sequenced (.start nodeId leaseDuration now) calls) ∧
    ∀ before between later : List OrchestratorAction,
      emitted (.new nodeId leaseDuration now) calls =
        before ++ .promoteToLeader :: (between ++ .promoteToLeader :: later) →
      ∃ action ∈ between, action.Withdraws := by
  constructor
  · apply meets_congr manageStep Legal Sequenced InStep _ _ calls
      (.start nodeId leaseDuration now) rfl
    · intro managed call next inStep _ moved
      cases moved
      exact inStep.after call
    · intro managed call inStep
      exact legal_iff inStep call
  · intro before between later asked
    exact withdraws_between asked

/-- A node that was fenced by the check is elected again before it was recovered and asks for the
promotion of a fenced process; a leader that is recovered asks for the demotion of a promoted
one. -/
theorem fenced_node_promoted :
    let elected : List Call :=
      [⟨0, .leaderElected 1⟩, ⟨25, .checkQuorumLease⟩, ⟨30, .leaderElected 1⟩]
    let recovered : List Call := [⟨0, .leaderElected 1⟩, ⟨5, .recoverToStandby 2⟩]
    emitted (.new 1 10 0) elected = [.promoteToLeader, .fenceImmediately, .promoteToLeader] ∧
      ¬ Meets manageStep Legal (.start 1 10 0) elected ∧
      emitted (.new 1 10 0) recovered = [.promoteToLeader, .demoteToStandby 2] ∧
      ¬ Meets manageStep Legal (.start 1 10 0) recovered := by
  intro elected recovered
  refine ⟨by decide, ?_, by decide, ?_⟩
  · rintro ⟨-, later⟩
    have promoted := ((later _ rfl).2 _ rfl).1
    cases promoted
  · rintro ⟨-, later⟩
    have demoted := (later _ rfl).1
    exact demoted rfl

end Postgres

end PgVisor.Orchestrator
