import PgVisor.Election

/-!
# One leader at a time

A node leads when its role is leader and its server is running. Starting with one such
node, two nodes lead only after a standby was elected while another node led or was
being promoted: nothing else makes a node lead, since a resynchronised server belongs to
a node that is no leader. Elections do not exclude this. A standby counts the rounds in
which it heard of no leader, and a leader whose answers are lost neither learns of the
election nor steps down for it; it fences only after it has seen a second leader.
-/

namespace PgVisor.Election

open Transitions

variable {cluster : Cluster} {next : Nodes} {label : Label}

/-- Role leader with a running server. -/
def Node.Leads (node : Node) : Prop := node.role = .leader ∧ node.status = .running

instance (node : Node) : Decidable node.Leads := inferInstanceAs (Decidable (_ ∧ _))

def AtMostOneLeader (nodes : Nodes) : Prop :=
  ∀ first second, (nodes first).Leads → (nodes second).Leads → first = second

/-- A cluster before any monitor has woken up, with one running leader. -/
structure Starts (leader : Nat) (nodes : Nodes) : Prop where
  leads : (nodes leader).Leads
  alone : ∀ id, (nodes id).Leads → id = leader
  asleep : ∀ id, (nodes id).phase = .waiting
  unasked : ∀ id, (nodes id).repoints = []

/-- No node but this one leads or is being promoted. -/
def NoRival (nodes : Nodes) (id : Nat) : Prop :=
  ∀ other, other ≠ id → ¬ (nodes other).Leads ∧ (nodes other).phase ≠ .promoting

/-- A standby that wins an election at this step has no rival. -/
def ElectsSafely (cluster : Cluster) (nodes : Nodes) : Label → Prop
  | .conclude id =>
    match (nodes id).phase with
    | .canvassing [] false aliveNodes =>
      wins id (cluster.peers id) (((nodes id).missedHeartbeats + 1) % 2 ^ 32) aliveNodes = true →
        NoRival nodes id
    | _ => True
  | _ => True

/-- The phases on the way from a fenced node back to a standby. -/
def MonitorPhase.resyncs : MonitorPhase → Bool
  | .seeking _ => true
  | .rejoining _ => true
  | .settling _ => true
  | _ => false

/-- The node leads or is being promoted. -/
def Node.Claims (node : Node) : Prop := node.Leads ∨ node.phase = .promoting

/-- One node at most leads or is being promoted, and a node whose server is resynchronised
is no leader. -/
structure Orderly (nodes : Nodes) : Prop where
  single : ∀ first second, (nodes first).Claims → (nodes second).Claims → first = second
  resync : ∀ id, (nodes id).phase.resyncs = true → (nodes id).role ≠ .leader

variable {nodes : Nodes}

theorem starts_orderly {leader} (starts : Starts leader nodes) : Orderly nodes where
  single first second left right := by
    have leads {id : Nat} (claims : (nodes id).Claims) : id = leader := by
      rcases claims with leads | promoting
      · exact starts.alone id leads
      · cases (starts.asleep id).symm.trans promoting
    rw [leads left, leads right]
  resync id resyncs := by
    rw [starts.asleep id] at resyncs
    cases resyncs

theorem NoRival.claims {id other} (noRival : NoRival nodes id) (claims : (nodes other).Claims) :
    other = id := by
  by_contra apart
  obtain ⟨follows, unelected⟩ := noRival other apart
  exact claims.elim follows unelected

variable (orderly : Orderly nodes)

include orderly

/-- A changed node may lead or be promoted if it was before, or if it has no rival. -/
theorem Orderly.update (id : Nat) (node : Node)
    (claims : node.Claims → (nodes id).Claims ∨ NoRival nodes id)
    (resync : node.phase.resyncs = true → node.role ≠ .leader) :
    Orderly (Function.update nodes id node) := by
  have changed {other : Nat} (now : (Function.update nodes id node other).Claims) :
      other = id ∧ node.Claims ∨ (nodes other).Claims := by
    by_cases same : other = id
    · rw [same, Function.update_self] at now
      exact .inl ⟨same, now⟩
    · rw [Function.update_of_ne same] at now
      exact .inr now
  have alone (now : node.Claims) {other : Nat} (before : (nodes other).Claims) : other = id := by
    rcases claims now with already | noRival
    · exact orderly.single other id before already
    · exact noRival.claims before
  constructor
  · intro first second left right
    rcases changed left with ⟨rfl, now⟩ | before
    · rcases changed right with ⟨rfl, -⟩ | also
      · rfl
      · exact (alone now also).symm
    · rcases changed right with ⟨rfl, now⟩ | also
      · exact alone now before
      · exact orderly.single first second before also
  · intro other resyncs
    by_cases same : other = id
    · rw [same, Function.update_self] at resyncs ⊢
      exact resync resyncs
    · rw [Function.update_of_ne same] at resyncs ⊢
      exact orderly.resync other resyncs

/-- Changing a node's phase to one that is no promotion and no resynchronisation. -/
theorem Orderly.rephase (id : Nat) (node : Node)
    (role : node.role = (nodes id).role) (status : node.status = (nodes id).status)
    (phase : node.phase ≠ .promoting ∧ node.phase.resyncs = false) :
    Orderly (Function.update nodes id node) := by
  apply orderly.update id node
  · rintro (leads | promoting)
    · rw [Node.Leads, role, status] at leads
      exact .inl (.inl leads)
    · exact absurd promoting phase.1
  · intro resyncs
    rw [phase.2] at resyncs
    cases resyncs

/-- A node whose role is not that of a leader may change in every way but a promotion. -/
theorem Orderly.follow (id : Nat) (node : Node)
    (role : node.role ≠ .leader) (phase : node.phase ≠ .promoting) :
    Orderly (Function.update nodes id node) := by
  apply orderly.update id node
  · rintro (leads | promoting)
    · exact absurd leads.1 role
    · exact absurd promoting phase
  · exact fun _ => role

/-! ### The steps -/

theorem begin_round_orderly (id : Nat) (peers : List String)
    (asleep : (nodes id).phase = .waiting) :
    Orderly (Function.update nodes id ((nodes id).beginRound id peers)) := by
  unfold Node.beginRound
  split
  · exact orderly.rephase id _ rfl rfl (by simp [asleep, MonitorPhase.resyncs])
  split
  · exact orderly.rephase id _ rfl rfl (by simp [asleep, MonitorPhase.resyncs])
  split
  next role => exact orderly.follow id _ (by simp [role]) (by simp)
  all_goals exact orderly.rephase id _ rfl rfl (by simp [MonitorPhase.resyncs])

theorem seek_orderly (id : Nat) (peer : String) (rest : List String)
    (response : Option StatusResponse) (phase : (nodes id).phase = .seeking (peer :: rest)) :
    Orderly (Function.update nodes id ((nodes id).seek id peer rest response)) := by
  have role : (nodes id).role ≠ .leader := orderly.resync id (by simp [phase, MonitorPhase.resyncs])
  have continued : Orderly (Function.update nodes id { nodes id with phase := .seeking rest }) :=
    orderly.follow id _ role (by simp)
  unfold Node.seek
  split
  · exact continued
  split
  · split
    · exact orderly.follow id _ role (by simp)
    · exact continued
  · exact continued

theorem guard_orderly (id : Nat) (peer : String) (rest : List String)
    (response : Option StatusResponse) :
    Orderly (Function.update nodes id ((nodes id).guard id peer rest response)) := by
  have continued : Orderly (Function.update nodes id { nodes id with phase := .guarding rest }) :=
    orderly.rephase id _ rfl rfl (by simp [MonitorPhase.resyncs])
  unfold Node.guard
  split
  · exact continued
  split
  · split
    · exact orderly.rephase id _ rfl rfl (by simp [MonitorPhase.resyncs])
    · exact continued
  · exact continued

theorem canvass_orderly (id : Nat) (rest : List String)
    (leaderFound : Bool) (aliveNodes : List Nat) (response : Option StatusResponse) :
    Orderly (Function.update nodes id
      ((nodes id).canvass rest leaderFound aliveNodes response)) := by
  unfold Node.canvass
  split
  · split <;> exact orderly.rephase id _ rfl rfl (by simp [MonitorPhase.resyncs])
  · exact orderly.rephase id _ rfl rfl (by simp [MonitorPhase.resyncs])

theorem end_round_orderly (id : Nat) (peers : List String)
    (leaderFound : Bool) (aliveNodes : List Nat)
    (safe : leaderFound = false →
      wins id peers (((nodes id).missedHeartbeats + 1) % 2 ^ 32) aliveNodes = true →
      NoRival nodes id) :
    Orderly (Function.update nodes id ((nodes id).endRound id peers leaderFound aliveNodes)) := by
  cases leaderFound with
  | true => exact orderly.rephase id _ rfl rfl (by simp [Node.endRound, MonitorPhase.resyncs])
  | false =>
    by_cases won : wins id peers (((nodes id).missedHeartbeats + 1) % 2 ^ 32) aliveNodes = true
    · simp only [Node.endRound, won, Bool.false_eq_true, ↓reduceIte]
      exact orderly.update id _ (fun _ => .inr (safe rfl won)) nofun
    · simp only [Node.endRound, won, Bool.false_eq_true, ↓reduceIte]
      exact orderly.rephase id _ rfl rfl (by simp [MonitorPhase.resyncs])

theorem repoint_orderly (id : Nat) (conninfo : String) :
    Orderly (Function.update nodes id ((nodes id).acceptRepoint id conninfo)) := by
  unfold Node.acceptRepoint
  split
  · simpa using orderly
  · exact orderly.update id _ .inl (orderly.resync id)

/-- One step keeps the cluster orderly if an election it decides is safe. -/
theorem step_orderly (safe : ElectsSafely cluster nodes label)
    (moved : step cluster nodes label = some next) : Orderly next := by
  have resting (id : Nat) (phase : MonitorPhase)
      (quiet : phase ≠ .promoting ∧ phase.resyncs = false) :
      Orderly (Function.update nodes id { nodes id with phase := phase }) :=
    orderly.rephase id _ rfl rfl quiet
  -- a label is taken in the phase that awaits it and refused elsewhere
  cases label with
  | tick id =>
    obtain ⟨woken, rfl⟩ := guard_holds moved
    exact begin_round_orderly orderly id _ woken.1
  | probe id answered =>
    simp only [step] at moved
    split at moved
    next phase =>
      cases moved
      exact seek_orderly orderly id _ _ _ phase
    · cases moved
      exact guard_orderly orderly id _ _ _
    · cases moved
      exact canvass_orderly orderly id _ _ _ _
    · cases moved
  | conclude id =>
    simp only [step] at moved
    split at moved
    case h_4 phase =>
      cases moved
      apply end_round_orderly orderly
      rintro rfl won
      simp only [ElectsSafely, phase] at safe
      exact safe won
    all_goals cases moved
    all_goals exact resting _ .waiting (by decide)
  | rejoined id ok =>
    simp only [step] at moved
    split at moved
    next phase =>
      cases moved
      have role := orderly.resync id (by simp [phase, MonitorPhase.resyncs])
      cases ok with
      | true | false => exact orderly.follow id _ role (by simp)
    · cases moved
  | settled id =>
    simp only [step] at moved
    split at moved
    all_goals cases moved
    exact orderly.follow id _ (by simp) (by simp)
  | statusFenced id =>
    simp only [step] at moved
    split at moved
    all_goals cases moved
    refine orderly.update id _ ?_ nofun
    rintro (leads | promoting)
    · cases leads.2
    · cases promoting
  | roleFenced id =>
    simp only [step] at moved
    split at moved
    all_goals cases moved
    exact orderly.follow id _ (by simp) (by simp)
  | promoted id ok =>
    simp only [step] at moved
    split at moved
    next phase =>
      cases moved
      cases ok with
      | true =>
        exact orderly.update id _ (fun _ => .inl (.inr phase)) (by simp [MonitorPhase.resyncs])
      | false => exact resting _ .waiting (by decide)
    · cases moved
  | broadcast id delivered =>
    simp only [step] at moved
    split at moved
    next rest _ =>
      have announced := resting id (.broadcasting rest) (by simp [MonitorPhase.resyncs])
      split at moved
      · cases moved
        exact announced
      split at moved
      all_goals cases moved
      · exact repoint_orderly announced _ _
      · exact announced
    · cases moved
  | repointed node position ok =>
    obtain ⟨conninfo, -, rfl⟩ := Option.map_eq_some_iff.mp moved
    cases ok with
    | true =>
      refine orderly.update node _ ?_ fun _ => by simp
      rintro (leads | promoting)
      · cases leads.1
      · exact .inl (.inr promoting)
    | false => exact orderly.update node _ .inl (orderly.resync node)

omit orderly

/-- In every run in which each election that is won finds the winner without a rival,
at most one node leads in every state reached. -/
theorem one_leader_when_elected_safely (cluster : Cluster) (leader : Nat) (start : Nodes)
    (labels : List Label) (nodes : Nodes) (starts : Starts leader start)
    (safely : Meets (step cluster) (ElectsSafely cluster) start labels)
    (reached : run (step cluster) start labels = some nodes) : AtMostOneLeader nodes := by
  have orderly : Orderly nodes :=
    run_invariant (step cluster) (ElectsSafely cluster) Orderly
      (fun _ _ _ before safe moved => step_orderly before safe moved)
      (starts_orderly starts) safely reached
  exact fun first second left right => orderly.single first second (.inl left) (.inl right)

/-! ### Three nodes -/

/-- The deployment of the compose files: three nodes that all list all three. -/
def threeNodes : Cluster where
  peers _ := ["http://pgvisor-node1:8080", "http://pgvisor-node2:8080", "http://pgvisor-node3:8080"]
  reaches peer :=
    if peer = "http://pgvisor-node1:8080" then some 1
    else if peer = "http://pgvisor-node2:8080" then some 2
    else if peer = "http://pgvisor-node3:8080" then some 3
    else none

/-- Node 1 leads, all servers run. -/
def firstLeads : Nodes := fun id =>
  { role := if id = 1 then .leader else .standby
    status := .running
    primaryConninfo := if id = 1 then none else some (conninfoOf 1 id)
    missedHeartbeats := 0
    phase := .waiting
    repoints := [] }

theorem first_leads_starts : Starts 1 firstLeads where
  leads := by decide
  alone id leads := by
    by_contra other
    simp [Node.Leads, firstLeads, other] at leads
  asleep _ := rfl
  unasked _ := rfl

/-- A round of node 2 in which the probe of node 1 has the given fate. -/
def secondRound (heard : Bool) : List Label :=
  [.tick 2, .probe 2 heard, .probe 2 true, .probe 2 true, .conclude 2]

/-- Five rounds in which node 2 hears from itself and node 3 only elect it beside the
running leader. -/
theorem partition_elects_second : ∃ nodes, run (step threeNodes) firstLeads
        ((List.replicate 5 (secondRound false)).flatten ++ [.promoted 2 true]) = some nodes ∧
      (nodes 1).Leads ∧ (nodes 2).Leads ∧ ¬ AtMostOneLeader nodes := by
  obtain ⟨nodes, reached, first, second⟩ : ∃ nodes, run (step threeNodes) firstLeads
      ((List.replicate 5 (secondRound false)).flatten ++ [.promoted 2 true]) = some nodes ∧
        (nodes 1).Leads ∧ (nodes 2).Leads := by decide +kernel
  exact ⟨nodes, reached, first, second, fun single => nomatch single 1 2 first second⟩

/-- The node that takes the step. -/
def Label.node : Label → Nat
  | .tick id | .probe id _ | .conclude id | .rejoined id _ | .settled id | .statusFenced id
  | .roleFenced id | .promoted id _ | .broadcast id _ | .repointed id _ _ => id

/-- A step changes no node but its own and those that an address reaches. -/
theorem step_elsewhere {other : Nat} (moved : step cluster nodes label = some next)
    (apart : other ≠ label.node) (unreached : ∀ peer, cluster.reaches peer ≠ some other) :
    next other = nodes other := by
  have unchanged (node : Node) : Function.update nodes label.node node other = nodes other :=
    Function.update_of_ne apart _ _
  cases label with
  | broadcast id delivered =>
    simp only [step] at moved
    split at moved
    · split at moved
      · cases moved
        exact unchanged _
      split at moved
      next target reaches =>
        cases moved
        have foreign : other ≠ target := fun same => unreached _ (same ▸ reaches)
        rw [Function.update_of_ne foreign]
        exact unchanged _
      · cases moved
        exact unchanged _
    · cases moved
  | repointed id position ok =>
    obtain ⟨conninfo, -, rfl⟩ := Option.map_eq_some_iff.mp moved
    exact unchanged _
  | _ =>
    simp only [step] at moved
    split at moved
    all_goals cases moved
    all_goals exact unchanged _

/-- A test that an election which is won finds no rival among the first nodes. -/
def electsAmong (bound : Nat) (cluster : Cluster) (nodes : Nodes) : Label → Bool
  | .conclude id =>
    match (nodes id).phase with
    | .canvassing [] false aliveNodes =>
      !wins id (cluster.peers id) (((nodes id).missedHeartbeats + 1) % 2 ^ 32) aliveNodes ||
        (List.range bound).all fun other =>
          other == id || !decide (nodes other).Leads && (nodes other).phase != .promoting
    | _ => true
  | _ => true

theorem elects_safely_among {bound : Nat} (checked : electsAmong bound cluster nodes label = true)
    (idle : ∀ other ≥ bound, ¬ (nodes other).Leads ∧ (nodes other).phase ≠ .promoting) :
    ElectsSafely cluster nodes label := by
  cases label with
  | conclude id =>
    simp only [ElectsSafely]
    split
    next phase =>
      intro won other distinct
      by_cases near : other < bound
      · simp only [electsAmong, phase, won, Bool.not_true, Bool.false_or] at checked
        have tested := List.all_eq_true.mp checked other (List.mem_range.mpr near)
        simpa [distinct] using tested
      · exact idle other (Nat.le_of_not_lt near)
    · trivial
  | _ => trivial

/-- The three nodes with the first one listed by an address without its name. -/
def aliasedNodes : Cluster where
  peers _ := ["http://10.0.0.1:8080", "http://pgvisor-node2:8080", "http://pgvisor-node3:8080"]
  reaches peer := if peer = "http://10.0.0.1:8080" then some 1 else threeNodes.reaches peer

theorem aliased_reaches {peer : String} {id : Nat} (reaches : aliasedNodes.reaches peer = some id) :
    id < 4 := by
  simp only [aliasedNodes, threeNodes] at reaches
  split at reaches
  all_goals grind

/-- Node 1 hears itself, takes itself for a second leader and fences itself. -/
def fencesItself : List Label := [.tick 1, .probe 1 true, .statusFenced 1, .roleFenced 1]

/-- After that node 2 is elected without a rival. -/
theorem elected_after_fencing : ∃ nodes, run (step aliasedNodes) firstLeads
        (fencesItself ++ (List.replicate 5 (secondRound true)).flatten ++ [.promoted 2 true]) =
          some nodes ∧ (nodes 2).Leads ∧ AtMostOneLeader nodes := by
  obtain ⟨nodes, reached, leads⟩ : ∃ nodes, run (step aliasedNodes) firstLeads
      (fencesItself ++ (List.replicate 5 (secondRound true)).flatten ++ [.promoted 2 true]) =
        some nodes ∧ (nodes 2).Leads := by
    decide +kernel
  refine ⟨nodes, reached, leads, one_leader_when_elected_safely aliasedNodes 1 firstLeads _ nodes
    first_leads_starts ?_ reached⟩
  refine meets_of_invariant (step aliasedNodes)
    (fun nodes label => label.node < 4 ∧ electsAmong 4 aliasedNodes nodes label = true) _
    (fun nodes => ∀ other ≥ 4, nodes other = firstLeads other) ?_ ?_ (fun _ _ => rfl)
    (by decide +kernel)
  · intro nodes label next same ⟨named, _⟩ moved other far
    rw [step_elsewhere moved (by omega) fun peer reaches => ?_, same other far]
    exact absurd (aliased_reaches reaches) (by omega)
  · intro nodes label same ⟨_, checked⟩
    apply elects_safely_among checked
    intro other far
    rw [same other far]
    exact ⟨fun led => by simp [Node.Leads, firstLeads, show other ≠ 1 by omega] at led, nofun⟩

end PgVisor.Election
