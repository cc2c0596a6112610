import Mathlib.Data.List.Sort
import Mathlib.Data.List.Destutter
import PgVisor.Text
import PgVisor.Transitions

/-!
# Election monitors

Each sidecar runs a monitor that wakes up, looks at its own role and status, and probes
its peers one after the other. A leader looks for a second leader and fences itself, a
fenced node looks for a leader to rejoin, and a standby counts the rounds in which no
leader answered and promotes itself when it has counted five of them, a quorum answered
and no answer came from a smaller id. A new leader asks its peers to follow it.

The monitors run side by side. A step is one probe, one decision or the end of one
command; any probe or request may be lost, and an answer shows the asked node at that
moment. The outcome of the commands that promote, resynchronise or re-point a server is
free. Event records and log lines are left out, as are control requests from elsewhere.
-/

namespace PgVisor.Election

open Text

inductive NodeRole where
  | leader
  | standby
  | fenced
deriving DecidableEq, Repr

/-- Status of the supervised server process. -/
inductive ProcessStatus where
  | stopped
  | running
  | fenced
  | restoring
deriving DecidableEq, Repr

/-- What a node answers to a status probe, as far as monitors read it. -/
structure StatusResponse where
  nodeId : Nat
  role : NodeRole
  status : ProcessStatus
deriving DecidableEq

/-- Where a monitor is in its round. `seeking`, `guarding` and `canvassing` are the
probe loops of a fenced node, a leader and a standby. -/
inductive MonitorPhase where
  | waiting
  | seeking (remaining : List String)
  | rejoining (conninfo : String)
  | settling (conninfo : String)
  | guarding (remaining : List String)
  | alarmed
  | fencing
  | canvassing (remaining : List String) (leaderFound : Bool) (aliveNodes : List Nat)
  | promoting
  | broadcasting (remaining : List String)
deriving DecidableEq

/-- One sidecar. `repoints` holds the re-point requests it has accepted and not finished. -/
structure Node where
  role : NodeRole
  status : ProcessStatus
  primaryConninfo : Option String
  missedHeartbeats : Nat
  phase : MonitorPhase
  repoints : List String
deriving DecidableEq

/-- The configured peers of each node, and the node a peer address leads to. -/
structure Cluster where
  peers : Nat → List String
  reaches : String → Option Nat

abbrev Nodes := Nat → Node

inductive Label where
  | tick (id : Nat)
  | probe (id : Nat) (answered : Bool)
  | conclude (id : Nat)
  | rejoined (id : Nat) (ok : Bool)
  | settled (id : Nat)
  | statusFenced (id : Nat)
  | roleFenced (id : Nat)
  | promoted (id : Nat) (ok : Bool)
  | broadcast (id : Nat) (delivered : Bool)
  | repointed (id : Nat) (position : Nat) (ok : Bool)
deriving DecidableEq

/-- The name a node looks for in an address to recognise itself. -/
def selfTag (id : Nat) : List Char := "node".toList ++ (toString id).toList

/-- The self test of the probe loops. -/
def skipsProbe (id : Nat) (peer : String) : Bool := contains (selfTag id) peer.toList

/-- The self test of the broadcast. -/
def skipsRepoint (id : Nat) (peer : String) : Bool :=
  contains (selfTag id ++ [':']) peer.toList || (selfTag id).isSuffixOf peer.toList

/-- The answer to a probe, if it is not lost. -/
def answer (cluster : Cluster) (nodes : Nodes) (peer : String) (answered : Bool) :
    Option StatusResponse :=
  if answered then
    (cluster.reaches peer).map fun id =>
      { nodeId := id, role := (nodes id).role, status := (nodes id).status }
  else none

def StatusResponse.isActiveLeader (response : StatusResponse) : Bool :=
  decide (response.role = .leader) && decide (response.status = .running)

/-- The start of a round: which branch the node's own status and role select. -/
def Node.beginRound (node : Node) (id : Nat) (peers : List String) : Node :=
  if node.status = .restoring then { node with missedHeartbeats := 0 }
  else if node.status = .stopped ∧ node.role ≠ .fenced then { node with missedHeartbeats := 0 }
  else
    match node.role with
    | .fenced => { node with phase := .seeking peers }
    | .leader => { node with phase := .guarding peers }
    | .standby => { node with phase := .canvassing peers false [id] }

/-- Connection string towards a leader. -/
def conninfoOf (leader id : Nat) : String :=
  "host=pgvisor-node" ++ toString leader ++
    " port=5432 user=postgres application_name=pgvisor-node" ++ toString id

/-- A fenced node that found a leader starts to resynchronise from it. -/
def Node.seek (node : Node) (id : Nat) (peer : String) (rest : List String)
    (response : Option StatusResponse) : Node :=
  if skipsProbe id peer then { node with phase := .seeking rest }
  else
    match response with
    | some st =>
      if st.isActiveLeader then
        { node with status := .restoring, phase := .rejoining (conninfoOf st.nodeId id) }
      else { node with phase := .seeking rest }
    | none => { node with phase := .seeking rest }

/-- A leader that found a second one is going to fence its server: the status is set next,
the role once the server has been stopped. -/
def Node.guard (node : Node) (id : Nat) (peer : String) (rest : List String)
    (response : Option StatusResponse) : Node :=
  if skipsProbe id peer then { node with phase := .guarding rest }
  else
    match response with
    | some st =>
      if st.isActiveLeader then { node with phase := .alarmed }
      else { node with phase := .guarding rest }
    | none => { node with phase := .guarding rest }

/-- A standby notes who is alive and whether one of them is the leader. -/
def Node.canvass (node : Node) (rest : List String) (leaderFound : Bool)
    (aliveNodes : List Nat) (response : Option StatusResponse) : Node :=
  match response with
  | some st =>
    if st.status = .running ∨ st.status = .restoring then
      { node with
        phase := .canvassing rest (leaderFound || decide (st.role = .leader))
          (aliveNodes ++ [st.nodeId]) }
    else { node with phase := .canvassing rest leaderFound aliveNodes }
  | none => { node with phase := .canvassing rest leaderFound aliveNodes }

/-- The nodes that answered, in increasing order and without repetition. -/
def electorate (aliveNodes : List Nat) : List Nat :=
  (aliveNodes.insertionSort (· ≤ ·)).destutter (· ≠ ·)

/-- Whether a standby that missed the leader once more is elected. -/
def wins (id : Nat) (peers : List String) (missed : Nat) (aliveNodes : List Nat) : Bool :=
  decide (5 ≤ missed) && decide (peers.length / 2 + 1 ≤ (electorate aliveNodes).length) &&
    decide ((electorate aliveNodes).head? = some id)

/-- The decision at the end of a standby's round. -/
def Node.endRound (node : Node) (id : Nat) (peers : List String) (leaderFound : Bool)
    (aliveNodes : List Nat) : Node :=
  if leaderFound then { node with missedHeartbeats := 0, phase := .waiting }
  else
    let missed := (node.missedHeartbeats + 1) % 2 ^ 32
    if wins id peers missed aliveNodes then
      { node with missedHeartbeats := missed, phase := .promoting }
    else { node with missedHeartbeats := missed, phase := .waiting }

/-- A re-point request arrives: a running leader ignores it. -/
def Node.acceptRepoint (node : Node) (id : Nat) (conninfo : String) : Node :=
  if node.role = .leader ∧ node.status = .running then node
  else
    let target :=
      if contains "application_name=".toList conninfo.toList then conninfo
      else conninfo ++ " application_name=pgvisor-node" ++ toString id
    { node with repoints := node.repoints ++ [target] }

/-- The connection string a new leader announces. -/
def announcement (id : Nat) : String :=
  "host=pgvisor-node" ++ toString id ++ " port=5432 user=postgres"

/-- One step of the cluster. -/
def step (cluster : Cluster) (nodes : Nodes) (label : Label) : Option Nodes :=
  match label with
  | .tick id =>
    let node := nodes id
    if node.phase = .waiting ∧ cluster.peers id ≠ [] then
      some (Function.update nodes id (node.beginRound id (cluster.peers id)))
    else none
  | .probe id answered =>
    let node := nodes id
    match node.phase with
    | .seeking (peer :: rest) =>
      some (Function.update nodes id (node.seek id peer rest (answer cluster nodes peer answered)))
    | .guarding (peer :: rest) =>
      some (Function.update nodes id (node.guard id peer rest (answer cluster nodes peer answered)))
    | .canvassing (peer :: rest) leaderFound aliveNodes =>
      some (Function.update nodes id
        (node.canvass rest leaderFound aliveNodes (answer cluster nodes peer answered)))
    | _ => none
  | .conclude id =>
    let node := nodes id
    match node.phase with
    | .seeking [] => some (Function.update nodes id { node with phase := .waiting })
    | .guarding [] => some (Function.update nodes id { node with phase := .waiting })
    | .broadcasting [] => some (Function.update nodes id { node with phase := .waiting })
    | .canvassing [] leaderFound aliveNodes =>
      some (Function.update nodes id (node.endRound id (cluster.peers id) leaderFound aliveNodes))
    | _ => none
  | .rejoined id ok =>
    let node := nodes id
    match node.phase with
    | .rejoining conninfo =>
      some (Function.update nodes id
        (if ok then { node with status := .running, phase := .settling conninfo }
        else { node with status := .fenced, phase := .waiting }))
    | _ => none
  | .settled id =>
    let node := nodes id
    match node.phase with
    | .settling conninfo =>
      some (Function.update nodes id { node with
          role := .standby
          primaryConninfo := some conninfo
          missedHeartbeats := 0
          phase := .waiting })
    | _ => none
  | .statusFenced id =>
    let node := nodes id
    match node.phase with
    | .alarmed => some (Function.update nodes id { node with status := .fenced, phase := .fencing })
    | _ => none
  | .roleFenced id =>
    let node := nodes id
    match node.phase with
    | .fencing => some (Function.update nodes id { node with role := .fenced, phase := .waiting })
    | _ => none
  | .promoted id ok =>
    let node := nodes id
    match node.phase with
    | .promoting =>
      some (Function.update nodes id
        (if ok then
          { node with
            role := .leader
            primaryConninfo := none
            missedHeartbeats := 0
            phase := .broadcasting (cluster.peers id) }
        else { node with phase := .waiting }))
    | _ => none
  | .broadcast id delivered =>
    let node := nodes id
    match node.phase with
    | .broadcasting (peer :: rest) =>
      let moved := Function.update nodes id { node with phase := .broadcasting rest }
      if skipsRepoint id peer || !delivered then some moved
      else
        match cluster.reaches peer with
        | some target =>
          some (Function.update moved target
            ((moved target).acceptRepoint target (announcement id)))
        | none => some moved
    | _ => none
  | .repointed id position ok =>
    let node := nodes id
    node.repoints[position]?.map fun conninfo =>
      let finished := { node with repoints := node.repoints.eraseIdx position }
      Function.update nodes id
        (if ok then { finished with role := .standby, primaryConninfo := some conninfo }
        else finished)

end PgVisor.Election
