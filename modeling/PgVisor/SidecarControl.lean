import PgVisor.Supervisor

/-!
# The control requests of a sidecar

A sidecar keeps the node's role and the configuration its server is started with beside
the supervisor. Requests from the proxy and from peers, and the ticks of the node's own
election monitor, change all three. They are tasks on the state of the sidecar; a section
that holds the role and the configuration is one action, since every writer of both takes
the two locks in the same order and holds the first until it is done.

The role is read from the environment at start; the three names the code compares with are
modelled. Left out are log lines and what is read only for them, the time of an event, the
authorisation of requests, the backup lock, and the requests that only read logs, files or
events.
-/

namespace PgVisor.Sidecar

open AwaitTasks Text
open Election (NodeRole ProcessStatus StatusResponse)

structure SidecarEventRecord where
  id : Nat
  kind : String
  detail : String
deriving DecidableEq

/-- The state of a sidecar; `missedHeartbeats` belongs to the election monitor. -/
structure SidecarState where
  supervisor : PostgresSupervisor
  config : PostgresConfig
  role : NodeRole
  events : List SidecarEventRecord
  eventId : Nat
  missedHeartbeats : Nat

abbrev Control := Async SidecarState Outcome

/-- The errors of the control requests, each rendered as a status code and a text. -/
inductive ControlError where
  | promotionFailed (err : SupervisorError)
  | fencingFailed (err : SupervisorError)
  | demotionFailed (err : SupervisorError)
  | repointFailed (err : SupervisorError)
  | targetInFuture (target now : String)
  | storageNotConfigured
  | snapshotUnavailable (snapshotId reason : String)
  | restoreFailed (err : SupervisorError)
  | noPrimary
  | resyncFailed (err : SupervisorError)
  | rejoinFailed (err : SupervisorError)
  | startFailed (err : SupervisorError)
  | notReady (err : SupervisorError)
  | alreadyRunning (nodeId : Nat)
  | alreadyStopped (nodeId : Nat)
  | stopFailed (err : SupervisorError)
  | restartFailed (err : SupervisorError)
deriving DecidableEq

def ControlError.statusCode : ControlError → Nat
  | .targetInFuture _ _ | .noPrimary | .alreadyRunning _ | .alreadyStopped _ => 400
  | .snapshotUnavailable _ _ => 404
  | .storageNotConfigured => 503
  | _ => 500

def ControlError.text : ControlError → String
  | .promotionFailed err => "Promotion failed: " ++ err.display
  | .fencingFailed err => "Fencing failed: " ++ err.display
  | .demotionFailed err => "Demotion failed: " ++ err.display
  | .repointFailed err => "Repoint failed: " ++ err.display
  | .targetInFuture target now =>
    "Recovery target timestamp (" ++ target ++ ") cannot be in the future. " ++
      "Current cluster time is " ++ now ++ "."
  | .storageNotConfigured => "BackupManager is not configured on this sidecar node"
  | .snapshotUnavailable snapshotId reason =>
    "Failed to fetch snapshot " ++ snapshotId ++ ": " ++ reason
  | .restoreFailed err => "Failed to restore from snapshot: " ++ err.display
  | .noPrimary => "No primary_conninfo provided or configured on this node"
  | .resyncFailed err => "Failed to re-sync standby: " ++ err.display
  | .rejoinFailed err => "Failed to re-sync standby from primary: " ++ err.display
  | .startFailed err => "Start failed: " ++ err.display
  | .notReady err => "Postgres not ready after start: " ++ err.display
  | .alreadyRunning nodeId => "Node " ++ toString nodeId ++ " is already running"
  | .alreadyStopped nodeId => "Node " ++ toString nodeId ++ " is already stopped"
  | .stopFailed err => "Stop failed: " ++ err.display
  | .restartFailed err => "Restart failed: " ++ err.display

/-- The fields of a successful answer beside its status. -/
structure ControlReply where
  message : String
  nodeId : Option Nat := none
  role : Option NodeRole := none
  statusStr : Option ProcessStatus := none
  snapshotId : Option String := none
deriving DecidableEq

abbrev ControlResult := Except ControlError ControlReply

/-! ### Actions on the state -/

def supervisorPart : Part SidecarState PostgresSupervisor where
  get := SidecarState.supervisor
  set state supervisor := { state with supervisor := supervisor }
  get_set _ _ := rfl
  set_set _ _ _ := rfl
  set_get _ := rfl

/-- A method of the supervisor. -/
def onSupervisor {α : Type} (task : Supervision α) : Control α := task.zoom supervisorPart id

def readRole : Control NodeRole := .access fun state _ => (state, state.role)

def readConfig : Control PostgresConfig := .access fun state _ => (state, state.config)

def setRole (role : NodeRole) : Control Unit :=
  .access fun state _ => ({ state with role := role }, ())

/-- The configured connection to a primary. -/
def storeConninfo (conninfo : Option String) : Control Unit :=
  .access fun state _ =>
    ({ state with config := { state.config with primaryConninfo := conninfo } }, ())

/-- Role and connection written under both locks. -/
def becomeLeader : Control Unit :=
  .access fun state _ =>
    ({ state with
        role := .leader
        config := { state.config with primaryConninfo := none } }, ())

def becomeStandby (conninfo : String) : Control Unit :=
  .access fun state _ =>
    ({ state with
        role := .standby
        config := { state.config with primaryConninfo := some conninfo } }, ())

def setMissed (missed : Nat) : Control Unit :=
  .access fun state _ => ({ state with missedHeartbeats := missed }, ())

/-- `record_event`: the number is drawn first, and the oldest of 200 events gives way. -/
def recordEvent (kind detail : String) : Control Unit := do
  let id ← .access fun state _ => ({ state with eventId := state.eventId + 1 }, state.eventId)
  .access fun state _ =>
    let kept := if 200 ≤ state.events.length then state.events.tail else state.events
    ({ state with events := kept ++ [{ id := id, kind := kind, detail := detail }] }, ())

/-- A status probe of a peer. -/
def probe : Control (Option StatusResponse) := .access fun state outcome => (state, outcome.reply)

/-- A connection string names the application of the node that uses it. -/
def withApplicationName (nodeId : Nat) (conninfo : String) : String :=
  if contains "application_name=".toList conninfo.toList then conninfo
  else conninfo ++ " application_name=pgvisor-node" ++ toString nodeId

def nodeName (setup : Setup) : String := "Node " ++ toString setup.nodeId

/-! ### Requests -/

/-- The promotion shared by the request and the monitor. -/
def promoteNode (detail : String) : Control (Except SupervisorError Unit) := do
  match ← onSupervisor promote with
  | .error err => return .error err
  | .ok () =>
    becomeLeader
    recordEvent "election_result" detail
    return .ok ()

def handlePromote (setup : Setup) : Control ControlResult := do
  let message := nodeName setup ++ " successfully promoted to leader"
  match ← promoteNode message with
  | .error err => return .error (.promotionFailed err)
  | .ok () =>
    return .ok { message := message, nodeId := some setup.nodeId, role := some .leader }

def handleFence (setup : Setup) : Control ControlResult := do
  match ← onSupervisor fence with
  | .error err => return .error (.fencingFailed err)
  | .ok () =>
    setRole .fenced
    let message := nodeName setup ++ " fenced immediately"
    recordEvent "election_result" message
    return .ok { message := message, nodeId := some setup.nodeId, role := some .fenced }

def handleDemote (setup : Setup) : Control ControlResult := do
  match ← onSupervisor stop with
  | .error err => return .error (.demotionFailed err)
  | .ok () =>
    onSupervisor (setStatus .fenced)
    setRole .fenced
    recordEvent "election_result" (nodeName setup ++ " demoted and stopped cleanly")
    return .ok
      { message := nodeName setup ++ " successfully demoted and stopped cleanly"
        nodeId := some setup.nodeId
        role := some .fenced }

/-- The part of `handle_repoint` after its check. -/
def repointNode (setup : Setup) (conninfo : String) : Control ControlResult := do
  let target := withApplicationName setup.nodeId conninfo
  match ← onSupervisor (repointPrimary target) with
  | .error err => return .error (.repointFailed err)
  | .ok () =>
    becomeStandby target
    let message := nodeName setup ++ " re-pointed to " ++ conninfo
    recordEvent "node_joined" message
    return .ok { message := message, nodeId := some setup.nodeId, role := some .standby }

/-- A running leader ignores the request. -/
def handleRepoint (setup : Setup) (conninfo : String) : Control ControlResult := do
  let role ← readRole
  let status ← onSupervisor readStatus
  if role = .leader ∧ status = .running then
    return .ok
      { message := "Node is leader, ignoring repoint"
        nodeId := some setup.nodeId
        role := some .leader }
  else repointNode setup conninfo

/-- The check of the target time: an instant more than ten seconds ahead is refused. -/
def refuseTarget (setup : Setup) (target : Option String) : Control (Option ControlError) := do
  let now ← .access fun state outcome => (state, outcome.now)
  match target with
  | none => return none
  | some text =>
    let trimmed := trim text.toList
    if trimmed = [] then return none
    else
      match setup.parseTarget (String.ofList trimmed) with
      | none => return none
      | some instant =>
        if now + 10 * 10 ^ 9 < instant then
          return some (.targetInFuture (setup.formatUtc instant) (setup.formatUtc now))
        else return none

/-- The part of `handle_restore` after the archive has been fetched. -/
def restoreNode (setup : Setup) (snapshotId : String) (target : Option String)
    (archive : TarArchive) : Control ControlResult := do
  onSupervisor (setStatus .restoring)
  becomeLeader
  let config ← readConfig
  match ← onSupervisor
      (restoreFromSnapshot setup archive { config with primaryConninfo := none } target) with
  | .error err => return .error (.restoreFailed err)
  | .ok () =>
    return .ok
      { message := "Snapshot " ++ snapshotId ++ " restored and PostgreSQL ready"
        snapshotId := some snapshotId }

def handleRestore (setup : Setup) (snapshotId : String) (target : Option String) :
    Control ControlResult := do
  match ← refuseTarget setup target with
  | some err => return .error err
  | none =>
    if setup.hasStorage then
      let fetched ← .access fun state outcome => (state, outcome.snapshot)
      match fetched with
      | .error reason => return .error (.snapshotUnavailable snapshotId reason)
      | .ok archive => restoreNode setup snapshotId target archive
    else return .error .storageNotConfigured

def handlePrepareRestore (setup : Setup) : Control ControlResult := do
  onSupervisor (setStatus .restoring)
  recordEvent "cluster_restore" (nodeName setup ++ " entered Restoring state for cluster restore")
  return .ok
    { message := nodeName setup ++ " prepared for restore"
      nodeId := some setup.nodeId
      statusStr := some .restoring }

def handleCancelRestore (setup : Setup) : Control ControlResult := do
  let running ← onSupervisor isRunning
  let status : ProcessStatus := if running then .running else .stopped
  onSupervisor (setStatus status)
  return .ok
    { message := nodeName setup ++ " restoring state cancelled"
      nodeId := some setup.nodeId
      statusStr := some status }

/-- The part of `handle_resync` after a connection string has been found. -/
def resyncNode (setup : Setup) (conninfo : String) : Control ControlResult := do
  storeConninfo (some conninfo)
  let config ← readConfig
  match ← onSupervisor (resyncFromPrimary setup conninfo config) with
  | .error err => return .error (.resyncFailed err)
  | .ok () =>
    setRole .standby
    return .ok { message := "Standby re-synced successfully and PostgreSQL ready" }

def handleResync (setup : Setup) (given : Option String) : Control ControlResult := do
  onSupervisor (setStatus .restoring)
  let config ← readConfig
  match given <|> config.primaryConninfo with
  | none => return .error .noPrimary
  | some conninfo => resyncNode setup (withApplicationName setup.nodeId conninfo)

/-- Probe the peers in order, but for those that carry the node's own name, and take the
first that answers as asked for. -/
def findLeader (setup : Setup) (wanted : StatusResponse → Bool) :
    List String → Control (Option (Nat × String))
  | [] => return none
  | peer :: rest =>
    if Election.skipsProbe setup.nodeId peer then findLeader setup wanted rest
    else do
      match ← probe with
      | none => findLeader setup wanted rest
      | some st =>
        if wanted st then
          return some (st.nodeId, Election.conninfoOf st.nodeId setup.nodeId)
        else findLeader setup wanted rest

/-- A leader that runs or is being restored. -/
def leadsOrRestores (st : StatusResponse) : Bool :=
  decide (st.role = .leader) && (decide (st.status = .running) || decide (st.status = .restoring))

/-- `start`, then up to fifteen rounds of waiting. -/
def startStandby (setup : Setup) (config : PostgresConfig) :
    Supervision (Except SupervisorError Unit) := do
  match ← start setup config with
  | .error err => return .error err
  | .ok () => waitReady 15

/-- Start as a standby of the leader that was found, by a resync if need be. -/
def startBehind (setup : Setup) (conninfo : String) : Control (Except ControlError Unit) := do
  let _ ← onSupervisor (repointPrimary conninfo)
  becomeStandby conninfo
  let config ← readConfig
  match ← onSupervisor (startStandby setup config) with
  | .ok () => return .ok ()
  | .error _ =>
    match ← onSupervisor (resyncFromPrimary setup conninfo config) with
    | .error err => return .error (.rejoinFailed err)
    | .ok () => return .ok ()

/-- Start with the stored configuration. -/
def startAlone (setup : Setup) : Control (Except ControlError Unit) := do
  let config ← readConfig
  match ← onSupervisor (start setup config) with
  | .error err => return .error (.startFailed err)
  | .ok () =>
    match ← onSupervisor (waitReady 30) with
    | .error err => return .error (.notReady err)
    | .ok () => return .ok ()

/-- `start_postgres_safely`. -/
def startPostgresSafely (setup : Setup) : Control (Except ControlError Unit) := do
  match ← findLeader setup leadsOrRestores setup.peers with
  | some (_, conninfo) => startBehind setup conninfo
  | none => startAlone setup

def handleStart (setup : Setup) : Control ControlResult := do
  let status ← onSupervisor readStatus
  if status = .running then return .error (.alreadyRunning setup.nodeId)
  else
    match ← startPostgresSafely setup with
    | .error err => return .error err
    | .ok () =>
      let message := nodeName setup ++ " started successfully"
      recordEvent "node_up" message
      return .ok { message := message, nodeId := some setup.nodeId }

def handleStop (setup : Setup) : Control ControlResult := do
  let status ← onSupervisor readStatus
  if status = .stopped then return .error (.alreadyStopped setup.nodeId)
  else
    match ← onSupervisor stop with
    | .error err => return .error (.stopFailed err)
    | .ok () =>
      let message := nodeName setup ++ " stopped cleanly"
      recordEvent "node_down" message
      return .ok { message := message, nodeId := some setup.nodeId }

def handleRestart (setup : Setup) : Control ControlResult := do
  match ← onSupervisor stop with
  | .error err => return .error (.restartFailed err)
  | .ok () =>
    match ← startPostgresSafely setup with
    | .error err => return .error err
    | .ok () =>
      let message := nodeName setup ++ " restarted successfully"
      recordEvent "node_up" message
      return .ok { message := message, nodeId := some setup.nodeId }

inductive ControlRequest where
  | promote
  | fence
  | demote
  | repoint (conninfo : String)
  | restore (snapshotId : String) (target : Option String)
  | prepareRestore
  | cancelRestore
  | resync (conninfo : Option String)
  | start
  | stop
  | restart
deriving DecidableEq

def handle (setup : Setup) : ControlRequest → Control ControlResult
  | .promote => handlePromote setup
  | .fence => handleFence setup
  | .demote => handleDemote setup
  | .repoint conninfo => handleRepoint setup conninfo
  | .restore snapshotId target => handleRestore setup snapshotId target
  | .prepareRestore => handlePrepareRestore setup
  | .cancelRestore => handleCancelRestore setup
  | .resync conninfo => handleResync setup conninfo
  | .start => handleStart setup
  | .stop => handleStop setup
  | .restart => handleRestart setup

/-! ### The election monitor -/

/-- A fenced node rejoins behind a running leader. -/
def rejoin (setup : Setup) : Control (Except SupervisorError Unit) := do
  match ← findLeader setup StatusResponse.isActiveLeader setup.peers with
  | none => return .ok ()
  | some (leaderId, conninfo) =>
    let config ← readConfig
    match ← onSupervisor (resyncFromPrimary setup conninfo
        { config with primaryConninfo := some conninfo }) with
    | .error err => return .error err
    | .ok () =>
      becomeStandby conninfo
      recordEvent "node_joined" (nodeName setup ++
        " auto-rejoined cluster as standby under leader " ++ toString leaderId)
      setMissed 0
      return .ok ()

/-- A leader that sees a second one fences its server. -/
def guardLeadership (setup : Setup) : Control (Except SupervisorError Unit) := do
  match ← findLeader setup StatusResponse.isActiveLeader setup.peers with
  | none => return .ok ()
  | some _ =>
    let _ ← onSupervisor fence
    setRole .fenced
    recordEvent "election_result"
      (nodeName setup ++ " fenced due to split-brain leader detection")
    return .ok ()

/-- A standby asks every peer, itself included, who is alive and who leads. -/
def canvass : List String → Bool → List Nat → Control (Bool × List Nat)
  | [], leaderFound, aliveNodes => return (leaderFound, aliveNodes)
  | _ :: rest, leaderFound, aliveNodes => do
    match ← probe with
    | none => canvass rest leaderFound aliveNodes
    | some st =>
      if st.status = .running ∨ st.status = .restoring then
        canvass rest (leaderFound || decide (st.role = .leader)) (aliveNodes ++ [st.nodeId])
      else canvass rest leaderFound aliveNodes

/-- The winner of an election promotes itself. The requests it then sends to its peers change
nothing here. -/
def winElection (setup : Setup) : Control (Except SupervisorError Unit) := do
  match ← promoteNode (nodeName setup ++ " auto-promoted to leader after quorum election") with
  | .error err => return .error err
  | .ok () =>
    setMissed 0
    return .ok ()

/-- A standby that has missed the leader often enough may win. -/
def campaign (setup : Setup) : Control (Except SupervisorError Unit) := do
  let (leaderFound, aliveNodes) ← canvass setup.peers false [setup.nodeId]
  if leaderFound then
    setMissed 0
    return .ok ()
  else
    let missed ← .access fun state _ =>
      let missed := (state.missedHeartbeats + 1) % 2 ^ 32
      ({ state with missedHeartbeats := missed }, missed)
    if Election.wins setup.nodeId setup.peers missed aliveNodes then winElection setup
    else return .ok ()

/-- One round of the monitor's loop. -/
def monitorTick (setup : Setup) : Control (Except SupervisorError Unit) := do
  let status ← onSupervisor readStatus
  if status = .restoring then
    setMissed 0
    return .ok ()
  else
    let role ← readRole
    if status = .stopped ∧ role ≠ .fenced then
      setMissed 0
      return .ok ()
    else
      match role with
      | .fenced => rejoin setup
      | .leader => guardLeadership setup
      | .standby => campaign setup

/-! ### One activity after the other -/

/-- What a sidecar does: a request, or a tick of its monitor. -/
inductive Activity where
  | request (request : ControlRequest)
  | tick
deriving DecidableEq

/-- How an activity ended. -/
inductive Response where
  | answered (result : ControlResult)
  | ticked (result : Except SupervisorError Unit)

def perform (setup : Setup) : Activity → Control Response
  | .request request => do return .answered (← handle setup request)
  | .tick => do return .ticked (← monitorTick setup)

/-- An activity with the answers it gets from outside. -/
structure Episode where
  activity : Activity
  outcomes : Nat → Outcome

def Episode.exec (setup : Setup) (state : SidecarState) (episode : Episode) :
    SidecarState × Response :=
  (perform setup episode.activity).exec state episode.outcomes

/-- Activities that do not overlap. -/
def serialStep (setup : Setup) (state : SidecarState) (episode : Episode) : Option SidecarState :=
  some (episode.exec setup state).1

/-! ### A node to try things on -/

/-- A node without peers. -/
def loneSetup : Setup where
  nodeId := 1
  peers := []
  hasStorage := true
  executable := "pgvisor-sidecar"
  toPostgresTimestamp := id
  parseTarget _ := none
  formatUtc _ := ""
  primaryContent _ := [({ entry := "PG_VERSION" }, "16")]

/-- A leader whose server runs. -/
def servingLeader : SidecarState where
  supervisor :=
    { dataDir := some [({ entry := "PG_VERSION" }, "16")]
      status := .running
      childPid := 1
      activeChild := some 1
      live := [{ pid := 1, standby := false }]
      spawned := 1 }
  config := {}
  role := .leader
  events := []
  eventId := 1
  missedHeartbeats := 0

end PgVisor.Sidecar
