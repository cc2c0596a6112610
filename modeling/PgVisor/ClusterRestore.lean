import PgVisor.AuditLog
import PgVisor.ConnectionPool
import PgVisor.SidecarControl

/-!
# The restore of a cluster

`ProxyBackupService::restore_backup_inner` has the standbys pause their failover, lets the
leader restore a snapshot and then has every standby clone the leader anew; if the leader does
not restore it, the standbys are told to go on. It is a task on the whole cluster: each request
is carried out by the sidecar its address leads to, action by action. Only the answer to the
restore itself decides anything: a standby that does not hear a request, or fails to carry it
out, is left as it is, after five attempts where it was asked to clone.

A request may be refused before it reaches its handler, or the connection may break. Then
the proxy sees an error and the handler has made any number of its actions, none or all of
them included. A handler that goes on after that is seen as far as it has got; nothing else
runs on the sidecars meanwhile. The requests are recorded with what the proxy heard of them.

The pause between two attempts, log lines and what is read only for them are left out, and so
is the lock that the callers take. The standbys discovered by the proxy are read at once with
its leader.
-/

namespace PgVisor.Cluster

open AwaitTasks Sidecar Text
open ConnectionPool (PoolInner)

/-- The sidecars by number and the one each control address leads to. `errorBody` is the JSON
text of an error answer. -/
structure Deployment where
  setup : Nat → Setup
  reaches : String → Option Nat
  hasAuditLog : Bool
  errorBody : String → String
  unauthorizedBody : String

/-- What becomes of a request. -/
inductive Fate where
  | served
  | refused
  | broken (actions : Nat)
deriving DecidableEq

/-- What an action of the proxy learns from outside. By default all goes well. -/
structure Wire where
  fate : Fate := .served
  /-- The error of a connection that cannot be made or breaks. -/
  reason : String := ""
  /-- The body of an answer can be read. -/
  readable : Bool := true
  outcome : Outcome := {}

/-- What the proxy hears of a request. -/
inductive Heard where
  | failed (reason : String)
  | answered (code : Nat) (body : String)
deriving DecidableEq

/-- The answer has a status code of success. -/
def Heard.success : Heard → Bool
  | .failed _ => false
  | .answered code _ => decide (200 ≤ code ∧ code < 300)

/-- A request of the proxy. `begun` says that its handler has made an action. -/
structure Exchange where
  url : String
  request : ControlRequest
  heard : Heard
  begun : Bool

/-- The sidecars and the proxy's own topology. -/
structure ClusterWorld where
  nodes : Nat → SidecarState
  leaderAddr : Option String
  standbyAddrs : List String
  pool : PoolInner
  audit : List Audit.Draft

/-- A cluster during a call, with the requests it has made so far. -/
structure Call extends ClusterWorld where
  exchanges : List Exchange

/-- Nothing has been asked yet. -/
def Call.begin (world : ClusterWorld) : Call := { world with exchanges := [] }

/-- A request is noted with what was heard of it. -/
def Call.record (call : Call) (exchange : Exchange) : Call :=
  { call with exchanges := call.exchanges ++ [exchange] }

abbrev Orchestration := Async Call Wire

/-! ### Requests to the sidecars -/

/-- A sidecar as a part of the cluster. -/
def nodePart (place : Nat) : Part Call SidecarState where
  get call := call.nodes place
  set call node := { call with nodes := Function.update call.nodes place node }
  get_set _ _ := Function.update_self _ _ _
  set_set _ _ _ := by simp only [Function.update_idem]
  set_get _ := by simp only [Function.update_eq_self]

/-- A task of a sidecar. -/
def onNode {α : Type} (place : Nat) (task : Control α) : Orchestration α :=
  task.zoom (nodePart place) Wire.outcome

/-- What comes from outside. -/
def hear : Orchestration Wire := .access fun call wire => (call, wire)

/-- The answer to a request that its handler has ended. -/
def respond (deployment : Deployment) : ControlResult → Heard
  | .ok _ => .answered 200 ""
  | .error err => .answered err.statusCode (deployment.errorBody err.text)

/-- The request is carried out as far as it gets. -/
def deliver (deployment : Deployment) (url : String) (request : ControlRequest) :
    Orchestration (Heard × Bool) := do
  let wire ← hear
  match deployment.reaches url, wire.fate with
  | none, _ => return (.failed wire.reason, false)
  | some _, .refused => return (.answered 401 deployment.unauthorizedBody, false)
  | some place, .broken actions =>
    onNode place ((handle (deployment.setup place) request).cut actions)
    return (.failed wire.reason, decide (actions ≠ 0))
  | some place, .served =>
    let result ← onNode place (handle (deployment.setup place) request)
    return (respond deployment result, true)

/-- A request is sent, and noted. -/
def post (deployment : Deployment) (url : String) (request : ControlRequest) :
    Orchestration Heard := do
  let (heard, begun) ← deliver deployment url request
  .access fun call _ =>
    (call.record { url := url, request := request, heard := heard, begun := begun }, heard)

/-- The text of an answer, empty if it cannot be read. -/
def readBody (body : String) : Orchestration String :=
  .access fun call wire => (call, if wire.readable then body else "")

/-! ### The backup service -/

/-- The configuration of the service. The date functions are those of `chrono`. -/
structure BackupService where
  configuredLeader : Option String
  configuredStandbys : List String
  controlPort : Nat
  hasPool : Bool
  parseTarget : String → Option Int
  formatUtc : Int → String

/-- The host of an address. -/
def hostOf (addr : String) : String := String.ofList (addr.toList.takeWhile (· ≠ ':'))

namespace BackupService

variable (service : BackupService)

def leaderHost (leaderAddr : Option String) : String :=
  match leaderAddr <|> service.configuredLeader with
  | some addr => hostOf addr
  | none => "pgvisor-node1"

/-- The discovered standbys and the configured ones, but for the leader's host. -/
def standbys (leaderAddr : Option String) (standbyAddrs : List String) : List String :=
  let all := service.configuredStandbys.foldl
    (fun known addr => if addr ∈ known then known else known ++ [addr]) standbyAddrs
  all.filter fun addr => hostOf addr ≠ service.leaderHost leaderAddr

/-- The control address of a host. -/
def controlUrl (host : String) : String :=
  "http://" ++ host ++ ":" ++ toString service.controlPort

/-- The addresses the requests to the standbys go to. -/
def standbyUrls (leaderAddr : Option String) (standbyAddrs : List String) : List String :=
  (service.standbys leaderAddr standbyAddrs).map fun addr => service.controlUrl (hostOf addr)

/-- The check of the target time: an instant more than ten seconds ahead is refused. -/
def refuseFuture (target : Option String) (now : Int) : Option String :=
  match target with
  | none => none
  | some text =>
    let trimmed := trim text.toList
    if trimmed = [] then none
    else
      match service.parseTarget (String.ofList trimmed) with
      | none => none
      | some instant =>
        if now + 10 * 10 ^ 9 < instant then
          some ("Recovery target timestamp (" ++ service.formatUtc instant ++
            ") cannot be in the future. Cluster current time is " ++ service.formatUtc now ++ ".")
        else none

end BackupService

/-! ### Requests to the standbys -/

/-- One request to each; nobody looks at the answers. -/
def notifyAll (deployment : Deployment) (request : ControlRequest) :
    List String → Orchestration Unit
  | [] => return ()
  | url :: rest => do
    let _ ← post deployment url request
    notifyAll deployment request rest

/-- Up to so many attempts to have a standby clone the leader. -/
def resyncStandby (deployment : Deployment) (conninfo url : String) : Nat → Orchestration Bool
  | 0 => return false
  | attempts + 1 => do
    let heard ← post deployment url (.resync (some conninfo))
    if heard.success then return true else resyncStandby deployment conninfo url attempts

def resyncAll (deployment : Deployment) (conninfo : String) : List String → Orchestration Unit
  | [] => return ()
  | url :: rest => do
    let _ ← resyncStandby deployment conninfo url 5
    resyncAll deployment conninfo rest

/-! ### The restore -/

/-- How a status code is displayed. -/
def statusLine (code : Nat) : String :=
  let reason :=
    match code with
    | 400 => "Bad Request"
    | 401 => "Unauthorized"
    | 404 => "Not Found"
    | 500 => "Internal Server Error"
    | 503 => "Service Unavailable"
    | _ => "<unknown status code>"
  toString code ++ " " ++ reason

/-- The leader's restore: an error if it was not reached or answered with one. -/
def restoreLeader (deployment : Deployment) (url snapshotId : String) (target : Option String) :
    Orchestration (Except String Unit) := do
  match ← post deployment url (.restore snapshotId target) with
  | .failed reason =>
    return .error ("Failed to connect to leader sidecar at " ++ url ++ "/control/restore: " ++
      reason)
  | .answered code body =>
    if (Heard.answered code body).success then return .ok ()
    else
      let text ← readBody body
      return .error ("Leader sidecar restore returned error " ++ statusLine code ++ ": " ++ text)

def targetDetail (target : Option String) : String :=
  match target with
  | some time => " with PITR target timestamp '" ++ time ++ "'"
  | none => ""

/-- The pool is drained and the restore recorded. -/
def recordRestore (deployment : Deployment) (service : BackupService) (leaderHost : String)
    (snapshotId : String) (target : Option String) : Orchestration Unit := do
  if service.hasPool then
    .access fun call _ => ({ call with pool := call.pool.drainAll }, ())
  if deployment.hasAuditLog then
    .access fun call wire =>
      ({ call with
          audit := call.audit ++
            [{ occurredAt := wire.outcome.now
               kind := .backupRestored
               nodeId := none
               nodeAddress := some leaderHost
               detail := "Snapshot '" ++ snapshotId ++ "' successfully restored to cluster" ++
                 targetDetail target
               pitrTarget := target }] }, ())

/-- The part after the check of the target. -/
def restoreCluster (deployment : Deployment) (service : BackupService) (leaderHost : String)
    (urls : List String) (snapshotId : String) (target : Option String) :
    Orchestration (Except String String) := do
  notifyAll deployment .prepareRestore urls
  match ← restoreLeader deployment (service.controlUrl leaderHost) snapshotId target with
  | .error message =>
    notifyAll deployment .cancelRestore urls
    return .error message
  | .ok () =>
    resyncAll deployment ("host=" ++ leaderHost ++ " port=5432 user=postgres") urls
    recordRestore deployment service leaderHost snapshotId target
    return .ok ("Snapshot " ++ snapshotId ++ " successfully restored to cluster" ++
      targetDetail target)

/-- `restore_backup_inner`. -/
def restoreBackupInner (deployment : Deployment) (service : BackupService) (snapshotId : String)
    (target : Option String) : Orchestration (Except String String) := do
  let refused ← .access fun call wire => (call, service.refuseFuture target wire.outcome.now)
  match refused with
  | some message => return .error message
  | none =>
    let (leaderAddr, standbyAddrs) ← .access fun call _ =>
      (call, (call.leaderAddr, call.standbyAddrs))
    restoreCluster deployment service (service.leaderHost leaderAddr)
      (service.standbyUrls leaderAddr standbyAddrs) snapshotId target

end PgVisor.Cluster
