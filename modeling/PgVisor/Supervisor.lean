import PgVisor.AwaitTasks
import PgVisor.DataDirectory
import PgVisor.Election

/-!
# The supervisor of a server process

`PostgresSupervisor` spawns the server, stops and fences it, promotes it, re-points it, and
replaces its data directory from an archive or from the primary. Its methods are tasks: a
section between two awaits is one action. A block that holds a lock while it takes another
one, or while it waits for the child whose handle it has taken out, is one action too, for
nobody else sees what the lock protects before the block ends.

The answer to an action carries everything outside the sidecar: how commands and file
operations end, and which server processes have exited by themselves since the last
action. A parent can always kill its child and wait for it. A spawned server is a standby
if the directory then has the file `standby.signal`.

Log lines, the start instant and the log buffer are left out, and so are the calls only
`main` makes before the control server runs.
-/

namespace PgVisor.Sidecar

open AwaitTasks Text
open Election (NodeRole ProcessStatus StatusResponse)

/-- How an external command ended: it could not be started, or it exited. -/
inductive CommandResult where
  | unstarted (reason : String)
  | failed (status stderr : String)
  | succeeded

def CommandResult.success : CommandResult → Bool
  | .succeeded => true
  | _ => false

inductive SupervisorError where
  | io (reason : String)
  | config (reason : String)
  | commandFailed (message : String)
  | notRunning
deriving DecidableEq

def SupervisorError.display : SupervisorError → String
  | .io reason => "I/O error: " ++ reason
  | .config reason => "Configuration error: I/O error: " ++ reason
  | .commandFailed message => "Command execution failed: " ++ message
  | .notRunning => "Postgres process not currently running"

/-- An archive, and the files a complete extraction of it gives; a corrupt one has none. -/
structure TarArchive where
  bytes : String
  members : Option Files

/-- What an action learns from outside. By default everything succeeds. -/
structure Outcome where
  /-- Server processes that have exited by themselves since the last action. -/
  exited : List Nat := []
  /-- A file operation, or the spawning of the server. -/
  io : Except String Unit := .ok ()
  command : CommandResult := .succeeded
  /-- The number of configuration changes made before one failed, and why it did. -/
  unwritten : Option (Nat × String) := none
  /-- Files that a removal leaves behind. -/
  survives : DataPath → Bool := fun _ => false
  /-- What a failed `tar` or `pg_basebackup` leaves in the directory. -/
  residue : Files := []
  /-- The exit status of a child that is found to have exited. -/
  exitStatus : String := "exit status: 1"
  /-- A peer's reply to a status probe, `none` if it does not come or cannot be read. -/
  reply : Option StatusResponse := none
  /-- The snapshot that the storage returns. -/
  snapshot : Except String TarArchive := .ok { bytes := "", members := none }
  /-- The clock, in nanoseconds. -/
  now : Int := 0

/-- What does not change while a sidecar runs. The date functions are those of `chrono`,
and `primaryContent` is what a complete clone of the server at a connection string holds. -/
structure Setup where
  nodeId : Nat
  peers : List String
  hasStorage : Bool
  executable : String
  toPostgresTimestamp : String → String
  parseTarget : String → Option Int
  formatUtc : Int → String
  primaryContent : String → Files

structure ServerProcess where
  pid : Nat
  standby : Bool
deriving DecidableEq, Repr

/-- The supervisor, the directory it manages and the server processes that are alive. The
processes are numbered in the order in which they were spawned; `dataDir` is `none` if the
directory does not exist. -/
structure PostgresSupervisor where
  dataDir : Option Files
  status : ProcessStatus
  childPid : Nat
  activeChild : Option Nat
  live : List ServerProcess
  spawned : Nat

abbrev Supervision := Async PostgresSupervisor Outcome

namespace PostgresSupervisor

/-- Processes that have exited are gone. -/
def reap (supervisor : PostgresSupervisor) (exited : List Nat) : PostgresSupervisor :=
  { supervisor with live := supervisor.live.filter fun process => process.pid ∉ exited }

def files (supervisor : PostgresSupervisor) : Files := supervisor.dataDir.getD []

/-- A change of the files. It does nothing to a directory that does not exist. -/
def changeFiles (supervisor : PostgresSupervisor) (change : Files → Files) : PostgresSupervisor :=
  { supervisor with dataDir := supervisor.dataDir.map change }

/-- Whether the child behind the handle is alive. -/
def childAlive (supervisor : PostgresSupervisor) : Bool :=
  match supervisor.activeChild with
  | some pid => supervisor.live.any fun process => process.pid = pid
  | none => false

/-- The handle is taken out and the process behind it ends. -/
def dropChild (supervisor : PostgresSupervisor) : PostgresSupervisor :=
  match supervisor.activeChild with
  | some pid =>
    { supervisor with
      activeChild := none
      live := supervisor.live.filter fun process => process.pid ≠ pid }
  | none => supervisor

end PostgresSupervisor

open PostgresSupervisor

/-- One action of the supervisor. -/
def supervise {α : Type} (action : PostgresSupervisor → Outcome → PostgresSupervisor × α) :
    Supervision α :=
  .access fun supervisor outcome => action (supervisor.reap outcome.exited) outcome

def readStatus : Supervision ProcessStatus :=
  supervise fun supervisor _ => (supervisor, supervisor.status)

def setStatus (status : ProcessStatus) : Supervision Unit :=
  supervise fun supervisor _ => ({ supervisor with status := status }, ())

/-- A command that changes nothing the model sees: `pg_isready`, `pg_ctl reload`, and
`pg_ctl stop`, whose success shows when the child is waited for. -/
def runCommand : Supervision CommandResult :=
  supervise fun supervisor outcome => (supervisor, outcome.command)

/-- A file is removed if it is there; a failure is not noticed. -/
def removeFile (name : String) : Supervision Unit :=
  supervise fun supervisor outcome =>
    (supervisor.changeFiles (Files.removeEntry name outcome.survives), ())

/-- A file is written, or an error is returned. -/
def writeFile (name content : String) : Supervision (Except String Unit) :=
  supervise fun supervisor outcome =>
    match outcome.io with
    | .ok () => (supervisor.changeFiles (Files.put name content), .ok ())
    | .error reason => (supervisor, .error reason)

/-- Wait for the child or kill it. -/
def endChild : Supervision Unit := supervise fun supervisor _ => (supervisor.dropChild, ())

/-- The common part of `stop` and `fence`: `pg_ctl stop` on a directory that holds a
cluster, then a wait for the child; a kill if the command fails or there is no cluster. -/
def haltServer : Supervision Unit := do
  let initialised ← supervise fun supervisor _ => (supervisor, supervisor.files.has "PG_VERSION")
  if initialised then
    let _ ← runCommand
    endChild
  else endChild

/-- `stop`: nothing happens if the status is Stopped already; Restoring is kept. -/
def stop : Supervision (Except SupervisorError Unit) := do
  let status ← readStatus
  if status = .stopped then return .ok ()
  else
    haltServer
    supervise fun supervisor _ =>
      ({ supervisor with
          status := if supervisor.status ≠ .restoring then .stopped else supervisor.status
          childPid := 0 }, ())
    return .ok ()

def fence : Supervision (Except SupervisorError Unit) := do
  setStatus .fenced
  haltServer
  supervise fun supervisor _ => ({ supervisor with childPid := 0 }, ())
  return .ok ()

/-- The configuration is written and the server spawned, without an await in between. -/
def launch (setup : Setup) (config : PostgresConfig) : Supervision (Except SupervisorError Nat) :=
  supervise fun supervisor outcome =>
    match applyChanges (configChanges setup.toPostgresTimestamp config) outcome.unwritten
        outcome.survives supervisor.dataDir with
    | (dir, .error reason) => ({ supervisor with dataDir := dir }, .error (.config reason))
    | (dir, .ok ()) =>
      match outcome.io with
      | .error reason => ({ supervisor with dataDir := dir }, .error (.io reason))
      | .ok () =>
        let pid := supervisor.spawned + 1
        ({ supervisor with
            dataDir := dir
            childPid := pid
            live := supervisor.live ++
              [{ pid := pid, standby := (dir.getD []).has "standby.signal" }]
            spawned := pid }, .ok pid)

/-- The handle is stored and the status set; Restoring is kept. -/
def register (pid : Nat) : Supervision Unit :=
  supervise fun supervisor _ =>
    ({ supervisor with
        activeChild := some pid
        status := if supervisor.status ≠ .restoring then .running else supervisor.status }, ())

/-- `start`: the decision is made from the status alone. -/
def start (setup : Setup) (config : PostgresConfig) :
    Supervision (Except SupervisorError Unit) := do
  let status ← readStatus
  if status = .running then return .ok ()
  else
    match ← launch setup config with
    | .error err => return .error err
    | .ok pid =>
      register pid
      return .ok ()

/-- `pg_ctl promote`. -/
def runPromote : Supervision CommandResult :=
  supervise fun supervisor outcome =>
    match outcome.command with
    | .succeeded =>
      ({ supervisor with
          live := supervisor.live.map fun process => { process with standby := false } },
        outcome.command)
    | _ => (supervisor, outcome.command)

/-- `promote`: a server that is no standby counts as promoted. -/
def promote : Supervision (Except SupervisorError Unit) := do
  match ← runPromote with
  | .unstarted reason => return .error (.io reason)
  | .failed status stderr =>
    if contains "not in standby mode".toList stderr.toList then return .ok ()
    else return .error (.commandFailed
      ("pg_ctl promote failed with status: " ++ status ++ " (" ++ stderr ++ ")"))
  | .succeeded =>
    removeFile "postgresql.auto.conf"
    removeFile "standby.signal"
    return .ok ()

/-- The signal file of a standby is written if it is missing; a failure is not noticed. -/
def signalStandby : Supervision Unit :=
  supervise fun supervisor outcome =>
    match outcome.io with
    | .ok () =>
      (if supervisor.files.has "standby.signal" then supervisor
        else supervisor.changeFiles (Files.put "standby.signal" ""), ())
    | .error _ => (supervisor, ())

/-- `repoint_primary`. Neither a missing signal file nor a failed reload is reported. -/
def repointPrimary (conninfo : String) : Supervision (Except SupervisorError Unit) := do
  signalStandby
  match ← writeFile "postgresql.auto.conf" ("primary_conninfo = '" ++ conninfo ++ "'\n") with
  | .error reason => return .error (.io reason)
  | .ok () =>
    let status ← readStatus
    if status = .running then
      let _ ← runCommand
      return .ok ()
    else return .ok ()

/-- Message of `wait_ready` when the child is found to have exited. -/
def exitedMessage (status : String) : String :=
  "Postgres process exited unexpectedly with status: " ++ status

def timeoutMessage : String := "Postgres did not become ready within timeout"

/-- The first part of a round of `wait_ready`: a child that has exited is noticed. -/
def noticeExit : Supervision (Option String) :=
  supervise fun supervisor outcome =>
    match supervisor.activeChild with
    | none => (supervisor, none)
    | some _ =>
      if supervisor.childAlive then (supervisor, none)
      else
        ({ supervisor with
            childPid := 0
            status := if supervisor.status ≠ .fenced then .stopped else supervisor.status },
          some outcome.exitStatus)

/-- `wait_ready` with the number of remaining rounds. -/
def waitReady : Nat → Supervision (Except SupervisorError Unit)
  | 0 => return .error (.commandFailed timeoutMessage)
  | retries + 1 => do
    match ← noticeExit with
    | some status => return .error (.commandFailed (exitedMessage status))
    | none =>
      let result ← runCommand
      if result.success then return .ok () else waitReady retries

/-- The child is alive, as `is_running` sees it. -/
def isRunning : Supervision Bool :=
  supervise fun supervisor _ => (supervisor, supervisor.childAlive)

def readChildPid : Supervision Nat :=
  supervise fun supervisor _ => (supervisor, supervisor.childPid)

/-- After a launch, `wait_ready` if there is a pid to wait for. -/
def awaitLaunched : Supervision (Except SupervisorError Unit) := do
  let pid ← readChildPid
  if pid > 0 then waitReady 30 else return .ok ()

/-! ### Replacing the data directory -/

/-- The loop over a directory listing. Reading the next entry may fail, the removal of an
entry may fail unnoticed. -/
def removeEntries : List String → Supervision (Except SupervisorError Unit)
  | [] => supervise fun supervisor outcome =>
    (supervisor, outcome.io.mapError SupervisorError.io)
  | name :: rest => do
    let read ← supervise fun supervisor outcome => (supervisor, outcome.io)
    match read with
    | .error reason => return .error (.io reason)
    | .ok () =>
      removeFile name
      removeEntries rest

/-- The directory is opened for listing, or created if it does not exist. -/
def openDataDir : Supervision (Except String (Option (List String))) :=
  supervise fun supervisor outcome =>
    match outcome.io with
    | .error reason => (supervisor, .error reason)
    | .ok () =>
      match supervisor.dataDir with
      | some files => (supervisor, .ok (some files.entries))
      | none => ({ supervisor with dataDir := some [] }, .ok none)

/-- The old content is removed, or the directory created. -/
def clearDataDir : Supervision (Except SupervisorError Unit) := do
  match ← openDataDir with
  | .error reason => return .error (.io reason)
  | .ok none => return .ok ()
  | .ok (some listing) => removeEntries listing

/-- `tar -xzf`. A corrupt archive makes it fail. -/
def untar (archive : TarArchive) : Supervision CommandResult :=
  supervise fun supervisor outcome =>
    match outcome.command, archive.members with
    | .unstarted reason, _ => (supervisor, .unstarted reason)
    | .succeeded, some members => (supervisor.changeFiles (Files.overlay members), .succeeded)
    | .succeeded, none =>
      (supervisor.changeFiles fun _ => outcome.residue, .failed "exit status: 2" "")
    | .failed status stderr, _ =>
      (supervisor.changeFiles fun _ => outcome.residue, .failed status stderr)

def tarMessage : String := "tar extraction returned non-zero status"

def temporaryTar : String := "restore_snapshot.tar.gz"

/-- The archive is written into the directory, extracted and removed. A `tar` that cannot
be started is not an error. -/
def extractTarball (archive : TarArchive) : Supervision (Except SupervisorError Unit) := do
  match ← writeFile temporaryTar archive.bytes with
  | .error reason => return .error (.io reason)
  | .ok () =>
    let result ← untar archive
    removeFile temporaryTar
    match result with
    | .failed _ _ => return .error (.commandFailed tarMessage)
    | .unstarted _ => return .ok ()
    | .succeeded => return .ok ()

/-- The configuration a restored server is started with: never that of a standby. -/
def restoreConfig (setup : Setup) (config : PostgresConfig) (target : Option String) :
    PostgresConfig :=
  let primary := { config with primaryConninfo := none }
  match target with
  | none => primary
  | some time =>
    { primary with
      restoreCommand := primary.restoreCommand <|> some (setup.executable ++ " restore %f %p")
      recoveryTargetTime := some time
      recoveryTargetAction := some "promote" }

/-- The configuration without a recovery target. -/
def settledConfig (config : PostgresConfig) : PostgresConfig :=
  { config with
    primaryConninfo := none, recoveryTargetTime := none, recoveryTargetAction := none }

/-- `write_conf_only`, whose failure is not noticed. -/
def writeConfOnly (setup : Setup) (config : PostgresConfig) : Supervision Unit :=
  supervise fun supervisor outcome =>
    ({ supervisor with
        dataDir := (applyChanges (confChanges setup.toPostgresTimestamp config)
          outcome.unwritten outcome.survives supervisor.dataDir).1 }, ())

/-- The server did not become ready: it is killed and the recovery target forgotten. -/
def abandonRestore (setup : Setup) (config : PostgresConfig) : Supervision Unit := do
  supervise fun supervisor _ =>
    ({ ({ supervisor with status := .stopped } : PostgresSupervisor).dropChild with
        childPid := 0 }, ())
  removeFile "recovery.signal"
  writeConfOnly setup (settledConfig config)

/-- The last part of a restore: start the server on the extracted files. -/
def startRestored (setup : Setup) (config : PostgresConfig) (target : Option String) :
    Supervision (Except SupervisorError Unit) := do
  removeFile "standby.signal"
  removeFile "postgresql.auto.conf"
  removeFile "backup_label.old"
  match ← start setup (restoreConfig setup config target) with
  | .error err => return .error err
  | .ok () =>
    match ← awaitLaunched with
    | .error err =>
      abandonRestore setup config
      return .error err
    | .ok () =>
      setStatus .running
      if target.isSome then writeConfOnly setup (settledConfig config)
      return .ok ()

/-- `restore_from_snapshot`. -/
def restoreFromSnapshot (setup : Setup) (archive : TarArchive) (config : PostgresConfig)
    (target : Option String) : Supervision (Except SupervisorError Unit) := do
  setStatus .restoring
  let _ ← stop
  match ← clearDataDir with
  | .error err => return .error err
  | .ok () =>
    match ← extractTarball archive with
    | .error err => return .error err
    | .ok () => startRestored setup config target

def primaryMessage : String := "Primary did not become ready for replication re-sync"

/-- Wait for the primary before anything is removed. -/
def awaitPrimary : Nat → Supervision (Except SupervisorError Unit)
  | 0 => return .ok ()
  | retries + 1 => do
    let result ← runCommand
    if result.success then return .ok ()
    else if retries = 0 then return .error (.commandFailed primaryMessage)
    else awaitPrimary retries

/-- `pg_basebackup -R`: a complete clone, set up to follow the primary. -/
def basebackup (setup : Setup) (conninfo : String) : Supervision CommandResult :=
  supervise fun supervisor outcome =>
    match outcome.command with
    | .unstarted reason => (supervisor, .unstarted reason)
    | .failed status stderr =>
      (supervisor.changeFiles fun _ => outcome.residue, .failed status stderr)
    | .succeeded =>
      (supervisor.changeFiles fun files =>
        ((Files.overlay (setup.primaryContent conninfo) files).put "standby.signal" "").put
          "postgresql.auto.conf" ("primary_conninfo = '" ++ conninfo ++ "'\n"), .succeeded)

def basebackupMessage (status : String) : String :=
  "pg_basebackup re-sync failed with status: " ++ status

/-- The last part of a resync: start the server on the cloned files. -/
def startCloned (setup : Setup) (conninfo : String) (config : PostgresConfig) :
    Supervision (Except SupervisorError Unit) := do
  match ← start setup { config with primaryConninfo := some conninfo } with
  | .error err => return .error err
  | .ok () =>
    match ← awaitLaunched with
    | .error err => return .error err
    | .ok () =>
      setStatus .running
      return .ok ()

/-- `resync_from_primary_inner`. -/
def resyncInner (setup : Setup) (conninfo : String) (config : PostgresConfig) :
    Supervision (Except SupervisorError Unit) := do
  match ← awaitPrimary 15 with
  | .error err => return .error err
  | .ok () =>
    match ← clearDataDir with
    | .error err => return .error err
    | .ok () =>
      match ← basebackup setup conninfo with
      | .unstarted reason => return .error (.io reason)
      | .failed status _ => return .error (.commandFailed (basebackupMessage status))
      | .succeeded => startCloned setup conninfo config

/-- `resync_from_primary`: every error leaves the status Fenced. -/
def resyncFromPrimary (setup : Setup) (conninfo : String) (config : PostgresConfig) :
    Supervision (Except SupervisorError Unit) := do
  setStatus .restoring
  let _ ← stop
  match ← resyncInner setup conninfo config with
  | .error err =>
    setStatus .fenced
    return .error err
  | .ok () => return .ok ()

end PgVisor.Sidecar
