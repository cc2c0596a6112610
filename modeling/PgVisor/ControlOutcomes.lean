import PgVisor.SidecarControl
import PgVisor.SupervisorSpecs

/-!
# How the activities of a sidecar end

One relation says what a request or a tick can do to a sidecar: `Ended` relates the state
before, the activity, the response and the state after. It speaks of the status and the
processes of the supervisor, the role and the stored connection. Every invariant of a
sidecar is derived from it.

The relation is meant for an activity that is alone on the node and for one beside which
others run that leave the server alone (`Beside`). Role and connection are known only in the
first case; the condition `alone` says which one it is.
-/

namespace PgVisor.Sidecar

open AwaitTasks Async
open Election (NodeRole ProcessStatus StatusResponse)

/-- The role of a node and its stored connection, if it is alone that changes them. -/
def Stands (alone : Prop) (role : NodeRole) (conninfo : Option String) (state : SidecarState) :
    Prop :=
  alone → state.role = role ∧ state.config.primaryConninfo = conninfo

/-- What may go on beside an activity. -/
structure Beside (alone : Prop) (before later : SidecarState) : Prop where
  undisturbed : Undisturbed before.supervisor later.supervisor
  stands : Stands alone before.role before.config.primaryConninfo later

variable {alone : Prop} {later : SidecarState}

/-- Role and connection have stayed. -/
theorem Stands.stays {role conninfo before} (stands : Stands alone role conninfo before)
    (still : Stands alone before.role before.config.primaryConninfo later) :
    Stands alone role conninfo later := by
  intro holds
  obtain ⟨sameRole, sameConninfo⟩ := still holds
  exact ⟨sameRole.trans (stands holds).1, sameConninfo.trans (stands holds).2⟩

/-- What stands goes on standing beside other tasks. -/
theorem Stands.beside {role conninfo before}
    (stands : Stands alone role conninfo before) (beside : Beside alone before later) :
    Stands alone role conninfo later :=
  stands.stays beside.stands

theorem Beside.refl (state : SidecarState) : Beside alone state state :=
  ⟨.refl _, fun _ => ⟨rfl, rfl⟩⟩

/-- One after the other. -/
theorem Beside.trans {first second third} (before : Beside alone first second)
    (after : Beside alone second third) : Beside alone first third :=
  ⟨before.undisturbed.trans after.undisturbed, before.stands.beside after⟩

/-! ### The relation -/

/-- The errors of a request that has not touched the server, the role or the connection. -/
def ControlError.harmless : ControlError → Bool
  | .promotionFailed _ | .repointFailed _ | .targetInFuture _ _ | .storageNotConfigured
  | .snapshotUnavailable _ _ | .alreadyRunning _ | .alreadyStopped _ => true
  | _ => false

/-- A response that is no error, or a harmless one. -/
def Response.Smooth : Response → Prop
  | .answered (.ok _) => True
  | .answered (.error err) => err.harmless = true
  | .ticked _ => True

/-- The requests that start a server, and the status they find when they do. -/
inductive Starts (status : ProcessStatus) : ControlRequest → ProcessStatus → Prop
  | start (idle : status ≠ .running) : Starts status .start status
  | restart : Starts status .restart (halted status)

/-- The responses of a request that has started a server with the stored configuration and
leaves it behind: it is ready, or it may become so. -/
inductive LeftRunning : ControlResult → Prop
  | ready (reply : ControlReply) : LeftRunning (.ok reply)
  | late : LeftRunning (.error (.notReady (.commandFailed timeoutMessage)))

/-- How requests and ticks end. -/
inductive Ended (known alone : Prop) (state : SidecarState) :
    Activity → Response → SidecarState → Prop
  | quiet {activity response later}
      (smooth : response.Smooth) (beside : Beside alone state later) :
      Ended known alone state activity response later
  | promoted {activity response later}
      (smooth : response.Smooth)
      (undisturbed : Undisturbed state.supervisor later.supervisor)
      (stands : Stands alone .leader none later) : Ended known alone state activity response later
  | repointed {given response later conninfo} (smooth : response.Smooth)
      (undisturbed : Undisturbed state.supervisor later.supervisor)
      (stands : Stands alone .standby (some conninfo) later) :
      Ended known alone state (.request (.repoint given)) response later
  | fenced {activity response later}
      (smooth : response.Smooth) (status : later.supervisor.status = .fenced)
      (none : known → later.supervisor.pids = [])
      (stands : Stands alone .fenced state.config.primaryConninfo later) :
      Ended known alone state activity response later
  | restored {snapshotId target reply later} (serving : Restored known (.ok ()) later.supervisor)
      (stands : Stands alone .leader none later) :
      Ended known alone state (.request (.restore snapshotId target)) (.answered (.ok reply)) later
  | unrestored {snapshotId target err later} (failed : Restored known (.error err) later.supervisor)
      (stands : Stands alone .leader none later) :
      Ended known alone state (.request (.restore snapshotId target))
        (.answered (.error (.restoreFailed err))) later
  | prepared {reply later}
      (undisturbed : Undisturbed { state.supervisor with status := .restoring } later.supervisor)
      (stands : Stands alone state.role state.config.primaryConninfo later) :
      Ended known alone state (.request .prepareRestore) (.answered (.ok reply)) later
  | cancelled {reply later}
      (status : later.supervisor.status = .running ∨ later.supervisor.status = .stopped)
      (accounted : known → Accounted later.supervisor)
      (none : state.supervisor.pids = [] →
        later.supervisor.status = .stopped ∧ later.supervisor.pids = [])
      (stands : Stands alone state.role state.config.primaryConninfo later) :
      Ended known alone state (.request .cancelRestore) (.answered (.ok reply)) later
  | unconnected {given later}
      (undisturbed : Undisturbed { state.supervisor with status := .restoring } later.supervisor)
      (stands : Stands alone state.role state.config.primaryConninfo later) :
      Ended known alone state (.request (.resync given)) (.answered (.error .noPrimary)) later
  | resynced {activity response later conninfo} (smooth : response.Smooth)
      (following : Resynced known (.ok ()) later.supervisor)
      (stands : Stands alone .standby (some conninfo) later) :
      Ended known alone state activity response later
  | unsynced {given err later conninfo} (failed : Resynced known (.error err) later.supervisor)
      (stands : Stands alone state.role (some conninfo) later) :
      Ended known alone state (.request (.resync given)) (.answered (.error (.resyncFailed err)))
        later
  | unjoined {err later} (fenced : alone → state.role = .fenced)
      (failed : Resynced known (.error err) later.supervisor)
      (stands : Stands alone state.role state.config.primaryConninfo later) :
      Ended known alone state .tick (.ticked (.error err)) later
  | unfollowed {request prior err later conninfo}
      (starts : Starts state.supervisor.status request prior)
      (failed : Resynced known (.error err) later.supervisor)
      (stands : Stands alone .standby (some conninfo) later) :
      Ended known alone state (.request request) (.answered (.error (.rejoinFailed err))) later
  | startedBehind {request prior reply later conninfo}
      (starts : Starts state.supervisor.status request prior)
      (status : later.supervisor.status = launchedStatus prior)
      (tracked : known → Tracked later.supervisor)
      (stands : Stands alone .standby (some conninfo) later) :
      Ended known alone state (.request request) (.answered (.ok reply)) later
  | startedAlone {request prior result later}
      (starts : Starts state.supervisor.status request prior)
      (left : LeftRunning result) (status : later.supervisor.status = launchedStatus prior)
      (tracked : known → Tracked later.supervisor)
      (stands : Stands alone state.role state.config.primaryConninfo later) :
      Ended known alone state (.request request) (.answered result) later
  | unstarted {request prior err later} (starts : Starts state.supervisor.status request prior)
      (idle : prior ≠ .running) (status : later.supervisor.status = prior)
      (none : known → later.supervisor.pids = [])
      (stands : Stands alone state.role state.config.primaryConninfo later) :
      Ended known alone state (.request request) (.answered (.error (.startFailed err))) later
  | exited {request prior err later} (starts : Starts state.supervisor.status request prior)
      (status : later.supervisor.status = .stopped)
      (none : known → later.supervisor.pids = [])
      (stands : Stands alone state.role state.config.primaryConninfo later) :
      Ended known alone state (.request request) (.answered (.error (.notReady err))) later
  | stopped {reply later}
      (status : later.supervisor.status = halted state.supervisor.status)
      (none : known → later.supervisor.pids = [])
      (stands : Stands alone state.role state.config.primaryConninfo later) :
      Ended known alone state (.request .stop) (.answered (.ok reply)) later

variable {known : Prop}

/-- A finished restore is told the same a moment later. -/
theorem Restored.undisturbed {result before later} (restored : Restored known result before)
    (calm : Undisturbed before later) : Restored known result later := by
  cases restored with
  | serving running tracked =>
    exact .serving (calm.status.trans running) fun holds => calm.tracked (tracked holds)
  | unready late stopped none =>
    exact .unready late (calm.status.trans stopped) fun holds => calm.none (none holds)
  | stuck early restoring none =>
    exact .stuck early (calm.status.trans restoring) fun holds => calm.none (none holds)

/-- So is a finished resync. -/
theorem Resynced.undisturbed {result before later} (resynced : Resynced known result before)
    (calm : Undisturbed before later) : Resynced known result later := by
  cases resynced with
  | following running tracked =>
    exact .following (calm.status.trans running) fun holds => calm.tracked (tracked holds)
  | failed fenced tracked none =>
    refine .failed (calm.status.trans fenced) (fun holds => calm.tracked (tracked holds)) ?_
    intro holds different
    exact calm.none (none holds different)

/-- What goes on beside an activity after its last change does not show. -/
theorem Ended.beside {state last activity response}
    (ended : Ended known alone state activity response later) (beside : Beside alone later last) :
    Ended known alone state activity response last := by
  have calm := beside.undisturbed
  cases ended with
  | quiet smooth before => exact .quiet smooth (before.trans beside)
  | promoted smooth undisturbed stands =>
    exact .promoted smooth (undisturbed.trans calm) (stands.beside beside)
  | repointed smooth undisturbed stands =>
    exact .repointed smooth (undisturbed.trans calm) (stands.beside beside)
  | fenced smooth status none stands =>
    exact .fenced smooth (calm.status.trans status) (fun holds => calm.none (none holds))
      (stands.beside beside)
  | restored serving stands => exact .restored (serving.undisturbed calm) (stands.beside beside)
  | unrestored failed stands => exact .unrestored (failed.undisturbed calm) (stands.beside beside)
  | prepared undisturbed stands =>
    exact .prepared (undisturbed.trans calm) (stands.beside beside)
  | cancelled status accounted none stands =>
    refine .cancelled ?_ (fun holds => calm.accounted (accounted holds)) ?_ (stands.beside beside)
    · rwa [calm.status]
    · intro before
      exact ⟨calm.status.trans (none before).1, calm.none (none before).2⟩
  | unconnected undisturbed stands =>
    exact .unconnected (undisturbed.trans calm) (stands.beside beside)
  | resynced smooth following stands =>
    exact .resynced smooth (following.undisturbed calm) (stands.beside beside)
  | unsynced failed stands => exact .unsynced (failed.undisturbed calm) (stands.beside beside)
  | unjoined fenced failed stands =>
    exact .unjoined fenced (failed.undisturbed calm) (stands.beside beside)
  | unfollowed starts failed stands =>
    exact .unfollowed starts (failed.undisturbed calm) (stands.beside beside)
  | startedBehind starts status tracked stands =>
    exact .startedBehind starts (calm.status.trans status)
      (fun holds => calm.tracked (tracked holds)) (stands.beside beside)
  | startedAlone starts left status tracked stands =>
    exact .startedAlone starts left (calm.status.trans status)
      (fun holds => calm.tracked (tracked holds)) (stands.beside beside)
  | unstarted starts idle status none stands =>
    exact .unstarted starts idle (calm.status.trans status)
      (fun holds => calm.none (none holds)) (stands.beside beside)
  | exited starts status none stands =>
    exact .exited starts (calm.status.trans status) (fun holds => calm.none (none holds))
      (stands.beside beside)
  | stopped status none stands =>
    exact .stopped (calm.status.trans status) (fun holds => calm.none (none holds))
      (stands.beside beside)

/-- A launched server is not stopped. -/
theorem launched_ne_stopped (status : ProcessStatus) : launchedStatus status ≠ .stopped := by
  cases status <;> decide

/-- Nor is it fenced. -/
theorem launched_ne_fenced (status : ProcessStatus) : launchedStatus status ≠ .fenced := by
  cases status <;> decide

theorem Accounted.of_status {supervisor status}
    (tracked : Tracked supervisor) (same : supervisor.status = status) (up : status ≠ .stopped) :
    Accounted supervisor :=
  ⟨tracked, fun stopped => absurd (same.symm.trans stopped) up⟩

/-- No activity loses track of the server. -/
theorem Ended.accounted {state activity response}
    (ended : Ended known alone state activity response later) (holds : known)
    (accounted : Accounted state.supervisor) : Accounted later.supervisor := by
  cases ended with
  | quiet _ beside => exact beside.undisturbed.accounted accounted
  | promoted _ calm _ | repointed _ calm _ => exact calm.accounted accounted
  | fenced _ _ none _ => exact .of_none (none holds)
  | restored serving _ =>
    cases serving with
    | serving running tracked => exact .of_status (tracked holds) running (by decide)
  | unrestored failed _ =>
    cases failed with
    | unready _ _ none | stuck _ _ none => exact .of_none (none holds)
  | prepared calm _ =>
    exact .of_status (calm.tracked accounted.tracked) calm.status nofun
  | cancelled _ accounted _ _ => exact accounted holds
  | unconnected calm _ =>
    exact .of_status (calm.tracked accounted.tracked) calm.status nofun
  | resynced _ following _ =>
    cases following with
    | following running tracked => exact .of_status (tracked holds) running (by decide)
  | unsynced failed _ =>
    cases failed with
    | failed fenced tracked _ => exact .of_status (tracked holds) fenced (by decide)
  | unjoined _ failed _ =>
    cases failed with
    | failed fenced tracked _ => exact .of_status (tracked holds) fenced (by decide)
  | unfollowed _ failed _ =>
    cases failed with
    | failed fenced tracked _ => exact .of_status (tracked holds) fenced (by decide)
  | startedBehind _ status tracked _ =>
    exact .of_status (tracked holds) status (launched_ne_stopped _)
  | startedAlone _ _ status tracked _ =>
    exact .of_status (tracked holds) status (launched_ne_stopped _)
  | unstarted _ _ _ none _ => exact .of_none (none holds)
  | exited _ _ none _ => exact .of_none (none holds)
  | stopped _ none _ => exact .of_none (none holds)

end PgVisor.Sidecar
