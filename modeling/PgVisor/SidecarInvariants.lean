import PgVisor.ControlRuns
import PgVisor.ControlSpecs

/-!
# Invariants of a sidecar between its activities

Three properties of a node whose requests and ticks do not overlap, for all answers from
outside: a request other than prepare-restore does not leave the node in Restoring, a leader
has no connection to a primary stored, and a fenced node has no running server. The first
two fail on the requests, states and answers named here and on no others. The third one is
kept by the runs that do not start a server under a fenced role and do not lose one.
-/

namespace PgVisor.Sidecar

open AwaitTasks Async Text Transitions
open Election (NodeRole ProcessStatus StatusResponse)

variable {status prior : ProcessStatus} {state later : SidecarState} {activity : Activity}
  {response : Response} {answers : Nat → Outcome} (setup : Setup)

/-! ### Requests that end in Restoring -/

/-- A resync for which no connection is known, and a restore that fails before its server
has been started. -/
def Stuck : ControlResult → Prop
  | .error .noPrimary => True
  | .error (.restoreFailed err) => Unstarted err
  | _ => False

variable {result : ControlResult}

theorem smooth_not_stuck (smooth : (Response.answered result).Smooth) : ¬ Stuck result := by
  cases result with
  | ok reply => exact id
  | error err =>
    cases err with
    | noPrimary | restoreFailed err => exact absurd smooth Bool.false_ne_true
    | _ => exact id

theorem left_running_not_stuck (left : LeftRunning result) : ¬ Stuck result := by
  cases left <;> exact id

variable {request : ControlRequest}

/-- A server that is started leaves Restoring only if it was found there. -/
theorem launched_ne_restoring (starts : Starts status request prior)
    (before : status ≠ .restoring) : prior ≠ .restoring ∧ launchedStatus prior ≠ .restoring := by
  cases starts with
  | start idle => cases status <;> simp_all [launchedStatus]
  | restart => cases status <;> simp_all [launchedStatus, halted]

theorem restoring_iff_stuck
    (ended : Ended False True state (.request request) (.answered result) later)
    (before : state.supervisor.status ≠ .restoring) (other : request ≠ .prepareRestore) :
    later.supervisor.status = .restoring ↔ Stuck result := by
  -- in all cases but two the status is known to be another one and the result not stuck
  have elsewhere {status : ProcessStatus} (now : later.supervisor.status = status)
      (different : status ≠ .restoring) (clear : ¬ Stuck result) :
      later.supervisor.status = .restoring ↔ Stuck result :=
    iff_of_false (fun restoring => different (now.symm.trans restoring)) clear
  cases ended with
  | quiet smooth beside =>
    exact elsewhere beside.undisturbed.status before (smooth_not_stuck smooth)
  | promoted smooth calm _ => exact elsewhere calm.status before (smooth_not_stuck smooth)
  | repointed smooth calm _ => exact elsewhere calm.status before (smooth_not_stuck smooth)
  | fenced smooth status _ _ => exact elsewhere status (by decide) (smooth_not_stuck smooth)
  | restored serving _ =>
    cases serving with
    | serving running _ => exact elsewhere running (by decide) id
  | unrestored failed _ =>
    cases failed with
    | unready late stopped _ => exact elsewhere stopped (by decide) late
    | stuck early restoring _ => exact iff_of_true restoring early
  | prepared _ _ => exact absurd rfl other
  | cancelled status _ _ _ =>
    rcases status with running | stopped
    · exact elsewhere running (by decide) id
    · exact elsewhere stopped (by decide) id
  | unconnected calm _ => exact iff_of_true calm.status trivial
  | resynced smooth following _ =>
    cases following with
    | following running _ => exact elsewhere running (by decide) (smooth_not_stuck smooth)
  | unsynced failed _ =>
    cases failed with
    | failed fenced _ _ => exact elsewhere fenced (by decide) id
  | unfollowed _ failed _ =>
    cases failed with
    | failed fenced _ _ => exact elsewhere fenced (by decide) id
  | startedBehind starts status _ _ =>
    exact elsewhere status (launched_ne_restoring starts before).2 id
  | startedAlone starts left status _ _ =>
    exact elsewhere status (launched_ne_restoring starts before).2 (left_running_not_stuck left)
  | unstarted starts _ status _ _ =>
    exact elsewhere status (launched_ne_restoring starts before).1 id
  | exited _ status _ _ => exact elsewhere status (by decide) id
  | stopped status _ _ =>
    refine elsewhere status ?_ id
    cases found : state.supervisor.status <;> simp_all [halted]

/-- The target time is an instant more than ten seconds ahead. -/
def TargetAhead (setup : Setup) (target : Option String) (now : Int) : Prop :=
  ∃ text instant, target = some text ∧ trim text.toList ≠ [] ∧
    setup.parseTarget (String.ofList (trim text.toList)) = some instant ∧
    now + 10 * 10 ^ 9 < instant

theorem refuse_target_runs (target : Option String) :
    (refuseTarget setup target).Runs state answers fun refusal later left =>
      (later = state ∧ left = after 1 answers) ∧
        match refusal with
        | some err => TargetAhead setup target (answers 0).now ∧ ¬ Stuck (.error err)
        | none => ¬ TargetAhead setup target (answers 0).now := by
  unfold refuseTarget
  rw [runs_bind, access_runs]
  cases target with
  | none => exact ⟨⟨rfl, rfl⟩, fun ⟨_, _, impossible, _⟩ => by cases impossible⟩
  | some text =>
    dsimp only
    split
    next blank =>
      refine ⟨⟨rfl, rfl⟩, ?_⟩
      rintro ⟨_, _, ⟨⟩, something, -⟩
      exact something blank
    next something =>
      cases read : setup.parseTarget (String.ofList (trim text.toList)) with
      | none =>
        refine ⟨⟨rfl, rfl⟩, ?_⟩
        rintro ⟨_, _, ⟨⟩, -, reads, -⟩
        cases read.symm.trans reads
      | some instant =>
        dsimp only
        split
        next ahead => exact ⟨⟨rfl, rfl⟩, ⟨text, instant, rfl, something, read, ahead⟩, id⟩
        next passed =>
          refine ⟨⟨rfl, rfl⟩, ?_⟩
          rintro ⟨_, _, ⟨⟩, -, reads, ahead⟩
          cases read.symm.trans reads
          exact passed ahead

/-- The requests that leave a node in Restoring: a resync without a connection, and a restore
that has fetched an archive and then fails before its server is spawned. The first answers of
a restore are the clock and the archive, and the sixth is the first one of
`restore_from_snapshot`. -/
def StaysRestoring (setup : Setup) (state : SidecarState) (answers : Nat → Outcome) :
    ControlRequest → Prop
  | .resync given => ¬ Connected state given
  | .restore _ target => ¬ TargetAhead setup target (answers 0).now ∧ setup.hasStorage ∧
      ∃ archive, (answers 1).snapshot = .ok archive ∧
        RestoreBreaks archive state.supervisor.dataDir (after 5 answers)
  | _ => False

theorem restore_node_runs (snapshotId : String) (target : Option String) (archive : TarArchive) :
    (restoreNode setup snapshotId target archive).Runs state answers fun result _ _ =>
      Stuck result ↔ RestoreBreaks archive state.supervisor.dataDir (after 3 answers) := by
  unfold restoreNode becomeLeader readConfig
  apply (on_supervisor_runs (set_status_runs .restoring)).andThen
  rintro _ first _ ⟨⟨alike, rfl⟩, -⟩
  rw [runs_bind, access_runs, runs_bind, access_runs, ← alike.dataDir]
  apply (on_supervisor_runs (restore_from_snapshot_runs setup _ archive target)).andThen
  rintro result _ _ ⟨ended, -⟩
  cases result with
  | ok _ => exact iff_of_false id ended
  | error err => exact ended

theorem handle_restore_runs (snapshotId : String) (target : Option String) :
    (handleRestore setup snapshotId target).Runs state answers fun result _ _ =>
      Stuck result ↔ StaysRestoring setup state answers (.restore snapshotId target) := by
  unfold handleRestore
  apply (refuse_target_runs setup target).andThen
  rintro refusal _ _ ⟨⟨rfl, rfl⟩, checked⟩
  cases refusal with
  | some err => exact iff_of_false checked.2 fun stays => stays.1 checked.1
  | none =>
    dsimp only
    split
    next stored =>
      rw [runs_bind, access_runs]
      dsimp only
      split
      next reason failed =>
        refine iff_of_false id ?_
        rintro ⟨-, -, archive, fetched, -⟩
        cases failed.symm.trans fetched
      next archive fetched =>
        apply (restore_node_runs setup snapshotId target archive).mono
        intro result _ _ ended
        refine ended.trans ⟨fun breaks => ⟨checked, stored, archive, fetched, breaks⟩, ?_⟩
        rintro ⟨-, -, other, same, breaks⟩
        cases fetched.symm.trans same
        exact breaks
    next missing => exact iff_of_false id fun stays => missing stays.2.1

theorem request_ended (request : ControlRequest) (outcomes : Nat → Outcome) :
    Ended False True state (.request request)
      (.answered ((handle setup request).exec state outcomes).2)
      ((handle setup request).exec state outcomes).1 := by
  have ends : Ends False True (handle setup request) state _ :=
    handle_ends setup request False.elim False.elim
  exact runs_exec.mp (Guarded.runs ends .refl)

/-- Other requests do not end like this. -/
theorem stuck_requests
    (ended : Ended False True state (.request request) (.answered result) later)
    (stuck : Stuck result) :
    (∃ given, request = .resync given) ∨
      ∃ snapshotId target, request = .restore snapshotId target := by
  cases ended with
  | quiet smooth _ | promoted smooth _ _ | repointed smooth _ _ | fenced smooth _ _ _
  | resynced smooth _ _ => exact absurd stuck (smooth_not_stuck smooth)
  | restored _ _ | unrestored _ _ => exact .inr ⟨_, _, rfl⟩
  | unconnected _ _ | unsynced _ _ => exact .inl ⟨_, rfl⟩
  | startedAlone _ left _ _ _ => exact absurd stuck (left_running_not_stuck left)
  | _ => exact stuck.elim

theorem stuck_iff (request : ControlRequest) (outcomes : Nat → Outcome) :
    Stuck ((handle setup request).exec state outcomes).2 ↔
      StaysRestoring setup state outcomes request := by
  cases request with
  | restore snapshotId target =>
    exact runs_exec.mp (handle_restore_runs setup snapshotId target)
  | resync given =>
    have resynced : (handleResync setup given).Runs state outcomes fun result _ _ =>
        Stuck result ↔ ¬ Connected state given := by
      apply (handle_resync_runs setup given).mono
      intro result _ _ ended
      cases result with
      | ok _ => exact iff_of_false id (not_not_intro ended.1)
      | error err =>
        cases err with
        | noPrimary => exact iff_of_true trivial ended
        | resyncFailed err => exact iff_of_false id (not_not_intro ended.1)
        | _ => exact ended.elim
    exact runs_exec.mp resynced
  | _ =>
    refine iff_of_false (fun stuck => ?_) id
    rcases stuck_requests (request_ended setup _ outcomes) stuck with ⟨_, other⟩ | ⟨_, _, other⟩
    all_goals cases other

/-- A request handled on a node that is not in Restoring leaves it there exactly if it is a
resync without a connection, or a restore whose archive is fetched and whose answers make it
fail before its server is spawned. -/
theorem restoring_after_request_iff (setup : Setup) (state : SidecarState)
    (request : ControlRequest) (outcomes : Nat → Outcome)
    (before : state.supervisor.status ≠ .restoring) (other : request ≠ .prepareRestore) :
    ((handle setup request).exec state outcomes).1.supervisor.status = .restoring ↔
      StaysRestoring setup state outcomes request := by
  have ended := restoring_iff_stuck (request_ended setup request outcomes) before other
  exact ended.trans (stuck_iff setup request outcomes)

theorem restoring_after_stop :
    ((handle loneSetup .stop).exec servingLeader fun _ => {}).1.supervisor.status = .restoring ↔
      StaysRestoring loneSetup servingLeader (fun _ => {}) .stop :=
  restoring_after_request_iff loneSetup servingLeader .stop (fun _ => {}) (by decide) (by decide)

/-- A resync of a node without a stored connection, and a restore whose `tar` fails, both end
with an error and leave a node that was running in Restoring. -/
theorem errors_leave_restoring :
    ((handle loneSetup (.resync none)).exec servingLeader fun _ => {}).2 = .error .noPrimary ∧
      ((handle loneSetup (.resync none)).exec servingLeader
        fun _ => {}).1.supervisor.status = .restoring ∧
      ((handle loneSetup (.restore "base" none)).exec servingLeader fun _ => {}).2 =
        .error (.restoreFailed (.commandFailed tarMessage)) ∧
      ((handle loneSetup (.restore "base" none)).exec servingLeader
        fun _ => {}).1.supervisor.status = .restoring := by
  decide +kernel

/-! ### The connection stored on a leader -/

def LeaderUnattached (state : SidecarState) : Prop :=
  state.role = .leader → state.config.primaryConninfo = none

/-- A resync on a leader stores the connection first and keeps the role if it fails: its
primary is not found ready, the directory cannot be cleared or cloned, or the server is not
launched or does not become ready. -/
def AttachesLeader (state : SidecarState) (episode : Episode) : Prop :=
  state.role = .leader ∧ ∃ given, episode.activity = .request (.resync given) ∧
    Connected state given ∧ ¬ Resyncs state.supervisor (after 4 episode.outcomes)

theorem smooth_not_unsynced {err} :
    ¬ (Response.answered (.error (.resyncFailed err))).Smooth := Bool.false_ne_true

theorem unattached_iff
    (ended : Ended False True state activity response later) (before : LeaderUnattached state) :
    LeaderUnattached later ↔
      ¬ (state.role = .leader ∧ ∃ err, response = .answered (.error (.resyncFailed err))) := by
  have kept (stands : Stands True state.role state.config.primaryConninfo later) :
      LeaderUnattached later := by
    intro leads
    obtain ⟨role, conninfo⟩ := stands trivial
    exact conninfo.trans (before (role.symm.trans leads))
  have placed {role : NodeRole} {conninfo : Option String}
      (stands : Stands True role conninfo later) (fine : role ≠ .leader ∨ conninfo = none) :
      LeaderUnattached later := by
    intro leads
    rcases fine with other | unattached
    · exact absurd ((stands trivial).1.symm.trans leads) other
    · exact (stands trivial).2.trans unattached
  have smoothly (smooth : response.Smooth) (unattached : LeaderUnattached later) :
      LeaderUnattached later ↔
        ¬ (state.role = .leader ∧ ∃ err, response = .answered (.error (.resyncFailed err))) := by
    apply iff_of_true unattached
    rintro ⟨-, err, rfl⟩
    exact smooth_not_unsynced smooth
  cases ended with
  | quiet smooth beside => exact smoothly smooth (kept beside.stands)
  | promoted smooth _ stands => exact smoothly smooth (placed stands (.inr rfl))
  | repointed smooth _ stands => exact smoothly smooth (placed stands (.inl nofun))
  | fenced smooth _ _ stands => exact smoothly smooth (placed stands (.inl nofun))
  | restored _ stands => exact smoothly trivial (placed stands (.inr rfl))
  | unrestored _ stands => exact iff_of_true (placed stands (.inr rfl)) nofun
  | prepared _ stands => exact smoothly trivial (kept stands)
  | cancelled _ _ _ stands => exact smoothly trivial (kept stands)
  | unconnected _ stands => exact iff_of_true (kept stands) nofun
  | resynced smooth _ stands => exact smoothly smooth (placed stands (.inl nofun))
  | unsynced failed stands =>
    obtain ⟨role, conninfo⟩ := stands trivial
    constructor
    · rintro unattached ⟨leads, -⟩
      have none := unattached (role.trans leads)
      rw [conninfo] at none
      cases none
    · intro other leads
      exact absurd ⟨role.symm.trans leads, _, rfl⟩ other
  | unjoined _ _ stands => exact smoothly trivial (kept stands)
  | unfollowed _ _ stands => exact iff_of_true (placed stands (.inl nofun)) nofun
  | startedBehind _ _ _ stands => exact smoothly trivial (placed stands (.inl nofun))
  | startedAlone _ left _ _ stands =>
    apply iff_of_true (kept stands)
    cases left <;> exact nofun
  | unstarted _ _ _ _ stands => exact iff_of_true (kept stands) nofun
  | exited _ _ _ stands => exact iff_of_true (kept stands) nofun
  | stopped _ _ stands => exact smoothly trivial (kept stands)

/-- No other activity answers that a resync failed. -/
theorem unsynced_activity {err : SupervisorError} (ended : Ended False True state activity
      (.answered (.error (.resyncFailed err))) later) :
    ∃ given, activity = .request (.resync given) := by
  cases ended with
  | quiet smooth _ | promoted smooth _ _ | repointed smooth _ _ | fenced smooth _ _ _
  | resynced smooth _ _ => exact absurd smooth smooth_not_unsynced
  | unsynced _ _ => exact ⟨_, rfl⟩
  | startedAlone _ left _ _ _ => cases left

theorem resync_fails_iff (episode : Episode) :
    (∃ err, (episode.exec setup state).2 = .answered (.error (.resyncFailed err))) ↔
      ∃ given, episode.activity = .request (.resync given) ∧ Connected state given ∧
        ¬ Resyncs state.supervisor (after 4 episode.outcomes) := by
  obtain ⟨activity, outcomes⟩ := episode
  have resynced (given : Option String) : (perform setup (.request (.resync given))).Runs state
      outcomes fun response _ _ =>
        (∃ err, response = .answered (.error (.resyncFailed err))) ↔
          Connected state given ∧ ¬ Resyncs state.supervisor (after 4 outcomes) := by
    apply (handle_resync_runs setup given).andThen
    intro result _ _ ended
    cases result with
    | ok _ => exact iff_of_false nofun fun failed => failed.2 ended.2
    | error err =>
      cases err with
      | noPrimary => exact iff_of_false nofun fun failed => ended failed.1
      | resyncFailed err => exact iff_of_true ⟨err, rfl⟩ ⟨ended.1, ended.2.1⟩
      | _ => exact ended.elim
  constructor
  · rintro ⟨err, failed⟩
    have ended := episode_ended False setup state ⟨activity, outcomes⟩ False.elim False.elim
    rw [failed] at ended
    obtain ⟨given, rfl⟩ := unsynced_activity ended
    exact ⟨given, rfl, (runs_exec.mp (resynced given)).mp ⟨err, failed⟩⟩
  · rintro ⟨given, rfl, fails⟩
    exact (runs_exec.mp (resynced given)).mpr fails

/-- After every activity of a run a leader has no connection stored, exactly if no resync
fails on a leader in it. -/
theorem leader_unattached_iff (setup : Setup) (state : SidecarState) (episodes : List Episode)
    (initially : LeaderUnattached state) : Meets (serialStep setup)
        (fun state episode => LeaderUnattached (episode.exec setup state).1) state episodes ↔
      Meets (serialStep setup)
        (fun state episode => ¬ AttachesLeader state episode) state episodes := by
  refine meets_congr (serialStep setup) _ _ LeaderUnattached ?_ ?_ episodes state initially
  · rintro state episode next - unattached ⟨⟩
    exact unattached
  · intro state episode before
    have ended := episode_ended False setup state episode False.elim False.elim
    rw [unattached_iff ended before, resync_fails_iff]
    rfl

/-- A stop and a restart leave the leader unattached. -/
theorem restarted_leader_unattached : Meets (serialStep loneSetup)
      (fun state episode => LeaderUnattached (episode.exec loneSetup state).1) servingLeader
      [⟨.request .stop, fun _ => {}⟩, ⟨.request .restart, fun _ => {}⟩] := by
  have other {state : SidecarState} {request : ControlRequest} {outcomes : Nat → Outcome}
      (different : ∀ given, request ≠ .resync given) :
      ¬ AttachesLeader state ⟨.request request, outcomes⟩ := by
    rintro ⟨-, given, same, -⟩
    injection same with same
    exact different given same
  refine (leader_unattached_iff loneSetup servingLeader _ fun _ => rfl).mpr ⟨other nofun, ?_⟩
  rintro _ ⟨⟩
  exact ⟨other nofun, fun _ _ => trivial⟩

/-- No primary answers a resync of a leader. The leader keeps its role with the connection
stored, and the next restart brings its server up as a standby. -/
theorem failed_resync_attaches_leader : LeaderUnattached servingLeader ∧
      (run (serialStep loneSetup) servingLeader
        [⟨.request (.resync (some "host=b")), fun _ => { command := .failed "2" "" }⟩]).map
          (fun state => (state.role, state.config.primaryConninfo)) =
        some (.leader, some "host=b application_name=pgvisor-node1") ∧
      (run (serialStep loneSetup) servingLeader
        [⟨.request (.resync (some "host=b")), fun _ => { command := .failed "2" "" }⟩,
          ⟨.request .restart, fun _ => {}⟩]).map
          (fun state => (state.role, state.supervisor.live)) =
        some (.leader, [{ pid := 2, standby := true }]) := by
  refine ⟨fun _ => rfl, ?_, ?_⟩
  all_goals decide +kernel

/-! ### Fenced nodes -/

/-- A fenced node has no running server. -/
def Down (state : SidecarState) : Prop :=
  state.role = .fenced → state.supervisor.status ≠ .running ∧ state.supervisor.pids = []

/-- The responses of activities that leave a server behind without changing the role: a
start or restart with the stored configuration, and a resync whose server did not become
ready in time. -/
inductive BringsUp : Activity → Response → Prop
  | start {result : ControlResult} (left : LeftRunning result) :
      BringsUp (.request .start) (.answered result)
  | restart {result : ControlResult} (left : LeftRunning result) :
      BringsUp (.request .restart) (.answered result)
  | resync (given : Option String) : BringsUp (.request (.resync given))
        (.answered (.error (.resyncFailed (.commandFailed timeoutMessage))))
  | rejoin : BringsUp .tick (.ticked (.error (.commandFailed timeoutMessage)))

/-- What brings a server up on a fenced node: a start or restart without a leader to follow,
and a resync or rejoin whose server does not become ready in time. -/
def Revives (setup : Setup) (state : SidecarState) (answers : Nat → Outcome) : Activity → Prop
  | .request .start => StartsUnled setup state (after 1 answers)
  | .request .restart => StartsUnled setup state (after (stopSteps state.supervisor) answers)
  | .request (.resync given) => Connected state given ∧
      Strands state.supervisor (after 4 answers)
  | .tick => ∃ peer < probed setup setup.peers,
      FirstWanted StatusResponse.isActiveLeader peer (after 2 answers) ∧
        Strands state.supervisor (after (peer + 4) answers)
  | _ => False

/-- The response and the role tell of a server brought up only if the answers do. -/
theorem revives_of_brings_up (episode : Episode) (fenced : state.role = .fenced)
    (stays : (episode.exec setup state).1.role = .fenced)
    (brings : BringsUp episode.activity (episode.exec setup state).2) :
    Revives setup state episode.outcomes episode.activity := by
  obtain ⟨activity, outcomes⟩ := episode
  have runs : (perform setup activity).Runs state outcomes fun response later _ =>
      later.role = .fenced → BringsUp activity response →
        Revives setup state outcomes activity := by
    cases activity with
    | tick =>
      apply (monitor_tick_runs setup fenced).andThen
      rintro result _ _ ended - ⟨⟩
      exact ended rfl
    | request request =>
      unfold perform
      rw [runs_bind]
      cases request with
      | start =>
        apply (handle_start_runs setup).mono
        intro _ _ _ ended role brings
        cases brings with
        | start left => exact ended.1 role left
      | restart =>
        apply (handle_restart_runs setup).mono
        intro _ _ _ ended role brings
        cases brings with
        | restart left => exact ended.1 role left
      | resync given =>
        apply (handle_resync_runs setup given).mono
        rintro _ _ _ ended - ⟨⟩
        exact ⟨ended.1, ended.2.2 rfl⟩
      | _ => exact (runs_any _).mono fun _ _ _ _ _ brings => nomatch brings
  exact runs_exec.mp runs stays brings

/-- No server is started beside a live one, and none is brought up on a fenced node. -/
structure KeepsDown (setup : Setup) (state : SidecarState) (episode : Episode) : Prop where
  alone : episode.activity = .request .start →
    state.supervisor.status = .running ∨ state.supervisor.pids = []
  down : state.role = .fenced → ¬ Revives setup state episode.outcomes episode.activity

theorem Starts.brings_up (starts : Starts status request prior)
    (left : LeftRunning result) : BringsUp (.request request) (.answered result) := by
  cases starts with
  | start _ => exact .start left
  | restart => exact .restart left

theorem down_after (ended : Ended True True state activity response later) (before : Down state)
    (quietly : state.role = .fenced → later.role = .fenced → ¬ BringsUp activity response) :
    Down later := by
  intro fenced
  -- where the role is kept, the node was fenced before, so its server was down
  have stayed {conninfo : Option String} (stands : Stands True state.role conninfo later) :
      state.role = .fenced := (stands trivial).1.symm.trans fenced
  have elsewhere {role : NodeRole} {conninfo : Option String}
      (stands : Stands True role conninfo later) (other : role ≠ .fenced) :
      later.supervisor.status ≠ .running ∧ later.supervisor.pids = [] :=
    absurd ((stands trivial).1.symm.trans fenced) other
  have moved {status : ProcessStatus} (now : later.supervisor.status = status)
      (idle : status ≠ .running) (none : later.supervisor.pids = []) :
      later.supervisor.status ≠ .running ∧ later.supervisor.pids = [] :=
    ⟨fun running => idle (now.symm.trans running), none⟩
  cases ended with
  | quiet _ beside =>
    obtain ⟨idle, none⟩ := before (stayed beside.stands)
    exact moved beside.undisturbed.status idle (beside.undisturbed.none none)
  | promoted _ _ stands | repointed _ _ stands => exact elsewhere stands (by decide)
  | fenced _ status none _ => exact moved status (by decide) (none trivial)
  | restored _ stands | unrestored _ stands => exact elsewhere stands (by decide)
  | prepared calm stands =>
    exact moved calm.status nofun (calm.none (before (stayed stands)).2)
  | cancelled _ _ none stands =>
    obtain ⟨stopped, gone⟩ := none (before (stayed stands)).2
    exact moved stopped (by decide) gone
  | unconnected calm stands =>
    exact moved calm.status nofun (calm.none (before (stayed stands)).2)
  | resynced _ _ stands => exact elsewhere stands (by decide)
  | unsynced failed stands =>
    cases failed with
    | failed status _ none =>
      refine moved status (by decide) (none trivial ?_)
      rintro rfl
      exact quietly (stayed stands) fenced (.resync _)
  | unjoined _ failed stands =>
    cases failed with
    | failed status _ none =>
      refine moved status (by decide) (none trivial ?_)
      rintro rfl
      exact quietly (stayed stands) fenced .rejoin
  | unfollowed _ _ stands => exact elsewhere stands (by decide)
  | startedBehind _ _ _ stands => exact elsewhere stands (by decide)
  | startedAlone starts left _ _ stands =>
    exact absurd (starts.brings_up left) (quietly (stayed stands) fenced)
  | unstarted _ idle status none _ => exact moved status idle (none trivial)
  | exited _ status none _ => exact moved status (by decide) (none trivial)
  | stopped status none _ => exact moved status (halted_ne_running _) (none trivial)

/-- Between the activities of a run, a fenced node has no running server, as long as no
server is started beside a live one and none is brought up on a fenced node. -/
theorem fenced_stays_down (setup : Setup) (state : SidecarState) (episodes : List Episode)
    (accounted : Accounted state.supervisor) (initially : Down state)
    (keeping : Meets (serialStep setup) (KeepsDown setup) state episodes) :
    Meets (serialStep setup) (fun state episode => Down (episode.exec setup state).1) state
      episodes := by
  have ended (state : SidecarState) (episode : Episode) (accounted : Accounted state.supervisor)
      (keeps : KeepsDown setup state episode) :=
    episode_ended True setup state episode (fun _ => accounted) fun _ => keeps.alone
  have quietly (state : SidecarState) (episode : Episode) (keeps : KeepsDown setup state episode)
      (fenced : state.role = .fenced) (stays : (episode.exec setup state).1.role = .fenced)
      (brings : BringsUp episode.activity (episode.exec setup state).2) : False :=
    keeps.down fenced (revives_of_brings_up setup episode fenced stays brings)
  refine meets_of_invariant (serialStep setup) _ _
    (fun state => Accounted state.supervisor ∧ Down state) ?_ ?_
    ⟨accounted, initially⟩ keeping
  · rintro state episode next ⟨accounted, down⟩ keeps ⟨⟩
    have ended := ended state episode accounted keeps
    exact ⟨ended.accounted trivial accounted, down_after ended down (quietly _ _ keeps)⟩
  · rintro state episode ⟨accounted, down⟩ keeps
    exact down_after (ended state episode accounted keeps) down (quietly _ _ keeps)

theorem serving_leader_accounted : Accounted servingLeader.supervisor :=
  ⟨.inr ⟨1, rfl, rfl, rfl⟩, nofun⟩

/-- A fenced node that is started finds a leader and follows it. -/
theorem fenced_follower_down :
    Meets (serialStep { loneSetup with peers := ["http://node2:8080"] })
      (fun state episode =>
        Down (episode.exec { loneSetup with peers := ["http://node2:8080"] } state).1)
      servingLeader
      [⟨.request .fence, fun _ => {}⟩,
        ⟨.request .start, fun _ => { reply := some ⟨2, .leader, .running⟩ }⟩] := by
  refine fenced_stays_down _ servingLeader _ serving_leader_accounted nofun ⟨⟨nofun, nofun⟩, ?_⟩
  rintro _ ⟨⟩
  refine ⟨⟨fun _ => .inr (by decide +kernel), fun _ revives => ?_⟩, fun _ _ => trivial⟩
  exact revives.1 0 (by decide) ⟨_, rfl, rfl⟩

/-- A start on a fenced node without a leader to follow runs the server under the role
fenced. -/
theorem start_runs_fenced : Accounted servingLeader.supervisor ∧ Down servingLeader ∧
      (run (serialStep loneSetup) servingLeader
        [⟨.request .fence, fun _ => {}⟩, ⟨.request .start, fun _ => {}⟩]).map
          (fun state => (state.role, state.supervisor.status, state.supervisor.pids)) =
        some (.fenced, .running, [2]) := by
  refine ⟨serving_leader_accounted, nofun, ?_⟩
  decide +kernel

end PgVisor.Sidecar
