import PgVisor.SupervisorFrames

/-!
# What the supervisor does to its server process

Most actions of the supervisor leave the process alone: they read, run a command or change
files. Meanwhile the process may exit by itself. Whatever else runs beside a method that
starts or stops the server is relied upon to do no more than that (`Undisturbed`).

The process is tracked if it is the only one alive, its handle is held and its pid is
stored. Each method that starts or stops the server has one specification. It says what
becomes of the status and, where the processes were known to be tracked before, that no two
are alive at any moment and what is alive at the end. The condition `known` makes the
specification usable where nothing is known of the processes.
-/

namespace PgVisor.Sidecar

open AwaitTasks Async List
open Election (ProcessStatus)

variable {α : Type}

/-- At most one server process is alive, its handle is held and its pid stored. -/
def Tracked (supervisor : PostgresSupervisor) : Prop :=
  supervisor.pids = [] ∨ ∃ pid, supervisor.pids = [pid] ∧ supervisor.activeChild = some pid ∧
      supervisor.childPid = pid

/-- Moreover, a stopped server is not alive. -/
structure Accounted (supervisor : PostgresSupervisor) : Prop where
  tracked : Tracked supervisor
  stopped : supervisor.status = .stopped → supervisor.pids = []

/-- If the processes are known to be tracked, no two are alive, and the pid of the live one is
stored. -/
def Single (known : Prop) (supervisor : PostgresSupervisor) : Prop :=
  known → supervisor.pids = [] ∨ supervisor.pids = [supervisor.childPid]

variable {supervisor : PostgresSupervisor}

/-- At most one server runs where the handle tracks it. -/
theorem Tracked.single (tracked : Tracked supervisor) :
    supervisor.pids = [] ∨ supervisor.pids = [supervisor.childPid] := by
  rcases tracked with none | ⟨pid, one, -, stored⟩
  · exact .inl none
  · exact .inr (by rw [one, stored])

/-- A directory without servers is tracked. -/
theorem Tracked.of_none (none : supervisor.pids = []) : Tracked supervisor := .inl none

/-- It is accounted for too. -/
theorem Accounted.of_none (none : supervisor.pids = []) :
    Accounted supervisor := ⟨.of_none none, fun _ => none⟩

variable {before after : PostgresSupervisor}

/-- Events of other tasks bring no server to an empty directory. -/
theorem Undisturbed.none (calm : Undisturbed before after) (none : before.pids = []) :
    after.pids = [] := by
  have fewer := calm.pids
  rw [none] at fewer
  exact sublist_nil.mp fewer

/-- They leave a tracked server tracked. -/
theorem Undisturbed.tracked (calm : Undisturbed before after) (tracked : Tracked before) :
    Tracked after := by
  rcases tracked with none | ⟨pid, one, handle, stored⟩
  · exact .inl (calm.none none)
  have fewer := calm.pids
  rw [one] at fewer
  rcases sublist_singleton.mp fewer with gone | same
  · exact .inl gone
  · exact .inr ⟨pid, same, calm.activeChild.trans handle, calm.childPid.trans stored⟩

/-- They leave an accounted one accounted for. -/
theorem Undisturbed.accounted (calm : Undisturbed before after) (accounted : Accounted before) :
    Accounted after where
  tracked := calm.tracked accounted.tracked
  stopped stopped := calm.none (accounted.stopped (calm.status.symm.trans stopped))

variable {known : Prop}

/-- They add no second server. -/
theorem Undisturbed.single (single : Single known before) (calm : Undisturbed before after) :
    Single known after := by
  intro holds
  rcases single holds with none | one
  · exact .inl (calm.none none)
  · have fewer := calm.pids
    rw [one] at fewer
    rw [calm.childPid]
    exact sublist_singleton.mp fewer

/-- The two facts as they are carried along a task, where the server is known. -/
theorem Undisturbed.tracks (calm : Undisturbed before after) (tracked : known → Tracked before) :
    known → Tracked after := fun holds => calm.tracked (tracked holds)

/-- A directory known to be empty stays empty. -/
theorem Undisturbed.remains (calm : Undisturbed before after) (none : known → before.pids = []) :
    known → after.pids = [] := fun holds => calm.none (none holds)

/-- A tracked directory is held by one server at most. -/
theorem single_of_tracked (tracked : known → Tracked supervisor) : Single known supervisor :=
  fun holds => (tracked holds).single

/-- So is an empty one. -/
theorem single_of_none (none : known → supervisor.pids = []) : Single known supervisor :=
  single_of_tracked fun holds => .of_none (none holds)

/-- A task that leaves the process alone, beside others that do. -/
theorem calm_guarded {results : α → Prop} {task : Supervision α}
    (calm : task.Within Undisturbed results) (single : Single known supervisor) :
    task.Guarded Undisturbed (Single known) supervisor fun result later =>
      results result ∧ Undisturbed supervisor later := by
  exact calm.guarded .refl (fun _ _ _ => .trans) (fun _ _ => Undisturbed.single) single

variable (setup : Setup) (config : PostgresConfig)

/-! ### Starting and stopping the server -/

section Processes

variable {known : Prop} {supervisor : PostgresSupervisor}

/-- Reading the status yields the status there was. -/
theorem read_status_guarded (single : Single known supervisor) :
    readStatus.Guarded Undisturbed (Single known) supervisor fun status later =>
      status = supervisor.status ∧ Undisturbed supervisor later := by
  intro outcome
  have calm := reap_undisturbed supervisor outcome.exited
  exact ⟨Undisturbed.single single calm, fun later relied => ⟨rfl, calm.trans relied⟩⟩

/-- Storing a status changes nothing else. -/
theorem set_status_guarded (status : ProcessStatus) (single : Single known supervisor) :
    (setStatus status).Guarded Undisturbed (Single known) supervisor fun _ later =>
      Undisturbed { supervisor with status := status } later := by
  intro outcome
  have calm : Undisturbed { supervisor with status := status }
      { supervisor.reap outcome.exited with status := status } :=
    ⟨rfl, rfl, rfl, rfl, (reap_undisturbed supervisor outcome.exited).pids⟩
  have before : Single known { supervisor with status := status } := single
  exact ⟨Undisturbed.single before calm, fun later relied => calm.trans relied⟩

/-- The process that is tracked is the one that ends. -/
theorem drop_child_none (tracked : Tracked supervisor) : supervisor.dropChild.pids = [] := by
  unfold PostgresSupervisor.dropChild
  rcases tracked with none | ⟨pid, one, handle, -⟩
  · have empty : supervisor.live = [] := map_eq_nil_iff.mp none
    split
    · simp [PostgresSupervisor.pids, empty]
    · exact none
  · have others : (supervisor.live.filter fun process => process.pid ≠ pid).map
        ServerProcess.pid = supervisor.pids.filter (· ≠ pid) := by
      rw [PostgresSupervisor.pids, filter_map]
      rfl
    simp only [handle, PostgresSupervisor.pids]
    rw [others, one]
    simp

/-- A tracked child that is killed leaves no server behind. -/
theorem end_child_guarded (tracked : known → Tracked supervisor) :
    endChild.Guarded Undisturbed (Single known) supervisor fun _ later =>
      later.status = supervisor.status ∧ (known → later.pids = []) := by
  intro outcome
  have reaped (holds : known) : Tracked (supervisor.reap outcome.exited) :=
    (reap_undisturbed supervisor outcome.exited).tracked (tracked holds)
  refine ⟨single_of_none fun holds => drop_child_none (reaped holds), fun later relied => ?_⟩
  refine ⟨relied.status.trans drop_child_status, fun holds => ?_⟩
  exact relied.none (drop_child_none (reaped holds))

/-- Nor does a server that is asked to halt. -/
theorem halt_server_guarded (tracked : known → Tracked supervisor) :
    haltServer.Guarded Undisturbed (Single known) supervisor fun _ later =>
      later.status = supervisor.status ∧ (known → later.pids = []) := by
  unfold haltServer
  apply (calm_guarded (look_calm fun _ _ => rfl) (single_of_tracked tracked)).andThen
  rintro initialised looked ⟨-, calm⟩
  have ended : endChild.Guarded Undisturbed (Single known) looked fun _ later =>
      later.status = supervisor.status ∧ (known → later.pids = []) := by
    rw [← calm.status]
    exact end_child_guarded (calm.tracks tracked)
  split
  · apply (calm_guarded run_command_calm (single_of_tracked (calm.tracks tracked))).andThen
    rintro _ commanded ⟨-, further⟩
    have throughout := calm.trans further
    rw [← throughout.status]
    exact end_child_guarded (throughout.tracks tracked)
  · exact ended

/-- What is noted at the end about a server that is gone. -/
theorem mark_guarded {change : PostgresSupervisor → PostgresSupervisor}
    (none : known → supervisor.pids = [])
    (same : ∀ exited, (change (supervisor.reap exited)).pids = (supervisor.reap exited).pids)
    (status : ∀ exited, (change (supervisor.reap exited)).status = (change supervisor).status) :
    (supervise fun supervisor _ => (change supervisor, ())).Guarded Undisturbed (Single known)
      supervisor fun _ later =>
        later.status = (change supervisor).status ∧ (known → later.pids = []) := by
  intro outcome
  have gone (holds : known) : (change (supervisor.reap outcome.exited)).pids = [] := by
    rw [same]
    exact (reap_undisturbed supervisor outcome.exited).none (none holds)
  refine ⟨single_of_none gone, fun later relied => ⟨?_, relied.remains gone⟩⟩
  exact relied.status.trans (status outcome.exited)

/-- The status after the server has been stopped. -/
def halted (status : ProcessStatus) : ProcessStatus :=
  if status ≠ .restoring then .stopped else status

/-- A stop ends the server and answers success. -/
theorem stop_guarded (accounted : known → Accounted supervisor) :
    stop.Guarded Undisturbed (Single known) supervisor fun result later =>
      result = .ok () ∧ later.status = halted supervisor.status ∧ (known → later.pids = []) := by
  have tracked (holds : known) : Tracked supervisor := (accounted holds).tracked
  unfold stop
  apply (read_status_guarded (single_of_tracked tracked)).andThen
  rintro _ first ⟨rfl, calm⟩
  by_cases stopped : supervisor.status = .stopped
  · rw [if_pos stopped]
    refine ⟨rfl, ?_, fun holds => calm.none ((accounted holds).stopped stopped)⟩
    rw [calm.status, stopped]
    rfl
  · rw [if_neg stopped, guarded_bind]
    apply (halt_server_guarded (calm.tracks tracked)).mono
    rintro _ second ⟨same, none⟩
    apply (mark_guarded none (fun _ => rfl) fun _ => rfl).andThen
    rintro _ later ⟨status, none⟩
    refine ⟨rfl, ?_, none⟩
    rw [status, ← calm.status, ← same]
    rfl

/-- Fencing ends the server whatever the status was. -/
theorem fence_guarded (tracked : known → Tracked supervisor) :
    fence.Guarded Undisturbed (Single known) supervisor fun result later =>
      result = .ok () ∧ later.status = .fenced ∧ (known → later.pids = []) := by
  unfold fence
  apply (set_status_guarded .fenced (single_of_tracked tracked)).andThen
  rintro _ first calm
  apply (halt_server_guarded (calm.tracks tracked)).andThen
  rintro _ second ⟨same, none⟩
  apply (mark_guarded none (fun _ => rfl) fun _ => rfl).andThen
  rintro _ later ⟨status, none⟩
  exact ⟨rfl, status.trans (same.trans calm.status), none⟩

/-- Whoever replaces the directory stops the server first, and the status is Restoring. -/
theorem stopped_restoring_guarded {rest : Supervision α}
    {post : α → PostgresSupervisor → Prop} (tracked : known → Tracked supervisor)
    (after : ∀ later, later.status = .restoring → (known → later.pids = []) →
      rest.Guarded Undisturbed (Single known) later post) :
    (setStatus .restoring >>= fun _ => stop >>= fun _ => rest).Guarded Undisturbed
      (Single known) supervisor post := by
  apply (set_status_guarded .restoring (single_of_tracked tracked)).andThen
  intro _ first calm
  have accounted (holds : known) : Accounted first := by
    refine ⟨calm.tracked (tracked holds), fun stopped => ?_⟩
    rw [calm.status] at stopped
    cases stopped
  apply (stop_guarded accounted).andThen
  rintro _ second ⟨-, status, none⟩
  refine after second ?_ none
  rw [status, calm.status]
  rfl

/-- How `launch` ends. -/
inductive Launched (known : Prop) (status : ProcessStatus) :
    Except SupervisorError Nat → PostgresSupervisor → Prop
  | spawned {pid later} (same : later.status = status)
      (stored : later.childPid = pid) (alone : known → later.pids.Sublist [pid]) :
      Launched known status (.ok pid) later
  | refused {err later}
      (early : ∀ message, err ≠ .commandFailed message) (same : later.status = status)
      (none : known → later.pids = []) : Launched known status (.error err) later

/-- A launch into an empty directory starts one server at most. -/
theorem launch_guarded (none : known → supervisor.pids = []) :
    (launch setup config).Guarded Undisturbed (Single known) supervisor
      (Launched known supervisor.status) := by
  intro outcome
  have reaped (holds : known) : (supervisor.reap outcome.exited).pids = [] :=
    (reap_undisturbed supervisor outcome.exited).none (none holds)
  dsimp only
  split
  · refine ⟨single_of_none reaped, fun later relied => ?_⟩
    exact .refused (by simp) relied.status (relied.remains reaped)
  split
  · refine ⟨single_of_none reaped, fun later relied => ?_⟩
    exact .refused (by simp) relied.status (relied.remains reaped)
  -- nothing was alive, so the new process is
  have alone (holds : known) : (supervisor.reap outcome.exited).pids ++
      [supervisor.spawned + 1] = [supervisor.spawned + 1] := by
    rw [reaped holds, nil_append]
  refine ⟨fun holds => ?_, fun later relied => ?_⟩
  · simp only [PostgresSupervisor.pids, map_append, map_cons, map_nil]
    exact .inr (alone holds)
  refine .spawned relied.status relied.childPid fun holds => ?_
  have fewer := relied.pids
  simp only [PostgresSupervisor.pids, map_append, map_cons, map_nil] at fewer
  exact (alone holds) ▸ fewer

/-- The status after a server has been registered. -/
def launchedStatus (status : ProcessStatus) : ProcessStatus :=
  if status ≠ .restoring then .running else status

/-- A registered server is tracked. -/
theorem register_guarded (pid : Nat) (stored : supervisor.childPid = pid)
    (alone : known → supervisor.pids.Sublist [pid]) :
    (register pid).Guarded Undisturbed (Single known) supervisor fun _ later =>
      later.status = launchedStatus supervisor.status ∧ (known → Tracked later) := by
  intro outcome
  have calm := reap_undisturbed supervisor outcome.exited
  have tracked (holds : known) : Tracked
      { supervisor.reap outcome.exited with
        activeChild := some pid
        status := launchedStatus supervisor.status } := by
    rcases sublist_singleton.mp (calm.pids.trans (alone holds)) with gone | there
    · exact .inl gone
    · exact .inr ⟨pid, there, rfl, stored⟩
  exact ⟨single_of_tracked tracked, fun later relied =>
    ⟨relied.status, relied.tracks tracked⟩⟩

/-- How `start` ends. -/
inductive Started (known : Prop) (status : ProcessStatus) :
    Except SupervisorError Unit → PostgresSupervisor → Prop
  | up {later} (now : later.status = launchedStatus status)
      (tracked : known → Tracked later) : Started known status (.ok ()) later
  | refused {err later}
      (early : ∀ message, err ≠ .commandFailed message) (same : later.status = status)
      (idle : status ≠ .running) (none : known → later.pids = []) :
      Started known status (.error err) later

/-- A server is started beside no other if a status other than Running means that none is
alive. -/
theorem start_guarded (tracked : known → Tracked supervisor)
    (idle : known → supervisor.status ≠ .running → supervisor.pids = []) :
    (start setup config).Guarded Undisturbed (Single known) supervisor
      (Started known supervisor.status) := by
  unfold start
  apply (read_status_guarded (single_of_tracked tracked)).andThen
  rintro _ first ⟨rfl, calm⟩
  by_cases running : supervisor.status = .running
  · rw [if_pos running]
    refine .up ?_ (calm.tracks tracked)
    rw [calm.status, running]
    rfl
  · rw [if_neg running, guarded_bind]
    apply (launch_guarded setup config fun holds => calm.none (idle holds running)).mono
    rintro result second launched
    cases launched with
    | refused early same none => exact .refused early (same.trans calm.status) running none
    | spawned same stored alone =>
      apply (register_guarded _ stored alone).andThen
      rintro _ third ⟨now, following⟩
      refine .up ?_ following
      rw [now, same, calm.status]

/-- The status after a child has been found to have exited. -/
def exitedStatus (status : ProcessStatus) : ProcessStatus :=
  if status ≠ .fenced then .stopped else status

/-- The tracked process is the child, so none is alive if the child is not. -/
theorem Tracked.none_of_dead (tracked : Tracked supervisor) (dead : ¬ supervisor.childAlive) :
    supervisor.pids = [] := by
  rcases tracked with gone | ⟨pid, one, held, -⟩
  · exact gone
  have member : pid ∈ supervisor.pids := by
    rw [one]
    exact mem_singleton_self pid
  obtain ⟨process, present, same⟩ := mem_map.mp member
  refine absurd ?_ dead
  simp only [PostgresSupervisor.childAlive, held, any_eq_true, decide_eq_true_eq]
  exact ⟨process, present, same⟩

/-- Without servers the child is not alive. -/
theorem child_dead_of_none (none : supervisor.pids = []) : ¬ supervisor.childAlive := by
  have empty : supervisor.live = [] := map_eq_nil_iff.mp none
  unfold PostgresSupervisor.childAlive
  split <;> simp [empty]

/-- The answer of `is_running` is true of some moment of the call. -/
theorem is_running_guarded (single : Single known supervisor) :
    isRunning.Guarded Undisturbed (Single known) supervisor fun running later =>
      ∃ seen, Undisturbed supervisor seen ∧ running = seen.childAlive ∧ Undisturbed seen later := by
  intro outcome
  have calm := reap_undisturbed supervisor outcome.exited
  exact ⟨Undisturbed.single single calm, fun later relied => ⟨_, calm, rfl, relied⟩⟩

/-- An exit that is noticed leaves no server. -/
theorem notice_exit_guarded (tracked : known → Tracked supervisor) :
    noticeExit.Guarded Undisturbed (Single known) supervisor fun result later =>
      match result with
      | none => Undisturbed supervisor later
      | some _ => later.status = exitedStatus supervisor.status ∧ (known → later.pids = []) := by
  intro outcome
  have calm := reap_undisturbed supervisor outcome.exited
  have single := Undisturbed.single (single_of_tracked tracked) calm
  dsimp only
  split
  · exact ⟨single, fun later relied => calm.trans relied⟩
  next child handle =>
    split
    · exact ⟨single, fun later relied => calm.trans relied⟩
    next dead =>
      have none (holds : known) : (supervisor.reap outcome.exited).pids = [] :=
        (calm.tracked (tracked holds)).none_of_dead dead
      refine ⟨single_of_none none, fun later relied => ?_⟩
      exact ⟨relied.status, relied.remains none⟩

/-- How `wait_ready` ends. -/
inductive Awaited (known : Prop) (status : ProcessStatus) :
    Except SupervisorError Unit → PostgresSupervisor → Prop
  | ready {later} (same : later.status = status)
      (tracked : known → Tracked later) : Awaited known status (.ok ()) later
  | timedOut {later} (same : later.status = status)
      (tracked : known → Tracked later) :
      Awaited known status (.error (.commandFailed timeoutMessage)) later
  | exited {later} (code : String)
      (now : later.status = exitedStatus status) (none : known → later.pids = []) :
      Awaited known status (.error (.commandFailed (exitedMessage code))) later

/-- Waiting either ends ready with the server tracked or reports why not. -/
theorem wait_ready_guarded (retries : Nat) (tracked : known → Tracked supervisor) :
    (waitReady retries).Guarded Undisturbed (Single known) supervisor
      (Awaited known supervisor.status) := by
  induction retries generalizing supervisor with
  | zero => exact .timedOut rfl tracked
  | succ retries ih =>
    unfold waitReady
    apply (notice_exit_guarded tracked).andThen
    intro noticed first outcome
    cases noticed with
    | some code => exact .exited code outcome.1 outcome.2
    | none =>
      have still := outcome.tracks tracked
      apply (calm_guarded run_command_calm (single_of_tracked still)).andThen
      rintro result second ⟨-, calm⟩
      have throughout := outcome.trans calm
      have after := throughout.tracks tracked
      split
      · exact .ready throughout.status after
      · rw [← throughout.status]
        exact ih after

/-- So does waiting for a server just launched. -/
theorem await_launched_guarded (tracked : known → Tracked supervisor) :
    awaitLaunched.Guarded Undisturbed (Single known) supervisor
      (Awaited known supervisor.status) := by
  unfold awaitLaunched
  apply (calm_guarded (look_calm fun _ _ => rfl) (single_of_tracked tracked)).andThen
  rintro pid first ⟨-, calm⟩
  have still := calm.tracks tracked
  split
  · rw [← calm.status]
    exact wait_ready_guarded 30 still
  · exact .ready calm.status still

/-! ### Replacing the data directory -/

/-- How `resync_from_primary` ends. -/
inductive Resynced (known : Prop) : Except SupervisorError Unit → PostgresSupervisor → Prop
  | following {later} (running : later.status = .running)
      (tracked : known → Tracked later) : Resynced known (.ok ()) later
  | failed {err later} (fenced : later.status = .fenced)
      (tracked : known → Tracked later)
      (none : known → err ≠ .commandFailed timeoutMessage → later.pids = []) :
      Resynced known (.error err) later

/-- How `resync_from_primary_inner` ends, apart from the status. -/
inductive Cloned (known : Prop) : Except SupervisorError Unit → PostgresSupervisor → Prop
  | following {later} (running : later.status = .running)
      (tracked : known → Tracked later) : Cloned known (.ok ()) later
  | failed {err later}
      (tracked : known → Tracked later)
      (none : known → err ≠ .commandFailed timeoutMessage → later.pids = []) :
      Cloned known (.error err) later

/-- A failed clone that leaves no server is accounted for. -/
theorem Cloned.of_none {err : SupervisorError} {later : PostgresSupervisor}
    (none : known → later.pids = []) : Cloned known (.error err) later :=
  .failed (fun holds => .of_none (none holds)) fun holds _ => none holds

variable (conninfo : String)

/-- A cloned directory is started with one server at most. -/
theorem start_cloned_guarded (config : PostgresConfig) (none : known → supervisor.pids = []) :
    (startCloned setup conninfo config).Guarded Undisturbed (Single known) supervisor
      (Cloned known) := by
  unfold startCloned
  refine (start_guarded setup _ (fun holds => .of_none (none holds))
    fun holds _ => none holds).andThen ?_
  intro result first started
  cases started with
  | refused _ _ _ gone => exact .of_none gone
  | up _ tracked =>
    apply (await_launched_guarded tracked).andThen
    intro ready second awaited
    cases awaited with
    | timedOut _ following => exact .failed following fun _ different => absurd rfl different
    | exited code _ gone => exact .of_none gone
    | ready _ following =>
      apply (set_status_guarded .running (single_of_tracked following)).andThen
      intro _ third calm
      exact .following calm.status (calm.tracks following)

/-- Cloning and starting keep to one server. -/
theorem resync_inner_guarded (config : PostgresConfig) (none : known → supervisor.pids = []) :
    (resyncInner setup conninfo config).Guarded Undisturbed (Single known) supervisor
      (Cloned known) := by
  unfold resyncInner
  apply (calm_guarded (await_primary_calm 15) (single_of_none none)).andThen
  rintro result first ⟨-, calm⟩
  have gone := calm.remains none
  cases result with
  | error err => exact .of_none gone
  | ok _ =>
    apply (calm_guarded clear_data_dir_calm (single_of_none gone)).andThen
    rintro cleared second ⟨-, calm⟩
    have gone := calm.remains gone
    cases cleared with
    | error err => exact .of_none gone
    | ok _ =>
      apply (calm_guarded (basebackup_calm setup conninfo) (single_of_none gone)).andThen
      rintro cloned third ⟨-, calm⟩
      have gone := calm.remains gone
      cases cloned with
      | unstarted _ | failed _ _ => exact .of_none gone
      | succeeded => exact start_cloned_guarded setup conninfo config gone

/-- A whole resync keeps to one server, whatever ran before. -/
theorem resync_from_primary_guarded (config : PostgresConfig)
    (tracked : known → Tracked supervisor) :
    (resyncFromPrimary setup conninfo config).Guarded Undisturbed (Single known) supervisor
      (Resynced known) := by
  unfold resyncFromPrimary
  refine stopped_restoring_guarded tracked fun second _ none => ?_
  refine (resync_inner_guarded setup conninfo config none).andThen ?_
  intro result third cloned
  cases cloned with
  | following running tracked => exact .following running tracked
  | failed tracked none =>
    apply (set_status_guarded .fenced (single_of_tracked tracked)).andThen
    intro _ last calm
    refine .failed calm.status (calm.tracks tracked) ?_
    intro holds different
    exact calm.none (none holds different)

/-- An error other than that of a server that did not become ready. -/
def Unstarted (err : SupervisorError) : Prop :=
  ∀ message, err = .commandFailed message → message = tarMessage

/-- How `restore_from_snapshot` ends. -/
inductive Restored (known : Prop) : Except SupervisorError Unit → PostgresSupervisor → Prop
  | serving {later} (running : later.status = .running)
      (tracked : known → Tracked later) : Restored known (.ok ()) later
  | unready {err later} (late : ¬ Unstarted err)
      (stopped : later.status = .stopped) (none : known → later.pids = []) :
      Restored known (.error err) later
  | stuck {err later} (early : Unstarted err)
      (restoring : later.status = .restoring) (none : known → later.pids = []) :
      Restored known (.error err) later

/-- The messages of a server that did not become ready start like this one. -/
theorem exited_message_head (code : String) : (exitedMessage code).toList.head? = some 'P' := by
  have opening : "Postgres process exited unexpectedly with status: ".toList.head? = some 'P' := by
    decide
  unfold exitedMessage
  rw [String.toList_append, List.head?_append, opening, Option.some_or]

/-- A message that opens with a P does not tell of a server that never started. -/
theorem not_unstarted_of_head {message : String} (opening : message.toList.head? = some 'P') :
    ¬ Unstarted (.commandFailed message) := by
  intro unstarted
  have tar : tarMessage.toList.head? = some 't' := by decide
  rw [unstarted message rfl, tar] at opening
  exact absurd opening (by decide)

/-- Neither does the time-out of the wait. -/
theorem timeout_not_unstarted : ¬ Unstarted (.commandFailed timeoutMessage) :=
  not_unstarted_of_head (by decide)

/-- Neither does an early exit. -/
theorem exited_not_unstarted (code : String) : ¬ Unstarted (.commandFailed (exitedMessage code)) :=
  not_unstarted_of_head (exited_message_head code)

/-- An abandoned restore ends stopped, without a server. -/
theorem abandon_restore_guarded (tracked : known → Tracked supervisor) :
    (abandonRestore setup config).Guarded Undisturbed (Single known) supervisor fun _ later =>
      later.status = .stopped ∧ (known → later.pids = []) := by
  have tidying : Calm (do
      removeFile "recovery.signal"
      writeConfOnly setup (settledConfig config)) :=
    (remove_file_calm _).bind fun _ => write_conf_only_calm setup _
  unfold abandonRestore
  rw [guarded_bind]
  intro outcome
  have none (holds : known) : ({ supervisor.reap outcome.exited with status := .stopped } :
        PostgresSupervisor).dropChild.pids = [] :=
    drop_child_none ((reap_undisturbed supervisor outcome.exited).tracked (tracked holds))
  refine ⟨single_of_none none, fun first relied => ?_⟩
  have gone := relied.remains none
  apply (calm_guarded tidying (single_of_none gone)).mono
  rintro _ later ⟨-, calm⟩
  refine ⟨?_, calm.remains gone⟩
  exact calm.status.trans (relied.status.trans drop_child_status)

/-- A restored directory is started with one server at most. -/
theorem start_restored_guarded (target : Option String) (restoring : supervisor.status = .restoring)
    (none : known → supervisor.pids = []) :
    (startRestored setup config target).Guarded Undisturbed (Single known) supervisor
      (Restored known) := by
  have tidying : Calm (do
      removeFile "standby.signal"
      removeFile "postgresql.auto.conf"
      removeFile "backup_label.old") :=
    (remove_file_calm _).bind fun _ => (remove_file_calm _).bind fun _ => remove_file_calm _
  unfold startRestored
  simp only [guarded_bind]
  have tidied := calm_guarded tidying (single_of_none none)
  simp only [guarded_bind] at tidied
  refine tidied.mono fun _ first inner => inner.mono fun _ second innermost =>
    innermost.mono ?_
  rintro _ third ⟨-, calm⟩
  have gone := calm.remains none
  refine (start_guarded setup _ (fun holds => .of_none (gone holds))
    fun holds _ => gone holds).mono ?_
  intro result fourth started
  rw [calm.status, restoring] at started
  cases started with
  | refused early same _ gone =>
    refine .stuck (fun message named => absurd named (early message)) same gone
  | up now tracked =>
    apply (await_launched_guarded tracked).andThen
    intro ready fifth awaited
    have abandoned (err : SupervisorError) (late : ¬ Unstarted err)
        (following : known → Tracked fifth) : (abandonRestore setup config >>= fun _ =>
          (pure (.error err) : Supervision (Except SupervisorError Unit))).Guarded Undisturbed
          (Single known) fifth (Restored known) := by
      apply (abandon_restore_guarded setup config following).andThen
      rintro _ last ⟨stopped, gone⟩
      exact .unready late stopped gone
    cases awaited with
    | timedOut _ following => exact abandoned _ timeout_not_unstarted following
    | exited code _ gone =>
      exact abandoned _ (exited_not_unstarted code) fun holds => .of_none (gone holds)
    | ready _ following =>
      apply (set_status_guarded .running (single_of_tracked following)).andThen
      intro _ sixth calm
      have still := calm.tracks following
      split
      · apply (calm_guarded (write_conf_only_calm setup _) (single_of_tracked still)).andThen
        rintro _ last ⟨-, further⟩
        exact .serving (further.status.trans calm.status) (further.tracks still)
      · exact .serving calm.status still

/-- A whole restore keeps to one server, whatever ran before. -/
theorem restore_from_snapshot_guarded (archive : TarArchive) (config : PostgresConfig)
    (target : Option String) (tracked : known → Tracked supervisor) :
    (restoreFromSnapshot setup archive config target).Guarded Undisturbed (Single known)
      supervisor (Restored known) := by
  unfold restoreFromSnapshot
  refine stopped_restoring_guarded tracked fun second restoring none => ?_
  refine (calm_guarded clear_data_dir_calm (single_of_none none)).andThen ?_
  rintro cleared third ⟨fileErrors, calm⟩
  have restoring : third.status = .restoring := calm.status.trans restoring
  have none := calm.remains none
  cases cleared with
  | error err =>
    obtain ⟨reason, rfl⟩ := fileErrors err rfl
    exact .stuck (fun _ named => nomatch named) restoring none
  | ok _ =>
    apply (calm_guarded (extract_tarball_calm archive) (single_of_none none)).andThen
    rintro extracted fourth ⟨tarErrors, calm⟩
    have restoring : fourth.status = .restoring := calm.status.trans restoring
    have none := calm.remains none
    cases extracted with
    | error err =>
      refine .stuck ?_ restoring none
      rcases tarErrors err rfl with ⟨reason, rfl⟩ | rfl
      · exact fun _ named => nomatch named
      · rintro _ ⟨⟩
        rfl
    | ok _ => exact start_restored_guarded setup config target restoring none

end Processes

end PgVisor.Sidecar
