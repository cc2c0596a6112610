import PgVisor.Supervisor

/-!
# What the methods of the supervisor leave alone

Most actions of the supervisor do not touch the server process: they read, run a command or
change files. Meanwhile the process may exit by itself. A method is calm if all its actions
are of this kind (`Undisturbed`), and what it returns is said along with it.
-/

namespace PgVisor.Sidecar

open AwaitTasks Async List
open Election (ProcessStatus)

/-- The pids of the live server processes. -/
def PostgresSupervisor.pids (supervisor : PostgresSupervisor) : List Nat :=
  supervisor.live.map ServerProcess.pid

/-- The process has been left alone, though it may have exited. -/
structure Undisturbed (before after : PostgresSupervisor) : Prop where
  status : after.status = before.status
  childPid : after.childPid = before.childPid
  activeChild : after.activeChild = before.activeChild
  spawned : after.spawned = before.spawned
  pids : after.pids.Sublist before.pids

section Relations

variable {first second third supervisor : PostgresSupervisor}

/-- A state is undisturbed by nothing happening. -/
theorem Undisturbed.refl (supervisor : PostgresSupervisor) : Undisturbed supervisor supervisor :=
  ⟨rfl, rfl, rfl, rfl, List.Sublist.refl _⟩

/-- Undisturbed stretches compose. -/
theorem Undisturbed.trans (before : Undisturbed first second) (after : Undisturbed second third) :
    Undisturbed first third where
  status := after.status.trans before.status
  childPid := after.childPid.trans before.childPid
  activeChild := after.activeChild.trans before.activeChild
  spawned := after.spawned.trans before.spawned
  pids := after.pids.trans before.pids

/-- A server that exits disturbs nothing. -/
theorem reap_undisturbed (supervisor : PostgresSupervisor) (exited : List Nat) :
    Undisturbed supervisor (supervisor.reap exited) :=
  ⟨rfl, rfl, rfl, rfl, filter_sublist.map _⟩

/-- Nor do changes to files. -/
theorem change_files_undisturbed (change : Files → Files) :
    Undisturbed supervisor (supervisor.changeFiles change) :=
  ⟨rfl, rfl, rfl, rfl, List.Sublist.refl _⟩

/-- Giving up the child keeps the status. -/
theorem drop_child_status : supervisor.dropChild.status = supervisor.status := by
  unfold PostgresSupervisor.dropChild
  split <;> rfl

end Relations

section Calm

variable {α β : Type} {results : α → Prop}

/-- A task that leaves the process alone. -/
def Calm (task : Supervision α) : Prop := task.Within Undisturbed fun _ => True

/-- An action is calm if what it does after the exits is. -/
theorem calm_supervise {action : PostgresSupervisor → Outcome → PostgresSupervisor × α}
    (acts : ∀ supervisor outcome, Undisturbed supervisor (action supervisor outcome).1 ∧
      results (action supervisor outcome).2) : (supervise action).Within Undisturbed results := by
  intro supervisor outcome
  obtain ⟨next, result⟩ := acts (supervisor.reap outcome.exited) outcome
  exact ⟨(reap_undisturbed supervisor outcome.exited).trans next, result⟩

/-- An action that only looks. -/
theorem look_calm {action : PostgresSupervisor → Outcome → PostgresSupervisor × α}
    (same : ∀ supervisor outcome, (action supervisor outcome).1 = supervisor) :
    Calm (supervise action) :=
  calm_supervise fun supervisor outcome =>
    ⟨by rw [same supervisor outcome]; exact .refl supervisor, trivial⟩

/-- Calm parts make a calm task. -/
theorem Calm.bind {task : Supervision α} {rest : α → Supervision β} {results : β → Prop}
    (first : Calm task) (second : ∀ result, (rest result).Within Undisturbed results) :
    (task >>= rest).Within Undisturbed results :=
  Within.bind first fun result _ => second result

/-! ### Commands and files -/

/-- An external command leaves servers and status alone. -/
theorem run_command_calm : Calm runCommand := look_calm fun _ _ => rfl

/-- So does reading the status. -/
theorem read_status_calm : Calm readStatus := look_calm fun _ _ => rfl

/-- So does removing a file. -/
theorem remove_file_calm (name : String) : Calm (removeFile name) :=
  calm_supervise fun _ _ => ⟨change_files_undisturbed _, trivial⟩

/-- So does writing one. -/
theorem write_file_calm (name content : String) : Calm (writeFile name content) := by
  refine calm_supervise fun supervisor outcome => ⟨?_, trivial⟩
  cases outcome.io with
  | ok _ => exact change_files_undisturbed _
  | error _ => exact .refl supervisor

/-- The server is promoted and keeps its pid. -/
theorem promote_calm : Calm promote := by
  have promoting : Calm runPromote := by
    refine calm_supervise fun supervisor outcome => ⟨?_, trivial⟩
    cases outcome.command with
    | unstarted _ | failed _ _ => exact .refl supervisor
    | succeeded =>
      have pids : ({ supervisor with live := supervisor.live.map fun process =>
          { process with standby := false } } : PostgresSupervisor).pids = supervisor.pids := by
        simp only [PostgresSupervisor.pids, map_map]
        rfl
      refine ⟨rfl, rfl, rfl, rfl, ?_⟩
      rw [pids]
  refine promoting.bind fun result => ?_
  cases result with
  | unstarted _ => exact trivial
  | failed status stderr =>
    dsimp only
    split <;> exact trivial
  | succeeded =>
    exact (remove_file_calm _).bind fun _ => (remove_file_calm _).bind fun _ => trivial

/-- Repointing only rewrites files and reloads. -/
theorem repoint_primary_calm (conninfo : String) : Calm (repointPrimary conninfo) := by
  have signalling : Calm signalStandby := by
    refine calm_supervise fun supervisor outcome => ⟨?_, trivial⟩
    cases outcome.io with
    | error _ => exact .refl supervisor
    | ok _ =>
      dsimp only
      split
      · exact .refl supervisor
      · exact change_files_undisturbed _
  refine signalling.bind fun _ => ?_
  refine (write_file_calm _ _).bind fun written => ?_
  cases written with
  | error _ => exact trivial
  | ok _ =>
    refine read_status_calm.bind fun status => ?_
    split
    · exact run_command_calm.bind fun _ => trivial
    · exact trivial

/-- Waiting for the primary only probes. -/
theorem await_primary_calm (retries : Nat) : Calm (awaitPrimary retries) := by
  induction retries with
  | zero => exact trivial
  | succ retries ih =>
    refine run_command_calm.bind fun result => ?_
    split
    · exact trivial
    · split
      · exact trivial
      · exact ih

/-- Writing the configuration only writes files. -/
theorem write_conf_only_calm (setup : Setup) (config : PostgresConfig) :
    Calm (writeConfOnly setup config) :=
  calm_supervise fun _ _ => ⟨⟨rfl, rfl, rfl, rfl, List.Sublist.refl _⟩, trivial⟩

/-! ### Clearing and filling the directory -/

/-- The result of clearing the directory is an error of the file system if any. -/
def FileResult (result : Except SupervisorError Unit) : Prop :=
  ∀ err, result = .error err → ∃ reason, err = .io reason

/-- Success is a result of file work. -/
theorem file_result_ok : FileResult (.ok ()) := fun _ impossible => nomatch impossible

/-- So is an error of the file system. -/
theorem file_result_io (reason : String) : FileResult (.error (.io reason)) := by
  rintro _ ⟨⟩
  exact ⟨reason, rfl⟩

/-- The result of extracting an archive: an error of the file system, or of `tar`. -/
def ExtractResult (result : Except SupervisorError Unit) : Prop :=
  ∀ err, result = .error err → (∃ reason, err = .io reason) ∨ err = .commandFailed tarMessage

/-- Removing the listed entries is file work. -/
theorem remove_entries_calm (listing : List String) :
    (removeEntries listing).Within Undisturbed FileResult := by
  induction listing with
  | nil =>
    refine calm_supervise fun supervisor outcome => ⟨.refl supervisor, ?_⟩
    cases outcome.io with
    | ok _ => exact file_result_ok
    | error reason => exact file_result_io reason
  | cons name rest ih =>
    refine (look_calm fun _ _ => rfl).bind fun read => ?_
    cases read with
    | error reason => exact file_result_io reason
    | ok _ => exact (remove_file_calm name).bind fun _ => ih

/-- So is clearing the data directory. -/
theorem clear_data_dir_calm : clearDataDir.Within Undisturbed FileResult := by
  have opening : Calm openDataDir := by
    refine calm_supervise fun supervisor outcome => ⟨?_, trivial⟩
    cases outcome.io with
    | error _ => exact .refl supervisor
    | ok _ =>
      dsimp only
      split
      · exact .refl supervisor
      · exact ⟨rfl, rfl, rfl, rfl, List.Sublist.refl _⟩
  refine opening.bind fun opened => ?_
  match opened with
  | .error reason => exact file_result_io reason
  | .ok none => exact file_result_ok
  | .ok (some listing) => exact remove_entries_calm listing

/-- Unpacking an archive fails only as extraction does. -/
theorem extract_tarball_calm (archive : TarArchive) :
    (extractTarball archive).Within Undisturbed ExtractResult := by
  have unpacking : Calm (untar archive) := by
    refine calm_supervise fun supervisor outcome => ⟨?_, trivial⟩
    split
    · exact .refl supervisor
    all_goals exact change_files_undisturbed _
  refine (write_file_calm _ _).bind fun written => ?_
  cases written with
  | error reason =>
    rintro _ ⟨⟩
    exact .inl ⟨reason, rfl⟩
  | ok _ =>
    refine unpacking.bind fun result => ?_
    refine (remove_file_calm _).bind fun _ => ?_
    cases result with
    | failed _ _ =>
      rintro _ ⟨⟩
      exact .inr rfl
    | unstarted _ | succeeded => exact fun _ impossible => nomatch impossible

/-- A base backup leaves servers and status alone. -/
theorem basebackup_calm (setup : Setup) (conninfo : String) : Calm (basebackup setup conninfo) := by
  refine calm_supervise fun supervisor outcome => ⟨?_, trivial⟩
  cases outcome.command with
  | unstarted _ => exact .refl supervisor
  | failed _ _ | succeeded => exact change_files_undisturbed _

end Calm

end PgVisor.Sidecar
