import PgVisor.SupervisorSpecs

/-!
# Which answers make a replacement of the data directory fail

The specifications of `SupervisorSpecs` say how a method may end, whatever it hears. Here it
is said which answers make it end in which way. A method that is alone reads its answers one
after the other, so each of its stages has a condition on the answers from its own first one
on, and a number of answers that it uses up when it succeeds. The conditions of a whole
restore or resync are put together from those of the stages.
-/

namespace PgVisor.Sidecar

open AwaitTasks Async List
open Election (ProcessStatus)

variable {α : Type} {supervisor : PostgresSupervisor} {answers : Nat → Outcome}

/-- An action takes the next answer, after the exits that come with it. -/
theorem supervise_runs {action : PostgresSupervisor → Outcome → PostgresSupervisor × α}
    {ends : α → PostgresSupervisor → (Nat → Outcome) → Prop} :
    (supervise action).Runs supervisor answers ends ↔
      ends (action (supervisor.reap (answers 0).exited) (answers 0)).2
        (action (supervisor.reap (answers 0).exited) (answers 0)).1 (after 1 answers) := Iff.rfl

/-- A task that leaves the process alone, executed alone. -/
theorem calm_runs {results : α → Prop} {task : Supervision α}
    (calm : task.Within Undisturbed results) :
    task.Runs supervisor answers fun result later _ =>
      results result ∧ Undisturbed supervisor later :=
  calm.runs .refl fun _ _ _ => .trans

/-- Reading the status takes one answer. -/
theorem read_status_runs : readStatus.Runs supervisor answers fun status later left =>
    status = supervisor.status ∧ later = supervisor.reap (answers 0).exited ∧
      left = after 1 answers :=
  ⟨rfl, rfl, rfl⟩

/-- So does removing a file. -/
theorem remove_file_runs (name : String) :
    (removeFile name).Runs supervisor answers fun _ later left =>
      later.status = supervisor.status ∧ left = after 1 answers :=
  ⟨rfl, rfl⟩

/-- A write ends as the answer says. -/
theorem write_file_runs (name content : String) :
    (writeFile name content).Runs supervisor answers fun written later left =>
      written = (answers 0).io ∧ later.status = supervisor.status ∧ left = after 1 answers := by
  unfold writeFile
  rw [supervise_runs]
  cases (answers 0).io <;> exact ⟨rfl, rfl, rfl⟩

/-! ### Stopping the server -/

/-- The answers that halting a server takes: `pg_ctl stop` is run on a cluster only. -/
def haltingSteps (dir : Option Files) : Nat :=
  if (dir.getD []).has "PG_VERSION" then 3 else 2

/-- What the stages of a replacement read from the supervisor has not changed. -/
structure Alike (before later : PostgresSupervisor) : Prop where
  status : later.status = before.status
  spawned : later.spawned = before.spawned
  dataDir : later.dataDir = before.dataDir

/-- A status that is set counts for all that follows. -/
theorem set_status_runs (status : ProcessStatus) :
    (setStatus status).Runs supervisor answers fun _ later left =>
      Alike { supervisor with status := status } later ∧ left = after 1 answers :=
  ⟨⟨rfl, rfl, rfl⟩, rfl⟩

theorem drop_child_alike (supervisor : PostgresSupervisor) :
    Alike supervisor supervisor.dropChild := by
  unfold PostgresSupervisor.dropChild
  split <;> exact ⟨rfl, rfl, rfl⟩

/-- Ending the child takes one answer. -/
theorem end_child_runs : endChild.Runs supervisor answers fun _ later left =>
    Alike supervisor later ∧ left = after 1 answers := by
  obtain ⟨status, spawned, dir⟩ := drop_child_alike (supervisor.reap (answers 0).exited)
  exact ⟨⟨status, spawned, dir⟩, rfl⟩

/-- How many answers a halt takes depends on the data directory alone. -/
theorem halt_server_runs : haltServer.Runs supervisor answers fun _ later left =>
    Alike supervisor later ∧ left = after (haltingSteps supervisor.dataDir) answers := by
  unfold haltServer haltingSteps
  rw [runs_bind, supervise_runs]
  dsimp only
  split
  next cluster =>
    have cluster : (supervisor.dataDir.getD []).has "PG_VERSION" := cluster
    rw [if_pos cluster, runs_bind]
    unfold runCommand
    rw [supervise_runs]
    apply end_child_runs.mono
    rintro _ later _ ⟨alike, rfl⟩
    exact ⟨⟨alike.status, alike.spawned, alike.dataDir⟩, by simp only [after_after]⟩
  next empty =>
    have empty : ¬ (supervisor.dataDir.getD []).has "PG_VERSION" := empty
    rw [if_neg empty]
    apply end_child_runs.mono
    rintro _ later _ ⟨alike, rfl⟩
    exact ⟨⟨alike.status, alike.spawned, alike.dataDir⟩, by simp only [after_after]⟩

/-- The answers that `stop` takes. -/
def stopSteps (supervisor : PostgresSupervisor) : Nat :=
  if supervisor.status = .stopped then 1 else haltingSteps supervisor.dataDir + 2

/-- A stop succeeds, and sets the status. -/
theorem stop_runs : stop.Runs supervisor answers fun result later left =>
    result = .ok () ∧ Alike { supervisor with status := halted supervisor.status } later ∧
      left = after (stopSteps supervisor) answers := by
  unfold stop stopSteps
  apply read_status_runs.andThen
  rintro _ _ _ ⟨rfl, rfl, rfl⟩
  split
  next stopped =>
    refine ⟨rfl, ⟨?_, rfl, rfl⟩, rfl⟩
    rw [stopped]
    exact stopped
  next busy =>
    rw [runs_bind]
    apply halt_server_runs.mono
    rintro _ later _ ⟨alike, rfl⟩
    rw [runs_bind, supervise_runs]
    refine ⟨rfl, ⟨?_, alike.spawned, alike.dataDir⟩, ?_⟩
    · dsimp only
      rw [show (later.reap _).status = supervisor.status from alike.status]
      rfl
    · simp only [after_after]
      rw [Nat.add_comm 1, Nat.add_assoc]
      rfl

/-- A replacement stops the server first, under the status Restoring. -/
theorem stopped_restoring_runs {rest : Supervision α}
    {ends : α → PostgresSupervisor → (Nat → Outcome) → Prop}
    (following : ∀ later, Alike { supervisor with status := .restoring } later →
      rest.Runs later (after (haltingSteps supervisor.dataDir + 3) answers) ends) :
    (setStatus .restoring >>= fun _ => stop >>= fun _ => rest).Runs supervisor answers ends := by
  apply (set_status_runs .restoring).andThen
  rintro _ first _ ⟨set, rfl⟩
  apply stop_runs.andThen
  rintro _ later _ ⟨-, alike, rfl⟩
  have steps : stopSteps first = haltingSteps supervisor.dataDir + 2 := by
    rw [stopSteps, set.status, set.dataDir]
    rfl
  rw [steps, after_after, Nat.add_comm 1]
  refine following later ⟨?_, alike.spawned.trans set.spawned, alike.dataDir.trans set.dataDir⟩
  rw [alike.status, set.status]
  rfl

/-! ### Clearing and filling the directory -/

/-- The directory cannot be opened or created, or an entry of its listing cannot be read. -/
def ClearingFails (dir : Option Files) (answers : Nat → Outcome) : Prop :=
  (answers 0).io ≠ .ok () ∨ ∃ files, dir = some files ∧
    ∃ entry ≤ files.entries.length, (answers (2 * entry + 1)).io ≠ .ok ()

/-- The answers that clearing the directory takes: every entry is read and removed, and the
end of the listing is read. -/
def clearingSteps : Option Files → Nat
  | none => 1
  | some files => 2 * files.entries.length + 2

/-- All entries are removed, or some removal fails. -/
theorem remove_entries_runs (listing : List String) :
    (removeEntries listing).Runs supervisor answers fun result _ left =>
      match result with
      | .ok () => (∀ entry ≤ listing.length, (answers (2 * entry)).io = .ok ()) ∧
          left = after (2 * listing.length + 1) answers
      | .error _ => ∃ entry ≤ listing.length, (answers (2 * entry)).io ≠ .ok () := by
  induction listing generalizing supervisor answers with
  | nil =>
    unfold removeEntries
    rw [supervise_runs]
    dsimp only
    cases ended : (answers 0).io with
    | ok _ =>
      refine ⟨fun entry within => ?_, rfl⟩
      rw [Nat.le_zero.mp within]
      exact ended
    | error reason => exact ⟨0, Nat.le_refl 0, by simp [ended]⟩
  | cons name rest ih =>
    unfold removeEntries removeFile
    rw [runs_bind, supervise_runs]
    dsimp only
    cases read : (answers 0).io with
    | error reason => exact ⟨0, Nat.zero_le _, by simp [read]⟩
    | ok _ =>
      dsimp only
      rw [runs_bind, supervise_runs]
      apply ih.mono
      intro result _ left ended
      cases result with
      | ok _ =>
        obtain ⟨passed, rfl⟩ := ended
        refine ⟨fun entry within => ?_, ?_⟩
        · cases entry with
          | zero => exact read
          | succ entry => exact passed entry (Nat.le_of_succ_le_succ within)
        · simp only [after_after, length_cons]
          congr 1
          omega
      | error _ =>
        obtain ⟨entry, within, failed⟩ := ended
        exact ⟨entry + 1, Nat.succ_le_succ within, failed⟩

/-- Clearing the directory fails exactly if the answers say so. -/
theorem clear_data_dir_runs : clearDataDir.Runs supervisor answers fun result _ left =>
    match result with
    | .ok () => ¬ ClearingFails supervisor.dataDir answers ∧
        left = after (clearingSteps supervisor.dataDir) answers
    | .error _ => ClearingFails supervisor.dataDir answers := by
  unfold clearDataDir openDataDir
  rw [runs_bind, supervise_runs]
  cases opened : (answers 0).io with
  | error reason => exact .inl (by simp [opened])
  | ok _ =>
    dsimp only
    rw [show (supervisor.reap (answers 0).exited).dataDir = supervisor.dataDir from rfl]
    cases supervisor.dataDir with
    | none =>
      refine ⟨?_, rfl⟩
      rintro (failed | ⟨files, impossible, -⟩)
      · exact failed opened
      · cases impossible
    | some files =>
      apply (remove_entries_runs files.entries).mono
      intro result _ left ended
      cases result with
      | ok _ =>
        obtain ⟨passed, rfl⟩ := ended
        refine ⟨?_, ?_⟩
        · rintro (failed | ⟨_, ⟨⟩, entry, within, failed⟩)
          · exact failed opened
          · exact failed (passed entry within)
        · rw [after_after, Nat.add_comm]
          rfl
      | error _ =>
        obtain ⟨entry, within, failed⟩ := ended
        exact .inr ⟨files, rfl, entry, within, failed⟩

/-- `tar` exits with a failure, which a corrupt archive makes it do. -/
def TarFails (archive : TarArchive) (outcome : Outcome) : Prop :=
  match outcome.command with
  | .unstarted _ => False
  | .failed _ _ => True
  | .succeeded => archive.members = none

/-- The archive cannot be written, or `tar` fails. -/
def ExtractionFails (archive : TarArchive) (answers : Nat → Outcome) : Prop :=
  (answers 0).io ≠ .ok () ∨ TarFails archive (answers 1)

/-- So does unpacking the archive. -/
theorem extract_tarball_runs (archive : TarArchive) :
    (extractTarball archive).Runs supervisor answers fun result _ left =>
      match result with
      | .ok () => ¬ ExtractionFails archive answers ∧ left = after 3 answers
      | .error _ => ExtractionFails archive answers := by
  unfold extractTarball untar removeFile
  apply (write_file_runs _ _).andThen
  rintro _ first _ ⟨rfl, -, rfl⟩
  cases written : (answers 0).io with
  | error reason => exact .inl (by simp [written])
  | ok _ =>
    dsimp only
    rw [runs_bind, supervise_runs, runs_bind, supervise_runs]
    have next : after 1 answers 0 = answers 1 := rfl
    dsimp only
    rw [next]
    unfold ExtractionFails TarFails
    cases command : (answers 1).command with
    | unstarted _ => exact ⟨by simp [written], rfl⟩
    | failed _ _ => exact .inr trivial
    | succeeded =>
      cases members : archive.members with
      | none => exact .inr rfl
      | some _ => exact ⟨by simp [written], rfl⟩

/-! ### Starting the server -/

/-- The configuration is written and the server spawned. -/
def Outcome.Launches (outcome : Outcome) : Prop := outcome.unwritten = none ∧ outcome.io = .ok ()

variable (setup : Setup) (config : PostgresConfig)

/-- A launch succeeds exactly if a server can be spawned; its pid is the next one. -/
theorem launch_runs : (launch setup config).Runs supervisor answers fun result later left =>
    match result with
    | .ok pid => (answers 0).Launches ∧ pid = supervisor.spawned + 1 ∧ later.childPid = pid ∧
        (∃ process ∈ later.live, process.pid = pid) ∧ left = after 1 answers
    | .error err => ¬ (answers 0).Launches ∧ ∀ message, err ≠ .commandFailed message := by
  unfold launch Outcome.Launches
  rw [supervise_runs]
  dsimp only
  cases unwritten : (answers 0).unwritten with
  | some failure =>
    obtain ⟨made, reason⟩ := failure
    cases made <;> exact ⟨nofun, nofun⟩
  | none =>
    dsimp only [applyChanges]
    cases spawned : (answers 0).io with
    | error reason => exact ⟨nofun, nofun⟩
    | ok _ => exact ⟨⟨rfl, rfl⟩, rfl, rfl, ⟨_, mem_append_right _ (mem_singleton_self _), rfl⟩, rfl⟩

/-- The child is alive after exits exactly if it is not among them. -/
theorem reap_child_alive {pid : Nat} (held : supervisor.activeChild = some pid)
    (exited : List Nat) : (supervisor.reap exited).childAlive ↔
      supervisor.childAlive ∧ pid ∉ exited := by
  simp only [PostgresSupervisor.childAlive, PostgresSupervisor.reap, held, any_eq_true, mem_filter,
    decide_eq_true_eq]
  constructor
  · rintro ⟨process, ⟨present, stays⟩, rfl⟩
    exact ⟨⟨process, present, rfl⟩, stays⟩
  · rintro ⟨⟨process, present, rfl⟩, stays⟩
    exact ⟨process, ⟨present, stays⟩, rfl⟩

/-- The server has been launched and its handle stored. -/
structure Handed (pid : Nat) (supervisor : PostgresSupervisor) : Prop where
  held : supervisor.activeChild = some pid
  stored : supervisor.childPid = pid

/-- A start launches a server and takes over its handle, or launches none. -/
theorem start_runs (idle : supervisor.status ≠ .running) :
    (start setup config).Runs supervisor answers fun result later left =>
      match result with
      | .ok () => (answers 1).Launches ∧ Handed (supervisor.spawned + 1) later ∧
          (later.childAlive ↔ supervisor.spawned + 1 ∉ (answers 2).exited) ∧
          left = after 3 answers
      | .error err => ¬ (answers 1).Launches ∧ ∀ message, err ≠ .commandFailed message := by
  unfold start register
  apply read_status_runs.andThen
  rintro _ _ _ ⟨rfl, rfl, rfl⟩
  rw [if_neg idle]
  apply (launch_runs setup config).andThen
  intro result first left launched
  cases result with
  | error err => exact launched
  | ok pid =>
    obtain ⟨launches, rfl, stored, present, rfl⟩ := launched
    dsimp only
    rw [runs_bind, supervise_runs]
    refine ⟨launches, ⟨rfl, stored⟩, ?_, rfl⟩
    have handed : ({ first with activeChild := some (supervisor.spawned + 1) } :
        PostgresSupervisor).childAlive := by
      obtain ⟨process, there, named⟩ := present
      simp only [PostgresSupervisor.childAlive, any_eq_true, decide_eq_true_eq]
      exact ⟨process, there, named⟩
    have alive : (({ first with activeChild := some (supervisor.spawned + 1) } :
        PostgresSupervisor).reap (answers 2).exited).childAlive ↔
          _ ∧ supervisor.spawned + 1 ∉ (answers 2).exited := reap_child_alive rfl _
    exact alive.trans (and_iff_right handed)

/-! ### Waiting for the server -/

/-- In one of the rounds `pg_isready` succeeds, and the server has not exited by then. A round
takes two answers, the second of which is that of `pg_isready`. -/
def ReadyIn (pid rounds : Nat) (answers : Nat → Outcome) : Prop :=
  ∃ round < rounds, (∀ earlier < round, (answers (2 * earlier + 1)).command.success = false) ∧
    (answers (2 * round + 1)).command.success ∧ ∀ n ≤ 2 * round, pid ∉ (answers n).exited

/-- `pg_isready` fails in every round, and no round finds the server exited. -/
def Unready (pid rounds : Nat) (answers : Nat → Outcome) : Prop :=
  ∀ round < rounds, (answers (2 * round + 1)).command.success = false ∧
    ∀ n ≤ 2 * round, pid ∉ (answers n).exited

variable {pid : Nat}

/-- Readiness, told from the first round. -/
theorem ready_in_succ (pid rounds : Nat) (answers : Nat → Outcome) :
    ReadyIn pid (rounds + 1) answers ↔ pid ∉ (answers 0).exited ∧
      ((answers 1).command.success ∨ (answers 1).command.success = false ∧
        pid ∉ (answers 1).exited ∧ ReadyIn pid rounds (after 2 answers)) := by
  constructor
  · rintro ⟨round, within, before, ready, alive⟩
    refine ⟨alive 0 (Nat.zero_le _), ?_⟩
    cases round with
    | zero => exact .inl ready
    | succ round =>
      refine .inr ⟨before 0 (Nat.zero_lt_succ _), alive 1 (by omega), round, by omega, ?_,
        ready, ?_⟩
      · exact fun earlier sooner => before (earlier + 1) (by omega)
      · exact fun n sooner => alive (n + 2) (by omega)
  · rintro ⟨alive, ready | ⟨late, still, round, within, before, ready, later⟩⟩
    · refine ⟨0, Nat.zero_lt_succ _, fun _ none => absurd none (Nat.not_lt_zero _), ready, ?_⟩
      rintro n first
      rwa [Nat.le_zero.mp first]
    · refine ⟨round + 1, by omega, ?_, ready, ?_⟩
      · rintro (_ | earlier) sooner
        · exact late
        · exact before earlier (by omega)
      · rintro (_ | _ | n) sooner
        · exact alive
        · exact still
        · exact later n (by omega)

/-- Unreadiness, told from the first round. -/
theorem unready_succ {rounds : Nat} (alive : pid ∉ (answers 0).exited)
    (late : (answers 1).command.success = false)
    (rest : 0 < rounds → pid ∉ (answers 1).exited ∧ Unready pid rounds (after 2 answers)) :
    Unready pid (rounds + 1) answers := by
  rintro (_ | round) within
  · refine ⟨late, fun n first => ?_⟩
    rwa [Nat.le_zero.mp first]
  · obtain ⟨still, later⟩ := rest (by omega)
    obtain ⟨fails, exits⟩ := later round (by omega)
    refine ⟨fails, ?_⟩
    rintro (_ | _ | n) sooner
    · exact alive
    · exact still
    · exact exits n (by omega)

/-- An exit is not reported as a time-out. -/
theorem exited_ne_timeout (code : String) : exitedMessage code ≠ timeoutMessage := by
  intro same
  have opening : (exitedMessage code).toList.take 10 = "Postgres p".toList := by
    have long : 10 ≤ "Postgres process exited unexpectedly with status: ".toList.length := by decide
    unfold exitedMessage
    rw [String.toList_append, take_append_of_le_length long]
    decide
  rw [same] at opening
  exact absurd opening (by decide)

/-- An exit is noticed exactly if the child is gone. -/
theorem notice_exit_runs (held : supervisor.activeChild = some pid) :
    noticeExit.Runs supervisor answers fun noticed later left => left = after 1 answers ∧
      match noticed with
      | none => (supervisor.childAlive ∧ pid ∉ (answers 0).exited) ∧
          later = supervisor.reap (answers 0).exited
      | some _ => ¬ (supervisor.childAlive ∧ pid ∉ (answers 0).exited) := by
  have found : (supervisor.reap (answers 0).exited).activeChild = some pid := held
  rw [← reap_child_alive held]
  unfold noticeExit
  rw [supervise_runs]
  by_cases alive : (supervisor.reap (answers 0).exited).childAlive
  · simp only [found, alive, if_true, and_self]
  · simp only [found, alive, Bool.false_eq_true, if_false, not_false_eq_true, and_self]

/-- A server that is waited for while its handle is held. -/
theorem wait_ready_runs (rounds : Nat) (held : supervisor.activeChild = some pid) :
    (waitReady rounds).Runs supervisor answers fun result _ _ =>
      match result with
      | .ok () => supervisor.childAlive ∧ ReadyIn pid rounds answers
      | .error err => ¬ (supervisor.childAlive ∧ ReadyIn pid rounds answers) ∧
          (err = .commandFailed timeoutMessage → 0 < rounds →
            supervisor.childAlive ∧ Unready pid rounds answers) := by
  induction rounds generalizing supervisor answers with
  | zero =>
    refine ⟨?_, fun _ impossible => absurd impossible (Nat.lt_irrefl 0)⟩
    rintro ⟨-, round, impossible, -⟩
    exact absurd impossible (Nat.not_lt_zero round)
  | succ rounds ih =>
    unfold waitReady runCommand
    rw [ready_in_succ]
    apply (notice_exit_runs held).andThen
    rintro noticed first _ ⟨rfl, noticing⟩
    cases noticed with
    | some code =>
      refine ⟨fun ready => noticing ⟨ready.1, ready.2.1⟩, fun late _ => ?_⟩
      injection late with message
      exact absurd message (exited_ne_timeout _)
    | none =>
      obtain ⟨⟨before, stays⟩, rfl⟩ := noticing
      rw [runs_bind, supervise_runs]
      have next : after 1 answers 0 = answers 1 := rfl
      have found : (supervisor.reap (answers 0).exited).activeChild = some pid := held
      have second : ((supervisor.reap (answers 0).exited).reap (answers 1).exited).childAlive ↔
          _ ∧ pid ∉ (answers 1).exited := reap_child_alive found (answers 1).exited
      dsimp only
      rw [next]
      split
      next ready => exact ⟨before, stays, .inl ready⟩
      next late =>
        have late : (answers 1).command.success = false := eq_false_of_ne_true late
        refine Runs.mono (ih held) fun result _ _ ended => ?_
        cases result with
        | ok _ =>
          obtain ⟨later, ready⟩ := ended
          exact ⟨before, stays, .inr ⟨late, (second.mp later).2, ready⟩⟩
        | error err =>
          obtain ⟨unready, timeout⟩ := ended
          refine ⟨?_, fun expired _ => ⟨before, unready_succ stays late fun more => ?_⟩⟩
          · rintro ⟨-, -, ready | ⟨-, still, ready⟩⟩
            · rw [late] at ready
              cases ready
            · exact unready ⟨second.mpr ⟨(reap_child_alive held _).mpr ⟨before, stays⟩, still⟩,
              ready⟩
          · obtain ⟨later, unready⟩ := timeout expired more
            exact ⟨(second.mp later).2, unready⟩

/-- The server that was launched becomes ready exactly if the answers say so. -/
theorem await_launched_runs {number : Nat} (handed : Handed (number + 1) supervisor) :
    awaitLaunched.Runs supervisor answers fun result _ _ =>
      match result with
      | .ok () => (supervisor.childAlive ∧ number + 1 ∉ (answers 0).exited) ∧
          ReadyIn (number + 1) 30 (after 1 answers)
      | .error err => ¬ ((supervisor.childAlive ∧ number + 1 ∉ (answers 0).exited) ∧
            ReadyIn (number + 1) 30 (after 1 answers)) ∧
          (err = .commandFailed timeoutMessage →
            (supervisor.childAlive ∧ number + 1 ∉ (answers 0).exited) ∧
              Unready (number + 1) 30 (after 1 answers)) := by
  have positive : 0 < supervisor.childPid := by
    rw [handed.stored]
    exact Nat.zero_lt_succ number
  rw [← reap_child_alive handed.held]
  unfold awaitLaunched readChildPid
  rw [runs_bind, supervise_runs]
  dsimp only
  rw [if_pos (show 0 < (supervisor.reap (answers 0).exited).childPid from positive)]
  have held : (supervisor.reap (answers 0).exited).activeChild = some (number + 1) := handed.held
  apply (wait_ready_runs 30 held).mono
  intro result _ _ ended
  cases result with
  | ok _ => exact ended
  | error err => exact ⟨ended.1, fun late => ended.2 late (by decide)⟩

/-! ### A resync -/

/-- The server that is launched on the cloned files becomes ready. -/
def Serves (pid : Nat) (answers : Nat → Outcome) : Prop :=
  (answers 1).Launches ∧ (pid ∉ (answers 2).exited ∧ pid ∉ (answers 3).exited) ∧
    ReadyIn pid 30 (after 4 answers)

/-- It does not become ready, and has not exited when the last round looks. -/
def Lingers (pid : Nat) (answers : Nat → Outcome) : Prop :=
  (answers 1).Launches ∧ (pid ∉ (answers 2).exited ∧ pid ∉ (answers 3).exited) ∧
    Unready pid 30 (after 4 answers)

/-- A cloned server serves, or does not and may linger. -/
theorem start_cloned_runs (conninfo : String) (idle : supervisor.status ≠ .running) :
    (startCloned setup conninfo config).Runs supervisor answers fun result _ _ =>
      match result with
      | .ok () => Serves (supervisor.spawned + 1) answers
      | .error err => ¬ Serves (supervisor.spawned + 1) answers ∧
          (err = .commandFailed timeoutMessage → Lingers (supervisor.spawned + 1) answers) := by
  unfold startCloned
  apply (start_runs setup _ idle).andThen
  intro result first _ started
  cases result with
  | error err =>
    obtain ⟨unlaunched, early⟩ := started
    exact ⟨fun serves => unlaunched serves.1, fun late => absurd late (early _)⟩
  | ok _ =>
    obtain ⟨launches, handed, alive, rfl⟩ := started
    apply (await_launched_runs handed).andThen
    rw [alive]
    intro result second left awaited
    cases result with
    | ok _ => exact ⟨launches, awaited⟩
    | error err =>
      exact ⟨fun serves => awaited.1 serves.2, fun late => ⟨launches, awaited.2 late⟩⟩

/-- The first `pg_isready` that succeeds. -/
def Reached (round : Nat) (answers : Nat → Outcome) : Prop :=
  (∀ earlier < round, (answers earlier).command.success = false) ∧
    (answers round).command.success

/-- There is one first success. -/
theorem Reached.unique {first second : Nat} (one : Reached first answers)
    (other : Reached second answers) : first = second := by
  rcases Nat.lt_trichotomy first second with before | same | after
  · exact absurd one.2 (Bool.eq_false_iff.mp (other.1 first before))
  · exact same
  · exact absurd other.2 (Bool.eq_false_iff.mp (one.1 second after))

/-- The wait ends with the first success, or after all retries. -/
theorem await_primary_runs (retries : Nat) :
    (awaitPrimary (retries + 1)).Runs supervisor answers fun result later left =>
      Alike supervisor later ∧
        match result with
        | .ok () => ∃ round < retries + 1, Reached round answers ∧ left = after (round + 1) answers
        | .error err => err = .commandFailed primaryMessage ∧
            ∀ round < retries + 1, (answers round).command.success = false := by
  induction retries generalizing supervisor answers with
  | zero =>
    unfold awaitPrimary runCommand
    rw [runs_bind, supervise_runs]
    dsimp only
    split
    next ready =>
      exact ⟨⟨rfl, rfl, rfl⟩, 0, Nat.zero_lt_one,
        ⟨fun _ none => absurd none (Nat.not_lt_zero _), ready⟩, rfl⟩
    next late =>
      refine ⟨⟨rfl, rfl, rfl⟩, rfl, fun round first => ?_⟩
      rw [Nat.lt_one_iff.mp first]
      exact eq_false_of_ne_true late
  | succ retries ih =>
    unfold awaitPrimary runCommand
    rw [runs_bind, supervise_runs]
    dsimp only
    split
    next ready =>
      exact ⟨⟨rfl, rfl, rfl⟩, 0, Nat.zero_lt_succ _,
        ⟨fun _ none => absurd none (Nat.not_lt_zero _), ready⟩, rfl⟩
    next late =>
      have late : (answers 0).command.success = false := eq_false_of_ne_true late
      rw [if_neg (Nat.succ_ne_zero retries)]
      apply ih.mono
      rintro result later left ⟨alike, ended⟩
      refine ⟨⟨alike.status, alike.spawned, alike.dataDir⟩, ?_⟩
      cases result with
      | ok _ =>
        obtain ⟨round, within, reached, rfl⟩ := ended
        refine ⟨round + 1, by omega, ⟨?_, reached.2⟩, ?_⟩
        · rintro (_ | earlier) sooner
          · exact late
          · exact reached.1 earlier (by omega)
        · rw [after_after, Nat.add_comm]
      | error err =>
        refine ⟨ended.1, ?_⟩
        rintro (_ | round) within
        · exact late
        · exact ended.2 round (by omega)

/-- The primary is found ready, the directory cleared and the primary cloned. -/
def Clones (dir : Option Files) (answers left : Nat → Outcome) : Prop :=
  ∃ round < 15, Reached round answers ∧ ¬ ClearingFails dir (after (round + 1) answers) ∧
    (answers (round + 1 + clearingSteps dir)).command.success ∧
    left = after (round + 2 + clearingSteps dir) answers

/-- A failed base backup is not reported as a time-out. -/
theorem basebackup_ne_timeout (status : String) : basebackupMessage status ≠ timeoutMessage := by
  intro same
  have opening : (basebackupMessage status).toList.head? = some 'p' := by
    have first : "pg_basebackup re-sync failed with status: ".toList.head? = some 'p' := by decide
    unfold basebackupMessage
    rw [String.toList_append, head?_append, first, Option.some_or]
  rw [same] at opening
  exact absurd opening (by decide)

/-- A base backup ends as its command does. -/
theorem basebackup_runs (conninfo : String) :
    (basebackup setup conninfo).Runs supervisor answers fun result _ left =>
      result = (answers 0).command ∧ left = after 1 answers := by
  unfold basebackup
  rw [supervise_runs]
  cases (answers 0).command <;> exact ⟨rfl, rfl⟩

/-- A resync succeeds exactly if it clones and the clone serves. -/
theorem resync_inner_runs (conninfo : String) (idle : supervisor.status ≠ .running) :
    (resyncInner setup conninfo config).Runs supervisor answers fun result _ _ =>
      match result with
      | .ok () => ∃ left, Clones supervisor.dataDir answers left ∧
          Serves (supervisor.spawned + 1) left
      | .error err => (∀ left, Clones supervisor.dataDir answers left →
            ¬ Serves (supervisor.spawned + 1) left) ∧
          (err = .commandFailed timeoutMessage → ∃ left,
            Clones supervisor.dataDir answers left ∧ Lingers (supervisor.spawned + 1) left) := by
  unfold resyncInner
  apply (await_primary_runs 14).andThen
  rintro result first _ ⟨alike, awaited⟩
  cases result with
  | error err =>
    obtain ⟨rfl, late⟩ := awaited
    refine ⟨?_, fun same => absurd same (by decide)⟩
    rintro left ⟨round, within, reached, -⟩
    exact absurd reached.2 (Bool.eq_false_iff.mp (late round within))
  | ok _ =>
    obtain ⟨round, within, reached, rfl⟩ := awaited
    -- the round is the only one that the conditions can speak of
    have cloning {left : Nat → Outcome} (clones : Clones supervisor.dataDir answers left) :
        ¬ ClearingFails supervisor.dataDir (after (round + 1) answers) ∧
          (answers (round + 1 + clearingSteps supervisor.dataDir)).command.success ∧
          left = after (round + 2 + clearingSteps supervisor.dataDir) answers := by
      obtain ⟨other, -, same, conditions⟩ := clones
      rwa [reached.unique same]
    apply (clear_data_dir_runs.and (calm_runs clear_data_dir_calm)).andThen
    rw [alike.dataDir]
    rintro cleared second _ ⟨clearing, fileErrors, calm⟩
    cases cleared with
    | error err =>
      obtain ⟨reason, rfl⟩ := fileErrors err rfl
      exact ⟨fun left clones => absurd clearing (cloning clones).1, nofun⟩
    | ok _ =>
      obtain ⟨cleared, rfl⟩ := clearing
      apply ((basebackup_runs setup conninfo).and
        (calm_runs (basebackup_calm setup conninfo))).andThen
      rintro _ third _ ⟨⟨rfl, rfl⟩, -, further⟩
      have heard : after (clearingSteps supervisor.dataDir) (after (round + 1) answers) 0 =
          answers (round + 1 + clearingSteps supervisor.dataDir) := by
        rw [after_after]
        exact congrArg answers (Nat.zero_add _)
      rw [heard]
      cases command : (answers (round + 1 + clearingSteps supervisor.dataDir)).command with
      | unstarted reason =>
        refine ⟨fun left clones => ?_, nofun⟩
        rw [command] at cloning
        cases (cloning clones).2.1
      | failed status stderr =>
        refine ⟨fun left clones => ?_, fun late => ?_⟩
        · rw [command] at cloning
          cases (cloning clones).2.1
        · injection late with message
          exact absurd message (basebackup_ne_timeout status)
      | succeeded =>
        have clones : Clones supervisor.dataDir answers
            (after (round + 2 + clearingSteps supervisor.dataDir) answers) :=
          ⟨round, within, reached, cleared, by rw [command]; rfl, rfl⟩
        have spawned : third.spawned = supervisor.spawned :=
          further.spawned.trans (calm.spawned.trans alike.spawned)
        have idle : third.status ≠ .running := by
          rwa [further.status, calm.status, alike.status]
        have left : after 1 (after (clearingSteps supervisor.dataDir) (after (round + 1) answers)) =
            after (round + 2 + clearingSteps supervisor.dataDir) answers := by
          simp only [after_after]
          congr 1
          omega
        rw [← spawned, left]
        apply (start_cloned_runs setup config conninfo idle).mono
        intro result _ _ ended
        cases result with
        | ok _ => exact ⟨_, clones, ended⟩
        | error err =>
          refine ⟨fun left other => ?_, fun late => ⟨_, clones, ended.2 late⟩⟩
          rw [(cloning other).2.2]
          exact ended.1

/-- The answers with which `resync_from_primary` succeeds. -/
def Resyncs (supervisor : PostgresSupervisor) (answers : Nat → Outcome) : Prop :=
  ∃ left, Clones supervisor.dataDir (after (haltingSteps supervisor.dataDir + 3) answers) left ∧
    Serves (supervisor.spawned + 1) left

/-- The answers with which it gives up a server that it has started. -/
def Strands (supervisor : PostgresSupervisor) (answers : Nat → Outcome) : Prop :=
  ∃ left, Clones supervisor.dataDir (after (haltingSteps supervisor.dataDir + 3) answers) left ∧
    Lingers (supervisor.spawned + 1) left

/-- What a resync meets depends on the directory and the pids alone. -/
theorem Alike.resyncs {later : PostgresSupervisor} (alike : Alike supervisor later) :
    (Resyncs later answers ↔ Resyncs supervisor answers) ∧
      (Strands later answers ↔ Strands supervisor answers) := by
  unfold Resyncs Strands
  rw [alike.dataDir, alike.spawned]
  exact ⟨Iff.rfl, Iff.rfl⟩

/-- A whole resync succeeds exactly if the answers say so. -/
theorem resync_from_primary_runs (conninfo : String) :
    (resyncFromPrimary setup conninfo config).Runs supervisor answers fun result _ _ =>
      match result with
      | .ok () => Resyncs supervisor answers
      | .error err => ¬ Resyncs supervisor answers ∧
          (err = .commandFailed timeoutMessage → Strands supervisor answers) := by
  unfold resyncFromPrimary Resyncs Strands
  refine stopped_restoring_runs fun second alike => ?_
  have idle : second.status ≠ .running := by
    rw [alike.status]
    exact nofun
  apply (resync_inner_runs setup config conninfo idle).andThen
  rw [alike.dataDir, alike.spawned]
  intro result third left ended
  cases result with
  | ok _ => exact ended
  | error err => exact ⟨fun ⟨left, clones, serves⟩ => ended.1 left clones serves, ended.2⟩

/-! ### A restore -/

/-- The answers with which `restore_from_snapshot` fails before its server is spawned. -/
def RestoreBreaks (archive : TarArchive) (dir : Option Files) (answers : Nat → Outcome) : Prop :=
  ClearingFails dir (after (haltingSteps dir + 3) answers) ∨
    ExtractionFails archive (after (haltingSteps dir + 3 + clearingSteps dir) answers) ∨
    ¬ (answers (haltingSteps dir + 10 + clearingSteps dir)).Launches

/-- A restored server is launched, or the error tells that it was not. -/
theorem start_restored_runs (target : Option String) (idle : supervisor.status ≠ .running) :
    (startRestored setup config target).Runs supervisor answers fun result _ _ =>
      match result with
      | .ok () => (answers 4).Launches
      | .error err => Unstarted err ↔ ¬ (answers 4).Launches := by
  unfold startRestored
  apply (remove_file_runs _).andThen
  rintro _ _ _ ⟨first, rfl⟩
  apply (remove_file_runs _).andThen
  rintro _ _ _ ⟨second, rfl⟩
  apply (remove_file_runs _).andThen
  rintro _ tidied _ ⟨third, rfl⟩
  have idle : tidied.status ≠ .running := by
    rwa [third, second, first]
  apply (start_runs setup _ idle).andThen
  intro result first _ started
  cases result with
  | error err =>
    refine iff_of_true (fun message named => absurd named (started.2 message)) started.1
  | ok _ =>
    obtain ⟨launches, -, -, rfl⟩ := started
    have launches : (answers 4).Launches := launches
    have nothing : False → Tracked first := False.elim
    apply ((await_launched_guarded nothing).runs .refl).andThen
    intro result second left awaited
    cases awaited with
    | ready _ _ =>
      dsimp only
      split <;> exact launches
    | timedOut _ _ => exact iff_of_false timeout_not_unstarted (not_not_intro launches)
    | exited code _ _ => exact iff_of_false (exited_not_unstarted code) (not_not_intro launches)

/-- The error of a restore tells whether a server was launched. -/
theorem restore_from_snapshot_runs (archive : TarArchive) (target : Option String) :
    (restoreFromSnapshot setup archive config target).Runs supervisor answers fun result _ _ =>
      match result with
      | .ok () => ¬ RestoreBreaks archive supervisor.dataDir answers
      | .error err => Unstarted err ↔ RestoreBreaks archive supervisor.dataDir answers := by
  unfold restoreFromSnapshot RestoreBreaks
  refine stopped_restoring_runs fun first alike => ?_
  have idle : first.status ≠ .running := by
    rw [alike.status]
    exact nofun
  apply (clear_data_dir_runs.and (calm_runs clear_data_dir_calm)).andThen
  rw [alike.dataDir]
  rintro cleared second _ ⟨clearing, fileErrors, calm⟩
  cases cleared with
  | error err =>
    obtain ⟨reason, rfl⟩ := fileErrors err rfl
    exact iff_of_true (fun _ named => by cases named) (.inl clearing)
  | ok _ =>
    obtain ⟨cleared, rfl⟩ := clearing
    rw [after_after]
    apply ((extract_tarball_runs archive).and
      (calm_runs (extract_tarball_calm archive))).andThen
    rintro extracted third _ ⟨extraction, tarErrors, further⟩
    cases extracted with
    | error err =>
      refine iff_of_true ?_ (.inr (.inl extraction))
      rcases tarErrors err rfl with ⟨reason, rfl⟩ | rfl
      · exact fun _ named => by cases named
      · rintro _ ⟨⟩
        rfl
    | ok _ =>
      obtain ⟨extracted, rfl⟩ := extraction
      have idle : third.status ≠ .running := by
        rwa [further.status, calm.status]
      have launching : after 3 (after (haltingSteps supervisor.dataDir + 3 +
          clearingSteps supervisor.dataDir) answers) 4 =
            answers (haltingSteps supervisor.dataDir + 10 + clearingSteps supervisor.dataDir) := by
        rw [after_after]
        exact congrArg answers (by omega)
      apply (start_restored_runs setup config target idle).mono
      rw [launching]
      intro result _ _ ended
      cases result with
      | ok _ =>
        rintro (clearing | extraction | unlaunched)
        · exact cleared clearing
        · exact extracted extraction
        · exact unlaunched ended
      | error err => exact ended.trans (by simp only [cleared, extracted, false_or])

end PgVisor.Sidecar
