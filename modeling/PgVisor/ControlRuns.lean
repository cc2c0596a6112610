import PgVisor.ControlOutcomes
import PgVisor.SupervisorRuns

/-!
# Which answers make a request or a tick end in which way

The conditions of `SupervisorRuns` on the answers from outside, carried on to the requests that
use the methods of the supervisor, and to the tick of a fenced node. A search for a leader takes
one answer for each peer that it probes; a request that starts a server goes on behind the leader
it has found, or alone.
-/

namespace PgVisor.Sidecar

open AwaitTasks Async
open Election (NodeRole ProcessStatus StatusResponse)

variable {state : SidecarState} {answers : Nat → Outcome} (setup : Setup)

/-- A method of the supervisor changes the supervisor alone. -/
theorem on_supervisor_runs {α : Type} {task : Supervision α}
    {ends : α → PostgresSupervisor → (Nat → Outcome) → Prop}
    (runs : task.Runs state.supervisor answers ends) :
    (onSupervisor task).Runs state answers fun result later left =>
      ends result later.supervisor left ∧ later = { state with supervisor := later.supervisor } :=
  runs.zoom

/-- A resync uses the connection that the request gives, or else the stored one. -/
def Connected (state : SidecarState) (given : Option String) : Prop :=
  (given <|> state.config.primaryConninfo).isSome

/-- A resync of the node ends as that of the supervisor. -/
theorem resync_node_runs (conninfo : String) :
    (resyncNode setup conninfo).Runs state answers fun result _ _ =>
      match result with
      | .ok _ => Resyncs state.supervisor (after 2 answers)
      | .error (.resyncFailed err) => ¬ Resyncs state.supervisor (after 2 answers) ∧
          (err = .commandFailed timeoutMessage → Strands state.supervisor (after 2 answers))
      | .error _ => False := by
  unfold resyncNode storeConninfo readConfig
  rw [runs_bind, access_runs, runs_bind, access_runs]
  apply (on_supervisor_runs (resync_from_primary_runs setup _ conninfo)).andThen
  rintro result _ _ ⟨ended, -⟩
  cases result with
  | ok _ => exact ended
  | error err => exact ended

/-- How a resync ends: it looks for a connection, and its fifth answer is the first one of
`resync_from_primary`. -/
theorem handle_resync_runs (given : Option String) :
    (handleResync setup given).Runs state answers fun result _ _ =>
      match result with
      | .ok _ => Connected state given ∧ Resyncs state.supervisor (after 4 answers)
      | .error .noPrimary => ¬ Connected state given
      | .error (.resyncFailed err) => Connected state given ∧
          ¬ Resyncs state.supervisor (after 4 answers) ∧
          (err = .commandFailed timeoutMessage → Strands state.supervisor (after 4 answers))
      | .error _ => False := by
  unfold handleResync readConfig Connected
  apply (on_supervisor_runs (set_status_runs .restoring)).andThen
  rintro _ first _ ⟨⟨alike, rfl⟩, kept⟩
  obtain ⟨succeeds, strands⟩ : (Resyncs first.supervisor (after 4 answers) ↔
      Resyncs state.supervisor (after 4 answers)) ∧
      (Strands first.supervisor (after 4 answers) ↔
        Strands state.supervisor (after 4 answers)) := alike.resyncs
  rw [runs_bind, access_runs, ← succeeds, ← strands]
  have stored : first.config = state.config := by rw [kept]
  rw [← stored]
  dsimp only
  cases found : given <|> first.config.primaryConninfo with
  | none => exact Bool.false_ne_true
  | some conninfo =>
    apply (resync_node_runs setup _).mono
    intro result _ _ ended
    cases result with
    | ok _ => exact ⟨rfl, ended⟩
    | error err =>
      cases err with
      | resyncFailed err => exact ⟨rfl, ended⟩
      | _ => exact ended.elim

/-! ### The search for a leader -/

/-- A peer answers a probe as it is wanted. -/
def Wanted (wanted : StatusResponse → Bool) (outcome : Outcome) : Prop :=
  ∃ st, outcome.reply = some st ∧ wanted st

/-- The number of peers that are probed: all but those that carry the node's own name. -/
def probed (setup : Setup) (peers : List String) : Nat :=
  (peers.filter fun peer => !Election.skipsProbe setup.nodeId peer).length

/-- The first peer that answers as it is wanted. -/
def FirstWanted (wanted : StatusResponse → Bool) (peer : Nat) (answers : Nat → Outcome) : Prop :=
  (∀ earlier < peer, ¬ Wanted wanted (answers earlier)) ∧ Wanted wanted (answers peer)

/-- The search ends with the first wanted peer, or after all peers. -/
theorem find_leader_runs (wanted : StatusResponse → Bool) (peers : List String) :
    (findLeader setup wanted peers).Runs state answers fun found later left =>
      later = state ∧
        match found with
        | some _ => ∃ peer < probed setup peers, FirstWanted wanted peer answers ∧
            left = after (peer + 1) answers
        | none => (∀ peer < probed setup peers, ¬ Wanted wanted (answers peer)) ∧
            left = after (probed setup peers) answers := by
  induction peers generalizing answers with
  | nil => exact ⟨rfl, fun _ none => absurd none (Nat.not_lt_zero _), rfl⟩
  | cons address rest ih =>
    unfold findLeader
    split
    next own =>
      have skipped : probed setup (address :: rest) = probed setup rest := by
        simp [probed, own]
      rw [skipped]
      exact ih
    next foreign =>
      have counted : probed setup (address :: rest) = probed setup rest + 1 := by
        simp [probed, foreign]
      -- a peer that is not wanted is passed over
      have passing (unwanted : ¬ Wanted wanted (answers 0)) :
          (findLeader setup wanted rest).Runs state (after 1 answers) fun found later left =>
            later = state ∧
              match found with
              | some _ => ∃ peer < probed setup rest + 1, FirstWanted wanted peer answers ∧
                  left = after (peer + 1) answers
              | none => (∀ peer < probed setup rest + 1, ¬ Wanted wanted (answers peer)) ∧
                  left = after (probed setup rest + 1) answers := by
        apply ih.mono
        rintro found _ _ ⟨same, ended⟩
        refine ⟨same, ?_⟩
        cases found with
        | some leader =>
          obtain ⟨peer, within, ⟨before, first⟩, rfl⟩ := ended
          refine ⟨peer + 1, Nat.succ_lt_succ within, ⟨?_, first⟩, ?_⟩
          · rintro (_ | earlier) sooner
            · exact unwanted
            · exact before earlier (Nat.lt_of_succ_lt_succ sooner)
          · rw [after_after, Nat.add_comm]
        | none =>
          obtain ⟨others, rfl⟩ := ended
          refine ⟨?_, by rw [after_after, Nat.add_comm]⟩
          rintro (_ | peer) within
          · exact unwanted
          · exact others peer (Nat.lt_of_succ_lt_succ within)
      rw [counted, runs_bind]
      unfold probe
      rw [access_runs]
      dsimp only
      cases replied : (answers 0).reply with
      | none => exact passing fun ⟨_, reply, _⟩ => by cases replied.symm.trans reply
      | some st =>
        dsimp only
        split
        next fits =>
          exact ⟨rfl, 0, Nat.zero_lt_succ _,
            ⟨fun _ none => absurd none (Nat.not_lt_zero _), st, replied, fits⟩, rfl⟩
        next misfit =>
          refine passing fun ⟨other, reply, fits⟩ => misfit ?_
          cases replied.symm.trans reply
          exact fits

/-! ### Starting -/

/-- A server is launched with the stored configuration and not found to have exited. -/
def LeavesServer (pid : Nat) (answers : Nat → Outcome) : Prop :=
  (answers 2).Launches ∧ pid ∉ (answers 3).exited ∧
    (ReadyIn pid 30 (after 4 answers) ∨ Unready pid 30 (after 4 answers))

/-- A start without a leader leaves a server only if the answers say so. -/
theorem start_alone_runs (idle : state.supervisor.status ≠ .running) :
    (startAlone setup).Runs state answers fun result _ _ =>
      match result with
      | .ok () => LeavesServer (state.supervisor.spawned + 1) answers
      | .error (.notReady err) => err = .commandFailed timeoutMessage →
          LeavesServer (state.supervisor.spawned + 1) answers
      | .error (.startFailed _) => True
      | .error _ => False := by
  unfold startAlone readConfig
  rw [runs_bind, access_runs]
  apply (on_supervisor_runs (start_runs setup _ idle)).andThen
  rintro started first _ ⟨launched, -⟩
  cases started with
  | error err => exact trivial
  | ok _ =>
    obtain ⟨launches, handed, alive, rfl⟩ := launched
    apply (on_supervisor_runs (wait_ready_runs 30 handed.held)).andThen
    rw [alive]
    rintro ready _ _ ⟨awaited, -⟩
    cases ready with
    | ok _ => exact ⟨launches, awaited.1, .inl awaited.2⟩
    | error err =>
      intro late
      obtain ⟨alive, unready⟩ := awaited.2 late (by decide)
      exact ⟨launches, alive, .inr unready⟩

/-- The answers that `repoint_primary` takes if the server does not run. -/
def repointSteps (answers : Nat → Outcome) : Nat :=
  match (answers 1).io with
  | .ok _ => 3
  | .error _ => 2

/-- The answers that a repoint of a stopped server takes. -/
theorem repoint_primary_runs {supervisor : PostgresSupervisor} (conninfo : String)
    (idle : supervisor.status ≠ .running) :
    (repointPrimary conninfo).Runs supervisor answers fun _ _ left =>
      left = after (repointSteps answers) answers := by
  have signalled : signalStandby.Runs supervisor answers fun _ later left =>
      later.status = supervisor.status ∧ left = after 1 answers := by
    unfold signalStandby
    rw [supervise_runs]
    cases (answers 0).io with
    | error _ => exact ⟨rfl, rfl⟩
    | ok _ =>
      dsimp only
      split <;> exact ⟨rfl, rfl⟩
  unfold repointPrimary repointSteps
  apply signalled.andThen
  rintro _ first _ ⟨signalled, rfl⟩
  apply (write_file_runs _ _).andThen
  rintro _ second _ ⟨rfl, written, rfl⟩
  have idle : second.status ≠ .running := by rwa [written, signalled]
  have next : after 1 answers 0 = answers 1 := rfl
  rw [next]
  cases (answers 1).io with
  | error reason => exact rfl
  | ok _ =>
    apply read_status_runs.andThen
    rintro _ _ _ ⟨rfl, rfl, rfl⟩
    rw [if_neg idle]
    exact rfl

/-- A server started as a standby becomes ready. -/
def StandbyReady (pid : Nat) (answers : Nat → Outcome) : Prop :=
  (answers 1).Launches ∧ pid ∉ (answers 2).exited ∧ ReadyIn pid 15 (after 3 answers)

/-- The server that is started behind a leader becomes ready, so that no resync is needed. -/
def FollowsReady (pid : Nat) (answers : Nat → Outcome) : Prop :=
  StandbyReady pid (after (repointSteps answers + 2) answers)

/-- A standby fails to start only if it is not ready. -/
theorem start_standby_runs {supervisor : PostgresSupervisor} (config : PostgresConfig)
    (idle : supervisor.status ≠ .running) :
    (startStandby setup config).Runs supervisor answers fun result _ _ =>
      ∀ err, result = .error err → ¬ StandbyReady (supervisor.spawned + 1) answers := by
  unfold startStandby
  apply (start_runs setup config idle).andThen
  intro started first _ launched
  cases started with
  | error err => exact fun _ _ follows => launched.1 follows.1
  | ok _ =>
    obtain ⟨launches, handed, alive, rfl⟩ := launched
    apply (wait_ready_runs 15 handed.held).mono
    rw [alive]
    rintro ready _ _ awaited err rfl
    exact fun follows => awaited.1 follows.2

/-- Behind a leader the node becomes a standby, whatever else happens. -/
theorem start_behind_runs (conninfo : String) (idle : state.supervisor.status ≠ .running) :
    (startBehind setup conninfo).Runs state answers fun result later _ =>
      later.role = .standby ∧ ∀ err, result = .error err →
        ¬ FollowsReady (state.supervisor.spawned + 1) answers := by
  have repointed : (repointPrimary conninfo).Runs state.supervisor answers fun _ later left =>
      left = after (repointSteps answers) answers ∧ True ∧ Undisturbed state.supervisor later :=
    (repoint_primary_runs conninfo idle).and (calm_runs (repoint_primary_calm conninfo))
  have becoming {state : SidecarState} {answers : Nat → Outcome} :
      (becomeStandby conninfo).Runs state answers fun _ later left =>
        (later.supervisor = state.supervisor ∧ later.role = .standby) ∧ left = after 1 answers :=
    ⟨⟨rfl, rfl⟩, rfl⟩
  have reading {state : SidecarState} {answers : Nat → Outcome} :
      readConfig.Runs state answers fun _ later left => later = state ∧ left = after 1 answers :=
    ⟨rfl, rfl⟩
  unfold startBehind
  rw [runs_bind]
  apply (on_supervisor_runs repointed).mono
  rintro _ first _ ⟨⟨rfl, -, calm⟩, -⟩
  apply becoming.andThen
  rintro _ _ _ ⟨⟨same, role⟩, rfl⟩
  apply reading.andThen
  rintro config following _ ⟨rfl, rfl⟩
  have still : following.supervisor.status ≠ .running := by rwa [same, calm.status]
  apply (on_supervisor_runs (start_standby_runs setup _ still)).andThen
  rw [same, calm.spawned, after_after, after_after]
  rintro started second _ ⟨failed, placed⟩
  have standby : second.role = .standby := by rw [placed, role]
  cases started with
  | ok _ => exact ⟨standby, nofun⟩
  | error reason =>
    apply (on_supervisor_runs (runs_any _)).andThen
    rintro resynced third _ ⟨-, kept⟩
    have standby : third.role = .standby := by rw [kept, standby]
    cases resynced with
    | ok _ => exact ⟨standby, nofun⟩
    | error err => exact ⟨standby, fun _ _ => failed reason rfl⟩

/-- No peer answers as a leader that runs or is being restored, and a server is left behind. -/
def StartsUnled (setup : Setup) (state : SidecarState) (answers : Nat → Outcome) : Prop :=
  (∀ peer < probed setup setup.peers, ¬ Wanted leadsOrRestores (answers peer)) ∧
    LeavesServer (state.supervisor.spawned + 1) (after (probed setup setup.peers) answers)

/-- A peer does, and the server started behind it does not become ready. -/
def StartsLate (setup : Setup) (state : SidecarState) (answers : Nat → Outcome) : Prop :=
  ∃ peer < probed setup setup.peers, FirstWanted leadsOrRestores peer answers ∧
    ¬ FollowsReady (state.supervisor.spawned + 1) (after (peer + 1) answers)

/-- What the answers must have been if a request that starts a server ends in one of these
ways: it has left a server behind under a role that is not that of a standby, or it could not
follow the leader it found. -/
structure StartTraced (setup : Setup) (origin : SidecarState) (answers : Nat → Outcome)
    (result : Except ControlError Unit) (later : SidecarState) : Prop where
  left : later.role ≠ .standby →
    result = .ok () ∨ result = .error (.notReady (.commandFailed timeoutMessage)) →
      StartsUnled setup origin answers
  late : ∀ err, result = .error (.rejoinFailed err) → StartsLate setup origin answers

/-- A safe start, told from the answers. -/
theorem start_postgres_safely_runs (idle : state.supervisor.status ≠ .running) :
    (startPostgresSafely setup).Runs state answers fun result later _ =>
      StartTraced setup state answers result later := by
  unfold startPostgresSafely
  apply (find_leader_runs setup leadsOrRestores setup.peers).andThen
  rintro found _ _ ⟨rfl, search⟩
  cases found with
  | some leader =>
    obtain ⟨peer, within, first, rfl⟩ := search
    apply (start_behind_runs setup leader.2 idle).mono
    rintro result later _ ⟨standby, failed⟩
    exact ⟨fun other => absurd standby other, fun _ same => ⟨peer, within, first, failed _ same⟩⟩
  | none =>
    obtain ⟨unled, rfl⟩ := search
    apply (start_alone_runs setup idle).mono
    intro result later _ ended
    refine ⟨fun _ up => ⟨unled, ?_⟩, fun err same => ?_⟩
    · rcases up with rfl | rfl
      · exact ended
      · exact ended rfl
    · subst same
      exact ended.elim

/-- The end of the two requests that start a server. -/
theorem started_runs {started : Except ControlError Unit} {kind detail : String}
    {reply : ControlReply} {origin : SidecarState} {heard : Nat → Outcome} :
    StartTraced setup origin heard started state →
    Runs (match started with
      | .error err => pure (.error err)
      | .ok () => recordEvent kind detail >>= fun _ => pure (.ok reply) : Control ControlResult)
      state answers fun result later _ =>
        (later.role = .fenced → LeftRunning result → StartsUnled setup origin heard) ∧
          ∀ err, result = .error (.rejoinFailed err) → StartsLate setup origin heard := by
  intro traced
  have fenced (same : state.role = .fenced) : state.role ≠ .standby := by
    rw [same]
    decide
  cases started with
  | ok _ => exact ⟨fun same _ => traced.left (fenced same) (.inl rfl), nofun⟩
  | error err =>
    refine ⟨?_, fun failure same => traced.late failure ?_⟩
    · rintro same ⟨⟩
      exact traced.left (fenced same) (.inr rfl)
    · injection same with same
      rw [same]

/-- What the result of a start tells of the answers. -/
theorem handle_start_runs : (handleStart setup).Runs state answers fun result later _ =>
    (later.role = .fenced → LeftRunning result → StartsUnled setup state (after 1 answers)) ∧
      ∀ err, result = .error (.rejoinFailed err) → StartsLate setup state (after 1 answers) := by
  unfold handleStart
  apply (on_supervisor_runs read_status_runs).andThen
  rintro _ first _ ⟨⟨rfl, reaped, rfl⟩, -⟩
  split
  · exact ⟨nofun, nofun⟩
  next idle =>
    have idle : first.supervisor.status ≠ .running := by
      rw [reaped]
      exact idle
    have numbered : first.supervisor.spawned = state.supervisor.spawned := by rw [reaped]; rfl
    apply (start_postgres_safely_runs setup idle).andThen
    intro started _ _ traced
    unfold StartsUnled StartsLate
    rw [← numbered]
    exact started_runs setup traced

theorem halted_ne_running (status : ProcessStatus) : halted status ≠ .running := by
  cases status <;> decide

/-- The same of a restart, after the answers that the stop takes. -/
theorem handle_restart_runs : (handleRestart setup).Runs state answers fun result later _ =>
    (later.role = .fenced → LeftRunning result →
      StartsUnled setup state (after (stopSteps state.supervisor) answers)) ∧
      ∀ err, result = .error (.rejoinFailed err) →
        StartsLate setup state (after (stopSteps state.supervisor) answers) := by
  unfold handleRestart
  apply (on_supervisor_runs stop_runs).andThen
  rintro _ first _ ⟨⟨rfl, alike, rfl⟩, -⟩
  have idle : first.supervisor.status ≠ .running := by
    rw [alike.status]
    exact halted_ne_running _
  have numbered : first.supervisor.spawned = state.supervisor.spawned := alike.spawned
  apply (start_postgres_safely_runs setup idle).andThen
  intro started _ _ traced
  unfold StartsUnled StartsLate
  rw [← numbered]
  exact started_runs setup traced

/-! ### The tick of a fenced node -/

/-- A rejoin that times out has found a leader and stranded. -/
theorem rejoin_runs : (rejoin setup).Runs state answers fun result _ _ =>
    result = .error (.commandFailed timeoutMessage) →
      ∃ peer < probed setup setup.peers,
        FirstWanted StatusResponse.isActiveLeader peer answers ∧
          Strands state.supervisor (after (peer + 2) answers) := by
  unfold rejoin readConfig
  apply (find_leader_runs setup StatusResponse.isActiveLeader setup.peers).andThen
  rintro found _ _ ⟨rfl, search⟩
  cases found with
  | none => exact nofun
  | some leader =>
    obtain ⟨peer, within, first, rfl⟩ := search
    rw [runs_bind, access_runs, after_after]
    apply (on_supervisor_runs (resync_from_primary_runs setup _ leader.2)).andThen
    rintro resynced _ _ ⟨ended, -⟩
    cases resynced with
    | ok _ => exact nofun
    | error err =>
      rintro ⟨⟩
      exact ⟨peer, within, first, ended.2 rfl⟩

/-- So has the tick of a fenced node. -/
theorem monitor_tick_runs (fenced : state.role = .fenced) :
    (monitorTick setup).Runs state answers fun result _ _ =>
      result = .error (.commandFailed timeoutMessage) →
        ∃ peer < probed setup setup.peers,
          FirstWanted StatusResponse.isActiveLeader peer (after 2 answers) ∧
            Strands state.supervisor (after (peer + 4) answers) := by
  unfold monitorTick readRole
  apply (on_supervisor_runs read_status_runs).andThen
  rintro _ first _ ⟨⟨rfl, reaped, rfl⟩, kept⟩
  have role : first.role = .fenced := by
    rw [kept]
    exact fenced
  split
  · exact nofun
  · rw [runs_bind, access_runs]
    dsimp only
    rw [role, if_neg fun resting => resting.2 rfl]
    apply (rejoin_runs setup).mono
    intro result _ _ ended late
    obtain ⟨peer, within, found, strands⟩ := ended late
    have alike : Alike state.supervisor first.supervisor := by
      rw [reaped]
      exact ⟨rfl, rfl, rfl⟩
    refine ⟨peer, within, found, ?_⟩
    have strands := alike.resyncs.2.mp strands
    rwa [show after (peer + 2) (after 1 (after 1 answers)) = after (peer + 4) answers by
      simp only [after_after]
      congr 1
      omega] at strands

end PgVisor.Sidecar
