import PgVisor.ElectionHistory
import PgVisor.SidecarInvariants

/-!
# The status under which the monitor elects

In the standby branch of a tick the monitor counts its own node among the alive ones, and it
may promote it. The tick has paused under two statuses only, Restoring and Stopped. What is left
is Running or Fenced, so that the monitor of a standby acts under Fenced exactly if its tick
finds that status. A node gets there by a re-pointing while its server is fenced, and by a
resync, of its own or behind a leader that it finds when it is started, that fails.

Requests and ticks do not overlap here.
-/

namespace PgVisor.Sidecar

open AwaitTasks Async Transitions
open Election (NodeRole ProcessStatus StatusResponse)

variable {state later : SidecarState} {activity : Activity} {response : Response}
  {answers : Nat → Outcome} {setup : Setup}

/-! ### What a tick notes -/

/-- The statuses under which the monitor has counted its own node among the alive ones, or
invoked a promotion. -/
def acts (history : History) : List ProcessStatus :=
  history.filterMap fun note =>
    match note with
    | .entered .standby status | .promoting status => some status
    | _ => none

/-- A standby whose server is fenced. -/
def FencedStandby (state : SidecarState) : Prop :=
  state.role = .standby ∧ state.supervisor.status = .fenced

theorem acts_observe (before later : SidecarState) (history : History) :
    acts (observe before later history) = acts history := by
  unfold observe
  split <;> rfl

/-- The monitor does not act. -/
def Silent (before later : SidecarState × History) : Prop := acts later.2 = acts before.2

/-- The monitor acts at most under the status that the server has all along. -/
def Reports (before later : SidecarState × History) : Prop :=
  later.1.supervisor.status = before.1.supervisor.status ∧
    ∃ more, acts later.2 = more ++ acts before.2 ∧
      ∀ status ∈ more, status = before.1.supervisor.status

theorem Reports.refl (watched : SidecarState × History) : Reports watched watched :=
  ⟨rfl, [], rfl, by simp⟩

theorem Reports.trans {first second third} (before : Reports first second)
    (after : Reports second third) : Reports first third := by
  obtain ⟨same, more, acted, under⟩ := before
  obtain ⟨still, further, again, beneath⟩ := after
  refine ⟨still.trans same, further ++ more, ?_, ?_⟩
  · rw [again, acted, List.append_assoc]
  · rw [same] at beneath
    exact fun status acted => (List.mem_append.mp acted).elim (beneath status) (under status)

section Parts

variable {α : Type}

theorem watch_silent (task : Control α) : (watch task).Within Silent fun _ => True :=
  (within_any task).annotate fun before later history _ => acts_observe before later history

theorem clear_missed_silent : clearMissed.Within Silent fun _ => True := by
  unfold clearMissed noting
  apply Within.announce (within_any _)
  · exact fun before later history _ => acts_observe before later history
  · exact fun before later history _ => acts_observe before later (.cleared :: history)

theorem watched_rejoin_silent : (watchedRejoin setup).Within Silent fun _ => True := by
  refine Within.bind (watch_silent _) fun found _ => ?_
  cases found with
  | none => trivial
  | some leader =>
    refine Within.bind (watch_silent _) fun config _ => ?_
    refine Within.bind (watch_silent _) fun synced _ => ?_
    cases synced with
    | error err => trivial
    | ok _ =>
      refine Within.bind (watch_silent _) fun _ _ => ?_
      refine Within.bind (watch_silent _) fun _ _ => ?_
      exact Within.bind clear_missed_silent fun _ _ => trivial

/-- What leaves the status alone. -/
theorem reports_observe {before later : SidecarState} {noted : History}
    (same : later.supervisor.status = before.supervisor.status)
    (said : ∀ status ∈ acts noted, status = before.supervisor.status) (history : History) :
    Reports (before, history) (later, observe before later (noted ++ history)) :=
  ⟨same, acts noted, (acts_observe before later _).trans List.filterMap_append, said⟩

theorem reports_unnoted {before later : SidecarState}
    (same : later.supervisor.status = before.supervisor.status) (history : History) :
    Reports (before, history) (later, observe before later history) :=
  ⟨same, [], acts_observe before later history, by simp⟩

/-- A task that leaves the status alone. -/
abbrev Steady (task : Control α) : Prop :=
  task.Within (fun before later => later.supervisor.status = before.supervisor.status)
    fun _ => True

theorem attending_steady {task : Control α} (attending : Attending False True task) :
    Steady task :=
  Within.widen attending fun _ _ attends => (attends.undisturbed id).status

theorem watch_reports {task : Control α} (steady : Steady task) :
    (watch task).Within Reports fun _ => True :=
  steady.annotate fun _ _ history same => reports_unnoted same history

/-- The note says under which status the monitor acts, if it does. -/
theorem noting_reports {task : Control α} {note : SidecarState → Note} (steady : Steady task)
    (said : ∀ state, ∀ status ∈ acts [note state], status = state.supervisor.status) :
    (noting note task).Within Reports fun _ => True :=
  steady.announce (fun _ _ history same => reports_unnoted same history)
    fun before _ history same => reports_observe same (said before) history

end Parts

theorem clear_missed_reports : clearMissed.Within Reports fun _ => True :=
  noting_reports (fun _ _ => ⟨rfl, trivial⟩) (by simp [acts])

theorem watched_win_reports : (watchedWin setup).Within Reports fun _ => True := by
  have promoting : (noting (fun state => .promoting state.supervisor.status)
      (promoteNode (nodeName setup ++ " auto-promoted to leader after quorum election"))).Within
      Reports fun _ => True := by
    refine noting_reports (attending_steady (promote_node_attends trivial _)) ?_
    exact fun state status => List.mem_singleton.mp
  refine Within.bind promoting fun promoted _ => ?_
  cases promoted with
  | error err => trivial
  | ok _ => exact Within.bind clear_missed_reports fun _ _ => trivial

theorem watched_campaign_reports : (watchedCampaign setup).Within Reports fun _ => True := by
  refine Within.bind (watch_reports (attending_steady (canvass_attends _ _ _)))
    fun ⟨leaderFound, aliveNodes⟩ _ => ?_
  cases leaderFound with
  | true => exact Within.bind clear_missed_reports fun _ _ => trivial
  | false =>
    have missing : (noting (fun _ => .missed) countMiss).Within Reports fun _ => True :=
      noting_reports (fun _ _ => ⟨rfl, trivial⟩) (by simp [acts])
    refine Within.bind missing fun missed _ => ?_
    split
    · exact watched_win_reports
    · trivial

/-- A silent part of a tick, executed alone. -/
theorem silent_runs {α : Type} {task : Watched α} {watched : SidecarState × History}
    (silent : task.Within Silent fun _ => True) :
    task.Runs watched answers fun _ later _ => Silent watched later := by
  apply (silent.runs (fun _ => rfl) fun _ _ _ before after => after.trans before).mono
  exact fun _ _ _ ended => ended.2

theorem read_status_silent {watched : SidecarState × History} :
    (watch (onSupervisor readStatus)).Runs watched answers fun status later _ =>
      (status = watched.1.supervisor.status ∧ later.1.supervisor.status = status ∧
        later.1.role = watched.1.role) ∧ Silent watched later := by
  have reads : (onSupervisor readStatus).Runs watched.1 answers fun status later _ =>
      status = watched.1.supervisor.status ∧ later.supervisor.status = status ∧
        later.role = watched.1.role := by
    apply (on_supervisor_runs read_status_runs).mono
    rintro _ later _ ⟨⟨rfl, reaped, -⟩, kept⟩
    exact ⟨rfl, by rw [reaped]; rfl, by rw [kept]⟩
  exact ((watch_erases _).runs reads).and (silent_runs (watch_silent _))

theorem enter_branch_runs {watched : SidecarState × History} {status : ProcessStatus} :
    (enterBranch status).Runs watched answers fun role later _ =>
      role = watched.1.role ∧ later.1 = watched.1 ∧
        later.2 = if status = .stopped ∧ role ≠ .fenced then watched.2
          else .entered role watched.1.supervisor.status :: watched.2 :=
  ⟨rfl, rfl, if_pos ⟨rfl, rfl⟩⟩

/-- In the standby branch the monitor acts under the status that the server has. -/
theorem watched_campaign_acts {watched : SidecarState × History}
    (entered : acts watched.2 = [watched.1.supervisor.status]) :
    (watchedCampaign setup).Runs watched answers fun _ later _ =>
      (∀ status ∈ acts later.2, status = .running) ↔ watched.1.supervisor.status = .running := by
  apply (watched_campaign_reports.runs Reports.refl fun _ _ _ => Reports.trans).mono
  rintro _ later _ ⟨-, -, more, acted, under⟩
  rw [acted, entered]
  constructor
  · exact fun running => running _ (List.mem_append_right _ List.mem_cons_self)
  · intro running status member
    rcases List.mem_append.mp member with added | first
    · exact (under status added).trans running
    · exact (List.mem_singleton.mp first).trans running

/-- The monitor acts only while the server runs, exactly if the tick does not find a standby
whose server is fenced. -/
theorem watched_tick_acts : (watchedTick setup).Runs (state, []) answers fun _ later _ =>
    (∀ status ∈ acts later.2, status = .running) ↔ ¬ FencedStandby state := by
  -- a tick that does not act, on a node that is not a fenced standby
  have idle {watched later : SidecarState × History} (silent : Silent watched later)
      (nothing : acts watched.2 = []) (other : ¬ FencedStandby state) :
      (∀ status ∈ acts later.2, status = .running) ↔ ¬ FencedStandby state := by
    rw [silent, nothing]
    exact iff_of_true (by simp) other
  have cleared {watched : SidecarState × History} {answers : Nat → Outcome}
      (nothing : acts watched.2 = []) (other : ¬ FencedStandby state) :
      Runs (clearMissed >>= fun _ => pure (.ok ()) : Watched (Except SupervisorError Unit))
        watched answers fun _ later _ =>
          (∀ status ∈ acts later.2, status = .running) ↔ ¬ FencedStandby state :=
    (silent_runs clear_missed_silent).andThen fun _ _ _ silent => idle silent nothing other
  unfold watchedTick
  apply read_status_silent.andThen
  rintro status first _ ⟨⟨found, same, role⟩, nothing⟩
  dsimp only at found role
  have nothing : acts first.2 = [] := nothing
  have unfenced (other : status ≠ .fenced) : ¬ FencedStandby state := fun fenced =>
    other (found.trans fenced.2)
  split
  next restoring => exact cleared nothing (unfenced (by simp [restoring]))
  next active =>
    apply enter_branch_runs.andThen
    rintro _ second _ ⟨rfl, unchanged, noted⟩
    rw [same, role] at noted
    rw [role]
    split
    next paused =>
      rw [if_pos paused] at noted
      exact cleared (noted ▸ nothing) (unfenced (by simp [paused.1]))
    next acting =>
      rw [if_neg acting] at noted
      have elsewhere (other : state.role ≠ .standby) {later : SidecarState × History}
          (silent : Silent second later) :
          (∀ status ∈ acts later.2, status = .running) ↔ ¬ FencedStandby state := by
        refine idle silent ?_ fun fenced => other fenced.1
        rw [noted, ← nothing]
        exact List.filterMap_cons_none (by cases role : state.role <;> simp_all)
      split
      next fenced =>
        apply (silent_runs watched_rejoin_silent).mono
        exact fun _ _ _ => elsewhere (by simp [fenced])
      next leads =>
        apply (silent_runs (watch_silent _)).mono
        exact fun _ _ _ => elsewhere (by simp [leads])
      next follows =>
        have under : second.1.supervisor.status = status := by rw [unchanged, same]
        have stands : status ≠ .stopped := fun stopped => acting ⟨stopped, by simp [follows]⟩
        have entered : acts second.2 = [second.1.supervisor.status] := by
          rw [noted, follows, under]
          exact congrArg (status :: ·) nothing
        apply (watched_campaign_acts entered).mono
        intro _ later _ acted
        rw [acted, under, FencedStandby, follows, ← found]
        cases status with
        | running | fenced => decide
        | stopped => exact absurd rfl stands
        | restoring => exact absurd rfl active

/-! ### How a standby comes to be fenced -/

/-- The activities after which a standby may be fenced that was not before. -/
def Strays (setup : Setup) (state : SidecarState) (answers : Nat → Outcome) : Activity → Prop
  | .request (.repoint _) => state.supervisor.status = .fenced
  | .request (.resync given) => state.role = .standby ∧ Connected state given ∧
      ¬ Resyncs state.supervisor (after 4 answers)
  | .request .start => StartsLate setup state (after 1 answers)
  | .request .restart => StartsLate setup state (after (stopSteps state.supervisor) answers)
  | _ => False

/-- A server that could not be started was fenced before, unless the request has stopped it. -/
theorem Starts.fenced {status prior : ProcessStatus} {request : ControlRequest}
    (starts : Starts status request prior) (fenced : prior = .fenced) : status = .fenced := by
  cases starts with
  | start _ => exact fenced
  | restart => cases status <;> simp_all [halted]

/-- The responses of activities that leave the server fenced, and the role that of a standby. -/
inductive LeavesFenced (state : SidecarState) : Activity → Response → Prop
  | repoint (given : String) (response : Response) (fenced : state.supervisor.status = .fenced) :
      LeavesFenced state (.request (.repoint given)) response
  | resync (given : Option String) (err : SupervisorError) (standby : state.role = .standby) :
      LeavesFenced state (.request (.resync given)) (.answered (.error (.resyncFailed err)))
  | start {request : ControlRequest} (prior : ProcessStatus) (err : SupervisorError)
      (starts : Starts state.supervisor.status request prior) :
      LeavesFenced state (.request request) (.answered (.error (.rejoinFailed err)))

theorem leaves_fenced (ended : Ended False True state activity response later)
    (before : ¬ FencedStandby state) (after : FencedStandby later) :
    LeavesFenced state activity response := by
  obtain ⟨standby, fenced⟩ := after
  have stayed {conninfo : Option String} (stands : Stands True state.role conninfo later) :
      state.role = .standby := (stands trivial).1.symm.trans standby
  have elsewhere {role : NodeRole} {conninfo : Option String}
      (stands : Stands True role conninfo later) (other : role ≠ .standby) : False :=
    other ((stands trivial).1.symm.trans standby)
  have different {status : ProcessStatus} (now : later.supervisor.status = status)
      (other : status ≠ .fenced) : False := other (now.symm.trans fenced)
  cases ended with
  | quiet _ beside =>
    refine absurd ⟨stayed beside.stands, ?_⟩ before
    exact beside.undisturbed.status.symm.trans fenced
  | repointed _ calm _ => exact .repoint _ _ (calm.status.symm.trans fenced)
  | promoted _ _ stands | fenced _ _ _ stands | restored _ stands | unrestored _ stands =>
    exact (elsewhere stands (by decide)).elim
  | prepared calm _ | unconnected calm _ => exact (different calm.status nofun).elim
  | cancelled status _ _ _ =>
    rcases status with now | now <;> exact (different now (by decide)).elim
  | resynced _ following _ =>
    cases following with
    | following now _ => exact (different now (by decide)).elim
  | unsynced _ stands => exact .resync _ _ (stayed stands)
  | unjoined role _ stands =>
    cases (role trivial).symm.trans (stayed stands)
  | unfollowed starts _ _ => exact .start _ _ starts
  | startedBehind _ now _ _ | startedAlone _ _ now _ _ =>
    exact (different now (launched_ne_fenced _)).elim
  | unstarted starts _ now _ stands =>
    exact absurd ⟨stayed stands, starts.fenced (now.symm.trans fenced)⟩ before
  | exited _ now _ _ => exact (different now (by decide)).elim
  | stopped now _ stands =>
    refine absurd ⟨stayed stands, Starts.fenced .restart (now.symm.trans fenced)⟩ before

/-- The response tells of a standby that is left fenced only if the answers do. -/
theorem strays_of_leaves_fenced (episode : Episode)
    (leaves : LeavesFenced state episode.activity (episode.exec setup state).2) :
    Strays setup state episode.outcomes episode.activity := by
  obtain ⟨activity, outcomes⟩ := episode
  have runs : (perform setup activity).Runs state outcomes fun response _ _ =>
      LeavesFenced state activity response → Strays setup state outcomes activity := by
    cases activity with
    | tick => exact (runs_any _).mono fun _ _ _ _ leaves => by cases leaves
    | request request =>
      unfold perform
      rw [runs_bind]
      cases request with
      | repoint given =>
        apply (runs_any _).mono
        rintro _ _ _ - leaves
        cases leaves with
        | repoint _ _ fenced => exact fenced
        | start _ _ starts => cases starts
      | resync given =>
        apply (handle_resync_runs setup given).mono
        rintro _ _ _ ended leaves
        cases leaves with
        | resync _ _ standby => exact ⟨standby, ended.1, ended.2.1⟩
        | start _ _ starts => cases starts
      | start =>
        apply (handle_start_runs setup).mono
        rintro _ _ _ ended ⟨⟩
        exact ended.2 _ rfl
      | restart =>
        apply (handle_restart_runs setup).mono
        rintro _ _ _ ended ⟨⟩
        exact ended.2 _ rfl
      | _ =>
        apply (runs_any _).mono
        rintro _ _ _ - leaves
        cases leaves with
        | start _ _ starts => cases starts
  exact runs_exec.mp runs leaves

/-- In a tick, the monitor counts its own node and invokes promotions only while the server
runs. -/
def ActsRunning (setup : Setup) (state : SidecarState) (episode : Episode) : Prop :=
  episode.activity = .tick →
    ∀ status ∈ acts ((watchedTick setup).exec (state, []) episode.outcomes).1.2, status = .running

/-- What a tick of the second node of three hears if no leader answers. -/
def unledAnswers (own : ProcessStatus) : Nat → Outcome
  | 3 => { reply := some { nodeId := 2, role := .standby, status := own } }
  | 4 => { reply := some { nodeId := 3, role := .standby, status := .running } }
  | _ => {}

end PgVisor.Sidecar
