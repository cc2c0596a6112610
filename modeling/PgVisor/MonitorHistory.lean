import PgVisor.ControlFrames
import PgVisor.TaskNotes

/-!
# What an election monitor has seen and done

The monitor of a sidecar counts misses of the leader in a variable of its own, while requests
change the role and the connection beside it. The sidecar is watched here: every activity
leaves notes, the latest first. A tick notes the branch it enters, each miss, each time it sets
its count to zero and each promotion it begins, with the status the server has then; any
action, of a tick or of a request, notes a change of role or connection. The notes decide
nothing.

Ticks follow one another, for there is one monitor. Requests arrive at any time and act
between any two actions of a tick.
-/

namespace PgVisor.Sidecar

open AwaitTasks Async Transitions
open Election (NodeRole ProcessStatus StatusResponse)

/-- What is noted of a run. -/
inductive Note where
  /-- A tick enters the branch of a role, under the status the server has then. -/
  | entered (role : NodeRole) (status : ProcessStatus)
  /-- The count is set to zero: a pause, a leader found, a rejoin or a promotion made. -/
  | cleared
  | missed
  /-- The monitor invokes `promote`, under this status. -/
  | promoting (status : ProcessStatus)
  /-- Another role or connection, or a re-pointing. -/
  | moved
deriving DecidableEq

/-- The latest note comes first. -/
abbrev History := List Note

/-- Tasks of the sidecar that keep notes. -/
abbrev Watched := Async (SidecarState × History) Outcome

/-- The notes of any action. -/
def observe (before after : SidecarState) (history : History) : History :=
  if after.role = before.role ∧ after.config.primaryConninfo = before.config.primaryConninfo
  then history else .moved :: history

section Watching

variable {α : Type}

/-- A task whose turns are noted as they happen. -/
def watch (task : Control α) : Watched α := task.annotate observe

/-- A task that opens with a note. -/
def noting (note : SidecarState → Note) (task : Control α) : Watched α :=
  task.announce observe fun state history => note state :: history

/-- Watching changes nothing but the notes. -/
theorem watch_erases (task : Control α) : (watch task).Erases task := annotate_erases observe task

/-- Neither does an opening note. -/
theorem noting_erases (note : SidecarState → Note) (task : Control α) :
    (noting note task).Erases task :=
  announce_erases observe _ task

end Watching

/-! ### The watched sidecar -/

/-- The count is set to zero. -/
def clearMissed : Watched Unit := noting (fun _ => .cleared) (setMissed 0)

/-- `rejoin`. -/
def watchedRejoin (setup : Setup) : Watched (Except SupervisorError Unit) := do
  match ← watch (findLeader setup StatusResponse.isActiveLeader setup.peers) with
  | none => return .ok ()
  | some (leaderId, conninfo) =>
    let config ← watch readConfig
    match ← watch (onSupervisor (resyncFromPrimary setup conninfo
        { config with primaryConninfo := some conninfo })) with
    | .error err => return .error err
    | .ok () =>
      watch (becomeStandby conninfo)
      watch (recordEvent "node_joined" (nodeName setup ++
        " auto-rejoined cluster as standby under leader " ++ toString leaderId))
      clearMissed
      return .ok ()

/-- `winElection`; the first action of a promotion runs the command. -/
def watchedWin (setup : Setup) : Watched (Except SupervisorError Unit) := do
  match ← noting (fun state => .promoting state.supervisor.status)
      (promoteNode (nodeName setup ++ " auto-promoted to leader after quorum election")) with
  | .error err => return .error err
  | .ok () =>
    clearMissed
    return .ok ()

/-- The miss is counted. -/
def countMiss : Control Nat :=
  .access fun state _ =>
    let missed := (state.missedHeartbeats + 1) % 2 ^ 32
    ({ state with missedHeartbeats := missed }, missed)

/-- `campaign`. -/
def watchedCampaign (setup : Setup) : Watched (Except SupervisorError Unit) := do
  let (leaderFound, aliveNodes) ← watch (canvass setup.peers false [setup.nodeId])
  if leaderFound then
    clearMissed
    return .ok ()
  else
    let missed ← noting (fun _ => .missed) countMiss
    if Election.wins setup.nodeId setup.peers missed aliveNodes then watchedWin setup
    else return .ok ()

/-- The role is read; unless the tick pauses, its branch is entered at once. -/
def enterBranch (status : ProcessStatus) : Watched NodeRole :=
  readRole.announce observe fun state history =>
    if status = .stopped ∧ state.role ≠ .fenced then history
    else .entered state.role state.supervisor.status :: history

/-- `monitorTick`. -/
def watchedTick (setup : Setup) : Watched (Except SupervisorError Unit) := do
  let status ← watch (onSupervisor readStatus)
  if status = .restoring then
    clearMissed
    return .ok ()
  else
    let role ← enterBranch status
    if status = .stopped ∧ role ≠ .fenced then
      clearMissed
      return .ok ()
    else
      match role with
      | .fenced => watchedRejoin setup
      | .leader => watch (guardLeadership setup)
      | .standby => watchedCampaign setup

/-- `handleRepoint`: a node that is re-pointed has moved, even if to where it was. -/
def watchedRepoint (setup : Setup) (conninfo : String) : Watched ControlResult := do
  let role ← watch readRole
  let status ← watch (onSupervisor readStatus)
  if role = .leader ∧ status = .running then
    return .ok
      { message := "Node is leader, ignoring repoint"
        nodeId := some setup.nodeId
        role := some .leader }
  else
    let target := withApplicationName setup.nodeId conninfo
    match ← watch (onSupervisor (repointPrimary target)) with
    | .error err => return .error (.repointFailed err)
    | .ok () =>
      noting (fun _ => .moved) (becomeStandby target)
      let message := nodeName setup ++ " re-pointed to " ++ conninfo
      watch (recordEvent "node_joined" message)
      return .ok { message := message, nodeId := some setup.nodeId, role := some .standby }

/-- A request, with notes. -/
def watchedHandle (setup : Setup) : ControlRequest → Watched ControlResult
  | .repoint conninfo => watchedRepoint setup conninfo
  | request => watch (handle setup request)

/-- Requests and ticks, with notes. -/
def watchedPerform (setup : Setup) : Activity → Watched Response
  | .request request => do return .answered (← watchedHandle setup request)
  | .tick => do return .ticked (← watchedTick setup)

/-! ### The notes decide nothing -/

variable (setup : Setup)

/-- Without its notes, the watched rejoin is `rejoin`. -/
theorem watched_rejoin_erases : (watchedRejoin setup).Erases (rejoin setup) := by
  refine Erases.bind (watch_erases _) fun found => ?_
  cases found with
  | none => exact .done _
  | some leader =>
    refine Erases.bind (watch_erases _) fun config => ?_
    refine Erases.bind (watch_erases _) fun synced => ?_
    cases synced with
    | error err => exact .done _
    | ok _ =>
      refine Erases.bind (watch_erases _) fun _ => ?_
      refine Erases.bind (watch_erases _) fun _ => ?_
      exact Erases.bind (noting_erases _ _) fun _ => .done _

/-- The watched win is `winElection`. -/
theorem watched_win_erases : (watchedWin setup).Erases (winElection setup) := by
  refine Erases.bind (noting_erases _ _) fun promoted => ?_
  cases promoted with
  | error err => exact .done _
  | ok _ => exact Erases.bind (noting_erases _ _) fun _ => .done _

/-- The watched campaign is `campaign`. -/
theorem watched_campaign_erases : (watchedCampaign setup).Erases (campaign setup) := by
  refine Erases.bind (watch_erases _) fun ⟨leaderFound, aliveNodes⟩ => ?_
  cases leaderFound with
  | true => exact Erases.bind (noting_erases _ _) fun _ => .done _
  | false =>
    refine Erases.bind (noting_erases _ countMiss) fun missed => ?_
    by_cases wins : Election.wins setup.nodeId setup.peers missed aliveNodes = true
    · rw [if_pos wins, if_pos wins]
      exact watched_win_erases setup
    · rw [if_neg wins, if_neg wins]
      exact .done _

/-- The watched tick is `monitorTick`. -/
theorem watched_tick_erases : (watchedTick setup).Erases (monitorTick setup) := by
  refine Erases.bind (watch_erases _) fun status => ?_
  by_cases restoring : status = .restoring
  · rw [if_pos restoring, if_pos restoring]
    exact Erases.bind (noting_erases _ _) fun _ => .done _
  rw [if_neg restoring, if_neg restoring]
  refine Erases.bind (announce_erases observe _ _) fun role => ?_
  by_cases paused : status = .stopped ∧ role ≠ .fenced
  · rw [if_pos paused, if_pos paused]
    exact Erases.bind (noting_erases _ _) fun _ => .done _
  rw [if_neg paused, if_neg paused]
  cases role with
  | fenced => exact watched_rejoin_erases setup
  | leader => exact watch_erases _
  | standby => exact watched_campaign_erases setup

/-- The watched repoint is `handleRepoint`. -/
theorem watched_repoint_erases (conninfo : String) :
    (watchedRepoint setup conninfo).Erases (handleRepoint setup conninfo) := by
  refine Erases.bind (watch_erases _) fun role => ?_
  refine Erases.bind (watch_erases _) fun status => ?_
  by_cases leads : role = .leader ∧ status = .running
  · rw [if_pos leads, if_pos leads]
    exact .done _
  rw [if_neg leads, if_neg leads]
  refine Erases.bind (watch_erases _) fun repointed => ?_
  cases repointed with
  | error err => exact .done _
  | ok _ =>
    refine Erases.bind (noting_erases _ _) fun _ => ?_
    exact Erases.bind (watch_erases _) fun _ => .done _

/-- Every activity of the watched sidecar is the sidecar's, but for the notes. -/
theorem watched_perform_erases (activity : Activity) :
    (watchedPerform setup activity).Erases (perform setup activity) := by
  cases activity with
  | tick => exact Erases.bind (watched_tick_erases setup) fun _ => .done _
  | request request =>
    refine Erases.bind ?_ fun _ => .done _
    cases request with
    | repoint conninfo => exact watched_repoint_erases setup conninfo
    | _ => exact watch_erases _

/-- The watched sidecar accepts the runs the sidecar accepts and takes it through the same
states. -/
theorem watched_run_erases (state : SidecarState) (events : List (TrafficEvent Activity Outcome)) :
    (run (Traffic.step (watchedPerform setup)) (.calm (state, [])) events).map (·.state.1) =
      (run (Traffic.step (perform setup)) (.calm state) events).map (·.state) := by
  have erased := run_erased (watched_perform_erases setup) (calm_erased state []) events
  generalize run (Traffic.step (watchedPerform setup)) _ events = noted,
    run (Traffic.step (perform setup)) _ events = final at erased
  cases erased with
  | none => rfl
  | some same => exact congrArg some same.state

/-! ### What the notes say -/

/-- The count the notes amount to. -/
def counted : History → Nat
  | [] => 0
  | .cleared :: _ => 0
  | .missed :: earlier => (counted earlier + 1) % 2 ^ 32
  | _ :: earlier => counted earlier

/-- What must have been noted before a note. -/
def Vouched (earlier : History) : Note → Prop
  | .promoting _ => 5 ≤ counted earlier
  | _ => True

/-- Each note is vouched for by those before it. -/
def Sound : History → Prop
  | [] => True
  | note :: earlier => Vouched earlier note ∧ Sound earlier

/-- So is every note of a sound history. -/
theorem Sound.vouched {history earlier note} (sound : Sound history)
    (noted : note :: earlier <:+ history) : Vouched earlier note := by
  induction history with
  | nil => exact absurd (List.suffix_nil.mp noted) nofun
  | cons latest rest ih =>
    rcases List.suffix_cons_iff.mp noted with whole | older
    · cases whole
      exact sound.1
    · exact ih sound.2 older

/-- The notes are true of the sidecar beside them. -/
structure Kept (watched : SidecarState × History) : Prop where
  count : watched.1.missedHeartbeats = counted watched.2
  sound : Sound watched.2

/-! ### What goes on beside a tick -/

/-- Changes of the role and the connection have been noted. -/
inductive Adds (history : History) : History → Prop
  | none : Adds history history
  | moved {later : History} (adds : Adds history later) : Adds history (.moved :: later)

namespace Adds

variable {history later : History}

/-- Such notes add up. -/
theorem trans {last} (before : Adds history later) (after : Adds later last) :
    Adds history last := by
  induction after with
  | none => exact before
  | moved _ ih => exact .moved ih

/-- They do not count. -/
theorem counted_eq (adds : Adds history later) : counted later = counted history := by
  induction adds with
  | none => rfl
  | moved _ ih => exact ih

/-- They need no vouching. -/
theorem sound (adds : Adds history later) (sound : Sound history) : Sound later := by
  induction adds with
  | none => exact sound
  | moved _ ih => exact ⟨trivial, ih⟩

end Adds

/-- Changes that leave the count alone. -/
structure Aside (before later : SidecarState × History) : Prop where
  count : later.1.missedHeartbeats = before.1.missedHeartbeats
  adds : Adds before.2 later.2

namespace Aside

/-- Nothing happens. -/
theorem refl (watched : SidecarState × History) : Aside watched watched := ⟨rfl, .none⟩

/-- One such change after another. -/
theorem trans {first second third} (before : Aside first second)
    (after : Aside second third) : Aside first third where
  count := after.count.trans before.count
  adds := before.adds.trans after.adds

/-- The notes stay true. -/
theorem kept {before later} (aside : Aside before later) (kept : Kept before) : Kept later where
  count := by rw [aside.count, kept.count, aside.adds.counted_eq]
  sound := aside.adds.sound kept.sound

end Aside

/-- An action that leaves the count alone. -/
theorem observe_aside (before later : SidecarState) (history : History)
    (spared : later.missedHeartbeats = before.missedHeartbeats) :
    Aside (before, history) (later, observe before later history) := by
  refine ⟨spared, ?_⟩
  simp only [observe]
  split
  · exact .none
  · exact .moved .none

/-! ### Ticks among requests -/

/-- What leaves the count alone. -/
abbrev Spares {α : Type} (task : Control α) : Prop := Attending True True task

/-- Each of its actions leaves the count as it was. -/
theorem Spares.count {α : Type} {task : Control α} (spares : Spares task) :
    task.Within (fun before later => later.missedHeartbeats = before.missedHeartbeats)
      fun _ => True :=
  Within.widen spares fun _ _ attends => attends.count

/-- A watched task that leaves the count alone. -/
theorem watch_aside {α : Type} {task : Control α} (spares : Spares task) :
    (watch task).Within Aside fun _ => True :=
  spares.count.annotate fun before later history => observe_aside before later history

/-- Becoming a standby is noted and counts nothing. -/
theorem become_standby_aside (conninfo : String) :
    (noting (fun _ => .moved) (becomeStandby conninfo)).Within Aside fun _ => True := by
  intro before answer
  have noted : Aside before (before.1, .moved :: before.2) := ⟨rfl, .moved .none⟩
  exact ⟨noted.trans (observe_aside _ _ _ rfl), trivial⟩

/-- Requests are bystanders of the monitor. -/
theorem watched_handle_aside (request : ControlRequest) :
    (watchedHandle setup request).Within Aside fun _ => True := by
  cases request with
  | repoint conninfo =>
    refine Within.bind (watch_aside read_role_attends) fun role _ => ?_
    refine Within.bind (watch_aside (calm_attends read_status_calm)) fun status _ => ?_
    split
    · trivial
    refine Within.bind (watch_aside (calm_attends (repoint_primary_calm _)))
      fun repointed _ => ?_
    cases repointed with
    | error err => trivial
    | ok _ =>
      refine Within.bind (become_standby_aside _) fun _ _ => ?_
      exact Within.bind (watch_aside (record_event_attends _ _)) fun _ _ => trivial
  | _ => exact watch_aside (handle_attends setup _)

/-- Among bystanders a tick keeps the notes true. -/
abbrev Monitors {α : Type} (task : Watched α) (before : SidecarState × History)
    (post : α → SidecarState × History → Prop) : Prop :=
  task.Guarded Aside Kept before post

section Ticks

variable {α : Type} {before : SidecarState × History}

/-- A watched task that spares the count keeps the notes true. -/
theorem watch_monitors {task : Control α} (spares : Spares task) (kept : Kept before) :
    Monitors (watch task) before fun _ later => Kept later ∧ Aside before later := by
  have guarded : Monitors (watch task) before fun _ later => True ∧ Aside before later :=
    (watch_aside spares).guarded Aside.refl (fun _ _ _ => Aside.trans)
      (fun _ _ kept aside => aside.kept kept) kept
  exact guarded.mono fun _ later ended => ⟨ended.2.kept kept, ended.2⟩

/-- Clearing the count is noted. -/
theorem clear_missed_monitors (kept : Kept before) :
    Monitors clearMissed before fun _ later => Kept later := by
  have cleared : Kept ({ before.1 with missedHeartbeats := 0 }, .cleared :: before.2) :=
    ⟨rfl, trivial, kept.sound⟩
  have unmoved : observe before.1 { before.1 with missedHeartbeats := 0 } (.cleared :: before.2) =
      .cleared :: before.2 := by simp [observe]
  unfold clearMissed noting setMissed
  refine guarded_announce_access fun _ => ?_
  dsimp only
  rw [unmoved]
  exact ⟨cleared, fun later aside => aside.kept cleared⟩

/-- A miss is noted, and the new count is what the notes amount to. -/
theorem count_miss_monitors (kept : Kept before) :
    Monitors (noting (fun _ => .missed) countMiss) before fun missed later =>
      Kept later ∧ missed = counted later.2 := by
  refine guarded_announce_access fun _ => ?_
  generalize same : (before.1.missedHeartbeats + 1) % 2 ^ 32 = missed
  have counts : counted (.missed :: before.2) = missed := by
    rw [counted, ← kept.count, same]
  have kept' : Kept ({ before.1 with missedHeartbeats := missed }, .missed :: before.2) :=
    ⟨counts.symm, trivial, kept.sound⟩
  have unmoved : observe before.1 { before.1 with missedHeartbeats := missed }
      (.missed :: before.2) = .missed :: before.2 := by simp [observe]
  dsimp only
  rw [unmoved]
  refine ⟨kept', fun later aside => ⟨aside.kept kept', ?_⟩⟩
  rw [aside.adds.counted_eq, counts]

/-- A win is noted after five misses. -/
theorem win_monitors (kept : Kept before) (enough : 5 ≤ counted before.2) :
    Monitors (watchedWin setup) before fun _ later => Kept later := by
  have announced : Kept (before.1, .promoting before.1.supervisor.status :: before.2) :=
    ⟨kept.count, enough, kept.sound⟩
  refine guarded_bind.mpr (Guarded.mono (Within.guarded_announce
    (Spares.count (promote_node_attends trivial _))
    observe_aside Aside.refl (fun _ _ _ => Aside.trans) (fun _ _ kept aside => aside.kept kept)
    kept announced) ?_)
  rintro promoted later ⟨-, kept⟩
  cases promoted with
  | error err => exact kept
  | ok _ => exact guarded_bind.mpr (clear_missed_monitors kept)

/-- An election is won after five misses only. -/
theorem wins_enough {setup : Setup} {missed : Nat} {aliveNodes : List Nat}
    (wins : Election.wins setup.nodeId setup.peers missed aliveNodes = true) : 5 ≤ missed := by
  simp only [Election.wins, Bool.and_eq_true, decide_eq_true_eq] at wins
  exact wins.1.1

variable (kept : Kept before)

include kept

/-- So the campaign promotes after five misses only. -/
theorem campaign_monitors :
    Monitors (watchedCampaign setup) before fun _ later => Kept later := by
  refine guarded_bind.mpr ((watch_monitors (canvass_attends _ _ _) kept).mono ?_)
  rintro ⟨leaderFound, aliveNodes⟩ asked ⟨kept, -⟩
  cases leaderFound with
  | true => exact guarded_bind.mpr (clear_missed_monitors kept)
  | false =>
    refine guarded_bind.mpr ((count_miss_monitors kept).mono ?_)
    rintro missed counting ⟨kept, rfl⟩
    by_cases wins : Election.wins setup.nodeId setup.peers (counted counting.2) aliveNodes = true
    · rw [if_pos wins]
      exact win_monitors setup kept (wins_enough wins)
    · rw [if_neg wins]
      exact kept

/-- A rejoin keeps the notes true. -/
theorem rejoin_monitors : Monitors (watchedRejoin setup) before fun _ later => Kept later := by
  refine guarded_bind.mpr ((watch_monitors (find_leader_attends _ _ _) kept).mono ?_)
  rintro found asked ⟨kept, -⟩
  cases found with
  | none => exact kept
  | some leader =>
    refine guarded_bind.mpr ((watch_monitors read_config_attends kept).mono ?_)
    rintro config configured ⟨kept, -⟩
    refine guarded_bind.mpr ((watch_monitors (on_supervisor_attends trivial _) kept).mono ?_)
    rintro synced resynced ⟨kept, -⟩
    cases synced with
    | error err => exact kept
    | ok _ =>
      refine guarded_bind.mpr ((watch_monitors (become_standby_attends trivial _) kept).mono ?_)
      rintro - following ⟨kept, -⟩
      refine guarded_bind.mpr ((watch_monitors (record_event_attends _ _) kept).mono ?_)
      rintro - recorded ⟨kept, -⟩
      exact guarded_bind.mpr (clear_missed_monitors kept)

/-- The branch taken is noted. -/
theorem enter_branch_monitors (status : ProcessStatus) :
    Monitors (enterBranch status) before fun _ later => Kept later := by
  refine guarded_announce_access fun _ => ?_
  have unmoved (history : History) : observe before.1 before.1 history = history := by
    simp [observe]
  have entered : Kept (before.1, .entered before.1.role before.1.supervisor.status :: before.2) :=
    ⟨kept.count, trivial, kept.sound⟩
  dsimp only
  rw [unmoved]
  split
  · exact ⟨kept, fun later aside => aside.kept kept⟩
  · exact ⟨entered, fun later aside => aside.kept entered⟩

/-- A whole tick keeps the notes true. -/
theorem tick_monitors : Monitors (watchedTick setup) before fun _ later => Kept later := by
  refine guarded_bind.mpr ((watch_monitors (calm_attends read_status_calm) kept).mono ?_)
  rintro status reading ⟨kept, -⟩
  by_cases restoring : status = .restoring
  · rw [if_pos restoring]
    exact guarded_bind.mpr (clear_missed_monitors kept)
  rw [if_neg restoring]
  refine guarded_bind.mpr ((enter_branch_monitors kept status).mono ?_)
  intro role entering kept
  by_cases paused : status = .stopped ∧ role ≠ .fenced
  · rw [if_pos paused]
    exact guarded_bind.mpr (clear_missed_monitors kept)
  rw [if_neg paused]
  cases role with
  | fenced => exact rejoin_monitors setup kept
  | leader =>
    exact (watch_monitors (guard_leadership_attends setup) kept).mono fun _ _ ended => ended.1
  | standby => exact campaign_monitors setup kept

end Ticks

/-- Among requests, ticks keep the notes true. -/
theorem monitor_concert :
    Concert (watchedPerform setup) (· = .tick) (fun _ _ => True) Aside Kept Kept where
  reflexive := .refl
  transitive _ _ _ := .trans
  stable _ _ kept aside := aside.kept kept
  rests _ _ kept aside := aside.kept kept
  keeps _ := id
  waits _ _ _ _ _ := trivial
  bystands activity other := by
    cases activity with
    | tick => exact absurd rfl other
    | request request => exact (watched_handle_aside setup request).bind fun _ _ => trivial
  performs activity state isTick kept _ := by
    cases isTick
    exact guarded_bind.mpr (tick_monitors setup kept)

/-- At every moment of every interleaving the notes are true. -/
theorem history_kept {state : SidecarState} {events : List (TrafficEvent Activity Outcome)}
    {final : Traffic Activity (SidecarState × History) Outcome Response}
    (fresh : state.missedHeartbeats = 0)
    (single : Meets (Traffic.step (watchedPerform setup))
      (Admits (· = .tick) fun _ _ => True) (.calm (state, [])) events)
    (reached : run (Traffic.step (watchedPerform setup)) (.calm (state, [])) events =
      some final) : Kept final.state :=
  have initially : Kept (state, []) := ⟨fresh, trivial⟩
  (traffic_conducted (monitor_concert setup) initially single reached).1

end PgVisor.Sidecar
