import PgVisor.ControlFrames

/-!
# What each request and each tick does

Every task of `SidecarControl` ends as the relation `Ended` says, alone on the node or
beside others that leave the server alone. The proofs follow the tasks: a method of the
supervisor contributes its specification and leaves role and connection alone, a section of
a handler leaves the supervisor alone, and most of the rest changes nothing the relation
speaks of.
-/

namespace PgVisor.Sidecar

open AwaitTasks Async
open Election (NodeRole ProcessStatus StatusResponse)

/-! ### Parts of the activities -/

section Parts

variable {α β : Type} {known alone : Prop} {state : SidecarState}

/-- The judgement of this module: beside others, the task ends like this. -/
def Ends (known alone : Prop) (task : Control α) (state : SidecarState)
    (post : α → SidecarState → Prop) : Prop :=
  task.Guarded (Beside alone) (fun state => Single known state.supervisor) state post

variable {task : Control α}

/-- A sequence ends as its second part does. -/
theorem ends_bind {rest : α → Control β} {post : β → SidecarState → Prop} :
    Ends known alone (task >>= rest) state post ↔
      Ends known alone task state fun result later => Ends known alone (rest result) later post :=
  guarded_bind

theorem Ends.mono {post post'} (ends : Ends known alone task state post)
    (weaker : ∀ result later, post result later → post' result later) :
    Ends known alone task state post' := Guarded.mono ends weaker

theorem Ends.andThen {rest : α → Control β} {between : α → SidecarState → Prop}
    {post : β → SidecarState → Prop} (first : Ends known alone task state between)
    (second : ∀ result later, between result later → Ends known alone (rest result) later post) :
    Ends known alone (task >>= rest) state post := Guarded.andThen first second

/-- A method of the supervisor leaves role and connection alone. -/
theorem ends_on_supervisor {task : Supervision α} {post : α → PostgresSupervisor → Prop}
    (guarded : task.Guarded Undisturbed (Single known) state.supervisor post) :
    Ends known alone (onSupervisor task) state fun result later =>
      post result later.supervisor ∧
        Stands alone state.role state.config.primaryConninfo later := by
  unfold Ends
  refine Guarded.zoom supervisorPart id guarded ?_ ?_ ?_
  · exact fun before later beside => beside.undisturbed
  · intro before replaced later stands beside
    have moved : Stands alone _ _ (supervisorPart.set before replaced) := stands
    exact moved.beside beside
  · exact fun _ => ⟨rfl, rfl⟩

/-- A section of a handler that does not touch the supervisor. -/
theorem ends_access {action : SidecarState → Outcome → SidecarState × α}
    {post : α → SidecarState → Prop} (single : Single known state.supervisor)
    (same : ∀ outcome, (action state outcome).1.supervisor = state.supervisor)
    (after : ∀ outcome later, Beside alone (action state outcome).1 later →
      post (action state outcome).2 later) : Ends known alone (.access action) state post := by
  intro outcome
  refine ⟨?_, after outcome⟩
  dsimp only
  rwa [same outcome]

/-- The leader has no connection stored. -/
theorem become_leader_ends (single : Single known state.supervisor) :
    Ends known alone becomeLeader state fun _ later =>
      Undisturbed state.supervisor later.supervisor ∧ Stands alone .leader none later :=
  ends_access single (fun _ => rfl) fun _ _ beside => ⟨beside.undisturbed, beside.stands⟩

/-- The standby has its connection stored. -/
theorem become_standby_ends (conninfo : String) (single : Single known state.supervisor) :
    Ends known alone (becomeStandby conninfo) state fun _ later =>
      Undisturbed state.supervisor later.supervisor ∧ Stands alone .standby (some conninfo) later :=
  ends_access single (fun _ => rfl) fun _ _ beside => ⟨beside.undisturbed, beside.stands⟩

/-- The role changes and the connection stays. -/
theorem set_role_ends (role : NodeRole) (single : Single known state.supervisor) :
    Ends known alone (setRole role) state fun _ later =>
      Undisturbed state.supervisor later.supervisor ∧
        Stands alone role state.config.primaryConninfo later :=
  ends_access single (fun _ => rfl) fun _ _ beside => ⟨beside.undisturbed, beside.stands⟩

/-- The connection changes and the role stays. -/
theorem store_conninfo_ends (conninfo : Option String) (single : Single known state.supervisor) :
    Ends known alone (storeConninfo conninfo) state fun _ later =>
      Undisturbed state.supervisor later.supervisor ∧ Stands alone state.role conninfo later :=
  ends_access single (fun _ => rfl) fun _ _ beside => ⟨beside.undisturbed, beside.stands⟩

/-- A task that changes nothing the relation speaks of. -/
theorem attended_ends {results : α → Prop}
    (attends : task.Within (Attends False False) results)
    (single : Single known state.supervisor) :
    Ends known alone task state fun result later => results result ∧ Beside alone state later := by
  have beside : task.Within (Beside alone) results :=
    attends.widen fun _ _ attends => ⟨attends.undisturbed id, fun _ => attends.stands id⟩
  exact beside.guarded .refl (fun _ _ _ => .trans)
    (fun _ _ kept beside => Undisturbed.single kept beside.undisturbed) single

/-- The role is read while the node stands. -/
theorem read_role_ends (single : Single known state.supervisor) :
    Ends known alone readRole state fun role later =>
      role = state.role ∧ Beside alone state later :=
  ends_access single (fun _ => rfl) fun _ _ beside => ⟨rfl, beside⟩

/-- The count is outside of what is specified. -/
theorem set_missed_ends (missed : Nat) (single : Single known state.supervisor) :
    Ends known alone (setMissed missed) state fun _ later => True ∧ Beside alone state later :=
  ends_access single (fun _ => rfl) fun _ _ beside => ⟨trivial, beside.undisturbed, beside.stands⟩

end Parts

/-! ### The requests -/

section Requests

variable {known alone : Prop} {state origin : SidecarState}

/-- The task ends as the activity may, with an answer made of its result. -/
abbrev Fulfils {α : Type} (known alone : Prop) (origin : SidecarState) (activity : Activity)
    (answer : α → Response) (task : Control α) (state : SidecarState) : Prop :=
  Ends known alone task state fun result later =>
    Ended known alone origin activity (answer result) later

variable (detail : String)

/-- An event recorded at the end does not show. -/
theorem recorded_ends {α : Type} {result : α} {post : α → SidecarState → Prop}
    (kind detail : String) (single : Single known state.supervisor)
    (ended : ∀ later, Beside alone state later → post result later) :
    Ends known alone (recordEvent kind detail >>= fun _ => pure result) state post := by
  apply (attended_ends (record_event_attends kind detail) single).andThen
  rintro _ later ⟨-, beside⟩
  exact ended later beside

/-- A promotion leaves the server alive under its pid. -/
theorem promote_node_ends (single : Single known state.supervisor) :
    Ends known alone (promoteNode detail) state fun result later =>
      Undisturbed state.supervisor later.supervisor ∧
        match result with
        | .ok () => Stands alone .leader none later
        | .error _ => Stands alone state.role state.config.primaryConninfo later := by
  unfold promoteNode
  apply (ends_on_supervisor (calm_guarded promote_calm single)).andThen
  rintro result first ⟨⟨-, calm⟩, stands⟩
  cases result with
  | error err => exact ⟨calm, stands⟩
  | ok _ =>
    have single := Undisturbed.single single calm
    apply (become_leader_ends single).andThen
    rintro _ second ⟨further, leads⟩
    apply (attended_ends (record_event_attends _ _) (Undisturbed.single single further)).andThen
    rintro _ third ⟨-, beside⟩
    exact ⟨(calm.trans further).trans beside.undisturbed, leads.beside beside⟩

variable (setup : Setup)

/-- The role of a node that a promotion could not be made on stays as it was. -/
theorem handle_promote_role (single : Single known state.supervisor) :
    Ends known alone (handlePromote setup) state fun result later =>
      Undisturbed state.supervisor later.supervisor ∧
        match result with
        | .ok _ => Stands alone .leader none later
        | .error err => err.harmless = true ∧
          Stands alone state.role state.config.primaryConninfo later := by
  unfold handlePromote
  apply (promote_node_ends _ single).andThen
  rintro result later ⟨calm, stands⟩
  cases result with
  | error err => exact ⟨calm, rfl, stands⟩
  | ok _ => exact ⟨calm, stands⟩

/-- A promote request. -/
theorem handle_promote_ends (single : Single known state.supervisor) :
    Fulfils known alone state (.request .promote) .answered (handlePromote setup) state := by
  apply (handle_promote_role setup single).mono
  rintro result later ⟨calm, stands⟩
  cases result with
  | error err => exact .quiet stands.1 ⟨calm, stands.2⟩
  | ok _ => exact .promoted trivial calm stands

/-- The role is set after the server has been fenced. -/
theorem role_fenced_ends {α : Type} {result : α} {role : NodeRole} {conninfo : Option String}
    (kind detail : String) (fenced : state.supervisor.status = .fenced)
    (none : known → state.supervisor.pids = []) (stands : Stands alone role conninfo state) :
    Ends known alone
      (setRole .fenced >>= fun _ => recordEvent kind detail >>= fun _ => pure result) state
      fun returned later => returned = result ∧ later.supervisor.status = .fenced ∧
        (known → later.supervisor.pids = []) ∧ Stands alone .fenced conninfo later := by
  apply (set_role_ends .fenced (single_of_none none)).andThen
  rintro _ first ⟨calm, placed⟩
  have none := calm.remains none
  have placed : Stands alone .fenced conninfo first := fun holds =>
    ⟨(placed holds).1, (placed holds).2.trans (stands holds).2⟩
  refine recorded_ends _ _ (single_of_none none) fun later beside => ⟨rfl, ?_, ?_, ?_⟩
  · exact (beside.undisturbed.status.trans calm.status).trans fenced
  · exact fun holds => beside.undisturbed.none (none holds)
  · exact placed.beside beside

/-- A fence request. -/
theorem handle_fence_ends (tracked : known → Tracked state.supervisor) :
    Fulfils known alone state (.request .fence) .answered (handleFence setup) state := by
  unfold handleFence
  apply (ends_on_supervisor (fence_guarded tracked)).andThen
  rintro _ first ⟨⟨rfl, fenced, none⟩, stands⟩
  apply (role_fenced_ends _ _ fenced none stands).mono
  rintro _ later ⟨rfl, status, none, placed⟩
  exact .fenced trivial status none placed

/-- A demotion succeeds, and the node has no server left. -/
theorem handle_demote_fences (accounted : known → Accounted state.supervisor) :
    Ends known alone (handleDemote setup) state fun result later =>
      (∃ reply, result = .ok reply) ∧ later.supervisor.status = .fenced ∧
        (known → later.supervisor.pids = []) ∧
        Stands alone .fenced state.config.primaryConninfo later := by
  unfold handleDemote
  apply (ends_on_supervisor (stop_guarded accounted)).andThen
  rintro _ first ⟨⟨rfl, -, none⟩, stands⟩
  apply (ends_on_supervisor (set_status_guarded .fenced (single_of_none none))).andThen
  rintro _ second ⟨calm, still⟩
  have none := calm.remains none
  apply (role_fenced_ends _ _ calm.status none (stands.stays still)).mono
  rintro _ later ⟨rfl, status, none, placed⟩
  exact ⟨⟨_, rfl⟩, status, none, placed⟩

/-- A demote request. -/
theorem handle_demote_ends (accounted : known → Accounted state.supervisor) :
    Fulfils known alone state (.request .demote) .answered (handleDemote setup) state := by
  apply (handle_demote_fences setup accounted).mono
  rintro _ later ⟨⟨reply, rfl⟩, status, none, stands⟩
  exact .fenced trivial status none stands

/-- A repoint under the locks. -/
theorem repoint_node_ends (conninfo given : String) (before : Beside alone origin state)
    (single : Single known state.supervisor) :
    Fulfils known alone origin (.request (.repoint given)) .answered
      (repointNode setup conninfo) state := by
  unfold repointNode
  apply (ends_on_supervisor (calm_guarded (repoint_primary_calm _) single)).andThen
  rintro result first ⟨⟨-, calm⟩, stands⟩
  have single := Undisturbed.single single calm
  cases result with
  | error err => exact .quiet rfl (before.trans ⟨calm, stands⟩)
  | ok _ =>
    apply (become_standby_ends _ single).andThen
    rintro _ second ⟨further, placed⟩
    refine recorded_ends _ _ (Undisturbed.single single further) fun _ => Ended.beside ?_
    exact .repointed trivial ((before.undisturbed.trans calm).trans further) placed

variable (conninfo : String)

/-- A repoint request. -/
theorem handle_repoint_ends (single : Single known state.supervisor) :
    Fulfils known alone state (.request (.repoint conninfo)) .answered
      (handleRepoint setup conninfo) state := by
  unfold handleRepoint
  apply (attended_ends read_role_attends single).andThen
  rintro role first ⟨-, beside⟩
  have single := Undisturbed.single single beside.undisturbed
  apply (ends_on_supervisor (read_status_guarded single)).andThen
  rintro status second ⟨⟨-, calm⟩, stands⟩
  have throughout : Beside alone state second := beside.trans ⟨calm, stands⟩
  split
  · exact .quiet trivial throughout
  · exact repoint_node_ends setup conninfo conninfo throughout (Undisturbed.single single calm)

/-- A restore after the archive was fetched. -/
theorem restore_node_ends (snapshotId : String) (target : Option String) (archive : TarArchive)
    (tracked : known → Tracked state.supervisor) :
    Fulfils known alone origin (.request (.restore snapshotId target)) .answered
      (restoreNode setup snapshotId target archive) state := by
  unfold restoreNode
  apply (ends_on_supervisor (set_status_guarded .restoring (single_of_tracked tracked))).andThen
  rintro _ first ⟨calm, -⟩
  have tracked := calm.tracks tracked
  apply (become_leader_ends (single_of_tracked tracked)).andThen
  rintro _ second ⟨calm, leads⟩
  have tracked := calm.tracks tracked
  apply (attended_ends read_config_attends (single_of_tracked tracked)).andThen
  rintro config third ⟨-, beside⟩
  have leads := leads.beside beside
  have tracked := beside.undisturbed.tracks tracked
  apply (ends_on_supervisor (restore_from_snapshot_guarded setup archive _ target tracked)).andThen
  rintro result last ⟨restored, stands⟩
  have leads : Stands alone .leader none last := fun holds =>
    ⟨(stands holds).1.trans (leads holds).1, (stands holds).2.trans (leads holds).2⟩
  cases result with
  | error err => exact .unrestored restored leads
  | ok _ => exact .restored restored leads

/-- A restore request. -/
theorem handle_restore_ends (snapshotId : String) (target : Option String)
    (tracked : known → Tracked state.supervisor) :
    Fulfils known alone state (.request (.restore snapshotId target)) .answered
      (handleRestore setup snapshotId target) state := by
  unfold handleRestore
  apply (attended_ends (refuse_target_attends setup target) (single_of_tracked tracked)).andThen
  rintro refusal first ⟨harmless, beside⟩
  have tracked := beside.undisturbed.tracks tracked
  cases refusal with
  | some err => exact .quiet (harmless err rfl) beside
  | none =>
    dsimp only
    split
    · rw [ends_bind]
      apply ends_access (single_of_tracked tracked) (fun _ => rfl)
      intro outcome second further
      have tracked := further.undisturbed.tracks tracked
      dsimp only
      split
      · exact .quiet rfl (beside.trans further)
      · exact restore_node_ends setup snapshotId target _ tracked
    · exact .quiet rfl beside

/-- The request that precedes a restore. -/
theorem handle_prepare_restore_ends (single : Single known state.supervisor) :
    Fulfils known alone state (.request .prepareRestore) .answered
      (handlePrepareRestore setup) state := by
  unfold handlePrepareRestore
  apply (ends_on_supervisor (set_status_guarded .restoring single)).andThen
  rintro _ first ⟨calm, stands⟩
  have before : Single known { state.supervisor with status := .restoring } := single
  exact recorded_ends _ _ (Undisturbed.single before calm) fun _ => .beside (.prepared calm stands)

/-- The request that takes it back. -/
theorem handle_cancel_restore_ends (tracked : known → Tracked state.supervisor) :
    Fulfils known alone state (.request .cancelRestore) .answered
      (handleCancelRestore setup) state := by
  unfold handleCancelRestore
  apply (ends_on_supervisor (is_running_guarded (single_of_tracked tracked))).andThen
  rintro running first ⟨⟨seen, calm, rfl, further⟩, stands⟩
  have single := Undisturbed.single (single_of_tracked tracked) (calm.trans further)
  apply (ends_on_supervisor (set_status_guarded _ single)).andThen
  rintro _ second ⟨last, still⟩
  have stands := stands.stays still
  by_cases alive : seen.childAlive
  · rw [if_pos alive] at last
    refine .cancelled (.inl last.status) (fun holds => ⟨?_, fun stopped => ?_⟩) ?_ stands
    · exact last.tracked ((calm.trans further).tracked (tracked holds))
    · rw [last.status] at stopped
      cases stopped
    · exact fun none => absurd alive (child_dead_of_none (calm.none none))
  · rw [if_neg alive] at last
    have gone (none : seen.pids = []) : second.supervisor.pids = [] := last.none (further.none none)
    refine .cancelled (.inr last.status) (fun holds => ?_) (fun none => ?_) stands
    · exact .of_none (gone ((calm.tracked (tracked holds)).none_of_dead alive))
    · exact ⟨last.status, gone (calm.none none)⟩

/-- A resync with its connection known. -/
theorem resync_node_ends (given : Option String)
    (stands : Stands alone origin.role origin.config.primaryConninfo state)
    (tracked : known → Tracked state.supervisor) :
    Fulfils known alone origin (.request (.resync given)) .answered
      (resyncNode setup conninfo) state := by
  unfold resyncNode
  apply (store_conninfo_ends (some conninfo) (single_of_tracked tracked)).andThen
  rintro _ first ⟨calm, stored⟩
  have tracked := calm.tracks tracked
  apply (attended_ends read_config_attends (single_of_tracked tracked)).andThen
  rintro config second ⟨-, beside⟩
  have stored : Stands alone origin.role (some conninfo) second := fun holds =>
    ⟨((stored.beside beside holds).1).trans (stands holds).1, (stored.beside beside holds).2⟩
  have tracked := beside.undisturbed.tracks tracked
  apply (ends_on_supervisor (resync_from_primary_guarded setup conninfo config tracked)).andThen
  rintro result third ⟨resynced, still⟩
  have stored := stored.stays still
  cases result with
  | error err => exact .unsynced resynced stored
  | ok _ =>
    have single : Single known third.supervisor := by
      cases resynced with
      | following _ tracked => exact single_of_tracked tracked
    apply (set_role_ends .standby single).andThen
    rintro _ last ⟨calm, placed⟩
    have placed : Stands alone .standby (some conninfo) last := fun holds =>
      ⟨(placed holds).1, (placed holds).2.trans (stored holds).2⟩
    exact .resynced trivial (resynced.undisturbed calm) placed

/-- A resync request. -/
theorem handle_resync_ends (given : Option String) (tracked : known → Tracked state.supervisor) :
    Fulfils known alone state (.request (.resync given)) .answered
      (handleResync setup given) state := by
  unfold handleResync
  apply (ends_on_supervisor (set_status_guarded .restoring (single_of_tracked tracked))).andThen
  rintro _ first ⟨calm, stands⟩
  have tracked := calm.tracks tracked
  apply (attended_ends read_config_attends (single_of_tracked tracked)).andThen
  rintro config second ⟨-, beside⟩
  have tracked := beside.undisturbed.tracks tracked
  split
  · exact .unconnected (calm.trans beside.undisturbed) (stands.beside beside)
  · exact resync_node_ends setup _ given (stands.beside beside) tracked

/-! ### Starting -/

/-- How a start that waits fifteen rounds ends. -/
theorem start_standby_guarded (config : PostgresConfig) {supervisor : PostgresSupervisor}
    (none : known → supervisor.pids = []) :
    (startStandby setup config).Guarded Undisturbed (Single known) supervisor
      fun result later => (known → Tracked later) ∧
        (result = .ok () → later.status = launchedStatus supervisor.status) := by
  unfold startStandby
  refine (start_guarded setup config (fun holds => .of_none (none holds))
    fun holds _ => none holds).andThen ?_
  intro result first started
  cases started with
  | refused _ _ _ gone => exact ⟨fun holds => .of_none (gone holds), nofun⟩
  | up now tracked =>
    apply (wait_ready_guarded 15 tracked).mono
    intro ready second awaited
    cases awaited with
    | ready same tracked => exact ⟨tracked, fun _ => same.trans now⟩
    | timedOut _ tracked => exact ⟨tracked, nofun⟩
    | exited code _ gone => exact ⟨fun holds => .of_none (gone holds), nofun⟩

variable {request : ControlRequest} {prior : ProcessStatus}
  (starts : Starts origin.supervisor.status request prior)

include starts

variable (status : state.supervisor.status = prior)

include status

variable (none : known → state.supervisor.pids = [])

include none

/-- How `start_postgres_safely` ends for a request that finds the status `prior`. -/
theorem start_behind_ends :
    Ends known alone (startBehind setup conninfo) state fun result later =>
      ∀ reply, Ended known alone origin (.request request)
        (.answered (result.map fun _ => reply)) later := by
  unfold startBehind
  rw [ends_bind]
  have repointed := calm_guarded (repoint_primary_calm conninfo) (single_of_none none)
  apply (ends_on_supervisor repointed).mono
  rintro _ first ⟨⟨-, calm⟩, -⟩
  have none := calm.remains none
  apply (become_standby_ends conninfo (single_of_none none)).andThen
  rintro _ second ⟨further, placed⟩
  have none := further.remains none
  apply (attended_ends read_config_attends (single_of_none none)).andThen
  rintro config third ⟨-, beside⟩
  have none := beside.undisturbed.remains none
  have placed := placed.beside beside
  have found : third.supervisor.status = prior :=
    ((calm.trans further).trans beside.undisturbed).status.trans status
  apply (ends_on_supervisor (start_standby_guarded setup config none)).andThen
  rintro result fourth ⟨⟨tracked, up⟩, still⟩
  have placed := placed.stays still
  cases result with
  | ok _ =>
    intro reply
    refine .startedBehind starts ?_ tracked placed
    rw [up rfl, found]
  | error _ =>
    apply (ends_on_supervisor (resync_from_primary_guarded setup conninfo config tracked)).andThen
    rintro result last ⟨resynced, still⟩
    have placed := placed.stays still
    cases result with
    | ok _ => exact fun reply => .resynced trivial resynced placed
    | error err => exact fun reply => .unfollowed starts resynced placed

/-- A start without a leader. -/
theorem start_alone_ends (stands : Stands alone origin.role origin.config.primaryConninfo state) :
    Ends known alone (startAlone setup) state fun result later =>
      ∀ reply, Ended known alone origin (.request request)
        (.answered (result.map fun _ => reply)) later := by
  unfold startAlone
  apply (attended_ends read_config_attends (single_of_none none)).andThen
  rintro config first ⟨-, beside⟩
  have none := beside.undisturbed.remains none
  have found : first.supervisor.status = prior := beside.undisturbed.status.trans status
  have stands := stands.beside beside
  refine (ends_on_supervisor (start_guarded setup config (fun holds => .of_none (none holds))
    fun holds _ => none holds)).andThen ?_
  rintro result second ⟨started, still⟩
  rw [found] at started
  have stands := stands.stays still
  cases started with
  | refused _ same idle gone => exact fun reply => .unstarted starts idle same gone stands
  | up now tracked =>
    apply (ends_on_supervisor (wait_ready_guarded 30 tracked)).andThen
    rintro ready last ⟨awaited, still⟩
    rw [now] at awaited
    have stands := stands.stays still
    cases awaited with
    | ready same tracked =>
      exact fun reply => .startedAlone starts (.ready reply) same tracked stands
    | timedOut same tracked => exact fun reply => .startedAlone starts .late same tracked stands
    | exited code now gone =>
      refine fun reply => .exited starts ?_ gone stands
      rw [now, exitedStatus, if_pos (launched_ne_fenced prior)]

/-- A start behind a leader, if one is found, or without. -/
theorem start_postgres_safely_ends
    (stands : Stands alone origin.role origin.config.primaryConninfo state) :
    Ends known alone (startPostgresSafely setup) state fun result later =>
      ∀ reply, Ended known alone origin (.request request)
        (.answered (result.map fun _ => reply)) later := by
  unfold startPostgresSafely
  apply (attended_ends (find_leader_attends setup _ setup.peers) (single_of_none none)).andThen
  rintro found first ⟨-, beside⟩
  have none := beside.undisturbed.remains none
  have status : first.supervisor.status = prior := beside.undisturbed.status.trans status
  split
  · exact start_behind_ends setup _ starts status none
  · exact start_alone_ends setup starts status none (stands.beside beside)

omit none

omit status

omit starts

/-- The requests that start a server record the node as up if it is. -/
theorem started_ends {result : Except ControlError Unit} (kind detail : String)
    (reply : ControlReply) (single : Single known state.supervisor)
    (ended : ∀ reply, Ended known alone origin (.request request)
      (.answered (result.map fun _ => reply)) state) : Ends known alone
      (match result with
        | .error err => pure (.error err)
        | .ok () => recordEvent kind detail >>= fun _ => pure (.ok reply)) state
      fun result later =>
        Ended known alone origin (.request request) (.answered result) later := by
  cases result with
  | error err => exact ended reply
  | ok _ => exact recorded_ends kind detail single fun _ => (ended reply).beside

variable (accounted : known → Accounted state.supervisor)

include accounted

/-- A start request, with no second server beside the first. -/
theorem handle_start_ends
    (idle : known → state.supervisor.status = .running ∨ state.supervisor.pids = []) :
    Fulfils known alone state (.request .start) .answered (handleStart setup) state := by
  unfold handleStart
  refine (ends_on_supervisor (read_status_guarded (single_of_tracked fun holds =>
    (accounted holds).tracked))).andThen ?_
  rintro _ first ⟨⟨rfl, calm⟩, stands⟩
  split
  · exact .quiet rfl ⟨calm, stands⟩
  next stopped =>
    have none (holds : known) : first.supervisor.pids = [] := by
      rcases idle holds with running | none
      · exact absurd running stopped
      · exact calm.none none
    apply (start_postgres_safely_ends setup (.start stopped) calm.status none stands).andThen
    intro result second ended
    refine started_ends _ _ _ (single_of_tracked fun holds => ?_) ended
    exact ((ended { message := "" }).accounted holds (accounted holds)).tracked

/-- A restart request. -/
theorem handle_restart_ends :
    Fulfils known alone state (.request .restart) .answered (handleRestart setup) state := by
  unfold handleRestart
  apply (ends_on_supervisor (stop_guarded accounted)).andThen
  rintro _ first ⟨⟨rfl, status, none⟩, stands⟩
  apply (start_postgres_safely_ends setup .restart status none stands).andThen
  intro result second ended
  refine started_ends _ _ _ (single_of_tracked fun holds => ?_) ended
  exact ((ended { message := "" }).accounted holds (accounted holds)).tracked

/-- A stop request. -/
theorem handle_stop_ends :
    Fulfils known alone state (.request .stop) .answered (handleStop setup) state := by
  unfold handleStop
  refine (ends_on_supervisor (read_status_guarded (single_of_tracked fun holds =>
    (accounted holds).tracked))).andThen ?_
  rintro _ first ⟨⟨-, calm⟩, stands⟩
  split
  · exact .quiet rfl ⟨calm, stands⟩
  apply (ends_on_supervisor (stop_guarded fun holds => calm.accounted (accounted holds))).andThen
  rintro _ second ⟨⟨rfl, status, none⟩, still⟩
  refine recorded_ends _ _ (single_of_none none) fun _ => Ended.beside ?_
  refine .stopped ?_ none (stands.stays still)
  rw [status, calm.status]

omit accounted

/-- What a request can do. Only a start needs more than that the server is accounted for:
it goes by the status, and must not find a live server under another one than Running. -/
theorem handle_ends (request : ControlRequest) (accounted : known → Accounted state.supervisor)
    (idle : known → request = .start →
      state.supervisor.status = .running ∨ state.supervisor.pids = []) :
    Fulfils known alone state (.request request) .answered (handle setup request) state := by
  have tracked (holds : known) : Tracked state.supervisor := (accounted holds).tracked
  have single : Single known state.supervisor := single_of_tracked tracked
  cases request with
  | promote => exact handle_promote_ends setup single
  | fence => exact handle_fence_ends setup tracked
  | demote => exact handle_demote_ends setup accounted
  | repoint conninfo => exact handle_repoint_ends setup conninfo single
  | restore snapshotId target => exact handle_restore_ends setup snapshotId target tracked
  | prepareRestore => exact handle_prepare_restore_ends setup single
  | cancelRestore => exact handle_cancel_restore_ends setup tracked
  | resync given => exact handle_resync_ends setup given tracked
  | start => exact handle_start_ends setup accounted fun holds => idle holds rfl
  | stop => exact handle_stop_ends setup accounted
  | restart => exact handle_restart_ends setup accounted

/-! ### The election monitor -/

variable (before : Beside alone origin state)

include before

/-- The tick of a fenced node. -/
theorem rejoin_ends (fenced : alone → origin.role = .fenced)
    (tracked : known → Tracked state.supervisor) :
    Fulfils known alone origin .tick .ticked (rejoin setup) state := by
  unfold rejoin
  apply (attended_ends (find_leader_attends setup _ setup.peers)
    (single_of_tracked tracked)).andThen
  rintro found first ⟨-, beside⟩
  have tracked := beside.undisturbed.tracks tracked
  have throughout := before.trans beside
  split
  · exact .quiet trivial throughout
  apply (attended_ends read_config_attends (single_of_tracked tracked)).andThen
  rintro config second ⟨-, beside⟩
  have tracked := beside.undisturbed.tracks tracked
  apply (ends_on_supervisor (resync_from_primary_guarded setup _ _ tracked)).andThen
  rintro result third ⟨resynced, still⟩
  cases result with
  | error err => exact .unjoined fenced resynced ((throughout.trans beside).stands.stays still)
  | ok _ =>
    have tracked (holds : known) : Tracked third.supervisor := by
      cases resynced with
      | following _ tracked => exact tracked holds
    apply (become_standby_ends _ (single_of_tracked tracked)).andThen
    rintro _ fourth ⟨calm, placed⟩
    have single := Undisturbed.single (single_of_tracked tracked) calm
    apply (attended_ends (record_event_attends _ _) single).andThen
    rintro _ fifth ⟨-, beside⟩
    apply (set_missed_ends 0 (Undisturbed.single single beside.undisturbed)).andThen
    rintro _ last ⟨-, further⟩
    have settled := beside.trans further
    exact .resynced trivial (resynced.undisturbed (calm.trans settled.undisturbed))
      (placed.beside settled)

/-- The tick of a leader. -/
theorem guard_leadership_ends (tracked : known → Tracked state.supervisor) :
    Fulfils known alone origin .tick .ticked (guardLeadership setup) state := by
  unfold guardLeadership
  apply (attended_ends (find_leader_attends setup _ setup.peers)
    (single_of_tracked tracked)).andThen
  rintro found first ⟨-, beside⟩
  have throughout := before.trans beside
  split
  · exact .quiet trivial throughout
  refine (ends_on_supervisor (fence_guarded fun holds =>
    beside.undisturbed.tracked (tracked holds))).andThen ?_
  rintro _ second ⟨⟨-, fenced, none⟩, still⟩
  apply (role_fenced_ends _ _ fenced none (throughout.stands.stays still)).mono
  rintro _ later ⟨rfl, status, none, placed⟩
  exact .fenced trivial status none placed

/-- The end of a won election. -/
theorem win_election_ends (single : Single known state.supervisor) :
    Fulfils known alone origin .tick .ticked (winElection setup) state := by
  unfold winElection
  apply (promote_node_ends _ single).andThen
  rintro result first ⟨calm, stands⟩
  cases result with
  | error err => exact .quiet trivial (before.trans ⟨calm, stands⟩)
  | ok _ =>
    apply (set_missed_ends 0 (Undisturbed.single single calm)).andThen
    rintro _ last ⟨-, beside⟩
    exact .promoted trivial
      (before.undisturbed.trans (calm.trans beside.undisturbed)) (stands.beside beside)

/-- The tick of a standby. -/
theorem campaign_ends (single : Single known state.supervisor) :
    Fulfils known alone origin .tick .ticked (campaign setup) state := by
  unfold campaign
  apply (attended_ends (canvass_attends setup.peers false [setup.nodeId]) single).andThen
  rintro ⟨leaderFound, aliveNodes⟩ first ⟨-, beside⟩
  have single := Undisturbed.single single beside.undisturbed
  have throughout := before.trans beside
  dsimp only
  split
  · apply (set_missed_ends 0 single).andThen
    rintro _ second ⟨-, beside⟩
    exact .quiet trivial (throughout.trans beside)
  · rw [ends_bind]
    apply ends_access single (fun _ => rfl)
    intro outcome second beside
    have single := Undisturbed.single single beside.undisturbed
    have throughout : Beside alone origin second :=
      throughout.trans ⟨beside.undisturbed, beside.stands⟩
    split
    · exact win_election_ends setup throughout single
    · exact .quiet trivial throughout

omit before

/-- A whole tick. -/
theorem monitor_tick_ends (tracked : known → Tracked state.supervisor) :
    Fulfils known alone state .tick .ticked (monitorTick setup) state := by
  have resting {later : SidecarState} (beside : Beside alone state later) :
      Ends known alone (setMissed 0 >>= fun _ => (pure (.ok ()) : Control _)) later
        fun result last => Ended known alone state .tick (.ticked result) last := by
    have single := Undisturbed.single (single_of_tracked tracked) beside.undisturbed
    apply (set_missed_ends 0 single).andThen
    rintro _ last ⟨-, further⟩
    exact .quiet trivial (beside.trans further)
  unfold monitorTick
  apply (ends_on_supervisor (read_status_guarded (single_of_tracked tracked))).andThen
  rintro status first ⟨⟨-, calm⟩, stands⟩
  have beside : Beside alone state first := ⟨calm, stands⟩
  split
  · exact resting beside
  apply (read_role_ends (Undisturbed.single (single_of_tracked tracked) calm)).andThen
  rintro _ second ⟨rfl, further⟩
  have throughout := beside.trans further
  have tracked := throughout.undisturbed.tracks tracked
  split
  · exact resting throughout
  cases role : first.role with
  | fenced =>
    exact rejoin_ends setup throughout (fun holds => (stands holds).1.symm.trans role) tracked
  | leader => exact guard_leadership_ends setup throughout tracked
  | standby => exact campaign_ends setup throughout (single_of_tracked tracked)

end Requests

/-- What an activity of a sidecar can do. -/
theorem perform_ends {known alone : Prop} {state : SidecarState} (setup : Setup)
    (activity : Activity) (accounted : known → Accounted state.supervisor)
    (idle : known → activity = .request .start →
      state.supervisor.status = .running ∨ state.supervisor.pids = []) :
    Ends known alone (perform setup activity) state fun response later =>
      Ended known alone state activity response later := by
  cases activity with
  | request request =>
    unfold perform
    rw [ends_bind]
    refine handle_ends setup request accounted fun holds same => ?_
    exact idle holds (congrArg _ same)
  | tick =>
    unfold perform
    rw [ends_bind]
    exact monitor_tick_ends setup fun holds => (accounted holds).tracked

/-- The relation at work on an activity that is alone on the node. -/
theorem episode_ended (known : Prop) (setup : Setup) (state : SidecarState) (episode : Episode)
    (accounted : known → Accounted state.supervisor)
    (idle : known → episode.activity = .request .start →
      state.supervisor.status = .running ∨ state.supervisor.pids = []) :
    Ended known True state episode.activity (episode.exec setup state).2
      (episode.exec setup state).1 := by
  have ends : Ends known True (perform setup episode.activity) state _ :=
    perform_ends setup episode.activity accounted idle
  exact runs_exec.mp (Guarded.runs ends .refl)

end PgVisor.Sidecar
