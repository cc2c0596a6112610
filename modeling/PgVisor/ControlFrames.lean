import PgVisor.ControlOutcomes

/-!
# What requests and ticks leave alone

As for the supervisor, each part of a request or a tick is described once by what it may touch:
the server process, and role and connection (`Attends`). None of them touches the monitor's
count of missed heartbeats; the places where the monitor itself writes it are left to its own
modules.
-/

namespace PgVisor.Sidecar

open AwaitTasks Async
open Election (NodeRole ProcessStatus StatusResponse)

/-- What a part of a request does, depending on what it may touch. -/
structure Attends (moves turns : Prop) (before later : SidecarState) : Prop where
  undisturbed : ¬ moves → Undisturbed before.supervisor later.supervisor
  count : later.missedHeartbeats = before.missedHeartbeats
  stands : ¬ turns → later.role = before.role ∧
    later.config.primaryConninfo = before.config.primaryConninfo

section Parts

variable {α β : Type} {moves turns : Prop} {results : α → Prop}

/-- A task whose actions are all of this kind. -/
def Attending (moves turns : Prop) (task : Control α) : Prop :=
  task.Within (Attends moves turns) fun _ => True

/-- What a task does is what its parts do. -/
theorem Attending.bind {task : Control α} {rest : α → Control β} {results : β → Prop}
    (first : Attending moves turns task)
    (second : ∀ result, (rest result).Within (Attends moves turns) results) :
    (task >>= rest).Within (Attends moves turns) results :=
  Within.bind first fun result _ => second result

/-- A method of the supervisor that leaves the process alone. -/
theorem calm_attends {task : Supervision α} (calm : Calm task) :
    Attending moves turns (onSupervisor task) :=
  Within.zoom id calm fun _ _ undisturbed => ⟨fun _ => undisturbed, rfl, fun _ => ⟨rfl, rfl⟩⟩

/-- Any method of the supervisor. -/
theorem on_supervisor_attends (touches : moves) (task : Supervision α) :
    Attending moves turns (onSupervisor task) :=
  Within.zoom id (within_any task) fun _ _ _ =>
    ⟨fun still => absurd touches still, rfl, fun _ => ⟨rfl, rfl⟩⟩

/-- A section that only looks, or writes what nothing here speaks of. -/
theorem attends_look {action : SidecarState → Outcome → SidecarState × α}
    (same : ∀ state outcome, (action state outcome).1.supervisor = state.supervisor ∧
      (action state outcome).1.missedHeartbeats = state.missedHeartbeats ∧
      (action state outcome).1.role = state.role ∧ (action state outcome).1.config = state.config) :
    Attending moves turns (.access action) := by
  intro state outcome
  obtain ⟨supervisor, count, role, config⟩ := same state outcome
  refine ⟨⟨fun _ => ?_, count, fun _ => ⟨role, congrArg _ config⟩⟩, trivial⟩
  dsimp only
  rw [supervisor]
  exact .refl _

/-- Recording an event touches neither process nor role. -/
theorem record_event_attends (kind detail : String) :
    Attending moves turns (recordEvent kind detail) :=
  (attends_look fun _ _ => ⟨rfl, rfl, rfl, rfl⟩).bind fun _ =>
    attends_look fun _ _ => ⟨rfl, rfl, rfl, rfl⟩

/-- Neither does a probe. -/
theorem probe_attends : Attending moves turns probe :=
  attends_look fun _ _ => ⟨rfl, rfl, rfl, rfl⟩

/-- Neither does reading the configuration. -/
theorem read_config_attends : Attending moves turns readConfig :=
  attends_look fun _ _ => ⟨rfl, rfl, rfl, rfl⟩

/-- Neither does reading the role. -/
theorem read_role_attends : Attending moves turns readRole :=
  attends_look fun _ _ => ⟨rfl, rfl, rfl, rfl⟩

variable (setup : Setup)

/-- Neither does looking for a leader among the peers. -/
theorem find_leader_attends (wanted : StatusResponse → Bool) (peers : List String) :
    Attending moves turns (findLeader setup wanted peers) := by
  induction peers with
  | nil => exact trivial
  | cons peer rest ih =>
    unfold findLeader
    split
    · exact ih
    refine probe_attends.bind fun reply => ?_
    cases reply with
    | none => exact ih
    | some st =>
      dsimp only
      split
      · exact trivial
      · exact ih

/-- Neither does canvassing them. -/
theorem canvass_attends (peers : List String) (leaderFound : Bool) (aliveNodes : List Nat) :
    Attending moves turns (canvass peers leaderFound aliveNodes) := by
  induction peers generalizing leaderFound aliveNodes with
  | nil => exact trivial
  | cons peer rest ih =>
    refine probe_attends.bind fun reply => ?_
    cases reply with
    | none => exact ih leaderFound aliveNodes
    | some st =>
      dsimp only
      split
      · exact ih _ _
      · exact ih leaderFound aliveNodes

/-- A target is refused with a harmless error. -/
theorem refuse_target_attends (target : Option String) :
    (refuseTarget setup target).Within (Attends moves turns)
      fun refusal => ∀ err, refusal = some err → err.harmless = true := by
  refine (attends_look fun _ _ => ⟨rfl, rfl, rfl, rfl⟩).bind fun now => ?_
  cases target with
  | none => exact fun _ impossible => nomatch impossible
  | some text =>
    dsimp only
    split
    · exact fun _ impossible => nomatch impossible
    split
    · exact fun _ impossible => nomatch impossible
    split
    · rintro _ ⟨⟩
      rfl
    · exact fun _ impossible => nomatch impossible

/-! ### Role and connection -/

section Turning

variable (turning : turns)
include turning

/-- Role or connection are written. -/
theorem attends_turn {action : SidecarState → Outcome → SidecarState × α}
    (same : ∀ state outcome, (action state outcome).1.supervisor = state.supervisor ∧
      (action state outcome).1.missedHeartbeats = state.missedHeartbeats) :
    Attending moves turns (.access action) := by
  intro state outcome
  obtain ⟨supervisor, count⟩ := same state outcome
  refine ⟨⟨fun _ => ?_, count, fun still => absurd turning still⟩, trivial⟩
  dsimp only
  rw [supervisor]
  exact .refl _

/-- Setting the role leaves the process alone. -/
theorem set_role_attends (role : NodeRole) : Attending moves turns (setRole role) :=
  attends_turn turning fun _ _ => ⟨rfl, rfl⟩

/-- So does becoming a standby. -/
theorem become_standby_attends (conninfo : String) :
    Attending moves turns (becomeStandby conninfo) :=
  attends_turn turning fun _ _ => ⟨rfl, rfl⟩

/-- So does becoming the leader. -/
theorem become_leader_attends : Attending moves turns becomeLeader :=
  attends_turn turning fun _ _ => ⟨rfl, rfl⟩

/-- So does a promotion: the running server is promoted. -/
theorem promote_node_attends (detail : String) :
    Attending moves turns (promoteNode detail) := by
  refine (calm_attends promote_calm).bind fun promoted => ?_
  cases promoted with
  | error err => exact trivial
  | ok _ =>
    refine (become_leader_attends turning).bind fun _ => ?_
    exact (record_event_attends _ _).bind fun _ => trivial

/-- So does the request for one. -/
theorem handle_promote_attends : Attending moves turns (handlePromote setup) := by
  refine (promote_node_attends turning _).bind fun promoted => ?_
  cases promoted <;> exact trivial

/-- So does a repoint. -/
theorem handle_repoint_attends (conninfo : String) :
    Attending moves turns (handleRepoint setup conninfo) := by
  refine read_role_attends.bind fun role => ?_
  refine (calm_attends read_status_calm).bind fun status => ?_
  split
  · exact trivial
  refine (calm_attends (repoint_primary_calm _)).bind fun repointed => ?_
  cases repointed with
  | error err => exact trivial
  | ok _ =>
    refine (become_standby_attends turning _).bind fun _ => ?_
    exact (record_event_attends _ _).bind fun _ => trivial

end Turning

/-! ### Whole requests -/

/-- Fencing a leader leaves the count alone. -/
theorem guard_leadership_attends : Attending True True (guardLeadership setup) := by
  refine (find_leader_attends setup _ _).bind fun found => ?_
  cases found with
  | none => exact trivial
  | some _ =>
    refine (on_supervisor_attends trivial fence).bind fun _ => ?_
    refine (set_role_attends trivial .fenced).bind fun _ => ?_
    exact (record_event_attends _ _).bind fun _ => trivial

/-- So does a safe start. -/
theorem start_postgres_safely_attends : Attending True True (startPostgresSafely setup) := by
  refine (find_leader_attends setup _ _).bind fun found => ?_
  cases found with
  | none =>
    refine read_config_attends.bind fun config => ?_
    refine (on_supervisor_attends trivial _).bind fun started => ?_
    cases started with
    | error err => exact trivial
    | ok _ =>
      refine (on_supervisor_attends trivial _).bind fun ready => ?_
      cases ready <;> exact trivial
  | some leader =>
    refine (on_supervisor_attends trivial _).bind fun _ => ?_
    refine (become_standby_attends trivial _).bind fun _ => ?_
    refine read_config_attends.bind fun config => ?_
    refine (on_supervisor_attends trivial _).bind fun started => ?_
    cases started with
    | ok _ => exact trivial
    | error _ =>
      refine (on_supervisor_attends trivial _).bind fun synced => ?_
      cases synced <;> exact trivial

/-- The end of `start` and `restart`. -/
theorem started_attends (message : String) :
    Attending True True (do
      match ← startPostgresSafely setup with
      | .error err => return .error err
      | .ok () =>
        recordEvent "node_up" message
        return .ok { message := message, nodeId := some setup.nodeId } :
      Control ControlResult) := by
  refine (start_postgres_safely_attends setup).bind fun started => ?_
  cases started with
  | error err => exact trivial
  | ok _ => exact (record_event_attends _ _).bind fun _ => trivial

/-- So does a restore. -/
theorem handle_restore_attends (snapshotId : String) (target : Option String) :
    Attending True True (handleRestore setup snapshotId target) := by
  refine Within.bind (refuse_target_attends setup target) fun refused _ => ?_
  cases refused with
  | some err => exact trivial
  | none =>
    dsimp only
    split
    · refine (attends_look fun _ _ => ⟨rfl, rfl, rfl, rfl⟩).bind fun fetched => ?_
      cases fetched with
      | error reason => exact trivial
      | ok archive =>
        refine (on_supervisor_attends trivial _).bind fun _ => ?_
        refine (become_leader_attends trivial).bind fun _ => ?_
        refine read_config_attends.bind fun config => ?_
        refine (on_supervisor_attends trivial _).bind fun restored => ?_
        cases restored <;> exact trivial
    · exact trivial

/-- So does a resync. -/
theorem handle_resync_attends (given : Option String) :
    Attending True True (handleResync setup given) := by
  refine (on_supervisor_attends trivial _).bind fun _ => ?_
  refine read_config_attends.bind fun config => ?_
  cases given <|> config.primaryConninfo with
  | none => exact trivial
  | some conninfo =>
    refine Attending.bind (attends_turn trivial fun _ _ => ⟨rfl, rfl⟩) fun _ => ?_
    refine read_config_attends.bind fun config => ?_
    refine (on_supervisor_attends trivial _).bind fun synced => ?_
    cases synced with
    | error err => exact trivial
    | ok _ => exact (set_role_attends trivial .standby).bind fun _ => trivial

/-- The end of `fence` and `demote`. -/
theorem fenced_attends (message : String) (reply : ControlReply) :
    Attending True True (do
      setRole .fenced
      recordEvent "election_result" message
      return .ok reply : Control ControlResult) := by
  refine (set_role_attends trivial .fenced).bind fun _ => ?_
  exact (record_event_attends _ _).bind fun _ => trivial

/-- No request touches the count. -/
theorem handle_attends (request : ControlRequest) :
    Attending True True (handle setup request) := by
  cases request with
  | promote => exact handle_promote_attends setup trivial
  | fence =>
    refine (on_supervisor_attends trivial fence).bind fun fenced => ?_
    cases fenced with
    | error err => exact trivial
    | ok _ => exact fenced_attends _ _
  | demote =>
    refine (on_supervisor_attends trivial stop).bind fun stopped => ?_
    cases stopped with
    | error err => exact trivial
    | ok _ => exact (on_supervisor_attends trivial _).bind fun _ => fenced_attends _ _
  | repoint conninfo => exact handle_repoint_attends setup trivial conninfo
  | restore snapshotId target => exact handle_restore_attends setup snapshotId target
  | prepareRestore =>
    refine (on_supervisor_attends trivial _).bind fun _ => ?_
    exact (record_event_attends _ _).bind fun _ => trivial
  | cancelRestore =>
    refine (on_supervisor_attends trivial isRunning).bind fun _ => ?_
    exact (on_supervisor_attends trivial _).bind fun _ => trivial
  | resync given => exact handle_resync_attends setup given
  | start =>
    refine (on_supervisor_attends trivial readStatus).bind fun status => ?_
    split
    · exact trivial
    · exact started_attends setup _
  | stop =>
    refine (on_supervisor_attends trivial readStatus).bind fun status => ?_
    split
    · exact trivial
    refine (on_supervisor_attends trivial stop).bind fun stopped => ?_
    cases stopped with
    | error err => exact trivial
    | ok _ => exact (record_event_attends _ _).bind fun _ => trivial
  | restart =>
    refine (on_supervisor_attends trivial stop).bind fun stopped => ?_
    cases stopped with
    | error err => exact trivial
    | ok _ => exact started_attends setup _

end Parts

end PgVisor.Sidecar
