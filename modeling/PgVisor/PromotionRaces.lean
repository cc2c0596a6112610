import PgVisor.SidecarControl
import PgVisor.TaskDuets

/-!
# A promotion against a re-pointing

A promotion, by request or by the node's own monitor, and a request to re-point the node may
be handled side by side. Each reads role and status early, runs commands of the server, and
writes role and connection late. The two are compared with the serial orders when all
commands succeed and the server stays alive.

A running node that is no leader is left in a state that no serial order gives exactly if
the promotion writes the role after the re-pointing has read it and before the re-pointing
writes it: the server has been promoted, and the node ends as a standby of its old leader.
-/

namespace PgVisor.Sidecar

open AwaitTasks Async Transitions List
open Election (NodeRole ProcessStatus)

/-- Everything succeeds and no server exits. -/
structure Succeeds (outcome : Outcome) : Prop where
  exited : outcome.exited = []
  io : outcome.io = .ok ()
  command : outcome.command = .succeeded

/-- Role, stored connection and live servers with their modes, and the status. -/
structure Standing where
  role : NodeRole
  conninfo : Option String
  status : ProcessStatus
  live : List ServerProcess
deriving DecidableEq

/-- What the race is about. -/
def standing (state : SidecarState) : Standing :=
  ⟨state.role, state.config.primaryConninfo, state.supervisor.status, state.supervisor.live⟩

/-- The promotions: by request, and by the monitor of a node that has won an election. -/
inductive Promotion where
  | request
  | election

/-- The two ways of promoting a node. -/
def Promotion.perform (setup : Setup) : Promotion → Control Response
  | .request => do return .answered (← handlePromote setup)
  | .election => do return .ticked (← winElection setup)

variable {promotion : Promotion} {conninfo : String} {state later : SidecarState}

/-! ### What the tasks do to the view -/

/-- The server becomes a primary. -/
def promoteServer (current : Standing) : Standing :=
  { current with live := current.live.map fun process => { process with standby := false } }

/-- The node becomes the leader. -/
def lead (current : Standing) : Standing := { current with role := .leader, conninfo := none }

/-- The node becomes a standby of the target. -/
def follow (target : String) (current : Standing) : Standing :=
  { current with role := .standby, conninfo := some target }

/-- What a view of a node shows of its supervisor. -/
def serverView (supervisor : PostgresSupervisor) : ProcessStatus × List ServerProcess :=
  (supervisor.status, supervisor.live)

def onServer (change : ProcessStatus × List ServerProcess → ProcessStatus × List ServerProcess)
    (current : Standing) : Standing :=
  { current with
    status := (change (current.status, current.live)).1
    live := (change (current.status, current.live)).2 }

section Views

variable {α : Type} {results : α → Prop}

theorem reap_none (supervisor : PostgresSupervisor) : supervisor.reap [] = supervisor := by
  simp [PostgresSupervisor.reap]

/-- One action, told by its effect on the server. -/
theorem follows_supervise {steady action change}
    (changes : ∀ supervisor outcome, steady (serverView supervisor) → Succeeds outcome →
      serverView (action supervisor outcome).1 = change (serverView supervisor) ∧
        results (action supervisor outcome).2) :
    (supervise action).Follows serverView Succeeds steady results [change] := by
  refine follows_access fun supervisor outcome holds succeeds => ?_
  rw [succeeds.exited, reap_none]
  exact changes supervisor outcome holds succeeds

/-- A method of the supervisor changes what it changes of the server. -/
theorem follows_on_supervisor {status task changes}
    (follows : task.Follows serverView Succeeds (fun view => view.1 = status) results changes) :
    (onSupervisor task).Follows standing Succeeds (fun view => view.status = status) results
      (changes.map onServer) := by
  apply Follows.zoom id onServer follows (fun _ succeeds => succeeds) (fun _ same => same)
  intro whole replaced change changed
  have status : replaced.status = (change (serverView whole.supervisor)).1 :=
    congrArg Prod.fst changed
  have live : replaced.live = (change (serverView whole.supervisor)).2 := congrArg Prod.snd changed
  simp only [standing, supervisorPart, onServer, status, live]
  rfl

end Views

variable {status : ProcessStatus} {steady : ProcessStatus × List ServerProcess → Prop}

theorem remove_file_follows (name : String) :
    (removeFile name).Follows serverView Succeeds steady (fun found => found = ()) [id] :=
  follows_supervise fun _ _ _ _ => ⟨rfl, rfl⟩

/-- The servers of a supervisor as primaries. -/
def asPrimaries (view : ProcessStatus × List ServerProcess) : ProcessStatus × List ServerProcess :=
  (view.1, view.2.map fun process => { process with standby := false })

/-- The command makes primaries of the servers. -/
theorem run_promote_follows :
    runPromote.Follows serverView Succeeds steady (fun found => found = .succeeded)
      [asPrimaries] := by
  refine follows_supervise fun supervisor outcome _ succeeds => ?_
  rw [succeeds.command]
  exact ⟨rfl, rfl⟩

/-- So does the promotion, in its first action. -/
theorem promote_follows : promote.Follows serverView Succeeds steady (fun found => found = .ok ())
      [asPrimaries, id, id] := by
  apply run_promote_follows.andThen
  apply (remove_file_follows _).andThen
  exact (remove_file_follows _).andThen ⟨rfl, rfl⟩

theorem read_status_follows (status : ProcessStatus) :
    readStatus.Follows serverView Succeeds (fun view => view.1 = status)
      (fun found => found = status) [id] :=
  follows_supervise fun _ _ same _ => ⟨rfl, same⟩

theorem signal_standby_follows :
    signalStandby.Follows serverView Succeeds steady (fun found => found = ()) [id] := by
  refine follows_supervise fun supervisor outcome _ succeeds => ?_
  rw [succeeds.io]
  refine ⟨?_, rfl⟩
  dsimp only
  split <;> rfl

theorem write_file_follows (name content : String) :
    (writeFile name content).Follows serverView Succeeds steady (fun found => found = .ok ())
      [id] := by
  refine follows_supervise fun supervisor outcome _ succeeds => ?_
  rw [succeeds.io]
  exact ⟨rfl, rfl⟩

theorem run_command_follows :
    runCommand.Follows serverView Succeeds steady (fun found => found = .succeeded) [id] :=
  follows_supervise fun _ _ _ succeeds => ⟨rfl, succeeds.command⟩

/-- The actions of `repoint_primary`: one more on a running server, which is reloaded. -/
def repointActions (status : ProcessStatus) : Nat := if status = .running then 4 else 3

/-- A repoint of the server leaves it as it is. -/
theorem repoint_primary_follows (status : ProcessStatus) (conninfo : String) :
    (repointPrimary conninfo).Follows serverView Succeeds (fun view => view.1 = status)
      (fun found => found = .ok ()) (List.replicate (repointActions status) id) := by
  have reloaded : (readStatus >>= fun status => if status = .running then do
        let _ ← runCommand
        return .ok ()
      else return .ok ()).Follows serverView Succeeds (fun view => view.1 = status)
      (fun found : Except SupervisorError Unit => found = .ok ())
      (id :: List.replicate (repointActions status - 3) id) := by
    apply (read_status_follows status).andThen
    unfold repointActions
    by_cases running : status = .running
    · rw [if_pos running, if_pos running]
      exact run_command_follows.andThen ⟨rfl, rfl⟩
    · rw [if_neg running, if_neg running]
      exact ⟨rfl, rfl⟩
  have actions : List.replicate (repointActions status)
      (id : ProcessStatus × List ServerProcess → ProcessStatus × List ServerProcess) =
        [id] ++ ([id] ++ (id :: List.replicate (repointActions status - 3) id)) := by
    unfold repointActions
    split <;> rfl
  rw [actions]
  exact signal_standby_follows.andThen ((write_file_follows _ _).andThen reloaded)

/-! ### The two tasks -/

/-- The changes of a promotion. The last ones record the event. -/
def promotionChanges (more : Nat) : List (Standing → Standing) :=
  [promoteServer, id, id, lead] ++ List.replicate more id

/-- Recording an event changes nothing. -/
theorem record_event_follows (kind detail : String) {steady} :
    (recordEvent kind detail).Follows standing Succeeds steady (fun found => found = ())
      [id, id] := by
  have drawing : (Async.access fun (state : SidecarState) (_ : Outcome) =>
      ({ state with eventId := state.eventId + 1 }, state.eventId)).Follows standing Succeeds steady
      (fun _ => True) [id] := follows_access fun _ _ _ _ => ⟨rfl, trivial⟩
  refine drawing.bind fun _ _ => follows_access fun _ _ _ _ => ⟨rfl, rfl⟩

/-- A promotion changes the server, then the role. -/
theorem promote_node_follows (detail : String) :
    (promoteNode detail).Follows standing Succeeds (fun view => view.status = status)
      (fun found => found = .ok ()) (promotionChanges 2) := by
  have leading : becomeLeader.Follows standing Succeeds (fun view => view.status = status)
      (fun found => found = ()) [lead] := follows_access fun _ _ _ _ => ⟨rfl, rfl⟩
  apply (follows_on_supervisor promote_follows).andThen
  apply leading.andThen
  exact (record_event_follows _ detail).andThen ⟨rfl, rfl⟩

/-- The actions of a promotion after it has written the role. -/
def Promotion.more : Promotion → Nat
  | .request => 2
  | .election => 3

variable (setup : Setup)

/-- Both ways of promoting make these changes. -/
theorem promotion_follows (promotion : Promotion) :
    (promotion.perform setup).Follows standing Succeeds (fun view => view.status = status)
      (fun _ => True) (promotionChanges promotion.more) := by
  cases promotion with
  | request =>
    have handled : (handlePromote setup).Follows standing Succeeds
        (fun view => view.status = status) (fun _ => True) (promotionChanges 2) :=
      (promote_node_follows _).andThen ⟨rfl, trivial⟩
    exact handled.bind fun _ _ => ⟨rfl, trivial⟩
  | election =>
    have reset : (setMissed 0).Follows standing Succeeds (fun view => view.status = status)
        (fun found => found = ()) [id] := follows_access fun _ _ _ _ => ⟨rfl, rfl⟩
    have won : (winElection setup).Follows standing Succeeds
        (fun view => view.status = status) (fun _ => True) (promotionChanges 3) :=
      (promote_node_follows _).andThen (reset.andThen ⟨rfl, trivial⟩)
    exact won.bind fun _ _ => ⟨rfl, trivial⟩

/-- What a re-pointing does after it has read the role. -/
def repointPlan (target : String) (seen : Standing) : Plan Standing :=
  if seen.role = .leader ∧ seen.status = .running then .rest 1
  else .write (repointActions seen.status + 1) (follow target) 2

/-- A repoint changes the role once. -/
theorem repoint_node_follows (conninfo : String) :
    (repointNode setup conninfo).Follows standing Succeeds (fun view => view.status = status)
      (fun _ => True) (List.replicate (repointActions status) id ++
        follow (withApplicationName setup.nodeId conninfo) :: List.replicate 2 id) := by
  have repointed := follows_on_supervisor (repoint_primary_follows status
    (withApplicationName setup.nodeId conninfo))
  rw [map_replicate] at repointed
  have following : (becomeStandby (withApplicationName setup.nodeId conninfo)).Follows standing
      Succeeds (fun view => view.status = status) (fun found => found = ())
      [follow (withApplicationName setup.nodeId conninfo)] :=
    follows_access fun _ _ _ _ => ⟨rfl, rfl⟩
  refine repointed.andThen (following.andThen ?_)
  exact (record_event_follows _ _).andThen ⟨rfl, trivial⟩

/-- After its first action the re-pointing follows the plan for the role it has read. -/
theorem repoint_rest_follows (conninfo : String) (same : state.supervisor.status = status) :
    (do
      let current ← onSupervisor readStatus
      if state.role = .leader ∧ current = .running then
        return .ok
          { message := "Node is leader, ignoring repoint"
            nodeId := some setup.nodeId
            role := some .leader }
      else repointNode setup conninfo : Control ControlResult).Follows standing Succeeds
      (fun view => view.status = status) (fun _ => True)
      (repointPlan (withApplicationName setup.nodeId conninfo) (standing state)).changes := by
  have reading := follows_on_supervisor (read_status_follows status)
  have seen : (standing state).status = status := same
  unfold repointPlan
  rw [seen]
  by_cases ignored : state.role = .leader ∧ status = .running
  · have ignores : (standing state).role = .leader ∧ status = .running := ignored
    rw [if_pos ignores]
    apply reading.andThen
    rw [if_pos ignored]
    exact ⟨rfl, trivial⟩
  · have goes : ¬ ((standing state).role = .leader ∧ status = .running) := ignored
    rw [if_neg goes]
    apply reading.andThen
    rw [if_neg ignored]
    exact repoint_node_follows setup conninfo

/-! ### The final state -/

/-- The promotion by itself. -/
def led (start : Standing) : Standing := lead (promoteServer start)

theorem replay_replicate_id (count : Nat) (start : Standing) :
    replay (List.replicate count id) start = start := by
  induction count with
  | zero => rfl
  | succ count ih => exact ih

theorem replay_append (first second : List (Standing → Standing)) (start : Standing) :
    replay (first ++ second) start = replay second (replay first start) :=
  foldl_append

variable (more : Nat) (start : Standing)

/-- A promotion replayed leads. -/
theorem replay_promotion : replay (promotionChanges more) start = led start := by
  rw [promotionChanges, replay_append]
  exact replay_replicate_id more _

/-- The role has changed after four actions. -/
theorem promotion_changes_take (taken : Nat) : (promotionChanges more).take (taken + 4) =
      [promoteServer, id, id, lead] ++ List.replicate (min taken more) id := by
  rw [← take_replicate]
  rfl

/-- The first changes of a promotion: the role is written with the fourth. -/
theorem replay_promotion_take (taken : Nat) (start : Standing) :
    (replay ((promotionChanges more).take taken) start).role =
        (if 4 ≤ taken then .leader else start.role) ∧
      (replay ((promotionChanges more).take taken) start).status = start.status := by
  match taken with
  | 0 | 1 | 2 | 3 => exact ⟨rfl, rfl⟩
  | taken + 4 =>
    rw [promotion_changes_take, replay_append, replay_replicate_id,
      if_pos (Nat.le_add_left 4 taken)]
    exact ⟨rfl, rfl⟩

variable (target : String)

/-- A re-pointing inserted before the promotion writes the role is undone by it. -/
theorem promotion_inserted (before : Nat) (target : String) (start : Standing) :
    replay ((promotionChanges more).drop before)
        (follow target (replay ((promotionChanges more).take before) start)) =
      if 4 ≤ before then follow target (led start) else led start := by
  match before with
  | 0 => exact replay_promotion more (follow target start)
  | 1 | 2 | 3 => exact replay_replicate_id more _
  | before + 4 =>
    have dropping : (promotionChanges more).drop (before + 4) =
        List.replicate (more - before) id := by
      rw [← drop_replicate]
      rfl
    rw [promotion_changes_take, dropping, replay_append, replay_replicate_id,
      replay_replicate_id, if_pos (Nat.le_add_left 4 before)]
    rfl

/-- A promotion keeps the status. -/
theorem promotion_keeps :
    Keeps (fun view : Standing => view.status = status) (promotionChanges more) := by
  intro change member current same
  simp only [promotionChanges, mem_append, mem_cons, not_mem_nil, or_false, mem_replicate] at member
  rcases member with (rfl | rfl | rfl | rfl) | ⟨-, rfl⟩ <;> exact same

/-- So does a repoint. -/
theorem plan_keeps (seen : Standing) :
    Keeps (fun view : Standing => view.status = status) (repointPlan target seen).changes := by
  intro change member current same
  unfold repointPlan at member
  split at member
  · simp only [Plan.changes, mem_replicate] at member
    rw [member.2]
    exact same
  · simp only [Plan.changes, mem_append, mem_cons, mem_replicate] at member
    rcases member with ⟨-, rfl⟩ | rfl | ⟨-, rfl⟩ <;> exact same

/-- The duet of a promotion and a re-pointing on one node. -/
def race (setup : Setup) (promotion : Promotion) (conninfo : String) (state : SidecarState) :
    Duet SidecarState Outcome Response ControlResult :=
  { state := state
    left := promotion.perform setup
    right := handleRepoint setup conninfo }

/-- How a race ends. -/
theorem race_views {turns : List (Side × Outcome)}
    {final : Duet SidecarState Outcome Response ControlResult}
    (succeeding : ∀ turn ∈ turns, Succeeds turn.2)
    (reached : run Duet.step (race setup promotion conninfo state) turns = some final)
    (finished : final.Over) : standing final.state =
      (repointPlan (withApplicationName setup.nodeId conninfo)
        (replay ((promotionChanges promotion.more).take (leftsBefore 0 turns))
          (standing state))).inserted (promotionChanges promotion.more)
        (fun n => leftsBefore (n + 1) turns) (standing state) := by
  refine duet_views turns (repointPlan (withApplicationName setup.nodeId conninfo))
    (promotionChanges promotion.more) (race setup promotion conninfo state) final _ _
    ⟨promotion_follows setup promotion, promotion_keeps _⟩ rfl ?_ rfl succeeding reached finished
  intro current answer same _
  exact ⟨rfl, repoint_rest_follows setup conninfo same, plan_keeps _ _⟩

/-! ### Serial orders -/

/-- The states the two serial orders end in, for some answers under which all succeeds. -/
inductive Serial (setup : Setup) (promotion : Promotion) (conninfo : String)
    (state : SidecarState) : SidecarState → Prop
  | promotedFirst (early late : Nat → Outcome) (first : ∀ n, Succeeds (early n))
      (second : ∀ n, Succeeds (late n)) :
      Serial setup promotion conninfo state ((handleRepoint setup conninfo).exec
        ((promotion.perform setup).exec state early).1 late).1
  | repointedFirst (early late : Nat → Outcome) (first : ∀ n, Succeeds (early n))
      (second : ∀ n, Succeeds (late n)) :
      Serial setup promotion conninfo state ((promotion.perform setup).exec
        ((handleRepoint setup conninfo).exec state early).1 late).1

/-- A promotion that runs alone. -/
theorem promotion_exec (promotion : Promotion) (state : SidecarState)
    (answers : Nat → Outcome) (succeeding : ∀ n, Succeeds (answers n)) :
    standing ((promotion.perform setup).exec state answers).1 = led (standing state) := by
  rw [← replay_promotion promotion.more]
  exact Steers.exec ⟨promotion_follows setup promotion, promotion_keeps _⟩ rfl answers succeeding

/-- A re-pointing by itself. -/
def repointed (target : String) (start : Standing) : Standing :=
  if start.role = .leader ∧ start.status = .running then start else follow target start

/-- A repoint replayed follows. -/
theorem replay_plan : replay (repointPlan target start).changes start = repointed target start := by
  unfold repointPlan repointed
  split
  · exact replay_replicate_id 1 start
  · rw [Plan.changes, replay_append, replay_replicate_id]
    exact replay_replicate_id 2 (follow target start)

/-- A repoint that runs alone. -/
theorem repoint_exec (conninfo : String) (state : SidecarState)
    (answers : Nat → Outcome) (succeeding : ∀ n, Succeeds (answers n)) :
    standing ((handleRepoint setup conninfo).exec state answers).1 =
      repointed (withApplicationName setup.nodeId conninfo) (standing state) := by
  rw [← replay_plan]
  exact Steers.exec ⟨repoint_rest_follows setup conninfo rfl, plan_keeps _ _⟩ rfl
    (fun n => answers (n + 1)) fun n => succeeding (n + 1)

/-- A promotion undoes a re-pointing before it. -/
theorem led_repointed : led (repointed target start) = led start := by
  unfold repointed
  split <;> rfl

/-- The two serial orders end in two ways. -/
theorem serial_standing {setup} (serial : Serial setup promotion conninfo state later) :
    standing later = led (standing state) ∨ standing later =
        repointed (withApplicationName setup.nodeId conninfo) (led (standing state)) := by
  cases serial with
  | promotedFirst early late first second =>
    right
    rw [repoint_exec setup conninfo _ late second, promotion_exec setup promotion state early first]
  | repointedFirst early late first second =>
    left
    rw [promotion_exec setup promotion _ late second, repoint_exec setup conninfo state early first,
      led_repointed]

/-! ### The race -/

/-- Role, stored connection, and for each live server whether it is a standby. -/
def triple (state : SidecarState) : NodeRole × Option String × List Bool :=
  (state.role, state.config.primaryConninfo, state.supervisor.live.map ServerProcess.standby)

/-- On a running node that is no leader, the promotion writes the role with its fourth turn,
after the re-pointing has read it with its first one and before it writes it with its
seventh. -/
structure Races (state : SidecarState) (turns : List (Side × Outcome)) : Prop where
  running : state.supervisor.status = .running
  follower : state.role ≠ .leader
  unseen : leftsBefore 0 turns < 4
  overtaken : 4 ≤ leftsBefore 6 turns

/-- On a node that is not running, the promotion writes the role before the re-pointing
writes it, with its sixth turn there. -/
def WrittenFirst (state : SidecarState) (turns : List (Side × Outcome)) : Prop :=
  state.supervisor.status ≠ .running ∧ 4 ≤ leftsBefore 5 turns

/-- The role that the re-pointing reads. -/
theorem ignores_iff (state : SidecarState) (more : Nat) (turns : List (Side × Outcome)) :
    ((replay ((promotionChanges more).take (leftsBefore 0 turns)) (standing state)).role = .leader ∧
        (replay ((promotionChanges more).take (leftsBefore 0 turns)) (standing state)).status =
          .running) ↔
      state.supervisor.status = .running ∧ (4 ≤ leftsBefore 0 turns ∨ state.role = .leader) := by
  obtain ⟨role, status⟩ := replay_promotion_take more (leftsBefore 0 turns) (standing state)
  rw [role, status]
  by_cases seen : 4 ≤ leftsBefore 0 turns
  · simp [seen, standing]
  · simp [seen, standing, and_comm]

/-- The re-pointing has the last word, or the promotion has. -/
theorem race_standing {turns : List (Side × Outcome)}
    {final : Duet SidecarState Outcome Response ControlResult}
    (succeeding : ∀ turn ∈ turns, Succeeds turn.2)
    (reached : run Duet.step (race setup promotion conninfo state) turns = some final)
    (finished : final.Over) :
    ((Races state turns ∨ WrittenFirst state turns) ∧ standing final.state =
        follow (withApplicationName setup.nodeId conninfo) (led (standing state))) ∨
      (¬ Races state turns ∧ ¬ WrittenFirst state turns ∧
        standing final.state = led (standing state)) := by
  have ends := race_views setup succeeding reached finished
  have status := (replay_promotion_take promotion.more (leftsBefore 0 turns) (standing state)).2
  have reads := ignores_iff state promotion.more turns
  unfold repointPlan at ends
  by_cases running : state.supervisor.status = .running
  · have elsewhere : ¬ WrittenFirst state turns := fun written => written.1 running
    by_cases leads : 4 ≤ leftsBefore 0 turns ∨ state.role = .leader
    · -- the re-pointing sees a running leader and does nothing
      rw [if_pos (reads.mpr ⟨running, leads⟩)] at ends
      refine .inr ⟨fun races => ?_, elsewhere, ends.trans (replay_promotion _ _)⟩
      rcases leads with seen | leader
      · exact absurd races.unseen (Nat.not_lt.mpr seen)
      · exact races.follower leader
    · have proceeds := fun both => leads (reads.mp both).2
      rw [if_neg proceeds, status] at ends
      have actions : repointActions (standing state).status = 4 := if_pos running
      rw [actions] at ends
      have ends := ends.trans (promotion_inserted promotion.more (leftsBefore 6 turns) _ _)
      obtain ⟨unseen, follower⟩ := not_or.mp leads
      by_cases overtaken : 4 ≤ leftsBefore 6 turns
      · rw [if_pos overtaken] at ends
        exact .inl ⟨.inl ⟨running, follower, Nat.lt_of_not_le unseen, overtaken⟩, ends⟩
      · rw [if_neg overtaken] at ends
        exact .inr ⟨fun races => overtaken races.overtaken, elsewhere, ends⟩
  · have proceeds := fun both => running (reads.mp both).1
    rw [if_neg proceeds, status] at ends
    have actions : repointActions (standing state).status = 3 := if_neg running
    rw [actions] at ends
    have ends := ends.trans (promotion_inserted promotion.more (leftsBefore 5 turns) _ _)
    have calm : ¬ Races state turns := fun races => running races.running
    by_cases written : 4 ≤ leftsBefore 5 turns
    · rw [if_pos written] at ends
      exact .inl ⟨.inr ⟨running, written⟩, ends⟩
    · rw [if_neg written] at ends
      exact .inr ⟨calm, fun first => written first.2, ends⟩

/-- The view determines the triple. -/
theorem triple_of_standing {first second} (same : standing first = standing second) :
    triple first = triple second := by
  have role := congrArg Standing.role same
  have conninfo := congrArg Standing.conninfo same
  have live := congrArg Standing.live same
  simp only [standing] at role conninfo live
  simp only [triple, role, conninfo, live]

/-- A promotion after the repoint leads. -/
theorem serial_promoted_last (promotion : Promotion) (conninfo : String) (state : SidecarState) :
    ∃ later, Serial setup promotion conninfo state later ∧
      standing later = led (standing state) := by
  have fine (n : Nat) : Succeeds ((fun _ => {}) n) := ⟨rfl, rfl, rfl⟩
  refine ⟨_, .repointedFirst (fun _ => {}) (fun _ => {}) fine fine, ?_⟩
  rw [promotion_exec setup promotion _ _ fine, repoint_exec setup conninfo state _ fine,
    led_repointed]

/-- A repoint after the promotion follows. -/
theorem serial_promoted_first (promotion : Promotion) (conninfo : String) (state : SidecarState) :
    ∃ later, Serial setup promotion conninfo state later ∧ standing later =
      repointed (withApplicationName setup.nodeId conninfo) (led (standing state)) := by
  have fine (n : Nat) : Succeeds ((fun _ => {}) n) := ⟨rfl, rfl, rfl⟩
  refine ⟨_, .promotedFirst (fun _ => {}) (fun _ => {}) fine fine, ?_⟩
  rw [repoint_exec setup conninfo _ _ fine, promotion_exec setup promotion state _ fine]

/-- On a running node both serial orders leave a leader. -/
theorem serial_leads {setup} (serial : Serial setup promotion conninfo state later)
    (running : state.supervisor.status = .running) : later.role = .leader := by
  have leads : repointed (withApplicationName setup.nodeId conninfo) (led (standing state)) =
      led (standing state) := if_pos ⟨rfl, running⟩
  rcases serial_standing serial with same | same
  · exact congrArg Standing.role same
  · rw [leads] at same
    exact congrArg Standing.role same

/-- An interleaving of a promotion and a re-pointing ends like a serial order exactly if the
two do not race, and it leaves a promoted server under the role standby exactly if they do
or if the node was not running and the re-pointing wrote the role last. -/
theorem race_serial_iff (promotion : Promotion) (conninfo : String)
    (state : SidecarState) (turns : List (Side × Outcome))
    (final : Duet SidecarState Outcome Response ControlResult)
    (succeeding : ∀ turn ∈ turns, Succeeds turn.2)
    (reached : run Duet.step (race setup promotion conninfo state) turns = some final)
    (finished : final.Over) :
    ((∃ later, Serial setup promotion conninfo state later ∧ triple final.state = triple later) ↔
        ¬ Races state turns) ∧
      (final.state.role = .standby ↔ Races state turns ∨ WrittenFirst state turns) := by
  rcases race_standing setup succeeding reached finished with
    ⟨follows, ends⟩ | ⟨calm, idle, ends⟩
  · have role : final.state.role = .standby := congrArg Standing.role ends
    refine ⟨⟨?_, fun calm => ?_⟩, iff_of_true role follows⟩
    · rintro ⟨later, serial, same⟩ races
      have leads := serial_leads serial races.running
      have roles : final.state.role = later.role := congrArg Prod.fst same
      rw [role, leads] at roles
      cases roles
    · have written := follows.resolve_left calm
      obtain ⟨later, serial, same⟩ := serial_promoted_first setup promotion conninfo state
      refine ⟨later, serial, triple_of_standing (ends.trans (same.trans ?_).symm)⟩
      exact if_neg fun both => written.1 both.2
  · have role : final.state.role = .leader := congrArg Standing.role ends
    refine ⟨iff_of_true ?_ calm, iff_of_false ?_ ?_⟩
    · obtain ⟨later, serial, same⟩ := serial_promoted_last setup promotion conninfo state
      exact ⟨later, serial, triple_of_standing (ends.trans same.symm)⟩
    · rw [role]
      exact nofun
    · exact not_or.mpr ⟨calm, idle⟩


/-- A standby whose server runs. -/
def servingStandby : SidecarState :=
  { servingLeader with
    role := .standby
    config := { primaryConninfo := some "host=a" }
    supervisor :=
      { servingLeader.supervisor with live := [{ pid := 1, standby := true }] } }

/-- Several turns of one side, with everything succeeding. -/
def sideTurns (side : Side) (count : Nat) : List (Side × Outcome) :=
  List.replicate count (side, {})

theorem side_turns_succeed {side : Side} {count : Nat} {turn : Side × Outcome}
    (member : turn ∈ sideTurns side count) : Succeeds turn.2 := by
  rw [(mem_replicate.mp member).2]
  exact ⟨rfl, rfl, rfl⟩

/-- A promotion that is over when the re-pointing starts does not race with it. -/
theorem promotion_before_repoint :
    ∃ final, run Duet.step (race loneSetup .request "host=b" servingStandby)
        (sideTurns .left 6 ++ sideTurns .right 2) = some final ∧ final.Over ∧
      ((∃ later, Serial loneSetup .request "host=b" servingStandby later ∧
          triple final.state = triple later) ↔
        ¬ Races servingStandby (sideTurns .left 6 ++ sideTurns .right 2)) := by
  obtain ⟨final, reached, finished⟩ : ∃ final, run Duet.step
      (race loneSetup .request "host=b" servingStandby)
      (sideTurns .left 6 ++ sideTurns .right 2) = some final ∧ final.Over := by
    decide +kernel
  refine ⟨final, reached, finished, ?_⟩
  refine (race_serial_iff loneSetup .request "host=b" servingStandby _ final ?_ reached finished).1
  intro turn member
  rcases mem_append.mp member with left | right
  · exact side_turns_succeed left
  · exact side_turns_succeed right

/-- The re-pointing reads the role, the promotion runs through, and the re-pointing goes on:
the promoted server is left under the role standby, which no serial order does. -/
theorem promoted_ends_as_standby :
    (run Duet.step (race loneSetup .request "host=b" servingStandby)
      (sideTurns .right 1 ++ sideTurns .left 6 ++ sideTurns .right 8)).map
        (fun final => (triple final.state, decide final.Over)) =
      some ((.standby, some "host=b application_name=pgvisor-node1", [false]), true) ∧
      ∀ later, Serial loneSetup .request "host=b" servingStandby later →
        later.role = .leader := by
  refine ⟨?_, fun later serial => serial_leads serial rfl⟩
  decide +kernel

end PgVisor.Sidecar
