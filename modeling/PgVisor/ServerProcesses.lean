import PgVisor.ControlSpecs
import PgVisor.TaskTraffic

/-!
# One server process per node

Control requests arrive at a sidecar at any time and are handled side by side. A promotion
and a re-pointing leave the server process alone. All other requests start or stop it or set
the status that a start goes by. If no two of them are under way together, and no start
arrives while a server is alive under another status than Running, then no second server is
ever spawned, the pid of the live one is stored at every moment, and between those requests its
handle is held too; while one of them is under way, it may hold the handle itself.

All conditions are needed. A start decides from the status alone, and checks it long before
it spawns; and it stores the handle in a turn of its own after the spawn.
-/

namespace PgVisor.Sidecar

open AwaitTasks Async Transitions
open Election (NodeRole ProcessStatus)

/-- The requests that start or stop the server or set its status. -/
def ControlRequest.Lifecycle : ControlRequest → Prop
  | .promote => False
  | .repoint _ => False
  | _ => True

instance : DecidablePred ControlRequest.Lifecycle := fun request =>
  match request with
  | .promote | .repoint _ => .isFalse id
  | .fence | .demote | .restore _ _ | .prepareRestore | .cancelRestore | .resync _ | .start
  | .stop | .restart => .isTrue trivial

/-- A start does not find a live server under another status than Running. -/
def StartsAlone (request : ControlRequest) (state : SidecarState) : Prop :=
  request = .start → state.supervisor.status = .running ∨ state.supervisor.pids = []

instance (request : ControlRequest) (state : SidecarState) :
    Decidable (StartsAlone request state) := inferInstanceAs (Decidable (_ → _))

/-- Whatever leaves the process alone accompanies the others. -/
theorem attending_bystands {α : Type} {task : Control α}
    (attends : Attending False True task) : task.Within (Beside False) fun _ => True :=
  Within.widen attends fun _ _ attends => ⟨attends.undisturbed id, False.elim⟩

/-- The requests that concern the process are soloists among the two that do not. -/
theorem control_concert (setup : Setup) :
    Concert (handle setup) ControlRequest.Lifecycle StartsAlone (Beside False)
      (fun state => Single True state.supervisor) fun state => Accounted state.supervisor where
  reflexive := .refl
  transitive _ _ _ := .trans
  stable _ _ single beside := Undisturbed.single single beside.undisturbed
  rests _ _ accounted beside := beside.undisturbed.accounted accounted
  keeps _ accounted := single_of_tracked fun _ => accounted.tracked
  waits request state later ready beside same := by
    rcases ready same with running | none
    · exact .inl (beside.undisturbed.status.trans running)
    · exact .inr (beside.undisturbed.none none)
  bystands request other := by
    cases request with
    | promote => exact attending_bystands (handle_promote_attends setup trivial)
    | repoint conninfo => exact attending_bystands (handle_repoint_attends setup trivial conninfo)
    | _ => exact absurd trivial other
  performs request state _ accounted ready := by
    have ends : Ends True False (handle setup request) state _ :=
      handle_ends setup request (fun _ => accounted) fun _ => ready
    exact Guarded.mono ends fun _ _ ended => ended.accounted trivial accounted

/-- Several turns of one task, with everything succeeding. -/
def turns (number count : Nat) : List (TrafficEvent ControlRequest Outcome) :=
  List.replicate count (.turn number {})

/-- A leader whose server is stopped. -/
def stoppedLeader : SidecarState :=
  { servingLeader with
    supervisor :=
      { dataDir := some [], status := .stopped, childPid := 0, activeChild := none, live := [],
        spawned := 0 } }

end PgVisor.Sidecar
