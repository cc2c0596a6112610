import PgVisor.AwaitTasks
import Mathlib.Logic.Function.Basic

/-!
# Tasks that take turns

Requests arrive at any time, each becomes a task, and the tasks under way take turns on one
state, an action at a time and in any order. A task that has ended stays behind with its
result.

Some requests are soloists: no two of them are under way together, and all others leave
alone what they rely on. Then what a soloist guarantees among bystanders holds of the whole:
its invariant at every moment, and its postcondition whenever no soloist is under way.
-/

namespace PgVisor.AwaitTasks

open Transitions Async

variable {ρ σ ω α : Type}

/-- The shared state, and the request and what is left of its task under each number. -/
structure Traffic (ρ σ ω α : Type) where
  state : σ
  tasks : Nat → Option (ρ × Async σ ω α)

inductive TrafficEvent (ρ ω : Type) where
  | arrive (number : Nat) (request : ρ)
  | turn (number : Nat) (answer : ω)

namespace Traffic

/-- Nothing has arrived yet. -/
def calm (state : σ) : Traffic ρ σ ω α := { state := state, tasks := fun _ => none }

/-- A request arrives under a new number, or a task takes its next action. -/
def step (handler : ρ → Async σ ω α) (traffic : Traffic ρ σ ω α) :
    TrafficEvent ρ ω → Option (Traffic ρ σ ω α)
  | .arrive number request =>
    match traffic.tasks number with
    | some _ => none
    | none =>
      some { traffic with
        tasks := Function.update traffic.tasks number (some (request, handler request)) }
  | .turn number answer =>
    match traffic.tasks number with
    | some (request, .act effect next) =>
      some
        { state := effect traffic.state answer
          tasks := Function.update traffic.tasks number
            (some (request, next traffic.state answer)) }
    | _ => none

end Traffic

def Async.Ended : Async σ ω α → Prop
  | .done _ => True
  | .act _ _ => False

/-- No soloist is under way. -/
def Traffic.Quiet (solo : ρ → Prop) (traffic : Traffic ρ σ ω α) : Prop :=
  ∀ number request task, traffic.tasks number = some (request, task) → solo request → task.Ended

section Solo

variable (handler : ρ → Async σ ω α) (solo : ρ → Prop) (ready : ρ → σ → Prop)
  (rely : σ → σ → Prop) (invariant idle : σ → Prop)

/-- A soloist arrives only when none is under way and the state is ready for it. -/
def Admits (traffic : Traffic ρ σ ω α) : TrafficEvent ρ ω → Prop
  | .arrive _ request => solo request → traffic.Quiet solo ∧ ready request traffic.state
  | .turn _ _ => True

/-- What the soloists and the bystanders have to do for each other. -/
structure Concert : Prop where
  reflexive : ∀ state, rely state state
  transitive : ∀ first second third, rely first second → rely second third → rely first third
  stable : ∀ state later, invariant state → rely state later → invariant later
  rests : ∀ state later, idle state → rely state later → idle later
  keeps : ∀ state, idle state → invariant state
  waits : ∀ request state later, ready request state → rely state later → ready request later
  bystands : ∀ request, ¬ solo request → (handler request).Within rely fun _ => True
  performs : ∀ request state, solo request → idle state → ready request state →
    (handler request).Guarded rely invariant state fun _ later => idle later

/-- The invariant of the whole. -/
structure Conducted (traffic : Traffic ρ σ ω α) : Prop where
  kept : invariant traffic.state
  bystanders : ∀ number request task, traffic.tasks number = some (request, task) →
    ¬ solo request → task.Within rely fun _ => True
  soloist : ∀ number request task, traffic.tasks number = some (request, task) → solo request →
    ¬ task.Ended → ∀ later, rely traffic.state later →
      task.Guarded rely invariant later fun _ last => idle last
  alone : ∀ first second request request' task task',
    traffic.tasks first = some (request, task) → traffic.tasks second = some (request', task') →
    solo request → solo request' → ¬ task.Ended → ¬ task'.Ended → first = second
  resting : traffic.Quiet solo → idle traffic.state

variable {handler solo ready rely invariant idle}

theorem calm_conducted (concert : Concert handler solo ready rely invariant idle) {state}
    (initially : idle state) : Conducted solo rely invariant idle
      (Traffic.calm state : Traffic ρ σ ω α) where
  kept := concert.keeps state initially
  bystanders := nofun
  soloist := nofun
  alone := nofun
  resting _ := initially

variable {number : Nat} {request : ρ}

/-- A number other than the one that has been updated holds what it did. -/
theorem update_cases {tasks : Nat → Option (ρ × Async σ ω α)} {other : Nat} {request' : ρ}
    {task task' : Async σ ω α}
    (found : Function.update tasks number (some (request, task)) other = some (request', task')) :
    (other = number ∧ request' = request ∧ task' = task) ∨
      (other ≠ number ∧ tasks other = some (request', task')) := by
  by_cases same : other = number
  · subst same
    rw [Function.update_self] at found
    cases found
    exact .inl ⟨rfl, rfl, rfl⟩
  · rw [Function.update_of_ne same] at found
    exact .inr ⟨same, found⟩

variable {traffic : Traffic ρ σ ω α} (concert : Concert handler solo ready rely invariant idle)

include concert

variable (conducted : Conducted solo rely invariant idle traffic)

include conducted

theorem arrive_conducted (fresh : traffic.tasks number = none)
    (admitted : solo request → traffic.Quiet solo ∧ ready request traffic.state) :
    Conducted solo rely invariant idle { traffic with
      tasks := Function.update traffic.tasks number (some (request, handler request)) } where
  kept := conducted.kept
  bystanders other request' task found accompanies := by
    rcases update_cases found with ⟨-, rfl, rfl⟩ | ⟨-, old⟩
    · exact concert.bystands request' accompanies
    · exact conducted.bystanders other request' task old accompanies
  soloist other request' task found leads unfinished later relied := by
    rcases update_cases found with ⟨-, rfl, rfl⟩ | ⟨-, old⟩
    · obtain ⟨quiet, isReady⟩ := admitted leads
      have rested := concert.rests _ later (conducted.resting quiet) relied
      exact concert.performs request' later leads rested
        (concert.waits request' _ later isReady relied)
    · exact conducted.soloist other request' task old leads unfinished later relied
  alone first second request₁ request₂ task₁ task₂ found₁ found₂ leads₁ leads₂ open₁ open₂ := by
    rcases update_cases found₁ with ⟨rfl, rfl, rfl⟩ | ⟨-, old₁⟩
    · rcases update_cases found₂ with ⟨rfl, -, -⟩ | ⟨-, old₂⟩
      · rfl
      · exact absurd ((admitted leads₁).1 second request₂ task₂ old₂ leads₂) open₂
    · rcases update_cases found₂ with ⟨rfl, rfl, rfl⟩ | ⟨-, old₂⟩
      · exact absurd ((admitted leads₂).1 first request₁ task₁ old₁ leads₁) open₁
      · exact conducted.alone first second _ _ _ _ old₁ old₂ leads₁ leads₂ open₁ open₂
  resting quiet := by
    refine conducted.resting fun other request' task found leads => ?_
    have different : other ≠ number := by
      rintro rfl
      rw [fresh] at found
      cases found
    refine quiet other request' task ?_ leads
    dsimp only
    rwa [Function.update_of_ne different]

/-- A bystander's action is one that was relied upon. -/
theorem bystander_conducted {effect : σ → ω → σ} {next : σ → ω → Async σ ω α}
    (found : traffic.tasks number = some (request, .act effect next)) (accompanies : ¬ solo request)
    (answer : ω) : Conducted solo rely invariant idle
      { state := effect traffic.state answer
        tasks := Function.update traffic.tasks number
          (some (request, next traffic.state answer)) } := by
  obtain ⟨relied, onwards⟩ :=
    conducted.bystanders number request _ found accompanies traffic.state answer
  refine ⟨concert.stable _ _ conducted.kept relied, ?_, ?_, ?_, ?_⟩
  · intro other request' task present accompanies'
    rcases update_cases present with ⟨-, rfl, rfl⟩ | ⟨-, old⟩
    · exact onwards
    · exact conducted.bystanders other request' task old accompanies'
  · intro other request' task present leads unfinished later further
    rcases update_cases present with ⟨-, rfl, rfl⟩ | ⟨-, old⟩
    · exact absurd leads accompanies
    · exact conducted.soloist other request' task old leads unfinished later
        (concert.transitive _ _ _ relied further)
  · intro first second request₁ request₂ task₁ task₂ found₁ found₂ leads₁ leads₂ open₁ open₂
    rcases update_cases found₁ with ⟨-, rfl, -⟩ | ⟨-, old₁⟩
    · exact absurd leads₁ accompanies
    · rcases update_cases found₂ with ⟨-, rfl, -⟩ | ⟨-, old₂⟩
      · exact absurd leads₂ accompanies
      · exact conducted.alone first second _ _ _ _ old₁ old₂ leads₁ leads₂ open₁ open₂
  · intro quiet
    refine concert.rests _ _ (conducted.resting fun other request' task present leads => ?_) relied
    by_cases same : other = number
    · subst same
      rw [found] at present
      cases present
      exact absurd leads accompanies
    · refine quiet other request' task ?_ leads
      dsimp only
      rwa [Function.update_of_ne same]

/-- The soloist's action is guarded, and no other soloist is under way. -/
theorem soloist_conducted {effect : σ → ω → σ} {next : σ → ω → Async σ ω α}
    (found : traffic.tasks number = some (request, .act effect next)) (leads : solo request)
    (answer : ω) : Conducted solo rely invariant idle
      { state := effect traffic.state answer
        tasks := Function.update traffic.tasks number
          (some (request, next traffic.state answer)) } := by
  obtain ⟨kept, onwards⟩ :=
    conducted.soloist number request _ found leads id traffic.state (concert.reflexive _) answer
  have only {other : Nat} {request' : ρ} {task : Async σ ω α} (different : other ≠ number)
      (old : traffic.tasks other = some (request', task)) (leads' : solo request') :
      task.Ended := by
    by_contra unfinished
    exact different (conducted.alone other number _ _ _ _ old found leads' leads unfinished id)
  refine ⟨kept, ?_, ?_, ?_, ?_⟩
  · intro other request' task present accompanies
    rcases update_cases present with ⟨-, rfl, rfl⟩ | ⟨-, old⟩
    · exact absurd leads accompanies
    · exact conducted.bystanders other request' task old accompanies
  · intro other request' task present leads' unfinished later relied
    rcases update_cases present with ⟨-, rfl, rfl⟩ | ⟨different, old⟩
    · exact onwards later relied
    · exact absurd (only different old leads') unfinished
  · intro first second request₁ request₂ task₁ task₂ found₁ found₂ leads₁ leads₂ open₁ open₂
    rcases update_cases found₁ with ⟨rfl, -, -⟩ | ⟨different, old₁⟩
    · rcases update_cases found₂ with ⟨rfl, -, -⟩ | ⟨different, old₂⟩
      · rfl
      · exact absurd (only different old₂ leads₂) open₂
    · exact absurd (only different old₁ leads₁) open₁
  · intro quiet
    have ended := quiet number request _ (Function.update_self _ _ _) leads
    have rested := onwards _ (concert.reflexive _)
    cases left : next traffic.state answer with
    | done result =>
      rw [left] at rested
      exact rested
    | act effect' next' =>
      rw [left] at ended
      exact absurd ended id

theorem step_conducted {later event} (admitted : Admits solo ready traffic event)
    (accepted : traffic.step handler event = some later) :
    Conducted solo rely invariant idle later := by
  cases event with
  | arrive number request =>
    simp only [Traffic.step] at accepted
    split at accepted
    · cases accepted
    next fresh =>
      cases accepted
      exact arrive_conducted concert conducted fresh admitted
  | turn number answer =>
    simp only [Traffic.step] at accepted
    split at accepted
    next request effect next found =>
      cases accepted
      by_cases leads : solo request
      · exact soloist_conducted concert conducted found leads answer
      · exact bystander_conducted concert conducted found leads answer
    · cases accepted

omit conducted

/-- However the tasks take their turns, the invariant holds at every moment and the state is
at rest whenever no soloist is under way. -/
theorem traffic_conducted {state}
    (initially : idle state) {events : List (TrafficEvent ρ ω)} {final : Traffic ρ σ ω α}
    (admitted : Meets (Traffic.step handler) (Admits solo ready) (.calm state) events)
    (reached : run (Traffic.step handler) (.calm state) events = some final) :
    invariant final.state ∧ (final.Quiet solo → idle final.state) := by
  have conducted := run_invariant (Traffic.step handler) (Admits solo ready)
    (Conducted solo rely invariant idle)
    (fun _ _ _ before allowed accepted => step_conducted concert before allowed accepted)
    (calm_conducted concert initially) admitted reached
  exact ⟨conducted.kept, conducted.resting⟩

end Solo

/-! ### Deciding that soloists do not overlap -/

section Deciding

variable (handler : ρ → Async σ ω α) (solo : ρ → Prop) (ready : ρ → σ → Prop)
  [DecidablePred solo] [∀ request state, Decidable (ready request state)]

/-- None of the tasks under the first numbers is a soloist under way. -/
def Traffic.quietTo (bound : Nat) (traffic : Traffic ρ σ ω α) : Bool :=
  (List.range bound).all fun number =>
    match traffic.tasks number with
    | some (request, .act _ _) => !decide (solo request)
    | _ => true

/-- The number is one of the first, and a soloist arrives only when no other is under way and
the state is ready for it. -/
def orderly (bound : Nat) (traffic : Traffic ρ σ ω α) : TrafficEvent ρ ω → Bool
  | .arrive number request =>
    decide (number < bound) && (!decide (solo request) ||
      traffic.quietTo solo bound && decide (ready request traffic.state))
  | .turn number _ => decide (number < bound)

variable {handler solo ready} {bound : Nat} {traffic final : Traffic ρ σ ω α} {state : σ}
  {events : List (TrafficEvent ρ ω)}

/-- Looking at the first numbers is enough if no other is in use. -/
theorem quiet_of_quietTo (unused : ∀ number, bound ≤ number → traffic.tasks number = none)
    (quiet : traffic.quietTo solo bound = true) : traffic.Quiet solo := by
  intro number request task found leads
  have small : number < bound := by
    by_contra large
    rw [unused number (Nat.le_of_not_lt large)] at found
    cases found
  have here := List.all_eq_true.mp quiet number (List.mem_range.mpr small)
  simp only [found] at here
  cases task with
  | done result => trivial
  | act effect next => simp [leads] at here

/-- No other number comes into use. -/
theorem step_unused {event : TrafficEvent ρ ω} {later : Traffic ρ σ ω α}
    (unused : ∀ number, bound ≤ number → traffic.tasks number = none)
    (tested : orderly solo ready bound traffic event = true)
    (accepted : Traffic.step handler traffic event = some later) :
    ∀ number, bound ≤ number → later.tasks number = none := by
  intro number large
  cases event with
  | arrive arriving request =>
    have small := of_decide_eq_true (Bool.and_eq_true_iff.mp tested).1
    simp only [Traffic.step] at accepted
    split at accepted
    · cases accepted
    cases accepted
    dsimp only
    rw [Function.update_of_ne (by omega)]
    exact unused number large
  | turn turning answer =>
    have small := of_decide_eq_true tested
    simp only [Traffic.step] at accepted
    split at accepted
    · cases accepted
      dsimp only
      rw [Function.update_of_ne (by omega)]
      exact unused number large
    · cases accepted

variable (handler solo ready bound state events)

/-- Following the run decides that the soloists in it do not overlap. -/
theorem admits_of_orderly (checked : Meets (Traffic.step handler)
      (fun traffic event => orderly solo ready bound traffic event) (.calm state) events) :
    Meets (Traffic.step handler) (Admits solo ready) (.calm state) events := by
  refine meets_of_invariant _ _ _
    (fun traffic => ∀ number, bound ≤ number → traffic.tasks number = none) ?_ ?_
    (fun _ _ => rfl) checked
  · intro traffic event later unused tested accepted
    exact step_unused unused tested accepted
  · intro traffic event unused tested
    cases event with
    | turn turning answer => trivial
    | arrive arriving request =>
      intro leads
      have allowed := (Bool.and_eq_true_iff.mp tested).2
      simp only [leads, decide_true, Bool.not_true, Bool.false_or, Bool.and_eq_true,
        decide_eq_true_eq] at allowed
      exact ⟨quiet_of_quietTo unused allowed.1, allowed.2⟩

variable {handler solo ready bound state events}

/-- Looking at its end decides that no soloist is under way there. -/
theorem quiet_of_orderly (checked : Meets (Traffic.step handler)
      (fun traffic event => orderly solo ready bound traffic event) (.calm state) events)
    (reached : run (Traffic.step handler) (.calm state) events = some final)
    (quiet : final.quietTo solo bound = true) : final.Quiet solo := by
  refine quiet_of_quietTo ?_ quiet
  exact run_invariant (Traffic.step handler) _
    (fun traffic => ∀ number, bound ≤ number → traffic.tasks number = none)
    (fun _ _ _ unused tested accepted => step_unused unused tested accepted)
    (fun _ _ => rfl) checked reached

end Deciding

end PgVisor.AwaitTasks
