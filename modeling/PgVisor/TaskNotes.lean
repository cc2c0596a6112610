import PgVisor.TaskTraffic

/-!
# Tasks that leave notes

What tasks have done to a shared state cannot be read off the state itself. A noted task works
on the state and on notes beside it. Every action may leave a note of what it has changed, and
an action can be announced, which leaves one more. No action reads the notes: a noted task
erases to one without them, which makes the same changes to the state.
-/

namespace PgVisor.AwaitTasks

variable {σ η ω α β : Type}

namespace Async

variable (observe : σ → σ → η → η)

/-- The task with its changes noted. -/
def annotate : Async σ ω α → Async (σ × η) ω α
  | .done result => .done result
  | .act effect next =>
    .act
      (fun noted answer =>
        (effect noted.1 answer, observe noted.1 (effect noted.1 answer) noted.2))
      fun noted answer => (next noted.1 answer).annotate

/-- The same with a note before the first action, written from the state it finds. -/
def announce (note : σ → η → η) : Async σ ω α → Async (σ × η) ω α
  | .done result => .done result
  | .act effect next =>
    .act
      (fun noted answer =>
        (effect noted.1 answer, observe noted.1 (effect noted.1 answer) (note noted.1 noted.2)))
      fun noted answer => (next noted.1 answer).annotate observe

/-- But for its notes, the first task is the second one. -/
inductive Erases : Async (σ × η) ω α → Async σ ω α → Prop
  | done (result : α) : Erases (.done result) (.done result)
  | act {noted effect next next'}
      (same : ∀ before answer, (noted before answer).1 = effect before.1 answer)
      (onwards : ∀ before answer, Erases (next before answer) (next' before.1 answer)) :
      Erases (.act noted next) (.act effect next')

theorem annotate_erases (task : Async σ ω α) : (task.annotate observe).Erases task := by
  induction task with
  | done result => exact .done result
  | act effect next ih =>
    exact .act (fun _ _ => rfl) fun before answer => ih before.1 answer

theorem announce_erases (note : σ → η → η) (task : Async σ ω α) :
    (task.announce observe note).Erases task := by
  cases task with
  | done result => exact .done result
  | act effect next =>
    exact .act (fun _ _ => rfl) fun before answer => annotate_erases observe (next before.1 answer)

variable {task : Async σ ω α}

theorem Erases.bind {noted : Async (σ × η) ω α} {rest : α → Async (σ × η) ω β}
    {rest' : α → Async σ ω β} (first : noted.Erases task)
    (second : ∀ result, (rest result).Erases (rest' result)) :
    (noted >>= rest).Erases (task >>= rest') := by
  change (noted.bind rest).Erases (task.bind rest')
  induction first with
  | done result => exact second result
  | act same onwards ih => exact .act same ih

/-- Executed alone, a noted task ends as the one without notes. -/
theorem Erases.runs {noted : Async (σ × η) ω α} {before : σ × η} {answers : Nat → ω}
    {post : α → σ → (Nat → ω) → Prop} (erases : noted.Erases task)
    (runs : task.Runs before.1 answers post) :
    noted.Runs before answers fun result later left => post result later.1 left := by
  induction erases generalizing before answers with
  | done result => exact runs
  | act same onwards ih =>
    refine ih before (answers 0) ?_
    rw [same]
    exact runs

variable {observe}

/-- The notes of a task that changes the state only in a certain way. -/
theorem Within.annotate {change wider results} (within : task.Within change results)
    (noted : ∀ before later notes, change before later →
      wider (before, notes) (later, observe before later notes)) :
    (task.annotate observe).Within wider results := by
  induction task with
  | done result => exact within
  | act effect next ih =>
    intro before answer
    obtain ⟨here, later⟩ := within before.1 answer
    constructor
    · exact noted before.1 _ before.2 here
    · exact ih before.1 answer later

/-- The same with the first action announced. -/
theorem Within.announce {change wider results note} (within : task.Within change results)
    (noted : ∀ before later notes, change before later →
      wider (before, notes) (later, observe before later notes))
    (announced : ∀ before later notes, change before later →
      wider (before, notes) (later, observe before later (note before notes))) :
    (task.announce observe note).Within wider results := by
  cases task with
  | done result => exact within
  | act effect next =>
    intro before answer
    obtain ⟨here, later⟩ := within before.1 answer
    exact ⟨announced before.1 _ before.2 here, later.annotate noted⟩

/-- An action that is announced, with nothing after it. -/
theorem guarded_announce_access {rely : σ × η → σ × η → Prop} {invariant : σ × η → Prop}
    {note : σ → η → η} {action : σ → ω → σ × α} {before : σ × η} {post : α → σ × η → Prop}
    (guarded : ∀ answer, invariant ((action before.1 answer).1,
        observe before.1 (action before.1 answer).1 (note before.1 before.2)) ∧
      ∀ later, rely ((action before.1 answer).1,
          observe before.1 (action before.1 answer).1 (note before.1 before.2)) later →
        post (action before.1 answer).2 later) :
    ((Async.access action).announce observe note).Guarded rely invariant before post :=
  guarded

/-- A task that makes only changes that are relied upon, and announces the first one: the
invariant need only survive the note. -/
theorem Within.guarded_announce {change rely invariant results note before}
    (within : task.Within change results)
    (noted : ∀ before later notes, change before later →
      rely (before, notes) (later, observe before later notes))
    (reflexive : ∀ state, rely state state)
    (transitive : ∀ first second third, rely first second → rely second third → rely first third)
    (stable : ∀ state later, invariant state → rely state later → invariant later)
    (initially : invariant before) (announced : invariant (before.1, note before.1 before.2)) :
    (task.announce observe note).Guarded rely invariant before fun result later =>
      results result ∧ invariant later := by
  cases task with
  | done result => exact ⟨within, initially⟩
  | act effect next =>
    intro answer
    obtain ⟨here, later⟩ := within before.1 answer
    have kept := stable _ _ announced (noted before.1 _ _ here)
    refine ⟨kept, fun others relied => ?_⟩
    have still := stable _ others kept relied
    apply ((later.annotate noted).guarded reflexive transitive stable still).mono
    intro result last ⟨allowed, changed⟩
    exact ⟨allowed, stable others last still changed⟩

end Async

section Erasure

variable {ρ : Type} {handler : ρ → Async (σ × η) ω α} {plain : ρ → Async σ ω α}
  {noted : Traffic ρ (σ × η) ω α} {traffic : Traffic ρ σ ω α}

/-- But for the notes, the state and the tasks under way are the same. -/
structure Erased (noted : Traffic ρ (σ × η) ω α) (traffic : Traffic ρ σ ω α) : Prop where
  state : noted.state.1 = traffic.state
  tasks : ∀ number, Option.Rel (fun task task' => task.1 = task'.1 ∧ task.2.Erases task'.2)
    (noted.tasks number) (traffic.tasks number)

theorem calm_erased (state : σ) (notes : η) :
    Erased (Traffic.calm (state, notes) : Traffic ρ (σ × η) ω α) (Traffic.calm state) :=
  ⟨rfl, fun _ => .none⟩

theorem Erased.update (erased : Erased noted traffic) {state : σ × η} {state' : σ} {number : Nat}
    {request : ρ} {task : Async (σ × η) ω α} {task' : Async σ ω α} (same : state.1 = state')
    (erases : task.Erases task') :
    Erased ⟨state, Function.update noted.tasks number (some (request, task))⟩
      ⟨state', Function.update traffic.tasks number (some (request, task'))⟩ := by
  refine ⟨same, fun other => ?_⟩
  dsimp only
  by_cases here : other = number
  · rw [here, Function.update_self, Function.update_self]
    exact .some ⟨rfl, erases⟩
  · rw [Function.update_of_ne here, Function.update_of_ne here]
    exact erased.tasks other

variable (erases : ∀ request, (handler request).Erases (plain request))

include erases

theorem step_erased (erased : Erased noted traffic) (event : TrafficEvent ρ ω) :
    Option.Rel Erased (Traffic.step handler noted event) (Traffic.step plain traffic event) := by
  cases event with
  | arrive number request =>
    have found := erased.tasks number
    simp only [Traffic.step]
    generalize noted.tasks number = task, traffic.tasks number = task' at found
    cases found with
    | none => exact .some (erased.update erased.state (erases request))
    | some _ => exact .none
  | turn number answer =>
    have found := erased.tasks number
    simp only [Traffic.step]
    generalize noted.tasks number = task, traffic.tasks number = task' at found
    cases found with
    | none => exact .none
    | @some named named' related =>
      obtain ⟨request, task⟩ := named
      obtain ⟨request', task'⟩ := named'
      obtain ⟨rfl, here⟩ := related
      cases here with
      | done result => exact .none
      | act same onwards =>
        refine .some (erased.update ?_ ?_) <;> rw [← erased.state]
        · exact same noted.state answer
        · exact onwards noted.state answer

/-- A run with notes and the run without them take the same steps. -/
theorem run_erased (erased : Erased noted traffic) (events : List (TrafficEvent ρ ω)) :
    Option.Rel Erased (Transitions.run (Traffic.step handler) noted events)
      (Transitions.run (Traffic.step plain) traffic events) := by
  induction events generalizing noted traffic with
  | nil => exact .some erased
  | cons event rest ih =>
    have stepped := step_erased erases erased event
    simp only [Transitions.run]
    generalize Traffic.step handler noted event = next,
      Traffic.step plain traffic event = next' at stepped
    cases stepped with
    | none => exact .none
    | some here => exact ih here

end Erasure

end PgVisor.AwaitTasks
