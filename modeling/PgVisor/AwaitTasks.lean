import PgVisor.Transitions

/-!
# Tasks that await

A task works on a state it shares with others. It consists of actions, each of which
takes effect at once and sees the state and an answer from outside: the result of a
command, a reply, a reading of a clock. Between two actions it waits, and others may act.
What comes next may depend on what the last action saw, so a task is a tree; it is finite
on every path, and every task ends.

A task can be executed alone, with a stream of answers, or take turns with other tasks.
`Guarded` is the judgement about a task among others: relying on others to change the state only in
certain ways, the task keeps an invariant at every action and ends with a postcondition.
`Runs` is the judgement about a task executed alone, on a stream of answers; its
postcondition also sees the answers that are left.
-/

namespace PgVisor.AwaitTasks

open Transitions

variable {σ τ ω χ α β ρ : Type}

/-- A task: finished, or before its next action. -/
inductive Async (σ ω α : Type) where
  | done (result : α)
  | act (effect : σ → ω → σ) (next : σ → ω → Async σ ω α)

namespace Async

/-- One task after the other. -/
def bind : Async σ ω α → (α → Async σ ω β) → Async σ ω β
  | .done result, rest => rest result
  | .act effect next, rest => .act effect fun state answer => (next state answer).bind rest

instance : Monad (Async σ ω) where
  pure := .done
  bind := .bind

/-- A single action that returns something. -/
def access (action : σ → ω → σ × α) : Async σ ω α :=
  .act (fun state answer => (action state answer).1)
    fun state answer => .done (action state answer).2

/-- The task executed alone. -/
def exec : Async σ ω α → σ → (Nat → ω) → σ × α
  | .done result, state, _ => (state, result)
  | .act effect next, state, answers =>
    (next state (answers 0)).exec (effect state (answers 0)) fun n => answers (n + 1)

/-- A section runs on the first answer. -/
theorem exec_access (action : σ → ω → σ × α) (rest : α → Async σ ω β) (state : σ)
    (answers : Nat → ω) : (Async.access action >>= rest).exec state answers =
      (rest (action state (answers 0)).2).exec (action state (answers 0)).1
        fun n => answers (n + 1) := rfl

/-- The first actions of a task that is then given up. -/
def cut : Nat → Async σ ω α → Async σ ω Unit
  | _, .done _ => .done ()
  | 0, .act _ _ => .done ()
  | count + 1, .act effect next =>
    .act effect fun state answer => (next state answer).cut count

/-- Relying on others, the task keeps the invariant and ends with the postcondition. -/
def Guarded (rely : σ → σ → Prop) (invariant : σ → Prop) : Async σ ω α → σ → (α → σ → Prop) → Prop
  | .done result, state, post => post result state
  | .act effect next, state, post =>
    ∀ answer, invariant (effect state answer) ∧ ∀ later, rely (effect state answer) later →
        (next state answer).Guarded rely invariant later post

/-- The answers that are left after the first ones. -/
def after (count : Nat) (answers : Nat → ω) : Nat → ω := fun n => answers (n + count)

/-- Executed alone on these answers, the task ends with the postcondition. -/
def Runs : Async σ ω α → σ → (Nat → ω) → (α → σ → (Nat → ω) → Prop) → Prop
  | .done result, state, answers, post => post result state answers
  | .act effect next, state, answers, post =>
    (next state (answers 0)).Runs (effect state (answers 0)) (after 1 answers) post

/-- Wherever the task is in, it changes the state only in the given way, and its result is
one of the given ones. -/
def Within (change : σ → σ → Prop) (results : α → Prop) : Async σ ω α → Prop
  | .done result => results result
  | .act effect next =>
    ∀ state answer, change state (effect state answer) ∧ (next state answer).Within change results

/-! ### Rules for the judgement -/

section Rules

variable {rely rely' : σ → σ → Prop} {invariant invariant' : σ → Prop} {state : σ}

/-- A sequence is guarded part by part. -/
theorem guarded_bind {task : Async σ ω α} {rest : α → Async σ ω β} {post : β → σ → Prop} :
    (task >>= rest).Guarded rely invariant state post ↔
      task.Guarded rely invariant state fun result later =>
        (rest result).Guarded rely invariant later post := by
  change (task.bind rest).Guarded rely invariant state post ↔ _
  induction task generalizing state with
  | done result => exact Iff.rfl
  | act effect next ih =>
    simp only [bind, Guarded]
    refine forall_congr' fun answer => and_congr_right fun _ => ?_
    exact forall_congr' fun later => imp_congr_right fun _ => ih state answer

variable {post post' : α → σ → Prop}

/-- Guards may promise less. -/
theorem Guarded.mono {task : Async σ ω α} (guarded : task.Guarded rely invariant state post)
    (weaker : ∀ result later, post result later → post' result later) :
    task.Guarded rely invariant state post' := by
  induction task generalizing state with
  | done result => exact weaker result state guarded
  | act effect next ih =>
    intro answer
    obtain ⟨kept, others⟩ := guarded answer
    exact ⟨kept, fun later relied => ih state answer (others later relied)⟩

/-- The second part is guarded from wherever the first ends. -/
theorem Guarded.andThen {task : Async σ ω α} {rest : α → Async σ ω β} {post' : β → σ → Prop}
    (first : task.Guarded rely invariant state post)
    (second : ∀ result later, post result later →
      (rest result).Guarded rely invariant later post') :
    (task >>= rest).Guarded rely invariant state post' := guarded_bind.mpr (first.mono second)

section Alone

variable {answers : Nat → ω} {ends ends' : α → σ → (Nat → ω) → Prop}

/-- Answers are taken one after the other. -/
theorem after_after (first second : Nat) (answers : Nat → ω) :
    after second (after first answers) = after (first + second) answers := by
  funext n
  simp only [after]
  rw [Nat.add_assoc, Nat.add_comm second first]

/-- A guarded task keeps its promise when it runs alone. -/
theorem Guarded.runs {task : Async σ ω α} (guarded : task.Guarded rely invariant state post)
    (reflexive : ∀ state, rely state state) :
    task.Runs state answers fun result later _ => post result later := by
  induction task generalizing state answers with
  | done result => exact guarded
  | act effect next ih =>
    exact ih state (answers 0) ((guarded (answers 0)).2 _ (reflexive _))

/-- A section takes one answer. -/
theorem access_runs {action : σ → ω → σ × α} : (Async.access action).Runs state answers ends ↔
    ends (action state (answers 0)).2 (action state (answers 0)).1 (after 1 answers) := Iff.rfl

/-- A sequence runs part by part. -/
theorem runs_bind {task : Async σ ω α} {rest : α → Async σ ω β}
    {ends : β → σ → (Nat → ω) → Prop} : (task >>= rest).Runs state answers ends ↔
      task.Runs state answers fun result later left => (rest result).Runs later left ends := by
  change (task.bind rest).Runs state answers ends ↔ _
  induction task generalizing state answers with
  | done result => exact Iff.rfl
  | act effect next ih => exact ih state (answers 0)

/-- Less may be said of a run. -/
theorem Runs.mono {task : Async σ ω α} (runs : task.Runs state answers ends)
    (weaker : ∀ result later left, ends result later left → ends' result later left) :
    task.Runs state answers ends' := by
  induction task generalizing state answers with
  | done result => exact weaker result state answers runs
  | act effect next ih => exact ih state (answers 0) runs

/-- The second part runs from wherever the first ends. -/
theorem Runs.andThen {task : Async σ ω α} {rest : α → Async σ ω β}
    {ends' : β → σ → (Nat → ω) → Prop} (first : task.Runs state answers ends)
    (second : ∀ result later left, ends result later left → (rest result).Runs later left ends') :
    (task >>= rest).Runs state answers ends' := runs_bind.mpr (first.mono second)

/-- Two facts about one run. -/
theorem Runs.and {task : Async σ ω α} (first : task.Runs state answers ends)
    (second : task.Runs state answers ends') : task.Runs state answers
      fun result later left => ends result later left ∧ ends' result later left := by
  induction task generalizing state answers with
  | done result => exact ⟨first, second⟩
  | act effect next ih => exact ih state (answers 0) first second

theorem runs_any (task : Async σ ω α) : task.Runs state answers fun _ _ _ => True := by
  induction task generalizing state answers with
  | done result => exact trivial
  | act effect next ih => exact ih state (answers 0)

/-- What holds of a run is what holds of its result. -/
theorem runs_exec {task : Async σ ω α} :
    (task.Runs state answers fun result later _ => post result later) ↔
      post (task.exec state answers).2 (task.exec state answers).1 := by
  induction task generalizing state answers with
  | done result => exact Iff.rfl
  | act effect next ih => exact ih state (answers 0)

end Alone

end Rules

variable {change : σ → σ → Prop} {results : α → Prop} {task : Async σ ω α}

/-- A sequence keeps within what both parts keep within. -/
theorem Within.bind {results' : β → Prop} {rest : α → Async σ ω β}
    (first : task.Within change results)
    (second : ∀ result, results result → (rest result).Within change results') :
    (task >>= rest).Within change results' := by
  change (task.bind rest).Within change results'
  induction task with
  | done result => exact second result first
  | act effect next ih =>
    intro state answer
    obtain ⟨here, later⟩ := first state answer
    exact ⟨here, ih state answer later⟩

/-- Nothing is said about the changes. -/
theorem within_any (task : Async σ ω α) : task.Within (fun _ _ => True) fun _ => True := by
  induction task with
  | done result => exact trivial
  | act effect next ih => exact fun state answer => ⟨trivial, ih state answer⟩

/-- A task that keeps within a preorder stays within it as a whole. -/
theorem Within.runs {state : σ} {answers : Nat → ω} (within : task.Within change results)
    (reflexive : ∀ state, change state state)
    (transitive : ∀ first second third, change first second → change second third →
      change first third) :
    task.Runs state answers fun result later _ => results result ∧ change state later := by
  induction task generalizing state answers with
  | done result => exact ⟨within, reflexive state⟩
  | act effect next ih =>
    obtain ⟨here, later⟩ := within state (answers 0)
    apply (ih state (answers 0) later).mono
    intro result last _ ⟨allowed, changed⟩
    exact ⟨allowed, transitive _ _ _ here changed⟩

/-- More may be allowed. -/
theorem Within.widen {wider} (within : task.Within change results)
    (allowed : ∀ before later, change before later → wider before later) :
    task.Within wider results := by
  induction task with
  | done result => exact within
  | act effect next ih =>
    intro state answer
    obtain ⟨here, later⟩ := within state answer
    exact ⟨allowed _ _ here, ih state answer later⟩

/-- A task that makes no other changes than those relied upon. -/
theorem Within.guarded {rely : σ → σ → Prop} {invariant : σ → Prop} {state : σ}
    (within : task.Within rely results) (reflexive : ∀ state, rely state state)
    (transitive : ∀ first second third, rely first second → rely second third → rely first third)
    (stable : ∀ state later, invariant state → rely state later → invariant later)
    (initially : invariant state) :
    task.Guarded rely invariant state fun result later => results result ∧ rely state later := by
  induction task generalizing state with
  | done result => exact ⟨within, reflexive state⟩
  | act effect next ih =>
    intro answer
    obtain ⟨here, later⟩ := within state answer
    have kept := stable state _ initially here
    refine ⟨kept, fun others relied => ?_⟩
    apply (ih state answer later (stable _ others kept relied)).mono
    intro result last ⟨allowed, changed⟩
    exact ⟨allowed, transitive _ _ _ (transitive _ _ _ here relied) changed⟩

end Async

/-! ### Tasks on a part of the state -/

/-- A part of a larger state, read and replaced. -/
structure Part (τ σ : Type) where
  get : τ → σ
  set : τ → σ → τ
  get_set : ∀ whole part, get (set whole part) = part
  set_set : ∀ whole first second, set (set whole first) second = set whole second
  set_get : ∀ whole, set whole (get whole) = whole

namespace Async

/-- A task on a part, as a task on the whole that hears its answers through `hear`. -/
def zoom (part : Part τ σ) (hear : χ → ω) : Async σ ω α → Async τ χ α
  | .done result => .done result
  | .act effect next =>
    .act (fun whole answer => part.set whole (effect (part.get whole) (hear answer)))
      fun whole answer => (next (part.get whole) (hear answer)).zoom part hear

variable (hear : χ → ω) {task : Async σ ω α}

/-- Others may change the part as they were relied upon to. What holds of the rest of the
whole still does if they leave it alone. -/
theorem Guarded.zoom (part : Part τ σ) (hear : χ → ω) {rely : σ → σ → Prop} {invariant : σ → Prop}
    {post : α → σ → Prop} {whole : τ} {wider : τ → τ → Prop} {frame : τ → Prop}
    (guarded : task.Guarded rely invariant (part.get whole) post)
    (narrower : ∀ before later, wider before later → rely (part.get before) (part.get later))
    (framed : ∀ before replaced later, frame before → wider (part.set before replaced) later →
      frame later) (initially : frame whole) :
    (task.zoom part hear).Guarded wider (fun whole => invariant (part.get whole)) whole
      fun result later => post result (part.get later) ∧ frame later := by
  induction task generalizing whole with
  | done result => exact ⟨guarded, initially⟩
  | act effect next ih =>
    intro answer
    obtain ⟨kept, others⟩ := guarded (hear answer)
    refine ⟨?_, fun later relied => ih _ _ (others _ ?_) ?_⟩
    · simpa only [part.get_set] using kept
    · simpa only [part.get_set] using narrower _ later relied
    · exact framed whole _ later initially relied

/-- The rest of the whole stays as it was. -/
theorem Runs.zoom {part : Part τ σ} {whole : τ} {answers : Nat → ω}
    {ends : α → σ → (Nat → ω) → Prop} (runs : task.Runs (part.get whole) answers ends) :
    (task.zoom part id).Runs whole answers fun result later left =>
      ends result (part.get later) left ∧ later = part.set whole (part.get later) := by
  induction task generalizing whole answers with
  | done result => exact ⟨runs, (part.set_get whole).symm⟩
  | act effect next ih =>
    have inner : (next (part.get whole) (answers 0)).Runs
        (part.get (part.set whole (effect (part.get whole) (answers 0)))) (after 1 answers)
        ends := by
      rw [part.get_set]
      exact runs
    refine Runs.mono (ih _ _ inner) fun result later left ended => ⟨ended.1, ?_⟩
    rw [← part.set_set whole (effect (part.get whole) (answers 0))]
    exact ended.2

/-- A task on a part keeps within what the part may do to the whole. -/
theorem Within.zoom {part : Part τ σ} {change : σ → σ → Prop} {wider : τ → τ → Prop}
    {results : α → Prop} (within : task.Within change results)
    (lifted : ∀ whole later, change (part.get whole) later → wider whole (part.set whole later)) :
    (task.zoom part hear).Within wider results := by
  induction task with
  | done result => exact within
  | act effect next ih =>
    intro whole answer
    obtain ⟨here, later⟩ := within (part.get whole) (hear answer)
    exact ⟨lifted whole _ here, ih _ _ later⟩

end Async

end PgVisor.AwaitTasks
