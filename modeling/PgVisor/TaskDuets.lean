import PgVisor.AwaitTasks

/-!
# Two tasks that take turns

Two tasks start together and take turns until both have ended. What they do is watched
through a view of the state. The left one is a plain sequence of changes of the view
(`Follows`). The right one looks at the view first, and then changes it once at most.

The result does not depend on all of the schedule. The right task sees the changes the left
one made before its first turn, and its own change falls somewhere between those of the left
one: the view at the end is that of the left task's changes with the right one's inserted
there (`duet_views`).
-/

namespace PgVisor.AwaitTasks

open Transitions List

variable {σ τ ω χ ν μ α β : Type}

/-! ### The changes a task makes to a view -/

namespace Async

/-- While the view is steady and the answers are allowed, the task makes exactly these
changes, one with each action. -/
def Follows (view : σ → ν) (allowed : ω → Prop) (steady : ν → Prop) (results : α → Prop) :
    Async σ ω α → List (ν → ν) → Prop
  | .done result, changes => changes = [] ∧ results result
  | .act _ _, [] => False
  | .act effect next, change :: rest =>
    ∀ state answer, steady (view state) → allowed answer →
      view (effect state answer) = change (view state) ∧
        (next state answer).Follows view allowed steady results rest

section Follows

variable {view : σ → ν} {allowed : ω → Prop} {steady : ν → Prop} {results : α → Prop}
  {results' : β → Prop}

theorem follows_access {action change}
    (changes : ∀ state answer, steady (view state) → allowed answer →
      view (action state answer).1 = change (view state) ∧ results (action state answer).2) :
    (access action).Follows view allowed steady results [change] := by
  intro state answer holds heard
  obtain ⟨changed, result⟩ := changes state answer holds heard
  exact ⟨changed, rfl, result⟩

variable {task : Async σ ω α}

theorem Follows.bind {rest first second} (before : task.Follows view allowed steady results first)
    (after : ∀ result, results result → (rest result).Follows view allowed steady results' second) :
    (task >>= rest).Follows view allowed steady results' (first ++ second) := by
  change (task.bind rest).Follows view allowed steady results' (first ++ second)
  induction task generalizing first with
  | done result =>
    obtain ⟨rfl, holds⟩ := before
    exact after result holds
  | act effect next ih =>
    cases first with
    | nil => exact absurd before id
    | cons change later =>
      intro state answer holds heard
      obtain ⟨changed, onwards⟩ := before state answer holds heard
      exact ⟨changed, ih state answer onwards⟩

/-- A task whose result is known, followed by another one. -/
theorem Follows.andThen {rest result first second}
    (before : task.Follows view allowed steady (fun found => found = result) first)
    (after : (rest result).Follows view allowed steady results' second) :
    (task >>= rest).Follows view allowed steady results' (first ++ second) := by
  refine before.bind fun found same => ?_
  rwa [same]

/-- A task on a part changes a view of the whole as it changes one of the part. -/
theorem Follows.zoom {part : Part τ σ} (hear : χ → ω) {wider : τ → μ} {heard : χ → Prop}
    {calm : μ → Prop} {changes : List (ν → ν)} (lift : (ν → ν) → μ → μ)
    (follows : task.Follows view allowed steady results changes)
    (hears : ∀ answer, heard answer → allowed (hear answer))
    (steadies : ∀ whole, calm (wider whole) → steady (view (part.get whole)))
    (lifts : ∀ whole replaced change, view replaced = change (view (part.get whole)) →
      wider (part.set whole replaced) = lift change (wider whole)) :
    (task.zoom part hear).Follows wider heard calm results (changes.map lift) := by
  induction task generalizing changes with
  | done result =>
    obtain ⟨rfl, holds⟩ := follows
    exact ⟨rfl, holds⟩
  | act effect next ih =>
    cases changes with
    | nil => exact absurd follows id
    | cons change later =>
      intro whole answer holds permitted
      obtain ⟨changed, onwards⟩ := follows (part.get whole) (hear answer)
        (steadies whole holds) (hears answer permitted)
      exact ⟨lifts whole _ change changed, ih _ _ onwards⟩

end Follows

/-- The changes made in order. -/
def replay (changes : List (ν → ν)) (start : ν) : ν :=
  changes.foldl (fun current change => change current) start

end Async

open Async

/-- Every change of a list keeps the view steady. -/
def Keeps (steady : ν → Prop) (changes : List (ν → ν)) : Prop :=
  ∀ change ∈ changes, ∀ current, steady current → steady (change current)

/-- The task makes exactly these changes, and each of them keeps the view steady. -/
structure Async.Steers (view : σ → ν) (allowed : ω → Prop) (steady : ν → Prop)
    (task : Async σ ω α) (changes : List (ν → ν)) : Prop where
  follows : task.Follows view allowed steady (fun _ => True) changes
  keeps : Keeps steady changes

section Steering

variable {view : σ → ν} {allowed : ω → Prop} {steady : ν → Prop} {changes : List (ν → ν)}
  {state : σ}

/-- An action makes the next change. -/
theorem Async.Steers.turn {effect : σ → ω → σ} {next : σ → ω → Async σ ω α} {answer : ω}
    (steers : (Async.act effect next).Steers view allowed steady changes)
    (initially : steady (view state)) (heard : allowed answer) :
    ∃ change rest, changes = change :: rest ∧ view (effect state answer) = change (view state) ∧
      steady (view (effect state answer)) ∧
      (next state answer).Steers view allowed steady rest := by
  obtain ⟨follows, keeps⟩ := steers
  cases changes with
  | nil => exact absurd follows id
  | cons change rest =>
    obtain ⟨changed, still⟩ := follows state answer initially heard
    refine ⟨change, rest, rfl, changed, ?_, still, ?_⟩
    · rw [changed]
      exact keeps change mem_cons_self _ initially
    · exact fun later member => keeps later (mem_cons_of_mem change member)

/-- A task that makes its changes alone. -/
theorem Async.Steers.exec {task : Async σ ω α}
    (steers : task.Steers view allowed steady changes) (initially : steady (view state))
    (answers : Nat → ω) (heard : ∀ n, allowed (answers n)) :
    view (task.exec state answers).1 = replay changes (view state) := by
  induction task generalizing changes state answers with
  | done result =>
    obtain ⟨rfl, -⟩ := steers.follows
    rfl
  | act effect next ih =>
    obtain ⟨change, rest, rfl, changed, still, onwards⟩ := steers.turn initially (heard 0)
    have ends := ih state (answers 0) onwards still _ fun n => heard (n + 1)
    rw [changed] at ends
    exact ends

end Steering

/-! ### The duet -/

inductive Side where
  | left
  | right
deriving DecidableEq

structure Duet (σ ω α β : Type) where
  state : σ
  left : Async σ ω α
  right : Async σ ω β

/-- One of the two takes its next action. -/
def Duet.step (duet : Duet σ ω α β) : Side × ω → Option (Duet σ ω α β)
  | (.left, answer) =>
    match duet.left with
    | .done _ => none
    | .act effect next =>
      some
        { state := effect duet.state answer
          left := next duet.state answer
          right := duet.right }
  | (.right, answer) =>
    match duet.right with
    | .done _ => none
    | .act effect next =>
      some
        { state := effect duet.state answer
          left := duet.left
          right := next duet.state answer }

/-- Both have come to their end. -/
def Duet.Over (duet : Duet σ ω α β) : Prop :=
  (∃ result, duet.left = .done result) ∧ ∃ result, duet.right = .done result

instance Async.decidableDone (task : Async σ ω α) : Decidable (∃ result, task = .done result) :=
  match task with
  | .done result => .isTrue ⟨result, rfl⟩
  | .act _ _ => .isFalse nofun

instance (duet : Duet σ ω α β) : Decidable duet.Over :=
  inferInstanceAs (Decidable (_ ∧ _))

/-- The turns of the left task before the `n`-th of the right one, counted from zero. -/
def leftsBefore : Nat → List (Side × ω) → Nat
  | _, [] => 0
  | n, (.left, _) :: rest => leftsBefore n rest + 1
  | 0, (.right, _) :: _ => 0
  | n + 1, (.right, _) :: rest => leftsBefore n rest

/-- What the right task does after its first look. -/
inductive Plan (ν : Type) where
  | rest (idles : Nat)
  | write (idles : Nat) (change : ν → ν) (more : Nat)

def Plan.changes : Plan ν → List (ν → ν)
  | .rest idles => List.replicate idles id
  | .write idles change more => List.replicate idles id ++ change :: List.replicate more id

/-- The changes of the left task with that of the plan inserted. -/
def Plan.inserted (plan : Plan ν) (changes : List (ν → ν)) (before : Nat → Nat) (start : ν) : ν :=
  match plan with
  | .rest _ => replay changes start
  | .write idles change _ =>
    replay (changes.drop (before idles)) (change (replay (changes.take (before idles)) start))

section Duets

variable {view : σ → ν} {allowed : ω → Prop} {steady : ν → Prop}

theorem left_turn_inv {duet later : Duet σ ω α β} {answer : ω}
    (accepted : duet.step (.left, answer) = some later) :
    ∃ effect next, duet.left = .act effect next ∧
      later = ⟨effect duet.state answer, next duet.state answer, duet.right⟩ := by
  simp only [Duet.step] at accepted
  split at accepted
  · cases accepted
  next effect next found => exact ⟨effect, next, found, (Option.some.inj accepted).symm⟩

theorem right_turn_inv {duet later : Duet σ ω α β} {answer : ω}
    (accepted : duet.step (.right, answer) = some later) :
    ∃ effect next, duet.right = .act effect next ∧
      later = ⟨effect duet.state answer, duet.left, next duet.state answer⟩ := by
  simp only [Duet.step] at accepted
  split at accepted
  · cases accepted
  next effect next found => exact ⟨effect, next, found, (Option.some.inj accepted).symm⟩

variable (turns : List (Side × ω))

theorem lefts_before_left (n : Nat) (answer : ω) (turns : List (Side × ω)) :
    leftsBefore n ((.left, answer) :: turns) = leftsBefore n turns + 1 := by
  cases n <;> rfl

/-- A left turn makes the next change of the left task. -/
theorem inserted_cons (plan : Plan ν) (change : ν → ν) (rest : List (ν → ν)) (before : Nat → Nat)
    (start : ν) : plan.inserted (change :: rest) (fun n => before n + 1) start =
      plan.inserted rest before (change start) := by
  cases plan with
  | rest idles => rfl
  | write idles own more =>
    simp only [Plan.inserted, drop_succ_cons, take_succ_cons]
    rfl

/-- A right turn makes the next change of the plan. -/
theorem inserted_right {plan : Plan ν} {change : ν → ν} {more : List (ν → ν)}
    (changes : List (ν → ν)) (planned : plan.changes = change :: more) (answer : ω)
    (turns : List (Side × ω)) (start : ν) : ∃ later : Plan ν, later.changes = more ∧
      plan.inserted changes (fun n => leftsBefore n ((.right, answer) :: turns)) start =
        later.inserted changes (fun n => leftsBefore n turns) (change start) := by
  cases plan with
  | rest idles =>
    cases idles with
    | zero => cases planned
    | succ idles =>
      obtain ⟨rfl, rfl⟩ := List.cons.inj planned
      exact ⟨.rest idles, rfl, rfl⟩
  | write idles own after =>
    cases idles with
    | zero =>
      obtain ⟨rfl, rfl⟩ := List.cons.inj planned
      exact ⟨.rest after, rfl, rfl⟩
    | succ idles =>
      obtain ⟨rfl, rfl⟩ := List.cons.inj planned
      exact ⟨.write idles own after, rfl, rfl⟩

/-- The turns of both while the right one idles and writes at most once. -/
theorem duet_inserts (plan : Plan ν) (changes : List (ν → ν)) (duet final : Duet σ ω α β)
    (left : duet.left.Steers view allowed steady changes)
    (right : duet.right.Steers view allowed steady plan.changes)
    (initially : steady (view duet.state)) (heard : ∀ turn ∈ turns, allowed turn.2)
    (reached : run Duet.step duet turns = some final) (finished : final.Over) : view final.state =
      plan.inserted changes (fun n => leftsBefore n turns) (view duet.state) := by
  induction turns generalizing duet changes plan with
  | nil =>
    cases Option.some.inj reached
    obtain ⟨⟨_, leftDone⟩, ⟨_, rightDone⟩⟩ := finished
    rw [leftDone] at left
    rw [rightDone] at right
    obtain ⟨rfl, -⟩ := left.follows
    cases plan with
    | rest idles => rfl
    | write idles own more => exact absurd right.follows.1 (by simp [Plan.changes])
  | cons turn rest ih =>
    obtain ⟨next, accepted, onwards⟩ := run_cons_inv reached
    have permitted := heard turn mem_cons_self
    have restHeard (later : Side × ω) (member : later ∈ rest) : allowed later.2 :=
      heard later (mem_cons_of_mem turn member)
    obtain ⟨side, answer⟩ := turn
    cases side with
    | left =>
      obtain ⟨effect, following, found, rfl⟩ := left_turn_inv accepted
      rw [found] at left
      obtain ⟨change, later, rfl, changed, steadyStill, still⟩ := left.turn initially permitted
      simp only [lefts_before_left]
      rw [inserted_cons, ← changed]
      exact ih plan later ⟨_, following duet.state answer, duet.right⟩ still right steadyStill
        restHeard onwards
    | right =>
      obtain ⟨effect, following, found, rfl⟩ := right_turn_inv accepted
      rw [found] at right
      obtain ⟨change, more, planned, changed, steadyStill, still⟩ :=
        right.turn initially permitted
      obtain ⟨later, rfl, same⟩ := inserted_right changes planned answer rest (view duet.state)
      rw [same, ← changed]
      exact ih later changes ⟨_, duet.left, following duet.state answer⟩ left still steadyStill
        restHeard onwards

/-- The right task looks at the view in its first action and then follows a plan made for
what it saw. -/
theorem duet_views (plan : ν → Plan ν) (changes : List (ν → ν)) (duet final : Duet σ ω α β)
    (effect : σ → ω → σ) (next : σ → ω → Async σ ω β)
    (left : duet.left.Steers view allowed steady changes) (right : duet.right = .act effect next)
    (looks : ∀ state answer, steady (view state) → allowed answer →
      view (effect state answer) = view state ∧
        (next state answer).Steers view allowed steady (plan (view state)).changes)
    (initially : steady (view duet.state)) (heard : ∀ turn ∈ turns, allowed turn.2)
    (reached : run Duet.step duet turns = some final) (finished : final.Over) : view final.state =
      (plan (replay (changes.take (leftsBefore 0 turns)) (view duet.state))).inserted changes
        (fun n => leftsBefore (n + 1) turns) (view duet.state) := by
  induction turns generalizing duet changes with
  | nil =>
    cases Option.some.inj reached
    obtain ⟨-, ⟨_, rightDone⟩⟩ := finished
    rw [right] at rightDone
    cases rightDone
  | cons turn rest ih =>
    obtain ⟨following, accepted, onwards⟩ := run_cons_inv reached
    have permitted := heard turn mem_cons_self
    have restHeard (later : Side × ω) (member : later ∈ rest) : allowed later.2 :=
      heard later (mem_cons_of_mem turn member)
    obtain ⟨side, answer⟩ := turn
    cases side with
    | left =>
      obtain ⟨own, ownNext, found, rfl⟩ := left_turn_inv accepted
      rw [found] at left
      obtain ⟨change, later, rfl, changed, steadyStill, still⟩ := left.turn initially permitted
      have ends := ih later ⟨_, ownNext duet.state answer, duet.right⟩ still right steadyStill
        restHeard onwards
      simp only [lefts_before_left, take_succ_cons]
      rw [inserted_cons, ends]
      dsimp only
      rw [changed]
      rfl
    | right =>
      obtain ⟨own, ownNext, found, rfl⟩ := right_turn_inv accepted
      rw [found] at right
      cases right
      obtain ⟨same, steers⟩ := looks duet.state answer initially permitted
      have steadyStill : steady (view (effect duet.state answer)) := by
        rw [same]
        exact initially
      have ends := duet_inserts rest (plan (view duet.state)) changes
        ⟨_, duet.left, next duet.state answer⟩ final left steers steadyStill restHeard onwards
        finished
      rw [ends]
      dsimp only
      rw [same]
      rfl

end Duets

end PgVisor.AwaitTasks
