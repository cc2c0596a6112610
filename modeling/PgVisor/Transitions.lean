import Mathlib.Tactic.Common

/-!
# Finite runs of a labelled transition function

A step consumes one label and may be refused. A run is a list of labels all of
which are accepted; conditions on a run are conditions on each state and label
it passes through. Every invariant of a run is obtained from one step lemma.

States and labels are arbitrary types. Refusal means that the label cannot occur
in that state; it is not an error of the modelled program.
-/

namespace PgVisor.Transitions

universe u v
variable {σ : Type u} {ε : Type v}

/-- The state reached by consuming the labels in order. -/
def run (step : σ → ε → Option σ) : σ → List ε → Option σ
  | state, [] => some state
  | state, label :: rest => (step state label).bind (fun next => run step next rest)

/-- A condition met by every state and label the run passes through. -/
def Meets (step : σ → ε → Option σ) (condition : σ → ε → Prop) : σ → List ε → Prop
  | _, [] => True
  | state, label :: rest =>
    condition state label ∧ ∀ next, step state label = some next → Meets step condition next rest

/-- A guarded step is taken where the guard holds. -/
theorem guard_holds {guard : Prop} [Decidable guard] {next final : σ}
    (accepted : (if guard then some next else none) = some final) : guard ∧ final = next := by
  obtain ⟨holds, same⟩ := Option.ite_none_right_eq_some.mp accepted
  exact ⟨holds, (Option.some.inj same).symm⟩

variable {step : σ → ε → Option σ} {state final : σ} {label : ε} {rest labels : List ε}

/-- The first label of a run is accepted and the rest runs from its successor. -/
theorem run_cons_inv (reached : run step state (label :: rest) = some final) :
    ∃ next, step state label = some next ∧ run step next rest = some final :=
  Option.bind_eq_some_iff.mp reached

theorem run_cons {next : σ} (accepted : step state label = some next) :
    run step state (label :: rest) = run step next rest := by
  simp [run, accepted]

theorem run_append {middle : σ} {first second : List ε}
    (reached : run step state first = some middle) :
    run step state (first ++ second) = run step middle second := by
  induction first generalizing state with
  | nil => rw [Option.some.inj reached, List.nil_append]
  | cons label rest ih =>
    obtain ⟨next, accepted, later⟩ := run_cons_inv reached
    rw [List.cons_append, run_cons accepted]
    exact ih later

/-- A run of two parts passes through the state between them. -/
theorem run_append_inv {first second : List ε}
    (reached : run step state (first ++ second) = some final) :
    ∃ middle, run step state first = some middle ∧ run step middle second = some final := by
  induction first generalizing state with
  | nil => exact ⟨state, rfl, reached⟩
  | cons label rest ih =>
    obtain ⟨next, accepted, later⟩ := run_cons_inv reached
    obtain ⟨middle, through, beyond⟩ := ih later
    exact ⟨middle, (run_cons accepted).trans through, beyond⟩

variable {condition : σ → ε → Prop}

theorem meets_before {first second : List ε}
    (meets : Meets step condition state (first ++ second)) : Meets step condition state first := by
  induction first generalizing state with
  | nil => trivial
  | cons label rest ih =>
    exact ⟨meets.1, fun next accepted => ih (meets.2 next accepted)⟩

/-- A condition met by a run of two parts is met by the second from the state between. -/
theorem meets_after {middle : σ} {first second : List ε}
    (meets : Meets step condition state (first ++ second))
    (reached : run step state first = some middle) : Meets step condition middle second := by
  induction first generalizing state with
  | nil => exact Option.some.inj reached ▸ meets
  | cons label rest ih =>
    obtain ⟨next, accepted, later⟩ := run_cons_inv reached
    exact ih (meets.2 next accepted) later

variable (step) (condition) (invariant : σ → Prop)

/-- The invariant rule: a property that every step meeting the condition keeps
holds in every state reached by a run that meets the condition. -/
theorem run_invariant (kept : ∀ state label next, invariant state → condition state label →
      step state label = some next → invariant next)
    (initial : invariant state) (meets : Meets step condition state labels)
    (reached : run step state labels = some final) : invariant final := by
  induction labels generalizing state with
  | nil => exact Option.some.inj reached ▸ initial
  | cons label rest ih =>
    obtain ⟨next, accepted, later⟩ := run_cons_inv reached
    exact ih (kept state label next initial meets.1 accepted)
      (meets.2 next accepted) later

variable {step} {first second : σ → ε → Prop}

/-- Two conditions are met together exactly when each is met. -/
theorem meets_and :
    Meets step (fun state label => first state label ∧ second state label) state labels ↔
      Meets step first state labels ∧ Meets step second state labels := by
  induction labels generalizing state with
  | nil => exact ⟨fun _ => ⟨trivial, trivial⟩, fun _ => trivial⟩
  | cons label rest ih =>
    constructor
    · rintro ⟨⟨here, also⟩, later⟩
      exact ⟨⟨here, fun next accepted => (ih.mp (later next accepted)).1⟩,
        ⟨also, fun next accepted => (ih.mp (later next accepted)).2⟩⟩
    · rintro ⟨⟨here, later⟩, ⟨also, afterwards⟩⟩
      exact ⟨⟨here, also⟩, fun next accepted =>
        ih.mpr ⟨later next accepted, afterwards next accepted⟩⟩

variable (step first second)

/-- A condition that follows from an invariant of the run is met along with the one that
keeps the invariant. -/
theorem meets_of_invariant (invariant : σ → Prop)
    (kept : ∀ state label next, invariant state → first state label →
      step state label = some next → invariant next)
    (follows : ∀ state label, invariant state → first state label → second state label)
    (initial : invariant state) (meets : Meets step first state labels) :
    Meets step second state labels := by
  induction labels generalizing state with
  | nil => trivial
  | cons label rest ih =>
    refine ⟨follows state label initial meets.1, fun next accepted => ?_⟩
    exact ih (kept state label next initial meets.1 accepted) (meets.2 next accepted)

variable {step second}

/-- A condition on the labels alone is met wherever the run starts. -/
theorem meets_labels {condition : ε → Prop} (all : ∀ label ∈ labels, condition label) :
    Meets step (fun _ label => condition label) state labels := by
  induction labels generalizing state with
  | nil => trivial
  | cons label rest ih =>
    refine ⟨all label List.mem_cons_self, ?_⟩
    intro next _
    apply ih
    intro later member
    exact all later (List.mem_cons_of_mem label member)

theorem meets_mono (weaker : ∀ state label, first state label → second state label)
    (meets : Meets step first state labels) : Meets step second state labels :=
  meets_of_invariant step first second (fun _ => True) (fun _ _ _ _ _ _ => trivial)
    (fun state label _ => weaker state label) trivial meets

instance decidableAccepted (ended : Option σ) : Decidable (∃ final, ended = some final) :=
  decidable_of_iff _ Option.isSome_iff_exists

/-- Running decides what a run ends in. -/
instance decidableEnds (ended : Option σ) (property : σ → Prop) [DecidablePred property] :
    Decidable (∃ final, ended = some final ∧ property final) :=
  decidable_of_iff (ended.any fun final => property final) (by cases ended <;> simp)

variable (step second)

/-- Following the run decides a decidable condition. -/
instance decidableMeets (condition : σ → ε → Prop)
    [∀ state label, Decidable (condition state label)] :
    ∀ state labels, Decidable (Meets step condition state labels)
  | _, [] => .isTrue trivial
  | state, label :: rest =>
    match accepted : step state label with
    | none => decidable_of_iff (condition state label)
        ⟨fun here => ⟨here, fun _ taken => nomatch accepted.symm.trans taken⟩, And.left⟩
    | some next =>
      have := decidableMeets condition next rest
      decidable_of_iff (condition state label ∧ Meets step condition next rest)
        ⟨fun ⟨here, later⟩ => ⟨here, fun _ taken =>
          Option.some.inj (accepted.symm.trans taken) ▸ later⟩,
          fun ⟨here, later⟩ => ⟨here, later next accepted⟩⟩

/-- Along a run that keeps an invariant, a condition that the invariant makes
equivalent to another one may be exchanged for it. -/
theorem meets_congr (invariant : σ → Prop)
    (kept : ∀ state label next, invariant state → first state label →
      step state label = some next → invariant next)
    (same : ∀ state label, invariant state → (first state label ↔ second state label))
    (labels : List ε) (state : σ) (initial : invariant state) :
    Meets step first state labels ↔ Meets step second state labels := by
  induction labels generalizing state with
  | nil => exact Iff.rfl
  | cons label rest ih =>
    constructor
    · rintro ⟨now, later⟩
      exact ⟨(same state label initial).mp now, fun next accepted =>
        (ih next (kept state label next initial now accepted)).mp (later next accepted)⟩
    · rintro ⟨now, later⟩
      have here : first state label := (same state label initial).mpr now
      exact ⟨here, fun next accepted =>
        (ih next (kept state label next initial here accepted)).mpr (later next accepted)⟩

/-- The same along the runs that meet a condition of their own. -/
theorem meets_congr_within {allowed : σ → ε → Prop} (first second : σ → ε → Prop)
    (invariant : σ → Prop)
    (kept : ∀ state label next, invariant state → allowed state label → first state label →
      step state label = some next → invariant next)
    (same : ∀ state label, invariant state → allowed state label →
      (first state label ↔ second state label))
    (initial : invariant state) (within : Meets step allowed state labels) :
    Meets step first state labels ↔ Meets step second state labels := by
  have exchanged := meets_congr step
    (fun state label => allowed state label ∧ first state label)
    (fun state label => allowed state label ∧ second state label) invariant
    (fun state label next holds now accepted =>
      kept state label next holds now.1 now.2 accepted)
    (fun state label holds => and_congr_right (same state label holds)) labels state initial
  rw [meets_and, meets_and] at exchanged
  exact ⟨fun meets => (exchanged.mp ⟨within, meets⟩).2,
    fun meets => (exchanged.mpr ⟨within, meets⟩).2⟩

end PgVisor.Transitions
