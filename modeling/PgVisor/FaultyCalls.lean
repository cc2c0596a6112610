import Mathlib.Tactic.Common

/-!
# Programs whose calls may fail

A program changes a state through calls to a system that answers as a script of replies
says. A failed call may have had a part of its effect; it ends the program with an error,
and nothing that was done before is taken back. Calls beyond the script succeed.

A specification says what holds of the value and the state when the program returns, and
what holds of the error and the state when it stops, whatever the script is. Its rules
follow the program: one for a call, one for a sequence, one for a change of memory, and
one for a program that works on a part of the state.
-/

namespace PgVisor.FaultyCalls

variable {ε σ τ α β : Type}

/-- The answer to one call. The number says how much of a failed one was done. -/
inductive Reply where
  | done
  | failed (count : Nat)
deriving DecidableEq

/-- The value or error, the state reached, and the replies left. -/
def Program (ε σ α : Type) := σ → List Reply → Except ε α × σ × List Reply

namespace Program

/-- Go on after a value; an error ends the program. -/
def andThen (first : Program ε σ α) (next : α → Program ε σ β) : Program ε σ β :=
  fun state script =>
    match first state script with
    | (.ok value, later, rest) => next value later rest
    | (.error error, later, rest) => (.error error, later, rest)

instance : Monad (Program ε σ) where
  pure value := fun state script => (.ok value, state, script)
  bind := andThen

/-- A call with its effect and what a failed one has done of it. -/
def call (error : ε) (effect : σ → σ) (part : Nat → σ → σ) : Program ε σ Unit :=
  fun state script =>
    match script with
    | [] => (.ok (), effect state, [])
    | .done :: rest => (.ok (), effect state, rest)
    | .failed count :: rest => (.error error, part count state, rest)

/-- Stop with an error of the program's own. -/
def fail (error : ε) : Program ε σ α := fun state script => (.error error, state, script)

/-- Read the memory of the program. -/
def read (view : σ → α) : Program ε σ α := fun state script => (.ok (view state), state, script)

/-- Change the memory of the program. -/
def update (change : σ → σ) : Program ε σ Unit :=
  fun state script => (.ok (), change state, script)

/-- Work on a part of the state. -/
def within (view : τ → σ) (put : σ → τ → τ) (program : Program ε σ α) : Program ε τ α :=
  fun state script =>
    let (result, part, rest) := program (view state) script
    (result, put part state, rest)

/-- Report errors as those of another kind. -/
def mapErr {δ : Type} (change : ε → δ) (program : Program ε σ α) : Program δ σ α :=
  fun state script =>
    let (result, later, rest) := program state script
    (result.mapError change, later, rest)

end Program

/-- However the calls are answered, the program returns or stops as specified. -/
def Ends (program : Program ε σ α) (state : σ) (returned : α → σ → Prop)
    (stopped : ε → σ → Prop) : Prop :=
  ∀ script, match program state script with
    | (.ok value, final, _) => returned value final
    | (.error error, final, _) => stopped error final

section Rules

variable {script rest : List Reply} {state : σ} {returned : α → σ → Prop} {stopped : ε → σ → Prop}
  {program : Program ε σ α} (ends : Ends program state returned stopped)

include ends

/-- What holds of a program that returned. -/
theorem Ends.returns {value final} (ran : program state script = (.ok value, final, rest)) :
    returned value final := by
  have outcome := ends script
  rwa [ran] at outcome

/-- What holds of one that failed. -/
theorem Ends.stops {error final} (ran : program state script = (.error error, final, rest)) :
    stopped error final := by
  have outcome := ends script
  rwa [ran] at outcome

/-- The rule of consequence. -/
theorem Ends.mono {likewise failing}
    (value : ∀ value final, returned value final → likewise value final)
    (error : ∀ error final, stopped error final → failing error final) :
    Ends program state likewise failing := by
  intro script
  have outcome := ends script
  split
  next ran =>
    rw [ran] at outcome
    exact value _ _ outcome
  next ran =>
    rw [ran] at outcome
    exact error _ _ outcome

omit ends

theorem ends_pure {value} (holds : returned value state) :
    Ends (pure value : Program ε σ α) state returned stopped :=
  fun _ => holds

theorem ends_fail {error} (holds : stopped error state) :
    Ends (Program.fail error : Program ε σ α) state returned stopped :=
  fun _ => holds

theorem ends_read {view} (holds : returned (view state) state) :
    Ends (Program.read view : Program ε σ α) state returned stopped :=
  fun _ => holds

theorem ends_update {change returned} (holds : returned () (change state)) :
    Ends (Program.update change : Program ε σ Unit) state returned stopped :=
  fun _ => holds

/-- A call ends whole, or fails after any part of its effect. -/
theorem ends_call {error effect part returned}
    (holds : returned () (effect state)) (fails : ∀ count, stopped error (part count state)) :
    Ends (Program.call error effect part) state returned stopped := by
  intro script
  cases script with
  | nil => exact holds
  | cons reply rest =>
    cases reply with
    | done => exact holds
    | failed count => exact fails count

/-- A sequence stops where its first part does, or ends as the rest does from where the
first part returns. -/
theorem ends_bind {first : Program ε σ β} {next : β → Program ε σ α}
    (ends : Ends first state (fun value later => Ends (next value) later returned stopped)
      stopped) :
    Ends (first >>= next) state returned stopped := by
  intro script
  have outcome := ends script
  change match Program.andThen first next state script with
    | (.ok value, final, _) => returned value final
    | (.error error, final, _) => stopped error final
  rw [Program.andThen]
  cases ran : first state script with
  | mk result later =>
    obtain ⟨later, rest⟩ := later
    rw [ran] at outcome
    cases result with
    | ok value => exact outcome rest
    | error error => exact outcome

/-- A program on a part of the state. -/
theorem ends_within {view : τ → σ} {put : σ → τ → τ} {whole : τ} {returned : α → τ → Prop}
    {stopped : ε → τ → Prop}
    (ends : Ends program (view whole) (fun value part => returned value (put part whole))
      (fun error part => stopped error (put part whole))) :
    Ends (program.within view put) whole returned stopped := by
  intro script
  have outcome := ends script
  rw [Program.within]
  cases ran : program (view whole) script with
  | mk result later =>
    rw [ran] at outcome
    cases result with
    | ok value | error error => exact outcome

/-- A program under another error type. -/
theorem ends_mapErr {δ : Type} {change : ε → δ} {stopped : δ → σ → Prop}
    (ends : Ends program state returned fun error final => stopped (change error) final) :
    Ends (program.mapErr change) state returned stopped := by
  intro script
  have outcome := ends script
  rw [Program.mapErr]
  cases ran : program state script with
  | mk result later =>
    rw [ran] at outcome
    cases result with
    | ok value | error error => exact outcome

end Rules

/-- When the calls of the first part succeed, the sequence goes on from its value. -/
theorem bind_answered {first : Program ε σ α} {next : α → Program ε σ β} {state later : σ}
    {value : α} (ran : first state [] = (.ok value, later, [])) :
    (first >>= next) state [] = next value later [] := by
  change Program.andThen first next state [] = _
  rw [Program.andThen, ran]

end PgVisor.FaultyCalls
