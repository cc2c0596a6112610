import PgVisor.StateMachine
import PgVisor.Transitions

/-!
# Crashes of the state machine

The committed log is fixed; the replication layer hands its entries to the state machine in
batches, always those behind the last applied log id. A crash inside a batch leaves the old
state file or the new one, a crash while the first state is written leaves no file or the
default one, and recovery reads the position from the file itself. At every moment the data
in memory and on disk is the fold of a beginning of the committed log, so nothing is lost
and nothing is applied twice.
-/

namespace PgVisor.ClusterState

open AtomicFile WriteAheadLog Transitions List

variable {Membership : Type}

/-- Committed entries in the order of their indices. -/
structure CommittedLog (Membership : Type) where
  entries : List (Entry Membership)
  increasing : entries.Pairwise (fun first second => first.logId.index < second.logId.index)

/-- The committed entries behind a log id. -/
def CommittedLog.after (log : CommittedLog Membership) : Option LogId → List (Entry Membership)
  | none => log.entries
  | some logId => log.entries.filter (fun entry => decide (logId.index < entry.logId.index))

/-- The committed entries up to and including a log id. -/
def CommittedLog.upTo (log : CommittedLog Membership) : Option LogId → List (Entry Membership)
  | none => []
  | some logId => log.entries.filter (fun entry => decide (entry.logId.index ≤ logId.index))

/-- The process is down and only the file is left, or it runs. -/
inductive Process (Membership : Type) where
  | down (file : ReplacedFile)
  | up (machine : StateMachine Membership)

def Process.machine : Process Membership → Option (StateMachine Membership)
  | .down _ => none
  | .up machine => some machine

/-- The machine is opened, or a crash interrupts that; a batch of the next committed entries
is applied, or a crash interrupts that. -/
inductive ProcessEvent where
  | opens
  | opensCrash (progress : Progress)
  | applies (count : Nat)
  | appliesCrash (count : Nat) (progress : Progress)

/-- The next entries that the replication layer hands over. -/
def nextBatch (log : CommittedLog Membership) (machine : StateMachine Membership) (count : Nat) :
    List (Entry Membership) :=
  (log.after machine.data.lastApplied).take count

section Runs

variable [Inhabited Membership] (format : DataFormat Membership) (log : CommittedLog Membership)

/-- What is left of an interrupted opening: it writes only when there is no state yet. -/
def openCrashed (file : ReplacedFile) (progress : Progress) : ReplacedFile :=
  match load format file.content with
  | .ok none => file.interrupted (stateImage format .default) progress
  | _ => file

def processStep : Process Membership → ProcessEvent → Option (Process Membership)
  | .down file, .opens =>
    match openMachine format file with
    | .ok machine => some (.up machine)
    | .error _ => none
  | .down file, .opensCrash progress => some (.down (openCrashed format file progress))
  | .up machine, .applies count =>
    some (.up (apply format machine (nextBatch log machine count)).1)
  | .up machine, .appliesCrash count progress =>
    some (.down (machine.file.interrupted
      (stateImage format (apply format machine (nextBatch log machine count)).1.data) progress))
  | _, _ => none

/-- Opening succeeds, and what it finds on disk is the fold of the committed entries up to
its own last applied log id. -/
def Recovers : Process Membership → ProcessEvent → Prop
  | .down file, .opens =>
    ∃ machine, openMachine format file = .ok machine ∧
      load format machine.file.content = .ok (some machine.data) ∧
      machine.data = folded .default (log.upTo machine.data.lastApplied)
  | _, _ => True

/-! ## Positions in the committed log -/

/-- The data of a beginning of the committed log. -/
def position (count : Nat) : StateMachineData Membership :=
  folded .default (log.entries.take count)

/-- The last applied log id determines which entries were applied and which were not. -/
theorem position_splits (count : Nat) :
    log.upTo (position log count).lastApplied = log.entries.take count ∧
      log.after (position log count).lastApplied = log.entries.drop count := by
  have last : (position log count).lastApplied =
      (log.entries.take count).getLast?.map (·.logId) := by
    rw [position, folded_last]
    exact Option.or_none
  rcases eq_nil_or_concat (log.entries.take count) with empty | ⟨before, entry, shape⟩
  · have whole : log.entries.drop count = log.entries := by
      have parts := take_append_drop count log.entries
      rwa [empty, nil_append] at parts
    rw [last, empty, whole]
    exact ⟨rfl, rfl⟩
  · rw [concat_eq_append] at shape
    have parts : log.entries = before ++ [entry] ++ log.entries.drop count := by
      rw [← shape, take_append_drop]
    have increasing := log.increasing
    rw [parts] at increasing
    obtain ⟨earlier, -, later⟩ := pairwise_append.mp increasing
    have lower : ∀ applied ∈ before ++ [entry], applied.logId.index ≤ entry.logId.index := by
      intro applied member
      rcases mem_append.mp member with first | single
      · exact Nat.le_of_lt ((pairwise_append.mp earlier).2.2 applied first entry mem_cons_self)
      · exact Nat.le_of_eq (congrArg (·.logId.index) (mem_singleton.mp single))
    have higher : ∀ waiting ∈ log.entries.drop count, entry.logId.index < waiting.logId.index :=
      fun waiting member => later entry (by simp) waiting member
    rw [last, shape, List.getLast?_concat, Option.map_some]
    constructor
    · rw [CommittedLog.upTo, parts, filter_append, filter_eq_self.mpr,
        filter_eq_nil_iff.mpr, append_nil]
      · intro waiting member
        simpa using higher waiting member
      · intro applied member
        simpa using lower applied member
    · rw [CommittedLog.after]
      nth_rewrite 1 [parts]
      rw [filter_append, filter_eq_nil_iff.mpr, nil_append, filter_eq_self.mpr]
      · intro waiting member
        simpa using higher waiting member
      · intro applied member
        simpa using lower applied member

/-- Applying the next entries moves the position. -/
theorem position_advances (count taken : Nat) :
    folded (position log count) ((log.after (position log count).lastApplied).take taken) =
      position log (count + taken) := by
  rw [(position_splits log count).2, position, ← folded_append, ← take_add]
  rfl

/-! ## One event -/

/-- What is on disk, and in memory if the process runs, is a position of the committed log;
a running process has on disk what it has in memory. -/
def Consistent : Process Membership → Prop
  | .down file => file.content = none ∨
      ∃ count, file.content = some (stateImage format (position log count))
  | .up machine => machine.file.content = some (stateImage format machine.data) ∧
      ∃ count, machine.data = position log count

theorem open_consistent (file : ReplacedFile) (consistent : Consistent format log (.down file)) :
    ∃ machine, openMachine format file = .ok machine ∧ Consistent format log (.up machine) := by
  rcases consistent with missing | ⟨count, stored⟩
  · refine ⟨persistToDisk format ⟨.default, file⟩, ?_, rfl, 0, rfl⟩
    rw [openMachine, missing]
    rfl
  · refine ⟨⟨position log count, file⟩, ?_, stored, count, rfl⟩
    rw [openMachine, stored, load_image]

/-- An interrupted replacement leaves the old position or the new one. -/
theorem interrupted_consistent {file : ReplacedFile} (count : Nat) (progress : Progress)
    (consistent : Consistent format log (.down file)) :
    Consistent format log (.down (file.interrupted (stateImage format (position log count))
      progress)) := by
  rcases file.interrupted_content (stateImage format (position log count)) progress with old | new
  · rw [Consistent, old]
    exact consistent
  · exact .inr ⟨count, new⟩

theorem step_consistent {process next : Process Membership} {event : ProcessEvent}
    (consistent : Consistent format log process)
    (accepted : processStep format log process event = some next) : Consistent format log next := by
  cases process with
  | down file =>
    cases event with
    | opens =>
      obtain ⟨machine, opened, running⟩ := open_consistent format log file consistent
      rw [processStep, opened, Option.some.injEq] at accepted
      exact accepted ▸ running
    | opensCrash progress =>
      cases accepted
      rw [openCrashed]
      split
      · exact interrupted_consistent format log 0 progress consistent
      · exact consistent
    | applies count | appliesCrash count progress => cases accepted
  | up machine =>
    obtain ⟨stored, count, here⟩ := consistent
    have advanced (taken : Nat) : (apply format machine (nextBatch log machine taken)).1.data =
        position log (count + taken) := by
      rw [apply_data, nextBatch, here, position_advances]
    cases event with
    | opens | opensCrash progress => cases accepted
    | applies taken =>
      cases accepted
      exact ⟨rfl, count + taken, advanced taken⟩
    | appliesCrash taken progress =>
      cases accepted
      rw [advanced]
      exact interrupted_consistent format log (count + taken) progress
        (.inr ⟨count, here ▸ stored⟩)

theorem recovers_of_consistent (process : Process Membership) (event : ProcessEvent)
    (consistent : Consistent format log process) : Recovers format log process event := by
  cases process with
  | up machine => trivial
  | down file =>
    cases event with
    | opens =>
      obtain ⟨machine, opened, stored, count, here⟩ := open_consistent format log file consistent
      refine ⟨machine, opened, by rw [stored, load_image], ?_⟩
      rw [here, (position_splits log count).1]
      rfl
    | opensCrash progress | applies count | appliesCrash count progress => trivial

/-! ## Runs -/

/-- In every run of openings, batches and crashes, every opening succeeds with the fold of
the entries up to its own last applied log id; and whenever nothing is left to apply, the
data is that of applying the committed entries one by one without a crash. -/
theorem state_survives (events : List ProcessEvent) :
    Meets (processStep format log) (Recovers format log) (.down .missing) events ∧
    ∀ machine start, run (processStep format log) (.down .missing) events = some (.up machine) →
      openMachine format .missing = .ok start → log.after machine.data.lastApplied = [] →
      machine.data =
        (log.entries.foldl (fun machine entry => (apply format machine [entry]).1) start).data := by
  have initial : Consistent format log (.down .missing) := .inl rfl
  have kept : ∀ process event next, Consistent format log process → True →
      processStep format log process event = some next → Consistent format log next :=
    fun process event next consistent _ => step_consistent format log consistent
  have always : Meets (processStep format log) (fun _ _ => True) (.down .missing) events :=
    meets_labels (fun _ _ => trivial)
  constructor
  · exact meets_of_invariant _ (fun _ _ => True) _ _ kept
      (fun process event consistent _ => recovers_of_consistent format log process event consistent)
      initial always
  · intro machine start reached opened finished
    obtain ⟨-, count, here⟩ := run_invariant _ (fun _ _ => True) _ kept initial always
      reached
    cases opened
    have oneByOne : log.entries.foldl (fun machine entry => (apply format machine [entry]).1)
        (persistToDisk format ⟨.default, .missing⟩) = (log.entries.map (fun entry => [entry])).foldl
          (fun machine batch => (apply format machine batch).1)
          (persistToDisk format ⟨.default, .missing⟩) := by
      rw [foldl_map]
    have whole : log.entries.take count = log.entries := by
      rw [here, (position_splits log count).2] at finished
      have parts := take_append_drop count log.entries
      rwa [finished, append_nil] at parts
    have singles : (log.entries.map (fun entry => [entry])).flatten = log.entries := by
      rw [← flatMap_def, flatMap_singleton']
    rw [oneByOne, apply_batches_data, singles, here, position, whole]
    rfl

end Runs

/-- A membership, a key and a blank entry. -/
def threeEntries : CommittedLog Nat where
  entries :=
    [⟨⟨1, 1, 1⟩, .membership 7⟩, ⟨⟨1, 1, 2⟩, .normal (.setState "primary" "a")⟩,
      ⟨⟨2, 2, 3⟩, .blank⟩]
  increasing := by decide

/-- The first opening, a batch torn in its temporary file, a batch whose rename was the last
thing that happened, and the rest. -/
def tornBatches : List ProcessEvent :=
  [.opensCrash (.written 5), .opens, .applies 1, .appliesCrash 2 (.written 9), .opens,
    .appliesCrash 1 .finished, .opens, .applies 2]

/-- The torn run ends with the data of the three entries applied one by one. -/
theorem torn_batches_converge :
    Meets (processStep tallyDataFormat threeEntries) (Recovers tallyDataFormat threeEntries)
      (.down .missing) tornBatches ∧ ∃ machine start,
      run (processStep tallyDataFormat threeEntries) (.down .missing) tornBatches =
        some (.up machine) ∧ openMachine tallyDataFormat .missing = .ok start ∧
      machine.data.lastApplied = some ⟨2, 2, 3⟩ ∧ machine.data = (threeEntries.entries.foldl
        (fun machine entry => (apply tallyDataFormat machine [entry]).1) start).data := by
  obtain ⟨recovers, converges⟩ := state_survives tallyDataFormat threeEntries tornBatches
  have ends : ((run (processStep tallyDataFormat threeEntries) (.down .missing) tornBatches).bind
      Process.machine).map (fun machine => machine.data.lastApplied) = some (some ⟨2, 2, 3⟩) := by
    decide +kernel
  obtain ⟨machine, running, applied⟩ := Option.map_eq_some_iff.mp ends
  obtain ⟨process, reached, up⟩ := Option.bind_eq_some_iff.mp running
  cases process with
  | down file => cases up
  | up found =>
    cases up
    refine ⟨recovers, machine, _, reached, rfl, applied, converges machine _ reached rfl ?_⟩
    rw [applied]
    rfl

end PgVisor.ClusterState
