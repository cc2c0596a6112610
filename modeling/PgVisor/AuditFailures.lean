import Mathlib.Data.Set.Finite.Lattice
import Mathlib.Order.Interval.Finset.Nat
import PgVisor.AuditLoading

/-!
# Listings and reads that fail while the audit log is loaded

A failed listing ends the load as if storage were empty, and a failed read is skipped. The
next id comes from the events that were read, the batch id from the names that were listed,
and the batch from the last read that had the largest batch id when it was made.

An event of an earlier run is safe from then on if its id is below the next one and it is in
the batch, or in an object that no batch from the current id on replaces. Appends never
take such an event away, whatever becomes of their writes. Every other event is lost to
enough of them: its id is used again, or the batches come to its object and replace it.

Which failures are harmless is said of the stored objects and of the names whose reads failed:
no larger id may have gone unread, and the file with the largest batch id may only have if its
events are in the batch that was taken up, or that batch was full.
-/

namespace PgVisor.Audit

open Transitions
open List hiding contains

variable {storage : Storage} {log : AuditLog} {old : AuditEvent}
  {batchId bound : Nat}

/-- The events of earlier runs are stored, and their ids are theirs alone. -/
def Kept (left : Storage) (world : World) : Prop :=
  ∀ old, Stored left old → Stored world.storage old ∧ ∀ event ∈ world.issued, event.id ≠ old.id

/-- The event is in the batch, or in an object that no later batch replaces. -/
def Sheltered (storage : Storage) (log : AuditLog) (event : AuditEvent) : Prop :=
  event ∈ log.currentBatch ∨
    ∃ name object, storage.lookup name = some object ∧ event ∈ object.events ∧
      ∀ id, log.currentBatchId ≤ id → name ≠ batchFile id

/-- The log continues what an earlier run has left. -/
structure Continues (left : Storage) (log : AuditLog) : Prop where
  numbered : ∀ old, Stored left old → old.id < log.nextId
  sheltered : ∀ old, Stored left old → Sheltered left log old

section Loading

variable {left : Storage} {world : World} {capacity : Nat} {answers : List Bool}

/-- A load whose listing and reads are all answered continues what was left. -/
theorem answered_continues {size : List AuditEvent → Nat} (leftBehind : LeftBehind left)
    (positive : 0 < capacity) (answered : ∀ answer ∈ answers, answer = true)
    (reached : run (step size) (World.start left capacity) (answers.map .load) = some world)
    (finished : world.loader.isDone = true) : Continues left world.log := by
  have quiet := loaded_quiet reached
  obtain ⟨complete, log⟩ := loaded_log reached finished
  rw [eq_replicate_of_mem answered] at complete log
  have gathered : Gathered left capacity _ := gathered_handedOn leftBehind complete
  have covered : Covered left world :=
    gathered.covered quiet.storage quiet.writer (by rw [log]; rfl)
  constructor
  · intro old stored
    rw [log]
    exact gathered.lt_nextId leftBehind positive stored
  rintro old ⟨name, object, found, inside⟩
  rw [← quiet.storage] at found ⊢
  by_cases replaced : ∃ id, world.log.currentBatchId ≤ id ∧ name = batchFile id
  · obtain ⟨id, later, rfl⟩ := replaced
    rcases Nat.eq_or_lt_of_le later with rfl | beyond
    · exact .inl (covered.current object found old inside)
    · rw [covered.beyond id beyond] at found
      cases found
  · right
    exact ⟨name, object, found, inside, fun id later same => replaced ⟨id, later, same⟩⟩

/-! ### Harmless failures -/

/-- No later batch replaces the object: it is no batch file from the first id on, a file with a
larger id is listed, or it has the largest id and the batch that was read last is full. -/
def Spared (left : Storage) (names : List (List Char × Bool)) (name : List Char) : Prop :=
  ∀ id, 0 < id → name = batchFile id → id < topId names ∨
    (id = topId names ∧ maxEventsPerBatch ≤ (latestRead left names.reverse).length)

/-- The event is in the batch that is taken up: the one that was read last, if it is not full. -/
def TakenUp (left : Storage) (names : List (List Char × Bool)) (event : AuditEvent) : Prop :=
  0 < topId names ∧ (latestRead left names.reverse).length < maxEventsPerBatch ∧
    event ∈ latestRead left names.reverse

/-- The failures among these answers are harmless: no stored event has a larger id than all that
were read, and each is in the batch that is taken up, or in an object that stays as it is. -/
structure Harmless (left : Storage) (capacity : Nat) (answers : List Bool) : Prop where
  numbered : ∀ old, Stored left old → old.id = 0 ∨
    (0 < capacity ∧ ∃ event ∈ readEvents left (readings left answers), old.id ≤ event.id)
  sheltered : ∀ old, Stored left old → TakenUp left (readings left answers) old ∨
    ∃ name, old ∈ contentOf left name ∧ Spared left (readings left answers) name

/-- The next id after a load is above an id exactly if the id is zero or not above all that were
read. -/
theorem lt_nextId_iff (left : Storage) (capacity : Nat) (answers : List Bool) (id : Nat) :
    id < (handedOn left capacity answers).nextId ↔ id = 0 ∨
      (0 < capacity ∧ ∃ event ∈ readEvents left (readings left answers), id ≤ event.id) := by
  obtain ⟨loaded, numbers, -, -⟩ := tally_finds left (readings left answers)
  have ring : (handedOn left capacity answers).loaded =
      restored capacity (readEvents left (readings left answers)) := by rw [handedOn, loaded]
  have largest : (handedOn left capacity answers).maxId = _ := numbers
  unfold Found.nextId
  rw [ring, largest]
  split
  next empty =>
    rw [Nat.lt_one_iff, iff_self_or]
    rintro ⟨positive, event, member, -⟩
    exact absurd (List.isEmpty_iff.mp empty) (restored_ne_nil positive (ne_nil_of_mem member))
  next some_loaded =>
    have positive : 0 < capacity := by
      by_contra none_kept
      obtain rfl : capacity = 0 := by omega
      simp [restored] at some_loaded
    rw [Nat.lt_succ_iff, and_iff_right positive]
    constructor
    · intro bounded
      rcases foldl_max_attained AuditEvent.id (readEvents left (readings left answers)) 0 with
        zero | ⟨event, member, same⟩
      · exact .inl (by omega)
      · exact .inr ⟨event, member, by omega⟩
    · rintro (rfl | ⟨event, member, bounded⟩)
      · exact Nat.zero_le _
      · exact bounded.trans ((le_foldl_max AuditEvent.id _ 0).2 event member)

/-- An event is sheltered after a load exactly if it is taken up or in a spared object. -/
theorem sheltered_iff (left : Storage) (capacity : Nat) (answers : List Bool) (old : AuditEvent) :
    Sheltered left ((handedOn left capacity answers).resumed capacity) old ↔
      TakenUp left (readings left answers) old ∨
        ∃ name, old ∈ contentOf left name ∧ Spared left (readings left answers) name := by
  obtain ⟨-, -, top, latest⟩ := tally_finds left (readings left answers)
  have batch : (handedOn left capacity answers).batch =
      if 0 < topId (readings left answers) then
        if (latestRead left (readings left answers).reverse).length < maxEventsPerBatch then
          (latestRead left (readings left answers).reverse, topId (readings left answers))
        else ([], topId (readings left answers) + 1)
      else ([], 1) := by
    rw [← top, ← latest]
    rfl
  have inside (name : List Char) : old ∈ contentOf left name ↔
      ∃ object, left.lookup name = some object ∧ old ∈ object.events := by
    cases found : left.lookup name <;> simp [contentOf, found]
  -- The batch is rewritten under its own id, under the next one if it is full, or under the first.
  have spared (name : List Char) : Spared left (readings left answers) name ↔
      ∀ id, (handedOn left capacity answers).batch.2 ≤ id → name ≠ batchFile id := by
    refine forall_congr' fun id => ?_
    rw [batch]
    by_cases same : name = batchFile id
    · split_ifs <;> simp only [same, forall_const, ne_eq, not_true_eq_false, imp_false] <;> omega
    · simp [same]
  have taken : old ∈ (handedOn left capacity answers).batch.1 ↔
      TakenUp left (readings left answers) old := by
    rw [batch, TakenUp]
    split_ifs <;> simp [*]
  simp only [Sheltered, Found.resumed, taken, inside, spared]
  tauto

/-- A load continues what was left exactly if its failures were harmless. -/
theorem continues_iff {size : List AuditEvent → Nat}
    (reached : run (step size) (World.start left capacity) (answers.map .load) = some world)
    (finished : world.loader.isDone = true) :
    Continues left world.log ↔ Harmless left capacity answers := by
  rw [(loaded_log reached finished).2]
  constructor
  · intro continues
    constructor
    · intro old stored
      exact (lt_nextId_iff left capacity answers old.id).mp (continues.numbered old stored)
    · intro old stored
      exact (sheltered_iff left capacity answers old).mp (continues.sheltered old stored)
  · intro harmless
    constructor
    · intro old stored
      exact (lt_nextId_iff left capacity answers old.id).mpr (harmless.numbered old stored)
    · intro old stored
      exact (sheltered_iff left capacity answers old).mpr (harmless.sheltered old stored)

end Loading

section Appending

variable {left : Storage} {world next : World}

/-- The invariant of appends over a log that continues what was left. -/
structure Secure (left : Storage) (world : World) : Prop where
  finished : world.loader.isDone = true
  writer : ∀ id ∈ world.writer, id = world.log.currentBatchId
  numbered : ∀ old, Stored left old → old.id < world.log.nextId
  apart : ∀ event ∈ world.issued, ∀ old, Stored left old → event.id ≠ old.id
  stored : ∀ old, Stored left old → Stored world.storage old
  sheltered : ∀ old, Stored left old → Sheltered world.storage world.log old

theorem Secure.kept (secure : Secure left world) : Kept left world := by
  intro old stored
  exact ⟨secure.stored old stored, fun event issued => secure.apart event issued old stored⟩

theorem Secure.issue (secure : Secure left world) (draft : Draft) :
    Secure left (world.issue draft) :=
  { secure with
    numbered := fun old stored => (secure.numbered old stored).trans (Nat.lt_succ_self _)
    apart := by
      intro event member old stored
      rcases mem_append.mp member with before | new
      · exact secure.apart event before old stored
      · rw [mem_singleton.mp new]
        exact (Nat.ne_of_lt (secure.numbered old stored)).symm }

theorem Secure.begin (secure : Secure left world) (event : AuditEvent) :
    Secure left (world.begin event) :=
  { secure with
    writer := fun id writing => (Option.some.inj writing).symm
    sheltered := by
      intro old stored
      exact (secure.sheltered old stored).imp_left (mem_append_left _) }

/-- Writing the batch keeps what is sheltered: it is in the batch, or not in the object that
is replaced. -/
theorem Sheltered.write (sheltered : Sheltered storage log old) :
    Stored (storage.insert (batchFile log.currentBatchId) (.batch log.currentBatch)) old ∧
      Sheltered (storage.insert (batchFile log.currentBatchId) (.batch log.currentBatch))
        log old := by
  rcases sheltered with batched | ⟨name, object, found, inside, apart⟩
  · constructor
    · exact ⟨_, _, AList.lookup_insert storage, batched⟩
    · exact .inl batched
  · have unchanged : (storage.insert (batchFile log.currentBatchId)
        (.batch log.currentBatch)).lookup name = some object :=
      (AList.lookup_insert_ne (apart log.currentBatchId le_rfl)).trans found
    constructor
    · exact ⟨name, object, unchanged, inside⟩
    · exact .inr ⟨name, object, unchanged, inside, apart⟩

/-- The next batch leaves the one just written alone. -/
theorem Sheltered.rotate (sheltered : Sheltered storage log old) :
    Sheltered (storage.insert (batchFile log.currentBatchId) (.batch log.currentBatch))
      { log with currentBatch := [], currentBatchId := log.currentBatchId + 1 } old := by
  right
  rcases sheltered.write.2 with batched | ⟨name, object, found, inside, apart⟩
  · refine ⟨_, _, AList.lookup_insert storage, batched, ?_⟩
    intro id later same
    have equal := batchFile_injective same
    simp only at later
    omega
  · exact ⟨name, object, found, inside, fun id later => apart id (Nat.le_of_succ_le later)⟩

variable (size : List AuditEvent → Nat)

theorem Secure.persist (secure : Secure left world)
    (writing : world.writer = some batchId) (reply : WriteReply) :
    Secure left (world.persist size batchId reply) := by
  cases secure.writer batchId writing
  have idle {current : Nat} : ∀ id ∈ (none : Option Nat), id = current := by simp
  have written := fun old stored => (secure.sheltered old stored).write
  cases reply with
  | failed visible =>
    cases visible with
    | false => exact { secure with writer := idle }
    | true =>
      exact { secure with
        writer := idle
        stored := fun old stored => (written old stored).1
        sheltered := fun old stored => (written old stored).2 }
  | written =>
    simp only [World.persist]
    split
    · exact { secure with
        writer := idle
        stored := fun old stored => (written old stored).1
        sheltered := fun old stored => (secure.sheltered old stored).rotate }
    · exact { secure with
        writer := idle
        stored := fun old stored => (written old stored).1
        sheltered := fun old stored => (written old stored).2 }

theorem Secure.after (secure : Secure left world) {label}
    (moved : step size world label = some next) : Secure left next := by
  cases label with
  | issue draft =>
    cases moved
    exact secure.issue draft
  | push event =>
    obtain ⟨-, rfl⟩ := guard_holds moved
    exact { secure with }
  | start event =>
    obtain ⟨-, rfl⟩ := guard_holds moved
    exact secure.begin event
  | persist reply =>
    obtain ⟨batchId, writing, rfl⟩ := Option.map_eq_some_iff.mp moved
    exact secure.persist size writing reply
  | load answered =>
    have finished := secure.finished
    cases loader : world.loader with
    | done count => simp [step, World.load, loader] at moved
    | _ => simp [loader, Loader.isDone] at finished

theorem Secure.afterRun (secure : Secure left world) (labels : List Label)
    (reached : run (step size) world labels = some next) : Secure left next :=
  run_invariant (step size) (fun _ _ => True) (Secure left)
    (fun _ _ _ before _ moved => before.after size moved) secure
    (meets_labels fun _ _ => trivial) reached

end Appending

section Losing

variable {left : Storage} {world : World} {event : AuditEvent}

/-- Between two appends. -/
structure Idle (world : World) : Prop where
  finished : world.loader.isDone = true
  arriving : world.arriving = []
  tasks : world.tasks = []
  writer : world.writer = none

/-- The event is in no object but those that the batches from the current id to the bound
are going to replace, and comes into no batch any more. -/
structure Fading (bound : Nat) (event : AuditEvent) (world : World) : Prop where
  idle : Idle world
  numbered : event.id < world.log.nextId
  unbatched : event ∉ world.log.currentBatch
  replaced : ∀ name object, world.storage.lookup name = some object → event ∈ object.events →
    ∃ id, world.log.currentBatchId ≤ id ∧ id < bound ∧ name = batchFile id

/-- The event of the next append. -/
def World.upcoming (world : World) (draft : Draft) : AuditEvent :=
  { draft with id := world.log.nextId }

/-- The log after an append whose write succeeds, before the rotation. -/
def World.appended (world : World) (draft : Draft) : World :=
  ((world.issue draft).push (world.upcoming draft)).begin (world.upcoming draft)

theorem holdsRing_of_done {loader : Loader} (finished : loader.isDone = true) :
    loader.holdsRing = false := by
  cases loader with
  | numbering found => simp [Loader.isDone] at finished
  | _ => rfl

variable (size : List AuditEvent → Nat)

theorem push_runs (unlocked : world.loader.holdsRing = false) (draft : Draft) :
    run (step size) world [.issue draft, .push (world.upcoming draft)] =
      some ((world.issue draft).push (world.upcoming draft)) := by
  have pushed : step size (world.issue draft) (.push (world.upcoming draft)) =
      some ((world.issue draft).push (world.upcoming draft)) := by
    apply if_pos
    exact ⟨mem_append_right _ mem_cons_self, unlocked⟩
  rw [run_cons rfl, run_cons pushed]
  rfl

theorem append_runs (idle : Idle world) (draft : Draft) :
    run (step size) world (appendOf (world.upcoming draft)) =
      some ((world.appended draft).persist size world.log.currentBatchId .written) := by
  have pushed := push_runs size (holdsRing_of_done idle.finished) draft
  have begun : step size ((world.issue draft).push (world.upcoming draft))
      (.start (world.upcoming draft)) = some (world.appended draft) := by
    apply if_pos
    exact ⟨mem_append_right _ mem_cons_self, idle.writer⟩
  have split : appendOf (world.upcoming draft) = [.issue draft, .push (world.upcoming draft)] ++
        [.start (world.upcoming draft), .persist .written] := rfl
  rw [split, run_append pushed, run_cons begun]
  rfl

/-- How many appends a batch takes at most, and the batches up to the bound. -/
def remaining (bound batchId length : Nat) : Nat :=
  (bound - batchId) * (maxEventsPerBatch + 1) + (maxEventsPerBatch - length)

theorem remaining_rotated (below : batchId < bound) (length : Nat) :
    remaining bound (batchId + 1) 0 < remaining bound batchId length := by
  have closer : bound - batchId = bound - (batchId + 1) + 1 := by omega
  simp only [remaining, closer, Nat.add_mul]
  omega

theorem remaining_longer (bound batchId : Nat) {length : Nat}
    (short : length + 1 < maxEventsPerBatch) :
    remaining bound batchId (length + 1) < remaining bound batchId length := by
  simp only [remaining]
  omega

/-- The measure of a log. -/
def World.remaining (world : World) (bound : Nat) : Nat :=
  Audit.remaining bound world.log.currentBatchId world.log.currentBatch.length

/-- An append takes the event from the object it replaces, and comes closer to the bound. -/
theorem Fading.append (fading : Fading bound event world)
    (below : world.log.currentBatchId < bound) (draft : Draft) :
    ∃ next, run (step size) world (appendOf (world.upcoming draft)) = some next ∧
      Fading bound event next ∧ next.remaining bound < world.remaining bound := by
  have arriving : (world.appended draft).arriving = [] := by
    simp [World.appended, World.begin, World.push, World.issue, World.upcoming,
      fading.idle.arriving]
  have tasks : (world.appended draft).tasks = [] := by
    simp [World.appended, World.begin, World.push, World.issue, fading.idle.tasks]
  have batch : (world.appended draft).log.currentBatch =
      world.log.currentBatch ++ [world.upcoming draft] := rfl
  have numbered : event.id < world.log.nextId + 1 := Nat.lt_succ_of_lt fading.numbered
  have unbatched : event ∉ world.log.currentBatch ++ [world.upcoming draft] := by
    rw [mem_append, mem_singleton]
    rintro (before | rfl)
    · exact fading.unbatched before
    · exact absurd fading.numbered (lt_irrefl _)
  have replaced : ∀ name object, (world.storage.insert (batchFile world.log.currentBatchId)
      (.batch (world.log.currentBatch ++ [world.upcoming draft]))).lookup name = some object →
      event ∈ object.events →
      ∃ id, world.log.currentBatchId + 1 ≤ id ∧ id < bound ∧ name = batchFile id := by
    intro name object found inside
    by_cases same : name = batchFile world.log.currentBatchId
    · rw [same, AList.lookup_insert] at found
      cases found
      exact absurd inside unbatched
    · rw [AList.lookup_insert_ne same] at found
      obtain ⟨id, from_current, bounded, rfl⟩ := fading.replaced name object found inside
      have other : id ≠ world.log.currentBatchId := fun equal => same (congrArg batchFile equal)
      exact ⟨id, by omega, bounded, rfl⟩
  refine ⟨_, append_runs size fading.idle draft, ?_⟩
  simp only [World.persist]
  by_cases full : maxEventsPerBatch ≤ (world.appended draft).log.currentBatch.length ∨
      maxBatchBytes ≤ size (world.appended draft).log.currentBatch
  · rw [if_pos full]
    constructor
    · exact ⟨⟨fading.idle.finished, arriving, tasks, rfl⟩, numbered, not_mem_nil, replaced⟩
    · exact remaining_rotated below _
  · rw [if_neg full]
    constructor
    · refine ⟨⟨fading.idle.finished, arriving, tasks, rfl⟩, numbered, unbatched, ?_⟩
      intro name object found inside
      obtain ⟨id, later, bounded, same⟩ := replaced name object found inside
      exact ⟨id, Nat.le_of_succ_le later, bounded, same⟩
    · rw [batch, length_append, length_singleton] at full
      rw [World.remaining, batch, length_append, length_singleton]
      exact remaining_longer bound world.log.currentBatchId (by omega)

/-- Enough appends take the event from storage. -/
theorem Fading.lost (draft : Draft) (fading : Fading bound event world) :
    ∃ labels final, run (step size) world labels = some final ∧ ¬ Stored final.storage event := by
  induction measure : world.remaining bound using Nat.strong_induction_on
    generalizing world with
  | _ left_over ih =>
    by_cases below : world.log.currentBatchId < bound
    · obtain ⟨next, reached, further, closer⟩ := fading.append size below draft
      obtain ⟨labels, final, later, lost⟩ := ih _ (measure ▸ closer) further rfl
      refine ⟨appendOf (world.upcoming draft) ++ labels, final, ?_, lost⟩
      rw [run_append reached]
      exact later
    · refine ⟨[], world, rfl, ?_⟩
      rintro ⟨name, object, found, inside⟩
      obtain ⟨id, from_current, bounded, -⟩ := fading.replaced name object found inside
      omega

/-- Finitely many batch files are stored. -/
theorem batch_ids_bounded (storage : Storage) :
    ∃ bound, ∀ id, storage.lookup (batchFile id) ≠ none → id < bound := by
  have finite := (finite_toSet storage.keys).preimage batchFile_injective.injOn
  obtain ⟨bound, largest⟩ := finite.bddAbove
  refine ⟨bound + 1, ?_⟩
  intro id present
  apply Nat.lt_succ_of_le
  apply largest
  rw [← Option.isSome_iff_ne_none, AList.lookup_isSome] at present
  exact AList.mem_keys.mp present

/-- Enough appends come to any id from the next one on. -/
theorem issue_reaches (world : World) (draft : Draft) (count : Nat) :
    ∃ labels final, run (step size) world labels = some final ∧
      ∃ event ∈ final.issued, event.id = world.log.nextId + count := by
  induction count generalizing world with
  | zero =>
    refine ⟨[.issue draft], world.issue draft, rfl, world.upcoming draft, ?_, rfl⟩
    exact mem_append_right _ mem_cons_self
  | succ count ih =>
    obtain ⟨labels, final, reached, event, issued, same⟩ := ih (world.issue draft)
    refine ⟨.issue draft :: labels, final, reached, event, issued, ?_⟩
    rw [same]
    change world.log.nextId + 1 + count = _
    omega

theorem exists_fading (idle : Idle world) (numbered : event.id < world.log.nextId)
    (exposed : ¬ Sheltered world.storage world.log event) : ∃ bound, Fading bound event world := by
  obtain ⟨bound, above⟩ := batch_ids_bounded world.storage
  refine ⟨bound, idle, numbered, fun batched => exposed (.inl batched), ?_⟩
  intro name object found inside
  by_contra unreplaced
  apply exposed
  right
  refine ⟨name, object, found, inside, ?_⟩
  rintro id later rfl
  exact unreplaced ⟨id, later, above id (by simp [found]), rfl⟩

end Losing

/-- After a load with any failures, all later runs keep the events of earlier runs and their
ids exactly if the failures were harmless, as they are when there are none. -/
theorem earlier_events_kept_iff (size : List AuditEvent → Nat) (left : Storage) (capacity : Nat)
    (answers : List Bool) (world : World)
    (reached : run (step size) (World.start left capacity) (answers.map .load) = some world)
    (finished : world.loader.isDone = true) :
    ((∀ labels final, run (step size) world labels = some final → Kept left final) ↔
      Harmless left capacity answers) ∧
    (LeftBehind left → 0 < capacity → (∀ answer ∈ answers, answer = true) →
      Harmless left capacity answers) := by
  rw [← continues_iff reached finished]
  have quiet := loaded_quiet reached
  have idle : Idle world := { quiet with finished := finished }
  let draft := (nodeUpEvent "" 0).toDraft
  refine ⟨⟨?_, ?_⟩, ?_⟩
  · intro keeps
    have numbered : ∀ old, Stored left old → old.id < world.log.nextId := by
      intro old stored
      by_contra used
      obtain ⟨labels, final, ran, event, issued, same⟩ :=
        issue_reaches size world draft (old.id - world.log.nextId)
      have apart := (keeps labels final ran old stored).2 event issued
      omega
    refine ⟨numbered, ?_⟩
    intro old stored
    by_contra exposed
    rw [← quiet.storage] at exposed
    obtain ⟨bound, fading⟩ := exists_fading idle (numbered old stored) exposed
    obtain ⟨labels, final, ran, lost⟩ := fading.lost size draft
    exact lost (keeps labels final ran old stored).1
  · intro continues labels final ran
    have secure : Secure left world := by
      refine ⟨finished, ?_, continues.numbered, ?_, ?_, ?_⟩
      · simp [quiet.writer]
      · simp [quiet.issued]
      · rw [quiet.storage]
        exact fun _ stored => stored
      · rw [quiet.storage]
        exact continues.sheltered
    exact (secure.afterRun size labels ran).kept
  · intro leftBehind positive answered
    exact answered_continues leftBehind positive answered reached finished

/-- A load of one batch in which nothing fails. -/
theorem answered_load_keeps : ∃ world, run (step List.length) (World.start oneBatch 2000)
        ((List.replicate 5 true).map .load) = some world ∧
      world.loader.isDone = true ∧ Stored oneBatch (nodeUpEvent "earlier" 1) ∧
      ∀ labels final, run (step List.length) world labels = some final → Kept oneBatch final := by
  obtain ⟨world, reached, finished⟩ : ∃ world, run (step List.length) (World.start oneBatch 2000)
      ((List.replicate 5 true).map .load) = some world ∧ world.loader.isDone = true := by
    decide +kernel
  obtain ⟨kept, answered⟩ :=
    earlier_events_kept_iff List.length oneBatch 2000 _ world reached finished
  refine ⟨world, reached, finished, by decide +kernel, kept.mpr ?_⟩
  apply answered oneBatch_leftBehind (by decide)
  intro answer member
  exact (mem_replicate.mp member).2

/-- Two batches of one event each, left by an earlier run. -/
def twoBatches : Storage := oneBatch.insert (batchFile 2) (.batch [nodeUpEvent "latest" 2])

/-- If the listing fails, the first append replaces the stored batch and has the id of its
event; if the read of the latest of two batches fails, it replaces that one. -/
theorem failed_load_loses :
    (∃ world final, run (step List.length) (World.start oneBatch 2000) [.load false] = some world ∧
        world.loader.isDone = true ∧
        run (step List.length) world (appendOf (nodeUpEvent "new" 1)) = some final ∧
        Stored oneBatch (nodeUpEvent "earlier" 1) ∧
        ¬ Stored final.storage (nodeUpEvent "earlier" 1) ∧
        nodeUpEvent "new" 1 ∈ final.issued) ∧
      ∃ world final, run (step List.length) (World.start twoBatches 2000)
          ([true, true, false, true, true, true].map .load) = some world ∧
        world.loader.isDone = true ∧
        run (step List.length) world (appendOf (nodeUpEvent "new" 2)) = some final ∧
        Stored twoBatches (nodeUpEvent "latest" 2) ∧
        ¬ Stored final.storage (nodeUpEvent "latest" 2) ∧
        nodeUpEvent "new" 2 ∈ final.issued := by
  simp only [exists_and_left]
  decide +kernel

end PgVisor.Audit
