import PgVisor.AuditFailures

/-!
# The audit log over restarts

Appends come one after the other, their tasks write in any order, and the process restarts
at any time at which no task is left. A restart loads what is stored into a new log; storage
answers every request.

Between two steps the objects and the events on their way hold every appended event once,
and the current batch is what the current file holds with the event being written. So the
loader finds every event, and the largest id and the latest batch continue where the
process stopped. A batch rotated for its size is taken up again after a restart, unlike in a
process that runs on, but an event stays in the file it was written to.
-/

namespace PgVisor.Audit

open Retention Transitions
open List hiding contains

variable {event : AuditEvent} {world : World} {batch loaded : List AuditEvent} {batchId : Nat}

/-- All stored events, object by object. -/
def saved (storage : Storage) : List AuditEvent :=
  storage.entries.flatMap fun entry => entry.2.events

def StoredIn (storage : Storage) (name : List Char) (event : AuditEvent) : Prop :=
  event ∈ contentOf storage name

section Saving

variable {storage : Storage} {name : List Char}

theorem contentOf_insert (storage : Storage) (name : List Char) (object : StoredObject) :
    contentOf (storage.insert name object) name = object.events :=
  contentOf_some (AList.lookup_insert storage)

theorem present_of_storedIn (inside : StoredIn storage name event) :
    ∃ object, storage.lookup name = some object ∧ event ∈ object.events := by
  cases present : storage.lookup name with
  | none => simp [StoredIn, contentOf, present] at inside
  | some object =>
    rw [StoredIn, contentOf_some present] at inside
    exact ⟨object, rfl, inside⟩

/-- An event is saved where some object holds it. -/
theorem mem_saved_iff (event : AuditEvent) :
    event ∈ saved storage ↔ ∃ name, StoredIn storage name event := by
  rw [saved, mem_flatMap]
  constructor
  · rintro ⟨⟨name, object⟩, member, inside⟩
    refine ⟨name, ?_⟩
    rw [StoredIn, contentOf_some (AList.mem_lookup_iff.mpr member)]
    exact inside
  · rintro ⟨name, inside⟩
    obtain ⟨object, present, member⟩ := present_of_storedIn inside
    exact ⟨⟨name, object⟩, AList.mem_lookup_iff.mp present, member⟩

/-- If nothing is saved twice, an event is in one object. -/
theorem storedIn_unique (distinct : (saved storage).Nodup)
    {first second} (one : StoredIn storage first event)
    (other : StoredIn storage second event) : first = second := by
  obtain ⟨former, formerAt, inFormer⟩ := present_of_storedIn one
  obtain ⟨latter, latterAt, inLatter⟩ := present_of_storedIn other
  exact congrArg Sigma.fst (eq_of_nodup_flatMap distinct (AList.mem_lookup_iff.mp formerAt)
    (AList.mem_lookup_iff.mp latterAt) inFormer inLatter)

/-- Writing an object with some events added saves these besides. -/
theorem saved_insert (storage : Storage) (name : List Char) (added : List AuditEvent) :
    (saved (storage.insert name (.batch (contentOf storage name ++ added)))).Perm
      (saved storage ++ added) := by
  cases present : storage.lookup name with
  | none =>
    have absent : name ∉ storage := AList.lookup_eq_none.mp present
    simp only [saved, contentOf, present, AList.entries_insert_of_notMem absent,
      flatMap_cons, Option.elim_none, nil_append, StoredObject.events]
    exact perm_append_comm
  | some object =>
    have known : name ∈ storage.entries.keys :=
      AList.lookup_isSome.mp (Option.isSome_of_eq_some present)
    obtain ⟨found, before, after, -, split, erased⟩ := exists_of_kerase known
    have same : found = object := by
      have member : (⟨name, found⟩ : Sigma fun _ => StoredObject) ∈ storage.entries := by
        rw [split]
        exact mem_append_right _ mem_cons_self
      exact Option.some.inj ((AList.mem_lookup_iff.mpr member).symm.trans present)
    rw [saved, AList.entries_insert, erased, saved, split, contentOf_some present, same]
    apply perm_iff_count.mpr
    intro event
    simp only [flatMap_cons, flatMap_append, count_append, StoredObject.events]
    omega

end Saving

section Gathering

variable {storage : Storage} {bound : Nat}

/-- The objects are batches under the names of batch files. -/
def Filed (bound : Nat) (storage : Storage) : Prop :=
  ∀ name object, storage.lookup name = some object →
    ∃ id events, 1 ≤ id ∧ id ≤ bound ∧ name = batchFile id ∧ object = .batch events ∧ events ≠ []

theorem Filed.leftBehind (filed : Filed bound storage) (fits : bound < 2 ^ 64) :
    LeftBehind storage := by
  intro name object present
  obtain ⟨id, events, -, within, rfl, rfl, -⟩ := filed name object present
  exact .inl ⟨id, events, within.trans_lt fits, rfl, rfl⟩

/-- The listing has every name once. -/
theorem listing_perm (leftBehind : LeftBehind storage) : (listing storage).Perm storage.keys := by
  apply (perm_ext_iff_of_nodup _ storage.keys_nodup).mpr
  · intro name
    rw [mem_listing leftBehind, ← AList.mem_keys, ← AList.lookup_isSome, Option.isSome_iff_ne_none]
  · rw [listing, (perm_insertionSort _ _).nodup_iff]
    exact storage.keys_nodup.filter _

/-- Reading every listed name gives all that is saved. -/
theorem flatMap_listing (leftBehind : LeftBehind storage) :
    ((listing storage).flatMap (contentOf storage)).Perm (saved storage) := by
  apply ((listing_perm leftBehind).flatMap_right _).trans
  rw [AList.keys, List.keys, flatMap_map, saved]
  apply List.Perm.flatMap_left
  rintro ⟨name, object⟩ member
  rw [contentOf_some (AList.mem_lookup_iff.mpr member)]

end Gathering

section Loading

/-- `load_from_storage` with every request answered; the fuel bounds its steps. -/
def World.loadFromStorage : Nat → World → World
  | 0, world => world
  | fuel + 1, world =>
    match world.load true with
    | some next => next.loadFromStorage fuel
    | none => world

/-- The steps that are left of a load. -/
def Loader.rounds (storage : Storage) : Loader → Nat
  | .starting => storage.keys.length + 4
  | .reading _ later _ => later.length + 4
  | .refilling _ => 3
  | .numbering _ => 2
  | .restoring _ => 1
  | .done _ => 0

theorem afterRing_rounds (storage : Storage) (found : Found) :
    (Loader.afterRing found).rounds storage < 2 := by
  unfold Loader.afterRing
  split <;> simp [Loader.rounds]

theorem settle_rounds (storage : Storage) (capacity : Nat) (found : Found) :
    (Loader.settle capacity found).rounds storage < 4 := by
  unfold Loader.settle
  dsimp only
  split
  · exact (afterRing_rounds storage _).trans (by decide)
  · simp [Loader.rounds]

/-- A load that no task holds up goes on until it is done. -/
theorem load_rounds (idle : world.writer = none) :
    match world.load true with
    | some next => next.loader.rounds world.storage < world.loader.rounds world.storage
    | none => world.loader.isDone = true := by
  cases loader : world.loader with
  | starting =>
    have fewer : (listing world.storage).length ≤ world.storage.keys.length := by
      rw [listing, length_insertionSort]
      exact length_filter_le _ _
    simp only [World.load, loader, ↓reduceIte]
    cases names : listing world.storage with
    | nil => exact Nat.zero_lt_succ _
    | cons first later =>
      rw [names, length_cons] at fewer
      simp only [Loader.rounds]
      omega
  | reading name later found =>
    simp only [World.load, loader]
    cases later with
    | nil => exact settle_rounds _ _ _
    | cons following rest => simp [Loader.rounds]
  | refilling found => simp [World.load, loader, Loader.rounds]
  | numbering found =>
    simp only [World.load, loader]
    exact afterRing_rounds _ _
  | restoring found =>
    by_cases short : found.latestBatchEvents.length < maxEventsPerBatch
    all_goals simp [World.load, loader, idle, short, Loader.rounds]
  | done count => simp [World.load, loader, Loader.isDone]

/-- With enough rounds, the load ends. -/
theorem loadFromStorage_ends {storage capacity} (fuel : Nat) (early : Early storage capacity world)
    (enough : world.loader.rounds storage ≤ fuel) :
    Early storage capacity (world.loadFromStorage fuel) ∧
      (world.loadFromStorage fuel).loader.isDone = true := by
  induction fuel generalizing world with
  | zero =>
    refine ⟨early, ?_⟩
    rw [World.loadFromStorage]
    cases loader : world.loader with
    | done count => rfl
    | _ => simp [loader, Loader.rounds] at enough
  | succ fuel ih =>
    have goes := load_rounds early.1.writer
    rw [early.1.storage] at goes
    cases moved : world.load true with
    | none =>
      rw [moved] at goes
      simp only [World.loadFromStorage, moved]
      exact ⟨early, goes⟩
    | some next =>
      rw [moved] at goes
      simp only [World.loadFromStorage, moved]
      exact ih (early.load moved) (by omega)

/-- A new process over the storage, with everything listed and read. -/
def World.reload (storage : Storage) (capacity : Nat) : World :=
  (World.start storage capacity).loadFromStorage (storage.keys.length + 4)

/-- The load ends with all that it has found handed on. -/
theorem reload_log (storage : Storage) (capacity : Nat) :
    Quiet storage (.reload storage capacity) ∧
      (World.reload storage capacity).loader.isDone = true ∧
      ∃ count, Complete storage (replicate count true) ∧
        (World.reload storage capacity).log =
          (handedOn storage capacity (replicate count true)).resumed capacity := by
  obtain ⟨⟨quiet, count, underway⟩, finished⟩ :=
    loadFromStorage_ends _ (start_early storage capacity) le_rfl
  exact ⟨quiet, finished, count, underway.finished finished⟩

end Loading

/-- The log over all processes so far, with the events that appends have returned. -/
structure History where
  world : World
  appended : List AuditEvent

/-- The first process, over empty storage. -/
def History.initial (capacity : Nat) : History :=
  { world := .reload ∅ capacity, appended := [] }

inductive Action where
  | append (draft : Draft)
  | start (event : AuditEvent)
  | persist
  | restart

/-- What an action gives to append. -/
def Action.draft? : Action → Option Draft
  | .append draft => some draft
  | _ => none

def History.step (size : List AuditEvent → Nat) (history : History) : Action → Option History
  | .append draft =>
    -- ids are 64-bit words
    if history.world.log.nextId + 1 < 2 ^ 64 then
      (run (Audit.step size) history.world
        [.issue draft, .push (history.world.upcoming draft)]).map fun world =>
          { world, appended := history.appended ++ [history.world.upcoming draft] }
    else none
  | .start event =>
    (Audit.step size history.world (.start event)).map fun world => { history with world }
  | .persist =>
    (Audit.step size history.world (.persist .written)).map fun world => { history with world }
  | .restart =>
    if history.world.tasks = [] ∧ history.world.writer = none then
      some { history with
        world := .reload history.world.storage history.world.log.capacity }
    else none

/-- The event that the task at the batch is writing. -/
def World.writing (world : World) : List AuditEvent :=
  match world.writer with
  | some _ => world.log.currentBatch.getLast?.toList
  | none => []

/-- The events that are not stored yet. -/
def World.pending (world : World) : List AuditEvent := world.writing ++ world.tasks

theorem writing_of_idle (idle : world.writer = none) : world.writing = [] := by
  simp only [World.writing, idle]

/-- The objects are batches up to the current one, which is what its file holds with the events
that are being written, and there are no more batches than events. -/
structure Filing (storage : Storage) (batch : List AuditEvent) (batchId : Nat)
    (writing : List AuditEvent) : Prop where
  filed : Filed batchId storage
  current : batch = contentOf storage (batchFile batchId) ++ writing
  first : 1 ≤ batchId
  batches : batchId + min 1 batch.length ≤ (saved storage ++ writing).length + 1

/-- The invariant over appends, tasks and restarts. -/
structure Recorded (capacity : Nat) (history : History) : Prop extends
    Filing history.world.storage history.world.log.currentBatch history.world.log.currentBatchId
      history.world.writing where
  bounded : history.world.log.capacity = capacity
  finished : history.world.loader.isDone = true
  arriving : history.world.arriving = []
  numbers : history.appended.map AuditEvent.id = List.range' 1 history.appended.length
  next : history.world.log.nextId = history.appended.length + 1
  fits : history.appended.length + 1 < 2 ^ 64
  ring : history.world.log.events = history.appended.drop (history.appended.length - capacity)
  writer : ∀ id ∈ history.world.writer,
    id = history.world.log.currentBatchId ∧ history.world.log.currentBatch ≠ []
  held : (saved history.world.storage ++ history.world.pending).Perm history.appended

section Invariant

variable {capacity : Nat} {history next : History} {action : Action} {events : List AuditEvent}

/-- Ids from one on are increasing. -/
theorem increasing_of_numbers (numbers : events.map AuditEvent.id = List.range' 1 events.length) :
    events.Pairwise fun first second => first.id < second.id := by
  have ordered := pairwise_lt_range' (s := 1) (n := events.length)
  rw [← numbers] at ordered
  exact pairwise_map.mp ordered

theorem eq_of_increasing (increasing : events.Pairwise fun first second => first.id < second.id)
    {first second} (former : first ∈ events) (latter : second ∈ events)
    (same : first.id = second.id) : first = second := by
  by_contra apart
  have different : events.Pairwise fun first second => first.id ≠ second.id :=
    increasing.imp Nat.ne_of_lt
  have symmetric : Std.Symm fun first second : AuditEvent => first.id ≠ second.id :=
    ⟨fun _ _ => Ne.symm⟩
  exact different.forall former latter apart same

theorem Recorded.distinct (recorded : Recorded capacity history) :
    (saved history.world.storage ++ history.world.pending).Nodup := by
  rw [recorded.held.nodup_iff]
  have increasing := increasing_of_numbers recorded.numbers
  apply increasing.imp
  rintro first second less rfl
  exact lt_irrefl _ less

/-- An idle process has everything stored. -/
theorem Recorded.held_of_idle (recorded : Recorded capacity history)
    (tasks : history.world.tasks = []) (idle : history.world.writer = none) :
    (saved history.world.storage).Perm history.appended := by
  have held := recorded.held
  rwa [World.pending, writing_of_idle idle, tasks, append_nil, append_nil] at held

/-- An appended event is recorded. -/
theorem Recorded.append (positive : 0 < capacity) (recorded : Recorded capacity history)
    (draft : Draft) (small : history.world.log.nextId + 1 < 2 ^ 64) : Recorded capacity
      { world := (history.world.issue draft).push (history.world.upcoming draft)
        appended := history.appended ++ [history.world.upcoming draft] } :=
  { recorded with
    arriving := by simp [World.push, World.issue, World.upcoming, recorded.arriving]
    numbers := by
      have id : (history.world.upcoming draft).id = history.appended.length + 1 := recorded.next
      rw [map_append, recorded.numbers, map_singleton, id, length_append,
        length_singleton, List.range'_concat, Nat.one_mul, Nat.add_comm 1]
    next := by
      rw [length_append, length_singleton, ← recorded.next]
      rfl
    fits := by
      rw [length_append, length_singleton, ← recorded.next]
      exact small
    ring := by
      rw [← pushBounded_newest positive, ← recorded.ring, ← recorded.bounded]
      rfl
    held := by
      have longer := recorded.held.append_right [history.world.upcoming draft]
      rwa [World.pending, append_assoc, append_assoc] at longer }

theorem writing_begin (world : World) (event : AuditEvent) :
    (world.begin event).writing = [event] := by
  simp [World.writing, World.begin]

theorem Recorded.start (recorded : Recorded capacity history)
    (waiting : event ∈ history.world.tasks) (idle : history.world.writer = none) :
    Recorded capacity { history with world := history.world.begin event } :=
  { recorded with
    writer := by
      intro id writing
      exact ⟨(Option.some.inj writing).symm, concat_ne_nil _ _⟩
    current := by
      have before := recorded.current
      rw [writing_of_idle idle, append_nil] at before
      rw [writing_begin]
      exact congrArg (· ++ [event]) before
    batches := by
      have before := recorded.batches
      rw [writing_of_idle idle] at before
      rw [writing_begin]
      simp only [World.begin, length_append, length_singleton, length_nil] at before ⊢
      omega
    held := by
      apply List.Perm.trans _ recorded.held
      rw [World.pending, World.pending, writing_begin, writing_of_idle idle, nil_append]
      apply List.Perm.append_left
      exact (perm_cons_erase waiting).symm }

variable {storage : Storage}

/-- The batch is filed under its id. -/
theorem Filed.insert {bound} (filed : Filed bound storage) (first : 1 ≤ bound)
    (nonempty : events ≠ []) : Filed bound (storage.insert (batchFile bound) (.batch events)) := by
  intro name object present
  by_cases same : name = batchFile bound
  · rw [same, AList.lookup_insert] at present
    exact ⟨bound, events, first, le_rfl, same, (Option.some.inj present).symm, nonempty⟩
  · rw [AList.lookup_insert_ne same] at present
    exact filed name object present

theorem Filed.mono {few many} (filed : Filed few storage) (more : few ≤ many) :
    Filed many storage := by
  intro name object present
  obtain ⟨id, events, first, within, rest⟩ := filed name object present
  exact ⟨id, events, first, within.trans more, rest⟩

theorem contentOf_beyond {bound id : Nat} (filed : Filed bound storage) (beyond : bound < id) :
    contentOf storage (batchFile id) = [] := by
  cases present : storage.lookup (batchFile id) with
  | none => simp [contentOf, present]
  | some object =>
    obtain ⟨other, events, -, within, same, -⟩ := filed _ object present
    rw [← batchFile_injective same] at within
    omega

/-- The next batch is new. -/
theorem Filing.rotate (filing : Filing storage batch batchId []) (nonempty : batch ≠ []) :
    Filing storage [] (batchId + 1) [] where
  filed := filing.filed.mono (Nat.le_succ _)
  current := by rw [contentOf_beyond filing.filed (Nat.lt_succ_self _), append_nil]
  first := Nat.le_add_left _ _
  batches := by
    have before := filing.batches
    have counted := length_pos_iff.mpr nonempty
    rw [length_nil]
    omega

/-- A task that ends leaves a batch that is what its file holds. -/
theorem Recorded.release (recorded : Recorded capacity history)
    (filing : Filing storage batch batchId [])
    (held : (saved storage ++ history.world.tasks).Perm history.appended) : Recorded capacity
      { history with
        world := { history.world with
          storage, writer := none
          log := { history.world.log with currentBatch := batch, currentBatchId := batchId } } } :=
  { recorded with toFiling := filing, writer := by simp, held := held }

variable (size : List AuditEvent → Nat)

/-- So is a written batch. -/
theorem Recorded.persist (recorded : Recorded capacity history)
    (writing : history.world.writer = some batchId) : Recorded capacity
      { history with world := history.world.persist size batchId .written } := by
  obtain ⟨rfl, nonempty⟩ := recorded.writer batchId writing
  have stored : (saved (history.world.storage.insert
      (batchFile history.world.log.currentBatchId) (.batch history.world.log.currentBatch))).Perm
        (saved history.world.storage ++ history.world.writing) := by
    rw [recorded.current]
    exact saved_insert _ _ _
  have held : (saved (history.world.storage.insert
      (batchFile history.world.log.currentBatchId) (.batch history.world.log.currentBatch)) ++
        history.world.tasks).Perm history.appended := by
    apply (stored.append_right _).trans
    rw [append_assoc]
    exact recorded.held
  have filing : Filing (history.world.storage.insert
      (batchFile history.world.log.currentBatchId) (.batch history.world.log.currentBatch))
      history.world.log.currentBatch history.world.log.currentBatchId [] := by
    refine ⟨recorded.filed.insert recorded.first nonempty, ?_, recorded.first, ?_⟩
    · rw [contentOf_insert, append_nil, StoredObject.events]
    · rw [append_nil, stored.length_eq]
      exact recorded.batches
  simp only [World.persist]
  split
  · exact recorded.release (filing.rotate nonempty) held
  · exact recorded.release filing held

/-- Events in the order of their ids are restored from any order. -/
theorem restored_eq (same : loaded.Perm events)
    (increasing : events.Pairwise fun first second => first.id < second.id) (capacity : Nat) :
    restored capacity loaded = events.drop (events.length - capacity) := by
  have sorted : loaded.insertionSort (fun first second => first.id ≤ second.id) = events := by
    have permuted := (perm_insertionSort (fun first second : AuditEvent =>
      first.id ≤ second.id) loaded).trans same
    have ordered : (loaded.insertionSort fun first second => first.id ≤ second.id).Pairwise
        fun first second => first.id ≤ second.id := by
      have total : Std.Total fun first second : AuditEvent => first.id ≤ second.id :=
        ⟨fun first second => Nat.le_total first.id second.id⟩
      have transitive : IsTrans AuditEvent fun first second => first.id ≤ second.id :=
        ⟨fun _ _ _ => Nat.le_trans⟩
      exact pairwise_insertionSort _ loaded
    refine permuted.eq_of_pairwise ?_ ordered (increasing.imp Nat.le_of_lt)
    intro first second former latter less more
    exact eq_of_increasing increasing (permuted.mem_iff.mp former) latter
      (Nat.le_antisymm less more)
  have apart : events.destutter (fun first second => first.id ≠ second.id) = events := by
    apply destutter_of_isChain
    exact (increasing.imp Nat.ne_of_lt).isChain
  simp only [restored, sorted, apart]

/-- The largest of the ids from one on. -/
theorem largest_of_numbers (same : loaded.Perm events)
    (numbers : events.map AuditEvent.id = List.range' 1 events.length) :
    loaded.foldl (fun largest event => max largest event.id) 0 = events.length := by
  have ids : ∀ id, id ∈ events.map AuditEvent.id ↔ 1 ≤ id ∧ id ≤ events.length := by
    intro id
    rw [numbers, mem_range'_1]
    omega
  apply Nat.le_antisymm
  · rcases foldl_max_attained AuditEvent.id loaded 0 with none_loaded | ⟨event, member, largest⟩
    · rw [none_loaded]
      exact Nat.zero_le _
    · rw [largest]
      exact ((ids event.id).mp (mem_map_of_mem (same.mem_iff.mp member))).2
  · by_cases some : 1 ≤ events.length
    · obtain ⟨last, member, is_last⟩ := mem_map.mp ((ids events.length).mpr ⟨some, le_rfl⟩)
      rw [← is_last]
      exact (le_foldl_max AuditEvent.id loaded 0).2 last (same.mem_iff.mpr member)
    · omega

/-- A new process that has loaded everything. -/
theorem recorded_reload (positive : 0 < capacity)
    (numbers : events.map AuditEvent.id = List.range' 1 events.length)
    (fits : events.length + 1 < 2 ^ 64) (filed : Filed events.length storage)
    (held : (saved storage).Perm events) :
    Recorded capacity { world := .reload storage capacity, appended := events } := by
  have leftBehind := filed.leftBehind (Nat.lt_of_succ_lt fits)
  have same := (flatMap_listing leftBehind).trans held
  obtain ⟨quiet, finished, count, complete, log⟩ := reload_log storage capacity
  have gathered : Gathered storage capacity _ := gathered_handedOn leftBehind complete
  generalize handedOn storage capacity (replicate count true) = found at log gathered
  have ring : found.loaded = events.drop (events.length - capacity) := by
    rw [gathered.loaded, restored_eq same (increasing_of_numbers numbers)]
  have next : found.nextId = events.length + 1 := by
    rw [Found.nextId, gathered.numbers, largest_of_numbers same numbers, ring]
    split
    next empty =>
      have short := drop_eq_nil_iff.mp (List.isEmpty_iff.mp empty)
      omega
    · rfl
  have within : Filed found.maxBatchId storage := by
    intro name object present
    obtain ⟨id, batch, first, -, rfl, rest⟩ := filed name object present
    exact ⟨id, batch, first, gathered.highest id (by simp [present]), rfl, rest⟩
  have filing : Filing storage found.batch.1 found.batch.2 [] := by
    unfold Found.batch
    split
    next batches =>
      have newest := gathered.attained.resolve_left (by omega)
      have counted : found.maxBatchId ≤ events.length := by
        obtain ⟨object, present⟩ := Option.ne_none_iff_exists'.mp newest
        obtain ⟨id, -, -, bounded, named, -⟩ := filed _ object present
        rwa [batchFile_injective named]
      have current : Filing storage found.latestBatchEvents found.maxBatchId [] := by
        refine ⟨within, ?_, batches, ?_⟩
        · rw [gathered.latest newest, append_nil]
        · rw [append_nil, held.length_eq]
          omega
      split
      · exact current
      next full =>
        apply current.rotate
        intro empty
        exact full (by rw [empty]; decide)
    next unbatched =>
      refine ⟨within.mono (by omega), ?_, le_rfl, by simp⟩
      rw [contentOf_beyond within (by omega), append_nil]
  exact
    { toFiling := by
        rw [quiet.storage, log, writing_of_idle quiet.writer]
        exact filing
      bounded := by
        rw [log]
        rfl
      finished := finished
      arriving := quiet.arriving
      numbers := numbers
      next := by
        rw [log]
        exact next
      fits := fits
      ring := by
        rw [log]
        exact ring
      writer := by simp [quiet.writer]
      held := by
        rw [World.pending, writing_of_idle quiet.writer, quiet.tasks, quiet.storage]
        simpa using held }

/-- The newest stored batch is the current one, or comes before it and leaves room for it. -/
theorem Recorded.newest_bound (recorded : Recorded capacity history)
    (tasks : history.world.tasks = []) (idle : history.world.writer = none) {newest}
    (present : history.world.storage.lookup (batchFile newest) ≠ none) :
    newest ≤ history.appended.length := by
  obtain ⟨object, stored⟩ := Option.ne_none_iff_exists'.mp present
  obtain ⟨id, events, -, within, same, rfl, nonempty⟩ := recorded.filed _ object stored
  cases batchFile_injective same
  have content := contentOf_some stored
  have batches := recorded.batches
  rw [writing_of_idle idle, append_nil, (recorded.held_of_idle tasks idle).length_eq] at batches
  by_cases current : newest = history.world.log.currentBatchId
  · have counted : 0 < history.world.log.currentBatch.length := by
      rw [recorded.current, ← current, content, length_append]
      exact Nat.add_pos_left (length_pos_iff.mpr nonempty) _
    omega
  · omega

/-- A restart loads a log that goes on where the process stopped. -/
theorem Recorded.restart (positive : 0 < capacity) (recorded : Recorded capacity history)
    (tasks : history.world.tasks = []) (idle : history.world.writer = none) :
    Recorded capacity { history with world := .reload history.world.storage capacity } := by
  apply recorded_reload positive recorded.numbers recorded.fits ?_
    (recorded.held_of_idle tasks idle)
  intro name object present
  obtain ⟨id, batch, first, -, rfl, rest⟩ := recorded.filed name object present
  exact ⟨id, batch, first, recorded.newest_bound tasks idle (by simp [present]), rfl, rest⟩

theorem initial_recorded (positive : 0 < capacity) : Recorded capacity (.initial capacity) :=
  recorded_reload positive rfl (Nat.one_lt_two_pow (by decide)) nofun (.refl _)

/-- What an append does. -/
theorem Recorded.append_step (recorded : Recorded capacity history)
    (size : List AuditEvent → Nat) (draft : Draft)
    (moved : history.step size (.append draft) = some next) :
    history.world.log.nextId + 1 < 2 ^ 64 ∧ next =
      { world := (history.world.issue draft).push (history.world.upcoming draft)
        appended := history.appended ++ [history.world.upcoming draft] } := by
  have unlocked : history.world.loader.holdsRing = false := holdsRing_of_done recorded.finished
  simp only [History.step] at moved
  split at moved
  next small =>
    rw [push_runs size unlocked draft] at moved
    exact ⟨small, (Option.some.inj moved).symm⟩
  · cases moved

/-- One action of a history. -/
theorem Recorded.after (positive : 0 < capacity) (recorded : Recorded capacity history)
    (moved : history.step size action = some next) : Recorded capacity next := by
  cases action with
  | append draft =>
    obtain ⟨small, rfl⟩ := recorded.append_step size draft moved
    exact recorded.append positive draft small
  | start event =>
    obtain ⟨world, begun, rfl⟩ := Option.map_eq_some_iff.mp moved
    obtain ⟨granted, rfl⟩ := guard_holds begun
    exact recorded.start granted.1 granted.2
  | persist =>
    obtain ⟨world, written, rfl⟩ := Option.map_eq_some_iff.mp moved
    obtain ⟨batchId, writing, rfl⟩ := Option.map_eq_some_iff.mp written
    exact recorded.persist size writing
  | restart =>
    obtain ⟨still, rfl⟩ := guard_holds moved
    rw [recorded.bounded]
    exact recorded.restart positive still.1 still.2

/-- Only an append adds an event, with what it was given. -/
theorem Recorded.drafts_after (recorded : Recorded capacity history) (size : List AuditEvent → Nat)
    (moved : history.step size action = some next) :
    next.appended.map AuditEvent.toDraft =
      history.appended.map AuditEvent.toDraft ++ action.draft?.toList := by
  cases action with
  | append draft =>
    obtain ⟨-, rfl⟩ := recorded.append_step size draft moved
    rw [map_append]
    rfl
  | start event | persist =>
    obtain ⟨world, -, rfl⟩ := Option.map_eq_some_iff.mp moved
    exact (append_nil _).symm
  | restart =>
    obtain ⟨-, rfl⟩ := guard_holds moved
    exact (append_nil _).symm

/-- A whole history. -/
theorem Recorded.afterRun (positive : 0 < capacity) (recorded : Recorded capacity history)
    (actions : List Action) {final}
    (reached : run (History.step size) history actions = some final) :
    Recorded capacity final ∧ final.appended.map AuditEvent.toDraft =
      history.appended.map AuditEvent.toDraft ++ actions.filterMap Action.draft? := by
  induction actions generalizing history with
  | nil =>
    cases reached
    exact ⟨recorded, (append_nil _).symm⟩
  | cons action rest ih =>
    obtain ⟨middle, moved, later⟩ := run_cons_inv reached
    obtain ⟨kept, drafts⟩ := ih (recorded.after size positive moved) later
    refine ⟨kept, ?_⟩
    rw [drafts, recorded.drafts_after size moved, append_assoc]
    cases given : action.draft? with
    | none => rw [filterMap_cons_none given, Option.toList_none, nil_append]
    | some draft => rw [filterMap_cons_some given, Option.toList_some, singleton_append]

/-- The drafts and the ids are all there is to events. -/
theorem eq_of_numbers {first second : List AuditEvent}
    (drafts : first.map AuditEvent.toDraft = second.map AuditEvent.toDraft)
    (former : first.map AuditEvent.id = List.range' 1 first.length)
    (latter : second.map AuditEvent.id = List.range' 1 second.length) : first = second := by
  have lengths : first.length = second.length := by
    simpa only [length_map] using congrArg List.length drafts
  have ids : first.map AuditEvent.id = second.map AuditEvent.id := by
    rw [former, latter, lengths]
  apply ext_getElem lengths
  intro position inFirst inSecond
  have draft := getElem_of_eq drafts (by simpa using inFirst)
  have id := getElem_of_eq ids (by simpa using inFirst)
  simp only [getElem_map] at draft id
  cases left : first[position]
  cases right : second[position]
  simp_all

/-- Appends alone are a run, as long as the ids fit. -/
theorem Recorded.appends_run (positive : 0 < capacity) (recorded : Recorded capacity history)
    (drafts : List Draft) (fit : history.appended.length + drafts.length + 1 < 2 ^ 64) :
    ∃ final, run (History.step size) history (drafts.map .append) = some final := by
  induction drafts generalizing history with
  | nil => exact ⟨history, rfl⟩
  | cons draft rest ih =>
    rw [length_cons] at fit
    have small : history.world.log.nextId + 1 < 2 ^ 64 := by
      rw [recorded.next]
      omega
    have moved : history.step size (.append draft) = some
        { world := (history.world.issue draft).push (history.world.upcoming draft)
          appended := history.appended ++ [history.world.upcoming draft] } := by
      rw [History.step, if_pos small, push_runs size (holdsRing_of_done recorded.finished)]
      rfl
    obtain ⟨final, reached⟩ := ih (recorded.append positive draft small) (by
      rw [length_append, length_singleton]
      omega)
    refine ⟨final, ?_⟩
    rw [map_cons, run_cons moved]
    exact reached

/-- Every event is on its way to storage and in no file, or in one batch file. -/
theorem Recorded.filed_once (recorded : Recorded capacity history)
    (member : event ∈ history.appended) :
    (event ∈ history.world.pending ∧ ∀ name, ¬ StoredIn history.world.storage name event) ∨
      (event ∉ history.world.pending ∧
        ∃ id, ∀ name, StoredIn history.world.storage name event ↔ name = batchFile id) := by
  have distinct := recorded.distinct
  have apart := disjoint_of_nodup_append distinct
  rcases mem_append.mp (recorded.held.mem_iff.mpr member) with stored | waiting
  · right
    refine ⟨fun waiting => apart stored waiting, ?_⟩
    obtain ⟨name, inside⟩ := (mem_saved_iff event).mp stored
    obtain ⟨object, present, -⟩ := present_of_storedIn inside
    obtain ⟨id, events, -, -, rfl, -⟩ := recorded.filed name object present
    refine ⟨id, ?_⟩
    intro other
    constructor
    · intro another
      exact storedIn_unique distinct.of_append_left another inside
    · rintro rfl
      exact inside
  · left
    refine ⟨waiting, ?_⟩
    intro name inside
    exact apart ((mem_saved_iff event).mpr ⟨name, inside⟩) waiting

end Invariant

/-- After any run of appends, tasks and restarts the load has ended, the ring lists the newest
appended events from the newest on, and every listing answers as in any other run of the same
appends, wherever its restarts are; one of them has no restart. Ids increase over all processes,
and an event is in one batch file as soon as its task has written it. -/
theorem restarts_unseen (size : List AuditEvent → Nat) (lowercase : List Char → List Char)
    (capacity : Nat) (positive : 0 < capacity) (actions : List Action) (history : History)
    (reached : run (History.step size) (.initial capacity) actions = some history) :
    history.world.loader.isDone = true ∧
      history.appended.map AuditEvent.toDraft = actions.filterMap Action.draft? ∧
      (∀ limit offset, (history.world.log.list lowercase limit offset none none).1 =
        ((history.appended.reverse.take capacity).drop offset).take limit) ∧
      (∃ single, run (History.step size) (.initial capacity)
        ((actions.filterMap Action.draft?).map .append) = some single) ∧
      (∀ others single, others.filterMap Action.draft? = actions.filterMap Action.draft? →
        run (History.step size) (.initial capacity) others = some single →
        ∀ limit offset kind search, history.world.log.list lowercase limit offset kind search =
          single.world.log.list lowercase limit offset kind search) ∧
      (history.appended.Pairwise fun earlier later => earlier.id < later.id) ∧
      ∀ event ∈ history.appended,
        (event ∈ history.world.pending ∧ ∀ name, ¬ StoredIn history.world.storage name event) ∨
          (event ∉ history.world.pending ∧
            ∃ id, ∀ name, StoredIn history.world.storage name event ↔ name = batchFile id) := by
  have started := initial_recorded positive
  obtain ⟨recorded, drafts⟩ := started.afterRun size positive actions reached
  refine ⟨recorded.finished, drafts, ?_, ?_, ?_, increasing_of_numbers recorded.numbers, ?_⟩
  · intro limit offset
    have everything : ∀ event, AuditEvent.selected lowercase none none event = true :=
      fun _ => rfl
    have newest : history.world.log.events.reverse = history.appended.reverse.take capacity := by
      rw [recorded.ring, reverse_drop, take_eq_take_iff, length_reverse]
      omega
    rw [AuditLog.list, Option.map_none, filter_eq_self.mpr fun event _ => everything event, newest]
  · apply started.appends_run size positive
    have count := congrArg List.length drafts
    rw [length_append, length_map] at count
    have fits := recorded.fits
    simp only [History.initial, map_nil, length_nil] at count ⊢
    omega
  · intro others single same ran limit offset kind search
    obtain ⟨alone, given⟩ := started.afterRun size positive others ran
    have equal : history.appended = single.appended := by
      apply eq_of_numbers _ recorded.numbers alone.numbers
      rw [drafts, given, same]
    simp only [AuditLog.list, recorded.ring, alone.ring, equal]
  · intro event member
    exact recorded.filed_once member

/-- An append with its task, a restart and another append. -/
def restartBetween : List Action :=
  [.append (nodeUpEvent "first" 1).toDraft, .start (nodeUpEvent "first" 1), .persist, .restart,
    .append (nodeUpEvent "second" 2).toDraft]

/-- With a ring of one event the second append is listed, and the first is in its file. -/
theorem restart_between_appends :
    ∃ history, run (History.step List.length) (.initial 1) restartBetween = some history ∧
      history.appended = [nodeUpEvent "first" 1, nodeUpEvent "second" 2] ∧
      (history.world.log.list id 10 0 none none).1 = [nodeUpEvent "second" 2] ∧
      ∃ file, ∀ name, StoredIn history.world.storage name (nodeUpEvent "first" 1) ↔
        name = batchFile file := by
  obtain ⟨history, reached, appended, pending⟩ :
      ∃ history, run (History.step List.length) (.initial 1) restartBetween = some history ∧
        history.appended = [nodeUpEvent "first" 1, nodeUpEvent "second" 2] ∧
        history.world.pending = [nodeUpEvent "second" 2] := by
    decide +kernel
  obtain ⟨-, -, listed, -, -, -, once⟩ :=
    restarts_unseen List.length id 1 Nat.one_pos restartBetween history reached
  refine ⟨history, reached, appended, ?_, ?_⟩
  · rw [listed, appended]
    rfl
  rcases once (nodeUpEvent "first" 1) (by simp [appended]) with ⟨waiting, -⟩ | ⟨-, filed⟩
  · rw [pending] at waiting
    exact absurd waiting (by decide)
  · exact filed

end PgVisor.Audit
