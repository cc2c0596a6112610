import PgVisor.AuditLog
import PgVisor.Transitions

/-!
# What a load of the audit log finds

The loader lists the names in storage, reads one object after the other and hands on what it
has found: the events for the ring, the largest id, the largest batch id of the names, and
the batch that was read last under the largest batch id so far. A failed listing ends the
load as if storage were empty, and a failed read is skipped.

While nothing but the loader runs, the log is told from the answers to its requests. If all
are answered, what is handed on covers storage as earlier runs have left it: no stored id and
no stored batch id is larger, and the batch is the one with the largest id.
-/

namespace PgVisor.Audit

open Transitions
open List hiding contains

variable {left storage : Storage} {name : List Char} {answered : Bool} {log : AuditLog}
  {world next : World} {capacity : Nat} {answers : List Bool} {found : Found}

/-- Storage as runs of this version and of older ones leave it: batches under the names of
batch files, other objects under names that no batch file name ends. -/
def LeftBehind (left : Storage) : Prop :=
  ∀ name object, left.lookup name = some object →
    (∃ id events, id < 2 ^ 64 ∧ name = batchFile id ∧ object = .batch events) ∨
    (jsonEnding <:+ name ∧ batchIdOf name = none ∧ ∀ id, ¬ batchFile id <:+ name)

/-- The events of an object, none if there is no such object. -/
def contentOf (storage : Storage) (name : List Char) : List AuditEvent :=
  (storage.lookup name).elim [] StoredObject.events

theorem contentOf_some {object} (present : storage.lookup name = some object) :
    contentOf storage name = object.events := by
  rw [contentOf, present, Option.elim_some]

theorem not_stored_of_empty (empty : left.keys = []) (event : AuditEvent) :
    ¬ Stored left event := by
  rintro ⟨name, object, found, -⟩
  have member : name ∈ left.keys :=
    AList.mem_keys.mp (AList.lookup_isSome.mp (Option.isSome_of_eq_some found))
  rw [empty] at member
  cases member

/-- All names are listed that hold an object. -/
theorem mem_listing (leftBehind : LeftBehind left) (name : List Char) :
    name ∈ listing left ↔ left.lookup name ≠ none := by
  rw [listing, (perm_insertionSort _ _).mem_iff, mem_filter, ← AList.mem_keys,
    ← AList.lookup_isSome, Option.isSome_iff_ne_none]
  constructor
  · exact And.left
  intro present
  refine ⟨present, ?_⟩
  obtain ⟨object, stored⟩ := Option.ne_none_iff_exists'.mp present
  rw [isSuffixOf_iff_suffix]
  rcases leftBehind name object stored with ⟨id, events, -, rfl, -⟩ | ⟨ending, -⟩
  · rw [batchFile, ← append_assoc]
    exact suffix_append _ _
  · exact ending

/-- An object under the name of a batch file is a batch, and the id is a 64-bit word. -/
theorem LeftBehind.batch (leftBehind : LeftBehind left) {id : Nat}
    (present : left.lookup (batchFile id) ≠ none) :
    id < 2 ^ 64 ∧ ∃ events, left.lookup (batchFile id) = some (.batch events) := by
  obtain ⟨object, stored⟩ := Option.ne_none_iff_exists'.mp present
  rcases leftBehind _ object stored with ⟨other, events, bounded, same, rfl⟩ | ⟨-, -, unlike⟩
  · cases batchFile_injective same
    exact ⟨bounded, events, stored⟩
  · exact absurd suffix_rfl (unlike id)

section Largest

variable {α : Type} (key : α → Nat) (items : List α) (largest : Nat)

/-- No key is larger. -/
theorem le_foldl_max :
    largest ≤ items.foldl (fun largest item => max largest (key item)) largest ∧
      ∀ item ∈ items,
        key item ≤ items.foldl (fun largest item => max largest (key item)) largest := by
  induction items generalizing largest with
  | nil => simp
  | cons first rest ih =>
    obtain ⟨start, later⟩ := ih (max largest (key first))
    rw [foldl_cons]
    constructor
    · exact (Nat.le_max_left _ _).trans start
    intro item member
    rcases mem_cons.mp member with rfl | further
    · exact (Nat.le_max_right _ _).trans start
    · exact later item further

/-- The largest key is the one before or that of an item. -/
theorem foldl_max_attained :
    items.foldl (fun largest item => max largest (key item)) largest = largest ∨
      ∃ item ∈ items,
        items.foldl (fun largest item => max largest (key item)) largest = key item := by
  induction items generalizing largest with
  | nil => exact .inl rfl
  | cons first rest ih =>
    rw [foldl_cons]
    rcases ih (max largest (key first)) with same | ⟨item, member, same⟩
    · rcases Nat.le_total (key first) largest with smaller | larger
      · exact .inl (same.trans (max_eq_left smaller))
      · exact .inr ⟨first, mem_cons_self, same.trans (max_eq_right larger)⟩
    · exact .inr ⟨item, mem_cons_of_mem _ member, same⟩

end Largest

/-- The events of an object are taken over, whatever its kind. -/
theorem noteObject_events (found : Found) (name : List Char) (object : StoredObject) :
    (found.noteObject name object).loaded = found.loaded ++ object.events ∧
      (found.noteObject name object).maxId =
        object.events.foldl (fun largest event => max largest event.id) found.maxId ∧
      (found.noteObject name object).maxBatchId = found.maxBatchId := by
  cases object <;> simp [Found.noteObject, StoredObject.events]

/-- The ring gets something unless nothing was loaded. -/
theorem restored_ne_nil (positive : 0 < capacity) {loaded}
    (nonempty : loaded ≠ []) : restored capacity loaded ≠ [] := by
  have sorted : (loaded.insertionSort fun first second => first.id ≤ second.id).destutter
      (fun first second => first.id ≠ second.id) ≠ [] := by
    rw [Ne, destutter_eq_nil, ← length_eq_zero_iff, length_insertionSort, length_eq_zero_iff]
    exact nonempty
  have some := length_pos_iff.mpr sorted
  rw [restored, Ne, drop_eq_nil_iff]
  omega

/-! ### What was read -/

/-- The listed names with the answers to their reads; the first answer is that to the listing. -/
def readings (left : Storage) : List Bool → List (List Char × Bool)
  | true :: reads => (listing left).zip reads
  | _ => []

/-- The largest batch id in the names. -/
def topId (names : List (List Char × Bool)) : Nat :=
  names.foldl (fun top entry => max top ((batchIdOf entry.1).getD 0)) 0

def StoredObject.isBatch : StoredObject → Bool
  | .batch _ => true
  | _ => false

/-- The batch that is taken up, with the names from the last one back: that of the last file that
was read and has the largest id of the names up to it. -/
def latestRead (left : Storage) : List (List Char × Bool) → List AuditEvent
  | [] => []
  | (name, answered) :: earlier =>
    if answered = true ∧ (left.lookup name).any StoredObject.isBatch = true ∧
        batchFile (topId (earlier.reverse ++ [(name, answered)])) <:+ name then
      contentOf left name
    else latestRead left earlier

/-- The events that were read. -/
def readEvents (left : Storage) (names : List (List Char × Bool)) : List AuditEvent :=
  names.flatMap fun entry => if entry.2 = true then contentOf left entry.1 else []

/-- The loop of the loader over the names. -/
def tally (left : Storage) (names : List (List Char × Bool)) : Found :=
  names.foldl (fun found entry =>
    found.absorb entry.1 (if entry.2 = true then left.lookup entry.1 else none)) {}

/-- What the loop has found, said of the names. -/
theorem tally_finds (left : Storage) (names : List (List Char × Bool)) :
    (tally left names).loaded = readEvents left names ∧
      (tally left names).maxId =
        (readEvents left names).foldl (fun largest event => max largest event.id) 0 ∧
      (tally left names).maxBatchId = topId names ∧
      (tally left names).latestBatchEvents = latestRead left names.reverse := by
  induction names using List.reverseRecOn with
  | nil => exact ⟨rfl, rfl, rfl, rfl⟩
  | append_singleton names entry ih =>
    obtain ⟨name, answered⟩ := entry
    obtain ⟨loaded, numbers, top, latest⟩ := ih
    have noted : ((tally left names).noteBatchId name).maxBatchId =
        topId (names ++ [(name, answered)]) := by
      rw [topId, foldl_append, ← topId, ← top]
      cases found : batchIdOf name <;> simp [Found.noteBatchId, found]
    have others : ((tally left names).noteBatchId name).loaded = (tally left names).loaded ∧
        ((tally left names).noteBatchId name).maxId = (tally left names).maxId ∧
        ((tally left names).noteBatchId name).latestBatchEvents =
          (tally left names).latestBatchEvents := by
      cases found : batchIdOf name <;> simp [Found.noteBatchId, found]
    have further : tally left (names ++ [(name, answered)]) = (tally left names).absorb name
        (if answered = true then left.lookup name else none) := by
      rw [tally, foldl_append]
      rfl
    have read : readEvents left (names ++ [(name, answered)]) = readEvents left names ++
        if answered = true then contentOf left name else [] := by
      simp [readEvents]
    rw [further, read, reverse_append, reverse_singleton, singleton_append, latestRead,
      reverse_reverse]
    cases answered with
    | false => simp [Found.absorb, noted, others, loaded, numbers, latest]
    | true =>
      cases stored : left.lookup name with
      | none => simp [Found.absorb, noted, others, loaded, numbers, latest, contentOf, stored]
      | some object =>
        obtain ⟨taken, largest, unmoved⟩ :=
          noteObject_events ((tally left names).noteBatchId name) name object
        simp only [Found.absorb, ↓reduceIte, taken, largest, unmoved, noted, others, loaded,
          numbers, contentOf_some stored, foldl_append, true_and]
        cases object with
        | batch events =>
          simp [Found.noteObject, noted, others, latest, StoredObject.isBatch, StoredObject.events]
        | single event | unreadable => simp [Found.noteObject, others, latest, StoredObject.isBatch]

/-- The loader hands on what it has found, with the events that the ring is to hold. -/
def handedOn (left : Storage) (capacity : Nat) (answers : List Bool) : Found :=
  let found := tally left (readings left answers)
  { found with loaded := restored capacity found.loaded }

/-- The next id after a load. -/
def Found.nextId (found : Found) : Nat := if found.loaded.isEmpty then 1 else found.maxId + 1

/-- The batch and its id after a load. -/
def Found.batch (found : Found) : List AuditEvent × Nat :=
  if 0 < found.maxBatchId then
    if found.latestBatchEvents.length < maxEventsPerBatch then
      (found.latestBatchEvents, found.maxBatchId)
    else ([], found.maxBatchId + 1)
  else ([], 1)

/-- The log after a load. -/
def Found.resumed (found : Found) (capacity : Nat) : AuditLog :=
  { events := found.loaded
    nextId := found.nextId
    capacity
    currentBatch := found.batch.1
    currentBatchId := found.batch.2 }

/-! ### Nothing but the loader -/

/-- Only the loader has run. -/
structure Quiet (left : Storage) (world : World) : Prop where
  storage : world.storage = left
  issued : world.issued = []
  pushed : world.pushed = []
  arriving : world.arriving = []
  tasks : world.tasks = []
  writer : world.writer = none

/-- The loader concerns the log and itself. -/
theorem load_frame (moved : world.load answered = some next) :
    ∃ log loader, next = { world with log := log, loader := loader } ∧
      log.capacity = world.log.capacity := by
  cases loader : world.loader with
  | starting =>
    simp only [World.load, loader] at moved
    split at moved
    all_goals exact ⟨_, _, (Option.some.inj moved).symm, rfl⟩
  | reading name later found =>
    simp only [World.load, loader] at moved
    cases later with
    | nil | cons following rest => exact ⟨_, _, (Option.some.inj moved).symm, rfl⟩
  | refilling found | numbering found =>
    simp only [World.load, loader] at moved
    exact ⟨_, _, (Option.some.inj moved).symm, rfl⟩
  | restoring found =>
    simp only [World.load, loader] at moved
    by_cases short : found.latestBatchEvents.length < maxEventsPerBatch
    · rw [if_pos short] at moved
      cases writing : world.writer with
      | some batchId => simp [writing] at moved
      | none =>
        simp only [writing] at moved
        exact ⟨_, _, (Option.some.inj moved).symm, rfl⟩
    · rw [if_neg short] at moved
      exact ⟨_, _, (Option.some.inj moved).symm, rfl⟩
  | done count => simp [World.load, loader] at moved

/-- A load leaves the rest of the world alone. -/
theorem Quiet.load (quiet : Quiet left world)
    (moved : world.load answered = some next) : Quiet left next := by
  obtain ⟨log, loader, rfl, -⟩ := load_frame moved
  exact { quiet with }

/-- Until the load ends nothing has touched storage. -/
theorem loaded_quiet {size : List AuditEvent → Nat} {capacity : Nat} {answers : List Bool}
    (reached : run (step size) (World.start left capacity) (answers.map .load) = some world) :
    Quiet left world := by
  apply run_invariant (step size) (fun _ label => ∃ answer ∈ answers, .load answer = label)
    (Quiet left) _ ⟨rfl, rfl, rfl, rfl, rfl, rfl⟩ (meets_labels fun _ => mem_map.mp) reached
  rintro before _ after quiet ⟨answer, -, rfl⟩ moved
  exact quiet.load moved

def Loader.isDone : Loader → Bool
  | .done _ => true
  | _ => false

/-- No further answer matters any more. -/
def Complete (left : Storage) (answers : List Bool) : Prop :=
  ∀ more, readings left (answers ++ more) = readings left answers

/-- Where a load is that has got these answers. -/
def Underway (left : Storage) (capacity : Nat) (answers : List Bool) (log : AuditLog) :
    Loader → Prop
  | .starting => answers = [] ∧ log = .new capacity
  | .reading next later found => ∃ seen, answers = true :: seen.map Prod.snd ∧
      listing left = seen.map Prod.fst ++ next :: later ∧ found = tally left seen ∧
      log = .new capacity
  | .refilling found => Complete left answers ∧ found = handedOn left capacity answers ∧
      found.loaded ≠ [] ∧ log = .new capacity
  | .numbering found => Complete left answers ∧ found = handedOn left capacity answers ∧
      found.loaded ≠ [] ∧ log = { AuditLog.new capacity with events := found.loaded }
  | .restoring found => Complete left answers ∧ found = handedOn left capacity answers ∧
      0 < found.maxBatchId ∧
      log = { AuditLog.new capacity with events := found.loaded, nextId := found.nextId }
  | .done _ => Complete left answers ∧ log = (handedOn left capacity answers).resumed capacity

theorem Complete.append (complete : Complete left answers) (more : List Bool) :
    Complete left (answers ++ more) := by
  intro further
  rw [append_assoc, complete, complete]

/-- Once no answer matters, further ones change nothing of what is handed on. -/
theorem Complete.handedOn (complete : Complete left answers) (more : List Bool) :
    handedOn left capacity (answers ++ more) = handedOn left capacity answers := by
  rw [Audit.handedOn, complete, Audit.handedOn]

theorem underway_afterRing (complete : Complete left answers)
    (handed : found = handedOn left capacity answers)
    (ring : log = { AuditLog.new capacity with events := found.loaded, nextId := found.nextId }) :
    Underway left capacity answers log (.afterRing found) := by
  unfold Loader.afterRing
  split
  next batches => exact ⟨complete, handed, batches, ring⟩
  next none_listed =>
    subst handed
    refine ⟨complete, ?_⟩
    simp only [ring, Found.resumed, Found.batch, if_neg none_listed, AuditLog.new]

theorem underway_settle (complete : Complete left answers) :
    Underway left capacity answers (.new capacity)
      (.settle capacity (tally left (readings left answers))) := by
  unfold Loader.settle
  dsimp only
  split
  next empty =>
    apply underway_afterRing complete rfl
    simp [handedOn, Found.nextId, isEmpty_iff.mp empty, AuditLog.new]
  next some_loaded => exact ⟨complete, rfl, by simpa using some_loaded, rfl⟩

/-- One step of the loader. -/
theorem Quiet.underway (quiet : Quiet left world)
    (underway : Underway left capacity answers world.log world.loader)
    (moved : world.load answered = some next) :
    Underway left capacity (answers ++ [answered]) next.log next.loader := by
  cases loader : world.loader with
  | starting =>
    rw [loader] at underway
    obtain ⟨rfl, fresh⟩ := underway
    simp only [World.load, loader, quiet.storage] at moved
    split at moved
    next none_listed =>
      cases moved
      have nothing (more : List Bool) : readings left (answered :: more) = [] := by
        cases answered with
        | false => rfl
        | true => rw [readings, show listing left = [] from none_listed, zip_nil_left]
      refine ⟨fun more => (nothing more).trans (nothing []).symm, ?_⟩
      simp [fresh, handedOn, nothing, tally, restored, Found.resumed, Found.nextId, Found.batch,
        AuditLog.new]
    next first later listed =>
      cases moved
      cases answered with
      | false => cases listed
      | true => exact ⟨[], rfl, listed, rfl, fresh⟩
  | reading name later found =>
    rw [loader] at underway
    obtain ⟨seen, rfl, listed, rfl, fresh⟩ := underway
    simp only [World.load, loader, quiet.storage] at moved
    have further : (tally left seen).absorb name
        (if answered = true then left.lookup name else none) =
          tally left (seen ++ [(name, answered)]) := by
      rw [tally, tally, foldl_append]
      rfl
    have consumed : true :: seen.map Prod.snd ++ [answered] =
        true :: (seen ++ [(name, answered)]).map Prod.snd := by simp
    rw [further] at moved
    cases later with
    | cons following rest =>
      cases moved
      exact ⟨seen ++ [(name, answered)], consumed, by simp [listed], rfl, fresh⟩
    | nil =>
      cases moved
      have names : listing left = (seen ++ [(name, answered)]).map Prod.fst := by simp [listed]
      have all (more : List Bool) :
          readings left (true :: (seen ++ [(name, answered)]).map Prod.snd ++ more) =
            seen ++ [(name, answered)] := by
        have pairs : ((seen ++ [(name, answered)]).map Prod.fst).zip
            ((seen ++ [(name, answered)]).map Prod.snd) = seen ++ [(name, answered)] :=
          (zip_of_prod rfl rfl).symm
        rw [cons_append, readings, names, ← append_nil (map Prod.fst _), zip_append (by simp),
          pairs, zip_nil_left, append_nil]
      have read := all []
      rw [append_nil] at read
      dsimp only
      rw [consumed, fresh, ← congrArg (tally left) read]
      exact underway_settle fun more => by rw [all, read]
  | refilling found =>
    rw [loader] at underway
    obtain ⟨complete, rfl, loaded, fresh⟩ := underway
    simp only [World.load, loader, fresh] at moved
    cases moved
    exact ⟨complete.append _, (complete.handedOn _).symm, loaded, rfl⟩
  | numbering found =>
    rw [loader] at underway
    obtain ⟨complete, rfl, loaded, refilled⟩ := underway
    simp only [World.load, loader, refilled] at moved
    cases moved
    apply underway_afterRing (complete.append _) (complete.handedOn _).symm
    rw [Found.nextId, if_neg (by simpa using loaded)]
  | restoring found =>
    rw [loader] at underway
    obtain ⟨complete, rfl, batches, numbered⟩ := underway
    simp only [World.load, loader, quiet.writer, numbered] at moved
    split at moved
    next short =>
      cases moved
      refine ⟨complete.append _, ?_⟩
      simp only [complete.handedOn, Found.resumed, Found.batch, if_pos batches, if_pos short,
        AuditLog.new]
    next full =>
      cases moved
      refine ⟨complete.append _, ?_⟩
      simp only [complete.handedOn, Found.resumed, Found.batch, if_pos batches, if_neg full,
        AuditLog.new]
  | done count => simp [World.load, loader] at moved

/-- All steps of the loader. -/
theorem Quiet.underway_run {size : List AuditEvent → Nat} {more : List Bool}
    (quiet : Quiet left world) (underway : Underway left capacity answers world.log world.loader)
    (reached : run (step size) world (more.map .load) = some next) :
    Underway left capacity (answers ++ more) next.log next.loader := by
  induction more generalizing world answers with
  | nil =>
    cases reached
    rwa [append_nil]
  | cons answer rest ih =>
    obtain ⟨middle, moved, later⟩ := run_cons_inv reached
    rw [append_cons]
    exact ih (quiet.load moved) (quiet.underway underway moved) later

/-- The log that a finished load leaves. -/
theorem Underway.finished {loader : Loader} (underway : Underway left capacity answers log loader)
    (finished : loader.isDone = true) :
    Complete left answers ∧ log = (handedOn left capacity answers).resumed capacity := by
  cases loader with
  | done count => exact underway
  | _ => simp [Loader.isDone] at finished

/-- The log at the end of a load. -/
theorem loaded_log {size : List AuditEvent → Nat}
    (reached : run (step size) (World.start left capacity) (answers.map .load) = some world)
    (finished : world.loader.isDone = true) :
    Complete left answers ∧ world.log = (handedOn left capacity answers).resumed capacity := by
  have started : Quiet left (World.start left capacity) := ⟨rfl, rfl, rfl, rfl, rfl, rfl⟩
  have fresh : Underway left capacity [] (World.start left capacity).log .starting := ⟨rfl, rfl⟩
  exact (started.underway_run fresh reached).finished finished

/-! ### Loads that are answered -/

/-- The names, all of them read. -/
def allRead (names : List (List Char)) : List (List Char × Bool) :=
  names.map fun name => (name, true)

theorem zip_answered (names : List (List Char)) (spare : Nat) :
    names.zip (replicate (spare + names.length) true) = allRead names := by
  induction names with
  | nil => rfl
  | cons name rest ih =>
    rw [length_cons, ← Nat.add_assoc, replicate_succ, zip_cons_cons, ih]
    rfl

/-- With every read answered, every file is read. -/
theorem readings_answered {count : Nat} (complete : Complete left (replicate count true)) :
    readings left (replicate count true) = allRead (listing left) := by
  have more := complete (replicate ((listing left).length + 1) true)
  rw [replicate_append_replicate, ← Nat.add_assoc, replicate_succ, readings, zip_answered] at more
  exact more.symm

/-- No file that was listed has a larger id. -/
theorem le_topId (leftBehind : LeftBehind left) {id : Nat} {names : List (List Char)}
    (present : left.lookup (batchFile id) ≠ none) (member : batchFile id ∈ names) :
    id ≤ topId (allRead names) := by
  have counted := (le_foldl_max (fun entry : List Char × Bool => (batchIdOf entry.1).getD 0)
    (allRead names) 0).2 (batchFile id, true) (mem_map_of_mem member)
  rwa [batchIdOf_batchFile id (leftBehind.batch present).1] at counted

/-- The batch that is taken up is that of the file with the largest id. -/
theorem latestRead_allRead (leftBehind : LeftBehind left) (names : List (List Char))
    (present : ∀ name ∈ names, left.lookup name ≠ none)
    (member : batchFile (topId (allRead names)) ∈ names) :
    latestRead left (allRead names).reverse =
      contentOf left (batchFile (topId (allRead names))) := by
  induction names using List.reverseRecOn with
  | nil => cases member
  | append_singleton names name ih =>
    have apart : allRead (names ++ [name]) = allRead names ++ [(name, true)] := map_append
    have stored := present _ member
    rw [apart] at member stored ⊢
    obtain ⟨-, batch, filed⟩ := leftBehind.batch stored
    rw [reverse_append, reverse_singleton, singleton_append, latestRead, reverse_reverse]
    split
    next newest =>
      -- the last name ends as that file's, so it is that name
      obtain ⟨object, found⟩ :=
        Option.ne_none_iff_exists'.mp (present name (mem_append_right _ mem_cons_self))
      rcases leftBehind name object found with ⟨id, events, -, rfl, -⟩ | ⟨-, -, unlike⟩
      · rw [(batchFile_suffix_iff _ _).mp newest.2.2]
      · exact absurd newest.2.2 (unlike _)
    next older =>
      have other : batchFile (topId (allRead names ++ [(name, true)])) ≠ name := by
        intro same
        refine older ⟨rfl, ?_, ?_⟩
        · rw [← same, filed]
          rfl
        · rw [same]
      have earlier : batchFile (topId (allRead names ++ [(name, true)])) ∈ names :=
        (mem_append.mp member).resolve_right fun last => other (mem_singleton.mp last)
      have same : topId (allRead names ++ [(name, true)]) = topId (allRead names) := by
        apply Nat.le_antisymm (le_topId leftBehind stored earlier)
        rw [topId, topId, foldl_append]
        exact Nat.le_max_left _ _
      rw [same] at earlier ⊢
      exact ih (fun name inside => present name (mem_append_left _ inside)) earlier

/-- What the loader hands on covers storage. -/
structure Gathered (left : Storage) (capacity : Nat) (found : Found) : Prop where
  loaded : found.loaded = restored capacity ((listing left).flatMap (contentOf left))
  numbers : found.maxId = ((listing left).flatMap (contentOf left)).foldl
    (fun largest event => max largest event.id) 0
  highest : ∀ id, left.lookup (batchFile id) ≠ none → id ≤ found.maxBatchId
  attained : found.maxBatchId = 0 ∨ left.lookup (batchFile found.maxBatchId) ≠ none
  latest : left.lookup (batchFile found.maxBatchId) ≠ none →
    found.latestBatchEvents = contentOf left (batchFile found.maxBatchId)

/-- A load that is answered gathers everything. -/
theorem gathered_handedOn (leftBehind : LeftBehind left) {count : Nat}
    (complete : Complete left (replicate count true)) :
    Gathered left capacity (handedOn left capacity (replicate count true)) := by
  obtain ⟨loaded, numbers, top, latest⟩ := tally_finds left (allRead (listing left))
  have events : readEvents left (allRead (listing left)) =
      (listing left).flatMap (contentOf left) := by simp [readEvents, allRead, flatMap_map]
  rw [events] at loaded numbers
  rw [handedOn, readings_answered complete]
  constructor
  · simp only [loaded]
  · exact numbers
  all_goals
    dsimp only
    rw [top]
  · intro id present
    exact le_topId leftBehind present ((mem_listing leftBehind _).mpr present)
  · rcases foldl_max_attained (fun entry : List Char × Bool => (batchIdOf entry.1).getD 0)
      (allRead (listing left)) 0 with none_listed | ⟨entry, listed, same⟩
    · exact .inl none_listed
    obtain ⟨name, member, rfl⟩ := mem_map.mp listed
    have present := (mem_listing leftBehind name).mp member
    obtain ⟨object, stored⟩ := Option.ne_none_iff_exists'.mp present
    rcases leftBehind name object stored with ⟨id, events, bounded, rfl, -⟩ | ⟨-, unnumbered, -⟩
    · rw [batchIdOf_batchFile id bounded] at same
      rw [topId, same]
      exact .inr present
    · rw [unnumbered] at same
      exact .inl same
  · intro present
    rw [latest]
    exact latestRead_allRead leftBehind _ (fun name => (mem_listing leftBehind name).mp)
      ((mem_listing leftBehind _).mpr present)

/-- The next id is above every stored one. -/
theorem Gathered.lt_nextId (gathered : Gathered left capacity found) (leftBehind : LeftBehind left)
    (positive : 0 < capacity) {old : AuditEvent} (stored : Stored left old) :
    old.id < found.nextId := by
  obtain ⟨name, object, present, inside⟩ := stored
  have member : old ∈ (listing left).flatMap (contentOf left) := by
    refine mem_flatMap.mpr ⟨name, (mem_listing leftBehind name).mpr (by simp [present]), ?_⟩
    rwa [contentOf_some present]
  have refills := restored_ne_nil positive (ne_nil_of_mem member)
  rw [Found.nextId, gathered.loaded, if_neg (by simpa using refills), gathered.numbers]
  exact Nat.lt_succ_of_le ((le_foldl_max AuditEvent.id _ 0).2 old member)

/-- Only the loader has run, and its requests were answered. -/
def Early (left : Storage) (capacity : Nat) (world : World) : Prop :=
  Quiet left world ∧ ∃ count, Underway left capacity (replicate count true) world.log world.loader

theorem start_early (left : Storage) (capacity : Nat) :
    Early left capacity (World.start left capacity) :=
  ⟨⟨rfl, rfl, rfl, rfl, rfl, rfl⟩, 0, rfl, rfl⟩

/-- One more answered read. -/
theorem Early.load (early : Early left capacity world) (moved : world.load true = some next) :
    Early left capacity next := by
  obtain ⟨quiet, count, underway⟩ := early
  refine ⟨quiet.load moved, count + 1, ?_⟩
  rw [replicate_succ']
  exact quiet.underway underway moved

end PgVisor.Audit
