import PgVisor.AuditReading

/-!
# Loading the audit log beside appends

The loader replaces the ring, the next id and the batch by what it found in storage, and
nothing keeps appends and their tasks from using them before. An append that comes too
early takes an id that a stored event has, and is dropped from the ring when the ring is
refilled; a task that comes too early writes its batch over the first stored one.

If appends take their ids once the loader has stored the next id, if tasks start once it
has restored the batch, and if it lists before anything of this run is stored, then no
stored event is lost, the ring gives up an event of this run only for as many newer ones
as it holds, and no id is used twice. Over empty storage the loader finds nothing and
appends need not wait for it.
-/

namespace PgVisor.Audit

open Retention Transitions
open List hiding contains

variable {events : List AuditEvent} {event : AuditEvent} {storage : Storage} {batchId : Nat}

namespace Loader

def isStarting : Loader → Bool
  | .starting => true
  | _ => false

/-- The next id has been stored. -/
def numbered : Loader → Bool
  | .restoring _ => true
  | .done _ => true
  | _ => false

/-- Not between the listing and the restored batch. -/
def outside : Loader → Bool
  | .starting => true
  | .done _ => true
  | _ => false

end Loader

/-- Storage answers, and appends, tasks and the loader keep out of each other's way. -/
def InOrder (left : Storage) (world : World) : Label → Prop
  | .issue _ =>
    world.loader.numbered = true ∨ (world.loader.isStarting = true ∧ left.keys = [])
  | .push _ => True
  | .start _ => world.loader.outside = true
  | .persist reply => reply = .written
  | .load answered =>
    answered = true ∧ (world.loader.isStarting = true → world.issued = [] ∨ world.storage.keys = [])

instance (left : Storage) (world : World) (label : Label) : Decidable (InOrder left world label) :=
  match label with
  | .issue _ => inferInstanceAs (Decidable (_ ∨ _))
  | .push _ => inferInstanceAs (Decidable True)
  | .start _ => inferInstanceAs (Decidable (_ = _))
  | .persist _ => inferInstanceAs (Decidable (_ = _))
  | .load _ => inferInstanceAs (Decidable (_ ∧ _))

theorem eq_of_nodup_flatMap {α β : Type} {items : List α} {parts : α → List β}
    (distinct : (items.flatMap parts).Nodup) {first second : α} {part : β} (one : first ∈ items)
    (other : second ∈ items) (inOne : part ∈ parts first) (inOther : part ∈ parts second) :
    first = second := by
  by_contra apart
  have symmetric : Std.Symm (Function.onFun List.Disjoint parts) :=
    ⟨fun _ _ separate => List.Disjoint.symm separate⟩
  exact (nodup_flatMap.mp distinct).2.forall one other apart inOne inOther

section Phases

variable {left : Storage} {capacity : Nat} {world next : World} {found : Found} {loader : Loader}

/-- Nothing of this run has reached storage or the batch. -/
structure Unwritten (left : Storage) (world : World) : Prop where
  storage : world.storage = left
  writer : world.writer = none
  batch : world.log.currentBatch = []
  batchId : world.log.currentBatchId = 1

/-- The next id is above every stored one. -/
def Numbered (left : Storage) (world : World) : Prop :=
  ∀ old, Stored left old → old.id < world.log.nextId

/-- The stored events are still there, and the batch covers the object it is going to
replace. -/
structure Covered (left : Storage) (world : World) : Prop where
  keeps : ∀ old, Stored left old → Stored world.storage old
  writer : ∀ id ∈ world.writer, id = world.log.currentBatchId
  current : ∀ object, world.storage.lookup (batchFile world.log.currentBatchId) = some object →
    ∀ event ∈ object.events, event ∈ world.log.currentBatch
  beyond : ∀ id, world.log.currentBatchId < id → world.storage.lookup (batchFile id) = none

/-- The batch that was gathered covers storage. -/
theorem Gathered.covered (gathered : Gathered left capacity found) (same : world.storage = left)
    (idle : world.writer = none)
    (batch : (world.log.currentBatch, world.log.currentBatchId) = found.batch) :
    Covered left world := by
  have keeps (old : AuditEvent) (stored : Stored left old) : Stored world.storage old := by
    rwa [same]
  have absent (id : Nat) (larger : found.maxBatchId < id) :
      world.storage.lookup (batchFile id) = none := by
    rw [same]
    by_contra present
    exact absurd (gathered.highest id present) (Nat.not_le_of_lt larger)
  have fresh (later : found.maxBatchId < world.log.currentBatchId) : Covered left world := by
    refine ⟨keeps, by simp [idle], ?_, fun id larger => absent id (later.trans larger)⟩
    intro object stored
    rw [absent _ later] at stored
    cases stored
  unfold Found.batch at batch
  split at batch
  · split at batch
    · obtain ⟨current, number⟩ := Prod.mk.inj batch
      refine ⟨keeps, by simp [idle], ?_, fun id larger => absent id (number ▸ larger)⟩
      intro object stored event inside
      rw [number, same] at stored
      rw [current, gathered.latest (by simp [stored]), contentOf_some stored]
      exact inside
    · exact fresh ((Prod.mk.inj batch).2 ▸ Nat.lt_succ_self _)
  · have number := (Prod.mk.inj batch).2
    exact fresh (by omega)

/-- What holds once appends have begun, in the phases in which they may. -/
inductive Late (left : Storage) (world : World) : Loader → Prop where
  | starting (empty : left.keys = []) (issued : world.issued ≠ []) : Late left world .starting
  | restoring {capacity : Nat} {found : Found} (unwritten : Unwritten left world)
      (gathered : Gathered left capacity found) (batches : 0 < found.maxBatchId)
      (numbered : Numbered left world) : Late left world (.restoring found)
  | done {count : Nat} (numbered : Numbered left world)
      (covers : left.keys = [] ∨ Covered left world) : Late left world (.done count)

/-- Once the next id is stored, appends may begin. -/
theorem Early.late (early : Early left capacity world) (leftBehind : LeftBehind left)
    (positive : 0 < capacity) (stored : world.loader.numbered = true) :
    Late left world world.loader := by
  obtain ⟨quiet, answers, underway⟩ := early
  cases loader : world.loader with
  | restoring found =>
    rw [loader] at underway
    obtain ⟨complete, rfl, batches, log⟩ := underway
    have gathered : Gathered left capacity _ := gathered_handedOn leftBehind complete
    refine .restoring ⟨quiet.storage, quiet.writer, ?_, ?_⟩ gathered batches fun old known => ?_
    all_goals rw [log]
    · rfl
    · rfl
    · exact gathered.lt_nextId leftBehind positive known
  | done count =>
    rw [loader] at underway
    obtain ⟨complete, log⟩ := underway
    have gathered : Gathered left capacity _ := gathered_handedOn leftBehind complete
    refine .done (fun old known => ?_) (.inr (gathered.covered quiet.storage quiet.writer ?_))
    all_goals rw [log]
    · exact gathered.lt_nextId leftBehind positive known
    · rfl
  | _ => simp [loader, Loader.numbered] at stored

theorem Late.numbered (late : Late left world loader) : Numbered left world := by
  cases late with
  | starting empty => exact fun old stored => absurd stored (not_stored_of_empty empty old)
  | restoring _ _ _ numbered => exact numbered
  | done numbered => exact numbered

/-- A step of an append or a task keeps the phase if it keeps what the phase rests on. -/
theorem Late.keep (late : Late left world loader) (issued : world.issued ≠ [] → next.issued ≠ [])
    (unwritten : ∀ found, loader = .restoring found → Unwritten left world → Unwritten left next)
    (numbered : Numbered left world → Numbered left next)
    (covered : Covered left world → Covered left next) : Late left next loader := by
  cases late with
  | starting empty begun => exact .starting empty (issued begun)
  | restoring before gathered batches known =>
    exact .restoring (unwritten _ rfl before) gathered batches (numbered known)
  | done known covers => exact .done (numbered known) (covers.imp_right covered)

end Phases

/-- The invariant of runs in order. -/
structure Orderly (left : Storage) (capacity : Nat) (world : World) : Prop where
  bounded : world.log.capacity = capacity
  ring : Window capacity world.log.events world.pushed
  distinct : (world.issued.map AuditEvent.id).Nodup
  below : ∀ event ∈ world.issued, event.id < world.log.nextId
  apart : ∀ event ∈ world.issued, ∀ old, Stored left old → event.id ≠ old.id
  phase : Early left capacity world ∨ Late left world world.loader

theorem start_orderly (left : Storage) (capacity : Nat) :
    Orderly left capacity (World.start left capacity) where
  bounded := rfl
  ring := window_start capacity []
  distinct := nodup_nil
  below := by simp [World.start]
  apart := by simp [World.start]
  phase := .inl (start_early left capacity)

section Steps

variable {left : Storage} {capacity : Nat} {world next : World}

theorem issue_orderly (leftBehind : LeftBehind left) (positive : 0 < capacity)
    (orderly : Orderly left capacity world) (draft : Draft)
    (order : InOrder left world (.issue draft)) : Orderly left capacity (world.issue draft) := by
  have late (stored : world.loader.numbered = true) : Late left world world.loader :=
    orderly.phase.elim (·.late leftBehind positive stored) id
  have numbered : Numbered left world := by
    rcases order with stored | ⟨-, empty⟩
    · exact (late stored).numbered
    · exact fun old stored => absurd stored (not_stored_of_empty empty old)
  have larger : Numbered left (world.issue draft) := by
    intro old stored
    exact (numbered old stored).trans (Nat.lt_succ_self _)
  refine ⟨orderly.bounded, orderly.ring, ?_, ?_, ?_, ?_⟩
  · have fresh : world.log.nextId ∉ world.issued.map AuditEvent.id := by
      rintro used
      obtain ⟨event, member, same⟩ := mem_map.mp used
      exact absurd same (Nat.ne_of_lt (orderly.below event member))
    simpa [World.issue, nodup_append, orderly.distinct] using fresh
  · intro event member
    rcases mem_append.mp member with before | new
    · exact (orderly.below event before).trans (Nat.lt_succ_self _)
    · rw [mem_singleton.mp new]
      exact Nat.lt_succ_self _
  · intro event member old stored
    rcases mem_append.mp member with before | new
    · exact orderly.apart event before old stored
    · rw [mem_singleton.mp new]
      exact (Nat.ne_of_lt (numbered old stored)).symm
  · have issued : (world.issue draft).issued ≠ [] := by simp [World.issue]
    right
    rcases order with stored | ⟨starting, empty⟩
    · exact (late stored).keep (fun _ => issued) (fun _ _ unwritten => { unwritten with })
        (fun _ => larger) fun covered => { covered with }
    · cases loader : world.loader with
      | starting =>
        rw [show (world.issue draft).loader = .starting from loader]
        exact .starting empty issued
      | _ => simp [loader, Loader.isStarting] at starting

theorem push_orderly (positive : 0 < capacity) (orderly : Orderly left capacity world)
    (waiting : event ∈ world.arriving) :
    Orderly left capacity (world.push event) := by
  have late : Late left world world.loader := by
    refine orderly.phase.resolve_left fun early => ?_
    rw [early.1.arriving] at waiting
    cases waiting
  refine { orderly with ring := ?_, phase := .inr ?_ }
  · have pushed := orderly.ring.push positive event
    rwa [← orderly.bounded] at pushed ⊢
  · exact late.keep id (fun _ _ unwritten => { unwritten with }) id fun covered => { covered with }

theorem begin_orderly (orderly : Orderly left capacity world)
    (waiting : event ∈ world.tasks) (outside : world.loader.outside = true) :
    Orderly left capacity (world.begin event) := by
  have late : Late left world world.loader := by
    refine orderly.phase.resolve_left fun early => ?_
    rw [early.1.tasks] at waiting
    cases waiting
  refine { orderly with phase := .inr (late.keep id ?_ id ?_) }
  · intro found restoring
    simp [restoring, Loader.outside] at outside
  intro covered
  refine ⟨covered.keeps, ?_, ?_, covered.beyond⟩
  · intro batchId writing
    exact (Option.some.inj writing).symm
  · intro object stored old inside
    exact mem_append_left _ (covered.current object stored old inside)

/-- Replacing an object keeps the events that the new content covers. -/
theorem stored_insert {name old} (stored : Stored storage old)
    (covers : ∀ object, storage.lookup name = some object →
      ∀ event ∈ object.events, event ∈ events) :
    Stored (storage.insert name (.batch events)) old := by
  obtain ⟨other, object, found, inside⟩ := stored
  by_cases same : other = name
  · refine ⟨name, .batch events, AList.lookup_insert storage, ?_⟩
    exact covers object (same ▸ found) old inside
  · exact ⟨other, object, (AList.lookup_insert_ne same).trans found, inside⟩

variable (size : List AuditEvent → Nat)

/-- A written batch covers its events. -/
theorem persist_covered (covered : Covered left world) (writing : world.writer = some batchId) :
    Covered left (world.persist size batchId .written) := by
  cases covered.writer batchId writing
  have keeps : ∀ old, Stored left old → Stored (world.storage.insert
      (batchFile world.log.currentBatchId) (.batch world.log.currentBatch)) old := by
    intro old stored
    exact stored_insert (covered.keeps old stored) covered.current
  have beyond : ∀ id, world.log.currentBatchId < id → (world.storage.insert
      (batchFile world.log.currentBatchId) (.batch world.log.currentBatch)).lookup
        (batchFile id) = none := by
    intro id larger
    rw [AList.lookup_insert_ne (batchFile_injective.ne (Nat.ne_of_gt larger))]
    exact covered.beyond id larger
  unfold World.persist
  simp only
  split
  · refine ⟨keeps, by simp, ?_, ?_⟩
    · intro object stored
      rw [beyond _ (Nat.lt_succ_self _)] at stored
      cases stored
    · intro id larger
      exact beyond id (Nat.lt_of_succ_lt larger)
  · refine ⟨keeps, by simp, ?_, beyond⟩
    intro object stored event inside
    rw [AList.lookup_insert] at stored
    cases stored
    exact inside

/-- A write concerns storage, the batch and its id. -/
theorem persist_frame (world : World) (batchId : Nat) (reply : WriteReply) :
    ∃ storage batch current, world.persist size batchId reply = { world with
        storage := storage, writer := none
        log := { world.log with currentBatch := batch, currentBatchId := current } } := by
  cases reply with
  | failed visible => exact ⟨_, _, _, rfl⟩
  | written =>
    simp only [World.persist]
    split
    all_goals exact ⟨_, _, _, rfl⟩

/-- A write keeps the order. -/
theorem persist_orderly (orderly : Orderly left capacity world)
    (writing : world.writer = some batchId) :
    Orderly left capacity (world.persist size batchId .written) := by
  have held : world.writer ≠ none := by simp [writing]
  have late := orderly.phase.resolve_left fun early => held early.1.writer
  have covered := fun before : Covered left world => persist_covered size before writing
  obtain ⟨storage, batch, current, frame⟩ := persist_frame size world batchId .written
  rw [frame] at covered ⊢
  refine { orderly with phase := .inr (late.keep id ?_ id covered) }
  intro found _ unwritten
  exact absurd unwritten.writer held

/-- The loader goes on: alone, over empty storage, or with the batch that it restores. -/
theorem load_orderly (orderly : Orderly left capacity world)
    (order : world.loader.isStarting = true → world.issued = [] ∨ world.storage.keys = [])
    (moved : world.load true = some next) : Orderly left capacity next := by
  rcases orderly.phase with early | late
  · have later := early.load moved
    obtain ⟨log, loader, rfl, same⟩ := load_frame moved
    refine { orderly with
      bounded := same.trans orderly.bounded, ring := ?_, below := ?_, phase := .inl later }
    · simp only [early.1.pushed]
      exact window_start capacity log.events
    · simp [early.1.issued]
  generalize shape : world.loader = loader at late
  cases late with
  | starting empty issued =>
    have nothing : listing world.storage = [] := by
      simp [listing, (order (by rw [shape]; rfl)).resolve_left issued]
    simp only [World.load, shape, ↓reduceIte, nothing] at moved
    cases moved
    refine { orderly with phase := .inr (.done ?_ (.inl empty)) }
    exact fun old stored => absurd stored (not_stored_of_empty empty old)
  | restoring unwritten gathered batches numbered =>
    simp only [World.load, shape, unwritten.writer] at moved
    split at moved
    next short =>
      cases moved
      refine { orderly with
        phase := .inr (.done numbered (.inr (gathered.covered unwritten.storage rfl ?_))) }
      rw [Found.batch, if_pos batches, if_pos short]
    next full =>
      cases moved
      refine { orderly with
        phase := .inr (.done numbered (.inr (gathered.covered unwritten.storage rfl ?_))) }
      rw [Found.batch, if_pos batches, if_neg full, unwritten.batch]
  | done => simp [World.load, shape] at moved

/-- Every step in order keeps the invariant. -/
theorem step_orderly (leftBehind : LeftBehind left) (positive : 0 < capacity) {label}
    (orderly : Orderly left capacity world) (order : InOrder left world label)
    (moved : step size world label = some next) : Orderly left capacity next := by
  cases label with
  | issue draft =>
    cases moved
    exact issue_orderly leftBehind positive orderly draft order
  | push event =>
    obtain ⟨granted, rfl⟩ := guard_holds moved
    exact push_orderly positive orderly granted.1
  | start event =>
    obtain ⟨granted, rfl⟩ := guard_holds moved
    exact begin_orderly orderly granted.1 order
  | persist reply =>
    obtain ⟨batchId, writing, rfl⟩ := Option.map_eq_some_iff.mp moved
    cases order
    exact persist_orderly size orderly writing
  | load answered =>
    obtain ⟨rfl, first⟩ := order
    exact load_orderly orderly first moved

/-- The events of earlier runs are stored in every phase of the loader. -/
theorem Orderly.kept (orderly : Orderly left capacity world) (old : AuditEvent)
    (stored : Stored left old) : Stored world.storage old := by
  rcases orderly.phase with early | late
  · rwa [early.1.storage]
  generalize world.loader = loader at late
  cases late with
  | starting empty => exact absurd stored (not_stored_of_empty empty old)
  | restoring unwritten => rwa [unwritten.storage]
  | done _ covers =>
    rcases covers with empty | covered
    · exact absurd stored (not_stored_of_empty empty old)
    · exact covered.keeps old stored

end Steps

/-- In every run whose steps are in order, no event of an earlier run leaves storage, an
event pushed in this run leaves the ring only for as many newer ones as the ring holds,
and no event of this run has the id of another event. -/
theorem audit_kept_in_order (size : List AuditEvent → Nat) (left : Storage)
    (leftBehind : LeftBehind left) (capacity : Nat) (positive : 0 < capacity)
    (labels : List Label) (world : World)
    (inOrder : Meets (step size) (InOrder left) (World.start left capacity) labels)
    (reached : run (step size) (World.start left capacity) labels = some world) :
    (∀ old, Stored left old → Stored world.storage old) ∧ (∀ event ∈ world.pushed,
        event ∈ world.log.events ∨ Followed capacity world.pushed event) ∧
      (world.issued.map AuditEvent.id).Nodup ∧
      ∀ event ∈ world.issued, ∀ old, Stored left old → event.id ≠ old.id := by
  have orderly : Orderly left capacity world := by
    apply run_invariant (step size) (InOrder left) (Orderly left capacity) _
      (start_orderly left capacity) inOrder reached
    intro before label after orderly order moved
    exact step_orderly size leftBehind positive orderly order moved
  refine ⟨orderly.kept, ?_, orderly.distinct, orderly.apart⟩
  intro event member
  exact orderly.ring.mem_or_followed member

/-- An event by its detail and id. -/
def nodeUpEvent (detail : String) (id : Nat) : AuditEvent :=
  { occurredAt := 0, kind := .nodeUp, nodeId := some 1, nodeAddress := none, detail,
    pitrTarget := none, id }

/-- One batch with one event, left by an earlier run. -/
def oneBatch : Storage := (∅ : Storage).insert (batchFile 1) (.batch [nodeUpEvent "earlier" 1])

theorem oneBatch_leftBehind : LeftBehind oneBatch := by
  intro name object stored
  left
  by_cases same : name = batchFile 1
  · rw [same, oneBatch, AList.lookup_insert] at stored
    exact ⟨1, _, by decide, same, (Option.some.inj stored).symm⟩
  · rw [oneBatch, AList.lookup_insert_ne same] at stored
    cases stored

instance (storage : Storage) (event : AuditEvent) : Decidable (Stored storage event) :=
  decidable_of_iff (∃ entry ∈ storage.entries, event ∈ entry.2.events) (by
    constructor
    · rintro ⟨⟨name, object⟩, member, inside⟩
      exact ⟨name, object, AList.mem_lookup_iff.mpr member, inside⟩
    · rintro ⟨name, object, stored, inside⟩
      exact ⟨⟨name, object⟩, AList.mem_lookup_iff.mp stored, inside⟩)

/-- An append with its task, numbered as it will be. -/
def appendOf (event : AuditEvent) : List Label :=
  [.issue event.toDraft, .push event, .start event, .persist .written]

/-- An append that comes between the loader's read and its refill takes the id of the
stored event, overwrites its batch and is dropped from the ring. -/
theorem early_append_collides : LeftBehind oneBatch ∧
      ∃ world, run (step List.length) (World.start oneBatch 2000)
          ([.load true, .load true] ++ appendOf (nodeUpEvent "new" 1) ++ [.load true]) =
            some world ∧
        (Stored oneBatch (nodeUpEvent "earlier" 1) ∧
          ¬ Stored world.storage (nodeUpEvent "earlier" 1)) ∧
        (nodeUpEvent "new" 1 ∈ world.pushed ∧ nodeUpEvent "new" 1 ∉ world.log.events ∧
          ¬ Followed 2000 world.pushed (nodeUpEvent "new" 1)) ∧
        (nodeUpEvent "new" 1).id = (nodeUpEvent "earlier" 1).id := by
  exact ⟨oneBatch_leftBehind, by decide +kernel⟩

/-- The same append after the loader has finished. -/
theorem late_append_keeps : LeftBehind oneBatch ∧
      ∃ world, run (step List.length) (World.start oneBatch 2000)
          (List.replicate 5 (.load true) ++ appendOf (nodeUpEvent "new" 2)) = some world ∧
        Stored world.storage (nodeUpEvent "earlier" 1) ∧
        ∀ event ∈ world.issued, event.id ≠ (nodeUpEvent "earlier" 1).id := by
  obtain ⟨world, reached⟩ : ∃ world, run (step List.length) (World.start oneBatch 2000)
      (List.replicate 5 (.load true) ++ appendOf (nodeUpEvent "new" 2)) = some world := by
    decide +kernel
  have earlier : Stored oneBatch (nodeUpEvent "earlier" 1) := by decide +kernel
  obtain ⟨stored, -, -, apart⟩ := audit_kept_in_order List.length oneBatch oneBatch_leftBehind 2000
    (by decide) _ world (by decide +kernel) reached
  exact ⟨oneBatch_leftBehind, world, reached, stored _ earlier,
    fun event issued => apart event issued _ earlier⟩

end PgVisor.Audit
