import PgVisor.AuditLoading

/-!
# The ring and the batches without a load

A listing shows the ring from its new end. An append takes its id before it waits for the
ring, so that events may come into the ring in another order than that of their ids.

A task adds its event to the batch before it writes, and an event stays in the batch until
a write has succeeded. So a successful write stores whatever failed ones have left, and a
batch is rotated away only when its file holds all of it.
-/

namespace PgVisor.Audit

open Retention Transitions List

variable {capacity : Nat} {world next : World} {size : List AuditEvent → Nat}

/-- The listing without a filter, of as many events as there are. -/
def World.listed (lowercase : List Char → List Char) (world : World) : List AuditEvent :=
  (world.log.list lowercase world.log.events.length 0 none none).1

/-- By decreasing ids, as many as there is room for, and above all ids that are missing. -/
def ShowsNewest (lowercase : List Char → List Char) (world : World) : Prop :=
  let listed := world.listed lowercase
  listed.Pairwise (fun first second => second.id < first.id) ∧
    listed.length = min world.log.capacity world.pushed.length ∧
    ∀ shown ∈ listed, ∀ event ∈ world.pushed, event ∉ listed → event.id < shown.id

/-- The events that were pushed last, as many as there is room for. -/
def World.recent (world : World) : List AuditEvent :=
  world.pushed.drop (world.pushed.length - world.log.capacity)

theorem listed_eq (lowercase : List Char → List Char) (world : World) :
    world.listed lowercase = world.log.events.reverse := by
  have all : AuditEvent.selected lowercase none none = fun _ => true := rfl
  simp [World.listed, AuditLog.list, all]

/-- Appends alone keep the ring at the events that were pushed last. -/
theorem step_recent (positive : 0 < capacity) (label : Label)
    (ring : world.log.capacity = capacity ∧ world.log.events = world.recent)
    (append : ∀ answered, label ≠ .load answered) (moved : step size world label = some next) :
    next.log.capacity = capacity ∧ next.log.events = next.recent := by
  cases label with
  | issue draft =>
    cases moved
    exact ring
  | push event =>
    obtain ⟨-, rfl⟩ := guard_holds moved
    obtain ⟨rfl, held⟩ := ring
    refine ⟨rfl, ?_⟩
    simp only [World.push, World.recent, held]
    exact pushBounded_newest positive world.pushed event
  | start event =>
    obtain ⟨-, rfl⟩ := guard_holds moved
    exact ring
  | persist reply =>
    obtain ⟨batchId, writing, rfl⟩ := Option.map_eq_some_iff.mp moved
    obtain ⟨storage, batch, current, frame⟩ := persist_frame size world batchId reply
    rw [frame]
    exact ring
  | load answered => exact absurd rfl (append answered)

/-- Whenever appends alone have run, the listing shows the newest ids exactly if the events
that were pushed last were pushed in the order of their ids, and above those of all others. -/
theorem listing_newest_iff (size : List AuditEvent → Nat) (lowercase : List Char → List Char)
    (left : Storage) (capacity : Nat) (positive : 0 < capacity) (labels : List Label)
    (appends : ∀ label ∈ labels, ∀ answered, label ≠ .load answered) (world : World)
    (reached : run (step size) (World.start left capacity) labels = some world) :
    ShowsNewest lowercase world ↔
      world.recent.Pairwise (fun first second => first.id < second.id) ∧
        ∀ shown ∈ world.recent, ∀ event ∈ world.pushed, event ∉ world.recent →
          event.id < shown.id := by
  obtain ⟨-, ring⟩ := run_invariant (step size) (fun _ label => ∀ answered, label ≠ .load answered)
    (fun world => world.log.capacity = capacity ∧ world.log.events = world.recent)
    (fun _ label _ => step_recent positive label)
    ⟨rfl, by simp [World.start, World.recent, AuditLog.new]⟩
    (meets_labels appends) reached
  have length : world.recent.length = min world.log.capacity world.pushed.length := by
    rw [World.recent, length_drop]
    omega
  simp only [ShowsNewest, listed_eq, ring, pairwise_reverse, length_reverse, length, mem_reverse,
    true_and]

/-- Two appends, and the order in which they come to the ring. -/
def twoAppends (first second : Nat) : List Label :=
  [.issue (nodeUpEvent "" 1).toDraft, .issue (nodeUpEvent "" 2).toDraft,
    .push (nodeUpEvent "" first), .push (nodeUpEvent "" second)]

theorem ordered_appends_listed : ∃ world, run (step List.length) (World.start ∅ 1)
    (twoAppends 1 2) = some world ∧ ShowsNewest id world := by
  obtain ⟨world, reached, ordered⟩ : ∃ world, run (step List.length) (World.start ∅ 1)
      (twoAppends 1 2) = some world ∧
      world.recent.Pairwise (fun first second => first.id < second.id) ∧
        ∀ shown ∈ world.recent, ∀ event ∈ world.pushed, event ∉ world.recent →
          event.id < shown.id := by
    decide +kernel
  exact ⟨world, reached,
    (listing_newest_iff _ id ∅ 1 (by decide) _ (by simp [twoAppends]) world reached).mpr ordered⟩

/-- The second of two appends comes to the ring first. It is listed last, and where there is
room for one event it is missing. -/
theorem overtaking_append_misplaced :
    (∃ world, run (step List.length) (World.start ∅ 2000) (twoAppends 2 1) = some world ∧
      ¬ ShowsNewest id world) ∧
    ∃ world, run (step List.length) (World.start ∅ 1) (twoAppends 2 1) = some world ∧
      ¬ ShowsNewest id world := by
  unfold ShowsNewest
  decide +kernel

/-! ## Batches -/

/-- The events in the first batch files. -/
def filed (storage : Storage) (count : Nat) : List AuditEvent :=
  (range' 1 count).flatMap fun id => contentOf storage (batchFile id)

theorem filed_insert (storage : Storage) (count : Nat) (events : List AuditEvent) :
    filed (storage.insert (batchFile (count + 1)) (.batch events)) count = filed storage count ∧
      filed (storage.insert (batchFile (count + 1)) (.batch events)) (count + 1) =
        filed storage count ++ events := by
  have before : filed (storage.insert (batchFile (count + 1)) (.batch events)) count =
      filed storage count := by
    refine flatMap_congr fun id member => ?_
    have below := mem_range'_1.mp member
    have apart : batchFile id ≠ batchFile (count + 1) := by
      intro same
      have := batchFile_injective same
      omega
    rw [contentOf, AList.lookup_insert_ne apart, contentOf]
  refine ⟨before, ?_⟩
  rw [← before, filed, range'_concat, flatMap_append, flatMap_singleton, Nat.one_mul,
    Nat.add_comm 1, contentOf_some (AList.lookup_insert _)]
  rfl

/-- The events in batches: those that were rotated away, and the current one. -/
def World.batched (world : World) : List AuditEvent :=
  filed world.storage (world.log.currentBatchId - 1) ++ world.log.currentBatch

/-- The events in batches and on their way to one. -/
def World.held (world : World) : List AuditEvent :=
  world.arriving ++ (world.tasks ++ world.batched)

/-- Nothing is held twice, and a task that has run leaves its event in a batch. -/
structure Batches (world : World) : Prop where
  first : 1 ≤ world.log.currentBatchId
  writer : ∀ id ∈ world.writer, id = world.log.currentBatchId
  distinct : world.held.Nodup
  numbered : ∀ event ∈ world.held, event.id < world.log.nextId
  begun : ∀ event ∈ world.pushed, event ∈ world.tasks ++ world.batched

theorem persist_batched (size : List AuditEvent → Nat) (first : 1 ≤ world.log.currentBatchId)
    (reply : WriteReply) :
    (world.persist size world.log.currentBatchId reply).batched = world.batched ∧
      world.log.currentBatchId ≤
        (world.persist size world.log.currentBatchId reply).log.currentBatchId := by
  obtain ⟨count, current⟩ := Nat.exists_eq_add_of_le' first
  obtain ⟨before, through⟩ := filed_insert world.storage count world.log.currentBatch
  cases reply with
  | failed visible => cases visible <;> simp [World.persist, World.batched, current, before]
  | written =>
    simp only [World.persist]
    split
    all_goals simp [World.batched, current, before, through]

/-- Passing an event on keeps what is held. -/
theorem Batches.carry (batches : Batches world) (first : 1 ≤ next.log.currentBatchId)
    (writer : ∀ id ∈ next.writer, id = next.log.currentBatchId)
    (same : next.held.Perm world.held) (numbers : next.log.nextId = world.log.nextId)
    (begun : ∀ event ∈ next.pushed, event ∈ next.tasks ++ next.batched) : Batches next where
  first := first
  writer := writer
  distinct := same.nodup_iff.mpr batches.distinct
  numbered := fun event member => numbers ▸ batches.numbered event (same.mem_iff.mp member)
  begun := begun

theorem step_batches (label : Label) (batches : Batches world)
    (append : ∀ answered, label ≠ .load answered) (moved : step size world label = some next) :
    Batches next ∧ world.log.currentBatchId ≤ next.log.currentBatchId := by
  cases label with
  | issue draft =>
    cases moved
    have same : (world.issue draft).held.Perm
        ({ draft with id := world.log.nextId } :: world.held) := by
      simp [World.held, World.issue, World.batched]
    refine ⟨⟨batches.first, batches.writer, ?_, ?_, batches.begun⟩, le_rfl⟩
    · refine same.nodup_iff.mpr (nodup_cons.mpr ⟨fun member => ?_, batches.distinct⟩)
      exact lt_irrefl _ (batches.numbered _ member)
    · intro event member
      rcases mem_cons.mp (same.mem_iff.mp member) with rfl | earlier
      · exact Nat.lt_succ_self _
      · exact (batches.numbered event earlier).trans (Nat.lt_succ_self _)
  | push event =>
    obtain ⟨⟨waiting, -⟩, rfl⟩ := guard_holds moved
    refine ⟨batches.carry batches.first batches.writer ?_ rfl ?_, le_rfl⟩
    · refine perm_iff_count.mpr fun other => ?_
      have taken := (perm_cons_erase waiting).count_eq other
      simp only [World.held, World.batched, World.push, count_append, count_cons, count_nil]
        at taken ⊢
      omega
    · intro other member
      rcases mem_append.mp member with earlier | new
      · exact (mem_append.mp (batches.begun other earlier)).elim
          (fun waits => mem_append_left _ (mem_append_left _ waits)) (mem_append_right _)
      · exact mem_append_left _ (mem_append_right _ new)
  | start event =>
    obtain ⟨⟨waiting, -⟩, rfl⟩ := guard_holds moved
    have same : ((world.begin event).tasks ++ (world.begin event).batched).Perm
        (world.tasks ++ world.batched) := by
      refine perm_iff_count.mpr fun other => ?_
      have taken := (perm_cons_erase waiting).count_eq other
      simp only [World.batched, World.begin, count_append, count_cons, count_nil] at taken ⊢
      omega
    exact ⟨batches.carry batches.first (fun _ written => (Option.some.inj written).symm)
      (same.append_left _) rfl fun other member => same.mem_iff.mpr (batches.begun other member),
      le_rfl⟩
  | persist reply =>
    obtain ⟨batchId, writing, rfl⟩ := Option.map_eq_some_iff.mp moved
    cases batches.writer batchId writing
    obtain ⟨same, later⟩ := persist_batched size batches.first reply
    obtain ⟨storage, batch, current, frame⟩ := persist_frame size world _ reply
    rw [frame] at same later ⊢
    refine ⟨batches.carry (batches.first.trans later) (by simp) ?_ rfl ?_, later⟩
    · simp only [World.held]
      rw [same]
    · rw [same]
      exact batches.begun
  | load answered => exact absurd rfl (append answered)

theorem start_batches (left : Storage) (capacity : Nat) : Batches (.start left capacity) := by
  constructor <;> simp [World.held, World.batched, World.start, filed, AuditLog.new]

/-- Whenever a task has written its batch, every event whose task has run is in one of the
files written so far and in no other, and no task writes a file again whose batch was
rotated away. -/
theorem batches_persisted (size : List AuditEvent → Nat) (left : Storage) (capacity : Nat)
    (labels : List Label) (appends : ∀ label ∈ labels, ∀ answered, label ≠ .load answered)
    (world : World) (reached : run (step size) (World.start left capacity) labels = some world)
    (batchId : Nat) (writing : world.writer = some batchId) :
    let next := world.persist size batchId .written
    (∀ event ∈ next.pushed, event ∉ next.tasks →
      ∃ id, 1 ≤ id ∧ id ≤ batchId ∧ event ∈ contentOf next.storage (batchFile id)) ∧
    (∀ first second event, 1 ≤ first → first ≤ batchId → 1 ≤ second → second ≤ batchId →
      event ∈ contentOf next.storage (batchFile first) →
      event ∈ contentOf next.storage (batchFile second) → first = second) ∧
    ∀ further later, (∀ label ∈ further, ∀ answered, label ≠ .load answered) →
      run (step size) next further = some later →
      ∀ id ∈ later.writer, next.log.currentBatchId ≤ id := by
  have batches := run_invariant (step size) (fun _ label => ∀ answered, label ≠ .load answered)
    Batches (fun _ label _ before append moved => (step_batches label before append moved).1)
    (start_batches left capacity) (meets_labels appends) reached
  cases batches.writer batchId writing
  intro next
  obtain ⟨count, current⟩ := Nat.exists_eq_add_of_le' batches.first
  have files : filed next.storage world.log.currentBatchId = world.batched := by
    have through := (filed_insert world.storage count world.log.currentBatch).2
    simp only [next, World.persist, World.batched, current]
    split
    all_goals exact through
  have moved : step size world (.persist .written) = some next := by
    rw [step, writing, Option.map_some]
  obtain ⟨after, -⟩ := step_batches (.persist .written) batches (by simp) moved
  have distinct : world.batched.Nodup := batches.distinct.of_append_right.of_append_right
  rw [← files] at distinct
  refine ⟨fun event pushed run => ?_, fun first second event => ?_, ?_⟩
  · obtain ⟨storage, batch, following, frame⟩ := persist_frame size world _ .written
    simp only [next] at pushed run
    rw [frame] at pushed run
    have stored := (mem_append.mp (batches.begun event pushed)).resolve_left run
    rw [← files] at stored
    obtain ⟨id, member, inside⟩ := mem_flatMap.mp stored
    have within := mem_range'_1.mp member
    exact ⟨id, within.1, by omega, inside⟩
  · intro low high less more here there
    exact eq_of_nodup_flatMap distinct (mem_range'_1.mpr ⟨low, by omega⟩)
      (mem_range'_1.mpr ⟨less, by omega⟩) here there
  · intro further later more arrived id written
    obtain ⟨kept, least⟩ := run_invariant (step size)
      (fun _ label => ∀ answered, label ≠ .load answered)
      (fun later => Batches later ∧ next.log.currentBatchId ≤ later.log.currentBatchId)
      (fun _ label _ before append moved =>
        (step_batches label before.1 append moved).imp_right before.2.trans)
      ⟨after, le_rfl⟩ (meets_labels more) arrived
    exact least.trans_eq (kept.writer id written).symm

/-- An append whose task holds the batch: its write puts the event into the first file. -/
theorem first_batch_persisted : ∃ world, run (step List.length) (World.start ∅ 1)
    [.issue (nodeUpEvent "" 1).toDraft, .push (nodeUpEvent "" 1), .start (nodeUpEvent "" 1)] =
      some world ∧
    ∃ id, 1 ≤ id ∧ id ≤ 1 ∧ nodeUpEvent "" 1 ∈
      contentOf (world.persist List.length 1 .written).storage (batchFile id) := by
  obtain ⟨world, reached, writing, pushed, begun⟩ : ∃ world, run (step List.length)
      (World.start ∅ 1) [.issue (nodeUpEvent "" 1).toDraft, .push (nodeUpEvent "" 1),
        .start (nodeUpEvent "" 1)] = some world ∧ world.writer = some 1 ∧
      nodeUpEvent "" 1 ∈ (world.persist List.length 1 .written).pushed ∧
      nodeUpEvent "" 1 ∉ (world.persist List.length 1 .written).tasks := by
    decide +kernel
  exact ⟨world, reached,
    (batches_persisted _ ∅ 1 _ (by simp) world reached 1 writing).1 _ pushed begun⟩

end PgVisor.Audit
