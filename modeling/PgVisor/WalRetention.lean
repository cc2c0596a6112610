import PgVisor.BackupStore

/-!
# Segments that retained snapshots need

A snapshot can be rolled forward from the first segment it needs on, so a prune must keep
every archived segment that sorts at or after the start of a snapshot it keeps. The prune
takes the start of the snapshot created first. That start is the smallest one only while
later snapshots start later; a backup taken from a server that stayed on an old timeline,
or a simulated one, starts before an older snapshot of a newer timeline.

The order of segment names is that of strings, as in the comparison of the source.
-/

namespace PgVisor.Backup

/-- No segment that a snapshot left in storage needs has been lost. -/
def NeededWalKept (before after : Storage) : Prop :=
  ∀ segment ∈ before.wal, ∀ snap ∈ after.metadata, snap.startWal ≤ segment → segment ∈ after.wal

/-- Among the snapshots that stay, the one created first needs each archived segment that
any of them needs. -/
def OldestNeedsAll (cutoff : Option DateTime) (keepCount : Option Nat)
    (snapshots : List BasebackupMeta) (wal : List String) : Prop :=
  ∀ oldest, snapshots.find? (fun snap => ¬ Expired cutoff keepCount snapshots snap) = some oldest →
    ∀ snap ∈ snapshots, ¬ Expired cutoff keepCount snapshots snap →
      ∀ segment ∈ wal, snap.startWal ≤ segment → oldest.startWal ≤ segment

variable (replies : StoreReplies) (now : DateTime) (keepCount retentionDays : Option Nat)
  (storage : Storage)

/-- With reliable storage the snapshots left are the unexpired ones. -/
theorem retained_iff (reliable : Reliable replies storage) {cutoff}
    (known : retentionCutoff now retentionDays = some cutoff) (snap : BasebackupMeta) :
    snap ∈ (pruneRetention replies now keepCount retentionDays storage).1.metadata ↔
      snap ∈ listBasebackups replies ∧
        ¬ Expired cutoff keepCount (listBasebackups replies) snap := by
  have listed := reliable.basebackups.subperm
  have members : snap ∈ listBasebackups replies ↔ snap ∈ storage.metadata :=
    ((listBasebackups_perm replies).trans reliable.basebackups).mem_iff
  rw [mem_pruned_metadata listed, members]
  apply and_congr_right
  intro member
  rw [givesUp_iff listed member]
  simp [reliable.deleted, known]

/-- With reliable storage the segments left are those that are not obsolete. -/
theorem archived_iff (reliable : Reliable replies storage) (segment : String) :
    segment ∈ (pruneRetention replies now keepCount retentionDays storage).1.wal ↔
      segment ∈ storage.wal ∧ ¬ Obsolete replies now keepCount retentionDays segment := by
  rw [mem_pruned_wal reliable.basebackups.subperm]
  simp [reliable.deleted]

/-- A prune on reliable storage keeps all needed segments if and only if it gives up
nothing or the first snapshot it keeps needs them all. -/
theorem needed_wal_kept_iff (reliable : Reliable replies storage) :
    NeededWalKept storage (pruneRetention replies now keepCount retentionDays storage).1 ↔
      ∀ cutoff, retentionCutoff now retentionDays = some cutoff →
        (∃ snap, Expired cutoff keepCount (listBasebackups replies) snap) →
        OldestNeedsAll cutoff keepCount (listBasebackups replies) storage.wal := by
  have listedSegment : ∀ segment ∈ storage.wal, segment ∈ replies.walSegments := by
    intro segment member
    exact reliable.walSegments.mem_iff.mpr member
  constructor
  · intro kept cutoff known expired oldest isOldest snap member unexpired segment archived needed
    have stays : snap ∈ (pruneRetention replies now keepCount retentionDays storage).1.metadata :=
      (retained_iff replies now keepCount retentionDays storage reliable known snap).mpr
        ⟨member, unexpired⟩
    have left := (archived_iff replies now keepCount retentionDays storage reliable segment).mp
      (kept segment archived snap stays needed)
    by_contra before
    exact left.2 ⟨cutoff, oldest, known, expired, isOldest, listedSegment segment archived,
      String.not_le.mp before⟩
  · intro covered segment archived snap stays needed
    refine (archived_iff replies now keepCount retentionDays storage reliable segment).mpr
      ⟨archived, ?_⟩
    rintro ⟨cutoff, oldest, known, expired, isOldest, -, before⟩
    obtain ⟨member, unexpired⟩ :=
      (retained_iff replies now keepCount retentionDays storage reliable known snap).mp stays
    have atLeast := covered cutoff known expired oldest isOldest snap member unexpired segment
      archived needed
    exact String.not_le.mpr before atLeast

/-- Storage that answers everything it is asked. -/
def wholeReplies (storage : Storage) : StoreReplies :=
  { basebackups := storage.metadata, walSegments := storage.wal, deleted := fun _ => true }

theorem wholeReplies_reliable (storage : Storage) : Reliable (wholeReplies storage) storage :=
  ⟨.rfl, .rfl, fun _ => rfl⟩

/-- Three daily snapshots; the last was taken from a server that had stayed on timeline 1
after the others had moved to timeline 2. -/
def staleFollowerStorage : Storage :=
  { archives := fun _ => none
    metadata :=
      [.new "snap-20260801-010000" 1785546000000000000 .full "000000010000000000000003" 1,
        .new "snap-20260802-010000" 1785632400000000000 .full "000000020000000000000005" 1,
        .new "snap-20260803-010000" 1785718800000000000 .full "000000010000000000000006" 1]
    wal := ["000000010000000000000003", "000000010000000000000006",
      "000000010000000000000007", "000000020000000000000005"]
    distinct := by decide +kernel }

/-- Pruning to two snapshots deletes the segments of timeline 1 that the last one needs. -/
theorem stale_follower_loses_wal :
    Reliable (wholeReplies staleFollowerStorage) staleFollowerStorage ∧
      ¬ NeededWalKept staleFollowerStorage
        (pruneRetention (wholeReplies staleFollowerStorage) 1785722400000000000 (some 2) (some 7)
          staleFollowerStorage).1 := by
  refine ⟨wholeReplies_reliable staleFollowerStorage, ?_⟩
  intro kept
  have lost := kept "000000010000000000000007" (by decide +kernel)
    (.new "snap-20260803-010000" 1785718800000000000 .full "000000010000000000000006" 1)
    (by decide +kernel) (by decide +kernel)
  revert lost
  decide +kernel

/-- Two snapshots whose starts follow their creation. -/
def orderlyStorage : Storage :=
  { archives := fun _ => none
    metadata :=
      [.new "snap-20260801-010000" 1785546000000000000 .incremental "000000010000000000000001" 1,
        .new "snap-20260802-010000" 1785632400000000000 .full "000000010000000000000003" 1]
    wal := ["000000010000000000000001", "000000010000000000000003"]
    distinct := by decide +kernel }

/-- Pruning to one snapshot keeps the segment it needs. -/
theorem orderly_prune_keeps_wal : Reliable (wholeReplies orderlyStorage) orderlyStorage ∧
      NeededWalKept orderlyStorage
        (pruneRetention (wholeReplies orderlyStorage) 1785722400000000000 (some 1) none
          orderlyStorage).1 := by
  have reliable := wholeReplies_reliable orderlyStorage
  refine ⟨reliable, (needed_wal_kept_iff _ _ _ _ _ reliable).mpr ?_⟩
  intro cutoff known expired oldest isOldest snap member unexpired segment archived needed
  cases known
  have single : ∀ snap ∈ listBasebackups (wholeReplies orderlyStorage),
      ¬ Expired none (some 1) (listBasebackups (wholeReplies orderlyStorage)) snap →
        snap.snapshotId = "snap-20260802-010000" := by decide +kernel
  have listedOldest := List.mem_of_find?_eq_some isOldest
  have stays := List.find?_some isOldest
  have same : oldest = snap := by
    apply List.inj_on_of_nodup_map (listBasebackups_distinct reliable.basebackups.subperm)
      listedOldest member
    rw [single snap member unexpired]
    exact single oldest listedOldest (of_decide_eq_true stays)
  rwa [same]

end PgVisor.Backup
