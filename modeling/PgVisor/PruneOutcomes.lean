import PgVisor.BackupStore

/-!
# What a prune leaves behind

On a storage that answers everything a prune deletes exactly the snapshots that are neither
the newest nor protected by both rules, and a second prune at the same time finds nothing to
do. On a storage that fails in part, the segments that are deleted are measured by the first
snapshot that was listed and is to be kept. A snapshot that could not be read, or whose
deletion failed, is stored all the same, and its segments may go.
-/

namespace PgVisor.Backup

open Retention List

section Outcomes

variable {replies again : StoreReplies} {now : DateTime} {keepCount retentionDays : Option Nat}
  {storage : Storage} {cutoff : Option DateTime}

/-- Not the newest, and too old or outside the newest that are counted. -/
theorem expired_iff (snapshots : List BasebackupMeta) (snap : BasebackupMeta) :
    Expired cutoff keepCount snapshots snap ↔
      Followed 1 snapshots snap ∧ ((∃ instant ∈ cutoff, snap.createdAt < instant) ∨
        ∃ limit ∈ keepCount, 0 < limit ∧ Followed limit snapshots snap) := by
  constructor
  · intro expired
    refine ⟨expired.followed, ?_⟩
    rcases expired with ⟨-, old⟩ | many
    · exact .inl old
    · exact .inr many
  · rintro ⟨followed, old | many⟩
    · exact .inl ⟨followed, old⟩
    · exact .inr many

/-- Every prune that does not panic counts the ids it has collected. -/
theorem prune_count (listed : replies.basebackups.Subperm storage.metadata)
    (known : retentionCutoff now retentionDays = some cutoff) :
    (pruneRetention replies now keepCount retentionDays storage).2 =
      some (toDeleteIds cutoff keepCount (listBasebackups replies)).length := by
  by_cases single : (listBasebackups replies).length ≤ 1
  · have nothing : toDeleteIds cutoff keepCount (listBasebackups replies) = [] :=
      toDeleteIds_eq_nil listed fun _ expired => expired.several single
    simp [pruneRetention, single, nothing]
  · by_cases nothing : toDeleteIds cutoff keepCount (listBasebackups replies) = []
    · simp [pruneRetention, single, known, nothing]
    simp only [pruneRetention, single, known, List.isEmpty_iff, nothing, ↓reduceIte]
    split
    · rfl
    · rfl

theorem Reliable.listed (reliable : Reliable replies storage) :
    replies.basebackups.Subperm storage.metadata := reliable.basebackups.subperm

/-- With reliable answers a stored snapshot stays unless it has expired. -/
theorem mem_pruned_reliable (reliable : Reliable replies storage)
    (known : retentionCutoff now retentionDays = some cutoff) (snap : BasebackupMeta) :
    snap ∈ (pruneRetention replies now keepCount retentionDays storage).1.metadata ↔
      snap ∈ storage.metadata ∧ ¬ Expired cutoff keepCount (listBasebackups replies) snap := by
  rw [mem_pruned_metadata reliable.listed]
  apply and_congr_right
  intro member
  rw [givesUp_iff reliable.listed member, known]
  simp [reliable.deleted]

/-- The listing of a storage after a prune keeps the order of the one before. -/
theorem listBasebackups_sublist (stable : again.basebackups.Sublist replies.basebackups) :
    (listBasebackups again).Sublist (listBasebackups replies) :=
  insertionSort_sublist _ stable

/-- Nothing that a prune leaves has expired in a listing that keeps the order. -/
theorem unexpired_again (reliable : Reliable replies storage)
    (known : retentionCutoff now retentionDays = some cutoff)
    (listed : Reliable again (pruneRetention replies now keepCount retentionDays storage).1)
    (stable : again.basebackups.Sublist replies.basebackups) (snap : BasebackupMeta) :
    ¬ Expired cutoff keepCount (listBasebackups again) snap := by
  intro expired
  have inside := listBasebackups_sublist stable
  have left : snap ∈ (pruneRetention replies now keepCount retentionDays storage).1.metadata :=
    listed.basebackups.mem_iff.mp
      ((listBasebackups_perm again).mem_iff.mp expired.followed.mem)
  apply ((mem_pruned_reliable reliable known snap).mp left).2
  rcases expired with ⟨followed, old⟩ | ⟨limit, kept, positive, followed⟩
  · exact .inl ⟨followed.of_sublist inside, old⟩
  · exact .inr ⟨limit, kept, positive, followed.of_sublist inside⟩

variable (keepCount) in
/-- The collected ids are those of the snapshots that leave the storage. -/
theorem toDeleteIds_perm (reliable : Reliable replies storage)
    (known : retentionCutoff now retentionDays = some cutoff) :
    (toDeleteIds cutoff keepCount (listBasebackups replies)).Perm
      ((storage.metadata.filter fun snap =>
        snap ∉ (pruneRetention replies now keepCount retentionDays storage).1.metadata).map
          BasebackupMeta.snapshotId) := by
  have distinct := listBasebackups_distinct reliable.listed
  apply (perm_ext_iff_of_nodup ((nodup_dedup _).filter _)
    (storage.distinct.sublist (filter_sublist.map _))).mpr
  intro id
  rw [← toDeleteIds, mem_toDeleteIds distinct, mem_map]
  constructor
  · rintro ⟨snap, expired, rfl⟩
    have member : snap ∈ storage.metadata := reliable.basebackups.mem_iff.mp
      ((listBasebackups_perm replies).mem_iff.mp expired.followed.mem)
    refine ⟨snap, mem_filter.mpr ⟨member, ?_⟩, rfl⟩
    simp [mem_pruned_reliable reliable known, expired]
  · rintro ⟨snap, gone, rfl⟩
    obtain ⟨member, gone⟩ := mem_filter.mp gone
    refine ⟨snap, ?_, rfl⟩
    simpa [mem_pruned_reliable reliable known, member] using gone

end Outcomes

/-- A prune deletes exactly the snapshots that are not the newest and are outside the newest
`keep_count` or older than the cutoff, and counts them. The others keep their metadata and
archives. A second prune at the same time, with a listing in the same order, deletes nothing. -/
theorem prune_exact (replies : StoreReplies) (now : DateTime)
    (keepCount retentionDays : Option Nat) (storage : Storage) (cutoff : Option DateTime)
    (reliable : Reliable replies storage)
    (known : retentionCutoff now retentionDays = some cutoff) :
    let outcome := pruneRetention replies now keepCount retentionDays storage
    let pruned := outcome.1
    (∀ snap, snap ∈ pruned.metadata ↔ snap ∈ storage.metadata ∧
      ¬ (Followed 1 (listBasebackups replies) snap ∧
        ((∃ instant ∈ cutoff, snap.createdAt < instant) ∨
          ∃ limit ∈ keepCount, 0 < limit ∧ Followed limit (listBasebackups replies) snap))) ∧
    (∀ snap ∈ pruned.metadata, pruned.archives snap.snapshotId = storage.archives snap.snapshotId) ∧
    outcome.2 = some (storage.metadata.filter fun snap => snap ∉ pruned.metadata).length ∧
    ∀ again, Reliable again pruned → again.basebackups.Sublist replies.basebackups →
      pruneRetention again now keepCount retentionDays pruned = (pruned, some 0) := by
  intro outcome pruned
  refine ⟨?_, ?_, ?_, ?_⟩
  · intro snap
    exact (mem_pruned_reliable reliable known snap).trans (by rw [expired_iff])
  · intro snap left
    obtain ⟨member, kept⟩ := (mem_pruned_reliable reliable known snap).mp left
    have spared : ¬ GivesUp replies now keepCount retentionDays snap.snapshotId := by
      rw [givesUp_iff reliable.listed member, known]
      simpa using kept
    cases stored : storage.archives snap.snapshotId with
    | some archive =>
      exact (pruned_archive reliable.listed _ archive).mpr ⟨stored, fun given => spared given.1⟩
    | none =>
      rw [Option.eq_none_iff_forall_ne_some]
      intro archive later
      rw [((pruned_archive reliable.listed _ archive).mp later).1] at stored
      cases stored
  · have counted := (toDeleteIds_perm keepCount reliable known).length_eq
    rw [length_map] at counted
    exact (prune_count reliable.listed known).trans (congrArg some counted)
  · intro again listed stable
    have unexpired := unexpired_again reliable known listed stable
    refine Prod.ext (prune_unexpired listed.listed ?_) ?_
    · intro other snap same
      cases known.symm.trans same
      exact unexpired snap
    · rw [prune_count listed.listed known, toDeleteIds_eq_nil listed.listed unexpired]
      rfl

/-- A snapshot of the given day. -/
def daily (id : String) (day : Nat) (startWal : String) : BasebackupMeta :=
  .new id (day * 86400 * 1000000000) .full startWal 0

def threeDays : Storage where
  archives _ := some ⟨[], true⟩
  metadata := [daily "first" 1 "01", daily "second" 2 "02", daily "third" 3 "03"]
  wal := ["01", "02", "03"]
  distinct := by decide

/-- Storage answers everything. -/
def answers (storage : Storage) : StoreReplies where
  basebackups := storage.metadata
  walSegments := storage.wal
  deleted _ := true

theorem answers_reliable (storage : Storage) : Reliable (answers storage) storage :=
  ⟨.refl _, .refl _, fun _ => rfl⟩

theorem three_days_pruned :
    (pruneRetention (answers threeDays) (3 * 86400 * 1000000000) (some 2) (some 30)
      threeDays).2 = some 1 :=
  (prune_exact (answers threeDays) (3 * 86400 * 1000000000) (some 2) (some 30) threeDays
    (some (-27 * 86400 * 1000000000)) (answers_reliable threeDays)
    (by decide +kernel)).2.2.1.trans (by decide +kernel)

/-! ### Segments under failing storage -/

/-- The first kept snapshot of the listing was created before every other kept one. -/
theorem find_earliest {replies keep oldest snap}
    (found : (listBasebackups replies).find? keep = some oldest)
    (member : snap ∈ listBasebackups replies) (kept : keep snap = true) :
    oldest.createdAt ≤ snap.createdAt := by
  obtain ⟨-, before, after, split, passed⟩ := List.find?_eq_some_iff_append.mp found
  have sorted : (listBasebackups replies).Pairwise fun first second =>
      first.createdAt ≤ second.createdAt := pairwise_insertionSort _ _
  rw [split] at member sorted
  rcases mem_append.mp member with earlier | later
  · exact absurd kept (by simpa using passed snap earlier)
  · rcases mem_cons.mp later with rfl | later
    · exact Int.le_refl _
    · exact (pairwise_cons.mp (pairwise_append.mp sorted).2.1).1 snap later

/-- Storage cannot read the snapshot, or cannot delete it though its time has come. -/
def Overlooked (replies : StoreReplies) (cutoff : Option DateTime) (keepCount : Option Nat)
    (snap : BasebackupMeta) : Prop :=
  snap ∉ replies.basebackups ∨ (Expired cutoff keepCount (listBasebackups replies) snap ∧
    replies.deleted (.metadata snap.snapshotId) = false)

/-- Among the snapshots that are read and kept, the one created first needs the segments that a
snapshot needs; segments that are not listed or cannot be deleted do not matter. -/
def OldestNeeds (replies : StoreReplies) (cutoff : Option DateTime) (keepCount : Option Nat)
    (wal : List String) (snap : BasebackupMeta) : Prop :=
  ∀ oldest, (listBasebackups replies).find?
      (fun other => ¬ Expired cutoff keepCount (listBasebackups replies) other) = some oldest →
    ∀ segment ∈ wal, segment ∈ replies.walSegments → replies.deleted (.wal segment) = true →
      snap.startWal ≤ segment → oldest.startWal ≤ segment

/-- The segments that a snapshot stored after the prune needs are left. -/
def WalKept (storage pruned : Storage) : Prop :=
  ∀ snap ∈ pruned.metadata, ∀ segment ∈ storage.wal, snap.startWal ≤ segment →
    segment ∈ pruned.wal

section Failures

variable {replies : StoreReplies} {now : DateTime} {keepCount retentionDays : Option Nat}
  {storage : Storage} {snap : BasebackupMeta} {cutoff : Option DateTime}

/-- A snapshot stays stored if it is overlooked, and otherwise exactly if it has not expired. -/
theorem stored_iff (listed : replies.basebackups.Subperm storage.metadata)
    (known : retentionCutoff now retentionDays = some cutoff) (member : snap ∈ storage.metadata) :
    snap ∈ (pruneRetention replies now keepCount retentionDays storage).1.metadata ↔
      Overlooked replies cutoff keepCount snap ∨
        ¬ Expired cutoff keepCount (listBasebackups replies) snap := by
  rw [mem_pruned_metadata listed, and_iff_right member, givesUp_iff listed member, known]
  simp only [Option.mem_some_iff, exists_eq_left', Overlooked]
  constructor
  · intro left
    by_cases expired : Expired cutoff keepCount (listBasebackups replies) snap
    · exact .inl (.inr ⟨expired, by simpa [expired] using left⟩)
    · exact .inr expired
  · rintro ((unread | ⟨-, failed⟩) | kept) ⟨expired, gone⟩
    · exact unread ((listBasebackups_perm replies).mem_iff.mp expired.followed.mem)
    · rw [failed] at gone
      cases gone
    · exact kept expired

/-- With starts in the order of creation, the oldest kept snapshot needs all that another kept
one needs. -/
theorem oldest_needs_kept (listed : replies.basebackups.Subperm storage.metadata)
    (ordered : ∀ first ∈ storage.metadata, ∀ second ∈ storage.metadata,
      first.createdAt ≤ second.createdAt → first.startWal ≤ second.startWal)
    (member : snap ∈ storage.metadata) (read : snap ∈ replies.basebackups)
    (kept : ¬ Expired cutoff keepCount (listBasebackups replies) snap) :
    OldestNeeds replies cutoff keepCount storage.wal snap := by
  intro oldest found segment _ _ _ needed
  have earliest := find_earliest found ((listBasebackups_perm replies).mem_iff.mpr read)
    (decide_eq_true kept)
  have first : oldest ∈ storage.metadata := listed.subset
    ((listBasebackups_perm replies).mem_iff.mp (mem_of_find?_eq_some found))
  exact String.le_trans (ordered oldest first snap member earliest) needed

end Failures

/-- The segments of all snapshots stored after a prune are left if and only if the prune gives
up nothing, or the oldest snapshot that was read and kept needs all that the overlooked and the
other kept ones need. With starts in the order of creation only the overlooked ones matter: those
that could not be read, and those whose deletion failed. -/
theorem wal_kept_iff (replies : StoreReplies) (now : DateTime)
    (keepCount retentionDays : Option Nat) (storage : Storage)
    (listed : replies.basebackups.Subperm storage.metadata) :
    let pruned := (pruneRetention replies now keepCount retentionDays storage).1
    (WalKept storage pruned ↔ ∀ cutoff, retentionCutoff now retentionDays = some cutoff →
      (∃ snap, Expired cutoff keepCount (listBasebackups replies) snap) →
        ∀ snap ∈ storage.metadata, (Overlooked replies cutoff keepCount snap ∨
          ¬ Expired cutoff keepCount (listBasebackups replies) snap) →
            OldestNeeds replies cutoff keepCount storage.wal snap) ∧
    ((∀ first ∈ storage.metadata, ∀ second ∈ storage.metadata,
      first.createdAt ≤ second.createdAt → first.startWal ≤ second.startWal) →
      (WalKept storage pruned ↔ ∀ cutoff, retentionCutoff now retentionDays = some cutoff →
        (∃ snap, Expired cutoff keepCount (listBasebackups replies) snap) →
          ∀ snap ∈ storage.metadata, Overlooked replies cutoff keepCount snap →
            OldestNeeds replies cutoff keepCount storage.wal snap)) := by
  intro pruned
  have exactly : WalKept storage pruned ↔
      ∀ cutoff, retentionCutoff now retentionDays = some cutoff →
        (∃ snap, Expired cutoff keepCount (listBasebackups replies) snap) →
          ∀ snap ∈ storage.metadata, (Overlooked replies cutoff keepCount snap ∨
            ¬ Expired cutoff keepCount (listBasebackups replies) snap) →
              OldestNeeds replies cutoff keepCount storage.wal snap := by
    constructor
    · intro kept cutoff known expired snap member stays oldest found segment archived named
        deletable needed
      have stored := (stored_iff listed known member).mpr stays
      have left := (mem_pruned_wal listed segment).mp (kept snap stored segment archived needed)
      by_contra before
      exact left.2 ⟨⟨cutoff, oldest, known, expired, found, named, String.not_le.mp before⟩,
        deletable⟩
    · intro covered snap stored segment archived needed
      refine (mem_pruned_wal listed segment).mpr ⟨archived, ?_⟩
      rintro ⟨⟨cutoff, oldest, known, expired, found, named, before⟩, deletable⟩
      have member := ((mem_pruned_metadata listed snap).mp stored).1
      have stays := (stored_iff listed known member).mp stored
      exact String.not_le.mpr before (covered cutoff known expired snap member stays oldest found
        segment archived named deletable needed)
  refine ⟨exactly, fun ordered => exactly.trans ?_⟩
  refine forall₂_congr fun cutoff known => forall₂_congr fun expired snap => ?_
  refine forall_congr' fun member => ⟨fun covered overlooked => covered (.inl overlooked), ?_⟩
  rintro covered (overlooked | kept)
  · exact covered overlooked
  · by_cases read : snap ∈ replies.basebackups
    · exact oldest_needs_kept listed ordered member read kept
    · exact covered (.inl read)

theorem three_days_wal_kept : WalKept threeDays
    (pruneRetention (answers threeDays) (3 * 86400 * 1000000000) (some 1) none threeDays).1 := by
  refine ((wal_kept_iff (answers threeDays) (3 * 86400 * 1000000000) (some 1) none threeDays
    (answers_reliable threeDays).listed).2 (by decide +kernel)).mpr ?_
  rintro cutoff - - snap member (unread | ⟨-, failed⟩)
  · exact absurd member unread
  · cases failed

/-- The metadata of the first snapshot cannot be read, or the second cannot be deleted: each
stays, and its segment is deleted. -/
theorem overlooked_wal_deleted :
    let unread := { answers threeDays with basebackups := threeDays.metadata.tail }
    let undeleted :=
      { answers threeDays with deleted := fun object => object ≠ .metadata "second" }
    let prune (replies : StoreReplies) :=
      (pruneRetention replies (3 * 86400 * 1000000000) (some 1) none threeDays).1
    daily "first" 1 "01" ∈ (prune unread).metadata ∧ "01" ∉ (prune unread).wal ∧
    daily "second" 2 "02" ∈ (prune undeleted).metadata ∧ "02" ∉ (prune undeleted).wal := by
  decide +kernel

end PgVisor.Backup
