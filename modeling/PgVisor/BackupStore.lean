import Mathlib.Data.List.Sort
import Mathlib.Data.List.Dedup
import Mathlib.Logic.Function.Basic
import PgVisor.BasebackupArchive
import PgVisor.Retention

/-!
# The backup store and its retention rule

Storage holds, for each snapshot, an archive object and a metadata object under the
snapshot's id, and beside them the archived write-ahead log segments. The manager lists
snapshots by creation time and prunes those that are too old or too many, then the
segments that sort before the first snapshot it kept.

A listing, a read and a delete can fail: a metadata object that cannot be read is not
listed, a failed listing is empty and a failed delete leaves its object. The order in
which storage lists its objects is free. Object paths and the cluster name in them are
left out, as the kinds of objects never share a path.
-/

namespace PgVisor.Backup

open Retention List

variable {snap : BasebackupMeta}

/-- An archive object. Where its content came from is not part of its bytes: `captured`
says that it was made by a `pg_basebackup` that succeeded. -/
structure TarArchive where
  entries : List TarEntry
  captured : Bool
deriving DecidableEq

@[ext]
structure Storage where
  archives : String → Option TarArchive
  metadata : List BasebackupMeta
  wal : List String
  distinct : (metadata.map BasebackupMeta.snapshotId).Nodup

/-- The objects a prune deletes. -/
inductive Object where
  | archive (id : String)
  | metadata (id : String)
  | wal (name : String)
deriving DecidableEq

/-- What storage answers during one prune: the metadata it listed and could read, the
segments it listed, and which deletes succeed. -/
structure StoreReplies where
  basebackups : List BasebackupMeta
  walSegments : List String
  deleted : Object → Bool

/-- Every operation on the storage succeeds. -/
structure Reliable (replies : StoreReplies) (storage : Storage) : Prop where
  basebackups : replies.basebackups.Perm storage.metadata
  walSegments : replies.walSegments.Perm storage.wal
  deleted : ∀ object, replies.deleted object = true

/-- A subset of the stored metadata in some order, as listings return it. -/
theorem listed_distinct {listed : List BasebackupMeta} {storage : Storage}
    (sublist : listed.Subperm storage.metadata) : (listed.map BasebackupMeta.snapshotId).Nodup := by
  obtain ⟨arranged, permuted, inside⟩ := sublist
  have nodup : (arranged.map BasebackupMeta.snapshotId).Nodup :=
    storage.distinct.sublist (inside.map _)
  exact (permuted.map _).nodup_iff.mp nodup

namespace Storage

def writeArchive (storage : Storage) (id : String) (archive : TarArchive) : Storage :=
  { storage with archives := Function.update storage.archives id (some archive) }

/-- Write a metadata object; one of the same id is replaced. -/
def writeMetadata (storage : Storage) (record : BasebackupMeta) : Storage :=
  { storage with
    metadata := storage.metadata.filter (fun other => other.snapshotId ≠ record.snapshotId) ++
      [record]
    distinct := by
      rw [map_append, map_singleton, nodup_append]
      refine ⟨storage.distinct.sublist (filter_sublist.map _), nodup_singleton _, ?_⟩
      intro id earlier new last same
      obtain ⟨other, member, rfl⟩ := mem_map.mp earlier
      have differs := (mem_filter.mp member).2
      simp only [mem_singleton] at last
      simp [same, last] at differs }

def deleteObject (storage : Storage) : Object → Storage
  | .archive id => { storage with archives := Function.update storage.archives id none }
  | .metadata id =>
    { storage with
      metadata := storage.metadata.filter (fun record => record.snapshotId ≠ id)
      distinct := storage.distinct.sublist (filter_sublist.map _) }
  | .wal name => { storage with wal := storage.wal.filter (fun other => other ≠ name) }

/-- The deletes that succeed, one after the other. -/
def deleteAll (replies : StoreReplies) (storage : Storage) (objects : List Object) : Storage :=
  (objects.filter replies.deleted).foldl deleteObject storage

theorem metadata_foldl (objects : List Object) (storage : Storage) :
    (objects.foldl deleteObject storage).metadata =
      storage.metadata.filter fun record => .metadata record.snapshotId ∉ objects := by
  induction objects generalizing storage with
  | nil => simp
  | cons object rest ih =>
    rw [foldl_cons, ih]
    cases object with
    | archive id | wal name => simp [deleteObject]
    | metadata id => simp [deleteObject, filter_filter, Bool.and_comm]

theorem wal_foldl (objects : List Object) (storage : Storage) :
    (objects.foldl deleteObject storage).wal =
      storage.wal.filter fun segment => .wal segment ∉ objects := by
  induction objects generalizing storage with
  | nil => simp
  | cons object rest ih =>
    rw [foldl_cons, ih]
    cases object with
    | archive id | metadata id => simp [deleteObject]
    | wal name => simp [deleteObject, filter_filter, Bool.and_comm]

theorem archives_foldl (objects : List Object) (storage : Storage) (id : String) :
    (objects.foldl deleteObject storage).archives id =
      if .archive id ∈ objects then none else storage.archives id := by
  induction objects generalizing storage with
  | nil => simp
  | cons object rest ih =>
    rw [foldl_cons, ih]
    cases object with
    | archive other =>
      by_cases same : id = other
      all_goals simp [deleteObject, same]
    | metadata other | wal name => simp [deleteObject]

/-- The order of deletes does not matter. -/
theorem foldl_deleteObject_congr {first second : List Object} (storage : Storage)
    (same : ∀ object, object ∈ first ↔ object ∈ second) :
    first.foldl deleteObject storage = second.foldl deleteObject storage := by
  ext1
  · funext id
    rw [archives_foldl, archives_foldl]
    simp only [same]
  · rw [metadata_foldl, metadata_foldl]
    simp only [same]
  · rw [wal_foldl, wal_foldl]
    simp only [same]

variable (replies : StoreReplies) (storage : Storage) (objects : List Object)

theorem deleteAll_append (later : List Object) :
    (storage.deleteAll replies objects).deleteAll replies later =
      storage.deleteAll replies (objects ++ later) := by
  simp only [deleteAll, filter_append, foldl_append]

/-- Deleting removes an object exactly if it is asked for and the delete succeeds. -/
theorem mem_metadata_deleteAll (record : BasebackupMeta) :
    record ∈ (storage.deleteAll replies objects).metadata ↔ record ∈ storage.metadata ∧
        ¬ (.metadata record.snapshotId ∈ objects ∧
          replies.deleted (.metadata record.snapshotId) = true) := by
  rw [deleteAll, metadata_foldl, mem_filter, decide_eq_true_iff, mem_filter]

theorem mem_wal_deleteAll (segment : String) : segment ∈ (storage.deleteAll replies objects).wal ↔
      segment ∈ storage.wal ∧
        ¬ (.wal segment ∈ objects ∧ replies.deleted (.wal segment) = true) := by
  rw [deleteAll, wal_foldl, mem_filter, decide_eq_true_iff, mem_filter]

theorem archives_deleteAll (id : String) : (storage.deleteAll replies objects).archives id =
      if .archive id ∈ objects ∧ replies.deleted (.archive id) = true then none
      else storage.archives id := by
  simp only [deleteAll, archives_foldl, mem_filter]

end Storage

/-- `list_basebackups`: the metadata that was read, in a stable order of creation. -/
def listBasebackups (replies : StoreReplies) : List BasebackupMeta :=
  replies.basebackups.insertionSort (fun first second => first.createdAt ≤ second.createdAt)

theorem listBasebackups_perm (replies : StoreReplies) :
    (listBasebackups replies).Perm replies.basebackups :=
  perm_insertionSort _ _

/-- The earliest instant the clock library represents, midnight of 1 January -262143. -/
def minUtc : DateTime := -96465292 * 86400 * 1000000000

/-- The instant before which snapshots are too old: `some none` if the rule is off, and
`none` if the subtraction leaves the range of instants, which panics. -/
def retentionCutoff (now : DateTime) (retentionDays : Option Nat) : Option (Option DateTime) :=
  match retentionDays with
  | none => some none
  | some days =>
    if days = 0 then some none
    else
      let cutoff := now - days * 86400 * 1000000000
      if minUtc ≤ cutoff then some (some cutoff) else none

/-- Time-based retention: all but the last snapshot are measured. -/
def timedOut (cutoff : Option DateTime) (snapshots : List BasebackupMeta) : List BasebackupMeta :=
  match cutoff with
  | none => []
  | some instant =>
    (snapshots.take (snapshots.length - 1)).filter (fun snap => snap.createdAt < instant)

/-- Count-based retention. -/
def excess (keepCount : Option Nat) (snapshots : List BasebackupMeta) : List BasebackupMeta :=
  match keepCount with
  | none => []
  | some limit =>
    if 0 < limit ∧ limit < snapshots.length then snapshots.take (snapshots.length - limit)
    else []

/-- The ids collected for deletion from the snapshots in order of creation. -/
def toDeleteIds (cutoff : Option DateTime) (keepCount : Option Nat)
    (snapshots : List BasebackupMeta) : List String :=
  let selected := timedOut cutoff snapshots ++ excess keepCount snapshots
  let latest := snapshots.getLast?.map BasebackupMeta.snapshotId
  (selected.map BasebackupMeta.snapshotId).dedup.filter (fun id => some id ≠ latest)

/-- `prune_retention`, with the number of pruned snapshots; no number means a panic. -/
def pruneRetention (replies : StoreReplies) (now : DateTime)
    (keepCount retentionDays : Option Nat) (storage : Storage) : Storage × Option Nat :=
  let snapshots := listBasebackups replies
  if snapshots.length ≤ 1 then (storage, some 0)
  else
    match retentionCutoff now retentionDays with
    | none => (storage, none)
    | some cutoff =>
      let ids := toDeleteIds cutoff keepCount snapshots
      if ids.isEmpty then (storage, some 0)
      else
        let pruned :=
          storage.deleteAll replies (ids.flatMap fun id => [.archive id, .metadata id])
        match (snapshots.filter fun snap => !ids.contains snap.snapshotId).head? with
        | none => (pruned, some ids.length)
        | some oldestRetained =>
          let obsolete := replies.walSegments.filter (fun name => name < oldestRetained.startWal)
          (pruned.deleteAll replies (obsolete.map .wal), some ids.length)

/-- A snapshot the retention rule gives up: it is not the newest, and it is too old or
at least as many as are kept came after it. -/
def Expired (cutoff : Option DateTime) (keepCount : Option Nat)
    (snapshots : List BasebackupMeta) (snap : BasebackupMeta) : Prop :=
  (Followed 1 snapshots snap ∧ ∃ instant ∈ cutoff, snap.createdAt < instant) ∨
    ∃ limit ∈ keepCount, 0 < limit ∧ Followed limit snapshots snap

instance (cutoff : Option DateTime) (keepCount : Option Nat)
    (snapshots : List BasebackupMeta) (snap : BasebackupMeta) :
    Decidable (Expired cutoff keepCount snapshots snap) :=
  inferInstanceAs (Decidable (_ ∨ _))

section Selection

variable {cutoff : Option DateTime} {keepCount : Option Nat} {snapshots : List BasebackupMeta}

theorem mem_timedOut (snap : BasebackupMeta) : snap ∈ timedOut cutoff snapshots ↔
      Followed 1 snapshots snap ∧ ∃ instant ∈ cutoff, snap.createdAt < instant := by
  cases cutoff with
  | none => simp [timedOut]
  | some instant => simp [timedOut, mem_take_iff]

theorem mem_excess (snap : BasebackupMeta) : snap ∈ excess keepCount snapshots ↔
      ∃ limit ∈ keepCount, 0 < limit ∧ Followed limit snapshots snap := by
  cases keepCount with
  | none => simp [excess]
  | some limit =>
    have shorter : Followed limit snapshots snap → limit < snapshots.length := by
      rintro ⟨older, newer, rfl, enough⟩
      simp only [length_append, length_cons]
      omega
    by_cases applies : 0 < limit ∧ limit < snapshots.length
    · simp [excess, applies, mem_take_iff]
    simp only [excess, applies, ↓reduceIte, not_mem_nil, Option.mem_def,
      Option.some.injEq, exists_eq_left', false_iff]
    rintro ⟨positive, followed⟩
    exact applies ⟨positive, shorter followed⟩

theorem Expired.followed (expired : Expired cutoff keepCount snapshots snap) :
    Followed 1 snapshots snap := by
  rcases expired with ⟨followed, -⟩ | ⟨limit, -, positive, followed⟩
  · exact followed
  · exact followed.mono positive

/-- The ids collected are those of the expired snapshots. The removal of the newest id
changes nothing, as ids are distinct and the newest snapshot never expires. -/
theorem mem_toDeleteIds (distinct : (snapshots.map BasebackupMeta.snapshotId).Nodup) (id : String) :
    id ∈ toDeleteIds cutoff keepCount snapshots ↔
      ∃ snap, Expired cutoff keepCount snapshots snap ∧ snap.snapshotId = id := by
  have selected : ∀ snap, snap ∈ timedOut cutoff snapshots ++ excess keepCount snapshots ↔
      Expired cutoff keepCount snapshots snap := by
    intro snap
    rw [mem_append, mem_timedOut, mem_excess, Expired]
  simp only [toDeleteIds, mem_filter, mem_dedup, mem_map, selected, decide_eq_true_eq]
  constructor
  · rintro ⟨found, -⟩
    exact found
  rintro ⟨snap, expired, rfl⟩
  refine ⟨⟨snap, expired, rfl⟩, ?_⟩
  intro newest
  obtain ⟨last, isLast, same⟩ := Option.map_eq_some_iff.mp newest.symm
  exact expired.followed.key_ne_last distinct isLast same.symm

/-- Among distinct ids, a snapshot's id is collected exactly if the snapshot expired. -/
theorem collected_iff (distinct : (snapshots.map BasebackupMeta.snapshotId).Nodup)
    (member : snap ∈ snapshots) :
    snap.snapshotId ∈ toDeleteIds cutoff keepCount snapshots ↔
      Expired cutoff keepCount snapshots snap := by
  rw [mem_toDeleteIds distinct]
  constructor
  · rintro ⟨other, expired, same⟩
    rwa [← inj_on_of_nodup_map distinct expired.followed.mem member same]
  · intro expired
    exact ⟨snap, expired, rfl⟩

/-- The first snapshot left is the first that is not expired; the newest one is left. -/
theorem retained_head (cutoff : Option DateTime) (keepCount : Option Nat)
    (distinct : (snapshots.map BasebackupMeta.snapshotId).Nodup) (nonempty : snapshots ≠ []) :
    ∃ oldest, snapshots.find? (fun snap => ¬ Expired cutoff keepCount snapshots snap) =
        some oldest ∧ (snapshots.filter fun snap =>
        !(toDeleteIds cutoff keepCount snapshots).contains snap.snapshotId).head? =
        some oldest := by
  have same : (snapshots.filter fun snap =>
        !(toDeleteIds cutoff keepCount snapshots).contains snap.snapshotId) =
      snapshots.filter (fun snap => ¬ Expired cutoff keepCount snapshots snap) := by
    apply filter_congr
    intro snap member
    simp [← collected_iff distinct member]
  obtain ⟨last, newest⟩ : ∃ last, snapshots.getLast? = some last :=
    ⟨_, List.getLast?_eq_some_getLast nonempty⟩
  have kept : ¬ Expired cutoff keepCount snapshots last := by
    intro expired
    exact expired.followed.key_ne_last distinct newest rfl
  have found : (snapshots.find? fun snap =>
      ¬ Expired cutoff keepCount snapshots snap).isSome = true :=
    List.find?_isSome.mpr ⟨last, mem_of_getLast? newest, by simpa using kept⟩
  obtain ⟨oldest, isOldest⟩ := Option.isSome_iff_exists.mp found
  refine ⟨oldest, isOldest, ?_⟩
  rw [same, List.head?_filter, isOldest]

end Selection

section Pruning

variable (replies : StoreReplies) (now : DateTime) (keepCount retentionDays : Option Nat)
  (storage : Storage)

/-- Snapshots with this id are given up by the prune that reads these replies. -/
def GivesUp (id : String) : Prop :=
  ∃ cutoff snap, retentionCutoff now retentionDays = some cutoff ∧
    Expired cutoff keepCount (listBasebackups replies) snap ∧ snap.snapshotId = id

/-- The segment sorts before the first snapshot that a prune keeps, and something is
given up. -/
def Obsolete (segment : String) : Prop :=
  ∃ cutoff oldest, retentionCutoff now retentionDays = some cutoff ∧
    (∃ snap, Expired cutoff keepCount (listBasebackups replies) snap) ∧
    (listBasebackups replies).find?
      (fun snap => ¬ Expired cutoff keepCount (listBasebackups replies) snap) = some oldest ∧
    segment ∈ replies.walSegments ∧ segment < oldest.startWal

variable {replies now keepCount retentionDays storage}

theorem GivesUp.expired {id} (given : GivesUp replies now keepCount retentionDays id) :
    ∃ cutoff snap, retentionCutoff now retentionDays = some cutoff ∧
      Expired cutoff keepCount (listBasebackups replies) snap := by
  obtain ⟨cutoff, snap, known, expired, -⟩ := given
  exact ⟨cutoff, snap, known, expired⟩

theorem Obsolete.expired {segment : String}
    (obsolete : Obsolete replies now keepCount retentionDays segment) :
    ∃ cutoff snap, retentionCutoff now retentionDays = some cutoff ∧
      Expired cutoff keepCount (listBasebackups replies) snap := by
  obtain ⟨cutoff, oldest, known, ⟨snap, expired⟩, -⟩ := obsolete
  exact ⟨cutoff, snap, known, expired⟩

/-- The listing that a prune works on repeats no id. -/
theorem listBasebackups_distinct (listed : replies.basebackups.Subperm storage.metadata) :
    ((listBasebackups replies).map BasebackupMeta.snapshotId).Nodup :=
  ((listBasebackups_perm replies).map _).nodup_iff.mpr (listed_distinct listed)

/-- Without an expired snapshot no id is collected. -/
theorem toDeleteIds_eq_nil (listed : replies.basebackups.Subperm storage.metadata) {cutoff}
    (unexpired : ∀ snap, ¬ Expired cutoff keepCount (listBasebackups replies) snap) :
    toDeleteIds cutoff keepCount (listBasebackups replies) = [] := by
  rw [eq_nil_iff_forall_not_mem]
  intro id member
  obtain ⟨snap, expired, -⟩ := (mem_toDeleteIds (listBasebackups_distinct listed) id).mp member
  exact unexpired snap expired

/-- The newest snapshot does not expire. -/
theorem Expired.several {cutoff}
    (expired : Expired cutoff keepCount (listBasebackups replies) snap) :
    ¬ (listBasebackups replies).length ≤ 1 := by
  obtain ⟨older, newer, split, later⟩ := expired.followed
  rw [split, length_append, length_cons]
  omega

/-- A prune for which nothing has expired, or that panics, changes nothing. -/
theorem prune_unexpired (listed : replies.basebackups.Subperm storage.metadata)
    (unexpired : ∀ cutoff snap, retentionCutoff now retentionDays = some cutoff →
      ¬ Expired cutoff keepCount (listBasebackups replies) snap) :
    (pruneRetention replies now keepCount retentionDays storage).1 = storage := by
  by_cases single : (listBasebackups replies).length ≤ 1
  · simp [pruneRetention, single]
  cases known : retentionCutoff now retentionDays with
  | none => simp [pruneRetention, single, known]
  | some cutoff =>
    have nothing := toDeleteIds_eq_nil listed fun snap => unexpired cutoff snap known
    simp [pruneRetention, single, known, nothing]

/-- A prune for which a snapshot has expired keeps a first one and works from it. -/
theorem prune_expired (listed : replies.basebackups.Subperm storage.metadata)
    {cutoff} (known : retentionCutoff now retentionDays = some cutoff)
    (expired : Expired cutoff keepCount (listBasebackups replies) snap) :
    ∃ oldest, (listBasebackups replies).find?
        (fun snap => ¬ Expired cutoff keepCount (listBasebackups replies) snap) = some oldest ∧
      (pruneRetention replies now keepCount retentionDays storage).1 = storage.deleteAll replies
          ((toDeleteIds cutoff keepCount (listBasebackups replies)).flatMap
              (fun id => [.archive id, .metadata id]) ++
            (replies.walSegments.filter (fun name => name < oldest.startWal)).map .wal) := by
  have distinct := listBasebackups_distinct listed
  have something : toDeleteIds cutoff keepCount (listBasebackups replies) ≠ [] :=
    ne_nil_of_mem ((mem_toDeleteIds distinct snap.snapshotId).mpr ⟨snap, expired, rfl⟩)
  obtain ⟨oldest, isOldest, head⟩ := retained_head cutoff keepCount distinct
    (ne_nil_of_mem expired.followed.mem)
  refine ⟨oldest, isOldest, ?_⟩
  simp only [pruneRetention, expired.several, ↓reduceIte, known, List.isEmpty_iff, something, head,
    Storage.deleteAll_append]

variable (now keepCount retentionDays) in
/-- A prune deletes the objects of the snapshots it gives up and the obsolete segments. -/
theorem prune_objects (listed : replies.basebackups.Subperm storage.metadata) :
    ∃ objects, (pruneRetention replies now keepCount retentionDays storage).1 =
        storage.deleteAll replies objects ∧
      (∀ id, .archive id ∈ objects ↔ GivesUp replies now keepCount retentionDays id) ∧
      (∀ id, .metadata id ∈ objects ↔ GivesUp replies now keepCount retentionDays id) ∧
      ∀ name, .wal name ∈ objects ↔ Obsolete replies now keepCount retentionDays name := by
  by_cases active : ∃ cutoff snap, retentionCutoff now retentionDays = some cutoff ∧
      Expired cutoff keepCount (listBasebackups replies) snap
  · obtain ⟨cutoff, snap, known, expired⟩ := active
    obtain ⟨oldest, isOldest, pruned⟩ := prune_expired listed known expired
    have collected : ∀ id, id ∈ toDeleteIds cutoff keepCount (listBasebackups replies) ↔
        GivesUp replies now keepCount retentionDays id := by
      intro id
      simp [mem_toDeleteIds (listBasebackups_distinct listed), GivesUp, known]
    refine ⟨_, pruned, ?_, ?_, ?_⟩
    · intro id
      simp [collected]
    · intro id
      simp [collected]
    intro name
    simp only [mem_append, mem_flatMap, mem_cons, not_mem_nil,
      reduceCtorEq, or_self, and_false, exists_false, false_or, mem_map,
      Object.wal.injEq, exists_eq_right, mem_filter, decide_eq_true_eq]
    constructor
    · rintro ⟨member, before⟩
      exact ⟨cutoff, oldest, known, ⟨snap, expired⟩, isOldest, member, before⟩
    rintro ⟨other, first, measured, -, isFirst, member, before⟩
    cases known.symm.trans measured
    cases isOldest.symm.trans isFirst
    exact ⟨member, before⟩
  · have unexpired : ∀ cutoff snap, retentionCutoff now retentionDays = some cutoff →
        ¬ Expired cutoff keepCount (listBasebackups replies) snap := by
      intro cutoff snap known expired
      exact active ⟨cutoff, snap, known, expired⟩
    refine ⟨[], prune_unexpired listed unexpired, ?_, ?_, ?_⟩
    · intro id
      simpa using fun given : GivesUp replies now keepCount retentionDays id => active given.expired
    · intro id
      simpa using fun given : GivesUp replies now keepCount retentionDays id => active given.expired
    · intro name
      simpa using fun given : Obsolete replies now keepCount retentionDays name =>
        active given.expired

/-- A snapshot's metadata leaves storage if its id is given up and the delete succeeds. -/
theorem mem_pruned_metadata (listed : replies.basebackups.Subperm storage.metadata)
    (record : BasebackupMeta) :
    record ∈ (pruneRetention replies now keepCount retentionDays storage).1.metadata ↔
      record ∈ storage.metadata ∧ ¬ (GivesUp replies now keepCount retentionDays record.snapshotId ∧
          replies.deleted (.metadata record.snapshotId) = true) := by
  obtain ⟨objects, pruned, -, collected, -⟩ := prune_objects now keepCount retentionDays listed
  rw [pruned, Storage.mem_metadata_deleteAll, collected]

theorem pruned_archive (listed : replies.basebackups.Subperm storage.metadata)
    (id : String) (archive : TarArchive) :
    (pruneRetention replies now keepCount retentionDays storage).1.archives id = some archive ↔
      storage.archives id = some archive ∧ ¬ (GivesUp replies now keepCount retentionDays id ∧
          replies.deleted (.archive id) = true) := by
  obtain ⟨objects, pruned, collected, -, -⟩ := prune_objects now keepCount retentionDays listed
  rw [pruned, Storage.archives_deleteAll, ← collected]
  split
  · simp_all
  · simp_all

theorem mem_pruned_wal (listed : replies.basebackups.Subperm storage.metadata) (segment : String) :
    segment ∈ (pruneRetention replies now keepCount retentionDays storage).1.wal ↔
      segment ∈ storage.wal ∧ ¬ (Obsolete replies now keepCount retentionDays segment ∧
          replies.deleted (.wal segment) = true) := by
  obtain ⟨objects, pruned, -, -, collected⟩ := prune_objects now keepCount retentionDays listed
  rw [pruned, Storage.mem_wal_deleteAll, collected]

/-- A stored snapshot is given up exactly if it was listed and expired; ids tell stored
snapshots apart. -/
theorem givesUp_iff (listed : replies.basebackups.Subperm storage.metadata)
    (member : snap ∈ storage.metadata) :
    GivesUp replies now keepCount retentionDays snap.snapshotId ↔
      ∃ cutoff ∈ retentionCutoff now retentionDays,
        Expired cutoff keepCount (listBasebackups replies) snap := by
  constructor
  · rintro ⟨cutoff, other, known, expired, same⟩
    refine ⟨cutoff, known, ?_⟩
    have stored : other ∈ storage.metadata :=
      listed.subset ((listBasebackups_perm replies).mem_iff.mp expired.followed.mem)
    rwa [← inj_on_of_nodup_map storage.distinct stored member same]
  · rintro ⟨cutoff, known, expired⟩
    exact ⟨cutoff, snap, known, expired, rfl⟩

end Pruning

end PgVisor.Backup
