import PgVisor.BackupRuns

/-!
# Crashes between the writes of the backup manager

Saving a snapshot writes its archive and then its metadata; deleting one, by request or
in a prune, removes the archive and then the metadata. Here the process may stop between
any two of these effects and be started again on what storage then holds. Each effect on
one object happens as a whole or not at all, and none fails.

A snapshot is listed because its metadata is stored and can be restored only if its
archive is stored as well. The order of the two writes of a save keeps every listed
snapshot restorable; the order of the two deletes does not.
-/

namespace PgVisor.Backup

open Transitions List

/-- `get_basebackup`: the metadata is read first, then the archive. -/
def getBasebackup (storage : Storage) (id : String) :
    Except BackupError (BasebackupMeta × TarArchive) :=
  match storage.metadata.find? (fun record => record.snapshotId = id) with
  | none => .error (.snapshotNotFound id)
  | some record =>
    match storage.archives id with
    | none => .error (.snapshotNotFound id)
    | some archive => .ok (record, archive)

/-- Everything that a listing returns can be read. -/
def Restorable (storage : Storage) : Prop :=
  ∀ replies, Reliable replies storage →
    ∀ snap ∈ listBasebackups replies, ∃ found, getBasebackup storage snap.snapshotId = .ok found

/-- One effect of the manager on storage. -/
inductive Effect where
  | writeArchive (id : String) (archive : TarArchive)
  | writeMetadata (record : BasebackupMeta)
  | delete (object : Object)
deriving DecidableEq

def Storage.perform (storage : Storage) : Effect → Storage
  | .writeArchive id archive => storage.writeArchive id archive
  | .writeMetadata record => storage.writeMetadata record
  | .delete object => storage.deleteObject object

def saveBasebackup (record : BasebackupMeta) (archive : TarArchive) : List Effect :=
  [.writeArchive record.snapshotId archive, .writeMetadata record.enriched]

def deleteBasebackup (id : String) : List Effect :=
  [.delete (.archive id), .delete (.metadata id)]

section Pruning

variable (replies : StoreReplies) (now : DateTime) (keepCount retentionDays : Option Nat)

/-- The ids a prune deletes, none if it returns early or panics. -/
def prunedIds : List String :=
  if (listBasebackups replies).length ≤ 1 then []
  else
    match retentionCutoff now retentionDays with
    | none => []
    | some cutoff => toDeleteIds cutoff keepCount (listBasebackups replies)

/-- The segments a prune deletes after it has deleted the snapshots of these ids. -/
def prunedSegments (ids : List String) : List String :=
  if ids.isEmpty then []
  else
    match ((listBasebackups replies).filter fun snap => !ids.contains snap.snapshotId).head? with
    | none => []
    | some oldestRetained =>
      replies.walSegments.filter (fun name => name < oldestRetained.startWal)

/-- The effects of `prune_retention`; the ids are walked in the order of a hash set. -/
def pruneEffects (order : List String) : List Effect :=
  order.flatMap deleteBasebackup ++
    (prunedSegments replies order).map fun name => .delete (.wal name)

end Pruning

/-- The manager with the effects of the call it is in. -/
structure Manager where
  storage : Storage
  pending : List Effect

def Manager.idle (storage : Storage) : Manager where
  storage := storage
  pending := []

/-- Storage answers a prune with all its objects, in some order, and deletes what it is
asked to. -/
def fullReplies (listed : List BasebackupMeta) (segments : List String) : StoreReplies where
  basebackups := listed
  walSegments := segments
  deleted := fun _ => true

inductive ManagerLabel where
  | save (record : BasebackupMeta) (archive : TarArchive)
  | delete (id : String)
  | prune (listed : List BasebackupMeta) (segments : List String) (now : DateTime)
      (keepCount retentionDays : Option Nat) (order : List String)
  | perform
  | crash
deriving DecidableEq

/-- A call begins when the one before it has ended. -/
def Manager.begin (manager : Manager) (effects : List Effect) : Option Manager :=
  match manager.pending with
  | [] => some { manager with pending := effects }
  | _ :: _ => none

def Manager.step (manager : Manager) : ManagerLabel → Option Manager
  | .save record archive => manager.begin (saveBasebackup record archive)
  | .delete id => manager.begin (deleteBasebackup id)
  | .prune listed segments now keepCount retentionDays order =>
    let replies := fullReplies listed segments
    if listed.Perm manager.storage.metadata ∧ segments.Perm manager.storage.wal ∧
        order.Perm (prunedIds replies now keepCount retentionDays) then
      manager.begin (pruneEffects replies order)
    else none
  | .perform =>
    match manager.pending with
    | [] => none
    | effect :: rest => some { storage := manager.storage.perform effect, pending := rest }
  | .crash => some (Manager.idle manager.storage)

/-! ### Whole calls -/

variable {effects : List Effect} {next : Manager} (replies : StoreReplies) {order : List String}
  {storage : Storage}

/-- A call that is not interrupted performs all its effects. -/
theorem run_performs (effects : List Effect) (storage : Storage) :
    run Manager.step ⟨storage, effects⟩ (replicate effects.length .perform) =
      some (.idle (effects.foldl Storage.perform storage)) := by
  induction effects generalizing storage with
  | nil => rfl
  | cons effect rest ih => exact ih (storage.perform effect)

/-- What a prune deletes after it has chosen these ids. -/
def prunedObjects (ids : List String) : List Object :=
  ids.flatMap (fun id => [.archive id, .metadata id]) ++ (prunedSegments replies ids).map .wal

theorem prune_deletes (now : DateTime) (keepCount retentionDays : Option Nat)
    (storage : Storage) : (pruneRetention replies now keepCount retentionDays storage).1 =
      storage.deleteAll replies
        (prunedObjects replies (prunedIds replies now keepCount retentionDays)) := by
  have nothing : storage.deleteAll replies (prunedObjects replies []) = storage := rfl
  by_cases single : (listBasebackups replies).length ≤ 1
  · simp only [pruneRetention, prunedIds, single, ↓reduceIte, nothing]
  cases known : retentionCutoff now retentionDays with
  | none => simp only [pruneRetention, prunedIds, single, ↓reduceIte, known, nothing]
  | some cutoff =>
    simp only [pruneRetention, prunedIds, single, ↓reduceIte, known]
    generalize toDeleteIds cutoff keepCount (listBasebackups replies) = ids
    by_cases empty : ids.isEmpty = true
    · rw [if_pos empty, List.isEmpty_iff.mp empty, nothing]
    rw [if_neg empty, prunedObjects, prunedSegments, if_neg empty, ← Storage.deleteAll_append]
    cases ((listBasebackups replies).filter fun snap => !ids.contains snap.snapshotId).head? with
    | none | some oldestRetained => rfl

/-- The objects depend on the ids alone, not on their order. -/
theorem mem_prunedObjects {ids} (permuted : order.Perm ids) (object : Object) :
    object ∈ prunedObjects replies order ↔ object ∈ prunedObjects replies ids := by
  have same (id : String) : order.contains id = ids.contains id := by
    simp [permuted.mem_iff]
  simp only [prunedObjects, prunedSegments, mem_append, mem_flatMap, permuted.mem_iff,
    permuted.isEmpty_eq, same]

/-- A prune that is not interrupted is `prune_retention`, in whatever order it walks the
ids. -/
theorem run_prune {listed segments now keepCount retentionDays}
    (metadata : listed.Perm storage.metadata) (wal : segments.Perm storage.wal)
    (walked : order.Perm (prunedIds (fullReplies listed segments) now keepCount retentionDays)) :
    run Manager.step (.idle storage)
        (.prune listed segments now keepCount retentionDays order ::
          replicate (pruneEffects (fullReplies listed segments) order).length .perform) =
      some (.idle (pruneRetention (fullReplies listed segments) now keepCount retentionDays
        storage).1) := by
  have effects : pruneEffects (fullReplies listed segments) order =
      (prunedObjects (fullReplies listed segments) order).map .delete := by
    rw [prunedObjects, map_append, map_flatMap, map_map]
    rfl
  have all (objects : List Object) : objects.filter (fullReplies listed segments).deleted =
      objects := filter_eq_self.mpr fun _ _ => rfl
  rw [run_cons (if_pos ⟨metadata, wal, walked⟩), run_performs, effects, foldl_map, prune_deletes,
    Storage.deleteAll, all]
  exact congrArg (some ∘ Manager.idle)
    (Storage.foldl_deleteObject_congr storage (mem_prunedObjects _ walked))

/-! ### Snapshots that are listed and can be restored -/

theorem restorable_iff (storage : Storage) : Restorable storage ↔
      ∀ snap ∈ storage.metadata, (storage.archives snap.snapshotId).isSome = true := by
  constructor
  · intro restorable snap member
    have reliable : Reliable (fullReplies storage.metadata storage.wal) storage :=
      { basebackups := .refl _, walSegments := .refl _, deleted := fun _ => rfl }
    obtain ⟨found, read⟩ := restorable _ reliable snap ((listBasebackups_perm _).mem_iff.mpr member)
    simp only [getBasebackup] at read
    split at read
    · cases read
    split at read
    · cases read
    · rename_i archive stored
      rw [stored]
      rfl
  · intro stored replies reliable snap listed
    have member : snap ∈ storage.metadata :=
      reliable.basebackups.mem_iff.mp ((listBasebackups_perm replies).mem_iff.mp listed)
    have present : (storage.metadata.find?
        (fun record => record.snapshotId = snap.snapshotId)).isSome = true :=
      List.find?_isSome.mpr ⟨snap, member, by simp⟩
    obtain ⟨record, found⟩ := Option.isSome_iff_exists.mp present
    obtain ⟨archive, kept⟩ := Option.isSome_iff_exists.mp (stored snap member)
    exact ⟨(record, archive), by rw [getBasebackup, found, kept]⟩

instance (storage : Storage) : Decidable (Restorable storage) :=
  decidable_of_iff _ (restorable_iff storage).symm

/-- The archive of a listed snapshot is gone and its metadata is next. -/
def Manager.Halfway (manager : Manager) : Prop :=
  ∃ snap ∈ manager.storage.metadata,
    manager.pending.head? = some (.delete (.metadata snap.snapshotId))

instance (manager : Manager) : Decidable manager.Halfway :=
  inferInstanceAs (Decidable (∃ _ ∈ _, _))

/-- Effects that come in the pairs of a save or a delete, or concern a segment. -/
inductive Paired : List Effect → Prop where
  | done : Paired []
  | save (record : BasebackupMeta) (archive : TarArchive) (rest : List Effect)
      (later : Paired rest) :
      Paired (.writeArchive record.snapshotId archive :: .writeMetadata record :: rest)
  | delete (id : String) (rest : List Effect) (later : Paired rest) :
      Paired (.delete (.archive id) :: .delete (.metadata id) :: rest)
  | segment (name : String) (rest : List Effect) (later : Paired rest) :
      Paired (.delete (.wal name) :: rest)

variable {id : String}

/-- Whole pairs never begin with the delete of a metadata object. -/
theorem Paired.head_ne (paired : Paired effects) :
    effects.head? ≠ some (.delete (.metadata id)) := by
  cases paired with
  | done => nofun
  | save record archive rest later | delete other rest later | segment name rest later => nofun

/-- The archives of all listed snapshots but one are stored. -/
def Complete (storage : Storage) (except : Option String) : Prop :=
  ∀ snap ∈ storage.metadata, some snap.snapshotId ≠ except →
    (storage.archives snap.snapshotId).isSome = true

/-- How far a call has come: between two pairs of effects, or in the middle of one. -/
inductive Progress (manager : Manager) : Prop where
  | between (paired : Paired manager.pending) (complete : Complete manager.storage none)
  | saving (record : BasebackupMeta) (rest : List Effect) (later : Paired rest)
      (next : manager.pending = .writeMetadata record :: rest)
      (stored : (manager.storage.archives record.snapshotId).isSome = true)
      (complete : Complete manager.storage none)
  | deleting (id : String) (rest : List Effect) (later : Paired rest)
      (next : manager.pending = .delete (.metadata id) :: rest)
      (gone : manager.storage.archives id = none)
      (complete : Complete manager.storage (some id))

theorem complete_iff (storage : Storage) : Complete storage none ↔ Restorable storage := by
  simp [Complete, restorable_iff]

variable {manager : Manager}

/-- A listed snapshot cannot be restored exactly if a call is halfway through its delete. -/
theorem Progress.restorable_iff (progress : Progress manager) :
    Restorable manager.storage ↔ ¬ manager.Halfway := by
  cases progress with
  | between paired complete =>
    apply iff_of_true ((complete_iff _).mp complete)
    rintro ⟨snap, member, head⟩
    exact paired.head_ne head
  | saving record rest later next stored complete =>
    apply iff_of_true ((complete_iff _).mp complete)
    rintro ⟨snap, member, head⟩
    rw [next] at head
    cases head
  | deleting id rest later next gone complete =>
    rw [PgVisor.Backup.restorable_iff]
    constructor
    · rintro restorable ⟨snap, member, head⟩
      rw [next] at head
      cases head
      have stored := restorable snap member
      rw [gone] at stored
      cases stored
    · intro unlisted snap member
      apply complete snap member
      rintro same
      cases same
      exact unlisted ⟨snap, member, by rw [next]; rfl⟩

/-! ### One step and a run -/

theorem complete_writeArchive {archive} (complete : Complete storage none) :
    Complete (storage.writeArchive id archive) none := by
  intro snap member other
  by_cases same : snap.snapshotId = id
  · simp [Storage.writeArchive, same]
  have unchanged : (storage.writeArchive id archive).archives snap.snapshotId =
      storage.archives snap.snapshotId := Function.update_of_ne same _ _
  rw [unchanged]
  exact complete snap member other

theorem complete_writeMetadata {record}
    (stored : (storage.archives record.snapshotId).isSome = true)
    (complete : Complete storage none) :
    Complete (storage.writeMetadata record) none := by
  intro snap member other
  rcases mem_append.mp member with old | new
  · exact complete snap (mem_filter.mp old).1 other
  · rw [mem_singleton.mp new]
    exact stored

theorem complete_deleteArchive (complete : Complete storage none) :
    Complete (storage.deleteObject (.archive id)) (some id) := by
  intro snap member other
  have different : snap.snapshotId ≠ id := fun same => other (congrArg some same)
  have unchanged : (storage.deleteObject (.archive id)).archives snap.snapshotId =
      storage.archives snap.snapshotId := Function.update_of_ne different _ _
  rw [unchanged]
  exact complete snap member nofun

theorem complete_deleteMetadata (complete : Complete storage (some id)) :
    Complete (storage.deleteObject (.metadata id)) none := by
  intro snap member _
  obtain ⟨stored, different⟩ := mem_filter.mp member
  apply complete snap stored
  intro same
  simp [Option.some.inj same] at different

theorem paired_delete (ids : List String) (rest : List Effect) (later : Paired rest) :
    Paired (ids.flatMap deleteBasebackup ++ rest) := by
  induction ids with
  | nil => exact later
  | cons id others ih => exact .delete id _ ih

theorem paired_segments (names : List String) :
    Paired (names.map fun name => .delete (.wal name)) := by
  induction names with
  | nil => exact .done
  | cons name others ih => exact .segment name _ ih

/-- An effect moves a call on. -/
theorem perform_progress {effect rest} (progress : Progress manager)
    (next : manager.pending = effect :: rest) :
    Progress { storage := manager.storage.perform effect, pending := rest } := by
  cases progress with
  | between paired complete =>
    rw [next] at paired
    cases paired with
    | save record archive others later =>
      have stored : ((manager.storage.writeArchive record.snapshotId archive).archives
          record.snapshotId).isSome = true := by
        simp [Storage.writeArchive]
      exact .saving record others later rfl stored (complete_writeArchive complete)
    | delete id others later =>
      have gone : (manager.storage.deleteObject (.archive id)).archives id = none := by
        simp [Storage.deleteObject]
      exact .deleting id others later rfl gone (complete_deleteArchive complete)
    | segment name others later => exact .between later complete
  | saving record others later planned stored complete =>
    cases next.symm.trans planned
    exact .between later (complete_writeMetadata stored complete)
  | deleting id others later planned gone complete =>
    cases next.symm.trans planned
    exact .between later (complete_deleteMetadata complete)

/-- A call begins on a complete storage. -/
theorem begin_progress (progress : Progress manager)
    (paired : Paired effects) (begun : manager.begin effects = some next) : Progress next := by
  simp only [Manager.begin] at begun
  split at begun
  · rename_i empty
    cases begun
    cases progress with
    | between _ complete => exact .between paired complete
    | saving record rest later planned stored complete => cases empty.symm.trans planned
    | deleting id rest later planned gone complete => cases empty.symm.trans planned
  · cases begun

theorem step_progress {label} (progress : Progress manager)
    (whole : label = .crash → Restorable manager.storage) (moved : manager.step label = some next) :
    Progress next := by
  cases label with
  | save record archive =>
    exact begin_progress progress (.save record.enriched archive [] .done) moved
  | delete id => exact begin_progress progress (.delete id [] .done) moved
  | prune listed segments now keepCount retentionDays order =>
    simp only [Manager.step] at moved
    split at moved
    · exact begin_progress progress (paired_delete order _ (paired_segments _)) moved
    · cases moved
  | perform =>
    simp only [Manager.step] at moved
    split at moved
    · cases moved
    · rename_i effect rest planned
      cases moved
      exact perform_progress progress planned
  | crash =>
    cases moved
    exact .between .done ((complete_iff _).mpr (whole rfl))

/-- From a storage whose listed snapshots can all be restored: so it is at every crash of
a sequence of calls if and only if no crash falls between the two deletes of a listed
snapshot. -/
theorem restorable_at_crashes_iff (storage : Storage) (restorable : Restorable storage)
    (labels : List ManagerLabel) :
    Meets Manager.step (fun manager label => label = .crash → Restorable manager.storage)
        (Manager.idle storage) labels ↔
      Meets Manager.step (fun manager label => label = .crash → ¬ manager.Halfway)
        (Manager.idle storage) labels := by
  apply meets_congr Manager.step _ _ Progress
  · intro manager label next progress whole moved
    exact step_progress progress whole moved
  · intro manager label progress
    exact imp_congr_right fun _ => progress.restorable_iff
  · exact .between .done ((complete_iff storage).mpr restorable)

/-- A snapshot of one entry. -/
def dailyMeta (id : String) (createdAt : DateTime) : BasebackupMeta :=
  BasebackupMeta.new id createdAt .full "000000010000000000000003" 1

def dailyArchive : TarArchive where
  entries := [⟨"PG_VERSION", .text "16"⟩]
  captured := true

def emptyStorage : Storage where
  archives := fun _ => none
  metadata := []
  wal := []
  distinct := nodup_nil

def saved (id : String) (createdAt : DateTime) : List ManagerLabel :=
  [.save (dailyMeta id createdAt) dailyArchive, .perform, .perform]

/-- A crash after the first delete of a delete or of a prune leaves a snapshot that is
listed and cannot be read. -/
theorem crash_leaves_listed_snapshot : (∃ manager, run Manager.step (Manager.idle emptyStorage)
        (saved "snap-a" 0 ++ [.delete "snap-a", .perform, .crash]) = some manager ∧
      dailyMeta "snap-a" 0 ∈ listBasebackups (fullReplies manager.storage.metadata []) ∧
      getBasebackup manager.storage "snap-a" = .error (.snapshotNotFound "snap-a")) ∧
    ∃ manager, run Manager.step (Manager.idle emptyStorage)
        (saved "snap-a" 0 ++ saved "snap-b" 1 ++
          [.prune [dailyMeta "snap-a" 0, dailyMeta "snap-b" 1] [] 2 (some 1) none ["snap-a"],
            .perform, .crash]) = some manager ∧
      dailyMeta "snap-a" 0 ∈ listBasebackups (fullReplies manager.storage.metadata []) ∧
      getBasebackup manager.storage "snap-a" = .error (.snapshotNotFound "snap-a") := by
  constructor
  all_goals exact ⟨_, rfl, by decide +kernel, by decide +kernel⟩

/-- Crashes during a save and after a finished delete leave nothing of the kind. -/
theorem crashed_save_restorable : Restorable emptyStorage ∧
      Meets Manager.step (fun manager label => label = .crash → Restorable manager.storage)
        (Manager.idle emptyStorage)
        (saved "snap-a" 0 ++ [.save (dailyMeta "snap-b" 1) dailyArchive, .perform, .crash,
          .delete "snap-a", .perform, .perform, .crash]) := by
  have restorable : Restorable emptyStorage := by decide +kernel
  exact ⟨restorable, (restorable_at_crashes_iff emptyStorage restorable _).mpr (by decide +kernel)⟩

end PgVisor.Backup
