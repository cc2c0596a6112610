import PgVisor.BackupStore
import PgVisor.Transitions

/-!
# Backup calls and the last real snapshot

A backup call runs `pg_basebackup`, stores the archive, then the metadata, and prunes.
When `pg_basebackup` fails, or leaves no archive behind, a simulated archive is stored in
its place as a snapshot like any other. A real snapshot is one whose archive was captured
by a `pg_basebackup` that succeeded.

A step is one of the three storage phases of a call, so that a state lies between any two
writes; the calls follow one another under the backup lock. A crash or a panic ends a call
where it stands. The answers of `pg_basebackup`, of the file system and of storage are
free, as are the clock readings. The audit record and the log lines are left out.
-/

namespace PgVisor.Backup

open Transitions

variable {codec : Codec} {record : BasebackupMeta}

structure RetentionConfig where
  keepCount : Option Nat
  retentionDays : Nat

/-- What became of `base.tar.gz`. -/
inductive BaseTar where
  | unreadable (reason : String)
  | undecodable (reason : String)
  | decoded (entries : List TarEntry)

/-- What running `pg_basebackup` came to. -/
inductive Execution where
  | noTempDir (reason : String)
  | succeeded (baseTar : Option BaseTar)
  | exitedNonZero
  | unavailable

/-- The arguments of a call, with the host that was selected and the clock readings. -/
structure Request where
  backupType : BackupType
  label : Option String
  host : String
  startTime : DateTime
  finishTime : DateTime
  execution : Execution

namespace Request

/-- The id of the snapshot that a call stores. -/
def snapshotId (codec : Codec) (request : Request) : String :=
  generateSnapshotId codec.chrono request.label request.startTime

/-- The record before anything was copied. -/
def initialMeta (codec : Codec) (request : Request) : BasebackupMeta :=
  { BasebackupMeta.new (request.snapshotId codec) request.startTime request.backupType
      "000000010000000000000001" 0 with
    label := request.label
    sourceNode := some request.host
    backupFinishDate := some request.finishTime }

end Request

def simulate (codec : Codec) (request : Request) : BasebackupMeta × TarArchive :=
  let (entries, record) := createSimulatedBasebackup codec (request.initialMeta codec)
  ({ record with totalBytes := codec.size entries }, { entries, captured := false })

/-- The archive of a call and its record, or the message of the error it ends with. -/
def capture (codec : Codec) (request : Request) : Except String (BasebackupMeta × TarArchive) :=
  match request.execution with
  | .noTempDir reason => .error ("Failed to create temp dir: " ++ reason)
  | .succeeded (some (.unreadable reason)) => .error ("Failed to read base.tar.gz: " ++ reason)
  | .succeeded (some (.undecodable reason)) =>
    .error ("Failed to process basebackup archive: " ++ (BackupError.io reason).message)
  | .succeeded (some (.decoded entries)) =>
    match processBasebackupArchive codec entries (request.initialMeta codec) with
    | .error failure => .error ("Failed to process basebackup archive: " ++ failure.message)
    | .ok (final, record) =>
      .ok ({ record with
          totalBytes := codec.size final
          stopWal := record.stopWal <|> some record.startWal },
        { entries := final, captured := true })
  | .succeeded none => .ok (simulate codec request)
  | .exitedNonZero => .ok (simulate codec request)
  | .unavailable => .ok (simulate codec request)

/-- The executions after which a simulated archive is stored. -/
def Execution.simulated : Execution → Bool
  | .succeeded none => true
  | .exitedNonZero => true
  | .unavailable => true
  | .noTempDir _ => false
  | .succeeded (some _) => false

inductive Phase where
  | idle
  | archiveStored (record : BasebackupMeta)
  | saved (record : BasebackupMeta)
deriving DecidableEq

/-- The service with the answer of the last call, absent while a call runs and after one
that crashed. -/
structure Service where
  storage : Storage
  phase : Phase
  reply : Option (Except String BasebackupMeta)

variable {service : Service}

/-- A write carries the reason of its failure, if it fails. -/
inductive Label where
  | create (request : Request) (failure : Option String)
  | storeMetadata (failure : Option String)
  | prune (now : DateTime) (replies : StoreReplies)
  | crash

def saveError (reason : String) : Except String BasebackupMeta :=
  .error ("Failed to save basebackup to OpenDAL: " ++ (BackupError.openDal reason).message)

/-- Metadata is stored with a backup id. -/
def BasebackupMeta.enriched (record : BasebackupMeta) : BasebackupMeta :=
  { record with backupId := record.backupId <|> some record.snapshotId }

def storeArchive (codec : Codec) (service : Service) (request : Request)
    (failure : Option String) : Service :=
  match capture codec request with
  | .error message => { service with reply := some (.error message) }
  | .ok (record, archive) =>
    match failure with
    | some reason => { service with reply := some (saveError reason) }
    | none =>
      { storage := service.storage.writeArchive record.snapshotId archive
        phase := .archiveStored record
        reply := none }

def step (codec : Codec) (config : RetentionConfig) (service : Service) : Label → Option Service
  | .create request failure =>
    match service.phase with
    | .idle => some (storeArchive codec service request failure)
    | .archiveStored _ | .saved _ => none
  | .storeMetadata failure =>
    match service.phase, failure with
    | .archiveStored _, some reason =>
      some { service with phase := .idle, reply := some (saveError reason) }
    | .archiveStored record, none =>
      some { service with
        storage := service.storage.writeMetadata record.enriched, phase := .saved record }
    | .idle, _ | .saved _, _ => none
  | .prune now replies =>
    match service.phase with
    | .saved record =>
      if replies.basebackups.Subperm service.storage.metadata then
        let (storage, count) :=
          pruneRetention replies now config.keepCount (some config.retentionDays) service.storage
        -- without a count the call has panicked and answers nothing
        some { storage, phase := .idle, reply := count.map fun _ => .ok record }
      else none
    | .idle | .archiveStored _ => none
  | .crash => some { service with phase := .idle, reply := none }

/-- The snapshot's archive came from a `pg_basebackup` that succeeded. -/
def Captured (storage : Storage) (snap : BasebackupMeta) : Prop :=
  ∃ archive ∈ storage.archives snap.snapshotId, archive.captured = true

/-- A real snapshot is stored. -/
def HoldsReal (storage : Storage) : Prop :=
  ∃ snap ∈ storage.metadata, Captured storage snap

instance (storage : Storage) (snap : BasebackupMeta) : Decidable (Captured storage snap) :=
  inferInstanceAs (Decidable (∃ _ ∈ _, _))

instance (storage : Storage) : Decidable (HoldsReal storage) :=
  inferInstanceAs (Decidable (∃ _ ∈ _, _))

/-- The step leaves some real snapshot alone. A simulated archive may be written if a
real snapshot has another id. A prune may go ahead if a real snapshot has not expired in
the listing, or storage keeps both its objects all the same. -/
def SparesReal (codec : Codec) (config : RetentionConfig) (service : Service) : Label → Prop
  | .create request failure =>
    request.execution.simulated = true → failure = none →
      ∃ snap ∈ service.storage.metadata, Captured service.storage snap ∧
        snap.snapshotId ≠ request.snapshotId codec
  | .storeMetadata _ => True
  | .prune now replies =>
    ∃ snap ∈ service.storage.metadata, Captured service.storage snap ∧
      ¬ ((∃ cutoff ∈ retentionCutoff now (some config.retentionDays),
          Expired cutoff config.keepCount (listBasebackups replies) snap) ∧
        (replies.deleted (.archive snap.snapshotId) = true ∨
          replies.deleted (.metadata snap.snapshotId) = true))
  | .crash => True

instance (codec : Codec) (config : RetentionConfig) (service : Service) (label : Label) :
    Decidable (SparesReal codec config service label) :=
  match label with
  | .create _ _ => inferInstanceAs (Decidable (_ → _))
  | .storeMetadata _ => inferInstanceAs (Decidable True)
  | .prune _ _ => inferInstanceAs (Decidable (∃ _ ∈ _, _))
  | .crash => inferInstanceAs (Decidable True)

variable {request : Request}

theorem capture_simulated (codec : Codec) (simulated : request.execution.simulated = true) :
    capture codec request = .ok (simulate codec request) := by
  cases execution : request.execution with
  | noTempDir reason => simp [execution, Execution.simulated] at simulated
  | succeeded baseTar =>
    cases baseTar with
    | none => simp [capture, execution]
    | some tar => simp [execution, Execution.simulated] at simulated
  | exitedNonZero | unavailable => simp [capture, execution]

variable {archive : TarArchive}

theorem capture_sameRun (stored : capture codec request = .ok (record, archive)) :
    SameRun record (request.initialMeta codec) := by
  unfold capture at stored
  split at stored
  · cases stored
  · cases stored
  · cases stored
  · split at stored
    · cases stored
    next processed =>
      cases stored
      exact processed_sameRun processed
  all_goals
    cases stored
    exact .refl _

/-- A call that stores something else than a simulated archive stores a captured one. -/
theorem capture_real (real : request.execution.simulated ≠ true)
    (stored : capture codec request = .ok (record, archive)) : archive.captured = true := by
  unfold capture at stored
  split at stored
  · cases stored
  · cases stored
  · cases stored
  · split at stored
    · cases stored
    · cases stored
      rfl
  all_goals simp_all [Execution.simulated]

theorem captured_writeArchive (storage : Storage) (id : String) (archive : TarArchive)
    (snap : BasebackupMeta) : Captured (storage.writeArchive id archive) snap ↔
      if snap.snapshotId = id then archive.captured = true else Captured storage snap := by
  by_cases same : snap.snapshotId = id
  all_goals simp [Captured, Storage.writeArchive, same]

variable {storage : Storage}

theorem writeArchive_captured (id : String) (captured : archive.captured = true)
    (held : HoldsReal storage) : HoldsReal (storage.writeArchive id archive) := by
  obtain ⟨snap, member, real⟩ := held
  refine ⟨snap, member, (captured_writeArchive storage id archive snap).mpr ?_⟩
  split
  · exact captured
  · exact real

theorem writeArchive_simulated_iff (storage : Storage) (id : String)
    (simulated : archive.captured ≠ true) : HoldsReal (storage.writeArchive id archive) ↔
      ∃ snap ∈ storage.metadata, Captured storage snap ∧ snap.snapshotId ≠ id := by
  apply exists_congr
  intro snap
  apply and_congr_right
  intro member
  rw [captured_writeArchive]
  by_cases same : snap.snapshotId = id
  · simp [same, simulated]
  · simp [same]

/-- Replacing the metadata of a real snapshot leaves it real. -/
theorem writeMetadata_holds (record : BasebackupMeta) (held : HoldsReal storage) :
    HoldsReal (storage.writeMetadata record) := by
  obtain ⟨snap, member, real⟩ := held
  by_cases same : snap.snapshotId = record.snapshotId
  · refine ⟨record, List.mem_append_right _ List.mem_cons_self, ?_⟩
    simpa [Captured, Storage.writeMetadata, same] using real
  · refine ⟨snap, List.mem_append_left _ (List.mem_filter.mpr ⟨member, by simpa using same⟩), real⟩

theorem storeArchive_holds_iff (codec : Codec) (request : Request)
    (failure : Option String) (held : HoldsReal service.storage) :
    HoldsReal (storeArchive codec service request failure).storage ↔
      (request.execution.simulated = true → failure = none →
        ∃ snap ∈ service.storage.metadata, Captured service.storage snap ∧
          snap.snapshotId ≠ request.snapshotId codec) := by
  by_cases simulated : request.execution.simulated = true
  · rw [storeArchive, capture_simulated codec simulated]
    cases failure with
    | some reason => simpa [simulated] using held
    | none =>
      simp only [simulated, forall_const]
      exact writeArchive_simulated_iff service.storage _ Bool.false_ne_true
  · rw [iff_true_intro fun real : request.execution.simulated = true => absurd real simulated,
      iff_true]
    cases stored : capture codec request with
    | error message => simpa [storeArchive, stored] using held
    | ok result =>
      cases failure with
      | some reason => simpa [storeArchive, stored] using held
      | none =>
        simp only [storeArchive, stored]
        exact writeArchive_captured _ (capture_real simulated stored) held

theorem prune_holds_iff {replies} (now : DateTime)
    (keepCount retentionDays : Option Nat) (listed : replies.basebackups.Subperm storage.metadata) :
    HoldsReal (pruneRetention replies now keepCount retentionDays storage).1 ↔
      ∃ snap ∈ storage.metadata, Captured storage snap ∧
        ¬ ((∃ cutoff ∈ retentionCutoff now retentionDays,
            Expired cutoff keepCount (listBasebackups replies) snap) ∧
          (replies.deleted (.archive snap.snapshotId) = true ∨
            replies.deleted (.metadata snap.snapshotId) = true)) := by
  constructor
  · rintro ⟨snap, survives, archive, stored, captured⟩
    obtain ⟨member, metadataKept⟩ := (mem_pruned_metadata listed snap).mp survives
    obtain ⟨before, archiveKept⟩ := (pruned_archive listed _ archive).mp stored
    rw [givesUp_iff listed member] at metadataKept archiveKept
    refine ⟨snap, member, ⟨archive, before, captured⟩, ?_⟩
    rintro ⟨expired, archiveGone | metadataGone⟩
    · exact archiveKept ⟨expired, archiveGone⟩
    · exact metadataKept ⟨expired, metadataGone⟩
  · rintro ⟨snap, member, ⟨archive, before, captured⟩, spared⟩
    rw [← givesUp_iff listed member] at spared
    have survives := (mem_pruned_metadata listed snap).mpr
      ⟨member, fun ⟨given, gone⟩ => spared ⟨given, .inr gone⟩⟩
    have stored := (pruned_archive listed _ archive).mpr
      ⟨before, fun ⟨given, gone⟩ => spared ⟨given, .inl gone⟩⟩
    exact ⟨snap, survives, archive, stored, captured⟩

/-- A step from a storage with a real snapshot keeps one exactly if it spares one. -/
theorem step_holds_iff {config next label} (held : HoldsReal service.storage)
    (moved : step codec config service label = some next) :
    HoldsReal next.storage ↔ SparesReal codec config service label := by
  cases label with
  | create request failure =>
    simp only [step] at moved
    split at moved
    · cases moved
      exact storeArchive_holds_iff codec request failure held
    all_goals cases moved
  | storeMetadata failure =>
    simp only [SparesReal, iff_true]
    simp only [step] at moved
    split at moved
    · cases moved
      exact held
    · cases moved
      exact writeMetadata_holds _ held
    all_goals cases moved
  | prune now replies =>
    simp only [step] at moved
    split at moved
    · split at moved
      next listed =>
        cases moved
        exact prune_holds_iff now config.keepCount (some config.retentionDays) listed
      next => cases moved
    all_goals cases moved
  | crash =>
    cases moved
    simpa [SparesReal] using held

/-- Every call that is made keeps a real snapshot in storage if and only if each of its
steps spares one. -/
theorem real_snapshot_kept_iff (codec : Codec) (config : RetentionConfig)
    (labels : List Label) (service : Service) (held : HoldsReal service.storage) :
    Meets (step codec config)
        (fun before label => ∀ after, step codec config before label = some after →
          HoldsReal after.storage) service labels ↔ Meets (step codec config)
        (fun before label => ∀ after, step codec config before label = some after →
          SparesReal codec config before label) service labels := by
  apply meets_congr (step codec config) _ _ (fun state => HoldsReal state.storage)
  · intro state label next _ keeps moved
    exact keeps next moved
  · intro state label real
    apply forall_congr'
    intro next
    apply forall_congr'
    intro moved
    exact step_holds_iff real moved
  · exact held

/-- A codec for runs in August 2026 that read no times. -/
def shortCodec : Codec :=
  { chrono := {
      parseFromRfc3339 := fun _ => none
      parseFromStr := fun _ _ => none
      naiveParseFromStr := fun _ _ => none
      format := fun layout instant =>
        timeIn "2026" "08" (instant / 1000000000 - 1785542400).toNat layout.toList }
    json := fun record => record.snapshotId
    size := List.length }

/-- The default schedule keeps ten snapshots and seven days. -/
def defaultRetention : RetentionConfig := { keepCount := some 10, retentionDays := 7 }

def freshService : Service :=
  { storage := { archives := fun _ => none, metadata := [], wal := [], distinct := List.nodup_nil }
    phase := .idle
    reply := none }

/-- A full backup at 01:00 on a day of August 2026. -/
def nightly (day : Nat) (execution : Execution) : Request :=
  { backupType := .full
    label := none
    host := "node-2"
    startTime := (1785459600 + day * 86400) * 1000000000
    finishTime := (1785459660 + day * 86400) * 1000000000
    execution := execution }

def capturedTar : Execution :=
  .succeeded (some (.decoded [⟨"backup_label",
    .text "START WAL LOCATION: 0/3000028 (file 000000010000000000000003)\n"⟩]))

def metadataOf (request : Request) : List BasebackupMeta :=
  match capture shortCodec request with
  | .error _ => []
  | .ok (record, _) => [record.enriched]

/-- A call whose storage operations all succeed, next to the snapshots stored before. -/
def callAfter (stored : List BasebackupMeta) (request : Request) : List Label :=
  [.create request none, .storeMetadata none, .prune request.finishTime
      { basebackups := stored ++ metadataOf request, walSegments := [], deleted := fun _ => true }]

/-- One backup succeeds; the next one, eight days later, fails and prunes it. -/
theorem failed_backup_prunes_real : ∃ middle final,
      run (step shortCodec defaultRetention) freshService
        (callAfter [] (nightly 1 capturedTar)) = some middle ∧ HoldsReal middle.storage ∧
      run (step shortCodec defaultRetention) middle
        (callAfter (metadataOf (nightly 1 capturedTar)) (nightly 9 .exitedNonZero)) = some final ∧
      ¬ HoldsReal final.storage := by
  simp only [exists_and_left]
  decide +kernel

/-- When the next backup fails on the following day, the real snapshot stays. -/
theorem failed_backup_next_day_keeps_real : ∃ middle,
      run (step shortCodec defaultRetention) freshService
        (callAfter [] (nightly 1 capturedTar)) = some middle ∧ HoldsReal middle.storage ∧
      Meets (step shortCodec defaultRetention)
        (fun before label => ∀ after,
          step shortCodec defaultRetention before label = some after → HoldsReal after.storage)
        middle (callAfter (metadataOf (nightly 1 capturedTar)) (nightly 2 .exitedNonZero)) := by
  obtain ⟨middle, reached, held, spares⟩ : ∃ middle, run (step shortCodec defaultRetention)
      freshService (callAfter [] (nightly 1 capturedTar)) = some middle ∧
        HoldsReal middle.storage ∧ Meets (step shortCodec defaultRetention)
          (fun before label => SparesReal shortCodec defaultRetention before label) middle
          (callAfter (metadataOf (nightly 1 capturedTar)) (nightly 2 .exitedNonZero)) := by
    decide +kernel
  refine ⟨middle, reached, held, (real_snapshot_kept_iff _ _ _ middle held).mpr ?_⟩
  exact meets_mono _ (fun _ _ spared _ _ => spared) spares

end PgVisor.Backup
