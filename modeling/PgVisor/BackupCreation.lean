import PgVisor.BackupCrashes
import PgVisor.ClusterRestore

/-!
# The creation of backups

`create_backup` first selects the node that `pg_basebackup` copies. Discovered standbys come
before configured ones, and a node on the leader's host is passed over; nothing asks whether a
configured standby was discovered. The leader is copied if no candidate is left.

The snapshot is then stored under an id made of the label and the second in which the call
began. Characters of the label that an object key should not hold are all written as `-`, so
that different labels may give one id, and a later snapshot takes the place of an earlier one
with its id.
-/

namespace PgVisor.Cluster

open Text List

variable {record : BasebackupMeta}

/-! ### The node to copy -/

/-- A port is a number of sixteen bits. -/
def parsePort (text : List Char) : Option Nat := (parseU64 text).filter (· < 2 ^ 16)

/-- An address taken apart, with the default port of PostgreSQL. -/
def hostPort (addr : String) : String × Nat :=
  (hostOf addr, ((addr.toList.splitOn ':')[1]?.bind parsePort).getD 5432)

/-- The address is on another host than the leader, if there is one. -/
def OffLeader (leader : Option String) (addr : String) : Prop :=
  some (hostOf addr) ≠ leader.map hostOf

instance (leader : Option String) (addr : String) : Decidable (OffLeader leader addr) :=
  inferInstanceAs (Decidable (¬ _))

/-- The addresses off the leader's host, each once. -/
def backupCandidates (leader : Option String) (addrs : List String) : List String :=
  addrs.foldl
    (fun chosen addr => if OffLeader leader addr ∧ addr ∉ chosen then chosen ++ [addr] else chosen)
    []

namespace BackupService

variable (service : BackupService)

/-- The leader's address, and that of this host if none is known. -/
def leaderTarget (leaderAddr : Option String) : String × Nat :=
  match leaderAddr <|> service.configuredLeader with
  | some addr => hostPort addr
  | none => ("127.0.0.1", 5432)

/-- `select_backup_target`: host and port, and whether they are a follower's. -/
def selectBackupTarget (leaderAddr : Option String) (standbyAddrs : List String) :
    (String × Nat) × Bool :=
  let leader := leaderAddr <|> service.configuredLeader
  match (backupCandidates leader (standbyAddrs ++ service.configuredStandbys)).head? with
  | some target => (hostPort target, true)
  | none => (service.leaderTarget leaderAddr, false)

end BackupService

/-- The first candidate is the first address off the leader's host. -/
theorem candidates_head (leader : Option String) (addrs : List String) :
    (backupCandidates leader addrs).head? = addrs.find? (OffLeader leader ·) := by
  -- once there is a candidate, it stays the first
  have first (addrs : List String) (chosen : List String) : (addrs.foldl (fun chosen addr =>
      if OffLeader leader addr ∧ addr ∉ chosen then chosen ++ [addr] else chosen) chosen).head? =
      chosen.head?.or (addrs.find? (OffLeader leader ·)) := by
    induction addrs generalizing chosen with
    | nil => simp
    | cons addr rest ih =>
      rw [foldl_cons, ih]
      cases chosen with
      | nil => by_cases off : OffLeader leader addr <;> simp [off]
      | cons head tail => split <;> simp
  exact first addrs []

/-- Only a discovered standby is taken for a follower, and the leader is copied if none is off
its host, exactly if there is one or no configured standby is off its host either. -/
theorem discovered_target_iff (service : BackupService) (leaderAddr : Option String)
    (standbyAddrs : List String) :
    let leader := leaderAddr <|> service.configuredLeader
    let selected := service.selectBackupTarget leaderAddr standbyAddrs
    ((selected.2 = true →
        ∃ addr ∈ standbyAddrs, OffLeader leader addr ∧ selected.1 = hostPort addr) ∧
      ((¬ ∃ addr ∈ standbyAddrs, OffLeader leader addr) →
        selected = (service.leaderTarget leaderAddr, false))) ↔
      (∃ addr ∈ standbyAddrs, OffLeader leader addr) ∨
        ¬ ∃ addr ∈ service.configuredStandbys, OffLeader leader addr := by
  intro leader selected
  have chosen : selected = match (standbyAddrs ++ service.configuredStandbys).find?
      (OffLeader leader ·) with
      | some target => (hostPort target, true)
      | none => (service.leaderTarget leaderAddr, false) := by
    simp only [selected, BackupService.selectBackupTarget, candidates_head]
    rfl
  rw [chosen, find?_append]
  cases discovered : standbyAddrs.find? (OffLeader leader ·) with
  | some addr =>
    have member := mem_of_find?_eq_some discovered
    have off : OffLeader leader addr := by simpa using find?_some discovered
    have known : ∃ addr ∈ standbyAddrs, OffLeader leader addr := ⟨addr, member, off⟩
    simp only [Option.some_or, known, not_true_eq_false, false_implies, and_true, true_or, iff_true]
    exact fun _ => ⟨addr, member, off, rfl⟩
  | none =>
    have unknown : ¬ ∃ addr ∈ standbyAddrs, OffLeader leader addr := by
      simpa using discovered
    cases configured : service.configuredStandbys.find? (OffLeader leader ·) with
    | some addr =>
      have member := mem_of_find?_eq_some configured
      have off : OffLeader leader addr := by simpa using find?_some configured
      simp only [unknown, false_or]
      constructor
      · rintro ⟨-, falls⟩
        cases congrArg Prod.snd (falls id)
      · intro none
        exact absurd ⟨addr, member, off⟩ none
    | none =>
      have absent : ¬ ∃ addr ∈ service.configuredStandbys, OffLeader leader addr := by
        simpa using configured
      simp [absent]

/-- A cluster of three configured nodes. -/
def threeNodes : BackupService where
  configuredLeader := some "node1:5432"
  configuredStandbys := ["node2:5432", "node3:5433"]
  controlPort := 8080
  hasPool := true
  parseTarget _ := none
  formatUtc _ := ""

/-- No standby was discovered, and a configured one is selected as a follower. -/
theorem undiscovered_standby_selected :
    threeNodes.selectBackupTarget (some "node1:5432") [] = (("node2", 5432), true) := by
  decide +kernel

end PgVisor.Cluster

namespace PgVisor.Backup

open Transitions List

/-! ### Snapshots under one id -/

/-- A call with what the clock and the storage answer to its prune. -/
structure Call where
  request : Request
  now : DateTime
  replies : StoreReplies

def Call.labels (call : Call) : List Label :=
  [.create call.request none, .storeMetadata none, .prune call.now call.replies]

/-- A call that stores its snapshot and returns it. -/
def serve (codec : Codec) (config : RetentionConfig) (service : Service) (call : Call) :
    Option Service :=
  (run (step codec config) service call.labels).filter fun next =>
    match next.reply with
    | some (.ok _) => true
    | _ => false

/-- Reading the snapshot gives this record and an archive of this content. -/
def Retrievable (storage : Storage) (record : BasebackupMeta) (entries : List TarEntry) : Prop :=
  ∃ archive, getBasebackup storage record.snapshotId = .ok (record, archive) ∧
    archive.entries = entries

/-- What a call stores under its id. -/
def Stores (codec : Codec) (request : Request) (record : BasebackupMeta)
    (entries : List TarEntry) : Prop :=
  ∃ stored archive, capture codec request = .ok (stored, archive) ∧
    stored.enriched = record ∧ archive.entries = entries

/-- The prune of a call gives up the id. -/
def Call.GivesUp (call : Call) (config : RetentionConfig) (id : String) : Prop :=
  Backup.GivesUp call.replies call.now config.keepCount (some config.retentionDays) id

theorem retrievable_iff (storage : Storage) (record : BasebackupMeta) (entries : List TarEntry) :
    Retrievable storage record entries ↔ record ∈ storage.metadata ∧
      ∃ archive, storage.archives record.snapshotId = some archive ∧ archive.entries = entries := by
  unfold Retrievable getBasebackup
  constructor
  · rintro ⟨archive, read, content⟩
    split at read
    · cases read
    next found =>
      split at read
      · cases read
      next stored =>
        cases read
        exact ⟨mem_of_find?_eq_some found, archive, stored, content⟩
  · rintro ⟨member, archive, stored, content⟩
    have found : storage.metadata.find? (fun other => other.snapshotId = record.snapshotId) =
        some record := by
      cases found : storage.metadata.find? (fun other => other.snapshotId = record.snapshotId) with
      | none => simpa using find?_eq_none.mp found record member
      | some other =>
        have same : other.snapshotId = record.snapshotId := by simpa using find?_some found
        rw [inj_on_of_nodup_map storage.distinct (mem_of_find?_eq_some found) member same]
    rw [found, stored]
    exact ⟨archive, rfl, content⟩

variable {codec : Codec} {config : RetentionConfig} {service next : Service} {call : Call}

/-- What a call that returns a snapshot has done. -/
theorem serve_inv (served : serve codec config service call = some next) :
    ∃ record archive, capture codec call.request = .ok (record, archive) ∧
      let stored :=
        (service.storage.writeArchive record.snapshotId archive).writeMetadata record.enriched
      call.replies.basebackups.Subperm stored.metadata ∧
      next.storage = (pruneRetention call.replies call.now config.keepCount
        (some config.retentionDays) stored).1 ∧
      next.reply = some (.ok record) := by
  obtain ⟨ran, succeeded⟩ := Option.filter_eq_some_iff.mp served
  obtain ⟨begun, created, ran⟩ := run_cons_inv ran
  obtain ⟨saved, written, ran⟩ := run_cons_inv ran
  obtain ⟨pruned, deleted, ran⟩ := run_cons_inv ran
  cases ran
  simp only [step, storeArchive] at created
  split at created
  · cases captured : capture codec call.request with
    | error message =>
      simp only [captured] at created
      cases created
      simp_all [step]
    | ok result =>
      obtain ⟨record, archive⟩ := result
      simp only [captured] at created
      cases created
      cases written
      simp only [step] at deleted
      split at deleted
      next listed =>
        cases deleted
        refine ⟨record, archive, rfl, listed, rfl, ?_⟩
        dsimp only at succeeded ⊢
        revert succeeded
        cases (pruneRetention call.replies call.now config.keepCount
          (some config.retentionDays) _).2 with
        | none => simp
        | some count => exact fun _ => rfl
      · cases deleted
  all_goals cases created

/-- A call replaces a snapshot of its own id and leaves the others. -/
theorem serve_retrievable (served : serve codec config service call = some next)
    (entries : List TarEntry)
    (spared : ¬ call.GivesUp config record.snapshotId) : Retrievable next.storage record entries ↔
      if call.request.snapshotId codec = record.snapshotId then
        Stores codec call.request record entries
      else Retrievable service.storage record entries := by
  obtain ⟨stored, archive, captured, listed, pruned, -⟩ := serve_inv served
  have own : stored.snapshotId = call.request.snapshotId codec := (capture_sameRun captured).1.1
  have kept : Retrievable next.storage record entries ↔ Retrievable ((service.storage.writeArchive
      stored.snapshotId archive).writeMetadata stored.enriched) record entries := by
    rw [retrievable_iff, retrievable_iff, pruned, mem_pruned_metadata listed]
    simp only [pruned_archive listed]
    simp_all [Call.GivesUp]
  have written : record ∈ ((service.storage.writeArchive stored.snapshotId archive).writeMetadata
      stored.enriched).metadata ↔
        record ∈ service.storage.metadata ∧ record.snapshotId ≠ stored.snapshotId ∨
          record = stored.enriched := by
    simp [Storage.writeMetadata, Storage.writeArchive, BasebackupMeta.enriched]
  have archives : ((service.storage.writeArchive stored.snapshotId archive).writeMetadata
      stored.enriched).archives record.snapshotId =
        if record.snapshotId = stored.snapshotId then some archive
        else service.storage.archives record.snapshotId := by
    simp [Storage.writeMetadata, Storage.writeArchive, Function.update_apply]
  rw [kept, retrievable_iff, written, archives]
  by_cases same : record.snapshotId = stored.snapshotId
  · rw [if_pos same, if_pos (own.symm.trans same.symm)]
    constructor
    · rintro ⟨⟨-, differs⟩ | rfl, found, held, content⟩
      · exact absurd same differs
      · cases held
        exact ⟨stored, archive, captured, rfl, content⟩
    · rintro ⟨again, found, recaptured, rfl, content⟩
      cases captured.symm.trans recaptured
      exact ⟨.inr rfl, archive, rfl, content⟩
  · have apart : record ≠ stored.enriched := fun equal => same (equal ▸ rfl)
    rw [if_neg same, if_neg fun equal => same (equal.symm.trans own.symm), retrievable_iff]
    simp [same, apart]

/-- Along later calls whose prunes spare a snapshot, it stays readable exactly if each of them
with its id stores the same. -/
theorem calls_keep_iff {final} (later : List Call)
    {entries} (ran : run (serve codec config) service later = some final)
    (held : Retrievable service.storage record entries)
    (spared : ∀ other ∈ later, ¬ other.GivesUp config record.snapshotId) :
    (∀ done middle, done <+: later → run (serve codec config) service done = some middle →
        Retrievable middle.storage record entries) ↔
      ∀ other ∈ later, other.request.snapshotId codec = record.snapshotId →
        Stores codec other.request record entries := by
  induction later generalizing service with
  | nil =>
    simp only [prefix_nil, not_mem_nil, false_implies, implies_true, iff_true]
    rintro done middle rfl ran
    cases ran
    exact held
  | cons call rest ih =>
    obtain ⟨next, served, ran⟩ := run_cons_inv ran
    have after := serve_retrievable served entries (spared call mem_cons_self)
    have later := fun held => ih ran held fun other member =>
      spared other (mem_cons_of_mem _ member)
    constructor
    · intro readable
      have still := readable [call] next ((prefix_append [call] rest)) (by simp [run, served])
      rw [forall_mem_cons]
      constructor
      · intro same
        simpa only [same, if_true] using after.mp still
      · refine (later still).mp fun done middle begins ran => ?_
        exact readable (call :: done) middle (cons_prefix_cons.mpr ⟨rfl, begins⟩)
          ((run_cons served).trans ran)
    · intro stores done middle begins through
      have still : Retrievable next.storage record entries := by
        rw [after]
        split
        next same => exact stores call mem_cons_self same
        next => exact held
      cases done with
      | nil =>
        cases through
        exact held
      | cons first done =>
        obtain ⟨rfl, inside⟩ := cons_prefix_cons.mp begins
        rw [run_cons served] at through
        exact (later still).mpr (fun other member => stores other (mem_cons_of_mem _ member))
          done middle inside through

/-- Two calls get one id exactly if they begin in one second with the same label, characters
that are replaced aside. Of `chrono` it is taken that the layout of the time tells seconds
apart, and that the two times are written in the same width, as in years of four digits. -/
theorem snapshotId_eq_iff (codec : Codec) (one other : Request)
    (seconds : ∀ early late, codec.chrono.format idLayout early =
      codec.chrono.format idLayout late ↔ wholeSecond early = wholeSecond late)
    (width : (codec.chrono.format idLayout one.startTime).length =
      (codec.chrono.format idLayout other.startTime).length) :
    one.snapshotId codec = other.snapshotId codec ↔
      cleanLabel one.label = cleanLabel other.label ∧
        wholeSecond one.startTime = wholeSecond other.startTime := by
  rw [Request.snapshotId, Request.snapshotId, generateSnapshotId_eq_iff _ _ _ width, seconds]

/-- The snapshot that a call returns is stored, and it stays readable through the calls that
come later, as long as their prunes spare it, exactly if each of them with its id stores the
same record and the same archive. -/
theorem snapshot_kept_iff (codec : Codec) (config : RetentionConfig)
    (service returned final : Service) (call : Call) (later : List Call)
    (served : serve codec config service call = some returned)
    (ran : run (serve codec config) returned later = some final)
    (spared : ∀ other ∈ call :: later, ¬ other.GivesUp config (call.request.snapshotId codec)) :
    ∃ record archive, capture codec call.request = .ok (record, archive) ∧
      returned.reply = some (.ok record) ∧
      ((∀ done middle, done <+: later → run (serve codec config) returned done = some middle →
          Retrievable middle.storage record.enriched archive.entries) ↔
        ∀ other ∈ later, other.request.snapshotId codec = call.request.snapshotId codec →
          Stores codec other.request record.enriched archive.entries) := by
  obtain ⟨record, archive, captured, -, -, replied⟩ := serve_inv served
  have own : record.enriched.snapshotId = call.request.snapshotId codec :=
    (capture_sameRun captured).1.1
  refine ⟨record, archive, captured, replied, ?_⟩
  rw [← own] at spared ⊢
  have held : Retrievable returned.storage record.enriched archive.entries := by
    rw [serve_retrievable served _ (spared call mem_cons_self), if_pos own.symm]
    exact ⟨record, archive, captured, rfl, rfl⟩
  exact calls_keep_iff later ran held fun other member => spared other (mem_cons_of_mem _ member)

/-- A call on the first of August that lists its own snapshot. -/
def labelled (label : String) (execution : Execution) : Call :=
  let request := { nightly 1 execution with label := some label }
  { request
    now := request.finishTime
    replies := { basebackups := metadataOf request, walSegments := [], deleted := fun _ => true } }

theorem labels_apart_kept : ∃ returned final,
      serve shortCodec defaultRetention freshService (labelled "a" capturedTar) = some returned ∧
      run (serve shortCodec defaultRetention) returned [labelled "b" .exitedNonZero] =
        some final ∧ ∃ record entries, returned.reply = some (.ok record) ∧
        Retrievable final.storage record.enriched entries := by
  have runs : (run (serve shortCodec defaultRetention) freshService
      [labelled "a" capturedTar, labelled "b" .exitedNonZero]).isSome = true := by decide +kernel
  obtain ⟨final, ran⟩ := Option.isSome_iff_exists.mp runs
  obtain ⟨returned, served, later⟩ := run_cons_inv ran
  have single (label : String) (execution : Execution) (id : String)
      (one : (listBasebackups (labelled label execution).replies).length ≤ 1) :
      ¬ (labelled label execution).GivesUp defaultRetention id := by
    intro given
    obtain ⟨cutoff, snap, -, expired⟩ := GivesUp.expired given
    exact expired.several one
  obtain ⟨record, archive, -, replied, kept⟩ := snapshot_kept_iff shortCodec defaultRetention
    freshService returned final (labelled "a" capturedTar) [labelled "b" .exitedNonZero] served
    later (by
      intro other member
      simp only [mem_cons, not_mem_nil, or_false] at member
      rcases member with rfl | rfl
      · exact single _ _ _ (by decide +kernel)
      · exact single _ _ _ (by decide +kernel))
  refine ⟨returned, final, served, later, record, archive.entries, replied, ?_⟩
  refine kept.mpr ?_ _ final prefix_rfl later
  intro other member same
  cases mem_singleton.mp member
  exact absurd same (by decide +kernel)

/-- Two labels that differ in a blank give one id within a second: the snapshot that a failed
`pg_basebackup` simulates replaces the captured one. -/
theorem labels_collide : ∃ returned final,
      serve shortCodec defaultRetention freshService (labelled "a b" capturedTar) =
        some returned ∧
      serve shortCodec defaultRetention returned (labelled "a-b" .exitedNonZero) = some final ∧
      (getBasebackup returned.storage "a-b-snap-20260801-010000").map
        (fun found => (found.1.label, found.2.captured)) = .ok (some "a b", true) ∧
      (getBasebackup final.storage "a-b-snap-20260801-010000").map
        (fun found => (found.1.label, found.2.captured)) = .ok (some "a-b", false) := by
  simp only [exists_and_left]
  decide +kernel

end PgVisor.Backup
