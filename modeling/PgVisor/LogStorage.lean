import PgVisor.AtomicFile
import PgVisor.TokenCode
import PgVisor.WalLayout

/-!
# The log store of the replication layer

The store is a write-ahead log and one metadata record with the vote and the purge
point. The metadata is written as a whole through a temporary file by both operations
that change it; appending and truncating touch the log file alone.

The text of the metadata belongs to another crate. It is supplied as a format whose laws
are that written metadata is text and is read back. Content that does not parse is
replaced by empty metadata when the store is opened. Input and output errors are outside
this model, and the mutex makes every operation one step.
-/

namespace PgVisor.LogStorage

open ByteWords AtomicFile TokenCode WriteAheadLog

structure Vote where
  term : Nat
  nodeId : Nat
  committed : Bool
deriving DecidableEq

/-- The metadata beside the log. -/
structure LogMetadata where
  vote : Option Vote := none
  lastPurgedLogId : Option LogId := none
deriving DecidableEq, Inhabited

/-- The JSON text of the metadata. -/
structure MetaFormat where
  toVecPretty : LogMetadata → Bytes
  isText : Bytes → Bool
  fromStr : Bytes → Option LogMetadata
  text : ∀ metadata, isText (toVecPretty metadata) = true
  fromStr_toVecPretty : ∀ metadata, fromStr (toVecPretty metadata) = some metadata

/-- What is on disk: the content of `wal.bin`, and `meta.json` with its temporary file. -/
structure Directory where
  walBytes : Bytes
  metaFile : ReplacedFile
deriving DecidableEq

structure LogStoreInner where
  metadata : LogMetadata
  metaFile : ReplacedFile
  wal : Wal

/-- What remains on disk when the store is closed. -/
def LogStoreInner.directory (store : LogStoreInner) : Directory where
  walBytes := store.wal.file.bytes
  metaFile := store.metaFile

variable {Entry : Type}

/-- The metadata that opening finds. -/
def loadMeta (format : MetaFormat) : Option Bytes → Except StorageError LogMetadata
  | none => .ok default
  | some content =>
    if format.isText content then .ok ((format.fromStr content).getD default)
    else .error .io

/-- `LogStoreInner::open`: the log first, then the metadata. -/
def openStore (codec : Codec Entry) (format : MetaFormat) (directory : Directory) :
    Option (Except StorageError LogStoreInner) :=
  (openFile codec directory.walBytes).map fun opened => do
    let wal ← opened
    let metadata ← loadMeta format directory.metaFile.content
    return ⟨metadata, directory.metaFile, wal⟩

/-- The store opens when both of its files do. -/
theorem open_store_ok {codec : Codec Entry} {format : MetaFormat} {directory : Directory}
    {wal : Wal} {metadata : LogMetadata}
    (opened : openFile codec directory.walBytes = some (.ok wal))
    (loaded : loadMeta format directory.metaFile.content = .ok metadata) :
    openStore codec format directory = some (.ok ⟨metadata, directory.metaFile, wal⟩) := by
  simp only [openStore, opened, Option.map_some]
  change some (do
    let metadata ← loadMeta format directory.metaFile.content
    return (⟨metadata, directory.metaFile, wal⟩ : LogStoreInner)) = _
  rw [loaded]
  rfl

namespace LogStoreInner

def persistMeta (format : MetaFormat) (store : LogStoreInner) : LogStoreInner :=
  { store with metaFile := store.metaFile.replace (format.toVecPretty store.metadata) }

def saveVote (format : MetaFormat) (store : LogStoreInner) (vote : Vote) : LogStoreInner :=
  persistMeta format { store with metadata := { store.metadata with vote := some vote } }

def readVote (store : LogStoreInner) : Option Vote := store.metadata.vote

def append (codec : Codec Entry) (store : LogStoreInner) (entries : List Entry) : LogStoreInner :=
  { store with wal := WriteAheadLog.append codec store.wal entries }

def truncate (store : LogStoreInner) (logId : LogId) : LogStoreInner :=
  { store with wal := truncateSince store.wal logId.index }

def purge (format : MetaFormat) (store : LogStoreInner) (logId : LogId) : LogStoreInner :=
  persistMeta format { store with
    metadata := { store.metadata with lastPurgedLogId := some logId }
    wal := purgeUpto store.wal logId.index }

/-- The purge point and the last log id, as `get_log_state` reports them. -/
structure LogState where
  lastPurgedLogId : Option LogId
  lastLogId : Option LogId
deriving DecidableEq

def getLogState (store : LogStoreInner) : LogState where
  lastPurgedLogId := store.metadata.lastPurgedLogId
  lastLogId := store.wal.lastLogId

end LogStoreInner

/-! ## Reading a range -/

/-- One end of a range of log indices. -/
inductive Bound where
  | included (index : Nat)
  | excluded (index : Nat)
  | unbounded
deriving DecidableEq

/-- The first index of a range. An open lower end starts behind the purge point. -/
def rangeStart (arithmetic : Arithmetic) (store : LogStoreInner) : Bound → Option Nat
  | .included index => some index
  | .excluded index => arithmetic.add index 1
  | .unbounded =>
    match store.metadata.lastPurgedLogId with
    | some purged => arithmetic.add purged.index 1
    | none => some 0

/-- The first index behind a range. An open upper end stops behind the last log id. -/
def rangeEnd (arithmetic : Arithmetic) (store : LogStoreInner) (start : Nat) : Bound → Option Nat
  | .included index => arithmetic.add index 1
  | .excluded index => some index
  | .unbounded =>
    match store.wal.lastLogId with
    | some last => arithmetic.add last.index 1
    | none => some start

/-- `try_get_log_entries`. `none` is the panic of a checked increment. -/
def tryGetLogEntries (codec : Codec Entry) (arithmetic : Arithmetic) (store : LogStoreInner)
    (lower upper : Bound) : Option (Except StorageError (List Entry) × LogStoreInner) := do
  let start ← rangeStart arithmetic store lower
  let stop ← rangeEnd arithmetic store start upper
  let (entries, wal) := readRange codec store.wal start stop
  return (entries, { store with wal })

/-! ## Operations -/

/-- The calls of the replication layer that change the store. -/
inductive Operation (Entry : Type) where
  | saveVote (vote : Vote)
  | append (entries : List Entry)
  | truncate (logId : LogId)
  | purge (logId : LogId)

def perform (codec : Codec Entry) (format : MetaFormat) (store : LogStoreInner) :
    Operation Entry → LogStoreInner
  | .saveVote vote => store.saveVote format vote
  | .append entries => store.append codec entries
  | .truncate logId => store.truncate logId
  | .purge logId => store.purge format logId

/-- The metadata that an operation leaves. -/
def Operation.effect : Operation Entry → LogMetadata → LogMetadata
  | .saveVote vote, metadata => { metadata with vote := some vote }
  | .purge logId, metadata => { metadata with lastPurgedLogId := some logId }
  | .append _, metadata => metadata
  | .truncate _, metadata => metadata

variable (codec : Codec Entry) (format : MetaFormat) (store : LogStoreInner)

@[simp] theorem perform_metadata (operation : Operation Entry) :
    (perform codec format store operation).metadata = operation.effect store.metadata := by
  cases operation <;> rfl

/-- A store that was never opened before. -/
def fresh : LogStoreInner where
  metadata := default
  metaFile := .missing
  wal := WriteAheadLog.fresh

/-! ## The metadata on disk -/

/-- Opening the metadata file again yields the metadata in memory. -/
def Persisted (format : MetaFormat) (store : LogStoreInner) : Prop :=
  loadMeta format store.metaFile.content = .ok store.metadata

theorem load_written (metadata : LogMetadata) :
    loadMeta format (some (format.toVecPretty metadata)) = .ok metadata := by
  rw [loadMeta, format.text, if_pos rfl, format.fromStr_toVecPretty, Option.getD_some]

theorem fresh_persisted : Persisted format fresh := rfl

/-- Metadata is written before the operation that changes it returns. -/
theorem perform_persisted (operation : Operation Entry) (persisted : Persisted format store) :
    Persisted format (perform codec format store operation) := by
  cases operation with
  | saveVote vote => exact load_written format _
  | append entries | truncate logId => exact persisted
  | purge logId => exact load_written format _

/-! ## The log behind the store -/

/-- The lowest index that a purge leaves live. -/
def Operation.floor (floor : Nat) : Operation Entry → Nat
  | .purge logId => max floor (logId.index + 1)
  | _ => floor

/-- The entries that the log file holds after an operation. -/
def Operation.stored (codec : Codec Entry) (floor : Nat) (log : List Entry) :
    Operation Entry → List Entry
  | .append entries => log ++ entries
  | .truncate logId =>
    log.filter (fun entry => decide ((codec.logId entry).index < max logId.index floor))
  | _ => log

/-- An appended batch continues the log: its indices rise and lie above every live entry,
and above everything that was purged. -/
def Continues (codec : Codec Entry) (store : LogStoreInner) (floor : Nat)
    (entries : List Entry) : Prop :=
  Ordered codec entries ∧ ∀ entry ∈ entries, floor ≤ (codec.logId entry).index ∧
      ∀ binding ∈ store.wal.index.entries, binding.1 < (codec.logId entry).index

instance (codec : Codec Entry) (store : LogStoreInner) (floor : Nat) (entries : List Entry) :
    Decidable (Continues codec store floor entries) :=
  inferInstanceAs (Decidable (List.Pairwise _ _ ∧ _))

/-- What is asked of the calls: batches continue the log, and their records fit their length
words. -/
def Admits (codec : Codec Entry) (store : LogStoreInner) (floor : Nat) : Operation Entry → Prop
  | .append entries => Continues codec store floor entries ∧ Fits codec entries
  | _ => True

instance (codec : Codec Entry) (store : LogStoreInner) (floor : Nat)
    (operation : Operation Entry) : Decidable (Admits codec store floor operation) :=
  match operation with
  | .append _ => inferInstanceAs (Decidable (_ ∧ _))
  | .saveVote _ => inferInstanceAs (Decidable True)
  | .truncate _ => inferInstanceAs (Decidable True)
  | .purge _ => inferInstanceAs (Decidable True)

/-- A batch that continues the log extends the stored list in order: the entries that are
not live lie below the floor. -/
theorem continues_ordered (log entries : List Entry) (floor : Nat)
    (retains : Retains codec store.wal log floor)
    (continues : Continues codec store floor entries) : Ordered codec (log ++ entries) := by
  refine List.pairwise_append.mpr ⟨retains.ordered, continues.1, ?_⟩
  intro stored present added member
  obtain ⟨atFloor, aboveLive⟩ := continues.2 added member
  by_cases isLive : floor ≤ (codec.logId stored).index
  · exact (retains.bound_iff (fun key _ => key < (codec.logId added).index)).mp aboveLive stored
      (List.mem_filter.mpr ⟨present, decide_eq_true isLive⟩)
  · omega

/-- Every admitted operation keeps the log and its index together. -/
theorem perform_retains {log : List Entry} {floor : Nat} {operation : Operation Entry}
    (retains : Retains codec store.wal log floor) (admitted : Admits codec store floor operation) :
    Retains codec (perform codec format store operation).wal
      (operation.stored codec floor log) (operation.floor floor) := by
  cases operation with
  | saveVote vote => exact retains
  | append entries =>
    exact append_retains codec retains
      (continues_ordered codec store log entries floor retains admitted.1)
      (fun entry member => (admitted.1.2 entry member).1)
  | truncate logId => exact (truncate_retains codec logId.index retains).1
  | purge logId => exact purge_retains codec logId.index retains

theorem stored_fits {log : List Entry} {floor : Nat} {operation : Operation Entry}
    (fits : Fits codec log) (admitted : Admits codec store floor operation) :
    Fits codec (operation.stored codec floor log) := by
  intro entry member
  cases operation with
  | saveVote vote => exact fits entry member
  | append entries => exact (List.mem_append.mp member).elim (fits entry) (admitted.2 entry)
  | truncate logId => exact fits entry (List.mem_of_mem_filter member)
  | purge logId => exact fits entry member

theorem fresh_retains : Retains codec fresh.wal [] 0 :=
  ⟨rfl, rfl, List.Pairwise.nil⟩

/-! ## A format that meets the laws -/

def byteTally : Code UInt8 Nat := .tally 1 0 (by decide)

def logIdCode : Code UInt8 LogId :=
  (byteTally.pair (byteTally.pair byteTally)).via
    (fun logId => (logId.term, logId.nodeId, logId.index))
    (fun fields => some ⟨fields.1, fields.2.1, fields.2.2⟩) (fun _ => rfl)

def voteCode : Code UInt8 Vote :=
  (byteTally.pair (byteTally.pair byteTally)).via
    (fun vote => (vote.term, vote.nodeId, vote.committed.toNat))
    (fun fields => some ⟨fields.1, fields.2.1, decide (fields.2.2 = 1)⟩) (by
      rintro ⟨term, node, committed⟩
      cases committed <;> rfl)

def metadataCode : Code UInt8 LogMetadata :=
  ((voteCode.option byteTally).pair (logIdCode.option byteTally)).via
    (fun metadata => (metadata.vote, metadata.lastPurgedLogId))
    (fun fields => some ⟨fields.1, fields.2⟩) (fun _ => rfl)

/-- Metadata as tallies of its fields. -/
def tallyFormat : MetaFormat where
  toVecPretty := metadataCode.put
  isText _ := true
  fromStr := metadataCode.read
  text _ := rfl
  fromStr_toVecPretty := metadataCode.read_put

end PgVisor.LogStorage
