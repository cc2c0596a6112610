import PgVisor.LogStorage
import PgVisor.Transitions
import PgVisor.WalFaults

/-!
# Failed operations of the log store

Every call that the store makes to its files may fail. Saving a vote and purging change the
metadata in memory, and the index, before the metadata file is replaced; appending binds each
record as soon as it is written and syncs at the end; truncating cuts the file before the
index. Nothing is taken back when a later call fails.

The store is durable if memory is not ahead of the files: the metadata is what the metadata
file says, and everything the index binds lies in the content of the last sync. A failed
operation of a durable store leaves it durable and leaves what it answers exactly if it was
harmless: it saved the vote or the purge point that was there, or it stopped before a whole
record was written or before the file was cut.
-/

namespace PgVisor.LogStoreFaults

open ByteWords OrderedIndex AtomicFile FaultyCalls Transitions WriteAheadLog WalFaults List
open LogStorage (LogMetadata LogStoreInner MetaFormat Vote Bound rangeStart rangeEnd loadMeta
  tryGetLogEntries)

variable {Entry : Type} {codec : Codec Entry} {format : MetaFormat}

inductive ErrorSubject where
  | vote
  | logs
deriving DecidableEq

inductive ErrorVerb where
  | write
deriving DecidableEq

/-- The error that the replication layer gets. -/
structure StorageIoError where
  subject : ErrorSubject
  verb : ErrorVerb
  source : StorageError
deriving DecidableEq

/-- The store with the content that the last sync of its log has made durable. -/
structure Store where
  metadata : LogMetadata
  metaFile : ReplacedFile
  log : OpenWal

/-- The store as its readers see it. -/
def Store.inner (store : Store) : LogStoreInner := ⟨store.metadata, store.metaFile, store.log.wal⟩

section Operations

def createTemporary : Program StorageError Store Unit :=
  .call .io (fun store => { store with metaFile := { store.metaFile with temporary := some [] } })
    fun _ store => store

def writeTemporary (payload : Bytes) : Program StorageError Store Unit :=
  .call .io
    (fun store => { store with metaFile := { store.metaFile with temporary := some payload } })
    fun count store => { store with
      metaFile := { store.metaFile with temporary := some (payload.dropLast.take count) } }

def syncTemporary : Program StorageError Store Unit := .call .io id fun _ store => store

def renameTemporary (payload : Bytes) : Program StorageError Store Unit :=
  .call .io (fun store => { store with metaFile := store.metaFile.replace payload })
    fun _ store => store

/-- The metadata is written beside the file and renamed over it. -/
def persistMeta (format : MetaFormat) : Program StorageError Store Unit := do
  let payload ← .read fun store => format.toVecPretty store.metadata
  createTemporary
  writeTemporary payload
  syncTemporary
  renameTemporary payload

def saveVote (format : MetaFormat) (vote : Vote) : Program StorageIoError Store Unit := do
  .update fun store => { store with metadata := { store.metadata with vote := some vote } }
  (persistMeta format).mapErr (⟨.vote, .write, ·⟩)

/-- Work on the log of the store. -/
def onWal (program : Program StorageError OpenWal Unit) : Program StorageIoError Store Unit :=
  (program.within Store.log fun log store => { store with log }).mapErr (⟨.logs, .write, ·⟩)

def append (codec : Codec Entry) (entries : List Entry) : Program StorageIoError Store Unit :=
  onWal (WalFaults.append codec entries)

def truncate (logId : LogId) : Program StorageIoError Store Unit :=
  onWal (WalFaults.truncateSince logId.index)

def purge (format : MetaFormat) (logId : LogId) : Program StorageIoError Store Unit := do
  .update fun store => { store with
    metadata := { store.metadata with lastPurgedLogId := some logId }
    log := { store.log with wal := purgeUpto store.log.wal logId.index } }
  (persistMeta format).mapErr (⟨.logs, .write, ·⟩)

/-- The program of each call. -/
def program (codec : Codec Entry) (format : MetaFormat) :
    LogStorage.Operation Entry → Program StorageIoError Store Unit
  | .saveVote vote => saveVote format vote
  | .append entries => append codec entries
  | .truncate logId => truncate logId
  | .purge logId => purge format logId

/-- What an operation returns, and what an append tells its callback. -/
structure Answer where
  result : Except StorageIoError Unit
  callback : Option (Except StorageError Unit)

/-- The callback hears of an append what the caller does. -/
def callbackOf (result : Except StorageIoError Unit) :
    LogStorage.Operation Entry → Option (Except StorageError Unit)
  | .append _ => some (result.mapError StorageIoError.source)
  | _ => none

/-- A call, with the answers to its system calls. -/
def perform (codec : Codec Entry) (format : MetaFormat) (store : Store)
    (operation : LogStorage.Operation Entry) (script : List Reply) : Answer × Store :=
  let (result, final, _) := program codec format operation store script
  (⟨result, callbackOf result operation⟩, final)

/-- An error is returned, or reported through the callback. -/
def Answer.Failed (answer : Answer) : Prop :=
  (∃ error, answer.result = .error error) ∨ ∃ error, answer.callback = some (.error error)

end Operations

/-- The store answers as before. -/
structure SameReads (codec : Codec Entry) (before after : Store) : Prop where
  logState : after.inner.getLogState = before.inner.getLogState
  vote : after.inner.readVote = before.inner.readVote
  entries : ∀ arithmetic lower upper,
    (tryGetLogEntries codec arithmetic after.inner lower upper).map Prod.fst =
      (tryGetLogEntries codec arithmetic before.inner lower upper).map Prod.fst

/-- Where the bytes end that a read through the binding needs. -/
def readEnd (found : LogIndexEntry) : Nat :=
  found.fileOffset + headerLen + (found.totalRecordLen - headerLen)

/-- Memory is not ahead of the files. -/
structure Durable (format : MetaFormat) (store : Store) : Prop where
  metadata : loadMeta format store.metaFile.content = .ok store.metadata
  kept : store.log.synced <+: store.log.wal.file.bytes
  bound : ∀ binding ∈ store.log.wal.index.entries, readEnd binding.2 ≤ store.log.synced.length

/-- The failed operation has changed nothing that a reader sees. -/
def Harmless (codec : Codec Entry) (store after : Store) : LogStorage.Operation Entry → Prop
  | .saveVote vote => store.metadata.vote = some vote
  | .append entries =>
    ∀ first ∈ entries.head?, after.log.wal.file.bytes.length <
      store.log.wal.file.bytes.length + (record codec first).length
  | .truncate _ => after.log.wal.file.bytes = store.log.wal.file.bytes
  | .purge logId =>
    store.metadata.lastPurgedLogId = some logId ∧
      ∀ binding ∈ store.log.wal.index.entries, logId.index < binding.1

section Reading

/-- The second log reads like the first: its index is the same, and its file begins with the
bytes that the bindings need. -/
structure ReadsLike (first second : Wal) : Prop where
  index : second.index = first.index
  begins : first.file.bytes <+: second.file.bytes
  bound : ∀ binding ∈ first.index.entries, readEnd binding.2 ≤ first.file.bytes.length

/-- A read inside the first file reads the same from the second. -/
theorem readExact_begins {first second : ByteFile} (position : second.position = first.position)
    (begins : first.bytes <+: second.bytes) {count : Nat}
    (inside : first.position + count ≤ first.bytes.length) : ∃ payload,
      first.readExact count = some (payload, { first with position := first.position + count }) ∧
        second.readExact count =
          some (payload, { second with position := second.position + count }) := by
  have longer : second.position + count ≤ second.bytes.length := by
    have length := begins.length_le
    omega
  refine ⟨(first.bytes.drop first.position).take count, if_pos inside, ?_⟩
  obtain ⟨rest, same⟩ := begins
  have read : (second.bytes.drop second.position).take count =
      (first.bytes.drop first.position).take count := by
    rw [position, ← same, drop_append_of_le_length (by omega),
      take_append_of_le_length (by rw [length_drop]; omega)]
  rw [ByteFile.readExact, if_pos longer, read]

/-- Reading one entry cannot tell the two apart. -/
theorem ReadsLike.readEntry {first second : Wal} (like : ReadsLike first second)
    (codec : Codec Entry) (index : Nat) :
    (readEntry codec second index).1 = (readEntry codec first index).1 ∧
      ReadsLike (WriteAheadLog.readEntry codec first index).2
        (WriteAheadLog.readEntry codec second index).2 := by
  obtain ⟨bytes, same, -⟩ := read_unchanged codec first index
  obtain ⟨others, likewise, -⟩ := read_unchanged codec second index
  constructor
  · simp only [WriteAheadLog.readEntry, like.index]
    cases bound : first.index.get index with
    | none => rfl
    | some found =>
      have positions : (second.file.seekStart (found.fileOffset + headerLen)).position =
          (first.file.seekStart (found.fileOffset + headerLen)).position := rfl
      obtain ⟨payload, former, latter⟩ :=
        readExact_begins positions like.begins (like.bound _ (OrderedMap.mem_of_get bound))
      simp only [former, latter]
      cases codec.deserialize payload <;> rfl
  · constructor
    · rw [same, likewise, like.index]
    · rw [bytes, others]
      exact like.begins
    · rw [bytes, same]
      exact like.bound

/-- Nor can reading several. -/
theorem ReadsLike.readConsecutive {first second} (like : ReadsLike first second)
    (count index : Nat) (entries : List Entry) :
    (readConsecutive codec count second index entries).1 =
      (readConsecutive codec count first index entries).1 := by
  induction count generalizing first second index entries with
  | zero => rfl
  | succ count ih =>
    obtain ⟨result, later⟩ := like.readEntry codec index
    rw [WriteAheadLog.readConsecutive, WriteAheadLog.readConsecutive,
      ← Prod.eta (WriteAheadLog.readEntry codec second index),
      ← Prod.eta (WriteAheadLog.readEntry codec first index), result]
    cases (WriteAheadLog.readEntry codec first index).1 with
    | error error => rfl
    | ok found =>
      cases found with
      | none => rfl
      | some entry => exact ih later (index + 1) (entries ++ [entry])

/-- Stores with the same metadata and last log id, of which one reads like the other, give the
same answers. -/
theorem sameReads_of_like {before after} (metadata : after.metadata = before.metadata)
    (last : after.log.wal.lastLogId = before.log.wal.lastLogId)
    (like : ReadsLike before.log.wal after.log.wal) : SameReads codec before after where
  logState := by
    simp only [LogStoreInner.getLogState, Store.inner, metadata, last]
  vote := by
    simp only [LogStoreInner.readVote, Store.inner, metadata]
  entries := by
    intro arithmetic lower upper
    have starts : rangeStart arithmetic after.inner lower =
        rangeStart arithmetic before.inner lower := by
      cases lower <;> simp only [rangeStart, Store.inner, metadata]
    have stops : ∀ start, rangeEnd arithmetic after.inner start upper =
        rangeEnd arithmetic before.inner start upper := by
      intro start
      cases upper <;> simp only [rangeEnd, Store.inner, last]
    have ranges : ∀ start stop, (readRange codec after.log.wal start stop).1 =
        (readRange codec before.log.wal start stop).1 := by
      intro start stop
      exact like.readConsecutive (stop - start) start []
    simp only [tryGetLogEntries, starts, stops]
    cases rangeStart arithmetic before.inner lower with
    | none => rfl
    | some start =>
      simp only [Option.bind_eq_bind, Option.bind_some]
      cases rangeEnd arithmetic before.inner start upper with
      | none => rfl
      | some stop => exact congrArg some (ranges start stop)

/-- What a bound index reads is not nothing. -/
theorem readRange_bound (codec : Codec Entry) {wal : Wal} {index found}
    (bound : wal.index.get index = some found) :
    (readRange codec wal index (index + 1)).1 ≠ .ok [] := by
  have single : index + 1 - index = 1 := by omega
  rw [readRange, single, readConsecutive]
  simp only [readEntry, bound]
  cases (wal.file.seekStart (found.fileOffset + headerLen)).readExact
      (found.totalRecordLen - headerLen) with
  | none => simp
  | some read =>
    obtain ⟨payload, file⟩ := read
    simp only
    cases codec.deserialize payload with
    | none => simp
    | some entry => simp [readConsecutive]

/-- Nothing is read where nothing is bound. -/
theorem readRange_unbound (codec : Codec Entry) (wal : Wal) {index}
    (absent : wal.index.get index = none) : (readRange codec wal index (index + 1)).1 = .ok [] := by
  have single : index + 1 - index = 1 := by omega
  rw [readRange, single, readConsecutive]
  simp only [readEntry, absent]

/-- The range of one index, read through the store. -/
theorem tryGet_single (codec : Codec Entry) (store : Store) (index : Nat) :
    (tryGetLogEntries codec .wrapping store.inner (.included index) (.excluded (index + 1))).map
        Prod.fst = some (readRange codec store.log.wal index (index + 1)).1 := rfl

end Reading

section Failing

variable {store : Store}

/-- A replacement that stops has not renamed the new metadata. -/
theorem persistMeta_ends (format : MetaFormat) (store : Store) : Ends (persistMeta format) store
      (fun _ final => final =
        { store with metaFile := store.metaFile.replace (format.toVecPretty store.metadata) })
      (fun _ final => ∃ temporary,
        final = { store with metaFile := { store.metaFile with temporary } }) := by
  apply ends_bind
  apply ends_read
  apply ends_bind
  apply ends_call
  · apply ends_bind
    apply ends_call
    · apply ends_bind
      apply ends_call
      · apply ends_call
        · rfl
        · intro count
          exact ⟨_, rfl⟩
      · intro count
        exact ⟨_, rfl⟩
    · intro count
      exact ⟨_, rfl⟩
  · intro count
    exact ⟨store.metaFile.temporary, rfl⟩

/-- An operation on the metadata changes memory before it replaces the file. -/
theorem changed_ends (format : MetaFormat) (change : Store → Store)
    (wrap : StorageError → StorageIoError) (store : Store) :
    Ends (do .update change; (persistMeta format).mapErr wrap) store
      (fun _ final => final = { change store with
          metaFile := (change store).metaFile.replace
            (format.toVecPretty (change store).metadata) })
      (fun _ final => ∃ temporary, final = { change store with
          metaFile := { (change store).metaFile with temporary } }) := by
  apply ends_bind
  apply ends_update
  apply ends_mapErr
  exact persistMeta_ends format _

/-- A call on the log ends as the log does. -/
theorem onWal_ends {program returned stopped} (ends : Ends program store.log returned stopped) :
    Ends (onWal program) store
      (fun value final => ∃ log, returned value log ∧ final = { store with log })
      (fun error final => ∃ log, stopped error.source log ∧ final = { store with log }) := by
  apply ends_mapErr
  apply ends_within
  apply ends.mono
  · intro value log holds
    exact ⟨log, holds, rfl⟩
  · intro error log holds
    exact ⟨log, holds, rfl⟩

/-- Every bound record lies in the file. -/
theorem Durable.contained (durable : Durable format store) :
    ∀ binding ∈ store.log.wal.index.entries,
      readEnd binding.2 ≤ store.log.wal.file.bytes.length := by
  intro binding member
  exact (durable.bound binding member).trans durable.kept.length_le

/-- A failed operation has at most left bytes behind the log, and a temporary file. -/
structure Undone (before after : Store) : Prop where
  metadata : after.metadata = before.metadata
  content : after.metaFile.content = before.metaFile.content
  last : after.log.wal.lastLogId = before.log.wal.lastLogId
  index : after.log.wal.index = before.log.wal.index
  begins : before.log.wal.file.bytes <+: after.log.wal.file.bytes
  synced : after.log.synced = before.log.synced

/-- What was undone is not read. -/
theorem Undone.sameReads {after} (undone : Undone store after)
    (durable : Durable format store) : SameReads codec store after :=
  sameReads_of_like undone.metadata undone.last ⟨undone.index, undone.begins, durable.contained⟩

/-- Nor does it hurt what is durable. -/
theorem Undone.durable {after} (undone : Undone store after)
    (durable : Durable format store) : Durable format after where
  metadata := by
    rw [undone.content, undone.metadata]
    exact durable.metadata
  kept := by
    rw [undone.synced]
    exact durable.kept.trans undone.begins
  bound := by
    rw [undone.index, undone.synced]
    exact durable.bound

/-- A failed operation that changed no answer and left the store durable was harmless, and a
harmless one is undone. -/
def Settles (codec : Codec Entry) (format : MetaFormat) (store after : Store)
    (operation : LogStorage.Operation Entry) : Prop :=
  (SameReads codec store after → Durable format after → Harmless codec store after operation) ∧
    (Harmless codec store after operation → Undone store after)

/-- A settled failure is harmless exactly if nothing shows and nothing is lost. -/
theorem Settles.iff {after} {operation : LogStorage.Operation Entry}
    (settles : Settles codec format store after operation) (durable : Durable format store) :
    SameReads codec store after ∧ Durable format after ↔ Harmless codec store after operation := by
  constructor
  · rintro ⟨same, still⟩
    exact settles.1 same still
  · intro harmless
    have undone := settles.2 harmless
    exact ⟨undone.sameReads durable, undone.durable durable⟩

/-- A vote that failed to be written. -/
theorem saveVote_settles (vote : Vote) (temporary : Option Bytes) : Settles codec format store
      { store with
        metadata := { store.metadata with vote := some vote }
        metaFile := { store.metaFile with temporary } }
      (.saveVote vote) := by
  constructor
  · intro same _
    exact same.vote.symm
  intro saved
  refine ⟨?_, rfl, rfl, rfl, prefix_rfl, rfl⟩
  change ({ store.metadata with vote := some vote } : LogMetadata) = store.metadata
  rw [← show store.metadata.vote = some vote from saved]

/-- A purge whose metadata failed to be written. -/
theorem purge_settles (logId : LogId) (temporary : Option Bytes) : Settles codec format store
      { metadata := { store.metadata with lastPurgedLogId := some logId }
        metaFile := { store.metaFile with temporary }
        log := { store.log with wal := purgeUpto store.log.wal logId.index } }
      (.purge logId) := by
  constructor
  · intro same _
    constructor
    · exact congrArg LogStoreInner.LogState.lastPurgedLogId same.logState.symm
    intro binding listed
    by_contra within
    have forgotten : (purgeUpto store.log.wal logId.index).index.get binding.1 = none :=
      OrderedMap.get_above_of_le (Nat.le_of_not_lt within)
    have entries := same.entries .wrapping (.included binding.1) (.excluded (binding.1 + 1))
    rw [tryGet_single, tryGet_single, readRange_unbound codec _ forgotten] at entries
    exact readRange_bound codec (OrderedMap.get_of_mem listed)
      (Option.some.inj entries).symm
  · rintro ⟨purged, above⟩
    refine ⟨?_, rfl, rfl, ?_, prefix_rfl, rfl⟩
    · change ({ store.metadata with lastPurgedLogId := some logId } : LogMetadata) = store.metadata
      rw [← purged]
    apply OrderedMap.ext
    apply filter_eq_self.mpr
    intro binding listed
    exact decide_eq_true (above binding listed)

/-- A truncation that stopped before or after the cut. -/
theorem truncate_settles (durable : Durable format store) (logId : LogId) {log}
    (stopped : log = store.log ∨ ∃ firstKey found,
      store.log.wal.index.firstFrom logId.index = some (firstKey, found) ∧
        log.wal = { store.log.wal with file := store.log.wal.file.setLen found.fileOffset }) :
    Settles codec format store { store with log } (.truncate logId) := by
  rcases stopped with rfl | ⟨firstKey, found, first, cut⟩
  · constructor
    · intro _ _
      rfl
    · intro _
      exact ⟨rfl, rfl, rfl, rfl, prefix_rfl, rfl⟩
  · have listed := mem_of_find?_eq_some first
    have inside := durable.contained _ listed
    have length : log.wal.file.bytes.length = found.fileOffset := by
      rw [cut]
      exact ByteFile.set_len_length _ _
    constructor
    · intro _ after
      have still := after.contained (firstKey, found) (by
        change (firstKey, found) ∈ log.wal.index.entries
        rw [cut]
        exact listed)
      change readEnd found ≤ log.wal.file.bytes.length at still
      simp only [readEnd, headerLen] at still
      omega
    · intro unchanged
      have same := congrArg List.length (show log.wal.file.bytes = _ from unchanged)
      simp only [readEnd, headerLen] at inside
      omega

theorem le_offset_after (codec : Codec Entry) (entries : List Entry) (state : Wal × Nat) :
    state.2 ≤ (entries.foldl (appendRecord codec) state).2 := by
  induction entries generalizing state with
  | nil => exact le_rfl
  | cons entry rest ih =>
    have next : state.2 ≤ (appendRecord codec state entry).2 := Nat.le_add_right _ _
    rw [foldl_cons]
    exact next.trans (ih _)

/-- The last record of a batch is bound behind what was there. -/
theorem append_bound (codec : Codec Entry) (wal : Wal) {whole : List Entry}
    (nonempty : whole ≠ []) : ∃ binding ∈ (WriteAheadLog.append codec wal whole).index.entries,
      wal.file.bytes.length ≤ binding.2.fileOffset := by
  rw [append_of_ne_nil codec wal nonempty]
  obtain ⟨earlier, last, rfl⟩ := (eq_nil_or_concat' whole).resolve_left nonempty
  rw [foldl_append, foldl_cons, foldl_nil]
  have behind := le_offset_after codec earlier
    ({ wal with file := wal.file.seekEnd }, wal.file.bytes.length)
  generalize earlier.foldl (appendRecord codec)
    ({ wal with file := wal.file.seekEnd }, wal.file.bytes.length) = state at behind ⊢
  have bound : (appendRecord codec state last).1.index.get (codec.logId last).index =
      some ⟨state.2, headerLen + (codec.serialize last).length, codec.logId last⟩ := by
    simp only [appendRecord, OrderedMap.get_insert, if_pos]
  exact ⟨_, OrderedMap.mem_of_get bound, behind⟩

/-- An interrupted append. -/
theorem append_settles (durable : Durable format store) {entries whole torn log}
    (nonempty : entries ≠ []) (interrupted : Interrupted codec store.log entries whole torn log) :
    Settles codec format store { store with log } (.append entries) := by
  obtain ⟨first, rest, rfl⟩ := exists_cons_of_ne_nil nonempty
  cases whole with
  | nil =>
    constructor
    · intro _ _ head headed
      cases headed
      change log.wal.file.bytes.length < _
      rw [interrupted.bytes, image_nil, append_nil, length_append]
      rcases interrupted.part with rfl | ⟨entry, further, -, short⟩
      · simp only [length_nil, record_length, headerLen]
        omega
      · rw [nil_append, cons_prefix_cons] at further
        rw [further.1] at short
        omega
    · intro _
      refine ⟨rfl, rfl, interrupted.last, interrupted.index, ?_, interrupted.synced⟩
      change store.log.wal.file.bytes <+: log.wal.file.bytes
      rw [interrupted.bytes, append_assoc]
      exact prefix_append _ _
  | cons written more =>
    constructor
    · intro _ after
      obtain ⟨binding, listed, behind⟩ :=
        append_bound codec store.log.wal (cons_ne_nil written more)
      have ahead := after.bound binding (by
        change binding ∈ log.wal.index.entries
        rw [interrupted.index]
        exact listed)
      change readEnd binding.2 ≤ log.synced.length at ahead
      have kept := durable.kept.length_le
      rw [interrupted.synced] at ahead
      simp only [readEnd, headerLen] at ahead
      omega
    · intro harmless
      have short := harmless first rfl
      change log.wal.file.bytes.length < _ at short
      obtain ⟨rfl, -⟩ := cons_prefix_cons.mp interrupted.begins
      rw [interrupted.bytes, image_cons, length_append, length_append, length_append] at short
      omega

theorem append_nil_returns (codec : Codec Entry) (store : Store) (script : List Reply) :
    append codec [] store script = (.ok (), store, script) := rfl

/-- Every failed call settles. -/
theorem stopped_settles (durable : Durable format store) {operation : LogStorage.Operation Entry}
    {script rest error final}
    (stopped : program codec format operation store script = (.error error, final, rest)) :
    Settles codec format store final operation := by
  cases operation with
  | saveVote vote =>
    obtain ⟨temporary, rfl⟩ := (changed_ends format _ _ store).stops stopped
    exact saveVote_settles vote temporary
  | append entries =>
    obtain ⟨log, ⟨-, whole, torn, interrupted⟩, rfl⟩ :=
      (onWal_ends (append_ends codec entries store.log)).stops stopped
    apply append_settles durable _ interrupted
    rintro rfl
    cases (append_nil_returns codec store script).symm.trans stopped
  | truncate logId =>
    obtain ⟨log, ⟨-, cut⟩, rfl⟩ :=
      (onWal_ends (truncateSince_ends logId.index store.log)).stops stopped
    exact truncate_settles durable logId cut
  | purge logId =>
    obtain ⟨temporary, rfl⟩ := (changed_ends format _ _ store).stops stopped
    exact purge_settles logId temporary

end Failing

/-- However the files answer, a call that returns has had the whole effect that it has over files
that do not fail, and one that stops has not replaced the metadata on disk. -/
theorem returned_calls_complete (codec : Codec Entry) (format : MetaFormat) (store : Store)
    (operation : LogStorage.Operation Entry) : Ends (program codec format operation) store
      (fun _ final => final.inner = LogStorage.perform codec format store.inner operation)
      (fun _ final => final.metaFile.content = store.metaFile.content) := by
  cases operation with
  | saveVote vote | purge logId =>
    apply (changed_ends format _ _ store).mono
    · rintro - - rfl
      rfl
    · rintro - - ⟨temporary, rfl⟩
      rfl
  | append entries =>
    apply (onWal_ends (append_ends codec entries store.log)).mono
    · rintro - - ⟨log, ⟨written, -⟩, rfl⟩
      exact congrArg (LogStoreInner.mk _ _) written
    · rintro - - ⟨log, -, rfl⟩
      rfl
  | truncate logId =>
    apply (onWal_ends (truncateSince_ends logId.index store.log)).mono
    · rintro - - ⟨log, ⟨cut, -⟩, rfl⟩
      exact congrArg (LogStoreInner.mk _ _) cut
    · rintro - - ⟨log, -, rfl⟩
      rfl

section Returning

/-- The records that the index binds lie in the file in the order of their keys. -/
structure Laid (wal : Wal) : Prop where
  contained : ∀ binding ∈ wal.index.entries, readEnd binding.2 ≤ wal.file.bytes.length
  ordered : ∀ first ∈ wal.index.entries, ∀ second ∈ wal.index.entries, first.1 < second.1 →
    readEnd first.2 ≤ second.2.fileOffset

variable {wal : Wal}

/-- Records are laid out under fewer bindings too. -/
theorem Laid.of_fewer (laid : Laid wal) {index}
    (fewer : ∀ binding ∈ index.entries, binding ∈ wal.index.entries) : Laid { wal with index } where
  contained := fun binding member => laid.contained binding (fewer binding member)
  ordered := fun first member second present =>
    laid.ordered first (fewer first member) second (fewer second present)

/-- What was undone leaves the layout. -/
theorem Undone.laid {before after} (undone : Undone before after)
    (laid : Laid before.log.wal) : Laid after.log.wal where
  contained := by
    rw [undone.index]
    intro binding member
    exact (laid.contained binding member).trans undone.begins.length_le
  ordered := by
    rw [undone.index]
    exact laid.ordered

/-- A record written at the end of the file, under a key above the others. -/
theorem Laid.appendRecord (laid : Laid wal) {bytes}
    (atEnd : wal.file = ⟨bytes, bytes.length⟩) (entry : Entry)
    (above : ∀ binding ∈ wal.index.entries, binding.1 < (codec.logId entry).index) :
    let next := WriteAheadLog.appendRecord codec (wal, bytes.length) entry
    Laid next.1 ∧
      next.1.file = ⟨bytes ++ record codec entry, (bytes ++ record codec entry).length⟩ ∧
      next.2 = (bytes ++ record codec entry).length ∧
      ∀ binding ∈ next.1.index.entries, binding.1 ≤ (codec.logId entry).index := by
  intro next
  have written : next.1.file = _ := appendRecord_file codec atEnd bytes.length entry
  have offset : next.2 = (bytes ++ record codec entry).length := by
    rw [length_append, record_length]
    rfl
  have bindings : next.1.index.entries = wal.index.entries ++ [((codec.logId entry).index,
        ⟨bytes.length, headerLen + (codec.serialize entry).length, codec.logId entry⟩)] :=
    OrderedMap.insert_above _ _ _ above
  have inside : ∀ binding ∈ wal.index.entries, readEnd binding.2 ≤ bytes.length := by
    intro binding member
    have within := laid.contained binding member
    rwa [atEnd] at within
  refine ⟨⟨?_, ?_⟩, written, offset, ?_⟩
  · intro binding member
    rw [written, length_append, record_length]
    rw [bindings] at member
    rcases mem_append.mp member with old | new
    · have within := inside binding old
      omega
    · cases mem_singleton.mp new
      simp only [readEnd, headerLen]
      omega
  · intro first member second present smaller
    rw [bindings] at member present
    rcases mem_append.mp present with old | new
    · rcases mem_append.mp member with earlier | last
      · exact laid.ordered first earlier second old smaller
      cases mem_singleton.mp last
      have larger := above second old
      simp only at smaller
      omega
    · cases mem_singleton.mp new
      rcases mem_append.mp member with earlier | last
      · exact inside first earlier
      · cases mem_singleton.mp last
        simp only at smaller
        omega
  · intro binding member
    rw [bindings] at member
    rcases mem_append.mp member with old | new
    · exact (above binding old).le
    · cases mem_singleton.mp new
      exact le_rfl

/-- Appended records are laid out behind the others. -/
theorem Laid.appendRecords (laid : Laid wal) {bytes}
    (atEnd : wal.file = ⟨bytes, bytes.length⟩) (entries : List Entry)
    (ordered : Ordered codec entries)
    (above : ∀ entry ∈ entries, ∀ binding ∈ wal.index.entries,
      binding.1 < (codec.logId entry).index) :
    Laid (entries.foldl (WriteAheadLog.appendRecord codec) (wal, bytes.length)).1 := by
  induction entries generalizing wal bytes with
  | nil => exact laid
  | cons entry rest ih =>
    obtain ⟨smaller, later⟩ := pairwise_cons.mp ordered
    obtain ⟨next, file, offset, keys⟩ := laid.appendRecord atEnd entry (above entry mem_cons_self)
    rw [foldl_cons, ← Prod.eta (WriteAheadLog.appendRecord codec (wal, bytes.length) entry), offset]
    apply ih next file later
    intro added member binding present
    exact (keys binding present).trans_lt (smaller added member)

/-- So is an appended batch. -/
theorem Laid.append (laid : Laid wal) (entries : List Entry) (ordered : Ordered codec entries)
    (above : ∀ entry ∈ entries, ∀ binding ∈ wal.index.entries,
      binding.1 < (codec.logId entry).index) : Laid (WriteAheadLog.append codec wal entries) := by
  by_cases empty : entries = []
  · subst empty
    exact laid
  · rw [append_of_ne_nil codec wal empty]
    have sought : Laid { wal with file := wal.file.seekEnd } := ⟨laid.contained, laid.ordered⟩
    exact sought.appendRecords rfl entries ordered above

/-- A cut keeps the layout. -/
theorem Laid.truncateSince (laid : Laid wal) (sinceIndex : Nat) :
    Laid (WriteAheadLog.truncateSince wal sinceIndex) := by
  rw [WriteAheadLog.truncateSince]
  cases first : wal.index.firstFrom sinceIndex with
  | none => exact laid
  | some binding =>
    obtain ⟨firstKey, found⟩ := binding
    have listed := mem_of_find?_eq_some first
    have fewer : ∀ binding ∈ (wal.index.below firstKey).entries, binding ∈ wal.index.entries :=
      fun binding member => mem_of_mem_filter member
    constructor
    · intro binding member
      have smaller : binding.1 < firstKey := by simpa using (mem_filter.mp member).2
      have before := laid.ordered binding (fewer binding member) _ listed smaller
      exact before.trans_eq (ByteFile.set_len_length _ _).symm
    · exact (laid.of_fewer fewer).ordered

theorem OpenWal.eq_of {first second : OpenWal} (wal : first.wal = second.wal)
    (synced : first.synced = second.synced) : first = second := by
  cases first
  cases second
  cases wal
  cases synced
  rfl

variable {store : Store}

/-- A log that was left alone, or synced after its last change. -/
theorem Durable.with_log (durable : Durable format store) {log} (laid : Laid log.wal)
    (written : log = store.log ∨ log.synced = log.wal.file.bytes) :
    Durable format { store with log } := by
  rcases written with rfl | synced
  · exact durable
  refine ⟨durable.metadata, ?_, ?_⟩
  · change log.synced <+: log.wal.file.bytes
    rw [synced]
  · change ∀ binding ∈ log.wal.index.entries, readEnd binding.2 ≤ log.synced.length
    rw [synced]
    exact laid.contained

/-- A returned operation leaves a durable store, if its entries continue the log. -/
theorem returned_durable (durable : Durable format store) (laid : Laid store.log.wal)
    {operation : LogStorage.Operation Entry}
    (continues : ∀ entries, operation = .append entries →
      LogStorage.Continues codec store.inner 0 entries)
    {script rest : List Reply} {final : Store}
    (returned : program codec format operation store script = (.ok (), final, rest)) :
    Durable format final ∧ Laid final.log.wal := by
  cases operation with
  | saveVote vote =>
    cases (changed_ends format _ _ store).returns returned
    exact ⟨⟨LogStorage.load_written format _, durable.kept, durable.bound⟩, laid⟩
  | append entries =>
    obtain ⟨log, ⟨written, synced⟩, rfl⟩ :=
      (onWal_ends (append_ends codec entries store.log)).returns returned
    obtain ⟨ordered, above⟩ := continues entries rfl
    have after : Laid log.wal := by
      rw [written]
      exact laid.append entries ordered fun entry member => (above entry member).2
    refine ⟨durable.with_log after ?_, after⟩
    by_cases empty : entries = []
    · subst empty
      exact .inl (OpenWal.eq_of written synced)
    · rw [if_neg (by simpa using empty)] at synced
      exact .inr synced
  | truncate logId =>
    obtain ⟨log, ⟨cut, synced⟩, rfl⟩ :=
      (onWal_ends (truncateSince_ends logId.index store.log)).returns returned
    have after : Laid log.wal := by
      rw [cut]
      exact laid.truncateSince logId.index
    refine ⟨durable.with_log after ?_, after⟩
    cases first : store.log.wal.index.firstFrom logId.index with
    | none =>
      rw [WriteAheadLog.truncateSince, first] at cut
      rw [first] at synced
      exact .inl (OpenWal.eq_of cut synced)
    | some binding =>
      rw [first] at synced
      exact .inr synced
  | purge logId =>
    cases (changed_ends format _ _ store).returns returned
    have fewer : ∀ binding ∈ (store.log.wal.index.above logId.index).entries,
        binding ∈ store.log.wal.index.entries :=
      fun binding member => mem_of_mem_filter member
    refine ⟨⟨LogStorage.load_written format _, durable.kept, ?_⟩, laid.of_fewer fewer⟩
    intro binding member
    exact durable.bound binding (fewer binding member)

end Returning

section Runs

/-- A call, and how the calls to the files that it makes are answered. -/
structure Call (Entry : Type) where
  operation : LogStorage.Operation Entry
  script : List Reply

def step (codec : Codec Entry) (format : MetaFormat) (store : Store) (call : Call Entry) :
    Option Store :=
  some (perform codec format store call.operation call.script).2

/-- An appended batch continues the log. -/
def Continuing (codec : Codec Entry) (store : Store) (call : Call Entry) : Prop :=
  ∀ entries, call.operation = .append entries → LogStorage.Continues codec store.inner 0 entries

/-- The store answers after a failed call as before, and memory is not ahead of the files after
any call. -/
def Unharmed (codec : Codec Entry) (format : MetaFormat) (store : Store) (call : Call Entry) :
    Prop :=
  let (answer, after) := perform codec format store call.operation call.script
  (answer.Failed → SameReads codec store after) ∧ Durable format after

/-- A call that fails is harmless. -/
def FailsHarmlessly (codec : Codec Entry) (format : MetaFormat) (store : Store)
    (call : Call Entry) : Prop :=
  let (answer, after) := perform codec format store call.operation call.script
  answer.Failed → Harmless codec store after call.operation

/-- A call returns to its caller, or fails; the callback hears the same. -/
theorem perform_cases (codec : Codec Entry) (format : MetaFormat) (store : Store)
    (operation : LogStorage.Operation Entry) (script : List Reply) :
    (∃ rest, program codec format operation store script =
        (.ok (), (perform codec format store operation script).2, rest) ∧
        ¬ (perform codec format store operation script).1.Failed) ∨
      ∃ error rest, program codec format operation store script =
        (.error error, (perform codec format store operation script).2, rest) ∧
        (perform codec format store operation script).1.Failed := by
  simp only [perform, Answer.Failed]
  generalize program codec format operation store script = ran
  obtain ⟨result, final, rest⟩ := ran
  cases result with
  | error error => exact .inr ⟨error, rest, rfl, .inl ⟨error, rfl⟩⟩
  | ok value =>
    refine .inl ⟨rest, rfl, ?_⟩
    rintro (⟨error, returned⟩ | ⟨error, reported⟩)
    · cases returned
    · cases operation <;> cases reported

/-- The store is durable and its log laid out in order. -/
def Tidy (format : MetaFormat) (store : Store) : Prop :=
  Durable format store ∧ Laid store.log.wal

/-- A call does no harm exactly if its failure is harmless. -/
theorem unharmed_iff {store} (tidy : Tidy format store) (call : Call Entry)
    (continuing : Continuing codec store call) :
    Unharmed codec format store call ↔ FailsHarmlessly codec format store call := by
  obtain ⟨durable, laid⟩ := tidy
  rcases perform_cases codec format store call.operation call.script with
    ⟨rest, returned, succeeded⟩ | ⟨error, rest, stopped, failed⟩
  · have after := returned_durable durable laid continuing returned
    constructor
    · intro _ failed
      exact absurd failed succeeded
    · intro _
      exact ⟨fun failed => absurd failed succeeded, after.1⟩
  · have settled := (stopped_settles durable stopped).iff durable
    simp only [Unharmed, FailsHarmlessly, failed, forall_const, settled]

/-- A store stays tidy over calls that do no harm. -/
theorem Tidy.after {store} (tidy : Tidy format store) (call : Call Entry)
    (continuing : Continuing codec store call) (unharmed : Unharmed codec format store call) :
    Tidy format (perform codec format store call.operation call.script).2 := by
  obtain ⟨durable, laid⟩ := tidy
  rcases perform_cases codec format store call.operation call.script with
    ⟨rest, returned, -⟩ | ⟨error, rest, stopped, failed⟩
  · exact returned_durable durable laid continuing returned
  · have settles := stopped_settles durable stopped
    have undone := settles.2 (settles.1 (unharmed.1 failed) unharmed.2)
    exact ⟨unharmed.2, undone.laid laid⟩

/-- A failed operation of a durable store leaves what the store answers, and memory no further
than the files, exactly if it was harmless. Along every run from a durable store whose batches
continue the log, no failure is seen and memory is never ahead exactly if every failed call is
harmless. -/
theorem failed_calls_unseen_iff (codec : Codec Entry) (format : MetaFormat) :
    (∀ (store : Store) (operation : LogStorage.Operation Entry) (script : List Reply),
      Durable format store →
      let (answer, after) := perform codec format store operation script
      answer.Failed → (SameReads codec store after ∧ Durable format after ↔
        Harmless codec store after operation)) ∧
    ∀ (store : Store) (calls : List (Call Entry)), Tidy format store →
      Meets (step codec format) (Continuing codec) store calls →
      (Meets (step codec format) (Unharmed codec format) store calls ↔
        Meets (step codec format) (FailsHarmlessly codec format) store calls) := by
  constructor
  · intro store operation script durable failed
    rcases perform_cases codec format store operation script with
      ⟨-, -, succeeded⟩ | ⟨error, rest, stopped, -⟩
    · exact absurd failed succeeded
    · exact (stopped_settles durable stopped).iff durable
  · intro store calls tidy continuing
    apply meets_congr_within (step codec format) _ _ (Tidy format) _ _ tidy continuing
    · intro before call next holds continues unharmed moved
      cases moved
      exact holds.after call continues unharmed
    · intro before call holds continues
      exact unharmed_iff holds call continues

/-- A store that was never opened before. -/
def fresh : Store := ⟨default, .missing, ⟨WriteAheadLog.fresh, []⟩⟩

theorem fresh_tidy (format : MetaFormat) : Tidy format fresh :=
  ⟨⟨rfl, prefix_rfl, nofun⟩, nofun, nofun⟩

/-- A vote and an entry; a second entry whose append cannot seek, and the same vote again, of
which the temporary file cannot be created. Neither failure is seen. -/
theorem failed_seek_unseen :
    let vote : Vote := ⟨1, 1, true⟩
    let calls : List (Call BlankEntry) :=
      [⟨.saveVote vote, []⟩, ⟨.append [⟨1, 1, 1⟩], []⟩, ⟨.append [⟨1, 1, 2⟩], [.failed 0]⟩,
        ⟨.saveVote vote, [.failed 0]⟩]
    Tidy LogStorage.tallyFormat fresh ∧
      Meets (step blankCodec LogStorage.tallyFormat) (Continuing blankCodec) fresh calls ∧
      Meets (step blankCodec LogStorage.tallyFormat) (FailsHarmlessly blankCodec
        LogStorage.tallyFormat) fresh calls ∧
      Meets (step blankCodec LogStorage.tallyFormat) (Unharmed blankCodec LogStorage.tallyFormat)
        fresh calls := by
  intro vote calls
  have continuing : Meets (step blankCodec LogStorage.tallyFormat) (Continuing blankCodec) fresh
      calls := by
    refine ⟨nofun, ?_⟩
    rintro _ ⟨⟩
    refine ⟨?_, ?_⟩
    · rintro _ ⟨⟩
      decide
    rintro _ ⟨⟩
    refine ⟨?_, ?_⟩
    · rintro _ ⟨⟩
      decide
    rintro _ ⟨⟩
    exact ⟨nofun, fun _ _ => trivial⟩
  have harmless : Meets (step blankCodec LogStorage.tallyFormat) (FailsHarmlessly blankCodec
      LogStorage.tallyFormat) fresh calls := by
    refine ⟨fun failed => ?_, ?_⟩
    · rcases failed with ⟨_, ⟨⟩⟩ | ⟨_, ⟨⟩⟩
    rintro _ ⟨⟩
    refine ⟨fun failed => ?_, ?_⟩
    · rcases failed with ⟨_, ⟨⟩⟩ | ⟨_, ⟨⟩⟩
    rintro _ ⟨⟩
    refine ⟨fun _ => ?_, ?_⟩
    · rintro _ ⟨⟩
      decide
    rintro _ ⟨⟩
    exact ⟨fun _ => rfl, fun _ _ => trivial⟩
  exact ⟨fresh_tidy _, continuing, harmless,
    ((failed_calls_unseen_iff blankCodec LogStorage.tallyFormat).2 fresh calls (fresh_tidy _)
      continuing).mpr harmless⟩

/-- Four failures that are seen. A vote whose temporary file cannot be created is read back; an
entry whose sync fails is the last one; a cut whose sync fails makes the entry unreadable; and a
purge whose temporary file cannot be created has forgotten the entry. -/
theorem failed_calls_seen :
    let vote : Vote := ⟨1, 1, true⟩
    let entry : BlankEntry := ⟨1, 1, 1⟩
    let format := LogStorage.tallyFormat
    let stored := (perform blankCodec format fresh (.append [entry]) []).2
    let voted := perform blankCodec format fresh (.saveVote vote) [.failed 0]
    let unsynced := perform blankCodec format fresh (.append [entry])
      [.done, .done, .done, .done, .done, .done, .failed 0]
    let cut := perform blankCodec format stored (.truncate ⟨1, 1, 1⟩) [.done, .failed 0]
    let purged := perform blankCodec format stored (.purge ⟨1, 1, 1⟩) [.failed 0]
    let read := fun store : Store =>
      (tryGetLogEntries blankCodec .checked store.inner (.included 1) (.excluded 2)).map Prod.fst
    (voted.1.result = .error ⟨.vote, .write, .io⟩ ∧ fresh.inner.readVote = none ∧
      voted.2.inner.readVote = some vote ∧ voted.2.metaFile.content = none) ∧
    (unsynced.1.callback = some (.error .io) ∧ fresh.inner.getLogState.lastLogId = none ∧
      unsynced.2.inner.getLogState.lastLogId = some ⟨1, 1, 1⟩ ∧ unsynced.2.log.synced = []) ∧
    (cut.1.result = .error ⟨.logs, .write, .io⟩ ∧ read stored = some (.ok [entry]) ∧
      read cut.2 = some (.error .io)) ∧
    purged.1.result = .error ⟨.logs, .write, .io⟩ ∧ read purged.2 = some (.ok []) ∧
      stored.inner.getLogState.lastPurgedLogId = none ∧
      purged.2.inner.getLogState.lastPurgedLogId = some ⟨1, 1, 1⟩ := by
  intro vote entry format stored voted unsynced cut purged read
  refine ⟨⟨rfl, rfl, rfl, rfl⟩, ⟨rfl, rfl, rfl, rfl⟩, ⟨rfl, ?_, rfl⟩, rfl, rfl, rfl, rfl⟩
  decide +kernel

end Runs

end PgVisor.LogStoreFaults
