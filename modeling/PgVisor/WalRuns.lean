import PgVisor.WalLayout

/-!
# Runs of the write-ahead log

Appends, truncations and reads in any order, starting from the log found in an
empty file. The abstract side of a run is a list of entries: a batch is put at
its end, and truncation removes the entries at or above an index. Purging is not
part of these runs.

The invariant of `WalLayout` holds after every permitted operation, so the scan
performed by opening the file always returns the index maintained in memory.
-/

namespace PgVisor.WriteAheadLog

open ByteWords OrderedIndex List

variable {Entry : Type}

inductive Operation (Entry : Type) where
  | append (entries : List Entry)
  | truncateSince (index : Nat)
  | readEntry (index : Nat)

def Operation.apply (codec : Codec Entry) (wal : Wal) : Operation Entry → Wal
  | .append entries => WriteAheadLog.append codec wal entries
  | .truncateSince index => WriteAheadLog.truncateSince wal index
  | .readEntry index => (WriteAheadLog.readEntry codec wal index).2

def run (codec : Codec Entry) (wal : Wal) (operations : List (Operation Entry)) : Wal :=
  operations.foldl (Operation.apply codec) wal

/-- A batch continues the log with consecutive indices. An empty log fixes no
first index. -/
def Continues (codec : Codec Entry) (last : Option LogId) (entries : List Entry) : Prop :=
  ∃ start, (∀ id ∈ last, start = id.index + 1) ∧
    entries.map (fun entry => (codec.logId entry).index) = List.range' start entries.length

/-- What the replication layer guarantees about an operation it issues. -/
def Operation.Permitted (codec : Codec Entry) (wal : Wal) : Operation Entry → Prop
  | .append entries => Continues codec wal.lastLogId entries ∧ Fits codec entries
  | .truncateSince _ => True
  | .readEntry _ => True

/-- Every operation is permitted in the state it meets. -/
def PermittedRun (codec : Codec Entry) : Wal → List (Operation Entry) → Prop
  | _, [] => True
  | wal, operation :: rest =>
    operation.Permitted codec wal ∧ PermittedRun codec (operation.apply codec wal) rest

/-- The abstract effect of an operation on the entries that are neither
overwritten nor truncated. -/
def Operation.effect (codec : Codec Entry) (log : List Entry) : Operation Entry → List Entry
  | .append entries => log ++ entries
  | .truncateSince index => log.filter (fun entry => decide ((codec.logId entry).index < index))
  | .readEntry _ => log

/-- The entries appended and not truncated afterwards, in append order. -/
def surviving (codec : Codec Entry) (operations : List (Operation Entry)) : List Entry :=
  operations.foldl (Operation.effect codec) []

variable (codec : Codec Entry) (log : List Entry)

/-- The last entry of an ordered list has its greatest index. -/
theorem ordered_last (ordered : Ordered codec log) {last : Entry} (atEnd : log.getLast? = some last)
    {entry : Entry} (member : entry ∈ log) :
    (codec.logId entry).index ≤ (codec.logId last).index := by
  obtain ⟨before, rfl⟩ := List.getLast?_eq_some_iff.mp atEnd
  rcases mem_append.mp member with earlier | final
  · exact Nat.le_of_lt ((pairwise_append.mp ordered).2.2 entry earlier last (mem_singleton.mpr rfl))
  · rw [mem_singleton.mp final]

/-- A continuing batch keeps the list ordered: it is increasing itself and
starts above the last stored index. -/
theorem continues_ordered (entries : List Entry) (ordered : Ordered codec log)
    (continues : Continues codec (log.getLast?.map codec.logId) entries) :
    Ordered codec (log ++ entries) := by
  obtain ⟨start, above, indices⟩ := continues
  have increasing : Ordered codec entries := by
    have consecutive : (entries.map (fun entry => (codec.logId entry).index)).Pairwise
        (fun first second => first < second) := indices ▸ pairwise_lt_range'
    exact pairwise_map.mp consecutive
  refine pairwise_append.mpr ⟨ordered, increasing, ?_⟩
  intro stored present added member
  have listed : (codec.logId added).index ∈ List.range' start entries.length :=
    indices ▸ mem_map.mpr ⟨added, member, rfl⟩
  have atLeast : start ≤ (codec.logId added).index := by
    obtain ⟨offset, _, same⟩ := mem_range'.mp listed
    omega
  cases atEnd : log.getLast? with
  | none =>
    rw [List.getLast?_eq_none_iff.mp atEnd] at present
    exact absurd present not_mem_nil
  | some last =>
    have startAbove : start = (codec.logId last).index + 1 := above _ (by simp [atEnd])
    have storedBelow := ordered_last codec log ordered atEnd present
    omega

/-- One permitted operation carries a stored list to its abstract effect. -/
theorem apply_stores {wal : Wal} {log : List Entry} {operation : Operation Entry}
    (stores : Stores codec wal log) (permitted : operation.Permitted codec wal) :
    Stores codec (operation.apply codec wal) (operation.effect codec log) := by
  cases operation with
  | append entries =>
    obtain ⟨continues, fits⟩ := permitted
    rw [stores.last] at continues
    exact append_stores codec stores
      (continues_ordered codec log entries stores.ordered continues) fits
  | truncateSince index => exact truncate_stores codec wal log index stores
  | readEntry index => exact read_keeps codec wal log stores index

/-- Every permitted run stores the abstract effect of its operations. -/
theorem run_stores (operations : List (Operation Entry)) (wal : Wal) (log : List Entry)
    (stores : Stores codec wal log) (permitted : PermittedRun codec wal operations) :
    Stores codec (run codec wal operations) (operations.foldl (Operation.effect codec) log) := by
  induction operations generalizing wal log with
  | nil => exact stores
  | cons operation rest ih =>
    exact ih _ _ (apply_stores codec stores permitted.1)
      permitted.2

/-- A permitted run may be followed by a run permitted where it ends. -/
theorem permitted_append (first second : List (Operation Entry)) (wal : Wal)
    (initial : PermittedRun codec wal first)
    (later : PermittedRun codec (run codec wal first) second) :
    PermittedRun codec wal (first ++ second) := by
  induction first generalizing wal with
  | nil => exact later
  | cons operation rest ih =>
    exact ⟨initial.1, ih _ initial.2 later⟩

theorem fresh_stores : Stores codec fresh [] :=
  ⟨rfl, rfl, rfl, List.Pairwise.nil, by simp [Fits]⟩

/-- After any permitted run, opening the resulting file completes with exactly
the in-memory index and last log id, and a read by index returns the last entry
appended with that index and not truncated, before and after reopening.

The run stores its surviving entries; opening an image returns a log that stores
the same entries, and both readers consult the same bindings and bytes. -/
theorem reopened_run_agrees (codec : Codec Entry) (operations : List (Operation Entry))
    (permitted : PermittedRun codec fresh operations) : ∃ reopened,
      openFile codec (run codec fresh operations).file.bytes = some (.ok reopened) ∧
      reopened.index = (run codec fresh operations).index ∧
      reopened.lastLogId = (run codec fresh operations).lastLogId ∧
      reopened.file.bytes = (run codec fresh operations).file.bytes ∧ ∀ index,
        (readEntry codec (run codec fresh operations) index).1 =
          .ok (lastWithIndex codec (surviving codec operations) index) ∧
        (readEntry codec reopened index).1 =
          .ok (lastWithIndex codec (surviving codec operations) index) := by
  have stores : Stores codec (run codec fresh operations) (surviving codec operations) :=
    run_stores codec operations fresh [] (fresh_stores codec) permitted
  obtain ⟨reopened, opened, again⟩ :=
    open_stores codec stores.ordered stores.fits
  refine ⟨reopened, stores.bytes ▸ opened, ?_, again.last.trans stores.last.symm,
    again.bytes.trans stores.bytes.symm, ?_⟩
  · exact OrderedMap.ext (again.index.trans stores.index.symm)
  · intro index
    exact ⟨read_stored codec _ _ stores index, read_stored codec _ _ again index⟩

/-- A log entry without payload, in its fixed-width serialized form: term, node
and index as little-endian words followed by the zero tag of the blank payload. -/
structure BlankEntry where
  term : UInt64
  nodeId : UInt64
  index : UInt64
deriving DecidableEq

def BlankEntry.serialize (entry : BlankEntry) : Bytes :=
  encodeLittle 8 entry.term.toNat ++ encodeLittle 8 entry.nodeId.toNat ++
    encodeLittle 8 entry.index.toNat ++ [0, 0, 0, 0]

def BlankEntry.deserialize (bytes : Bytes) : Option BlankEntry :=
  if bytes.drop 24 = [0, 0, 0, 0] then
    some ⟨UInt64.ofNat (decodeLittle (bytes.take 8)),
      UInt64.ofNat (decodeLittle ((bytes.drop 8).take 8)),
      UInt64.ofNat (decodeLittle ((bytes.drop 16).take 8))⟩
  else none

theorem BlankEntry.deserialize_serialize (entry : BlankEntry) :
    BlankEntry.deserialize entry.serialize = some entry := by
  have decoded (word : UInt64) : decodeLittle (encodeLittle 8 word.toNat) = word.toNat :=
    decode_encode_little 8 word.toNat word.toNat_lt
  simp [BlankEntry.deserialize, BlankEntry.serialize, drop_append, decoded, drop_eq_nil_of_le]

/-- Blank entries with a constant checksum. -/
def blankCodec : Codec BlankEntry where
  logId entry := ⟨entry.term.toNat, entry.nodeId.toNat, entry.index.toNat⟩
  serialize := BlankEntry.serialize
  deserialize := BlankEntry.deserialize
  checksum _ := 7
  checksum_word _ := by decide
  deserialize_serialize := BlankEntry.deserialize_serialize

/-- Two entries, a read and a truncation. -/
def truncatedTail : List (Operation BlankEntry) :=
  [.append [⟨1, 1, 1⟩, ⟨1, 1, 2⟩], .readEntry 2, .truncateSince 2]

/-- The truncated second entry is replaced in a later term. -/
def replacedTail : List (Operation BlankEntry) := truncatedTail ++ [.append [⟨2, 3, 2⟩]]

/-- A replaced tail is read back with its later term after reopening. -/
theorem replaced_tail_reopens : PermittedRun blankCodec fresh replacedTail ∧ ∃ reopened,
        openFile blankCodec (run blankCodec fresh replacedTail).file.bytes = some (.ok reopened) ∧
        (readEntry blankCodec reopened 2).1 = .ok (some ⟨2, 3, 2⟩) := by
  have first : PermittedRun blankCodec fresh truncatedTail :=
    ⟨⟨⟨1, by decide, by decide⟩, by decide⟩, trivial, trivial, trivial⟩
  have cut : (run blankCodec fresh truncatedTail).lastLogId = some ⟨1, 1, 1⟩ :=
    (run_stores blankCodec truncatedTail fresh [] (fresh_stores blankCodec) first).last.trans
      (by decide)
  have second : Continues blankCodec (some ⟨1, 1, 1⟩) [⟨2, 3, 2⟩] := ⟨2, by decide, by decide⟩
  have permitted : PermittedRun blankCodec fresh replacedTail := by
    refine permitted_append blankCodec truncatedTail _ fresh first ⟨⟨?_, by decide⟩, trivial⟩
    rw [cut]
    exact second
  obtain ⟨reopened, opened, _, _, _, reads⟩ :=
    reopened_run_agrees blankCodec replacedTail permitted
  exact ⟨permitted, reopened, opened, (reads 2).2.trans (by decide)⟩

end PgVisor.WriteAheadLog
