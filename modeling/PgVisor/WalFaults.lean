import PgVisor.FaultyCalls
import PgVisor.WalRecovery

/-!
# The write-ahead log over a file whose calls fail

Every seek, write, cut and sync of the log may fail. A failed write has written a beginning
of its bytes but not all of them. An append that stops has left the records before the
failure in the file and in the index, and a part of the next record behind them; nothing is
taken back. A truncation that stops before its end may have cut the file, and the index
still binds what was cut.

The content that the last successful sync has made durable is kept beside the log. Calls
that all succeed give the log of `WriteAheadLog`. Serializing an entry does not fail.
-/

namespace PgVisor.WalFaults

open ByteWords FaultyCalls WriteAheadLog List

/-- The log, and the content of its file at the last sync. -/
structure OpenWal where
  wal : Wal
  synced : Bytes

variable {Entry : Type}

section Calls

def OpenWal.withFile (log : OpenWal) (file : ByteFile) : OpenWal :=
  { log with wal := { log.wal with file } }

def seekEnd : Program StorageError OpenWal Unit :=
  .call .io (fun log => log.withFile log.wal.file.seekEnd) fun _ log => log

def streamPosition : Program StorageError OpenWal Nat := do
  .call .io id fun _ log => log
  .read fun log => log.wal.file.position

/-- Nothing is called for no bytes. -/
def writeAll (data : Bytes) : Program StorageError OpenWal Unit :=
  if data.isEmpty then pure () else
    .call .io (fun log => log.withFile (log.wal.file.writeAll data))
      fun count log => log.withFile (log.wal.file.writeAll (data.dropLast.take count))

def writePieces : List Bytes → Program StorageError OpenWal Unit
  | [] => pure ()
  | piece :: rest => do
    writeAll piece
    writePieces rest

def setLen (length : Nat) : Program StorageError OpenWal Unit :=
  .call .io (fun log => log.withFile (log.wal.file.setLen length)) fun _ log => log

def syncAll : Program StorageError OpenWal Unit :=
  .call .io (fun log => { log with synced := log.wal.file.bytes }) fun _ log => log

end Calls

/-- Bind an entry whose record starts at the offset. -/
def bindEntry (codec : Codec Entry) (currentOffset : Nat) (entry : Entry) (log : OpenWal) :
    OpenWal :=
  let logId := codec.logId entry
  let totalLen := headerLen + (codec.serialize entry).length
  { log with
    wal := { log.wal with
      index := log.wal.index.insert logId.index ⟨currentOffset, totalLen, logId⟩
      lastLogId := some logId } }

/-- The loop of `append`. -/
def appendEntries (codec : Codec Entry) : Nat → List Entry → Program StorageError OpenWal Unit
  | _, [] => pure ()
  | currentOffset, entry :: rest => do
    let payload := codec.serialize entry
    writePieces [walMagic, encodeWord payload.length, encodeWord (codec.checksum payload), payload]
    .update (bindEntry codec currentOffset entry)
    appendEntries codec (currentOffset + (headerLen + payload.length)) rest

def append (codec : Codec Entry) (entries : List Entry) : Program StorageError OpenWal Unit :=
  if entries.isEmpty then pure () else do
    seekEnd
    let currentOffset ← streamPosition
    appendEntries codec currentOffset entries
    syncAll

/-- Cut the file at a binding and drop the bindings from there on. -/
def cutAt (firstKey : Nat) (found : LogIndexEntry) : Program StorageError OpenWal Unit := do
  setLen found.fileOffset
  syncAll
  seekEnd
  .update fun log =>
    let index := log.wal.index.below firstKey
    { log with wal := { log.wal with index, lastLogId := index.lastValue.map (·.logId) } }

def truncateSince (sinceIndex : Nat) : Program StorageError OpenWal Unit := do
  let first ← .read fun log => log.wal.index.firstFrom sinceIndex
  match first with
  | none => pure ()
  | some (firstKey, found) => cutAt firstKey found

section Appending

/-- The file stands at its end. -/
def AtEnd (log : OpenWal) (bytes : Bytes) : Prop := log.wal.file = ⟨bytes, bytes.length⟩

theorem writeAll_ends (data : Bytes) (log : OpenWal) (bytes : Bytes) (atEnd : AtEnd log bytes) :
    Ends (writeAll data) log
      (fun _ final => final = log.withFile ⟨bytes ++ data, (bytes ++ data).length⟩)
      (fun error final => error = .io ∧ ∃ torn, torn <+: data ∧ torn.length < data.length ∧
        final = log.withFile ⟨bytes ++ torn, (bytes ++ torn).length⟩) := by
  by_cases empty : data = []
  · subst empty
    apply ends_pure
    rw [append_nil, ← atEnd]
    rfl
  · have filled : data.isEmpty = false := by simpa using empty
    rw [writeAll, filled, if_neg Bool.false_ne_true]
    apply ends_call
    · rw [atEnd, ByteFile.write_at_end]
    intro count
    refine ⟨rfl, data.dropLast.take count, ?_, ?_, ?_⟩
    · apply IsPrefix.trans _ <| dropLast_prefix data
      exact take_prefix count _
    · have positive := length_pos_iff.mpr empty
      rw [length_take, length_dropLast]
      omega
    · rw [atEnd, ByteFile.write_at_end]

/-- Pieces are written one after the other; a failure leaves a beginning of them. -/
theorem writePieces_ends (pieces : List Bytes) (log : OpenWal) (bytes : Bytes)
    (atEnd : AtEnd log bytes) : Ends (writePieces pieces) log
      (fun _ final => final = log.withFile
        ⟨bytes ++ pieces.flatten, (bytes ++ pieces.flatten).length⟩)
      (fun error final => error = .io ∧ ∃ torn, torn <+: pieces.flatten ∧
        torn.length < pieces.flatten.length ∧
        final = log.withFile ⟨bytes ++ torn, (bytes ++ torn).length⟩) := by
  induction pieces generalizing log bytes with
  | nil =>
    apply ends_pure
    rw [flatten_nil, append_nil, ← atEnd]
    rfl
  | cons piece rest ih =>
    apply ends_bind
    apply (writeAll_ends piece log bytes atEnd).mono
    · rintro _ middle rfl
      apply (ih (log.withFile _) (bytes ++ piece) rfl).mono
      · intro _ final same
        rw [same, flatten_cons, ← append_assoc]
        rfl
      · rintro error final ⟨io, torn, begins, short, same⟩
        refine ⟨io, piece ++ torn, ?_, ?_, ?_⟩
        · rw [flatten_cons]
          exact (prefix_append_right_inj piece).mpr begins
        · rw [flatten_cons, length_append, length_append]
          omega
        · rw [same, ← append_assoc]
          rfl
    · rintro error final ⟨io, torn, begins, short, same⟩
      refine ⟨io, torn, begins.trans (prefix_append _ _), ?_, same⟩
      rw [flatten_cons, length_append]
      omega

variable (codec : Codec Entry)

/-- The pieces of a record. -/
theorem pieces_record (entry : Entry) : [walMagic, encodeWord (codec.serialize entry).length,
      encodeWord (codec.checksum (codec.serialize entry)), codec.serialize entry].flatten =
        record codec entry := by
  simp [record, header]

/-- What one more record does to a log that stands at its end. -/
theorem appendRecord_atEnd (log : OpenWal) (bytes : Bytes) (offset : Nat) (entry : Entry)
    (atEnd : AtEnd log bytes) : bindEntry codec offset entry
        (log.withFile ⟨bytes ++ record codec entry, (bytes ++ record codec entry).length⟩) =
      { log with wal := (appendRecord codec (log.wal, offset) entry).1 } := by
  rw [← appendRecord_file codec atEnd offset entry]
  rfl

/-- The log after some records of a batch, of which the next was written in part. -/
structure Interrupted (codec : Codec Entry) (log : OpenWal) (entries whole : List Entry)
    (torn : Bytes) (final : OpenWal) : Prop where
  begins : whole <+: entries
  part : torn = [] ∨ ∃ entry, whole ++ [entry] <+: entries ∧ torn <+: record codec entry ∧
    torn.length < (record codec entry).length
  bytes : final.wal.file.bytes = log.wal.file.bytes ++ image codec whole ++ torn
  index : final.wal.index = (WriteAheadLog.append codec log.wal whole).index
  last : final.wal.lastLogId = (WriteAheadLog.append codec log.wal whole).lastLogId
  synced : final.synced = log.synced

theorem appendEntries_ends (entries : List Entry) (log : OpenWal) (bytes : Bytes) (offset : Nat)
    (atEnd : AtEnd log bytes) : Ends (appendEntries codec offset entries) log
      (fun _ final => final =
        { log with wal := (entries.foldl (appendRecord codec) (log.wal, offset)).1 })
      (fun error final => error = .io ∧ ∃ whole entry later torn,
        entries = whole ++ entry :: later ∧ torn <+: record codec entry ∧
        torn.length < (record codec entry).length ∧
        final.wal.file.bytes = bytes ++ image codec whole ++ torn ∧
        final.wal.index = (whole.foldl (appendRecord codec) (log.wal, offset)).1.index ∧
        final.wal.lastLogId = (whole.foldl (appendRecord codec) (log.wal, offset)).1.lastLogId ∧
        final.synced = log.synced) := by
  induction entries generalizing log bytes offset with
  | nil => exact ends_pure rfl
  | cons entry rest ih =>
    apply ends_bind
    apply (writePieces_ends _ log bytes atEnd).mono
    · rintro _ middle rfl
      rw [pieces_record]
      apply ends_bind
      apply ends_update
      rw [appendRecord_atEnd codec log bytes offset entry atEnd]
      have standing : AtEnd { log with wal := (appendRecord codec (log.wal, offset) entry).1 }
          (bytes ++ record codec entry) := by
        rw [← appendRecord_atEnd codec log bytes offset entry atEnd]
        rfl
      apply (ih _ _ _ standing).mono
      · intro _ final same
        rw [same]
        rfl
      · rintro error final ⟨io, whole, next, later, torn, split, begins, short, content, rest⟩
        refine ⟨io, entry :: whole, next, later, torn, by rw [split]; rfl, begins, short, ?_, rest⟩
        rw [content, image_cons]
        simp only [append_assoc]
    · rintro error final ⟨io, torn, begins, short, rfl⟩
      rw [pieces_record] at begins short
      refine ⟨io, [], entry, rest, torn, rfl, begins, short, ?_, rfl, rfl, rfl⟩
      rw [image_nil, append_nil]
      rfl

theorem append_of_ne_nil (wal : Wal) {entries} (nonempty : entries ≠ []) :
    WriteAheadLog.append codec wal entries = (entries.foldl (appendRecord codec)
        ({ wal with file := wal.file.seekEnd }, wal.file.bytes.length)).1 := by
  rw [WriteAheadLog.append, if_neg (by simpa using nonempty)]
  rfl

/-- An append that stops has left some whole records of its batch and a part of the next; one
that returns has done what the log without failures does, and made it durable. -/
theorem append_ends (entries : List Entry) (log : OpenWal) : Ends (append codec entries) log
      (fun _ final => final.wal = WriteAheadLog.append codec log.wal entries ∧
        final.synced = if entries.isEmpty then log.synced else final.wal.file.bytes)
      (fun error final => error = .io ∧
        ∃ whole torn, Interrupted codec log entries whole torn final) := by
  by_cases empty : entries = []
  · subst empty
    exact ends_pure ⟨rfl, rfl⟩
  have filled : entries.isEmpty = false := by simpa using empty
  have nothing : ∀ final : OpenWal, final.wal.file.bytes = log.wal.file.bytes →
      final.wal.index = log.wal.index → final.wal.lastLogId = log.wal.lastLogId →
      final.synced = log.synced → Interrupted codec log entries [] [] final := by
    intro final bytes index last synced
    refine ⟨?_, .inl rfl, by simpa using bytes, index, last, synced⟩
    exact nil_prefix
  rw [append, filled, if_neg Bool.false_ne_true]
  apply ends_bind
  apply ends_call
  · apply ends_bind
    apply ends_bind
    apply ends_call
    · apply ends_read
      apply ends_bind
      apply (appendEntries_ends codec entries (log.withFile log.wal.file.seekEnd)
        log.wal.file.bytes log.wal.file.bytes.length rfl).mono
      · rintro _ final rfl
        apply ends_call
        · refine ⟨?_, rfl⟩
          rw [append_of_ne_nil codec log.wal empty]
          rfl
        · intro count
          refine ⟨rfl, entries, [], prefix_rfl, .inl rfl, ?_, ?_, ?_, rfl⟩
          · rw [append_nil, ← append_bytes, append_of_ne_nil codec log.wal empty]
            rfl
          all_goals
            rw [append_of_ne_nil codec log.wal empty]
            rfl
      · rintro error final
          ⟨io, whole, entry, later, torn, split, begins, short, content, index, last, synced⟩
        have unbatched : (WriteAheadLog.append codec log.wal whole).index =
            (whole.foldl (appendRecord codec)
              ({ log.wal with file := log.wal.file.seekEnd }, log.wal.file.bytes.length)).1.index ∧
          (WriteAheadLog.append codec log.wal whole).lastLogId = (whole.foldl (appendRecord codec)
              ({ log.wal with file := log.wal.file.seekEnd },
                log.wal.file.bytes.length)).1.lastLogId := by
          cases whole with
          | nil => exact ⟨rfl, rfl⟩
          | cons first more =>
            rw [append_of_ne_nil codec log.wal (cons_ne_nil first more)]
            exact ⟨rfl, rfl⟩
        refine ⟨io, whole, torn, ⟨entry :: later, split.symm⟩,
          .inr ⟨entry, ⟨later, ?_⟩, begins, short⟩, content, index.trans unbatched.1.symm,
            last.trans unbatched.2.symm, synced⟩
        rw [split, append_assoc]
        rfl
    · intro count
      exact ⟨rfl, [], [], nothing _ rfl rfl rfl rfl⟩
  · intro count
    exact ⟨rfl, [], [], nothing _ rfl rfl rfl rfl⟩

end Appending

section Truncating

/-- A truncation that stops has not cut the file, or has cut it and left the index alone. -/
theorem truncateSince_ends (sinceIndex : Nat) (log : OpenWal) : Ends (truncateSince sinceIndex) log
      (fun _ final => final.wal = WriteAheadLog.truncateSince log.wal sinceIndex ∧
        final.synced = if (log.wal.index.firstFrom sinceIndex).isNone then log.synced
          else final.wal.file.bytes)
      (fun error final => error = .io ∧ (final = log ∨
        ∃ firstKey found, log.wal.index.firstFrom sinceIndex = some (firstKey, found) ∧
          final.wal = { log.wal with file := log.wal.file.setLen found.fileOffset })) := by
  apply ends_bind
  apply ends_read
  cases first : log.wal.index.firstFrom sinceIndex with
  | none =>
    apply ends_pure
    rw [WriteAheadLog.truncateSince, first]
    exact ⟨rfl, rfl⟩
  | some binding =>
    obtain ⟨firstKey, found⟩ := binding
    apply ends_bind
    apply ends_call
    · apply ends_bind
      apply ends_call
      · apply ends_bind
        apply ends_call
        · apply ends_update
          rw [WriteAheadLog.truncateSince, first]
          exact ⟨rfl, rfl⟩
        · intro count
          exact ⟨rfl, .inr ⟨firstKey, found, rfl, rfl⟩⟩
      · intro count
        exact ⟨rfl, .inr ⟨firstKey, found, rfl, rfl⟩⟩
    · intro count
      exact ⟨rfl, .inl rfl⟩

end Truncating

end PgVisor.WalFaults
