import Mathlib.Data.Nat.Basic
import PgVisor.ByteWords
import PgVisor.OrderedIndex

/-!
# The append-only write-ahead log

A record is the magic `PGV1`, a big-endian payload length, a big-endian checksum
and the serialized entry. Appending writes records at the end of the file while
maintaining an in-memory index from log index to file offset; truncation cuts the
file at the first indexed record at or above a log index; opening rebuilds the
index by scanning the file and cuts it at the first record that is incomplete,
carries another magic or fails its checksum.

Serialization and the checksum belong to other crates. They are supplied as a
codec whose only law is that deserializing a serialized entry returns it; the
checksum is an arbitrary word. Input and output errors other than reaching the
end of the file are outside this model, as are allocation limits.
-/

namespace PgVisor.WriteAheadLog

open ByteWords OrderedIndex

/-- Position of an entry in the replicated log. -/
structure LogId where
  term : Nat
  nodeId : Nat
  index : Nat
deriving DecidableEq

/-- The serialization of entries and the checksum of payloads. -/
structure Codec (Entry : Type) where
  logId : Entry → LogId
  serialize : Entry → Bytes
  deserialize : Bytes → Option Entry
  checksum : Bytes → Nat
  checksum_word : ∀ payload, checksum payload < 2 ^ 32
  deserialize_serialize : ∀ entry, deserialize (serialize entry) = some entry

inductive StorageError where
  | io
  | serialization
deriving DecidableEq

/-- `PGV1`. -/
def walMagic : Bytes := [80, 71, 86, 49]

/-- Magic, payload length and checksum of four bytes each. -/
def headerLen : Nat := 12

structure LogIndexEntry where
  fileOffset : Nat
  totalRecordLen : Nat
  logId : LogId
deriving DecidableEq

structure Wal where
  file : ByteFile
  index : OrderedMap Nat LogIndexEntry
  lastLogId : Option LogId

variable {Entry : Type}

/-- One record, written in the four pieces the log writes, together with its
index binding. The payload length keeps its low 32 bits only. -/
def appendRecord (codec : Codec Entry) (state : Wal × Nat) (entry : Entry) : Wal × Nat :=
  let (wal, currentOffset) := state
  let payload := codec.serialize entry
  let file := (((wal.file.writeAll walMagic).writeAll (encodeWord payload.length)).writeAll
    (encodeWord (codec.checksum payload))).writeAll payload
  let totalLen := headerLen + payload.length
  let logId := codec.logId entry
  (⟨file, wal.index.insert logId.index ⟨currentOffset, totalLen, logId⟩, some logId⟩,
    currentOffset + totalLen)

/-- Records go to the end of the file in batch order; an empty batch does not
even move the file position. -/
def append (codec : Codec Entry) (wal : Wal) (entries : List Entry) : Wal :=
  if entries.isEmpty then wal else
    let file := wal.file.seekEnd
    (entries.foldl (appendRecord codec) ({ wal with file }, file.position)).1

/-- Read the payload the index points at. The checksum is not consulted. -/
def readEntry (codec : Codec Entry) (wal : Wal) (index : Nat) :
    Except StorageError (Option Entry) × Wal :=
  match wal.index.get index with
  | none => (.ok none, wal)
  | some found =>
    let file := wal.file.seekStart (found.fileOffset + headerLen)
    match file.readExact (found.totalRecordLen - headerLen) with
    | none => (.error .io, { wal with file })
    | some (payload, file) =>
      match codec.deserialize payload with
      | none => (.error .serialization, { wal with file })
      | some entry => (.ok (some entry), { wal with file })

/-- The loop of `read_range`: read consecutive indices until one is not indexed. -/
def readConsecutive (codec : Codec Entry) :
    Nat → Wal → Nat → List Entry → Except StorageError (List Entry) × Wal
  | 0, wal, _, entries => (.ok entries, wal)
  | count + 1, wal, index, entries =>
    match readEntry codec wal index with
    | (.error err, wal) => (.error err, wal)
    | (.ok none, wal) => (.ok entries, wal)
    | (.ok (some entry), wal) => readConsecutive codec count wal (index + 1) (entries ++ [entry])

/-- The entries from `start` up to but excluding `stop`, or up to the first gap. -/
def readRange (codec : Codec Entry) (wal : Wal) (start stop : Nat) :
    Except StorageError (List Entry) × Wal :=
  readConsecutive codec (stop - start) wal start []

/-- Forget the bindings up to and including `uptoIndex`. The file keeps the records, and
the last log id stays. -/
def purgeUpto (wal : Wal) (uptoIndex : Nat) : Wal :=
  { wal with index := wal.index.above uptoIndex }

/-- Cut the file at the first indexed record at or above `sinceIndex`, drop the
bindings from that one on and fall back to the greatest remaining log id. When
no such record is indexed nothing changes. -/
def truncateSince (wal : Wal) (sinceIndex : Nat) : Wal :=
  match wal.index.firstFrom sinceIndex with
  | none => wal
  | some (firstKey, found) =>
    let index := wal.index.below firstKey
    ⟨(wal.file.setLen found.fileOffset).seekEnd, index, index.lastValue.map (·.logId)⟩

/-- The scan of `open` from `currentOffset`, where the file position also stands.
Each of the three damaged shapes cuts the file at the last clean offset. Fuel
counts records; `none` is an unfinished scan. -/
def scan (codec : Codec Entry) (fileLen : Nat) :
    Nat → ByteFile → Nat → OrderedMap Nat LogIndexEntry → Option LogId →
      Option (Except StorageError Wal)
  | 0, _, _, _, _ => none
  | fuel + 1, file, currentOffset, index, lastLogId =>
    if currentOffset < fileLen then
      let cut (file : ByteFile) : Option (Except StorageError Wal) :=
        some (.ok ⟨file.setLen currentOffset, index, lastLogId⟩)
      match file.readExact headerLen with
      | none => cut file
      | some (header, file) =>
        if header.take 4 ≠ walMagic then cut file else
          let payloadLen := decodeWord ((header.drop 4).take 4)
          let expectedCrc := decodeWord ((header.drop 8).take 4)
          match file.readExact payloadLen with
          | none => cut file
          | some (payload, file) =>
            if codec.checksum payload ≠ expectedCrc then cut file else
              match codec.deserialize payload with
              | none => some (.error .serialization)
              | some entry =>
                let totalRecordLen := headerLen + payloadLen
                let logId := codec.logId entry
                scan codec fileLen fuel file (currentOffset + totalRecordLen)
                  (index.insert logId.index ⟨currentOffset, totalRecordLen, logId⟩) (some logId)
    else some (.ok ⟨file, index, lastLogId⟩)

/-- Open a file with the given content. Every record takes at least its header,
so the file length bounds the number of records. -/
def openFile (codec : Codec Entry) (bytes : Bytes) : Option (Except StorageError Wal) :=
  (scan codec bytes.length (bytes.length + 1) (ByteFile.ofBytes bytes) 0 .empty none).map
    (fun outcome => outcome.map (fun wal => { wal with file := wal.file.seekEnd }))

/-- The log found when the file does not exist yet. -/
def fresh : Wal := ⟨ByteFile.ofBytes [], .empty, none⟩

end PgVisor.WriteAheadLog
