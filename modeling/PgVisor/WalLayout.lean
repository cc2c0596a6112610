import PgVisor.PrefixCode
import PgVisor.WriteAheadLog

/-!
# The file image and the in-memory index of the write-ahead log

The log is related to an abstract list of entries: the file is the concatenation
of their records, the index lists their offsets, and the last log id is that of
the last entry. Appending extends the list and truncation filters it, provided
each batch continues the log with consecutive indices and every serialized entry
fits its length word. Both conditions are what the replication layer guarantees;
neither is checked by the log.

Scanning such a file rebuilds exactly the index that was maintained in memory,
so reopening is an identity on everything a reader can observe.
-/

namespace PgVisor.WriteAheadLog

open ByteWords OrderedIndex PrefixCode List

variable {Entry : Type}

/-- The twelve header bytes of a record. -/
def header (codec : Codec Entry) (entry : Entry) : Bytes :=
  walMagic ++ encodeWord (codec.serialize entry).length ++
    encodeWord (codec.checksum (codec.serialize entry))

/-- The bytes of one record. -/
def record (codec : Codec Entry) (entry : Entry) : Bytes :=
  header codec entry ++ codec.serialize entry

/-- The file content that stores a list of entries. -/
def image (codec : Codec Entry) (log : List Entry) : Bytes := log.flatMap (record codec)

/-- The bindings of a list of entries whose first record starts at `offset`. -/
def indexFrom (codec : Codec Entry) : Nat → List Entry → List (Nat × LogIndexEntry)
  | _, [] => []
  | offset, entry :: rest =>
    ((codec.logId entry).index, ⟨offset, (record codec entry).length, codec.logId entry⟩) ::
      indexFrom codec (offset + (record codec entry).length) rest

/-- Log indices increase strictly along the list. -/
def Ordered (codec : Codec Entry) (log : List Entry) : Prop :=
  log.Pairwise (fun first second => (codec.logId first).index < (codec.logId second).index)

/-- Every serialized entry fits the length word of its record. -/
def Fits (codec : Codec Entry) (log : List Entry) : Prop :=
  ∀ entry ∈ log, (codec.serialize entry).length < 2 ^ 32

instance (codec : Codec Entry) (log : List Entry) : Decidable (Fits codec log) :=
  inferInstanceAs (Decidable (∀ entry ∈ log, (codec.serialize entry).length < 2 ^ 32))

/-- The log stores exactly these entries. The index is compared as its list of
bindings, offsets and lengths included. -/
structure Stores (codec : Codec Entry) (wal : Wal) (log : List Entry) : Prop where
  bytes : wal.file.bytes = image codec log
  index : wal.index.entries = indexFrom codec 0 log
  last : wal.lastLogId = log.getLast?.map codec.logId
  ordered : Ordered codec log
  fits : Fits codec log

/-- The entries from a log index on. -/
def live (codec : Codec Entry) (log : List Entry) (floor : Nat) : List Entry :=
  log.filter (fun entry => decide (floor ≤ (codec.logId entry).index))

/-- The file stores exactly these entries and the index binds those from `floor` on:
purging forgets the bindings below it and leaves the records in the file. -/
structure Retains (codec : Codec Entry) (wal : Wal) (log : List Entry) (floor : Nat) : Prop where
  bytes : wal.file.bytes = image codec log
  index : wal.index.entries =
    (indexFrom codec 0 log).filter (fun binding => decide (floor ≤ binding.1))
  ordered : Ordered codec log

variable (codec : Codec Entry)

theorem header_length (entry : Entry) :
    (header codec entry).length = headerLen := rfl

@[simp] theorem record_length (entry : Entry) :
    (record codec entry).length = headerLen + (codec.serialize entry).length := by
  rw [record, length_append, header_length]

@[simp] theorem image_nil : image codec [] = [] := rfl

@[simp] theorem image_cons (entry : Entry) (rest : List Entry) :
    image codec (entry :: rest) = record codec entry ++ image codec rest := rfl

@[simp] theorem image_append (first second : List Entry) :
    image codec (first ++ second) = image codec first ++ image codec second := by
  simp [image]

theorem index_from_append (first second : List Entry) (offset : Nat) :
    indexFrom codec offset (first ++ second) = indexFrom codec offset first ++
        indexFrom codec (offset + (image codec first).length) second := by
  induction first generalizing offset with
  | nil => rfl
  | cons entry rest ih =>
    simp [indexFrom, ih, Nat.add_assoc]

/-- Every binding carries the log index of an entry of the list. -/
theorem index_from_key (log : List Entry) (offset : Nat)
    (binding : Nat × LogIndexEntry) (member : binding ∈ indexFrom codec offset log) :
    ∃ entry ∈ log, binding.1 = (codec.logId entry).index := by
  induction log generalizing offset with
  | nil => simp [indexFrom] at member
  | cons entry rest ih =>
    rcases mem_cons.mp member with rfl | later
    · exact ⟨entry, mem_cons_self, rfl⟩
    · obtain ⟨found, present, same⟩ := ih _ later
      exact ⟨found, mem_cons_of_mem _ present, same⟩

/-- Keys and log ids of the bindings, whatever the offsets. -/
theorem index_from_ids (log : List Entry) (offset : Nat) :
    (indexFrom codec offset log).map (fun binding => (binding.1, binding.2.logId)) =
      log.map (fun entry => ((codec.logId entry).index, codec.logId entry)) := by
  induction log generalizing offset with
  | nil => rfl
  | cons entry rest ih => simp [indexFrom, ih]

/-- The binding of an entry points at its record inside the image. -/
theorem index_from_split (before after : List Entry) (entry : Entry) :
    ((codec.logId entry).index,
      LogIndexEntry.mk (image codec before).length (record codec entry).length
        (codec.logId entry)) ∈ indexFrom codec 0 (before ++ entry :: after) := by
  rw [index_from_append]
  simp [indexFrom]

variable {codec}

/-! ## Retained and forgotten bindings -/

variable {codec : Codec Entry} {wal : Wal} {log : List Entry}

/-- With no purge every entry is bound. -/
theorem Stores.retains (stores : Stores codec wal log) : Retains codec wal log 0 :=
  ⟨stores.bytes, by simp [stores.index], stores.ordered⟩

theorem Retains.stores (retains : Retains codec wal log 0) (fits : Fits codec log)
    (last : wal.lastLogId = log.getLast?.map codec.logId) : Stores codec wal log :=
  ⟨retains.bytes, by simp [retains.index], last, retains.ordered, fits⟩

variable {floor : Nat} (retains : Retains codec wal log floor)

include retains

/-- The live entries by key and log id. -/
theorem Retains.ids :
    wal.index.entries.map (fun binding => (binding.1, binding.2.logId)) =
      (live codec log floor).map (fun entry => ((codec.logId entry).index, codec.logId entry)) := by
  have listed := congrArg (List.filter (fun pair : Nat × LogId => decide (floor ≤ pair.1)))
    (index_from_ids codec log 0)
  rw [filter_map, filter_map] at listed
  rw [retains.index]
  exact listed

/-- A live entry is one whose index is bound, and its binding carries its log id. -/
theorem Retains.bound_iff (condition : Nat → LogId → Prop) :
    (∀ binding ∈ wal.index.entries, condition binding.1 binding.2.logId) ↔
      ∀ entry ∈ live codec log floor, condition (codec.logId entry).index (codec.logId entry) := by
  have all := forall_mem_map (f := fun binding : Nat × LogIndexEntry =>
    (binding.1, binding.2.logId)) (l := wal.index.entries)
    (P := fun pair => condition pair.1 pair.2)
  rw [retains.ids, forall_mem_map] at all
  exact all.symm

theorem Retains.bound_exists (condition : Nat → LogId → Prop) :
    (∃ binding ∈ wal.index.entries, condition binding.1 binding.2.logId) ↔
      ∃ entry ∈ live codec log floor, condition (codec.logId entry).index (codec.logId entry) := by
  have none := not_congr (retains.bound_iff (fun key logId => ¬ condition key logId))
  simpa only [not_forall, not_not, exists_prop] using none

theorem Retains.last :
    wal.index.lastValue.map (·.logId) = (live codec log floor).getLast?.map codec.logId := by
  have ends := congrArg (fun pairs => pairs.getLast?.map Prod.snd) retains.ids
  simpa [OrderedMap.lastValue, Function.comp_def] using ends

omit retains

variable (codec : Codec Entry)

/-- Forgetting the bindings up to an index raises the floor above it. -/
theorem purge_retains (upto : Nat) (retains : Retains codec wal log floor) :
    Retains codec (purgeUpto wal upto) log (max floor (upto + 1)) := by
  refine ⟨retains.bytes, ?_, retains.ordered⟩
  simp only [purgeUpto, OrderedMap.above, retains.index, filter_filter]
  refine filter_congr (fun binding _ => ?_)
  simp only [← Bool.decide_and, decide_eq_decide]
  omega

/-! ## Appending -/

/-- A record written at the end of the file follows the bytes that are there. -/
theorem appendRecord_file {bytes : Bytes} (atEnd : wal.file = ⟨bytes, bytes.length⟩) (offset : Nat)
    (entry : Entry) : (appendRecord codec (wal, offset) entry).1.file =
      ⟨bytes ++ record codec entry, (bytes ++ record codec entry).length⟩ := by
  simp only [appendRecord, atEnd, ByteFile.write_at_end]
  simp [record, header, append_assoc]

/-- One appended record extends the stored list, provided its index lies above
every stored one. The write position stays at the end of the file. -/
theorem append_record_retains {entry : Entry} (retains : Retains codec wal log floor)
    (atEnd : wal.file.position = wal.file.bytes.length)
    (above : ∀ stored ∈ log, (codec.logId stored).index < (codec.logId entry).index)
    (atFloor : floor ≤ (codec.logId entry).index) :
    let next := appendRecord codec (wal, (image codec log).length) entry
    Retains codec next.1 (log ++ [entry]) floor ∧
      next.1.file.position = next.1.file.bytes.length ∧
      next.2 = (image codec (log ++ [entry])).length := by
  obtain ⟨bytes, index, ordered⟩ := retains
  have standing : wal.file = ⟨image codec log, (image codec log).length⟩ := by
    rw [← bytes, ← atEnd]
  have written := appendRecord_file codec standing (image codec log).length entry
  have keys : ∀ binding ∈ wal.index.entries, binding.1 < (codec.logId entry).index := by
    intro binding member
    rw [index] at member
    obtain ⟨stored, present, same⟩ := index_from_key codec log 0 binding (mem_of_mem_filter member)
    exact same ▸ above stored present
  refine ⟨⟨?_, ?_, ?_⟩, ?_, ?_⟩
  · rw [written, image_append, image_cons, image_nil, append_nil]
  · simp only [appendRecord, OrderedMap.insert_above _ _ _ keys]
    rw [index, index_from_append]
    simp [indexFrom, atFloor]
  · refine pairwise_append.mpr ⟨ordered, pairwise_singleton _ _, ?_⟩
    intro stored present added member
    rw [mem_singleton.mp member]
    exact above stored present
  · rw [written]
  · simp [appendRecord]

/-- The loop of `append`: the batch extends the stored list entry by entry. -/
theorem append_records_retain (entries : List Entry) (wal : Wal)
    (log : List Entry) (floor : Nat) (retains : Retains codec wal log floor)
    (atEnd : wal.file.position = wal.file.bytes.length) (ordered : Ordered codec (log ++ entries))
    (atFloor : ∀ entry ∈ entries, floor ≤ (codec.logId entry).index) :
    Retains codec (entries.foldl (appendRecord codec) (wal, (image codec log).length)).1
      (log ++ entries) floor := by
  induction entries generalizing wal log with
  | nil => simpa using retains
  | cons entry rest ih =>
    have above : ∀ stored ∈ log, (codec.logId stored).index < (codec.logId entry).index :=
      fun stored present =>
        (pairwise_append.mp ordered).2.2 stored present entry mem_cons_self
    obtain ⟨nextRetains, nextEnd, nextOffset⟩ := append_record_retains codec
      retains atEnd above (atFloor entry mem_cons_self)
    have shape : log ++ entry :: rest = (log ++ [entry]) ++ rest := by simp
    rw [foldl_cons, shape]
    have step := ih _ (log ++ [entry]) nextRetains nextEnd (shape ▸ ordered)
      (fun stored member => atFloor stored (mem_cons_of_mem _ member))
    rw [← nextOffset] at step
    exact step

/-- An appended batch extends the stored list. -/
theorem append_retains {entries : List Entry}
    (retains : Retains codec wal log floor) (ordered : Ordered codec (log ++ entries))
    (atFloor : ∀ entry ∈ entries, floor ≤ (codec.logId entry).index) :
    Retains codec (append codec wal entries) (log ++ entries) floor := by
  cases entries with
  | nil => simpa [append] using retains
  | cons entry rest =>
    have moved : Retains codec { wal with file := wal.file.seekEnd } log floor := { retains with }
    have offset : wal.file.seekEnd.position = (image codec log).length := by
      rw [ByteFile.seek_end_position, retains.bytes]
    have stored := append_records_retain codec (entry :: rest) _ log floor moved rfl ordered atFloor
    simpa only [append, isEmpty_cons, Bool.false_eq_true, ↓reduceIte, offset] using stored

/-- The last log id after a batch is that of its last entry. -/
theorem append_last (wal : Wal) (entries : List Entry) :
    (append codec wal entries).lastLogId = (entries.getLast?.map codec.logId).or wal.lastLogId := by
  have loop : ∀ state : Wal × Nat, (entries.foldl (appendRecord codec) state).1.lastLogId =
      (entries.getLast?.map codec.logId).or state.1.lastLogId := by
    induction entries with
    | nil => exact fun _ => rfl
    | cons entry rest ih =>
      intro state
      rw [foldl_cons, ih, List.getLast?_cons]
      cases rest.getLast? <;> rfl
  cases entries with
  | nil => rfl
  | cons entry rest =>
    rw [append, isEmpty_cons, if_neg Bool.false_ne_true]
    exact loop _

theorem append_stores {entries : List Entry}
    (stores : Stores codec wal log) (ordered : Ordered codec (log ++ entries))
    (fits : Fits codec entries) : Stores codec (append codec wal entries) (log ++ entries) := by
  have retains := append_retains codec stores.retains ordered
    (fun _ _ => Nat.zero_le _)
  refine retains.stores (fun entry member => ?_) ?_
  · exact (mem_append.mp member).elim (stores.fits entry) (fits entry)
  · rw [append_last, stores.last, List.getLast?_append, Option.map_or]

/-! ## Truncation -/

/-- Filtering an ordered list by index separates a lower part from a part at or above it. -/
theorem ordered_split (log : List Entry) (bound : Nat) (ordered : Ordered codec log) :
    ∃ low high, log = low ++ high ∧
      log.filter (fun entry => decide ((codec.logId entry).index < bound)) = low ∧
      ∀ entry ∈ high, bound ≤ (codec.logId entry).index := by
  induction log with
  | nil => exact ⟨[], [], rfl, rfl, by simp⟩
  | cons entry rest ih =>
    obtain ⟨larger, tail⟩ := pairwise_cons.mp ordered
    by_cases inside : (codec.logId entry).index < bound
    · obtain ⟨low, high, shape, kept, above⟩ := ih tail
      refine ⟨entry :: low, high, congrArg _ shape, ?_, above⟩
      rw [filter_cons_of_pos (by simpa using inside), kept]
    · have above : ∀ stored ∈ entry :: rest, bound ≤ (codec.logId stored).index := by
        intro stored member
        rcases mem_cons.mp member with rfl | present
        · exact Nat.le_of_not_lt inside
        · exact Nat.le_trans (Nat.le_of_not_lt inside) (Nat.le_of_lt (larger stored present))
      refine ⟨[], entry :: rest, rfl, filter_eq_nil_iff.mpr ?_, above⟩
      intro stored member
      simpa using above stored member

/-- Truncation cuts the file exactly before the first live record at or above the index.
The last log id becomes that of the greatest entry still live, unless nothing was cut. -/
theorem truncate_retains (since : Nat) (retains : Retains codec wal log floor) :
    let kept := log.filter (fun entry => decide ((codec.logId entry).index < max since floor))
    Retains codec (truncateSince wal since) kept floor ∧
      (kept = log → (truncateSince wal since).lastLogId = wal.lastLogId) ∧
      (kept ≠ log → (truncateSince wal since).lastLogId =
        (live codec kept floor).getLast?.map codec.logId) := by
  obtain ⟨low, high, rfl, lower, above⟩ := ordered_split codec log (max since floor) retains.ordered
  rw [lower]
  intro kept
  have skipLow : ((indexFrom codec 0 low).filter (fun binding => decide (floor ≤ binding.1))).find?
      (fun binding => decide (since ≤ binding.1)) = none := by
    refine List.find?_eq_none.mpr (fun binding member => ?_)
    obtain ⟨listed, bound⟩ := mem_filter.mp member
    obtain ⟨entry, present, same⟩ := index_from_key codec low 0 binding listed
    rw [← lower] at present
    have inside := of_decide_eq_true (mem_filter.mp present).2
    simp only [decide_eq_true_eq] at bound ⊢
    omega
  have ordered := pairwise_append.mp retains.ordered
  cases high with
  | nil =>
    have absent : wal.index.firstFrom since = none := by
      simpa only [OrderedMap.firstFrom, retains.index, append_nil] using skipLow
    rw [truncateSince, absent]
    exact ⟨by simpa using retains, fun _ => rfl,
      fun shorter => absurd (append_nil low).symm shorter⟩
  | cons entry rest =>
    have atEntry : max since floor ≤ (codec.logId entry).index := above entry mem_cons_self
    have atSince : since ≤ (codec.logId entry).index := by omega
    have atFloor : floor ≤ (codec.logId entry).index := by omega
    have found : wal.index.firstFrom since = some ((codec.logId entry).index,
        ⟨(image codec low).length, (record codec entry).length, codec.logId entry⟩) := by
      simp [OrderedMap.firstFrom, retains.index, index_from_append, filter_append,
        List.find?_append, skipLow, indexFrom, atSince, atFloor]
    -- the bindings strictly below the first removed key are those of the lower part
    have remaining : (wal.index.below (codec.logId entry).index).entries =
        (indexFrom codec 0 low).filter (fun binding => decide (floor ≤ binding.1)) := by
      simp only [OrderedMap.below, retains.index, index_from_append, filter_append]
      refine (congrArg₂ List.append (filter_eq_self.mpr ?_)
        (filter_eq_nil_iff.mpr ?_)).trans (append_nil _)
      · intro binding member
        obtain ⟨stored, present, same⟩ := index_from_key codec low 0 binding
          (mem_of_mem_filter member)
        simp only [same, decide_eq_true_eq]
        exact ordered.2.2 stored present entry mem_cons_self
      · intro binding member
        obtain ⟨stored, present, same⟩ := index_from_key codec (entry :: rest) _ binding
          (mem_of_mem_filter member)
        simp only [same, decide_eq_true_eq, Nat.not_lt]
        rcases mem_cons.mp present with rfl | later
        · exact Nat.le_refl _
        · exact Nat.le_of_lt ((pairwise_cons.mp ordered.2.1).1 stored later)
    have shortened : Retains codec (truncateSince wal since) low floor := by
      simp only [truncateSince, found]
      refine ⟨?_, remaining, ordered.1⟩
      have content : wal.file = ⟨image codec low ++ image codec (entry :: rest),
          wal.file.position⟩ := by rw [← image_append, ← retains.bytes]
      rw [content, ByteFile.set_len_append]
      rfl
    have shorter : low ≠ low ++ entry :: rest := fun same => by
      simpa using congrArg List.length same
    refine ⟨shortened, fun same => absurd same shorter, fun _ => ?_⟩
    rw [← shortened.last]
    simp only [truncateSince, found]

/-- Truncation cuts the file exactly before the first record at or above the
index, and the index and last log id follow the shortened list. -/
theorem truncate_stores (wal : Wal) (log : List Entry) (since : Nat)
    (stores : Stores codec wal log) : Stores codec (truncateSince wal since)
      (log.filter (fun entry => decide ((codec.logId entry).index < since))) := by
  obtain ⟨retains, untouched, cut⟩ := truncate_retains codec since stores.retains
  rw [Nat.max_zero] at retains untouched cut
  apply retains.stores (fun entry member => stores.fits entry (mem_of_mem_filter member))
  by_cases same : log.filter (fun entry => decide ((codec.logId entry).index < since)) = log
  · rw [untouched same, same, stores.last]
  · rw [cut same]
    simp [live]

variable {codec}

/-! ## Scanning -/

/-- A payload that its length word can describe. -/
structure Payload where
  bytes : Bytes
  fits : bytes.length < 2 ^ 32

/-- A well-formed record: magic, length, matching checksum and the full payload. -/
def wellFormed (codec : Codec Entry) (payload : Payload) : Bytes :=
  walMagic ++ encodeWord payload.bytes.length ++ encodeWord (codec.checksum payload.bytes) ++
    payload.bytes

/-- A well-formed record with the entry it decodes to. -/
structure StoredRecord (codec : Codec Entry) extends Payload where
  entry : Entry
  decodes : codec.deserialize bytes = some entry

namespace StoredRecord

variable {codec : Codec Entry}

def logId (record : StoredRecord codec) : LogId := codec.logId record.entry

/-- The length of the record, header included. -/
def size (record : StoredRecord codec) : Nat := headerLen + record.bytes.length

/-- The record that appending an entry writes. -/
def ofEntry (codec : Codec Entry) (entry : Entry)
    (fits : (codec.serialize entry).length < 2 ^ 32) : StoredRecord codec :=
  ⟨⟨codec.serialize entry, fits⟩, entry, codec.deserialize_serialize entry⟩

end StoredRecord

variable (codec : Codec Entry)

@[simp] theorem well_formed_length (payload : Payload) :
    (wellFormed codec payload).length = headerLen + payload.bytes.length := by
  simp only [wellFormed, length_append, encode_word_length]
  rfl

/-- One iteration of the scan over a well-formed record: it fails if the payload does not
decode, and otherwise consumes the record, binds its index and continues behind it. -/
theorem scan_payload (before after : Bytes) (payload : Payload)
    (fuel : Nat) (index : OrderedMap Nat LogIndexEntry) (last : Option LogId) :
    let content := before ++ wellFormed codec payload ++ after
    let size := headerLen + payload.bytes.length
    scan codec content.length (fuel + 1) ⟨content, before.length⟩ before.length index last =
      match codec.deserialize payload.bytes with
      | none => some (.error .serialization)
      | some entry =>
        scan codec content.length fuel ⟨content, before.length + size⟩ (before.length + size)
          (index.insert (codec.logId entry).index ⟨before.length, size, codec.logId entry⟩)
          (some (codec.logId entry)) := by
  intro content size
  obtain ⟨payload, fits⟩ := payload
  -- the header apart from the payload it announces
  let head := walMagic ++ encodeWord payload.length ++ encodeWord (codec.checksum payload)
  have headLength : head.length = headerLen := rfl
  have shape : content = before ++ head ++ payload ++ after := by
    simp only [content, wellFormed, head, append_assoc]
  have inside : before.length < content.length := by
    simp only [shape, length_append, headLength, headerLen]
    omega
  have readHeader : (ByteFile.mk content before.length).readExact headerLen =
      some (head, ⟨content, (before ++ head).length⟩) := by
    have segment := ByteFile.read_exact_segment before head (payload ++ after)
    simpa only [headLength, shape, append_assoc] using segment
  have readPayload : (ByteFile.mk content (before ++ head).length).readExact payload.length =
      some (payload, ⟨content, (before ++ head ++ payload).length⟩) := by
    have segment := ByteFile.read_exact_segment (before ++ head) payload after
    simpa only [shape] using segment
  have magic : head.take 4 = walMagic := rfl
  have payloadLen : decodeWord ((head.drop 4).take 4) = payload.length := decode_encode_word _ fits
  have expectedCrc : decodeWord ((head.drop 8).take 4) = codec.checksum payload :=
    decode_encode_word _ (codec.checksum_word _)
  have behind : (before ++ head ++ payload).length =
      before.length + (headerLen + payload.length) := by
    simp only [length_append, headLength, Nat.add_assoc]
  rw [scan]
  simp only [inside, ↓reduceIte, readHeader, magic, ne_eq, not_true_eq_false, payloadLen,
    expectedCrc, readPayload, behind]
  rfl

/-- The same over a record that decodes. -/
theorem scan_found (before after : Bytes) (record : StoredRecord codec)
    (fuel : Nat) (index : OrderedMap Nat LogIndexEntry) (last : Option LogId) :
    let content := before ++ wellFormed codec record.toPayload ++ after
    scan codec content.length (fuel + 1) ⟨content, before.length⟩ before.length index last =
      scan codec content.length fuel ⟨content, before.length + record.size⟩
        (before.length + record.size)
        (index.insert record.logId.index ⟨before.length, record.size, record.logId⟩)
        (some record.logId) := by
  have scanned := scan_payload codec before after record.toPayload fuel index last
  rw [record.decodes] at scanned
  exact scanned

variable {codec}

/-- The records with these payloads in a row. -/
def fileOf (records : List (StoredRecord codec)) : Bytes :=
  encode (wellFormed codec) (records.map StoredRecord.toPayload)

/-- The bindings that a scan adds for records that start at `offset`. -/
def indexRecords (offset : Nat) (index : OrderedMap Nat LogIndexEntry) :
    List (StoredRecord codec) → OrderedMap Nat LogIndexEntry
  | [] => index
  | record :: rest =>
    indexRecords (offset + record.size)
      (index.insert record.logId.index ⟨offset, record.size, record.logId⟩) rest

/-- The log that holds exactly these records. -/
def recovered (records : List (StoredRecord codec)) : Wal where
  file := ⟨fileOf records, (fileOf records).length⟩
  index := indexRecords 0 .empty records
  lastLogId := records.getLast?.map StoredRecord.logId

theorem file_of_cons (record : StoredRecord codec) (rest : List (StoredRecord codec)) :
    fileOf (record :: rest) = wellFormed codec record.toPayload ++ fileOf rest := rfl

theorem file_of_append (first second : List (StoredRecord codec)) :
    fileOf (first ++ second) = fileOf first ++ fileOf second := by
  simp [fileOf]

/-- Scanning records leads behind them, with their bindings.

Induct over the records: each is consumed by one iteration. -/
theorem scan_through (records : List (StoredRecord codec)) (before rest : Bytes) (fuel : Nat)
    (index : OrderedMap Nat LogIndexEntry) (last : Option LogId) :
    let content := before ++ fileOf records ++ rest
    scan codec content.length (fuel + records.length) ⟨content, before.length⟩ before.length
        index last = scan codec content.length fuel ⟨content, (before ++ fileOf records).length⟩
        (before ++ fileOf records).length (indexRecords before.length index records)
        ((records.getLast?.map StoredRecord.logId).or last) := by
  induction records generalizing before index last with
  | nil => simp [fileOf, indexRecords]
  | cons record later ih =>
    have shape : before ++ fileOf (record :: later) ++ rest =
        before ++ wellFormed codec record.toPayload ++ (fileOf later ++ rest) := by
      simp only [file_of_cons, append_assoc]
    have behind : (before ++ wellFormed codec record.toPayload).length =
        before.length + record.size := by
      rw [length_append, well_formed_length]
      rfl
    have scanned := ih (before ++ wellFormed codec record.toPayload)
      (index.insert record.logId.index ⟨before.length, record.size, record.logId⟩)
      (some record.logId)
    simp only [behind, append_assoc] at scanned
    intro content
    simp only [content, length_cons, ← Nat.add_assoc]
    rw [shape, scan_found codec before (fileOf later ++ rest) record _ index last]
    simp only [append_assoc, file_of_cons]
    rw [scanned, indexRecords, List.getLast?_cons]
    cases later.getLast? <;> simp

variable (records : List (StoredRecord codec))

/-- Every record takes at least its header. -/
theorem length_le_file_of : records.length ≤ (fileOf records).length := by
  induction records with
  | nil => exact Nat.zero_le _
  | cons record later ih =>
    simp only [file_of_cons, length_cons, length_append, well_formed_length, headerLen]
    omega

/-- A file of records opens as the log that holds them. -/
theorem open_records : openFile codec (fileOf records) = some (.ok (recovered records)) := by
  have enough := length_le_file_of records
  obtain ⟨remaining, fuel⟩ : ∃ remaining,
      (fileOf records).length + 1 = remaining + 1 + records.length :=
    ⟨(fileOf records).length - records.length, by omega⟩
  have through := scan_through records [] [] (remaining + 1) .empty none
  simp only [nil_append, append_nil, length_nil, Option.or_none] at through
  rw [openFile, fuel, ByteFile.ofBytes, through]
  simp [scan, Except.map, recovered, ByteFile.seekEnd]

/-- The records of entries that fit their length words. -/
theorem records_of_entries (fits : Fits codec log) :
    ∃ records : List (StoredRecord codec), records.map StoredRecord.entry = log ∧
      ∀ stored ∈ records, wellFormed codec stored.toPayload = record codec stored.entry := by
  induction log with
  | nil => exact ⟨[], rfl, by simp⟩
  | cons entry rest ih =>
    obtain ⟨records, entries, words⟩ := ih fun later member =>
      fits later (mem_cons_of_mem _ member)
    refine ⟨.ofEntry codec entry (fits entry mem_cons_self) :: records, ?_, ?_⟩
    · rw [map_cons, entries]
      rfl
    intro stored member
    rcases mem_cons.mp member with rfl | later
    · rfl
    · exact words stored later

/-- The file of such records is the image of their entries. -/
theorem file_of_entries
    (words : ∀ stored ∈ records, wellFormed codec stored.toPayload = record codec stored.entry) :
    fileOf records = image codec (records.map StoredRecord.entry) := by
  induction records with
  | nil => rfl
  | cons stored rest ih =>
    rw [file_of_cons, words stored mem_cons_self, ih fun later member =>
      words later (mem_cons_of_mem _ member)]
    rfl

/-- The bindings of ordered records are those of their entries.

Induct over the records: each binding lies above those already there. -/
theorem index_records_ordered (before : List Entry) (index : OrderedMap Nat LogIndexEntry)
    (words : ∀ stored ∈ records, wellFormed codec stored.toPayload = record codec stored.entry)
    (ordered : Ordered codec (before ++ records.map StoredRecord.entry))
    (indexed : index.entries = indexFrom codec 0 before) :
    (indexRecords (image codec before).length index records).entries =
      indexFrom codec 0 (before ++ records.map StoredRecord.entry) := by
  induction records generalizing before index with
  | nil => simpa [indexRecords] using indexed
  | cons stored rest ih =>
    have keys : ∀ binding ∈ index.entries, binding.1 < stored.logId.index := by
      intro binding member
      obtain ⟨earlier, present, same⟩ := index_from_key codec before 0 binding (indexed ▸ member)
      rw [same]
      exact (pairwise_append.mp ordered).2.2 earlier present stored.entry mem_cons_self
    have size : stored.size = (record codec stored.entry).length := by
      rw [← words stored mem_cons_self, well_formed_length, StoredRecord.size]
    have behind : (image codec before).length + stored.size =
        (image codec (before ++ [stored.entry])).length := by
      simp [size]
    have shape : before ++ (stored :: rest).map StoredRecord.entry =
        (before ++ [stored.entry]) ++ rest.map StoredRecord.entry := by simp
    rw [shape] at ordered ⊢
    rw [indexRecords, behind]
    refine ih _ _ (fun later member => words later (mem_cons_of_mem _ member)) ordered ?_
    rw [OrderedMap.insert_above _ _ _ keys, indexed, index_from_append, size]
    simp [indexFrom, StoredRecord.logId]

/-- Opening the file of a stored log completes and stores the same entries. -/
theorem open_stores (codec : Codec Entry) (ordered : Ordered codec log) (fits : Fits codec log) :
    ∃ wal, openFile codec (image codec log) = some (.ok wal) ∧ Stores codec wal log := by
  obtain ⟨records, rfl, words⟩ := records_of_entries fits
  have bytes := file_of_entries records words
  refine ⟨recovered records, bytes ▸ open_records records, bytes, ?_, ?_, ordered, fits⟩
  · exact index_records_ordered records [] .empty words ordered rfl
  · rw [recovered, List.getLast?_map, Option.map_map]
    rfl

/-! ## Reading -/

/-- The last listed entry with the given log index. -/
def lastWithIndex (codec : Codec Entry) (log : List Entry) (index : Nat) : Option Entry :=
  log.reverse.find? (fun entry => decide ((codec.logId entry).index = index))

variable (codec : Codec Entry)

/-- In an ordered list an index occurs once, so the last occurrence is any one. -/
theorem last_with_index_eq {before after : List Entry} {entry : Entry}
    (ordered : Ordered codec (before ++ entry :: after)) :
    lastWithIndex codec (before ++ entry :: after) (codec.logId entry).index = some entry := by
  have later : ∀ stored ∈ after, (codec.logId entry).index < (codec.logId stored).index :=
    (pairwise_cons.mp (pairwise_append.mp ordered).2.1).1
  have skip : after.reverse.find?
      (fun stored => decide ((codec.logId stored).index = (codec.logId entry).index)) = none := by
    refine List.find?_eq_none.mpr (fun stored member => ?_)
    have larger := later stored (mem_reverse.mp member)
    simp only [decide_eq_true_eq]
    omega
  simp [lastWithIndex, List.find?_append, skip]

/-- Reading returns the entry of the record that the index points at. -/
theorem read_found (wal : Wal) (index : Nat) (before after : Bytes) (record : StoredRecord codec)
    (content : wal.file.bytes = before ++ wellFormed codec record.toPayload ++ after)
    (bound : wal.index.get index = some ⟨before.length, record.size, record.logId⟩) :
    (readEntry codec wal index).1 = .ok (some record.entry) := by
  obtain ⟨⟨payload, fits⟩, entry, decodes⟩ := record
  let head := walMagic ++ encodeWord payload.length ++ encodeWord (codec.checksum payload)
  have headLength : head.length = headerLen := rfl
  have shape : wal.file.bytes = before ++ head ++ payload ++ after := by
    simp only [content, wellFormed, head, append_assoc]
  have positioned : wal.file.seekStart (before.length + headerLen) =
      ⟨before ++ head ++ payload ++ after, (before ++ head).length⟩ := by
    rw [← shape, length_append, headLength]
    rfl
  have segment := ByteFile.read_exact_segment (before ++ head) payload after
  simp only [readEntry, bound, positioned, StoredRecord.size, Nat.add_sub_cancel_left, segment,
    decodes]

/-- Reading by index returns the live entry with that index, or nothing. -/
theorem read_retained
    (retains : Retains codec wal log floor) (fits : Fits codec log) (index : Nat) :
    (readEntry codec wal index).1 = .ok (lastWithIndex codec (live codec log floor) index) := by
  by_cases present : ∃ entry ∈ live codec log floor, (codec.logId entry).index = index
  · obtain ⟨entry, isLive, rfl⟩ := present
    obtain ⟨member, atFloor⟩ := mem_filter.mp isLive
    have bounded := fits entry member
    have once : lastWithIndex codec (live codec log floor) (codec.logId entry).index =
        some entry := by
      have increasing : Ordered codec (live codec log floor) := retains.ordered.filter _
      obtain ⟨before, after, shape⟩ := append_of_mem isLive
      rw [shape] at increasing ⊢
      exact last_with_index_eq codec increasing
    obtain ⟨before, after, rfl⟩ := append_of_mem member
    have listed : ((codec.logId entry).index, LogIndexEntry.mk (image codec before).length
        (record codec entry).length (codec.logId entry)) ∈ wal.index.entries := by
      rw [retains.index]
      exact mem_filter.mpr ⟨index_from_split codec before after entry, atFloor⟩
    have found : wal.index.get (codec.logId entry).index = some
        ⟨(image codec before).length, (record codec entry).length, codec.logId entry⟩ :=
      OrderedMap.get_of_mem listed
    have content : wal.file.bytes =
        image codec before ++ record codec entry ++ image codec after := by
      rw [retains.bytes]
      simp [append_assoc]
    rw [record_length] at found
    rw [once]
    exact read_found codec wal _ _ _ (.ofEntry codec entry bounded) content found
  · have absent : wal.index.get index = none := by
      simp only [OrderedMap.get, Option.map_eq_none_iff, List.find?_eq_none, decide_eq_true_eq]
      apply (retains.bound_iff (fun key _ => ¬ key = index)).mpr
      exact fun entry isLive equal => present ⟨entry, isLive, equal⟩
    have nowhere : lastWithIndex codec (live codec log floor) index = none := by
      refine List.find?_eq_none.mpr (fun entry member => ?_)
      simp only [decide_eq_true_eq]
      exact fun equal => present ⟨entry, mem_reverse.mp member, equal⟩
    simp [readEntry, absent, nowhere]

/-- Reading by index returns the stored entry with that index, or nothing. -/
theorem read_stored (wal : Wal) (log : List Entry) (stores : Stores codec wal log) (index : Nat) :
    (readEntry codec wal index).1 = .ok (lastWithIndex codec log index) := by
  simpa [live] using read_retained codec stores.retains stores.fits index

/-- Reading moves the file position only. -/
theorem read_unchanged (wal : Wal) (index : Nat) :
    (readEntry codec wal index).2.file.bytes = wal.file.bytes ∧
      (readEntry codec wal index).2.index = wal.index ∧
      (readEntry codec wal index).2.lastLogId = wal.lastLogId := by
  simp only [readEntry, ByteFile.readExact]
  split
  · exact ⟨rfl, rfl, rfl⟩
  split_ifs
  · dsimp only
    split <;> exact ⟨rfl, rfl, rfl⟩
  · exact ⟨rfl, rfl, rfl⟩

theorem read_keeps (wal : Wal) (log : List Entry) (stores : Stores codec wal log) (index : Nat) :
    Stores codec (readEntry codec wal index).2 log := by
  obtain ⟨bytes, same, last⟩ := read_unchanged codec wal index
  exact ⟨bytes.trans stores.bytes, by rw [same, stores.index], last.trans stores.last,
    stores.ordered, stores.fits⟩

variable {codec}

/-- The entries of a list with consecutive indices from one on, at most `count` of them. -/
def consecutive (codec : Codec Entry) (log : List Entry) : Nat → Nat → List Entry
  | 0, _ => []
  | count + 1, index =>
    match lastWithIndex codec log index with
    | none => []
    | some entry => entry :: consecutive codec log count (index + 1)

/-- The loop of `read_range` never fails and adds the consecutive live entries. -/
theorem read_consecutive (codec : Codec Entry) (log : List Entry) (floor : Nat)
    (fits : Fits codec log) (count : Nat) (wal : Wal) (retains : Retains codec wal log floor)
    (index : Nat) (entries : List Entry) : (readConsecutive codec count wal index entries).1 =
      .ok (entries ++ consecutive codec (live codec log floor) count index) := by
  induction count generalizing wal index entries with
  | zero => simp [readConsecutive, consecutive]
  | succ count ih =>
    have result := read_retained codec retains fits index
    obtain ⟨bytes, same, -⟩ := read_unchanged codec wal index
    have kept : Retains codec (readEntry codec wal index).2 log floor :=
      ⟨bytes.trans retains.bytes, by rw [same, retains.index], retains.ordered⟩
    rw [readConsecutive, consecutive]
    cases found : lastWithIndex codec (live codec log floor) index with
    | none =>
      rw [found] at result
      rw [← Prod.eta (readEntry codec wal index), result]
      simp
    | some entry =>
      rw [found] at result
      rw [← Prod.eta (readEntry codec wal index), result]
      simpa using ih _ kept (index + 1) (entries ++ [entry])

/-- A range is read from the live entries. -/
theorem read_range_live
    (retains : Retains codec wal log floor) (fits : Fits codec log) (start stop : Nat) :
    (readRange codec wal start stop).1 =
      .ok (consecutive codec (live codec log floor) (stop - start) start) :=
  read_consecutive codec log floor fits _ wal retains start []

theorem mem_consecutive (codec : Codec Entry) (log : List Entry) (count index : Nat)
    (entry : Entry) (member : entry ∈ consecutive codec log count index) : entry ∈ log := by
  induction count generalizing index with
  | zero => simp [consecutive] at member
  | succ count ih =>
    rw [consecutive] at member
    split at member
    · exact absurd member not_mem_nil
    next found here =>
      rcases mem_cons.mp member with rfl | later
      · exact mem_reverse.mp (mem_of_find?_eq_some here)
      · exact ih _ later

end PgVisor.WriteAheadLog
