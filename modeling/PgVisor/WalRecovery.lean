import PgVisor.WalRuns

/-!
# Opening an arbitrary file as a write-ahead log

Whatever the file contains, the scan consumes the longest beginning that is a
concatenation of well-formed records and cuts the file there. The five ways it ends
(the end of the file, a short header, another magic, a short payload, another checksum)
are the ways in which no well-formed record begins at an offset.

The one thing asked of the content is that the payloads of those records decode: a
record that passes its checksum and does not decode makes `open` fail instead of
cutting the file. A file written by appends has this property, cut at any offset.
-/

namespace PgVisor.WriteAheadLog

open ByteWords OrderedIndex PrefixCode List

variable {Entry : Type} {codec : Codec Entry}

/-- The payload of every well-formed record in the leading run of records decodes. -/
def Decodable (codec : Codec Entry) (bytes : Bytes) : Prop :=
  ∀ payloads, encode (wellFormed codec) payloads <+: bytes →
    ∀ payload ∈ payloads, ∃ entry, codec.deserialize payload.bytes = some entry

/-- The log holds exactly these records, and each log index is bound to the last of the
records that carry it. -/
structure Holds (wal : Wal) (records : List (StoredRecord codec)) : Prop where
  bytes : wal.file.bytes = fileOf records
  last : wal.lastLogId = records.getLast?.map StoredRecord.logId
  bound : ∀ before record after, records = before ++ record :: after →
    (∀ later ∈ after, later.logId.index ≠ record.logId.index) → wal.index.get record.logId.index =
      some ⟨(fileOf before).length, record.size, record.logId⟩
  absent : ∀ index, (∀ record ∈ records, record.logId.index ≠ index) → wal.index.get index = none

/-! ## Records as a code -/

/-- The header tells the length of the payload, so records delimit themselves. -/
theorem well_formed_delimiting (codec : Codec Entry) : SelfDelimiting (wellFormed codec) where
  nonempty payload empty := by
    have length := well_formed_length codec payload
    rw [empty] at length
    simp [headerLen] at length
    omega
  unique first second text left right := by
    obtain ⟨afterFirst, rfl⟩ := left
    obtain ⟨afterSecond, same⟩ := right
    obtain ⟨first, firstFits⟩ := first
    obtain ⟨second, secondFits⟩ := second
    simp only [wellFormed, append_assoc] at same
    obtain ⟨-, same⟩ := append_inj same rfl
    obtain ⟨lengths, same⟩ := append_inj same rfl
    obtain ⟨-, same⟩ := append_inj same rfl
    have sizes : second.length = first.length := by
      rw [← decode_encode_word _ secondFits, lengths, decode_encode_word _ firstFits]
    obtain ⟨rfl, -⟩ := append_inj same sizes
    rfl

/-- Twelve bytes that start with the magic are the header of a length and a checksum. -/
theorem header_shape {head : Bytes} (width : head.length = headerLen)
    (magic : head.take 4 = walMagic) :
    head = walMagic ++ encodeWord (decodeWord ((head.drop 4).take 4)) ++
      encodeWord (decodeWord ((head.drop 8).take 4)) := by
  have wide : head.length = 12 := width
  rw [(encode_decode_word ((head.drop 4).take 4) (by simp [wide])).2,
    (encode_decode_word ((head.drop 8).take 4) (by simp [wide])).2, ← magic]
  have tail : (head.drop 8).take 4 = head.drop 8 := take_of_length_le (by simp [wide])
  rw [tail, ← take_add, take_append_drop]

/-- Bytes that pass all checks of the scan begin with a well-formed record. -/
theorem well_formed_begins (codec : Codec Entry) (rest : Bytes) (enough : headerLen ≤ rest.length)
    (magic : (rest.take headerLen).take 4 = walMagic)
    (full : headerLen + decodeWord (((rest.take headerLen).drop 4).take 4) ≤ rest.length)
    (matching : codec.checksum ((rest.drop headerLen).take
        (decodeWord (((rest.take headerLen).drop 4).take 4))) =
      decodeWord (((rest.take headerLen).drop 8).take 4)) :
    ∃ payload, wellFormed codec payload <+: rest := by
  have width : (rest.take headerLen).length = headerLen := by
    rw [length_take]
    omega
  have announced := encode_decode_word (((rest.take headerLen).drop 4).take 4)
    (by rw [length_take, length_drop, width]; rfl)
  have shape := header_shape width magic
  generalize decodeWord (((rest.take headerLen).drop 4).take 4) = payloadLen at *
  have length : ((rest.drop headerLen).take payloadLen).length = payloadLen := by
    rw [length_take, length_drop]
    omega
  refine ⟨⟨(rest.drop headerLen).take payloadLen, by rw [length]; exact announced.1⟩, ?_⟩
  simp only [wellFormed, length, matching]
  rw [← shape, ← take_add]
  exact take_prefix _ _

/-! ## The scan -/

/-- Where no well-formed record begins, the scan cuts the file and ends. -/
theorem scan_stuck (codec : Codec Entry) (before rest : Bytes) (unread : rest ≠ [])
    (stuck : ∀ payload, ¬ wellFormed codec payload <+: rest) (fuel : Nat)
    (index : OrderedMap Nat LogIndexEntry) (last : Option LogId) :
    ∃ position, scan codec (before ++ rest).length (fuel + 1) ⟨before ++ rest, before.length⟩
      before.length index last = some (.ok ⟨⟨before, position⟩, index, last⟩) := by
  have inside : before.length < (before ++ rest).length := by
    have positive := length_pos_iff.mpr unread
    rw [length_append]
    omega
  have cut (position : Nat) :
      ∃ final, some (Except.ok (Wal.mk ((ByteFile.mk (before ++ rest) position).setLen
        before.length) index last)) =
        (some (.ok ⟨⟨before, final⟩, index, last⟩) : Option (Except StorageError Wal)) :=
    ⟨position, by rw [ByteFile.set_len_append]⟩
  rw [scan]
  simp only [inside, ↓reduceIte, ByteFile.readExact, drop_left]
  by_cases enough : before.length + headerLen ≤ (before ++ rest).length
  · simp only [enough, ↓reduceIte]
    by_cases magic : (rest.take headerLen).take 4 = walMagic
    · simp only [magic, ne_eq, not_true_eq_false, ↓reduceIte]
      by_cases full : before.length + headerLen +
          decodeWord (((rest.take headerLen).drop 4).take 4) ≤ (before ++ rest).length
      · simp only [full, ↓reduceIte]
        split
        · exact cut _
        next matching =>
          rw [drop_length_add_append, not_not] at matching
          rw [length_append] at enough full
          obtain ⟨payload, begins⟩ := well_formed_begins codec rest (by omega) magic (by omega)
            matching
          exact absurd begins (stuck payload)
      · simp only [full, ↓reduceIte]
        exact cut _
    · simp only [magic, ne_eq, not_false_eq_true, ↓reduceIte]
      exact cut _
  · simp only [enough, ↓reduceIte]
    exact cut _

variable (records : List (StoredRecord codec))

/-- Scanning records followed by bytes that begin with none returns the records: where they
end the scan has read the whole file or is stuck. -/
theorem scan_records (before rest : Bytes) (stuck : ∀ payload, ¬ wellFormed codec payload <+: rest)
    (fuel : Nat) (enough : records.length < fuel) (index : OrderedMap Nat LogIndexEntry)
    (last : Option LogId) : ∃ position, scan codec (before ++ fileOf records ++ rest).length fuel
        ⟨before ++ fileOf records ++ rest, before.length⟩ before.length index last =
      some (.ok ⟨⟨before ++ fileOf records, position⟩, indexRecords before.length index records,
        (records.getLast?.map StoredRecord.logId).or last⟩) := by
  obtain ⟨remaining, rfl⟩ : ∃ remaining, fuel = remaining + 1 + records.length :=
    ⟨fuel - records.length - 1, by omega⟩
  rw [scan_through]
  cases rest with
  | nil => exact ⟨(before ++ fileOf records).length, by simp [scan]⟩
  | cons byte more =>
    exact scan_stuck codec (before ++ fileOf records) (byte :: more) (cons_ne_nil _ _) stuck
      remaining _ _

/-- Opening returns the log of the longest list of records in the file. -/
theorem open_longest (bytes : Bytes)
    (longest : Longest (wellFormed codec) (records.map StoredRecord.toPayload) bytes) :
    openFile codec bytes = some (.ok (recovered records)) := by
  obtain ⟨rest, rfl, stuck⟩ := longest.rest
  have enough := length_le_file_of records
  obtain ⟨position, scanned⟩ := scan_records records [] rest stuck
    ((fileOf records ++ rest).length + 1)
    (by rw [length_append]; omega) .empty none
  simp only [nil_append, length_nil, Option.or_none] at scanned
  change openFile codec (fileOf records ++ rest) = _
  simp only [openFile, ByteFile.ofBytes, scanned, Option.map_some, Except.map]
  rfl

/-! ## What the index holds -/

theorem index_records_append (first second : List (StoredRecord codec)) (offset : Nat)
    (index : OrderedMap Nat LogIndexEntry) : indexRecords offset index (first ++ second) =
      indexRecords (offset + (fileOf first).length) (indexRecords offset index first) second := by
  induction first generalizing offset index with
  | nil => rfl
  | cons record rest ih =>
    rw [cons_append, indexRecords, ih, indexRecords, file_of_cons,
      length_append, well_formed_length, ← Nat.add_assoc]
    rfl

/-- Records with other indices leave a binding alone. -/
theorem get_index_records_absent (offset : Nat) (index : OrderedMap Nat LogIndexEntry)
    (sought : Nat) (absent : ∀ record ∈ records, record.logId.index ≠ sought) :
    (indexRecords offset index records).get sought = index.get sought := by
  induction records generalizing offset index with
  | nil => rfl
  | cons record rest ih =>
    have different : sought ≠ record.logId.index := (absent record mem_cons_self).symm
    rw [indexRecords, ih _ _ fun later member =>
      absent later (mem_cons_of_mem _ member)]
    rw [OrderedMap.get_insert, if_neg different]

/-- The last record with an index is the one bound to it. -/
theorem get_index_records_last (before after : List (StoredRecord codec))
    (record : StoredRecord codec) (last : ∀ later ∈ after, later.logId.index ≠ record.logId.index) :
    (indexRecords 0 .empty (before ++ record :: after)).get record.logId.index =
      some ⟨(fileOf before).length, record.size, record.logId⟩ := by
  rw [index_records_append, indexRecords, get_index_records_absent after _ _ _ last,
    OrderedMap.get_insert, if_pos rfl, Nat.zero_add]

theorem recovered_holds :
    Holds (recovered records) records where
  bytes := rfl
  last := rfl
  bound before record after shape last := by
    rw [shape]
    exact get_index_records_last before after record last
  absent index absent := get_index_records_absent records 0 .empty index absent

/-- Reading by index returns the entry of the last record with that index. -/
theorem Holds.read {wal : Wal} {records : List (StoredRecord codec)}
    (holds : Holds wal records) (index : Nat) : (readEntry codec wal index).1 =
      .ok (lastWithIndex codec (records.map StoredRecord.entry) index) := by
  have sought : lastWithIndex codec (records.map StoredRecord.entry) index =
      (records.reverse.find? fun record => decide (record.logId.index = index)).map
        StoredRecord.entry := by
    rw [lastWithIndex, ← map_reverse, List.find?_map]
    rfl
  rw [sought]
  cases found : records.reverse.find? fun record => decide (record.logId.index = index) with
  | none =>
    have unbound : wal.index.get index = none := by
      apply holds.absent
      intro record member
      simpa using List.find?_eq_none.mp found record (mem_reverse.mpr member)
    simp [readEntry, unbound]
  | some record =>
    obtain ⟨same, after, before, shape, later⟩ := List.find?_eq_some_iff_append.mp found
    have ordered : records = before.reverse ++ record :: after.reverse := by
      rw [← reverse_reverse records, shape]
      simp
    have last : ∀ other ∈ after.reverse, other.logId.index ≠ record.logId.index := by
      intro other member
      rw [of_decide_eq_true same]
      simpa using later other (mem_reverse.mp member)
    have bound := holds.bound before.reverse record after.reverse ordered last
    rw [of_decide_eq_true same] at bound
    apply read_found codec wal index (fileOf before.reverse) (fileOf after.reverse) record
    · rw [holds.bytes, ordered, file_of_append, file_of_cons, append_assoc]
    · exact bound

/-! ## Files written by appends -/

/-- Appending adds the records of the batch to the file, whatever their indices. -/
theorem append_bytes (codec : Codec Entry) (wal : Wal) (entries : List Entry) :
    (append codec wal entries).file.bytes = wal.file.bytes ++ image codec entries := by
  have written (entries : List Entry) (wal : Wal) (offset : Nat)
      (atEnd : wal.file.position = wal.file.bytes.length) :
      (entries.foldl (appendRecord codec) (wal, offset)).1.file.bytes =
        wal.file.bytes ++ image codec entries := by
    induction entries generalizing wal offset with
    | nil => simp
    | cons entry rest ih =>
      have standing : wal.file = ⟨wal.file.bytes, wal.file.bytes.length⟩ := by rw [← atEnd]
      have next := appendRecord_file codec standing offset entry
      rw [foldl_cons, ih _ _ (by rw [next]), next, append_assoc]
      rfl
  cases entries with
  | nil => simp [append]
  | cons entry rest => exact written (entry :: rest) _ _ rfl

theorem append_batches_bytes (codec : Codec Entry) (batches : List (List Entry)) (wal : Wal) :
    (batches.foldl (append codec) wal).file.bytes =
      wal.file.bytes ++ image codec batches.flatten := by
  induction batches generalizing wal with
  | nil => simp
  | cons batch rest ih =>
    rw [foldl_cons, ih, append_bytes, flatten_cons, image_append, append_assoc]

variable (log : List Entry)

/-- A cut through the image of a log leaves the records of the entries before it. -/
theorem cut_records (fits : Fits codec log) (cut : Nat) : ∃ records : List (StoredRecord codec),
      Longest (wellFormed codec) (records.map StoredRecord.toPayload)
        ((image codec log).take cut) ∧
      records.map StoredRecord.entry = wholeBefore (record codec) cut log ∧
      fileOf records = image codec (wholeBefore (record codec) cut log) := by
  obtain ⟨records, rfl, words⟩ := records_of_entries fits
  let word := fun stored : StoredRecord codec => wellFormed codec stored.toPayload
  have payloads := wholeBefore_map (wellFormed codec) word StoredRecord.toPayload records
    (fun _ _ => rfl) cut
  have entries := wholeBefore_map (record codec) word StoredRecord.entry records words cut
  refine ⟨wholeBefore word cut records, ?_, entries.symm, ?_⟩
  · rw [← payloads, ← file_of_entries records words]
    exact longest_cut (well_formed_delimiting codec) (records.map StoredRecord.toPayload) cut
  rw [entries]
  apply file_of_entries
  intro stored member
  exact words stored ((wholeBefore_begins records cut).subset member)

/-- Payloads decode up to the first that does not. -/
theorem decoded_until (codec : Codec Entry) (payloads : List Payload) :
    (∃ records : List (StoredRecord codec), records.map StoredRecord.toPayload = payloads) ∨
      ∃ (records : List (StoredRecord codec)) (broken : Payload) (later : List Payload),
        payloads = records.map StoredRecord.toPayload ++ broken :: later ∧
          codec.deserialize broken.bytes = none := by
  induction payloads with
  | nil => exact .inl ⟨[], rfl⟩
  | cons payload rest ih =>
    cases decoded : codec.deserialize payload.bytes with
    | none => exact .inr ⟨[], payload, rest, rfl, decoded⟩
    | some entry =>
      rcases ih with ⟨records, same⟩ | ⟨records, broken, later, split, fails⟩
      · exact .inl ⟨⟨payload, entry, decoded⟩ :: records, by rw [map_cons, same]⟩
      · exact .inr ⟨⟨payload, entry, decoded⟩ :: records, broken, later, by rw [split]; rfl, fails⟩

/-- The longest list of records in decodable bytes, with their entries. -/
theorem longest_records {bytes : Bytes} (decodable : Decodable codec bytes) :
    ∃ records : List (StoredRecord codec),
      Longest (wellFormed codec) (records.map StoredRecord.toPayload) bytes := by
  obtain ⟨payloads, longest⟩ := longest_exists (well_formed_delimiting codec) bytes
  rcases decoded_until codec payloads with ⟨records, rfl⟩ | ⟨records, broken, later, rfl, fails⟩
  · exact ⟨records, longest⟩
  obtain ⟨entry, decoded⟩ := decodable _ longest.begins broken
    (mem_append_right _ mem_cons_self)
  rw [fails] at decoded
  cases decoded

/-- Opening fails at the first record that passes its checksum and does not decode. -/
theorem open_broken (broken : Payload) (rest : Bytes)
    (fails : codec.deserialize broken.bytes = none) :
    openFile codec (fileOf records ++ wellFormed codec broken ++ rest) =
      some (.error .serialization) := by
  have enough := length_le_file_of records
  have shape : fileOf records ++ wellFormed codec broken ++ rest =
      [] ++ fileOf records ++ (wellFormed codec broken ++ rest) := by simp
  obtain ⟨remaining, fuel⟩ : ∃ remaining,
      (fileOf records ++ wellFormed codec broken ++ rest).length + 1 =
        remaining + 1 + records.length :=
    ⟨(fileOf records ++ wellFormed codec broken ++ rest).length - records.length, by
      simp only [length_append]
      omega⟩
  have through := scan_through records [] (wellFormed codec broken ++ rest) (remaining + 1)
    .empty none
  have stop := scan_payload codec (fileOf records) rest broken remaining
    (indexRecords 0 .empty records) (records.getLast?.map StoredRecord.logId)
  rw [fails] at stop
  simp only [nil_append, length_nil, Option.or_none, ← append_assoc] at through
  rw [openFile, fuel, ByteFile.ofBytes, through, stop]
  rfl

/-- A file opens exactly if the payloads of its leading records decode. -/
theorem opens_iff_decodable (codec : Codec Entry) (bytes : Bytes) :
    (∃ wal, openFile codec bytes = some (.ok wal)) ↔ Decodable codec bytes := by
  constructor
  · rintro ⟨wal, opened⟩ payloads ⟨rest, rfl⟩ payload member
    rcases decoded_until codec payloads with ⟨records, rfl⟩ | ⟨records, broken, later, rfl, fails⟩
    · obtain ⟨record, -, rfl⟩ := mem_map.mp member
      exact ⟨record.entry, record.decodes⟩
    have stops := open_broken records broken (encode (wellFormed codec) later ++ rest) fails
    have shape : encode (wellFormed codec) (records.map StoredRecord.toPayload ++ broken :: later)
        ++ rest = fileOf records ++ wellFormed codec broken ++
          (encode (wellFormed codec) later ++ rest) := by
      simp [fileOf, encode]
    rw [shape, stops] at opened
    cases opened
  · intro decodable
    obtain ⟨records, longest⟩ := longest_records decodable
    exact ⟨recovered records, open_longest records bytes longest⟩

/-- The bytes before a cut through a log decode. -/
theorem cut_decodable (fits : Fits codec log) (cut : Nat) :
    Decodable codec ((image codec log).take cut) := by
  obtain ⟨records, longest, -⟩ := cut_records log fits cut
  intro payloads begins payload member
  obtain ⟨record, -, rfl⟩ := mem_map.mp ((longest.longest payloads begins).subset member)
  exact ⟨record.entry, record.decodes⟩

/-- Opening the cut image of an ordered log stores the entries before the cut. -/
theorem open_cut (ordered : Ordered codec log) (fits : Fits codec log) (cut : Nat) :
    ∃ wal, openFile codec ((image codec log).take cut) = some (.ok wal) ∧
      Stores codec wal (wholeBefore (record codec) cut log) := by
  obtain ⟨records, longest, -, bytes⟩ := cut_records log fits cut
  have kept : (wholeBefore (record codec) cut log).Sublist log :=
    (wholeBefore_begins log cut).sublist
  obtain ⟨wal, opened, stores⟩ := open_stores codec
    (ordered.sublist kept) (fun entry member => fits entry (kept.subset member))
  -- what remains of a cut record is no record, so the cut file opens like its whole records
  have whole := open_records records
  rw [bytes, opened] at whole
  exact ⟨wal, (open_longest records _ longest).trans whole.symm, stores⟩

/-- Opening a file recovers exactly the records of its longest well-formed beginning,
cuts the file to it, and changes nothing when repeated. A file that appends have written,
cut at any offset, comes back with exactly the entries whose records lie entirely before
the cut; each of its entries is shorter than its length word can say. -/
theorem open_recovers_longest (codec : Codec Entry) : (∀ bytes, Decodable codec bytes →
      ∃ (records : List (StoredRecord codec)) (wal : Wal), openFile codec bytes = some (.ok wal) ∧
        Longest (wellFormed codec) (records.map StoredRecord.toPayload) bytes ∧ Holds wal records ∧
        openFile codec wal.file.bytes = some (.ok wal)) ∧
    ∀ (batches : List (List Entry)) (cut : Nat), Fits codec batches.flatten →
      let kept := wholeBefore (record codec) cut batches.flatten
      ∃ wal, openFile codec ((batches.foldl (append codec) fresh).file.bytes.take cut) =
          some (.ok wal) ∧ wal.file.bytes = image codec kept ∧
        wal.lastLogId = kept.getLast?.map codec.logId ∧
        ∀ index, (readEntry codec wal index).1 = .ok (lastWithIndex codec kept index) := by
  constructor
  · intro bytes decodable
    obtain ⟨records, longest⟩ := longest_records decodable
    refine ⟨records, recovered records, open_longest records bytes longest, longest,
      recovered_holds records, ?_⟩
    exact open_records records
  · intro batches cut fits kept
    obtain ⟨records, longest, entries, bytes⟩ := cut_records batches.flatten fits cut
    have written : (batches.foldl (append codec) fresh).file.bytes =
        image codec batches.flatten := append_batches_bytes codec batches fresh
    have holds := recovered_holds records
    refine ⟨recovered records, ?_, holds.bytes.trans bytes, ?_, ?_⟩
    · rw [written]
      exact open_longest records _ longest
    · rw [holds.last]
      change _ = (wholeBefore (record codec) cut batches.flatten).getLast?.map codec.logId
      rw [← entries, List.getLast?_map, Option.map_map]
      rfl
    · intro index
      rw [holds.read, entries]

/-- Two entries, the second cut in the middle of its payload: only the first is left. -/
theorem torn_second_recovers : (∃ (records : List (StoredRecord blankCodec)) (wal : Wal),
      openFile blankCodec ((image blankCodec [⟨1, 1, 1⟩, ⟨1, 1, 2⟩]).take 60) = some (.ok wal) ∧
      Holds wal records ∧ openFile blankCodec wal.file.bytes = some (.ok wal)) ∧
      ∃ wal, openFile blankCodec
          (([[⟨1, 1, 1⟩, ⟨1, 1, 2⟩]].foldl (append blankCodec) fresh).file.bytes.take 60) =
            some (.ok wal) ∧ wal.lastLogId = some ⟨1, 1, 1⟩ ∧
        (readEntry blankCodec wal 1).1 = .ok (some ⟨1, 1, 1⟩) ∧
        (readEntry blankCodec wal 2).1 = .ok none := by
  have decodable := cut_decodable [⟨1, 1, 1⟩, ⟨1, 1, 2⟩] (by decide : Fits blankCodec _) 60
  obtain ⟨records, found, reopens, -, holds, again⟩ :=
    (open_recovers_longest blankCodec).1 _ decodable
  obtain ⟨wal, opened, -, last, reads⟩ :=
    (open_recovers_longest blankCodec).2 [[⟨1, 1, 1⟩, ⟨1, 1, 2⟩]] 60 (by decide)
  refine ⟨⟨records, found, reopens, holds, again⟩, wal, opened, last.trans (by decide), ?_, ?_⟩
  · exact (reads 1).trans (by decide)
  · exact (reads 2).trans (by decide)

end PgVisor.WriteAheadLog
