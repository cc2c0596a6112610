import PgVisor.Transitions
import PgVisor.WalFaults

/-!
# Acknowledged entries behind torn records

An append writes at the end of the file, whatever is there. If an earlier append has failed
inside a record, the part it has left stays in front of the records that later appends write
and acknowledge. Opening the file cuts it where no whole record begins, which is at that
part, and the acknowledged records behind it are gone.

An acknowledged entry is told by the offset of its record. At every point of a run all of
them are recovered exactly if each append that returns has begun behind whole records, if
truncations leave the records of the entries that they do not concern, and if the bytes
that failed calls have left do not happen to make up a record that passes its checksum and
does not decode. An append that fails leaves whole records only if it stops between two.
-/

namespace PgVisor.WalAcknowledged

open ByteWords PrefixCode FaultyCalls Transitions WriteAheadLog WalFaults List

variable {Entry : Type} {codec : Codec Entry}

/-- The bytes are whole records in a row. -/
def Aligned (codec : Codec Entry) (bytes : Bytes) : Prop :=
  ∃ records : List (StoredRecord codec), bytes = fileOf records

/-- Opening a file with these bytes finds the record of the entry at the offset. -/
def RecoveredAt (codec : Codec Entry) (bytes : Bytes) (offset : Nat) (entry : Entry) : Prop :=
  ∃ (wal : Wal) (before : List (StoredRecord codec)) (stored : StoredRecord codec)
      (after : List (StoredRecord codec)),
    openFile codec bytes = some (.ok wal) ∧ Holds wal (before ++ stored :: after) ∧
      (fileOf before).length = offset ∧ stored.bytes = codec.serialize entry

section Records

variable {bytes : Bytes}

theorem toPayload_injective :
    Function.Injective (StoredRecord.toPayload : StoredRecord codec → Payload) := by
  rintro ⟨payload, first, decodes⟩ ⟨other, second, likewise⟩ same
  cases same
  cases decodes.symm.trans likewise
  rfl

/-- Records are found in a file that opens where they are in it. -/
theorem records_prefix_iff (first second : List (StoredRecord codec)) :
    first.map StoredRecord.toPayload <+: second.map StoredRecord.toPayload ↔ first <+: second :=
  prefix_map_iff_of_injective toPayload_injective

/-- Records that begin a row of records begin their list. -/
theorem prefix_of_file_of {first second : List (StoredRecord codec)}
    (begins : fileOf first <+: fileOf second) : first <+: second := by
  have longest := longest_encode (well_formed_delimiting codec)
    (second.map StoredRecord.toPayload)
  exact (records_prefix_iff first second).mp (longest.longest _ begins)

theorem file_of_decodable (records : List (StoredRecord codec)) :
    Decodable codec (fileOf records) := by
  intro payloads begins payload member
  have longest := longest_encode (well_formed_delimiting codec)
    (records.map StoredRecord.toPayload)
  obtain ⟨record, -, rfl⟩ := mem_map.mp ((longest.longest payloads begins).subset member)
  exact ⟨record.entry, record.decodes⟩

theorem recoveredAt_iff (offset : Nat) (entry : Entry) : RecoveredAt codec bytes offset entry ↔
      Decodable codec bytes ∧ ∃ (before : List (StoredRecord codec)) (stored : StoredRecord codec),
          fileOf (before ++ [stored]) <+: bytes ∧ (fileOf before).length = offset ∧
            stored.bytes = codec.serialize entry := by
  constructor
  · rintro ⟨wal, before, stored, after, opened, holds, position, content⟩
    have decodable := (opens_iff_decodable codec bytes).mp ⟨wal, opened⟩
    obtain ⟨records, longest⟩ := longest_records decodable
    have same : wal = recovered records := by
      have found := open_longest records bytes longest
      rw [opened] at found
      exact Except.ok.inj (Option.some.inj found)
    have whole : fileOf (before ++ stored :: after) <+: bytes := by
      rw [← holds.bytes, same]
      exact longest.begins
    refine ⟨decodable, before, stored, ?_, position, content⟩
    apply List.IsPrefix.trans _ whole
    have split : before ++ stored :: after = (before ++ [stored]) ++ after := by simp
    rw [split, file_of_append (before ++ [stored])]
    exact prefix_append _ _
  · rintro ⟨decodable, before, stored, begins, position, content⟩
    obtain ⟨records, longest⟩ := longest_records decodable
    obtain ⟨after, split⟩ := (records_prefix_iff _ _).mp (longest.longest _ begins)
    rw [append_assoc] at split
    refine ⟨recovered records, before, stored, after, open_longest records bytes longest, ?_,
      position, content⟩
    rw [← singleton_append, split]
    exact recovered_holds records

variable {entry : Entry}

/-- The record of a recovered entry ends inside the file. -/
theorem RecoveredAt.inside {offset} (recoveredAt : RecoveredAt codec bytes offset entry) :
    offset + (record codec entry).length ≤ bytes.length := by
  obtain ⟨-, before, stored, begins, rfl, content⟩ := (recoveredAt_iff _ _).mp recoveredAt
  have shorter := begins.length_le
  rw [file_of_append, length_append, file_of_cons, length_append, well_formed_length,
    content] at shorter
  rw [record_length]
  omega

/-- An entry stays recovered while the bytes up to the end of its record stay and the file
opens. -/
theorem RecoveredAt.transfer {offset later} (recoveredAt : RecoveredAt codec bytes offset entry)
    (kept : bytes.take (offset + (record codec entry).length) <+: later)
    (decodable : Decodable codec later) : RecoveredAt codec later offset entry := by
  obtain ⟨-, before, stored, begins, rfl, content⟩ := (recoveredAt_iff _ _).mp recoveredAt
  refine (recoveredAt_iff _ _).mpr ⟨decodable, before, stored, ?_, rfl, content⟩
  have length : (fileOf (before ++ [stored])).length =
      (fileOf before).length + (record codec entry).length := by
    rw [file_of_append, length_append, file_of_cons, length_append, well_formed_length,
      content, record_length]
    rfl
  rw [← length, ← prefix_iff_eq_take.mp begins] at kept
  exact kept

/-- Before a recovered entry there are whole records. -/
theorem RecoveredAt.aligned {offset} (recoveredAt : RecoveredAt codec bytes offset entry) :
    Aligned codec (bytes.take offset) := by
  obtain ⟨-, before, stored, begins, rfl, -⟩ := (recoveredAt_iff _ _).mp recoveredAt
  refine ⟨before, ?_⟩
  rw [file_of_append] at begins
  exact (prefix_iff_eq_take.mp ((prefix_append _ _).trans begins)).symm

/-- The records of entries that fit are whole records. -/
theorem image_aligned {log} (fits : Fits codec log) : Aligned codec (image codec log) := by
  obtain ⟨records, rfl, words⟩ := records_of_entries fits
  exact ⟨records, (file_of_entries records words).symm⟩

theorem Aligned.append {first second} (leading : Aligned codec first)
    (behind : Aligned codec second) : Aligned codec (first ++ second) := by
  obtain ⟨before, rfl⟩ := leading
  obtain ⟨after, rfl⟩ := behind
  exact ⟨before ++ after, (file_of_append before after).symm⟩

/-- Whole records that begin a record are none or that record. -/
theorem aligned_part (fits : (codec.serialize entry).length < 2 ^ 32) {torn : Bytes}
    (part : torn <+: record codec entry) (aligned : Aligned codec torn) :
    torn = [] ∨ torn = record codec entry := by
  obtain ⟨records, rfl⟩ := aligned
  let stored := StoredRecord.ofEntry codec entry fits
  have whole : record codec entry = fileOf [stored] := (append_nil _).symm
  rw [whole] at part ⊢
  have begins := prefix_of_file_of part
  cases records with
  | nil => exact .inl rfl
  | cons first rest =>
    obtain ⟨rfl, empty⟩ := cons_prefix_cons.mp begins
    rw [prefix_nil.mp empty]
    exact .inr rfl

/-- Behind whole records, whole records are what makes the file whole records. -/
theorem Aligned.rest {first second : Bytes} (leading : Aligned codec first)
    (whole : Aligned codec (first ++ second)) : Aligned codec second := by
  obtain ⟨before, rfl⟩ := leading
  obtain ⟨records, same⟩ := whole
  obtain ⟨after, rfl⟩ := prefix_of_file_of (same ▸ prefix_append (fileOf before) second)
  rw [file_of_append] at same
  exact ⟨after, append_cancel_left same⟩

/-- An append that stops leaves whole records exactly if it stops between two. -/
theorem interrupted_aligned_iff {log final entries whole torn}
    (fits : Fits codec entries) (aligned : Aligned codec log.wal.file.bytes)
    (interrupted : Interrupted codec log entries whole torn final) :
    Aligned codec final.wal.file.bytes ↔
      ∃ count, final.wal.file.bytes = log.wal.file.bytes ++ image codec (entries.take count) := by
  have fit : ∀ part, part <+: entries → Fits codec part := by
    intro part begins entry member
    exact fits entry (begins.subset member)
  constructor
  · intro after
    rw [interrupted.bytes] at after ⊢
    have leading := aligned.append (image_aligned (fit whole interrupted.begins))
    have rest := leading.rest after
    rcases interrupted.part with empty | ⟨entry, further, part, short⟩
    · refine ⟨whole.length, ?_⟩
      rw [empty, append_nil, ← prefix_iff_eq_take.mp interrupted.begins]
    have fitting := fit _ further entry (mem_append_right _ mem_cons_self)
    rcases aligned_part fitting part rest with empty | complete
    · refine ⟨whole.length, ?_⟩
      rw [empty, append_nil, ← prefix_iff_eq_take.mp interrupted.begins]
    · rw [complete] at short
      exact absurd short (lt_irrefl _)
  · rintro ⟨count, same⟩
    rw [same]
    exact aligned.append (image_aligned (fit _ <| take_prefix count entries))

end Records

/-! ## Runs -/

/-- The log with the acknowledged entries that were not truncated, each with the offset of
its record. -/
structure Journal (Entry : Type) where
  log : OpenWal
  acknowledged : List (Nat × Entry)

def Journal.bytes (journal : Journal Entry) : Bytes := journal.log.wal.file.bytes

/-- The entries of a batch with the offsets of their records. -/
def located (codec : Codec Entry) : Nat → List Entry → List (Nat × Entry)
  | _, [] => []
  | offset, entry :: rest =>
    (offset, entry) :: located codec (offset + (record codec entry).length) rest

/-- A call, with the replies of the file to it. -/
inductive Label (Entry : Type) where
  | append (entries : List Entry) (script : List Reply)
  | truncateSince (index : Nat) (script : List Reply)

/-- The entries that a call is given. -/
def Label.entries : Label Entry → List Entry
  | .append entries _ => entries
  | .truncateSince _ _ => []

def Journal.after (codec : Codec Entry) (journal : Journal Entry) : Label Entry → Journal Entry
  | .append entries script =>
    match WalFaults.append codec entries journal.log script with
    | (.ok (), log, _) =>
      ⟨log, journal.acknowledged ++ located codec journal.bytes.length entries⟩
    | (.error _, log, _) => ⟨log, journal.acknowledged⟩
  | .truncateSince index script =>
    match WalFaults.truncateSince index journal.log script with
    | (.ok (), log, _) =>
      ⟨log, journal.acknowledged.filter fun entry =>
        decide ((codec.logId entry.2).index < index)⟩
    | (.error _, log, _) => ⟨log, journal.acknowledged⟩

def step (codec : Codec Entry) (journal : Journal Entry) (label : Label Entry) :
    Option (Journal Entry) :=
  some (journal.after codec label)

/-- Opening the file now recovers every acknowledged entry. -/
def AllRecovered (codec : Codec Entry) (journal : Journal Entry) : Prop :=
  ∀ entry ∈ journal.acknowledged, RecoveredAt codec journal.bytes entry.1 entry.2

/-- An append that returns begins behind whole records, a truncation leaves the records of
the entries that stay acknowledged, and the file can be opened if there are any. -/
def Sound (codec : Codec Entry) (journal : Journal Entry) (label : Label Entry) : Prop :=
  ((journal.after codec label).acknowledged = [] ∨
      Decodable codec (journal.after codec label).bytes) ∧
    match label with
    | .append entries script =>
      (WalFaults.append codec entries journal.log script).1 = .ok () → entries ≠ [] →
        Aligned codec journal.bytes
    | .truncateSince _ _ =>
      ∀ entry ∈ (journal.after codec label).acknowledged,
        entry.1 + (record codec entry.2).length ≤ (journal.after codec label).bytes.length

section Steps

variable {journal : Journal Entry}

theorem mem_located {offset entries entry} (member : entry ∈ located codec offset entries) :
    ∃ before after, entries = before ++ entry.2 :: after ∧
      entry.1 = offset + (image codec before).length := by
  induction entries generalizing offset with
  | nil => cases member
  | cons first rest ih =>
    rcases mem_cons.mp member with rfl | later
    · exact ⟨[], rest, rfl, rfl⟩
    · obtain ⟨before, after, rfl, position⟩ := ih later
      refine ⟨first :: before, after, rfl, ?_⟩
      rw [position, image_cons, length_append, Nat.add_assoc]

/-- What an append does to the file and the acknowledged entries. -/
theorem after_append (codec : Codec Entry) (journal : Journal Entry) (entries : List Entry)
    (script : List Reply) : ((WalFaults.append codec entries journal.log script).1 = .ok () ∧
        (journal.after codec (.append entries script)).bytes =
          journal.bytes ++ image codec entries ∧
        (journal.after codec (.append entries script)).acknowledged =
          journal.acknowledged ++ located codec journal.bytes.length entries) ∨
      (WalFaults.append codec entries journal.log script).1 = .error .io ∧
        (journal.after codec (.append entries script)).acknowledged = journal.acknowledged ∧
        ∃ whole torn, Interrupted codec journal.log entries whole torn
          (journal.after codec (.append entries script)).log := by
  have ends := append_ends codec entries journal.log
  cases ran : WalFaults.append codec entries journal.log script with
  | mk result rest =>
    obtain ⟨log, replies⟩ := rest
    cases result with
    | ok value =>
      obtain ⟨same, -⟩ := ends.returns ran
      refine .inl ⟨rfl, ?_, ?_⟩
      · simp only [Journal.after, ran, Journal.bytes, same, append_bytes]
      · simp only [Journal.after, ran]
    | error error =>
      obtain ⟨rfl, interrupted⟩ := ends.stops ran
      refine .inr ⟨rfl, ?_, ?_⟩
      · simp only [Journal.after, ran]
      · simpa only [Journal.after, ran] using interrupted

/-- A truncation leaves the file or gives it another length, and adds no entry. -/
theorem after_truncate (codec : Codec Entry) (journal : Journal Entry) (index : Nat)
    (script : List Reply) :
    (journal.after codec (.truncateSince index script)).acknowledged ⊆ journal.acknowledged ∧
      ((journal.after codec (.truncateSince index script)).bytes = journal.bytes ∨
        ∃ length, (journal.after codec (.truncateSince index script)).bytes =
          (journal.log.wal.file.setLen length).bytes) := by
  have ends := truncateSince_ends index journal.log
  cases ran : WalFaults.truncateSince index journal.log script with
  | mk result rest =>
    obtain ⟨log, replies⟩ := rest
    cases result with
    | ok value =>
      obtain ⟨same, -⟩ := ends.returns ran
      simp only [Journal.after, ran, Journal.bytes, same]
      refine ⟨filter_subset_self _, ?_⟩
      cases first : journal.log.wal.index.firstFrom index with
      | none =>
        left
        simp only [WriteAheadLog.truncateSince, first]
      | some binding =>
        right
        simp only [WriteAheadLog.truncateSince, first]
        exact ⟨binding.2.fileOffset, rfl⟩
    | error error =>
      obtain ⟨-, same | ⟨firstKey, found, -, same⟩⟩ := ends.stops ran
      · simp only [Journal.after, ran, Journal.bytes, same]
        exact ⟨List.Subset.refl _, .inl trivial⟩
      · simp only [Journal.after, ran, Journal.bytes, same]
        exact ⟨List.Subset.refl _, .inr ⟨found.fileOffset, rfl⟩⟩

theorem AllRecovered.decodable (recovered : AllRecovered codec journal) :
    journal.acknowledged = [] ∨ Decodable codec journal.bytes := by
  cases acknowledged : journal.acknowledged with
  | nil => exact .inl rfl
  | cons entry rest =>
    have first := recovered entry (acknowledged ▸ mem_cons_self)
    exact .inr ((recoveredAt_iff _ _).mp first).1

/-- Bytes behind those of the recovered entries do not matter while the file opens. -/
theorem AllRecovered.extend (recovered : AllRecovered codec journal) {later}
    (begins : journal.bytes <+: later) (decodable : Decodable codec later) :
    ∀ entry ∈ journal.acknowledged, RecoveredAt codec later entry.1 entry.2 := by
  intro entry member
  apply (recovered entry member).transfer _ decodable
  apply List.IsPrefix.trans _ begins
  apply take_prefix

/-- The entries of a batch are recovered behind whole records. -/
theorem located_recovered {bytes} (aligned : Aligned codec bytes) {entries}
    (fits : Fits codec entries) : ∀ entry ∈ located codec bytes.length entries,
      RecoveredAt codec (bytes ++ image codec entries) entry.1 entry.2 := by
  intro entry member
  obtain ⟨before, after, split, position⟩ := mem_located member
  have decodable : Decodable codec (bytes ++ image codec entries) := by
    obtain ⟨records, same⟩ := aligned.append (image_aligned fits)
    rw [same]
    exact file_of_decodable records
  have inside : entry.2 ∈ entries := by
    rw [split]
    exact mem_append_right _ mem_cons_self
  have leading : Fits codec before := by
    intro other member
    exact fits other (split ▸ mem_append_left _ member)
  obtain ⟨records, same⟩ := aligned.append (image_aligned leading)
  refine (recoveredAt_iff _ _).mpr ⟨decodable, records,
    .ofEntry codec entry.2 (fits entry.2 inside), ?_, ?_, rfl⟩
  · rw [file_of_append, ← same, split, image_append, image_cons, append_assoc]
    apply (prefix_append_right_inj _).mpr
    apply (prefix_append_right_inj _).mpr
    exact ⟨image codec after, congrArg (· ++ image codec after) (append_nil _)⟩
  · rw [← same, position, length_append]

theorem append_sound_iff (recovered : AllRecovered codec journal) (entries : List Entry)
    (script : List Reply) (fits : Fits codec entries) :
    AllRecovered codec (journal.after codec (.append entries script)) ↔
      Sound codec journal (.append entries script) := by
  rcases after_append codec journal entries script with
    ⟨returned, bytes, acknowledged⟩ | ⟨stopped, acknowledged, whole, torn, interrupted⟩
  · constructor
    · intro all
      refine ⟨all.decodable, ?_⟩
      intro _ nonempty
      obtain ⟨entry, rest, rfl⟩ := exists_cons_of_ne_nil nonempty
      have first := all (journal.bytes.length, entry) (by
        rw [acknowledged]
        exact mem_append_right _ mem_cons_self)
      have aligned := first.aligned
      rwa [bytes, take_left] at aligned
    · rintro ⟨opens, aligned⟩ entry member
      by_cases empty : entries = []
      · subst empty
        rw [acknowledged] at member
        rw [bytes, image_nil, append_nil]
        exact recovered entry (by simpa [located] using member)
      · have leading := aligned returned empty
        rw [acknowledged] at member
        rw [bytes]
        rcases mem_append.mp member with earlier | new
        · apply recovered.extend (prefix_append _ _) _ entry earlier
          obtain ⟨records, same⟩ := leading.append (image_aligned fits)
          rw [same]
          exact file_of_decodable records
        · exact located_recovered leading fits entry new
  · have begins : journal.bytes <+: (journal.after codec (.append entries script)).bytes := by
      rw [Journal.bytes, Journal.bytes, interrupted.bytes, append_assoc]
      exact prefix_append _ _
    constructor
    · intro all
      refine ⟨all.decodable, ?_⟩
      intro returned
      rw [stopped] at returned
      cases returned
    · rintro ⟨opens, -⟩ entry member
      rw [acknowledged] at member opens
      rcases opens with empty | decodable
      · rw [empty] at member
        cases member
      · exact recovered.extend begins decodable entry member

theorem truncate_sound_iff (recovered : AllRecovered codec journal) (index : Nat)
    (script : List Reply) : AllRecovered codec (journal.after codec (.truncateSince index script)) ↔
      Sound codec journal (.truncateSince index script) := by
  obtain ⟨fewer, length⟩ := after_truncate codec journal index script
  constructor
  · intro all
    refine ⟨all.decodable, ?_⟩
    intro entry member
    exact (all entry member).inside
  · rintro ⟨opens, inside⟩ entry member
    rcases opens with empty | decodable
    · rw [empty] at member
      cases member
    apply (recovered entry (fewer member)).transfer _ decodable
    have within := inside entry member
    rcases length with same | ⟨length, same⟩
    · rw [same]
      exact take_prefix _ _
    · rw [same, ByteFile.set_len_length] at within
      rw [same]
      exact ByteFile.take_begins_set_len _ within

theorem sound_iff (recovered : AllRecovered codec journal) (label : Label Entry)
    (fits : Fits codec label.entries) :
    AllRecovered codec (journal.after codec label) ↔ Sound codec journal label := by
  cases label with
  | append entries script => exact append_sound_iff recovered entries script fits
  | truncateSince index script => exact truncate_sound_iff recovered index script

end Steps

/-- At every point of a run all acknowledged entries are recovered exactly if every call is
sound. An append that fails behind whole records leaves whole records, and so lets the next
one be sound, exactly if it has stopped between two records. -/
theorem acknowledged_recovered_iff (codec : Codec Entry) (journal : Journal Entry)
    (labels : List (Label Entry)) (fits : ∀ label ∈ labels, Fits codec label.entries)
    (recovered : AllRecovered codec journal) :
    (Meets (step codec) (fun journal label => AllRecovered codec (journal.after codec label))
        journal labels ↔ Meets (step codec) (Sound codec) journal labels) ∧
    ∀ (before : Journal Entry) (entries : List Entry) (script : List Reply),
      Fits codec entries → Aligned codec before.bytes →
      (WalFaults.append codec entries before.log script).1 ≠ .ok () →
      (Aligned codec (before.after codec (.append entries script)).bytes ↔
        ∃ count, (before.after codec (.append entries script)).bytes =
          before.bytes ++ image codec (entries.take count)) := by
  constructor
  · apply meets_congr_within (step codec) _ _
      (AllRecovered codec) _ _ recovered
      (meets_labels fits)
    · intro before label next _ _ now moved
      cases moved
      exact now
    · intro before label all fit
      exact sound_iff all label fit
  · intro before entries script fit aligned failed
    rcases after_append codec before entries script with
      ⟨returned, -⟩ | ⟨-, -, whole, torn, interrupted⟩
    · exact absurd returned failed
    · exact interrupted_aligned_iff fit aligned interrupted

/-- The journal of an empty file. -/
def freshJournal : Journal BlankEntry := ⟨⟨WriteAheadLog.fresh, []⟩, []⟩

theorem image_decodable {log} (fits : Fits codec log) : Decodable codec (image codec log) := by
  obtain ⟨records, same⟩ := image_aligned fits
  rw [same]
  exact file_of_decodable records

/-- An append, one that cannot seek, and the same again: both entries are recovered. -/
theorem retried_append_recovered :
    let labels : List (Label BlankEntry) :=
      [.append [⟨1, 1, 1⟩] [], .append [⟨1, 1, 2⟩] [.failed 0], .append [⟨1, 1, 2⟩] []]
    Meets (step blankCodec) (Sound blankCodec) freshJournal labels ∧
      Meets (step blankCodec) (fun journal label =>
        AllRecovered blankCodec (journal.after blankCodec label)) freshJournal labels := by
  intro labels
  have first : Fits blankCodec [⟨1, 1, 1⟩] := by decide
  have both : Fits blankCodec [⟨1, 1, 1⟩, ⟨1, 1, 2⟩] := by decide
  have sound : Meets (step blankCodec) (Sound blankCodec) freshJournal labels := by
    refine ⟨⟨.inr (image_decodable first), fun _ _ => ⟨[], rfl⟩⟩, ?_⟩
    rintro _ ⟨⟩
    refine ⟨⟨.inr (image_decodable first), fun returned => nomatch returned⟩, ?_⟩
    rintro _ ⟨⟩
    exact ⟨⟨.inr (image_decodable both), fun _ _ => image_aligned first⟩, fun _ _ => trivial⟩
  refine ⟨sound, ?_⟩
  apply (acknowledged_recovered_iff blankCodec freshJournal labels _ _).1.mpr sound
  · decide
  · exact fun _ member => nomatch member

/-- An append fails after the magic of its record; the same entry is then appended and
acknowledged. Opening the file finds nothing. -/
theorem acknowledged_behind_torn_lost :
    let entry : BlankEntry := ⟨1, 1, 1⟩
    let torn := freshJournal.after blankCodec
      (.append [entry] [.done, .done, .done, .failed 0])
    let final := torn.after blankCodec (.append [entry] [])
    (WalFaults.append blankCodec [entry] freshJournal.log
        [.done, .done, .done, .failed 0]).1 = .error .io ∧
      (WalFaults.append blankCodec [entry] torn.log []).1 = .ok () ∧
      final.acknowledged = [(4, entry)] ∧
      ∃ wal, openFile blankCodec final.bytes = some (.ok wal) ∧ wal.lastLogId = none ∧
        (readEntry blankCodec wal 1).1 = .ok none ∧ ¬ AllRecovered blankCodec final := by
  intro entry torn final
  have outcome : (openFile blankCodec final.bytes).map (fun opened =>
      opened.toOption.map fun wal =>
        (wal.file.bytes.isEmpty, wal.index.entries.isEmpty, wal.lastLogId.isNone)) =
      some (some (true, true, true)) := by decide +kernel
  obtain ⟨opened, found, shown⟩ := Option.map_eq_some_iff.mp outcome
  cases opened with
  | error error => cases shown
  | ok wal =>
    simp only [Except.toOption, Option.map_some, Option.some.injEq, Prod.mk.injEq,
      List.isEmpty_iff, Option.isNone_iff_eq_none] at shown
    obtain ⟨bytes, bindings, last⟩ := shown
    refine ⟨rfl, rfl, rfl, wal, found, last, ?_, ?_⟩
    · simp [readEntry, OrderedIndex.OrderedMap.get, bindings]
    intro all
    obtain ⟨other, before, stored, after, again, holds, -⟩ := all (4, entry) mem_cons_self
    cases found.symm.trans again
    have empty := holds.bytes.symm.trans bytes
    have length := congrArg List.length empty
    rw [file_of_append, file_of_cons, length_append, length_append, well_formed_length] at length
    simp [headerLen] at length

end PgVisor.WalAcknowledged
