import PgVisor.FaultyCalls
import PgVisor.StateMachine
import PgVisor.WalRecovery

/-!
# Opening damaged files

Opening the log store reads `meta.json`, and opening the state machine its file, whatever
bytes they hold. The state file carries a magic and a checksum, and content that fails them
is an error; content that ends before the magic does is taken for an empty file and replaced.
The metadata is text without a checksum, and text that does not parse is taken for empty
metadata.

Every call to the files may fail. `Path::exists` answers truthfully. The history is the set of
the values that were persisted before; that no checksum collides means that content whose
checksum matches has a payload of that history.
-/

namespace PgVisor.StoreOpening

open ByteWords AtomicFile FaultyCalls WriteAheadLog LogStorage ClusterState List

variable {directory : Directory} {metadata : LogMetadata} {content : Bytes}
  {Entry Membership : Type}

section LogStore

/-- `Wal::open`, with the calls to its file as one: it may fail before or after the cut. -/
def openWal (codec : Codec Entry) : Program StorageError Directory Wal := do
  let bytes ← .read Directory.walBytes
  match openFile codec bytes with
  | some (.ok wal) => do
    .call .io (fun directory => { directory with walBytes := wal.file.bytes })
      fun count directory =>
        if count = 0 then directory else { directory with walBytes := wal.file.bytes }
    pure wal
  | some (.error error) => .fail error
  | none => .fail .io

def openMeta (format : MetaFormat) : Program StorageError Directory LogMetadata := do
  let found ← .read fun directory => directory.metaFile.content
  match found with
  | some content => do
    -- `File::open`, then `read_to_string`
    .call .io id fun _ directory => directory
    .call .io id fun _ directory => directory
    if format.isText content then pure ((format.fromStr content).getD default) else .fail .io
  | none => pure default

/-- `LogStoreInner::open`. -/
def openStore (codec : Codec Entry) (format : MetaFormat) :
    Program StorageError Directory (LogMetadata × Wal) := do
  -- `create_dir_all`
  .call .io id fun _ directory => directory
  let wal ← openWal codec
  let metadata ← openMeta format
  pure (metadata, wal)

end LogStore

section StateFile

def createTemporary : Program StateError ReplacedFile Unit :=
  .call .io (fun file => { file with temporary := some [] }) fun _ file => file

def writeTemporary (piece : Bytes) : Program StateError ReplacedFile Unit :=
  .call .io (fun file => { file with temporary := file.temporary.map (· ++ piece) })
    fun count file =>
      { file with temporary := file.temporary.map (· ++ piece.dropLast.take count) }

def syncTemporary : Program StateError ReplacedFile Unit := .call .io id fun _ file => file

def renameTemporary : Program StateError ReplacedFile Unit :=
  .call .io (fun file => ⟨file.temporary, none⟩) fun _ file => file

def persistToDisk (format : DataFormat Membership) (data : StateMachineData Membership) :
    Program StateError ReplacedFile Unit := do
  let payload := format.serialize data
  createTemporary
  writeTemporary stateMagic
  writeTemporary (encodeWord (format.crc payload))
  writeTemporary payload
  syncTemporary
  renameTemporary

/-- Write the default and use it. -/
def initState [Inhabited Membership] (format : DataFormat Membership) :
    Program StateError ReplacedFile (StateMachineData Membership) := do
  persistToDisk format .default
  pure .default

/-- The checksum and the payload behind the magic. -/
def readChecked (format : DataFormat Membership) (content : Bytes) :
    Program StateError ReplacedFile (StateMachineData Membership) := do
  .call .io id fun _ file => file
  if content.length < 8 then .fail .io else do
    .call .io id fun _ file => file
    let expectedCrc := decodeWord ((content.drop 4).take 4)
    let payload := content.drop 8
    let calculatedCrc := format.crc payload
    if calculatedCrc ≠ expectedCrc then
      .fail (.checksumMismatch expectedCrc calculatedCrc 8)
    else match format.deserialize payload with
      | none => .fail .serialization
      | some data => pure data

/-- `StateMachine::open`. -/
def openMachine [Inhabited Membership] (format : DataFormat Membership) :
    Program StateError ReplacedFile (StateMachineData Membership) := do
  -- `create_dir_all`
  .call .io id fun _ file => file
  let found ← .read ReplacedFile.content
  match found with
  | none => initState format
  | some content => do
    -- `File::open`, then the read of the magic
    .call .io id fun _ file => file
    .call .io id fun _ file => file
    if content.length < 4 then initState format
    else if content.take 4 ≠ stateMagic then .fail (.corruptedMagic (content.take 4))
    else readChecked format content

end StateFile

/-- A missing or an empty file. -/
def Blank (content : Option Bytes) : Prop := content = none ∨ content = some []

/-- The metadata is what the file says and was persisted before, or the default in place of a
blank file; an error has left the file alone. -/
def MetaKept (format : MetaFormat) (persisted : Set LogMetadata) (before : Directory) :
    Except StorageError (LogMetadata × Wal) × Directory × List Reply → Prop
  | (.ok (metadata, _), _, _) =>
    (metadata ∈ persisted ∧ ∃ content, before.metaFile.content = some content ∧
        format.fromStr content = some metadata) ∨ Blank before.metaFile.content ∧ metadata = default
  | (.error _, after, _) => after.metaFile = before.metaFile

/-- The data is what the file holds and was persisted before, or the default in place of a
blank file; an error has left the content alone. -/
def DataKept [Inhabited Membership] (format : DataFormat Membership)
    (persisted : Set (StateMachineData Membership)) (before : ReplacedFile) :
    Except StateError (StateMachineData Membership) × ReplacedFile × List Reply → Prop
  | (.ok data, _, _) =>
    (data ∈ persisted ∧ before.content = some (stateImage format data)) ∨
      Blank before.content ∧ data = .default
  | (.error _, after, _) => after.content = before.content

/-- Content whose checksum matches has a payload that was persisted. -/
def Uncollided (format : DataFormat Membership) (persisted : Set (StateMachineData Membership))
    (content : Bytes) : Prop :=
  8 ≤ content.length → content.take 4 = stateMagic →
    format.crc (content.drop 8) = decodeWord ((content.drop 4).take 4) →
    ∃ data ∈ persisted, content.drop 8 = format.serialize data

/-- The metadata file is blank, is not text, or says what was persisted. -/
def Legible (format : MetaFormat) (persisted : Set LogMetadata) (content : Option Bytes) : Prop :=
  Blank content ∨ ∀ bytes, content = some bytes → format.isText bytes = true →
    ∃ metadata ∈ persisted, format.fromStr bytes = some metadata

section Metadata

variable {codec : Codec Entry} {format : MetaFormat}

theorem openWal_ends (codec : Codec Entry) (directory : Directory) : Ends (openWal codec) directory
      (fun wal final => openFile codec directory.walBytes = some (.ok wal) ∧
        final.metaFile = directory.metaFile)
      (fun _ final => final.metaFile = directory.metaFile) := by
  apply ends_bind
  apply ends_read
  cases opened : openFile codec directory.walBytes with
  | none => exact ends_fail rfl
  | some result =>
    cases result with
    | error error => exact ends_fail rfl
    | ok wal =>
      apply ends_bind
      apply ends_call
      · exact ends_pure ⟨rfl, rfl⟩
      · intro count
        split <;> rfl

/-- A successful opening of the metadata found what loading its content finds. -/
theorem openMeta_ends (format : MetaFormat) (directory : Directory) :
    Ends (openMeta format) directory
      (fun metadata final => loadMeta format directory.metaFile.content = .ok metadata ∧
        final = directory)
      (fun _ final => final = directory) := by
  apply ends_bind
  apply ends_read
  cases found : directory.metaFile.content with
  | none => exact ends_pure ⟨rfl, rfl⟩
  | some content =>
    apply ends_bind
    apply ends_call
    · apply ends_bind
      apply ends_call
      · by_cases text : format.isText content = true
        · rw [if_pos text]
          apply ends_pure
          rw [loadMeta, if_pos text]
          exact ⟨rfl, rfl⟩
        · rw [if_neg text]
          exact ends_fail rfl
      · intro count
        rfl
    · intro count
      rfl

theorem openStore_ends (codec : Codec Entry) (format : MetaFormat) (directory : Directory) :
    Ends (openStore codec format) directory
      (fun opened _ => openFile codec directory.walBytes = some (.ok opened.2) ∧
        loadMeta format directory.metaFile.content = .ok opened.1)
      (fun _ final => final.metaFile = directory.metaFile) := by
  apply ends_bind
  apply ends_call
  · apply ends_bind
    apply (openWal_ends codec directory).mono
    · rintro wal middle ⟨opened, same⟩
      apply ends_bind
      apply (openMeta_ends format middle).mono
      · rintro metadata final ⟨loaded, -⟩
        apply ends_pure
        rw [← same]
        exact ⟨opened, loaded⟩
      · rintro error final rfl
        exact same
    · intro error final same
      exact same
  · intro count
    rfl

theorem openMeta_answered (loaded : loadMeta format directory.metaFile.content = .ok metadata) :
    openMeta format directory [] = (.ok metadata, directory, []) := by
  rw [openMeta, bind_answered rfl]
  cases found : directory.metaFile.content with
  | none =>
    rw [found] at loaded
    cases loaded
    simp only [found]
    rfl
  | some content =>
    rw [found, loadMeta] at loaded
    by_cases text : format.isText content = true
    · rw [if_pos text] at loaded
      cases loaded
      simp only [found, if_pos text]
      rfl
    · rw [if_neg text] at loaded
      cases loaded

/-- Over files that do not fail, the store opens when both files do. -/
theorem openStore_answered {wal} (opened : openFile codec directory.walBytes = some (.ok wal))
    (loaded : loadMeta format directory.metaFile.content = .ok metadata) :
    (openStore codec format directory []).1 = .ok (metadata, wal) := by
  have first : openWal codec directory [] =
      (.ok wal, { directory with walBytes := wal.file.bytes }, []) := by
    rw [openWal, bind_answered rfl, opened]
    rfl
  have second := openMeta_answered
    (show loadMeta format { directory with walBytes := wal.file.bytes }.metaFile.content = _ from
      loaded)
  rw [openStore, bind_answered rfl]
  change ((openWal codec >>= _) directory []).1 = _
  rw [bind_answered first, bind_answered second]
  rfl

/-- What opening finds in a file that is text. -/
theorem loadMeta_text {bytes} (text : format.isText bytes = true) :
    loadMeta format (some bytes) = .ok ((format.fromStr bytes).getD default) := by
  rw [loadMeta, if_pos text]

theorem metaKept_iff (persisted : Set LogMetadata) (directory : Directory)
    (unread : format.fromStr [] = none) :
    (∀ script, MetaKept format persisted directory (openStore codec format directory script)) ↔
      ((∃ wal, openFile codec directory.walBytes = some (.ok wal)) →
        Legible format persisted directory.metaFile.content) := by
  constructor
  · rintro kept ⟨wal, opened⟩
    by_contra illegible
    obtain ⟨filled, foreign⟩ := not_or.mp illegible
    apply foreign
    intro bytes found text
    have outcome := kept []
    have returned := openStore_answered opened (found ▸ loadMeta_text text)
    generalize openStore codec format directory [] = ran at outcome returned
    obtain ⟨result, after, rest⟩ := ran
    cases returned
    rcases outcome with ⟨member, content, same, read⟩ | ⟨blank, -⟩
    · cases found.symm.trans same
      exact ⟨_, member, read⟩
    · exact absurd blank filled
  · intro legible script
    have ends := openStore_ends codec format directory script
    generalize openStore codec format directory script = ran at ends
    obtain ⟨result, after, rest⟩ := ran
    cases result with
    | error error => exact ends
    | ok opened =>
      obtain ⟨wal, loaded⟩ := ends
      obtain ⟨metadata, log⟩ := opened
      rcases legible ⟨_, wal⟩ with blank | reads
      · refine .inr ⟨blank, ?_⟩
        rcases blank with missing | empty
        · rw [missing] at loaded
          cases loaded
          rfl
        · rw [empty, loadMeta, unread] at loaded
          split at loaded
          · cases loaded
            rfl
          · cases loaded
      · cases found : directory.metaFile.content with
        | none =>
          rw [found] at loaded
          cases loaded
          exact .inr ⟨.inl found, rfl⟩
        | some bytes =>
          by_cases text : format.isText bytes = true
          · obtain ⟨said, member, read⟩ := reads bytes found text
            rw [found, loadMeta_text text, read] at loaded
            cases loaded
            exact .inl ⟨member, bytes, found, read⟩
          · rw [found, loadMeta, if_neg text] at loaded
            cases loaded

end Metadata

section State

variable {format : DataFormat Membership}

/-- A replacement that stops has not renamed the new content. -/
theorem persistToDisk_ends (format : DataFormat Membership) (data : StateMachineData Membership)
    (file : ReplacedFile) : Ends (persistToDisk format data) file
      (fun _ final => final = file.replace (stateImage format data))
      (fun _ final => final.content = file.content) := by
  apply ends_bind
  apply ends_call
  · apply ends_bind
    apply ends_call
    · apply ends_bind
      apply ends_call
      · apply ends_bind
        apply ends_call
        · apply ends_bind
          apply ends_call
          · apply ends_call
            · rfl
            · intro count
              rfl
          · intro count
            rfl
        · intro count
          rfl
      · intro count
        rfl
    · intro count
      rfl
  · intro count
    rfl

/-- Content that is accepted behind its magic has the checksum of its payload. -/
theorem readChecked_ends (format : DataFormat Membership) (content : Bytes) (file : ReplacedFile) :
    Ends (readChecked format content) file
      (fun data final => final = file ∧ 8 ≤ content.length ∧
        format.crc (content.drop 8) = decodeWord ((content.drop 4).take 4) ∧
        format.deserialize (content.drop 8) = some data)
      (fun _ final => final = file) := by
  apply ends_bind
  apply ends_call
  · by_cases short : content.length < 8
    · rw [if_pos short]
      exact ends_fail rfl
    rw [if_neg short]
    apply ends_bind
    apply ends_call
    · by_cases differs : format.crc (content.drop 8) ≠ decodeWord ((content.drop 4).take 4)
      · simp only [if_pos differs]
        exact ends_fail rfl
      simp only [if_neg differs]
      cases read : format.deserialize (content.drop 8) with
      | none => exact ends_fail rfl
      | some data => exact ends_pure ⟨rfl, Nat.le_of_not_lt short, not_not.mp differs, rfl⟩
    · intro count
      rfl
  · intro count
    rfl

theorem stateImage_length (format : DataFormat Membership) (data : StateMachineData Membership) :
    (stateImage format data).length = 8 + (format.serialize data).length := by
  simp only [stateImage, length_append, encode_word_length]
  rfl

/-- Content that passes every check is an image of its payload. -/
theorem checked_image {data} (long : 8 ≤ content.length) (magic : content.take 4 = stateMagic)
    (crc : format.crc (content.drop 8) = decodeWord ((content.drop 4).take 4))
    (payload : content.drop 8 = format.serialize data) : content = stateImage format data := by
  have word : encodeWord (format.crc (content.drop 8)) = (content.drop 4).take 4 := by
    rw [crc]
    apply (encode_decode_word _ _).2
    rw [length_take, length_drop]
    omega
  calc content = content.take 4 ++ ((content.drop 4).take 4 ++ (content.drop 4).drop 4) := by
        rw [take_append_drop, take_append_drop]
    _ = stateMagic ++ (encodeWord (format.crc (content.drop 8)) ++ content.drop 8) := by
        rw [magic, word, drop_drop]
    _ = stateImage format data := by
        rw [payload, stateImage, append_assoc]

variable [Inhabited Membership]

theorem initState_ends (format : DataFormat Membership) (file : ReplacedFile) :
    Ends (initState format) file
      (fun data final => data = .default ∧ final = file.replace (stateImage format .default))
      (fun _ final => final.content = file.content) := by
  apply ends_bind
  apply (persistToDisk_ends format .default file).mono
  · intro _ final same
    exact ends_pure ⟨rfl, same⟩
  · intro error final same
    exact same

/-- What a state machine was opened from: its default in place of content that ends before the
magic does, or content that passes every check. -/
theorem openMachine_ends (format : DataFormat Membership) (file : ReplacedFile) :
    Ends (openMachine format) file
      (fun data final =>
        (data = .default ∧ final = file.replace (stateImage format .default) ∧
          ∀ content, file.content = some content → content.length < 4) ∨
        ∃ content, file.content = some content ∧ final = file ∧ 8 ≤ content.length ∧
          content.take 4 = stateMagic ∧
          format.crc (content.drop 8) = decodeWord ((content.drop 4).take 4) ∧
          format.deserialize (content.drop 8) = some data)
      (fun _ final => final.content = file.content) := by
  apply ends_bind
  apply ends_call
  · apply ends_bind
    apply ends_read
    simp only [id_eq]
    cases found : file.content with
    | none =>
      apply (initState_ends format file).mono
      · rintro data final ⟨same, replaced⟩
        exact .inl ⟨same, replaced, nofun⟩
      · intro error final same
        exact same.trans found
    | some content =>
      apply ends_bind
      apply ends_call
      · apply ends_bind
        apply ends_call
        · by_cases short : content.length < 4
          · rw [if_pos short]
            apply (initState_ends format file).mono
            · rintro data final ⟨same, replaced⟩
              refine .inl ⟨same, replaced, ?_⟩
              rintro _ ⟨⟩
              exact short
            · intro error final same
              exact same.trans found
          · rw [if_neg short]
            by_cases magic : content.take 4 ≠ stateMagic
            · rw [if_pos magic]
              exact ends_fail found
            rw [if_neg magic]
            apply (readChecked_ends format content file).mono
            · rintro data final ⟨same, checked⟩
              obtain ⟨long, crc, read⟩ := checked
              exact .inr ⟨content, rfl, same, long, not_not.mp magic, crc, read⟩
            · intro error final same
              rw [same]
              exact found
        · intro count
          exact found
      · intro count
        exact found
  · intro count
    rfl

theorem openMachine_short (format : DataFormat Membership) {file}
    (found : file.content = some content) (short : content.length < 4) :
    (openMachine format file []).1 = .ok .default := by
  rw [openMachine, bind_answered rfl, bind_answered rfl]
  change ((match file.content with
    | none => initState format
    | some content => _) file []).1 = _
  simp only [found]
  rw [bind_answered rfl, bind_answered rfl, if_pos short]
  rfl

theorem dataKept_iff (persisted : Set (StateMachineData Membership)) (file : ReplacedFile)
    (uncollided : ∀ content, file.content = some content → Uncollided format persisted content) :
    (∀ script, DataKept format persisted file (openMachine format file script)) ↔
      Blank file.content ∨ ∀ content, file.content = some content → 4 ≤ content.length := by
  constructor
  · intro kept
    by_contra damaged
    obtain ⟨filled, torn⟩ := not_or.mp damaged
    apply torn
    intro content found
    by_contra short
    have outcome := kept []
    have returned := openMachine_short format found (Nat.lt_of_not_le short)
    generalize openMachine format file [] = ran at outcome returned
    obtain ⟨result, after, rest⟩ := ran
    cases returned
    rcases outcome with ⟨-, same⟩ | ⟨blank, -⟩
    · cases found.symm.trans same
      rw [stateImage_length] at short
      omega
    · exact filled blank
  · intro whole script
    have ends := openMachine_ends format file script
    generalize openMachine format file script = ran at ends
    obtain ⟨result, after, rest⟩ := ran
    cases result with
    | error error => exact ends
    | ok data =>
      rcases ends with ⟨rfl, -, short⟩ | ⟨content, found, -, long, magic, crc, read⟩
      · refine .inr ⟨?_, rfl⟩
        rcases whole with blank | long
        · exact blank
        cases found : file.content with
        | none => exact .inl rfl
        | some content =>
          have first := short content found
          have second := long content found
          omega
      · obtain ⟨stored, member, payload⟩ := uncollided content found long magic crc
        rw [payload, format.deserialize_serialize] at read
        cases read
        refine .inl ⟨member, ?_⟩
        rw [found, checked_image long magic crc payload]

end State

/-- Opening the log store, however its calls are answered, yields what the metadata file says
and was persisted, or an error, or the default in place of a blank file, exactly if the file is
blank, is not text, or is text that parses to what was persisted. Opening the state machine does
exactly if its file is blank or at least as long as the magic. -/
theorem damaged_never_reset_iff [Inhabited Membership] (codec : Codec Entry)
    (format : MetaFormat) (dataFormat : DataFormat Membership) (directory : Directory)
    (file : ReplacedFile) (voted : Set LogMetadata) (written : Set (StateMachineData Membership))
    (unread : format.fromStr [] = none)
    (uncollided : ∀ content, file.content = some content → Uncollided dataFormat written content) :
    ((∀ script, MetaKept format voted directory (openStore codec format directory script)) ↔
      ((∃ wal, openFile codec directory.walBytes = some (.ok wal)) →
        Legible format voted directory.metaFile.content)) ∧
    ((∀ script, DataKept dataFormat written file (openMachine dataFormat file script)) ↔
      Blank file.content ∨ ∀ content, file.content = some content → 4 ≤ content.length) :=
  ⟨metaKept_iff voted directory unread, dataKept_iff written file uncollided⟩

section Runs

/-- The metadata of a node that has voted. -/
def votedOnce : LogMetadata := { vote := some ⟨2, 1, true⟩ }

/-- Files as the last persists left them are opened, whatever fails. -/
theorem intact_files_open :
    let directory : Directory := ⟨[], ⟨some (tallyFormat.toVecPretty votedOnce), none⟩⟩
    let file : ReplacedFile := ⟨some (stateImage tallyDataFormat .default), none⟩
    tallyFormat.fromStr [] = none ∧ (∀ content, file.content = some content →
        Uncollided tallyDataFormat {.default} content) ∧
      (∀ script, MetaKept tallyFormat {votedOnce} directory
        (openStore blankCodec tallyFormat directory script)) ∧
      ∀ script, DataKept tallyDataFormat {.default} file
        (openMachine tallyDataFormat file script) := by
  intro directory file
  have uncollided : ∀ content, file.content = some content →
      Uncollided tallyDataFormat {.default} content := by
    rintro _ ⟨⟩ - - -
    exact ⟨.default, rfl, rfl⟩
  have both := damaged_never_reset_iff blankCodec tallyFormat tallyDataFormat directory file
    {votedOnce} {.default} rfl uncollided
  refine ⟨rfl, uncollided, both.1.mpr ?_, both.2.mpr ?_⟩
  · rintro -
    right
    rintro _ ⟨⟩ -
    exact ⟨votedOnce, rfl, tallyFormat.fromStr_toVecPretty votedOnce⟩
  · right
    rintro _ ⟨⟩
    rw [stateImage_length]
    omega

/-- Three damaged files are opened without an error: metadata that does not parse opens as if no
vote was cast, metadata that parses to a vote of an earlier term opens with that vote, and a
state file of which three bytes of the magic are left is replaced by the default. -/
theorem damaged_files_reset :
    let opened := fun content : Bytes =>
      openStore blankCodec tallyFormat ⟨[], ⟨some content, none⟩⟩ []
    let other : LogMetadata := { vote := some ⟨1, 2, true⟩ }
    let torn : ReplacedFile := ⟨some [80, 71, 83], none⟩
    (opened [123]).1.map Prod.fst = .ok default ∧
      ¬ MetaKept tallyFormat {votedOnce} ⟨[], ⟨some [123], none⟩⟩ (opened [123]) ∧
      (opened (tallyFormat.toVecPretty other)).1.map Prod.fst = .ok other ∧ other ≠ votedOnce ∧
      openMachine tallyDataFormat torn [] =
        (.ok .default, ⟨some (stateImage tallyDataFormat .default), none⟩, []) ∧
      ¬ DataKept tallyDataFormat {.default} torn (openMachine tallyDataFormat torn []) := by
  intro opened other torn
  refine ⟨rfl, ?_, rfl, by decide, rfl, ?_⟩
  · rintro (⟨member, -⟩ | ⟨blank | blank, -⟩)
    · cases member
    all_goals cases blank
  · rintro (⟨-, same⟩ | ⟨blank | blank, -⟩)
    · have length := congrArg (fun content : Option Bytes => (content.getD []).length) same
      simp only [Option.getD_some, stateImage_length] at length
      simp only [torn, Option.getD_some, length_cons, length_nil] at length
      omega
    all_goals cases blank

end Runs

end PgVisor.StoreOpening
