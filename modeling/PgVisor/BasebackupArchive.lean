import Mathlib.Tactic.Common
import PgVisor.Text

/-!
# Base backup archives and their metadata

A base backup is a tar archive with a metadata record. The record gets its snapshot id
from the label and the start second of the backup; what PostgreSQL wrote into
`backup_label` and `PG_VERSION` is copied into it while the archive is rewritten without
`backup_label.old` and with a `metadata.json`. When no server answers, a simulated
archive with a made-up `backup_label` takes its place.

Instants are nanoseconds since the epoch, and what `chrono` makes of them is a parameter.
Tar and gzip are taken as an exact coding of the list of entries, except that reading a
foreign archive may fail; the serialised record and the length of the coded archive are
parameters.
-/

namespace PgVisor.Backup

open Text

/-- Nanoseconds since the epoch. -/
abbrev DateTime := Int

/-- The instant without its fraction of a second. -/
def wholeSecond (instant : DateTime) : DateTime := instant / 1000000000 * 1000000000

/-- The functions of `chrono` that the program calls: the reader of RFC 3339, the readers of a
layout with an offset and of a layout without one, and the writer of a layout. -/
structure Chrono where
  parseFromRfc3339 : List Char → Option DateTime
  parseFromStr : String → List Char → Option DateTime
  naiveParseFromStr : String → List Char → Option DateTime
  format : String → DateTime → List Char

/-- A layout filled in for a second of a month, for fixed runs. -/
def timeIn (year month : String) (second : Nat) : List Char → List Char
  | '%' :: 'Y' :: rest => year.toList ++ timeIn year month second rest
  | '%' :: 'm' :: rest => month.toList ++ timeIn year month second rest
  | '%' :: 'd' :: rest => padded 2 (second / 86400 + 1) ++ timeIn year month second rest
  | '%' :: 'H' :: rest => padded 2 (second / 3600 % 24) ++ timeIn year month second rest
  | '%' :: 'M' :: rest => padded 2 (second / 60 % 60) ++ timeIn year month second rest
  | '%' :: 'S' :: rest => padded 2 (second % 60) ++ timeIn year month second rest
  | c :: rest => c :: timeIn year month second rest
  | [] => []

inductive BackupType where
  | incremental
  | full
deriving DecidableEq, Repr

structure BasebackupMeta where
  snapshotId : String
  backupId : Option String := none
  createdAt : DateTime
  backupType : BackupType
  label : Option String := none
  backupStartDate : Option DateTime := none
  backupFinishDate : Option DateTime := none
  timeline : Option Nat := none
  startWal : String
  stopWal : Option String := none
  totalBytes : Nat := 0
  sourceNode : Option String := none
  startLsn : Option String := none
  checkpointLocation : Option String := none
  backupFrom : Option String := none
  pgVersion : Option String := none
deriving DecidableEq, Repr

def BasebackupMeta.new (snapshotId : String) (createdAt : DateTime) (backupType : BackupType)
    (startWal : String) (totalBytes : Nat) : BasebackupMeta :=
  { snapshotId, backupId := some snapshotId, createdAt, backupType,
    backupStartDate := some createdAt, startWal, totalBytes }

/-- Errors of the backup manager, with the reason of the library that failed. -/
inductive BackupError where
  | openDal (reason : String)
  | io (reason : String)
  | snapshotNotFound (id : String)
deriving DecidableEq, Repr

def BackupError.message : BackupError → String
  | .openDal reason => "OpenDAL error: " ++ reason
  | .io reason => "I/O error: " ++ reason
  | .snapshotNotFound id => "Basebackup snapshot " ++ id ++ " not found in storage"

/-- The layout of the time in a snapshot id. -/
def idLayout : String := "%Y%m%d-%H%M%S"

/-- The label's characters outside letters, digits, `-` and `_` become `-`. -/
def sanitized (text : List Char) : List Char :=
  text.map fun c => if c.isAlphanum || c == '-' || c == '_' then c else '-'

/-- The label in a snapshot id; an empty one counts as none. -/
def cleanLabel (label : Option String) : Option (List Char) :=
  ((label.map fun text => trim text.toList).filter (fun text => !text.isEmpty)).map sanitized

/-- `generate_snapshot_id`: the label as far as a key may hold it, and the second. -/
def generateSnapshotId (chrono : Chrono) (label : Option String) (now : DateTime) : String :=
  match cleanLabel label with
  | some clean => String.ofList (clean ++ "-snap-".toList ++ chrono.format idLayout now)
  | none => String.ofList ("snap-".toList ++ chrono.format idLayout now)

/-- Two ids are equal exactly if their labels are, the replaced characters aside, and their
times are written in the same way. -/
theorem generateSnapshotId_eq_iff (chrono : Chrono) (first second : Option String)
    {early late : DateTime}
    (width : (chrono.format idLayout early).length = (chrono.format idLayout late).length) :
    generateSnapshotId chrono first early = generateSnapshotId chrono second late ↔
      cleanLabel first = cleanLabel second ∧
        chrono.format idLayout early = chrono.format idLayout late := by
  -- a labelled id is longer than one without a label
  have longer (clean : List Char) : clean ++ "-snap-".toList ≠ "snap-".toList := by
    intro same
    simpa using congrArg List.length same
  unfold generateSnapshotId
  cases one : cleanLabel first with
  | none =>
    cases two : cleanLabel second with
    | none => simp [String.ofList_inj]
    | some clean =>
      simp only [String.ofList_inj, reduceCtorEq, false_and, iff_false]
      intro same
      exact longer clean (List.append_inj_left' same width).symm
  | some clean =>
    cases two : cleanLabel second with
    | none =>
      simp only [String.ofList_inj, reduceCtorEq, false_and, iff_false]
      intro same
      exact longer clean (List.append_inj_left' same width)
    | some other =>
      simp only [String.ofList_inj, Option.some.injEq]
      constructor
      · intro same
        obtain ⟨starts, times⟩ := List.append_inj' same width
        exact ⟨List.append_cancel_right starts, times⟩
      · rintro ⟨rfl, times⟩
        rw [times]

structure ParsedBackupLabel where
  startLsn : Option String := none
  startWalFile : Option String := none
  checkpointLocation : Option String := none
  backupMethod : Option String := none
  backupFrom : Option String := none
  startTime : Option String := none
  label : Option String := none
  timeline : Option Nat := none
deriving DecidableEq, Repr

/-- A trimmed piece of text as a field value. -/
def field (text : List Char) : Option String := some (String.ofList (trim text))

/-- `0/3000028 (file 000000010000000000000003)` -/
def parseStartLocation (parsed : ParsedBackupLabel) (value : List Char) : ParsedBackupLabel :=
  match splitOnce "(file ".toList value with
  | none => { parsed with startLsn := some (String.ofList value) }
  | some (lsn, walPart) =>
    match splitOnce [')'] walPart with
    | none => { parsed with startLsn := field lsn }
    | some (file, _) => { parsed with startLsn := field lsn, startWalFile := field file }

def parseLabelLine (parsed : ParsedBackupLabel) (line : List Char) : ParsedBackupLabel :=
  let line := trim line
  if let some value := stripPrefix "START WAL LOCATION:".toList line then
    parseStartLocation parsed (trim value)
  else if let some value := stripPrefix "CHECKPOINT LOCATION:".toList line then
    { parsed with checkpointLocation := field value }
  else if let some value := stripPrefix "BACKUP METHOD:".toList line then
    { parsed with backupMethod := field value }
  else if let some value := stripPrefix "BACKUP FROM:".toList line then
    { parsed with backupFrom := field value }
  else if let some value := stripPrefix "START TIME:".toList line then
    { parsed with startTime := field value }
  else if let some value := stripPrefix "LABEL:".toList line then
    { parsed with label := field value }
  else if let some value := stripPrefix "START TIMELINE:".toList line then
    match parseU64 (trim value) with
    | some timeline => { parsed with timeline := some timeline }
    | none => parsed
  else parsed

def parseBackupLabel (content : String) : ParsedBackupLabel :=
  (lines content.toList).foldl parseLabelLine {}

/-- File content, as far as reading it as text can tell. -/
inductive Content where
  | text (content : String)
  | binary (bytes : List UInt8)
deriving DecidableEq

structure TarEntry where
  path : String
  content : Content
deriving DecidableEq

/-- The functions of `chrono`, the serialisation of a record and the length of a coded
archive. -/
structure Codec where
  chrono : Chrono
  json : BasebackupMeta → String
  size : List TarEntry → Nat

/-- The file name at the root of the archive or below a directory. -/
def named (name path : String) : Bool :=
  path == name || ("/" ++ name).toList.isSuffixOf path.toList

def readToString : Content → Except BackupError String
  | .text content => .ok content
  | .binary _ => .error (.io "stream did not contain valid UTF-8")

/-- Fields of the label that are present replace those of the record. -/
def BasebackupMeta.withBackupLabel (record : BasebackupMeta) (parsed : ParsedBackupLabel) :
    BasebackupMeta :=
  { record with
    timeline := parsed.timeline <|> record.timeline
    startWal := parsed.startWalFile.getD record.startWal
    startLsn := parsed.startLsn <|> record.startLsn
    checkpointLocation := parsed.checkpointLocation <|> record.checkpointLocation
    backupFrom := parsed.backupFrom <|> record.backupFrom }

/-- An entry is read as text, noted in the record and copied. -/
def noteEntry (written : List TarEntry) (entry : TarEntry) (note : String → BasebackupMeta) :
    Except BackupError (List TarEntry × BasebackupMeta) := do
  let content ← readToString entry.content
  return (written ++ [entry], note content)

/-- One round of the loop over the entries of the input. -/
def processEntry (state : List TarEntry × BasebackupMeta) (entry : TarEntry) :
    Except BackupError (List TarEntry × BasebackupMeta) :=
  let (written, record) := state
  if named "backup_label.old" entry.path then .ok (written, record)
  else if named "backup_label" entry.path then
    noteEntry written entry fun content => record.withBackupLabel (parseBackupLabel content)
  else if named "PG_VERSION" entry.path then
    noteEntry written entry fun content => { record with pgVersion := field content.toList }
  else .ok (written ++ [entry], record)

def processBasebackupArchive (codec : Codec) (entries : List TarEntry) (record : BasebackupMeta) :
    Except BackupError (List TarEntry × BasebackupMeta) := do
  let (written, record) ←
    entries.foldlM processEntry ([], { record with backupId := some record.snapshotId })
  return (written ++ [⟨"metadata.json", .text (codec.json record)⟩], record)

def simulatedLabel (chrono : Chrono) (record : BasebackupMeta) : String :=
  "START WAL LOCATION: 0/3000028 (file " ++ record.startWal ++
    ")\nCHECKPOINT LOCATION: 0/3000080\nBACKUP METHOD: simulated\nBACKUP FROM: " ++
    record.sourceNode.getD "primary" ++ "\nSTART TIME: " ++
    String.ofList (chrono.format "%Y-%m-%d %H:%M:%S GMT" record.createdAt) ++ "\nLABEL: " ++
    record.label.getD "simulated backup" ++ "\nSTART TIMELINE: " ++
    String.ofList (Nat.toDigits 10 (record.timeline.getD 1)) ++ "\n"

def createSimulatedBasebackup (codec : Codec) (record : BasebackupMeta) :
    List TarEntry × BasebackupMeta :=
  let record := { record with backupId := some record.snapshotId }
  ([⟨"backup_label", .text (simulatedLabel codec.chrono record)⟩,
    ⟨"metadata.json", .text (codec.json record)⟩], record)

/-- Two records of one snapshot: equal in what names it and what orders it. -/
def SameSnapshot (first second : BasebackupMeta) : Prop :=
  first.snapshotId = second.snapshotId ∧ first.createdAt = second.createdAt

/-- Two records of one run of `pg_basebackup`, which ended when they say. -/
def SameRun (first second : BasebackupMeta) : Prop :=
  SameSnapshot first second ∧ first.backupFinishDate = second.backupFinishDate

theorem SameRun.refl (record : BasebackupMeta) : SameRun record record := ⟨⟨rfl, rfl⟩, rfl⟩

theorem SameRun.trans {first second third} (early : SameRun first second)
    (late : SameRun second third) : SameRun first third :=
  ⟨⟨early.1.1.trans late.1.1, early.1.2.trans late.1.2⟩, early.2.trans late.2⟩

variable {entry : TarEntry} {result : List TarEntry × BasebackupMeta}

theorem noteEntry_ok {written note} (noted : noteEntry written entry note = .ok result) :
    ∃ content, result = (written ++ [entry], note content) := by
  unfold noteEntry at noted
  cases read : readToString entry.content with
  | error reason =>
    rw [read] at noted
    cases noted
  | ok content =>
    rw [read] at noted
    cases noted
    exact ⟨content, rfl⟩

theorem processEntry_sameRun {state}
    (processed : processEntry state entry = .ok result) : SameRun result.2 state.2 := by
  obtain ⟨written, record⟩ := state
  simp only [processEntry] at processed
  split at processed
  · cases processed
    exact .refl record
  split at processed
  · obtain ⟨content, rfl⟩ := noteEntry_ok processed
    exact .refl record
  split at processed
  · obtain ⟨content, rfl⟩ := noteEntry_ok processed
    exact .refl record
  · cases processed
    exact .refl record

theorem processEntries_sameRun (entries : List TarEntry) {state}
    (processed : entries.foldlM processEntry state = .ok result) : SameRun result.2 state.2 := by
  induction entries generalizing state with
  | nil =>
    cases processed
    exact .refl _
  | cons entry rest ih =>
    rw [List.foldlM_cons] at processed
    cases first : processEntry state entry with
    | error reason =>
      rw [first] at processed
      cases processed
    | ok next =>
      rw [first] at processed
      exact (ih processed).trans (processEntry_sameRun first)

/-- Whatever the archive holds, its record keeps its id and its times. -/
theorem processed_sameRun {codec entries record}
    (processed : processBasebackupArchive codec entries record = .ok result) :
    SameRun result.2 record := by
  unfold processBasebackupArchive at processed
  cases folded : entries.foldlM processEntry
      ([], { record with backupId := some record.snapshotId }) with
  | error reason =>
    rw [folded] at processed
    cases processed
  | ok state =>
    rw [folded] at processed
    cases processed
    exact processEntries_sameRun entries folded

end PgVisor.Backup
