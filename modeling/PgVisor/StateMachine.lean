import Mathlib.Data.String.Basic
import PgVisor.LogStorage

/-!
# The replicated state machine and its file

Committed entries change key-value pairs, registered nodes and roles in memory. Every batch
ends with one replacement of the state file, which holds the magic `PGSM`, a big-endian
checksum and the serialized data. Snapshots are the serialized data together with the last
applied log id and membership, which travel beside it.

Serialization, the checksum and the display of a leader belong to other crates and are
supplied by a format; its only law is that serialized data is read back. Memberships are an
arbitrary type with a default. Input and output errors are outside this model.
-/

namespace PgVisor.ClusterState

open ByteWords OrderedIndex AtomicFile TokenCode WriteAheadLog LogStorage

inductive NodeRole where
  | leader
  | standby
  | fenced
deriving DecidableEq

structure NodeInfo where
  rpcAddr : String
  pgAddr : String
deriving DecidableEq

inductive ClusterCommand where
  | registerNode (nodeId : Nat) (info : NodeInfo)
  | updateNodeRole (nodeId : Nat) (role : NodeRole)
  | setState (key value : String)
  | deleteState (key : String)
deriving DecidableEq

inductive ClusterResponse where
  | success
  | value (previous : Option String)
  | error (message : String)
deriving DecidableEq

/-- A membership with the log id that set it. -/
structure StoredMembership (Membership : Type) where
  logId : Option LogId
  membership : Membership
deriving DecidableEq

inductive EntryPayload (Membership : Type) where
  | blank
  | normal (command : ClusterCommand)
  | membership (membership : Membership)

structure Entry (Membership : Type) where
  logId : LogId
  payload : EntryPayload Membership

structure StateMachineData (Membership : Type) where
  lastApplied : Option LogId
  lastMembership : StoredMembership Membership
  kvs : OrderedMap String String
  nodes : OrderedMap Nat NodeInfo
  roles : OrderedMap Nat NodeRole

variable {Membership : Type}

/-- Nothing applied. -/
def StateMachineData.default [Inhabited Membership] : StateMachineData Membership where
  lastApplied := none
  lastMembership := ⟨none, Inhabited.default⟩
  kvs := .empty
  nodes := .empty
  roles := .empty

/-- Serialization of the data, the checksum of a payload and the text of a leader id. -/
structure DataFormat (Membership : Type) where
  serialize : StateMachineData Membership → Bytes
  deserialize : Bytes → Option (StateMachineData Membership)
  crc : Bytes → Nat
  showLeader : LogId → String
  crc_word : ∀ payload, crc payload < 2 ^ 32
  deserialize_serialize : ∀ data, deserialize (serialize data) = some data

inductive StateError where
  | io
  | serialization
  | corruptedMagic (found : Bytes)
  | checksumMismatch (expected calculated offset : Nat)
deriving DecidableEq

/-- `PGSM`. -/
def stateMagic : Bytes := [80, 71, 83, 77]

/-- The content of the file that stores the data. -/
def stateImage (format : DataFormat Membership) (data : StateMachineData Membership) : Bytes :=
  stateMagic ++ encodeWord (format.crc (format.serialize data)) ++ format.serialize data

/-- The data in memory, and the state file with its temporary file. -/
structure StateMachine (Membership : Type) where
  data : StateMachineData Membership
  file : ReplacedFile

/-- What the content of the file says: data, or nothing when the file is missing or ends
before its magic does. -/
def load (format : DataFormat Membership) :
    Option Bytes → Except StateError (Option (StateMachineData Membership))
  | none => .ok none
  | some content =>
    if content.length < 4 then .ok none
    else if content.take 4 ≠ stateMagic then .error (.corruptedMagic (content.take 4))
    else if content.length < 8 then .error .io
    else
      let expectedCrc := decodeWord ((content.drop 4).take 4)
      let payload := content.drop 8
      let calculatedCrc := format.crc payload
      if calculatedCrc ≠ expectedCrc then
        .error (.checksumMismatch expectedCrc calculatedCrc 8)
      else
        match format.deserialize payload with
        | none => .error .serialization
        | some data => .ok (some data)

def persistToDisk (format : DataFormat Membership) (machine : StateMachine Membership) :
    StateMachine Membership :=
  { machine with file := machine.file.replace (stateImage format machine.data) }

/-- `StateMachine::open`: the stored data, or the default, which is written at once. -/
def openMachine [Inhabited Membership] (format : DataFormat Membership) (file : ReplacedFile) :
    Except StateError (StateMachine Membership) :=
  match load format file.content with
  | .error err => .error err
  | .ok (some data) => .ok ⟨data, file⟩
  | .ok none => .ok (persistToDisk format ⟨.default, file⟩)

def applyCommand (data : StateMachineData Membership) :
    ClusterCommand → StateMachineData Membership × ClusterResponse
  | .registerNode nodeId info =>
    ({ data with
      nodes := data.nodes.insert nodeId info
      roles := data.roles.insert nodeId .standby }, .success)
  | .updateNodeRole nodeId role =>
    ({ data with roles := data.roles.insert nodeId role }, .success)
  | .setState key value => ({ data with kvs := data.kvs.insert key value }, .success)
  | .deleteState key => ({ data with kvs := data.kvs.remove key }, .value (data.kvs.get key))

/-- One iteration of the loop of `apply`. -/
def applyEntry (data : StateMachineData Membership) (entry : Entry Membership) :
    StateMachineData Membership × ClusterResponse :=
  let data := { data with lastApplied := some entry.logId }
  match entry.payload with
  | .normal command => applyCommand data command
  | .membership membership =>
    ({ data with lastMembership := ⟨some entry.logId, membership⟩ }, .success)
  | .blank => (data, .success)

/-- The loop of `apply`, with the responses in order. -/
def applyEntries : StateMachineData Membership → List (Entry Membership) →
    StateMachineData Membership × List ClusterResponse
  | data, [] => (data, [])
  | data, entry :: rest =>
    let (data, response) := applyEntry data entry
    let (data, responses) := applyEntries data rest
    (data, response :: responses)

/-- A batch is applied in memory and then written once. -/
def apply (format : DataFormat Membership) (machine : StateMachine Membership)
    (entries : List (Entry Membership)) : StateMachine Membership × List ClusterResponse :=
  let (data, responses) := applyEntries machine.data entries
  (persistToDisk format { machine with data }, responses)

/-! ## Snapshots -/

structure SnapshotMeta (Membership : Type) where
  lastLogId : Option LogId
  lastMembership : StoredMembership Membership
  snapshotId : String
deriving DecidableEq

structure Snapshot (Membership : Type) where
  metadata : SnapshotMeta Membership
  snapshot : Bytes
deriving DecidableEq

/-- What a snapshot is built from, captured when the builder is obtained. -/
structure SnapshotBuilder (Membership : Type) where
  snapshotData : Bytes
  lastApplied : Option LogId
  lastMembership : StoredMembership Membership

def buildSnapshotPayload (format : DataFormat Membership) (machine : StateMachine Membership) :
    Bytes := format.serialize machine.data

/-- The leader and index of the last applied entry. -/
def snapshotId (format : DataFormat Membership) (lastApplied : LogId) : String :=
  format.showLeader lastApplied ++ "-" ++ toString lastApplied.index

def getSnapshotBuilder (format : DataFormat Membership) (machine : StateMachine Membership) :
    SnapshotBuilder Membership where
  snapshotData := buildSnapshotPayload format machine
  lastApplied := machine.data.lastApplied
  lastMembership := machine.data.lastMembership

def buildSnapshot (format : DataFormat Membership) (builder : SnapshotBuilder Membership) :
    Snapshot Membership where
  metadata :=
    { lastLogId := builder.lastApplied
      lastMembership := builder.lastMembership
      snapshotId := snapshotId format (builder.lastApplied.getD ⟨0, 0, 0⟩) }
  snapshot := builder.snapshotData

/-- There is no snapshot before the first entry is applied. -/
def getCurrentSnapshot (format : DataFormat Membership) (machine : StateMachine Membership) :
    Option (Snapshot Membership) :=
  match machine.data.lastApplied with
  | none => none
  | some lastApplied => some
      { metadata :=
          { lastLogId := some lastApplied
            lastMembership := machine.data.lastMembership
            snapshotId := snapshotId format lastApplied }
        snapshot := buildSnapshotPayload format machine }

/-- The payload is decoded before anything changes. -/
def restoreFromSnapshot (format : DataFormat Membership) (machine : StateMachine Membership)
    (payload : Bytes) : Except StateError Unit × StateMachine Membership :=
  match format.deserialize payload with
  | none => (.error .serialization, machine)
  | some data => (.ok (), persistToDisk format { machine with data })

def installSnapshot (format : DataFormat Membership) (machine : StateMachine Membership)
    (metadata : SnapshotMeta Membership) (snapshot : Bytes) :
    Except StateError Unit × StateMachine Membership :=
  match restoreFromSnapshot format machine snapshot with
  | (.error err, machine) => (.error err, machine)
  | (.ok (), machine) =>
    (.ok (), persistToDisk format { machine with
      data := { machine.data with
        lastApplied := metadata.lastLogId
        lastMembership := metadata.lastMembership } })

/-! ## What a batch does to the data -/

/-- The data after entries, responses aside. -/
def folded (data : StateMachineData Membership) (entries : List (Entry Membership)) :
    StateMachineData Membership :=
  entries.foldl (fun data entry => (applyEntry data entry).1) data

variable (data : StateMachineData Membership) (entries : List (Entry Membership))

theorem apply_entries_data : (applyEntries data entries).1 = folded data entries := by
  induction entries generalizing data with
  | nil => rfl
  | cons entry rest ih =>
    rw [applyEntries, folded, List.foldl_cons]
    exact ih _

variable (format : DataFormat Membership)

@[simp] theorem apply_data (machine : StateMachine Membership) (entries : List (Entry Membership)) :
    (apply format machine entries).1.data = folded machine.data entries :=
  apply_entries_data machine.data entries

theorem folded_append (first second : List (Entry Membership)) :
    folded data (first ++ second) = folded (folded data first) second :=
  List.foldl_append

/-- Batches of any sizes add up to their concatenation. -/
theorem apply_batches_data (machine : StateMachine Membership)
    (batches : List (List (Entry Membership))) :
    (batches.foldl (fun machine batch => (apply format machine batch).1) machine).data =
      folded machine.data batches.flatten := by
  induction batches generalizing machine with
  | nil => rfl
  | cons batch rest ih =>
    rw [List.foldl_cons, ih, apply_data, List.flatten_cons, folded_append]

@[simp] theorem apply_command_last (command : ClusterCommand) :
    (applyCommand data command).1.lastApplied = data.lastApplied := by
  cases command <;> rfl

@[simp] theorem apply_entry_last (entry : Entry Membership) :
    (applyEntry data entry).1.lastApplied = some entry.logId := by
  rw [applyEntry]
  split
  · rw [apply_command_last]
  · rfl
  · rfl

/-- The last applied log id is that of the last entry. -/
theorem folded_last : (folded data entries).lastApplied =
      (entries.getLast?.map (·.logId)).or data.lastApplied := by
  induction entries generalizing data with
  | nil => rfl
  | cons entry rest ih =>
    rw [folded, List.foldl_cons, ← folded, ih, apply_entry_last, List.getLast?_cons]
    cases rest.getLast? <;> rfl

/-! ## The file -/

theorem load_image (data : StateMachineData Membership) :
    load format (some (stateImage format data)) = .ok (some data) := by
  have long : 8 ≤ (stateImage format data).length := by
    simp [stateImage, stateMagic, encode_word_length]
  have crc : decodeWord (((stateImage format data).drop 4).take 4) =
      format.crc (format.serialize data) :=
    decode_encode_word _ (format.crc_word _)
  have magic : (stateImage format data).take 4 = stateMagic := rfl
  have payload : (stateImage format data).drop 8 = format.serialize data := rfl
  rw [load, if_neg (by omega), if_neg (by rw [magic]; exact not_not_intro rfl), if_neg (by omega)]
  simp only [crc, payload, ne_eq, not_true_eq_false, ↓reduceIte, format.deserialize_serialize]

/-! ## A format that meets the laws -/

def textCode : Code UInt8 String :=
  (byteTally.list byteTally).via
    (fun text => text.toList.map Char.toNat)
    (fun numbers => some (String.ofList (numbers.map Char.ofNat))) (by
      intro text
      have same : Char.ofNat ∘ Char.toNat = id := funext Char.ofNat_toNat
      rw [List.map_map, same, List.map_id, String.ofList_toList])

/-- The bindings of a map; unordered ones are refused. -/
def mapCode {κ ν : Type} [LinearOrder κ] (key : Code UInt8 κ) (value : Code UInt8 ν) :
    Code UInt8 (OrderedMap κ ν) :=
  ((key.pair value).list byteTally).via
    (fun index => index.entries)
    (fun bindings =>
      if increasing : bindings.Pairwise (fun first second => first.1 < second.1) then
        some ⟨bindings, increasing⟩
      else none)
    (fun index => dif_pos index.increasing)

def roleCode : Code UInt8 NodeRole :=
  byteTally.via
    (fun role => match role with
      | .leader => 0
      | .standby => 1
      | .fenced => 2)
    (fun number => match number with
      | 0 => some .leader
      | 1 => some .standby
      | 2 => some .fenced
      | _ => none)
    (fun role => by cases role <;> rfl)

def infoCode : Code UInt8 NodeInfo :=
  (textCode.pair textCode).via (fun info => (info.rpcAddr, info.pgAddr))
    (fun fields => some ⟨fields.1, fields.2⟩) (fun _ => rfl)

/-- The data with numbered memberships. -/
def dataCode : Code UInt8 (StateMachineData Nat) :=
  (((logIdCode.option byteTally).pair ((logIdCode.option byteTally).pair byteTally)).pair
    ((mapCode textCode textCode).pair
      ((mapCode byteTally infoCode).pair (mapCode byteTally roleCode)))).via
    (fun data => ((data.lastApplied, data.lastMembership.logId, data.lastMembership.membership),
      data.kvs, data.nodes, data.roles))
    (fun fields => some ⟨fields.1.1, ⟨fields.1.2.1, fields.1.2.2⟩, fields.2.1, fields.2.2.1,
      fields.2.2.2⟩)
    (fun _ => rfl)

/-- Data as tallies of its fields, with the payload length as checksum. -/
def tallyDataFormat : DataFormat Nat where
  serialize := dataCode.put
  deserialize := dataCode.read
  crc payload := payload.length % 2 ^ 32
  showLeader logId := "T" ++ toString logId.term ++ "-N" ++ toString logId.nodeId
  crc_word payload := Nat.mod_lt _ (by decide)
  deserialize_serialize := dataCode.read_put

end PgVisor.ClusterState
