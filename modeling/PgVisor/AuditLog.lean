import Mathlib.Data.Char
import Mathlib.Data.List.Lex
import Mathlib.Data.List.AList
import Mathlib.Data.List.Sort
import Mathlib.Data.List.Destutter
import PgVisor.Retention
import PgVisor.Text

/-!
# The audit log

The proxy keeps audit events in a ring and persists them in batch objects. An append
takes an id, waits for the ring and spawns a task; the task waits for the batch, adds its
event and writes the whole batch under the current batch id, and a batch that is full is
rotated. At start the objects of earlier runs are listed and read one after the other;
then the ring, the next id and the batch are replaced by what was found.

Appends, tasks and the loader run side by side. A step ends where the code waits or where
another party can see its effect: the ring and the batch are locked by one party at a
time, the counters are not. A write and the rotation after it are one step, as nothing
but the counters is touched between them. Counters do not overflow. The log has a storage
operator; the names of objects are file names, without the path before them. The counts
for the dashboard's header are left out.
-/

namespace PgVisor.Audit

open Text Retention

inductive AuditEventKind where
  | nodeUp
  | nodeDown
  | backupCreated
  | backupRestored
  | dangerousSql
  | electionResult
  | nodeJoined
  | nodeLeft
  | userPermission
deriving DecidableEq, Repr

def AuditEventKind.asStr : AuditEventKind → String
  | .nodeUp => "node_up"
  | .nodeDown => "node_down"
  | .backupCreated => "backup_created"
  | .backupRestored => "backup_restored"
  | .dangerousSql => "dangerous_sql"
  | .electionResult => "election_result"
  | .nodeJoined => "node_joined"
  | .nodeLeft => "node_left"
  | .userPermission => "user_permission"

/-- What an append is given, with its clock reading. -/
structure Draft where
  occurredAt : Int
  kind : AuditEventKind
  nodeId : Option Nat
  nodeAddress : Option String
  detail : String
  pitrTarget : Option String
deriving DecidableEq, Repr

structure AuditEvent extends Draft where
  id : Nat
deriving DecidableEq, Repr

/-- A stored object as the loader parses it. Objects of one event are those of older
versions. -/
inductive StoredObject where
  | batch (events : List AuditEvent)
  | single (event : AuditEvent)
  | unreadable
deriving DecidableEq

def StoredObject.events : StoredObject → List AuditEvent
  | .batch events => events
  | .single event => [event]
  | .unreadable => []

abbrev Storage := AList (fun _ : List Char => StoredObject)

/-- The event is in some stored object. -/
def Stored (storage : Storage) (event : AuditEvent) : Prop :=
  ∃ name object, storage.lookup name = some object ∧ event ∈ object.events

def maxEventsPerBatch : Nat := 100

def maxBatchBytes : Nat := 64 * 1024

def batchStart : List Char := "audit_batch_".toList

def jsonEnding : List Char := ".json".toList

/-- `audit_batch_{:08}.json` -/
def batchFile (id : Nat) : List Char := batchStart ++ (padded 8 id ++ jsonEnding)

/-- The batch id in a file name. -/
def batchIdOf (name : List Char) : Option Nat :=
  (stripPrefix batchStart name).bind fun rest => (stripSuffix jsonEnding rest).bind parseU64

theorem batchIdOf_batchFile (id : Nat) (bounded : id < 2 ^ 64) :
    batchIdOf (batchFile id) = some id := by
  simp only [batchIdOf, batchFile, stripPrefix_append, stripSuffix_append, Option.bind_some,
    parseU64_padded 8 id bounded]

/-- No batch file name is a proper end of another one: the digits end both, and before
them stands the same text, which does not end with a digit. -/
theorem batchFile_suffix_iff (first second : Nat) :
    batchFile first <:+ batchFile second ↔ first = second := by
  constructor
  · rintro ⟨before, same⟩
    have ends : batchStart = "audit_batch".toList ++ ['_'] := by decide
    have numbers : (before ++ "audit_batch".toList) ++ ['_'] ++ padded 8 first =
        "audit_batch".toList ++ ['_'] ++ padded 8 second := by
      have whole : ((before ++ batchStart) ++ padded 8 first) ++ jsonEnding =
          (batchStart ++ padded 8 second) ++ jsonEnding := by
        simpa only [batchFile, List.append_assoc] using same
      simpa only [ends, List.append_assoc] using List.append_cancel_right whole
    have starts := congrArg (trimEndMatches Char.isDigit) numbers
    rw [trimEndMatches_append _ _ _ _ rfl (isDigit_padded 8 first),
      trimEndMatches_append _ _ _ _ rfl (isDigit_padded 8 second)] at starts
    rw [starts] at numbers
    have digits := congrArg (Nat.ofDigitChars 10 · 0) (List.append_cancel_left numbers)
    simpa only [ofDigitChars_padded] using digits
  · rintro rfl
    exact List.suffix_rfl

theorem batchFile_injective : Function.Injective batchFile := by
  intro first second same
  exact (batchFile_suffix_iff first second).mp (same ▸ List.suffix_rfl)

/-- What the loader has gathered. -/
structure Found where
  loaded : List AuditEvent := []
  maxId : Nat := 0
  maxBatchId : Nat := 0
  latestBatchEvents : List AuditEvent := []

def Found.noteBatchId (found : Found) (name : List Char) : Found :=
  match batchIdOf name with
  | some id => { found with maxBatchId := max found.maxBatchId id }
  | none => found

def Found.noteObject (found : Found) (name : List Char) : StoredObject → Found
  | .batch events =>
    { loaded := found.loaded ++ events
      maxId := events.foldl (fun largest event => max largest event.id) found.maxId
      maxBatchId := found.maxBatchId
      latestBatchEvents :=
        if (batchFile found.maxBatchId).isSuffixOf name then events
        else found.latestBatchEvents }
  | .single event =>
    { found with loaded := found.loaded ++ [event], maxId := max found.maxId event.id }
  | .unreadable => found

/-- One round of the loop over the listed names; no object means that the read failed. -/
def Found.absorb (found : Found) (name : List Char) (object : Option StoredObject) : Found :=
  match object with
  | some object => (found.noteBatchId name).noteObject name object
  | none => found.noteBatchId name

/-- The loaded events by id, without repetitions, and only as many as the ring holds. -/
def restored (capacity : Nat) (loaded : List AuditEvent) : List AuditEvent :=
  let sorted := (loaded.insertionSort (fun first second => first.id ≤ second.id)).destutter
    (fun first second => first.id ≠ second.id)
  sorted.drop (sorted.length - capacity)

/-- Where the loader is: before its listing, before the read of a name with the later ones,
before it takes the ring, holding the ring, before it restores the batch, or finished. -/
inductive Loader where
  | starting
  | reading (next : List Char) (later : List (List Char)) (found : Found)
  | refilling (found : Found)
  | numbering (found : Found)
  | restoring (found : Found)
  | done (count : Nat)

def Loader.afterRing (found : Found) : Loader :=
  if 0 < found.maxBatchId then .restoring found else .done found.loaded.length

def Loader.settle (capacity : Nat) (found : Found) : Loader :=
  let found := { found with loaded := restored capacity found.loaded }
  if found.loaded.isEmpty then .afterRing found else .refilling found

/-- The names to read, in the order of their characters. -/
def listing (storage : Storage) : List (List Char) :=
  (storage.keys.filter (fun name => jsonEnding.isSuffixOf name)).insertionSort
    (fun first second => first ≤ second)

structure AuditLog where
  events : List AuditEvent
  nextId : Nat
  capacity : Nat
  currentBatch : List AuditEvent
  currentBatchId : Nat

def AuditLog.new (capacity : Nat) : AuditLog :=
  { events := [], nextId := 1, capacity, currentBatch := [], currentBatchId := 1 }

/-- The filter of a listing: the kind asked for, and a text that the detail, the kind's name
or the address contains. -/
def AuditEvent.selected (lowercase : List Char → List Char) (kind : Option AuditEventKind)
    (search : Option (List Char)) (event : AuditEvent) : Bool :=
  (match kind with
    | some target => event.kind == target
    | none => true) &&
  match search with
  | some text =>
    text.isEmpty || contains text (lowercase event.detail.toList) ||
      contains text event.kind.asStr.toList ||
      (match event.nodeAddress with
        | some address => contains text (lowercase address.toList)
        | none => false)
  | none => true

/-- A page of the events in the ring, the newest first, and how many the filter finds. -/
def AuditLog.list (lowercase : List Char → List Char) (log : AuditLog) (limit offset : Nat)
    (kind : Option AuditEventKind) (search : Option String) : List AuditEvent × Nat :=
  let searchLower := search.map fun text => lowercase (trim text.toList)
  let found := log.events.reverse.filter (AuditEvent.selected lowercase kind searchLower)
  ((found.drop offset).take limit, found.length)

/-- The log with its parties. `arriving` are the appends that have an id and wait for the
ring, `tasks` the spawned tasks that wait for the batch, and `writer` the batch id of the
task that holds the batch. `issued` and `pushed` record the events of this run. -/
structure World where
  log : AuditLog
  storage : Storage
  loader : Loader
  arriving : List AuditEvent
  tasks : List AuditEvent
  writer : Option Nat
  issued : List AuditEvent
  pushed : List AuditEvent

/-- A proxy that has just started over the storage left behind. -/
def World.start (left : Storage) (capacity : Nat) : World :=
  { log := .new capacity, storage := left, loader := .starting, arriving := [], tasks := [],
    writer := none, issued := [], pushed := [] }

/-- The result of a write. A failed one may have stored the object all the same. -/
inductive WriteReply where
  | written
  | failed (stored : Bool)
deriving DecidableEq

inductive Label where
  | issue (draft : Draft)
  | push (event : AuditEvent)
  | start (event : AuditEvent)
  | persist (reply : WriteReply)
  | load (answered : Bool)

def World.issue (world : World) (draft : Draft) : World :=
  let event : AuditEvent := { draft with id := world.log.nextId }
  { world with
    log := { world.log with nextId := world.log.nextId + 1 }
    arriving := world.arriving ++ [event]
    issued := world.issued ++ [event] }

def World.push (world : World) (event : AuditEvent) : World :=
  { world with
    log := { world.log with events := pushBounded world.log.capacity world.log.events event }
    arriving := world.arriving.erase event
    tasks := world.tasks ++ [event]
    pushed := world.pushed ++ [event] }

def World.begin (world : World) (event : AuditEvent) : World :=
  { world with
    log := { world.log with currentBatch := world.log.currentBatch ++ [event] }
    tasks := world.tasks.erase event
    writer := some world.log.currentBatchId }

/-- The batch as written under its id; its serialised size decides on the rotation. -/
def World.persist (size : List AuditEvent → Nat) (world : World) (batchId : Nat)
    (reply : WriteReply) : World :=
  let stored := world.storage.insert (batchFile batchId) (.batch world.log.currentBatch)
  match reply with
  | .failed visible =>
    { world with storage := if visible then stored else world.storage, writer := none }
  | .written =>
    let full := maxEventsPerBatch ≤ world.log.currentBatch.length ∨
      maxBatchBytes ≤ size world.log.currentBatch
    if full then
      { world with
        storage := stored
        writer := none
        log := { world.log with
          currentBatch := [], currentBatchId := world.log.currentBatchId + 1 } }
    else { world with storage := stored, writer := none }

/-- The next step of `load_from_storage`; a listing or a read may stay unanswered. -/
def World.load (world : World) (answered : Bool) : Option World :=
  match world.loader with
  | .starting =>
    match if answered then listing world.storage else [] with
    | [] => some { world with loader := .done 0 }
    | next :: later => some { world with loader := .reading next later {} }
  | .reading next later found =>
    let found := found.absorb next (if answered then world.storage.lookup next else none)
    match later with
    | [] => some { world with loader := .settle world.log.capacity found }
    | following :: rest => some { world with loader := .reading following rest found }
  | .refilling found =>
    some { world with
      log := { world.log with events := found.loaded }, loader := .numbering found }
  | .numbering found =>
    some { world with
      log := { world.log with nextId := found.maxId + 1 }, loader := .afterRing found }
  | .restoring found =>
    if found.latestBatchEvents.length < maxEventsPerBatch then
      -- the batch has to be free
      match world.writer with
      | some _ => none
      | none =>
        some { world with
          log := { world.log with
            currentBatch := found.latestBatchEvents, currentBatchId := found.maxBatchId }
          loader := .done found.loaded.length }
    else
      some { world with
        log := { world.log with currentBatchId := found.maxBatchId + 1 }
        loader := .done found.loaded.length }
  | .done _ => none

/-- The ring is locked while the loader stores the next id. -/
def Loader.holdsRing : Loader → Bool
  | .numbering _ => true
  | _ => false

def step (size : List AuditEvent → Nat) (world : World) : Label → Option World
  | .issue draft => some (world.issue draft)
  | .push event =>
    if event ∈ world.arriving ∧ world.loader.holdsRing = false then some (world.push event)
    else none
  | .start event =>
    if event ∈ world.tasks ∧ world.writer = none then some (world.begin event) else none
  | .persist reply => world.writer.map fun batchId => world.persist size batchId reply
  | .load answered => world.load answered

end PgVisor.Audit
