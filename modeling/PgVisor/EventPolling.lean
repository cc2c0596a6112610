import PgVisor.AuditLog
import PgVisor.SidecarControl

/-!
# Events of a sidecar in the audit log of the proxy

A sidecar numbers its events from one and keeps the newest 200. The number is drawn before the
event is pushed, so events may be pushed in another order. The proxy asks for the events above
the largest number it has seen at the address, and appends what it gets. The remembered number
belongs to the address: when the sidecar process is restarted, its numbers begin anew and the
remembered one stays.

A poll takes effect when the sidecar answers it; a lost one changes nothing. Beside the parties
the observer keeps which events were pushed since the last answered poll, and which events were
pushed by a process that answered a poll later.
-/

namespace PgVisor.EventPolling

open Transitions Retention List
open Audit (AuditEventKind)
open Sidecar (SidecarEventRecord SidecarState recordEvent)

/-- The buffer of events and the counter of their numbers. -/
structure EventBuffer where
  events : List SidecarEventRecord
  eventId : Nat
deriving DecidableEq

namespace EventBuffer

/-- A process that has just started. -/
def new : EventBuffer := ⟨[], 1⟩

def capacity : Nat := 200

/-- The first part of `record_event`. -/
def draw (buffer : EventBuffer) (kind detail : String) : SidecarEventRecord × EventBuffer :=
  (⟨buffer.eventId, kind, detail⟩, { buffer with eventId := buffer.eventId + 1 })

/-- The second part of `record_event`. -/
def push (buffer : EventBuffer) (record : SidecarEventRecord) : EventBuffer :=
  { buffer with events := pushBounded capacity buffer.events record }

/-- `handle_events`. -/
def handleEvents (buffer : EventBuffer) (sinceId : Option Nat) : List SidecarEventRecord :=
  buffer.events.filter fun event => decide (sinceId.getD 0 < event.id)

/-- The buffer of a sidecar. -/
def of (state : SidecarState) : EventBuffer := ⟨state.events, state.eventId⟩

/-- `record_event` of the control model draws and then pushes; others may act in between. -/
theorem record_event_eq (kind detail : String) : recordEvent kind detail = (do
    let record ← .access fun state _ =>
      let (record, buffer) := (of state).draw kind detail
      ({ state with eventId := buffer.eventId }, record)
    .access fun state _ => ({ state with events := ((of state).push record).events }, ())) := rfl

end EventBuffer

/-- The node that answers at a control address. -/
structure Target where
  nodeId : Nat
  pgAddr : String

def auditKind (kind : String) : AuditEventKind :=
  if kind = "election_result" then .electionResult
  else if kind = "node_joined" then .nodeJoined
  else if kind = "node_left" then .nodeLeft
  else .electionResult

/-- An append to the audit log, with the process and the number of the event it is for. -/
structure Delivery where
  process : Nat
  id : Nat
  kind : AuditEventKind
  nodeId : Nat
  nodeAddress : String
  detail : String
deriving DecidableEq

def Delivery.of (target : Target) (process : Nat) (record : SidecarEventRecord) : Delivery where
  process := process
  id := record.id
  kind := auditKind record.kind
  nodeId := target.nodeId
  nodeAddress := target.pgAddr
  detail := record.detail

/-- The loop over the answered records: the largest number so far, and the appends. -/
def absorb (target : Target) (process : Nat) : Nat → List SidecarEventRecord → Nat × List Delivery
  | maxId, [] => (maxId, [])
  | maxId, record :: rest =>
    let maxId := if maxId < record.id then record.id else maxId
    let (maxId, appended) := absorb target process maxId rest
    (maxId, .of target process record :: appended)

/-- A sidecar address and the proxy that polls it. `arriving` are the events that have a number
and wait to be pushed. The observer counts the processes, and keeps the events pushed since the
last answered poll, and those whose process has answered a poll since. -/
structure System where
  process : Nat
  buffer : EventBuffer
  arriving : List SidecarEventRecord
  lastSeen : Option Nat
  audit : List Delivery
  fresh : List SidecarEventRecord
  due : List (Nat × SidecarEventRecord)

def System.start : System := ⟨0, .new, [], none, [], [], []⟩

inductive Label where
  | draw (kind detail : String)
  | push (record : SidecarEventRecord)
  | poll
  | lost
  | restart

namespace System

def draw (system : System) (kind detail : String) : System :=
  let (record, buffer) := system.buffer.draw kind detail
  { system with buffer, arriving := system.arriving ++ [record] }

def push (system : System) (record : SidecarEventRecord) : System :=
  { system with
    buffer := system.buffer.push record
    arriving := system.arriving.erase record
    fresh := system.fresh ++ [record] }

def poll (target : Target) (system : System) : System :=
  let lastId := system.lastSeen.getD 0
  let records := system.buffer.handleEvents (some lastId)
  let (maxId, appended) := absorb target system.process lastId records
  { system with
    lastSeen := some maxId
    audit := system.audit ++ appended
    fresh := []
    due := system.due ++ system.fresh.map fun record => (system.process, record) }

def restart (system : System) : System :=
  { system with process := system.process + 1, buffer := .new, arriving := [], fresh := [] }

end System

def step (target : Target) (system : System) : Label → Option System
  | .draw kind detail => some (system.draw kind detail)
  | .push record => if record ∈ system.arriving then some (system.push record) else none
  | .poll => some (system.poll target)
  | .lost => some system
  | .restart => some system.restart

/-- Every event whose process answered a poll afterwards was appended exactly once. -/
def ExactlyOnce (target : Target) (system : System) : Prop :=
  ∀ event ∈ system.due, system.audit.count (.of target event.1 event.2) = 1

/-- At most as many events as the buffer holds are pushed between two answered polls. -/
def Bounded (system : System) : Label → Prop
  | .push _ => system.fresh.length < EventBuffer.capacity
  | _ => True

/-- When a poll is answered, the events pushed since the last one have numbers above all those
delivered before, from this process or an earlier one. -/
def Numbered (system : System) : Label → Prop
  | .poll => ∀ record ∈ system.fresh, ∀ delivery ∈ system.audit, delivery.id < record.id
  | _ => True

instance (system : System) (label : Label) : Decidable (Bounded system label) :=
  match label with
  | .push _ => inferInstanceAs (Decidable (_ < _))
  | .draw _ _ | .poll | .lost | .restart => inferInstanceAs (Decidable True)

instance (system : System) (label : Label) : Decidable (Numbered system label) :=
  match label with
  | .poll => inferInstanceAs (Decidable (∀ record ∈ system.fresh, ∀ delivery ∈ system.audit, _))
  | .draw _ _ | .push _ | .lost | .restart => inferInstanceAs (Decidable True)

/-- Events are pushed in the order of their numbers, and no process is started after a
delivery. -/
def Orderly (system : System) : Label → Prop
  | .push record => system.arriving.head? = some record
  | .restart => system.audit = []
  | _ => True

/-! ## Absorbing records -/

variable {record : SidecarEventRecord} {next : System}

/-- Every record read is appended. -/
theorem absorb_appended (target : Target) (process maxId : Nat)
    (records : List SidecarEventRecord) :
    (absorb target process maxId records).2 = records.map (.of target process) := by
  induction records generalizing maxId with
  | nil => rfl
  | cons record rest ih =>
    rw [absorb, map_cons]
    exact congrArg _ (ih _)

/-- The largest number is that of a record, or the one from before. -/
theorem absorb_max (target : Target) (process maxId : Nat) (records : List SidecarEventRecord) :
    maxId ≤ (absorb target process maxId records).1 ∧
      (∀ record ∈ records, record.id ≤ (absorb target process maxId records).1) ∧
      ((absorb target process maxId records).1 = maxId ∨
        ∃ record ∈ records, (absorb target process maxId records).1 = record.id) := by
  induction records generalizing maxId with
  | nil => exact ⟨le_rfl, nofun, .inl rfl⟩
  | cons record rest ih =>
    obtain ⟨above, all, found⟩ := ih (if maxId < record.id then record.id else maxId)
    have larger : maxId ≤ (if maxId < record.id then record.id else maxId) ∧
        record.id ≤ (if maxId < record.id then record.id else maxId) := by
      split <;> omega
    refine ⟨larger.1.trans above, ?_, ?_⟩
    · intro other member
      rcases mem_cons.mp member with rfl | later
      · exact larger.2.trans above
      · exact all other later
    · rcases found with same | ⟨other, member, same⟩
      · by_cases smaller : maxId < record.id
        · rw [if_pos smaller] at same
          exact .inr ⟨record, mem_cons_self, by rw [absorb, if_pos smaller]; exact same⟩
        · rw [if_neg smaller] at same
          exact .inl (by rw [absorb, if_neg smaller]; exact same)
      · exact .inr ⟨other, mem_cons_of_mem _ member, same⟩

/-! ## The two sides -/

/-- The events this process has numbered: those due, those pushed since and those waiting. -/
def System.own (system : System) : List SidecarEventRecord :=
  (system.due.filterMap fun event => if event.1 = system.process then some event.2 else none) ++
    (system.fresh ++ system.arriving)

theorem mem_own {system : System} : record ∈ system.own ↔
    (system.process, record) ∈ system.due ∨ record ∈ system.fresh ∨ record ∈ system.arriving := by
  simp [System.own]

/-- What the two sides know of each other while every due event was delivered once. -/
structure Agrees (target : Target) (system : System) : Prop where
  /-- nothing else was appended -/
  sound : ∀ delivery ∈ system.audit, ∃ event ∈ system.due, delivery = .of target event.1 event.2
  once : ExactlyOnce target system
  /-- the remembered number is the largest delivered -/
  reached : ∀ delivery ∈ system.audit, delivery.id ≤ system.lastSeen.getD 0
  attained : system.lastSeen.getD 0 = 0 ∨
    ∃ delivery ∈ system.audit, delivery.id = system.lastSeen.getD 0
  /-- what is still in the buffer from before the last poll was delivered -/
  buffered : ∃ older, system.buffer.events = older ++ system.fresh ∧
    ∀ record ∈ older, (system.process, record) ∈ system.due
  /-- numbers of this process are drawn once -/
  past : ∀ event ∈ system.due, event.1 ≤ system.process
  drawn : ∀ record ∈ system.own, 0 < record.id ∧ record.id < system.buffer.eventId
  positive : 0 < system.buffer.eventId
  distinct : (system.own.map SidecarEventRecord.id).Nodup

theorem start_agrees (target : Target) : Agrees target .start where
  sound := nofun
  once := nofun
  reached := nofun
  attained := .inl rfl
  buffered := ⟨[], rfl, nofun⟩
  past := nofun
  drawn := nofun
  positive := Nat.one_pos
  distinct := nodup_nil

section Steps

variable {target : Target} {system : System} (agrees : Agrees target system)

include agrees

/-- Numbers are drawn once. -/
theorem Agrees.apart {other} (due : (system.process, other) ∈ system.due)
    (pushed : record ∈ system.fresh) : record.id ≠ other.id := by
  obtain ⟨-, -, apart⟩ := nodup_append.mp (map_append ▸ agrees.distinct)
  refine (apart _ (mem_map_of_mem ?_) _ (mem_map_of_mem (mem_append_left _ pushed))).symm
  simpa using due

theorem Agrees.draw (kind detail : String) :
    Agrees target (system.draw kind detail) := by
  have own : (system.draw kind detail).own =
      system.own ++ [⟨system.buffer.eventId, kind, detail⟩] := by
    simp only [System.own, append_assoc]
    rfl
  have bound : (system.draw kind detail).buffer.eventId = system.buffer.eventId + 1 := rfl
  refine { agrees with drawn := ?_, positive := Nat.succ_pos _, distinct := ?_ }
  · intro record known
    rw [own] at known
    rw [bound]
    rcases mem_append.mp known with before | new
    · have within := agrees.drawn record before
      omega
    · cases mem_singleton.mp new
      exact ⟨agrees.positive, Nat.lt_succ_self _⟩
  · rw [own, map_append]
    refine nodup_append.mpr ⟨agrees.distinct, nodup_singleton _, ?_⟩
    rintro number member _ new rfl
    obtain ⟨record, known, rfl⟩ := mem_map.mp member
    exact (agrees.drawn record known).2.ne (mem_singleton.mp new)

theorem Agrees.push
    (waiting : record ∈ system.arriving) (room : system.fresh.length < EventBuffer.capacity) :
    Agrees target (system.push record) := by
  have own : (system.push record).own.Perm system.own := by
    apply Perm.append_left
    change (system.fresh ++ [record] ++ system.arriving.erase record).Perm _
    rw [append_assoc]
    exact (perm_cons_erase waiting).symm.append_left _
  refine { agrees with buffered := ?_, drawn := ?_, distinct := ?_ }
  · obtain ⟨older, events, delivered⟩ := agrees.buffered
    obtain ⟨kept, fewer, pushed⟩ := pushBounded_recent room record
    refine ⟨kept, ?_, fun other member => delivered other (fewer.subset member)⟩
    change pushBounded _ system.buffer.events record = _
    rw [events, pushed]
    rfl
  · exact fun other known => agrees.drawn other (own.mem_iff.mp known)
  · exact (own.map _).nodup_iff.mpr agrees.distinct

theorem Agrees.restart : Agrees target system.restart := by
  have own : system.restart.own = [] := by
    apply eq_nil_iff_forall_not_mem.mpr
    intro record known
    rcases mem_own.mp known with delivered | pushed | waiting
    · exact absurd (agrees.past _ delivered) (Nat.not_succ_le_self _)
    · cases pushed
    · cases waiting
  exact
    { agrees with
      buffered := ⟨[], rfl, nofun⟩
      past := fun event member => (agrees.past event member).trans (Nat.le_succ _)
      drawn := own ▸ nofun
      positive := Nat.one_pos
      distinct := own ▸ nodup_nil }

/-- An answered poll finds the events pushed since the last one, except those whose numbers are
not above the remembered one. -/
theorem polled_records :
    system.buffer.handleEvents (some (system.lastSeen.getD 0)) =
      system.fresh.filter fun record => decide (system.lastSeen.getD 0 < record.id) := by
  obtain ⟨older, events, delivered⟩ := agrees.buffered
  have seen : older.filter (fun record => decide (system.lastSeen.getD 0 < record.id)) = [] := by
    apply filter_eq_nil_iff.mpr
    intro record member
    have counted := agrees.once _ (delivered record member)
    have appended : Delivery.of target system.process record ∈ system.audit :=
      count_pos_iff.mp (by rw [counted]; exact Nat.one_pos)
    have bound : record.id ≤ _ := agrees.reached _ appended
    simpa using bound
  rw [EventBuffer.handleEvents, Option.getD_some, events, filter_append, seen, nil_append]

/-- What a poll adds to the audit log. -/
theorem poll_audit : (system.poll target).audit = system.audit ++
      (system.fresh.filter fun record => decide (system.lastSeen.getD 0 < record.id)).map
        (.of target system.process) := by
  change system.audit ++ (absorb target system.process _ _).2 = _
  rw [absorb_appended, polled_records agrees]

/-- An event pushed since the last answered poll was not appended. -/
theorem fresh_unseen
    (pushed : record ∈ system.fresh) : Delivery.of target system.process record ∉ system.audit := by
  intro appended
  obtain ⟨⟨process, other⟩, due, same⟩ := agrees.sound _ appended
  have processes : system.process = process := congrArg Delivery.process same
  have numbers : record.id = other.id := congrArg Delivery.id same
  subst processes
  exact agrees.apart due pushed numbers

theorem poll_once_iff : ExactlyOnce target (system.poll target) ↔ Numbered system .poll := by
  constructor
  · intro once record pushed delivery appended
    have counted := once (system.process, record)
      (mem_append_right _ (mem_map_of_mem pushed))
    rw [poll_audit agrees, count_append,
      count_eq_zero_of_not_mem (fresh_unseen agrees pushed), Nat.zero_add] at counted
    have found : Delivery.of target system.process record ∈ _ :=
      count_pos_iff.mp (by rw [counted]; exact Nat.one_pos)
    obtain ⟨other, kept, same⟩ := mem_map.mp found
    have above : system.lastSeen.getD 0 < other.id := by simpa using (mem_filter.mp kept).2
    have numbers : other.id = record.id := congrArg Delivery.id same
    have bound := agrees.reached delivery appended
    omega
  · intro numbered
    have whole : (system.fresh.filter fun record =>
        decide (system.lastSeen.getD 0 < record.id)) = system.fresh := by
      apply filter_eq_self.mpr
      intro record pushed
      have drawn := agrees.drawn record (mem_own.mpr (.inr (.inl pushed)))
      rcases agrees.attained with none | ⟨delivery, appended, same⟩
      · exact decide_eq_true (by omega)
      · have smaller := numbered record pushed delivery appended
        exact decide_eq_true (by omega)
    have distinct : (system.fresh.map (Delivery.of target system.process)).Nodup := by
      apply List.Nodup.of_map Delivery.id
      rw [map_map]
      refine agrees.distinct.sublist (Sublist.map _ ?_)
      exact (sublist_append_left _ _).trans (sublist_append_right _ _)
    intro event due
    rw [poll_audit agrees, whole, count_append]
    rcases mem_append.mp due with before | new
    · rw [agrees.once event before]
      have absent : Delivery.of target event.1 event.2 ∉
          system.fresh.map (Delivery.of target system.process) := by
        intro member
        obtain ⟨record, pushed, same⟩ := mem_map.mp member
        have processes : system.process = event.1 := congrArg Delivery.process same
        have numbers : record.id = event.2.id := congrArg Delivery.id same
        exact agrees.apart (processes ▸ before) pushed numbers
      rw [count_eq_zero_of_not_mem absent]
    · obtain ⟨record, pushed, rfl⟩ := mem_map.mp new
      rw [count_eq_zero_of_not_mem (fresh_unseen agrees pushed),
        count_eq_one_of_mem distinct (mem_map_of_mem pushed)]

/-- A poll that delivered each record once keeps the agreement. -/
theorem Agrees.poll
    (once : ExactlyOnce target (system.poll target)) : Agrees target (system.poll target) := by
  obtain ⟨larger, all, found⟩ := absorb_max target system.process (system.lastSeen.getD 0)
    (system.fresh.filter fun record => decide (system.lastSeen.getD 0 < record.id))
  have remembered : (system.poll target).lastSeen.getD 0 =
      (absorb target system.process (system.lastSeen.getD 0) (system.fresh.filter fun record =>
        decide (system.lastSeen.getD 0 < record.id))).1 := by
    rw [← polled_records agrees]
    rfl
  have own : (system.poll target).own = system.own := by
    simp [System.own, System.poll, filterMap_map]
    rfl
  constructor
  case sound =>
    intro delivery appended
    rw [poll_audit agrees] at appended
    rcases mem_append.mp appended with before | new
    · obtain ⟨event, member, same⟩ := agrees.sound delivery before
      exact ⟨event, mem_append_left _ member, same⟩
    · obtain ⟨record, kept, rfl⟩ := mem_map.mp new
      exact ⟨(system.process, record),
        mem_append_right _ (mem_map_of_mem (mem_of_mem_filter kept)), rfl⟩
  case once => exact once
  case reached =>
    intro delivery appended
    rw [remembered]
    rw [poll_audit agrees] at appended
    rcases mem_append.mp appended with before | new
    · exact (agrees.reached delivery before).trans larger
    · obtain ⟨record, kept, rfl⟩ := mem_map.mp new
      exact all record kept
  case attained =>
    rw [remembered, poll_audit agrees]
    rcases found with same | ⟨record, kept, same⟩
    · rw [same]
      rcases agrees.attained with none | ⟨delivery, appended, number⟩
      · exact .inl none
      · exact .inr ⟨delivery, mem_append_left _ appended, number⟩
    · exact .inr ⟨_, mem_append_right _ (mem_map_of_mem kept), same.symm⟩
  case buffered =>
    obtain ⟨older, events, delivered⟩ := agrees.buffered
    refine ⟨system.buffer.events, (append_nil _).symm, ?_⟩
    intro record member
    rw [events] at member
    rcases mem_append.mp member with before | pushed
    · exact mem_append_left _ (delivered record before)
    · exact mem_append_right _ (mem_map_of_mem pushed)
  case past =>
    intro event member
    rcases mem_append.mp member with before | new
    · exact agrees.past event before
    · obtain ⟨record, -, rfl⟩ := mem_map.mp new
      exact le_rfl
  case drawn => exact own ▸ agrees.drawn
  case positive => exact agrees.positive
  case distinct => exact own ▸ agrees.distinct

end Steps

section Runs

variable (target : Target) {system : System}

/-- What a step makes of the property: only an answered poll can break it. -/
theorem step_once_iff (agrees : Agrees target system) (label : Label) :
    (∀ next, step target system label = some next → ExactlyOnce target next) ↔
      Numbered system label := by
  cases label with
  | poll =>
    rw [← poll_once_iff agrees]
    constructor
    · intro once
      exact once _ rfl
    · rintro once _ ⟨⟩
      exact once
  | push record =>
    refine ⟨fun _ => trivial, ?_⟩
    intro _ next moved
    obtain ⟨-, rfl⟩ := guard_holds moved
    exact agrees.once
  | draw | lost | restart =>
    refine ⟨fun _ => trivial, ?_⟩
    rintro - _ ⟨⟩
    exact agrees.once

/-- One step. -/
theorem Agrees.after (agrees : Agrees target system) (label : Label)
    (bounded : Bounded system label) (moved : step target system label = some next)
    (once : ExactlyOnce target next) : Agrees target next := by
  cases label with
  | poll =>
    cases moved
    exact agrees.poll once
  | draw kind detail =>
    cases moved
    exact agrees.draw kind detail
  | push record =>
    obtain ⟨waiting, rfl⟩ := guard_holds moved
    exact agrees.push waiting bounded
  | lost =>
    cases moved
    exact agrees
  | restart =>
    cases moved
    exact agrees.restart

/-- In an orderly run the numbers still to be delivered lie above those delivered. -/
structure Ascending (system : System) : Prop where
  increasing : ((system.fresh ++ system.arriving).map SidecarEventRecord.id).Pairwise (· < ·)
  delivered : ∀ delivery ∈ system.audit, delivery.id < system.buffer.eventId ∧
    ∀ record ∈ system.fresh ++ system.arriving, delivery.id < record.id

variable (ascending : Ascending system)

include ascending

theorem Ascending.numbered (label : Label) : Numbered system label := by
  cases label with
  | poll =>
    intro record pushed delivery appended
    exact (ascending.delivered delivery appended).2 record (mem_append_left _ pushed)
  | draw _ _ | push _ | lost | restart => trivial

theorem Ascending.draw (agrees : Agrees target system) (kind detail : String) :
    Ascending (system.draw kind detail) := by
  have listed : (system.draw kind detail).fresh ++ (system.draw kind detail).arriving =
      system.fresh ++ system.arriving ++ [⟨system.buffer.eventId, kind, detail⟩] :=
    (append_assoc _ _ _).symm
  have bound : (system.draw kind detail).buffer.eventId = system.buffer.eventId + 1 := rfl
  refine ⟨?_, ?_⟩
  · rw [listed, map_append]
    refine pairwise_append.mpr ⟨ascending.increasing, pairwise_singleton _ _, ?_⟩
    intro number member other new
    obtain ⟨record, known, rfl⟩ := mem_map.mp member
    cases mem_singleton.mp new
    exact (agrees.drawn record (mem_append_right _ known)).2
  · intro delivery appended
    obtain ⟨smaller, earlier⟩ := ascending.delivered delivery appended
    rw [bound, listed]
    refine ⟨by omega, ?_⟩
    intro record member
    rcases mem_append.mp member with before | new
    · exact earlier record before
    · cases mem_singleton.mp new
      exact smaller

theorem Ascending.push
    (first : system.arriving.head? = some record) : Ascending (system.push record) := by
  obtain ⟨rest, waiting⟩ : ∃ rest, system.arriving = record :: rest := by
    cases arriving : system.arriving with
    | nil =>
      rw [arriving] at first
      cases first
    | cons head rest =>
      rw [arriving] at first
      cases first
      exact ⟨rest, rfl⟩
  have listed : (system.push record).fresh ++ (system.push record).arriving =
      system.fresh ++ system.arriving := by
    change system.fresh ++ [record] ++ system.arriving.erase record = _
    rw [waiting, erase_cons_head, append_assoc]
    rfl
  exact ⟨listed ▸ ascending.increasing, listed ▸ ascending.delivered⟩

theorem Ascending.poll (agrees : Agrees target system) : Ascending (system.poll target) := by
  obtain ⟨-, waiting, apart⟩ := pairwise_append.mp (map_append ▸ ascending.increasing)
  refine ⟨waiting, ?_⟩
  intro delivery appended
  rw [poll_audit agrees] at appended
  rcases mem_append.mp appended with before | new
  · obtain ⟨smaller, earlier⟩ := ascending.delivered delivery before
    exact ⟨smaller, fun record member => earlier record (mem_append_right _ member)⟩
  obtain ⟨pushed, kept, rfl⟩ := mem_map.mp new
  have fresh := mem_of_mem_filter kept
  refine ⟨(agrees.drawn pushed (mem_own.mpr (.inr (.inl fresh)))).2, ?_⟩
  intro record member
  exact apart _ (mem_map_of_mem fresh) _ (mem_map_of_mem member)

/-- One orderly step. -/
theorem Ascending.after
    (agrees : Agrees target system) (label : Label) (orderly : Orderly system label)
    (moved : step target system label = some next) : Ascending next := by
  cases label with
  | poll =>
    cases moved
    exact ascending.poll target agrees
  | draw kind detail =>
    cases moved
    exact ascending.draw target agrees kind detail
  | push record =>
    obtain ⟨-, rfl⟩ := guard_holds moved
    exact ascending.push orderly
  | lost =>
    cases moved
    exact ascending
  | restart =>
    cases moved
    refine ⟨List.Pairwise.nil, ?_⟩
    intro delivery appended
    change delivery ∈ system.audit at appended
    rw [show system.audit = [] from orderly] at appended
    cases appended

omit ascending

/-- As long as no more events are pushed between answered polls than the buffer holds, every
event is appended exactly once at every point of a run exactly if, at every answered poll, the
numbers of the events pushed since the last one lie above all those delivered. They do in every
run in which events are pushed in the order of their numbers and no process is started after a
delivery. -/
theorem delivered_exactly_once_iff (labels : List Label)
    (bounded : Meets (step target) Bounded .start labels) :
    (Meets (step target) (fun system label =>
        ∀ next, step target system label = some next → ExactlyOnce target next) .start labels ↔
      Meets (step target) Numbered .start labels) ∧ (Meets (step target) Orderly .start labels →
      Meets (step target) Numbered .start labels) := by
  constructor
  · apply meets_congr_within (step target) _ _ (Agrees target) _ _
      (start_agrees target) bounded
    · intro system label next agrees bound once moved
      exact agrees.after target label bound moved (once next moved)
    · intro system label agrees _
      exact step_once_iff target agrees label
  · intro orderly
    have both := (meets_and).mpr ⟨bounded, orderly⟩
    apply meets_of_invariant (step target) _ Numbered
      (fun system => Agrees target system ∧ Ascending system) _ _ _ both
    · rintro system label next ⟨agrees, ascending⟩ ⟨bound, order⟩ moved
      have once := (step_once_iff target agrees label).mpr (ascending.numbered label)
      exact ⟨agrees.after target label bound moved (once next moved),
        ascending.after target agrees label order moved⟩
    · rintro system label ⟨-, ascending⟩ -
      exact ascending.numbered label
    · exact ⟨start_agrees target, List.Pairwise.nil, nofun⟩

end Runs

section Traces

def firstNode : Target := ⟨1, "node1:5432"⟩

def joined : SidecarEventRecord := ⟨1, "node_joined", "joined"⟩

def elected : SidecarEventRecord := ⟨2, "election_result", "elected"⟩

/-- Two events with a lost poll between them, delivered by one poll each. -/
theorem lost_poll_repeated :
    let labels : List Label :=
      [.draw "node_joined" "joined", .push joined, .lost, .poll,
        .draw "election_result" "elected", .push elected, .poll]
    Meets (step firstNode) Bounded .start labels ∧ Meets (step firstNode) (fun system label =>
        ∀ next, step firstNode system label = some next → ExactlyOnce firstNode next) .start
        labels := by
  intro labels
  have bounded : Meets (step firstNode) Bounded .start labels := by decide +kernel
  have numbered : Meets (step firstNode) Numbered .start labels := by decide +kernel
  exact ⟨bounded, (delivered_exactly_once_iff firstNode labels bounded).1.mpr numbered⟩

/-- An event of a restarted process has the number that was delivered before the restart, and an
event pushed after one with a larger number was delivered has a smaller one. Neither is ever
appended. -/
theorem events_behind_cursor_lost :
    let restarted : List Label :=
      [.draw "node_joined" "joined", .push joined, .poll, .restart,
        .draw "node_joined" "joined", .push joined, .poll]
    let overtaken : List Label :=
      [.draw "node_joined" "joined", .draw "election_result" "elected", .push elected, .poll,
        .push joined, .poll]
    Meets (step firstNode) Bounded .start restarted ∧
      (∃ final, run (step firstNode) .start restarted = some final ∧
        (1, joined) ∈ final.due ∧ final.audit.count (.of firstNode 1 joined) = 0) ∧
      Meets (step firstNode) Bounded .start overtaken ∧
      ∃ final, run (step firstNode) .start overtaken = some final ∧
        (0, joined) ∈ final.due ∧ final.audit.count (.of firstNode 0 joined) = 0 := by
  intro restarted overtaken
  refine ⟨by decide +kernel, ⟨_, rfl, ?_, ?_⟩, by decide +kernel, ⟨_, rfl, ?_, ?_⟩⟩
  all_goals decide +kernel

end Traces

end PgVisor.EventPolling
