import PgVisor.ClusterRestore
import PgVisor.TargetTimes

/-!
# Targets in the future

A recovery target more than ten seconds ahead is refused by three components, each with its
own reader: the dashboard when the target is typed in, the proxy before it sends a request to
any node, and the sidecar before it touches its server. The proxy and the sidecar read fewer
forms than the dashboard, and they pass over a text that they cannot read. So a future target
in another form goes through, the dashboard's own written form among them, and on such a text
the three agree only if the dashboard accepts it.
-/

namespace PgVisor.Cluster

open AwaitTasks Sidecar Text Backup

/-- The service with the date functions of `chrono`. -/
def chronoService (chrono : Chrono) (service : BackupService) : BackupService :=
  { service with
    parseTarget := fun text => checkedTarget chrono text.toList
    formatUtc := fun instant => String.ofList (utcTime chrono instant) }

/-- The sidecar with the date functions of `chrono`. -/
def chronoSetup (chrono : Chrono) (setup : Setup) : Setup :=
  { setup with
    parseTarget := fun text => checkedTarget chrono text.toList
    formatUtc := fun instant => String.ofList (utcTime chrono instant) }

/-- The text is in one of the two forms that the proxy and the sidecar read. -/
def Checked (chrono : Chrono) (text : String) : Prop :=
  (chrono.parseFromRfc3339 (trim text.toList)).isSome = true ∨
    (chrono.naiveParseFromStr plainLayout (trim text.toList)).isSome = true

/-- The text is a form of an instant more than ten seconds ahead: one that the dashboard reads,
or the one that it writes. -/
def Future (chrono : Chrono) (now : DateTime) (text : String) : Prop :=
  ∃ instant, now + 10 * 10 ^ 9 < instant ∧
    (readTarget chrono (trim text.toList) = some instant ∨
      text = String.ofList (utcTime chrono instant))

/-- The checks read the text as an instant more than ten seconds ahead. -/
def Ahead (chrono : Chrono) (text : String) (now : DateTime) : Prop :=
  ∃ instant, checkedTarget chrono (trim text.toList) = some instant ∧ now + 10 * 10 ^ 9 < instant

variable {chrono : Chrono} {text : String} {now instant : DateTime}

/-- Both checks are made on the texts that are in one of the forms. -/
theorem checked_iff : Checked chrono text ↔
    ∃ instant, checkedTarget chrono (trim text.toList) = some instant := by
  rw [← Option.isSome_iff_exists, checkedTarget, Option.isSome_or, Bool.or_eq_true]
  rfl

theorem Ahead.checked (ahead : Ahead chrono text now) : Checked chrono text := by
  obtain ⟨instant, read, -⟩ := ahead
  exact checked_iff.mpr ⟨instant, read⟩

section Forms

variable (conforms : chrono.Conforms)
include conforms

/-- A text that the dashboard reads is not blank. -/
theorem trim_ne_nil_of_read (read : readTarget chrono (trim text.toList) = some instant) :
    trim text.toList ≠ [] := by
  intro empty
  rw [empty] at read
  have unread : ¬ chrono.Reads [] := by
    intro reads
    obtain ⟨c, first, -⟩ := conforms.starts _ reads
    cases first
  rcases reads_of_readTarget read with plain | filled
  · exact unread plain
  · exact unread filled

/-- A text that is read as ahead is not blank. -/
theorem Ahead.read (ahead : Ahead chrono text now) :
    ∃ instant, trim text.toList ≠ [] ∧ checkedTarget chrono (trim text.toList) = some instant ∧
      now + 10 * 10 ^ 9 < instant := by
  obtain ⟨instant, read, future⟩ := ahead
  have whole := readTarget_of_checkedTarget conforms read
  exact ⟨instant, trim_ne_nil_of_read conforms whole, read, future⟩

/-- A written target is in neither of the forms. -/
theorem utcTime_not_checked (instant : DateTime) :
    ¬ Checked chrono (String.ofList (utcTime chrono instant)) := by
  intro checked
  obtain ⟨other, read⟩ := checked_iff.mp checked
  rw [String.toList_ofList, checkedTarget_utcTime conforms] at read
  cases read

/-- A form of a future instant is read as such if it is one of the two. -/
theorem ahead_iff_checked (future : Future chrono now text) :
    Ahead chrono text now ↔ Checked chrono text := by
  refine ⟨Ahead.checked, ?_⟩
  intro checked
  obtain ⟨parsed, found⟩ := checked_iff.mp checked
  obtain ⟨instant, later, whole | rfl⟩ := future
  · rw [readTarget_of_checkedTarget conforms found] at whole
    cases whole
    exact ⟨parsed, found, later⟩
  · exact absurd checked (utcTime_not_checked conforms instant)

/-- The dashboard accepts what it reads as an instant that is not ahead. -/
theorem dashboard_accepts_iff : (∃ parsed, parseTargetTimestamp chrono now text = .ok parsed) ↔
      ∃ parsed, readTarget chrono (trim text.toList) = some parsed ∧
        parsed ≤ now + 10 * 10 ^ 9 := by
  constructor
  · rintro ⟨parsed, accepted⟩
    exact ⟨parsed, (parseTargetTimestamp_ok_iff.mp accepted).2⟩
  · rintro ⟨parsed, read, past⟩
    have written := trim_ne_nil_of_read conforms read
    exact ⟨parsed, parseTargetTimestamp_ok_iff.mpr ⟨written, read, past⟩⟩

/-- The dashboard accepts exactly the texts that are not read as ahead, where the text is in one
of the two forms or the dashboard accepts it. -/
theorem accepts_iff_not_ahead :
    ((∃ parsed, parseTargetTimestamp chrono now text = .ok parsed) ↔ ¬ Ahead chrono text now) ↔
      Checked chrono text ∨ ∃ parsed, readTarget chrono (trim text.toList) = some parsed ∧
        parsed ≤ now + 10 * 10 ^ 9 := by
  rw [dashboard_accepts_iff conforms]
  by_cases checked : Checked chrono text
  · obtain ⟨parsed, read⟩ := checked_iff.mp checked
    simp only [Ahead, read, readTarget_of_checkedTarget conforms read, checked, Option.some.injEq,
      exists_eq_left', Int.not_lt, true_or]
  · have passes : ¬ Ahead chrono text now := fun ahead => checked ahead.checked
    simp only [passes, not_false_eq_true, iff_true, checked, false_or]

end Forms

variable (service : BackupService)

theorem chronoService_parse (text : List Char) :
    (chronoService chrono service).parseTarget (String.ofList text) =
      checkedTarget chrono text := by
  have same : (chronoService chrono service).parseTarget (String.ofList text) =
      checkedTarget chrono (String.ofList text).toList := rfl
  rw [same, String.toList_ofList]

theorem chronoSetup_parse (setup : Setup) (text : List Char) :
    (chronoSetup chrono setup).parseTarget (String.ofList text) = checkedTarget chrono text := by
  have same : (chronoSetup chrono setup).parseTarget (String.ofList text) =
      checkedTarget chrono (String.ofList text).toList := rfl
  rw [same, String.toList_ofList]

/-! ### The check of the proxy -/

theorem refuseFuture_ahead (conforms : chrono.Conforms) (ahead : Ahead chrono text now) :
    ∃ message, (chronoService chrono service).refuseFuture (some text) now = some message := by
  obtain ⟨instant, written, read, future⟩ := ahead.read conforms
  dsimp only [BackupService.refuseFuture]
  rw [if_neg written, chronoService_parse, read]
  dsimp only
  rw [if_pos future]
  exact ⟨_, rfl⟩

theorem refuseFuture_passes (passes : ¬ Ahead chrono text now) :
    (chronoService chrono service).refuseFuture (some text) now = none := by
  dsimp only [BackupService.refuseFuture]
  rw [chronoService_parse]
  split
  · rfl
  cases read : checkedTarget chrono (trim text.toList) with
  | none => rfl
  | some instant =>
    dsimp only
    rw [if_neg fun future => passes ⟨instant, read, future⟩]

/-- A refused restore leaves all as it was; any other goes on to the nodes. -/
theorem restoreBackupInner_exec (deployment : Deployment) (service : BackupService)
    (id : String) (target : Option String) (call : Call) (wires : Nat → Wire) :
    (restoreBackupInner deployment service id target).exec call wires =
      match service.refuseFuture target (wires 0).outcome.now with
      | some message => (call, .error message)
      | none => (restoreCluster deployment service (service.leaderHost call.leaderAddr)
          (service.standbyUrls call.leaderAddr call.standbyAddrs) id target).exec call
            fun n => wires (n + 2) := by
  unfold restoreBackupInner
  rw [Async.exec_access]
  cases service.refuseFuture target (wires 0).outcome.now with
  | some message | none => rfl

/-! ### The check of the sidecar -/

section Node

variable (setup : Setup) {text : String} (state : SidecarState) {outcomes : Nat → Outcome}

theorem refuseTarget_ahead (conforms : chrono.Conforms)
    (ahead : Ahead chrono text (outcomes 0).now) :
    ∃ target now, (refuseTarget (chronoSetup chrono setup) (some text)).exec state outcomes =
      (state, some (.targetInFuture target now)) := by
  obtain ⟨instant, written, read, future⟩ := ahead.read conforms
  unfold refuseTarget
  rw [Async.exec_access]
  dsimp only
  rw [if_neg written, chronoSetup_parse, read]
  dsimp only
  rw [if_pos future]
  exact ⟨_, _, rfl⟩

theorem refuseTarget_passes (passes : ¬ Ahead chrono text (outcomes 0).now) :
    (refuseTarget (chronoSetup chrono setup) (some text)).exec state outcomes = (state, none) := by
  unfold refuseTarget
  rw [Async.exec_access]
  dsimp only
  rw [chronoSetup_parse]
  split
  · rfl
  cases read : checkedTarget chrono (trim text.toList) with
  | none => rfl
  | some instant =>
    dsimp only
    rw [if_neg fun future => passes ⟨instant, read, future⟩]
    rfl

theorem handleRestore_refused (id : String) {target err}
    (refused : (refuseTarget setup target).exec state outcomes = (state, some err)) :
    (handleRestore setup id target).exec state outcomes = (state, .error err) := by
  have checked : (refuseTarget setup target).Runs state outcomes
      fun result later _ => (later, result) = (state, some err) := Async.runs_exec.mpr refused
  have ended : (handleRestore setup id target).Runs state outcomes
      fun result later _ => (later, result) = (state, .error err) := by
    apply checked.andThen
    rintro _ _ _ ⟨⟩
    rfl
  exact Async.runs_exec.mp ended

end Node

/-! ### The three checks -/

/-- The checks of the proxy and of the sidecar both refuse the target. -/
def Rejected (chrono : Chrono) (service : BackupService) (setup : Setup) (text : String)
    (now : DateTime) (state : SidecarState) (outcomes : Nat → Outcome) : Prop :=
  (∃ message, (chronoService chrono service).refuseFuture (some text) now = some message) ∧
    ∃ err, (refuseTarget (chronoSetup chrono setup) (some text)).exec state outcomes =
      (state, some err)

/-- All three validators accept the target, or all three refuse it. -/
def Agree (chrono : Chrono) (service : BackupService) (setup : Setup) (text : String)
    (now : DateTime) (state : SidecarState) (outcomes : Nat → Outcome) : Prop :=
  ((∃ parsed, parseTargetTimestamp chrono now text = .ok parsed) ↔
      (chronoService chrono service).refuseFuture (some text) now = none) ∧
    ((∃ parsed, parseTargetTimestamp chrono now text = .ok parsed) ↔
      (refuseTarget (chronoSetup chrono setup) (some text)).exec state outcomes = (state, none))

section Checks

variable (conforms : chrono.Conforms) (setup : Setup) (state : SidecarState)
variable {outcomes : Nat → Outcome} (clock : (outcomes 0).now = now)
include conforms

theorem refuseFuture_none_iff :
    (chronoService chrono service).refuseFuture (some text) now = none ↔
      ¬ Ahead chrono text now := by
  refine ⟨?_, refuseFuture_passes service⟩
  intro passed ahead
  obtain ⟨message, refused⟩ := refuseFuture_ahead service conforms ahead
  rw [passed] at refused
  cases refused

include clock

theorem refuseTarget_none_iff :
    (refuseTarget (chronoSetup chrono setup) (some text)).exec state outcomes = (state, none) ↔
      ¬ Ahead chrono text now := by
  subst clock
  refine ⟨?_, refuseTarget_passes setup state⟩
  intro passed ahead
  obtain ⟨target, stamp, refused⟩ := refuseTarget_ahead setup state conforms ahead
  rw [passed] at refused
  cases refused

/-- The checks refuse what they read as ahead. -/
theorem rejected_iff : Rejected chrono service setup text now state outcomes ↔
    Ahead chrono text now := by
  constructor
  · rintro ⟨⟨message, refused⟩, -⟩
    by_contra passes
    rw [refuseFuture_passes service passes] at refused
    cases refused
  · intro ahead
    refine ⟨refuseFuture_ahead service conforms ahead, ?_⟩
    rw [← clock] at ahead
    obtain ⟨target, stamp, refused⟩ := refuseTarget_ahead setup state conforms ahead
    exact ⟨_, refused⟩

end Checks

/-- The checks of the proxy and of the sidecar refuse a form of a future instant exactly if it
is one of the two that they read, RFC 3339 and the plain one; the written form never is. What
they refuse leaves all as it was, and any other restore goes on as if there were no check. The
three validators agree exactly on the texts in one of the two forms and those that the
dashboard reads as an instant which is not ahead. -/
theorem future_targets_refused_iff (chrono : Chrono) (conforms : chrono.Conforms)
    (deployment : Deployment) (service : BackupService) (setup : Setup) (id text : String)
    (world : ClusterWorld) (wires : Nat → Wire) (state : SidecarState) (outcomes : Nat → Outcome)
    (now : DateTime) (proxyClock : (wires 0).outcome.now = now)
    (nodeClock : (outcomes 0).now = now) :
    let proxy := chronoService chrono service
    let call := Call.begin world
    (Future chrono now text →
      (Rejected chrono service setup text now state outcomes ↔ Checked chrono text)) ∧
    (∀ instant, ¬ Checked chrono (String.ofList (utcTime chrono instant))) ∧
    (Rejected chrono service setup text now state outcomes →
      (∃ message, (restoreBackupInner deployment proxy id (some text)).exec call wires =
        (call, .error message)) ∧
      ∃ err, (handleRestore (chronoSetup chrono setup) id (some text)).exec state outcomes =
        (state, .error err)) ∧
    (¬ Rejected chrono service setup text now state outcomes →
      (restoreBackupInner deployment proxy id (some text)).exec call wires =
        (restoreCluster deployment proxy (proxy.leaderHost call.leaderAddr)
          (proxy.standbyUrls call.leaderAddr call.standbyAddrs) id (some text)).exec call
            (fun n => wires (n + 2)) ∧
      (refuseTarget (chronoSetup chrono setup) (some text)).exec state outcomes = (state, none)) ∧
    (Agree chrono service setup text now state outcomes ↔
      Checked chrono text ∨ ∃ parsed, readTarget chrono (trim text.toList) = some parsed ∧
        parsed ≤ now + 10 * 10 ^ 9) := by
  intro proxy call
  have rejected : Rejected chrono service setup text now state outcomes ↔
      Ahead chrono text now := rejected_iff service conforms setup state nodeClock
  refine ⟨?_, utcTime_not_checked conforms, ?_, ?_, ?_⟩
  · intro future
    rw [rejected]
    exact ahead_iff_checked conforms future
  · rintro ⟨⟨message, refused⟩, err, stopped⟩
    refine ⟨⟨message, ?_⟩, err, handleRestore_refused _ state id stopped⟩
    rw [restoreBackupInner_exec, proxyClock, refused]
  · intro passes
    rw [rejected] at passes
    refine ⟨?_, (refuseTarget_none_iff conforms setup state nodeClock).mpr passes⟩
    rw [restoreBackupInner_exec, proxyClock, refuseFuture_passes service passes]
  · rw [Agree, refuseFuture_none_iff service conforms,
      refuseTarget_none_iff conforms setup state nodeClock, and_self]
    exact accepts_iff_not_ahead conforms

/-! ### A leader and a standby -/

/-- Two nodes, known to the proxy by their addresses. -/
def twoNodes : Deployment where
  setup place := { loneSetup with nodeId := place }
  reaches url :=
    if url = "http://pgvisor-node1:8080" then some 1
    else if url = "http://pgvisor-node2:8080" then some 2
    else none
  hasAuditLog := false
  errorBody := id
  unauthorizedBody := "Unauthorized"

/-- Node 1 leads, and the others are standbys. -/
def firstLeads : ClusterWorld where
  nodes place := if place = 1 then servingLeader else { servingLeader with role := .standby }
  leaderAddr := some "pgvisor-node1:5432"
  standbyAddrs := ["pgvisor-node2:5432"]
  pool := .new 10
  audit := []

/-- The service beside two nodes. -/
def twoNodesService : BackupService where
  configuredLeader := none
  configuredStandbys := ["pgvisor-node2:5432"]
  controlPort := 8080
  hasPool := false
  parseTarget _ := none
  formatUtc _ := ""

/-- An archive that can be extracted. -/
def soundArchive : Sidecar.TarArchive where
  bytes := ""
  members := some [({ entry := "PG_VERSION" }, "16")]

/-- Everything succeeds, and the archive is sound. -/
def reachable (_ : Nat) : Wire := { outcome := { snapshot := .ok soundArchive } }

/-- The readers on three forms of a new year's day to come, and the writer in its month. -/
def newYearChrono : Chrono where
  parseFromRfc3339 _ := none
  parseFromStr layout text :=
    if layout = offsetLayout ∧ text = "2030-01-01 00:00:00 +0000".toList then
      some 1893456000000000000
    else none
  naiveParseFromStr layout text :=
    if layout ∈ [fractionLayout, plainLayout] ∧ text = "2030-01-01 00:00:00".toList then
      some 1893456000000000000
    else if layout = fractionLayout ∧ text = "2030-01-01 00:00:00.5".toList then
      some 1893456000500000000
    else none
  format layout instant :=
    timeIn "2030" "01" (instant / 1000000000 - 1893456000).toNat layout.toList

/-- A text that these readers read is one of the three. -/
theorem newYear_reads {text : List Char} (reads : newYearChrono.Reads text) :
    text ∈ ["2030-01-01 00:00:00 +0000".toList, "2030-01-01 00:00:00".toList,
      "2030-01-01 00:00:00.5".toList] := by
  simp only [Chrono.Reads, newYearChrono, Option.isSome_none, Bool.false_eq_true, false_or] at reads
  rcases reads with zoned | ⟨layout, -, plain⟩
  · split at zoned
    · rename_i one
      simp [one.2]
    · cases zoned
  · split at plain
    · rename_i one
      simp [one.2]
    split at plain
    · rename_i one
      simp [one.2]
    · cases plain

/-- Only one of them is in the plain form. -/
theorem newYear_plain {text : List Char} {instant : DateTime}
    (read : newYearChrono.naiveParseFromStr plainLayout text = some instant) :
    text = "2030-01-01 00:00:00".toList ∧ instant = 1893456000000000000 := by
  simp only [newYearChrono] at read
  split at read
  · rename_i one
    exact ⟨one.2, (Option.some.inj read).symm⟩
  split at read
  · rename_i other
    exact absurd other.1 (by decide)
  · cases read

theorem newYear_conforms : newYearChrono.Conforms where
  starts text reads := by
    have all : ["2030-01-01 00:00:00 +0000".toList, "2030-01-01 00:00:00".toList,
        "2030-01-01 00:00:00.5".toList].all (fun text => text.head?.any startsTime) = true := by
      decide
    exact (Option.any_eq_true _ _).mp (List.all_eq_true.mp all text (newYear_reads reads))
  ends text reads := by
    have all : ["2030-01-01 00:00:00 +0000".toList, "2030-01-01 00:00:00".toList,
        "2030-01-01 00:00:00.5".toList].all (fun text => text.getLast?.any endsTime) = true := by
      decide
    exact (Option.any_eq_true _ _).mp (List.all_eq_true.mp all text (newYear_reads reads))
  literal instant := timeIn_utcLayout _ _ _
  offset text instant read := by
    obtain ⟨rfl, rfl⟩ := newYear_plain read
    decide +kernel
  fraction text instant read := by
    obtain ⟨rfl, rfl⟩ := newYear_plain read
    decide +kernel
  filled text instant read := by
    obtain ⟨rfl, rfl⟩ := newYear_plain read
    decide +kernel

/-- The day in the plain form is refused. -/
theorem plain_future_refused :
    ∃ message, (restoreBackupInner twoNodes (chronoService newYearChrono twoNodesService) "base"
      (some "2030-01-01 00:00:00")).exec (.begin firstLeads) reachable =
        (.begin firstLeads, .error message) := by
  obtain ⟨exact, -, refused, -⟩ := future_targets_refused_iff newYearChrono newYear_conforms
    twoNodes twoNodesService (twoNodes.setup 1) "base" "2030-01-01 00:00:00" firstLeads
    reachable servingLeader (fun _ => {}) 0 rfl rfl
  refine (refused ((exact ?_).mpr (.inr ?_))).1
  · exact ⟨1893456000000000000, by decide, .inl (by decide +kernel)⟩
  · decide +kernel

/-- The same day in the form that the dashboard writes is restored to. With a fraction of a
second, or an offset without a colon, the dashboard refuses it and the other two do not. -/
theorem written_future_restored :
    let text := "2030-01-01 00:00:00 UTC"
    let deployment :=
      { twoNodes with setup := fun place => chronoSetup newYearChrono (twoNodes.setup place) }
    let run := (restoreBackupInner deployment (chronoService newYearChrono twoNodesService) "base"
      (some text)).exec (.begin firstLeads) reachable
    utcTime newYearChrono 1893456000000000000 = text.toList ∧
    run.2 = .ok ("Snapshot base successfully restored to cluster with PITR target timestamp " ++
      "'2030-01-01 00:00:00 UTC'") ∧
    run.1.exchanges ≠ [] ∧
    ["2030-01-01 00:00:00.5", "2030-01-01 00:00:00 +0000"].all (fun form =>
      (readTarget newYearChrono form.toList).isSome &&
        (checkedTarget newYearChrono form.toList).isNone) = true := by
  refine ⟨by decide +kernel, by decide +kernel, by decide +kernel, by decide +kernel⟩

end PgVisor.Cluster
