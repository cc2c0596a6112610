import PgVisor.SnapshotChoice

/-!
# Restores that only move forward

A snapshot can be recovered to a target only if it was begun before it. The dashboard checks
that on the instant it has read, and hands a text on: the instant written in whole seconds.
On the quick path the snapshot is picked by the instant; on the other path the caller names
it, and a target up to a minute before the snapshot is let through.

What counts is the instant that the text denotes to PostgreSQL, which is a parameter. The
instant is the whole second of the one that was read, so that a snapshot of the same second
lies after it unless it was begun on the second.
-/

namespace PgVisor.Backup

open Text

variable {now parsed : DateTime} {α : Type}

/-- The answers that the two handlers get from the backup service. -/
structure RestoreService where
  listBackups : Except String (List BasebackupMeta)
  restoreBackup : String → Option String → Except String String

/-- The arguments of `restore_backup`. -/
structure RestoreCall where
  snapshotId : String
  targetTime : Option String
deriving DecidableEq, Repr

/-- A handled request: the listed snapshot that the target goes with, the call that was
made, and the answer. -/
structure Attempt (α : Type) where
  chosen : Option BasebackupMeta
  call : Option RestoreCall
  answer : α

/-- The text that was passed on denotes an instant at or after the start of the snapshot. -/
def Attempt.Forward {α : Type} (denotes : List Char → Option DateTime) (attempt : Attempt α) :
    Prop :=
  ∀ snap ∈ attempt.chosen, ∀ call ∈ attempt.call, ∀ text ∈ call.targetTime,
    ∃ instant, denotes text.toList = some instant ∧ snap.createdAt ≤ instant

instance {α : Type} (denotes : List Char → Option DateTime) (attempt : Attempt α) :
    Decidable (attempt.Forward denotes) := by
  unfold Attempt.Forward
  infer_instance

/-- `quick_restore`: the target is read, and the snapshot picked for it. -/
def quickRestore (chrono : Chrono) (service : RestoreService) (now : DateTime)
    (targetTime : String) :
    Attempt (Except String (BasebackupMeta × String)) :=
  match parseTargetTimestamp chrono now targetTime with
  | .error message => ⟨none, none, .error message⟩
  | .ok parsedTarget =>
    match service.listBackups with
    | .error message => ⟨none, none, .error message⟩
    | .ok backups =>
      match findBestBackupSnapshot chrono backups parsedTarget with
      | .error message => ⟨none, none, .error message⟩
      | .ok best =>
        let formattedTarget := some (String.ofList (utcTime chrono parsedTarget))
        { chosen := some best
          call := some ⟨best.snapshotId, formattedTarget⟩
          answer := (service.restoreBackup best.snapshotId formattedTarget).map fun msg =>
            (best, msg) }

/-- The answer to a restore of a named snapshot. -/
structure RestoreReply where
  message : String
  snapshotId : String
deriving DecidableEq, Repr

/-- The status of an error that `restore_backup` returned. -/
def restoreErrorStatus (message : String) : Nat :=
  if contains "already in progress".toList message.toList then 409
  else if contains "cannot be in the future".toList message.toList ∨
      contains "cannot roll backward".toList message.toList ∨
      contains "earlier than snapshot".toList message.toList ∨
      contains "Invalid timestamp".toList message.toList then 400
  else 500

/-- The call of `restore_backup`, and the answer made of its result. -/
def callRestoreBackup (service : RestoreService) (chosen : Option BasebackupMeta)
    (snapshotId : String) (targetTime : Option String) :
    Attempt (Except (Nat × String) RestoreReply) :=
  { chosen
    call := some ⟨snapshotId, targetTime⟩
    answer := match service.restoreBackup snapshotId targetTime with
      | .error message => .error (restoreErrorStatus message, message)
      | .ok message => .ok { message, snapshotId } }

/-- The listed snapshot that a caller names by its id or its label. -/
def namedSnapshot (snapshotId : String) (backups : List BasebackupMeta) : Option BasebackupMeta :=
  backups.find? fun b => b.snapshotId == snapshotId || b.label == some snapshotId

/-- How far before its snapshot a target may lie. -/
def tolerance : Int := 60 * 1000000000

/-- `api_restore_backup`: the caller names the snapshot, and may give a target. -/
def apiRestoreBackup (chrono : Chrono) (service : RestoreService) (now : DateTime)
    (snapshotId : String) (recoveryTargetTime : Option String) :
    Attempt (Except (Nat × String) RestoreReply) :=
  match recoveryTargetTime with
  | none => callRestoreBackup service none snapshotId none
  | some raw =>
    let trimmed := trim raw.toList
    if trimmed = [] then callRestoreBackup service none snapshotId none
    else
      match parseTargetTimestamp chrono now (String.ofList trimmed) with
      | .error message => ⟨none, none, .error (400, message)⟩
      | .ok parsed =>
        match service.listBackups with
        | .error message => ⟨none, none, .error (500, message)⟩
        | .ok backups =>
          let targetTime := some (String.ofList (utcTime chrono parsed))
          match namedSnapshot snapshotId backups with
          | none => callRestoreBackup service none snapshotId targetTime
          | some snap =>
            if parsed < snap.createdAt - tolerance then
              ⟨none, none, .error (400, "Recovery target timestamp (" ++
                String.ofList (utcTime chrono parsed) ++
                ") is earlier than snapshot creation time (" ++
                String.ofList (utcTime chrono snap.createdAt) ++
                "). PostgreSQL forward recovery cannot roll backward.")⟩
            else callRestoreBackup service (some snap) snapshotId targetTime

section Courses

variable {chrono : Chrono} {service : RestoreService} {targetTime snapshotId : String}
variable {recoveryTargetTime : Option String} {denotes : List Char → Option DateTime}

/-- The quick path reads the target and picks the snapshot. -/
def QuickTarget (chrono : Chrono) (service : RestoreService) (now : DateTime)
    (targetTime : String) (parsed : DateTime) (best : BasebackupMeta) : Prop :=
  parseTargetTimestamp chrono now targetTime = .ok parsed ∧
    ∃ backups, service.listBackups = .ok backups ∧
      findBestBackupSnapshot chrono backups parsed = .ok best

/-- The text is a target, and the id is that of a listed snapshot which was begun at most a
minute after it. -/
def NamedTarget (chrono : Chrono) (service : RestoreService) (now : DateTime)
    (snapshotId : String) (recoveryTargetTime : Option String) (parsed : DateTime)
    (snap : BasebackupMeta) : Prop :=
  ∃ raw backups, recoveryTargetTime = some raw ∧ trim raw.toList ≠ [] ∧
    parseTargetTimestamp chrono now (String.ofList (trim raw.toList)) = .ok parsed ∧
    service.listBackups = .ok backups ∧ namedSnapshot snapshotId backups = some snap ∧
    snap.createdAt - tolerance ≤ parsed

/-- What is written for a target that was read denotes its whole second. -/
def WritesSeconds (chrono : Chrono) (denotes : List Char → Option DateTime) : Prop :=
  ∀ text instant, readTarget chrono text = some instant →
    denotes (utcTime chrono instant) = some (wholeSecond instant)

/-- How a request can go: no snapshot goes with a target, or one does and the call carries
the target written out. -/
inductive Attempt.Course {α : Type} (chrono : Chrono) (attempt : Attempt α)
    (Target : DateTime → BasebackupMeta → Prop) : Prop where
  | without (none : attempt.chosen = none) (never : ∀ parsed snap, ¬ Target parsed snap)
  | called (parsed : DateTime) (snap : BasebackupMeta) (id text : String)
      (targeted : Target parsed snap)
      (only : ∀ other another, Target other another → other = parsed ∧ another = snap)
      (read : readTarget chrono (trim text.toList) = some parsed)
      (chosen : attempt.chosen = some snap)
      (call : attempt.call = some ⟨id, some (String.ofList (utcTime chrono parsed))⟩)

/-- A request goes forward if the snapshot was begun by the whole second of the target. -/
theorem Attempt.Course.forward_iff (writes : WritesSeconds chrono denotes) {attempt : Attempt α}
    {Target : DateTime → BasebackupMeta → Prop} (course : attempt.Course chrono Target) :
    attempt.Forward denotes ↔
      ∀ parsed snap, Target parsed snap → snap.createdAt ≤ wholeSecond parsed := by
  cases course with
  | without none never =>
    constructor
    · intro _ parsed snap targeted
      exact absurd targeted (never parsed snap)
    · intro _ snap member
      rw [none] at member
      cases member
  | called parsed snap id text targeted only read chosen call =>
    have written := writes _ _ read
    constructor
    · intro forward other another again
      obtain ⟨rfl, rfl⟩ := only other another again
      obtain ⟨instant, denoted, later⟩ := forward another chosen _ call _ rfl
      rw [String.toList_ofList, written] at denoted
      cases denoted
      exact later
    · intro later found picked made sent text passed
      rw [chosen] at picked
      cases picked
      rw [call] at sent
      cases sent
      cases passed
      exact ⟨_, by rw [String.toList_ofList, written], later parsed snap targeted⟩

/-- The quick path goes with the target and the snapshot that it finds. -/
theorem quickRestore_course (chrono : Chrono) (service : RestoreService) (now : DateTime)
    (targetTime : String) : (quickRestore chrono service now targetTime).Course chrono
      (QuickTarget chrono service now targetTime) := by
  unfold quickRestore
  split
  · rename_i failed
    apply Attempt.Course.without rfl
    rintro parsed best ⟨accepted, -⟩
    rw [failed] at accepted
    cases accepted
  · rename_i parsed accepted
    split
    · rename_i failed
      apply Attempt.Course.without rfl
      rintro _ best ⟨-, backups, listed, -⟩
      rw [failed] at listed
      cases listed
    · rename_i backups listed
      split
      · rename_i failed
        apply Attempt.Course.without rfl
        rintro other best ⟨again, others, relisted, found⟩
        rw [accepted] at again
        cases again
        rw [listed] at relisted
        cases relisted
        rw [failed] at found
        cases found
      · rename_i best found
        refine .called parsed best best.snapshotId targetTime ⟨accepted, backups, listed, found⟩ ?_
          (parseTargetTimestamp_ok_iff.mp accepted).2.1 rfl rfl
        rintro other another ⟨again, others, relisted, refound⟩
        rw [accepted] at again
        cases again
        rw [listed] at relisted
        cases relisted
        rw [found] at refound
        cases refound
        exact ⟨rfl, rfl⟩

/-- The other path goes with the target and the snapshot that the caller names. -/
theorem apiRestoreBackup_course (chrono : Chrono) (service : RestoreService) (now : DateTime)
    (snapshotId : String) (recoveryTargetTime : Option String) :
    (apiRestoreBackup chrono service now snapshotId recoveryTargetTime).Course chrono
      (NamedTarget chrono service now snapshotId recoveryTargetTime) := by
  cases recoveryTargetTime with
  | none =>
    apply Attempt.Course.without rfl
    rintro parsed snap ⟨raw, backups, given, -⟩
    cases given
  | some raw =>
    simp only [apiRestoreBackup]
    split
    · rename_i empty
      apply Attempt.Course.without rfl
      rintro parsed snap ⟨other, backups, ⟨⟩, nonempty, -⟩
      exact nonempty empty
    · rename_i nonempty
      split
      · rename_i failed
        apply Attempt.Course.without rfl
        rintro parsed snap ⟨other, backups, ⟨⟩, -, accepted, -⟩
        rw [failed] at accepted
        cases accepted
      · rename_i parsed accepted
        split
        · rename_i failed
          apply Attempt.Course.without rfl
          rintro other snap ⟨_, backups, ⟨⟩, -, -, listed, -⟩
          rw [failed] at listed
          cases listed
        · rename_i backups listed
          have same : ∀ other snap,
            NamedTarget chrono service now snapshotId (some raw) other snap →
              other = parsed ∧ namedSnapshot snapshotId backups = some snap ∧
                snap.createdAt - tolerance ≤ parsed := by
            rintro other snap ⟨_, others, ⟨⟩, -, again, relisted, found, close⟩
            rw [accepted] at again
            cases again
            rw [listed] at relisted
            cases relisted
            exact ⟨rfl, found, close⟩
          split
          · rename_i unknown
            apply Attempt.Course.without rfl
            intro other snap targeted
            obtain ⟨-, found, -⟩ := same other snap targeted
            rw [unknown] at found
            cases found
          · rename_i snap found
            split
            · rename_i early
              apply Attempt.Course.without rfl
              intro other another targeted
              obtain ⟨-, refound, close⟩ := same other another targeted
              rw [found] at refound
              cases refound
              exact absurd early (Int.not_lt.mpr close)
            · rename_i close
              refine .called parsed snap snapshotId (String.ofList (trim raw.toList)) ?_ ?_
                (parseTargetTimestamp_ok_iff.mp accepted).2.1 rfl rfl
              · exact ⟨raw, backups, rfl, nonempty, accepted, listed, found, Int.not_lt.mp close⟩
              intro other another targeted
              obtain ⟨rfl, refound, -⟩ := same other another targeted
              rw [found] at refound
              cases refound
              exact ⟨rfl, rfl⟩

/-- What the quick path picks was begun by the second of the target if all listed snapshots
begun by the target were: it is the latest of these. -/
theorem quickTarget_begun_iff :
    (∀ parsed best, QuickTarget chrono service now targetTime parsed best →
      best.createdAt ≤ wholeSecond parsed) ↔
    ∀ parsed backups, parseTargetTimestamp chrono now targetTime = .ok parsed →
      service.listBackups = .ok backups → ∀ snap ∈ backups, snap.createdAt ≤ parsed →
        snap.createdAt ≤ wholeSecond parsed := by
  constructor
  · intro begun parsed backups accepted listed snap member early
    have among := mem_begunBy.mpr ⟨member, early⟩
    obtain ⟨best, latest⟩ : ∃ best, Retention.Latest BasebackupMeta.createdAt _ best :=
      Retention.exists_latest (List.ne_nil_of_mem among)
    have found : findBestBackupSnapshot chrono backups parsed = .ok best :=
      findBestBackupSnapshot_ok.mpr latest
    calc snap.createdAt ≤ best.createdAt := latest.le among
      _ ≤ wholeSecond parsed := begun parsed best ⟨accepted, backups, listed, found⟩
  · rintro begun parsed best ⟨accepted, backups, listed, found⟩
    obtain ⟨member, early⟩ := mem_begunBy.mp (findBestBackupSnapshot_ok.mp found).mem
    exact begun parsed backups accepted listed best member early

end Courses

/-- The quick path goes forward exactly if no listed snapshot was begun after the second of the
target and by the target itself. The other path does exactly if the snapshot that the caller
names was begun by the second of the target, or so late that the target is refused. -/
theorem restores_forward_iff (chrono : Chrono) (denotes : List Char → Option DateTime)
    (writes : WritesSeconds chrono denotes) (service : RestoreService) (now : DateTime) :
    (∀ targetTime, (quickRestore chrono service now targetTime).Forward denotes ↔
      ∀ parsed backups, parseTargetTimestamp chrono now targetTime = .ok parsed →
        service.listBackups = .ok backups → ∀ snap ∈ backups, snap.createdAt ≤ parsed →
          snap.createdAt ≤ wholeSecond parsed) ∧
    ∀ snapshotId recoveryTargetTime,
      (apiRestoreBackup chrono service now snapshotId recoveryTargetTime).Forward denotes ↔
        ∀ parsed snap, NamedTarget chrono service now snapshotId recoveryTargetTime parsed snap →
          snap.createdAt ≤ wholeSecond parsed := by
  constructor
  · intro targetTime
    rw [(quickRestore_course ..).forward_iff writes]
    exact quickTarget_begun_iff
  · intro snapshotId recoveryTargetTime
    exact (apiRestoreBackup_course ..).forward_iff writes

/-- The readers on two texts of a night in September 2026, and the writer in that month. -/
def septemberChrono : Chrono where
  parseFromRfc3339 _ := none
  parseFromStr _ _ := none
  naiveParseFromStr layout text :=
    if layout = fractionLayout ∧ text = "2026-09-16 00:07:11.7".toList then
      some 1789517231700000000
    else if layout ∈ [fractionLayout, plainLayout] ∧ text = "2026-09-16 00:06:31".toList then
      some 1789517191000000000
    else none
  format layout instant :=
    timeIn "2026" "09" (instant / 1000000000 - 1788220800).toNat layout.toList

/-- What two written targets of that night denote. -/
def septemberDenotes (text : List Char) : Option DateTime :=
  if text = "2026-09-16 00:07:11 UTC".toList then some 1789517231000000000
  else if text = "2026-09-16 00:06:31 UTC".toList then some 1789517191000000000
  else none

theorem september_writes : WritesSeconds septemberChrono septemberDenotes := by
  intro text instant read
  obtain ⟨layout, -, matched⟩ := List.exists_of_findSome?_eq_some read
  unfold septemberChrono at matched
  dsimp only at matched
  split at matched
  · cases matched
    decide +kernel
  split at matched
  · cases matched
    decide +kernel
  · cases matched

/-- One snapshot, begun half a second after 00:07:11 on 16 September 2026. -/
def oddSnapshot : BasebackupMeta :=
  BasebackupMeta.new "snap-20260916-000711" 1789517231500000000 .full
    "000000010000000000000001" 0

def oddService : RestoreService :=
  { listBackups := .ok [oddSnapshot]
    restoreBackup := fun snapshotId _ => .ok ("restored " ++ snapshotId) }

/-- A snapshot of the second before is recovered forward. -/
theorem earlier_second_forward :
    (quickRestore septemberChrono
      { oddService with listBackups := .ok [{ oddSnapshot with createdAt := 1789517230500000000 }] }
      1789520000000000000 "2026-09-16 00:07:11.7").Forward septemberDenotes := by
  refine ((restores_forward_iff septemberChrono septemberDenotes september_writes _ _).1 _).mpr ?_
  intro parsed backups accepted listed snap member early
  cases listed
  cases List.mem_singleton.mp member
  have read : parseTargetTimestamp septemberChrono 1789520000000000000 "2026-09-16 00:07:11.7" =
      .ok 1789517231700000000 := by decide +kernel
  rw [read] at accepted
  cases accepted
  decide

/-- A target in the second of the snapshot is cut to its beginning; a target forty seconds
before the named snapshot is let through. -/
theorem restores_backward :
    (quickRestore septemberChrono oddService 1789520000000000000 "2026-09-16 00:07:11.7").call =
      some ⟨"snap-20260916-000711", some "2026-09-16 00:07:11 UTC"⟩ ∧
    ¬ (quickRestore septemberChrono oddService 1789520000000000000
        "2026-09-16 00:07:11.7").Forward septemberDenotes ∧
    (apiRestoreBackup septemberChrono oddService 1789520000000000000 "snap-20260916-000711"
        (some "2026-09-16 00:06:31")).call =
      some ⟨"snap-20260916-000711", some "2026-09-16 00:06:31 UTC"⟩ ∧
    ¬ (apiRestoreBackup septemberChrono oddService 1789520000000000000 "snap-20260916-000711"
        (some "2026-09-16 00:06:31")).Forward septemberDenotes := by
  decide +kernel

end PgVisor.Backup
