import Mathlib.Data.List.MinMax
import PgVisor.BackupRuns
import PgVisor.TargetTimes

/-!
# The snapshot for a recovery target

Recovery replays the log forward from a base backup, and it cannot stop before the end of
that backup. The dashboard picks the snapshot for a target among those that were begun by
then, the latest of them. A backup that was begun before the target and ended after it is
among those, so that what is picked may be useless for the target while an older snapshot
would do.
-/

namespace PgVisor.Backup

open Retention List

/-- The snapshots begun by an instant. -/
def begunBy (targetTime : DateTime) (backups : List BasebackupMeta) : List BasebackupMeta :=
  backups.filter fun b => b.createdAt ≤ targetTime

/-- The first of the earliest snapshots. -/
def earliestOf (first : BasebackupMeta) (others : List BasebackupMeta) : BasebackupMeta :=
  others.foldl (fun earliest b => if b.createdAt < earliest.createdAt then b else earliest) first

/-- `find_best_backup_snapshot`: the last of the snapshots begun by the target, in the order of
their beginnings. -/
def findBestBackupSnapshot (chrono : Chrono) (backups : List BasebackupMeta)
    (targetTime : DateTime) :
    Except String BasebackupMeta :=
  match backups with
  | [] => .error "No basebackup snapshots found in storage"
  | first :: others =>
    let earliest := earliestOf first others
    let eligible := begunBy targetTime backups
    match (eligible.insertionSort fun a b => a.createdAt ≤ b.createdAt).getLast? with
    | none =>
      .error ("No basebackup snapshot found prior to target time " ++
        String.ofList (utcTime chrono targetTime) ++
          ". Earliest available snapshot was created at " ++
        String.ofList (utcTime chrono earliest.createdAt) ++ " (" ++ earliest.snapshotId ++
        "). PostgreSQL forward recovery cannot roll backward.")
    | some best => .ok best

variable {chrono : Chrono} {backups : List BasebackupMeta} {targetTime : DateTime}

/-- What is found is the latest snapshot begun by the target. -/
theorem findBestBackupSnapshot_ok {best} :
    findBestBackupSnapshot chrono backups targetTime = .ok best ↔
      Latest BasebackupMeta.createdAt (begunBy targetTime backups) best := by
  rw [← getLast?_insertionSort]
  cases backups with
  | nil =>
    constructor
    all_goals
      intro found
      cases found
  | cons first others =>
    unfold findBestBackupSnapshot
    dsimp only
    cases ((begunBy targetTime (first :: others)).insertionSort
        fun a b => a.createdAt ≤ b.createdAt).getLast? with
    | none =>
      constructor
      all_goals
        intro failed
        cases failed
    | some last =>
      constructor
      all_goals
        intro same
        cases same
        rfl

theorem findBestBackupSnapshot_error {message}
    (failed : findBestBackupSnapshot chrono backups targetTime = .error message) :
    begunBy targetTime backups = [] := by
  by_contra begun
  obtain ⟨best, latest⟩ : ∃ best, Latest BasebackupMeta.createdAt _ best := exists_latest begun
  rw [findBestBackupSnapshot_ok.mpr latest] at failed
  cases failed

/-! ## Snapshots as the proxy creates them -/

/-- A listed record of a call whose clock did not go back. -/
def Produced (codec : Codec) (snap : BasebackupMeta) : Prop :=
  ∃ request record archive, request.startTime ≤ request.finishTime ∧
    capture codec request = .ok (record, archive) ∧ snap = record.enriched

variable {snap : BasebackupMeta}

theorem Produced.finished {codec} (produced : Produced codec snap) :
    ∃ finish, snap.backupFinishDate = some finish ∧ snap.createdAt ≤ finish := by
  obtain ⟨request, record, archive, forward, stored, rfl⟩ := produced
  obtain ⟨⟨-, created⟩, finished⟩ := capture_sameRun stored
  refine ⟨request.finishTime, finished, ?_⟩
  calc record.createdAt = request.startTime := created
    _ ≤ request.finishTime := forward

/-- The backup had ended by the target, if its end is known. -/
def FinishedBy (targetTime : DateTime) (snap : BasebackupMeta) : Prop :=
  ∀ finish ∈ snap.backupFinishDate, finish ≤ targetTime

instance (targetTime : DateTime) (snap : BasebackupMeta) : Decidable (FinishedBy targetTime snap) :=
  inferInstanceAs (Decidable (∀ finish ∈ snap.backupFinishDate, finish ≤ targetTime))

/-- The choice leads to a recoverable target: what is picked had ended by it, nothing newer
had, and there is an answer unless nothing had. -/
def ChoosesFinished (chrono : Chrono) (backups : List BasebackupMeta) (targetTime : DateTime) :
    Prop :=
  match findBestBackupSnapshot chrono backups targetTime with
  | .ok best => FinishedBy targetTime best ∧
      ∀ other ∈ backups, FinishedBy targetTime other → other.createdAt ≤ best.createdAt
  | .error _ => ∀ other ∈ backups, ¬ FinishedBy targetTime other

instance (chrono : Chrono) (backups : List BasebackupMeta) (targetTime : DateTime) :
    Decidable (ChoosesFinished chrono backups targetTime) :=
  match found : findBestBackupSnapshot chrono backups targetTime with
  | .ok best => decidable_of_iff (FinishedBy targetTime best ∧
      ∀ other ∈ backups, FinishedBy targetTime other → other.createdAt ≤ best.createdAt)
      (by rw [ChoosesFinished, found])
  | .error _ => decidable_of_iff (∀ other ∈ backups, ¬ FinishedBy targetTime other)
      (by rw [ChoosesFinished, found])

theorem Produced.begun {codec} (produced : Produced codec snap)
    (ended : FinishedBy targetTime snap) : snap.createdAt ≤ targetTime := by
  obtain ⟨finish, known, forward⟩ := produced.finished
  exact forward.trans (ended finish known)

theorem mem_begunBy :
    snap ∈ begunBy targetTime backups ↔ snap ∈ backups ∧ snap.createdAt ≤ targetTime := by
  simp [begunBy]

section Choice

variable {codec : Codec} {backups : List BasebackupMeta} {targetTime : DateTime}

/-- The choice goes by the beginning of a backup: it is right where the latest one begun by
the target had also ended by it. -/
theorem choosesFinished_iff (produced : ∀ snap ∈ backups, Produced codec snap) :
    ChoosesFinished codec.chrono backups targetTime ↔
      ∀ best, Latest BasebackupMeta.createdAt (begunBy targetTime backups) best →
        FinishedBy targetTime best := by
  unfold ChoosesFinished
  split
  · rename_i best found
    have latest := findBestBackupSnapshot_ok.mp found
    constructor
    · rintro ⟨ended, -⟩ other again
      have same : findBestBackupSnapshot codec.chrono backups targetTime = .ok other :=
        findBestBackupSnapshot_ok.mpr again
      rw [found] at same
      cases same
      exact ended
    · intro ends
      constructor
      · exact ends best latest
      · intro other member ended
        have begun := (produced other member).begun ended
        exact latest.le (mem_begunBy.mpr ⟨member, begun⟩)
  · rename_i message failed
    have none := findBestBackupSnapshot_error failed
    constructor
    · intro _ best latest
      rw [none] at latest
      cases latest.mem
    · intro _ other member ended
      have begun := mem_begunBy.mpr ⟨member, (produced other member).begun ended⟩
      rw [none] at begun
      cases begun

end Choice

/-- A snapshot that fits the target is found where the latest backup begun by the target had
ended by it, in particular where no backup was under way at the target. -/
theorem best_snapshot_finished_iff (codec : Codec) (backups : List BasebackupMeta)
    (produced : ∀ snap ∈ backups, Produced codec snap) (targetTime : DateTime) :
    (ChoosesFinished codec.chrono backups targetTime ↔
      ∀ best, Latest BasebackupMeta.createdAt (begunBy targetTime backups) best →
        FinishedBy targetTime best) ∧
    ((∀ snap ∈ backups, snap.createdAt ≤ targetTime → FinishedBy targetTime snap) →
      ChoosesFinished codec.chrono backups targetTime) := by
  constructor
  · exact choosesFinished_iff produced
  intro settled
  apply (choosesFinished_iff produced).mpr
  intro best latest
  obtain ⟨member, begun⟩ := mem_begunBy.mp latest.mem
  exact settled best member begun

/-- A backup of two hours on a night of August 2026. -/
def slowNightly (day : Nat) : Request :=
  { nightly day capturedTar with finishTime := (1785466800 + day * 86400) * 1000000000 }

theorem metadataOf_produced {request} (forward : request.startTime ≤ request.finishTime)
    (member : snap ∈ metadataOf request) : Produced shortCodec snap := by
  unfold metadataOf at member
  split at member
  · cases member
  · rename_i record archive stored
    exact ⟨request, record, archive, forward, stored, mem_singleton.mp member⟩

def twoNights : List BasebackupMeta := metadataOf (slowNightly 1) ++ metadataOf (slowNightly 2)

theorem twoNights_produced : ∀ snap ∈ twoNights, Produced shortCodec snap := by
  intro snap member
  rcases mem_append.mp member with first | second
  · exact metadataOf_produced (by decide) first
  · exact metadataOf_produced (by decide) second

/-- In the afternoon both backups have ended, and the later one is picked. -/
theorem afternoon_target_chosen : (∀ snap ∈ twoNights, snap.createdAt ≤ 1785682800000000000 →
      FinishedBy 1785682800000000000 snap) ∧
        ChoosesFinished shortCodec.chrono twoNights 1785682800000000000 := by
  have settled : ∀ snap ∈ twoNights, snap.createdAt ≤ 1785682800000000000 →
      FinishedBy 1785682800000000000 snap := by decide +kernel
  exact ⟨settled, (best_snapshot_finished_iff shortCodec twoNights twoNights_produced _).2 settled⟩

/-- The target lies within the second backup, which is picked although only the first one
had ended. -/
theorem target_within_backup : (∀ snap ∈ twoNights, Produced shortCodec snap) ∧
    (∃ first second, twoNights = [first, second] ∧
      findBestBackupSnapshot shortCodec.chrono twoNights 1785636000000000000 = .ok second ∧
      FinishedBy 1785636000000000000 first ∧ ¬ FinishedBy 1785636000000000000 second) ∧
    ¬ ChoosesFinished shortCodec.chrono twoNights 1785636000000000000 := by
  obtain ⟨first, -, second, -, facts⟩ : ∃ first, twoNights[0]? = some first ∧ ∃ second,
      twoNights[1]? = some second ∧ twoNights = [first, second] ∧
        findBestBackupSnapshot shortCodec.chrono twoNights 1785636000000000000 = .ok second ∧
        FinishedBy 1785636000000000000 first ∧ ¬ FinishedBy 1785636000000000000 second := by
    decide +kernel
  exact ⟨twoNights_produced, ⟨first, second, facts⟩, by decide +kernel⟩

end PgVisor.Backup
