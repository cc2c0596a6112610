import PgVisor.LogStorage
import PgVisor.Transitions
import PgVisor.WalRuns

/-!
# The purge point and the last log id

The replication layer derives its state from two values that the store keeps apart: the
purge point in the metadata and the last log id in the write-ahead log. Purging never
touches the last log id, and truncation falls back to the live entries alone, never to the
purge point. The two agree exactly as long as no purge goes beyond the last live entry and
no truncation removes every live entry above a purge point.

The calls are those the replication layer may make: appended log ids rise above the log and
the purge point, truncation stays above the purge point, and the purge point advances along
the log or beyond its end.
-/

namespace PgVisor.LogStorage

open WriteAheadLog Transitions List

variable {Entry : Type}

/-- The leader of the first log id is not after the leader of the second. -/
def LeaderLe (first second : LogId) : Prop :=
  first.term < second.term ∨ first.term = second.term ∧ first.nodeId ≤ second.nodeId

instance (first second : LogId) : Decidable (LeaderLe first second) :=
  inferInstanceAs (Decidable (_ ∨ _))

/-- The order of log ids: by leader, then by index. -/
def LogIdLe (first second : LogId) : Prop :=
  first.term < second.term ∨ first.term = second.term ∧ (first.nodeId < second.nodeId ∨
      first.nodeId = second.nodeId ∧ first.index ≤ second.index)

instance (first second : LogId) : Decidable (LogIdLe first second) :=
  inferInstanceAs (Decidable (_ ∨ _))

/-- The second log id may stand behind the first in one log. -/
def Later (first second : LogId) : Prop :=
  LeaderLe first second ∧ first.index < second.index

instance (first second : LogId) : Decidable (Later first second) :=
  inferInstanceAs (Decidable (_ ∧ _))

variable (logId : LogId)

theorem LogIdLe.refl : LogIdLe logId logId :=
  .inr ⟨rfl, .inr ⟨rfl, Nat.le_refl _⟩⟩

theorem Later.le {first second} (later : Later first second) : LogIdLe first second := by
  obtain ⟨leader, above⟩ := later
  unfold LeaderLe at leader
  unfold LogIdLe
  omega

/-! ## Calls and reports -/

/-- The lowest index above the purge point. -/
def purgeFloor (store : LogStoreInner) : Nat :=
  match store.metadata.lastPurgedLogId with
  | some purged => purged.index + 1
  | none => 0

/-- The calls that the replication layer may make. -/
def Issued (codec : Codec Entry) (store : LogStoreInner) : Operation Entry → Prop
  | .saveVote _ => True
  | .append entries =>
    entries.Pairwise (fun first second => Later (codec.logId first) (codec.logId second)) ∧
      ∀ entry ∈ entries,
        (∀ binding ∈ store.wal.index.entries, Later binding.2.logId (codec.logId entry)) ∧
        ∀ purged ∈ store.metadata.lastPurgedLogId, Later purged (codec.logId entry)
  | .truncate logId => ∀ purged ∈ store.metadata.lastPurgedLogId, purged.index < logId.index
  | .purge logId =>
    (∀ purged ∈ store.metadata.lastPurgedLogId, purged.index < logId.index) ∧
      ∀ binding ∈ store.wal.index.entries, (binding.1 = logId.index → binding.2.logId = logId) ∧
        (logId.index < binding.1 → LeaderLe logId binding.2.logId)

instance (codec : Codec Entry) (store : LogStoreInner) (operation : Operation Entry) :
    Decidable (Issued codec store operation) :=
  match operation with
  | .saveVote _ => inferInstanceAs (Decidable True)
  | .append _ => inferInstanceAs (Decidable (_ ∧ _))
  | .truncate logId =>
    inferInstanceAs (Decidable (∀ purged ∈ store.metadata.lastPurgedLogId,
      purged.index < logId.index))
  | .purge _ => inferInstanceAs (Decidable (_ ∧ _))

/-- The reported last log id is at or behind the purge point, and is the purge point when
no live entry lies behind it. -/
def Reports (store : LogStoreInner) : Prop :=
  (∀ purged ∈ store.getLogState.lastPurgedLogId,
    ∃ last ∈ store.getLogState.lastLogId, LogIdLe purged last) ∧
  ((∀ binding ∈ store.wal.index.entries, binding.1 < purgeFloor store) →
    store.getLogState.lastLogId = store.getLogState.lastPurgedLogId)

instance (store : LogStoreInner) : Decidable (Reports store) :=
  inferInstanceAs (Decidable (_ ∧ _))

/-- The purge point does not pass the last live entry, and truncation above a purge point
leaves a live entry. -/
def Safe (store : LogStoreInner) : Operation Entry → Prop
  | .purge logId => ∃ binding ∈ store.wal.index.entries, logId.index ≤ binding.1
  | .truncate logId =>
    store.metadata.lastPurgedLogId = none ∨ store.wal.index.entries = [] ∨
      ∃ binding ∈ store.wal.index.entries, binding.1 < logId.index
  | _ => True

instance (store : LogStoreInner) (operation : Operation Entry) : Decidable (Safe store operation) :=
  match operation with
  | .saveVote _ => inferInstanceAs (Decidable True)
  | .append _ => inferInstanceAs (Decidable True)
  | .truncate _ => inferInstanceAs (Decidable (_ ∨ _ ∨ _))
  | .purge logId =>
    inferInstanceAs (Decidable (∃ binding ∈ store.wal.index.entries, logId.index ≤ binding.1))

def step (codec : Codec Entry) (format : MetaFormat) (store : LogStoreInner)
    (operation : Operation Entry) : Option LogStoreInner :=
  some (perform codec format store operation)

/-! ## What the two values say while they agree -/

/-- The last log id is that of the last live entry, or else the purge point; live entries
rise behind the purge point. -/
structure Agrees (codec : Codec Entry) (store : LogStoreInner) (log : List Entry) : Prop where
  retains : Retains codec store.wal log (purgeFloor store)
  rises : (live codec log (purgeFloor store)).Pairwise
    (fun first second => Later (codec.logId first) (codec.logId second))
  behind : ∀ purged ∈ store.metadata.lastPurgedLogId,
    ∀ entry ∈ live codec log (purgeFloor store), LeaderLe purged (codec.logId entry)
  last : store.wal.lastLogId = ((live codec log (purgeFloor store)).getLast?.map codec.logId).or
      store.metadata.lastPurgedLogId

theorem purge_floor_le (store : LogStoreInner) (index : Nat)
    (above : ∀ purged ∈ store.metadata.lastPurgedLogId, purged.index < index) :
    purgeFloor store ≤ index := by
  unfold purgeFloor
  split
  next purged found => exact above purged found
  · exact Nat.zero_le _

variable {store : LogStoreInner}

theorem purge_floor_eq {purged} (found : purged ∈ store.metadata.lastPurgedLogId) :
    purgeFloor store = purged.index + 1 := by
  rw [purgeFloor, Option.mem_def.mp found]

variable {codec : Codec Entry} {log : List Entry}

theorem mem_live {floor entry} :
    entry ∈ live codec log floor ↔ entry ∈ log ∧ floor ≤ (codec.logId entry).index := by
  simp [live]

theorem Agrees.reports (agrees : Agrees codec store log) : Reports store := by
  cases none_live : (live codec log (purgeFloor store)).getLast? with
  | none =>
    have same : store.wal.lastLogId = store.metadata.lastPurgedLogId := by
      rw [agrees.last, none_live, Option.map_none, Option.none_or]
    refine ⟨fun purged found => ⟨purged, ?_, LogIdLe.refl purged⟩, fun _ => same⟩
    exact same.trans found
  | some entry =>
    have present : entry ∈ live codec log (purgeFloor store) := mem_of_getLast? none_live
    have last : store.wal.lastLogId = some (codec.logId entry) := by
      rw [agrees.last, none_live, Option.map_some, Option.some_or]
    have atFloor := (mem_live.mp present).2
    refine ⟨fun purged found => ⟨codec.logId entry, last, ?_⟩, fun nothing => ?_⟩
    · refine Later.le ⟨agrees.behind purged found entry present, ?_⟩
      rw [purge_floor_eq found] at atFloor
      exact atFloor
    · have below := (agrees.retains.bound_iff (fun key _ => key < purgeFloor store)).mp nothing
        entry present
      omega

/-- If anything is live, the last log id is that of the live entry with the greatest index. -/
theorem Agrees.greatest {entry} (agrees : Agrees codec store log)
    (isLive : entry ∈ live codec log (purgeFloor store)) :
    ∃ before final, live codec log (purgeFloor store) = before ++ [final] ∧
      (∀ stored ∈ before, (codec.logId stored).index < (codec.logId final).index) ∧
      (codec.logId entry).index ≤ (codec.logId final).index ∧
      store.wal.lastLogId = some (codec.logId final) := by
  rcases eq_nil_or_concat (live codec log (purgeFloor store)) with
    empty | ⟨before, final, shape⟩
  · rw [empty] at isLive
    exact absurd isLive not_mem_nil
  rw [concat_eq_append] at shape
  have lower : ∀ stored ∈ before, (codec.logId stored).index < (codec.logId final).index :=
    fun stored earlier => ((pairwise_append.mp (shape ▸ agrees.rises)).2.2 stored earlier
      final mem_cons_self).2
  refine ⟨before, final, shape, lower, ?_, ?_⟩
  · rw [shape] at isLive
    rcases mem_append.mp isLive with earlier | single
    · exact Nat.le_of_lt (lower entry earlier)
    · rw [mem_singleton.mp single]
  · rw [agrees.last, shape]
    simp

/-! ## One call -/

variable (codec : Codec Entry)

theorem append_agrees {entries : List Entry}
    (agrees : Agrees codec store log) (issued : Issued codec store (.append entries)) :
    Agrees codec (store.append codec entries) (log ++ entries) := by
  have beyond : ∀ entry ∈ entries, purgeFloor store ≤ (codec.logId entry).index :=
    fun entry member => purge_floor_le store _ (fun purged found =>
      ((issued.2 entry member).2 purged found).2)
  have after : ∀ entry ∈ entries, ∀ stored ∈ live codec log (purgeFloor store),
      Later (codec.logId stored) (codec.logId entry) := fun entry member =>
    (agrees.retains.bound_iff (fun _ logId => Later logId (codec.logId entry))).mp
      (issued.2 entry member).1
  have continues : Continues codec store (purgeFloor store) entries := by
    refine ⟨issued.1.imp (fun later => later.2), fun entry member => ⟨beyond entry member, ?_⟩⟩
    exact (agrees.retains.bound_iff (fun key _ => key < (codec.logId entry).index)).mpr
      (fun stored present => (after entry member stored present).2)
  have extended : live codec (log ++ entries) (purgeFloor store) =
      live codec log (purgeFloor store) ++ entries := by
    rw [live, filter_append, ← live, filter_eq_self.mpr]
    exact fun entry member => decide_eq_true (beyond entry member)
  refine ⟨?_, ?_, ?_, ?_⟩
  · exact append_retains codec agrees.retains
      (continues_ordered codec store log entries _ agrees.retains continues) beyond
  · change (live codec (log ++ entries) (purgeFloor store)).Pairwise _
    rw [extended]
    exact pairwise_append.mpr ⟨agrees.rises, issued.1,
      fun stored present entry member => after entry member stored present⟩
  · change ∀ purged ∈ _, ∀ entry ∈ live codec (log ++ entries) (purgeFloor store), _
    rw [extended]
    intro purged found entry member
    rcases mem_append.mp member with present | added
    · exact agrees.behind purged found entry present
    · exact ((issued.2 entry added).2 purged found).1
  · change (WriteAheadLog.append codec store.wal entries).lastLogId =
      ((live codec (log ++ entries) (purgeFloor store)).getLast?.map codec.logId).or _
    rw [extended, append_last, agrees.last, List.getLast?_append, Option.map_or, Option.or_assoc]
    rfl

/-- Truncation above the purge point filters the live entries. -/
theorem live_truncated (log : List Entry) (floor since : Nat) :
    live codec (log.filter (fun entry => decide ((codec.logId entry).index < since))) floor =
      (live codec log floor).filter (fun entry => decide ((codec.logId entry).index < since)) :=
  filter_comm _ _ log

theorem truncate_agrees {logId : LogId} (agrees : Agrees codec store log)
    (issued : Issued codec store (.truncate logId))
    (safe : Safe store (.truncate logId : Operation Entry)) : Agrees codec (store.truncate logId)
      (log.filter (fun entry => decide ((codec.logId entry).index < logId.index))) := by
  have floorLe : purgeFloor store ≤ logId.index := purge_floor_le store _ issued
  obtain ⟨retains, untouched, cut⟩ := truncate_retains codec logId.index agrees.retains
  rw [Nat.max_eq_left floorLe] at retains untouched cut
  have kept := live_truncated codec log (purgeFloor store) logId.index
  refine ⟨retains, ?_, ?_, ?_⟩
  · change (live codec (log.filter _) (purgeFloor store)).Pairwise _
    rw [kept]
    exact agrees.rises.filter _
  · change ∀ purged ∈ _, ∀ entry ∈ live codec (log.filter _) (purgeFloor store), _
    rw [kept]
    exact fun purged found entry member =>
      agrees.behind purged found entry (mem_of_mem_filter member)
  · change (truncateSince store.wal logId.index).lastLogId =
      ((live codec (log.filter _) (purgeFloor store)).getLast?.map codec.logId).or _
    by_cases same : log.filter
        (fun entry => decide ((codec.logId entry).index < logId.index)) = log
    · rw [untouched same, same, agrees.last]
      rfl
    · rw [cut same]
      rcases safe with unpurged | empty | ⟨binding, present, below⟩
      · rw [show (store.truncate logId).metadata.lastPurgedLogId = none from unpurged,
          Option.or_none]
      · refine absurd (filter_eq_self.mpr (fun entry member => ?_)) same
        by_contra notBelow
        have isLive : entry ∈ live codec log (purgeFloor store) := by
          refine mem_live.mpr ⟨member, ?_⟩
          simp only [decide_eq_true_eq] at notBelow
          omega
        exact (agrees.retains.bound_iff (fun _ _ => False)).mp (by simp [empty]) entry isLive
      · obtain ⟨entry, isLive, lower⟩ :=
          (agrees.retains.bound_exists (fun key _ => key < logId.index)).mp
            ⟨binding, present, below⟩
        have remains : entry ∈ live codec
            (log.filter (fun entry => decide ((codec.logId entry).index < logId.index)))
            (purgeFloor store) := by
          rw [kept]
          exact mem_filter.mpr ⟨isLive, decide_eq_true lower⟩
        cases found : (live codec (log.filter
            (fun entry => decide ((codec.logId entry).index < logId.index)))
            (purgeFloor store)).getLast? with
        | none =>
          rw [List.getLast?_eq_none_iff.mp found] at remains
          exact absurd remains not_mem_nil
        | some last => rfl

variable (format : MetaFormat) (store : LogStoreInner)

/-- A purge that stays within the live entries leaves the last log id right: it belongs to
a live entry behind the new purge point, or is the purge point. -/
theorem purge_agrees (log : List Entry) (logId : LogId)
    (agrees : Agrees codec store log) (issued : Issued codec store (.purge logId))
    (safe : Safe store (.purge logId : Operation Entry)) :
    Agrees codec (store.purge format logId) log := by
  have floorLe : purgeFloor store ≤ logId.index := purge_floor_le store _ issued.1
  have raised : purgeFloor (store.purge format logId) = logId.index + 1 := rfl
  have retains := purge_retains codec logId.index agrees.retains
  rw [Nat.max_eq_right (Nat.le_succ_of_le floorLe)] at retains
  have consistent := (agrees.retains.bound_iff (fun key stored =>
    (key = logId.index → stored = logId) ∧ (logId.index < key → LeaderLe logId stored))).mp issued.2
  have remaining : live codec log (logId.index + 1) = (live codec log (purgeFloor store)).filter
      (fun entry => decide (logId.index + 1 ≤ (codec.logId entry).index)) := by
    rw [live, live, filter_filter]
    refine filter_congr (fun entry _ => ?_)
    rw [← Bool.decide_and, decide_eq_decide]
    omega
  refine ⟨retains, ?_, ?_, ?_⟩
  · rw [raised, remaining]
    exact agrees.rises.filter _
  · rw [raised]
    rintro _ ⟨⟩ entry member
    obtain ⟨present, above⟩ := mem_live.mp member
    exact (consistent entry (mem_live.mpr ⟨present, by omega⟩)).2 above
  · obtain ⟨entry, isLive, reached⟩ :=
      (agrees.retains.bound_exists (fun key _ => logId.index ≤ key)).mp safe
    obtain ⟨before, final, shape, greatest, atEnd, last⟩ := agrees.greatest isLive
    have finalLive : final ∈ live codec log (purgeFloor store) := by simp [shape]
    rw [raised, remaining, shape]
    change store.wal.lastLogId = _
    rw [last]
    by_cases behind : logId.index + 1 ≤ (codec.logId final).index
    · have kept : [final].filter
          (fun entry => decide (logId.index + 1 ≤ (codec.logId entry).index)) = [final] := by
        refine filter_eq_self.mpr (fun stored single => ?_)
        rw [mem_singleton.mp single]
        exact decide_eq_true behind
      rw [filter_append, kept, List.getLast?_concat]
      rfl
    · -- the purge point is the last live entry, so nothing live remains behind it
      have same : codec.logId final = logId := (consistent final finalLive).1 (by omega)
      have nothing : (before ++ [final]).filter
          (fun entry => decide (logId.index + 1 ≤ (codec.logId entry).index)) = [] := by
        refine filter_eq_nil_iff.mpr (fun entry member => ?_)
        rcases mem_append.mp member with earlier | single
        · have lower := greatest entry earlier
          simp only [decide_eq_true_eq]
          omega
        · rw [mem_singleton.mp single, decide_eq_true_eq]
          exact behind
      rw [nothing, same]
      rfl

/-- The two values agree after every call that is safe. -/
theorem perform_agrees {operation : Operation Entry}
    (agrees : Agrees codec store log) (issued : Issued codec store operation)
    (safe : Safe store operation) :
    ∃ log, Agrees codec (perform codec format store operation) log := by
  cases operation with
  | saveVote vote => exact ⟨log, agrees.retains, agrees.rises, agrees.behind, agrees.last⟩
  | append entries => exact ⟨_, append_agrees codec agrees issued⟩
  | truncate logId => exact ⟨_, truncate_agrees codec agrees issued safe⟩
  | purge logId => exact ⟨_, purge_agrees codec format store log logId agrees issued safe⟩

/-- Passing the last live entry leaves a last log id below the purge point. -/
theorem purge_unsafe (log : List Entry) (logId : LogId)
    (agrees : Agrees codec store log) (issued : Issued codec store (.purge logId))
    (reports : Reports (store.purge format logId)) :
    Safe store (.purge logId : Operation Entry) := by
  by_contra beyond
  have below : ∀ binding ∈ store.wal.index.entries, binding.1 < logId.index := by
    intro binding member
    by_contra above
    exact beyond ⟨binding, member, Nat.le_of_not_lt above⟩
  have lower := (agrees.retains.bound_iff (fun key _ => key < logId.index)).mp below
  have equal : store.wal.lastLogId = some logId := by
    refine reports.2 (fun binding member => ?_)
    have listed := below binding (mem_of_mem_filter member)
    exact Nat.lt_succ_of_lt listed
  rw [agrees.last] at equal
  cases found : (live codec log (purgeFloor store)).getLast? with
  | none =>
    rw [found, Option.map_none, Option.none_or] at equal
    exact absurd (issued.1 logId equal) (Nat.lt_irrefl _)
  | some entry =>
    rw [found, Option.map_some, Option.some_or, Option.some_inj] at equal
    have smaller := lower entry (mem_of_getLast? found)
    rw [equal] at smaller
    exact Nat.lt_irrefl _ smaller

/-- Removing every live entry above a purge point loses the last log id. -/
theorem truncate_unsafe (log : List Entry) (logId : LogId) (agrees : Agrees codec store log)
    (issued : Issued codec store (.truncate logId)) (reports : Reports (store.truncate logId)) :
    Safe store (.truncate logId : Operation Entry) := by
  by_contra emptied
  simp only [Safe, not_or, not_exists, not_and, Nat.not_lt] at emptied
  obtain ⟨purgedSome, nonempty, above⟩ := emptied
  obtain ⟨purged, found⟩ := Option.ne_none_iff_exists'.mp purgedSome
  have floorLe : purgeFloor store ≤ logId.index := purge_floor_le store _ issued
  have higher := (agrees.retains.bound_iff (fun key _ => logId.index ≤ key)).mp above
  obtain ⟨binding, member⟩ := exists_mem_of_ne_nil _ nonempty
  obtain ⟨entry, isLive, -⟩ :=
    (agrees.retains.bound_exists (fun _ _ => True)).mp ⟨binding, member, trivial⟩
  have cut := (truncate_retains codec logId.index
    agrees.retains).2.2
  rw [Nat.max_eq_left floorLe] at cut
  have shorter :
      log.filter (fun entry => decide ((codec.logId entry).index < logId.index)) ≠ log := by
    intro same
    have lower := filter_eq_self.mp same entry (mem_live.mp isLive).1
    simp only [decide_eq_true_eq] at lower
    exact absurd lower (Nat.not_lt.mpr (higher entry isLive))
  have nothing : live codec (log.filter
      (fun entry => decide ((codec.logId entry).index < logId.index))) (purgeFloor store) = [] := by
    rw [live_truncated, filter_eq_nil_iff]
    intro stored present
    simpa using higher stored present
  have lost : (store.truncate logId).wal.lastLogId = none := by
    change (truncateSince store.wal logId.index).lastLogId = none
    rw [cut shorter, nothing]
    rfl
  obtain ⟨last, reported, -⟩ := reports.1 purged found
  rw [Option.mem_def] at reported
  exact absurd (lost.symm.trans reported) (by simp)

theorem reports_safe {operation : Operation Entry}
    (agrees : Agrees codec store log) (issued : Issued codec store operation)
    (reports : Reports (perform codec format store operation)) : Safe store operation := by
  cases operation with
  | saveVote vote | append entries => trivial
  | truncate logId => exact truncate_unsafe codec store log logId agrees issued reports
  | purge logId => exact purge_unsafe codec format store log logId agrees issued reports

variable {store}

/-! ## Runs -/

theorem fresh_agrees : Agrees codec fresh [] :=
  ⟨fresh_retains codec, List.Pairwise.nil, fun _ _ _ member => absurd member not_mem_nil, rfl⟩

/-- In every run of calls that the replication layer may make, the reported log state is
right after each call exactly when each call is safe. -/
theorem log_state_reported_iff (format : MetaFormat) (operations : List (Operation Entry))
    (issued : Meets (step codec format) (Issued codec) fresh operations) : Meets (step codec format)
        (fun store operation => Reports (perform codec format store operation)) fresh operations ↔
      Meets (step codec format) Safe fresh operations := by
  apply meets_congr_within (step codec format) _ Safe
    (fun store => ∃ log, Agrees codec store log)
  · rintro store operation next ⟨log, agrees⟩ permitted reports accepted
    cases accepted
    have safe := reports_safe codec format store agrees permitted reports
    exact perform_agrees codec format store agrees permitted safe
  · rintro store operation ⟨log, agrees⟩ permitted
    constructor
    · exact reports_safe codec format store agrees permitted
    intro safe
    obtain ⟨extended, kept⟩ :=
      perform_agrees codec format store agrees permitted safe
    exact kept.reports
  · exact ⟨[], fresh_agrees codec⟩
  · exact issued

/-- The purge of a snapshot beyond the local log, as after installing it. -/
def purgedBeyond : List (Operation BlankEntry) :=
  [.append [⟨1, 1, 1⟩], .purge ⟨1, 1, 5⟩]

/-- The conflicting tail above the purge point is truncated. -/
def truncatedToPurge : List (Operation BlankEntry) :=
  [.append [⟨1, 1, 1⟩, ⟨1, 1, 2⟩], .purge ⟨1, 1, 1⟩, .truncate ⟨1, 1, 2⟩]

/-- Purging and truncating within the log. -/
def trimmedWithin : List (Operation BlankEntry) :=
  [.append [⟨1, 1, 1⟩, ⟨1, 1, 2⟩, ⟨1, 1, 3⟩], .purge ⟨1, 1, 1⟩, .truncate ⟨1, 1, 3⟩,
    .append [⟨2, 2, 3⟩], .purge ⟨2, 2, 3⟩]

/-- A purge beyond the log reports an older last log id than the purge point, and a
truncation down to the purge point reports none at all. -/
theorem purge_point_outruns_log :
    Meets (step blankCodec tallyFormat) (Issued blankCodec) fresh purgedBeyond ∧
    (∃ store, run (step blankCodec tallyFormat) fresh purgedBeyond = some store ∧
      store.getLogState = ⟨some ⟨1, 1, 5⟩, some ⟨1, 1, 1⟩⟩ ∧ ¬ Reports store) ∧
    Meets (step blankCodec tallyFormat) (Issued blankCodec) fresh truncatedToPurge ∧
    ∃ store, run (step blankCodec tallyFormat) fresh truncatedToPurge = some store ∧
      store.getLogState = ⟨some ⟨1, 1, 1⟩, none⟩ ∧ ¬ Reports store := by
  refine ⟨by decide +kernel, ⟨_, rfl, ?_, ?_⟩, by decide +kernel, ⟨_, rfl, ?_, ?_⟩⟩
  all_goals decide +kernel

/-- A log trimmed within its bounds is reported rightly after every call. -/
theorem trimmed_within_reported :
    Meets (step blankCodec tallyFormat) (Issued blankCodec) fresh trimmedWithin ∧
    Meets (step blankCodec tallyFormat)
      (fun store operation => Reports (perform blankCodec tallyFormat store operation)) fresh
      trimmedWithin := by
  have issued : Meets (step blankCodec tallyFormat) (Issued blankCodec) fresh trimmedWithin :=
    by decide +kernel
  have safe : Meets (step blankCodec tallyFormat) Safe fresh trimmedWithin :=
    by decide +kernel
  exact ⟨issued, (log_state_reported_iff blankCodec tallyFormat trimmedWithin issued).mpr safe⟩

end PgVisor.LogStorage
