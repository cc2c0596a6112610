import PgVisor.PurgePoint

/-!
# Reopening a purged log store

Purging edits the index in memory and the metadata; the records stay in the log file.
Opening rebuilds the index from the file alone and never consults the purge point, so a
store that is reopened after a purge removed an entry binds that entry again. In every
other run the index survives reopening and purged entries stay unreadable.

Runs are observed together with the purged log ids and with whether a purge has removed a
live entry; neither is part of the store.
-/

namespace PgVisor.LogStorage

open OrderedIndex WriteAheadLog Transitions List

variable {wal : Wal} {Entry : Type}

/-- A store, every log id it was purged to, and whether a purge removed an entry. -/
structure Observed where
  store : LogStoreInner
  purged : List LogId
  dropped : Bool

/-- The store is called, or closed and opened again. -/
inductive Event (Entry : Type) where
  | call (operation : Operation Entry)
  | reopen

/-- The lowest index above every purged one. -/
def purgedFloor : List LogId → Nat
  | [] => 0
  | logId :: rest => max (purgedFloor rest) (logId.index + 1)

def Observed.calls (codec : Codec Entry) (format : MetaFormat) (observed : Observed) :
    Operation Entry → Observed
  | .purge logId =>
    ⟨perform codec format observed.store (.purge logId), logId :: observed.purged,
      observed.dropped ||
        observed.store.wal.index.entries.any (fun binding => decide (binding.1 ≤ logId.index))⟩
  | operation => { observed with store := perform codec format observed.store operation }

def reopenStep (codec : Codec Entry) (format : MetaFormat) (observed : Observed) :
    Event Entry → Option Observed
  | .call operation => some (observed.calls codec format operation)
  | .reopen =>
    match openStore codec format observed.store.directory with
    | some (.ok store) => some { observed with store }
    | _ => none

def Observed.start : Observed := ⟨fresh, [], false⟩

/-- The calls are admitted: appended entries lie above everything that was purged. -/
def Admitted (codec : Codec Entry) (observed : Observed) : Event Entry → Prop
  | .call operation => Admits codec observed.store (purgedFloor observed.purged) operation
  | .reopen => True

instance (codec : Codec Entry) (observed : Observed) (event : Event Entry) :
    Decidable (Admitted codec observed event) :=
  match event with
  | .call operation =>
    inferInstanceAs
      (Decidable (Admits codec observed.store (purgedFloor observed.purged) operation))
  | .reopen => inferInstanceAs (Decidable True)

/-- No range, read in either arithmetic, returns an entry at or below a purged log id. -/
def Hidden (codec : Codec Entry) (observed : Observed) : Prop :=
  ∀ purged ∈ observed.purged, ∀ arithmetic lower upper entries store,
    tryGetLogEntries codec arithmetic observed.store lower upper = some (.ok entries, store) →
      ∀ entry ∈ entries, purged.index < (codec.logId entry).index

/-- The step succeeds, purged entries stay hidden, and reopening keeps the live index. -/
def Keeps (codec : Codec Entry) (format : MetaFormat) (observed : Observed)
    (event : Event Entry) : Prop :=
  ∃ next, reopenStep codec format observed event = some next ∧ Hidden codec next ∧
    (event = .reopen → next.store.wal.index = observed.store.wal.index)

/-- The store is not reopened once a purge has removed an entry. -/
def ReopensWhole (observed : Observed) (event : Event Entry) : Prop :=
  event = .reopen → observed.dropped = false

instance (observed : Observed) (event : Event Entry) : Decidable (ReopensWhole observed event) :=
  match event with
  | .call _ => .isTrue (fun impossible => nomatch impossible)
  | .reopen =>
    decidable_of_iff (observed.dropped = false) ⟨fun whole _ => whole, fun whole => whole rfl⟩

/-! ## What the log file keeps -/

structure Traced (codec : Codec Entry) (format : MetaFormat) (observed : Observed)
    (log : List Entry) : Prop where
  retains : Retains codec observed.store.wal log (purgedFloor observed.purged)
  fits : Fits codec log
  persisted : Persisted format observed.store
  dropped : observed.dropped = true ↔
    ∃ entry ∈ log, (codec.logId entry).index < purgedFloor observed.purged

theorem purged_floor_le {purged logId} (member : logId ∈ purged) :
    logId.index < purgedFloor purged := by
  induction purged with
  | nil => exact absurd member not_mem_nil
  | cons first rest ih =>
    rw [purgedFloor]
    rcases mem_cons.mp member with rfl | later
    · omega
    · have lower := ih later
      omega

variable {codec : Codec Entry} {format : MetaFormat} {observed : Observed} {log : List Entry}
  (traced : Traced codec format observed log)

include traced

/-- Whatever is read is live, so it lies above every purged log id. -/
theorem Traced.hidden : Hidden codec observed := by
  intro purged member arithmetic lower upper entries store read entry present
  simp only [tryGetLogEntries, Option.bind_eq_bind, Option.bind_eq_some_iff,
    Option.pure_def, Option.some.injEq, Prod.mk.injEq] at read
  obtain ⟨start, -, stop, -, result, -⟩ := read
  rw [read_range_live traced.retains traced.fits, Except.ok.injEq] at result
  subst result
  have isLive := mem_consecutive codec _ _ _ entry present
  have floorLe := purged_floor_le member
  have atFloor := (mem_live.mp isLive).2
  omega

theorem Traced.calls (operation : Operation Entry)
    (admitted : Admitted codec observed (.call operation)) :
    ∃ log, Traced codec format (observed.calls codec format operation) log := by
  have retains := perform_retains codec format observed.store traced.retains
    admitted
  have fits := stored_fits codec observed.store traced.fits admitted
  have persisted := perform_persisted codec format observed.store operation traced.persisted
  cases operation with
  | saveVote vote => exact ⟨log, retains, fits, persisted, traced.dropped⟩
  | append entries =>
    refine ⟨log ++ entries, retains, fits, persisted, traced.dropped.trans ?_⟩
    constructor
    · rintro ⟨entry, member, below⟩
      exact ⟨entry, mem_append_left _ member, below⟩
    rintro ⟨entry, member, below⟩
    rcases mem_append.mp member with stored | added
    · exact ⟨entry, stored, below⟩
    · exact absurd below (Nat.not_lt.mpr (admitted.1.2 entry added).1)
  | truncate logId =>
    refine ⟨_, retains, fits, persisted, traced.dropped.trans ?_⟩
    constructor
    · rintro ⟨entry, member, below⟩
      refine ⟨entry, mem_filter.mpr ⟨member, decide_eq_true ?_⟩, below⟩
      exact Nat.lt_of_lt_of_le below (Nat.le_max_right _ _)
    · rintro ⟨entry, member, below⟩
      exact ⟨entry, mem_of_mem_filter member, below⟩
  | purge logId =>
    refine ⟨log, retains, fits, persisted, ?_⟩
    have removed := traced.retains.bound_exists (fun key _ => key ≤ logId.index)
    simp only [Observed.calls, Bool.or_eq_true, traced.dropped, any_eq_true,
      decide_eq_true_eq, removed, purgedFloor]
    constructor
    · rintro (⟨entry, member, below⟩ | ⟨entry, isLive, below⟩)
      · exact ⟨entry, member, by omega⟩
      · exact ⟨entry, (mem_live.mp isLive).1, by omega⟩
    · rintro ⟨entry, member, below⟩
      by_cases earlier : (codec.logId entry).index < purgedFloor observed.purged
      · exact .inl ⟨entry, member, earlier⟩
      · exact .inr ⟨entry, mem_live.mpr ⟨member, Nat.le_of_not_lt earlier⟩, by omega⟩

/-- Reopening finds the metadata and binds every record of the file. -/
theorem Traced.reopens :
    ∃ wal, reopenStep codec format observed .reopen =
        some { observed with store := ⟨observed.store.metadata, observed.store.metaFile, wal⟩ } ∧
      Stores codec wal log := by
  obtain ⟨wal, opened, stores⟩ := open_stores codec traced.retains.ordered traced.fits
  refine ⟨wal, ?_, stores⟩
  have found : openStore codec format observed.store.directory =
      some (.ok ⟨observed.store.metadata, observed.store.metaFile, wal⟩) := by
    refine open_store_ok ?_ traced.persisted
    rw [LogStoreInner.directory, traced.retains.bytes, opened]
  rw [reopenStep, found]

/-- The index survives exactly when no record of the file had been dropped from it. -/
theorem Traced.index_kept_iff (stores : Stores codec wal log) :
    wal.index = observed.store.wal.index ↔ observed.dropped = false := by
  rw [OrderedMap.ext_iff, stores.index, traced.retains.index, eq_comm, filter_eq_self,
    ← Bool.not_eq_true, traced.dropped]
  have whole := stores.retains.bound_iff (fun key _ => purgedFloor observed.purged ≤ key)
  rw [stores.index] at whole
  simp only [decide_eq_true_eq]
  rw [whole]
  simp [live]

theorem Traced.reopened
    (stores : Stores codec wal log) (same : wal.index = observed.store.wal.index) :
    Traced codec format
      { observed with store := ⟨observed.store.metadata, observed.store.metaFile, wal⟩ } log :=
  { traced with retains := ⟨stores.bytes, same ▸ traced.retains.index, stores.ordered⟩ }

omit traced

/-! ## Runs -/

theorem start_traced (codec : Codec Entry) (format : MetaFormat) : Traced codec format .start [] :=
  ⟨fresh_retains codec, fun _ member => absurd member not_mem_nil, fresh_persisted format,
    by simp [Observed.start]⟩

/-- One step keeps the purged entries hidden and the index whole exactly when it does not
reopen a store that has dropped an entry. -/
theorem keeps_iff {event : Event Entry} (traced : Traced codec format observed log)
    (admitted : Admitted codec observed event) :
    Keeps codec format observed event ↔ ReopensWhole observed event := by
  cases event with
  | call operation =>
    obtain ⟨extended, kept⟩ := traced.calls operation admitted
    constructor
    · intro _ impossible
      cases impossible
    intro _
    refine ⟨_, rfl, kept.hidden, ?_⟩
    intro impossible
    cases impossible
  | reopen =>
    obtain ⟨wal, opened, stores⟩ := traced.reopens
    constructor
    · rintro ⟨next, accepted, -, same⟩ -
      rw [opened, Option.some.injEq] at accepted
      subst accepted
      exact (traced.index_kept_iff stores).mp (same rfl)
    · intro whole
      have same := (traced.index_kept_iff stores).mpr (whole rfl)
      exact ⟨_, opened, (traced.reopened stores same).hidden, fun _ => same⟩

theorem step_traced {next : Observed}
    {event : Event Entry} (traced : Traced codec format observed log)
    (admitted : Admitted codec observed event) (whole : ReopensWhole observed event)
    (accepted : reopenStep codec format observed event = some next) :
    ∃ log, Traced codec format next log := by
  cases event with
  | call operation =>
    cases accepted
    exact traced.calls operation admitted
  | reopen =>
    obtain ⟨wal, opened, stores⟩ := traced.reopens
    rw [opened, Option.some.injEq] at accepted
    subst accepted
    exact ⟨log, traced.reopened stores ((traced.index_kept_iff stores).mpr (whole rfl))⟩

/-- In every run of calls and reopenings, each step keeps purged entries hidden and
reopening keeps the live index exactly when no reopening follows a purge that removed a
live entry. -/
theorem purged_hidden_iff (codec : Codec Entry) (format : MetaFormat) (events : List (Event Entry))
    (admitted : Meets (reopenStep codec format) (Admitted codec) .start events) :
    Meets (reopenStep codec format) (Keeps codec format) .start events ↔
      Meets (reopenStep codec format) ReopensWhole .start events := by
  apply meets_congr_within (reopenStep codec format) (Keeps codec format)
    ReopensWhole (fun observed => ∃ log, Traced codec format observed log)
  · rintro observed event next ⟨log, traced⟩ permitted keeps accepted
    have whole := (keeps_iff traced permitted).mp keeps
    exact step_traced traced permitted whole accepted
  · rintro observed event ⟨log, traced⟩ permitted
    exact keeps_iff traced permitted
  · exact ⟨[], start_traced codec format⟩
  · exact admitted

/-- Two entries and a purge of the first. -/
def purgedFirst : List (Event BlankEntry) :=
  [.call (.append [⟨1, 1, 1⟩, ⟨1, 1, 2⟩]), .call (.purge ⟨1, 1, 1⟩)]

/-- The same calls with the store reopened before the purge, and a third entry. -/
def reopenedThenPurged : List (Event BlankEntry) :=
  [.call (.append [⟨1, 1, 1⟩, ⟨1, 1, 2⟩]), .reopen, .call (.purge ⟨1, 1, 1⟩),
    .call (.append [⟨1, 1, 3⟩])]

/-- What reading from index one on returns. -/
def readFromOne (observed : Observed) : Option (List BlankEntry) :=
  (tryGetLogEntries blankCodec .checked observed.store (.included 1) .unbounded).bind
    (fun read => read.1.toOption)

/-- The purged entry is read again after reopening. -/
theorem purged_entry_returns :
    Meets (reopenStep blankCodec tallyFormat) (Admitted blankCodec) .start
        (purgedFirst ++ [.reopen]) ∧ ∃ closed reopened,
      run (reopenStep blankCodec tallyFormat) .start purgedFirst = some closed ∧
      reopenStep blankCodec tallyFormat closed .reopen = some reopened ∧
      reopened.purged = [⟨1, 1, 1⟩] ∧ readFromOne reopened = some [⟨1, 1, 1⟩, ⟨1, 1, 2⟩] ∧
      reopened.store.wal.index ≠ closed.store.wal.index := by
  simp only [exists_and_left]
  decide +kernel

/-- A store reopened before its first purge keeps the purged entry hidden. -/
theorem reopened_then_purged_hidden :
    Meets (reopenStep blankCodec tallyFormat) (Admitted blankCodec) .start reopenedThenPurged ∧
    Meets (reopenStep blankCodec tallyFormat) (Keeps blankCodec tallyFormat) .start
      reopenedThenPurged := by
  have admitted : Meets (reopenStep blankCodec tallyFormat) (Admitted blankCodec) .start
      reopenedThenPurged :=
    by decide +kernel
  have whole : Meets (reopenStep blankCodec tallyFormat) ReopensWhole .start reopenedThenPurged :=
    by decide +kernel
  exact ⟨admitted, (purged_hidden_iff blankCodec tallyFormat reopenedThenPurged admitted).mpr whole⟩

end PgVisor.LogStorage
