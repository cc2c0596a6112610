import PgVisor.LogStorage
import PgVisor.Transitions
import PgVisor.WalRecovery

/-!
# Crashes of the log store

A crash may interrupt any operation. Metadata is replaced through its temporary file: the
crash leaves any part of that file, or finds it renamed. Appending leaves any beginning of
the bytes it writes behind the old file, and truncation has happened or not. Opening the
store afterwards succeeds, and its metadata is that of the last operation that returned or
that of the one the crash interrupted.

Runs carry the acknowledged metadata, and the lowest index above every purge since the
store was opened; both are the observer's.
-/

namespace PgVisor.LogStorage

open AtomicFile WriteAheadLog PrefixCode Transitions List

variable {Entry : Type}

/-- What an operation that was interrupted leaves on disk. -/
def crashed (codec : Codec Entry) (format : MetaFormat) (store : LogStoreInner)
    (progress : Progress) : Operation Entry → Directory
  | .append entries =>
    { store.directory with
      walBytes := match progress with
        | .untouched => store.wal.file.bytes
        | .written count =>
          (WriteAheadLog.append codec store.wal entries).file.bytes.take
            (store.wal.file.bytes.length + count)
        | .finished => (WriteAheadLog.append codec store.wal entries).file.bytes }
  | .truncate logId =>
    { store.directory with
      walBytes := match progress with
        | .finished => (truncateSince store.wal logId.index).file.bytes
        | _ => store.wal.file.bytes }
  | operation =>
    { store.directory with
      metaFile := store.metaFile.interrupted
        (format.toVecPretty (operation.effect store.metadata)) progress }

/-- The store, the lowest index above every purge since it was opened, and the metadata of
the operations that returned. -/
structure Durable where
  store : LogStoreInner
  floor : Nat
  acknowledged : LogMetadata

/-- An operation returns, or a crash interrupts it and the store is opened again. -/
inductive CrashEvent (Entry : Type) where
  | call (operation : Operation Entry)
  | crash (operation : Operation Entry) (progress : Progress)

/-- The operation of an event, completed or not. -/
def CrashEvent.operation : CrashEvent Entry → Operation Entry
  | .call operation => operation
  | .crash operation _ => operation

def crashStep (codec : Codec Entry) (format : MetaFormat) (durable : Durable) :
    CrashEvent Entry → Option Durable
  | .call operation =>
    some ⟨perform codec format durable.store operation, operation.floor durable.floor,
      operation.effect durable.acknowledged⟩
  | .crash operation progress =>
    match openStore codec format (crashed codec format durable.store progress operation) with
    | some (.ok store) => some ⟨store, 0, store.metadata⟩
    | _ => none

def Durable.start : Durable := ⟨fresh, 0, default⟩

/-- The operation of the event, completed or not, is admitted. -/
def Continued (codec : Codec Entry) (durable : Durable) (event : CrashEvent Entry) : Prop :=
  Admits codec durable.store durable.floor event.operation

instance (codec : Codec Entry) (durable : Durable) (event : CrashEvent Entry) :
    Decidable (Continued codec durable event) :=
  inferInstanceAs (Decidable (Admits codec durable.store durable.floor event.operation))

/-- A call leaves the metadata of the operation. A crash leaves a store that opens, with the
metadata acknowledged before or that of the interrupted operation. -/
def Survives (codec : Codec Entry) (format : MetaFormat) (durable : Durable) :
    CrashEvent Entry → Prop
  | .call operation =>
    (perform codec format durable.store operation).metadata = operation.effect durable.acknowledged
  | .crash operation progress =>
    ∃ store, openStore codec format (crashed codec format durable.store progress operation) =
        some (.ok store) ∧ (store.metadata = durable.acknowledged ∨
        store.metadata = operation.effect durable.acknowledged)

/-- The entries in the log file after a crash inside an operation: of a batch, those whose
records were written whole. -/
def Operation.left (codec : Codec Entry) (floor : Nat) (log : List Entry) (progress : Progress) :
    Operation Entry → List Entry
  | .append entries =>
    match progress with
    | .untouched => log
    | .written count => log ++ wholeBefore (record codec) count entries
    | .finished => log ++ entries
  | operation => if progress = .finished then operation.stored codec floor log else log

/-- The floor and the entries in the log file after an event. Opening forgets the purges. -/
def CrashEvent.effect (codec : Codec Entry) (state : Nat × List Entry) :
    CrashEvent Entry → Nat × List Entry
  | .call operation => (operation.floor state.1, operation.stored codec state.1 state.2)
  | .crash operation progress => (0, operation.left codec state.1 state.2 progress)

/-! ## One event -/

structure Recoverable (codec : Codec Entry) (format : MetaFormat) (durable : Durable)
    (log : List Entry) : Prop where
  retains : Retains codec durable.store.wal log durable.floor
  fits : Fits codec log
  persisted : Persisted format durable.store
  acknowledged : durable.store.metadata = durable.acknowledged

variable (codec : Codec Entry) (format : MetaFormat) (durable : Durable) (log : List Entry)
  (operation : Operation Entry) (progress : Progress)

/-- The log file after a crash is a cut of the log that the operation was to leave, or the
old one. -/
theorem crashed_wal (recoverable : Recoverable codec format durable log)
    (admitted : Admits codec durable.store durable.floor operation) :
    ∃ cut stored, (crashed codec format durable.store progress operation).walBytes =
        (image codec stored).take cut ∧ Ordered codec stored ∧ Fits codec stored ∧
      wholeBefore (record codec) cut stored = operation.left codec durable.floor log progress := by
  have whole (stored : List Entry) :
      wholeBefore (record codec) (image codec stored).length stored = stored := by
    simpa [wholeBefore, image, encode] using @wholeBefore_append _ _ (record codec) stored [] 0
  have untouched : ∃ cut stored, durable.store.wal.file.bytes = (image codec stored).take cut ∧
      Ordered codec stored ∧ Fits codec stored ∧ wholeBefore (record codec) cut stored = log :=
    ⟨(image codec log).length, log, by rw [take_length, recoverable.retains.bytes],
      recoverable.retains.ordered, recoverable.fits, whole log⟩
  cases operation with
  | saveVote vote | purge logId => cases progress <;> exact untouched
  | append entries =>
    have written := append_bytes codec durable.store.wal entries
    rw [recoverable.retains.bytes, ← image_append] at written
    have ordered := continues_ordered codec durable.store log entries durable.floor
      recoverable.retains admitted.1
    have fits : Fits codec (log ++ entries) :=
      stored_fits codec durable.store recoverable.fits admitted
    cases progress with
    | untouched => exact untouched
    | written count =>
      refine ⟨_, log ++ entries, congrArg (List.take _) written, ordered, fits, ?_⟩
      rw [recoverable.retains.bytes]
      exact wholeBefore_append log entries count
    | finished =>
      exact ⟨_, log ++ entries, by rw [take_length]; exact written, ordered, fits, whole _⟩
  | truncate logId =>
    cases progress with
    | untouched | written count => exact untouched
    | finished =>
      have shortened := (truncate_retains codec logId.index
        recoverable.retains).1
      exact ⟨_, _, by rw [take_length]; exact shortened.bytes, shortened.ordered,
        fun entry member => recoverable.fits entry (mem_of_mem_filter member), whole _⟩

/-- The metadata file after a crash holds the old metadata or that of the operation. -/
theorem crashed_meta (persisted : Persisted format durable.store) : ∃ metadata, loadMeta format
        (crashed codec format durable.store progress operation).metaFile.content = .ok metadata ∧
      (metadata = durable.store.metadata ∨ metadata = operation.effect durable.store.metadata) := by
  have replaced (payload : LogMetadata) :
      ∃ metadata, loadMeta format (durable.store.metaFile.interrupted
          (format.toVecPretty payload) progress).content = .ok metadata ∧
        (metadata = durable.store.metadata ∨ metadata = payload) := by
    rcases durable.store.metaFile.interrupted_content (format.toVecPretty payload) progress with
      old | new
    · exact ⟨_, by rw [old]; exact persisted, .inl rfl⟩
    · exact ⟨_, by rw [new]; exact load_written format payload, .inr rfl⟩
  cases operation with
  | saveVote vote | purge logId => exact replaced _
  | append entries | truncate logId => exact ⟨_, persisted, .inl rfl⟩

/-- The store opens after every crash, and everything in it is again recoverable. -/
theorem crash_recovers (recoverable : Recoverable codec format durable log)
    (continued : Continued codec durable (.crash operation progress)) :
    ∃ store, openStore codec format (crashed codec format durable.store progress operation) =
        some (.ok store) ∧ (store.metadata = durable.acknowledged ∨
        store.metadata = operation.effect durable.acknowledged) ∧
      Recoverable codec format ⟨store, 0, store.metadata⟩
        (operation.left codec durable.floor log progress) := by
  obtain ⟨cut, stored, bytes, ordered, fits, left⟩ :=
    crashed_wal codec format durable log operation progress recoverable continued
  obtain ⟨wal, opened, stores⟩ := open_cut stored ordered fits cut
  obtain ⟨metadata, loaded, either⟩ :=
    crashed_meta codec format durable operation progress recoverable.persisted
  rw [recoverable.acknowledged] at either
  rw [left] at stores
  exact ⟨_, open_store_ok (bytes ▸ opened) loaded, either,
    ⟨stores.retains, stores.fits, loaded, rfl⟩⟩

theorem start_recoverable : Recoverable codec format .start [] :=
  ⟨fresh_retains codec, fun _ member => absurd member not_mem_nil, fresh_persisted format, rfl⟩

theorem call_recoverable (recoverable : Recoverable codec format durable log)
    (continued : Continued codec durable (.call operation)) : Recoverable codec format
      ⟨perform codec format durable.store operation, operation.floor durable.floor,
        operation.effect durable.acknowledged⟩
      (operation.stored codec durable.floor log) := by
  refine ⟨?_, ?_, ?_, ?_⟩
  · exact perform_retains codec format durable.store
      recoverable.retains continued
  · exact stored_fits codec durable.store recoverable.fits continued
  · exact perform_persisted codec format _ operation recoverable.persisted
  · rw [perform_metadata, recoverable.acknowledged]

/-- Every event keeps the store recoverable, and the metadata after it is the acknowledged
one with or without the operation of the event. -/
theorem event_recoverable {next : Durable} {event : CrashEvent Entry}
    (recoverable : ∃ log, Recoverable codec format durable log)
    (continued : Continued codec durable event)
    (accepted : crashStep codec format durable event = some next) :
    (∃ log, Recoverable codec format next log) ∧ (next.acknowledged = durable.acknowledged ∨
        next.acknowledged = event.operation.effect durable.acknowledged) := by
  obtain ⟨log, recoverable⟩ := recoverable
  cases event with
  | call operation =>
    cases accepted
    exact ⟨⟨_, call_recoverable codec format durable log operation recoverable continued⟩, .inr rfl⟩
  | crash operation progress =>
    obtain ⟨store, opened, either, kept⟩ :=
      crash_recovers codec format durable log operation progress recoverable continued
    rw [crashStep, opened, Option.some.injEq] at accepted
    subst accepted
    exact ⟨⟨_, kept⟩, either⟩

theorem event_survives (event : CrashEvent Entry)
    (recoverable : ∃ log, Recoverable codec format durable log)
    (continued : Continued codec durable event) : Survives codec format durable event := by
  obtain ⟨log, recoverable⟩ := recoverable
  cases event with
  | call operation => rw [Survives, perform_metadata, recoverable.acknowledged]
  | crash operation progress =>
    obtain ⟨store, opened, either, -⟩ :=
      crash_recovers codec format durable log operation progress recoverable continued
    exact ⟨store, opened, either⟩

/-- Every run goes on after each crash, and the log file keeps the effects of its events. -/
theorem run_recoverable {events : List (CrashEvent Entry)} {durable log}
    (recoverable : Recoverable codec format durable log)
    (continued : Meets (crashStep codec format) (Continued codec) durable events) :
    let stored := events.foldl (CrashEvent.effect codec) (durable.floor, log)
    ∃ final, run (crashStep codec format) durable events = some final ∧
      final.floor = stored.1 ∧ Recoverable codec format final stored.2 := by
  induction events generalizing durable log with
  | nil => exact ⟨durable, rfl, rfl, recoverable⟩
  | cons event rest ih =>
    cases event with
    | call operation =>
      exact ih (call_recoverable codec format durable log operation recoverable continued.1)
        (continued.2 _ rfl)
    | crash operation progress =>
      obtain ⟨store, opened, -, kept⟩ :=
        crash_recovers codec format durable log operation progress recoverable continued.1
      have accepted : crashStep codec format durable (.crash operation progress) =
          some ⟨store, 0, store.metadata⟩ := by
        rw [crashStep, opened]
      obtain ⟨final, reached, still⟩ := ih kept (continued.2 _ accepted)
      exact ⟨final, (run_cons accepted).trans reached, still⟩

/-! ## Runs -/

/-- The operation writes a vote. -/
def Operation.Votes : Operation Entry → Prop
  | .saveVote _ => True
  | _ => False

theorem vote_kept (metadata : LogMetadata) (abstains : ¬ operation.Votes) :
    (operation.effect metadata).vote = metadata.vote := by
  cases operation with
  | saveVote vote => exact absurd trivial abstains
  | append entries | truncate logId | purge logId => rfl

/-- In every run with crashes inside any operations, every call leaves its metadata, every
crash leaves a store that opens with the acknowledged metadata or that of the interrupted
operation, and a vote that was saved is read until another one is written. -/
theorem metadata_survives (codec : Codec Entry) (format : MetaFormat)
    (events : List (CrashEvent Entry))
    (continued : Meets (crashStep codec format) (Continued codec) .start events) :
    Meets (crashStep codec format) (Survives codec format) .start events ∧
    ∀ before vote after final, events = before ++ .call (.saveVote vote) :: after →
      (∀ event ∈ after, ¬ event.operation.Votes) →
      run (crashStep codec format) .start events = some final →
      final.store.readVote = some vote := by
  have kept : ∀ durable event next, (∃ log, Recoverable codec format durable log) →
      Continued codec durable event → crashStep codec format durable event = some next →
      ∃ log, Recoverable codec format next log :=
    fun durable event next recoverable permitted accepted =>
      (event_recoverable codec format durable recoverable permitted accepted).1
  have initial : ∃ log, Recoverable codec format .start log := ⟨[], start_recoverable codec format⟩
  constructor
  · exact meets_of_invariant _ _ _ _ kept (event_survives codec format) initial
      continued
  rintro before vote after final rfl abstain reached
  obtain ⟨voting, arrived, rest⟩ := run_append_inv reached
  have recoverable := run_invariant _ _ _ kept initial
    (meets_before continued) arrived
  have remaining := meets_after continued arrived
  obtain ⟨voted, accepted, later⟩ := run_cons_inv rest
  have recorded := kept voting _ voted recoverable remaining.1 accepted
  cases accepted
  -- from here on no event writes a vote, so the acknowledged one stays
  obtain ⟨⟨log, final_recoverable⟩, holds⟩ := run_invariant (crashStep codec format)
    (fun durable event => Continued codec durable event ∧ ¬ event.operation.Votes)
    (fun durable => (∃ log, Recoverable codec format durable log) ∧
      durable.acknowledged.vote = some vote)
    (fun durable event next ⟨recoverable, same⟩ ⟨permitted, abstains⟩ accepted => by
      obtain ⟨still, either⟩ :=
        event_recoverable codec format durable recoverable permitted accepted
      refine ⟨still, ?_⟩
      rcases either with old | new
      · rw [old, same]
      · rw [new, vote_kept event.operation _ abstains, same]) ⟨recorded, rfl⟩
    ((meets_and).mpr ⟨remaining.2 _ rfl, meets_labels abstain⟩) later
  rw [LogStoreInner.readVote, final_recoverable.acknowledged, holds]

/-- A vote and two entries; a purge whose temporary file is torn; an append torn inside its
record; and a purge that was renamed. -/
def tornRun : List (CrashEvent BlankEntry) :=
  [.call (.append [⟨1, 1, 1⟩, ⟨1, 1, 2⟩]), .call (.saveVote ⟨3, 2, true⟩),
    .crash (.purge ⟨1, 1, 1⟩) (.written 3), .crash (.append [⟨2, 2, 3⟩]) (.written 20),
    .crash (.purge ⟨1, 1, 2⟩) .finished]

/-- The vote outlives the three crashes. -/
theorem torn_run_keeps_vote :
    Meets (crashStep blankCodec tallyFormat) (Survives blankCodec tallyFormat) .start tornRun ∧
    ∃ final, run (crashStep blankCodec tallyFormat) .start tornRun = some final ∧
      final.store.readVote = some ⟨3, 2, true⟩ ∧
      final.store.getLogState = ⟨some ⟨1, 1, 2⟩, some ⟨1, 1, 2⟩⟩ := by
  obtain ⟨survives, keeps⟩ := metadata_survives blankCodec tallyFormat tornRun (by decide +kernel)
  obtain ⟨final, reached, state⟩ : ∃ final, run (crashStep blankCodec tallyFormat) .start tornRun =
      some final ∧ final.store.getLogState = ⟨some ⟨1, 1, 2⟩, some ⟨1, 1, 2⟩⟩ := by
    decide +kernel
  have vote := keeps (tornRun.take 1) ⟨3, 2, true⟩ (tornRun.drop 2) final rfl (by
    intro event member
    simp only [tornRun, drop_succ_cons, drop_zero, mem_cons, not_mem_nil, or_false] at member
    rcases member with rfl | rfl | rfl <;> exact fun votes => votes) reached
  exact ⟨survives, final, reached, vote, state⟩

/-- In every run with crashes inside any operations the store opens after each, and every range
then reads, up to the first gap, the live ones of the entries that the calls have stored and the
crashes have left: every call that returned has its whole effect. -/
theorem entries_survive (codec : Codec Entry) (format : MetaFormat)
    (events : List (CrashEvent Entry))
    (continued : Meets (crashStep codec format) (Continued codec) .start events) :
    let stored := events.foldl (CrashEvent.effect codec) (0, [])
    ∃ final, run (crashStep codec format) .start events = some final ∧
      ∀ arithmetic start stop,
        (tryGetLogEntries codec arithmetic final.store (.included start) (.excluded stop)).map
            Prod.fst =
          some (.ok (consecutive codec (live codec stored.2 stored.1) (stop - start) start)) := by
  obtain ⟨final, reached, floor, kept⟩ :=
    run_recoverable codec format (start_recoverable codec format) continued
  refine ⟨final, reached, fun arithmetic start stop => ?_⟩
  have retains := kept.retains
  rw [floor] at retains
  exact congrArg some (read_range_live retains kept.fits start stop)

/-- Both entries outlive the three crashes, and of the torn one nothing is read. -/
theorem torn_run_keeps_entries :
    ∃ final, run (crashStep blankCodec tallyFormat) .start tornRun = some final ∧
      (tryGetLogEntries blankCodec .checked final.store (.included 1) (.excluded 4)).map Prod.fst =
        some (.ok [⟨1, 1, 1⟩, ⟨1, 1, 2⟩]) := by
  obtain ⟨final, reached, reads⟩ :=
    entries_survive blankCodec tallyFormat tornRun (by decide +kernel)
  exact ⟨final, reached, (reads .checked 1 4).trans (by decide +kernel)⟩

end PgVisor.LogStorage
