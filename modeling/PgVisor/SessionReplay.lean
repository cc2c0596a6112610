import Mathlib.Algebra.GroupWithZero.Nat
import PgVisor.ClientSession

/-!
# Replayed queries

A query may reach several connections: the session writes it again when a backend
fails before anything of its answer was relayed. An observer notes, for the current
query, the connections that received it completely, which of them were lost before a
byte was relayed, and how many bytes were relayed.

A server that received the query executes it once or not at all, whether or not the
session still listens. The replay is tied to the relayed bytes and not to execution,
so a statement is executed again exactly by way of a connection that was lost in
silence: of all other connections at most one received it.
-/

namespace PgVisor.ClientSession

open ByteWords WireFrames ConnectionPool QueryRouting Transitions

variable {call : QueryCall} {backend : PooledConnection} {buffer : Bytes} {relayedBytes : Nat}

/-- A connection that received the current query, and whether it was lost before
anything was relayed. -/
structure Dispatch where
  socket : Nat
  silent : Bool
deriving DecidableEq

/-- The current query as seen from outside, latest dispatch first. -/
structure Journal where
  dispatches : List Dispatch
  relayedBytes : Nat
deriving DecidableEq

def Journal.new : Journal where
  dispatches := []
  relayedBytes := 0

/-- The latest connection was lost before it answered. -/
def markSilent : List Dispatch → List Dispatch
  | [] => []
  | latest :: earlier => { latest with silent := true } :: earlier

/-- Bytes sent to the client from a backend. -/
def Output.relayedLength : Output → Nat
  | .relayed _ _ frame => frame.length
  | _ => 0

/-- What the observer notes about one step. -/
def Journal.record (journal : Journal) (session : Session) (event : Event)
    (outputs : List Output) : Journal :=
  match event with
  | .message (.query _) => Journal.new
  | .written =>
    match session.phase with
    | .writing _ _ backend =>
      { journal with
        dispatches := { socket := backend.stream.socket, silent := false } :: journal.dispatches }
    | _ => journal
  | .lost =>
    if journal.relayedBytes = 0 then
      { journal with dispatches := markSilent journal.dispatches }
    else journal
  | .relayed =>
    { journal with relayedBytes := journal.relayedBytes + (outputs.map Output.relayedLength).sum }
  | _ => journal

def journalStep (state : Session × Journal) (event : Event) : Option (Session × Journal) :=
  (state.1.step event).map fun (next, outputs) =>
    (next, state.2.record state.1 event outputs)

/-- Dispatches that were not lost in silence. -/
def Journal.loud (journal : Journal) : List Dispatch :=
  journal.dispatches.filter fun dispatch => !dispatch.silent

/-- How far the current query has come: while a backend is sought or written to, every
earlier one was lost in silence, and while an answer is read only the latest is not. -/
def Progress (state : Session × Journal) : Prop :=
  match state.1.phase with
  | .acquiring _ _ => state.2.loud = [] ∧ state.2.relayedBytes = 0
  | .writing _ _ _ => state.2.loud = [] ∧ state.2.relayedBytes = 0
  | .reading _ _ _ clientBytesWritten =>
    (∃ latest earlier, state.2.dispatches = latest :: earlier ∧
      earlier.filter (fun dispatch => !dispatch.silent) = []) ∧
    state.2.relayedBytes = clientBytesWritten
  | _ => state.2.loud.length ≤ 1

theorem Progress.loud_le {state} (progress : Progress state) : state.2.loud.length ≤ 1 := by
  unfold Progress at progress
  split at progress
  · simp [progress.1]
  · simp [progress.1]
  · obtain ⟨⟨latest, earlier, dispatches, silent⟩, -⟩ := progress
    simp only [Journal.loud, dispatches, List.filter_cons]
    split <;> simp [silent]
  · exact progress

variable {session : Session} {journal : Journal}

theorem progress_served (conn : PooledConnection) (progress : Progress (session, journal)) :
    Progress (session.withOwned conn, journal) := by
  unfold Session.withOwned
  unfold Progress at progress ⊢
  cases phase : session.phase <;> simpa [phase] using progress

/-- The observer notes nothing of messages other than queries. -/
theorem record_other (journal : Journal) (session : Session) {message}
    (outputs : List Output) (other : ∀ sql, message ≠ .query sql) :
    journal.record session (.message message) outputs = journal := by
  cases message with
  | query sql => exact absurd rfl (other sql)
  | _ => rfl

/-- One step keeps the account of the current query. -/
theorem step_progress {next event outputs}
    (progress : Progress (session, journal)) (moved : session.step event = some (next, outputs)) :
    Progress (next, journal.record session event outputs) := by
  have bound : journal.loud.length ≤ 1 := progress.loud_le
  cases step_moves moved with
  -- a new query starts with nothing dispatched and nothing relayed
  | query | unheld => exact ⟨rfl, rfl⟩
  | forwarded phase held other =>
    rw [record_other journal session _ other]
    simpa only [Progress, phase] using bound
  | ignored phase other => rwa [record_other journal session _ other]
  | declined => exact progress
  | acquired phase | rewrite phase | received phase =>
    simpa only [Progress, phase, Journal.record] using progress
  | written phase =>
    simp only [Progress, phase] at progress
    simp only [Progress, Journal.record, phase]
    exact ⟨⟨_, _, rfl, progress.1⟩, progress.2⟩
  -- a loss in silence leaves no loud dispatch; any other loss ends the query
  | replayed phase =>
    simp only [Progress, phase] at progress
    obtain ⟨⟨latest, earlier, dispatches, silent⟩, count⟩ := progress
    simp only [Journal.record, count, ↓reduceIte, Progress]
    exact ⟨by simp [Journal.loud, dispatches, markSilent, silent], trivial⟩
  | failed phase unframed shown =>
    simp only [Progress, phase] at progress
    simpa only [Journal.record, progress.2, shown, ↓reduceIte, Progress] using bound
  | more phase =>
    simp only [Progress, phase] at progress
    refine ⟨progress.1, ?_⟩
    simp [Journal.record, Output.relayedLength, progress.2]
  | @released backend ends =>
    cases ends with
    | true | false => exact bound
  | notified served | ready served =>
    obtain ⟨conn, stream, -, -, rfl⟩ := serve_cases served
    exact progress_served _ progress
  | upgraded | refused | insecure | started | cancelled | closedEarly | terminated | closed | left
  | acquireFailed | writeAbandoned | idle | block | aborted => exact bound

/-- The account holds in every state a session can reach. -/
theorem run_progress {config events state}
    (reached : run journalStep (Session.new config, Journal.new) events = some state) :
    Progress state := by
  have start : Progress (Session.new config, Journal.new) := Nat.zero_le 1
  refine run_invariant journalStep (fun _ _ => True) Progress ?_ start
    (meets_labels (fun _ _ => trivial)) reached
  intro before event after progress _ moved
  obtain ⟨⟨session, outputs⟩, stepped, rfl⟩ := Option.map_eq_some_iff.mp moved
  exact step_progress progress stepped

/-- Along every run: a query goes to a further connection only while nothing has been
relayed for it, and of the connections that executed it at most one was not lost in
silence. -/
theorem replay_executes_once {config : SessionConfig} {events : List Event}
    {state : Session × Journal}
    (reached : run journalStep (Session.new config, Journal.new) events = some state) :
    (∀ executed : List Dispatch, executed.Sublist state.2.dispatches →
      (∀ dispatch ∈ executed, dispatch.silent = false) → executed.length ≤ 1) ∧
    ∀ event next outputs socket sql, state.1.step event = some (next, outputs) →
      Output.queryTo socket sql ∈ outputs →
      event = .message (.query sql) ∨ state.2.relayedBytes = 0 := by
  have progress := run_progress reached
  constructor
  · intro executed part audible
    have own : executed.filter (fun dispatch => !dispatch.silent) = executed := by
      rw [List.filter_eq_self]
      intro dispatch member
      simp [audible dispatch member]
    have within := part.filter (fun dispatch => !dispatch.silent)
    rw [own] at within
    exact within.length_le.trans progress.loud_le
  · intro event next outputs socket sql moved written
    rcases query_written moved written with ⟨-, asked, -⟩ | ⟨call, stage, backend, phase, -⟩
    · exact .inl asked
    · simp only [Progress, phase] at progress
      exact .inr progress.2

/-- The first connection receives an INSERT and closes before it answers; the
statement is replayed on a second one. -/
def replayedInsert : List Event :=
  [.initial (.startup (startupFor none none)) false,
    .message (.query "INSERT INTO t VALUES (1)"),
    .acquired (freshLeader 1), .written, .lost, .acquired (freshLeader 2), .written]

theorem replayed_insert_dispatches : (run journalStep
      (Session.new { tlsAcceptor := false, tlsRequired := false, processId := 1 }, Journal.new)
      replayedInsert).map (fun state => state.2) = some
      { dispatches := [{ socket := 2, silent := false }, { socket := 1, silent := true }]
        relayedBytes := 0 } := by
  decide +kernel

/-- Both servers may have executed the statement, which is no read. -/
theorem insert_executed_twice :
    classifyQuery "INSERT INTO t VALUES (1)" ≠ .read ∧
    ∃ state, run journalStep
        (Session.new { tlsAcceptor := false, tlsRequired := false, processId := 1 }, Journal.new)
        replayedInsert = some state ∧
      ∃ executed : List Dispatch, executed.Sublist state.2.dispatches ∧
        executed.map Dispatch.socket = [2, 1] := by
  refine ⟨by decide, ?_⟩
  obtain ⟨state, reached, journal⟩ := Option.map_eq_some_iff.mp replayed_insert_dispatches
  exact ⟨state, reached, state.2.dispatches, List.Sublist.refl _, by rw [journal]; rfl⟩

/-- In that run the second execution is the only one on a connection not lost in silence. -/
theorem replayed_insert_once : ∃ state, run journalStep
        (Session.new { tlsAcceptor := false, tlsRequired := false, processId := 1 }, Journal.new)
        replayedInsert = some state ∧
      ∀ executed : List Dispatch, executed.Sublist state.2.dispatches →
        (∀ dispatch ∈ executed, dispatch.silent = false) → executed.length ≤ 1 := by
  obtain ⟨state, reached, -⟩ := Option.map_eq_some_iff.mp replayed_insert_dispatches
  exact ⟨state, reached, (replay_executes_once reached).1⟩

end PgVisor.ClientSession
