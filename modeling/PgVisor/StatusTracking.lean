import PgVisor.SessionTransactions

/-!
# What the session believes and what the client was told

Routing and the ownership of a connection follow the transaction tracker, the client
follows the last ReadyForQuery it was sent. A relayed ReadyForQuery passes through the
tracker on its way. The four exits of a query that synthesise one do not: they tell the
client that it is idle and leave the tracker where it was.

A query therefore ends with tracker, client and held connection in agreement exactly
when a synthesised answer finds the tracker idle and a relayed one carries one of the
three status bytes.
-/

namespace PgVisor.ClientSession

open ByteWords WireFrames QueryRouting Transitions

/-- The last ReadyForQuery the client was sent: made up by the session, or relayed with
what stood in the place of the status byte. -/
inductive ReadySent where
  | synthesised (status : TransactionStatus)
  | relayed (statusByte : Option UInt8)
deriving DecidableEq

def ReadySent.statusByte : ReadySent → Option UInt8
  | .synthesised status => some status.toByte
  | .relayed statusByte => statusByte

def sentStatusByte (frame : Bytes) : Option UInt8 := (frame.drop 5).head?

def ReadySent.observe (last : Option ReadySent) : Output → Option ReadySent
  | .relayed _ tag frame =>
    if tag = readyTag then some (.relayed (sentStatusByte frame)) else last
  | .replied messages =>
    match announced messages with
    | some status => some (.synthesised status)
    | none => last
  | _ => last

/-- The session beside the last ReadyForQuery its client was sent. -/
def toldStep (state : Session × Option ReadySent) (event : Event) :
    Option (Session × Option ReadySent) :=
  (state.1.step event).map fun (next, outputs) =>
    (next, outputs.foldl ReadySent.observe state.2)

/-- A query is being handled. -/
def Phase.handling : Phase → Bool
  | .acquiring _ _ => true
  | .writing _ _ _ => true
  | .reading _ _ _ _ => true
  | .releasing _ ends => !ends
  | _ => false

/-- The step returns from a query to the command loop. -/
def Returns (session next : Session) : Prop :=
  session.phase.handling = true ∧ next.phase = .command

instance (session next : Session) : Decidable (Returns session next) :=
  inferInstanceAs (Decidable (_ ∧ _))

/-- The tracker has the status the client was sent, and a connection is held exactly if
that status is not idle. -/
def Agrees (state : Session × Option ReadySent) : Prop :=
  state.2.bind ReadySent.statusByte = some state.1.tracker.status.toByte ∧
    (state.1.activeBackend.isSome ↔
      state.2.bind ReadySent.statusByte ≠ some TransactionStatus.idle.toByte)

instance (state : Session × Option ReadySent) : Decidable (Agrees state) :=
  inferInstanceAs (Decidable (_ ∧ (_ ↔ _)))

/-- Every query that returns leaves an agreement. -/
def ReturnsAgreed (state : Session × Option ReadySent) (event : Event) : Prop :=
  ∀ next ∈ toldStep state event, Returns state.1 next.1 → Agrees next

instance (state : Session × Option ReadySent) (event : Event) :
    Decidable (ReturnsAgreed state event) :=
  inferInstanceAs (Decidable (∀ next ∈ toldStep state event, _))

/-- The answer that ends the query is synthesised outside a block only, or relayed with a
status byte of the protocol. -/
def Candid (tracker : TransactionTracker) : ReadySent → Prop
  | .synthesised _ => tracker.status = .idle
  | .relayed statusByte => ∃ status : TransactionStatus, statusByte = some status.toByte

/-- Every query that returns was answered candidly. -/
def ReturnsCandid (state : Session × Option ReadySent) (event : Event) : Prop :=
  ∀ next ∈ toldStep state event, Returns state.1 next.1 →
    ∀ ready ∈ next.2, Candid state.1.tracker ready

/-! ### The exits of a query -/

/-- The ways back to the command loop, with what becomes of the session. -/
inductive Exit (session : Session) : Session → List Output → Prop where
  | failed (message : String) :
      Exit session { session with phase := .command } [.replied (apology message)]
  | kept {call backend buffer frame bytes}
      (phase : session.phase = .reading call backend buffer bytes)
      (block : frameStatus frame ≠ .idle) : Exit session
        { session with
          tracker := session.tracker.onReadyForQuery (frameStatus frame)
          activeBackend := some backend
          phase := .command }
        [.relayed backend.stream.socket readyTag frame]
  | released {backend} (phase : session.phase = .releasing backend false) :
      Exit session { session with phase := .command } [.release backend]

variable {session : Session} {call : QueryCall}

variable {outputs : List Output}

/-- There is no other way back. -/
theorem returns_exit {next event}
    (moved : session.step event = some (next, outputs)) (returns : Returns session next) :
    Exit session next outputs := by
  obtain ⟨handling, back⟩ := returns
  cases step_moves moved with
  | acquireFailed | failed => exact .failed _
  | block phase extracted status => exact .kept phase status
  | @released backend ends phase =>
    cases ends with
    | false => exact .released phase
    | true => simp at back
  | declined phase | started phase | forwarded phase | ignored phase =>
    simp [phase, Phase.handling] at handling
  | upgraded | refused | insecure | cancelled | closedEarly | query | unheld | terminated | closed
  | left | acquired | written | rewrite | writeAbandoned | received | replayed | idle | more
  | aborted => cases back
  | notified served | ready served =>
    -- a server that acts leaves the phase what it was
    cases serve_serves served with
    | command phase => simp [phase, Phase.handling] at handling
    | writing | reading | releasing => cases back

/-! ### A query that waits for its release -/

/-- A query that waits for its release was answered with an idle status. -/
def Settled (state : Session × Option ReadySent) : Prop :=
  ∀ backend, state.1.phase = .releasing backend false → state.1.tracker.status = .idle ∧
      ∃ frame, state.2 = some (.relayed (sentStatusByte frame)) ∧ frameStatus frame = .idle

theorem settled_of_phase {state}
    (elsewhere : ∀ backend, state.1.phase ≠ .releasing backend false) : Settled state :=
  fun backend phase => absurd phase (elsewhere backend)

variable {last : Option ReadySent}

theorem serve_settled {next act}
    (settled : Settled (session, last)) (served : session.serve act = some next) :
    Settled (next, last) := by
  cases serve_serves served with
  | command phase => exact settled_of_phase (by simp [phase])
  | writing | reading => exact settled_of_phase (by simp)
  | @releasing conn ends stream phase =>
    cases ends with
    | true => exact settled_of_phase (by simp)
    | false => exact fun _ _ => settled conn phase

/-- One step. -/
theorem step_settled {next event} (settled : Settled (session, last))
    (moved : session.step event = some (next, outputs)) :
    Settled (next, outputs.foldl ReadySent.observe last) := by
  cases step_moves moved with
  -- the relayed ReadyForQuery that asks for a release sets the tracker to idle
  | idle phase extracted idle => exact fun _ _ => ⟨rfl, _, by simp [ReadySent.observe], idle⟩
  | @released backend ends phase =>
    apply settled_of_phase
    cases ends <;> simp
  | notified served | ready served => exact serve_settled settled served
  | declined phase | forwarded phase | ignored phase => exact settled_of_phase (by simp [phase])
  | refused | insecure | cancelled | closedEarly | terminated | left | writeAbandoned | aborted =>
    exact settled_of_phase (by simp [Session.finish])
  | upgraded | started | query | unheld | closed | acquired | acquireFailed | written | rewrite
  | received | replayed | failed | block | more => exact settled_of_phase (by simp)

/-! ### Agreement at an exit -/

theorem to_byte_inj {first second : TransactionStatus} :
    first.toByte = second.toByte ↔ first = second := by
  cases first <;> cases second <;> decide

/-- A status byte of the protocol is what the session reads off the frame. -/
theorem sent_status_iff (frame : Bytes) :
    (∃ status : TransactionStatus, sentStatusByte frame = some status.toByte) ↔
      sentStatusByte frame = some (frameStatus frame).toByte := by
  constructor
  · rintro ⟨status, sent⟩
    have read : frameStatus frame = status := by
      unfold sentStatusByte at sent
      simp [frameStatus, List.headD_eq_head?_getD, sent]
    rw [sent, read]
  · exact fun sent => ⟨_, sent⟩

/-- After a relayed answer the tracker has the status the session read. -/
theorem relayed_agrees_iff {frame : Bytes} (tracked : session.tracker.status = frameStatus frame)
    (holds : session.activeBackend.isSome ↔ frameStatus frame ≠ .idle) :
    Agrees (session, some (.relayed (sentStatusByte frame))) ↔
      ∃ status : TransactionStatus, sentStatusByte frame = some status.toByte := by
  rw [sent_status_iff]
  constructor
  · rintro ⟨same, -⟩
    rw [← tracked]
    exact same
  · intro sent
    refine ⟨?_, ?_⟩
    · simpa only [tracked, Option.bind_some, ReadySent.statusByte] using sent
    · simp only [Option.bind_some, ReadySent.statusByte, sent, holds, ne_eq, Option.some.injEq,
        to_byte_inj]

/-- After a synthesised answer nothing is held and the tracker is what it was. -/
theorem failed_agrees_iff (free : session.activeBackend = none) :
    Agrees (session, some (.synthesised .idle)) ↔ session.tracker.status = .idle := by
  constructor
  · rintro ⟨same, -⟩
    exact (to_byte_inj.mp (Option.some.inj same)).symm
  · intro idle
    simp [Agrees, ReadySent.statusByte, idle, free]

/-- At each exit the parties agree exactly if the answer was candid. -/
theorem exit_agrees_iff {next} (settled : Settled (session, last))
    (free : session.activeBackend = none) (exit : Exit session next outputs) :
    Agrees (next, outputs.foldl ReadySent.observe last) ↔
      ∀ ready ∈ outputs.foldl ReadySent.observe last, Candid session.tracker ready := by
  cases exit with
  | failed message =>
    simp only [List.foldl_cons, List.foldl_nil, ReadySent.observe, announced_apology]
    rw [failed_agrees_iff (by exact free)]
    simp [Candid]
  | @kept call backend buffer frame bytes phase block =>
    simp only [List.foldl_cons, List.foldl_nil, ReadySent.observe, ↓reduceIte]
    rw [relayed_agrees_iff rfl (by simp [block])]
    simp [Candid]
  | released phase =>
    obtain ⟨tracked, frame, rfl, idle⟩ := settled _ phase
    have same : session.tracker.status = frameStatus frame := tracked.trans idle.symm
    simp only [List.foldl_cons, List.foldl_nil, ReadySent.observe]
    rw [relayed_agrees_iff (by exact same) (by simp [free, idle])]
    simp [Candid]

theorem handling_unheld (held : HeldBetween session) (handling : session.phase.handling = true) :
    session.activeBackend = none := by
  apply held
  intro phase
  rw [phase] at handling
  cases handling

/-- A query returns in agreement exactly if it returns with a candid answer. -/
theorem returns_agreed_iff {state event} (held : HeldBetween state.1) (settled : Settled state) :
    ReturnsAgreed state event ↔ ReturnsCandid state event := by
  have exits (next : Session × Option ReadySent) (moved : toldStep state event = some next)
      (returns : Returns state.1 next.1) :
      Agrees next ↔ ∀ ready ∈ next.2, Candid state.1.tracker ready := by
    obtain ⟨⟨after, outputs⟩, stepped, rfl⟩ := Option.map_eq_some_iff.mp moved
    exact exit_agrees_iff settled (handling_unheld held returns.1) (returns_exit stepped returns)
  constructor
  · intro agreed next moved returns
    exact (exits next moved returns).mp (agreed next moved returns)
  · intro candid next moved returns
    exact (exits next moved returns).mpr (candid next moved returns)

/-- Along every sequence of client messages and failures, each query returns with the
tracker, the client and the held connection in agreement if and only if none returns
with an answer synthesised while the tracker reports a block or relayed without a status
byte of the protocol. -/
theorem status_agreed_iff (config : SessionConfig) (events : List Event) :
    Meets toldStep ReturnsAgreed (Session.new config, none) events ↔
      Meets toldStep ReturnsCandid (Session.new config, none) events := by
  apply meets_congr toldStep ReturnsAgreed ReturnsCandid
    (fun state => HeldBetween state.1 ∧ Settled state)
  · rintro state event next ⟨held, settled⟩ _ moved
    obtain ⟨⟨after, outputs⟩, stepped, rfl⟩ := Option.map_eq_some_iff.mp moved
    exact ⟨step_held_between held stepped, step_settled settled stepped⟩
  · rintro state event ⟨held, settled⟩
    exact returns_agreed_iff held settled
  · exact ⟨new_held_between config, settled_of_phase (by simp [Session.new])⟩

/-- `BEGIN` is answered with a transaction status, its connection closes under the next
statement and no backend can be acquired to replay it: the client is told that it is
idle, while the tracker stays inside the block and sends a plain read to the leader. -/
theorem apology_leaves_block : ∃ state, run toldStep
        (Session.new { tlsAcceptor := false, tlsRequired := false, processId := 1 }, none)
        (lostInBlock ++ [.acquireFailed (.failoverTimeout "no leader")]) = some state ∧
      state.1.phase = .command ∧ state.2 = some (.synthesised .idle) ∧
      state.1.tracker.status = .transaction ∧ state.1.route "SELECT 1" = .leader ∧
      ¬ Meets toldStep ReturnsAgreed
        (Session.new { tlsAcceptor := false, tlsRequired := false, processId := 1 }, none)
        (lostInBlock ++ [.acquireFailed (.failoverTimeout "no leader")]) := by
  decide +kernel

end PgVisor.ClientSession
