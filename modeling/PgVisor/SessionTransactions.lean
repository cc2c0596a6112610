import PgVisor.ClientSession

/-!
# Transactions across backend failures

The client's view of its transaction is the status of the last ReadyForQuery it was
sent, relayed from a connection or synthesised by the session. While that status
reports a transaction block, the block lives on the connection that reported it, and
a query belongs on that connection or nowhere.

The recovery paths do not ask for this status: a query whose backend fails is sent to
any connection the pool hands out. The block is kept along a run exactly when the pool
hands out no replacement while the client is inside a block.
-/

namespace PgVisor.ClientSession

open ByteWords WireFrames ConnectionPool Transitions

variable {backend : PooledConnection} {next : Session} {event : Event}

/-- What the client was last told, and the socket it was relayed from. -/
structure Ledger where
  lastReady : TransactionStatus
  owner : Option Nat
deriving DecidableEq

/-- Before the handshake the client is in no transaction. -/
def Ledger.new : Ledger where
  lastReady := .idle
  owner := none

/-- The status in the last ReadyForQuery of a synthesised answer. -/
def announced : List BackendMessage → Option TransactionStatus
  | [] => none
  | .readyForQuery status :: rest => some ((announced rest).getD status)
  | _ :: rest => announced rest

def Ledger.observe (ledger : Ledger) : Output → Ledger
  | .relayed socket tag frame =>
    if tag = readyTag then { lastReady := frameStatus frame, owner := some socket } else ledger
  | .replied messages =>
    match announced messages with
    | some status => { lastReady := status, owner := none }
    | none => ledger
  | _ => ledger

def Ledger.InTransaction (ledger : Ledger) : Prop := ledger.lastReady ≠ .idle

instance (ledger : Ledger) : Decidable ledger.InTransaction :=
  inferInstanceAs (Decidable (_ ≠ _))

/-- The session beside the client's view of it. -/
def observedStep (state : Session × Ledger) (event : Event) : Option (Session × Ledger) :=
  (state.1.step event).map fun (next, outputs) => (next, outputs.foldl Ledger.observe state.2)

/-- The step keeps the client's transaction block: a query written now goes to the
connection that reported the block, and a query whose connection is lost is answered
with an error unless the session ends. -/
def KeepsBlock (state : Session × Ledger) (event : Event) : Prop :=
  ∀ next outputs, state.1.step event = some (next, outputs) → state.2.InTransaction →
    (∀ socket sql, Output.queryTo socket sql ∈ outputs → state.2.owner = some socket) ∧
    ((∃ call stage, state.1.phase = .acquiring call stage) → event ≠ .aborted →
      ∃ message, outputs = [.replied [.errorResponse message, .readyForQuery .idle]])

/-- The pool answers a session whose client is inside a block. -/
def Replaces (state : Session × Ledger) (event : Event) : Prop :=
  state.2.InTransaction ∧
    ∃ call stage backend, state.1.phase = .acquiring call stage ∧ event = .acquired backend

/-- Where the connection of a block is: with the session, unless it was lost. -/
def Attached (state : Session × Ledger) : Prop :=
  state.2.InTransaction →
    match state.1.phase with
    | .handshake _ => False
    | .command => ∃ backend, state.1.activeBackend = some backend ∧
        state.2.owner = some backend.stream.socket
    | .acquiring _ _ => True
    | .writing _ _ backend => state.2.owner = some backend.stream.socket
    | .reading _ backend _ _ => state.2.owner = some backend.stream.socket
    | .releasing _ ends => ends = true
    | .ended => True

variable {state : Session × Ledger}

/-- Inside a block, a connection kept between queries is the one that reported it. -/
theorem Attached.held (attached : Attached state)
    (phase : state.1.phase = .command) (active : state.1.activeBackend = some backend)
    (block : state.2.InTransaction) : state.2.owner = some backend.stream.socket := by
  obtain ⟨other, same, owner⟩ : ∃ other, state.1.activeBackend = some other ∧
      state.2.owner = some other.stream.socket := by
    simpa only [phase] using attached block
  rw [active] at same
  obtain rfl := Option.some.inj same
  exact owner

theorem announced_greeting (processId : Nat) : announced (greeting processId) = some .idle := rfl

theorem announced_apology (message : String) : announced (apology message) = some .idle := rfl

variable {session : Session} {ledger : Ledger}

/-- A server that acts keeps its socket. -/
theorem serve_attached {act}
    (socket : ∀ stream moved, act stream = some moved → moved.socket = stream.socket)
    (attached : Attached (session, ledger)) (served : session.serve act = some next) :
    Attached (next, ledger) := by
  intro block
  have before := attached block
  cases serve_serves served with
  | command phase held acted =>
    have owner := attached.held phase held block
    simp only [phase]
    exact ⟨_, rfl, by rw [owner, socket _ _ acted]⟩
  | writing phase acted | reading phase acted =>
    simp only [phase] at before ⊢
    rw [before, socket _ _ acted]
  | releasing phase acted =>
    simp only [phase] at before ⊢
    exact before

/-- One step: without a replacement inside a block, the block stays attached. -/
theorem step_attached {outputs}
    (attached : Attached (session, ledger)) (kept : ¬ Replaces (session, ledger) event)
    (moved : session.step event = some (next, outputs)) :
    Attached (next, outputs.foldl Ledger.observe ledger) := by
  cases step_moves moved with
  | declined => exact attached
  | upgraded phase =>
    intro block
    simpa only [phase] using attached block
  -- the client has just been told that its session is idle
  | started | acquireFailed | failed =>
    intro block
    simp [Ledger.observe, announced_greeting, announced_apology, Ledger.InTransaction] at block
  | query phase held => exact attached.held phase held
  | forwarded phase held =>
    intro block
    have owner := attached.held phase held block
    simp only [phase]
    exact ⟨_, rfl, owner⟩
  | ignored => exact attached
  | closed => exact fun _ => rfl
  | acquired phase =>
    intro block
    exact absurd ⟨block, _, _, _, phase, rfl⟩ kept
  | @written call stage backend phase =>
    intro block
    have owner : ledger.owner = some backend.stream.socket := by
      simpa only [phase] using attached block
    exact owner
  | @received call backend buffer relayedBytes count phase unframed positive available =>
    intro block
    have owner : ledger.owner = some backend.stream.socket := by
      simpa only [phase] using attached block
    exact owner
  -- a relayed ReadyForQuery attaches the block it reports to its connection
  | idle phase extracted idle =>
    intro block
    simp [Ledger.observe, Ledger.InTransaction, idle] at block
  | block => exact fun _ => ⟨_, rfl, by simp [Ledger.observe]⟩
  | more phase extracted other =>
    intro block
    simp only [List.foldl_cons, List.foldl_nil, Ledger.observe, other, ↓reduceIte] at block ⊢
    simpa only [phase] using attached block
  | @released backend ends phase =>
    intro block
    have ending : ends = true := by simpa only [phase] using attached block
    simp [ending]
  | refused | insecure | cancelled | closedEarly | unheld | terminated | left | rewrite
  | writeAbandoned | replayed | aborted => exact fun _ => trivial
  | notified served =>
    refine serve_attached ?_ attached served
    intro stream moved sent
    rw [(notify_cases sent).2]
  | ready served =>
    refine serve_attached ?_ attached served
    intro stream moved sent
    rw [(become_ready_cases sent).2]

/-- With the block attached, a step keeps it unless it brings in a replacement. -/
theorem keeps_block_iff (attached : Attached state) :
    KeepsBlock state event ↔ ¬ Replaces state event := by
  constructor
  · rintro keeps ⟨block, call, stage, backend, phase, rfl⟩
    have moved : state.1.step (.acquired backend) =
        some ({ state.1 with phase := .writing call stage backend },
          [.queryTo backend.stream.socket call.sql]) := by
      simp only [Session.step, phase]
    obtain ⟨-, answered⟩ := keeps _ _ moved block
    obtain ⟨message, replied⟩ := answered ⟨call, stage, phase⟩ (by simp)
    cases replied
  · intro kept next outputs moved block
    constructor
    · intro socket sql written
      rcases query_written moved written with
        ⟨phase, -, backend, held, rfl⟩ | ⟨call, stage, backend, phase, rfl, -⟩
      · exact attached.held phase held block
      · exact absurd ⟨block, call, stage, backend, phase, rfl⟩ kept
    · rintro ⟨call, stage, phase⟩ alive
      rcases acquiring_step phase moved with ended | ⟨backend, rfl⟩ | ⟨err, -, rfl⟩
      · exact absurd ended alive
      · exact absurd ⟨block, call, stage, backend, phase, rfl⟩ kept
      · exact ⟨_, rfl⟩

theorem observed_attached {next} (attached : Attached state)
    (kept : ¬ Replaces state event) (moved : observedStep state event = some next) :
    Attached next := by
  obtain ⟨⟨session, outputs⟩, stepped, rfl⟩ := Option.map_eq_some_iff.mp moved
  exact step_attached attached kept stepped

/-- Along every sequence of client messages and failures, each step keeps the client's
block if and only if none of them brings in a replacement inside a block. -/
theorem blocks_kept_iff (config : SessionConfig) (events : List Event) :
    Meets observedStep KeepsBlock (Session.new config, Ledger.new) events ↔
      Meets observedStep (fun state event => ¬ Replaces state event)
        (Session.new config, Ledger.new) events := by
  have start : Attached (Session.new config, Ledger.new) := by
    intro block
    exact absurd rfl block
  apply meets_congr observedStep KeepsBlock _ Attached
  · intro state event next attached keeps moved
    exact observed_attached attached ((keeps_block_iff attached).mp keeps) moved
  · intro state event attached
    exact keeps_block_iff attached
  · exact start

/-- `BEGIN` is served on socket 1, and the connection closes when the next statement
has been written to it. -/
def lostInBlock : List Event :=
  [.initial (.startup (startupFor none none)) false,
    .message (.query "BEGIN"), .acquired (freshLeader 1), .written,
    .serverReady .transaction, .received 6, .relayed,
    .message (.query "INSERT INTO t VALUES (1)"), .written, .lost]

/-- The statement is then written to socket 2, outside the client's block. -/
theorem insert_leaves_block : ∃ state next, run observedStep
        (Session.new { tlsAcceptor := false, tlsRequired := false, processId := 1 }, Ledger.new)
        lostInBlock = some state ∧ state.2 = { lastReady := .transaction, owner := some 1 } ∧
      state.1.step (.acquired (freshLeader 2)) =
        some (next, [.queryTo 2 "INSERT INTO t VALUES (1)"]) ∧
      ¬ KeepsBlock state (.acquired (freshLeader 2)) := by
  obtain ⟨state, reached, ledger, ⟨next, outputs⟩, moved, rfl⟩ : ∃ state, run observedStep
      (Session.new { tlsAcceptor := false, tlsRequired := false, processId := 1 }, Ledger.new)
      lostInBlock = some state ∧ state.2 = { lastReady := .transaction, owner := some 1 } ∧
        ∃ moved, state.1.step (.acquired (freshLeader 2)) = some moved ∧
          [.queryTo 2 "INSERT INTO t VALUES (1)"] = moved.2 := by decide +kernel
  refine ⟨state, next, reached, ledger, moved, ?_⟩
  intro keeps
  have owner := (keeps _ _ moved (by rw [ledger]; decide)).1 2 _ List.mem_cons_self
  rw [ledger] at owner
  exact absurd owner (by decide)

end PgVisor.ClientSession
