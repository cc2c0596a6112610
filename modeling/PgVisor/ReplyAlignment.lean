import PgVisor.ClientSession
import PgVisor.OrderedReplies

/-!
# Whose answer is relayed

The session reads a connection only while it handles a query, and stops at the first
ReadyForQuery. Synchronisation and extended-protocol messages go to the held connection
without being read for. A server that answers in order sends their replies before those of
the next query, so that query is answered with them, and every later one with the answer
of its predecessor, until the connection is released with an answer still unread.

The session is put beside the ordered exchange its connection carries: the server sends a
frame only in answer to the oldest request it has not finished, and the pool hands out
connections on which nothing is pending. What is relayed is the answer of the query at
hand, and released connections are drained, exactly if no forwarded message has been
answered or waits for its answer at that moment.
-/

namespace PgVisor.ClientSession

open ByteWords WireFrames ConnectionPool Transitions OrderedReplies List

/-- Messages a server answers: queries, synchronisation points, function calls and the
extended-protocol messages Bind, Close, Describe, Execute and Parse. -/
def asks : FrontendMessage → Bool
  | .query _ => true
  | .sync => true
  | .raw tag _ => tag ∈ [66, 67, 68, 69, 70, 80]
  | _ => false

def IsQuery : FrontendMessage → Prop
  | .query _ => True
  | _ => False

def IsReady (frame : BackendFrame) : Prop := frame.tag = readyTag

/-- The exchange on the owned connection, the number of the query at hand in it, and what
was relayed since that query arrived. -/
structure Alignment where
  channel : Exchange FrontendMessage BackendFrame
  current : Nat
  shown : List (Reply FrontendMessage BackendFrame)
deriving DecidableEq

def Alignment.new : Alignment where
  channel := .new
  current := 0
  shown := []

/-- The bytes of the replies that were not read. -/
def Alignment.unreadBytes (alignment : Alignment) : Bytes :=
  encodeFrames (alignment.channel.unread.map Reply.content)

def Alignment.hear (alignment : Alignment) : Output → Alignment
  | .forwardedTo _ message =>
    if asks message then { alignment with channel := alignment.channel.ask message }
    else alignment
  | .relayed _ _ _ =>
    { alignment with
      channel := alignment.channel.take
      shown := alignment.shown ++ alignment.channel.unread.take 1 }
  | _ => alignment

/-- What the event means for the exchange. Events that an orderly server or pool does not
cause are refused. -/
def Alignment.follow (alignment : Alignment) (session : Session) : Event → Option Alignment
  | .message (.query _) => some { alignment with shown := [] }
  | .acquired backend =>
    if backend.stream.owed = 0 ∧ backend.stream.incoming = [] then
      some { alignment with channel := .new }
    else none
  | .written =>
    match session.phase with
    | .writing call _ _ => some
      { alignment with
        channel := alignment.channel.ask (.query call.sql)
        current := alignment.channel.next }
    | _ => none
  | .serverNotifies frame =>
    (alignment.channel.reply frame).map fun channel => { alignment with channel := channel }
  | .serverReady status =>
    match alignment.channel.waiting with
    | message :: _ =>
      if answersOwed message = 1 then
        (alignment.channel.reply (readyFrame status)).map fun channel =>
          { alignment with channel := channel.finish }
      else none
    | [] => none
  | _ => some alignment

/-- A server that is done with a message it answers with no ReadyForQuery passes on. -/
inductive OrderedEvent where
  | session (event : Event)
  | passes
deriving DecidableEq

def orderedStep (state : Session × Alignment) : OrderedEvent → Option (Session × Alignment)
  | .session event =>
    (state.1.step event).bind fun moved =>
      (state.2.follow state.1 event).map fun followed =>
        (moved.1, moved.2.foldl Alignment.hear followed)
  | .passes =>
    match state.2.channel.waiting with
    | message :: _ =>
      if answersOwed message = 0 then
        some (state.1, { state.2 with channel := state.2.channel.finish })
      else none
    | [] => none

/-- The frame is the next of the answer to the query at hand, and a ReadyForQuery the last. -/
def Alignment.Continues (alignment : Alignment) (tag : UInt8) (frame : Bytes) : Prop :=
  ∃ reply, alignment.channel.unread.head? = some reply ∧ reply.content.tag = tag ∧
    reply.content.encode = frame ∧
    alignment.shown ++ [reply] <+: alignment.channel.answersTo alignment.current ∧ (tag = readyTag →
      alignment.shown ++ [reply] = alignment.channel.answersTo alignment.current ∧
        alignment.current < alignment.channel.finished)

/-- No reply to an earlier message is on the connection or still to come. -/
def Alignment.Drained (alignment : Alignment) (conn : PooledConnection) : Prop :=
  conn.stream.incoming = [] ∧ alignment.channel.waiting = []

def Alignment.Fits (alignment : Alignment) : Output → Prop
  | .relayed _ tag frame => alignment.Continues tag frame
  | .release conn => alignment.Drained conn
  | _ => True

/-- Frames are relayed for the query at hand alone, and connections released drained. -/
def OwnAnswers (state : Session × Alignment) : OrderedEvent → Prop
  | .session event =>
    ∀ next outputs, state.1.step event = some (next, outputs) →
      ∀ output ∈ outputs, state.2.Fits output
  | .passes => True

/-- A frame reaches the client or a connection the pool. -/
def Output.leaves : Output → Prop
  | .relayed _ _ _ => True
  | .release _ => True
  | _ => False

/-- Whenever a frame is relayed or a connection released, no forwarded message has been
answered on it or waits for an answer. -/
def Unmixed (state : Session × Alignment) : OrderedEvent → Prop
  | .session event =>
    ∀ next outputs, state.1.step event = some (next, outputs) →
      ∀ output ∈ outputs, output.leaves → Undisturbed IsQuery state.2.channel
  | .passes => True

/-! ### The exchange follows the session -/

/-- The connection carries the unread replies and no query is open on it. -/
def Alignment.Carried (alignment : Alignment) (conn : PooledConnection) : Prop :=
  Interim IsQuery alignment.channel ∧ conn.stream.incoming = alignment.unreadBytes

def InLine (state : Session × Alignment) : Prop :=
  match state.1.phase with
  | .handshake _ => True
  | .command => ∀ backend, state.1.activeBackend = some backend → state.2.Carried backend
  | .acquiring _ _ => state.2.shown = []
  | .writing _ _ backend => state.2.shown = [] ∧ state.2.Carried backend
  | .reading _ backend buffer clientBytesWritten =>
    Handles IsQuery IsReady state.2.channel state.2.current state.2.shown ∧
      buffer ++ backend.stream.incoming = state.2.unreadBytes ∧
      (clientBytesWritten = 0 → state.2.shown = [])
  | .releasing backend _ => state.2.Carried backend
  | .ended => True

variable {channel : Exchange FrontendMessage BackendFrame} {status : TransactionStatus}
  {buffer rest : Bytes} {tag : UInt8} {event : OrderedEvent} {output : Output}
  {message : FrontendMessage}

theorem not_query_of_ne (other : ∀ sql, message ≠ .query sql) : ¬ IsQuery message := by
  cases message with
  | query sql => exact absurd rfl (other sql)
  | _ => exact id

theorem owed_not_query (unanswered : answersOwed message = 0) : ¬ IsQuery message := by
  apply not_query_of_ne
  rintro sql rfl
  cases unanswered

variable {alignment followed : Alignment} {session : Session}

/-- Messages other than queries mean nothing to the exchange unless they are forwarded. -/
theorem follow_other (other : ∀ sql, message ≠ .query sql)
    (follows : alignment.follow session (.message message) = some followed) :
    followed = alignment := by
  cases message with
  | query sql => exact absurd rfl (other sql)
  | _ => exact (Option.some.inj follows).symm

theorem InLine.held (line : InLine (session, alignment)) (phase : session.phase = .command)
    {backend} (held : session.activeBackend = some backend) : alignment.Carried backend := by
  simp only [InLine, phase] at line
  exact line backend held

variable {next : Session} {frame : BackendFrame}

/-- The server sends one frame. -/
theorem serve_in_line {act} (sent : ∀ stream moved, act stream = some moved →
      moved.incoming = stream.incoming ++ frame.encode)
    (interim : Interim IsQuery alignment.channel → Interim IsQuery channel)
    (handles : Handles IsQuery IsReady alignment.channel alignment.current alignment.shown →
      Handles IsQuery IsReady channel alignment.current alignment.shown)
    (unread : channel.unread.map Reply.content =
      alignment.channel.unread.map Reply.content ++ [frame]) (line : InLine (session, alignment))
    (served : session.serve act = some next) :
    InLine (next, { alignment with channel := channel }) := by
  have bytes : Alignment.unreadBytes { alignment with channel := channel } =
      alignment.unreadBytes ++ frame.encode := by
    simp [Alignment.unreadBytes, unread]
  have carried (conn : PooledConnection) (stream : BackendStream)
      (acted : act conn.stream = some stream) (before : alignment.Carried conn) :
      Alignment.Carried { alignment with channel := channel } { conn with stream := stream } :=
    ⟨interim before.1, by rw [sent _ _ acted, bytes, before.2]⟩
  cases serve_serves served with
  | command phase held acted =>
    simp only [InLine, phase] at line ⊢
    intro backend active
    obtain rfl := Option.some.inj active
    exact carried _ _ acted (line _ held)
  | writing phase acted =>
    simp only [InLine, phase] at line
    exact ⟨line.1, carried _ _ acted line.2⟩
  | reading phase acted =>
    simp only [InLine, phase] at line
    refine ⟨handles line.1, ?_, line.2.2⟩
    rw [sent _ _ acted, bytes, ← line.2.1, append_assoc]
  | releasing phase acted =>
    simp only [InLine, phase] at line
    exact carried _ _ acted line

theorem reply_unread {next} (sent : channel.reply frame = some next) :
    next.unread.map Reply.content = channel.unread.map Reply.content ++ [frame] := by
  obtain ⟨request, rest, -, rfl⟩ := reply_cases sent
  simp

/-- A frame without ReadyForQuery. -/
theorem notified_in_line (line : InLine (session, alignment))
    (served : session.serve (·.notify frame) = some next)
    (follows : alignment.follow session (.serverNotifies frame) = some followed) :
    InLine (next, followed) := by
  obtain ⟨channel, replied, rfl⟩ := Option.map_eq_some_iff.mp follows
  have other : ¬ IsReady frame := by
    obtain ⟨conn, stream, -, acted, -⟩ := serve_cases served
    exact (notify_cases acted).1
  refine serve_in_line ?_ (fun interim => reply_interim interim replied)
    (fun handles => reply_handles handles other replied) (reply_unread replied) line served
  intro stream moved acted
  rw [(notify_cases acted).2]

theorem ready_follows (follows : alignment.follow session (.serverReady status) = some followed) :
    ∃ channel, alignment.channel.reply (readyFrame status) = some channel ∧
      followed = { alignment with channel := channel.finish } := by
  simp only [Alignment.follow] at follows
  split at follows
  · split at follows
    · obtain ⟨channel, replied, rfl⟩ := Option.map_eq_some_iff.mp follows
      exact ⟨channel, replied, rfl⟩
    · cases follows
  · cases follows

/-- A ReadyForQuery. -/
theorem ready_in_line (line : InLine (session, alignment))
    (served : session.serve (·.becomeReady status) = some next)
    (follows : alignment.follow session (.serverReady status) = some followed) :
    InLine (next, followed) := by
  obtain ⟨channel, replied, rfl⟩ := ready_follows follows
  have closes : IsReady (readyFrame status) := rfl
  have unread := reply_unread replied
  refine serve_in_line ?_ ?_ (fun handles => close_handles handles closes replied) unread
    line served
  · intro stream moved acted
    rw [(become_ready_cases acted).2]
  · intro interim
    obtain ⟨request, rest, shape, rfl⟩ := reply_cases replied
    exact finish_interim (reply_interim interim replied) shape

/-- The server is done with a message it answers with no ReadyForQuery. -/
theorem passes_in_line {rest} (line : InLine (session, alignment))
    (shape : alignment.channel.waiting = message :: rest) (unanswered : answersOwed message = 0) :
    InLine (session, { alignment with channel := alignment.channel.finish }) := by
  have carried (conn : PooledConnection) (before : alignment.Carried conn) :
      Alignment.Carried { alignment with channel := alignment.channel.finish } conn :=
    ⟨finish_interim before.1 shape, before.2⟩
  cases phase : session.phase with
  | command =>
    simp only [InLine, phase] at line ⊢
    exact fun backend active => carried backend (line backend active)
  | writing call stage backend =>
    simp only [InLine, phase] at line ⊢
    exact ⟨line.1, carried backend line.2⟩
  | reading call backend buffer clientBytesWritten =>
    simp only [InLine, phase] at line ⊢
    exact ⟨pass_handles line.1 shape (owed_not_query unanswered), line.2⟩
  | releasing backend ends =>
    simp only [InLine, phase] at line ⊢
    exact carried backend line
  | acquiring call stage =>
    simp only [InLine, phase] at line ⊢
    exact line
  | handshake | ended => simp only [InLine, phase]

/-! ### Relaying and releasing -/

/-- The frame about to be relayed is the first unread reply. -/
theorem reading_unread {incoming frame} (bytes : buffer ++ incoming = alignment.unreadBytes)
    (extracted : extractBackendFrame buffer = some (tag, frame, rest)) :
    ∃ reply later, alignment.channel.unread = reply :: later ∧ reply.content.tag = tag ∧
      reply.content.encode = frame ∧ rest ++ incoming = encodeFrames (later.map Reply.content) := by
  obtain ⟨first, others, shape, rfl, rfl, continued⟩ := extract_stream bytes extracted
  obtain ⟨reply, later, unread, rfl, rfl⟩ := map_eq_cons_iff.mp shape
  exact ⟨reply, later, unread, rfl, rfl, continued⟩

/-- A frame continues the answer of the query at hand exactly if nothing disturbs. -/
theorem continues_iff {reply later}
    (handles : Handles IsQuery IsReady alignment.channel alignment.current alignment.shown)
    (unread : alignment.channel.unread = reply :: later) :
    alignment.Continues reply.content.tag reply.content.encode ↔
      Undisturbed IsQuery alignment.channel := by
  rw [handles_undisturbed_iff handles unread]
  constructor
  · rintro ⟨same, first, -, -, continues, ends⟩
    rw [unread, List.head?_cons, Option.some.injEq] at first
    subst first
    exact ⟨continues, ends⟩
  · rintro ⟨continues, ends⟩
    exact ⟨reply, by rw [unread, List.head?_cons], rfl, rfl, continues, ends⟩

theorem encode_frames_eq_nil {frames} (empty : encodeFrames frames = []) : frames = [] := by
  cases frames with
  | nil => rfl
  | cons frame rest => simp [BackendFrame.encode] at empty

/-- A connection is released drained exactly if nothing disturbs. -/
theorem drained_iff {conn} (carried : alignment.Carried conn) :
    alignment.Drained conn ↔ Undisturbed IsQuery alignment.channel := by
  rw [interim_undisturbed_iff carried.1, Alignment.Drained, carried.2, Alignment.unreadBytes]
  constructor
  · rintro ⟨nothing, nobody⟩
    exact ⟨map_eq_nil_iff.mp (encode_frames_eq_nil nothing), nobody⟩
  · rintro ⟨nothing, nobody⟩
    exact ⟨by rw [nothing]; rfl, nobody⟩

variable {outputs : List Output}

/-- Only these two steps let something leave. -/
theorem leaves_cases {event}
    (moved : session.step event = some (next, outputs)) (member : output ∈ outputs)
    (leaves : output.leaves) : (∃ call backend buffer bytes tag frame rest,
      session.phase = .reading call backend buffer bytes ∧
        extractBackendFrame buffer = some (tag, frame, rest) ∧
        output = .relayed backend.stream.socket tag frame) ∨
    ∃ backend ends, session.phase = .releasing backend ends ∧ output = .release backend := by
  cases step_moves moved with
  | idle phase extracted | block phase extracted | more phase extracted =>
    exact .inl ⟨_, _, _, _, _, _, _, phase, extracted, mem_singleton.mp member⟩
  | released phase => exact .inr ⟨_, _, phase, mem_singleton.mp member⟩
  | upgraded | refused | declined | insecure | started | query | forwarded | acquired
  | acquireFailed | failed =>
    rw [mem_singleton.mp member] at leaves
    exact absurd leaves id
  | cancelled | closedEarly | unheld | terminated | ignored | closed | left | written | rewrite
  | writeAbandoned | received | replayed | notified | ready | aborted => cases member

/-- What leaves fits exactly if nothing disturbs. -/
theorem fits_iff {event} (line : InLine (session, alignment))
    (moved : session.step event = some (next, outputs)) (member : output ∈ outputs)
    (leaves : output.leaves) : alignment.Fits output ↔ Undisturbed IsQuery alignment.channel := by
  rcases leaves_cases moved member leaves with
    ⟨call, backend, buffer, bytes, tag, frame, rest, phase, extracted, rfl⟩ |
    ⟨backend, ends, phase, rfl⟩
  · simp only [InLine, phase] at line
    obtain ⟨reply, later, unread, rfl, rfl, -⟩ := reading_unread line.2.1 extracted
    exact continues_iff line.1 unread
  · simp only [InLine, phase] at line
    exact drained_iff line

theorem own_answers_iff {state}
    (line : InLine state) : OwnAnswers state event ↔ Unmixed state event := by
  cases event with
  | passes => exact Iff.rfl
  | session event =>
    constructor
    · intro answers next outputs moved output member leaves
      exact (fits_iff line moved member leaves).mp (answers next outputs moved output member)
    intro unmixed next outputs moved output member
    have fits (leaves : output.leaves) : state.2.Fits output :=
      (fits_iff line moved member leaves).mpr (unmixed next outputs moved output member leaves)
    cases output with
    | relayed socket tag frame | release conn => exact fits trivial
    | sslReply | replied | queryTo | forwardedTo => trivial

/-- A relayed frame moves both sides on by one reply. -/
theorem relay_heard {call backend frame clientBytesWritten}
    (phase : session.phase = .reading call backend buffer clientBytesWritten)
    (extracted : extractBackendFrame buffer = some (tag, frame, rest))
    (line : InLine (session, alignment)) (undisturbed : Undisturbed IsQuery alignment.channel) :
    let heard := alignment.hear (.relayed backend.stream.socket tag frame)
    0 < frame.length ∧ Handles IsQuery IsReady heard.channel heard.current heard.shown ∧
      rest ++ backend.stream.incoming = heard.unreadBytes ∧
      (tag = readyTag → heard.Carried backend) := by
  simp only [InLine, phase] at line
  obtain ⟨handles, bytes, -⟩ := line
  obtain ⟨reply, later, unread, rfl, rfl, continued⟩ := reading_unread bytes extracted
  obtain ⟨continues, ends⟩ := (handles_undisturbed_iff handles unread).mp undisturbed
  have heard : alignment.hear
      (.relayed backend.stream.socket reply.content.tag reply.content.encode) =
        { alignment with
          channel := alignment.channel.take
          shown := alignment.shown ++ [reply] } := by
    simp [Alignment.hear, unread]
  rw [heard]
  refine ⟨by simp [BackendFrame.encode], take_handles handles unread continues, ?_, ?_⟩
  · simpa [Alignment.unreadBytes, Exchange.take, unread] using continued
  · intro ready
    obtain ⟨whole, finished⟩ := ends ready
    obtain ⟨interim, nothing⟩ := take_closes handles unread whole finished
    have gone : later = [] := by simpa [Exchange.take, unread] using nothing
    rw [gone] at continued
    refine ⟨interim, ?_⟩
    simp only [Alignment.unreadBytes, nothing]
    exact (append_eq_nil_iff.mp continued).2

/-- A session without a connection is in line between queries. -/
theorem in_line_unheld (phase : session.phase = .command) (free : session.activeBackend = none) :
    InLine (session, alignment) := by
  simp only [InLine, phase]
  intro backend active
  cases free.symm.trans active

/-- One step of session and exchange. -/
theorem step_in_line {event} (held : HeldBetween session)
    (line : InLine (session, alignment)) (moved : session.step event = some (next, outputs))
    (follows : alignment.follow session event = some followed)
    (unmixed : Unmixed (session, alignment) (.session event)) :
    InLine (next, outputs.foldl Alignment.hear followed) := by
  cases step_moves moved with
  | declined =>
    obtain rfl := Option.some.inj follows
    exact line
  | query phase backend =>
    obtain rfl := Option.some.inj follows
    exact ⟨rfl, line.held phase backend⟩
  | unheld =>
    obtain rfl := Option.some.inj follows
    exact rfl
  | forwarded phase backend other =>
    obtain rfl := follow_other other follows
    have before := line.held phase backend
    simp only [InLine, phase]
    intro same active
    obtain rfl := Option.some.inj active
    simp only [foldl_cons, foldl_nil, Alignment.hear]
    split
    · exact ⟨ask_interim before.1 (not_query_of_ne other), before.2⟩
    · exact before
  | ignored phase other =>
    obtain rfl := follow_other other follows
    exact line
  | closed phase backend =>
    obtain rfl := Option.some.inj follows
    exact line.held phase backend
  | acquired phase =>
    simp only [InLine, phase] at line
    simp only [Alignment.follow] at follows
    split at follows
    next clean =>
      obtain rfl := Option.some.inj follows
      exact ⟨line, new_interim, clean.2⟩
    · cases follows
  | started phase | acquireFailed phase | failed phase =>
    exact in_line_unheld rfl (held (by simp [phase]))
  | written phase =>
    simp only [InLine, phase] at line
    simp only [Alignment.follow, phase] at follows
    obtain rfl := Option.some.inj follows
    obtain ⟨fresh, interim, incoming⟩ := line
    refine ⟨?_, ?_, fun _ => fresh⟩
    · simp only [foldl_nil, fresh]
      exact ask_handles interim trivial
    · exact incoming
  | rewrite phase =>
    obtain rfl := Option.some.inj follows
    simp only [InLine, phase] at line
    exact line.1
  | received phase unframed positive available =>
    obtain rfl := Option.some.inj follows
    simp only [InLine, phase] at line
    refine ⟨line.1, ?_, line.2.2⟩
    simp only [PooledConnection.receive, append_assoc, take_append_drop]
    exact line.2.1
  | replayed phase =>
    obtain rfl := Option.some.inj follows
    simp only [InLine, phase] at line
    exact line.2.2 trivial
  | idle phase extracted =>
    obtain rfl := Option.some.inj follows
    have undisturbed := unmixed _ _ moved _ mem_cons_self trivial
    exact (relay_heard phase extracted line undisturbed).2.2.2 rfl
  | block phase extracted =>
    obtain rfl := Option.some.inj follows
    have undisturbed := unmixed _ _ moved _ mem_cons_self trivial
    intro same active
    obtain rfl := Option.some.inj active
    exact (relay_heard phase extracted line undisturbed).2.2.2 rfl
  | more phase extracted =>
    obtain rfl := Option.some.inj follows
    have undisturbed := unmixed _ _ moved _ mem_cons_self trivial
    obtain ⟨some, handles, bytes, -⟩ := relay_heard phase extracted line undisturbed
    exact ⟨handles, bytes, fun none => by omega⟩
  | @released backend ends phase =>
    cases ends with
    | true => exact trivial
    | false => exact in_line_unheld rfl (held (by simp [phase]))
  | notified served => exact notified_in_line line served follows
  | ready served => exact ready_in_line line served follows
  | upgraded | refused | insecure | cancelled | closedEarly | terminated | left | writeAbandoned
  | aborted => exact trivial

theorem ordered_in_line {state next}
    (held : HeldBetween state.1) (line : InLine state) (unmixed : Unmixed state event)
    (moved : orderedStep state event = some next) : HeldBetween next.1 ∧ InLine next := by
  cases event with
  | session event =>
    obtain ⟨⟨after, outputs⟩, stepped, continued⟩ := Option.bind_eq_some_iff.mp moved
    obtain ⟨followed, follows, rfl⟩ := Option.map_eq_some_iff.mp continued
    exact ⟨step_held_between held stepped, step_in_line held line stepped follows unmixed⟩
  | passes =>
    simp only [orderedStep] at moved
    split at moved
    next message rest shape =>
      split at moved
      next unanswered =>
        obtain rfl := Option.some.inj moved
        exact ⟨held, passes_in_line line shape unanswered⟩
      · cases moved
    · cases moved

/-- Along every sequence of client messages over servers that answer in order, every frame
is relayed in answer to the query at hand and every connection released drained if and
only if no frame is relayed and no connection released while a forwarded message has been
answered on it or waits for its answer. -/
theorem own_answers_relayed_iff (config : SessionConfig) (events : List OrderedEvent) :
    Meets orderedStep OwnAnswers (Session.new config, Alignment.new) events ↔
      Meets orderedStep Unmixed (Session.new config, Alignment.new) events := by
  apply meets_congr orderedStep OwnAnswers Unmixed
    (fun state => HeldBetween state.1 ∧ InLine state)
  · rintro state event next ⟨held, line⟩ answers moved
    exact ordered_in_line held line ((own_answers_iff line).mp answers) moved
  · rintro state event ⟨-, line⟩
    exact own_answers_iff line
  · exact ⟨new_held_between config, trivial⟩

/-- Inside a block the client sends Sync, which the server answers, and then `COMMIT`. -/
def syncInBlock : List OrderedEvent :=
  [.session (.initial (.startup (startupFor none none)) false),
    .session (.message (.query "BEGIN")), .session (.acquired (freshLeader 1)),
    .session .written, .session (.serverReady .transaction), .session (.received 6),
    .session .relayed, .session (.message .sync), .session (.serverReady .transaction),
    .session (.message (.query "COMMIT")), .session .written, .session (.serverReady .idle),
    .session (.received 6)]

def dataRow : BackendFrame where
  tag := 68
  payload := [0, 0]
  bounded := by decide

def readBehind : List OrderedEvent :=
  [.session .relayed,
    .session (.message (.query "SELECT secret FROM t")), .session .written,
    .session (.serverNotifies dataRow), .session (.serverReady .idle),
    .session (.received 6), .session .relayed]

/-- The connection with the row and its ReadyForQuery unread. -/
def rowPending : PooledConnection :=
  { freshLeader 1 with
    stream := { (freshLeader 1).stream with
      incoming := dataRow.encode ++ (readyFrame .idle).encode } }

theorem Alignment.Continues.number {frame} (continues : alignment.Continues tag frame) :
    ∃ reply, alignment.channel.unread.head? = some reply ∧ reply.number = alignment.current := by
  obtain ⟨reply, first, -, -, begins, -⟩ := continues
  have member : reply ∈ alignment.channel.answersTo alignment.current := begins.subset (by simp)
  have same := (mem_filter.mp member).2
  exact ⟨reply, first, by simpa using same⟩

/-- `COMMIT` is answered with the reply to Sync, and the read after it with the reply to
`COMMIT`, upon which the connection is released before the row is read. -/
theorem row_released_unread : ∃ first second, run orderedStep
          (Session.new { tlsAcceptor := false, tlsRequired := false, processId := 1 },
            Alignment.new) syncInBlock = some first ∧ first.2.current = 2 ∧
        first.2.channel.unread.head? = some ⟨1, .sync, readyFrame .transaction⟩ ∧
        ¬ OwnAnswers first (.session .relayed) ∧ run orderedStep first readBehind = some second ∧
        second.1.phase = .releasing rowPending false ∧
        ¬ OwnAnswers second (.session .released) := by
  obtain ⟨first, before, current, unread, ⟨told, written⟩, stepped, rfl, second, after, phase⟩ :
      ∃ first, run orderedStep
          (Session.new { tlsAcceptor := false, tlsRequired := false, processId := 1 },
            Alignment.new) syncInBlock = some first ∧ first.2.current = 2 ∧
        first.2.channel.unread.head? = some ⟨1, .sync, readyFrame .transaction⟩ ∧
        ∃ told, first.1.step .relayed = some told ∧
          [.relayed 1 readyTag (readyFrame .transaction).encode] = told.2 ∧
        ∃ second, run orderedStep first readBehind = some second ∧
          second.1.phase = .releasing rowPending false := by
    decide +kernel
  refine ⟨first, second, before, current, unread, ?_, after, phase, ?_⟩
  · intro answers
    obtain ⟨reply, head, number⟩ := (answers _ _ stepped _ mem_cons_self).number
    rw [unread, Option.some.injEq] at head
    rw [current, ← head] at number
    cases number
  · intro answers
    have released : second.1.step .released =
        some ({ second.1 with phase := .command }, [.release rowPending]) := by
      simp [Session.step, phase]
    have drained : Alignment.Drained second.2 rowPending :=
      answers _ _ released _ mem_cons_self
    exact absurd drained.1 (by decide)

end PgVisor.ClientSession
