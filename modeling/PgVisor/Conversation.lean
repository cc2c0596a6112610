import PgVisor.ClientSession

/-!
# Conversations with a backend

Between queries a well-kept connection is quiet: the server owes no ReadyForQuery and
whatever it has sent unasked consists of whole frames of other kinds. While a query is
being answered, the bytes read and not yet framed followed by the bytes not yet read
form a frame stream with at most one ReadyForQuery, and it carries the status the
server last reported.

Reading the ReadyForQuery makes the connection quiet again if the read buffer, which
is thrown away at that point, ends between two frames.
-/

namespace PgVisor.ConnectionPool

open ByteWords WireFrames ClientSession List

variable {status : TransactionStatus} {rest : Bytes} {tag : UInt8} {addr : String}
  {role : BackendRole} {user database : Option String} {tls : Bool} {dial : Dial}

/-- No frame is a ReadyForQuery. -/
def Unready (frames : List BackendFrame) : Prop := ∀ frame ∈ frames, frame.tag ≠ readyTag

theorem unready_nil : Unready [] := by
  intro frame member
  cases member

theorem unready_append {first second} (left : Unready first)
    (right : Unready second) : Unready (first ++ second) := by
  intro frame member
  rcases mem_append.mp member with early | late
  · exact left frame early
  · exact right frame late

variable {frame : BackendFrame}

theorem unready_singleton (other : frame.tag ≠ readyTag) : Unready [frame] := by
  intro member inside
  rw [mem_singleton.mp inside]
  exact other

/-- Nothing is owed and nothing but unasked frames is on its way. -/
def Quiet (stream : BackendStream) : Prop :=
  stream.owed = 0 ∧ ∃ frames, stream.incoming = encodeFrames frames ∧ Unready frames

/-- A query is being answered and `buffer` was read of the answer. -/
def Answering (buffer : Bytes) (stream : BackendStream) : Prop :=
  (stream.owed = 1 ∧ ∃ frames, buffer ++ stream.incoming = encodeFrames frames ∧ Unready frames) ∨
  (stream.owed = 0 ∧ ∃ before after, buffer ++ stream.incoming =
        encodeFrames (before ++ readyFrame stream.reported :: after) ∧
      Unready before ∧ Unready after)

/-- The bytes are whole frames. -/
def WholeFrames (bytes : Bytes) : Prop := ∃ frames, bytes = encodeFrames frames

/-! ### The server acts -/

variable {stream next : BackendStream}

theorem notify_quiet (quiet : Quiet stream) (sent : stream.notify frame = some next) :
    Quiet next ∧ next.reported = stream.reported := by
  obtain ⟨other, rfl⟩ := notify_cases sent
  obtain ⟨settled, frames, incoming, unready⟩ := quiet
  refine ⟨⟨settled, frames ++ [frame], ?_, ?_⟩, rfl⟩
  · simp [incoming]
  · exact unready_append unready (unready_singleton other)

theorem ready_not_quiet (sent : stream.becomeReady status = some next) : ¬ Quiet stream := by
  rintro ⟨settled, -⟩
  obtain ⟨due, -⟩ := become_ready_cases sent
  omega

variable {buffer : Bytes}

theorem notify_answering (answering : Answering buffer stream)
    (sent : stream.notify frame = some next) : Answering buffer next := by
  obtain ⟨other, rfl⟩ := notify_cases sent
  rcases answering with ⟨due, frames, bytes, unready⟩ | ⟨settled, before, after, bytes, left, right⟩
  · refine .inl ⟨due, frames ++ [frame], ?_, unready_append unready (unready_singleton other)⟩
    rw [encode_frames_append, ← bytes]
    simp
  · refine .inr ⟨settled, before, after ++ [frame], ?_, left,
      unready_append right (unready_singleton other)⟩
    have extended := congrArg (· ++ frame.encode) bytes
    simpa using extended

theorem ready_answering (answering : Answering buffer stream)
    (sent : stream.becomeReady status = some next) : Answering buffer next := by
  obtain ⟨due, shape⟩ := become_ready_cases sent
  rcases answering with ⟨one, frames, bytes, unready⟩ | ⟨settled, -⟩
  · rw [shape]
    refine .inr ⟨by simp only; omega, frames, [], ?_, unready, unready_nil⟩
    rw [encode_frames_append, ← bytes]
    simp
  · omega

/-! ### The owner acts -/

variable {conn : PooledConnection}

/-- Delivering a query to a quiet connection starts an answer. -/
theorem deliver_answering (sql : String) (quiet : Quiet conn.stream) :
    Answering [] (PooledConnection.deliver conn (.query sql)).stream := by
  obtain ⟨settled, frames, incoming, unready⟩ := quiet
  refine .inl ⟨?_, frames, incoming, unready⟩
  simp [PooledConnection.deliver, BackendStream.deliver, answersOwed, settled]

/-- A message that asks for no ReadyForQuery keeps a connection quiet. -/
theorem deliver_quiet {message} (unanswered : answersOwed message = 0)
    (quiet : Quiet conn.stream) : Quiet (PooledConnection.deliver conn message).stream := by
  obtain ⟨settled, frames, incoming, unready⟩ := quiet
  refine ⟨?_, frames, incoming, unready⟩
  simp [PooledConnection.deliver, BackendStream.deliver, unanswered, settled]

/-- Reading moves bytes into the buffer. -/
theorem receive_answering (count : Nat) (answering : Answering buffer conn.stream) :
    Answering (buffer ++ conn.stream.incoming.take count)
      (PooledConnection.receive conn count).stream := by
  have same : buffer ++ conn.stream.incoming.take count ++ conn.stream.incoming.drop count =
      buffer ++ conn.stream.incoming := by
    rw [append_assoc, take_append_drop]
  rcases answering with ⟨due, frames, bytes, unready⟩ | ⟨settled, before, after, bytes, rest⟩
  · exact .inl ⟨due, frames, same.trans bytes, unready⟩
  · exact .inr ⟨settled, before, after, same.trans bytes, rest⟩

/-- A frame that is not a ReadyForQuery leaves the answer unfinished. -/
theorem frame_answering {frame} (answering : Answering buffer stream)
    (extracted : extractBackendFrame buffer = some (tag, frame, rest)) (other : tag ≠ readyTag) :
    Answering rest stream := by
  rcases answering with ⟨due, frames, bytes, unready⟩ | ⟨settled, before, after, bytes, left, right⟩
  · obtain ⟨first, others, rfl, -, -, continued⟩ := extract_stream bytes extracted
    refine .inl ⟨due, others, continued, ?_⟩
    intro member inside
    exact unready member (mem_cons_of_mem first inside)
  · obtain ⟨first, others, split, same, -, continued⟩ := extract_stream bytes extracted
    cases before with
    | nil =>
      rw [nil_append, List.cons.injEq] at split
      rw [same, ← split.1] at other
      exact absurd rfl other
    | cons head tail =>
      rw [cons_append, List.cons.injEq] at split
      refine .inr ⟨settled, tail, after, by rw [continued, ← split.2], ?_, right⟩
      intro member inside
      exact left member (mem_cons_of_mem head inside)

/-- Whole frames taken off the front of a frame stream leave a frame stream. -/
theorem drop_whole {bytes} :
    ∀ (dropped frames : List BackendFrame), encodeFrames dropped ++ bytes = encodeFrames frames →
      ∃ kept, bytes = encodeFrames kept ∧ ∀ frame ∈ kept, frame ∈ frames := by
  intro dropped
  induction dropped with
  | nil =>
    intro frames stream
    exact ⟨frames, stream, fun _ member => member⟩
  | cons head tail ih =>
    intro frames stream
    have extracted : extractBackendFrame (encodeFrames (head :: tail) ++ bytes) =
        some (head.tag, head.encode, encodeFrames tail ++ bytes) := by
      rw [encode_frames_cons, append_assoc]
      exact extract_frame head _
    have whole : encodeFrames (head :: tail) ++ bytes ++ [] = encodeFrames frames := by
      rw [append_nil, stream]
    obtain ⟨first, others, rfl, -, -, continued⟩ := extract_stream whole extracted
    obtain ⟨kept, bytes, inside⟩ := ih others (by simpa using continued)
    exact ⟨kept, bytes, fun frame member => mem_cons_of_mem first (inside frame member)⟩

/-- The ReadyForQuery of an answer carries the reported status, and the connection is
quiet again unless the discarded buffer ends inside a frame. -/
theorem ready_read {frame} (answering : Answering buffer stream)
    (extracted : extractBackendFrame buffer = some (tag, frame, rest)) (ready : tag = readyTag) :
    frame = (readyFrame stream.reported).encode ∧ (WholeFrames rest → Quiet stream) := by
  rcases answering with ⟨due, frames, bytes, unready⟩ | ⟨settled, before, after, bytes, left, right⟩
  · obtain ⟨first, others, rfl, same, -⟩ := extract_stream bytes extracted
    exact absurd (same.symm.trans ready) (unready first mem_cons_self)
  obtain ⟨first, others, split, same, encoded, continued⟩ := extract_stream bytes extracted
  cases before with
  | nil =>
    rw [nil_append, List.cons.injEq] at split
    obtain ⟨rfl, rfl⟩ := split
    refine ⟨encoded, ?_⟩
    rintro ⟨dropped, rfl⟩
    obtain ⟨kept, incoming, inside⟩ := drop_whole dropped _ continued
    exact ⟨settled, kept, incoming, fun member present => right member (inside member present)⟩
  | cons head tail =>
    rw [cons_append, List.cons.injEq] at split
    rw [← split.1] at same
    exact absurd (same.symm.trans ready) (left head mem_cons_self)

/-- A connection fresh from the handshake is quiet. -/
theorem connect_quiet (opened : connectWithTls addr role user database tls dial = .ok conn) :
    Quiet conn.stream := by
  obtain ⟨-, settled, incoming, -⟩ := connect_with_tls_stream opened
  exact ⟨settled, [], incoming, unready_nil⟩

theorem connect_idle (starts : dial.startsIdle = true)
    (opened : connectWithTls addr role user database tls dial = .ok conn) :
    conn.stream.reported = .idle := by
  obtain ⟨-, -, -, ready⟩ := connect_with_tls_stream opened
  apply await_ready_idle ready
  intro reported member
  have listed := all_eq_true.mp starts _ member
  simpa using listed

end PgVisor.ConnectionPool
