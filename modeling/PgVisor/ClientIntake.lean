import PgVisor.ClientSession

/-!
# What a client sends, byte by byte

The session reads into one buffer for its whole life. During the handshake every read is
followed by one attempt to decode an initial packet; in the command loop every read is
followed by decoding until nothing complete is left. The stream is plaintext until a TLS
handshake with the client succeeds. Each buffered byte remembers the stream it was read from;
the session does not.

Packets are taken apart by the pgwire crate. Its two decoders are supplied as functions of
which only this is assumed: a message is taken off the front of the buffer and is not empty,
and a startup decoder without a result leaves the buffer alone. Everything a session does
with a decoded message, a pool or a backend is the message-level session.
-/

namespace PgVisor.ClientIntake

open ByteWords WireFrames ClientSession List

/-! ## Decoding -/

/-- What pgwire finds in a buffer that awaits a startup packet. -/
inductive PgInitial where
  | failed (message : String)
  | incomplete
  | startup (message : StartupMessage) (rest : Bytes)
  | cancelRequest (processId secretKey : Nat) (rest : Bytes)

def PgInitial.rest : PgInitial → Option Bytes
  | .startup _ rest => some rest
  | .cancelRequest _ _ rest => some rest
  | _ => none

/-- What pgwire finds in a buffer of framed messages. -/
inductive PgFrontend where
  | failed (message : String)
  | incomplete
  | query (sql : String) (rest : Bytes)
  | terminate (rest : Bytes)
  | sync (rest : Bytes)
  | flush (rest : Bytes)
  | other (rest : Bytes)

def PgFrontend.rest : PgFrontend → Option Bytes
  | .query _ rest => some rest
  | .terminate rest => some rest
  | .sync rest => some rest
  | .flush rest => some rest
  | .other rest => some rest
  | _ => none

/-- The remaining bytes are what is left after a first, nonempty part. -/
def TakenOff (source rest : Bytes) : Prop := ∃ taken, taken ≠ [] ∧ source = taken ++ rest

/-- The decoders of pgwire. -/
structure PgWire where
  initial : Bytes → PgInitial
  frontend : Bytes → PgFrontend
  initial_rest : ∀ source rest, (initial source).rest = some rest → TakenOff source rest
  frontend_rest : ∀ source rest, (frontend source).rest = some rest → TakenOff source rest

/-- The outcome of a decoder on a buffer: it panics, returns an error, finds nothing or
finds a message, and in the last two cases leaves a rest. -/
inductive Decoded (Message : Type) where
  | panicked
  | failed (message : String)
  | nothing (rest : Bytes)
  | found (message : Message) (rest : Bytes)

def sslRequestCode : Nat := 80877103

def cancelRequestCode : Nat := 80877102

/-- A startup or cancel packet as pgwire decodes it. -/
def pgInitial (pgwire : PgWire) (source : Bytes) : Decoded InitialClientMessage :=
  match pgwire.initial source with
  | .startup message rest => .found (.startup message) rest
  | .cancelRequest processId secretKey rest => .found (.cancelRequest processId secretKey) rest
  | .incomplete => .nothing source
  | .failed message => .failed message

/-- `InitialClientMessage::decode`. -/
def decodeInitial (pgwire : PgWire) (source : Bytes) : Decoded InitialClientMessage :=
  if source.length < 4 then .nothing source else
  let len := declaredLen (source.take 4)
  if source.length < len then .nothing source else
  let code := decodeWord ((source.drop 4).take 4)
  if 8 ≤ source.length ∧ len = 8 ∧ code = sslRequestCode then
    .found .sslRequest (source.drop 8)
  else if 8 ≤ source.length ∧ len = 16 ∧ code = cancelRequestCode then
    .found (.cancelRequest (decodeWord ((source.drop 8).take 4))
      (decodeWord ((source.drop 12).take 4))) (source.drop 16)
  else pgInitial pgwire source

/-- `FrontendMessage::decode`. Tags other than `Q`, `X`, `S` and `H` are split off whole; a
declared length below four leaves too little to skip the header of. -/
def decodeFrontend (pgwire : PgWire) (arithmetic : Arithmetic) (source : Bytes) :
    Decoded FrontendMessage :=
  match source with
  | tag :: b1 :: b2 :: b3 :: b4 :: _ =>
    match arithmetic.add 1 (declaredLen [b1, b2, b3, b4]) with
    | none => .panicked
    | some frameEnd =>
      if source.length < frameEnd then .nothing source
      else if tag = 81 ∨ tag = 88 ∨ tag = 83 ∨ tag = 72 then
        match pgwire.frontend source with
        | .query sql rest => if tag = 81 then .found (.query sql) rest else .nothing rest
        | .terminate rest => if tag = 88 then .found .terminate rest else .nothing rest
        | .sync rest => if tag = 83 then .found .sync rest else .nothing rest
        | .flush rest => if tag = 72 then .found .flush rest else .nothing rest
        | .other rest => .nothing rest
        | .incomplete => .nothing source
        | .failed message => .failed message
      else if frameEnd < 5 then .panicked
      else .found (.raw tag ((source.take frameEnd).drop 5)) (source.drop frameEnd)
  | _ => .nothing source

theorem taken_off_drop {source : Bytes} {count : Nat} (positive : 0 < count)
    (enough : count ≤ source.length) : TakenOff source (source.drop count) := by
  refine ⟨source.take count, ?_, (take_append_drop count source).symm⟩
  intro empty
  have length := congrArg List.length empty
  rw [length_take, length_nil] at length
  omega

theorem decode_initial_found {pgwire : PgWire} {source rest : Bytes}
    {message : InitialClientMessage} (found : decodeInitial pgwire source = .found message rest) :
    TakenOff source rest := by
  simp only [decodeInitial] at found
  split_ifs at found with short long request cancel
  · cases found
    exact taken_off_drop (by decide) request.1
  · cases found
    rw [cancel.2.1] at long
    exact taken_off_drop (by decide) (Nat.le_of_not_lt long)
  · apply pgwire.initial_rest
    rw [pgInitial] at found
    split at found <;> cases found <;> rename_i decoded <;> rw [decoded] <;> rfl

/-- Without a message the buffer is as it was. -/
theorem decode_initial_nothing (pgwire : PgWire) (source rest : Bytes)
    (nothing : decodeInitial pgwire source = .nothing rest) : rest = source := by
  simp only [decodeInitial] at nothing
  split_ifs at nothing
  · cases nothing
    rfl
  · cases nothing
    rfl
  · rw [pgInitial] at nothing
    split at nothing <;> cases nothing
    rfl

/-! ## Reading and decoding -/

/-- The two kinds of client stream. -/
inductive Channel where
  | plain
  | tls
deriving DecidableEq

/-- A buffered byte and the stream it was read from. -/
structure Received where
  byte : UInt8
  channel : Channel
deriving DecidableEq

/-- A session with its stream and read buffer. `draining` is set while the command loop
decodes what it has read. -/
structure Intake where
  session : Session
  stream : Channel
  buffer : List Received
  draining : Bool
deriving DecidableEq

/-- The client sends bytes that one read returns, the command loop decodes its next
message, or anything else happens to the session. -/
inductive IntakeEvent where
  | chunk (bytes : Bytes) (tlsAccepted : Bool)
  | decode
  | session (event : Event)
deriving DecidableEq

namespace Intake

def new (config : SessionConfig) : Intake where
  session := .new config
  stream := .plain
  buffer := []
  draining := false

def content (intake : Intake) : Bytes := intake.buffer.map Received.byte

def read (intake : Intake) (bytes : Bytes) : Intake :=
  { intake with buffer := intake.buffer ++ bytes.map (⟨·, intake.stream⟩) }

/-- The bytes in front of a rest of the buffer. -/
def front (intake : Intake) (rest : Bytes) : List Received :=
  intake.buffer.take (intake.buffer.length - rest.length)

/-- Keep a rest of the buffer. -/
def keep (intake : Intake) (rest : Bytes) : Intake :=
  { intake with buffer := intake.buffer.drop (intake.buffer.length - rest.length) }

/-- An error or a panic ends the session and drops what it owns. -/
def fail (intake : Intake) : Intake := { intake with session := intake.session.finish }

/-- The stream after an initial packet: upgraded when the handshake goes on encrypted. -/
def upgraded (intake : Intake) (session : Session) : Channel :=
  if session.phase = .handshake true then .tls else intake.stream

/-- The attempt to decode after a read of the handshake. -/
def onHandshake (pgwire : PgWire) (intake : Intake) (encrypted tlsAccepted : Bool) :
    Intake × List Output :=
  match decodeInitial pgwire intake.content with
  | .found message rest =>
    let (session, outputs) := intake.session.onInitial encrypted message tlsAccepted
    ({ intake.keep rest with session, stream := intake.upgraded session }, outputs)
  | .nothing rest => (intake.keep rest, [])
  | .failed _ => (intake.fail, [])
  | .panicked => (intake.fail, [])

/-- One round of the decoding loop after a read of the command loop. -/
def onCommand (pgwire : PgWire) (arithmetic : Arithmetic) (intake : Intake) :
    Intake × List Output :=
  match decodeFrontend pgwire arithmetic intake.content with
  | .found message rest =>
    let (session, outputs) := intake.session.onMessage message
    ({ intake.keep rest with session }, outputs)
  | .nothing rest => ({ intake.keep rest with draining := false }, [])
  | .failed _ => (intake.fail, [])
  | .panicked => (intake.fail, [])

/-- One step. Decoding supplies the initial packets and messages of the session; the end of
the client's stream is seen by a read. -/
def step (pgwire : PgWire) (arithmetic : Arithmetic) (intake : Intake) :
    IntakeEvent → Option (Intake × List Output)
  | .chunk bytes tlsAccepted =>
    if bytes = [] then none else
      match intake.session.phase with
      | .handshake encrypted => some ((intake.read bytes).onHandshake pgwire encrypted tlsAccepted)
      | .command =>
        if intake.draining then none else some ({ intake.read bytes with draining := true }, [])
      | _ => none
  | .decode =>
    if intake.session.phase = .command ∧ intake.draining = true then
      some (intake.onCommand pgwire arithmetic)
    else none
  | .session (.initial _ _) => none
  | .session (.message _) => none
  | .session .clientClosed =>
    if intake.draining then none else
      (intake.session.step .clientClosed).map fun next =>
        ({ intake with session := next.1 }, next.2)
  | .session event =>
    (intake.session.step event).map fun next => ({ intake with session := next.1 }, next.2)

/-- The bytes of the message that an event decodes, if it decodes one. -/
def decodes (pgwire : PgWire) (arithmetic : Arithmetic) (intake : Intake) :
    IntakeEvent → Option (List Received)
  | .chunk bytes _ =>
    if bytes = [] then none else
      match intake.session.phase, decodeInitial pgwire (intake.read bytes).content with
      | .handshake _, .found _ rest => some ((intake.read bytes).front rest)
      | _, _ => none
  | .decode =>
    if intake.session.phase = .command ∧ intake.draining = true then
      match decodeFrontend pgwire arithmetic intake.content with
      | .found _ rest => some (intake.front rest)
      | _ => none
    else none
  | .session _ => none

/-- Packets and messages reach the session by decoding only. -/
def isInput : Event → Bool
  | .initial _ _ => true
  | .message _ => true
  | _ => false

/-- What a step can do. -/
inductive Moves (pgwire : PgWire) (arithmetic : Arithmetic) (intake : Intake) :
    IntakeEvent → Intake → List Output → Prop where
  | handshake {bytes tlsAccepted encrypted} (sent : bytes ≠ [])
      (phase : intake.session.phase = .handshake encrypted) :
      Moves pgwire arithmetic intake (.chunk bytes tlsAccepted)
        ((intake.read bytes).onHandshake pgwire encrypted tlsAccepted).1
        ((intake.read bytes).onHandshake pgwire encrypted tlsAccepted).2
  | reads {bytes tlsAccepted} (sent : bytes ≠ [])
      (phase : intake.session.phase = .command) (drained : intake.draining = false) :
      Moves pgwire arithmetic intake (.chunk bytes tlsAccepted)
        { intake.read bytes with draining := true } []
  | decodes (phase : intake.session.phase = .command) (draining : intake.draining = true) :
      Moves pgwire arithmetic intake .decode (intake.onCommand pgwire arithmetic).1
        (intake.onCommand pgwire arithmetic).2
  | session {event next outputs}
      (other : isInput event = false) (moved : intake.session.step event = some (next, outputs)) :
      Moves pgwire arithmetic intake (.session event) { intake with session := next } outputs

theorem moves_of_pair {pgwire arithmetic intake next event outputs result}
    (same : result = (next, outputs))
    (moves : Moves pgwire arithmetic intake event result.1 result.2) :
    Moves pgwire arithmetic intake event next outputs := by
  rwa [same] at moves

/-- Every step is one of these moves. -/
theorem step_moves {pgwire arithmetic intake next event outputs}
    (moved : intake.step pgwire arithmetic event = some (next, outputs)) :
    Moves pgwire arithmetic intake event next outputs := by
  have mapped {inner : Event} (other : isInput inner = false)
      (stepped : (intake.session.step inner).map
        (fun next => ({ intake with session := next.1 }, next.2)) = some (next, outputs)) :
      Moves pgwire arithmetic intake (.session inner) next outputs := by
    obtain ⟨⟨session, written⟩, taken, same⟩ := Option.map_eq_some_iff.mp stepped
    cases same
    exact .session other taken
  cases event with
  | chunk bytes tlsAccepted =>
    rw [step] at moved
    by_cases empty : bytes = []
    · rw [if_pos empty] at moved
      cases moved
    rw [if_neg empty] at moved
    cases phase : intake.session.phase with
    | handshake encrypted =>
      rw [phase] at moved
      exact moves_of_pair (Option.some.inj moved) (.handshake empty phase)
    | command =>
      rw [phase] at moved
      by_cases draining : intake.draining = true
      · rw [if_pos draining] at moved
        cases moved
      · rw [if_neg draining] at moved
        exact moves_of_pair (Option.some.inj moved)
          (.reads empty phase (Bool.eq_false_iff.mpr draining))
    | _ =>
      rw [phase] at moved
      cases moved
  | decode =>
    simp only [step] at moved
    split_ifs at moved with ready
    exact moves_of_pair (Option.some.inj moved) (.decodes ready.1 ready.2)
  | session inner =>
    cases inner with
    | initial message tlsAccepted | message message => cases moved
    | clientClosed =>
      simp only [step] at moved
      split_ifs at moved
      exact mapped rfl moved
    | _ => exact mapped rfl moved

/-- The first buffered byte belongs to whatever is taken off the buffer. -/
theorem front_head (intake : Intake) (first : Received) (others : List Received) (rest : Bytes)
    (shape : intake.buffer = first :: others) (taken : TakenOff intake.content rest) :
    first ∈ intake.front rest := by
  obtain ⟨part, nonempty, whole⟩ := taken
  have positive : 0 < part.length := length_pos_iff.mpr nonempty
  have length := congrArg List.length whole
  rw [content, length_map, length_append] at length
  obtain ⟨count, enough⟩ : ∃ count, intake.buffer.length - rest.length = count + 1 :=
    Nat.exists_eq_add_of_lt (by omega : 0 < intake.buffer.length - rest.length) |>.imp
      (fun _ same => by omega)
  rw [front, enough, shape, take_succ_cons]
  exact mem_cons_self

/-- Keeping everything changes nothing. -/
theorem keep_content (intake : Intake) : intake.keep intake.content = intake := by
  rw [keep, content, length_map, Nat.sub_self, drop_zero]

end Intake

end PgVisor.ClientIntake
