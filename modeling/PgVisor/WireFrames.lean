import PgVisor.ByteWords

/-!
# PostgreSQL messages and backend frames

The messages the proxy distinguishes, and the extraction of one backend frame
from the bytes read so far. A frame is one tag byte and a big-endian signed
length that counts itself and the payload. The length is cast to the machine
word before it is compared, so a negative declared length becomes an enormous
one, and adding the tag byte wraps.

A backend stream is described by the frames it consists of. Extraction either
waits, because the buffer holds only part of the first frame, or returns exactly
that frame, wherever the reads happened to cut the stream.
-/

namespace PgVisor.WireFrames

open ByteWords List

/-- Transaction state of a backend session, as its ReadyForQuery reports it. -/
inductive TransactionStatus where
  | idle
  | transaction
  | error
deriving DecidableEq, Repr

/-- The status bytes `I`, `T` and `E`. -/
def TransactionStatus.toByte : TransactionStatus → UInt8
  | .idle => 73
  | .transaction => 84
  | .error => 69

def TransactionStatus.ofByte (byte : UInt8) : Option TransactionStatus :=
  if byte = 73 then some .idle
  else if byte = 84 then some .transaction
  else if byte = 69 then some .error
  else none

@[simp] theorem TransactionStatus.of_to_byte (status : TransactionStatus) :
    TransactionStatus.ofByte status.toByte = some status := by
  cases status <;> rfl

/-- Connection parameters of a startup packet. -/
structure StartupMessage where
  protocolVersion : Nat
  parameters : List (String × String)
deriving DecidableEq

def StartupMessage.user (startup : StartupMessage) : Option String :=
  startup.parameters.lookup "user"

def StartupMessage.database (startup : StartupMessage) : Option String :=
  startup.parameters.lookup "database"

/-- What the first packets of a client connection ask for. -/
inductive InitialClientMessage where
  | startup (message : StartupMessage)
  | sslRequest
  | cancelRequest (processId secretKey : Nat)
deriving DecidableEq

/-- Client messages after the startup packet. The decoder produces queries, syncs,
flushes, terminations and raw messages; the remaining constructors exist in the
source's type and are ignored by the session. -/
inductive FrontendMessage where
  | query (sql : String)
  | parse (name query : String) (paramTypes : List Nat)
  | bind (portal statement : String)
  | describe (targetType : UInt8) (name : String)
  | execute (portal : String) (maxRows : Int)
  | sync
  | flush
  | close (targetType : UInt8) (name : String)
  | password (secret : String)
  | terminate
  | raw (tag : UInt8) (payload : Bytes)
deriving DecidableEq

/-- Backend messages. -/
inductive BackendMessage where
  | authenticationOk
  | authenticationCleartextPassword
  | authenticationMD5Password (salt : Bytes)
  | authenticationSASL (mechanisms : List String)
  | authenticationSASLContinue (data : Bytes)
  | authenticationSASLFinal (data : Bytes)
  | backendKeyData (processId secretKey : Nat)
  | parameterStatus (name value : String)
  | readyForQuery (status : TransactionStatus)
  | commandComplete (tag : String)
  | errorResponse (message : String)
  | noticeResponse (message : String)
  | rowDescription (columns : List String)
  | dataRow (values : List (Option String))
  | raw (tag : UInt8) (payload : Bytes)
deriving DecidableEq

/-- The tag `Z` of ReadyForQuery. -/
def readyTag : UInt8 := 90

/-- `i32::from_be_bytes(..) as usize`: sign extension to 64 bits. -/
def declaredLen (bytes : Bytes) : Nat :=
  let word := decodeWord bytes
  if word < 2 ^ 31 then word else word + (2 ^ 64 - 2 ^ 32)

/-- Split one complete frame off the buffer: its tag, its bytes and what follows.
The frame end is computed in wrapping machine arithmetic. -/
def extractBackendFrame (buffer : Bytes) : Option (UInt8 × Bytes × Bytes) :=
  match buffer with
  | tag :: b1 :: b2 :: b3 :: b4 :: _ =>
    let frameEnd := (1 + declaredLen [b1, b2, b3, b4]) % 2 ^ 64
    if buffer.length < frameEnd then none
    else some (tag, buffer.take frameEnd, buffer.drop frameEnd)
  | _ => none

/-- The status the session reads off a ReadyForQuery frame. A frame without a
status byte, or with an unknown one, counts as idle. -/
def frameStatus (frame : Bytes) : TransactionStatus :=
  let statusByte := (frame.drop 5).headD 73
  (TransactionStatus.ofByte statusByte).getD .idle

/-- A frame a backend may send: its declared length fits a positive 32-bit word. -/
structure BackendFrame where
  tag : UInt8
  payload : Bytes
  bounded : payload.length + 4 < 2 ^ 31
deriving DecidableEq

def BackendFrame.encode (frame : BackendFrame) : Bytes :=
  frame.tag :: (encodeWord (frame.payload.length + 4) ++ frame.payload)

/-- The bytes of a stream of frames. -/
def encodeFrames (frames : List BackendFrame) : Bytes := frames.flatMap BackendFrame.encode

@[simp] theorem encode_frames_nil : encodeFrames [] = [] := rfl

variable (frame : BackendFrame)

@[simp] theorem encode_frames_cons (rest : List BackendFrame) :
    encodeFrames (frame :: rest) = frame.encode ++ encodeFrames rest := rfl

@[simp] theorem encode_frames_append (first second : List BackendFrame) :
    encodeFrames (first ++ second) = encodeFrames first ++ encodeFrames second := by
  simp [encodeFrames]

/-- ReadyForQuery with a status byte. -/
def readyFrame (status : TransactionStatus) : BackendFrame where
  tag := readyTag
  payload := [status.toByte]
  bounded := by simp

@[simp] theorem frame_status_ready (status : TransactionStatus) :
    frameStatus (readyFrame status).encode = status := by
  cases status <;> rfl

@[simp] theorem encode_length : frame.encode.length = 5 + frame.payload.length := by
  simp [BackendFrame.encode]
  omega

/-- The length field of a sent frame is read back as its length. -/
theorem declared_len_encode :
    declaredLen (encodeWord (frame.payload.length + 4)) = frame.payload.length + 4 := by
  have bounded := frame.bounded
  have decoded := decode_encode_word (frame.payload.length + 4) (by omega)
  simp only [declaredLen, decoded, bounded, ↓reduceIte]

/-- Bytes that begin with a frame's header: the buffer is split exactly behind
the frame, or nothing is returned while part of it is missing. -/
theorem extract_header (body : Bytes) :
    extractBackendFrame (frame.tag :: (encodeWord (frame.payload.length + 4) ++ body)) =
      if body.length < frame.payload.length then none
      else some (frame.tag,
        frame.tag :: (encodeWord (frame.payload.length + 4) ++ body.take frame.payload.length),
        body.drop frame.payload.length) := by
  have declared := declared_len_encode frame
  have bounded := frame.bounded
  have frameEnd : (1 + (frame.payload.length + 4)) % 2 ^ 64 = frame.payload.length + 5 := by omega
  obtain ⟨b1, b2, b3, b4, word⟩ :
      ∃ b1 b2 b3 b4, encodeWord (frame.payload.length + 4) = [b1, b2, b3, b4] :=
    ⟨_, _, _, _, rfl⟩
  rw [word] at declared ⊢
  simp only [extractBackendFrame, cons_append, nil_append, declared, frameEnd,
    length_cons, Nat.add_lt_add_iff_right, take_succ_cons, drop_succ_cons]

/-- A complete frame is split off byte for byte. -/
theorem extract_frame (rest : Bytes) :
    extractBackendFrame (frame.encode ++ rest) = some (frame.tag, frame.encode, rest) := by
  have whole := extract_header frame (frame.payload ++ rest)
  have complete : ¬ (frame.payload ++ rest).length < frame.payload.length := by simp
  rw [if_neg complete, take_left, drop_left] at whole
  simpa only [BackendFrame.encode, cons_append, append_assoc] using whole

/-- Fewer bytes than a header yield nothing. -/
theorem extract_short (buffer : Bytes) (short : buffer.length < 5) :
    extractBackendFrame buffer = none := by
  match buffer, short with
  | [], _ | [_], _ | [_, _], _ | [_, _, _], _ | [_, _, _, _], _ => rfl

/-- A buffer that ends inside its first frame yields nothing. -/
theorem extract_incomplete {buffer missing : Bytes} (cut : frame.encode = buffer ++ missing)
    (short : missing ≠ []) : extractBackendFrame buffer = none := by
  have headed : frame.encode =
      (frame.tag :: encodeWord (frame.payload.length + 4)) ++ frame.payload := rfl
  have positive : 0 < missing.length := length_pos_of_ne_nil short
  rw [headed] at cut
  rcases append_eq_append_iff.mp cut with ⟨body, present, payload⟩ | ⟨lacking, split, -⟩
  · -- the header is complete and a proper part of the payload has arrived
    have lengths := congrArg List.length payload
    simp only [length_append] at lengths
    have whole := extract_header frame body
    rw [if_pos (by omega)] at whole
    rw [present]
    exact whole
  · -- the cut lies inside the header
    have lengths := congrArg List.length split
    have size : frame.encode.length = buffer.length + missing.length := by
      rw [headed, cut, length_append]
    simp only [length_cons, encode_word_length, length_append] at lengths
    by_cases inside : buffer.length < 5
    · exact extract_short buffer inside
    have nothing : lacking = [] := eq_nil_of_length_eq_zero (by omega)
    rw [nothing, append_nil] at split
    rw [encode_length] at size
    have whole := extract_header frame []
    have bound : ([] : Bytes).length < frame.payload.length := by
      have total : buffer.length = 5 := by omega
      simp only [length_nil]
      omega
    rw [if_pos bound, append_nil] at whole
    rw [← split]
    exact whole

/-- Whatever part of a frame stream has been read, extraction returns its first
frame or nothing, and the bytes after the returned frame continue the stream. -/
theorem extract_stream {frames buffer unread} (stream : buffer ++ unread = encodeFrames frames)
    {tag bytes remaining} (extracted : extractBackendFrame buffer = some (tag, bytes, remaining)) :
    ∃ frame rest, frames = frame :: rest ∧ tag = frame.tag ∧ bytes = frame.encode ∧
      remaining ++ unread = encodeFrames rest := by
  cases frames with
  | nil =>
    obtain ⟨rfl, -⟩ := append_eq_nil_iff.mp stream
    cases extracted
  | cons frame rest =>
    refine ⟨frame, rest, rfl, ?_⟩
    rw [encode_frames_cons] at stream
    have complete (behind : Bytes) (whole : buffer = frame.encode ++ behind)
        (continued : behind ++ unread = encodeFrames rest) :
        tag = frame.tag ∧ bytes = frame.encode ∧ remaining ++ unread = encodeFrames rest := by
      rw [whole, extract_frame, Option.some.injEq, Prod.mk.injEq, Prod.mk.injEq] at extracted
      obtain ⟨rfl, rfl, rfl⟩ := extracted
      exact ⟨rfl, rfl, continued⟩
    rcases append_eq_append_iff.mp stream with ⟨missing, cut, after⟩ | ⟨behind, whole, after⟩
    · by_cases nothing : missing = []
      · subst nothing
        rw [append_nil] at cut
        exact complete [] (by rw [cut, append_nil]) (by simpa using after)
      · rw [extract_incomplete frame cut nothing] at extracted
        cases extracted
    · exact complete behind whole after.symm

/-- A test of the framing on a notice followed by ReadyForQuery. -/
example : extractBackendFrame ([78, 0, 0, 0, 8, 87, 65, 82, 0] ++ (readyFrame .idle).encode) =
    some (78, [78, 0, 0, 0, 8, 87, 65, 82, 0], [90, 0, 0, 0, 5, 73]) := by
  decide

end PgVisor.WireFrames
