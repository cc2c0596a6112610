import PgVisor.ClientIntake
import PgVisor.FrameDraining

/-!
# What the decoders make of messages

Frontend messages that are not taken apart are forwarded byte for byte. Backend messages are
taken apart by pgwire, of whose decoder nothing is assumed; it may have taken bytes off the
buffer when it fails. A message it fails on is then split off behind those bytes, and one it
knows but the proxy does not loses its payload.

The values of a row are read in a loop that goes by the lengths in front of them. A length
below minus one is passed over without a value, so that the values behind it move up.
-/

namespace PgVisor.ClientIntake

open ByteWords WireFrames List

/-! ## Backend messages -/

inductive PgAuthentication where
  | ok
  | cleartextPassword
  | md5Password (salt : Bytes)
  | sasl (mechanisms : List String)
  | saslContinue (data : Bytes)
  | saslFinal (data : Bytes)
  | other

/-- The backend messages pgwire tells apart. -/
inductive PgBackendMessage where
  | authentication (auth : PgAuthentication)
  | parameterStatus (name value : String)
  | backendKeyData (pid : Nat) (secretKey : Option Nat)
  | readyForQuery (status : TransactionStatus)
  | commandComplete (tag : String)
  | errorResponse (fields : List (UInt8 × String))
  | noticeResponse (fields : List (UInt8 × String))
  | rowDescription (names : List String)
  | dataRow (data : Bytes) (fieldCount : Int)
  | other

/-- What pgwire finds in a buffer of backend messages; a failure may leave less of it. -/
inductive PgBackend where
  | failed (rest : Bytes)
  | incomplete
  | found (message : PgBackendMessage) (rest : Bytes)

/-- The backend decoder of pgwire, and `String::from_utf8_lossy`. -/
structure PgBackendWire where
  decode : Bytes → PgBackend
  fromUtf8Lossy : Bytes → String

/-- The loop of `decode_data_row_values`. A length below minus one yields no value. -/
def dataRowValues (fromUtf8Lossy : Bytes → String) : Nat → Bytes → List (Option String)
  | count + 1, b1 :: b2 :: b3 :: b4 :: rest =>
    let len := decodeWord [b1, b2, b3, b4]
    if len = 2 ^ 32 - 1 then none :: dataRowValues fromUtf8Lossy count rest
    else if len < 2 ^ 31 then
      if rest.length < len then []
      else some (fromUtf8Lossy (rest.take len)) :: dataRowValues fromUtf8Lossy count (rest.drop len)
    else dataRowValues fromUtf8Lossy count rest
  | _, _ => []

/-- `decode_data_row_values`. A negative count is taken for an enormous capacity, which
panics. -/
def decodeDataRowValues (fromUtf8Lossy : Bytes → String) (data : Bytes) (fieldCount : Int) :
    Option (List (Option String)) :=
  if fieldCount < 0 then none else some (dataRowValues fromUtf8Lossy fieldCount.toNat data)

/-- The text of the field `M`. -/
def messageField (fields : List (UInt8 × String)) : Option String :=
  (fields.find? fun field => field.1 == 77).map Prod.snd

/-- The message for what pgwire has found; `none` is a panic. -/
def backendMessage (pgwire : PgBackendWire) (tag : UInt8) :
    PgBackendMessage → Option BackendMessage
  | .authentication .ok => some .authenticationOk
  | .authentication .cleartextPassword => some .authenticationCleartextPassword
  | .authentication (.md5Password salt) =>
    some (.authenticationMD5Password (if 4 ≤ salt.length then salt.take 4 else [0, 0, 0, 0]))
  | .authentication (.sasl mechanisms) => some (.authenticationSASL mechanisms)
  | .authentication (.saslContinue data) => some (.authenticationSASLContinue data)
  | .authentication (.saslFinal data) => some (.authenticationSASLFinal data)
  | .authentication .other => some (.raw tag [])
  | .parameterStatus name value => some (.parameterStatus name value)
  | .backendKeyData pid secretKey => some (.backendKeyData pid (secretKey.getD 0))
  | .readyForQuery status => some (.readyForQuery status)
  | .commandComplete text => some (.commandComplete text)
  | .errorResponse fields =>
    some (.errorResponse ((messageField fields).getD "Unknown database error"))
  | .noticeResponse fields => some (.noticeResponse ((messageField fields).getD ""))
  | .rowDescription names => some (.rowDescription names)
  | .dataRow data fieldCount =>
    (decodeDataRowValues pgwire.fromUtf8Lossy data fieldCount).map .dataRow
  | .other => some (.raw tag [])

/-- `BackendMessage::decode`. What pgwire refuses is split off whole, from what pgwire has
left of the buffer. -/
def decodeBackend (pgwire : PgBackendWire) (arithmetic : Arithmetic) (source : Bytes) :
    Decoded BackendMessage :=
  match source with
  | tag :: b1 :: b2 :: b3 :: b4 :: _ =>
    match arithmetic.add 1 (declaredLen [b1, b2, b3, b4]) with
    | none => .panicked
    | some frameEnd =>
      if source.length < frameEnd then .nothing source else
        match pgwire.decode source with
        | .found message rest =>
          match backendMessage pgwire tag message with
          | some decoded => .found decoded rest
          | none => .panicked
        | .incomplete => .nothing source
        | .failed rest =>
          if rest.length < frameEnd ∨ frameEnd < 5 then .panicked
          else .found (.raw tag ((rest.take frameEnd).drop 5)) (rest.drop frameEnd)
  | _ => .nothing source

/-- `encode` of a raw message, of either side. -/
def encodeRaw (tag : UInt8) (payload : Bytes) : Bytes :=
  tag :: (encodeWord (payload.length + 4) ++ payload)

/-! ## Complete frames -/

section Frames

variable (pgwire : PgBackendWire) (arithmetic : Arithmetic) (frame : BackendFrame) (rest : Bytes)

/-- A regular length field is the number of bytes behind the tag. -/
theorem regular_sum {bytes : Bytes} {size : Nat} (width : bytes.length = 4)
    (word : decodeWord bytes = size + 4) (small : size + 4 < 2 ^ 31) :
    arithmetic.add 1 (declaredLen bytes) = some (size + 5) := by
  rw [frame_end width (by omega), declaredLen, if_pos (by omega), word]
  congr 1
  omega

/-- On a complete frame it is pgwire that decides. -/
theorem decodeBackend_frame : decodeBackend pgwire arithmetic (frame.encode ++ rest) =
      match pgwire.decode (frame.encode ++ rest) with
      | .found message left =>
        match backendMessage pgwire frame.tag message with
        | some decoded => .found decoded left
        | none => .panicked
      | .incomplete => .nothing (frame.encode ++ rest)
      | .failed left =>
        if left.length < frame.encode.length then .panicked
        else .found (.raw frame.tag ((left.take frame.encode.length).drop 5))
          (left.drop frame.encode.length) := by
  have sum := regular_sum arithmetic (encode_word_length (frame.payload.length + 4))
    (decode_encode_word _ (by have := frame.bounded; omega)) frame.bounded
  have size : frame.encode.length = frame.payload.length + 5 := by simp [Nat.add_comm]
  obtain ⟨b1, b2, b3, b4, word⟩ :
      ∃ b1 b2 b3 b4, encodeWord (frame.payload.length + 4) = [b1, b2, b3, b4] := ⟨_, _, _, _, rfl⟩
  have shape :
      frame.encode ++ rest = frame.tag :: b1 :: b2 :: b3 :: b4 :: (frame.payload ++ rest) := by
    simp [BackendFrame.encode, word]
  have header : ¬ frame.payload.length + 5 < 5 := by omega
  rw [word] at sum
  rw [size, shape]
  simp only [decodeBackend, sum, header, or_false]
  rw [if_neg (by simp)]

theorem backendMessage_raw {tag first : UInt8} {message : PgBackendMessage} {payload : Bytes}
    (raw : backendMessage pgwire tag message = some (.raw first payload)) :
    first = tag ∧ payload = [] := by
  cases message with
  | authentication auth => cases auth <;> simp_all [backendMessage]
  | dataRow data fieldCount => simp [backendMessage] at raw
  | _ => simp_all [backendMessage]

/-- A frame that is returned raw keeps its payload, and is encoded as it was, exactly if pgwire
refused it or there was no payload. -/
theorem raw_payload_iff {tag : UInt8} {payload left : Bytes}
    (consumed : ∀ message left, pgwire.decode (frame.encode ++ rest) = .found message left →
      left = rest)
    (untouched : ∀ left, pgwire.decode (frame.encode ++ rest) = .failed left →
      left = frame.encode ++ rest)
    (raw : decodeBackend pgwire arithmetic (frame.encode ++ rest) =
      .found (.raw tag payload) left) :
    (tag = frame.tag ∧ left = rest) ∧
      (payload = frame.payload ∧ encodeRaw tag payload = frame.encode ↔
        (∃ left, pgwire.decode (frame.encode ++ rest) = .failed left) ∨ frame.payload = []) := by
  rw [decodeBackend_frame] at raw
  cases decoded : pgwire.decode (frame.encode ++ rest) with
  | incomplete =>
    rw [decoded] at raw
    cases raw
  | failed behind =>
    obtain rfl := untouched behind decoded
    rw [decoded] at raw
    simp only [length_append, Nat.not_lt.mpr (Nat.le_add_right _ _), ↓reduceIte, take_left,
      drop_left, Decoded.found.injEq, BackendMessage.raw.injEq] at raw
    obtain ⟨⟨rfl, rfl⟩, rfl⟩ := raw
    exact ⟨⟨rfl, rfl⟩, iff_of_true ⟨rfl, rfl⟩ (.inl ⟨_, rfl⟩)⟩
  | found message behind =>
    obtain rfl := consumed message behind decoded
    rw [decoded] at raw
    cases mapped : backendMessage pgwire frame.tag message with
    | none => simp [mapped] at raw
    | some decoded =>
      simp only [mapped, Decoded.found.injEq] at raw
      obtain ⟨rfl, rfl⟩ := raw
      obtain ⟨rfl, rfl⟩ := backendMessage_raw pgwire mapped
      refine ⟨⟨rfl, rfl⟩, fun kept => .inr kept.1.symm, ?_⟩
      rintro (⟨_, ⟨⟩⟩ | empty)
      simp [encodeRaw, BackendFrame.encode, empty]

/-- Only a row with a negative field count is not turned into a message. -/
theorem backendMessage_none_iff {tag : UInt8} {message : PgBackendMessage} :
    backendMessage pgwire tag message = none ↔
      ∃ data fieldCount, message = .dataRow data fieldCount ∧ fieldCount < 0 := by
  cases message with
  | authentication auth => cases auth <;> simp [backendMessage]
  | dataRow data fieldCount => simp [backendMessage, decodeDataRowValues]
  | _ => simp [backendMessage]

end Frames

/-- A decoder that refuses every message and has taken the given number of bytes off it. -/
def refusing (consumed : Nat) : PgBackendWire where
  decode source := .failed (source.drop consumed)
  fromUtf8Lossy _ := ""

/-- A message of a tag that is in no protocol. -/
def strange : BackendFrame := ⟨86, [9, 9], by decide⟩

/-- A refused message is passed on as it was. -/
theorem refused_message_raw :
    strange.payload = [9, 9] ∧ encodeRaw 86 strange.payload = strange.encode :=
  (raw_payload_iff (refusing 0) .checked strange [] nofun
    (fun _ refused => (PgBackend.failed.inj refused).symm)
    (by rw [decodeBackend_frame]; rfl)).2.mpr (.inl ⟨_, rfl⟩)

/-- A message that pgwire knows and the proxy does not loses its payload. -/
theorem recognised_message_emptied :
    let pgwire : PgBackendWire := ⟨fun _ => .found .other [], fun _ => ""⟩
    let frame : BackendFrame := ⟨116, [0, 1, 0, 0, 0, 23], by decide⟩
    decodeBackend pgwire .checked (frame.encode ++ []) = .found (.raw 116 []) [] ∧
      encodeRaw 116 [] ≠ frame.encode :=
  ⟨by rw [decodeBackend_frame]; rfl, by decide⟩

/-- A ReadyForQuery as pgwire decodes it: the header is taken off, then the status byte, and
only then is the status looked at. Other tags are refused untouched. -/
def readyDecoder : PgBackendWire where
  decode source :=
    match source with
    | 90 :: _ :: _ :: _ :: _ :: status :: rest =>
      match TransactionStatus.ofByte status with
      | some status => .found (.readyForQuery status) rest
      | none => .failed rest
    | _ => .failed source
  fromUtf8Lossy _ := ""

section Rows

variable (fromUtf8Lossy : Bytes → String)

def utf8 (text : String) : Bytes := text.toUTF8.toList

/-- The data of a row and the field count, as `BackendMessage::encode` gives them to pgwire. -/
def encodeDataRow (values : List (Option String)) : Bytes × Int :=
  (values.flatMap fun value =>
      match value with
      | none => encodeWord (2 ^ 32 - 1)
      | some text => encodeWord (utf8 text).length ++ utf8 text,
    Int.bmod values.length 65536)

/-- The fields in front of the first malformed one. If that has a length below minus one, also
how many fields are still expected behind it, and the bytes there. -/
def wireFields : Nat → Bytes → List (Option String) × Option (Nat × Bytes)
  | count + 1, b1 :: b2 :: b3 :: b4 :: rest =>
    let len := decodeWord [b1, b2, b3, b4]
    if len = 2 ^ 32 - 1 then (wireFields count rest).map (none :: ·) id
    else if len < 2 ^ 31 then
      if rest.length < len then ([], none)
      else (wireFields count (rest.drop len)).map (some (fromUtf8Lossy (rest.take len)) :: ·) id
    else ([], some (count, rest))
  | _, _ => ([], none)

/-- No value lies ahead of a reader that expects so many fields: there are only lengths below
minus one, until the fields or the bytes are used up or a length exceeds the bytes behind it. -/
def Barren : Nat → Bytes → Prop
  | count + 1, b1 :: b2 :: b3 :: b4 :: rest =>
    let len := decodeWord [b1, b2, b3, b4]
    len ≠ 2 ^ 32 - 1 ∧ if len < 2 ^ 31 then rest.length < len else Barren count rest
  | _, _ => True

/-- The loop returns nothing exactly where no value lies ahead. -/
theorem dataRowValues_eq_nil_iff (count : Nat) (data : Bytes) :
    dataRowValues fromUtf8Lossy count data = [] ↔ Barren count data := by
  fun_induction Barren count data with
  | case1 count b1 b2 b3 b4 rest len ih =>
    rw [dataRowValues]
    split
    next null => simp [len, null]
    next value =>
      rw [and_iff_right value]
      split
      next positive =>
        split
        next short => simpa using short
        next enough => simpa using enough
      next negative => exact ih
  | case2 count data other =>
    rw [dataRowValues]
    · simp
    · exact other

/-- The loop goes on behind a length below minus one. -/
theorem dataRowValues_eq (count : Nat) (data : Bytes) :
    dataRowValues fromUtf8Lossy count data = (wireFields fromUtf8Lossy count data).1 ++
      ((wireFields fromUtf8Lossy count data).2.map fun (expected, behind) =>
        dataRowValues fromUtf8Lossy expected behind).getD [] := by
  fun_induction wireFields fromUtf8Lossy count data with
  | case1 count b1 b2 b3 b4 rest len null ih =>
    rw [dataRowValues, if_pos null, ih]
    rfl
  | case2 count b1 b2 b3 b4 rest len some positive short =>
    rw [dataRowValues, if_neg some, if_pos positive, if_pos short]
    rfl
  | case3 count b1 b2 b3 b4 rest len some positive enough ih =>
    rw [dataRowValues, if_neg some, if_pos positive, if_neg enough, ih]
    rfl
  | case4 count b1 b2 b3 b4 rest len some negative =>
    rw [dataRowValues, if_neg some, if_neg negative]
    rfl
  | case5 count data other =>
    rw [dataRowValues]
    · rfl
    · exact other

theorem dataRowValues_encode (values : List (Option String)) (valid : ∀ text, some text ∈ values →
      (utf8 text).length < 2 ^ 31 ∧ fromUtf8Lossy (utf8 text) = text) :
    dataRowValues fromUtf8Lossy values.length (encodeDataRow values).1 = values := by
  induction values with
  | nil => rfl
  | cons value values ih =>
    have later := ih fun text member => valid text (mem_cons_of_mem _ member)
    have front (size : Nat) (tail : Bytes) : ∃ b1 b2 b3 b4, encodeWord size ++ tail =
        b1 :: b2 :: b3 :: b4 :: tail ∧ encodeWord size = [b1, b2, b3, b4] :=
      ⟨_, _, _, _, rfl, rfl⟩
    cases value with
    | none =>
      have length := decode_encode_word (2 ^ 32 - 1) (by omega)
      simp only [encodeDataRow, flatMap_cons] at later ⊢
      obtain ⟨b1, b2, b3, b4, shape, word⟩ := front (2 ^ 32 - 1) (values.flatMap _)
      rw [shape, length_cons, dataRowValues, ← word, if_pos length, later]
    | some text =>
      obtain ⟨small, lossless⟩ := valid text mem_cons_self
      have length := decode_encode_word (utf8 text).length (by omega)
      simp only [encodeDataRow, flatMap_cons, append_assoc] at later ⊢
      obtain ⟨b1, b2, b3, b4, shape, word⟩ :=
        front (utf8 text).length (utf8 text ++ values.flatMap _)
      rw [shape, length_cons, dataRowValues, ← word, length, if_neg (by omega), if_pos small,
        if_neg (by simp), take_left, drop_left, later, lossless]

/-- An encoded row is read back. For any data and count the fields in front of the first
malformed one are returned, without a panic, exactly if the count is not negative and no value
lies behind a first length below minus one. -/
theorem row_values_iff :
    (∀ values : List (Option String), values.length ≤ 32767 →
      (∀ text, some text ∈ values →
        (utf8 text).length < 2 ^ 31 ∧ fromUtf8Lossy (utf8 text) = text) →
        decodeDataRowValues fromUtf8Lossy (encodeDataRow values).1 (encodeDataRow values).2 =
          some values) ∧
    ∀ (data : Bytes) (fieldCount : Int),
      decodeDataRowValues fromUtf8Lossy data fieldCount =
          some (wireFields fromUtf8Lossy fieldCount.toNat data).1 ↔
        0 ≤ fieldCount ∧ ∀ cut ∈ (wireFields fromUtf8Lossy fieldCount.toNat data).2,
          Barren cut.1 cut.2 := by
  constructor
  · intro values few valid
    have count : (encodeDataRow values).2 = values.length := by
      dsimp only [encodeDataRow]
      rw [Int.bmod_eq_of_le]
      · omega
      · omega
    rw [decodeDataRowValues, count, if_neg (by omega), Int.toNat_natCast,
      dataRowValues_encode fromUtf8Lossy values valid]
  · intro data fieldCount
    unfold decodeDataRowValues
    split
    next negative => simp [Int.not_le.mpr negative]
    next counted =>
      rw [Option.some_inj, dataRowValues_eq, append_right_eq_self,
        and_iff_right (Int.not_lt.mp counted)]
      cases (wireFields fromUtf8Lossy fieldCount.toNat data).2 with
      | none => simp
      | some cut => simp [dataRowValues_eq_nil_iff]

end Rows

/-- A negative count panics, and behind the length -2 the value of the second column is
returned as the first. -/
theorem rows_misread :
    let ascii (bytes : Bytes) := String.ofList (bytes.map fun byte => Char.ofNat byte.toNat)
    decodeDataRowValues ascii [] (-1) = none ∧
    decodeDataRowValues ascii [255, 255, 255, 254, 0, 0, 0, 1, 55] 2 = some [some "7"] ∧
    (wireFields ascii 2 [255, 255, 255, 254, 0, 0, 0, 1, 55]).1 = [] := by
  decide +kernel

/-! ## Forwarded messages -/

/-- The encoders of pgwire for frontend messages. -/
structure PgEncoders where
  query : String → Bytes
  sync : Bytes
  flush : Bytes
  terminate : Bytes

/-- `FrontendMessage::encode`. -/
def encodeFrontend (pgwire : PgEncoders) : FrontendMessage → Bytes
  | .query sql => pgwire.query sql
  | .sync => pgwire.sync
  | .flush => pgwire.flush
  | .terminate => pgwire.terminate
  | .raw tag payload => encodeRaw tag payload
  | _ => []

/-- A message with another tag than `Q`, `X`, `S` and `H` is decoded from its encoding as it
was, whatever follows. The encoding of a message decoded from a frame is that frame. -/
theorem raw_round_trips (pgwire : PgWire) (encoders : PgEncoders) (arithmetic : Arithmetic) :
    (∀ tag payload rest, ¬ (tag = 81 ∨ tag = 88 ∨ tag = 83 ∨ tag = 72) →
      payload.length < 2 ^ 31 - 4 →
        decodeFrontend pgwire arithmetic (encodeFrontend encoders (.raw tag payload) ++ rest) =
          .found (.raw tag payload) rest) ∧ ∀ source tag payload rest,
      decodeFrontend pgwire arithmetic source = .found (.raw tag payload) rest →
        (∀ word ∈ lengthField source, 4 ≤ word ∧ word < 2 ^ 31) →
          source = encodeFrontend encoders (.raw tag payload) ++ rest := by
  constructor
  · intro tag payload rest other bounded
    have sum := regular_sum arithmetic (encode_word_length (payload.length + 4))
      (decode_encode_word _ (by omega)) (by omega)
    obtain ⟨b1, b2, b3, b4, word⟩ :
        ∃ b1 b2 b3 b4, encodeWord (payload.length + 4) = [b1, b2, b3, b4] := ⟨_, _, _, _, rfl⟩
    rw [word] at sum
    simp only [encodeFrontend, encodeRaw, word, cons_append, nil_append, decodeFrontend, sum,
      if_neg other]
    rw [if_neg (by simp), if_neg (by omega)]
    simp
  · intro source tag payload rest found regular
    unfold decodeFrontend at found
    split at found
    next first b1 b2 b3 b4 tail =>
      obtain ⟨four, small⟩ := regular _ rfl
      obtain ⟨size, word⟩ := Nat.exists_eq_add_of_le' four
      rw [regular_sum arithmetic rfl word (by omega)] at found
      dsimp only at found
      split at found
      · cases found
      next enough =>
        split at found
        · split at found
          all_goals first | cases found | (split at found <;> cases found)
        rw [if_neg (by omega)] at found
        cases found
        have taken : (tail.take size).length = size := by
          rw [length_take]
          simp only [length_cons] at enough
          omega
        have encoded : encodeWord (size + 4) = [b1, b2, b3, b4] := by
          rw [← word]
          exact (encode_decode_word [b1, b2, b3, b4] rfl).2
        simp only [take_succ_cons, drop_succ_cons, drop_zero, encodeFrontend, encodeRaw, taken,
          encoded]
        simp
    · cases found

end PgVisor.ClientIntake
