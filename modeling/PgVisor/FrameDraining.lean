import PgVisor.WireFrames

/-!
# Draining a read buffer

After each read of a backend's reply the session and the executor take frames off their
buffer until no complete one is left or the reply is over. A stream of frames comes out as it
was sent, however it was cut into reads. A declared length below four takes less than a
header off the buffer, and one of minus one takes nothing: with overflow checks the addition
panics, without them the loop finds the same buffer again.
-/

namespace PgVisor.WireFrames

open ByteWords List

variable {frames : List BackendFrame} {unread : Bytes} {rounds : Nat}

/-- `extract_backend_frame` with the arithmetic of a build; the outer `none` is a panic. -/
def extractIn (arithmetic : Arithmetic) (buffer : Bytes) :
    Option (Option (UInt8 × Bytes × Bytes)) :=
  match buffer with
  | tag :: b1 :: b2 :: b3 :: b4 :: _ =>
    (arithmetic.add 1 (declaredLen [b1, b2, b3, b4])).map fun frameEnd =>
      if buffer.length < frameEnd then none
      else some (tag, buffer.take frameEnd, buffer.drop frameEnd)
  | _ => some none

/-- The length field of a buffer that holds a header, before its sign is looked at. -/
def lengthField : Bytes → Option Nat
  | _ :: b1 :: b2 :: b3 :: b4 :: _ => some (decodeWord [b1, b2, b3, b4])
  | _ => none

/-- The frame loop after a read. It is left at a frame that ends the reply: the session looks
at the tag, the executor at the decoded message. Without a result the loop has panicked or
has not ended within the rounds it was given. -/
def drain (arithmetic : Arithmetic) (stop : UInt8 → Bytes → Bool) :
    Nat → Bytes → Option (List (UInt8 × Bytes) × Bytes)
  | 0, _ => none
  | rounds + 1, buffer =>
    match extractIn arithmetic buffer with
    | none => none
    | some none => some ([], buffer)
    | some (some (tag, frame, rest)) =>
      if stop tag frame then some ([(tag, frame)], rest)
      else (drain arithmetic stop rounds rest).map fun drained =>
        ((tag, frame) :: drained.1, drained.2)

/-- Append a read to the buffer and drain it, for one read after the other. -/
def receive (arithmetic : Arithmetic) (rounds : Nat) :
    Bytes → List Bytes → Option (List (UInt8 × Bytes) × Bytes)
  | held, [] => some ([], held)
  | held, read :: reads =>
    (drain arithmetic (fun _ _ => false) rounds (held ++ read)).bind fun drained =>
      (receive arithmetic rounds drained.2 reads).map fun later =>
        (drained.1 ++ later.1, later.2)

variable {arithmetic : Arithmetic} {buffer : Bytes}

/-- Where a frame with this length field ends. A negative length is extended to 64 bits. -/
def frameEnd (word : Nat) : Nat := 1 + if word < 2 ^ 31 then word else word + (2 ^ 64 - 2 ^ 32)

/-- The sum overflows for a length of minus one only. -/
theorem frame_end {bytes} (width : bytes.length = 4) (regular : decodeWord bytes ≠ 2 ^ 32 - 1) :
    arithmetic.add 1 (declaredLen bytes) = some (1 + declaredLen bytes) := by
  have small := (encode_decode_word bytes width).1
  have fits : 1 + declaredLen bytes < 2 ^ 64 := by
    simp only [declaredLen]
    split <;> omega
  unfold Arithmetic.add
  rw [if_pos fits]

/-- Without a whole header there is no frame to take. -/
theorem extract_headless (short : lengthField buffer = none) :
    extractIn arithmetic buffer = some none := by
  unfold lengthField at short
  split at short
  · cases short
  · rw [extractIn]
    assumption

/-- A length field other than minus one takes its frame off the buffer or waits for the rest. -/
theorem extract_field (arithmetic : Arithmetic) {word}
    (field : lengthField buffer = some word) (regular : word ≠ 2 ^ 32 - 1) :
    ∃ tag, buffer.head? = some tag ∧ extractIn arithmetic buffer =
      some (if buffer.length < frameEnd word then none
        else some (tag, buffer.take (frameEnd word), buffer.drop (frameEnd word))) := by
  unfold lengthField at field
  split at field
  next tag b1 b2 b3 b4 tail =>
    cases field
    refine ⟨tag, rfl, ?_⟩
    rw [extractIn, frame_end rfl regular, Option.map_some]
    rfl
  · cases field

/-- A length of minus one panics or takes nothing. -/
theorem extract_minus_one (arithmetic : Arithmetic)
    (field : lengthField buffer = some (2 ^ 32 - 1)) :
    ∃ tag, buffer.head? = some tag ∧ extractIn arithmetic buffer =
      match arithmetic with
      | .checked => none
      | .wrapping => some (some (tag, [], buffer)) := by
  unfold lengthField at field
  split at field
  next tag b1 b2 b3 b4 tail =>
    have declared : declaredLen [b1, b2, b3, b4] = 2 ^ 64 - 1 := by
      rw [declaredLen, Option.some.inj field]
      rfl
    refine ⟨tag, rfl, ?_⟩
    rw [extractIn, declared]
    cases arithmetic <;> rfl
  · cases field

/-- Frames are never empty, and at least a header long from the length four on. -/
theorem frame_end_size (word : Nat) : 0 < frameEnd word ∧ (5 ≤ frameEnd word ↔ 4 ≤ word) := by
  unfold frameEnd
  split <;> omega

/-- A buffer with a length field holds a header. -/
theorem header_length {word} (field : lengthField buffer = some word) : 5 ≤ buffer.length := by
  unfold lengthField at field
  split at field
  · simp
  · cases field

/-! ### The ends of the loops -/

/-- Where the frames begin that a loop comes to: the first at the front of the buffer, and each
next one behind a complete frame at which the loop is not left. -/
inductive FrameStart (stop : UInt8 → Bytes → Bool) (buffer : Bytes) : Bytes → Prop where
  | front : FrameStart stop buffer buffer
  | behind {start tag word} : FrameStart stop buffer start → start.head? = some tag →
      lengthField start = some word → word ≠ 2 ^ 32 - 1 → frameEnd word ≤ start.length →
      stop tag (start.take (frameEnd word)) = false →
      FrameStart stop buffer (start.drop (frameEnd word))

/-- The length field is minus one, and the loop is not left at the empty frame that wrapping
arithmetic then finds. -/
def Stalls (arithmetic : Arithmetic) (stop : UInt8 → Bytes → Bool) (start : Bytes) : Prop :=
  lengthField start = some (2 ^ 32 - 1) ∧
    (arithmetic = .wrapping → ∀ tag ∈ start.head?, stop tag [] = false)

variable {stop : UInt8 → Bytes → Bool}

/-- What a loop comes to behind a frame, it comes to from the front of the buffer. -/
theorem FrameStart.trans {middle start} (reached : FrameStart stop buffer middle)
    (onward : FrameStart stop middle start) : FrameStart stop buffer start := by
  induction onward with
  | front => exact reached
  | behind _ tagged field regular whole goesOn ih =>
    exact ih.behind tagged field regular whole goesOn

/-- A loop that comes to no stalling frame ends, since every round shortens the buffer. -/
theorem drain_ends
    (free : ∀ start, FrameStart stop buffer start → ¬ Stalls arithmetic stop start)
    (rounds : Nat) (enough : buffer.length < rounds) :
    (drain arithmetic stop rounds buffer).isSome := by
  induction rounds generalizing buffer with
  | zero => exact absurd enough (Nat.not_lt_zero _)
  | succ rounds ih =>
    rw [drain]
    cases field : lengthField buffer with
    | none =>
      rw [extract_headless field]
      rfl
    | some word =>
      by_cases minusOne : word = 2 ^ 32 - 1
      · -- The loop does not stall here, so it is left at the empty frame.
        subst minusOne
        obtain ⟨tag, tagged, extracted⟩ := extract_minus_one arithmetic field
        have left : arithmetic = .wrapping ∧ stop tag [] = true := by
          by_contra goesOn
          refine free buffer .front ⟨field, fun wraps other found => ?_⟩
          rw [tagged] at found
          cases found
          simpa [wraps] using goesOn
        rw [extracted, left.1]
        dsimp only
        rw [if_pos left.2]
        rfl
      obtain ⟨tag, tagged, extracted⟩ := extract_field arithmetic field minusOne
      rw [extracted]
      by_cases short : buffer.length < frameEnd word
      · rw [if_pos short]
        rfl
      rw [if_neg short]
      dsimp only
      split
      · rfl
      next goesOn =>
        rw [Option.isSome_map]
        refine ih (fun start onward => free start (FrameStart.trans ?_ onward)) ?_
        · exact FrameStart.front.behind tagged field minusOne (by omega) (by simpa using goesOn)
        · have positive := (frame_end_size word).1
          rw [length_drop]
          omega

/-- At a stalling frame no number of rounds gives a result. -/
theorem drain_stalls {start} (stalls : Stalls arithmetic stop start) (rounds : Nat) :
    drain arithmetic stop rounds start = none := by
  obtain ⟨tag, tagged, extracted⟩ := extract_minus_one arithmetic stalls.1
  induction rounds with
  | zero => rfl
  | succ rounds ih =>
    rw [drain, extracted]
    cases arithmetic with
    | checked => rfl
    | wrapping =>
      dsimp only
      rw [stalls.2 rfl tag tagged, ih]
      rfl

/-- A loop that ends also ends when it begins at a frame that it comes to. -/
theorem drain_reaches {start} (reached : FrameStart stop buffer start)
    (ends : ∃ rounds, (drain arithmetic stop rounds buffer).isSome) :
    ∃ rounds, (drain arithmetic stop rounds start).isSome := by
  induction reached with
  | front => exact ends
  | behind _ tagged field regular whole goesOn ih =>
    obtain ⟨rounds, found⟩ := ih
    cases rounds with
    | zero => cases found
    | succ rounds =>
      obtain ⟨tag, same, extracted⟩ := extract_field arithmetic field regular
      cases tagged.symm.trans same
      rw [drain, extracted, if_neg (Nat.not_lt.mpr whole)] at found
      dsimp only at found
      rw [goesOn, if_neg nofun, Option.isSome_map] at found
      exact ⟨rounds, found⟩

/-- Extraction neither panics nor takes less than a header off the buffer if and only if the
length field is not 0 to 3 and not minus one. A frame loop ends if and only if none of the
frames that it comes to has a length field of minus one, but for one at which it is left. -/
theorem extraction_safe_iff (arithmetic : Arithmetic) (buffer : Bytes) :
    ((extractIn arithmetic buffer ≠ none ∧
      ∀ tag frame rest, extractIn arithmetic buffer = some (some (tag, frame, rest)) →
        buffer = frame ++ rest ∧ 5 ≤ frame.length) ↔
      ∀ word ∈ lengthField buffer, 4 ≤ word ∧ word ≠ 2 ^ 32 - 1) ∧
    ∀ stop, (∃ rounds, (drain arithmetic stop rounds buffer).isSome) ↔
      ∀ start, FrameStart stop buffer start → ¬ Stalls arithmetic stop start := by
  refine ⟨⟨?_, ?_⟩, fun stop => ⟨?_, ?_⟩⟩
  · rintro ⟨total, takes⟩ word field
    have regular : word ≠ 2 ^ 32 - 1 := by
      rintro rfl
      obtain ⟨tag, -, extracted⟩ := extract_minus_one arithmetic field
      cases arithmetic with
      | checked => exact total extracted
      | wrapping => exact absurd (takes tag [] buffer extracted).2 (by decide)
    refine ⟨?_, regular⟩
    obtain ⟨tag, -, extracted⟩ := extract_field arithmetic field regular
    have header := header_length field
    have size := (frame_end_size word).2
    by_cases short : buffer.length < frameEnd word
    · exact size.mp (by omega)
    · rw [if_neg short] at extracted
      have whole := (takes _ _ _ extracted).2
      rw [length_take] at whole
      exact size.mp (by omega)
  · intro regular
    cases field : lengthField buffer with
    | none =>
      rw [extract_headless field]
      exact ⟨by simp, by simp⟩
    | some word =>
      obtain ⟨enough, other⟩ := regular word field
      obtain ⟨tag, -, extracted⟩ := extract_field arithmetic field other
      have size := (frame_end_size word).2.mpr enough
      rw [extracted]
      refine ⟨by simp, fun tag frame rest taken => ?_⟩
      split at taken
      · cases taken
      · cases taken
        rw [take_append_drop, length_take]
        exact ⟨rfl, by omega⟩
  · intro ends start reached stalls
    obtain ⟨rounds, found⟩ := drain_reaches reached ends
    rw [drain_stalls stalls] at found
    cases found
  · exact fun free => ⟨_, drain_ends free _ (Nat.lt_succ_self _)⟩

/-- A tag with the length minus one: with overflow checks a panic, without them a loop that
never ends, unless it is left at that tag. Lengths of 0 to 3 take up to four bytes. -/
theorem minus_one_never_drained : extractIn .checked [67, 255, 255, 255, 255] = none ∧
    (∀ stop : UInt8 → Bytes → Bool, stop 67 [] = false →
      ∀ rounds, drain .wrapping stop rounds [67, 255, 255, 255, 255] = none) ∧
    extractIn .wrapping [67, 0, 0, 0, 3] = some (some (67, [67, 0, 0, 0], [3])) := by
  refine ⟨by decide, fun stop goesOn rounds => ?_, by decide⟩
  induction rounds with
  | zero => rfl
  | succ rounds ih =>
    have same : extractIn .wrapping [67, 255, 255, 255, 255] =
        some (some (67, [], [67, 255, 255, 255, 255])) := by decide
    rw [drain, same]
    dsimp only
    rw [goesOn, ih]
    rfl

/-! ### A stream of frames -/

/-- A frame as the loops hand it on. -/
def BackendFrame.taken (frame : BackendFrame) : UInt8 × Bytes := (frame.tag, frame.encode)

/-- On any part of a frame stream the arithmetic makes no difference. -/
theorem extract_in_stream (stream : buffer ++ unread = encodeFrames frames) :
    extractIn arithmetic buffer = some (extractBackendFrame buffer) := by
  unfold extractIn extractBackendFrame
  rcases buffer with _ | ⟨tag, _ | ⟨b1, _ | ⟨b2, _ | ⟨b3, _ | ⟨b4, tail⟩⟩⟩⟩⟩
  -- fewer than five bytes
  iterate 5 rfl
  cases frames with
  | nil => cases stream
  | cons frame rest =>
    have bounded := frame.bounded
    have declared := declared_len_encode frame
    have word := decode_encode_word (frame.payload.length + 4) (by omega)
    have sum : arithmetic.add 1 (declaredLen (encodeWord (frame.payload.length + 4))) = _ :=
      frame_end (encode_word_length _) (by omega)
    rw [declared] at sum
    simp only [encode_frames_cons, BackendFrame.encode, encodeWord, cons_append, nil_append,
      List.cons.injEq] at stream declared
    obtain ⟨-, rfl, rfl, rfl, rfl, -⟩ := stream
    have fits : (1 + (frame.payload.length + 4)) % 2 ^ 64 = 1 + (frame.payload.length + 4) :=
      Nat.mod_eq_of_lt (by omega)
    simp only [declared, sum, fits, Option.map_some]

theorem drain_stream
    (stream : buffer ++ unread = encodeFrames frames) (enough : frames.length < rounds) :
    ∃ whole rest left, frames = whole ++ rest ∧ drain arithmetic (fun _ _ => false) rounds buffer =
        some (whole.map BackendFrame.taken, left) ∧
      left ++ unread = encodeFrames rest ∧ extractBackendFrame left = none := by
  induction frames generalizing buffer rounds with
  | nil =>
    obtain ⟨rfl, rfl⟩ := append_eq_nil_iff.mp stream
    cases rounds with
    | zero => exact absurd enough (Nat.not_lt_zero _)
    | succ rounds => exact ⟨[], [], [], rfl, rfl, rfl, rfl⟩
  | cons frame frames ih =>
    cases rounds with
    | zero => exact absurd enough (Nat.not_lt_zero _)
    | succ rounds =>
      rw [drain, extract_in_stream stream]
      cases extracted : extractBackendFrame buffer with
      | none => exact ⟨[], frame :: frames, buffer, rfl, rfl, stream, extracted⟩
      | some taken =>
        obtain ⟨first, others, same, tag, bytes, onward⟩ := extract_stream stream extracted
        cases same
        obtain ⟨whole, rest, left, rfl, drained, continued, waits⟩ :=
          ih onward (Nat.lt_of_succ_lt_succ enough)
        refine ⟨frame :: whole, rest, left, rfl, ?_, continued, waits⟩
        dsimp only
        rw [if_neg nofun, drained, tag, bytes]
        rfl

theorem receive_stream (arithmetic : Arithmetic) {missing} (held : Bytes) (reads : List Bytes)
    (stream : held ++ (reads.flatten ++ missing) = encodeFrames frames)
    (idle : extractBackendFrame held = none) (enough : frames.length < rounds) :
    ∃ whole rest left, frames = whole ++ rest ∧
      receive arithmetic rounds held reads = some (whole.map BackendFrame.taken, left) ∧
      left ++ missing = encodeFrames rest ∧ extractBackendFrame left = none := by
  induction reads generalizing held frames with
  | nil => exact ⟨[], frames, held, rfl, rfl, stream, idle⟩
  | cons read reads ih =>
    rw [flatten_cons, append_assoc, ← append_assoc] at stream
    obtain ⟨first, others, between, rfl, drained, onward, waits⟩ := drain_stream stream enough
    rw [length_append] at enough
    obtain ⟨more, rest, left, rfl, received, ends, idle⟩ := ih _ onward waits (by omega)
    refine ⟨first ++ more, rest, left, (append_assoc _ _ _).symm, ?_, ends, idle⟩
    rw [receive, drained, Option.bind_some, received, Option.map_some, map_append]

/-- However a stream of frames and a part of another one is cut into reads, draining after
every read yields the frames, byte for byte and in order, and leaves the part. -/
theorem reads_drained (arithmetic : Arithmetic) (frames : List BackendFrame)
    (last : BackendFrame) (part missing : Bytes) (cut : last.encode = part ++ missing)
    (short : missing ≠ []) (reads : List Bytes)
    (stream : reads.flatten = encodeFrames frames ++ part) (rounds : Nat)
    (enough : frames.length + 1 < rounds) : receive arithmetic rounds [] reads =
      some (frames.map fun frame => (frame.tag, frame.encode), part) := by
  have total : reads.flatten ++ missing = encodeFrames (frames ++ [last]) := by
    rw [stream, encode_frames_append, encode_frames_cons, cut]
    simp
  obtain ⟨whole, rest, left, split, received, ends, idle⟩ :=
    receive_stream arithmetic [] reads total rfl (by simpa using enough)
  rcases eq_nil_or_concat rest with rfl | ⟨more, final, rfl⟩
  · exact absurd (append_eq_nil_iff.mp ends).2 short
  rw [concat_eq_append, ← append_assoc] at split
  obtain ⟨rfl, same⟩ := append_inj' split rfl
  cases same
  rw [concat_eq_append, encode_frames_append, encode_frames_cons, encode_frames_nil,
    append_nil, cut, ← append_assoc] at ends
  have kept := append_cancel_right ends
  cases more with
  | nil =>
    rw [received, append_nil, kept]
    rfl
  | cons frame more =>
    rw [kept, encode_frames_cons, append_assoc, extract_frame] at idle
    cases idle

theorem cut_replies_drained : receive .checked 3 [] [[90, 0], [0, 0, 5, 73, 90, 0, 0]] =
      some ([(90, [90, 0, 0, 0, 5, 73])], [90, 0, 0]) :=
  reads_drained .checked [readyFrame .idle] (readyFrame .idle) [90, 0, 0] [0, 5, 73] rfl nofun
    [[90, 0], [0, 0, 5, 73, 90, 0, 0]] rfl 3 (by decide)

end PgVisor.WireFrames
