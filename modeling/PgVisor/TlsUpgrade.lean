import PgVisor.ClientIntake

/-!
# Bytes read before the upgrade to TLS

The read buffer outlives the switch of the client stream from plaintext to TLS. Bytes that
arrived behind the SSL request, in the same plaintext read, are still in it after the TLS
handshake, and the next decoded packet begins with them. A client that waits for the reply to
its request leaves nothing behind it.

A run is watched for whether an upgrade has left bytes in the buffer. Plaintext bytes are
decoded on the encrypted stream exactly when some message is decoded after such an upgrade.
-/

namespace PgVisor.ClientIntake

open ByteWords WireFrames ConnectionPool ClientSession Transitions List

variable {taken : List Received}

/-- An intake and whether an upgrade has left bytes in its buffer. -/
structure Watched where
  intake : Intake
  stuffed : Bool
deriving DecidableEq

def Watched.start (config : SessionConfig) : Watched := ⟨.new config, false⟩

variable (pgwire : PgWire) (arithmetic : Arithmetic)

/-- The step upgrades the stream and leaves bytes in the buffer. -/
def Intake.stuffs (before after : Intake) : Bool :=
  decide (before.stream = .plain ∧ after.stream = .tls ∧ after.buffer ≠ [])

def watchedStep (watched : Watched) (event : IntakeEvent) : Option Watched :=
  (watched.intake.step pgwire arithmetic event).map fun next =>
    ⟨next.1, watched.stuffed || watched.intake.stuffs next.1⟩

/-- A message decoded on the encrypted stream was received over it. -/
def Separated (intake : Intake) (event : IntakeEvent) : Prop :=
  ∀ taken, intake.decodes pgwire arithmetic event = some taken → intake.stream = .tls →
    ∀ received ∈ taken, received.channel = .tls

/-- Where TLS is required, a startup packet that lets the session begin was received over
TLS. -/
def StartsEncrypted (intake : Intake) (event : IntakeEvent) : Prop :=
  intake.session.config.tlsRequired = true →
    ∀ encrypted next outputs taken, intake.session.phase = .handshake encrypted →
      intake.step pgwire arithmetic event = some (next, outputs) →
      next.session.phase = .command → intake.decodes pgwire arithmetic event = some taken →
      ∀ received ∈ taken, received.channel = .tls

/-- No message is decoded once an upgrade has left bytes in the buffer. -/
def Unstuffed (watched : Watched) (event : IntakeEvent) : Prop :=
  watched.stuffed = true → watched.intake.decodes pgwire arithmetic event = none

/-! ## Phases -/

/-- Without client input a session never enters the handshake, and leaves it by ending. -/
theorem session_leaves_handshake {session next : Session} {event : Event} {outputs : List Output}
    (other : Intake.isInput event = false) (moved : session.step event = some (next, outputs)) :
    (∀ encrypted, next.phase ≠ .handshake encrypted) ∧
      ((session.phase = .ended ∨ ∃ encrypted, session.phase = .handshake encrypted) →
        next.phase = .ended) := by
  have served {act : BackendStream → Option BackendStream}
      (acted : session.serve act = some next) : (∀ encrypted, next.phase ≠ .handshake encrypted) ∧
        ((session.phase = .ended ∨ ∃ encrypted, session.phase = .handshake encrypted) →
          next.phase = .ended) := by
    cases serve_serves acted with
    | command phase | writing phase | reading phase | releasing phase => simp [phase]
  cases ClientSession.step_moves moved with
  | upgraded | refused | declined | insecure | started | cancelled | query | unheld | terminated
  | forwarded | ignored => cases other
  | closedEarly | left | writeAbandoned | aborted => simp [Session.finish]
  | closed phase | acquired phase | acquireFailed phase | written phase | rewrite phase
  | received phase | replayed phase | failed phase | idle phase | block phase | more phase =>
    simp [phase]
  | @released _ ends phase => cases ends <;> simp [phase]
  | notified acted | ready acted => exact served acted

variable (session : Session)

theorem message_leaves_handshake (message : FrontendMessage) (phase : session.phase = .command)
    (encrypted : Bool) : (session.onMessage message).1.phase ≠ .handshake encrypted := by
  rcases received : session.onMessage message with ⟨next, outputs⟩
  cases message_moves phase received with
  | query | unheld | terminated => simp [Session.finish]
  | forwarded | ignored => simp [phase]

/-- An initial packet goes on with the handshake as it was or encrypted. -/
theorem initial_handshake (encrypted tlsAccepted : Bool) (message : InitialClientMessage)
    (phase : session.phase = .handshake encrypted) (later : Bool)
    (next : (session.onInitial encrypted message tlsAccepted).1.phase = .handshake later) :
    later = encrypted ∨ later = true := by
  rcases opened : session.onInitial encrypted message tlsAccepted with ⟨after, outputs⟩
  rw [opened] at next
  cases initial_moves phase opened with
  | upgraded => exact .inr (Phase.handshake.inj next).symm
  | declined => exact .inl (Phase.handshake.inj (phase.symm.trans next)).symm
  | refused | insecure | started | cancelled => cases next

/-- A session that requires TLS begins on an encrypted stream only. -/
theorem initial_command {encrypted tlsAccepted : Bool} {message : InitialClientMessage}
    (phase : session.phase = .handshake encrypted) (required : session.config.tlsRequired = true)
    (next : (session.onInitial encrypted message tlsAccepted).1.phase = .command) :
    encrypted = true := by
  rcases opened : session.onInitial encrypted message tlsAccepted with ⟨after, outputs⟩
  rw [opened] at next
  cases initial_moves phase opened with
  | started found admitted =>
    cases phase.symm.trans found
    exact admitted required
  | declined => cases phase.symm.trans next
  | upgraded | refused | insecure | cancelled => cases next

/-! ## What the buffer holds -/

/-- Before an upgrade everything buffered is plaintext. After it everything buffered was
encrypted, unless the upgrade left bytes behind: then the first is plaintext, and the
session is still in its handshake or over. -/
structure Tidy (watched : Watched) : Prop where
  agrees : ∀ encrypted, watched.intake.session.phase = .handshake encrypted →
    (encrypted = true ↔ watched.intake.stream = .tls)
  before : watched.intake.stream = .plain →
    watched.stuffed = false ∧ ∀ received ∈ watched.intake.buffer, received.channel = .plain
  clean : watched.intake.stream = .tls → watched.stuffed = false →
    ∀ received ∈ watched.intake.buffer, received.channel = .tls
  left : watched.stuffed = true → (watched.intake.session.phase = .ended ∨
      ∃ encrypted, watched.intake.session.phase = .handshake encrypted) ∧
    ∃ first others, watched.intake.buffer = first :: others ∧ first.channel = .plain

theorem start_tidy (config : SessionConfig) : Tidy (.start config) where
  agrees encrypted phase := by
    cases phase
    simp [Watched.start, Intake.new]
  before _ := ⟨rfl, fun _ member => absurd member not_mem_nil⟩
  clean impossible := nomatch impossible
  left impossible := nomatch impossible

variable {watched : Watched}

/-- Reading adds bytes of the current stream behind the others. -/
theorem Tidy.read (tidy : Tidy watched) (bytes : Bytes) :
    Tidy { watched with intake := watched.intake.read bytes } where
  agrees := tidy.agrees
  before plain := by
    refine ⟨(tidy.before plain).1, fun received member => ?_⟩
    rcases mem_append.mp member with old | new
    · exact (tidy.before plain).2 received old
    · obtain ⟨byte, -, rfl⟩ := mem_map.mp new
      exact plain
  clean encrypted unstuffed received member := by
    rcases mem_append.mp member with old | new
    · exact tidy.clean encrypted unstuffed received old
    · obtain ⟨byte, -, rfl⟩ := mem_map.mp new
      exact encrypted
  left stuffed := by
    obtain ⟨phase, first, others, shape, plain⟩ := tidy.left stuffed
    refine ⟨phase, first, others ++ bytes.map (⟨·, watched.intake.stream⟩), ?_, plain⟩
    rw [← cons_append, ← shape]
    rfl

/-- A session step beside the buffer. -/
theorem Tidy.withSession (tidy : Tidy watched) (session : Session) (draining : Bool)
    (enters : ∀ encrypted, session.phase ≠ .handshake encrypted)
    (ends : watched.stuffed = true → session.phase = .ended) :
    Tidy { watched with intake := { watched.intake with session, draining } } where
  agrees encrypted phase := absurd phase (enters encrypted)
  before := tidy.before
  clean := tidy.clean
  left stuffed := ⟨.inl (ends stuffed), (tidy.left stuffed).2⟩

/-- Taking a message off a buffer that was not left behind. -/
theorem Tidy.keep (tidy : Tidy watched) (unstuffed : watched.stuffed = false) (rest : Bytes) :
    Tidy { watched with intake := watched.intake.keep rest } where
  agrees := tidy.agrees
  before plain := ⟨unstuffed, fun received member =>
    (tidy.before plain).2 received (mem_of_mem_drop member)⟩
  clean encrypted _ received member :=
    tidy.clean encrypted unstuffed received (mem_of_mem_drop member)
  left stuffed := absurd stuffed (by rw [unstuffed]; exact Bool.false_ne_true)

/-- The packet of an initial read. Only here can the stream be upgraded, and what is kept of
a plaintext buffer is plaintext. -/
theorem Tidy.initial (tidy : Tidy watched) (unstuffed : watched.stuffed = false)
    (encrypted tlsAccepted : Bool) (phase : watched.intake.session.phase = .handshake encrypted)
    (message : InitialClientMessage) (rest : Bytes) :
    let session := (watched.intake.session.onInitial encrypted message tlsAccepted).1
    let next : Intake :=
      { watched.intake.keep rest with session, stream := watched.intake.upgraded session }
    Tidy ⟨next, watched.stuffed || watched.intake.stuffs next⟩ := by
  intro session next
  have kept := tidy.keep unstuffed rest
  have later : ∀ goesOn, session.phase = .handshake goesOn → goesOn = encrypted ∨ goesOn = true :=
    initial_handshake watched.intake.session encrypted tlsAccepted message phase
  have agreed := tidy.agrees encrypted phase
  by_cases upgrades : session.phase = .handshake true
  · have stream : next.stream = .tls := by
      simp only [next, Intake.upgraded, upgrades, ↓reduceIte]
    refine ⟨?_, ?_, ?_, ?_⟩
    · intro goesOn same
      have same : goesOn = true := Phase.handshake.inj (same.symm.trans upgrades)
      exact ⟨fun _ => stream, fun _ => same⟩
    · intro plain
      cases plain.symm.trans stream
    · intro _ fresh received member
      cases origin : watched.intake.stream with
      | tls => exact kept.clean origin unstuffed received member
      | plain =>
        -- the upgrade would have left this byte behind
        have stuffs : watched.intake.stuffs next = true :=
          decide_eq_true ⟨origin, stream, ne_nil_of_mem member⟩
        rw [stuffs, Bool.or_true] at fresh
        cases fresh
    · intro stuffed
      rw [unstuffed, Bool.false_or] at stuffed
      obtain ⟨plain, -, nonempty⟩ := of_decide_eq_true stuffed
      obtain ⟨first, others, shape⟩ := exists_cons_of_ne_nil nonempty
      refine ⟨.inr ⟨true, upgrades⟩, first, others, shape, ?_⟩
      exact (kept.before plain).2 first (shape ▸ mem_cons_self)
  · have stream : next.stream = watched.intake.stream := by
      simp only [next, Intake.upgraded, upgrades, ↓reduceIte]
    have fresh : (watched.stuffed || watched.intake.stuffs next) = false := by
      rw [unstuffed, Bool.false_or, Intake.stuffs, stream]
      apply decide_eq_false
      rintro ⟨plain, encrypted, -⟩
      cases plain.symm.trans encrypted
    rw [fresh]
    refine ⟨?_, ?_, ?_, ?_⟩
    · intro goesOn same
      have unchanged : goesOn = encrypted := by
        refine (later goesOn same).resolve_right (fun isTrue => upgrades ?_)
        rw [← isTrue]
        exact same
      rw [unchanged, stream]
      exact agreed
    · intro plain
      exact ⟨rfl, (kept.before (stream.symm.trans plain)).2⟩
    · intro encryptedStream _
      exact kept.clean (stream.symm.trans encryptedStream) unstuffed
    · intro impossible
      cases impossible

/-! ## One step -/

variable {event : IntakeEvent}

theorem decodes_unstuffed (unstuffed : Unstuffed pgwire arithmetic watched event)
    (decoded : watched.intake.decodes pgwire arithmetic event = some taken) :
    watched.stuffed = false := by
  by_contra stuffed
  rw [Bool.not_eq_false] at stuffed
  cases (unstuffed stuffed).symm.trans decoded

theorem step_tidy {next : Watched} (tidy : Tidy watched)
    (unstuffed : Unstuffed pgwire arithmetic watched event)
    (accepted : watchedStep pgwire arithmetic watched event = some next) : Tidy next := by
  obtain ⟨⟨intake, outputs⟩, moved, rfl⟩ := Option.map_eq_some_iff.mp accepted
  -- only an initial packet changes the stream
  have beside {after : Intake} (stream : after.stream = watched.intake.stream)
      (kept : Tidy ⟨after, watched.stuffed⟩) :
      Tidy ⟨after, watched.stuffed || watched.intake.stuffs after⟩ := by
    have never : ¬ (watched.intake.stream = .plain ∧ after.stream = .tls ∧ after.buffer ≠ []) := by
      rintro ⟨plain, encrypted, -⟩
      cases plain.symm.trans (stream.symm.trans encrypted)
    rwa [Intake.stuffs, decide_eq_false never, Bool.or_false]
  have running (phase : watched.intake.session.phase = .command) : watched.stuffed = false := by
    by_contra stuffed
    rw [Bool.not_eq_false] at stuffed
    rcases (tidy.left stuffed).1 with ended | ⟨encrypted, handshake⟩
    · cases phase.symm.trans ended
    · cases phase.symm.trans handshake
  cases Intake.step_moves moved with
  | @handshake bytes tlsAccepted encrypted sent phase =>
    have reading := tidy.read bytes
    simp only [Intake.onHandshake]
    split
    next message rest found =>
      have decoded : watched.intake.decodes pgwire arithmetic (.chunk bytes tlsAccepted) =
          some ((watched.intake.read bytes).front rest) := by
        simp only [Intake.decodes, sent, ↓reduceIte, phase, found]
      have fresh := decodes_unstuffed pgwire arithmetic unstuffed decoded
      exact reading.initial fresh encrypted tlsAccepted phase message rest
    next rest nothing =>
      rw [decode_initial_nothing pgwire _ _ nothing, Intake.keep_content]
      exact beside rfl reading
    next =>
      exact beside rfl (reading.withSession _ _ (fun _ => Phase.noConfusion) (fun _ => rfl))
    next =>
      exact beside rfl (reading.withSession _ _ (fun _ => Phase.noConfusion) (fun _ => rfl))
  | @reads bytes _ sent phase drained =>
    have reading := tidy.read bytes
    exact beside rfl { reading with }
  | decodes phase draining =>
    have fresh := running phase
    have unended : watched.stuffed ≠ true := by simp [fresh]
    simp only [Intake.onCommand]
    split
    next message rest found =>
      exact beside rfl ((tidy.keep fresh rest).withSession _ _
        (message_leaves_handshake watched.intake.session message phase)
        (fun stuffed => absurd stuffed unended))
    next rest nothing =>
      have kept := tidy.keep fresh rest
      exact beside rfl { kept with }
    next => exact beside rfl (tidy.withSession _ _ (fun _ => Phase.noConfusion) (fun _ => rfl))
    next => exact beside rfl (tidy.withSession _ _ (fun _ => Phase.noConfusion) (fun _ => rfl))
  | session other stepped =>
    obtain ⟨enters, ends⟩ := session_leaves_handshake other stepped
    exact beside rfl (tidy.withSession _ _ enters (fun stuffed => ends (tidy.left stuffed).1))

/-- The bytes of a decoded message were in the buffer after the read that completed it. -/
theorem mem_decodes {intake : Intake}
    (decoded : intake.decodes pgwire arithmetic event = some taken) :
    ∃ bytes, ∀ received ∈ taken, received ∈ (intake.read bytes).buffer := by
  cases event with
  | chunk bytes tlsAccepted =>
    refine ⟨bytes, fun received member => ?_⟩
    simp only [Intake.decodes] at decoded
    split_ifs at decoded
    split at decoded
    · cases decoded
      exact mem_of_mem_take member
    · cases decoded
  | decode =>
    refine ⟨[], fun received member => ?_⟩
    simp only [Intake.decodes] at decoded
    split_ifs at decoded
    split at decoded
    · cases decoded
      exact mem_append_left _ (mem_of_mem_take member)
    · cases decoded
  | session inner => cases decoded

theorem separated_of_tidy (tidy : Tidy watched)
    (unstuffed : Unstuffed pgwire arithmetic watched event) :
    Separated pgwire arithmetic watched.intake event := by
  intro taken decoded encrypted received member
  have fresh := decodes_unstuffed pgwire arithmetic unstuffed decoded
  obtain ⟨bytes, buffered⟩ := mem_decodes pgwire arithmetic decoded
  exact (tidy.read bytes).clean encrypted fresh received (buffered received member)

theorem starts_of_separated (tidy : Tidy watched)
    (separated : Separated pgwire arithmetic watched.intake event) :
    StartsEncrypted pgwire arithmetic watched.intake event := by
  intro required encrypted next outputs taken phase moved begins decoded
  refine separated taken decoded ((tidy.agrees encrypted phase).mp ?_)
  cases Intake.step_moves moved with
  | @handshake bytes tlsAccepted other sent found =>
    cases phase.symm.trans found
    simp only [Intake.onHandshake] at begins
    split at begins
    · exact initial_command watched.intake.session phase required begins
    · cases phase.symm.trans begins
    all_goals cases begins
  | reads sent found drained => cases phase.symm.trans found
  | decodes found draining => cases phase.symm.trans found
  | session other stepped => cases decoded

/-- A byte left behind by an upgrade belongs to the next message. -/
theorem unstuffed_of_separated (tidy : Tidy watched)
    (separated : Separated pgwire arithmetic watched.intake event) :
    Unstuffed pgwire arithmetic watched event := by
  intro stuffed
  obtain ⟨stopped, first, others, shape, plain⟩ := tidy.left stuffed
  have encrypted : watched.intake.stream = .tls := by
    cases stream : watched.intake.stream with
    | tls => rfl
    | plain => cases stuffed.symm.trans (tidy.before stream).1
  cases decoded : watched.intake.decodes pgwire arithmetic event with
  | none => rfl
  | some taken =>
    suffices present : first ∈ taken by
      cases plain.symm.trans (separated taken decoded encrypted first present)
    cases event with
    | chunk bytes tlsAccepted =>
      simp only [Intake.decodes] at decoded
      split_ifs at decoded
      split at decoded
      next rest _ found =>
        cases decoded
        refine Intake.front_head _ first (others ++ bytes.map (⟨·, watched.intake.stream⟩)) rest ?_
          (decode_initial_found found)
        rw [← cons_append, ← shape]
        rfl
      · cases decoded
    | decode =>
      simp only [Intake.decodes] at decoded
      split_ifs at decoded with running
      rcases stopped with ended | ⟨encrypted, handshake⟩
      · cases running.1.symm.trans ended
      · cases running.1.symm.trans handshake
    | session inner => cases decoded

/-! ## Runs -/

/-- In every run, over every byte stream and every chunking of it, no plaintext byte is
decoded on the encrypted stream and no session that requires TLS begins with a plaintext
startup packet, exactly when no message is decoded after an upgrade that left bytes in the
buffer. -/
theorem tls_separated_iff (config : SessionConfig) (events : List IntakeEvent) :
    Meets (watchedStep pgwire arithmetic)
        (fun watched event => Separated pgwire arithmetic watched.intake event ∧
          StartsEncrypted pgwire arithmetic watched.intake event) (.start config) events ↔
      Meets (watchedStep pgwire arithmetic) (Unstuffed pgwire arithmetic) (.start config)
        events := by
  refine meets_congr _ _ _ Tidy ?_ ?_ events (.start config) (start_tidy config)
  · rintro watched event next tidy ⟨separated, -⟩ accepted
    exact step_tidy pgwire arithmetic tidy
      (unstuffed_of_separated pgwire arithmetic tidy separated) accepted
  · intro watched event tidy
    constructor
    · rintro ⟨separated, -⟩
      exact unstuffed_of_separated pgwire arithmetic tidy separated
    · intro unstuffed
      have separated := separated_of_tidy pgwire arithmetic tidy unstuffed
      exact ⟨separated, starts_of_separated pgwire arithmetic tidy separated⟩

/-- A decoder that finds whole startup packets and no other messages. -/
def startupDecoder : PgWire where
  initial source :=
    let len := declaredLen (source.take 4)
    if 8 ≤ len ∧ len ≤ source.length then
      .startup ⟨decodeWord ((source.drop 4).take 4), []⟩ (source.drop len)
    else .incomplete
  frontend _ := .incomplete
  initial_rest source rest found := by
    dsimp only at found
    split_ifs at found with whole
    · cases found
      exact taken_off_drop (by omega) whole.2
    · cases found
  frontend_rest source rest found := by cases found

/-- TLS is offered and required. -/
def tlsOnly : SessionConfig := ⟨true, true, 1⟩

/-- An SSL request. -/
def sslRequestPacket : Bytes := [0, 0, 0, 8, 4, 210, 22, 47]

/-- A startup packet without parameters. -/
def startupPacket : Bytes := [0, 0, 0, 9, 0, 3, 0, 0, 0]

/-- The startup packet arrives in plaintext behind the SSL request, and one byte over TLS:
the session begins with the plaintext packet, although it requires TLS. -/
theorem plaintext_startup_accepted : ∃ upgraded started,
      run (watchedStep startupDecoder .checked) (.start tlsOnly)
        [.chunk (sslRequestPacket ++ startupPacket) true] = some upgraded ∧
      watchedStep startupDecoder .checked upgraded (.chunk [0] false) = some started ∧
      upgraded.intake.stream = .tls ∧
      upgraded.intake.decodes startupDecoder .checked (.chunk [0] false) =
        some (startupPacket.map (⟨·, .plain⟩)) ∧ started.intake.session.phase = .command ∧
      ¬ Separated startupDecoder .checked upgraded.intake (.chunk [0] false) := by
  refine ⟨_, _, rfl, rfl, rfl, rfl, rfl, fun separated => ?_⟩
  have channel := separated _ rfl rfl ⟨0, .plain⟩ (by decide)
  cases channel

end PgVisor.ClientIntake
