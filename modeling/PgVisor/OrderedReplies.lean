import Mathlib.Tactic.Common

/-!
# Requests answered in order

A peer answers the requests it is sent one after the other, each with any number of
replies, and the replies are read in the order they were sent. Requests are numbered, and
a reply remembers the request it answers.

A reader that is interested in its own requests alone reads after asking one of them until
it meets a closing reply. Requests of others that share the channel are never read for.
Between two own requests the unread replies are exactly the stray ones. While an own
request is answered, what was read since is its answer so far if and only if nothing stray
was sent or is still to come.

Requests, replies, and the predicates that mark the own requests and the closing replies
are arbitrary.
-/

namespace PgVisor.OrderedReplies

open List

universe u v
variable {ρ : Type u} {φ : Type v}

structure Reply (ρ : Type u) (φ : Type v) where
  number : Nat
  request : ρ
  content : φ
deriving DecidableEq

/-- The channel: how many requests are finished, those that wait, oldest first, and the
replies sent so far. -/
structure Exchange (ρ : Type u) (φ : Type v) where
  finished : Nat
  waiting : List ρ
  read : List (Reply ρ φ)
  unread : List (Reply ρ φ)
deriving DecidableEq

def Exchange.new : Exchange ρ φ where
  finished := 0
  waiting := []
  read := []
  unread := []

/-- The number of the next request. -/
def Exchange.next (channel : Exchange ρ φ) : Nat := channel.finished + channel.waiting.length

def Exchange.ask (channel : Exchange ρ φ) (request : ρ) : Exchange ρ φ :=
  { channel with waiting := channel.waiting ++ [request] }

/-- The peer sends a reply to the oldest waiting request. -/
def Exchange.reply (channel : Exchange ρ φ) (content : φ) : Option (Exchange ρ φ) :=
  channel.waiting.head?.map fun request =>
    { channel with
      unread := channel.unread ++
        [{ number := channel.finished, request := request, content := content }] }

/-- The peer is done with the oldest waiting request. -/
def Exchange.finish (channel : Exchange ρ φ) : Exchange ρ φ :=
  { channel with finished := channel.finished + 1, waiting := channel.waiting.tail }

/-- The reader takes the first unread reply. -/
def Exchange.take (channel : Exchange ρ φ) : Exchange ρ φ :=
  { channel with
    read := channel.read ++ channel.unread.take 1
    unread := channel.unread.drop 1 }

/-- All replies to the request of this number, in order. -/
def Exchange.answersTo (channel : Exchange ρ φ) (number : Nat) : List (Reply ρ φ) :=
  (channel.read ++ channel.unread).filter fun reply => reply.number = number

variable {channel next : Exchange ρ φ} {content : φ}

theorem reply_cases (sent : channel.reply content = some next) :
    ∃ request rest, channel.waiting = request :: rest ∧
      next = { channel with
        unread := channel.unread ++
          [{ number := channel.finished, request := request, content := content }] } := by
  obtain ⟨request, first, rfl⟩ := Option.map_eq_some_iff.mp sent
  obtain ⟨rest, shape⟩ := List.head?_eq_some_iff.mp first
  exact ⟨request, rest, shape, rfl⟩

section Reader

variable (own : ρ → Prop) (closing : φ → Prop)

/-- No request of others was answered or is waiting. -/
def Undisturbed (channel : Exchange ρ φ) : Prop :=
  (∀ reply ∈ channel.read ++ channel.unread, own reply.request) ∧
    ∀ request ∈ channel.waiting, own request

/-- Between two own requests: the own replies were read, the stray ones were not. -/
structure Interim (channel : Exchange ρ φ) : Prop where
  read : ∀ reply ∈ channel.read, own reply.request
  unread : ∀ reply ∈ channel.unread, ¬ own reply.request
  waiting : ∀ request ∈ channel.waiting, ¬ own request
  numbered : ∀ reply ∈ channel.read ++ channel.unread, reply.number < channel.next

/-- How far the peer has come with the own request of this number, of whose answer
`answer` was sent: it has others to finish first, or is at it, or is done. -/
inductive Progress (channel : Exchange ρ φ) (number : Nat) (answer : List (Reply ρ φ)) : Prop where
  | behind {other request others}
      (waiting : channel.waiting = other :: (others ++ [request])) (mine : own request)
      (stray : ¬ own other) (strays : ∀ between ∈ others, ¬ own between)
      (turn : number = channel.finished + (others.length + 1)) (silent : answer = [])
  | answering {request} (waiting : channel.waiting = [request]) (mine : own request)
      (turn : number = channel.finished) (unclosed : ∀ reply ∈ answer, ¬ closing reply.content)
  | closed {before final} (waiting : channel.waiting = [])
      (turn : number < channel.finished) (whole : answer = before ++ [final])
      (closes : closing final.content) (unclosed : ∀ reply ∈ before, ¬ closing reply.content)

/-- An own request is asked and `shown` was read since: stray replies stand before the
rest of its answer, and then nothing was read. -/
structure Handling (channel : Exchange ρ φ) (number : Nat)
    (shown past strays rest : List (Reply ρ φ)) : Prop where
  read : channel.read = past ++ shown
  unread : channel.unread = strays ++ rest
  blocked : strays ≠ [] → shown = []
  earlier : ∀ reply ∈ past, own reply.request ∧ reply.number < number
  astray : ∀ reply ∈ strays, ¬ own reply.request ∧ reply.number < number
  mine : ∀ reply ∈ shown ++ rest, own reply.request ∧ reply.number = number
  progress : Progress own closing channel number (shown ++ rest)

def Handles (channel : Exchange ρ φ) (number : Nat) (shown : List (Reply ρ φ)) : Prop :=
  ∃ past strays rest, Handling own closing channel number shown past strays rest

variable {own closing}

/-- What holds of a list and of one more element. -/
theorem forall_mem_snoc {α : Type u} {property : α → Prop} {items : List α} {item : α}
    (all : ∀ member ∈ items, property member) (also : property item) :
    ∀ member ∈ items ++ [item], property member :=
  forall_mem_append.mpr ⟨all, forall_mem_singleton.mpr also⟩

/-! ### Between own requests -/

theorem new_interim : Interim own (Exchange.new : Exchange ρ φ) := by
  constructor <;> simp [Exchange.new]

variable (interim : Interim own channel)

include interim

theorem ask_interim {request : ρ} (other : ¬ own request) : Interim own (channel.ask request) := by
  refine ⟨interim.read, interim.unread, forall_mem_snoc interim.waiting other, ?_⟩
  intro reply member
  have bound := interim.numbered reply member
  simp only [Exchange.next, Exchange.ask, length_append, length_singleton] at bound ⊢
  omega

theorem reply_interim (sent : channel.reply content = some next) : Interim own next := by
  obtain ⟨request, rest, shape, rfl⟩ := reply_cases sent
  have other : ¬ own request := interim.waiting request (by simp [shape])
  refine ⟨interim.read, forall_mem_snoc interim.unread other, interim.waiting, ?_⟩
  simp only [← append_assoc]
  exact forall_mem_snoc interim.numbered (by simp [Exchange.next, shape])

theorem finish_interim {request rest}
    (shape : channel.waiting = request :: rest) : Interim own channel.finish := by
  refine ⟨interim.read, interim.unread, ?_, ?_⟩
  · intro asked member
    exact interim.waiting asked (mem_of_mem_tail member)
  intro reply member
  have bound := interim.numbered reply member
  simp only [Exchange.next, Exchange.finish, shape, length_cons, tail_cons] at bound ⊢
  omega

/-- Between own requests, nothing disturbs exactly if nothing is unread and nothing waits. -/
theorem interim_undisturbed_iff :
    Undisturbed own channel ↔ channel.unread = [] ∧ channel.waiting = [] := by
  constructor
  · rintro ⟨replies, requests⟩
    constructor
    · apply eq_nil_iff_forall_not_mem.mpr
      intro reply member
      exact interim.unread reply member (replies reply (mem_append_right _ member))
    · apply eq_nil_iff_forall_not_mem.mpr
      intro request member
      exact interim.waiting request member (requests request member)
  · rintro ⟨nothing, nobody⟩
    constructor
    · intro reply member
      rw [nothing, append_nil] at member
      exact interim.read reply member
    · intro request member
      rw [nobody] at member
      cases member

/-! ### While an own request is answered -/

/-- Asking an own request: what waits and what is unread stands before its answer. -/
theorem ask_handles {request} (mine : own request) :
    Handles own closing (channel.ask request) channel.next [] := by
  refine ⟨channel.read, channel.unread, [], ?_⟩
  refine ⟨(append_nil _).symm, (append_nil _).symm, fun _ => rfl, ?_, ?_, by simp, ?_⟩
  · intro reply member
    exact ⟨interim.read reply member, interim.numbered reply (mem_append_left _ member)⟩
  · intro reply member
    exact ⟨interim.unread reply member, interim.numbered reply (mem_append_right _ member)⟩
  cases shape : channel.waiting with
  | nil =>
    have alone : (channel.ask request).waiting = [request] := by simp [Exchange.ask, shape]
    exact .answering alone mine (by simp [Exchange.next, Exchange.ask, shape]) (by simp)
  | cons other others =>
    have queued : (channel.ask request).waiting = other :: (others ++ [request]) := by
      simp [Exchange.ask, shape]
    refine .behind queued mine (interim.waiting other (by simp [shape])) ?_ ?_ rfl
    · intro between member
      exact interim.waiting between (by simp [shape, member])
    · simp [Exchange.next, Exchange.ask, shape]

omit interim

variable {number : Nat} {shown : List (Reply ρ φ)}

/-- A reply to a request of others, which stands before the own one. -/
theorem stray_handles {first : ρ} {later : List ρ} (content : φ)
    (handles : Handles own closing channel number shown) (shape : channel.waiting = first :: later)
    (other : ¬ own first) : Handles own closing
      { channel with unread := channel.unread ++ [⟨channel.finished, first, content⟩] }
      number shown := by
  obtain ⟨past, strays, rest, handling⟩ := handles
  cases handling.progress with
  | behind waiting mine stray between turn silent =>
    -- nothing was read yet
    obtain ⟨rfl, rfl⟩ := append_eq_nil_iff.mp silent
    refine ⟨past, strays ++ [⟨channel.finished, first, content⟩], [], handling.read, ?_,
      fun _ => rfl, handling.earlier, ?_, by simp, .behind waiting mine stray between turn rfl⟩
    · simp [handling.unread]
    · exact forall_mem_snoc handling.astray ⟨other, by simp only; omega⟩
  | answering waiting mine =>
    obtain ⟨rfl, -⟩ := List.cons.inj (shape.symm.trans waiting)
    exact absurd mine other
  | closed waiting => cases shape.symm.trans waiting

variable (handles : Handles own closing channel number shown)

include handles

theorem reply_handles (unclosed : ¬ closing content) (sent : channel.reply content = some next) :
    Handles own closing next number shown := by
  obtain ⟨first, later, shape, rfl⟩ := reply_cases sent
  obtain ⟨past, strays, rest, handling⟩ := handles
  cases handling.progress with
  | behind waiting mine stray =>
    obtain ⟨rfl, -⟩ := List.cons.inj (shape.symm.trans waiting)
    exact stray_handles content ⟨past, strays, rest, handling⟩ shape stray
  | answering waiting mine turn pending =>
    obtain ⟨rfl, -⟩ := List.cons.inj (shape.symm.trans waiting)
    refine ⟨past, strays, rest ++ [⟨channel.finished, first, content⟩], handling.read, ?_,
      handling.blocked, handling.earlier, handling.astray, ?_, .answering waiting mine turn ?_⟩
    · simp [handling.unread]
    · rw [← append_assoc]
      exact forall_mem_snoc handling.mine ⟨mine, turn.symm⟩
    · rw [← append_assoc]
      exact forall_mem_snoc pending unclosed
  | closed waiting => cases shape.symm.trans waiting

/-- The peer passes on from a request of others. -/
theorem pass_handles {first : ρ} {later : List ρ} (shape : channel.waiting = first :: later)
    (other : ¬ own first) : Handles own closing channel.finish number shown := by
  obtain ⟨past, strays, rest, handling⟩ := handles
  refine ⟨past, strays, rest, handling.read, handling.unread, handling.blocked,
    handling.earlier, handling.astray, handling.mine, ?_⟩
  cases handling.progress with
  | @behind blocking request others waiting mine stray between turn silent =>
    cases others with
    | nil =>
      have alone : channel.finish.waiting = [request] := by simp [Exchange.finish, waiting]
      exact .answering alone mine turn (by simp [silent])
    | cons second others =>
      have queued : channel.finish.waiting = second :: (others ++ [request]) := by
        simp [Exchange.finish, waiting]
      refine .behind queued mine (between second mem_cons_self) ?_ ?_ silent
      · exact fun asked member => between asked (mem_cons_of_mem second member)
      · simp only [Exchange.finish, length_cons] at turn ⊢
        omega
  | answering waiting mine =>
    obtain ⟨rfl, -⟩ := List.cons.inj (shape.symm.trans waiting)
    exact absurd mine other
  | closed waiting => cases shape.symm.trans waiting

/-- A closing reply finishes the request it answers. -/
theorem close_handles (closes : closing content) (sent : channel.reply content = some next) :
    Handles own closing next.finish number shown := by
  obtain ⟨first, later, shape, rfl⟩ := reply_cases sent
  obtain ⟨past, strays, rest, handling⟩ := handles
  cases handling.progress with
  | behind waiting mine stray =>
    obtain ⟨rfl, -⟩ := List.cons.inj (shape.symm.trans waiting)
    have strayed := stray_handles content ⟨past, strays, rest, handling⟩ shape stray
    exact pass_handles strayed shape stray
  | answering waiting mine turn pending =>
    obtain ⟨rfl, -⟩ := List.cons.inj (shape.symm.trans waiting)
    refine ⟨past, strays, rest ++ [⟨channel.finished, first, content⟩], handling.read, ?_,
      handling.blocked, handling.earlier, handling.astray, ?_,
      .closed ?_ ?_ (append_assoc _ _ _).symm closes pending⟩
    · simp [Exchange.finish, handling.unread]
    · rw [← append_assoc]
      exact forall_mem_snoc handling.mine ⟨mine, turn.symm⟩
    · simp [Exchange.finish, waiting]
    · simp only [Exchange.finish]
      omega
  | closed waiting => cases shape.symm.trans waiting

omit handles

/-! ### Reading the answer -/

theorem Handling.answers {past strays rest}
    (handling : Handling own closing channel number shown past strays rest) :
    channel.answersTo number = shown ++ rest := by
  have dropped (replies : List (Reply ρ φ)) (before : ∀ reply ∈ replies, reply.number < number) :
      replies.filter (fun reply => reply.number = number) = [] := by
    apply filter_eq_nil_iff.mpr
    intro reply member
    simpa using Nat.ne_of_lt (before reply member)
  have kept : (shown ++ rest).filter (fun reply => reply.number = number) = shown ++ rest := by
    apply filter_eq_self.mpr
    intro reply member
    simpa using (handling.mine reply member).2
  have read := dropped past fun reply member => (handling.earlier reply member).2
  have stray := dropped strays fun reply member => (handling.astray reply member).2
  simp only [filter_append] at kept
  simp [Exchange.answersTo, handling.read, handling.unread, read, stray, kept]

variable {later : List (Reply ρ φ)} {reply : Reply ρ φ}

/-- If the first unread reply belongs to the answer, no stray one is before it. -/
theorem Handling.unblocked {past strays rest}
    (handling : Handling own closing channel number shown past strays rest)
    (unread : channel.unread = reply :: later) (mine : reply.number = number) : strays = [] := by
  cases strays with
  | nil => rfl
  | cons first others =>
    have same := handling.unread.symm.trans unread
    obtain ⟨rfl, -⟩ := List.cons.inj same
    have before := (handling.astray first mem_cons_self).2
    omega

/-- The closing reply is the last of the answer. -/
theorem Progress.last (progress : Progress own closing channel number (shown ++ reply :: later))
    (closes : closing reply.content) : later = [] ∧ number < channel.finished := by
  cases progress with
  | behind _ _ _ _ _ silent => simp at silent
  | answering _ _ _ unclosed => exact absurd closes (unclosed reply (by simp))
  | @closed before final waiting turn whole _ unclosed =>
    refine ⟨?_, turn⟩
    rcases eq_nil_or_concat later with empty | ⟨front, last, rfl⟩
    · exact empty
    · rw [concat_eq_append, ← cons_append, ← append_assoc] at whole
      obtain ⟨rfl, -⟩ := append_inj' whole rfl
      exact absurd closes (unclosed reply (by simp))

theorem Progress.nobody {answer}
    (progress : Progress own closing channel number answer) (finished : number < channel.finished) :
    channel.waiting = [] := by
  cases progress with
  | behind _ _ _ _ turn | answering _ _ turn => omega
  | closed waiting => exact waiting

variable (handles : Handles own closing channel number shown)

include handles

/-- Nothing disturbs exactly if the reply about to be read continues the answer of the own
request, and is the end of it if it closes. -/
theorem handles_undisturbed_iff
    (unread : channel.unread = reply :: later) : Undisturbed own channel ↔
      shown ++ [reply] <+: channel.answersTo number ∧ (closing reply.content →
          shown ++ [reply] = channel.answersTo number ∧ number < channel.finished) := by
  obtain ⟨past, strays, rest, handling⟩ := handles
  rw [handling.answers]
  constructor
  · rintro ⟨replies, requests⟩
    have unblocked : strays = [] := by
      apply eq_nil_iff_forall_not_mem.mpr
      intro stray member
      exact (handling.astray stray member).1
        (replies stray (by simp [handling.unread, member]))
    have remaining : rest = reply :: later := by
      simpa [unblocked, unread] using handling.unread.symm
    refine ⟨⟨later, by simp [remaining]⟩, ?_⟩
    intro closes
    obtain ⟨rfl, finished⟩ := (remaining ▸ handling.progress).last closes
    exact ⟨by rw [remaining], finished⟩
  · rintro ⟨⟨others, answer⟩, -⟩
    have member : reply ∈ shown ++ rest := by simp [← answer]
    have unblocked := handling.unblocked unread (handling.mine reply member).2
    constructor
    · rw [handling.read, handling.unread, unblocked]
      intro sent inside
      simp only [nil_append, append_assoc, mem_append] at inside
      rcases inside with before | mine
      · exact (handling.earlier sent before).1
      · exact (handling.mine sent (mem_append.mpr mine)).1
    · intro request waits
      cases handling.progress with
      | behind _ _ _ _ _ silent => simp [silent] at member
      | answering waiting mine =>
        rw [waiting, mem_singleton] at waits
        exact waits ▸ mine
      | closed waiting =>
        rw [waiting] at waits
        cases waits

/-- A reply of the own answer is read and the answer goes on. -/
theorem take_handles (unread : channel.unread = reply :: later)
    (continues : shown ++ [reply] <+: channel.answersTo number) :
    Handles own closing channel.take number (shown ++ [reply]) := by
  obtain ⟨past, strays, rest, handling⟩ := handles
  rw [handling.answers] at continues
  have member : reply ∈ shown ++ rest := continues.subset (by simp)
  have unblocked := handling.unblocked unread (handling.mine reply member).2
  have remaining : rest = reply :: later := by
    simpa [unblocked, unread] using handling.unread.symm
  subst unblocked remaining
  refine ⟨past, [], later, ?_, ?_, fun absent => absurd rfl absent, handling.earlier,
    by simp, ?_, ?_⟩
  · simp [Exchange.take, unread, handling.read]
  · simp [Exchange.take, unread]
  · simpa using handling.mine
  · have progress := handling.progress
    rw [append_assoc, singleton_append]
    cases progress with
    | behind _ _ _ _ _ silent => simp at silent
    | answering waiting mine turn unclosed => exact .answering waiting mine turn unclosed
    | closed waiting turn whole closes unclosed => exact .closed waiting turn whole closes unclosed

/-- With nothing unread and nobody waiting, the own request is a thing of the past. -/
theorem Handles.settled
    (nothing : channel.unread = []) (nobody : channel.waiting = []) : Interim own channel := by
  obtain ⟨past, strays, rest, handling⟩ := handles
  have finished : number < channel.next := by
    cases handling.progress with
    | behind waiting | answering waiting => cases nobody.symm.trans waiting
    | closed _ turn => exact Nat.lt_add_right _ turn
  refine ⟨?_, by simp [nothing], by simp [nobody], ?_⟩
  · rw [handling.read]
    intro reply member
    rcases mem_append.mp member with before | mine
    · exact (handling.earlier reply before).1
    · exact (handling.mine reply (mem_append_left _ mine)).1
  · rw [nothing, append_nil, handling.read]
    intro reply member
    rcases mem_append.mp member with before | mine
    · exact Nat.lt_trans (handling.earlier reply before).2 finished
    · rw [(handling.mine reply (mem_append_left _ mine)).2]
      exact finished

/-- When the whole answer is read, nothing is left over on the channel. -/
theorem take_closes
    (unread : channel.unread = reply :: later) (whole : shown ++ [reply] = channel.answersTo number)
    (finished : number < channel.finished) :
    Interim own channel.take ∧ channel.take.unread = [] := by
  have taken := take_handles handles unread (whole ▸ prefix_rfl)
  obtain ⟨past, strays, rest, handling⟩ := handles
  have nothing : channel.take.unread = [] := by
    rw [handling.answers, append_cancel_left_eq] at whole
    have unblocked := handling.unblocked unread
      (handling.mine reply (by simp [← whole])).2
    have last := handling.unread
    rw [unread, unblocked, ← whole, nil_append] at last
    simp [Exchange.take, unread, (List.cons.inj last).2]
  exact ⟨taken.settled nothing (handling.progress.nobody finished), nothing⟩

end Reader

end PgVisor.OrderedReplies
