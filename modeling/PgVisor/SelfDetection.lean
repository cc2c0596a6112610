import PgVisor.Election

/-!
# How a node recognises its own address

A node looks for `node<id>` in the addresses of its peers and passes over those that hold it.
The fenced node's search, the leader's guard and the start of a server accept the name
anywhere; the broadcast after a promotion wants a colon behind it or the end of the address.
On addresses `http://<prefix>node<k>` with or without a port the first test also holds where
the digits of `k` go on after those of the node, so that node 1 never asks node 10. The
second is mistaken only where the prefix itself holds the name.
-/

namespace PgVisor.Election

open Text List

/-- A configured peer: what stands before the node's name, its number and its port. -/
structure PeerAddress where
  host : String
  id : Nat
  port : Option Nat

/-- What stands in front of the node's name. -/
def PeerAddress.front (peer : PeerAddress) : List Char := "http://".toList ++ peer.host.toList

def PeerAddress.portText (peer : PeerAddress) : List Char :=
  match peer.port with
  | some port => ':' :: (toString port).toList
  | none => []

def PeerAddress.url (peer : PeerAddress) : String :=
  String.ofList (peer.front ++ "node".toList ++ (toString peer.id).toList ++ peer.portText)

/-! ### Where a name can stand

A name whose first character does not return in it. -/

section Occurrences
variable {α : Type} {mark : α} {name back front : List α}

theorem prefix_of_absent (absent : mark ∉ name) (begins : name <+: front ++ mark :: back) :
    name <+: front := by
  have longer : front ++ [mark] <+: front ++ mark :: back := ⟨back, by simp⟩
  rcases prefix_or_prefix_of_prefix begins longer with inside | beyond
  · rcases prefix_concat_iff.mp inside with whole | within
    · exact absurd (whole ▸ mem_concat_self) absent
    · exact within
  · exact absurd (beyond.subset mem_concat_self) absent

/-- A name is found before the mark, at the mark, or behind it, and never across it. -/
theorem infix_at_mark (absent : mark ∉ name) : mark :: name <:+: front ++ mark :: back ↔
      mark :: name <:+: front ∨ name <+: back ∨ mark :: name <:+: back := by
  induction front with
  | nil => simp [infix_cons_iff]
  | cons c front ih =>
    have here : mark :: name <+: c :: (front ++ mark :: back) ↔ mark :: name <+: c :: front := by
      rw [cons_prefix_cons, cons_prefix_cons]
      constructor
      · intro ⟨same, begins⟩
        exact ⟨same, prefix_of_absent absent begins⟩
      · intro ⟨same, begins⟩
        exact ⟨same, begins.trans (prefix_append _ _)⟩
    rw [cons_append, infix_cons_iff, infix_cons_iff, ih, here, or_assoc]

theorem suffix_at_mark (absent : mark ∉ name) (last : mark ∉ back) :
    mark :: name <:+ front ++ mark :: back ↔ name = back := by
  constructor
  · intro ends
    rcases suffix_or_suffix_of_suffix ends (suffix_append front (mark :: back)) with
      shorter | longer
    · rcases suffix_cons_iff.mp shorter with same | within
      · exact (cons.inj same).2
      · exact absurd (within.subset mem_cons_self) last
    · rcases suffix_cons_iff.mp longer with same | within
      · exact (cons.inj same).2.symm
      · exact absurd (within.subset mem_cons_self) absent
  · rintro rfl
    exact suffix_append _ _

theorem prefix_at_mark (absent : mark ∉ name) (first : mark ∉ front) :
    name ++ [mark] <+: front ++ mark :: back ↔ name = front := by
  have turned : mark :: name.reverse <:+ back.reverse ++ mark :: front.reverse ↔
      name.reverse = front.reverse := suffix_at_mark (by simpa) (by simpa)
  rw [← reverse_suffix]
  simpa using turned

end Occurrences

/-! ### The two tests -/

variable (n : Nat) (peer : PeerAddress)

theorem absent_digits {c} (other : c.isDigit = false) : c ∉ Nat.toDigits 10 n := by
  intro member
  simp [Nat.isDigit_of_mem_toDigits (by decide) (by decide) member] at other

theorem digits_inj {n k} : Nat.toDigits 10 n = Nat.toDigits 10 k ↔ n = k := by
  constructor
  · intro same
    simpa using congrArg (fun digits => Nat.ofDigitChars 10 digits 0) same
  · rintro rfl
    rfl

theorem selfTag_marked : selfTag n = 'n' :: ("ode".toList ++ Nat.toDigits 10 n) := by
  simp [selfTag]

theorem PeerAddress.url_marked : peer.url.toList =
      peer.front ++ 'n' :: ("ode".toList ++ (Nat.toDigits 10 peer.id ++ peer.portText)) := by
  simp [url]

theorem PeerAddress.unmarked_behind :
    'n' ∉ "ode".toList ++ (Nat.toDigits 10 peer.id ++ peer.portText) := by
  unfold portText
  split <;> simp [absent_digits]

/-- The name with an ending stands in what precedes the peer's name, or is the peer's. -/
theorem holds_name_iff {ending} (plain : 'n' ∉ ending) :
    contains (selfTag n ++ ending) peer.url.toList = true ↔ selfTag n ++ ending <:+: peer.front ∨
        Nat.toDigits 10 n ++ ending <+: Nat.toDigits 10 peer.id ++ peer.portText := by
  have absent : 'n' ∉ "ode".toList ++ (Nat.toDigits 10 n ++ ending) := by
    simp [absent_digits, plain]
  have elsewhere : ¬ 'n' :: ("ode".toList ++ (Nat.toDigits 10 n ++ ending)) <:+:
      "ode".toList ++ (Nat.toDigits 10 peer.id ++ peer.portText) :=
    fun found => peer.unmarked_behind (found.subset mem_cons_self)
  rw [Text.contains_iff, peer.url_marked, selfTag_marked, cons_append, append_assoc,
    infix_at_mark absent, or_iff_left elsewhere, prefix_append_right_inj]

/-- A probe loop passes over a peer exactly if what stands before the peer's name holds the
node's own, or if the peer's number begins with the digits of the node's. -/
theorem skipsProbe_iff : skipsProbe n peer.url = true ↔
      selfTag n <:+: peer.front ∨ Nat.toDigits 10 n <+: Nat.toDigits 10 peer.id := by
  have holds := holds_name_iff n peer (@not_mem_nil _ 'n')
  rw [append_nil, append_nil] at holds
  rw [skipsProbe, holds]
  apply or_congr_right
  unfold PeerAddress.portText
  split
  · constructor
    · exact prefix_of_absent (absent_digits n (by decide))
    · exact fun begins => begins.trans (prefix_append _ _)
  · rw [append_nil]

/-- The broadcast passes over a peer exactly if it is the node itself, or if what stands before
the peer's name holds the node's own with a colon. -/
theorem skipsRepoint_iff :
    skipsRepoint n peer.url = true ↔ selfTag n ++ [':'] <:+: peer.front ∨ peer.id = n := by
  have colon (k : Nat) : ':' ∉ Nat.toDigits 10 k := absent_digits k (by decide)
  have ends : selfTag n <:+ peer.url.toList ↔
      Nat.toDigits 10 n = Nat.toDigits 10 peer.id ++ peer.portText := by
    rw [selfTag_marked, peer.url_marked,
      suffix_at_mark (by simp [absent_digits]) peer.unmarked_behind, append_cancel_left_eq]
  rw [skipsRepoint, Bool.or_eq_true, holds_name_iff n peer (by decide), isSuffixOf_iff_suffix, ends,
    or_assoc]
  apply or_congr_right
  unfold PeerAddress.portText
  split
  · have long (port : List Char) : Nat.toDigits 10 n ≠ Nat.toDigits 10 peer.id ++ ':' :: port :=
      fun same => colon n (same ▸ by simp)
    rw [prefix_at_mark (colon n) (colon peer.id), or_iff_left (long _), digits_inj, eq_comm]
  · have bare : ¬ Nat.toDigits 10 n ++ [':'] <+: Nat.toDigits 10 peer.id :=
      fun found => colon peer.id (found.subset (by simp))
    rw [append_nil, or_iff_right bare, digits_inj, eq_comm]

/-- The tests recognise exactly the node itself, on the whole list of its peers, if and only
if no other peer's number goes on after the node's digits and no address names the node
before the peer's own name; for the broadcast only the second matters. -/
theorem skips_itself_iff (peers : List PeerAddress) :
    ((∀ peer ∈ peers, skipsProbe n peer.url = true ↔ peer.id = n) ↔ ∀ peer ∈ peers, peer.id ≠ n →
        ¬ selfTag n <:+: peer.front ∧ ¬ Nat.toDigits 10 n <+: Nat.toDigits 10 peer.id) ∧
    ((∀ peer ∈ peers, skipsRepoint n peer.url = true ↔ peer.id = n) ↔
      ∀ peer ∈ peers, peer.id ≠ n → ¬ selfTag n ++ [':'] <:+: peer.front) := by
  simp only [skipsProbe_iff, skipsRepoint_iff]
  constructor
  · apply forall₂_congr
    intro peer _
    rcases eq_or_ne peer.id n with rfl | other
    · simp
    · simp [other, not_or]
  · apply forall₂_congr
    intro peer _
    rcases eq_or_ne peer.id n with rfl | other <;> simp [*]

/-- Node 1 takes node 10 for itself: as a leader it passes over it, whatever it answers. -/
theorem node_ten_passed_over :
    skipsProbe 1 (PeerAddress.url ⟨"pgvisor-", 10, some 8080⟩) = true ∧
      ∀ (node : Node) (rest : List String) (response : Option StatusResponse),
        node.guard 1 (PeerAddress.url ⟨"pgvisor-", 10, some 8080⟩) rest response =
          { node with phase := .guarding rest } := by
  have skipped : skipsProbe 1 (PeerAddress.url ⟨"pgvisor-", 10, some 8080⟩) = true := by
    decide
  exact ⟨skipped, fun _ _ _ => if_pos skipped⟩

end PgVisor.Election
