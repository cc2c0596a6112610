import PgVisor.MonitorHistory
import PgVisor.PromotionRaces
import Mathlib.Data.List.TakeWhile

/-!
# What precedes a promotion by the monitor

A monitor promotes its node when it has counted five misses. The count belongs to the loop
and outlives the role: a tick that pauses, finds a leader or succeeds in rejoining or promoting
sets it to zero, one in the branch of a leader or of a fenced node does not, and no request
does. So misses from before such a time can be among the five. They are not exactly if the
count was zero then, or five more follow.
-/

namespace PgVisor.Sidecar

open AwaitTasks Async Transitions List
open Election (NodeRole ProcessStatus StatusResponse)

/-! ### A cluster of three -/

/-- The second of three nodes. -/
def trioSetup : Setup :=
  { loneSetup with
    nodeId := 2
    peers := ["http://node1:8080", "http://node2:8080", "http://node3:8080"] }

/-- A tick that hears from itself and from the third node, and from no leader. -/
def missedTick (own : ProcessStatus) (number : Nat) : List (TrafficEvent Activity Outcome) :=
  [.arrive number .tick, .turn number {}, .turn number {}, .turn number {},
    .turn number { reply := some { nodeId := 2, role := .standby, status := own } },
    .turn number { reply := some { nodeId := 3, role := .standby, status := .running } },
    .turn number {}]

/-- A request and its actions. -/
def requested (number : Nat) (request : ControlRequest) (count : Nat) :
    List (TrafficEvent Activity Outcome) :=
  .arrive number (.request request) :: List.replicate count (.turn number {})

/-! ### Five misses in a row -/

/-- The node is a leader, fenced, re-pointed or changes its role: what the monitor has missed
before is past. -/
def Note.Interrupts : Note → Bool
  | .moved | .entered .leader _ | .entered .fenced _ => true
  | _ => false

/-- The node goes on as a standby, and the count with it. -/
def Note.Continues (note : Note) : Bool := note ≠ .cleared && !note.Interrupts

/-- The last five ticks were those of a standby and found no leader, and nothing interrupted
them. -/
def FiveMisses (earlier : History) : Prop :=
  ∃ recent older, earlier = recent ++ older ∧ 5 ≤ recent.count .missed ∧
    ∀ note ∈ recent, note.Continues = true

/-- After an interruption that finds a count, five more misses follow or the count is set to
zero. -/
def Renewed (earlier : History) : Prop :=
  ∀ recent note older, earlier = recent ++ note :: older → note.Interrupts = true →
    .cleared ∉ recent → counted older ≠ 0 → 5 ≤ recent.count .missed

theorem five_misses_iff (earlier : History) :
    FiveMisses earlier ↔ 5 ≤ (earlier.takeWhile Note.Continues).count .missed := by
  constructor
  · rintro ⟨recent, older, rfl, enough, continues⟩
    rw [takeWhile_append_of_pos continues, count_append]
    omega
  · intro enough
    exact ⟨_, _, takeWhile_append_dropWhile.symm, enough, fun _ => mem_takeWhile_imp⟩

/-- The misses of notes among which the count is not set to zero add up. -/
theorem counted_append {recent} (uncleared : .cleared ∉ recent) (older : History) :
    counted (recent ++ older) % 2 ^ 32 = (counted older + recent.count .missed) % 2 ^ 32 := by
  induction recent with
  | nil => rfl
  | cons note rest ih =>
    have later := ih fun among => uncleared (.tail _ among)
    cases note with
    | missed =>
      rw [count_cons_self, cons_append, counted]
      omega
    | cleared => exact absurd mem_cons_self uncleared
    | _ => simpa [counted, count_cons] using later

theorem counted_lt (history : History) : counted history < 2 ^ 32 := by
  induction history with
  | nil => decide
  | cons note earlier ih =>
    cases note with
    | cleared => exact (by decide : 0 < 2 ^ 32)
    | missed => exact Nat.mod_lt _ (by decide)
    | _ => exact ih

/-- From zero, the count is at most the number of misses. -/
theorem counted_le {recent older} (uncleared : .cleared ∉ recent)
    (zero : counted older = 0) : counted (recent ++ older) ≤ recent.count .missed := by
  have sum := counted_append uncleared older
  have small := counted_lt (recent ++ older)
  have bound := Nat.mod_le (recent.count Note.missed) (2 ^ 32)
  rw [zero, Nat.zero_add, Nat.mod_eq_of_lt small] at sum
  omega

variable {earlier : History}

theorem FiveMisses.renewed (five : FiveMisses earlier) : Renewed earlier := by
  obtain ⟨last, before, rfl, enough, continues⟩ := five
  intro recent note older same interrupts _ _
  rcases append_eq_append_iff.mp same with ⟨between, rfl, _⟩ | ⟨between, rfl, rest⟩
  · rw [count_append]
    omega
  cases between with
  | nil => rwa [append_nil] at enough
  | cons first others =>
    cases rest
    have continued := continues note (by simp)
    simp [Note.Continues, interrupts] at continued

/-- A count of five comes from five misses in a row if it was renewed. -/
theorem Renewed.five_misses (renewed : Renewed earlier) (enough : 5 ≤ counted earlier) :
    FiveMisses earlier := by
  rw [five_misses_iff]
  have split := takeWhile_append_dropWhile (p := Note.Continues) (l := earlier)
  have uncleared : .cleared ∉ earlier.takeWhile Note.Continues := fun among => by
    have continued := mem_takeWhile_imp among
    simp [Note.Continues] at continued
  rw [← split] at enough
  cases rest : earlier.dropWhile Note.Continues with
  | nil =>
    rw [rest] at enough
    exact enough.trans (counted_le uncleared rfl)
  | cons note older =>
    have stops : note.Continues = false := by
      have head := List.head?_dropWhile_not Note.Continues earlier
      simpa [rest] using head
    rw [rest] at enough
    -- The note that ends the latest misses has set the count to zero or has interrupted them.
    by_cases zero : counted (note :: older) = 0
    · exact enough.trans (counted_le uncleared zero)
    have interrupts : note.Interrupts = true := by
      cases note <;> simp_all [Note.Continues, counted]
    have found : counted older ≠ 0 := by
      cases note with
      | moved | entered role status => exact zero
      | _ => cases interrupts
    rw [rest] at split
    exact renewed _ note older split.symm interrupts uncleared found

/-- Whenever the monitor invokes a promotion, its last five ticks were misses of a standby that
nothing interrupted, exactly if after every interruption that found a count five more misses
came or the count was set to zero; in particular if no interruption ever finds a count. -/
theorem promotions_follow_five_misses_iff (setup : Setup) (state : SidecarState)
    (events : List (TrafficEvent Activity Outcome))
    (final : Traffic Activity (SidecarState × History) Outcome Response)
    (fresh : state.missedHeartbeats = 0)
    (single : Meets (Traffic.step (watchedPerform setup))
      (Admits (· = .tick) fun _ _ => True) (.calm (state, [])) events)
    (reached : run (Traffic.step (watchedPerform setup)) (.calm (state, [])) events = some final) :
    ((∀ status earlier, .promoting status :: earlier <:+ final.state.2 → FiveMisses earlier) ↔
      ∀ status earlier, .promoting status :: earlier <:+ final.state.2 → Renewed earlier) ∧
      ((∀ note older, note :: older <:+ final.state.2 → note.Interrupts = true →
          counted older = 0) → ∀ status earlier, .promoting status :: earlier <:+ final.state.2 →
          FiveMisses earlier) := by
  have kept := history_kept setup fresh single reached
  have enough (status : ProcessStatus) (earlier : History)
      (noted : .promoting status :: earlier <:+ final.state.2) : 5 ≤ counted earlier := by
    exact kept.sound.vouched noted
  refine ⟨⟨?_, ?_⟩, ?_⟩
  · exact fun five status earlier noted => (five status earlier noted).renewed
  · exact fun renewed status earlier noted =>
      (renewed status earlier noted).five_misses (enough status earlier noted)
  intro zero status earlier noted
  refine Renewed.five_misses ?_ (enough status earlier noted)
  rintro recent note older rfl interrupts _ found
  refine absurd (zero note older ?_ interrupts) found
  exact (suffix_append recent _).trans ((suffix_cons _ _).trans noted)

/-- Five misses of a running standby, and the promotion they bring about. -/
def fiveTicks : List (TrafficEvent Activity Outcome) :=
  (List.range 5).flatMap (missedTick .running) ++ [.turn 4 {}]

theorem five_ticks_promote :
    ∃ final, run (Traffic.step (watchedPerform trioSetup)) (.calm (servingStandby, []))
        fiveTicks = some final ∧ final.state.2.head? = some (.promoting .running) ∧
      ((∀ status earlier, .promoting status :: earlier <:+ final.state.2 → FiveMisses earlier) ↔
        ∀ status earlier, .promoting status :: earlier <:+ final.state.2 → Renewed earlier) := by
  obtain ⟨final, reached, promoted⟩ : ∃ final, run (Traffic.step (watchedPerform trioSetup))
      (.calm (servingStandby, [])) fiveTicks = some final ∧
        final.state.2.head? = some (.promoting .running) := by
    decide +kernel
  refine ⟨final, reached, promoted, ?_⟩
  have single := admits_of_orderly (watchedPerform trioSetup) (· = .tick) (fun _ _ => True) 5
    (servingStandby, []) fiveTicks (by decide +kernel)
  exact (promotions_follow_five_misses_iff trioSetup servingStandby fiveTicks final rfl single
    reached).1

/-- Four misses, a re-pointing to the leader, and one miss of the new leader. -/
def repointedTicks : List (TrafficEvent Activity Outcome) :=
  (List.range 4).flatMap (missedTick .running) ++
    requested 4 (.repoint "host=pgvisor-node1") 9 ++ missedTick .running 5 ++ [.turn 5 {}]

/-- After four misses a node is re-pointed; it promotes itself at the first miss after that. -/
theorem stale_misses_promote :
    ∃ final, Meets (Traffic.step (watchedPerform trioSetup)) (Admits (· = .tick) fun _ _ => True)
        (.calm (servingStandby, [])) repointedTicks ∧
      run (Traffic.step (watchedPerform trioSetup)) (.calm (servingStandby, [])) repointedTicks =
        some final ∧ ∃ status earlier, .promoting status :: earlier <:+ final.state.2 ∧
        ¬ FiveMisses earlier := by
  obtain ⟨final, reached, first, once⟩ : ∃ final, run (Traffic.step (watchedPerform trioSetup))
      (.calm (servingStandby, [])) repointedTicks = some final ∧
        final.state.2.head? = some (.promoting .running) ∧
          (final.state.2.tail.takeWhile Note.Continues).count .missed = 1 := by
    decide +kernel
  have single := admits_of_orderly (watchedPerform trioSetup) (· = .tick) (fun _ _ => True) 6
    (servingStandby, []) repointedTicks (by decide +kernel)
  refine ⟨final, single, reached, .running, final.state.2.tail, ?_, ?_⟩
  · rw [cons_head?_tail first]
  · rw [five_misses_iff, once]
    decide

end PgVisor.Sidecar
