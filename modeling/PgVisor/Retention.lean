import Mathlib.Data.List.Nodup
import Mathlib.Data.List.Infix
import Mathlib.Data.List.Sort
import Mathlib.Tactic.Common

/-!
# Positions in a history

A history lists its items from the oldest to the newest. Rules that keep the newest
items of a history, or that never touch its last one, are about how many items come
after a given one. That number is described here by splitting the history at the item,
so that proofs speak about neighbours and not about indices.

A bounded buffer gives up its oldest item for a new one when it is full. Beside what it
held at first, it shows a window on the history of what was pushed: everything pushed,
except items that were followed by as many others as the buffer holds.

When the items carry a key, the latest is the one with the largest key, and the last of
those that share it. It is what a stable sort puts at the end.
-/

namespace PgVisor.Retention

open List

variable {count : Nat}

universe u
variable {α : Type u}

/-- At least `count` items come after an occurrence of the item. -/
def Followed (count : Nat) (items : List α) (item : α) : Prop :=
  ∃ older newer, items = older ++ item :: newer ∧ count ≤ newer.length

/-- The items left when the newest `count` are set aside are those followed by as many. -/
theorem mem_take_iff (count : Nat) (items : List α) (item : α) :
    item ∈ items.take (items.length - count) ↔ Followed count items item := by
  constructor
  · intro member
    obtain ⟨older, middle, split⟩ := append_of_mem member
    refine ⟨older, middle ++ items.drop (items.length - count), ?_, ?_⟩
    · calc items = items.take (items.length - count) ++ items.drop (items.length - count) :=
            (take_append_drop _ _).symm
        _ = older ++ item :: (middle ++ items.drop (items.length - count)) := by
            rw [split, append_assoc, cons_append]
    · have bound : 0 < (items.take (items.length - count)).length := length_pos_of_mem member
      rw [length_take] at bound
      rw [length_append, length_drop]
      omega
  · rintro ⟨older, newer, rfl, enough⟩
    have within : older.length + 1 ≤ (older ++ item :: newer).length - count := by
      rw [length_append, length_cons]
      omega
    have shorter : (older ++ [item]).length ≤ (older ++ item :: newer).length - count := by
      rwa [length_append, length_singleton]
    have start : older ++ [item] <+: older ++ item :: newer :=
      ⟨newer, append_assoc older [item] newer⟩
    have inside : older ++ [item] <+: (older ++ item :: newer).take _ :=
      prefix_take_iff.mpr ⟨start, shorter⟩
    exact inside.subset (mem_append_right older mem_cons_self)

instance [DecidableEq α] (count : Nat) (items : List α) (item : α) :
    Decidable (Followed count items item) :=
  decidable_of_iff _ (mem_take_iff count items item)

variable {items : List α} {item : α}

theorem Followed.mem (followed : Followed count items item) : item ∈ items := by
  obtain ⟨older, newer, rfl, -⟩ := followed
  exact mem_append_right older mem_cons_self

theorem Followed.mono {many few} (fewer : few ≤ many) (followed : Followed many items item) :
    Followed few items item := by
  obtain ⟨older, newer, split, enough⟩ := followed
  exact ⟨older, newer, split, fewer.trans enough⟩

/-- What comes after an item in a part of a history comes after it in the whole. -/
theorem Followed.of_sublist {part} (followed : Followed count part item)
    (inside : part.Sublist items) : Followed count items item := by
  obtain ⟨older, newer, rfl, enough⟩ := followed
  obtain ⟨front, back, rfl, -, behind⟩ := append_sublist_iff.mp inside
  obtain ⟨first, last, rfl, member, newest⟩ := cons_sublist_iff.mp behind
  obtain ⟨before, between, rfl⟩ := append_of_mem member
  refine ⟨front ++ before, between ++ last, by simp, ?_⟩
  have longer := newest.length_le
  rw [length_append]
  omega

/-- A stable sort keeps the order of a part. -/
theorem insertionSort_sublist (r : α → α → Prop) [DecidableRel r] [Std.Total r] [IsTrans α r]
    {part : List α} (inside : part.Sublist items) :
    (part.insertionSort r).Sublist (items.insertionSort r) := by
  induction inside with
  | slnil => exact List.Sublist.refl _
  | cons item _ ih => exact ih.trans (sublist_orderedInsert item _)
  | cons_cons item _ ih => exact ih.orderedInsert_sublist item (pairwise_insertionSort r _)

/-- In a history without repetitions of a key, no followed item has the key of the last. -/
theorem Followed.key_ne_last {β : Type u} {key : α → β} {last : α}
    (distinct : (items.map key).Nodup) (newest : items.getLast? = some last)
    (followed : Followed 1 items item) : key item ≠ key last := by
  obtain ⟨older, newer, rfl, later⟩ := followed
  have position : last ∈ newer := by
    cases newer with
    | nil => cases later
    | cons next rest =>
      rw [List.getLast?_append_cons, List.getLast?_cons_cons] at newest
      exact mem_of_getLast? newest
  rw [map_append, map_cons] at distinct
  have apart : key item ∉ newer.map key := (nodup_cons.mp (nodup_append.mp distinct).2.1).1
  intro same
  exact apart (same ▸ mem_map_of_mem position)

/-- Push at the new end; a full buffer first gives up its oldest item. -/
def pushBounded (capacity : Nat) (items : List α) (item : α) : List α :=
  (if capacity ≤ items.length then items.tail else items) ++ [item]

variable {capacity : Nat}

/-- A buffer of the newest items of a history stays one. -/
theorem pushBounded_newest (positive : 0 < capacity) (items : List α) (item : α) :
    pushBounded capacity (items.drop (items.length - capacity)) item =
      (items ++ [item]).drop ((items ++ [item]).length - capacity) := by
  have length : (items ++ [item]).length = items.length + 1 := by simp
  rw [pushBounded, length, length_drop]
  by_cases full : capacity ≤ items.length
  · rw [if_pos (by omega), tail_drop, drop_append_of_le_length (by omega)]
    congr 2
    omega
  · have whole : items.length - capacity = 0 := by omega
    have still : items.length + 1 - capacity = 0 := by omega
    rw [if_neg (by omega), whole, still, drop_zero, drop_zero]

/-- While the newest items do not fill the buffer, only older ones give way. -/
theorem pushBounded_recent {older recent} (room : recent.length < capacity) (item : α) :
    ∃ kept, kept <:+ older ∧
      pushBounded capacity (older ++ recent) item = kept ++ (recent ++ [item]) := by
  by_cases full : capacity ≤ (older ++ recent).length
  · cases older with
    | nil =>
      rw [nil_append] at full
      omega
    | cons oldest rest =>
      refine ⟨rest, suffix_cons oldest rest, ?_⟩
      rw [pushBounded, if_pos full, cons_append, tail_cons, append_assoc]
  · refine ⟨older, suffix_rfl, ?_⟩
    rw [pushBounded, if_neg full, append_assoc]

/-- The buffer ends with the newest pushed items. Pushed items are missing only once
nothing older is left in the buffer and it is full. -/
def Window (capacity : Nat) (items pushed : List α) : Prop :=
  ∃ older dropped recent, items = older ++ recent ∧ pushed = dropped ++ recent ∧
    (dropped ≠ [] → older = [] ∧ capacity ≤ recent.length)

theorem window_start (capacity : Nat) (items : List α) : Window capacity items [] :=
  ⟨items, [], [], (append_nil items).symm, rfl, fun some => absurd rfl some⟩

theorem Window.push (positive : 0 < capacity) {pushed}
    (window : Window capacity items pushed) (item : α) :
    Window capacity (pushBounded capacity items item) (pushed ++ [item]) := by
  obtain ⟨older, dropped, recent, rfl, rfl, bounded⟩ := window
  by_cases full : capacity ≤ (older ++ recent).length
  · cases older with
    | cons oldest rest =>
      -- an older item makes room; no pushed item has been dropped so far
      refine ⟨rest, dropped, recent ++ [item], ?_, append_assoc _ _ _, ?_⟩
      · rw [pushBounded, if_pos full, cons_append, tail_cons, append_assoc]
      · intro some
        exact absurd (bounded some).1 (cons_ne_nil oldest rest)
    | nil =>
      cases recent with
      | nil => exact absurd full (Nat.not_le_of_lt positive)
      | cons oldest rest =>
        refine ⟨[], dropped ++ [oldest], rest ++ [item], ?_, ?_, ?_⟩
        · rw [pushBounded, if_pos full, nil_append, tail_cons, nil_append]
        · simp
        · intro _
          simpa using full
  · refine ⟨older, dropped, recent ++ [item], ?_, append_assoc _ _ _, ?_⟩
    · rw [pushBounded, if_neg full, append_assoc]
    · intro some
      exact ⟨(bounded some).1, (bounded some).2.trans (by simp)⟩

/-- A pushed item is in the buffer or was followed by as many as the buffer holds. -/
theorem Window.mem_or_followed {pushed} (window : Window capacity items pushed)
    (member : item ∈ pushed) : item ∈ items ∨ Followed capacity pushed item := by
  obtain ⟨older, dropped, recent, rfl, rfl, bounded⟩ := window
  rcases mem_append.mp member with gone | kept
  · right
    obtain ⟨first, last, rfl⟩ := append_of_mem gone
    refine ⟨first, last ++ recent, by simp, ?_⟩
    have enough := (bounded (ne_nil_of_mem gone)).2
    rw [length_append]
    omega
  · left
    exact mem_append_right older kept

section Latest

universe v
variable {κ : Type v} [LinearOrder κ] {key : α → κ}

/-- No other item has a larger key, and none after it has the same. -/
def Latest (key : α → κ) (items : List α) (item : α) : Prop :=
  ∃ older newer, items = older ++ item :: newer ∧ (∀ other ∈ older, key other ≤ key item) ∧
    ∀ other ∈ newer, key other < key item

theorem Latest.mem (latest : Latest key items item) : item ∈ items := by
  obtain ⟨older, newer, rfl, -, -⟩ := latest
  exact mem_append_right older mem_cons_self

theorem Latest.le {other} (latest : Latest key items item) (member : other ∈ items) :
    key other ≤ key item := by
  obtain ⟨older, newer, rfl, before, after⟩ := latest
  rcases mem_append.mp member with early | late
  · exact before other early
  · rcases mem_cons.mp late with rfl | later
    · exact le_refl _
    · exact (after other later).le

theorem latest_cons {first} : Latest key (first :: items) item ↔
      (Latest key items item ∧ key first ≤ key item) ∨
        (first = item ∧ ∀ other ∈ items, key other < key item) := by
  constructor
  · rintro ⟨older, newer, split, before, after⟩
    cases older with
    | nil =>
      cases split
      exact .inr ⟨rfl, after⟩
    | cons oldest older =>
      cases split
      left
      constructor
      · exact ⟨older, newer, rfl, fun other member => before other (mem_cons_of_mem _ member),
          after⟩
      · exact before first mem_cons_self
  · rintro (⟨⟨older, newer, rfl, before, after⟩, below⟩ | ⟨rfl, after⟩)
    · refine ⟨first :: older, newer, rfl, ?_, after⟩
      intro other member
      rcases mem_cons.mp member with rfl | inside
      · exact below
      · exact before other inside
    · exact ⟨[], items, rfl, nofun, after⟩

theorem getLast?_orderedInsert (item : α) {sorted : List α}
    (ordered : sorted.Pairwise fun first second => key first ≤ key second) :
    (sorted.orderedInsert (fun first second => key first ≤ key second) item).getLast? =
      some (match sorted.getLast? with
        | none => item
        | some last => if key item ≤ key last then last else item) := by
  induction sorted with
  | nil => rfl
  | cons least rest ih =>
    obtain ⟨lower, later⟩ := pairwise_cons.mp ordered
    obtain ⟨last, ends⟩ : ∃ last, (least :: rest).getLast? = some last :=
      ⟨_, List.getLast?_eq_some_getLast (cons_ne_nil _ _)⟩
    by_cases small : key item ≤ key least
    · have below : key least ≤ key last := by
        rcases mem_cons.mp (mem_of_getLast? ends) with rfl | inside
        · exact le_refl _
        · exact lower last inside
      rw [List.orderedInsert, if_pos small, List.getLast?_cons_cons, ends]
      simp only [if_pos (small.trans below)]
    · rw [List.orderedInsert, if_neg small]
      cases rest with
      | nil =>
        cases ends
        simp [small]
      | cons next rest =>
        rw [List.getLast?_cons_cons] at ends ⊢
        have inserted := ih later
        rw [ends] at inserted ⊢
        rw [List.getLast?_cons, inserted]
        rfl

/-- A stable sort puts the latest item at the end. -/
theorem getLast?_insertionSort (items : List α) (item : α) :
    (items.insertionSort fun first second => key first ≤ key second).getLast? = some item ↔
      Latest key items item := by
  induction items generalizing item with
  | nil =>
    constructor
    · intro none
      cases none
    · intro latest
      cases latest.mem
  | cons first rest ih =>
    have ordered : (rest.insertionSort fun first second => key first ≤ key second).Pairwise
        fun first second => key first ≤ key second := pairwise_insertionSort _ rest
    rw [insertionSort_cons, getLast?_orderedInsert first ordered, latest_cons, Option.some.injEq]
    cases ends : (rest.insertionSort fun first second => key first ≤ key second).getLast? with
    | none =>
      have empty : rest = [] := by
        rw [List.getLast?_eq_none_iff, ← length_eq_zero_iff, length_insertionSort] at ends
        exact length_eq_zero_iff.mp ends
      subst empty
      constructor
      · intro same
        exact .inr ⟨same, nofun⟩
      · rintro (⟨latest, -⟩ | ⟨same, -⟩)
        · cases latest.mem
        · exact same
    | some last =>
      have latest := (ih last).mp ends
      by_cases below : key first ≤ key last
      · simp only [if_pos below]
        constructor
        · rintro rfl
          exact .inl ⟨latest, below⟩
        rintro (⟨other, -⟩ | ⟨rfl, above⟩)
        · have again := (ih item).mpr other
          rw [ends] at again
          exact Option.some.inj again
        · exact absurd below (not_le.mpr (above last latest.mem))
      · simp only [if_neg below]
        constructor
        · rintro rfl
          exact .inr ⟨rfl, fun other member => (latest.le member).trans_lt (not_le.mp below)⟩
        rintro (⟨other, under⟩ | ⟨same, -⟩)
        · have again := (ih item).mpr other
          rw [ends] at again
          cases again
          exact absurd under below
        · exact same

theorem exists_latest (nonempty : items ≠ []) : ∃ item, Latest key items item := by
  cases ends : (items.insertionSort fun first second => key first ≤ key second).getLast? with
  | none =>
    rw [List.getLast?_eq_none_iff, ← length_eq_zero_iff, length_insertionSort,
      length_eq_zero_iff] at ends
    exact absurd ends nonempty
  | some item => exact ⟨item, (getLast?_insertionSort items item).mp ends⟩

end Latest

end PgVisor.Retention
