import Mathlib.Order.Lattice
import Mathlib.Data.List.Basic
import Mathlib.Data.List.Pairwise
import Mathlib.Tactic.Common

/-!
# Ordered maps as strictly increasing association lists

The order of keys is carried by the value itself, so a map with repeated or
unordered keys cannot be built. Insertion replaces an existing binding; the
remaining operations are the ordered ones: the first binding at or above a key,
the cut below a key, and the least and greatest bindings.

Keys range over an arbitrary linear order. Nothing here bounds the number of
bindings or the cost of an operation.
-/

namespace PgVisor.OrderedIndex

open List

universe u v
variable {κ : Type u} {ν : Type v} [LinearOrder κ]

/-- Bindings in strictly increasing key order. -/
structure OrderedMap (κ : Type u) (ν : Type v) [LinearOrder κ] where
  entries : List (κ × ν)
  increasing : entries.Pairwise (fun first second => first.1 < second.1)
deriving DecidableEq

/-- Two maps with the same bindings are the same map. -/
@[ext] theorem OrderedMap.ext {left right : OrderedMap κ ν}
    (same : left.entries = right.entries) : left = right := by
  cases left
  cases right
  cases same
  rfl

/-- Place a binding before the first larger key, replacing an equal one. -/
def place (key : κ) (value : ν) : List (κ × ν) → List (κ × ν)
  | [] => [(key, value)]
  | (other, old) :: rest =>
    if key < other then (key, value) :: (other, old) :: rest
    else if key = other then (key, value) :: rest
    else (other, old) :: place key value rest

variable (key : κ) (value : ν) (entries : List (κ × ν))

/-- Placement introduces no key other than the supplied one. -/
theorem mem_place (binding : κ × ν) (member : binding ∈ place key value entries) :
    binding = (key, value) ∨ binding ∈ entries := by
  induction entries with
  | nil => exact Or.inl (mem_singleton.mp member)
  | cons head rest ih =>
    obtain ⟨other, old⟩ := head
    simp only [place] at member
    split at member
    · rcases mem_cons.mp member with same | present
      · exact Or.inl same
      · exact Or.inr present
    · split at member
      · rcases mem_cons.mp member with same | present
        · exact Or.inl same
        · exact Or.inr (mem_cons_of_mem _ present)
      · rcases mem_cons.mp member with same | present
        · exact Or.inr (same ▸ mem_cons_self)
        · exact (ih present).imp id (mem_cons_of_mem _)

theorem place_increasing (increasing : entries.Pairwise (fun first second => first.1 < second.1)) :
    (place key value entries).Pairwise (fun first second => first.1 < second.1) := by
  induction entries with
  | nil => exact pairwise_singleton _ _
  | cons head rest ih =>
    obtain ⟨other, old⟩ := head
    obtain ⟨above, tail⟩ := pairwise_cons.mp increasing
    simp only [place]
    split
    · rename_i below
      refine pairwise_cons.mpr ⟨?_, increasing⟩
      intro binding member
      rcases mem_cons.mp member with rfl | present
      · exact below
      · exact lt_trans below (above binding present)
    · split
      · rename_i same
        subst same
        exact pairwise_cons.mpr ⟨above, tail⟩
      · rename_i notBelow notSame
        have larger : other < key := lt_of_le_of_ne (not_lt.mp notBelow) (Ne.symm notSame)
        refine pairwise_cons.mpr ⟨?_, ih tail⟩
        intro binding member
        rcases mem_place key value rest binding member with rfl | present
        · exact larger
        · exact above binding present

namespace OrderedMap

def empty : OrderedMap κ ν := ⟨[], List.Pairwise.nil⟩

def insert (index : OrderedMap κ ν) (key : κ) (value : ν) : OrderedMap κ ν :=
  ⟨place key value index.entries, place_increasing key value index.entries index.increasing⟩

def get (index : OrderedMap κ ν) (key : κ) : Option ν :=
  (index.entries.find? (fun binding => decide (binding.1 = key))).map Prod.snd

def remove (index : OrderedMap κ ν) (key : κ) : OrderedMap κ ν :=
  ⟨index.entries.filter (fun binding => decide (binding.1 ≠ key)), index.increasing.filter _⟩

/-- The least binding whose key is at or above the bound. -/
def firstFrom (index : OrderedMap κ ν) (bound : κ) : Option (κ × ν) :=
  index.entries.find? (fun binding => decide (bound ≤ binding.1))

/-- The bindings strictly below a key: what splitting the map at it leaves. -/
def below (index : OrderedMap κ ν) (bound : κ) : OrderedMap κ ν :=
  ⟨index.entries.filter (fun binding => decide (binding.1 < bound)), index.increasing.filter _⟩

/-- The bindings strictly above a key. -/
def above (index : OrderedMap κ ν) (bound : κ) : OrderedMap κ ν :=
  ⟨index.entries.filter (fun binding => decide (bound < binding.1)), index.increasing.filter _⟩

def lastValue (index : OrderedMap κ ν) : Option ν := index.entries.getLast?.map Prod.snd

end OrderedMap

/-- Placing above every present key appends. -/
theorem place_above (above : ∀ binding ∈ entries, binding.1 < key) :
    place key value entries = entries ++ [(key, value)] := by
  induction entries with
  | nil => rfl
  | cons head rest ih =>
    obtain ⟨other, old⟩ := head
    have larger : other < key := above (other, old) mem_cons_self
    have tail := ih (fun binding member =>
      above binding (mem_cons_of_mem _ member))
    simp only [place, not_lt_of_gt larger, ↓reduceIte, ne_of_gt larger, tail, cons_append]

/-- Inserting above every present key extends the bindings at their end. -/
theorem OrderedMap.insert_above (index : OrderedMap κ ν) (key : κ) (value : ν)
    (above : ∀ binding ∈ index.entries, binding.1 < key) :
    (index.insert key value).entries = index.entries ++ [(key, value)] :=
  place_above key value index.entries above

/-- A placed binding is the one found under its key; other keys are untouched. -/
theorem find_place (sought : κ) :
    (place key value entries).find? (fun binding => decide (binding.1 = sought)) =
      if sought = key then some (key, value)
      else entries.find? (fun binding => decide (binding.1 = sought)) := by
  induction entries with
  | nil =>
    by_cases same : sought = key
    · simp [place, same]
    · simp [place, same, Ne.symm same]
  | cons head rest ih =>
    obtain ⟨other, old⟩ := head
    rw [place]
    by_cases same : sought = key
    · subst same
      split
      · simp
      · split
        · simp
        next larger different => simpa [Ne.symm different] using ih
    · split
      · simp [Ne.symm same]
      split
      next equal =>
        subst equal
        simp [Ne.symm same]
      · simp only [List.find?_cons, ih, same, ↓reduceIte]

theorem OrderedMap.get_insert (index : OrderedMap κ ν) (key : κ) (value : ν) (sought : κ) :
    (index.insert key value).get sought =
      if sought = key then some value else index.get sought := by
  simp only [OrderedMap.get, OrderedMap.insert, find_place]
  split <;> rfl

/-- Searching by key finds a listed binding when keys increase. -/
theorem find_key (key : κ) (value : ν)
    (increasing : entries.Pairwise (fun first second => first.1 < second.1))
    (member : (key, value) ∈ entries) :
    entries.find? (fun binding => decide (binding.1 = key)) = some (key, value) := by
  induction entries with
  | nil => simp at member
  | cons head rest ih =>
    obtain ⟨above, tail⟩ := pairwise_cons.mp increasing
    rcases mem_cons.mp member with rfl | present
    · simp
    · have different : head.1 ≠ key := ne_of_lt (above (key, value) present)
      simp [different, ih tail present]

section Lookups

variable {index : OrderedMap κ ν} {key : κ} {value : ν}

/-- What is found under a key is listed. -/
theorem OrderedMap.mem_of_get (found : index.get key = some value) :
    (key, value) ∈ index.entries := by
  obtain ⟨binding, listed, rfl⟩ := Option.map_eq_some_iff.mp found
  have same : binding.1 = key := by simpa using List.find?_some listed
  exact same ▸ mem_of_find?_eq_some listed

/-- What is listed is found under its key. -/
theorem OrderedMap.get_of_mem (listed : (key, value) ∈ index.entries) :
    index.get key = some value := by
  simp only [OrderedMap.get, find_key _ _ _ index.increasing listed, Option.map_some]

/-- Nothing above a bound is found at or below it. -/
theorem OrderedMap.get_above_of_le {bound : κ} (within : key ≤ bound) :
    (index.above bound).get key = none := by
  simp only [OrderedMap.get, OrderedMap.above, Option.map_eq_none_iff, List.find?_eq_none]
  rintro binding member same
  have larger := (mem_filter.mp member).2
  simp only [decide_eq_true_eq] at larger same
  exact absurd (same ▸ larger) (not_lt_of_ge within)

end Lookups

end PgVisor.OrderedIndex
