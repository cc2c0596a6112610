import Mathlib.Data.List.Basic
import Mathlib.Tactic.Common

/-!
# Self-delimiting codes built from parts

A code writes a value as a list of symbols and reads one value back from the front of a
list, leaving what follows. Numbers are written as tallies; pairs, options, lists and the
images of coded types are assembled from their parts, so every value of such a type is
read back whatever stands behind it.
-/

namespace PgVisor.TokenCode

open List

universe u v
variable {σ : Type u} {α β : Type v}

/-- Writing, and reading one value from the front. -/
structure Code (σ : Type u) (α : Type v) where
  put : α → List σ
  get : List σ → Option (α × List σ)
  get_put : ∀ value rest, get (put value ++ rest) = some (value, rest)

namespace Code

/-- Read a whole list as one value, ignoring what stands behind it. -/
def read (code : Code σ α) (symbols : List σ) : Option α := (code.get symbols).map Prod.fst

theorem read_put (code : Code σ α) (value : α) : code.read (code.put value) = some value := by
  have whole := code.get_put value []
  rw [append_nil] at whole
  rw [read, whole, Option.map_some]

/-- The code of a type that is recovered from its image in a coded one. -/
def via (code : Code σ β) (image : α → β) (back : β → Option α)
    (back_image : ∀ value, back (image value) = some value) : Code σ α where
  put value := code.put (image value)
  get symbols := (code.get symbols).bind fun got => (back got.1).map (·, got.2)
  get_put value rest := by
    rw [code.get_put, Option.bind_some, back_image, Option.map_some]

def pair (first : Code σ α) (second : Code σ β) : Code σ (α × β) where
  put value := first.put value.1 ++ second.put value.2
  get symbols := (first.get symbols).bind fun left =>
    (second.get left.2).map fun right => ((left.1, right.1), right.2)
  get_put value rest := by
    rw [append_assoc, first.get_put, Option.bind_some, second.get_put, Option.map_some]

/-- As many values in a row. -/
def getMany (code : Code σ α) : Nat → List σ → Option (List α × List σ)
  | 0, symbols => some ([], symbols)
  | count + 1, symbols => (code.get symbols).bind fun value =>
    (getMany code count value.2).map fun values => (value.1 :: values.1, values.2)

theorem get_many_put (code : Code σ α) (values : List α) (rest : List σ) :
    code.getMany values.length (values.flatMap code.put ++ rest) = some (values, rest) := by
  induction values with
  | nil => rfl
  | cons value others ih =>
    rw [length_cons, getMany, flatMap_cons, append_assoc, code.get_put,
      Option.bind_some, ih, Option.map_some]

/-- A list behind its length. -/
def list (code : Code σ α) (number : Code σ Nat) : Code σ (List α) where
  put values := number.put values.length ++ values.flatMap code.put
  get symbols := (number.get symbols).bind fun count => code.getMany count.1 count.2
  get_put values rest := by
    rw [append_assoc, number.get_put, Option.bind_some, get_many_put]

/-- An option as a list of at most one value. -/
def option (code : Code σ α) (number : Code σ Nat) : Code σ (Option α) :=
  (code.list number).via Option.toList (fun values => some values.head?) (by
    intro value
    cases value <;> rfl)

section Tally

variable [DecidableEq σ] (mark stop : σ)

/-- Marks up to the first other symbol. -/
def countMarks : Nat → List σ → Option (Nat × List σ)
  | _, [] => none
  | count, symbol :: rest =>
    if symbol = mark then countMarks (count + 1) rest else some (count, rest)

theorem count_marks_replicate (different : stop ≠ mark) (number count : Nat) (rest : List σ) :
    countMarks mark count (List.replicate number mark ++ stop :: rest) =
      some (count + number, rest) := by
  induction number generalizing count with
  | zero => rw [replicate_zero, nil_append, countMarks, if_neg different, Nat.add_zero]
  | succ number ih =>
    rw [replicate_succ, cons_append, countMarks, if_pos rfl, ih, Nat.add_right_comm, Nat.add_assoc]

/-- A number as that many marks and a stop. -/
def tally (different : stop ≠ mark) : Code σ Nat where
  put number := List.replicate number mark ++ [stop]
  get := countMarks mark 0
  get_put number rest := by
    rw [append_assoc, singleton_append, count_marks_replicate mark stop different, Nat.zero_add]

end Tally

end Code

end PgVisor.TokenCode
