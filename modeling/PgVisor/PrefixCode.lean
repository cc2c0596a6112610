import Mathlib.Data.List.Infix
import Mathlib.Tactic.Common

/-!
# Streams of self-delimiting records

A code gives each record a nonempty word such that no two records have words that
begin a common text. A text then has one longest beginning that is a concatenation of
records, and a cut through a concatenation leaves exactly the records that lie entirely
before the cut.

Records and symbols are arbitrary types. Nothing here says how a record is found in a
text; a reader is related to this module by showing that it consumes one word at a time
and stops where no word begins.
-/

namespace PgVisor.PrefixCode

open List

universe u v
variable {ρ : Type u} {α : Type v}

/-- No word is empty, and a text begins with the word of one record at most. -/
structure SelfDelimiting (code : ρ → List α) : Prop where
  nonempty : ∀ record, code record ≠ []
  unique : ∀ first second text, code first <+: text → code second <+: text → first = second

/-- The text of a list of records. -/
def encode (code : ρ → List α) (records : List ρ) : List α := records.flatMap code

/-- The longest list of records whose text begins the given one. -/
structure Longest (code : ρ → List α) (records : List ρ) (text : List α) : Prop where
  begins : encode code records <+: text
  longest : ∀ other, encode code other <+: text → other <+: records

/-- The records whose words lie entirely before a cut. -/
def wholeBefore (code : ρ → List α) : Nat → List ρ → List ρ
  | _, [] => []
  | cut, record :: rest =>
    if (code record).length ≤ cut then
      record :: wholeBefore code (cut - (code record).length) rest
    else []

section

variable (code : ρ → List α)

@[simp] theorem encode_nil : encode code [] = [] := rfl

@[simp] theorem encode_cons (record : ρ) (rest : List ρ) :
    encode code (record :: rest) = code record ++ encode code rest := rfl

@[simp] theorem encode_append (first second : List ρ) :
    encode code (first ++ second) = encode code first ++ encode code second := by
  simp [encode]

end

variable {code : ρ → List α}

/-- Where no word begins, the longest list of records is empty. -/
theorem longest_of_stuck {text} (stuck : ∀ record, ¬ code record <+: text) :
    Longest code [] text where
  begins := nil_prefix
  longest other begins := by
    cases other with
    | nil => exact nil_prefix
    | cons record rest => exact absurd ((prefix_append _ _).trans begins) (stuck record)

/-- A word in front of a text adds its record in front of the longest list. -/
theorem Longest.cons (delimited : SelfDelimiting code) {records text}
    (rest : Longest code records text) (record : ρ) :
    Longest code (record :: records) (code record ++ text) where
  begins := (prefix_append_right_inj _).mpr rest.begins
  longest other begins := by
    cases other with
    | nil => exact nil_prefix
    | cons head tail =>
      have same : head = record := by
        apply delimited.unique head record (code record ++ text)
        · exact (prefix_append _ _).trans begins
        · exact prefix_append _ _
      subst same
      have inside : encode code tail <+: text := (prefix_append_right_inj _).mp begins
      exact (prefix_cons_inj _).mpr (rest.longest tail inside)

/-- Every text has a longest list of records.

Induct on the length of the text: a word that begins it is not empty, so what follows
the word is shorter. -/
theorem longest_exists (delimited : SelfDelimiting code) (text : List α) :
    ∃ records, Longest code records text := by
  induction size : text.length using Nat.strong_induction_on generalizing text with
  | _ size ih =>
    by_cases found : ∃ record, code record <+: text
    · obtain ⟨record, rest, rfl⟩ := found
      have positive := length_pos_iff.mpr (delimited.nonempty record)
      rw [length_append] at size
      obtain ⟨records, longest⟩ := ih rest.length (by omega) rest rfl
      exact ⟨record :: records, longest.cons delimited record⟩
    · exact ⟨[], longest_of_stuck fun record begins => found ⟨record, begins⟩⟩

/-- What follows the longest list begins with no word. -/
theorem Longest.rest {records text} (longest : Longest code records text) :
    ∃ rest, text = encode code records ++ rest ∧ ∀ record, ¬ code record <+: rest := by
  obtain ⟨rest, rfl⟩ := longest.begins
  refine ⟨rest, rfl, ?_⟩
  intro record begins
  have extended : encode code (records ++ [record]) <+: encode code records ++ rest := by
    simpa using begins
  have impossible := (longest.longest _ extended).length_le
  rw [length_append, length_singleton] at impossible
  omega

/-- A concatenation of records has them as its longest list. -/
theorem longest_encode (delimited : SelfDelimiting code) (records : List ρ) :
    Longest code records (encode code records) := by
  induction records with
  | nil =>
    apply longest_of_stuck
    intro record begins
    exact delimited.nonempty record (prefix_nil.mp begins)
  | cons record rest ih => exact ih.cons delimited record

/-- A cut through a concatenation leaves the records entirely before it. -/
theorem longest_cut (delimited : SelfDelimiting code) (records : List ρ) (cut : Nat) :
    Longest code (wholeBefore code cut records) ((encode code records).take cut) := by
  induction records generalizing cut with
  | nil =>
    rw [encode_nil, take_nil]
    exact longest_encode delimited []
  | cons record rest ih =>
    rw [encode_cons, wholeBefore]
    split
    next inside =>
      rw [take_append, take_of_length_le inside]
      exact (ih _).cons delimited record
    next outside =>
      -- what is left of the word is too short to hold any word
      have short : (code record ++ encode code rest).take cut <+: code record := by
        rw [take_append_of_le_length (by omega)]
        exact take_prefix _ _
      apply longest_of_stuck
      intro other begins
      have same : other = record :=
        delimited.unique other record (code record) (begins.trans short) prefix_rfl
      subst same
      have fits := begins.length_le
      rw [length_take] at fits
      omega

/-- The records before a cut begin the list. -/
theorem wholeBefore_begins (records : List ρ) (cut : Nat) :
    wholeBefore code cut records <+: records := by
  induction records generalizing cut with
  | nil => exact prefix_rfl
  | cons record rest ih =>
    rw [wholeBefore]
    split
    · exact (prefix_cons_inj _).mpr (ih _)
    · exact nil_prefix

/-- A cut behind a list of records leaves it, and of what follows the records before the cut. -/
theorem wholeBefore_append (first second : List ρ) (cut : Nat) :
    wholeBefore code ((encode code first).length + cut) (first ++ second) =
      first ++ wholeBefore code cut second := by
  induction first with
  | nil => simp
  | cons record rest ih =>
    rw [encode_cons, length_append, Nat.add_assoc, cons_append, wholeBefore,
      if_pos (Nat.le_add_right _ _), Nat.add_sub_cancel_left, ih, cons_append]

/-- Which records lie before a cut depends on their words alone. -/
theorem wholeBefore_map {σ : Type*} (code : ρ → List α) (other : σ → List α) (view : σ → ρ)
    (records : List σ) (same : ∀ record ∈ records, other record = code (view record)) (cut : Nat) :
    wholeBefore code cut (records.map view) = (wholeBefore other cut records).map view := by
  induction records generalizing cut with
  | nil => rfl
  | cons record rest ih =>
    have later := ih fun record member =>
      same record (mem_cons_of_mem _ member)
    simp only [map_cons, wholeBefore, ← same record mem_cons_self, later]
    split <;> rfl

end PgVisor.PrefixCode
