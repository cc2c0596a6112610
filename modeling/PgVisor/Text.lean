import Mathlib.Algebra.Group.Nat.Defs
import Mathlib.Algebra.Group.Int.Defs
import Mathlib.Data.List.DropRight
import Mathlib.Data.List.Infix
import Mathlib.Tactic.Common

/-!
# Text as character sequences

String operations on lists of Unicode scalar values: trimming, words, the search for a
substring, lines, decimal numbers and ASCII upper-casing. White space is
Unicode's White_Space property. The search is characterised by list infixes, so that
later proofs speak about positions in a text and never about the search loop.
-/

namespace PgVisor.Text

open List hiding contains

variable {c : Char}

/-- Unicode White_Space. -/
def isWhitespace (c : Char) : Bool :=
  let code := c.toNat
  (decide (9 ≤ code) && decide (code ≤ 13)) || code == 0x20 || code == 0x85 || code == 0xA0 ||
    code == 0x1680 || (decide (0x2000 ≤ code) && decide (code ≤ 0x200A)) ||
    code == 0x2028 || code == 0x2029 || code == 0x202F || code == 0x205F || code == 0x3000

def trimStart (text : List Char) : List Char := text.dropWhile isWhitespace

/-- Remove the longest tail of characters that satisfy the predicate. -/
def trimEndMatches (drop : Char → Bool) (text : List Char) : List Char :=
  (text.reverse.dropWhile drop).reverse

def trimEnd (text : List Char) : List Char := trimEndMatches isWhitespace text

def trim (text : List Char) : List Char := trimEnd (trimStart text)

/-- The first of the words separated by white space, empty if there is none. -/
def firstWord (text : List Char) : List Char :=
  (trimStart text).takeWhile (fun c => !isWhitespace c)

/-- The words of a text, which white space separates. -/
def words (text : List Char) : List (List Char) :=
  (text.splitOnP isWhitespace).filter fun word => !word.isEmpty

/-- Whether the needle occurs in the text as a contiguous part. -/
def contains (needle : List Char) : List Char → Bool
  | [] => needle.isEmpty
  | c :: rest => needle.isPrefixOf (c :: rest) || contains needle rest

/-- The text after a given beginning, if it begins so. -/
def stripPrefix (start text : List Char) : Option (List Char) :=
  if start.isPrefixOf text then some (text.drop start.length) else none

/-- The text before a given end, if it ends so. -/
def stripSuffix (ending text : List Char) : Option (List Char) :=
  if ending.isSuffixOf text then some (text.take (text.length - ending.length)) else none

/-- The text before and after the first occurrence of the needle. -/
def splitOnce (needle : List Char) : List Char → Option (List Char × List Char)
  | [] => if needle.isEmpty then some ([], []) else none
  | c :: rest =>
    if needle.isPrefixOf (c :: rest) then some ([], (c :: rest).drop needle.length)
    else (splitOnce needle rest).map fun (before, after) => (c :: before, after)

/-- The lines of a text whose first line begins with the reversed characters. -/
def linesFrom (current : List Char) : List Char → List (List Char)
  | [] => if current.isEmpty then [] else [current.reverse]
  | c :: rest =>
    if c = '\n' then
      (if current.head? = some '\r' then current.tail else current).reverse :: linesFrom [] rest
    else linesFrom (c :: current) rest

/-- Lines end with a line feed, with or without a carriage return before it. -/
def lines (text : List Char) : List (List Char) := linesFrom [] text

/-- A decimal number below `2 ^ 64`, with an optional plus sign. -/
def parseU64 (text : List Char) : Option Nat :=
  let digits := (stripPrefix ['+'] text).getD text
  if digits.isEmpty || digits.any (fun c => !c.isDigit) then none
  else
    let value := Nat.ofDigitChars 10 digits 0
    if value < 2 ^ 64 then some value else none

/-- Decimal digits, filled with zeros to the width. -/
def padded (width value : Nat) : List Char :=
  (Nat.toDigits 10 value).leftpad width '0'

/-- `a` to `z` become `A` to `Z`; every other character stays. -/
def asciiUpper (c : Char) : Char :=
  if 'a' ≤ c ∧ c ≤ 'z' then Char.ofNat (c.toNat - 32) else c

def toAsciiUppercase (text : List Char) : List Char := text.map asciiUpper

theorem ascii_upper_ascii (upper : (asciiUpper c).toNat < 128) : c.toNat < 128 := by
  unfold asciiUpper at upper
  split at upper
  · rename_i range
    have top : c.toNat ≤ 122 := range.2
    omega
  · exact upper

theorem whitespace_upper (c : Char) : isWhitespace (asciiUpper c) = isWhitespace c := by
  have code : ∀ n < 128, (Char.ofNat n).toNat = n := by decide
  have solid : ∀ d : Char, 33 ≤ d.toNat → d.toNat < 128 → isWhitespace d = false := by
    intro d above below
    simp only [isWhitespace, Bool.or_eq_false_iff, Bool.and_eq_false_iff, decide_eq_false_iff_not,
      beq_eq_false_iff_ne]
    omega
  unfold asciiUpper
  split
  · rename_i range
    have low : 97 ≤ c.toNat := range.1
    have high : c.toNat ≤ 122 := range.2
    have upper := code (c.toNat - 32) (by omega)
    rw [solid c (by omega) (by omega), solid _ (by omega) (by omega)]
  · rfl

theorem contains_iff (needle text : List Char) :
    contains needle text = true ↔ needle <:+: text := by
  induction text with
  | nil => simp [contains]
  | cons c rest ih =>
    rw [contains, Bool.or_eq_true, ih, isPrefixOf_iff_prefix, infix_cons_iff]

theorem stripPrefix_append (start rest : List Char) :
    stripPrefix start (start ++ rest) = some rest := by
  simp [stripPrefix]

theorem stripSuffix_append (body ending : List Char) :
    stripSuffix ending (body ++ ending) = some body := by
  simp [stripSuffix]

theorem trimEndMatches_part (drop : Char → Bool) (text : List Char) :
    trimEndMatches drop text <:+: text := by
  rw [trimEndMatches, ← reverse_infix, reverse_reverse]
  exact (dropWhile_suffix _).isInfix

theorem trim_part (text : List Char) : trim text <:+: text :=
  (trimEndMatches_part _ _).trans (dropWhile_suffix _).isInfix

/-- What is dropped from the end ends at an element that is kept. -/
theorem rdropWhile_keep {α : Type} {drop : α → Bool} {last : α} (stays : drop last = false)
    (front tail : List α) :
    (front ++ [last] ++ tail).rdropWhile drop = front ++ [last] ++ tail.rdropWhile drop := by
  induction tail using List.reverseRecOn with
  | nil =>
    rw [append_nil, rdropWhile_concat_neg _ _ _ (by simp [stays]), rdropWhile_nil, append_nil]
  | append_singleton tail x ih =>
    rw [← append_assoc]
    by_cases dropped : drop x = true
    · rw [rdropWhile_concat_pos _ _ _ dropped, rdropWhile_concat_pos _ _ _ dropped, ih]
    · rw [rdropWhile_concat_neg _ _ _ dropped, rdropWhile_concat_neg _ _ _ dropped, append_assoc]

/-- Trimming stops at the first character from the end that is kept. -/
theorem trimEndMatches_append (drop : Char → Bool) (body tail : List Char) (last : Char)
    (stays : drop last = false) (dropped : ∀ c ∈ tail, drop c = true) :
    trimEndMatches drop (body ++ [last] ++ tail) = body ++ [last] := by
  have gone : tail.rdropWhile drop = [] := rdropWhile_eq_nil_iff.mpr dropped
  have kept := rdropWhile_keep stays body tail
  rw [gone, append_nil] at kept
  exact kept

theorem isDigit_padded (width value : Nat) (c : Char) (member : c ∈ padded width value) :
    c.isDigit = true := by
  rw [padded, List.leftpad, mem_append] at member
  rcases member with filler | digit
  · rw [eq_of_mem_replicate filler]
    decide
  · exact Nat.isDigit_of_mem_toDigits (by decide) (by decide) digit

theorem ofDigitChars_padded (width value : Nat) :
    Nat.ofDigitChars 10 (padded width value) 0 = value := by
  rw [padded, List.leftpad, Nat.ofDigitChars_append, Nat.ofDigitChars_replicate_zero, Nat.mul_zero,
    Nat.ofDigitChars_toDigits (by decide) (by decide)]

/-- A number is read back from its digits, with or without leading zeros. -/
theorem parseU64_padded (width value : Nat) (bounded : value < 2 ^ 64) :
    parseU64 (padded width value) = some value := by
  have unsigned : stripPrefix ['+'] (padded width value) = none := by
    rw [stripPrefix, if_neg]
    intro signed
    have sign := isPrefixOf_iff_prefix.mp signed
    exact absurd (isDigit_padded width value '+' (sign.subset mem_cons_self)) (by decide)
  have digits : (padded width value).any (fun c => !c.isDigit) = false := by
    rw [any_eq_false]
    intro c member
    simp [isDigit_padded width value c member]
  have nonempty : (padded width value).isEmpty = false := by
    simp [padded, List.leftpad, Nat.toDigits_ne_nil]
  simp only [parseU64, unsigned, Option.getD_none, nonempty, digits, Bool.or_self,
    Bool.false_eq_true, ↓reduceIte, ofDigitChars_padded, if_pos bounded]

theorem words_append_cons (front rest : List Char) (blank : isWhitespace c = true) :
    words (front ++ c :: rest) = words front ++ words rest := by
  rw [words, splitOnP_append_cons front rest blank, filter_append]
  rfl

theorem words_cons (solid : isWhitespace c = false) (rest : List Char) :
    ∃ word others, words (c :: rest) = (c :: word) :: others := by
  rw [words, splitOnP_cons_eq_if_modifyHead, if_neg (by simp [solid])]
  obtain ⟨word, others, split⟩ := exists_cons_of_ne_nil (splitOnP_ne_nil isWhitespace rest)
  rw [split, modifyHead_cons, filter_cons_of_pos (by simp)]
  exact ⟨word, _, rfl⟩

end PgVisor.Text
