import Mathlib.Algebra.Group.Nat.Defs
import Mathlib.Data.List.Basic
import Mathlib.Tactic.Common

/-!
# Machine words and positioned byte files

Four-byte big-endian words, little-endian words of any width, and a file seen as its
bytes together with a read and write position. A word is a natural number; encoding
keeps its residue modulo the word size, so the round trip is exact below that size and
only there.

File operations follow the standard positioned interface: reading and writing
move the position, truncation leaves it where it was, and a short read is
reported instead of being padded. Durability, permissions and concurrent writers
are outside this model.
-/

namespace PgVisor.ByteWords

open List

abbrev Bytes := List UInt8

/-- Most significant byte first; bits above the word are discarded. -/
def encodeWord (value : Nat) : Bytes :=
  [UInt8.ofNat (value / 2 ^ 24), UInt8.ofNat (value / 2 ^ 16),
    UInt8.ofNat (value / 2 ^ 8), UInt8.ofNat value]

/-- Horner evaluation of a byte string, most significant byte first. -/
def decodeWord (bytes : Bytes) : Nat :=
  bytes.foldl (fun value byte => value * 2 ^ 8 + byte.toNat) 0

variable (value : Nat)

@[simp] theorem encode_word_length : (encodeWord value).length = 4 := rfl

/-- A word below its size survives the round trip through its four bytes. -/
theorem decode_encode_word (small : value < 2 ^ 32) : decodeWord (encodeWord value) = value := by
  simp only [decodeWord, encodeWord, foldl_cons, foldl_nil, UInt8.toNat_ofNat']
  omega

/-- Four bytes denote a word, and every four bytes are the encoding of theirs. -/
theorem encode_decode_word (bytes : Bytes) (width : bytes.length = 4) :
    decodeWord bytes < 2 ^ 32 ∧ encodeWord (decodeWord bytes) = bytes := by
  obtain ⟨a, b, c, d, rfl⟩ := length_eq_four.mp width
  have first := a.toNat_lt
  have second := b.toNat_lt
  have third := c.toNat_lt
  have fourth := d.toNat_lt
  simp only [decodeWord, encodeWord, foldl_cons, foldl_nil, List.cons.injEq, and_true]
  refine ⟨by omega, ?_, ?_, ?_, ?_⟩
  all_goals
    rw [← UInt8.toNat_inj, UInt8.toNat_ofNat']
    omega

/-- How a build adds 64-bit words: with overflow checks, which panic, or wrapping. -/
inductive Arithmetic where
  | checked
  | wrapping
deriving DecidableEq

/-- The sum of two words; `none` is a panic. -/
def Arithmetic.add (arithmetic : Arithmetic) (first second : Nat) : Option Nat :=
  if first + second < 2 ^ 64 then some (first + second) else
    match arithmetic with
    | .checked => none
    | .wrapping => some ((first + second) % 2 ^ 64)

/-- Least significant byte first, in a fixed number of bytes. -/
def encodeLittle : Nat → Nat → Bytes
  | 0, _ => []
  | width + 1, value => UInt8.ofNat value :: encodeLittle width (value / 2 ^ 8)

def decodeLittle : Bytes → Nat
  | [] => 0
  | byte :: rest => byte.toNat + 2 ^ 8 * decodeLittle rest

@[simp] theorem encode_little_length (width value : Nat) :
    (encodeLittle width value).length = width := by
  induction width generalizing value with
  | zero => rfl
  | succ width ih => simp [encodeLittle, ih]

theorem decode_encode_little (width value : Nat) (small : value < (2 ^ 8) ^ width) :
    decodeLittle (encodeLittle width value) = value := by
  induction width generalizing value with
  | zero =>
    have zero : value = 0 := by simpa using small
    simp [encodeLittle, decodeLittle, zero]
  | succ width ih =>
    have higher : value / 2 ^ 8 < (2 ^ 8) ^ width := by
      rw [Nat.pow_succ] at small
      exact Nat.div_lt_of_lt_mul (by rwa [Nat.mul_comm] at small)
    simp only [encodeLittle, decodeLittle, UInt8.toNat_ofNat', ih _ higher]
    omega

/-- An open file: its content and the position of the next read or write. -/
structure ByteFile where
  bytes : Bytes
  position : Nat
deriving DecidableEq

namespace ByteFile

/-- A file just opened stands at its first byte. -/
def ofBytes (bytes : Bytes) : ByteFile := ⟨bytes, 0⟩

def seekStart (file : ByteFile) (position : Nat) : ByteFile := { file with position }

def seekEnd (file : ByteFile) : ByteFile := { file with position := file.bytes.length }

/-- Overwrite from the position onward, extending the file where it ends. -/
def writeAll (file : ByteFile) (data : Bytes) : ByteFile where
  bytes := file.bytes.take file.position ++ data ++ file.bytes.drop (file.position + data.length)
  position := file.position + data.length

/-- Truncate, or extend with zeroes; the position does not follow. -/
def setLen (file : ByteFile) (length : Nat) : ByteFile :=
  { file with
    bytes := file.bytes.take length ++ List.replicate (length - file.bytes.length) 0 }

/-- The next `count` bytes, or nothing when the file ends before them. -/
def readExact (file : ByteFile) (count : Nat) : Option (Bytes × ByteFile) :=
  if file.position + count ≤ file.bytes.length then
    some ((file.bytes.drop file.position).take count,
      { file with position := file.position + count })
  else none

variable (file : ByteFile)

@[simp] theorem seek_end_position : file.seekEnd.position = file.bytes.length := rfl

/-- Standing at the end, a write only appends and the position stays at the end. -/
theorem write_at_end (bytes data : Bytes) : (ByteFile.mk bytes bytes.length).writeAll data =
      ⟨bytes ++ data, (bytes ++ data).length⟩ := by
  simp [writeAll]

/-- Shortening to a length already covered by a leading part keeps that part. -/
theorem set_len_append (kept removed : Bytes) (position : Nat) :
    (ByteFile.mk (kept ++ removed) position).setLen kept.length = ⟨kept, position⟩ := by
  simp [setLen]

theorem set_len_length (length : Nat) : (file.setLen length).bytes.length = length := by
  simp only [setLen, length_append, length_take, length_replicate]
  omega

/-- What lies before the new end stays. -/
theorem take_begins_set_len {count length} (shorter : count ≤ length) :
    file.bytes.take count <+: (file.setLen length).bytes :=
  (take_prefix_take_left shorter).trans (prefix_append _ _)

/-- Reading exactly the middle segment returns it and stops behind it. -/
theorem read_exact_segment (before segment after : Bytes) :
    (ByteFile.mk (before ++ segment ++ after) before.length).readExact segment.length =
      some (segment, ⟨before ++ segment ++ after, (before ++ segment).length⟩) := by
  simp [readExact, append_assoc]

end ByteFile

end PgVisor.ByteWords
