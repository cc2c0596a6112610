import PgVisor.BasebackupArchive

/-!
# Recovery target times

A recovery target is typed as text, read as an instant, checked, and written out again for
the next component. The dashboard reads many forms: RFC 3339, a date and time with an
offset, and several forms without one, after one-digit hours, minutes and seconds have
been filled up. The proxy and the sidecar read RFC 3339 and one plain form. All three
write `%Y-%m-%d %H:%M:%S UTC`, which none of them reads.

The readers and the writer of a form are those of `chrono`, which are not modelled. What is
used of them is stated as `Conforms`: how the texts that are read begin and end, that a
literal in a layout is copied, and how the plain form is related to those with an offset, with
a fraction of a second and with one-digit parts. From that follows that whatever the proxy
reads, the dashboard reads as the same instant.
-/

namespace PgVisor.Backup

open Text
open List hiding contains

/-! ## The readers -/

/-- The layout that the proxy and the sidecar read. -/
def plainLayout : String := "%Y-%m-%d %H:%M:%S"

/-- The layout in which targets are written. -/
def utcLayout : String := "%Y-%m-%d %H:%M:%S UTC"

/-- A target as it is passed on. -/
def utcTime (chrono : Chrono) (instant : DateTime) : List Char := chrono.format utcLayout instant

/-- How the proxy and the sidecar read a trimmed target. -/
def checkedTarget (chrono : Chrono) (trimmed : List Char) : Option DateTime :=
  (chrono.parseFromRfc3339 trimmed).or (chrono.naiveParseFromStr plainLayout trimmed)

/-- A part of one byte is filled up with a zero. -/
def fillUp : List Char → List Char
  | [c] => if c.toNat < 128 then ['0', c] else [c]
  | part => part

/-- Two or three parts between colons filled up, after one blank. -/
def filledTime (datePart timePart : List Char) : Option (List Char) :=
  match timePart.splitOn ':' with
  | [h, m, s] => some (datePart ++ ' ' :: (fillUp h ++ ':' :: (fillUp m ++ ':' :: fillUp s)))
  | [h, m] => some (datePart ++ ' ' :: (fillUp h ++ ':' :: fillUp m))
  | _ => none

/-- One-digit hours, minutes and seconds filled up in a text of two words. -/
def normalized (trimmed : List Char) : List Char :=
  match words trimmed with
  | [datePart, timePart] => (filledTime datePart timePart).getD trimmed
  | _ => trimmed

/-- The layout with an offset. -/
def offsetLayout : String := "%Y-%m-%d %H:%M:%S%z"

/-- The plain layout with a fraction of a second. -/
def fractionLayout : String := "%Y-%m-%d %H:%M:%S%.f"

/-- The layouts without an offset, in the order they are tried. -/
def formats : List String :=
  [fractionLayout, plainLayout, "%Y-%m-%dT%H:%M:%S%.f", "%Y-%m-%dT%H:%M:%S",
    "%Y-%m-%d %H:%M", "%Y-%m-%dT%H:%M"]

/-- How the dashboard reads a trimmed target. -/
def readTarget (chrono : Chrono) (trimmed : List Char) : Option DateTime :=
  (chrono.parseFromRfc3339 trimmed).or <| (chrono.parseFromStr offsetLayout trimmed).or <|
    formats.findSome? fun layout => chrono.naiveParseFromStr layout (normalized trimmed)

/-- The target of a request to the dashboard, which may lie ten seconds ahead. -/
def parseTargetTimestamp (chrono : Chrono) (now : DateTime) (raw : String) :
    Except String DateTime :=
  let trimmed := trim raw.toList
  if trimmed = [] then .error "Recovery target timestamp cannot be empty"
  else
    match readTarget chrono trimmed with
    | none =>
      .error ("Invalid timestamp '" ++ raw ++ "'. Expected format: YYYY-MM-DD HH:MM:SS (UTC) " ++
        "or ISO-8601 (e.g. 2026-09-14 03:00:00)")
    | some parsed =>
      if now + 10 * 10 ^ 9 < parsed then
        .error ("Recovery target timestamp (" ++ String.ofList (utcTime chrono parsed) ++
          ") cannot be in the future. Cluster current time is " ++
          String.ofList (utcTime chrono now) ++ ".")
      else .ok parsed

section Readers

variable {chrono : Chrono} {now parsed : DateTime} {raw : String} {text : List Char}

/-- A target is accepted if it is read as an instant at most ten seconds ahead. -/
theorem parseTargetTimestamp_ok_iff : parseTargetTimestamp chrono now raw = .ok parsed ↔
      trim raw.toList ≠ [] ∧ readTarget chrono (trim raw.toList) = some parsed ∧
        parsed ≤ now + 10 * 10 ^ 9 := by
  simp only [parseTargetTimestamp]
  split
  · rename_i empty
    simp [empty]
  rename_i nonempty
  split
  · rename_i unread
    simp [unread]
  · rename_i instant read
    split
    · rename_i future
      simp only [reduceCtorEq, false_iff, not_and, Int.not_le]
      rintro - same
      rw [read] at same
      cases same
      exact future
    · rename_i past
      rw [read]
      constructor
      · intro same
        cases same
        exact ⟨nonempty, rfl, Int.not_lt.mp past⟩
      · rintro ⟨-, same, -⟩
        cases same
        rfl

end Readers

/-! ## What is known of the forms -/

/-- The first character of a text that is read: a digit, the sign of a year, or white space. -/
def startsTime (c : Char) : Bool := c.isDigit || c == '+' || c == '-' || isWhitespace c

/-- The last character of a text that is read: a digit, the `Z` of UTC, or white space. -/
def endsTime (c : Char) : Bool := c.isDigit || c == 'Z' || c == 'z' || isWhitespace c

/-- The text is read by one of the readers. -/
def Chrono.Reads (chrono : Chrono) (text : List Char) : Prop :=
  (chrono.parseFromRfc3339 text).isSome = true ∨
    (chrono.parseFromStr offsetLayout text).isSome = true ∨
    ∃ layout ∈ formats, (chrono.naiveParseFromStr layout text).isSome = true

/-- What `chrono` documents of the layouts in use. A text is read as a whole, and each layout
begins with a number and ends in one, or in the offset of UTC. -/
structure Chrono.Conforms (chrono : Chrono) : Prop where
  starts : ∀ text, chrono.Reads text → ∃ c ∈ text.head?, startsTime c = true
  ends : ∀ text, chrono.Reads text → ∃ c ∈ text.getLast?, endsTime c = true
  /-- A literal is copied. -/
  literal : ∀ instant, utcTime chrono instant = chrono.format plainLayout instant ++ " UTC".toList
  /-- The offset is not optional. -/
  offset : ∀ text instant, chrono.naiveParseFromStr plainLayout text = some instant →
    chrono.parseFromStr offsetLayout text = none
  /-- The fraction is optional. -/
  fraction : ∀ text instant, chrono.naiveParseFromStr plainLayout text = some instant →
    chrono.naiveParseFromStr fractionLayout text = some instant
  /-- A number may be written with a zero in front. -/
  filled : ∀ text instant, chrono.naiveParseFromStr plainLayout text = some instant →
    chrono.naiveParseFromStr plainLayout (normalized text) = some instant

section Forms

variable {chrono : Chrono} {text : List Char} {instant : DateTime}

/-- What the dashboard reads, one of the readers has read, as it stands or filled up. -/
theorem reads_of_readTarget (read : readTarget chrono text = some instant) :
    chrono.Reads text ∨ chrono.Reads (normalized text) := by
  rcases Option.or_eq_some_iff.mp read with strict | ⟨-, read⟩
  · exact .inl (.inl (Option.isSome_of_eq_some strict))
  rcases Option.or_eq_some_iff.mp read with zoned | ⟨-, read⟩
  · exact .inl (.inr (.inl (Option.isSome_of_eq_some zoned)))
  · obtain ⟨layout, member, matched⟩ := exists_of_findSome?_eq_some read
    exact .inr (.inr (.inr ⟨layout, member, Option.isSome_of_eq_some matched⟩))

/-- What the proxy and the sidecar read, one of the readers has read. -/
theorem reads_of_checkedTarget (read : checkedTarget chrono text = some instant) :
    chrono.Reads text := by
  rcases Option.or_eq_some_iff.mp read with strict | ⟨-, plain⟩
  · exact .inl (Option.isSome_of_eq_some strict)
  · exact .inr (.inr ⟨plainLayout, by simp [formats], Option.isSome_of_eq_some plain⟩)

variable (conforms : chrono.Conforms)
include conforms

/-- Whatever the proxy and the sidecar read, the dashboard reads as the same instant. -/
theorem readTarget_of_checkedTarget (read : checkedTarget chrono text = some instant) :
    readTarget chrono text = some instant := by
  rcases Option.or_eq_some_iff.mp read with strict | ⟨unread, plain⟩
  · simp [readTarget, strict]
  · have first : chrono.naiveParseFromStr fractionLayout (normalized text) = some instant :=
      conforms.fraction _ _ (conforms.filled _ _ plain)
    simp [readTarget, unread, conforms.offset _ _ plain, formats, first]

/-- A text that ends in another character is not read. -/
theorem not_reads_of_ends (front : List Char) {last : Char} (other : endsTime last = false) :
    ¬ chrono.Reads (front ++ [last]) := by
  intro reads
  obtain ⟨c, ends, allowed⟩ := conforms.ends _ reads
  rw [getLast?_concat] at ends
  cases ends
  rw [other] at allowed
  cases allowed

/-- A text that begins with another character is not read. -/
theorem not_reads_of_starts {first : Char} {rest : List Char} (other : startsTime first = false) :
    ¬ chrono.Reads (first :: rest) := by
  intro reads
  obtain ⟨c, starts, allowed⟩ := conforms.starts _ reads
  cases starts
  rw [other] at allowed
  cases allowed

end Forms

/-! ## The written form -/

section Written

/-- A zone is not filled up. -/
theorem normalized_zone (front : List Char) :
    normalized (front ++ " UTC".toList) = front ++ " UTC".toList := by
  have zone : words (front ++ " UTC".toList) = words front ++ ["UTC".toList] :=
    words_append_cons front _ (show isWhitespace ' ' = true by decide)
  unfold normalized
  split
  · rename_i datePart timePart parts
    have last : timePart = "UTC".toList := by
      have ends := congrArg getLast? parts
      rw [zone] at ends
      simpa using ends.symm
    rw [last]
    rfl
  · rfl

/-- Trimming keeps the zone at the end, also if there is nothing else. -/
theorem trim_zone (front : List Char) : trim (front ++ " UTC".toList) = "UTC".toList ∨
      ∃ rest, trim (front ++ " UTC".toList) = rest ++ " UTC".toList := by
  have started : trimStart (front ++ " UTC".toList) = "UTC".toList ∨
      ∃ rest, trimStart (front ++ " UTC".toList) = rest ++ " UTC".toList := by
    rw [trimStart, dropWhile_append]
    split
    · exact .inl (by decide)
    · exact .inr ⟨_, rfl⟩
  rcases started with short | ⟨rest, long⟩
  · exact .inl (by rw [trim, short]; decide)
  · right
    refine ⟨rest, ?_⟩
    have kept := trimEndMatches_append isWhitespace (rest ++ " UT".toList) [] 'C' (by decide)
      (by simp)
    rw [trim, long, trimEnd]
    simpa using kept

variable {chrono : Chrono} (conforms : chrono.Conforms) (instant : DateTime)
include conforms

/-- A trimmed target that was written is left as it is, and no reader reads it. -/
theorem trim_utcTime_unread : normalized (trim (utcTime chrono instant)) =
      trim (utcTime chrono instant) ∧ ¬ chrono.Reads (trim (utcTime chrono instant)) := by
  rw [conforms.literal]
  rcases trim_zone (chrono.format plainLayout instant) with short | ⟨rest, long⟩
  · rw [short]
    exact ⟨by decide, not_reads_of_ends conforms "UT".toList (by decide)⟩
  · rw [long]
    refine ⟨normalized_zone rest, ?_⟩
    have whole : rest ++ " UTC".toList = (rest ++ " UT".toList) ++ ['C'] := by simp
    rw [whole]
    exact not_reads_of_ends conforms _ (by decide)

/-- The proxy and the sidecar do not read what they write. -/
theorem checkedTarget_utcTime : checkedTarget chrono (trim (utcTime chrono instant)) = none := by
  cases read : checkedTarget chrono (trim (utcTime chrono instant)) with
  | none => rfl
  | some other =>
    have unread := (trim_utcTime_unread conforms instant).2
    exact absurd (reads_of_checkedTarget read) unread

/-- Nor does the dashboard. -/
theorem readTarget_utcTime : readTarget chrono (trim (utcTime chrono instant)) = none := by
  obtain ⟨same, unread⟩ := trim_utcTime_unread conforms instant
  cases read : readTarget chrono (trim (utcTime chrono instant)) with
  | none => rfl
  | some other =>
    rcases reads_of_readTarget read with plain | filled
    · exact absurd plain unread
    · rw [same] at filled
      exact absurd filled unread

end Written

/-- In a fixed run the zone is written behind the plain form. -/
theorem timeIn_utcLayout (year month : String) (second : Nat) :
    timeIn year month second utcLayout.toList =
      timeIn year month second plainLayout.toList ++ " UTC".toList := by
  simp [utcLayout, plainLayout, timeIn]

end PgVisor.Backup
