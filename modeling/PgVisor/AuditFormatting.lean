import Mathlib.Data.List.DropRight
import PgVisor.SqlAudit
import PgVisor.SqlStatements

/-!
# Formatting and the audit

The audit of a session goes by lines: it leaves out the lines that begin as comments, joins the
others with one space and looks at the beginning. A statement is recorded exactly if its keyword
is at the beginning of the first line that is neither blank nor such a comment line; the second
word of two has to follow behind one space, or at the beginning of the next line that is no
comment line. Everything else that separates tokens hides the statement.
-/

namespace PgVisor.SqlAudit

open Text SqlGuard SqlTokens
open List hiding contains

/-- The line begins as a comment, so that the audit leaves it out. -/
def startsComment (line : List Char) : Bool :=
  "--".toList.isPrefixOf (trim line) || "/*".toList.isPrefixOf (trim line)

/-- The first line that counts, and the lines behind it: in front are only blank lines and lines
that begin as comments. -/
def FirstLine (text first : List Char) (later : List (List Char)) : Prop :=
  ∃ lead, lines text = lead ++ first :: later ∧
    (∀ line ∈ lead, trim line = [] ∨ startsComment line = true) ∧
    trim first ≠ [] ∧ startsComment first = false

/-- The next line that counts, blank or not. -/
def NextLine (later : List (List Char)) (second : List Char) : Prop :=
  ∃ comments rest, later = comments ++ second :: rest ∧
    (∀ line ∈ comments, startsComment line = true) ∧ startsComment second = false

section Texts

variable (upper : UpperCase) (text : List Char)

/-- The text begins with the word. -/
def OpensWord (word : List Char) : Prop :=
  ∃ first later, FirstLine text first later ∧ word <+: upper.apply (trim first)

/-- The text begins with the word and something behind white space. -/
def OpensSpaced (word : List Char) : Prop :=
  ∃ first later, FirstLine text first later ∧
    (word ++ [' '] <+: upper.apply (trim first) ∨
      upper.apply (trim first) = word ∧ ∃ line ∈ later, trim line ≠ [] ∧ startsComment line = false)

/-- The text begins with the two words, with one space between them or with the second at the
beginning of the next line. -/
def OpensPhrase (word next : List Char) : Prop :=
  ∃ first later, FirstLine text first later ∧
    (word ++ ' ' :: next <+: upper.apply (trim first) ∨
      upper.apply (trim first) = word ∧
        ∃ second, NextLine later second ∧ next <+: upper.apply (trim second))

/-- A line that counts holds the word. -/
def Mentions (word : List Char) : Prop :=
  ∃ line ∈ lines text, startsComment line = false ∧ word <:+: upper.apply (trim line)

end Texts

/-! ### Trimmed lines -/

/-- A trimmed text begins with no blank. -/
theorem trim_head (text : List Char) : ∀ c ∈ (trim text).head?, isWhitespace c = false := by
  intro c first
  have starts := List.head?_dropWhile_not isWhitespace text
  obtain ⟨rest, split⟩ : trim text <+: trimStart text := rdropWhile_prefix isWhitespace _
  cases body : trim text with
  | nil => simp [body] at first
  | cons d others =>
    rw [body] at first split
    cases Option.mem_some_iff.mp first
    rw [← trimStart, ← split] at starts
    simpa using starts

/-- The line ends with no white space. -/
def Ended (line : List Char) : Prop := ∀ front c, line = front ++ [c] → isWhitespace c = false

/-- Nor does it end with one. -/
theorem trim_ended (text : List Char) : Ended (trim text) := by
  intro front c ends
  have same : (trimStart text).rdropWhile isWhitespace = front ++ [c] := ends
  have last := rdropWhile_last_not isWhitespace (trimStart text) (by simp [same])
  simpa [same] using last

/-- The text that a line adds when lines are joined. -/
def spaced (lines : List (List Char)) : List Char := lines.flatMap (' ' :: ·)

theorem intercalate_cons (first : List Char) (rest : List (List Char)) :
    [' '].intercalate (first :: rest) = first ++ spaced rest := by
  induction rest generalizing first with
  | nil => simp [intercalate, spaced]
  | cons next rest ih =>
    have further : [' '].intercalate (first :: next :: rest) =
        first ++ ' ' :: [' '].intercalate (next :: rest) := by simp [intercalate]
    rw [further, ih]
    rfl

/-- Trimming takes blank lines away from the end. -/
theorem trimEnd_spaced {rest : List (List Char)} (trimmed : ∀ line ∈ rest, Ended line) :
    trimEnd (spaced rest) = spaced (rest.rdropWhile (· == [])) := by
  induction rest using List.reverseRecOn with
  | nil => rfl
  | append_singleton rest line ih =>
    have earlier := ih fun other member => trimmed other (mem_append_left [line] member)
    have split : spaced (rest ++ [line]) = spaced rest ++ ' ' :: line := by simp [spaced]
    rcases eq_nil_or_concat line with rfl | ⟨front, last, rfl⟩
    · rw [rdropWhile_concat_pos _ _ _ (by simp), ← earlier, split]
      exact rdropWhile_concat_pos isWhitespace _ ' ' (by decide)
    · rw [concat_eq_append] at split trimmed ⊢
      have stays := trimmed _ (mem_append_right rest mem_cons_self) front last rfl
      rw [rdropWhile_concat_neg _ _ _ (by simp), split, ← cons_append, ← append_assoc]
      exact rdropWhile_concat_neg isWhitespace _ last (by simp [stays])

/-! ### Beginnings of joined lines -/

section Beginnings

variable {word next first tail : List Char}

/-- A word does not reach past a space. -/
theorem word_prefix_iff (unspaced : ' ' ∉ word) :
    word <+: first ++ ' ' :: tail ↔ word <+: first := by
  induction word generalizing first with
  | nil => simp
  | cons c word ih =>
    have later : ' ' ∉ word := fun member => unspaced (mem_cons_of_mem c member)
    cases first with
    | nil =>
      have other : c ≠ ' ' := fun same => unspaced (same ▸ mem_cons_self)
      simp [other]
    | cons d first => simp [ih later]

/-- Two words may meet at it. -/
theorem phrase_prefix_iff (unspaced : ' ' ∉ word) (following : ' ' ∉ next) :
    word ++ ' ' :: next <+: first ++ ' ' :: tail ↔
      word ++ ' ' :: next <+: first ∨ first = word ∧ next <+: tail := by
  induction word generalizing first with
  | nil =>
    cases first with
    | nil => simp
    | cons d first => simp [word_prefix_iff following]
  | cons c word ih =>
    have later : ' ' ∉ word := fun member => unspaced (mem_cons_of_mem c member)
    cases first with
    | nil =>
      have other : c ≠ ' ' := fun same => unspaced (same ▸ mem_cons_self)
      simp [other]
    | cons d first => simp [ih later, and_or_left, and_assoc, eq_comm]

/-- A word lies on one side of a space. -/
theorem word_infix_iff (unspaced : ' ' ∉ word) :
    word <:+: first ++ ' ' :: tail ↔ word <:+: first ∨ word <:+: tail := by
  rw [infix_append_iff]
  constructor
  · rintro (inside | behind | ⟨left, right, rfl, ends, starts⟩)
    · exact .inl inside
    · rcases infix_cons_iff.mp behind with starts | later
      · cases word with
        | nil => exact .inl nil_infix
        | cons c word =>
          cases (cons_prefix_cons.mp starts).1
          exact absurd mem_cons_self unspaced
      · exact .inr later
    · cases right with
      | nil => exact .inl (by simpa using ends.isInfix)
      | cons c right =>
        cases (cons_prefix_cons.mp starts).1
        exact absurd (mem_append_right left mem_cons_self) unspaced
  · rintro (inside | behind)
    · exact .inl inside
    · exact .inr (.inl (infix_cons_iff.mpr (.inr behind)))

end Beginnings

/-! ### What the audit looks at -/

/-- The lines that count, without blank ones at the end. -/
def counted (later : List (List Char)) : List (List Char) :=
  ((later.filter fun line => !startsComment line).map trim).rdropWhile (· == [])

/-- Whether a line is a comment does not depend on its trimming. -/
theorem keptLines_eq (text : List Char) :
    (((lines text).map trim).filter fun line =>
      !"--".toList.isPrefixOf line && !"/*".toList.isPrefixOf line) =
    ((lines text).filter fun line => !startsComment line).map trim := by
  rw [filter_map]
  congr 2
  funext line
  have either : ∀ left right : Bool, (!left && !right) = !(left || right) := by decide
  exact either _ _

/-- A text has a first line that counts, or only blank and comment lines. -/
theorem firstLine_or (text : List Char) :
    (∃ first later, FirstLine text first later) ∨
      ∀ line ∈ lines text, trim line = [] ∨ startsComment line = true := by
  have parts := takeWhile_append_dropWhile
    (p := fun line => decide (trim line = [] ∨ startsComment line = true)) (l := lines text)
  have stops := List.head?_dropWhile_not
    (fun line => decide (trim line = [] ∨ startsComment line = true)) (lines text)
  cases rest : (lines text).dropWhile
      fun line => decide (trim line = [] ∨ startsComment line = true) with
  | nil =>
    refine .inr fun line member => ?_
    simpa using dropWhile_eq_nil_iff.mp rest line member
  | cons first later =>
    rw [rest] at parts stops
    have counts : ¬ (trim first = [] ∨ startsComment first = true) := of_decide_eq_false stops
    refine .inl ⟨first, later, _, parts.symm, fun line member => ?_, by simpa using counts⟩
    simpa using mem_takeWhile_imp member

/-- Leading empty lines are trimmed away. -/
theorem trim_blank_lines {blank : List (List Char)} (empty : ∀ line ∈ blank, line = [])
    (others : List (List Char)) :
    trim ([' '].intercalate (blank ++ others)) = trim ([' '].intercalate others) := by
  induction blank with
  | nil => rfl
  | cons line blank ih =>
    have later := ih fun line member => empty line (mem_cons_of_mem _ member)
    rw [cons_append, empty line mem_cons_self, ← later]
    cases blank ++ others with
    | nil => rfl
    | cons next following => rfl

/-- Upper case keeps the spaces between the lines. -/
theorem apply_spaced (upper : UpperCase) (rest : List (List Char)) :
    upper.apply (spaced rest) = spaced (rest.map upper.apply) := by
  have blank : upper.ofChar ' ' = [' '] := upper.white ' ' (by decide)
  induction rest with
  | nil => rfl
  | cons line rest ih =>
    have split : spaced (line :: rest) = ' ' :: line ++ spaced rest := rfl
    rw [split, upper_append, ih, UpperCase.apply, flatMap_cons, blank]
    rfl

section Seen

variable {text first : List Char} {later : List (List Char)}

theorem blank_lead {lead : List (List Char)}
    (blank : ∀ line ∈ lead, trim line = [] ∨ startsComment line = true) :
    ∀ line ∈ (lead.filter fun line => !startsComment line).map trim, line = [] := by
  intro line member
  obtain ⟨written, kept, rfl⟩ := mem_map.mp member
  obtain ⟨listed, counts⟩ := mem_filter.mp kept
  exact (blank written listed).resolve_right (by simpa using counts)

/-- The audit looks at the first line that counts and those behind it. -/
theorem upper_of_firstLine (upper : UpperCase) (auditDelete : Bool)
    (lined : FirstLine text first later) :
    (Auditor.mk upper.apply auditDelete).upper (String.ofList text) =
      upper.apply (trim first) ++ spaced ((counted later).map upper.apply) := by
  obtain ⟨lead, split, blank, nonblank, counts⟩ := lined
  have trimmed : ∀ line ∈ (later.filter fun line => !startsComment line).map trim,
      Ended line := by
    intro line member
    obtain ⟨written, -, rfl⟩ := mem_map.mp member
    exact trim_ended written
  have ending (tail : List Char) : trimEnd (trim first ++ tail) = trim first ++ trimEnd tail := by
    obtain ⟨front, last, same⟩ := (eq_nil_or_concat (trim first)).resolve_left nonblank
    rw [concat_eq_append] at same
    rw [same]
    exact rdropWhile_keep (trim_ended first front last same) front tail
  have start (tail : List Char) : trimStart (trim first ++ tail) = trim first ++ tail := by
    obtain ⟨c, rest, same⟩ := exists_cons_of_ne_nil nonblank
    have solid := trim_head first c (by rw [same]; rfl)
    rw [same, trimStart, cons_append, dropWhile_cons_of_neg (by simp [solid])]
  simp only [Auditor.upper, String.toList_ofList]
  rw [keptLines_eq, split, filter_append, map_append, filter_cons_of_pos (by simpa using counts),
    map_cons, trim_blank_lines (blank_lead blank), intercalate_cons, trim, start, ending,
    trimEnd_spaced trimmed, upper_append, apply_spaced]
  rfl

/-- A text without code becomes empty. -/
theorem upper_of_blank (upper : UpperCase) (auditDelete : Bool)
    (blank : ∀ line ∈ lines text, trim line = [] ∨ startsComment line = true) :
    (Auditor.mk upper.apply auditDelete).upper (String.ofList text) = [] := by
  simp only [Auditor.upper, String.toList_ofList]
  rw [keptLines_eq, ← append_nil (map trim _), trim_blank_lines (blank_lead blank)]
  rfl

variable {upper : UpperCase} {word next : List Char}

/-- A leading word lies on the first line. -/
theorem word_seen_iff (unspaced : ' ' ∉ word) :
    word <+: upper.apply (trim first) ++ spaced ((counted later).map upper.apply) ↔
      word <+: upper.apply (trim first) := by
  cases counted later with
  | nil => simp [spaced]
  | cons line rest => exact word_prefix_iff unspaced

/-- Some line with code follows. -/
theorem counted_ne_nil_iff : counted later ≠ [] ↔
    ∃ line ∈ later, trim line ≠ [] ∧ startsComment line = false := by
  rw [counted, ne_eq, rdropWhile_eq_nil_iff, not_forall]
  simp only [mem_map, mem_filter, beq_iff_eq, Bool.not_eq_true', Classical.not_imp]
  constructor
  · rintro ⟨_, ⟨line, ⟨member, counts⟩, rfl⟩, nonblank⟩
    exact ⟨line, member, nonblank, counts⟩
  · rintro ⟨line, member, nonblank, counts⟩
    exact ⟨_, ⟨line, ⟨member, counts⟩, rfl⟩, nonblank⟩

/-- A leading word with a space after it. -/
theorem spaced_seen_iff (unspaced : ' ' ∉ word) :
    word ++ [' '] <+: upper.apply (trim first) ++ spaced ((counted later).map upper.apply) ↔
      word ++ [' '] <+: upper.apply (trim first) ∨
        upper.apply (trim first) = word ∧
          ∃ line ∈ later, trim line ≠ [] ∧ startsComment line = false := by
  rw [← counted_ne_nil_iff]
  cases counted later with
  | nil => simp [spaced]
  | cons line rest =>
    refine (phrase_prefix_iff unspaced (by simp)).trans ?_
    simp

/-- The next line that counts comes first among those that do. -/
theorem nextLine_iff (second : List Char) :
    NextLine later second ↔ (later.filter fun line => !startsComment line).head? = some second := by
  rw [head?_filter, find?_eq_some_iff_append]
  simp only [NextLine, Bool.not_not]
  constructor
  · rintro ⟨comments, rest, split, hidden, counts⟩
    exact ⟨by simpa using counts, comments, rest, split, by simpa using hidden⟩
  · rintro ⟨counts, comments, rest, split, hidden⟩
    exact ⟨comments, rest, split, by simpa using hidden, by simpa using counts⟩

theorem counted_cons_iff (nonempty : next ≠ []) :
    (∃ line rest, counted later = line :: rest ∧ next <+: upper.apply line) ↔
      ∃ second, NextLine later second ∧ next <+: upper.apply (trim second) := by
  simp only [nextLine_iff]
  cases kept : later.filter fun line => !startsComment line with
  | nil => simp [counted, kept]
  | cons second rest =>
    by_cases blank : trim second = []
    · have none : ¬ next <+: upper.apply (trim second) := by simpa [blank, UpperCase.apply]
      obtain ⟨dropped, split⟩ : counted later <+: (second :: rest).map trim := by
        rw [counted, kept]
        exact rdropWhile_prefix _ _
      refine iff_of_false ?_ (by simpa using none)
      rintro ⟨line, others, same, starts⟩
      rw [same, map_cons, cons_append] at split
      exact none (head_eq_of_cons_eq split ▸ starts)
    · have cut : counted later = trim second :: (rest.map trim).rdropWhile (· == []) := by
        rw [counted, kept]
        exact rdropWhile_keep (by simpa using blank) [] (rest.map trim)
      simp [cut]

/-- A leading phrase, perhaps broken over two lines. -/
theorem phrase_seen_iff (unspaced : ' ' ∉ word) (following : ' ' ∉ next) (nonempty : next ≠ []) :
    word ++ ' ' :: next <+: upper.apply (trim first) ++ spaced ((counted later).map upper.apply) ↔
      word ++ ' ' :: next <+: upper.apply (trim first) ∨
        upper.apply (trim first) = word ∧
          ∃ second, NextLine later second ∧ next <+: upper.apply (trim second) := by
  rw [← counted_cons_iff nonempty]
  cases counted later with
  | nil => simp [spaced]
  | cons line rest =>
    have further : next <+: upper.apply line ++ spaced (rest.map upper.apply) ↔
        next <+: upper.apply line := by
      cases rest with
      | nil => simp [spaced]
      | cons other rest => exact word_prefix_iff following
    refine (phrase_prefix_iff unspaced following).trans (or_congr_right (and_congr_right' ?_))
    refine further.trans ?_
    simp

/-- A word lies on one of the joined lines. -/
theorem infix_spaced_iff (unspaced : ' ' ∉ word) (text : List Char)
    (rest : List (List Char)) :
    word <:+: text ++ spaced rest ↔ word <:+: text ∨ ∃ line ∈ rest, word <:+: line := by
  induction rest generalizing text with
  | nil => simp [spaced]
  | cons line rest ih =>
    have split : text ++ spaced (line :: rest) = text ++ ' ' :: (line ++ spaced rest) := rfl
    rw [split, word_infix_iff unspaced, ih]
    simp

theorem mentions_iff (lined : FirstLine text first later) (unspaced : ' ' ∉ word)
    (nonempty : word ≠ []) :
    word <:+: upper.apply (trim first) ++ spaced ((counted later).map upper.apply) ↔
      Mentions upper text word := by
  obtain ⟨lead, split, blank, -, counts⟩ := lined
  have empty : ¬ word <:+: upper.apply [] := by simpa [UpperCase.apply] using nonempty
  rw [infix_spaced_iff unspaced, Mentions, split]
  constructor
  · rintro (here | ⟨line, member, inside⟩)
    · exact ⟨first, by simp, counts, here⟩
    · obtain ⟨kept, among, rfl⟩ := mem_map.mp member
      have among := Sublist.subset (IsPrefix.sublist <| rdropWhile_prefix _ _) among
      obtain ⟨written, counting, rfl⟩ := mem_map.mp among
      obtain ⟨listed, uncommented⟩ := mem_filter.mp counting
      exact ⟨written, by simp [listed], by simpa using uncommented, inside⟩
  · rintro ⟨line, member, uncommented, inside⟩
    have nonblank : trim line ≠ [] := fun same => empty (same ▸ inside)
    rcases mem_append.mp member with early | late
    · exact absurd (blank line early) (not_or.mpr ⟨nonblank, by simp [uncommented]⟩)
    rcases mem_cons.mp late with rfl | behind
    · exact .inl inside
    · refine .inr ⟨_, mem_map_of_mem ?_, inside⟩
      have kept : trim line ∈ (later.filter fun line => !startsComment line).map trim :=
        mem_map_of_mem (mem_filter.mpr ⟨behind, by simpa using uncommented⟩)
      have parts := rdropWhile_append_rtakeWhile (p := (· == []))
        (l := (later.filter fun line => !startsComment line).map trim)
      rw [← parts] at kept
      rcases mem_append.mp kept with among | dropped
      · exact among
      · exact absurd (by simpa using mem_rtakeWhile_imp dropped) nonblank

/-- What holds of the text that is looked at holds of the first line that counts. -/
theorem seen_iff (auditDelete : Bool) {holds : List Char → Prop}
    {opens : List Char → List (List Char) → Prop} (empty : ¬ holds [])
    (each : ∀ first later, holds (upper.apply (trim first) ++
      spaced ((counted later).map upper.apply)) ↔ opens first later) :
    holds ((Auditor.mk upper.apply auditDelete).upper (String.ofList text)) ↔
      ∃ first later, FirstLine text first later ∧ opens first later := by
  constructor
  · intro seen
    rcases firstLine_or text with ⟨first, later, lined⟩ | blank
    · rw [upper_of_firstLine upper auditDelete lined] at seen
      exact ⟨first, later, lined, (each first later).mp seen⟩
    · rw [upper_of_blank upper auditDelete blank] at seen
      exact absurd seen empty
  · rintro ⟨first, later, lined, starts⟩
    rw [upper_of_firstLine upper auditDelete lined]
    exact (each first later).mpr starts

theorem mentions_seen_iff (auditDelete : Bool) (unspaced : ' ' ∉ word) (nonempty : word ≠ []) :
    word <:+: (Auditor.mk upper.apply auditDelete).upper (String.ofList text) ↔
      Mentions upper text word := by
  rcases firstLine_or text with ⟨first, later, lined⟩ | blank
  · rw [upper_of_firstLine upper auditDelete lined]
    exact mentions_iff lined unspaced nonempty
  · rw [upper_of_blank upper auditDelete blank, infix_nil]
    refine iff_of_false nonempty ?_
    rintro ⟨line, member, uncommented, inside⟩
    have same := (blank line member).resolve_right (by simp [uncommented])
    rw [same] at inside
    exact nonempty (infix_nil.mp inside)

end Seen

/-- The phrases of statements on users and rights. -/
def permissionPhrases : List (String × String) :=
  [("CREATE", "ROLE"), ("CREATE", "USER"), ("DROP", "ROLE"), ("DROP", "USER"), ("ALTER", "ROLE"),
    ("ALTER", "USER")]

end PgVisor.SqlAudit
