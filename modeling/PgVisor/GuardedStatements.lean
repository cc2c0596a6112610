import PgVisor.SqlGuard
import PgVisor.SqlStatements

/-!
# Statements that the guard accepts

What the backend makes of a statement that the read-only guard has let through. It is a single
statement with no modifying keyword in front. It may still write: a keyword with a tab, a line
break or a form feed behind it passes the search, and so do a keyword that no white space
follows, and the keyword of a merge, which the search does not know.
-/

namespace PgVisor.SqlGuard

open Text SqlTokens
open List hiding contains

variable {upper : UpperCase} {sql out : List Char}

/-! ### The first word -/

/-- The backend's first word begins as one of the allowed words does, or with a character that
no keyword has. -/
theorem first_letter (allowed : String.ofList (firstWord (upper.apply out)) ∈ allowedPrefixes) :
    ∃ c rest, tokens out = tokens (c :: rest) ∧ startsWord c = true ∧
      (c :: rest.takeWhile continuesWord ≠ ['e'] ∧ c :: rest.takeWhile continuesWord ≠ ['E']) ∧
      (128 ≤ c.toNat ∨ asciiUpper c ∈ ['S', 'E', 'W']) := by
  have shape : ∀ keyword ∈ allowedPrefixes, ∃ first second others,
      keyword.toList = first :: second :: others ∧ first ∈ ['S', 'E', 'W'] ∧
        first.isUpper = true ∧ second.isUpper = true := by
    intro keyword member
    simp only [allowedPrefixes, mem_cons, not_mem_nil, or_false] at member
    rcases member with rfl | rfl | rfl | rfl
    · exact ⟨'S', 'E', "LECT".toList, by decide⟩
    · exact ⟨'S', 'H', "OW".toList, by decide⟩
    · exact ⟨'E', 'X', "PLAIN".toList, by decide⟩
    · exact ⟨'W', 'I', "TH".toList, by decide⟩
  induction out with
  | nil =>
    have none : firstWord (upper.apply []) = [] := rfl
    rw [none] at allowed
    exact absurd allowed (by decide)
  | cons c rest ih =>
    by_cases wide : 128 ≤ c.toNat
    · have other : ∀ mark : Char, mark.toNat < 128 →
          c :: rest.takeWhile continuesWord ≠ [mark] := by
        rintro mark narrow same
        cases head_eq_of_cons_eq same
        omega
      exact ⟨c, rest, rfl, startsWord_wide wide,
        ⟨other 'e' (by decide), other 'E' (by decide)⟩, .inl wide⟩
    have text : ∀ d more, ¬ 128 ≤ d.toNat →
        upper.apply (d :: more) = asciiUpper d :: upper.apply more := by
      intro d more narrow
      rw [UpperCase.apply, flatMap_cons, upper.ascii d (by omega)]
      rfl
    rw [text c rest wide] at allowed
    by_cases white : isWhitespace c = true
    · have blank : isSpace c = true := by
        rcases whitespace_spaces white with space | high
        · exact space
        · exact absurd high wide
      have same : firstWord (asciiUpper c :: upper.apply rest) = firstWord (upper.apply rest) := by
        simp [firstWord, trimStart, whitespace_upper, white]
      rw [same] at allowed
      have skipped : tokens (c :: rest) = tokens rest :=
        tokensFrom_spaces [c] rest (by simpa using blank)
      rw [skipped]
      exact ih allowed
    · have word : firstWord (asciiUpper c :: upper.apply rest) =
          asciiUpper c :: (upper.apply rest).takeWhile (fun d => !isWhitespace d) := by
        simp [firstWord, trimStart, whitespace_upper, white]
      obtain ⟨first, second, others, spelled, initial, upperFirst, upperSecond⟩ := shape _ allowed
      rw [word, String.toList_ofList] at spelled
      obtain ⟨same, run⟩ := cons_eq_cons.mp spelled
      subst same
      refine ⟨c, rest, rfl, startsWord_of_upper upperFirst, ?_, .inr initial⟩
      -- the second letter goes on with the word, so that it is no mark of a string
      cases rest with
      | nil => cases run
      | cons d more =>
        have continues : continuesWord d = true := by
          by_cases wideNext : 128 ≤ d.toNat
          · exact startsWord_continues (startsWord_wide wideNext)
          rw [text d more wideNext, takeWhile_cons] at run
          split at run
          · obtain ⟨next, -⟩ := cons_eq_cons.mp run
            subst next
            exact startsWord_continues (startsWord_of_upper upperSecond)
          · cases run
        rw [takeWhile_cons_of_pos continues]
        simp

/-- The backend reads an accepted statement as one, with none of the modifying keywords in front. -/
theorem accepted_leads {sql} (accepted : validateReadOnly upper sql = .ok out) :
    statements out = [tokens out] ∧ leads modificationWords (tokens out) = false := by
  obtain ⟨-, single, allowed, -⟩ := accepted_iff.mp accepted
  obtain ⟨c, rest, same, starts, mark, initial⟩ := first_letter allowed
  constructor
  · apply splitFrom_single 0 _
    intro member
    exact single (symbol_stands .between out (by decide) member)
  · obtain ⟨later, read⟩ := tokens_word starts mark
    rw [same, read, Bool.eq_false_iff]
    intro leading
    obtain ⟨keyword, listed, spelled⟩ := (leads_word _ _ _).mp leading
    have table : ∀ keyword ∈ modificationWords, keyword.toList.head?.all
        (fun d => decide (d.toNat < 128 ∧ d ∉ ['S', 'E', 'W'])) = true := by
      decide
    have head : keyword.toList.head? = some (asciiUpper c) := by
      rw [← spelled]
      rfl
    have initials := table keyword listed
    rw [head] at initials
    obtain ⟨narrow, other⟩ := of_decide_eq_true initials
    rcases initial with wide | letter
    · exact absurd (ascii_upper_ascii narrow) (Nat.not_lt.mpr wide)
    · exact other letter

/-! ### Keywords that the search misses -/

/-- A keyword that writes and that the search for keywords with white space does not find: one
that no white space follows, or that of a merge. -/
def MissedVerb (statement : List Char) : Prop :=
  ∃ before word after, statement = before ++ word ++ after ∧ Stands before word ∧
    (toAsciiUppercase word = "MERGE".toList ∨
      (∃ keyword ∈ ["CREATE", "INSERT", "UPDATE", "DELETE", "INTO"],
        toAsciiUppercase word = keyword.toList) ∧ ∀ c ∈ after.head?, c ∉ sqlSpaces)

/-- A keyword among the tokens of an accepted statement that has neither a space behind it nor,
if it is forbidden, other white space. -/
theorem missed_verb {keyword : String} (accepted : validateReadOnly upper sql = .ok out)
    (free : FreeOf ['\t', '\n', '\r', '\x0c'] out)
    (listed : keyword ∈ ["CREATE", "INSERT", "UPDATE", "DELETE", "INTO"])
    (has : HasWord [keyword] (tokens out))
    (forbidden : ∀ word, toAsciiUppercase word = keyword.toList → Forbidden out word) :
    MissedVerb out := by
  obtain ⟨word, member, spelling, single, spelled⟩ := has
  cases mem_singleton.mp single
  obtain ⟨before, after, split, stands, -⟩ := word_stands out word member
  refine ⟨before, word, after, split, stands, .inr ⟨⟨keyword, listed, spelled⟩, ?_⟩⟩
  intro c next space
  obtain ⟨rest, rfl⟩ := head?_eq_some_iff.mp next
  rcases mem_cons.mp space with rfl | other
  · exact accepted_free_of_space accepted before word ' ' rest split stands mem_cons_self
      (forbidden word spelled)
  · exact free before word c rest split stands other (forbidden word spelled)

/-- A statement that the guard lets through and that writes has a keyword which the search
misses. -/
theorem missed_of_writes (accepted : validateReadOnly upper sql = .ok out)
    (free : FreeOf ['\t', '\n', '\r', '\x0c'] out) (writes : writesInQuery (tokens out) = true) :
    MissedVerb out := by
  rcases writesInQuery_hasWord writes with ⟨word, member, keyword, listed, spelled⟩ |
    ⟨⟨word, member, select, single, spelled⟩, into⟩
  · have known : keyword = "MERGE" ∨ keyword ∈ ["CREATE", "INSERT", "UPDATE", "DELETE"] := by
      have table : ∀ keyword ∈ "CREATE" :: manipulationWords,
          keyword = "MERGE" ∨ keyword ∈ ["CREATE", "INSERT", "UPDATE", "DELETE"] := by
        decide
      exact table keyword listed
    rcases known with rfl | verb
    · obtain ⟨before, after, split, stands, -⟩ := word_stands out word member
      exact ⟨before, word, after, split, stands, .inl spelled⟩
    · have guarded : ∀ keyword ∈ ["CREATE", "INSERT", "UPDATE", "DELETE"],
          keyword ∈ mutationKeywords := by
        decide
      apply missed_verb accepted free (mem_append_left ["INTO"] verb)
      · exact ⟨word, member, keyword, mem_singleton_self keyword, spelled⟩
      · exact fun other same => .inl ⟨keyword, guarded keyword verb, same⟩
  · cases mem_singleton.mp single
    obtain ⟨before, after, split, stands, ends⟩ := word_stands out word member
    apply missed_verb accepted free (by decide) into
    exact fun other same => .inr ⟨same, before, word, after, split, stands, spelled, ends⟩

/-- A text that writes and evades the guard: without comments and semicolons at its end it is a
single statement, begins with an allowed word, and has nowhere one of the keywords with a space
behind it, nor `INTO` with a space if it mentions SELECT. -/
structure Evades (upper : UpperCase) (sql : List Char) : Prop where
  writes : writesInQuery (tokens (statementOf sql)) = true
  single : ';' ∉ statementOf sql
  allowed : ∃ keyword ∈ allowedPrefixes,
    upper.apply (firstWord (statementOf sql)) = keyword.toList
  unspaced : ∀ keyword ∈ mutationKeywords,
    ¬ keyword.toList ++ [' '] <:+: upper.apply (statementOf sql)
  clause : "INTO".toList ++ [' '] <:+: upper.apply (statementOf sql) →
    ¬ "SELECT".toList <:+: upper.apply (statementOf sql)

/-- The guard accepts a statement that writes exactly if the text evades it. -/
theorem accepted_writes_iff : (∃ out, validateReadOnly upper sql = .ok out ∧
    writesInQuery (tokens out) = true) ↔ Evades upper sql := by
  have word : String.ofList (firstWord (upper.apply (statementOf sql))) ∈ allowedPrefixes ↔
      ∃ keyword ∈ allowedPrefixes,
        upper.apply (firstWord (statementOf sql)) = keyword.toList := by
    rw [firstWord_apply]
    constructor
    · exact fun allowed => ⟨_, allowed, String.toList_ofList.symm⟩
    · rintro ⟨keyword, allowed, same⟩
      rwa [same, String.ofList_toList]
  simp only [accepted_iff, forbiddenKeyword_none_iff]
  constructor
  · rintro ⟨out, ⟨rfl, single, allowed, unspaced, clause⟩, writes⟩
    exact ⟨writes, single, word.mp allowed, unspaced, clause⟩
  · intro evades
    exact ⟨_, ⟨rfl, evades.single, word.mpr evades.allowed, evades.unspaced, evades.clause⟩,
      evades.writes⟩

end PgVisor.SqlGuard
