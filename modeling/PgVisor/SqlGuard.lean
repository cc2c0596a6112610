import PgVisor.SqlTokens

/-!
# The dashboard's SQL guard

`validateReadOnly` strips comments, trims, allows one statement that begins with
SELECT, SHOW, EXPLAIN or WITH, and searches the upper-cased text for forbidden
keywords, each spelled with one space behind it. What it should keep out is defined
by tokens: a forbidden keyword that stands by itself outside string literals and
quoted identifiers, whatever white space follows it.

Upper-casing beyond ASCII is Unicode's character mapping; only its values on ASCII and
on white space are used. Limits on time and rows belong to the execution of an accepted
statement and are left out.
-/

namespace PgVisor.SqlGuard

open Text SqlTokens
open List hiding contains

inductive SecurityError where
  | mutationForbidden (message : String)
  | multiStatementForbidden (message : String)
  | emptyQuery
deriving DecidableEq

def SecurityError.message : SecurityError → String
  | .mutationForbidden detail =>
    "Mutating SQL statement forbidden in dashboard read-only console: " ++ detail
  | .multiStatementForbidden detail => "Multi-statement SQL queries are forbidden: " ++ detail
  | .emptyQuery => "Empty SQL query"

/-- Where the comment stripper stands. -/
inductive CommentState where
  | code
  | line
  | block
deriving DecidableEq

def stripFrom : CommentState → List Char → List Char
  | .line, '\n' :: rest => ' ' :: stripFrom .code rest
  | .line, _ :: rest => stripFrom .line rest
  | .block, '*' :: '/' :: rest => ' ' :: stripFrom .code rest
  | .block, _ :: rest => stripFrom .block rest
  | .code, '-' :: '-' :: rest => stripFrom .line rest
  | .code, '/' :: '*' :: rest => stripFrom .block rest
  | .code, c :: rest => c :: stripFrom .code rest
  | _, [] => []

/-- Remove comments, leaving a space where one ended. Quotes are not respected. -/
def stripComments (sql : List Char) : List Char := stripFrom .code sql

/-- `str::to_uppercase`, character by character. White space has no other case, and no other
character becomes white space or nothing. -/
structure UpperCase where
  ofChar : Char → List Char
  ascii : ∀ c, c.toNat < 128 → ofChar c = [asciiUpper c]
  white : ∀ c, isWhitespace c = true → ofChar c = [c]
  solid : ∀ c, isWhitespace c = false →
    ofChar c ≠ [] ∧ ∀ d ∈ ofChar c, isWhitespace d = false

def UpperCase.apply (upper : UpperCase) (text : List Char) : List Char :=
  text.flatMap upper.ofChar

/-- The statement that is examined and, if accepted, executed. -/
def statementOf (sql : List Char) : List Char :=
  trim (trimEndMatches (· == ';') (trim (stripComments sql)))

def allowedPrefixes : List String := ["SELECT", "SHOW", "EXPLAIN", "WITH"]

/-- Keywords that are rejected wherever they occur with a space behind them. -/
def mutationKeywords : List String :=
  ["INSERT", "UPDATE", "DELETE", "DROP", "ALTER", "CREATE", "TRUNCATE", "GRANT", "REVOKE",
    "VACUUM", "CALL", "DO", "COPY"]

/-- The first forbidden keyword the upper-cased text contains, `INTO` last and only
beside a SELECT. -/
def forbiddenKeyword (upper : List Char) : Option String :=
  match mutationKeywords.find? fun keyword => contains (keyword.toList ++ [' ']) upper with
  | some keyword => some ("Forbidden mutating keyword '" ++ keyword ++ "' detected")
  | none =>
    if contains ("INTO".toList ++ [' ']) upper && contains "SELECT".toList upper &&
        contains "INTO".toList upper then
      some "SELECT INTO is forbidden (creates a table)"
    else none

/-- Accept a single read-only statement. -/
def validateReadOnly (upper : UpperCase) (sql : List Char) : Except SecurityError (List Char) :=
  let trimmed := trim (stripComments sql)
  if trimmed = [] then .error .emptyQuery
  else
    let statement := statementOf sql
    if statement.contains ';' then
      .error (.multiStatementForbidden "Multiple statements separated by semicolon are disallowed")
    else
      let text := upper.apply statement
      let word := String.ofList (firstWord text)
      if word ∉ allowedPrefixes then
        .error (.mutationForbidden ("Statement beginning with '" ++ word ++ "' is not permitted"))
      else
        match forbiddenKeyword text with
        | some message => .error (.mutationForbidden message)
        | none => .ok statement

/-- The guard's entry point: a guard that allows mutations only refuses empty input. -/
def validateSql (upper : UpperCase) (allowMutations : Bool) (sql : List Char) :
    Except SecurityError (List Char) :=
  let trimmed := trim (stripComments sql)
  if trimmed = [] then .error .emptyQuery
  else if !allowMutations then validateReadOnly upper sql
  else .ok trimmed

variable {word keyword text sql out : List Char} {upper : UpperCase}

/-! ### Comments -/

/-- No comment of either kind begins in the text. -/
def CommentFree (text : List Char) : Prop :=
  ¬ ['-', '-'] <:+: text ∧ ¬ ['/', '*'] <:+: text

theorem CommentFree.of_part {part : List Char} (free : CommentFree text) (inside : part <:+: text) :
    CommentFree part :=
  ⟨fun found => free.1 (found.trans inside), fun found => free.2 (found.trans inside)⟩

theorem commentFree_cons (c : Char) : CommentFree (c :: text) ↔
    ¬ (c = '-' ∧ text.head? = some '-') ∧ ¬ (c = '/' ∧ text.head? = some '*') ∧
      CommentFree text := by
  simp only [CommentFree, infix_cons_iff]
  cases text <;> simp only [cons_prefix_cons] <;> grind

/-- What the stripper puts out first is a space, or stands first in the code. -/
theorem stripFrom_head (state : CommentState) {c : Char}
    (first : (stripFrom state text).head? = some c) :
    c = ' ' ∨ state = .code ∧ text.head? = some c := by
  fun_induction stripFrom state text with
  | case1 | case3 => exact .inl (Option.some.inj first).symm
  | _ => simp_all

/-- Two characters that open a comment never meet: where one was removed a space stands, and
characters of the code that come together stood together. -/
theorem stripFrom_free (state : CommentState) (text : List Char) :
    CommentFree (stripFrom state text) := by
  fun_induction stripFrom state text with
  | case1 rest ih | case3 rest ih => exact (commentFree_cons ' ').2 ⟨by simp, by simp, ih⟩
  | case2 | case4 | case5 | case6 => assumption
  | case8 => simp [CommentFree]
  | case7 c rest lineless blockless ih =>
    refine (commentFree_cons c).2 ⟨?_, ?_, ih⟩
    all_goals
      rintro ⟨rfl, first⟩
      obtain space | ⟨-, next⟩ := stripFrom_head _ first
      · cases space
      · obtain ⟨rest, rfl⟩ := head?_eq_some_iff.1 next
        first | exact lineless _ rfl rfl | exact blockless _ rfl rfl

theorem stripFrom_of_free (free : CommentFree text) : stripFrom .code text = text := by
  induction text with
  | nil => rfl
  | cons c rest ih =>
    obtain ⟨lineless, blockless, later⟩ := (commentFree_cons c).1 free
    rw [stripFrom, ih later] <;> rintro _ rfl rfl
    · exact lineless ⟨rfl, rfl⟩
    · exact blockless ⟨rfl, rfl⟩

/-! ### Tokens -/

/-- SQL white space. -/
def sqlSpaces : List Char := [' ', '\t', '\n', '\r', '\x0c']

/-- The statement holds SELECT as a token. -/
def HasSelect (statement : List Char) : Prop :=
  ∃ before word after, statement = before ++ word ++ after ∧ Stands before word ∧
    toAsciiUppercase word = "SELECT".toList ∧ ∀ c ∈ after.head?, continuesWord c = false

/-- The word is a keyword a read-only statement must not contain. -/
def Forbidden (statement word : List Char) : Prop :=
  (∃ keyword ∈ mutationKeywords, toAsciiUppercase word = keyword.toList) ∨
    (toAsciiUppercase word = "INTO".toList ∧ HasSelect statement)

/-- No forbidden keyword stands as a token in front of one of the given characters. -/
def FreeOf (spaces statement : List Char) : Prop :=
  ∀ before word c after, statement = before ++ word ++ c :: after → Stands before word →
    c ∈ spaces → ¬ Forbidden statement word

/-! ### What the guard rejects -/

theorem upper_append (upper : UpperCase) (first second : List Char) :
    upper.apply (first ++ second) = upper.apply first ++ upper.apply second := by
  simp [UpperCase.apply]

/-- Upper-casing leaves the first word where it is. -/
theorem firstWord_apply (upper : UpperCase) (text : List Char) :
    firstWord (upper.apply text) = upper.apply (firstWord text) := by
  have trimmed : trimStart (upper.apply text) = upper.apply (trimStart text) := by
    induction text with
    | nil => rfl
    | cons c rest ih =>
      have split : upper.apply (c :: rest) = upper.ofChar c ++ upper.apply rest := rfl
      cases white : isWhitespace c with
      | true =>
        rw [split, upper.white c white, trimStart, trimStart, singleton_append,
          dropWhile_cons_of_pos white, dropWhile_cons_of_pos white]
        exact ih
      | false =>
        obtain ⟨some_left, solid⟩ := upper.solid c white
        obtain ⟨d, others, same⟩ := exists_cons_of_ne_nil some_left
        have kept : isWhitespace d = false := solid d (by simp [same])
        have stays : trimStart (c :: rest) = c :: rest := by simp [trimStart, white]
        rw [stays, split, same, trimStart, cons_append, dropWhile_cons_of_neg (by simp [kept])]
  rw [firstWord, firstWord, trimmed]
  generalize trimStart text = body
  induction body with
  | nil => rfl
  | cons c rest ih =>
    have split : upper.apply (c :: rest) = upper.ofChar c ++ upper.apply rest := rfl
    cases white : isWhitespace c with
    | true => simp [upper.white c white, white, UpperCase.apply]
    | false =>
      have inside : ∀ d ∈ upper.ofChar c, (!isWhitespace d) = true := by
        intro d member
        simp [(upper.solid c white).2 d member]
      rw [split, takeWhile_append_of_pos inside, ih, takeWhile_cons_of_pos (by simp [white])]
      rfl

/-- A word whose ASCII upper case is ASCII has no other upper case. -/
theorem upper_word (upper : UpperCase)
    (spelled : toAsciiUppercase word = keyword) (ascii : ∀ c ∈ keyword, c.toNat < 128) :
    upper.apply word = keyword := by
  subst spelled
  induction word with
  | nil => rfl
  | cons c rest ih =>
    have here : (asciiUpper c).toNat < 128 := ascii _ (by simp [toAsciiUppercase])
    have later : upper.apply rest = toAsciiUppercase rest := by
      apply ih
      intro other member
      exact ascii other (by simpa [toAsciiUppercase] using Or.inr member)
    have single : upper.ofChar c = [asciiUpper c] := upper.ascii c (ascii_upper_ascii here)
    calc upper.apply (c :: rest) = upper.ofChar c ++ upper.apply rest := rfl
      _ = asciiUpper c :: toAsciiUppercase rest := by rw [single, later]; rfl

/-- A keyword of the statement is found in its upper-cased text. -/
theorem upper_contains (upper : UpperCase) (before after : List Char)
    (spelled : toAsciiUppercase word = keyword) (ascii : ∀ c ∈ keyword, c.toNat < 128) :
    keyword <:+: upper.apply (before ++ word ++ after) := by
  rw [upper_append, upper_append, upper_word upper spelled ascii]
  exact infix_append _ _ _

/-- A space behind the keyword is found with it. -/
theorem upper_contains_space (upper : UpperCase)
    (before after : List Char) (spelled : toAsciiUppercase word = keyword)
    (ascii : ∀ c ∈ keyword, c.toNat < 128) :
    keyword ++ [' '] <:+: upper.apply (before ++ word ++ ' ' :: after) := by
  have widened : toAsciiUppercase (word ++ [' ']) = keyword ++ [' '] := by
    rw [← spelled]
    simp [toAsciiUppercase, asciiUpper]
  have found := upper_contains upper before after widened (by
    intro c member
    rcases mem_append.mp member with old | space
    · exact ascii c old
    · rw [mem_singleton.mp space]
      decide)
  simpa only [append_assoc, cons_append, nil_append] using found

/-- The search finds nothing exactly if no keyword has a space behind it, and `INTO` none beside a
SELECT. -/
theorem forbiddenKeyword_none_iff : forbiddenKeyword text = none ↔
    (∀ keyword ∈ mutationKeywords, ¬ keyword.toList ++ [' '] <:+: text) ∧
      ("INTO".toList ++ [' '] <:+: text → ¬ "SELECT".toList <:+: text) := by
  have bare : "INTO".toList ++ [' '] <:+: text → "INTO".toList <:+: text :=
    (infix_append [] "INTO".toList [' ']).trans
  unfold forbiddenKeyword
  split
  next keyword found =>
    refine iff_of_false (by simp) fun absent => ?_
    have contained : contains (keyword.toList ++ [' ']) text = true := by
      simpa using find?_some found
    exact absent.1 keyword (mem_of_find?_eq_some found) ((Text.contains_iff _ _).mp contained)
  next unfound =>
    have absent : ∀ keyword ∈ mutationKeywords, ¬ keyword.toList ++ [' '] <:+: text := by
      intro keyword member found
      exact List.find?_eq_none.mp unfound keyword member ((Text.contains_iff _ _).mpr found)
    simp only [Bool.and_eq_true, Text.contains_iff, ite_eq_right_iff, reduceCtorEq, imp_false]
    constructor
    · intro noInto
      exact ⟨absent, fun into select => noInto ⟨⟨into, select⟩, bare into⟩⟩
    · rintro ⟨-, noInto⟩ ⟨⟨into, select⟩, -⟩
      exact noInto into select

/-- A statement is accepted exactly if it is the examined one, single, begins with an allowed word
and passes the search. -/
theorem accepted_iff : validateReadOnly upper sql = .ok out ↔
    out = statementOf sql ∧ ';' ∉ out ∧
      String.ofList (firstWord (upper.apply out)) ∈ allowedPrefixes ∧
      forbiddenKeyword (upper.apply out) = none := by
  constructor
  · intro accepted
    simp only [validateReadOnly] at accepted
    split at accepted
    · cases accepted
    split at accepted
    · cases accepted
    split at accepted
    · cases accepted
    split at accepted
    · cases accepted
    · rename_i single allowed _ passed
      cases accepted
      exact ⟨rfl, by simpa using single, by simpa using allowed, passed⟩
  · rintro ⟨rfl, single, allowed, passed⟩
    have nonempty : trim (stripComments sql) ≠ [] := by
      intro empty
      rw [statementOf, empty] at allowed
      have none : firstWord (upper.apply (trim (trimEndMatches (· == ';') []))) = [] := rfl
      rw [none] at allowed
      exact absurd allowed (by decide)
    simp [validateReadOnly, nonempty, single, allowed, passed]

theorem ascii_of_all (all : text.all (fun c => decide (c.toNat < 128)) = true) :
    ∀ c ∈ text, c.toNat < 128 := by
  intro c member
  exact of_decide_eq_true (all_eq_true.mp all c member)

theorem mutation_keywords_ascii :
    ∀ keyword ∈ mutationKeywords, ∀ c ∈ keyword.toList, c.toNat < 128 := by
  have table : mutationKeywords.all
      (fun keyword => keyword.toList.all fun c => decide (c.toNat < 128)) = true := by decide
  intro keyword member
  exact ascii_of_all (all_eq_true.mp table keyword member)

/-- The search finds every forbidden keyword that has a space behind it. -/
theorem accepted_free_of_space (accepted : validateReadOnly upper sql = .ok out) :
    FreeOf [' '] out := by
  obtain ⟨-, -, -, passed⟩ := accepted_iff.mp accepted
  obtain ⟨mutations, into⟩ := forbiddenKeyword_none_iff.mp passed
  intro before word c after split _ space forbidden
  obtain rfl := mem_singleton.mp space
  rcases forbidden with ⟨keyword, member, spelled⟩ | ⟨spelled, select⟩
  · apply mutations keyword member
    rw [split]
    exact upper_contains_space upper before after spelled (mutation_keywords_ascii keyword member)
  · apply into
    · rw [split]
      exact upper_contains_space upper before after spelled (ascii_of_all (by decide))
    · obtain ⟨left, select, right, found, -, spelledSelect, -⟩ := select
      rw [found]
      exact upper_contains upper left right spelledSelect (ascii_of_all (by decide))

theorem asciiUpper_white {c : Char} (white : isWhitespace c = true) : [asciiUpper c] = [c] := by
  have small : ¬ ('a' ≤ c ∧ c ≤ 'z') := by
    rintro ⟨low, high⟩
    have above : 97 ≤ c.toNat := low
    have below : c.toNat ≤ 122 := high
    simp [isWhitespace] at white
    omega
  rw [asciiUpper, if_neg small]

theorem asciiUpper_solid {c : Char} (solid : isWhitespace c = false) :
    [asciiUpper c] ≠ [] ∧ ∀ d ∈ [asciiUpper c], isWhitespace d = false :=
  ⟨cons_ne_nil _ _, by simp [whitespace_upper, solid]⟩

/-- Upper-casing of ASCII letters alone. -/
def asciiUpperCase : UpperCase where
  ofChar c := [asciiUpper c]
  ascii _ _ := rfl
  white _ white := asciiUpper_white white
  solid _ solid := asciiUpper_solid solid

end PgVisor.SqlGuard
