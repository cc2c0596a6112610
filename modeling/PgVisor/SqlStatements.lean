import Mathlib.Data.List.TakeWhile
import PgVisor.SqlTokens

/-!
# Statements of PostgreSQL text

A text is a sequence of statements, separated by the semicolons that stand outside all
parentheses. Comments and quoted text are gone once the text has been read as tokens. The
kind of a statement is told by the keyword in front of it, parentheses aside, and where that
is `WITH`, `SELECT` or `EXPLAIN` by what stands inside.
-/

namespace PgVisor.SqlTokens

open Text
open List hiding contains

variable {token : Token}

/-- Keywords are words in any letter case; a quoted name is never one. -/
def Token.isKeyword (keyword : String) : Token → Bool
  | .word text => toAsciiUppercase text == keyword.toList
  | _ => false

def Token.isAnyOf (keywords : List String) (token : Token) : Bool :=
  keywords.any fun keyword => token.isKeyword keyword

/-- How deep in parentheses the text behind a token is. -/
def nesting (depth : Nat) (token : Token) : Nat :=
  if token = .symbol '(' then depth + 1
  else if token = .symbol ')' then depth - 1
  else depth

/-- The statements of a text whose first token stands at the given depth. -/
def splitFrom (depth : Nat) : List Token → List (List Token)
  | [] => [[]]
  | token :: rest =>
    if token = .symbol ';' ∧ depth = 0 then [] :: splitFrom 0 rest
    else (splitFrom (nesting depth token) rest).modifyHead (token :: ·)

/-- The statements of a text. -/
def statements (text : List Char) : List (List Token) := splitFrom 0 (tokens text)

/-- The statement's keyword, behind the parentheses around a query. -/
def leads (keywords : List String) (statement : List Token) : Bool :=
  (statement.dropWhile (· == .symbol '(')).head?.any (·.isAnyOf keywords)

/-- Two neighbouring tokens. -/
def adjacent (first second : Token → Bool) (statement : List Token) : Bool :=
  (statement.zip statement.tail).any fun (left, right) => first left && second right

/-- The keywords of statements that change data. -/
def manipulationWords : List String := ["INSERT", "UPDATE", "DELETE", "MERGE"]

/-- The keywords of statements that change definitions. -/
def definitionWords : List String := ["CREATE", "ALTER", "DROP", "TRUNCATE", "COMMENT"]

/-- A `WITH` whose main statement or one of whose queries changes data. Such a statement stands
behind a parenthesis, as a query of its own or behind the last one, or behind the name that ends
the clause for the search order or for cycles. -/
def modifiesInWith (statement : List Token) : Bool :=
  leads ["WITH"] statement &&
    (adjacent (fun left => left == .symbol '(' || left == .symbol ')')
      (·.isAnyOf manipulationWords) statement ||
    (statement.zip (statement.drop 2)).any fun (left, right) =>
      left.isAnyOf ["SET", "USING"] && right.isAnyOf manipulationWords)

/-- The tokens that are not labels: any word may name a column behind a dot or `AS`. -/
def unlabelled : List Token → List Token
  | [] => []
  | [token] => [token]
  | token :: next :: rest =>
    if token = .symbol '.' ∨ token.isKeyword "AS" then token :: unlabelled rest
    else token :: unlabelled (next :: rest)

/-- A query into a new table, behind a `WITH` or not. The word is reserved and means the clause,
except as a label and in the statements that insert or merge; behind `FROM` it is an error. -/
def selectsInto (statement : List Token) : Bool :=
  leads ["SELECT"] statement &&
      adjacent (fun left => !left.isKeyword "FROM") (·.isKeyword "INTO") (unlabelled statement) ||
    leads ["WITH"] statement && statement.any (·.isAnyOf ["SELECT"]) &&
      adjacent (fun left => !left.isAnyOf ["FROM", "INSERT", "MERGE"]) (·.isKeyword "INTO")
        (unlabelled statement)

/-- A query that locks its rows for an update of all or of other than key columns. -/
def selectsForUpdate (statement : List Token) : Bool :=
  leads ["SELECT", "WITH"] statement &&
    adjacent (·.isAnyOf ["FOR", "KEY"]) (·.isKeyword "UPDATE") statement

/-- The options of an `EXPLAIN`, from behind the word. -/
def explainOptions : List Token → List Token
  | .symbol '(' :: rest => rest.takeWhile (· ≠ .symbol ')')
  | rest => rest.takeWhile (·.isAnyOf ["ANALYZE", "ANALYSE", "VERBOSE"])

/-- The statement that an `EXPLAIN` is about. -/
def explainBody : List Token → List Token
  | .symbol '(' :: rest => (rest.dropWhile (· ≠ .symbol ')')).tail
  | rest => rest.dropWhile (·.isAnyOf ["ANALYZE", "ANALYSE", "VERBOSE"])

/-- The value that turns an option off. -/
def Token.denies : Token → Bool
  | .word text | .identifier text | .string text =>
    toAsciiUppercase text == "FALSE".toList || toAsciiUppercase text == "OFF".toList
  | .number text => text == ['0']
  | _ => false

/-- Options under which the explained statement is executed. The last mention counts. -/
def setsAnalyze : List Token → Bool
  | [] => false
  | token :: rest =>
    if rest.any (·.isAnyOf ["ANALYZE", "ANALYSE"]) then setsAnalyze rest
    else token.isAnyOf ["ANALYZE", "ANALYSE"] && !rest.head?.any Token.denies

/-- The statement that an `EXPLAIN` executes, if it does. -/
def analyzed (statement : List Token) : List Token :=
  if leads ["EXPLAIN"] statement && setsAnalyze (explainOptions statement.tail) then
    explainBody statement.tail
  else []

/-- A `WITH` that changes data, or an `EXPLAIN` that executes a statement which changes data or
creates a table. -/
def writesInside (statement : List Token) : Bool :=
  modifiesInWith statement || leads ("CREATE" :: manipulationWords) (analyzed statement) ||
    modifiesInWith (analyzed statement) || selectsInto (analyzed statement)

/-- A statement that changes data or creates a table although it begins like a query. -/
def writesInQuery (statement : List Token) : Bool :=
  writesInside statement || selectsInto statement

/-- The keywords of statements that modify data, definitions or rights. -/
def modificationWords : List String :=
  manipulationWords ++ definitionWords ++ ["GRANT", "REVOKE"]

/-- Statements that modify data, definitions or rights. -/
def modifies (statement : List Token) : Bool :=
  leads modificationWords statement || writesInQuery statement

/-! ### The first statement -/

/-- Splitting yields at least one statement. -/
theorem splitFrom_ne_nil (depth : Nat) (tokens : List Token) : splitFrom depth tokens ≠ [] := by
  cases tokens with
  | nil => simp [splitFrom]
  | cons token rest =>
    rw [splitFrom]
    split
    · exact cons_ne_nil _ _
    · simpa [modifyHead_eq_nil_iff] using splitFrom_ne_nil _ rest

/-- A text that begins with a word has it in front of its first statement. -/
theorem splitFrom_word (text : List Char) (rest : List Token) :
    ∃ body later, splitFrom 0 (.word text :: rest) = (.word text :: body) :: later := by
  have plain : nesting 0 (.word text) = 0 := by simp [nesting]
  obtain ⟨body, later, split⟩ := exists_cons_of_ne_nil (splitFrom_ne_nil 0 rest)
  refine ⟨body, later, ?_⟩
  rw [splitFrom, if_neg (by simp), plain, split, modifyHead_cons]

/-- The keyword of a statement that begins with a word is that word. -/
theorem leads_word (keywords : List String) (text : List Char) (body : List Token) :
    leads keywords (.word text :: body) = true ↔
      ∃ keyword ∈ keywords, toAsciiUppercase text = keyword.toList := by
  simp [leads, Token.isAnyOf, Token.isKeyword]

/-- A text without semicolons but at its end is one statement. The semicolon belongs to it if
a parenthesis is left open. -/
theorem splitFrom_terminated (depth : Nat) (body : List Token) (single : .symbol ';' ∉ body) :
    splitFrom depth (body ++ [.symbol ';']) = [body, []] ∨
      splitFrom depth (body ++ [.symbol ';']) = [body ++ [.symbol ';']] := by
  induction body generalizing depth with
  | nil =>
    by_cases outside : depth = 0
    · exact .inl (by simp [splitFrom, outside])
    · exact .inr (by simp [splitFrom, outside])
  | cons token rest ih =>
    have other : ¬ (token = .symbol ';' ∧ depth = 0) := by
      rintro ⟨rfl, -⟩
      exact single mem_cons_self
    have later : .symbol ';' ∉ rest := fun member => single (mem_cons_of_mem token member)
    rw [cons_append, splitFrom, if_neg other]
    rcases ih (nesting depth token) later with split | split
    · exact .inl (by rw [split]; rfl)
    · exact .inr (by rw [split]; rfl)

/-- A text without semicolons is one statement. -/
theorem splitFrom_single (depth : Nat) (body : List Token) (single : .symbol ';' ∉ body) :
    splitFrom depth body = [body] := by
  induction body generalizing depth with
  | nil => rfl
  | cons token rest ih =>
    have other : ¬ (token = .symbol ';' ∧ depth = 0) := by
      rintro ⟨rfl, -⟩
      exact single mem_cons_self
    have later : .symbol ';' ∉ rest := fun member => single (mem_cons_of_mem token member)
    rw [splitFrom, if_neg other, ih _ later]
    rfl

/-! ### Words of a statement -/

variable {keywords : List String}

/-- A keyword is a word. -/
theorem word_of_isAnyOf (any : token.isAnyOf keywords = true) :
    ∃ text, token = .word text ∧ ∃ keyword ∈ keywords, toAsciiUppercase text = keyword.toList := by
  obtain ⟨keyword, listed, spelled⟩ := any_eq_true.mp any
  cases token with
  | word text => exact ⟨text, rfl, keyword, listed, by simpa [Token.isKeyword] using spelled⟩
  | identifier name => simp [Token.isKeyword] at spelled
  | string content => simp [Token.isKeyword] at spelled
  | number text | operator text | symbol c | unterminated => simp [Token.isKeyword] at spelled

/-- The statement holds one of the keywords as a word. -/
def HasWord (keywords : List String) (statement : List Token) : Prop :=
  ∃ text, .word text ∈ statement ∧ ∃ keyword ∈ keywords, toAsciiUppercase text = keyword.toList

variable {statement : List Token}

theorem HasWord.subset {larger} (has : HasWord keywords statement)
    (subset : ∀ token ∈ statement, token ∈ larger) : HasWord keywords larger := by
  obtain ⟨text, member, spelled⟩ := has
  exact ⟨text, subset _ member, spelled⟩

/-- A leading keyword is in the statement. -/
theorem leads_hasWord (leading : leads keywords statement = true) : HasWord keywords statement := by
  obtain ⟨token, head, any⟩ := (Option.any_eq_true _ _).mp leading
  obtain ⟨text, rfl, spelled⟩ := word_of_isAnyOf any
  have inside := mem_of_mem_head? (Option.mem_def.mpr head)
  exact ⟨text, (dropWhile_suffix _).subset inside, spelled⟩

theorem adjacent_second {first second} (adjacent : adjacent first second statement = true) :
    ∃ token ∈ statement.tail, second token = true := by
  obtain ⟨⟨left, right⟩, pair, both⟩ := any_eq_true.mp adjacent
  rw [Bool.and_eq_true] at both
  exact ⟨right, (of_mem_zip pair).2, both.2⟩

/-- Leaving labels out adds no token. -/
theorem unlabelled_subset (statement : List Token) :
    ∀ token ∈ unlabelled statement, token ∈ statement := by
  fun_induction unlabelled statement with
  | case1 | case2 token => exact fun _ member => member
  | case3 token next rest label ih =>
    intro other member
    rcases mem_cons.mp member with rfl | later
    · exact mem_cons_self
    · exact mem_cons_of_mem _ (mem_cons_of_mem _ (ih other later))
  | case4 token next rest plain ih =>
    intro other member
    rcases mem_cons.mp member with rfl | later
    · exact mem_cons_self
    · exact mem_cons_of_mem _ (ih other later)

/-- Modifying in a WITH takes a word for it. -/
theorem modifiesInWith_hasWord (modifies : modifiesInWith statement = true) :
    HasWord manipulationWords statement := by
  rw [modifiesInWith, Bool.and_eq_true, Bool.or_eq_true] at modifies
  have found : ∃ token ∈ statement, token.isAnyOf manipulationWords = true := by
    rcases modifies.2 with behind | later
    · obtain ⟨token, member, any⟩ := adjacent_second behind
      exact ⟨token, mem_of_mem_tail member, any⟩
    · obtain ⟨⟨left, right⟩, pair, both⟩ := any_eq_true.mp later
      rw [Bool.and_eq_true] at both
      exact ⟨right, mem_of_mem_drop (of_mem_zip pair).2, both.2⟩
  obtain ⟨token, member, any⟩ := found
  obtain ⟨text, rfl, spelled⟩ := word_of_isAnyOf any
  exact ⟨text, member, spelled⟩

/-- SELECT INTO takes both words. -/
theorem selectsInto_hasWord (into : selectsInto statement = true) :
    HasWord ["SELECT"] statement ∧ HasWord ["INTO"] statement := by
  have clause : ∀ {left}, adjacent left (·.isKeyword "INTO") (unlabelled statement) = true →
      HasWord ["INTO"] statement := by
    intro left found
    obtain ⟨token, member, keyword⟩ := adjacent_second found
    have any : token.isAnyOf ["INTO"] = true := by simpa [Token.isAnyOf] using keyword
    obtain ⟨text, rfl, spelled⟩ := word_of_isAnyOf any
    exact ⟨text, unlabelled_subset statement _ (mem_of_mem_tail member), spelled⟩
  simp only [selectsInto, Bool.or_eq_true, Bool.and_eq_true] at into
  rcases into with ⟨leading, found⟩ | ⟨⟨-, select⟩, found⟩
  · exact ⟨leads_hasWord leading, clause found⟩
  · obtain ⟨token, member, any⟩ := any_eq_true.mp select
    obtain ⟨text, rfl, spelled⟩ := word_of_isAnyOf any
    exact ⟨⟨text, member, spelled⟩, clause found⟩

theorem adjacent_cons (first second : Token → Bool) (left right : Token) (rest : List Token) :
    adjacent first second (left :: right :: rest) =
      (first left && second right || adjacent first second (right :: rest)) := rfl

/-- What makes the next token a label. -/
def Token.labels (token : Token) : Bool := token == .symbol '.' || token.isKeyword "AS"

theorem unlabelled_cons (plain : token.labels = false) (rest : List Token) :
    unlabelled (token :: rest) = token :: unlabelled rest := by
  rw [Token.labels, Bool.or_eq_false_iff, beq_eq_false_iff_ne] at plain
  cases rest with
  | nil => rfl
  | cons next more => rw [unlabelled, if_neg (by simp [plain])]

/-- The first token is kept whatever it is. -/
theorem unlabelled_head (token : Token) (rest : List Token) :
    ∃ kept, unlabelled (token :: rest) = token :: kept ∧ ∀ other ∈ kept, other ∈ rest := by
  cases rest with
  | nil => exact ⟨[], rfl, nofun⟩
  | cons next more =>
    rw [unlabelled]
    split
    · exact ⟨_, rfl, fun other kept => mem_cons_of_mem next (unlabelled_subset more other kept)⟩
    · exact ⟨_, rfl, unlabelled_subset (next :: more)⟩

/-- The name of a table may be the word itself: behind `FROM` it is not the clause. -/
theorem selectsInto_from {front tail} (name : Token)
    (query : leads ["WITH"] (front ++ .word "FROM".toList :: name :: tail) = false)
    (labels : ∀ token ∈ front, token.labels = false)
    (clear : ∀ token ∈ front ++ tail, token.isKeyword "INTO" = false) :
    selectsInto (front ++ .word "FROM".toList :: name :: tail) = false := by
  have keyword : (Token.word "FROM".toList).isKeyword "FROM" = true := by decide
  have other : (Token.word "FROM".toList).isKeyword "INTO" = false := by decide
  rw [selectsInto, query, Bool.false_and, Bool.false_and, Bool.or_false, Bool.and_eq_false_iff]
  refine .inr ?_
  clear query
  induction front with
  | nil =>
    obtain ⟨kept, same, inside⟩ := unlabelled_head name tail
    rw [nil_append, unlabelled_cons (by decide), same, adjacent_cons, keyword]
    rw [Bool.not_true, Bool.false_and, Bool.false_or, Bool.eq_false_iff]
    intro found
    obtain ⟨token, member, clause⟩ := adjacent_second found
    exact absurd clause (by simp [clear token (by simpa using inside token member)])
  | cons first rest ih =>
    have later := ih
      (fun token member => labels token (mem_cons_of_mem first member))
      (fun token member => clear token (mem_cons_of_mem first member))
    rw [cons_append, unlabelled_cons (labels first mem_cons_self)]
    cases rest with
    | nil =>
      rw [nil_append, unlabelled_cons (by decide), adjacent_cons, other, Bool.and_false,
        Bool.false_or]
      rw [nil_append, unlabelled_cons (by decide)] at later
      exact later
    | cons second more =>
      have plain := labels second (mem_cons_of_mem first mem_cons_self)
      rw [cons_append, unlabelled_cons plain, adjacent_cons,
        clear second (mem_cons_of_mem first mem_cons_self), Bool.and_false, Bool.false_or]
      rw [cons_append, unlabelled_cons plain] at later
      exact later

theorem explainBody_subset (statement : List Token) :
    ∀ token ∈ explainBody statement, token ∈ statement := by
  unfold explainBody
  split
  · intro token member
    exact mem_cons_of_mem _ ((dropWhile_suffix _).subset (mem_of_mem_tail member))
  · intro token member
    exact (dropWhile_suffix _).subset member

theorem analyzed_subset (statement : List Token) :
    ∀ token ∈ analyzed statement, token ∈ statement := by
  unfold analyzed
  split
  · intro token member
    exact mem_of_mem_tail (explainBody_subset statement.tail token member)
  · simp

/-- A statement that begins with another word is not executed by an `EXPLAIN`. -/
theorem analyzed_other (other : leads ["EXPLAIN"] statement = false) : analyzed statement = [] := by
  simp [analyzed, other]

/-- A query that writes names what it does. -/
theorem writesInQuery_hasWord (writes : writesInQuery statement = true) :
    HasWord ("CREATE" :: manipulationWords) statement ∨
      HasWord ["SELECT"] statement ∧ HasWord ["INTO"] statement := by
  have wider : ∀ {statement}, HasWord manipulationWords statement →
      HasWord ("CREATE" :: manipulationWords) statement := by
    rintro statement ⟨text, member, keyword, listed, spelled⟩
    exact ⟨text, member, keyword, mem_cons_of_mem _ listed, spelled⟩
  have inside := analyzed_subset statement
  simp only [writesInQuery, writesInside, Bool.or_eq_true] at writes
  rcases writes with (((inWith | leading) | inWith) | into) | into
  · exact .inl (wider (modifiesInWith_hasWord inWith))
  · exact .inl ((leads_hasWord leading).subset inside)
  · exact .inl ((wider (modifiesInWith_hasWord inWith)).subset inside)
  · obtain ⟨select, clause⟩ := selectsInto_hasWord into
    exact .inr ⟨select.subset inside, clause.subset inside⟩
  · exact .inr (selectsInto_hasWord into)

/-! ### The first word -/

variable {c : Char}

/-- White space that does not separate tokens belongs to words. -/
theorem whitespace_spaces (white : isWhitespace c = true) : isSpace c = true ∨ 128 ≤ c.toNat := by
  by_cases ascii : c.toNat < 128
  · refine .inl ?_
    have code : c.toNat = 9 ∨ c.toNat = 10 ∨ c.toNat = 11 ∨ c.toNat = 12 ∨ c.toNat = 13 ∨
        c.toNat = 32 := by
      simp [isWhitespace] at white
      omega
    have character : c = Char.ofNat c.toNat := (Char.ofNat_toNat c).symm
    rcases code with code | code | code | code | code | code <;> (rw [character, code]; decide)
  · exact .inr (Nat.le_of_not_lt ascii)

theorem startsWord_wide (wide : 128 ≤ c.toNat) : startsWord c = true := by
  simp [startsWord, wide]

theorem startsWord_of_upper (upper : (asciiUpper c).isUpper = true) : startsWord c = true := by
  unfold asciiUpper at upper
  split at upper
  · rename_i range
    have lower : c.isLower = true := by
      delta Char.isLower
      simpa using ⟨range.1, range.2⟩
    delta startsWord Char.isAlpha
    simp [lower]
  · delta startsWord Char.isAlpha
    simp [upper]

/-- No word begins with a digit. -/
theorem digit_not_startsWord (digit : c.isDigit = true) : startsWord c = false := by
  have range : 48 ≤ c.toNat ∧ c.toNat ≤ 57 := by
    simpa [Char.isDigit, UInt32.le_iff_toNat_le] using digit
  have underscore : c ≠ '_' := by
    rintro rfl
    exact absurd range (by decide)
  delta startsWord Char.isAlpha Char.isUpper Char.isLower
  simp [underscore, UInt32.le_iff_toNat_le]
  omega

theorem begin_word (starts : startsWord c = true) : begin c = ([], .word [c]) := by
  have other : ∀ d : Char, startsWord d = false → c ≠ d := by
    rintro d outside rfl
    exact absurd starts (by simp [outside])
  have solid : isSpace c = false := by
    simp [isSpace, other, startsWord]
  have letter : c.isDigit = false := by
    by_contra digit
    exact absurd starts (by simp [digit_not_startsWord (by simpa using digit)])
  rw [begin, if_neg (by simp [solid]), if_neg (other _ (by decide)), if_neg (other _ (by decide)),
    if_neg (other _ (by decide)), if_neg (by simp [letter]), if_pos starts]

/-- A word goes on as long as its characters continue it. Only a lone `e` may turn out to be
the mark of a string. -/
theorem tokens_word {rest : List Char} (starts : startsWord c = true)
    (mark : c :: rest.takeWhile continuesWord ≠ ['e'] ∧ c :: rest.takeWhile continuesWord ≠ ['E']) :
    ∃ later, tokens (c :: rest) = .word (c :: rest.takeWhile continuesWord) :: later := by
  have continues : ∀ d ∈ rest.takeWhile continuesWord, continuesWord d = true := by
    intro d member
    exact mem_takeWhile_imp member
  have parts := takeWhile_append_dropWhile (p := continuesWord) (l := rest)
  have stops := List.head?_dropWhile_not continuesWord rest
  generalize rest.takeWhile continuesWord = word at mark continues parts ⊢
  generalize rest.dropWhile continuesWord = tail at parts stops
  subst parts
  rw [tokens, tokensFrom_cons, lexStep, begin_word starts, nil_append, tokensFrom_append,
    scan_word [c] word continues]
  cases tail with
  | nil => exact ⟨[], by simp [tokensFrom, scan, finish]⟩
  | cons d tail =>
    have ends : continuesWord d = false := by simpa using stops
    have alone : ¬ (d = '\'' ∧ (word.reverse ++ [c] = ['e'] ∨ word.reverse ++ [c] = ['E'])) := by
      rintro ⟨-, same⟩
      have turned : ∀ m : Char, word.reverse ++ [c] = [m] → c :: word = [m] := by
        intro m read
        simpa using congrArg List.reverse read
      exact same.elim (mark.1 ∘ turned 'e') (mark.2 ∘ turned 'E')
    refine ⟨(begin d).1 ++ tokensFrom (begin d).2 tail, ?_⟩
    rw [tokensFrom_cons, lexStep, lexWord, if_neg (by simp [ends]), if_neg alone]
    simp [Lexed.after]

/-- Blanks between tokens are skipped. -/
theorem tokensFrom_spaces (blanks text : List Char) (spaces : ∀ c ∈ blanks, isSpace c = true) :
    tokensFrom .between (blanks ++ text) = tokensFrom .between text := by
  induction blanks with
  | nil => rfl
  | cons c rest ih =>
    have here : lexStep .between c = ([], .between) := by
      simp [lexStep, begin, spaces c mem_cons_self]
    rw [cons_append, tokensFrom_cons, here, nil_append]
    exact ih fun other member => spaces other (mem_cons_of_mem c member)

/-! ### Quoted names in a text -/

/-- A string is read up to its quote. -/
theorem scan_quoted (read name : List Char) (quoteFree : '\'' ∉ name) :
    scan (.string false read) name = ([], .string false (name.reverse ++ read)) := by
  induction name generalizing read with
  | nil => rfl
  | cons c rest ih =>
    have other : c ≠ '\'' := fun same => quoteFree (same ▸ mem_cons_self)
    have later : '\'' ∉ rest := fun member => quoteFree (mem_cons_of_mem c member)
    have here : lexStep (.string false read) c = ([], .string false (c :: read)) := by
      simp [lexStep, other]
    rw [scan_cons, here, ih _ later]
    simp

/-- A name in single quotes in the middle of a text. -/
theorem tokens_literal {before first}
    (opened : scan .between before = (first, .string false [])) {name}
    (quoteFree : '\'' ∉ name) (separator : c ∈ separators) (rest : List Char) :
    tokens (before ++ (name ++ '\'' :: c :: rest)) =
      first ++ .string name :: ((begin c).1 ++ tokensFrom (begin c).2 rest) := by
  have other : c ≠ '\'' := by
    rintro rfl
    exact absurd separator (by decide)
  have quote : lexStep (.string false name.reverse) '\'' = ([], .stringEnd false name.reverse) := by
    simp [lexStep]
  have ends : lexStep (.stringEnd false name.reverse) c = .after (.string name) (begin c) := by
    simp [lexStep, other]
  rw [tokens, tokensFrom_append, opened, tokensFrom_append, scan_quoted [] name quoteFree,
    append_nil, tokensFrom_cons, quote, tokensFrom_cons, ends]
  rfl

end PgVisor.SqlTokens
