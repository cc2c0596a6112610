import Mathlib.Data.List.DropRight
import PgVisor.SqlExecutor
import PgVisor.SqlStatements

/-!
# Routing by the first word

The tracker looks at the first word of a text, up to white space, and the backend at all its
statements. The two agree about the first statement as far as its keyword goes: white space in
front of the word that the backend does not skip makes the backend read a longer word, which is
no keyword at all. They differ about what the tracker does not look at: clauses of the first
query, and the statements behind it.

The dashboard's executor routes its statements by rules of its own: it takes comments away
first and looks for other words inside the text. Where a text begins with a reading word, the
two differ about what each looks for inside; where one begins so only behind a comment, or with
a comment right behind its word, the tracker takes it for no read.
-/

namespace PgVisor.LeaderRouting

open Text SqlTokens QueryRouting ClientSession SqlGuard SqlExecutor
open List hiding contains

variable {keyword : List Char} {sql : String} {first : List Token}

/-- The keywords of statements that open a transaction. -/
def transactionWords : List String := ["BEGIN", "START"]

/-- A query that changes data, creates a table or locks rows, by itself or in an `EXPLAIN` that
executes it. -/
def WritingQuery (statement : List Token) : Prop :=
  writesInQuery statement = true ∨ selectsForUpdate statement = true ∨
    selectsForUpdate (analyzed statement) = true

/-- Statements that only a leader may execute. -/
def WritesOrBegins (statement : List Token) : Prop :=
  leads modificationWords statement = true ∨ leads transactionWords statement = true ∨
    WritingQuery statement

instance (statement : List Token) : Decidable (WritingQuery statement) :=
  inferInstanceAs (Decidable (_ ∨ _))

instance (statement : List Token) : Decidable (WritesOrBegins statement) :=
  inferInstanceAs (Decidable (_ ∨ _))

/-! ### The tracker's word and the backend's -/

/-- What stands behind the tracker's word. -/
def Ends (tail : List Char) : Prop :=
  ∀ c ∈ tail.head?, c = ';' ∨ isWhitespace c = true

/-- The backend reads the word it finds in front, or goes on into white space that it takes
for letters. -/
theorem keyword_in_front {body tail} (long : 2 ≤ keyword.length)
    (letters : ∀ c ∈ keyword, c.isUpper = true) (spelled : toAsciiUppercase body = keyword)
    (ends : Ends tail) : ∃ word rest, tokens (body ++ tail) = .word word :: rest ∧
      (toAsciiUppercase word = keyword ∨ ∃ c ∈ word, 128 ≤ c.toNat) := by
  have starts : ∀ c ∈ body, startsWord c = true := by
    intro c member
    refine startsWord_of_upper (letters _ ?_)
    rw [← spelled]
    exact mem_map_of_mem member
  have length : body.length = keyword.length := by simp [← spelled, toAsciiUppercase]
  cases body with
  | nil => simp [← length] at long
  | cons first others =>
    have run : (others ++ tail).takeWhile continuesWord =
        others ++ tail.takeWhile continuesWord := by
      apply takeWhile_append_of_pos
      intro c member
      exact startsWord_continues (starts c (mem_cons_of_mem first member))
    have several : ∀ mark : Char, first :: (others ++ tail).takeWhile continuesWord ≠ [mark] := by
      intro mark same
      have short := congrArg List.length same
      simp only [run, length_cons, length_append, length_nil] at short
      simp only [length_cons] at length
      omega
    obtain ⟨rest, read⟩ := tokens_word (starts first mem_cons_self)
      ⟨several 'e', several 'E'⟩
    refine ⟨_, rest, read, ?_⟩
    rw [run]
    cases tail with
    | nil => exact .inl (by simpa using spelled)
    | cons c tail =>
      by_cases continues : continuesWord c = true
      · refine .inr ⟨c, by simp [continues], ?_⟩
        have outside : ∀ d : Char, continuesWord d = false → c ≠ d := by
          rintro d stops rfl
          exact absurd continues (by simp [stops])
        rcases ends c rfl with semicolon | white
        · exact absurd semicolon (outside ';' (by decide))
        · rcases whitespace_spaces white with space | wide
          · simp [isSpace, outside, continuesWord, startsWord] at space
          · exact wide
      · refine .inl ?_
        rw [takeWhile_cons_of_neg continues, append_nil]
        exact spelled

/-! ### Texts that begin with a word -/

/-- The keywords that both routers take for reads. -/
def readWords : List String := ["SELECT", "SHOW", "EXPLAIN"]

/-- The text begins, white space aside, with the keyword in any letter case, up to semicolons,
white space or its end. -/
def Opens (keyword : String) (text : List Char) : Prop :=
  ∃ blank word semicolons tail, text = blank ++ (word ++ (semicolons ++ tail)) ∧
    (∀ c ∈ blank, isWhitespace c = true) ∧ toAsciiUppercase word = keyword.toList ∧
    (∀ c ∈ semicolons, c = ';') ∧ ∀ c ∈ tail.head?, isWhitespace c = true

theorem ends_semicolons {semicolons tail : List Char} (marks : ∀ c ∈ semicolons, c = ';')
    (ends : ∀ c ∈ tail.head?, isWhitespace c = true) : Ends (semicolons ++ tail) := by
  intro c head
  cases semicolons with
  | nil => exact .inr (ends c head)
  | cons d others =>
    cases Option.mem_some_iff.mp head
    exact .inl (marks c mem_cons_self)

/-- Where the tracker finds the word, the backend reads the same word or one with a character
that no keyword has. -/
theorem first_token {keyword : String} {text} (long : 2 ≤ keyword.toList.length)
    (letters : ∀ c ∈ keyword.toList, c.isUpper = true) (opens : Opens keyword text) :
    ∃ word rest, tokens text = .word word :: rest ∧
      (toAsciiUppercase word = keyword.toList ∨ ∃ c ∈ word, 128 ≤ c.toNat) := by
  obtain ⟨blank, word, semicolons, tail, rfl, white, spelled, marks, ends⟩ := opens
  induction blank with
  | nil =>
    rw [nil_append]
    exact keyword_in_front long letters spelled (ends_semicolons marks ends)
  | cons c blank ih =>
    have later := ih fun d member => white d (mem_cons_of_mem c member)
    rw [cons_append]
    generalize blank ++ _ = rest at later
    rcases whitespace_spaces (white c mem_cons_self) with space | wide
    · have skipped : tokens (c :: rest) = tokens rest :=
        tokensFrom_spaces [c] rest (by simpa using space)
      rwa [skipped]
    · have other : ∀ mark : Char, mark.toNat < 128 →
          c :: rest.takeWhile continuesWord ≠ [mark] := by
        rintro mark narrow same
        cases head_eq_of_cons_eq same
        omega
      obtain ⟨later, read⟩ := tokens_word (startsWord_wide wide)
        ⟨other 'e' (by decide), other 'E' (by decide)⟩
      exact ⟨_, later, read, .inr ⟨c, mem_cons_self, wide⟩⟩

/-- The text names a function that writes. -/
def CallsWriting (text : List Char) : Prop :=
  ∃ name ∈ writingFunctions, name.toList <:+: toAsciiUppercase text

/-- Characters that are in the middle of a word for both routers. -/
def Solid (c : Char) : Prop := isWhitespace c = false ∧ c ≠ ';' ∧ c ≠ '-' ∧ c ≠ '/'

theorem isUpper_range {c : Char} (letter : c.isUpper = true) : 65 ≤ c.toNat ∧ c.toNat ≤ 90 := by
  delta Char.isUpper at letter
  simpa [UInt32.le_iff_toNat_le] using letter

theorem solid_of_isUpper {c : Char} (letter : c.isUpper = true) : Solid c := by
  have range := isUpper_range letter
  refine ⟨?_, ?_, ?_, ?_⟩
  · simp only [isWhitespace, Bool.or_eq_false_iff, Bool.and_eq_false_iff,
      decide_eq_false_iff_not, beq_eq_false_iff_ne]
    omega
  all_goals
    rintro rfl
    exact absurd range (by decide)

theorem readWords_letters {keyword : String} (reading : keyword ∈ readWords) :
    keyword.toList ≠ [] ∧ ∀ c ∈ keyword.toList, c.isUpper = true := by
  have table : readWords.all (fun keyword =>
      !keyword.toList.isEmpty && keyword.toList.all Char.isUpper) = true := by
    decide
  have found := all_eq_true.mp table keyword reading
  rwa [Bool.and_eq_true, Bool.not_eq_true', isEmpty_eq_false_iff, all_eq_true] at found

theorem readWords_ascii {keyword : String} (reading : keyword ∈ readWords) :
    ∀ c ∈ keyword.toList, c.toNat < 128 := by
  intro c member
  have range := isUpper_range ((readWords_letters reading).2 c member)
  omega

/-- A word whose upper case is a reading keyword is solid. -/
theorem solid_word (upper : UpperCase) {keyword : String} (reading : keyword ∈ readWords)
    {word : List Char} (spelled : upper.apply word = keyword.toList) :
    word ≠ [] ∧ ∀ c ∈ word, Solid c := by
  obtain ⟨nonempty, letters⟩ := readWords_letters reading
  constructor
  · rintro rfl
    exact nonempty spelled.symm
  intro c member
  have inside : ∀ d ∈ upper.ofChar c, d.isUpper = true := by
    intro d part
    refine letters d ?_
    rw [← spelled]
    exact mem_flatMap.mpr ⟨c, member, part⟩
  have other : ∀ d : Char, d.toNat < 128 → (asciiUpper d).isUpper = false → c ≠ d := by
    rintro d small plain rfl
    have letter := inside (asciiUpper c) (by simp [upper.ascii c small])
    simp [plain] at letter
  refine ⟨?_, other ';' (by decide) (by decide), other '-' (by decide) (by decide),
    other '/' (by decide) (by decide)⟩
  by_contra white
  rw [Bool.not_eq_false] at white
  have letter := inside c (by simp [upper.white c white])
  exact absurd white (by simp [(solid_of_isUpper letter).1])

theorem trimStart_append {blank body : List Char} (white : ∀ c ∈ blank, isWhitespace c = true)
    (starts : ∀ c ∈ body.head?, isWhitespace c = false) : trimStart (blank ++ body) = body := by
  rw [trimStart, dropWhile_append_of_pos white]
  cases body with
  | nil => rfl
  | cons c rest => simp [starts c rfl]

theorem trimEndMatches_solid {drop : Char → Bool} {word : List Char} (nonempty : word ≠ [])
    (stays : ∀ c ∈ word, drop c = false) (tail : List Char) :
    trimEndMatches drop (word ++ tail) = word ++ trimEndMatches drop tail := by
  obtain ⟨front, last, rfl⟩ := (eq_nil_or_concat word).resolve_left nonempty
  rw [concat_eq_append] at stays ⊢
  exact rdropWhile_keep (stays last (by simp)) front tail

theorem trimEndMatches_split (drop : Char → Bool) (text : List Char) :
    ∃ dropped, text = trimEndMatches drop text ++ dropped ∧ ∀ c ∈ dropped, drop c = true := by
  refine ⟨(text.reverse.takeWhile drop).reverse, ?_, ?_⟩
  · rw [trimEndMatches, ← reverse_append, takeWhile_append_dropWhile, reverse_reverse]
  · intro c member
    exact mem_takeWhile_imp (mem_reverse.mp member)

/-- The first word, with white space in front of it and behind it or the end. -/
theorem firstWord_split (text : List Char) : ∃ blank tail,
    text = blank ++ (firstWord text ++ tail) ∧ (∀ c ∈ blank, isWhitespace c = true) ∧
      ∀ c ∈ tail.head?, isWhitespace c = true := by
  refine ⟨text.takeWhile isWhitespace, (trimStart text).dropWhile fun c => !isWhitespace c, ?_,
    fun c member => mem_takeWhile_imp member, fun c head => ?_⟩
  · rw [firstWord, takeWhile_append_dropWhile, trimStart, takeWhile_append_dropWhile]
  · have stops := List.head?_dropWhile_not (fun c => !isWhitespace c) (trimStart text)
    rw [Option.mem_def.mp head] at stops
    simpa using stops

/-- The word the tracker goes by. -/
def trackerWord (sql : String) : String :=
  String.ofList (toAsciiUppercase (trimEndMatches (· == ';') (firstWord (trimStart sql.toList))))

theorem trackerWord_iff {keyword : String} (reading : keyword ∈ readWords) (sql : String) :
    trackerWord sql = keyword ↔ Opens keyword sql.toList := by
  have spelled_iff (word : List Char) :
      String.ofList (toAsciiUppercase word) = keyword ↔ toAsciiUppercase word = keyword.toList := by
    rw [← String.toList_inj, String.toList_ofList]
  rw [trackerWord, spelled_iff]
  have idempotent : trimStart (trimStart sql.toList) = trimStart sql.toList := by
    rw [trimStart, trimStart, dropWhile_idempotent]
  constructor
  · intro spelled
    rw [firstWord, idempotent, ← firstWord] at spelled
    obtain ⟨blank, tail, parts, white, ends⟩ := firstWord_split sql.toList
    obtain ⟨marks, word, semicolons⟩ := trimEndMatches_split (· == ';') (firstWord sql.toList)
    refine ⟨blank, _, marks, tail, ?_, white, spelled, ?_, ends⟩
    · rw [← append_assoc (trimEndMatches _ _), ← word, ← parts]
    · exact fun c member => by simpa using semicolons c member
  · rintro ⟨blank, word, semicolons, tail, split, white, spelled, marks, ends⟩
    obtain ⟨nonempty, solid⟩ := solid_word asciiUpperCase reading
      (upper_word asciiUpperCase spelled (readWords_ascii reading))
    have inside : ∀ c ∈ word ++ semicolons, (!isWhitespace c) = true := by
      intro c member
      rcases mem_append.mp member with letter | mark
      · simp [(solid c letter).1]
      · rw [marks c mark]
        decide
    have front : trimStart sql.toList = (word ++ semicolons) ++ tail := by
      rw [split, append_assoc]
      refine trimStart_append white fun c head => ?_
      obtain ⟨first, rest, same⟩ := exists_cons_of_ne_nil nonempty
      rw [same] at head
      cases Option.mem_some_iff.mp head
      exact (solid c (by simp [same])).1
    have stop : tail.takeWhile (fun c => !isWhitespace c) = [] := by
      cases tail with
      | nil => rfl
      | cons c rest => simp [ends c rfl]
    have word_first : firstWord (trimStart sql.toList) = word ++ semicolons := by
      rw [firstWord, idempotent, front, takeWhile_append_of_pos inside, stop, append_nil]
    have cut : trimEndMatches (· == ';') semicolons = [] := by
      rw [trimEndMatches, reverse_eq_nil_iff, dropWhile_eq_nil_iff]
      intro c member
      simp [marks c (mem_reverse.mp member)]
    rw [word_first, trimEndMatches_solid nonempty (fun c member => by simp [(solid c member).2.1]),
      cut, append_nil, spelled]

/-- A name is found in a text exactly if it is found behind the white space in front. -/
theorem infix_trimStart {name : List Char} (solid : ∀ c ∈ name.head?, isWhitespace c = false)
    (nonempty : name ≠ []) (text : List Char) :
    name <:+: toAsciiUppercase (trimStart text) ↔ name <:+: toAsciiUppercase text := by
  induction text with
  | nil => rfl
  | cons c rest ih =>
    cases white : isWhitespace c with
    | false => simp [trimStart, white]
    | true =>
      have other : ¬ name <+: toAsciiUppercase (c :: rest) := by
        rintro ⟨tail, same⟩
        obtain ⟨first, others, split⟩ := exists_cons_of_ne_nil nonempty
        rw [split] at same solid
        cases head_eq_of_cons_eq same
        have kept := solid (asciiUpper c) rfl
        rw [whitespace_upper, white] at kept
        cases kept
      have trimmed : trimStart (c :: rest) = trimStart rest := by simp [trimStart, white]
      rw [trimmed, ih]
      exact (infix_cons_iff.trans (or_iff_right other)).symm

/-- A reading keyword in front is the word that a router goes by. -/
theorem exists_reading_iff {word : String} {opens plain : String → Prop}
    (same : ∀ keyword ∈ readWords, plain keyword → (word = keyword ↔ opens keyword)) :
    (∃ keyword ∈ readWords, opens keyword ∧ plain keyword) ↔ word ∈ readWords ∧ plain word := by
  constructor
  · rintro ⟨keyword, reading, front, free⟩
    cases (same keyword reading free).mpr front
    exact ⟨reading, free⟩
  · rintro ⟨reading, free⟩
    exact ⟨word, reading, (same word reading free).mp rfl, free⟩

/-- The tracker takes a text for a read exactly if it begins with a reading keyword and, as a
query, names no function that writes. -/
theorem classify_read_iff (sql : String) :
    classifyQuery sql = .read ↔ ∃ keyword ∈ readWords, Opens keyword sql.toList ∧
      ¬ (keyword = "SELECT" ∧ CallsWriting sql.toList) := by
  have table : writingFunctions.all (fun name =>
      !name.toList.isEmpty && name.toList.head?.all (!isWhitespace ·)) = true := by
    decide
  have names (name : String) (member : name ∈ writingFunctions) : name.toList ≠ [] ∧
      ∀ c ∈ name.toList.head?, isWhitespace c = false := by
    have found := all_eq_true.mp table name member
    rw [Bool.and_eq_true, Bool.not_eq_true', isEmpty_eq_false_iff, Option.all_eq_true] at found
    exact ⟨found.1, fun c head => by simpa using found.2 c head⟩
  have calls : (writingFunctions.any fun name =>
      contains name.toList (toAsciiUppercase (trimStart sql.toList))) = true ↔
        CallsWriting sql.toList := by
    rw [any_eq_true, CallsWriting]
    refine exists_congr fun name => and_congr_right fun member => ?_
    rw [Text.contains_iff]
    exact infix_trimStart (names name member).2 (names name member).1 sql.toList
  rw [exists_reading_iff fun keyword reading _ => trackerWord_iff reading sql, ← calls]
  unfold classifyQuery trackerWord
  dsimp only
  generalize String.ofList _ = word
  split
  next select => simp [select, readWords]
  next other =>
    split
    next reads =>
      have listed : word ∈ readWords := mem_cons_of_mem _ reads
      simp [other, listed]
    next unread =>
      have unlisted : word ∉ readWords := fun listed => unread (mem_of_ne_of_mem other listed)
      simp only [unlisted, false_and, iff_false]
      repeat' split
      all_goals exact QueryKind.noConfusion

/-! ### Texts that go to a standby -/

/-- The first statement of a text that begins with a reading keyword has no other. -/
theorem first_statement_keyword {reads} (reading : reads ∈ readWords)
    (opens : Opens reads sql.toList) (front : first ∈ (statements sql.toList).head?) {keywords}
    (plain : ∀ keyword ∈ keywords, keyword.toList.all (fun c => decide (c.toNat < 128)) = true)
    (leading : leads keywords first = true) : reads ∈ keywords := by
  have long : ∀ keyword ∈ readWords, 2 ≤ keyword.toList.length := by decide
  obtain ⟨word, rest, tokenized, read⟩ :=
    first_token (long reads reading) (readWords_letters reading).2 opens
  obtain ⟨body, later, split⟩ := splitFrom_word word rest
  rw [statements, tokenized, split] at front
  cases Option.mem_some_iff.mp front
  obtain ⟨keyword, listed, upper⟩ := (leads_word keywords word body).mp leading
  rcases read with same | ⟨c, inside, wide⟩
  · have equal : reads = keyword := String.toList_injective (same.symm.trans upper)
    exact equal ▸ listed
  have narrow : (asciiUpper c).toNat < 128 := by
    refine of_decide_eq_true (all_eq_true.mp (plain keyword listed) _ ?_)
    rw [← upper]
    exact mem_map_of_mem inside
  exact absurd (ascii_upper_ascii narrow) (Nat.not_lt.mpr wide)

/-- The tracker is right about the keyword of the first statement. What is left are the
queries that write. -/
theorem first_statement_query {reads} (reading : reads ∈ readWords)
    (opens : Opens reads sql.toList) (front : first ∈ (statements sql.toList).head?)
    (writes : WritesOrBegins first) : WritingQuery first := by
  have excluded : ∀ keywords : List String,
      (∀ keyword ∈ keywords, keyword.toList.all (fun c => decide (c.toNat < 128)) = true) →
      (∀ keyword ∈ readWords, keyword ∉ keywords) → leads keywords first ≠ true := by
    intro keywords plain apart leading
    exact apart reads reading (first_statement_keyword reading opens front plain leading)
  rcases writes with modifies | begins | query
  · exact absurd modifies (excluded _ (by decide) (by decide))
  · exact absurd begins (excluded _ (by decide) (by decide))
  · exact query

/-- White space and whole comments, from a state of the comment stripper on. -/
inductive Gap : CommentState → List Char → Prop where
  | nil : Gap .code []
  | white {c rest} : isWhitespace c = true → Gap .code rest → Gap .code (c :: rest)
  | openLine {rest} : Gap .line rest → Gap .code ('-' :: '-' :: rest)
  | closeLine {rest} : Gap .code rest → Gap .line ('\n' :: rest)
  | inLine {c rest} : c ≠ '\n' → Gap .line rest → Gap .line (c :: rest)
  | openBlock {rest} : Gap .block rest → Gap .code ('/' :: '*' :: rest)
  | closeBlock {rest} : Gap .code rest → Gap .block ('*' :: '/' :: rest)
  | inBlock {c rest} : ¬ (c = '*' ∧ rest.head? = some '/') → Gap .block rest →
      Gap .block (c :: rest)

/-- What stands behind the executor's word: white space, a semicolon, a comment or nothing. -/
def Stops (tail : List Char) : Prop :=
  Ends tail ∨ ['-', '-'] <+: tail ∨ ['/', '*'] <+: tail

/-- The text begins, white space and comments aside, with a word whose upper case is the keyword,
up to white space, a semicolon, a comment or its end. -/
def OpensBehind (upper : UpperCase) (keyword : String) (text : List Char) : Prop :=
  ∃ gap word tail, text = gap ++ (word ++ tail) ∧ Gap .code gap ∧
    upper.apply word = keyword.toList ∧ Stops tail

theorem strip_code {c : Char} {rest : List Char} (line : ¬ (c = '-' ∧ rest.head? = some '-'))
    (block : ¬ (c = '/' ∧ rest.head? = some '*')) :
    stripFrom .code (c :: rest) = c :: stripFrom .code rest := by
  rw [stripFrom]
  · rintro other rfl rfl
    exact line ⟨rfl, rfl⟩
  · rintro other rfl rfl
    exact block ⟨rfl, rfl⟩

theorem strip_solid {word : List Char} (solid : ∀ c ∈ word, Solid c) (tail : List Char) :
    stripFrom .code (word ++ tail) = word ++ stripFrom .code tail := by
  induction word with
  | nil => rfl
  | cons c rest ih =>
    obtain ⟨-, -, dash, slash⟩ := solid c mem_cons_self
    rw [cons_append, strip_code (fun both => dash both.1) (fun both => slash both.1),
      ih fun d member => solid d (mem_cons_of_mem c member), cons_append]

/-- Stripping leaves white space of a gap. -/
theorem strip_gap {state : CommentState} {gap : List Char} (whole : Gap state gap)
    (text : List Char) : ∃ blank, (∀ c ∈ blank, isWhitespace c = true) ∧
      stripFrom state (gap ++ text) = blank ++ stripFrom .code text := by
  induction whole with
  | nil => exact ⟨[], by simp, rfl⟩
  | @white c rest white _ ih =>
    obtain ⟨blank, spaces, same⟩ := ih
    have dash : c ≠ '-' := by
      rintro rfl
      exact absurd white (by decide)
    have slash : c ≠ '/' := by
      rintro rfl
      exact absurd white (by decide)
    refine ⟨c :: blank, forall_mem_cons.mpr ⟨white, spaces⟩, ?_⟩
    rw [cons_append, strip_code (fun both => dash both.1) (fun both => slash both.1), same,
      cons_append]
  | openLine _ ih | openBlock _ ih => exact ih
  | closeLine _ ih | closeBlock _ ih =>
    obtain ⟨blank, spaces, same⟩ := ih
    exact ⟨' ' :: blank, forall_mem_cons.mpr ⟨by decide, spaces⟩, congrArg (' ' :: ·) same⟩
  | inLine other _ ih =>
    obtain ⟨blank, spaces, same⟩ := ih
    refine ⟨blank, spaces, ?_⟩
    rw [cons_append, stripFrom, same]
    exact other
  | @inBlock c rest inside later ih =>
    obtain ⟨blank, spaces, same⟩ := ih
    refine ⟨blank, spaces, ?_⟩
    rw [cons_append, stripFrom, same]
    -- A gap that goes on in a block is not empty, so its next character is that of the text.
    cases later with
    | closeBlock _ =>
      rintro tail rfl next
      cases head_eq_of_cons_eq next
    | inBlock _ _ =>
      rintro tail rfl next
      cases head_eq_of_cons_eq next
      exact inside ⟨rfl, rfl⟩

/-- A blank that the stripper has left belongs to the white space in front. -/
theorem blank_first {blank left rest : List Char} {c d : Char}
    (white : ∀ c ∈ blank, isWhitespace c = true) (solid : isWhitespace c = false)
    (space : isWhitespace d = true) (same : d :: left = blank ++ c :: rest) :
    ∃ fewer, (∀ c ∈ fewer, isWhitespace c = true) ∧ left = fewer ++ c :: rest := by
  cases blank with
  | nil =>
    cases head_eq_of_cons_eq same
    exact absurd space (by simp [solid])
  | cons first fewer =>
    exact ⟨fewer, fun c member => white c (mem_cons_of_mem first member), tail_eq_of_cons_eq same⟩

/-- Text that is left behind white space stood behind a gap. -/
theorem gap_of_strip {state : CommentState} {text blank rest : List Char} {c : Char}
    (white : ∀ c ∈ blank, isWhitespace c = true) (solid : isWhitespace c = false)
    (stripped : stripFrom state text = blank ++ c :: rest) :
    ∃ gap tail, text = gap ++ c :: tail ∧ Gap state gap ∧ stripFrom .code tail = rest := by
  fun_induction stripFrom state text generalizing blank with
  | case1 text ih =>
    obtain ⟨fewer, spaces, same⟩ := blank_first white solid (by decide) stripped
    obtain ⟨gap, tail, rfl, whole, later⟩ := ih spaces same
    exact ⟨'\n' :: gap, tail, rfl, whole.closeLine, later⟩
  | case2 d text other ih =>
    obtain ⟨gap, tail, rfl, whole, later⟩ := ih white stripped
    exact ⟨d :: gap, tail, rfl, whole.inLine other, later⟩
  | case3 text ih =>
    obtain ⟨fewer, spaces, same⟩ := blank_first white solid (by decide) stripped
    obtain ⟨gap, tail, rfl, whole, later⟩ := ih spaces same
    exact ⟨'*' :: '/' :: gap, tail, rfl, whole.closeBlock, later⟩
  | case4 d text inside ih =>
    obtain ⟨gap, tail, rfl, whole, later⟩ := ih white stripped
    refine ⟨d :: gap, tail, rfl, whole.inBlock ?_, later⟩
    rintro ⟨rfl, next⟩
    obtain ⟨others, rfl⟩ := head?_eq_some_iff.mp next
    exact inside _ rfl rfl
  | case5 text ih =>
    obtain ⟨gap, tail, rfl, whole, later⟩ := ih white stripped
    exact ⟨'-' :: '-' :: gap, tail, rfl, whole.openLine, later⟩
  | case6 text ih =>
    obtain ⟨gap, tail, rfl, whole, later⟩ := ih white stripped
    exact ⟨'/' :: '*' :: gap, tail, rfl, whole.openBlock, later⟩
  | case7 d text lineless blockless ih =>
    cases space : isWhitespace d with
    | true =>
      obtain ⟨fewer, spaces, same⟩ := blank_first white solid space stripped
      obtain ⟨gap, tail, rfl, whole, later⟩ := ih spaces same
      exact ⟨d :: gap, tail, rfl, whole.white space, later⟩
    | false =>
      cases blank with
      | nil =>
        cases head_eq_of_cons_eq stripped
        exact ⟨[], text, rfl, .nil, tail_eq_of_cons_eq stripped⟩
      | cons first fewer =>
        cases head_eq_of_cons_eq stripped
        exact absurd (white d mem_cons_self) (by simp [space])
  | case8 => simp at stripped

/-- What the stripper puts out first where a comment opens is a space. -/
theorem head_of_comment (state : CommentState) (text : List Char) {c : Char}
    (comment : state ≠ .code) (first : (stripFrom state text).head? = some c) : c = ' ' :=
  (stripFrom_head state first).resolve_right fun both => comment both.1

/-- What is left of a text in code: nothing or a space where a comment opens, and otherwise its
first character. -/
theorem strip_cases (text : List Char) :
    text = [] ∨
    ((['-', '-'] <+: text ∨ ['/', '*'] <+: text) ∧
      ∀ c ∈ (stripFrom .code text).head?, c = ' ') ∨
    ∃ c rest, text = c :: rest ∧ ¬ ['-', '-'] <+: text ∧ ¬ ['/', '*'] <+: text ∧
      stripFrom .code text = c :: stripFrom .code rest := by
  cases text with
  | nil => exact .inl rfl
  | cons c rest =>
    by_cases line : ['-', '-'] <+: c :: rest
    · obtain ⟨left, same⟩ := line
      rw [← same]
      exact .inr (.inl ⟨.inl ⟨left, rfl⟩, fun d first =>
        head_of_comment .line left (by simp) first⟩)
    by_cases block : ['/', '*'] <+: c :: rest
    · obtain ⟨left, same⟩ := block
      rw [← same]
      exact .inr (.inl ⟨.inr ⟨left, rfl⟩, fun d first =>
        head_of_comment .block left (by simp) first⟩)
    refine .inr (.inr ⟨c, rest, rfl, line, block, strip_code ?_ ?_⟩)
    · rintro ⟨rfl, next⟩
      obtain ⟨left, rfl⟩ := head?_eq_some_iff.mp next
      exact line ⟨left, rfl⟩
    · rintro ⟨rfl, next⟩
      obtain ⟨left, rfl⟩ := head?_eq_some_iff.mp next
      exact block ⟨left, rfl⟩

/-- A solid word that comes first stood first. -/
theorem word_of_strip {word text rest : List Char} (solid : ∀ c ∈ word, Solid c)
    (stripped : stripFrom .code text = word ++ rest) :
    ∃ tail, text = word ++ tail ∧ stripFrom .code tail = rest := by
  induction word generalizing text with
  | nil => exact ⟨text, rfl, stripped⟩
  | cons c others ih =>
    rcases strip_cases text with rfl | ⟨-, blank⟩ | ⟨d, left, rfl, -, -, same⟩
    · simp [stripFrom] at stripped
    · have space : c = ' ' := blank c (by rw [stripped]; rfl)
      exact absurd (solid c mem_cons_self).1 (by rw [space]; decide)
    · rw [stripped] at same
      cases head_eq_of_cons_eq same
      obtain ⟨tail, rfl, later⟩ := ih (fun d member => solid d (mem_cons_of_mem c member))
        (tail_eq_of_cons_eq same).symm
      exact ⟨tail, rfl, later⟩

/-- Behind a word the text stops exactly if what is left of it ends the word. -/
theorem stops_iff (tail : List Char) : Stops tail ↔ Ends (stripFrom .code tail) := by
  rcases strip_cases tail with rfl | ⟨comment, blank⟩ | ⟨c, rest, rfl, line, block, same⟩
  · exact iff_of_true (.inl (by simp [Ends])) (by simp [Ends, stripFrom])
  · refine iff_of_true (.inr comment) fun c first => ?_
    rw [blank c first]
    exact .inr (by decide)
  · rw [same]
    simp only [Stops, line, block, or_false]
    rfl

/-! ### The dashboard's router -/

/-- The examined statement begins where the text without comments does, and leaves out white
space and semicolons at its end. -/
theorem statementOf_split (sql : List Char) : ∃ dropped,
    trimStart (stripComments sql) = statementOf sql ++ dropped ∧
      ∀ c ∈ dropped, c = ';' ∨ isWhitespace c = true := by
  have starts := List.head?_dropWhile_not isWhitespace (stripComments sql)
  rw [← trimStart] at starts
  obtain ⟨blanks, first, white⟩ := trimEndMatches_split isWhitespace
    (trimStart (stripComments sql))
  obtain ⟨marks, second, semicolons⟩ := trimEndMatches_split (· == ';')
    (trim (stripComments sql))
  have front : trimStart (trimEndMatches (· == ';') (trim (stripComments sql))) =
      trimEndMatches (· == ';') (trim (stripComments sql)) := by
    cases body : trimEndMatches (· == ';') (trim (stripComments sql)) with
    | nil => rfl
    | cons c rest =>
      rw [trim, trimEnd] at second body
      rw [first, second, body, cons_append, cons_append, head?_cons] at starts
      rw [trimStart, dropWhile_cons_of_neg (by simpa using starts)]
  obtain ⟨spaces, third, gaps⟩ := trimEndMatches_split isWhitespace
    (trimEndMatches (· == ';') (trim (stripComments sql)))
  have last : statementOf sql =
      trimEndMatches isWhitespace (trimEndMatches (· == ';') (trim (stripComments sql))) :=
    congrArg trimEnd front
  refine ⟨spaces ++ (marks ++ blanks), ?_, ?_⟩
  · calc trimStart (stripComments sql)
      _ = trim (stripComments sql) ++ blanks := first
      _ = (trimEndMatches (· == ';') (trim (stripComments sql)) ++ marks) ++ blanks := by
          rw [← second]
      _ = ((statementOf sql ++ spaces) ++ marks) ++ blanks := by rw [last, ← third]
      _ = statementOf sql ++ (spaces ++ (marks ++ blanks)) := by simp only [append_assoc]
  · intro c member
    rcases mem_append.mp member with space | other
    · exact .inr (gaps c space)
    rcases mem_append.mp other with mark | blank
    · exact .inl (by simpa using semicolons c mark)
    · exact .inr (white c blank)

/-- The first word of the statement is that of the text without comments, up to white space or
semicolons. -/
theorem statementOf_firstWord (sql : List Char) : ∃ blank rest,
    stripComments sql = blank ++ (firstWord (statementOf sql) ++ rest) ∧
      (∀ c ∈ blank, isWhitespace c = true) ∧ Ends rest := by
  obtain ⟨dropped, split, ends⟩ := statementOf_split sql
  obtain ⟨blank, tail, parts, white, stops⟩ := firstWord_split (statementOf sql)
  have front := takeWhile_append_dropWhile (p := isWhitespace) (l := stripComments sql)
  rw [← trimStart, split] at front
  refine ⟨(stripComments sql).takeWhile isWhitespace ++ blank, tail ++ dropped, ?_, ?_, ?_⟩
  · rw [append_assoc, ← append_assoc (firstWord _), ← append_assoc blank, ← parts, front]
  · intro c member
    exact (mem_append.mp member).elim (fun early => mem_takeWhile_imp early) (white c)
  · intro c head
    cases tail with
    | nil => exact ends c (mem_of_mem_head? head)
    | cons d others => exact .inr (stops c head)

/-- A solid word in front of the text without comments is in front of the statement. -/
theorem statementOf_word {sql blank word rest : List Char}
    (white : ∀ c ∈ blank, isWhitespace c = true) (nonempty : word ≠ [])
    (solid : ∀ c ∈ word, Solid c) (stripped : stripComments sql = blank ++ (word ++ rest)) :
    ∃ left, left <+: rest ∧ statementOf sql = word ++ left := by
  have trimmed (blank tail : List Char) (white : ∀ c ∈ blank, isWhitespace c = true) :
      trim (blank ++ (word ++ tail)) = word ++ trimEnd tail := by
    rw [trim, trimStart_append white, trimEnd,
      trimEndMatches_solid nonempty fun c member => (solid c member).1, ← trimEnd]
    obtain ⟨first, others, rfl⟩ := exists_cons_of_ne_nil nonempty
    intro c head
    cases Option.mem_some_iff.mp head
    exact (solid first mem_cons_self).1
  have shorter (drop : Char → Bool) (text : List Char) : trimEndMatches drop text <+: text := by
    obtain ⟨dropped, split, -⟩ := trimEndMatches_split drop text
    exact ⟨dropped, split.symm⟩
  refine ⟨trimEnd (trimEndMatches (· == ';') (trimEnd rest)), ?_, ?_⟩
  · exact (shorter _ _).trans ((shorter _ _).trans (shorter _ _))
  · rw [statementOf, stripped, trimmed blank rest white,
      trimEndMatches_solid nonempty fun c member => by simp [(solid c member).2.1],
      ← nil_append (word ++ _), trimmed [] _ (by simp)]

/-- The word the executor goes by. -/
def executorWord (upper : UpperCase) (sql : String) : String :=
  String.ofList (firstWord (upper.apply (statementOf sql.toList)))

/-- Where a text is not several statements, the executor's word is the one in front, white space
and comments aside. -/
theorem executorWord_iff (upper : UpperCase) {keyword : String} (reading : keyword ∈ readWords)
    {sql : String} (single : ';' ∉ statementOf sql.toList) :
    executorWord upper sql = keyword ↔ OpensBehind upper keyword sql.toList := by
  have spelled_iff : executorWord upper sql = keyword ↔
      upper.apply (firstWord (statementOf sql.toList)) = keyword.toList := by
    rw [executorWord, ← String.toList_inj, String.toList_ofList, firstWord_apply]
  rw [spelled_iff]
  constructor
  · intro spelled
    obtain ⟨nonempty, solid⟩ := solid_word upper reading spelled
    obtain ⟨blank, rest, stripped, white, ends⟩ := statementOf_firstWord sql.toList
    obtain ⟨first, others, word⟩ := exists_cons_of_ne_nil nonempty
    rw [word] at stripped solid spelled
    obtain ⟨gap, tail, text, whole, later⟩ :=
      gap_of_strip white (solid first mem_cons_self).1 stripped
    obtain ⟨behind, rfl, same⟩ :=
      word_of_strip (fun d member => solid d (mem_cons_of_mem first member)) later
    exact ⟨gap, first :: others, behind, text, whole, spelled, (stops_iff behind).mpr (same ▸ ends)⟩
  · rintro ⟨gap, word, tail, split, whole, spelled, stops⟩
    obtain ⟨nonempty, solid⟩ := solid_word upper reading spelled
    obtain ⟨blank, white, stripped⟩ := strip_gap whole (word ++ tail)
    rw [← split, strip_solid solid] at stripped
    obtain ⟨left, ⟨others, shorter⟩, same⟩ := statementOf_word white nonempty solid stripped
    have ends := (stops_iff tail).mp stops
    have inside : ∀ c ∈ word, (!isWhitespace c) = true := fun c member => by
      simp [(solid c member).1]
    have stop : left.takeWhile (fun c => !isWhitespace c) = [] := by
      cases left with
      | nil => rfl
      | cons c rest =>
        rcases ends c (by rw [← shorter]; rfl) with rfl | space
        · exact absurd (same ▸ mem_append_right word mem_cons_self) single
        · simp [space]
    have front : trimStart (word ++ left) = word ++ left := by
      obtain ⟨first, rest, rfl⟩ := exists_cons_of_ne_nil nonempty
      simp [trimStart, (solid first mem_cons_self).1]
    rw [same, firstWord, front, takeWhile_append_of_pos inside, stop, append_nil, spelled]

/-- What keeps a text with the leader whatever its first word: a semicolon inside it, the name
of a view that only the leader fills, and in a query the word that creates a table. -/
def KeepsWithLeader (upper : UpperCase) (keyword : String) (text : List Char) : Prop :=
  ';' ∈ statementOf text ∨
    "PG_STAT_REPLICATION".toList <:+: upper.apply (statementOf text) ∨
    (keyword = "SELECT" ∧ "INTO ".toList <:+: upper.apply (statementOf text))

theorem leader_unrequired_iff (upper : UpperCase) (sql : String) :
    isLeaderRequired upper sql = false ↔ ∃ keyword ∈ readWords,
      OpensBehind upper keyword sql.toList ∧ ¬ KeepsWithLeader upper keyword sql.toList := by
  have opens (keyword : String) (reading : keyword ∈ readWords)
      (free : ¬ KeepsWithLeader upper keyword sql.toList) :
      executorWord upper sql = keyword ↔ OpensBehind upper keyword sql.toList :=
    executorWord_iff upper reading fun inside => free (.inl inside)
  rw [exists_reading_iff opens, KeepsWithLeader, ← Text.contains_iff, ← Text.contains_iff]
  unfold isLeaderRequired executorWord
  dsimp only
  generalize String.ofList _ = word
  generalize contains "PG_STAT_REPLICATION".toList _ = view
  generalize contains "INTO ".toList _ = into
  split
  next inside => simp [List.contains_iff_mem.mp inside]
  next unsplit =>
    have single : ';' ∉ statementOf sql.toList := mt List.contains_iff_mem.mpr unsplit
    cases view with
    | true => simp
    | false =>
      by_cases select : word = "SELECT"
      · simp [select, single, readWords]
      · have listed : word ∈ readWords ↔ word ∈ ["SHOW", "EXPLAIN"] := by simp [readWords, select]
        simp [select, single, listed, or_iff_not_imp_left]

/-- A text that begins with a keyword does so with comments in front or not. -/
theorem Opens.behind (upper : UpperCase) {keyword : String} (reading : keyword ∈ readWords)
    {text : List Char} (opens : Opens keyword text) : OpensBehind upper keyword text := by
  obtain ⟨blank, word, semicolons, tail, split, white, spelled, marks, ends⟩ := opens
  have gap : Gap .code blank := by
    clear split
    induction blank with
    | nil => exact .nil
    | cons c rest ih =>
      exact (ih fun d member => white d (mem_cons_of_mem c member)).white (white c mem_cons_self)
  exact ⟨blank, word, semicolons ++ tail, split, gap,
    upper_word upper spelled (readWords_ascii reading), .inl (ends_semicolons marks ends)⟩

/-- The two routers give the same answer for a text outside a transaction exactly if, where it
begins with a reading keyword, it names a function that writes where the executor finds something
that keeps it with the leader; and if so does a text that begins with the keyword only when its
comments are taken away. -/
theorem routers_agree_iff (upper : UpperCase) (inManualTx : Bool) (sql : String) :
    (TransactionTracker.mk .idle inManualTx).requiresLeader sql = isLeaderRequired upper sql ↔
      ∀ keyword ∈ readWords,
        (Opens keyword sql.toList → ((keyword = "SELECT" ∧ CallsWriting sql.toList) ↔
          KeepsWithLeader upper keyword sql.toList)) ∧
        (¬ Opens keyword sql.toList → OpensBehind upper keyword sql.toList →
          KeepsWithLeader upper keyword sql.toList) := by
  have answers : ((TransactionTracker.mk .idle inManualTx).requiresLeader sql =
      isLeaderRequired upper sql) ↔
        (classifyQuery sql = .read ↔ isLeaderRequired upper sql = false) := by
    rw [Bool.eq_iff_iff, requires_leader_iff]
    cases isLeaderRequired upper sql <;> simp
  rw [answers, classify_read_iff, leader_unrequired_iff]
  have same_tracker {first second : String} (reading : first ∈ readWords)
      (other : second ∈ readWords) (left : Opens first sql.toList)
      (right : Opens second sql.toList) : first = second :=
    ((trackerWord_iff reading sql).mpr left).symm.trans ((trackerWord_iff other sql).mpr right)
  have same_executor {first second : String} (reading : first ∈ readWords)
      (other : second ∈ readWords) (single : ';' ∉ statementOf sql.toList)
      (left : OpensBehind upper first sql.toList) (right : OpensBehind upper second sql.toList) :
      first = second :=
    ((executorWord_iff upper reading single).mpr left).symm.trans
      ((executorWord_iff upper other single).mpr right)
  constructor
  · intro agree keyword reading
    constructor
    · intro opens
      constructor
      · intro calls
        by_contra free
        obtain ⟨other, listed, front, plain⟩ :=
          agree.mpr ⟨keyword, reading, opens.behind upper reading, free⟩
        cases same_tracker reading listed opens front
        exact plain calls
      · intro kept
        by_contra plain
        obtain ⟨other, listed, front, free⟩ := agree.mp ⟨keyword, reading, opens, plain⟩
        have single : ';' ∉ statementOf sql.toList := fun inside => free (.inl inside)
        cases same_executor reading listed single (opens.behind upper reading) front
        exact free kept
    · intro unopened behind
      by_contra free
      obtain ⟨other, listed, front, -⟩ := agree.mpr ⟨keyword, reading, behind, free⟩
      have single : ';' ∉ statementOf sql.toList := fun inside => free (.inl inside)
      cases same_executor reading listed single behind (front.behind upper listed)
      exact unopened front
  · intro kinds
    constructor
    · rintro ⟨keyword, reading, opens, plain⟩
      exact ⟨keyword, reading, opens.behind upper reading,
        fun kept => plain (((kinds keyword reading).1 opens).mpr kept)⟩
    · rintro ⟨keyword, reading, behind, free⟩
      by_cases opens : Opens keyword sql.toList
      · exact ⟨keyword, reading, opens,
          fun calls => free (((kinds keyword reading).1 opens).mp calls)⟩
      · exact absurd ((kinds keyword reading).2 opens behind) free

/-- A comment in front, a query into a table, a function that writes, a view of the leader and
a semicolon in a literal: each of these single statements is routed both ways. -/
theorem routers_disagree :
    ["/* a */ SELECT 1", "SELECT * INTO u FROM t", "SELECT pg_switch_wal()",
        "SELECT * FROM pg_stat_replication", "SELECT ';'"].map
      (fun sql => ((TransactionTracker.mk .idle false).requiresLeader sql,
        isLeaderRequired asciiUpperCase sql)) =
      [(true, false), (false, true), (true, false), (false, true), (false, true)] := by
  decide +kernel

end PgVisor.LeaderRouting
