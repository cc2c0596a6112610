import PgVisor.Text

/-!
# Tokens of PostgreSQL text

A scanner for the lexical rules of PostgreSQL, with strings that conform to the standard.
It reads one character at a time and keeps what it has read of the current token, so that
scans compose over an append: what a piece of text yields depends on the rest only through
the character that follows it. Comments separate tokens and block comments nest; quotes
inside quoted names and strings are doubled; the strings of an `E` prefix have backslash
escapes; dollar quotes end at their own tag. An operator ends where a comment begins, and
gives up trailing signs unless it holds one of the characters that allow them.

Names and keywords are one kind of token, in the letters they were written with. Escapes are
kept in the letters of their second character, adjacent strings are not joined, and a
malformed number is passed on as it was read.
-/

namespace PgVisor.SqlTokens

open List hiding contains

/-- The tokens of a statement. -/
inductive Token where
  | word (text : List Char)
  | identifier (name : List Char)
  | string (content : List Char)
  | number (text : List Char)
  | operator (text : List Char)
  | symbol (c : Char)
  | unterminated
deriving DecidableEq, Repr

def isSpace (c : Char) : Bool :=
  c == ' ' || c == '\t' || c == '\n' || c == '\r' || c == '\x0b' || c == '\x0c'

def startsWord (c : Char) : Bool :=
  c.isAlpha || c == '_' || decide (128 ≤ c.toNat)

def continuesWord (c : Char) : Bool :=
  startsWord c || c.isDigit || c == '$'

def operatorChars : List Char := "~!@#^&|`?+-*/%<>=".toList

/-- Operators that hold one of these may end in a sign. -/
def signedOperatorChars : List Char := "~!@#%^&|`?".toList

def isSign (c : Char) : Bool := c == '+' || c == '-'

/-- How far a number has been read. -/
inductive NumberPart where
  | whole
  | fraction
  | exponentMark
  | exponentSign
  | exponent
deriving DecidableEq, Repr

def NumberPart.next : NumberPart → Char → Option NumberPart
  | .whole, c =>
    if c.isDigit then some .whole
    else if c = '.' then some .fraction
    else if c = 'e' ∨ c = 'E' then some .exponentMark
    else none
  | .fraction, c =>
    if c.isDigit then some .fraction
    else if c = 'e' ∨ c = 'E' then some .exponentMark
    else none
  | .exponentMark, c =>
    if c.isDigit then some .exponent
    else if isSign c then some .exponentSign
    else none
  | .exponentSign, c => if c.isDigit then some .exponent else none
  | .exponent, c => if c.isDigit then some .exponent else none

/-- Where a scan stands. What has been read of a token is kept last character first. -/
inductive LexState where
  | between
  | word (read : List Char)
  | number (part : NumberPart) (read : List Char)
  | quotedName (read : List Char)
  | quotedNameEnd (read : List Char)
  | string (escapes : Bool) (read : List Char)
  | stringEscape (read : List Char)
  | stringEnd (escapes : Bool) (read : List Char)
  | dollarTag (tag : List Char)
  | dollarBody (delimiter body : List Char)
  | operator (read : List Char)
  | lineComment
  | blockComment (depth : Nat) (last : Option Char)
deriving DecidableEq, Repr

/-- Tokens that are complete, and the state after them. -/
abbrev Lexed := List Token × LexState

def Lexed.after (token : Token) (lexed : Lexed) : Lexed := (token :: lexed.1, lexed.2)

/-- A character that begins something new. -/
def begin (c : Char) : Lexed :=
  if isSpace c then ([], .between)
  else if c = '\'' then ([], .string false [])
  else if c = '"' then ([], .quotedName [])
  else if c = '$' then ([], .dollarTag [])
  else if c.isDigit then ([], .number .whole [c])
  else if startsWord c then ([], .word [c])
  else if c ∈ operatorChars then ([], .operator [c])
  else ([.symbol c], .between)

/-- The tokens of a run of operator characters, read last character first. -/
def operatorTokens (read : List Char) : List Token :=
  if read = [] then []
  else if read.any (fun c => c ∈ signedOperatorChars) then [.operator read.reverse]
  else
    let signs := (read.takeWhile isSign).reverse.map fun c => Token.operator [c]
    let body := read.dropWhile isSign
    if body = [] then signs else .operator body.reverse :: signs

def lexWord (read : List Char) (c : Char) : Lexed :=
  if continuesWord c then ([], .word (c :: read))
  else if c = '\'' ∧ (read = ['e'] ∨ read = ['E']) then ([], .string true [])
  else .after (.word read.reverse) (begin c)

def lexOperator (read : List Char) (c : Char) : Lexed :=
  if c = '-' ∧ read.head? = some '-' then (operatorTokens read.tail, .lineComment)
  else if c = '*' ∧ read.head? = some '/' then (operatorTokens read.tail, .blockComment 1 none)
  else if c ∈ operatorChars then ([], .operator (c :: read))
  else (operatorTokens read ++ (begin c).1, (begin c).2)

def lexDollar (tag : List Char) (c : Char) : Lexed :=
  if c = '$' then ([], .dollarBody ('$' :: tag ++ ['$']) [])
  -- a dollar sign before a digit is a parameter
  else if continuesWord c ∧ (tag ≠ [] ∨ ¬ c.isDigit) then ([], .dollarTag (c :: tag))
  else if tag = [] then .after (.symbol '$') (begin c)
  else .after (.symbol '$') (lexWord tag c)

/-- One character. -/
def lexStep : LexState → Char → Lexed
  | .between, c => begin c
  | .word read, c => lexWord read c
  | .number part read, c =>
    match part.next c with
    | some next => ([], .number next (c :: read))
    | none => .after (.number read.reverse) (begin c)
  | .quotedName read, c =>
    if c = '"' then ([], .quotedNameEnd read) else ([], .quotedName (c :: read))
  | .quotedNameEnd read, c =>
    if c = '"' then ([], .quotedName ('"' :: read))
    else .after (.identifier read.reverse) (begin c)
  | .string escapes read, c =>
    if c = '\'' then ([], .stringEnd escapes read)
    else if c = '\\' ∧ escapes then ([], .stringEscape read)
    else ([], .string escapes (c :: read))
  | .stringEscape read, c => ([], .string true (c :: read))
  | .stringEnd escapes read, c =>
    if c = '\'' then ([], .string escapes ('\'' :: read))
    else .after (.string read.reverse) (begin c)
  | .dollarTag tag, c => lexDollar tag c
  | .dollarBody delimiter body, c =>
    -- the delimiter is kept last character first, as the body is
    if delimiter.isPrefixOf (c :: body) then
      ([.string ((c :: body).drop delimiter.length).reverse], .between)
    else ([], .dollarBody delimiter (c :: body))
  | .operator read, c => lexOperator read c
  | .lineComment, c =>
    if c = '\n' ∨ c = '\r' then ([], .between) else ([], .lineComment)
  | .blockComment depth last, c =>
    if last = some '/' ∧ c = '*' then ([], .blockComment (depth + 1) none)
    else if last = some '*' ∧ c = '/' then
      ([], if depth ≤ 1 then .between else .blockComment (depth - 1) none)
    else ([], .blockComment depth (some c))

/-- What is left at the end of the text. -/
def finish : LexState → List Token
  | .between | .lineComment => []
  | .word read => [.word read.reverse]
  | .number _ read => [.number read.reverse]
  | .quotedNameEnd read => [.identifier read.reverse]
  | .stringEnd _ read => [.string read.reverse]
  | .dollarTag [] => [.symbol '$']
  | .dollarTag tag => [.symbol '$', .word tag.reverse]
  | .operator read => operatorTokens read
  | .quotedName _ | .string _ _ | .stringEscape _ | .dollarBody _ _ | .blockComment _ _ =>
    [.unterminated]

/-- The tokens completed by a text, and the state behind it. -/
def scan : LexState → List Char → Lexed
  | state, [] => ([], state)
  | state, c :: rest =>
    let (first, next) := lexStep state c
    let (later, final) := scan next rest
    (first ++ later, final)

/-- The tokens of a text that is read from a given state. -/
def tokensFrom (state : LexState) (text : List Char) : List Token :=
  (scan state text).1 ++ finish (scan state text).2

/-- The tokens of a whole text. -/
def tokens (text : List Char) : List Token := tokensFrom .between text

variable {token : Token} {last : NumberPart}

theorem scan_cons (state : LexState) (c : Char) (rest : List Char) : scan state (c :: rest) =
      ((lexStep state c).1 ++ (scan (lexStep state c).2 rest).1,
        (scan (lexStep state c).2 rest).2) := rfl

/-- Scanning goes on where it stopped. -/
theorem scan_append (state : LexState) (first second : List Char) : scan state (first ++ second) =
      ((scan state first).1 ++ (scan (scan state first).2 second).1,
        (scan (scan state first).2 second).2) := by
  induction first generalizing state with
  | nil => rfl
  | cons c rest ih =>
    rw [cons_append, scan_cons, ih, scan_cons]
    simp only [append_assoc]

theorem tokensFrom_cons (state : LexState) (c : Char) (rest : List Char) :
    tokensFrom state (c :: rest) = (lexStep state c).1 ++ tokensFrom (lexStep state c).2 rest := by
  rw [tokensFrom, scan_cons, tokensFrom, append_assoc]

/-- Reading on after a piece of text. -/
theorem tokensFrom_append (state : LexState) (first second : List Char) :
    tokensFrom state (first ++ second) =
      (scan state first).1 ++ tokensFrom (scan state first).2 second := by
  rw [tokensFrom, scan_append, tokensFrom, append_assoc]

example : tokens "SELECT /* a /* b */ ; */ 'it''s'; -- x".toList =
    [.word "SELECT".toList, .string "it's".toList, .symbol ';'] := by decide

/-! ### Words and symbols stand in the text -/

variable {c : Char} {state : LexState} {text : List Char}

theorem startsWord_continues (starts : startsWord c = true) : continuesWord c = true := by
  simp [continuesWord, starts]

/-- The part of a word that has been read. -/
def LexState.pending : LexState → List Char
  | .word read => read.reverse
  | .dollarTag tag => tag.reverse
  | _ => []

/-- A character completes the word that was being read, unless it continues it; the symbols
are the character itself and a dollar sign left over. -/
def Token.Completes (pending : List Char) (c : Char) : Token → Prop
  | .word text => text = pending ∧ continuesWord c = false
  | .symbol s => s = c ∨ s = '$'
  | _ => True

/-- What a step completes, and what it keeps of the word. -/
def Completes (pending : List Char) (c : Char) (lexed : Lexed) : Prop :=
  (∀ token ∈ lexed.1, token.Completes pending c) ∧ lexed.2.pending <:+ pending ++ [c]

variable {pending : List Char} {first : List Token}

/-- Nothing new begins in the middle of a word. -/
theorem completes_begin (earlier : ∀ token ∈ first, token.Completes pending c) :
    Completes pending c (first ++ (begin c).1, (begin c).2) := by
  have fresh : (∀ token ∈ (begin c).1, token = .symbol c) ∧ (begin c).2.pending <:+ [c] := by
    unfold begin
    repeat' split
    all_goals simp [LexState.pending]
  refine ⟨forall_mem_append.mpr ⟨earlier, fun token new => ?_⟩, ?_⟩
  · rw [fresh.1 token new]
    exact .inl rfl
  · exact fresh.2.trans (suffix_append pending [c])

/-- A state without a word in it keeps none. -/
theorem completes_nothing (earlier : ∀ token ∈ first, token.Completes pending c)
    (empty : state.pending = []) : Completes pending c (first, state) := by
  refine ⟨earlier, ?_⟩
  rw [empty]
  exact nil_suffix

theorem operatorTokens_complete (read : List Char) :
    ∀ token ∈ operatorTokens read, token.Completes pending c := by
  unfold operatorTokens
  split
  · simp
  split
  · simp [Token.Completes]
  dsimp only
  split
  all_goals simp [Token.Completes]

/-- One more completed token. -/
theorem Completes.after {lexed} (completes : Completes pending c lexed)
    (here : token.Completes pending c) : Completes pending c (lexed.after token) :=
  ⟨forall_mem_cons.mpr ⟨here, completes.1⟩, completes.2⟩

/-- A fresh start completes no pending word. -/
theorem completes_fresh (pending : List Char) (c : Char) : Completes pending c (begin c) :=
  @completes_begin c pending [] nofun

/-- A token is complete where something new begins. -/
theorem completes_token (here : token.Completes pending c) :
    Completes pending c ((begin c).after token) :=
  (completes_fresh pending c).after here

/-- A word is completed as it was read. -/
theorem completes_word (read : List Char) (c : Char) :
    Completes read.reverse c (lexWord read c) := by
  unfold lexWord
  split
  · exact ⟨nofun, by simp [LexState.pending]⟩
  next ends =>
    split
    · exact completes_nothing nofun rfl
    · exact completes_token ⟨rfl, Bool.eq_false_iff.mpr ends⟩

/-- So is the tag of a dollar quote. -/
theorem completes_dollar (tag : List Char) (c : Char) :
    Completes tag.reverse c (lexDollar tag c) := by
  unfold lexDollar
  split
  · exact completes_nothing nofun rfl
  split
  · exact ⟨nofun, by simp [LexState.pending]⟩
  split
  · exact completes_token (Or.inr rfl)
  · exact (completes_word tag c).after (Or.inr rfl : Token.Completes _ _ (.symbol '$'))

/-- Operators complete no word. -/
theorem completes_operator (read : List Char) : Completes pending c (lexOperator read c) := by
  unfold lexOperator
  split
  · exact completes_nothing (operatorTokens_complete read.tail) rfl
  split
  · exact completes_nothing (operatorTokens_complete read.tail) rfl
  split
  · exact completes_nothing nofun rfl
  · exact completes_begin (operatorTokens_complete read)

/-- Each character completes what was pending. -/
theorem step_completes (state : LexState) (c : Char) :
    Completes state.pending c (lexStep state c) := by
  cases state with
  | between => exact completes_fresh [] c
  | word read => exact completes_word read c
  | dollarTag tag => exact completes_dollar tag c
  | operator read => exact completes_operator read
  | stringEscape read => exact completes_nothing nofun rfl
  | number part read =>
    simp only [lexStep]
    split
    · exact completes_nothing nofun rfl
    · exact completes_token trivial
  | quotedNameEnd read =>
    simp only [lexStep]
    split
    · exact completes_nothing nofun rfl
    · exact completes_token trivial
  | stringEnd escapes read =>
    simp only [lexStep]
    split
    · exact completes_nothing nofun rfl
    · exact completes_token trivial
  | quotedName read | lineComment =>
    simp only [lexStep]
    split
    all_goals exact completes_nothing nofun rfl
  | string escapes read =>
    simp only [lexStep]
    split
    · exact completes_nothing nofun rfl
    split
    all_goals exact completes_nothing nofun rfl
  | dollarBody delimiter body =>
    simp only [lexStep]
    split
    · exact completes_nothing (by simp [Token.Completes]) rfl
    · exact completes_nothing nofun rfl
  | blockComment depth last =>
    simp only [lexStep]
    split
    · exact completes_nothing nofun rfl
    split
    · refine completes_nothing nofun ?_
      split
      · rfl
      · rfl
    · exact completes_nothing nofun rfl

/-- The end of the text completes a word as a character does that does not continue it. -/
theorem finish_completes (member : token ∈ finish state) :
    token.Completes state.pending '$' ∨ token = .word state.pending := by
  cases state with
  | word read => exact .inr (by simpa [finish, LexState.pending] using member)
  | dollarTag tag =>
    cases tag with
    | nil => exact .inl (by simp_all [finish, Token.Completes])
    | cons c rest =>
      simp only [finish, mem_cons, not_mem_nil, or_false] at member
      rcases member with rfl | rfl
      · exact .inl (.inr rfl)
      · exact .inr rfl
  | operator read => exact .inl (operatorTokens_complete read token member)
  | between | number part read | quotedName read | quotedNameEnd read | string escapes read
  | stringEscape read | stringEnd escapes read | dollarBody delimiter body | lineComment
  | blockComment depth last => exact .inl (by simp_all [finish, Token.Completes])

/-- Behind the text in front, the word is the one that a scan of both has just read. -/
def Stands (before word : List Char) : Prop :=
  (scan .between (before ++ word)).2.pending = word

instance (before word : List Char) : Decidable (Stands before word) :=
  inferInstanceAs (Decidable (_ = _))

/-- The state behind one more character. -/
theorem scan_snoc (state : LexState) (text : List Char) (c : Char) :
    (scan state (text ++ [c])).2 = (lexStep (scan state text).2 c).2 := by
  rw [scan_append]
  rfl

/-- What has been read of a word stands at the end of the text that was read. -/
theorem pending_suffix (text : List Char) : (scan .between text).2.pending <:+ text := by
  induction text using List.reverseRecOn with
  | nil => exact nil_suffix
  | append_singleton text c ih =>
    obtain ⟨before, split⟩ := ih
    rw [scan_snoc]
    refine (step_completes _ c).2.trans ⟨before, ?_⟩
    rw [← append_assoc, split]

/-- A pending word stands at the end of the text. -/
theorem stands_of_pending {read word : List Char}
    (whole : word = (scan .between read).2.pending) :
    ∃ before, read = before ++ word ∧ Stands before word := by
  obtain ⟨before, split⟩ := pending_suffix read
  rw [← whole] at split
  exact ⟨before, split.symm, by rw [Stands, split, ← whole]⟩

/-- Every word of the rest of a text stands in the text, up to a character that does not continue
it. -/
theorem word_stands_behind (read text word : List Char)
    (member : .word word ∈ tokensFrom (scan .between read).2 text) :
    ∃ before after, read ++ text = before ++ word ++ after ∧ Stands before word ∧
      ∀ c ∈ after.head?, continuesWord c = false := by
  induction text generalizing read with
  | nil =>
    have whole : word = (scan .between read).2.pending := by
      rcases finish_completes (by simpa [tokensFrom, scan] using member) with ends | same
      · exact ends.1
      · exact Token.word.inj same
    obtain ⟨before, split, stands⟩ := stands_of_pending whole
    exact ⟨before, [], by simp [split], stands, by simp⟩
  | cons c rest ih =>
    rw [tokensFrom_cons] at member
    rcases mem_append.mp member with now | later
    · obtain ⟨whole, ends⟩ := (step_completes _ c).1 _ now
      obtain ⟨before, split, stands⟩ := stands_of_pending whole
      exact ⟨before, c :: rest, by simp [split], stands, by simpa using ends⟩
    · rw [← scan_snoc] at later
      simpa only [append_assoc, singleton_append] using ih (read ++ [c]) later

/-- Every word of a text stands in it, up to a character that does not continue it. -/
theorem word_stands (text word : List Char) (member : .word word ∈ tokens text) :
    ∃ before after, text = before ++ word ++ after ∧ Stands before word ∧
      ∀ c ∈ after.head?, continuesWord c = false :=
  word_stands_behind [] text word member

/-- A symbol is in the text. -/
theorem symbol_stands (state : LexState) (text : List Char) {s} (other : s ≠ '$')
    (member : .symbol s ∈ tokensFrom state text) : s ∈ text := by
  induction text generalizing state with
  | nil =>
    rcases finish_completes (by simpa [tokensFrom, scan] using member) with ends | same
    · exact absurd (or_self_iff.mp ends) other
    · cases same
  | cons c rest ih =>
    rw [tokensFrom_cons] at member
    rcases mem_append.mp member with now | later
    · rcases (step_completes state c).1 _ now with rfl | dollar
      · exact mem_cons_self
      · exact absurd dollar other
    · exact mem_cons_of_mem c (ih _ later)

/-! ### Pieces of text -/

/-- Characters that end every token and belong to none but themselves. -/
def separators : List Char := [' ', ',', ';']

/-- In front of every separator the text reads as these tokens. -/
def Reads (text : List Char) (read : List Token) : Prop :=
  ∀ c ∈ separators, ∀ rest, tokensFrom .between (text ++ c :: rest) =
    read ++ ((begin c).1 ++ tokensFrom (begin c).2 rest)

/-- A text that is one token, which a separator completes. -/
theorem reads_of_scan (scanned : scan .between text = ([], state))
    (ends : ∀ c ∈ separators, lexStep state c = .after token (begin c)) : Reads text [token] := by
  intro c separator rest
  rw [tokensFrom_append, scanned, tokensFrom_cons, ends c separator]
  rfl

variable {second : List Char} {left right : List Token}

/-- Two texts with a blank between them. -/
theorem Reads.space (leading : Reads text left) (trailing : Reads second right) :
    Reads (text ++ ' ' :: second) (left ++ right) := by
  intro c separator rest
  have blank : begin ' ' = ([], .between) := by decide
  rw [append_assoc, cons_append, leading ' ' (by decide), blank, nil_append,
    trailing c separator, append_assoc]

/-- Two texts with a comma between them. -/
theorem Reads.comma (leading : Reads text left) (trailing : Reads second right) :
    Reads (text ++ ',' :: ' ' :: second) (left ++ .symbol ',' :: right) := by
  intro c separator rest
  have comma : begin ',' = ([.symbol ','], .between) := by decide
  have blank : lexStep .between ' ' = ([], .between) := by decide
  rw [append_assoc, cons_append, cons_append, leading ',' (by decide), comma,
    tokensFrom_cons, blank, nil_append, trailing c separator]
  simp only [append_assoc, cons_append, nil_append]

/-- A text that ends with a semicolon. -/
theorem Reads.terminated (reads : Reads text left) :
    tokens (text ++ [';']) = left ++ [.symbol ';'] :=
  reads ';' (by decide) []

/-- A separator ends a word. -/
theorem lexWord_separator (read : List Char) (separator : c ∈ separators) :
    lexWord read c = .after (.word read.reverse) (begin c) := by
  simp only [separators, mem_cons, not_mem_nil, or_false] at separator
  rcases separator with rfl | rfl | rfl
  all_goals simp [lexWord, continuesWord, startsWord]

/-- A word is read to its end. -/
theorem scan_word (read text : List Char) (continues : ∀ c ∈ text, continuesWord c = true) :
    scan (.word read) text = ([], .word (text.reverse ++ read)) := by
  induction text generalizing read with
  | nil => rfl
  | cons c rest ih =>
    have here : lexStep (.word read) c = ([], .word (c :: read)) := by
      simp [lexStep, lexWord, continues c mem_cons_self]
    have later : ∀ c ∈ rest, continuesWord c = true := by
      intro other member
      exact continues other (mem_cons_of_mem c member)
    rw [scan_cons, here, ih (c :: read) later]
    simp

variable {rest : List Char}

/-- A word reads as itself. -/
theorem reads_word {first} (starts : begin first = ([], .word [first]))
    (continues : rest.all continuesWord = true) :
    Reads (first :: rest) [.word (first :: rest)] := by
  have scanned : scan .between (first :: rest) = ([], .word (rest.reverse ++ [first])) := by
    rw [scan_cons, lexStep, starts, scan_word [first] rest (all_eq_true.mp continues)]
    rfl
  apply reads_of_scan scanned
  intro c separator
  rw [lexStep, lexWord_separator _ separator]
  simp

/-- A quoted name reads as its content if that holds no quote. -/
theorem reads_identifier {name : List Char} (plain : '"' ∉ name) :
    Reads ('"' :: (name ++ ['"'])) [.identifier name] := by
  have body : ∀ read, scan (.quotedName read) (name ++ ['"']) =
      ([], .quotedNameEnd (name.reverse ++ read)) := by
    induction name with
    | nil => intro read; rfl
    | cons c rest ih =>
      intro read
      have other : c ≠ '"' := fun same => plain (same ▸ mem_cons_self)
      have here : lexStep (.quotedName read) c = ([], .quotedName (c :: read)) := by
        simp [lexStep, other]
      have later : '"' ∉ rest := fun member => plain (mem_cons_of_mem c member)
      rw [cons_append, scan_cons, here, ih later]
      simp
  have scanned : scan .between ('"' :: (name ++ ['"'])) = ([], .quotedNameEnd name.reverse) := by
    have opened : lexStep .between '"' = ([], .quotedName []) := by decide
    rw [scan_cons, opened, body]
    simp
  apply reads_of_scan scanned
  intro c separator
  have other : c ≠ '"' := by
    rintro rfl
    exact absurd separator (by decide)
  simp [lexStep, other]

/-- The text with its quotes doubled. -/
def doubled (text : List Char) : List Char :=
  text.flatMap fun c => if c = '\'' then ['\'', '\''] else [c]

/-- A string constant reads as the text whose quotes were doubled. -/
theorem reads_string (content : List Char) :
    Reads ('\'' :: (doubled content ++ ['\''])) [.string content] := by
  have body : ∀ read, scan (.string false read) (doubled content ++ ['\'']) =
      ([], .stringEnd false (content.reverse ++ read)) := by
    induction content with
    | nil => intro read; rfl
    | cons c rest ih =>
      intro read
      rw [doubled, flatMap_cons, ← doubled]
      by_cases quote : c = '\''
      · subst quote
        have doubledQuote : scan (.string false read) ['\'', '\''] =
            ([], .string false ('\'' :: read)) := by
          simp [scan, lexStep]
        rw [if_pos rfl, append_assoc, scan_append, doubledQuote, ih]
        simp
      · have plain : scan (.string false read) [c] = ([], .string false (c :: read)) := by
          simp [scan, lexStep, quote]
        rw [if_neg quote, append_assoc, scan_append, plain, ih]
        simp
  have scanned : scan .between ('\'' :: (doubled content ++ ['\''])) =
      ([], .stringEnd false content.reverse) := by
    have opened : lexStep .between '\'' = ([], .string false []) := by decide
    rw [scan_cons, opened, body]
    simp
  apply reads_of_scan scanned
  intro c separator
  have other : c ≠ '\'' := by
    rintro rfl
    exact absurd separator (by decide)
  simp [lexStep, other]

/-- How far a text takes a number. -/
def NumberPart.read (part : NumberPart) : List Char → Option NumberPart
  | [] => some part
  | c :: rest => (part.next c).bind fun next => next.read rest

/-- So is a number. -/
theorem scan_number {part} (read text : List Char) (reads : part.read text = some last) :
    scan (.number part read) text = ([], .number last (text.reverse ++ read)) := by
  induction text generalizing part read with
  | nil =>
    cases reads
    rfl
  | cons c rest ih =>
    obtain ⟨next, moved, later⟩ := Option.bind_eq_some_iff.mp reads
    have here : lexStep (.number part read) c = ([], .number next (c :: read)) := by
      simp [lexStep, moved]
    rw [scan_cons, here, ih (c :: read) later]
    simp

/-- A separator ends a number. -/
theorem next_separator (part : NumberPart) (separator : c ∈ separators) : part.next c = none := by
  simp only [separators, mem_cons, not_mem_nil, or_false] at separator
  rcases separator with rfl | rfl | rfl
  all_goals cases part <;> rfl

theorem begin_digit (digit : c.isDigit = true) : begin c = ([], .number .whole [c]) := by
  have other : ∀ d : Char, d.isDigit = false → c ≠ d := by
    rintro d nondigit rfl
    exact absurd digit (by simp [nondigit])
  have solid : isSpace c = false := by
    simp [isSpace, other]
  simp [begin, solid, other, digit]

/-- A number reads as itself. -/
theorem reads_number {first} (digit : first.isDigit = true)
    (reads : NumberPart.read .whole rest = some last) :
    Reads (first :: rest) [.number (first :: rest)] := by
  have scanned : scan .between (first :: rest) = ([], .number last (rest.reverse ++ [first])) := by
    rw [scan_cons, lexStep, begin_digit digit, scan_number [first] rest reads]
    rfl
  apply reads_of_scan scanned
  intro c separator
  simp [lexStep, next_separator last separator]

/-- A sign in front of a number is an operator of its own. -/
theorem reads_signed {first} (digit : first.isDigit = true)
    (reads : NumberPart.read .whole rest = some last) :
    Reads ('-' :: first :: rest) [.operator ['-'], .number (first :: rest)] := by
  intro c separator after
  have other : ∀ d : Char, d.isDigit = false → first ≠ d := by
    rintro d nondigit rfl
    exact absurd digit (by simp [nondigit])
  have sign : begin '-' = ([], .operator ['-']) := by decide
  have alone : operatorTokens ['-'] = [.operator ['-']] := by decide
  have outside : first ∉ operatorChars := by
    intro member
    have table : operatorChars.all (fun d => !d.isDigit) = true := by decide
    exact absurd digit (by simpa using all_eq_true.mp table first member)
  have ends : lexStep (.operator ['-']) first = ([.operator ['-']], .number .whole [first]) := by
    simp [lexStep, lexOperator, other, outside, alone, begin_digit digit]
  have number := reads_number digit reads c separator after
  rw [cons_append, tokensFrom_cons, lexStep, begin_digit digit, nil_append] at number
  rw [cons_append, tokensFrom_cons, lexStep, sign, nil_append, cons_append,
    tokensFrom_cons, ends, number]
  rfl

end PgVisor.SqlTokens
