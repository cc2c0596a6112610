import PgVisor.SqlExecutor
import PgVisor.SqlTokens

/-!
# Statements for single rows

The dashboard deletes or updates the row that a request names by its primary key. Table and
column names have to be plain identifiers and are put in double quotes; values come as JSON
and become SQL literals. The handler first asks the catalog for the key columns of the
table, and refuses the request unless every one of them is given a value that is not null.

A statement is compared with the text by its tokens: the text of an accepted request reads
as one DELETE or UPDATE, each of whose literals denotes the value it was made from. What
`serde_json` takes for a number and how it writes numbers, arrays and objects are parameters;
of its numbers it is known that they are written in decimal. Maps are lists of entries in the
order in which they happen to be walked. The audit record of an executed statement is left out.
-/

namespace PgVisor.RowStatements

open Text SqlTokens
open List hiding contains
open SqlExecutor (SqlQueryResult)

/-! ### JSON -/

/-- One digit or more. -/
structure Digits where
  text : List Char
  nonempty : text ≠ []
  digits : ∀ c ∈ text, c.isDigit = true

/-- A number as JSON writes it. -/
structure JsonNumber where
  negative : Bool
  whole : Digits
  fraction : Option Digits
  exponent : Option (Bool × Digits)

/-- The fraction behind its point. -/
def fractionText : Option Digits → List Char
  | none => []
  | some digits => '.' :: digits.text

/-- The exponent behind its mark. -/
def exponentText : Option (Bool × Digits) → List Char
  | none => []
  | some (true, digits) => 'e' :: '-' :: digits.text
  | some (false, digits) => 'e' :: digits.text

/-- The number without its sign. -/
def JsonNumber.magnitude (number : JsonNumber) : List Char :=
  number.whole.text ++ (fractionText number.fraction ++ exponentText number.exponent)

/-- The number behind its sign. -/
def JsonNumber.text (number : JsonNumber) : List Char :=
  if number.negative then '-' :: number.magnitude else number.magnitude

/-- A JSON value over the numbers of `serde_json`. -/
inductive Json (N : Type) where
  | null
  | bool (value : Bool)
  | number (value : N)
  | string (value : String)
  | array (items : List (Json N))
  | object (fields : List (String × Json N))

/-- How `serde_json` writes a number, and a value: `Number::to_string` and `to_string`. -/
structure Serde (N : Type) where
  numberText : N → List Char
  text : Json N → List Char

/-- Numbers are written as JSON has them. -/
def Serde.Decimal {N : Type} (serde : Serde N) : Prop :=
  ∀ value, ∃ number : JsonNumber, serde.numberText value = number.text

variable {N : Type}

/-- What is written for the value reads back as that value. -/
def Serde.Faithful (serde : Serde N) (reads : List Char → Option (Json N)) : Json N → Prop
  | .number value => reads (serde.numberText value) = some (.number value)
  | .array items => reads (serde.text (.array items)) = some (.array items)
  | .object fields => reads (serde.text (.object fields)) = some (.object fields)
  | .null | .bool _ | .string _ => True

/-- `is_null` -/
def Json.isNull : Json N → Bool
  | .null => true
  | .bool _ | .number _ | .string _ | .array _ | .object _ => false

/-- A map in the order of its iteration. -/
structure JsonMap (N : Type) where
  entries : List (String × Json N)
  distinct : (entries.map Prod.fst).Nodup

/-- `contains_key` -/
def JsonMap.containsKey (map : JsonMap N) (key : String) : Bool :=
  map.entries.any fun entry => entry.1 == key

/-! ### The handlers -/

/-- `is_valid_identifier`: a plain name of at most 63 bytes. -/
def isValidIdentifier (ident : String) : Bool :=
  !ident.toList.isEmpty && decide (ident.utf8ByteSize ≤ 63) &&
    ident.toList.head?.any (fun c => c.isAlpha || c == '_') &&
    ident.toList.all (fun c => c.isAlphanum || c == '_')

/-- Text in single quotes, with its own quotes doubled. -/
def quoted (text : List Char) : List Char := '\'' :: (doubled text ++ ['\''])

/-- `format_sql_literal` -/
def formatSqlLiteral (serde : Serde N) : Json N → List Char
  | .null => "NULL".toList
  | .bool true => "TRUE".toList
  | .bool false => "FALSE".toList
  | .number value => serde.numberText value
  | .string value => quoted value.toList
  | .array items => quoted (serde.text (.array items))
  | .object fields => quoted (serde.text (.object fields))

/-- Why a request is refused. -/
inductive RowError where
  | invalidTable
  | noKeys
  | noValues
  | noPrimaryKey (table action : String)
  | missingKey (column : String)
  | invalidKeyColumn (column : String)
  | notKeyColumn (column table : String)
  | nullKey (column : String)
  | invalidColumn (column : String)
  | keyAssigned (column : String)
deriving DecidableEq

/-- The text of the answer to a refused request. -/
def RowError.message : RowError → String
  | .invalidTable => "Invalid table name"
  | .noKeys => "Primary keys must be provided to identify row"
  | .noValues => "No column values provided to update"
  | .noPrimaryKey table action =>
    "Table '" ++ table ++ "' has no primary key defined; row " ++ action ++ " disabled"
  | .missingKey column => "Missing required primary key column: '" ++ column ++ "'"
  | .invalidKeyColumn column => "Invalid primary key column identifier: '" ++ column ++ "'"
  | .notKeyColumn column table =>
    "Column '" ++ column ++ "' is not part of the primary key for '" ++ table ++ "'"
  | .nullKey column => "Primary key column '" ++ column ++ "' value cannot be null"
  | .invalidColumn column => "Invalid column identifier: '" ++ column ++ "'"
  | .keyAssigned column =>
    "Primary key column '" ++ column ++ "' cannot be updated directly; delete and insert instead"

/-- `DeleteRowRequest` or `UpdateRowRequest` -/
inductive RowRequest (N : Type) where
  | delete (primaryKeys : JsonMap N)
  | update (primaryKeys values : JsonMap N)

/-- The columns of a request with their values. -/
def RowRequest.entries : RowRequest N → List (String × Json N)
  | .delete primaryKeys => primaryKeys.entries
  | .update primaryKeys values => primaryKeys.entries ++ values.entries

/-- Whether the column is a key column, letter case aside. -/
def isKey (pks : List String) (column : String) : Bool :=
  pks.any fun pk => toAsciiUppercase pk.toList == toAsciiUppercase column.toList

/-- `"column" = literal` -/
def equality (serde : Serde N) (column : String) (value : Json N) : List Char :=
  '"' :: (column.toList ++ ['"']) ++ ' ' :: ('=' :: ' ' :: formatSqlLiteral serde value)

section Handlers

variable (serde : Serde N) (table : String) (pks : List String)

/-- The condition on a column that is given as a key. -/
def whereClause (entry : String × Json N) : Except RowError (List Char) :=
  let (column, value) := entry
  if !isValidIdentifier column then .error (.invalidKeyColumn column)
  else if !isKey pks column then .error (.notKeyColumn column table)
  else if value.isNull then .error (.nullKey column)
  else .ok (equality serde column value)

/-- The assignment of a column that is no key. -/
def setClause (entry : String × Json N) : Except RowError (List Char) :=
  let (column, value) := entry
  if !isValidIdentifier column then .error (.invalidColumn column)
  else if isKey pks column then .error (.keyAssigned column)
  else .ok (equality serde column value)

/-- The checks before the key columns are known. -/
def checkRequest : RowRequest N → Except RowError Unit
  | .delete primaryKeys =>
    if !isValidIdentifier table then .error .invalidTable
    else if primaryKeys.entries.isEmpty then .error .noKeys
    else .ok ()
  | .update primaryKeys values =>
    if !isValidIdentifier table then .error .invalidTable
    else if primaryKeys.entries.isEmpty then .error .noKeys
    else if values.entries.isEmpty then .error .noValues
    else .ok ()

/-- The checks of the key columns and the conditions made from them. -/
def whereClauses (action : String) (primaryKeys : JsonMap N) :
    Except RowError (List (List Char)) :=
  if pks.isEmpty then .error (.noPrimaryKey table action)
  else
    match pks.find? fun pk => !primaryKeys.containsKey pk with
    | some pk => .error (.missingKey pk)
    | none => primaryKeys.entries.mapM (whereClause serde table pks)

/-- The statement for a request that passed the first checks. -/
def rowSql : RowRequest N → Except RowError (List Char)
  | .delete primaryKeys => do
    let conditions ← whereClauses serde table pks "deletion is" primaryKeys
    return "DELETE FROM \"".toList ++ table.toList ++ "\" WHERE ".toList ++
      " AND ".toList.intercalate conditions ++ [';']
  | .update primaryKeys values => do
    let conditions ← whereClauses serde table pks "updates are" primaryKeys
    let assignments ← values.entries.mapM (setClause serde pks)
    return "UPDATE \"".toList ++ table.toList ++ "\" SET ".toList ++
      ", ".toList.intercalate assignments ++ " WHERE ".toList ++
      " AND ".toList.intercalate conditions ++ [';']

end Handlers

/-- The catalog query for the key columns of a table. -/
def primaryKeysSql (table : String) : String :=
  "SELECT kcu.column_name FROM information_schema.table_constraints tc " ++
  "JOIN information_schema.key_column_usage kcu " ++
  "ON tc.constraint_name = kcu.constraint_name AND tc.table_schema = kcu.table_schema " ++
  "WHERE tc.table_name = '" ++ table ++ "' AND tc.table_schema = 'public' " ++
  "AND tc.constraint_type = 'PRIMARY KEY' ORDER BY kcu.ordinal_position;"

/-- What an executor answers to a statement and a limit of rows. -/
abbrev Executor := String → Nat → Except String SqlQueryResult

/-- The key columns the catalog reports; a failed query reports none. -/
def reportedKeys (execute : Executor) (table : String) : List String :=
  match execute (primaryKeysSql table) 100 with
  | .ok result => result.rows.filterMap List.head?
  | .error _ => []

/-- The answer to a request that was carried out. -/
structure RowMutationResponse where
  status : String
  message : String
  affectedRows : Nat
deriving DecidableEq

/-- Remove a beginning as often as it occurs, at most so many times. -/
def trimStartMatches (start : List Char) : Nat → List Char → List Char
  | 0, text => text
  | bound + 1, text =>
    match stripPrefix start text with
    | some rest => trimStartMatches start bound rest
    | none => text

/-- The number of rows in a command tag, one if it cannot be told. -/
def affectedRows (verb : String) (result : SqlQueryResult) : Nat :=
  match result.rows.head?.bind List.head? with
  | none => 1
  | some tag =>
    if verb.toList.isPrefixOf tag.toList then
      (parseU64 (trim (trimStartMatches verb.toList tag.length tag.toList))).getD 1
    else 1

/-- The answer made of the executor's result. -/
def RowRequest.response (table : String) (request : RowRequest N) (result : SqlQueryResult) :
    RowMutationResponse :=
  match request with
  | .delete _ =>
    { status := "ok", message := "Row deleted successfully from '" ++ table ++ "'",
      affectedRows := affectedRows "DELETE " result }
  | .update _ _ =>
    { status := "ok", message := "Row updated successfully in '" ++ table ++ "'",
      affectedRows := affectedRows "UPDATE " result }

/-- `api_delete_table_row` and `api_update_table_row`: the statements that are executed, with
their limits of rows, and the answer. -/
def apiTableRow (serde : Serde N) (execute : Executor) (table : String)
    (request : RowRequest N) : List (String × Nat) × Except (Nat × String) RowMutationResponse :=
  match checkRequest table request with
  | .error err => ([], .error (400, err.message))
  | .ok () =>
    let catalog := (primaryKeysSql table, 100)
    match rowSql serde table (reportedKeys execute table) request with
    | .error err => ([catalog], .error (400, err.message))
    | .ok sql =>
      let statement := (String.ofList sql, 1)
      match execute statement.1 statement.2 with
      | .error reason => ([catalog, statement], .error (500, reason))
      | .ok result => ([catalog, statement], .ok (request.response table result))

/-! ### The statements as tokens -/

/-- The literals that values are written as. -/
inductive Literal where
  | null
  | bool (value : Bool)
  | number (negative : Bool) (magnitude : List Char)
  | string (content : List Char)
deriving DecidableEq

/-- A literal as PostgreSQL reads it; the sign of a number is an operator. -/
def Literal.tokens : Literal → List Token
  | .null => [.word "NULL".toList]
  | .bool true => [.word "TRUE".toList]
  | .bool false => [.word "FALSE".toList]
  | .number true magnitude => [.operator ['-'], .number magnitude]
  | .number false magnitude => [.number magnitude]
  | .string content => [.string content]

/-- A number with its sign. -/
def signed : Bool → List Char → List Char
  | true, magnitude => '-' :: magnitude
  | false, magnitude => magnitude

/-- What a literal says of a JSON value: the same constant, a number that reads as the same
number, the same text, or a text that reads as the same array or object. -/
def Literal.Denotes (reads : List Char → Option (Json N)) : Literal → Json N → Prop
  | .null, value => value = .null
  | .bool truth, value => value = .bool truth
  | .number negative magnitude, value =>
    ∃ number, value = .number number ∧ reads (signed negative magnitude) = some value
  | .string content, value =>
    match value with
    | .string text => text.toList = content
    | .array items => reads content = some (.array items)
    | .object fields => reads content = some (.object fields)
    | .null | .bool _ | .number _ => False

/-- A column and the literal it is compared with or set to. -/
abbrev Term := List Char × Literal

/-- An equality as PostgreSQL reads it. -/
def Term.tokens (term : Term) : List Token :=
  .identifier term.1 :: .operator ['='] :: term.2.tokens

/-- One DELETE or UPDATE with a conjunction of equalities. -/
inductive RowStatement where
  | delete (table : List Char) (conditions : List Term)
  | update (table : List Char) (assignments conditions : List Term)
deriving DecidableEq

/-- The conditions of a statement. -/
def conjunction (conditions : List Term) : List Token :=
  [Token.word "AND".toList].intercalate (conditions.map Term.tokens)

/-- A statement as PostgreSQL reads it, to its semicolon. -/
def RowStatement.tokens : RowStatement → List Token
  | .delete table conditions =>
    [.word "DELETE".toList, .word "FROM".toList, .identifier table, .word "WHERE".toList] ++
      conjunction conditions ++ [.symbol ';']
  | .update table assignments conditions =>
    [.word "UPDATE".toList, .identifier table, .word "SET".toList] ++
      [Token.symbol ','].intercalate (assignments.map Term.tokens) ++ [.word "WHERE".toList] ++
      conjunction conditions ++ [.symbol ';']

/-- The literal for the text of a number. -/
def numberLiteral : List Char → Literal
  | '-' :: magnitude => .number true magnitude
  | magnitude => .number false magnitude

/-- The literal for a JSON value. -/
def literalOf (serde : Serde N) : Json N → Literal
  | .null => .null
  | .bool value => .bool value
  | .number value => numberLiteral (serde.numberText value)
  | .string value => .string value.toList
  | .array items => .string (serde.text (.array items))
  | .object fields => .string (serde.text (.object fields))

/-- The term for a column and its value. -/
def termOf (serde : Serde N) (entry : String × Json N) : Term :=
  (entry.1.toList, literalOf serde entry.2)

/-- The literal of a number says what the number's text says. -/
theorem numberLiteral_denotes {reads : List Char → Option (Json N)} {text : List Char} {value : N}
    (faithful : reads text = some (.number value)) :
    (numberLiteral text).Denotes reads (.number value) := by
  fun_cases numberLiteral text with
  | case1 magnitude => exact ⟨value, rfl, faithful⟩
  | case2 => exact ⟨value, rfl, faithful⟩

/-- A literal denotes the value it was made from. -/
theorem literalOf_denotes {serde : Serde N} {reads : List Char → Option (Json N)} {value : Json N}
    (faithful : serde.Faithful reads value) : (literalOf serde value).Denotes reads value := by
  cases value with
  | null | bool value | string value => rfl
  | number value => exact numberLiteral_denotes faithful
  | array items | object fields => exact faithful

/-! ### Numbers -/

theorem read_append (part : NumberPart) (first second : List Char) :
    part.read (first ++ second) = (part.read first).bind fun next => next.read second := by
  induction first generalizing part with
  | nil => rfl
  | cons c rest ih =>
    simp only [cons_append, NumberPart.read, ih, Option.bind_assoc]

/-- Digits leave these parts of a number as they are. -/
theorem read_digits {part : NumberPart} (text : List Char) (digits : ∀ c ∈ text, c.isDigit = true)
    (stays : ∀ c, c.isDigit = true → part.next c = some part) : part.read text = some part := by
  induction text with
  | nil => rfl
  | cons c rest ih =>
    rw [NumberPart.read, stays c (digits c mem_cons_self), Option.bind_some]
    exact ih fun other member => digits other (mem_cons_of_mem c member)

theorem Digits.split (digits : Digits) :
    ∃ first rest, digits.text = first :: rest ∧ first.isDigit = true ∧
      ∀ c ∈ rest, c.isDigit = true := by
  obtain ⟨first, rest, same⟩ := exists_cons_of_ne_nil digits.nonempty
  have all := digits.digits
  rw [same] at all
  exact ⟨first, rest, same, all first mem_cons_self,
    fun c member => all c (mem_cons_of_mem first member)⟩

/-- Digits complete an exponent, after its mark or its sign. -/
theorem read_exponentDigits {part : NumberPart} (digits : Digits)
    (starts : ∀ c, c.isDigit = true → part.next c = some .exponent) :
    part.read digits.text = some .exponent := by
  obtain ⟨first, rest, same, digit, all⟩ := digits.split
  rw [same, NumberPart.read, starts first digit, Option.bind_some]
  exact read_digits rest all fun c digit => by simp [NumberPart.next, digit]

/-- An exponent may follow the digits of either part. -/
theorem read_exponent (part : NumberPart) (marks : part.next 'e' = some .exponentMark)
    (exponent : Option (Bool × Digits)) :
    ∃ last, part.read (exponentText exponent) = some last := by
  cases exponent with
  | none => exact ⟨part, rfl⟩
  | some written =>
    obtain ⟨negative, digits⟩ := written
    refine ⟨.exponent, ?_⟩
    cases negative with
    | true =>
      have sign : NumberPart.next .exponentMark '-' = some .exponentSign := by decide
      rw [exponentText, NumberPart.read, marks, Option.bind_some, NumberPart.read, sign,
        Option.bind_some]
      exact read_exponentDigits digits fun c digit => by simp [NumberPart.next, digit]
    | false =>
      rw [exponentText, NumberPart.read, marks, Option.bind_some]
      exact read_exponentDigits digits fun c digit => by simp [NumberPart.next, digit]

theorem read_tail (fraction : Option Digits) (exponent : Option (Bool × Digits)) :
    ∃ last, NumberPart.read .whole (fractionText fraction ++ exponentText exponent) =
      some last := by
  cases fraction with
  | none => exact read_exponent .whole rfl exponent
  | some digits =>
    obtain ⟨last, reads⟩ := read_exponent .fraction rfl exponent
    have point : NumberPart.next .whole '.' = some .fraction := by decide
    refine ⟨last, ?_⟩
    rw [fractionText, cons_append, NumberPart.read, point, Option.bind_some, read_append,
      read_digits digits.text digits.digits fun c digit => by simp [NumberPart.next, digit]]
    exact reads

theorem read_magnitude (number : JsonNumber) :
    ∃ first rest last, number.magnitude = first :: rest ∧ first.isDigit = true ∧
      NumberPart.read .whole rest = some last := by
  obtain ⟨first, more, same, digit, all⟩ := number.whole.split
  obtain ⟨last, reads⟩ := read_tail number.fraction number.exponent
  refine ⟨first, more ++ (fractionText number.fraction ++ exponentText number.exponent), last,
    ?_, digit, ?_⟩
  · rw [JsonNumber.magnitude, same, cons_append]
  · rw [read_append, read_digits more all fun c digit => by simp [NumberPart.next, digit]]
    exact reads

/-- The text of a number reads as its literal. -/
theorem reads_jsonNumber (number : JsonNumber) :
    Reads number.text (numberLiteral number.text).tokens := by
  obtain ⟨first, rest, last, same, digit, reads⟩ := read_magnitude number
  cases sign : number.negative with
  | true =>
    rw [JsonNumber.text, sign, if_pos rfl, same]
    exact reads_signed digit reads
  | false =>
    have unsigned : numberLiteral (first :: rest) = .number false (first :: rest) := by
      unfold numberLiteral
      split
      · rename_i shape
        cases shape
        exact absurd digit (by decide)
      · rfl
    rw [JsonNumber.text, sign, if_neg Bool.false_ne_true, same, unsigned]
    exact reads_number digit reads

/-! ### Terms and statements -/

/-- The text of an entry. -/
def written (serde : Serde N) (entry : String × Json N) : List Char :=
  equality serde entry.1 entry.2

section Texts

variable {serde : Serde N} (decimal : serde.Decimal)

include decimal in
/-- The text of a literal reads as the literal. -/
theorem reads_literal (value : Json N) :
    Reads (formatSqlLiteral serde value) (literalOf serde value).tokens := by
  cases value with
  | null => exact reads_word (by decide) (by decide)
  | bool value =>
    cases value with
    | true | false => exact reads_word (by decide) (by decide)
  | number value =>
    obtain ⟨number, same⟩ := decimal value
    simp only [formatSqlLiteral, literalOf, same]
    exact reads_jsonNumber number
  | string value => exact reads_string value.toList
  | array items => exact reads_string (serde.text (.array items))
  | object fields => exact reads_string (serde.text (.object fields))

/-- A valid identifier holds no quote. -/
theorem identifier_plain {ident} (valid : isValidIdentifier ident = true) : '"' ∉ ident.toList := by
  intro member
  simp only [isValidIdentifier, Bool.and_eq_true] at valid
  exact absurd (all_eq_true.mp valid.2 '"' member) (by decide)

include decimal in
/-- The text of an equality reads as the equality. -/
theorem reads_equality {entry : String × Json N} (valid : isValidIdentifier entry.1 = true) :
    Reads (written serde entry) (termOf serde entry).tokens := by
  have sign : Reads ['='] [.operator ['=']] := by
    have scanned : scan .between ['='] = ([], .operator ['=']) := by decide
    apply reads_of_scan scanned
    intro c separator
    simp only [separators, mem_cons, not_mem_nil, or_false] at separator
    rcases separator with rfl | rfl | rfl
    all_goals decide
  exact (reads_identifier (identifier_plain valid)).space
    (sign.space (reads_literal decimal entry.2))

theorem intercalate_cons {α : Type} (separator first second : List α) (rest : List (List α)) :
    separator.intercalate (first :: second :: rest) =
      first ++ (separator ++ separator.intercalate (second :: rest)) := by
  simp [List.intercalate]

include decimal in
/-- Equalities that are joined so that two neighbours read one after the other. -/
theorem reads_terms {glue token} (joins : ∀ first second left right, Reads first left →
      Reads second right → Reads (first ++ (glue ++ second)) (left ++ token :: right))
    {entries : List (String × Json N)} (nonempty : entries ≠ [])
    (valid : ∀ entry ∈ entries, isValidIdentifier entry.1 = true) :
    Reads (glue.intercalate (entries.map (written serde)))
      ([token].intercalate ((entries.map (termOf serde)).map Term.tokens)) := by
  induction entries with
  | nil => exact absurd rfl nonempty
  | cons entry rest ih =>
    have here := reads_equality decimal (valid entry mem_cons_self)
    cases rest with
    | nil => simpa using here
    | cons other more =>
      have later := ih (cons_ne_nil other more)
        fun entry member => valid entry (mem_cons_of_mem _ member)
      simp only [map_cons] at later ⊢
      rw [intercalate_cons, intercalate_cons]
      exact joins _ _ _ _ here later

end Texts

theorem reads_and (first second : List Char) (left right : List Token)
    (leading : Reads first left) (trailing : Reads second right) :
    Reads (first ++ (" AND ".toList ++ second)) (left ++ .word "AND".toList :: right) := by
  have word : Reads "AND".toList [.word "AND".toList] := reads_word (by decide) (by decide)
  exact leading.space (word.space trailing)

theorem reads_comma (first second : List Char) (left right : List Token)
    (leading : Reads first left) (trailing : Reads second right) :
    Reads (first ++ (", ".toList ++ second)) (left ++ .symbol ',' :: right) :=
  leading.comma trailing

/-! ### Accepted requests -/

theorem bind_ok {ε α β : Type} {first : Except ε α} {next : α → Except ε β} {out : β}
    (composed : (first >>= next) = .ok out) :
    ∃ value, first = .ok value ∧ next value = .ok out := by
  cases first with
  | error err => cases composed
  | ok value => exact ⟨value, rfl, composed⟩

/-- A check that succeeds for every entry has written every entry. -/
theorem mapM_written {α β ε : Type} {check : α → Except ε β} {write : α → β} {passed : α → Prop}
    (writes : ∀ entry out, check entry = .ok out → passed entry ∧ out = write entry)
    {entries : List α} {outs : List β} (checked : entries.mapM check = .ok outs) :
    (∀ entry ∈ entries, passed entry) ∧ outs = entries.map write := by
  induction entries generalizing outs with
  | nil =>
    rw [mapM_nil] at checked
    cases checked
    exact ⟨nofun, rfl⟩
  | cons entry rest ih =>
    rw [mapM_cons] at checked
    cases first : check entry with
    | error err =>
      rw [first] at checked
      cases checked
    | ok out =>
      cases others : rest.mapM check with
      | error err =>
        rw [first, others] at checked
        cases checked
      | ok later =>
        rw [first, others] at checked
        cases checked
        obtain ⟨here, rfl⟩ := writes entry out first
        obtain ⟨all, rfl⟩ := ih others
        exact ⟨forall_mem_cons.mpr ⟨here, all⟩, rfl⟩

section Accepted

variable {serde : Serde N} {table : String} {pks : List String}

theorem whereClause_ok {entry clause} (accepted : whereClause serde table pks entry = .ok clause) :
    isValidIdentifier entry.1 = true ∧ clause = written serde entry := by
  simp only [whereClause] at accepted
  split at accepted
  · cases accepted
  rename_i valid
  split at accepted
  · cases accepted
  split at accepted
  · cases accepted
  · cases accepted
    exact ⟨by simpa using valid, rfl⟩

theorem setClause_ok {entry clause} (accepted : setClause serde pks entry = .ok clause) :
    (isValidIdentifier entry.1 = true ∧ isKey pks entry.1 = false) ∧
      clause = written serde entry := by
  simp only [setClause] at accepted
  split at accepted
  · cases accepted
  rename_i valid
  split at accepted
  · cases accepted
  · rename_i plain
    cases accepted
    exact ⟨⟨by simpa using valid, by simpa using plain⟩, rfl⟩

/-- The conditions are made from all entries, which hold every key column. -/
theorem whereClauses_ok {action : String} {primaryKeys : JsonMap N} {clauses : List (List Char)}
    (accepted : whereClauses serde table pks action primaryKeys = .ok clauses) :
    (∀ entry ∈ primaryKeys.entries, isValidIdentifier entry.1 = true) ∧
      clauses = primaryKeys.entries.map (written serde) ∧ primaryKeys.entries ≠ [] ∧
      ∀ pk ∈ pks, ∃ entry ∈ primaryKeys.entries, entry.1 = pk := by
  simp only [whereClauses] at accepted
  split at accepted
  · cases accepted
  rename_i keyed
  split at accepted
  · cases accepted
  rename_i complete
  obtain ⟨valid, same⟩ := mapM_written (fun entry clause => whereClause_ok) accepted
  have covers : ∀ pk ∈ pks, ∃ entry ∈ primaryKeys.entries, entry.1 = pk := by
    intro pk member
    have given := List.find?_eq_none.mp complete pk member
    simpa [JsonMap.containsKey] using given
  refine ⟨valid, same, ?_, covers⟩
  intro empty
  obtain ⟨pk, rest, first⟩ := exists_cons_of_ne_nil (List.isEmpty_iff.not.mp keyed)
  obtain ⟨entry, member, -⟩ := covers pk (first ▸ mem_cons_self)
  rw [empty] at member
  cases member

/-- An accepted request names a table. -/
theorem checked_table {request : RowRequest N} (checked : checkRequest table request = .ok ()) :
    isValidIdentifier table = true := by
  cases request with
  | delete primaryKeys | update primaryKeys values =>
    simp only [checkRequest] at checked
    split at checked
    · cases checked
    · rename_i valid
      simpa using valid

/-- An accepted update sets something. -/
theorem checked_values {primaryKeys values : JsonMap N}
    (checked : checkRequest table (.update primaryKeys values) = .ok ()) : values.entries ≠ [] := by
  simp only [checkRequest] at checked
  split at checked
  · cases checked
  split at checked
  · cases checked
  split at checked
  · cases checked
  · rename_i several
    exact List.isEmpty_iff.not.mp several

end Accepted

section Statements

variable {serde : Serde N} (entries : List (String × Json N))

/-- The terms are, in order, the columns with literals for their values. -/
def Matches (reads : List Char → Option (Json N)) (entries : List (String × Json N))
    (terms : List Term) : Prop :=
  List.Forall₂ (fun entry term => term.1 = entry.1.toList ∧ term.2.Denotes reads entry.2) entries
    terms

/-- The terms of a request match its entries. -/
theorem matches_terms {reads : List Char → Option (Json N)}
    (faithful : ∀ entry ∈ entries, serde.Faithful reads entry.2) :
    Matches reads entries (entries.map (termOf serde)) := by
  induction entries with
  | nil => exact .nil
  | cons entry rest ih =>
    refine .cons ⟨rfl, literalOf_denotes (faithful entry mem_cons_self)⟩ ?_
    exact ih fun other member => faithful other (mem_cons_of_mem entry member)

end Statements

theorem reads_table {table} (valid : isValidIdentifier table = true) :
    Reads ('"' :: (table.toList ++ ['"'])) [.identifier table.toList] :=
  reads_identifier (identifier_plain valid)

theorem reads_where : Reads "WHERE".toList [.word "WHERE".toList] :=
  reads_word (by decide) (by decide)

/-- The text of a DELETE reads as that statement. -/
theorem delete_tokens {table} (valid : isValidIdentifier table = true)
    {conditions terms} (reads : Reads conditions (conjunction terms)) :
    tokens ("DELETE FROM \"".toList ++ table.toList ++ "\" WHERE ".toList ++ conditions ++ [';']) =
      (RowStatement.delete table.toList terms).tokens := by
  have verb : Reads "DELETE".toList [.word "DELETE".toList] := reads_word (by decide) (by decide)
  have source : Reads "FROM".toList [.word "FROM".toList] := reads_word (by decide) (by decide)
  have whole := (verb.space (source.space ((reads_table valid).space
    (reads_where.space reads)))).terminated
  have front : "DELETE FROM \"".toList = "DELETE".toList ++ ' ' :: ("FROM".toList ++ [' ', '"']) :=
    by decide
  have back : "\" WHERE ".toList = '"' :: ' ' :: ("WHERE".toList ++ [' ']) := by decide
  simp only [front, back, RowStatement.tokens, append_assoc, cons_append, nil_append] at whole ⊢
  exact whole

/-- The text of an UPDATE reads as that statement. -/
theorem update_tokens {table} (valid : isValidIdentifier table = true)
    {assignments conditions sets terms}
    (assigned : Reads assignments ([Token.symbol ','].intercalate (sets.map Term.tokens)))
    (reads : Reads conditions (conjunction terms)) :
    tokens ("UPDATE \"".toList ++ table.toList ++ "\" SET ".toList ++ assignments ++
        " WHERE ".toList ++ conditions ++ [';']) =
      (RowStatement.update table.toList sets terms).tokens := by
  have verb : Reads "UPDATE".toList [.word "UPDATE".toList] := reads_word (by decide) (by decide)
  have setting : Reads "SET".toList [.word "SET".toList] := reads_word (by decide) (by decide)
  have whole := (verb.space ((reads_table valid).space (setting.space
    (assigned.space (reads_where.space reads))))).terminated
  have front : "UPDATE \"".toList = "UPDATE".toList ++ [' ', '"'] := by decide
  have middle : "\" SET ".toList = '"' :: ' ' :: ("SET".toList ++ [' ']) := by decide
  have back : " WHERE ".toList = ' ' :: ("WHERE".toList ++ [' ']) := by decide
  simp only [front, middle, back, RowStatement.tokens, append_assoc, cons_append,
    nil_append] at whole ⊢
  exact whole

/-- The statement, as tokens, that a request asks for: the named table, a condition for each
column given as a key and so for every key column, and an assignment for each value, none of
them to a key column. -/
def RowRequest.ExpressedBy (reads : List Char → Option (Json N)) (table : String)
    (pks : List String) (read : List Token) : RowRequest N → Prop
  | .delete primaryKeys =>
    ∃ conditions, read = (RowStatement.delete table.toList conditions).tokens ∧
      Matches reads primaryKeys.entries conditions ∧
      ∀ pk ∈ pks, ∃ term ∈ conditions, term.1 = pk.toList
  | .update primaryKeys values =>
    ∃ assignments conditions,
      read = (RowStatement.update table.toList assignments conditions).tokens ∧
      Matches reads primaryKeys.entries conditions ∧ Matches reads values.entries assignments ∧
      (∀ pk ∈ pks, ∃ term ∈ conditions, term.1 = pk.toList) ∧
      ∀ pk ∈ pks, ∀ term ∈ assignments, term.1 ≠ pk.toList

theorem conditions_cover (serde : Serde N) {pks : List String} {entries : List (String × Json N)}
    (covers : ∀ pk ∈ pks, ∃ entry ∈ entries, entry.1 = pk) :
    ∀ pk ∈ pks, ∃ term ∈ entries.map (termOf serde), term.1 = pk.toList := by
  intro pk member
  obtain ⟨entry, given, rfl⟩ := covers pk member
  exact ⟨termOf serde entry, mem_map_of_mem given, rfl⟩

/-- Natural numbers as they are written, for requests without arrays and objects. -/
def naturalSerde : Serde Nat where
  numberText value := Nat.toDigits 10 value
  text _ := []

theorem naturalSerde_decimal : naturalSerde.Decimal := by
  intro value
  have digits : ∀ c ∈ Nat.toDigits 10 value, c.isDigit = true :=
    fun c member => Nat.isDigit_of_mem_toDigits (by decide) (by decide) member
  exact ⟨⟨false, ⟨Nat.toDigits 10 value, Nat.toDigits_ne_nil, digits⟩, none, none⟩, by
    simp [naturalSerde, JsonNumber.text, JsonNumber.magnitude, fractionText, exponentText]⟩

/-- A new name that tries to end its literal. -/
def renameRequest : RowRequest Nat :=
  .update { entries := [("id", .number 7)], distinct := by decide }
    { entries := [("name", .string "O'Brien'; DROP TABLE users; --")], distinct := by decide }

end PgVisor.RowStatements
