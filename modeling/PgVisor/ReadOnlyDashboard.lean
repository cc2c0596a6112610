import Mathlib.Data.List.Nodup
import PgVisor.GuardedStatements
import PgVisor.UserManagement

/-!
# Statements of a read-only dashboard

What reaches the executor from a dashboard whose guard forbids mutations. The statements that
the handlers write themselves are queries, whatever valid name stands in them; changes to
roles are refused by the guard. Two ways to modify the database are left. The handlers for
single rows never ask the guard. The console asks it, and the guard knows its keywords only
with a space behind them.
-/

namespace PgVisor.ReadOnlyDashboard

open Text SqlTokens TableBrowser UserManagement SqlGuard
open List hiding contains
open RowStatements (Executor RowRequest Serde apiTableRow checkRequest rowSql reportedKeys
  isValidIdentifier primaryKeysSql)

variable {N : Type}

/-- What the handlers share: the libraries, the executor, the guard and the token. -/
structure DashboardState (N : Type) where
  serde : Serde N
  upper : UpperCase
  execute : Executor
  securityGuard : SqlSecurityGuard
  adminToken : Option String

/-- Authenticated requests to the endpoints that use the executor. -/
inductive DashboardRequest (N : Type) where
  | tablesPage (query : TablesQuery)
  | sqlConsole
  | listTables
  | tableSchema (table : String)
  | tableData (table : String) (query : TablesQuery)
  | tableRow (table : String) (request : RowRequest N)
  | executeSql (payload : SqlQueryRequest)
  | usersPage (role tab : Option String)
  | listUsers
  | getUser (role : String)
  | createUser (req : CreateRoleRequest)
  | dropUser (role : String)
  | alterUser (role : String) (req : AlterRoleRequest)
  | grantMembership (role group : String)
  | revokeMembership (role group : String)
  | getPrivileges (role : String)
  | setPrivilege (role : String) (req : TablePrivilegeRequest)

/-- The statements that a request passes to the executor. -/
def DashboardState.executed (state : DashboardState N) (inTime : Bool) :
    DashboardRequest N → List (String × Nat)
  | .tablesPage query => (getTablesPage state.execute state.adminToken.isSome query).executed
  | .sqlConsole => (getSqlConsole state.execute state.adminToken.isSome).executed
  | .listTables => (apiListTables state.execute).executed
  | .tableSchema table => (apiTableSchema state.execute table).executed
  | .tableData table query => (apiTableData state.execute table query).executed
  | .tableRow table request => (apiTableRow state.serde state.execute table request).1
  | .executeSql payload =>
    (apiExecuteSql state.execute state.upper state.securityGuard inTime payload).executed
  | .usersPage role tab =>
    (getUsersPage state.execute state.adminToken.isSome role tab).executed
  | .listUsers => (apiListUsers state.execute).executed
  | .getUser role => (apiGetUser state.execute role).executed
  | .createUser req =>
    (apiCreateUser state.execute state.upper state.securityGuard req).executed
  | .dropUser role => (apiDropUser state.execute state.upper state.securityGuard role).executed
  | .alterUser role req =>
    (apiAlterUser state.execute state.upper state.securityGuard role req).executed
  | .grantMembership role group =>
    (apiGrantMembership state.execute state.upper state.securityGuard role group).executed
  | .revokeMembership role group =>
    (apiRevokeMembership state.execute state.upper state.securityGuard role group).executed
  | .getPrivileges role => (apiGetPrivileges state.execute role).executed
  | .setPrivilege role req =>
    (apiSetPrivilege state.execute state.upper state.securityGuard role req).executed

/-- One of the statements in the text modifies data, definitions or rights. -/
def Modifies (sql : String) : Prop :=
  ∃ statement ∈ statements sql.toList, modifies statement = true

/-! ### Queries -/

/-- A token that neither ends a statement nor begins a clause that writes. -/
def plain (token : Token) : Bool := token != .symbol ';' && !token.isKeyword "INTO"

/-- Plain tokens up to a semicolon at the end. -/
def plainTail : List Token → Bool
  | [] => false
  | [token] => token == .symbol ';'
  | token :: next :: rest => plain token && plainTail (next :: rest)

variable {first : List Token}

/-- Plain tokens before a plain tail. -/
theorem plainTail_append {rest} (front : first.all plain = true)
    (tail : plainTail rest = true) : plainTail (first ++ rest) = true := by
  induction first with
  | nil => exact tail
  | cons token others ih =>
    rw [all_cons, Bool.and_eq_true] at front
    have later := ih front.2
    cases behind : others ++ rest with
    | nil => simp [behind, plainTail] at later
    | cons next more =>
      rw [behind] at later
      rw [cons_append, behind, plainTail, front.1, later]
      rfl

/-- A plain tail is one statement up to its semicolon. -/
theorem plainTail_split {read} (tail : plainTail read = true) :
    ∃ body, read = body ++ [.symbol ';'] ∧ body.all plain = true := by
  induction read with
  | nil => simp [plainTail] at tail
  | cons token rest ih =>
    cases rest with
    | nil => exact ⟨[], by simpa [plainTail] using tail, rfl⟩
    | cons next more =>
      rw [plainTail, Bool.and_eq_true] at tail
      obtain ⟨body, split, all⟩ := ih tail.2
      refine ⟨token :: body, by rw [split]; rfl, ?_⟩
      rw [all_cons, tail.1, all]
      rfl

/-- SELECT is none of the other leading words. -/
theorem leads_select {keywords} (other : "SELECT" ∉ keywords) (body : List Token) :
    leads keywords (.word "SELECT".toList :: body) = false := by
  rw [Bool.eq_false_iff]
  intro leading
  obtain ⟨keyword, listed, spelled⟩ := (leads_word _ _ _).mp leading
  have upper : toAsciiUppercase "SELECT".toList = "SELECT".toList := by decide
  have same : "SELECT" = keyword := String.toList_injective (upper.symm.trans spelled)
  exact other (same ▸ listed)

/-- Behind a `SELECT`, only the clause for a new table modifies anything. -/
theorem select_modifies (body : List Token) :
    modifies (.word "SELECT".toList :: body) = selectsInto (.word "SELECT".toList :: body) := by
  have words : leads modificationWords (.word "SELECT".toList :: body) = false :=
    leads_select (by decide) body
  have inWith : leads ["WITH"] (.word "SELECT".toList :: body) = false :=
    leads_select (by decide) body
  have explain : leads ["EXPLAIN"] (.word "SELECT".toList :: body) = false :=
    leads_select (by decide) body
  rw [modifies, writesInQuery, writesInside, analyzed_other explain, words, modifiesInWith, inWith]
  rfl

variable {sql : String}

/-- A text that reads as one query, with or without its semicolon. -/
theorem query_text {body}
    (read : tokens sql.toList = .word "SELECT".toList :: body ++ [.symbol ';'])
    (single : .symbol ';' ∉ body)
    (into : ∀ ending ∈ [[], [Token.symbol ';']],
      selectsInto (.word "SELECT".toList :: (body ++ ending)) = false) : ¬ Modifies sql := by
  rintro ⟨statement, piece, modified⟩
  have whole : ∀ ending ∈ [[], [Token.symbol ';']],
      statement = .word "SELECT".toList :: (body ++ ending) → False := by
    rintro ending listed rfl
    rw [select_modifies, into ending listed] at modified
    cases modified
  have empty : statement ≠ [] := by
    rintro rfl
    exact absurd modified (by decide)
  have alone : .symbol ';' ∉ Token.word "SELECT".toList :: body := by simpa using single
  rw [statements, read] at piece
  rcases splitFrom_terminated 0 _ alone with split | split
  · rw [split] at piece
    rcases mem_cons.mp piece with first | last
    · exact whole [] (by simp) (by simpa using first)
    · exact empty (mem_singleton.mp last)
  · rw [split] at piece
    exact whole [.symbol ';'] (by simp) (mem_singleton.mp piece)

/-- A SELECT with a plain tail modifies nothing. -/
theorem plain_query {rest} (read : tokens sql.toList = .word "SELECT".toList :: rest)
    (tail : plainTail rest = true) : ¬ Modifies sql := by
  obtain ⟨body, rfl, all⟩ := plainTail_split tail
  have each := all_eq_true.mp all
  refine query_text read ?_ ?_
  · intro member
    exact absurd (each _ member) (by decide)
  intro ending listed
  rw [Bool.eq_false_iff]
  intro into
  obtain ⟨-, text, member, keyword, listedInto, spelled⟩ := selectsInto_hasWord into
  cases mem_singleton.mp listedInto
  have clause : (Token.word text).isKeyword "INTO" = true := by
    simpa [Token.isKeyword] using spelled
  rcases mem_cons.mp member with first | later
  · rw [first] at clause
    exact absurd clause (by decide)
  rcases mem_append.mp later with inside | last
  · have clear := each _ inside
    simp [plain, clause] at clear
  simp only [mem_cons, not_mem_nil, or_false] at listed
  rcases listed with rfl | rfl
  · cases last
  · simp at last

/-! ### Names in the statements -/

variable {table : String}

/-- A valid identifier cannot end a string. -/
theorem identifier_quoteFree (valid : isValidIdentifier table = true) : '\'' ∉ table.toList := by
  intro member
  simp only [isValidIdentifier, Bool.and_eq_true] at valid
  exact absurd (all_eq_true.mp valid.2 '\'' member) (by decide)

/-- A query with one name in quotes. -/
theorem literal_query {front name back} (before behind : List Char)
    (text : sql = front ++ name ++ back) (quoteFree : '\'' ∉ name.toList)
    (opens : front.toList = before) (closes : back.toList = '\'' :: ' ' :: behind)
    (opened : scan .between before =
      (.word "SELECT".toList :: (scan .between before).1.tail, .string false []))
    (plainBefore : (scan .between before).1.tail.all plain = true)
    (plainBehind : plainTail (tokens behind) = true) : ¬ Modifies sql := by
  have blank : begin ' ' = ([], .between) := by decide
  have read := tokens_literal opened quoteFree (by decide : ' ' ∈ separators) behind
  rw [← closes, ← opens, ← append_assoc, ← String.toList_append, ← String.toList_append,
    ← text, blank, nil_append, cons_append] at read
  have literal : [Token.string name.toList].all plain = true := rfl
  exact plain_query read
    (plainTail_append (opens ▸ plainBefore) (plainTail_append literal plainBehind))

variable {behind : List Char}

theorem toList_join {left right : String} {before : List Char} (first : left.toList = before)
    (second : right.toList = behind) : (left ++ right).toList = before ++ behind := by
  rw [String.toList_append, first, second]

set_option maxRecDepth 4000 in
/-- The query for the primary key is one. -/
theorem primaryKeys_query (valid : isValidIdentifier table = true) :
    ¬ Modifies (primaryKeysSql table) :=
  literal_query _ _ String.append_assoc (identifier_quoteFree valid)
    (toList_join (toList_join (toList_join String.toList_ofList String.toList_ofList)
      String.toList_ofList) String.toList_ofList)
    (toList_join String.toList_ofList String.toList_ofList)
    (by decide +kernel) (by decide +kernel) (by decide +kernel)

set_option maxRecDepth 4000 in
/-- So is that for the columns. -/
theorem schema_query (valid : isValidIdentifier table = true) : ¬ Modifies (schemaSql table) :=
  literal_query _ _ rfl (identifier_quoteFree valid)
    (toList_join String.toList_ofList String.toList_ofList) String.toList_ofList
    (by decide +kernel) (by decide +kernel) (by decide +kernel)

/-- A query without names. -/
theorem closed_query (whole : List Char) (text : sql.toList = whole)
    (select : (tokens whole).head? = some (.word "SELECT".toList))
    (tail : plainTail (tokens whole).tail = true) : ¬ Modifies sql := by
  obtain ⟨rest, read⟩ := List.head?_eq_some_iff.mp select
  rw [read] at tail
  exact plain_query (text ▸ read) tail

/-- So is that for the tables. -/
theorem tables_query : ¬ Modifies tablesSql :=
  closed_query _ (toList_join String.toList_ofList String.toList_ofList)
    (by decide +kernel) (by decide +kernel)

set_option maxRecDepth 4000 in
/-- So is that for the roles. -/
theorem roles_query : ¬ Modifies rolesSql :=
  closed_query _
    (toList_join (toList_join (toList_join (toList_join String.toList_ofList String.toList_ofList)
      String.toList_ofList) String.toList_ofList) String.toList_ofList)
    (by decide +kernel) (by decide +kernel)

/-- A tail of a query with a name in quotes and a comma behind it. -/
theorem literal_tail {before name} (quoteFree : '\'' ∉ name)
    (opened : (scan .between before).2 = .string false [])
    (plainBefore : (scan .between before).1.all plain = true)
    (plainBehind : plainTail (tokens behind) = true) :
    plainTail (tokens (before ++ (name ++ '\'' :: ',' :: behind))) = true := by
  have comma : begin ',' = ([.symbol ','], .between) := by decide
  have between : [Token.string name, .symbol ','].all plain = true := rfl
  rw [tokens_literal (Prod.ext rfl opened) quoteFree (by decide : ',' ∈ separators), comma]
  exact plainTail_append plainBefore (plainTail_append between plainBehind)

/-- What stands behind the role in the test of a privilege. -/
def privilegeEnd (privilege : TablePrivilegeKind) (label : String) : List Char :=
  " quote_ident(t.table_name), '".toList ++ (privilege.asSqlStr.toList ++
    ("') as can_".toList ++ label.toList))

/-- One tested privilege leaves the tail plain. -/
theorem privilege_tail {role} (quoteFree : '\'' ∉ role.toList)
    (privilege : TablePrivilegeKind) (label : String)
    (plainBehind : plainTail (tokens (privilegeEnd privilege label ++ behind)) = true) :
    plainTail (tokens ((privilegeTest role privilege label).toList ++ behind)) = true := by
  have quote : "', quote_ident(t.table_name), '".toList =
      '\'' :: ',' :: " quote_ident(t.table_name), '".toList := by decide +kernel
  have joined : ∀ a b c d e f : String, (a ++ b ++ c ++ d ++ e ++ f).toList =
      a.toList ++ (b.toList ++ (c.toList ++ (d.toList ++ (e.toList ++ f.toList)))) := by
    intro a b c d e f
    simp only [String.toList_append, append_assoc]
  have text : (privilegeTest role privilege label).toList =
      "has_table_privilege('".toList ++
        (role.toList ++ '\'' :: ',' :: privilegeEnd privilege label) := by
    apply (joined _ _ _ _ _ _).trans
    rw [quote]
    rfl
  rw [text, append_assoc, append_assoc]
  exact literal_tail quoteFree (by decide +kernel) (by decide +kernel) plainBehind

/-- A test with another one behind it. -/
theorem privilege_next {role} (quoteFree : '\'' ∉ role.toList)
    {privilege : TablePrivilegeKind} {label : String}
    (closed : (scan .between (privilegeEnd privilege label ++ ", ".toList)).2 = .between)
    (plainEnd : (scan .between (privilegeEnd privilege label ++ ", ".toList)).1.all plain = true)
    (plainBehind : plainTail (tokens behind) = true) :
    plainTail (tokens ((privilegeTest role privilege label).toList ++ (", ".toList ++ behind))) =
      true := by
  apply privilege_tail quoteFree
  rw [← append_assoc, tokens, tokensFrom_append, closed]
  exact plainTail_append plainEnd plainBehind

/-- A query that goes on behind its front. -/
theorem front_query {front} (text : sql.toList = front ++ behind)
    (opening : scan .between front = (.word "SELECT".toList :: first, .between))
    (plainFront : first.all plain = true) (plainBehind : plainTail (tokens behind) = true) :
    ¬ Modifies sql := by
  have read := tokensFrom_append .between front behind
  rw [← text, opening, cons_append] at read
  exact plain_query read (plainTail_append plainFront plainBehind)

/-- So the query for the privileges is one too. -/
theorem privileges_query {role} (quoteFree : '\'' ∉ role.toList) :
    ¬ Modifies (privilegesSql role) := by
  have joined : ∀ a b c d e f g h i z : String,
      (a ++ b ++ i ++ c ++ i ++ d ++ i ++ e ++ i ++ f ++ i ++ g ++ i ++ h ++ z).toList =
        a.toList ++ (b.toList ++ (i.toList ++ (c.toList ++ (i.toList ++ (d.toList ++ (i.toList ++
          (e.toList ++ (i.toList ++ (f.toList ++ (i.toList ++ (g.toList ++ (i.toList ++
            (h.toList ++ z.toList))))))))))))) := by
    intros
    simp only [String.toList_append, append_assoc]
  have opening : scan .between "SELECT t.table_name, ".toList =
      (.word "SELECT".toList :: (scan .between "SELECT t.table_name, ".toList).1.tail,
        .between) := by
    decide +kernel
  apply front_query (joined _ _ _ _ _ _ _ _ _ _) opening (by decide +kernel)
  apply privilege_next quoteFree (by decide +kernel) (by decide +kernel)
  apply privilege_next quoteFree (by decide +kernel) (by decide +kernel)
  apply privilege_next quoteFree (by decide +kernel) (by decide +kernel)
  apply privilege_next quoteFree (by decide +kernel) (by decide +kernel)
  apply privilege_next quoteFree (by decide +kernel) (by decide +kernel)
  refine privilege_next quoteFree (by decide +kernel)
    (by decide +kernel) ?_
  apply privilege_tail quoteFree .trigger "trigger"
  rw [String.toList_ofList]
  decide +kernel

/-! ### Names that are not quoted -/

/-- A valid identifier reads as one word. -/
theorem reads_name (valid : isValidIdentifier table = true) :
    Reads table.toList [.word table.toList] := by
  simp only [isValidIdentifier, Bool.and_eq_true] at valid
  obtain ⟨⟨-, first⟩, all⟩ := valid
  cases characters : table.toList with
  | nil => simp [characters] at first
  | cons c rest =>
    rw [characters] at first all
    have starts : startsWord c = true := by
      simp only [List.head?_cons, Option.any_some, Bool.or_eq_true, beq_iff_eq] at first
      rcases first with letter | rfl
      · simp [startsWord, letter]
      · decide
    refine reads_word (begin_word starts) (all_eq_true.mpr ?_)
    intro d member
    have inside := all_eq_true.mp all d (mem_cons_of_mem c member)
    simp only [Char.isAlphanum, Bool.or_eq_true, beq_iff_eq] at inside
    rcases inside with (letter | digit) | rfl
    · simp [continuesWord, startsWord, letter]
    · simp [continuesWord, digit]
    · decide

/-- A number reads as one. -/
theorem reads_decimal (value : Nat) :
    Reads (toString value).toList [.number (toString value).toList] := by
  have digits : ∀ c ∈ (toString value).toList, c.isDigit = true := by
    intro c member
    rw [Nat.toString_eq_repr, Nat.toList_repr] at member
    exact Nat.isDigit_of_mem_toDigits (by decide) (by decide) member
  have nonempty : (toString value).toList ≠ [] := by
    rw [Nat.toString_eq_repr, Nat.toList_repr]
    exact Nat.toDigits_ne_nil
  obtain ⟨first, rest, split⟩ := exists_cons_of_ne_nil nonempty
  rw [split] at digits ⊢
  exact reads_number (digits first mem_cons_self)
    (RowStatements.read_digits rest (fun c member => digits c (mem_cons_of_mem first member))
      fun c digit => by simp [NumberPart.next, digit])

/-- A query of a table with any name. -/
theorem table_query {front} (table : String) (tail : List Token)
    (text : sql.toList = front ++ behind)
    (opening : scan .between front =
      (.word "SELECT".toList :: first ++ [.word "FROM".toList], .between))
    (rest : tokens behind = .word table.toList :: tail ++ [.symbol ';'])
    (plainFront : (first.all fun token => plain token && !token.labels) = true)
    (plainTail : tail.all plain = true) : ¬ Modifies sql := by
  have front := all_eq_true.mp plainFront
  simp only [Bool.and_eq_true, Bool.not_eq_true', plain, bne_iff_ne] at front
  have behind := all_eq_true.mp plainTail
  simp only [plain, Bool.and_eq_true, Bool.not_eq_true', bne_iff_ne] at behind
  have read : tokens sql.toList = .word "SELECT".toList ::
      (first ++ .word "FROM".toList :: .word table.toList :: tail) ++ [.symbol ';'] := by
    rw [text, tokens, tokensFrom_append, opening]
    exact (congrArg (_ ++ ·) rest).trans (by simp)
  refine query_text read ?_ ?_
  · intro member
    simp only [mem_append, mem_cons, reduceCtorEq, false_or] at member
    rcases member with inside | inside
    · exact (front _ inside).1.1 rfl
    · exact (behind _ inside).1 rfl
  · intro ending listed
    have shape : Token.word "SELECT".toList ::
        (first ++ .word "FROM".toList :: .word table.toList :: tail ++ ending) =
        (.word "SELECT".toList :: first) ++
          .word "FROM".toList :: .word table.toList :: (tail ++ ending) := by
      simp
    rw [shape]
    apply selectsInto_from
    · exact leads_select (by decide) _
    · intro token member
      rcases mem_cons.mp member with rfl | inside
      · decide
      · exact (front token inside).2
    · intro token member
      simp only [cons_append, mem_cons, mem_append] at member
      rcases member with rfl | inside | inside | last
      · decide
      · exact (front token inside).1.2
      · exact (behind token inside).2
      simp only [mem_cons, not_mem_nil, or_false] at listed
      rcases listed with rfl | rfl
      · cases last
      · rw [mem_singleton.mp last]
        rfl

/-- The query for the count modifies nothing. -/
theorem count_query (valid : isValidIdentifier table = true) : ¬ Modifies (countSql table) := by
  have joined : ∀ a b c : String, (a ++ b ++ c).toList = a.toList ++ (b.toList ++ c.toList) := by
    intro a b c
    simp only [String.toList_append, append_assoc]
  have opening : scan .between "SELECT count(*) FROM ".toList =
      (.word "SELECT".toList :: [.word "count".toList, .symbol '(', .operator ['*'], .symbol ')'] ++
        [.word "FROM".toList], .between) := by
    decide
  exact table_query table [] (joined _ _ _) opening (reads_name valid).terminated (by decide) rfl

/-- Nor does that for a page. -/
theorem data_query (valid : isValidIdentifier table = true) (limit offset : Nat) :
    ¬ Modifies (dataSql table limit offset) := by
  have joined : ∀ a b c d e f g : String, (a ++ b ++ c ++ d ++ e ++ f ++ g).toList =
      a.toList ++
        (b.toList ++ (c.toList ++ (d.toList ++ (e.toList ++ (f.toList ++ g.toList))))) := by
    intros
    simp only [String.toList_append, append_assoc]
  have opening : scan .between "SELECT * FROM ".toList =
      (.word "SELECT".toList :: [.operator ['*']] ++ [.word "FROM".toList], .between) := by
    decide
  have limited : Reads "LIMIT".toList [.word "LIMIT".toList] := reads_word (by decide) (by decide)
  have skipped : Reads "OFFSET".toList [.word "OFFSET".toList] := reads_word (by decide) (by decide)
  have read := ((reads_name valid).space (limited.space ((reads_decimal limit).space
    (skipped.space (reads_decimal offset))))).terminated
  have limitText : " LIMIT ".toList = ' ' :: ("LIMIT".toList ++ [' ']) := by decide
  have offsetText : " OFFSET ".toList = ' ' :: ("OFFSET".toList ++ [' ']) := by decide
  have semicolon : ";".toList = [';'] := by decide
  refine table_query table [.word "LIMIT".toList, .number (toString limit).toList,
    .word "OFFSET".toList, .number (toString offset).toList] (joined _ _ _ _ _ _ _) opening ?_
    (by decide) rfl
  rw [limitText, offsetText, semicolon]
  simpa only [append_assoc, cons_append, nil_append] using read

/-! ### Handlers that only read -/

/-- None of the statements modifies anything. -/
def Reading (log : List (String × Nat)) : Prop := ∀ call ∈ log, ¬ Modifies call.1

theorem reading_nil : Reading [] := nofun

theorem reading_cons {maxRows log} (first : ¬ Modifies sql)
    (later : Reading log) : Reading ((sql, maxRows) :: log) :=
  forall_mem_cons.mpr ⟨first, later⟩

theorem reading_append {first second} (left : Reading first)
    (right : Reading second) : Reading (first ++ second) :=
  forall_mem_append.mpr ⟨left, right⟩

section Reads

variable (execute : Executor)

/-- The primary key is read. -/
theorem fetch_reading (table : String) :
    Reading (fetchTablePrimaryKeys execute table).executed := by
  unfold fetchTablePrimaryKeys
  split
  · exact reading_nil
  · rename_i valid
    exact reading_cons (primaryKeys_query (by simpa using valid)) reading_nil

variable (query : TablesQuery)

/-- A table's view is read. -/
theorem view_reading (activeTab table : String) :
    Reading (viewTable execute query activeTab table).executed := by
  unfold viewTable
  split
  · exact reading_nil
  rename_i invalid
  have valid : isValidIdentifier table = true := by simpa using invalid
  rw [executed_bind]
  apply reading_append (fetch_reading execute table)
  split
  · exact reading_cons (schema_query valid) reading_nil
  · split
    · exact reading_cons (count_query valid) (reading_cons (data_query valid _ _) reading_nil)
    · exact reading_nil

/-- The page of tables only reads. -/
theorem tablesPage_reading (authEnabled : Bool) (query : TablesQuery) :
    Reading (getTablesPage execute authEnabled query).executed := by
  have view : ∀ activeTab activeTable,
      Reading (viewActive execute query activeTab activeTable).executed := by
    intro activeTab activeTable
    cases activeTable with
    | none => exact reading_nil
    | some table => exact view_reading execute query activeTab table
  exact reading_append (reading_cons tables_query reading_nil)
    (reading_append (view _ _) reading_nil)

/-- The list of tables only reads. -/
theorem listTables_reading : Reading (apiListTables execute).executed :=
  reading_cons tables_query reading_nil

/-- So does the schema of a table. -/
theorem tableSchema_reading (table : String) : Reading (apiTableSchema execute table).executed := by
  unfold apiTableSchema
  split
  · exact reading_nil
  rename_i valid
  rw [executed_bind]
  apply reading_append (fetch_reading execute table)
  exact reading_cons (schema_query (by simpa using valid)) reading_nil

/-- So does a page of rows. -/
theorem tableData_reading (table : String) (query : TablesQuery) :
    Reading (apiTableData execute table query).executed := by
  unfold apiTableData
  split
  · exact reading_nil
  rename_i invalid
  have valid : isValidIdentifier table = true := by simpa using invalid
  rw [executed_bind]
  apply reading_append (fetch_reading execute table)
  exact reading_cons (count_query valid) (reading_cons (data_query valid _ _) reading_nil)

/-- So does the list of roles. -/
theorem listRoles_reading : Reading (listRoles execute).executed :=
  reading_cons roles_query reading_nil

/-- A name that the user service accepts holds no quote. -/
theorem validated_quoteFree {name} (valid : validateIdentifier name = .ok ()) :
    '\'' ∉ name.toList := by
  intro member
  simp only [validateIdentifier] at valid
  split at valid
  · cases valid
  split at valid
  · cases valid
  split at valid
  · cases valid
  rename_i checked
  have all : name.toList.all (fun c => c.isAlphanum || c == '_') = true := by
    simpa only [Bool.not_eq_true', Bool.not_eq_false] using checked
  exact absurd (all_eq_true.mp all '\'' member) (by decide)

/-- What comes after the check of a name may rely on it. -/
theorem validated_reading {α : Type} {name : String} {next : Logged (Except String α)}
    (reads : '\'' ∉ name.toList → Reading next.executed) :
    Reading (validated [name] next).executed := by
  unfold validated
  cases checked : validateIdentifier name with
  | error reason =>
    have refused : [name].mapM validateIdentifier = .error reason := by simp [checked]
    rw [refused]
    exact reading_nil
  | ok _ => simpa [checked] using reads (validated_quoteFree checked)

/-- A role is read. -/
theorem getRole_reading (role : String) : Reading (getRole execute role).executed :=
  validated_reading fun _ => reading_append (listRoles_reading execute) reading_nil

/-- Its privileges are read. -/
theorem privileges_reading (role : String) :
    Reading (getTablePrivileges execute role).executed := by
  refine validated_reading fun quoteFree => ?_
  exact reading_cons (privileges_query quoteFree) reading_nil

/-- The page of users only reads. -/
theorem usersPage_reading (authEnabled : Bool) (role tab : Option String) :
    Reading (getUsersPage execute authEnabled role tab).executed := by
  have active : ∀ role, Reading (activePrivileges execute role).executed := by
    intro role
    cases role with
    | none => exact reading_nil
    | some role => exact privileges_reading execute role.rolname
  exact reading_append (listRoles_reading execute)
    (reading_append (active _) (reading_append (listTables_reading execute) reading_nil))

end Reads

/-! ### Changes behind the guard -/

variable {upper : UpperCase}

/-- The guard of a read-only dashboard refuses every change. -/
theorem guarded_reading {guard} (readOnly : guard.allowMutations = false)
    (ddlCheck : String) (change : Logged (Except String Unit)) (message : String) :
    Reading (guarded upper guard ddlCheck change message).executed := by
  have refused : ∃ err,
      validateUserManagementDdl upper guard.allowMutations ddlCheck.toList = .error err := by
    simp only [validateUserManagementDdl, readOnly]
    split
    all_goals exact ⟨_, rfl⟩
  obtain ⟨err, same⟩ := refused
  rw [guarded, same]
  exact reading_nil

/-! ### Single rows -/

/-- A row request that passes its checks ends in a statement. -/
def RowAccepted (serde : Serde N) (execute : Executor) (table : String)
    (request : RowRequest N) : Prop :=
  checkRequest table request = .ok () ∧
    ∃ sql, rowSql serde table (reportedKeys execute table) request = .ok sql

/-- A text that begins with one of the words. -/
theorem leading_modifies {keyword} (listed : keyword ∈ modificationWords)
    (reads : Reads keyword.toList [.word keyword.toList])
    (spelled : toAsciiUppercase keyword.toList = keyword.toList) (rest : List Char) :
    Modifies (String.ofList (keyword.toList ++ ' ' :: rest)) := by
  have read := reads ' ' (by decide) rest
  rw [singleton_append] at read
  obtain ⟨body, others, split⟩ := splitFrom_word keyword.toList _
  refine ⟨.word keyword.toList :: body, ?_, ?_⟩
  · rw [statements, String.toList_ofList, tokens, read, split]
    exact mem_cons_self
  · rw [modifies, (leads_word _ _ _).mpr ⟨keyword, listed, spelled⟩, Bool.true_or]

/-- The statement for a row modifies it. -/
theorem row_modifies {serde : Serde N} {pks request sql}
    (accepted : rowSql serde table pks request = .ok sql) : Modifies (String.ofList sql) := by
  cases request with
  | delete primaryKeys =>
    simp only [rowSql] at accepted
    obtain ⟨conditions, -, written⟩ := RowStatements.bind_ok accepted
    cases written
    have verb : "DELETE FROM \"".toList = "DELETE".toList ++ ' ' :: "FROM \"".toList := by decide
    have reads : Reads "DELETE".toList [.word "DELETE".toList] := reads_word (by decide) (by decide)
    simp only [verb, append_assoc, cons_append]
    exact leading_modifies (by decide) reads (by decide) _
  | update primaryKeys values =>
    simp only [rowSql] at accepted
    obtain ⟨conditions, -, further⟩ := RowStatements.bind_ok accepted
    obtain ⟨assignments, -, written⟩ := RowStatements.bind_ok further
    cases written
    have verb : "UPDATE \"".toList = "UPDATE".toList ++ ' ' :: ['"'] := by decide
    have reads : Reads "UPDATE".toList [.word "UPDATE".toList] := reads_word (by decide) (by decide)
    simp only [verb, append_assoc, cons_append]
    exact leading_modifies (by decide) reads (by decide) _

/-- Row requests read only if they are refused. -/
theorem row_reading_iff (serde : Serde N) (execute : Executor) (table : String)
    (request : RowRequest N) :
    Reading (apiTableRow serde execute table request).1 ↔
      ¬ RowAccepted serde execute table request := by
  unfold apiTableRow
  cases checked : checkRequest table request with
  | error err => exact iff_of_true reading_nil fun accepted => nomatch checked.symm.trans accepted.1
  | ok _ =>
    have catalog : ¬ Modifies (primaryKeysSql table) :=
      primaryKeys_query (RowStatements.checked_table checked)
    cases written : rowSql serde table (reportedKeys execute table) request with
    | error err =>
      apply iff_of_true (reading_cons catalog reading_nil)
      rintro ⟨-, sql, accepted⟩
      exact nomatch written.symm.trans accepted
    | ok sql =>
      have accepted : RowAccepted serde execute table request := ⟨checked, sql, written⟩
      have modified := row_modifies written
      refine iff_of_false ?_ (not_not_intro accepted)
      intro reading
      dsimp only at reading
      split at reading
      all_goals exact reading (String.ofList sql, 1) (by simp) modified

/-! ### The console -/

variable {out : List Char}

/-- What the guard lets through is one statement, which modifies something only as a query. -/
theorem console_modifies_iff {sql} (accepted : validateReadOnly upper sql = .ok out) :
    Modifies (String.ofList out) ↔ writesInQuery (tokens out) = true := by
  obtain ⟨single, leading⟩ := accepted_leads accepted
  rw [Modifies, String.toList_ofList, single]
  simp only [mem_singleton, exists_eq_left, modifies, leading, Bool.false_or]

/-! ### All requests -/

/-- The condition under which a request to a read-only dashboard modifies nothing: a row
request is refused, and the text of a console query does not evade the guard. -/
def Harmless (state : DashboardState N) : DashboardRequest N → Prop
  | .tableRow table request => ¬ RowAccepted state.serde state.execute table request
  | .executeSql payload => ¬ Evades state.upper payload.query.toList
  | _ => True

/-- A console query reads only if it does not evade the guard. -/
theorem console_reading_iff {state : DashboardState N}
    (readOnly : state.securityGuard.allowMutations = false) (inTime : Bool)
    (payload : SqlQueryRequest) :
    Reading (apiExecuteSql state.execute state.upper state.securityGuard inTime payload).executed ↔
      Harmless state (.executeSql payload) := by
  have same : validateSql state.upper state.securityGuard.allowMutations payload.query.toList =
      validateReadOnly state.upper payload.query.toList := by
    simp only [validateSql, readOnly]
    split
    · rename_i empty
      rw [validateReadOnly, if_pos empty]
    · rfl
  rw [Harmless, ← accepted_writes_iff]
  cases checked : validateReadOnly state.upper payload.query.toList with
  | error err =>
    refine iff_of_true ?_ (by simp)
    rw [apiExecuteSql, same, checked]
    exact reading_nil
  | ok out =>
    have log : (apiExecuteSql state.execute state.upper state.securityGuard inTime
        payload).executed = [(String.ofList out,
          min (payload.maxRows.getD state.securityGuard.maxResultRows)
            state.securityGuard.maxResultRows)] := by
      simp only [apiExecuteSql, same, checked, executed_bind, call]
      cases inTime with
      | false | true => rfl
    rw [log, Reading, forall_mem_singleton, console_modifies_iff checked]
    simp only [Except.ok.injEq, exists_eq_left']

instance (sql : String) : Decidable (Modifies sql) :=
  inferInstanceAs (Decidable (∃ statement ∈ _, _))

/-- A read-only dashboard whose catalog reports the key column `id` for every table. -/
def readOnlyState : DashboardState Nat where
  serde := RowStatements.naturalSerde
  upper := asciiUpperCase
  execute _ _ :=
    .ok { columns := ["column_name"], rows := [["id"]], rowCount := 1, truncated := false }
  securityGuard := { maxExecutionTimeout := "10s", maxResultRows := 500, allowMutations := false }
  adminToken := some "secret"

def deleteRequest : RowRequest Nat :=
  .delete { entries := [("id", .number 7)]
            distinct := List.nodup_singleton "id" }

end PgVisor.ReadOnlyDashboard
