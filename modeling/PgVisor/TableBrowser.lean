import PgVisor.RowStatements

/-!
# The dashboard's table browser and SQL console

The handlers that read the catalog and the rows of a table, and the console that executes
what its user writes. A handler is a computation that passes statements to the executor, one
after the other, and the log of a request is what was passed. Table names are not quoted in
all statements, but have to be plain identifiers in every request that names one.

Offsets are computed in 64 bits. Rendering of pages is left out: a page is the data that its
template is given. The console's time limit shows only in whether the answer came in time, and
its length in the message.
-/

namespace PgVisor.TableBrowser

open Text
open SqlExecutor (SqlQueryResult)
open RowStatements (Executor isValidIdentifier isKey primaryKeysSql reportedKeys)
open SqlGuard (UpperCase SecurityError validateSql)

/-- A result, and the statements passed to the executor on the way with their limits of rows. -/
structure Logged (α : Type) where
  executed : List (String × Nat)
  result : α

instance : Monad Logged where
  pure result := ⟨[], result⟩
  bind first next := ⟨first.executed ++ (next first.result).executed, (next first.result).result⟩

/-- The statements of a sequence are those of its parts in order. -/
@[simp]
theorem executed_bind {α β : Type} (first : Logged α) (next : α → Logged β) :
    (first >>= next).executed = first.executed ++ (next first.result).executed := rfl

/-- One call of the executor, logged. -/
def call (execute : Executor) (sql : String) (maxRows : Nat) :
    Logged (Except String SqlQueryResult) :=
  ⟨[(sql, maxRows)], execute sql maxRows⟩

/-! ### Statements -/

/-- The query for the names of the tables. -/
def tablesSql : String :=
  "SELECT table_name FROM information_schema.tables WHERE table_schema = 'public' " ++
  "ORDER BY table_name;"

/-- The query for a table's columns. -/
def schemaSql (table : String) : String :=
  "SELECT column_name, data_type, is_nullable, column_default FROM information_schema.columns " ++
  "WHERE table_schema = 'public' AND table_name = '" ++ table ++ "' ORDER BY ordinal_position;"

/-- The query for a table's number of rows. -/
def countSql (table : String) : String := "SELECT count(*) FROM " ++ table ++ ";"

/-- The query for one page of a table. -/
def dataSql (table : String) (limit offset : Nat) : String :=
  "SELECT * FROM " ++ table ++ " LIMIT " ++ toString limit ++ " OFFSET " ++ toString offset ++ ";"

/-! ### Results -/

/-- A table in the list. -/
structure TableSummary where
  name : String
  schema : String
  estimatedRows : Nat
  sizePretty : String
deriving DecidableEq

/-- The tables a catalog query names; a failed query names none. -/
def listedTables (answer : Except String SqlQueryResult) : List TableSummary :=
  match answer with
  | .error _ => []
  | .ok result =>
    (result.rows.filterMap List.head?).map fun name =>
      { name := name, schema := "public", estimatedRows := 0, sizePretty := "-" }

/-- A column of a table's schema. -/
structure ColumnInfo where
  name : String
  dataType : String
  isNullable : Bool
  defaultValue : Option String
  isPrimaryKey : Bool
deriving DecidableEq

/-- A row of the catalog with three columns or more. -/
def columnInfo (primaryKeys : List String) : List String → Option ColumnInfo
  | name :: dataType :: nullable :: rest =>
    some
      { name := name
        dataType := dataType
        isNullable := toAsciiUppercase nullable.toList == "YES".toList
        defaultValue := rest.head?.filter fun text => text ≠ "" ∧ text ≠ "NULL"
        isPrimaryKey := isKey primaryKeys name }
  | _ => none

/-- The query string of the table pages. -/
structure TablesQuery where
  table : Option String
  tab : Option String
  page : Option Nat
  limit : Option Nat
  sql : Option String

/-- Rows of a page: fifty by default, from one to a hundred. -/
def TablesQuery.rowLimit (query : TablesQuery) : Nat := max (min (query.limit.getD 50) 100) 1

/-- Pages count from one. -/
def TablesQuery.pageNumber (query : TablesQuery) : Nat := max (query.page.getD 1) 1

/-- The rows before the page, as a `u64`. -/
def TablesQuery.offset (query : TablesQuery) : Nat :=
  (query.pageNumber - 1) * query.rowLimit % 2 ^ 64

/-- The number a count query reports, zero if it cannot be told. -/
def reportedCount (answer : Except String SqlQueryResult) : Nat :=
  match answer with
  | .error _ => 0
  | .ok result =>
    ((result.rows.head?.bind List.head?).bind fun text => parseU64 text.toList).getD 0

/-- `TablesTemplate` -/
structure TablesPage where
  tables : List TableSummary
  activeTable : Option String
  activeTab : String
  columns : List ColumnInfo
  dataColumns : List String
  primaryKeys : List String
  dataRows : List (List (Option String))
  totalRows : Nat
  page : Nat
  limit : Nat
  totalPages : Nat
  initialSql : Option String
  authEnabled : Bool
deriving DecidableEq

/-- The rows of a page, as the API returns them. -/
structure TableDataResponse where
  tableName : String
  columns : List String
  primaryKeys : List String
  rows : List (List (Option String))
  totalRows : Nat
  limit : Nat
  offset : Nat
deriving DecidableEq

/-! ### Handlers -/

section Handlers

variable (execute : Executor)

/-- The primary key, asked for only under a valid name. -/
def fetchTablePrimaryKeys (table : String) : Logged (List String) :=
  if !isValidIdentifier table then pure []
  else ⟨[(primaryKeysSql table, 100)], reportedKeys execute table⟩

/-- What the page shows of its table. -/
structure TableView where
  primaryKeys : List String
  columns : List ColumnInfo
  dataColumns : List String
  dataRows : List (List (Option String))
  totalRows : Nat

/-- The page before anything has been read. -/
def TableView.empty : TableView where
  primaryKeys := []
  columns := []
  dataColumns := []
  dataRows := []
  totalRows := 0

/-- The queries for the chosen table, by tab. -/
def viewTable (query : TablesQuery) (activeTab table : String) : Logged TableView :=
  if !isValidIdentifier table then pure .empty
  else do
    let primaryKeys ← fetchTablePrimaryKeys execute table
    if activeTab = "schema" then
      let answer ← call execute (schemaSql table) 200
      return { TableView.empty with
        primaryKeys := primaryKeys
        columns := match answer with
          | .error _ => []
          | .ok result => result.rows.filterMap (columnInfo primaryKeys) }
    else if activeTab = "data" then
      let count ← call execute (countSql table) 1
      let answer ← call execute (dataSql table query.rowLimit query.offset) query.rowLimit
      return { TableView.empty with
        primaryKeys := primaryKeys
        totalRows := reportedCount count
        dataColumns := match answer with
          | .error _ => []
          | .ok result => result.columns
        dataRows := match answer with
          | .error _ => []
          | .ok result => result.rows.map fun row => row.map some }
    else return { TableView.empty with primaryKeys := primaryKeys }

/-- The table of the page, if there is one. -/
def viewActive (query : TablesQuery) (activeTab : String) : Option String → Logged TableView
  | some table => viewTable execute query activeTab table
  | none => pure .empty

/-- The number of pages, one at least where there are rows. -/
def totalPages (view : TableView) (limit : Nat) : Nat :=
  if 0 < view.totalRows then
    max ((view.totalRows + limit + (2 ^ 64 - 1)) % 2 ^ 64 / limit) 1
  else if view.dataRows.isEmpty then 0
  else 1

/-- The page of tables. -/
def getTablesPage (authEnabled : Bool) (query : TablesQuery) : Logged TablesPage := do
  let answer ← call execute tablesSql 100
  let tables := listedTables answer
  let activeTable := query.table <|>
    (if query.tab = some "sql" then none else tables.head?.map TableSummary.name)
  let activeTab := query.tab.getD "data"
  let view ← viewActive execute query activeTab activeTable
  return {
    tables := tables
    activeTable := activeTable
    activeTab := activeTab
    columns := view.columns
    dataColumns := view.dataColumns
    primaryKeys := view.primaryKeys
    dataRows := view.dataRows
    totalRows := view.totalRows
    page := query.pageNumber
    limit := query.rowLimit
    totalPages := totalPages view query.rowLimit
    initialSql := query.sql
    authEnabled := authEnabled }

/-- The page of the SQL console. -/
def getSqlConsole (authEnabled : Bool) : Logged TablesPage :=
  getTablesPage execute authEnabled
    { table := none, tab := some "sql", page := none, limit := none, sql := none }

/-- The list of tables, for the API. -/
def apiListTables : Logged (List TableSummary) := do
  let answer ← call execute tablesSql 200
  return listedTables answer

/-- A table's columns, for the API. -/
def apiTableSchema (table : String) : Logged (Except (Nat × String) (List ColumnInfo)) :=
  if !isValidIdentifier table then pure (.error (400, "Invalid table name"))
  else do
    let primaryKeys ← fetchTablePrimaryKeys execute table
    let answer ← call execute (schemaSql table) 200
    return match answer with
      | .error reason => .error (500, reason)
      | .ok result => .ok (result.rows.filterMap (columnInfo primaryKeys))

/-- A page of rows, for the API. -/
def apiTableData (table : String) (query : TablesQuery) :
    Logged (Except (Nat × String) TableDataResponse) :=
  if !isValidIdentifier table then pure (.error (400, "Invalid table name"))
  else do
    let primaryKeys ← fetchTablePrimaryKeys execute table
    let count ← call execute (countSql table) 1
    let answer ← call execute (dataSql table query.rowLimit query.offset) query.rowLimit
    return match answer with
      | .error reason => .error (500, reason)
      | .ok result => .ok
        { tableName := table
          columns := result.columns
          primaryKeys := primaryKeys
          rows := result.rows.map fun row => row.map some
          totalRows := reportedCount count
          limit := query.rowLimit
          offset := query.offset }

/-- The settings of the guard. -/
structure SqlSecurityGuard where
  /-- The time limit as messages show it. -/
  maxExecutionTimeout : String
  maxResultRows : Nat
  allowMutations : Bool

/-- A statement typed into the console. -/
structure SqlQueryRequest where
  query : String
  maxRows : Option Nat

/-- The body of a refusal. -/
structure SqlQueryError where
  code : String
  message : String
deriving DecidableEq

/-- The status code and body for each error of the guard. -/
def refusal : SecurityError → Nat × SqlQueryError
  | .mutationForbidden detail =>
    (403, ⟨"MUTATION_FORBIDDEN", (SecurityError.mutationForbidden detail).message⟩)
  | .multiStatementForbidden detail =>
    (400, ⟨"MULTI_STATEMENT_FORBIDDEN", (SecurityError.multiStatementForbidden detail).message⟩)
  | .emptyQuery => (400, ⟨"EMPTY_QUERY", SecurityError.emptyQuery.message⟩)

/-- A statement of the console is checked, then executed in time or not. -/
def apiExecuteSql (upper : UpperCase) (guard : SqlSecurityGuard) (inTime : Bool)
    (payload : SqlQueryRequest) : Logged (Except (Nat × SqlQueryError) SqlQueryResult) :=
  let maxRows := min (payload.maxRows.getD guard.maxResultRows) guard.maxResultRows
  match validateSql upper guard.allowMutations payload.query.toList with
  | .error err => pure (.error (refusal err))
  | .ok safeSql => do
    let answer ← call execute (String.ofList safeSql) maxRows
    if !inTime then
      return .error (504, ⟨"STATEMENT_TIMEOUT",
        "Query execution exceeded statement timeout of " ++ guard.maxExecutionTimeout⟩)
    else
      return match answer with
        | .ok result => .ok result
        | .error reason => .error (500, ⟨"EXECUTION_FAILED", reason⟩)

end Handlers

end PgVisor.TableBrowser
