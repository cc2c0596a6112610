import PgVisor.TableBrowser

/-!
# The dashboard's user management

Roles, memberships and table privileges are read from the catalog and changed by statements
that the user service builds from validated names. Every handler that changes something first
shows the guard a statement of the same kind; the guard of a read-only dashboard refuses them
all. The record of a change in the audit log is left out, and so is the service that keeps
roles in memory and executes nothing.
-/

namespace PgVisor.UserManagement

open Text TableBrowser
open SqlExecutor (SqlQueryResult isLeaderRequired)
open SqlGuard
open RowStatements (Executor)

/-! ### The guard -/

/-- Phrases that no statement for roles may contain. -/
def forbiddenPhrases : List String :=
  ["DROP TABLE", "DROP DATABASE", "DROP SCHEMA", "TRUNCATE ", "DELETE FROM", "UPDATE ",
    "INSERT INTO", "COPY ", "EXECUTE ", "DO $$"]

/-- The second of the words separated by white space. -/
def secondWord (text : List Char) : List Char :=
  firstWord ((trimStart text).dropWhile fun c => !isWhitespace c)

/-- Statements for roles, by their first words. -/
def isRoleDdl (text : List Char) : Bool :=
  let word := String.ofList (firstWord text)
  if word ∈ ["CREATE", "DROP", "ALTER"] then String.ofList (secondWord text) ∈ ["ROLE", "USER"]
  else if word = "GRANT" then contains " TO ".toList text
  else if word = "REVOKE" then contains " FROM ".toList text
  else false

/-- The first forbidden phrase; privileges may be called UPDATE and TRUNCATE. -/
def forbiddenPhrase (text : List Char) : Option String :=
  let privileges := String.ofList (firstWord text) ∈ ["GRANT", "REVOKE"]
  forbiddenPhrases.find? fun phrase =>
    !(decide privileges && decide (phrase ∈ ["UPDATE ", "TRUNCATE "])) &&
      contains phrase.toList text

def validateUserManagementDdl (upper : UpperCase) (allowMutations : Bool) (sql : List Char) :
    Except SecurityError (List Char) :=
  let trimmed := trim (stripComments sql)
  if trimmed = [] then .error .emptyQuery
  else if !allowMutations then
    .error (.mutationForbidden "User management DDL is forbidden in read-only mode")
  else
    let statement := trim (trimEndMatches (· == ';') trimmed)
    if statement.contains ';' then
      .error (.multiStatementForbidden "Multiple statements separated by semicolon are disallowed")
    else
      let text := upper.apply statement
      if !isRoleDdl text then
        .error (.mutationForbidden ("Statement is not an allowed user management DDL: '" ++
          String.ofList (firstWord text) ++ "'"))
      else
        match forbiddenPhrase text with
        | some phrase =>
          .error (.mutationForbidden ("Forbidden keyword '" ++ phrase ++
            "' detected in user management DDL"))
        | none => .ok statement

/-- No comment is left in the text that a guard or the router looks at, and each of them
decides about a text as about what is left of it. -/
theorem comments_stripped (sql : List Char) :
    CommentFree (stripComments sql) ∧
      stripComments (stripComments sql) = stripComments sql ∧
      CommentFree (trim (stripComments sql)) ∧ CommentFree (statementOf sql) ∧
      ∀ upper allowMutations,
        validateSql upper allowMutations (stripComments sql) =
          validateSql upper allowMutations sql ∧
        validateUserManagementDdl upper allowMutations (stripComments sql) =
          validateUserManagementDdl upper allowMutations sql ∧
        isLeaderRequired upper (String.ofList (stripComments sql)) =
          isLeaderRequired upper (String.ofList sql) := by
  have free : CommentFree (stripComments sql) := stripFrom_free .code sql
  have again : stripComments (stripComments sql) = stripComments sql := stripFrom_of_free free
  have statement : statementOf (stripComments sql) = statementOf sql := by
    rw [statementOf, again, statementOf]
  have trimmed := free.of_part (trim_part _)
  refine ⟨free, again, trimmed, ?_, fun upper allowMutations => ⟨?_, ?_, ?_⟩⟩
  · exact trimmed.of_part ((trim_part _).trans (trimEndMatches_part _ _))
  · simp only [validateSql, validateReadOnly, statement, again]
  · simp only [validateUserManagementDdl, again]
  · simp only [isLeaderRequired, String.toList_ofList, statement]

/-! ### Requests and results -/

inductive TablePrivilegeKind where
  | select
  | insert
  | update
  | delete
  | truncate
  | references
  | trigger
deriving DecidableEq

def TablePrivilegeKind.asSqlStr : TablePrivilegeKind → String
  | .select => "SELECT"
  | .insert => "INSERT"
  | .update => "UPDATE"
  | .delete => "DELETE"
  | .truncate => "TRUNCATE"
  | .references => "REFERENCES"
  | .trigger => "TRIGGER"

structure CreateRoleRequest where
  name : String
  password : Option String
  login : Bool
  createdb : Bool
  createrole : Bool
  replication : Bool
  connectionLimit : Int

structure AlterRoleRequest where
  password : Option String
  login : Option Bool
  createdb : Option Bool
  createrole : Option Bool
  replication : Option Bool
  connectionLimit : Option Int

structure TablePrivilegeRequest where
  tableName : String
  schema : Option String
  privilege : TablePrivilegeKind
  grant : Bool

structure PgRole where
  rolname : String
  rolcanlogin : Bool
  rolcreatedb : Bool
  rolcreaterole : Bool
  rolreplication : Bool
  rolsuper : Bool
  rolconnlimit : Int
  memberOf : List String
deriving DecidableEq

structure TablePrivilege where
  tableName : String
  schema : String
  select : Bool
  insert : Bool
  update : Bool
  delete : Bool
  truncate : Bool
  references : Bool
  trigger : Bool
deriving DecidableEq

/-- `t` or `true` in any letter case. -/
def parseBool (text : String) : Bool :=
  toAsciiUppercase text.toList ∈ ["T".toList, "TRUE".toList]

/-- A decimal number of 32 bits with an optional sign. -/
def parseI32 (text : List Char) : Option Int :=
  match stripPrefix ['-'] text with
  | some digits =>
    -- only one sign may be written
    if digits.head? = some '+' then none
    else (parseU64 digits).bind fun value => if value ≤ 2 ^ 31 then some (-value) else none
  | none => (parseU64 text).bind fun value => if value < 2 ^ 31 then some value else none

def pgRole : List String → Option PgRole
  | name :: canlogin :: createdb :: createrole :: replication :: super :: connlimit ::
      members :: _ =>
    some
      { rolname := name
        rolcanlogin := parseBool canlogin
        rolcreatedb := parseBool createdb
        rolcreaterole := parseBool createrole
        rolreplication := parseBool replication
        rolsuper := parseBool super
        rolconnlimit := (parseI32 connlimit.toList).getD (-1)
        memberOf := ((members.toList.splitOn ',').map fun part => String.ofList (trim part)).filter
          fun part => part ≠ "" }
  | _ => none

def tablePrivilege : List String → Option TablePrivilege
  | name :: select :: insert :: update :: delete :: truncate :: references :: trigger :: _ =>
    some
      { tableName := name
        schema := "public"
        select := parseBool select
        insert := parseBool insert
        update := parseBool update
        delete := parseBool delete
        truncate := parseBool truncate
        references := parseBool references
        trigger := parseBool trigger }
  | _ => none

/-! ### The service -/

def validateIdentifier (name : String) : Except String Unit :=
  if name.isEmpty then .error "Identifier cannot be empty"
  else if 63 < name.utf8ByteSize then
    .error "Identifier exceeds maximum length of 63 characters"
  else if !name.toList.all (fun c => c.isAlphanum || c == '_') then
    .error ("Identifier '" ++ name ++ "' contains invalid characters")
  else .ok ()

def rolesSql : String :=
  "SELECT r.rolname, r.rolcanlogin, r.rolcreatedb, r.rolcreaterole, r.rolreplication, " ++
  "r.rolsuper, r.rolconnlimit, COALESCE((SELECT string_agg(b.rolname, ',') " ++
  "FROM pg_auth_members m JOIN pg_roles b ON (m.roleid = b.oid) WHERE m.member = r.oid), '') " ++
  "as member_of FROM pg_roles r WHERE r.rolname NOT LIKE 'pg_%' AND r.rolname != 'postgres' " ++
  "ORDER BY r.rolname;"

/-- The test of one privilege and the name of its column. -/
def privilegeTest (role : String) (privilege : TablePrivilegeKind) (label : String) : String :=
  "has_table_privilege('" ++ role ++ "', quote_ident(t.table_name), '" ++ privilege.asSqlStr ++
    "') as can_" ++ label

def privilegesSql (role : String) : String :=
  "SELECT t.table_name, " ++ privilegeTest role .select "select" ++ ", " ++
  privilegeTest role .insert "insert" ++ ", " ++ privilegeTest role .update "update" ++ ", " ++
  privilegeTest role .delete "delete" ++ ", " ++ privilegeTest role .truncate "truncate" ++ ", " ++
  privilegeTest role .references "references" ++ ", " ++ privilegeTest role .trigger "trigger" ++
  " FROM information_schema.tables t WHERE t.table_schema = 'public' ORDER BY t.table_name;"

def flag (name : String) (set : Bool) : String := if set then name else "NO" ++ name

/-- A password in single quotes, if one is given and not empty. -/
def passwordClause (password : Option String) : Option String :=
  (password.filter (· ≠ "")).map fun text =>
    "PASSWORD '" ++ String.ofList (SqlTokens.doubled text.toList) ++ "'"

def createRoleSql (req : CreateRoleRequest) : String :=
  "CREATE ROLE \"" ++ req.name ++ "\" WITH " ++ flag "LOGIN" req.login ++ " " ++
  flag "CREATEDB" req.createdb ++ " " ++ flag "CREATEROLE" req.createrole ++ " " ++
  flag "REPLICATION" req.replication ++ " CONNECTION LIMIT " ++ toString req.connectionLimit ++
  ((passwordClause req.password).map (" " ++ ·)).getD "" ++ ";"

def alterClauses (req : AlterRoleRequest) : List String :=
  (req.login.map (flag "LOGIN")).toList ++ (req.createdb.map (flag "CREATEDB")).toList ++
  (req.createrole.map (flag "CREATEROLE")).toList ++
  (req.replication.map (flag "REPLICATION")).toList ++
  (req.connectionLimit.map fun limit => "CONNECTION LIMIT " ++ toString limit).toList ++
  (passwordClause req.password).toList

section Service

variable (execute : Executor)

/-- Check the names, then do the rest. -/
def validated {α : Type} (names : List String) (next : Logged (Except String α)) :
    Logged (Except String α) :=
  match names.mapM validateIdentifier with
  | .error reason => pure (.error reason)
  | .ok _ => next

/-- Execute a statement for its effect. -/
def perform (sql : String) : Logged (Except String Unit) := do
  let answer ← call execute sql 1
  return answer.map fun _ => ()

def listRoles : Logged (Except String (List PgRole)) := do
  let answer ← call execute rolesSql 200
  return answer.map fun result => result.rows.filterMap pgRole

def getRole (name : String) : Logged (Except String (Option PgRole)) :=
  validated [name] do
    let roles ← listRoles execute
    return roles.map fun roles => roles.find? fun role => role.rolname = name

def getTablePrivileges (role : String) : Logged (Except String (List TablePrivilege)) :=
  validated [role] do
    let answer ← call execute (privilegesSql role) 200
    return answer.map fun result => result.rows.filterMap tablePrivilege

def createRole (req : CreateRoleRequest) : Logged (Except String Unit) :=
  validated [req.name] (perform execute (createRoleSql req))

def dropRole (name : String) : Logged (Except String Unit) :=
  validated [name] (perform execute ("DROP ROLE \"" ++ name ++ "\";"))

def alterRole (name : String) (req : AlterRoleRequest) : Logged (Except String Unit) :=
  validated [name]
    (if alterClauses req = [] then pure (.ok ())
    else perform execute
      ("ALTER ROLE \"" ++ name ++ "\" WITH " ++ " ".intercalate (alterClauses req) ++ ";"))

def grantMembership (role group : String) : Logged (Except String Unit) :=
  validated [role, group] (perform execute ("GRANT \"" ++ group ++ "\" TO \"" ++ role ++ "\";"))

def revokeMembership (role group : String) : Logged (Except String Unit) :=
  validated [role, group]
    (perform execute ("REVOKE \"" ++ group ++ "\" FROM \"" ++ role ++ "\";"))

def setTablePrivilege (role : String) (req : TablePrivilegeRequest) : Logged (Except String Unit) :=
  let schema := req.schema.getD "public"
  validated [role, req.tableName, schema]
    (perform execute ((if req.grant then "GRANT " else "REVOKE ") ++ req.privilege.asSqlStr ++
      " ON TABLE \"" ++ schema ++ "\".\"" ++ req.tableName ++ "\" " ++
      (if req.grant then "TO" else "FROM") ++ " \"" ++ role ++ "\";"))

/-! ### Handlers -/

/-- `UsersTemplate`; the page shows the same roles twice. -/
structure UsersPage where
  roles : List PgRole
  activeRole : Option PgRole
  activeTab : String
  tablePrivileges : List TablePrivilege
  allTables : List TableSummary
  authEnabled : Bool

/-- The privileges of the role that the page shows. -/
def activePrivileges : Option PgRole → Logged (Except String (List TablePrivilege))
  | some active => getTablePrivileges execute active.rolname
  | none => pure (.ok [])

def getUsersPage (authEnabled : Bool) (role tab : Option String) : Logged UsersPage := do
  let listed ← listRoles execute
  let roles := listed.toOption.getD []
  let activeRole := (role <|> roles.head?.map PgRole.rolname).bind fun name =>
    roles.find? fun role => role.rolname = name
  let privileges ← activePrivileges execute activeRole
  let allTables ← apiListTables execute
  return {
    roles := roles
    activeRole := activeRole
    activeTab := tab.getD "attributes"
    tablePrivileges := privileges.toOption.getD []
    allTables := allTables
    authEnabled := authEnabled }

def apiListUsers : Logged (List PgRole) := do
  let listed ← listRoles execute
  return listed.toOption.getD []

def apiGetUser (role : String) : Logged (Except (Nat × String) PgRole) := do
  let found ← getRole execute role
  return match found with
    | .ok (some found) => .ok found
    | .ok none => .error (404, "Role '" ++ role ++ "' not found")
    | .error reason => .error (500, reason)

def apiGetPrivileges (role : String) : Logged (Except (Nat × String) (List TablePrivilege)) := do
  let privileges ← getTablePrivileges execute role
  return match privileges with
    | .ok privileges => .ok privileges
    | .error reason => .error (500, reason)

variable (upper : UpperCase) (guard : SqlSecurityGuard)

/-- A change behind the guard: the statement it is shown, the change, and the answer. -/
def guarded (ddlCheck : String) (change : Logged (Except String Unit)) (message : String) :
    Logged (Except (Nat × String) String) :=
  match validateUserManagementDdl upper guard.allowMutations ddlCheck.toList with
  | .error err => pure (.error (403, err.message))
  | .ok _ => do
    let changed ← change
    return match changed with
      | .ok () => .ok message
      | .error reason => .error (400, reason)

def apiCreateUser (req : CreateRoleRequest) : Logged (Except (Nat × String) String) :=
  guarded upper guard ("CREATE ROLE \"" ++ req.name ++ "\" WITH LOGIN;") (createRole execute req)
    ("Role '" ++ req.name ++ "' created successfully")

def apiDropUser (role : String) : Logged (Except (Nat × String) String) :=
  guarded upper guard ("DROP ROLE \"" ++ role ++ "\";") (dropRole execute role)
    ("Role '" ++ role ++ "' dropped successfully")

def apiAlterUser (role : String) (req : AlterRoleRequest) : Logged (Except (Nat × String) String) :=
  guarded upper guard ("ALTER ROLE \"" ++ role ++ "\" WITH LOGIN;") (alterRole execute role req)
    ("Role '" ++ role ++ "' updated successfully")

def apiGrantMembership (role group : String) : Logged (Except (Nat × String) String) :=
  guarded upper guard ("GRANT \"" ++ group ++ "\" TO \"" ++ role ++ "\";")
    (grantMembership execute role group)
    ("Granted group '" ++ group ++ "' to role '" ++ role ++ "'")

def apiRevokeMembership (role group : String) : Logged (Except (Nat × String) String) :=
  guarded upper guard ("REVOKE \"" ++ group ++ "\" FROM \"" ++ role ++ "\";")
    (revokeMembership execute role group)
    ("Revoked group '" ++ group ++ "' from role '" ++ role ++ "'")

def apiSetPrivilege (role : String) (req : TablePrivilegeRequest) :
    Logged (Except (Nat × String) String) :=
  guarded upper guard
    ((if req.grant then "GRANT " else "REVOKE ") ++ req.privilege.asSqlStr ++
      " ON TABLE public.\"" ++ req.tableName ++ "\" " ++ (if req.grant then "TO" else "FROM") ++
      " \"" ++ role ++ "\";")
    (setTablePrivilege execute role req)
    ((if req.grant then "Granted " else "Revoked ") ++ req.privilege.asSqlStr ++ " on " ++
      req.tableName ++ " " ++ (if req.grant then "to" else "from") ++ " role " ++ role)

end Service

end PgVisor.UserManagement
