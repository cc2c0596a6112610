import Mathlib.Data.List.Basic
import Mathlib.Tactic.Common

/-!
# The data directory of a server

The supervisor clears the data directory, has `tar` or `pg_basebackup` fill it, and writes
and removes a handful of files of its own: the configuration, the signal files that select
recovery or standby mode, and the archive it extracts. The directory is the list of its
files, each with its path and content; a directory inside it is there if it has files. What
a running server writes is left out, and so is the text of a file whose writing broke off.
-/

namespace PgVisor.Sidecar

open List

/-- A file of the data directory: the entry of the directory it is or lies below, and the
path from there. -/
structure DataPath where
  entry : String
  below : String := ""
deriving DecidableEq, Repr

abbrev Files := List (DataPath × String)

namespace Files

/-- The file is written, replacing what was there. -/
def put (name content : String) (files : Files) : Files :=
  (⟨name, ""⟩, content) :: files.filter fun file => file.1 ≠ ⟨name, ""⟩

/-- An entry is removed with all that lies below it. A removal that fails may leave files. -/
def removeEntry (name : String) (survives : DataPath → Bool) (files : Files) : Files :=
  files.filter fun file => file.1.entry ≠ name || survives file.1

/-- Files are extracted into the directory, replacing those of the same path. -/
def overlay (members files : Files) : Files :=
  members ++ files.filter fun file => (members.lookup file.1).isNone

/-- Whether the directory has a plain file of this name. -/
def has (name : String) (files : Files) : Bool := (files.lookup ⟨name, ""⟩).isSome

/-- The entries a listing of the directory shows. -/
def entries (files : Files) : List String := (files.map fun file => file.1.entry).dedup

end Files

/-! ### Configuration files -/

/-- Parameters of the server. -/
structure PostgresConfig where
  port : Nat := 5432
  maxConnections : Nat := 100
  sharedBuffers : String := "128MB"
  walKeepSize : String := "1GB"
  archiveCommand : Option String := none
  restoreCommand : Option String := none
  primaryConninfo : Option String := none
  recoveryTargetTime : Option String := none
  recoveryTargetAction : Option String := none
  ssl : Bool := false
  sslCertFile : Option String := none
  sslKeyFile : Option String := none
deriving DecidableEq, Repr

/-- A line of the configuration for a parameter that is set. -/
def settingLine (name : String) : Option String → String
  | some value => name ++ " = '" ++ value ++ "'\n"
  | none => ""

/-- `write_postgresql_conf`: the text of `postgresql.conf`. -/
def postgresqlConf (toPostgresTimestamp : String → String) (config : PostgresConfig) : String :=
  "# Generated by pgvisor-sidecar\n" ++ "listen_addresses = '*'\n" ++
    "port = " ++ toString config.port ++ "\n" ++
    "max_connections = " ++ toString config.maxConnections ++ "\n" ++
    "shared_buffers = " ++ config.sharedBuffers ++ "\n" ++
    "wal_level = replica\n" ++ "max_wal_senders = 10\n" ++
    "wal_keep_size = '" ++ config.walKeepSize ++ "'\n" ++
    "hot_standby = on\n" ++ "unix_socket_directories = '/tmp'\n" ++
    (match config.archiveCommand with
      | some command => "archive_mode = on\n" ++ "archive_command = '" ++ command ++ "'\n"
      | none => "") ++
    -- a standby does not read the shared archive
    (if config.primaryConninfo.isNone then settingLine "restore_command" config.restoreCommand
      else "") ++
    (match config.recoveryTargetTime with
      | some target => settingLine "recovery_target_time" (some (toPostgresTimestamp target)) ++
          "recovery_target_timeline = 'current'\n"
      | none => "") ++
    settingLine "recovery_target_action" config.recoveryTargetAction ++
    (if config.ssl then
      "ssl = on\n" ++ settingLine "ssl_cert_file" config.sslCertFile ++
        settingLine "ssl_key_file" config.sslKeyFile
    else "ssl = off\n") ++
    settingLine "primary_conninfo" config.primaryConninfo

/-- `write_pg_hba`: the text of `pg_hba.conf`. -/
def pgHba : String :=
  "# Generated by pgvisor-sidecar\n" ++
    "# TYPE  DATABASE        USER            ADDRESS                 METHOD\n" ++
    "local   all             all                                     trust\n" ++
    "host    all             all             127.0.0.1/32            trust\n" ++
    "host    all             all             ::1/128                 trust\n" ++
    "host    all             all             all                     trust\n" ++
    "host    replication     all             all                     trust\n"

/-- A change of one file. A failed removal is not noticed. -/
inductive FileChange where
  | write (name content : String)
  | remove (name : String)

def FileChange.apply (survives : DataPath → Bool) (files : Files) : FileChange → Files
  | .write name content => files.put name content
  | .remove name => files.removeEntry name survives

/-- The changes of `write_conf_only`. -/
def confChanges (toPostgresTimestamp : String → String) (config : PostgresConfig) :
    List FileChange :=
  [.write "postgresql.conf" (postgresqlConf toPostgresTimestamp config),
    .write "pg_hba.conf" pgHba]

/-- The changes of `write_configs`: the configuration and the two signal files. -/
def configChanges (toPostgresTimestamp : String → String) (config : PostgresConfig) :
    List FileChange :=
  confChanges toPostgresTimestamp config ++
    [if config.recoveryTargetTime.isSome then .write "recovery.signal" ""
      else .remove "recovery.signal",
    if config.primaryConninfo.isSome then .write "standby.signal" ""
      else .remove "standby.signal"]

/-- Make the changes in order. `failure` says after how many of them one failed, and why.
A directory that does not exist is created first. -/
def applyChanges (changes : List FileChange) (failure : Option (Nat × String))
    (survives : DataPath → Bool) (dir : Option Files) : Option Files × Except String Unit :=
  match failure with
  | none => (some (changes.foldl (FileChange.apply survives) (dir.getD [])), .ok ())
  | some (0, reason) => (dir, .error reason)
  | some (made, reason) =>
    (some ((changes.take made).foldl (FileChange.apply survives) (dir.getD [])), .error reason)

end PgVisor.Sidecar
