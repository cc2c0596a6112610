import PgVisor.Text
import PgVisor.WireFrames

/-!
# Statement classification and transaction tracking

The proxy classifies a statement by its first word and remembers the status of the
last ReadyForQuery it read from a backend. Inside a transaction every statement is
routed to the leader; outside, only statements classified as reads may go to a
standby.
-/

namespace PgVisor.QueryRouting

open Text WireFrames

inductive QueryKind where
  | read
  | write
  | begin
  | commit
  | rollback
  | set
  | other
deriving DecidableEq, Repr

/-- Functions that write although they are called from a SELECT. -/
def writingFunctions : List String :=
  ["PG_SWITCH_WAL", "PG_CREATE_RESTORE_POINT", "PG_BACKUP_START", "PG_BACKUP_STOP"]

/-- Classification by the first word, trailing semicolons and letter case aside. -/
def classifyQuery (sql : String) : QueryKind :=
  let trimmed := trimStart sql.toList
  let word := String.ofList
    (toAsciiUppercase (trimEndMatches (· == ';') (firstWord trimmed)))
  if word = "SELECT" then
    let upper := toAsciiUppercase trimmed
    if writingFunctions.any fun name => contains name.toList upper then .write else .read
  else if word ∈ ["SHOW", "EXPLAIN"] then .read
  else if word ∈ ["INSERT", "UPDATE", "DELETE", "CREATE", "DROP", "ALTER", "TRUNCATE"] then .write
  else if word ∈ ["BEGIN", "START"] then .begin
  else if word ∈ ["COMMIT", "END"] then .commit
  else if word ∈ ["ROLLBACK", "ABORT"] then .rollback
  else if word ∈ ["SET", "RESET"] then .set
  else .other

/-- Transaction state of a client session. -/
structure TransactionTracker where
  status : TransactionStatus
  inManualTx : Bool
deriving DecidableEq

def TransactionTracker.new : TransactionTracker where
  status := .idle
  inManualTx := false

def TransactionTracker.isIdle (tracker : TransactionTracker) : Bool :=
  decide (tracker.status = .idle)

def TransactionTracker.onReadyForQuery (tracker : TransactionTracker)
    (status : TransactionStatus) : TransactionTracker where
  status := status
  inManualTx := if status = .idle then false else tracker.inManualTx

/-- Whether the statement has to be executed on the leader. -/
def TransactionTracker.requiresLeader (tracker : TransactionTracker) (sql : String) : Bool :=
  if !tracker.isIdle then true
  else
    match classifyQuery sql with
    | .read => false
    | .write | .begin | .other | .set => true
    | .commit | .rollback => true

/-- Statements leave the leader only outside transactions and only as reads. -/
theorem requires_leader_iff (tracker : TransactionTracker) (sql : String) :
    tracker.requiresLeader sql = true ↔ tracker.status ≠ .idle ∨ classifyQuery sql ≠ .read := by
  unfold TransactionTracker.requiresLeader TransactionTracker.isIdle
  cases tracker.status <;> cases classifyQuery sql <;> simp

end PgVisor.QueryRouting
