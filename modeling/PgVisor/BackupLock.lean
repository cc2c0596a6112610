import Mathlib.Logic.Function.Basic
import PgVisor.BasebackupArchive
import PgVisor.Election

/-!
# The backup lock of a sidecar

The leader's sidecar keeps one lock in memory for the backup operations of the cluster.
A request to acquire it reads the role and the clock and then waits for the lock's guard;
the section under the guard refuses as long as the clock reading lies before the expiry of
the lock that is there, and otherwise replaces it. A release frees the lock only if it
presents the token that the lock was handed out with.

The two parts of an acquisition are separate steps, so that any number of requests can read
the clock before one of them enters the section. Tokens are random identifiers; that a new
one differs from all before it is an assumption on the steps. Instants are sent as text,
whose form is left out.
-/

namespace PgVisor.BackupLock

open Transitions
open Backup (DateTime)
open Election (NodeRole)

/-- `BACKUP_LOCK_TTL_MINUTES` -/
def backupLockTtlMinutes : Int := 15

/-- The lifetime of a lock in nanoseconds. -/
def lockLifetime : DateTime := backupLockTtlMinutes * 60 * 1000000000

structure BackupLockInfo where
  token : String
  acquiredAt : DateTime
  expiresAt : DateTime
deriving DecidableEq

inductive AcquireReply where
  | acquired (lockToken : String) (acquiredAt expiresAt : DateTime)
  | conflict (expiresAt : DateTime)
  | notLeader
deriving DecidableEq

/-- The text under `error` in the answer. -/
def AcquireReply.error : AcquireReply → Option String
  | .acquired _ _ _ => none
  | .conflict _ => some ("A backup or restore operation is already in progress. " ++
      "Please wait for the current operation to complete.")
  | .notLeader => some ("This node is not the cluster leader; " ++
      "direct backup-lock requests to the leader")

/-- The lock of an acquisition that read this clock. -/
def BackupLockInfo.new (token : String) (now : DateTime) : BackupLockInfo where
  token := token
  acquiredAt := now
  expiresAt := now + lockLifetime

def grantLock (now : DateTime) (token : String) : Option BackupLockInfo × AcquireReply :=
  (some (.new token now), .acquired token now (now + lockLifetime))

/-- The section of `handle_acquire_backup_lock` under the guard. -/
def acquireLock (now : DateTime) (token : String) (lock : Option BackupLockInfo) :
    Option BackupLockInfo × AcquireReply :=
  match lock with
  | some existing =>
    if now < existing.expiresAt then (some existing, .conflict existing.expiresAt)
    else grantLock now token
  | none => grantLock now token

/-- `handle_release_backup_lock`, with its message. -/
def releaseLock (lockToken : String) (lock : Option BackupLockInfo) :
    Option BackupLockInfo × String :=
  match lock with
  | some existing =>
    if existing.token = lockToken then (none, "Backup lock released")
    else (some existing, "Token mismatch; lock not released")
  | none => (none, "Lock was already free")

/-! ### What the two sections do -/

/-- An acquisition refuses before the expiry of the lock and leaves the lock; otherwise it
takes the lock with a new lifetime. -/
theorem acquire_cases (now : DateTime) (token : String) (lock : Option BackupLockInfo) :
    (∃ existing, lock = some existing ∧ now < existing.expiresAt ∧
        acquireLock now token lock = (lock, .conflict existing.expiresAt)) ∨
      ((∀ existing, lock = some existing → existing.expiresAt ≤ now) ∧
        acquireLock now token lock = grantLock now token) := by
  cases lock with
  | none => exact .inr ⟨nofun, rfl⟩
  | some existing =>
    by_cases early : now < existing.expiresAt
    · exact .inl ⟨existing, rfl, early, by simp [acquireLock, early]⟩
    right
    constructor
    · rintro other same
      cases same
      exact Int.not_lt.mp early
    · simp [acquireLock, early]

variable {lockToken : String} {lock : Option BackupLockInfo}

theorem acquired_inv {now acquiredAt expiresAt token}
    (granted : (acquireLock now token lock).2 = .acquired lockToken acquiredAt expiresAt) :
    acquireLock now token lock = grantLock now token ∧ lockToken = token ∧ acquiredAt = now ∧
      expiresAt = now + lockLifetime := by
  rcases acquire_cases now token lock with ⟨existing, -, -, refused⟩ | ⟨-, taken⟩
  · rw [refused] at granted
    cases granted
  · rw [taken] at granted
    cases granted
    exact ⟨taken, rfl, rfl, rfl⟩

/-- The lock that is there refuses every reading before its expiry. -/
theorem acquire_refused {now} (held : BackupLockInfo) (token : String)
    (early : now < held.expiresAt) :
    acquireLock now token (some held) = (some held, .conflict held.expiresAt) := by
  simp [acquireLock, early]

/-- A release that presents another token leaves the lock as it is. -/
theorem release_other (other : ∀ held ∈ lock, held.token ≠ lockToken) :
    (releaseLock lockToken lock).1 = lock := by
  cases lock with
  | none => rfl
  | some held => simp [releaseLock, other held rfl]

/-! ### One sidecar and its clients -/

inductive LockAnswer (Client : Type) where
  | acquire (client : Client) (reply : AcquireReply)
  | release (message : String)
deriving DecidableEq

/-- A sidecar with the requests that have read the clock and wait for the guard, the tokens
it has generated, and its last answer. -/
structure LockServer (Client : Type) where
  clock : DateTime
  role : NodeRole
  lock : Option BackupLockInfo
  waiting : Client → Option DateTime
  issued : List String
  answer : Option (LockAnswer Client)

inductive LockEvent (Client : Type) where
  | advance (instant : DateTime)
  | arrive (client : Client)
  | acquire (client : Client) (token : String)
  | release (lockToken : String)
deriving DecidableEq

section OneSidecar

variable {Client : Type} [DecidableEq Client]

/-- A sidecar that starts as leader. -/
def LockServer.new (clock : DateTime) : LockServer Client where
  clock := clock
  role := .leader
  lock := none
  waiting := fun _ => none
  issued := []
  answer := none

def LockServer.step (server : LockServer Client) : LockEvent Client → Option (LockServer Client)
  | .advance instant =>
    if server.clock ≤ instant then some { server with clock := instant, answer := none } else none
  | .arrive client =>
    match server.waiting client with
    | some _ => none
    | none =>
      if server.role ≠ .leader then some { server with answer := some (.acquire client .notLeader) }
      else
        some { server with
          waiting := Function.update server.waiting client (some server.clock)
          answer := none }
  | .acquire client token =>
    match server.waiting client with
    | none => none
    | some now =>
      if token ∈ server.issued then none
      else
        let (lock, reply) := acquireLock now token server.lock
        some { server with
          lock := lock
          waiting := Function.update server.waiting client none
          issued := token :: server.issued
          answer := some (.acquire client reply) }
  | .release lockToken =>
    let (lock, message) := releaseLock lockToken server.lock
    some { server with lock := lock, answer := some (.release message) }

/-- What every run from a new sidecar keeps. -/
structure LockServer.Sound (server : LockServer Client) : Prop where
  leader : server.role = .leader
  past : ∀ client now, server.waiting client = some now → now ≤ server.clock
  known : ∀ held ∈ server.lock, held.token ∈ server.issued

variable {server next : LockServer Client}

/-- A request in front of the guard enters it with a token that is new. -/
theorem acquire_step_inv {client token} (moved : server.step (.acquire client token) = some next) :
    ∃ now, server.waiting client = some now ∧ token ∉ server.issued ∧
      next = { server with
        lock := (acquireLock now token server.lock).1
        waiting := Function.update server.waiting client none
        issued := token :: server.issued
        answer := some (.acquire client (acquireLock now token server.lock).2) } := by
  simp only [LockServer.step] at moved
  split at moved
  · cases moved
  rename_i now waits
  split at moved
  · cases moved
  · rename_i new
    exact ⟨now, waits, new, (Option.some.inj moved).symm⟩

theorem waiting_past {waiting clock client reading}
    (past : ∀ other now, waiting other = some now → now ≤ clock)
    (read : ∀ now, reading = some now → now ≤ clock) (other : Client) (now : DateTime)
    (waits : Function.update waiting client reading other = some now) : now ≤ clock := by
  by_cases same : other = client
  · subst same
    rw [Function.update_self] at waits
    exact read now waits
  · rw [Function.update_of_ne same] at waits
    exact past other now waits

theorem known_acquired {now token issued} (known : ∀ held ∈ lock, held.token ∈ issued) :
    ∀ held ∈ (acquireLock now token lock).1, held.token ∈ token :: issued := by
  intro held member
  rcases acquire_cases now token lock with ⟨existing, -, -, refused⟩ | ⟨-, taken⟩
  · rw [refused] at member
    exact List.mem_cons_of_mem token (known held member)
  · rw [taken] at member
    cases member
    exact List.mem_cons_self

theorem released_subset : ∀ held ∈ (releaseLock lockToken lock).1, held ∈ lock := by
  intro held member
  cases lock with
  | none => cases member
  | some existing =>
    by_cases same : existing.token = lockToken
    · simp [releaseLock, same] at member
    · simpa [releaseLock, same] using member

variable {event : LockEvent Client}

theorem step_sound (sound : server.Sound) (moved : server.step event = some next) : next.Sound := by
  cases event with
  | advance instant =>
    obtain ⟨forward, rfl⟩ := guard_holds moved
    exact { sound with past := fun client now waits =>
      (sound.past client now waits).trans forward }
  | arrive client =>
    simp only [LockServer.step] at moved
    split at moved
    · cases moved
    split at moved
    · cases moved
      exact { sound with }
    · cases moved
      exact { sound with
        past := waiting_past sound.past fun now read => (Option.some.inj read).symm.le }
  | acquire client token =>
    obtain ⟨now, -, -, rfl⟩ := acquire_step_inv moved
    exact
      { leader := sound.leader
        past := waiting_past sound.past nofun
        known := known_acquired sound.known }
  | release lockToken =>
    cases moved
    have known : ∀ held ∈ (releaseLock lockToken server.lock).1, held.token ∈ server.issued := by
      intro held member
      exact sound.known held (released_subset held member)
    exact { sound with known := known }

variable {events : List (LockEvent Client)}

theorem run_sound {final} (sound : server.Sound)
    (reached : run LockServer.step server events = some final) : final.Sound :=
  run_invariant LockServer.step (fun _ _ => True) LockServer.Sound
    (fun _ _ _ held _ moved => step_sound held moved) sound
    (meets_labels (fun _ _ => trivial)) reached

/-- The lock stays with its holder until it expires. -/
def LockServer.HeldUntilExpiry (server : LockServer Client) (held : BackupLockInfo) : Prop :=
  server.clock < held.expiresAt → server.lock = some held

theorem step_held {held} (sound : server.Sound)
    (kept : server.HeldUntilExpiry held) (unreleased : event ≠ .release held.token)
    (moved : server.step event = some next) : next.HeldUntilExpiry held := by
  cases event with
  | advance instant =>
    obtain ⟨forward, rfl⟩ := guard_holds moved
    intro early
    exact kept (forward.trans_lt early)
  | arrive client =>
    simp only [LockServer.step] at moved
    split at moved
    · cases moved
    split at moved
    all_goals
      cases moved
      exact kept
  | acquire client token =>
    obtain ⟨now, waits, -, rfl⟩ := acquire_step_inv moved
    intro early
    have before : now < held.expiresAt := (sound.past client now waits).trans_lt early
    have here : server.lock = some held := kept early
    simp only [here, acquire_refused held token before]
  | release lockToken =>
    cases moved
    intro early
    have here : server.lock = some held := kept early
    have other : ∀ existing ∈ server.lock, existing.token ≠ lockToken := by
      intro existing member same
      cases here.symm.trans member
      exact unreleased (congrArg _ same.symm)
    exact (release_other other).trans here

theorem issued_mono (moved : server.step event = some next) : server.issued ⊆ next.issued := by
  cases event with
  | advance instant =>
    obtain ⟨-, rfl⟩ := guard_holds moved
    exact List.Subset.refl _
  | arrive client =>
    simp only [LockServer.step] at moved
    split at moved
    · cases moved
    split at moved
    all_goals
      cases moved
      exact List.Subset.refl _
  | acquire client token =>
    obtain ⟨now, -, -, rfl⟩ := acquire_step_inv moved
    exact List.subset_cons_self token server.issued
  | release lockToken =>
    cases moved
    exact List.Subset.refl _

/-- The tokens drawn along a run are remembered. -/
theorem issued_of_mem {final}
    (reached : run LockServer.step server events = some final) : server.issued ⊆ final.issued ∧
      ∀ client token, .acquire client token ∈ events → token ∈ final.issued := by
  induction events generalizing server with
  | nil =>
    cases reached
    exact ⟨List.Subset.refl _, nofun⟩
  | cons event rest ih =>
    obtain ⟨next, moved, later⟩ := run_cons_inv reached
    obtain ⟨kept, drawn⟩ := ih later
    refine ⟨List.Subset.trans (issued_mono moved) kept, ?_⟩
    intro client token member
    rcases List.mem_cons.mp member with rfl | again
    · obtain ⟨now, -, -, rfl⟩ := acquire_step_inv moved
      exact kept List.mem_cons_self
    · exact drawn client token again

/-- The lock of a successful acquisition is kept along every run without its release. -/
theorem run_held {final held} (sound : server.Sound)
    (kept : server.HeldUntilExpiry held) (unreleased : .release held.token ∉ events)
    (reached : run LockServer.step server events = some final) : final.HeldUntilExpiry held := by
  refine (run_invariant LockServer.step (fun _ event => event ≠ .release held.token)
    (fun server => server.Sound ∧ server.HeldUntilExpiry held) ?_ ⟨sound, kept⟩
    (meets_labels fun _ member same => unreleased (same ▸ member)) reached).2
  rintro before event after ⟨fine, holds⟩ other moved
  exact ⟨step_sound fine moved, step_held fine holds other moved⟩

omit [DecidableEq Client] in
theorem new_sound (clock : DateTime) : (LockServer.new clock : LockServer Client).Sound where
  leader := rfl
  past := nofun
  known := nofun

/-- After an acquisition that returned a token with a clock reading: until the lifetime has
passed or the token has been released, requests are admitted to the section and refused
there. The token differs from all that were drawn before it, and in every later state a
release that presents another token than the holder's leaves the lock alone. -/
theorem acquired_lock_excludes (clock : DateTime) (before after : List (LockEvent Client))
    (client : Client) (token : String) (acquiredAt expiresAt : DateTime)
    (granted final : LockServer Client)
    (reached : run LockServer.step (LockServer.new clock) (before ++ [.acquire client token]) =
      some granted)
    (succeeded : granted.answer = some (.acquire client (.acquired token acquiredAt expiresAt)))
    (later : run LockServer.step granted after = some final) :
    (.release token ∉ after → final.clock < acquiredAt + lockLifetime →
      (∀ other next, final.step (.arrive other) = some next → next.answer = none) ∧
      ∀ other fresh next, final.step (.acquire other fresh) = some next →
        next.answer = some (.acquire other (.conflict (acquiredAt + lockLifetime))) ∧
          next.lock = final.lock) ∧
    (∀ other earlier, .acquire other earlier ∈ before → earlier ≠ token) ∧
    ∀ presented next, (∀ held ∈ final.lock, held.token ≠ presented) →
      final.step (.release presented) = some next → next.lock = final.lock := by
  obtain ⟨middle, first, last⟩ := run_append_inv reached
  obtain ⟨other, moved, same⟩ := run_cons_inv last
  cases same
  have sound : middle.Sound := run_sound (new_sound clock) first
  have grantedSound : granted.Sound := step_sound sound moved
  obtain ⟨now, -, new, rfl⟩ := acquire_step_inv moved
  obtain ⟨-, drawn⟩ := issued_of_mem first
  refine ⟨?_, ?_, ?_⟩
  · intro unreleased early
    have answered :
        (acquireLock now token middle.lock).2 = .acquired token acquiredAt expiresAt := by
      simpa using succeeded
    obtain ⟨taken, -, rfl, -⟩ := acquired_inv answered
    have holds : final.HeldUntilExpiry (.new token acquiredAt) := by
      refine run_held grantedSound ?_ unreleased later
      intro _
      simp only [taken, grantLock]
    have finalSound : final.Sound := run_sound grantedSound later
    constructor
    · intro other next arrived
      simp only [LockServer.step] at arrived
      split at arrived
      · cases arrived
      split at arrived
      · rename_i standby
        exact absurd finalSound.leader standby
      · cases arrived
        rfl
    · intro other fresh next entered
      obtain ⟨reading, waits, -, rfl⟩ := acquire_step_inv entered
      have before : reading < acquiredAt + lockLifetime :=
        (finalSound.past other reading waits).trans_lt early
      have refused := acquire_refused (.new token acquiredAt) fresh before
      simp only [holds early, refused]
      exact ⟨rfl, trivial⟩
  · rintro other earlier member rfl
    exact new (drawn other earlier member)
  · intro presented next otherToken released
    cases released
    exact release_other otherToken

end OneSidecar

/-- A sidecar whose first client acquires the lock, while the request of a second one has
already read the clock; fourteen minutes pass and a stray release arrives. -/
def heldServer : Option (LockServer Nat) :=
  run LockServer.step (LockServer.new 0) ([.arrive 1, .arrive 2] ++ [.acquire 1 "a"])

theorem second_client_refused : ∃ granted final next : LockServer Nat, heldServer = some granted ∧
      run LockServer.step granted [.advance 840000000000, .release "b", .arrive 3] =
        some final ∧
      final.step (.acquire 2 "c") = some next ∧
      next.answer = some (.acquire 2 (.conflict 900000000000)) := by
  obtain ⟨granted, reached, answered, final, later, early, next, moved⟩ : ∃ granted,
      heldServer = some granted ∧
      granted.answer = some (.acquire 1 (.acquired "a" 0 900000000000)) ∧ ∃ final,
        run LockServer.step granted [.advance 840000000000, .release "b", .arrive 3] =
          some final ∧ final.clock < 0 + lockLifetime ∧ ∃ next,
          final.step (.acquire 2 "c") = some next := by decide +kernel
  have excludes := acquired_lock_excludes 0 [.arrive 1, .arrive 2]
    [.advance 840000000000, .release "b", .arrive 3] 1 "a" 0 900000000000 granted final
    reached answered later
  exact ⟨granted, final, next, reached, later, moved,
    ((excludes.1 (by decide) early).2 2 "c" next moved).1⟩

end PgVisor.BackupLock
