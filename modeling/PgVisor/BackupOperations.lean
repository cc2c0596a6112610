import PgVisor.BackupLock
import PgVisor.ConnectionPool

/-!
# Backup operations under the leader's lock

Creating, restoring and deleting a backup are one protocol: the service asks the sidecar it
takes for the leader's for the lock, works, and releases the lock at the same sidecar. The
three differ in the work alone, which takes any time and comes to any result.

A step is what one party does at once: the service reads the leader's address and sends its
request; the sidecar reads its role and its clock; it passes the section of the lock; the
answer arrives; the work ends; the release is processed. Requests and answers may be lost,
a service may be stopped at any point, and sidecars change their roles, have clocks of
their own and lose the lock, which is kept in memory, when they are restarted. Left out is
an answer of success without a token, which no sidecar sends.
-/

namespace PgVisor.BackupOperations

open Transitions BackupLock
open Backup (DateTime)
open Election (NodeRole)

variable {role : NodeRole} {now : DateTime} {starts : Nat} {reply : AcquireReply}
  {cut : Option String}

structure ServiceConfig where
  configuredLeader : Option String
  controlPort : Nat

def resolveLeaderHost (config : ServiceConfig) (leader : Option String) : String :=
  match leader <|> config.configuredLeader with
  | some addr => ConnectionPool.hostOf addr
  | none => "127.0.0.1"

def acquireUrl (config : ServiceConfig) (leaderHost : String) : String :=
  "http://" ++ leaderHost ++ ":" ++ toString config.controlPort ++ "/control/backup-lock/acquire"

/-- How asking for the lock can fail. -/
inductive LockFailure where
  | unreachable (reason : String)
  | conflict
  | refused (status body : String)
  | unparsable (reason : String)
deriving DecidableEq

def LockFailure.message (url : String) : LockFailure → String
  | .unreachable reason =>
    "Failed to request backup lock from leader at " ++ url ++ ": " ++ reason
  | .conflict => "A backup or restore operation is already in progress. " ++
      "Please wait for the current operation to complete."
  | .refused status body =>
    "Failed to acquire backup lock from leader (" ++ status ++ ": " ++ url ++ "): " ++ body
  | .unparsable reason => "Failed to parse backup lock response from leader: " ++ reason

/-- The sidecar's refusal of a node that is not the leader, as it is sent. -/
def notLeaderBody : String :=
  "\x7b\"error\":\"" ++ (AcquireReply.error .notLeader).getD "" ++ "\"\x7d"

/-- A lock that was handed out: where and with which token, when it expires by the clock
there, and how often that sidecar had been started. -/
structure Grant where
  leaderHost : String
  lockToken : String
  expiresAt : DateTime
  starts : Nat
deriving DecidableEq

inductive Phase (Result : Type) where
  | addressed (leaderHost : String)
  | waiting (leaderHost : String) (now : DateTime) (starts : Nat)
  | replied (leaderHost : String) (starts : Nat) (reply : AcquireReply)
  | working (grant : Grant)
  | releasing (grant : Grant) (result : Except String Result)
  | finished (result : Except String Result)
  | abandoned

structure Sidecar where
  clock : DateTime
  role : NodeRole
  lock : Option BackupLockInfo
  starts : Nat

/-- The sidecars, the address the service takes for the leader's, the operations, and the
tokens drawn so far. -/
structure World (Result : Type) where
  sidecars : String → Sidecar
  leaderAddr : Option String
  operations : Nat → Option (Phase Result)
  issued : List String

inductive BackupEvent (Result : Type) where
  | advance (host : String) (instant : DateTime)
  | setRole (host : String) (role : NodeRole)
  | restart (host : String) (role : NodeRole)
  | retarget (leaderAddr : Option String)
  | start (op : Nat)
  | fail (op : Nat) (reason : String)
  | arrive (op : Nat)
  | acquire (op : Nat) (token : String)
  | respond (op : Nat) (cut : Option String)
  | finish (op : Nat) (result : Except String Result)
  | release (op : Nat)
  | releaseFails (op : Nat)
  | abandon (op : Nat)

variable {Result : Type}

namespace World

def enter (world : World Result) (op : Nat) (phase : Phase Result) : World Result :=
  { world with operations := Function.update world.operations op (some phase) }

def setSidecar (world : World Result) (host : String) (sidecar : Sidecar) : World Result :=
  { world with sidecars := Function.update world.sidecars host sidecar }

/-- The phase of an operation whose answer has arrived; `cut` says why its body did not. -/
def heard (config : ServiceConfig) (leaderHost : String) (starts : Nat) :
    AcquireReply → Option String → Phase Result
  | .acquired lockToken _ expiresAt, none => .working { leaderHost, lockToken, expiresAt, starts }
  | .acquired _ _ _, some reason =>
    .finished (.error ((LockFailure.unparsable reason).message (acquireUrl config leaderHost)))
  | .conflict _, _ =>
    .finished (.error (LockFailure.conflict.message (acquireUrl config leaderHost)))
  | .notLeader, cut =>
    -- a body that cannot be read counts as empty
    let body := if cut.isSome then "" else notLeaderBody
    .finished (.error ((LockFailure.refused "503 Service Unavailable" body).message
      (acquireUrl config leaderHost)))

def step (config : ServiceConfig) (world : World Result) :
    BackupEvent Result → Option (World Result)
  | .advance host instant =>
    let sidecar := world.sidecars host
    if sidecar.clock ≤ instant then some (world.setSidecar host { sidecar with clock := instant })
    else none
  | .setRole host role => some (world.setSidecar host { world.sidecars host with role := role })
  | .restart host role =>
    let sidecar := world.sidecars host
    some (world.setSidecar host
      { sidecar with role := role, lock := none, starts := sidecar.starts + 1 })
  | .retarget leaderAddr => some { world with leaderAddr := leaderAddr }
  | .start op =>
    match world.operations op with
    | none => some (world.enter op (.addressed (resolveLeaderHost config world.leaderAddr)))
    | some _ => none
  | .fail op reason =>
    match world.operations op with
    | some (.addressed leaderHost)
    | some (.waiting leaderHost _ _)
    | some (.replied leaderHost _ _) =>
      some (world.enter op (.finished (.error
        ((LockFailure.unreachable reason).message (acquireUrl config leaderHost)))))
    | _ => none
  | .arrive op =>
    match world.operations op with
    | some (.addressed leaderHost) =>
      let sidecar := world.sidecars leaderHost
      if sidecar.role ≠ .leader then
        some (world.enter op (.replied leaderHost sidecar.starts .notLeader))
      else some (world.enter op (.waiting leaderHost sidecar.clock sidecar.starts))
    | _ => none
  | .acquire op token =>
    match world.operations op with
    | some (.waiting leaderHost now starts) =>
      let sidecar := world.sidecars leaderHost
      -- a restart ends the requests that wait
      if token ∈ world.issued ∨ starts ≠ sidecar.starts then none
      else
        let (lock, reply) := acquireLock now token sidecar.lock
        some { (world.setSidecar leaderHost { sidecar with lock := lock }).enter op
          (.replied leaderHost starts reply) with issued := token :: world.issued }
    | _ => none
  | .respond op cut =>
    match world.operations op with
    | some (.replied leaderHost starts reply) =>
      some (world.enter op (heard config leaderHost starts reply cut))
    | _ => none
  | .finish op result =>
    match world.operations op with
    | some (.working grant) => some (world.enter op (.releasing grant result))
    | _ => none
  | .release op =>
    match world.operations op with
    | some (.releasing grant result) =>
      let sidecar := world.sidecars grant.leaderHost
      let (lock, _) := releaseLock grant.lockToken sidecar.lock
      some ((world.setSidecar grant.leaderHost { sidecar with lock := lock }).enter op
        (.finished result))
    | _ => none
  | .releaseFails op =>
    match world.operations op with
    | some (.releasing _ result) => some (world.enter op (.finished result))
    | _ => none
  | .abandon op =>
    match world.operations op with
    | none => none
    | some _ => some (world.enter op .abandoned)

end World

/-- The operation is in its working phase, under this lock. -/
def World.Working (world : World Result) (op : Nat) (grant : Grant) : Prop :=
  world.operations op = some (.working grant)

/-- No two working phases overlap. -/
def World.Exclusive (world : World Result) : Prop :=
  ∀ first second grant other, world.Working first grant → world.Working second other →
    first = second

/-- The lock has expired by its sidecar's clock or been lost in a restart. -/
def World.Lapsed (world : World Result) (grant : Grant) : Prop :=
  grant.expiresAt ≤ (world.sidecars grant.leaderHost).clock ∨
    (world.sidecars grant.leaderHost).starts ≠ grant.starts

/-- The lock that a phase has been given and not yet released. -/
def Phase.carried : Phase Result → Option Grant
  | .replied leaderHost starts (.acquired lockToken _ expiresAt) =>
    some { leaderHost, lockToken, expiresAt, starts }
  | .replied _ _ (.conflict _) | .replied _ _ .notLeader => none
  | .working grant | .releasing grant _ => some grant
  | .addressed _ | .waiting _ _ _ | .finished _ | .abandoned => none

def World.Carries (world : World Result) (op : Nat) (grant : Grant) : Prop :=
  (world.operations op).bind Phase.carried = some grant

/-- An answer with this lock is on its way to the operation. -/
def World.Offered (world : World Result) (op : Nat) (grant : Grant) : Prop :=
  ∃ acquiredAt, world.operations op = some (.replied grant.leaderHost grant.starts
    (.acquired grant.lockToken acquiredAt grant.expiresAt))

/-- When an operation is about to begin its work, every other one at work and the new one
itself hold locks of the same sidecar that have not lapsed. -/
def World.Covered (world : World Result) : BackupEvent Result → Prop
  | .respond op none =>
    ∀ grant, world.Offered op grant → ∀ other held, world.Working other held →
      held.leaderHost = grant.leaderHost ∧ ¬ world.Lapsed held ∧ ¬ world.Lapsed grant
  | _ => True

/-- Sidecars that hold no lock, and no operations. -/
def World.new (clock : String → DateTime) (role : String → NodeRole)
    (leaderAddr : Option String) : World Result where
  sidecars := fun host => { clock := clock host, role := role host, lock := none, starts := 0 }
  leaderAddr := leaderAddr
  operations := fun _ => none
  issued := []

/-! ### Live locks are the sidecars' own -/

/-- The sidecar's lock is the one that was handed out. -/
def Sidecar.Keeps (sidecar : Sidecar) (grant : Grant) : Prop :=
  ∃ held ∈ sidecar.lock, held.token = grant.lockToken ∧ held.expiresAt = grant.expiresAt

/-- What holds of an operation with a lock: if the lock has not lapsed it is the lock of
its sidecar, and its token is nobody else's. -/
structure World.Admits (world : World Result) (op : Nat) (grant : Grant) : Prop where
  live : ¬ world.Lapsed grant → (world.sidecars grant.leaderHost).Keeps grant
  distinct : ∀ other held, world.Carries other held → grant.lockToken = held.lockToken → op = other
  drawn : grant.lockToken ∈ world.issued
  started : grant.starts ≤ (world.sidecars grant.leaderHost).starts

/-- What every run keeps. -/
structure World.Sound (world : World Result) : Prop where
  admits : ∀ op grant, world.Carries op grant → world.Admits op grant
  known : ∀ host, ∀ held ∈ (world.sidecars host).lock, held.token ∈ world.issued
  past : ∀ op leaderHost now starts, world.operations op = some (.waiting leaderHost now starts) →
      now ≤ (world.sidecars leaderHost).clock

theorem new_sound (clock : String → DateTime) (role : String → NodeRole)
    (leaderAddr : Option String) : (World.new clock role leaderAddr : World Result).Sound where
  admits := nofun
  known := nofun
  past := nofun

theorem new_exclusive (clock : String → DateTime) (role : String → NodeRole)
    (leaderAddr : Option String) : (World.new clock role leaderAddr : World Result).Exclusive :=
  nofun

variable {world : World Result} {op : Nat} {grant : Grant}

theorem World.Working.carries (working : world.Working op grant) : world.Carries op grant := by
  rw [World.Carries, working]
  rfl

theorem World.Offered.carries (offered : world.Offered op grant) : world.Carries op grant := by
  obtain ⟨acquiredAt, phase⟩ := offered
  rw [World.Carries, phase]
  rfl

variable {other : Nat}

/-- Two live locks of one sidecar are one. -/
theorem World.Sound.alone (sound : world.Sound) {held} (carries : world.Carries op grant)
    (carried : world.Carries other held) (together : held.leaderHost = grant.leaderHost)
    (live : ¬ world.Lapsed grant) (alive : ¬ world.Lapsed held) : op = other := by
  have admitted := sound.admits op grant carries
  obtain ⟨lock, stored, token, -⟩ := admitted.live live
  obtain ⟨same, again, heldToken, -⟩ := (sound.admits other held carried).live alive
  rw [together] at again
  cases stored.symm.trans again
  exact admitted.distinct other held carried (token.symm.trans heldToken)

/-! ### Steps -/

theorem enter_self (world : World Result) (op : Nat) (phase : Phase Result) :
    (world.enter op phase).operations op = some phase :=
  Function.update_self _ _ _

theorem enter_other (world : World Result) (phase : Phase Result) (different : other ≠ op) :
    (world.enter op phase).operations other = world.operations other :=
  Function.update_of_ne different _ _

theorem sidecar_self (world : World Result) (host : String) (sidecar : Sidecar) :
    (world.setSidecar host sidecar).sidecars host = sidecar :=
  Function.update_self _ _ _

variable {host : String}

/-- What holds of the new sidecar at its address and of the old one elsewhere. -/
theorem sidecar_cases {sidecar addr} (property : Sidecar → Prop)
    (changed : addr = host → property sidecar) (unchanged : property (world.sidecars addr)) :
    property ((world.setSidecar host sidecar).sidecars addr) := by
  by_cases here : addr = host
  · rw [here, sidecar_self]
    exact changed here
  · have same : (world.setSidecar host sidecar).sidecars addr = world.sidecars addr :=
      Function.update_of_ne here _ _
    rwa [same]

section Steps

variable {world : World Result} {phase : Phase Result}

/-- The locks carried after a change of one operation. -/
theorem carries_enter (carries : (world.enter op phase).Carries other grant) :
    (other = op ∧ phase.carried = some grant) ∨ (other ≠ op ∧ world.Carries other grant) := by
  by_cases same : other = op
  · subst same
    rw [World.Carries, enter_self] at carries
    exact .inl ⟨rfl, carries⟩
  · rw [World.Carries, enter_other world phase same] at carries
    exact .inr ⟨same, carries⟩

/-- An operation may change to a phase whose lock is admissible. -/
theorem enter_sound (sound : world.Sound)
    (admitted : ∀ grant, phase.carried = some grant → world.Admits op grant)
    (past : ∀ leaderHost now starts, phase = .waiting leaderHost now starts →
      now ≤ (world.sidecars leaderHost).clock) : (world.enter op phase).Sound where
  admits other grant carries := by
    have before : world.Admits other grant := by
      rcases carries_enter carries with ⟨rfl, brought⟩ | ⟨-, kept⟩
      · exact admitted grant brought
      · exact sound.admits other grant kept
    refine { before with distinct := ?_ }
    intro third held carried same
    rcases carries_enter carried with ⟨rfl, brought⟩ | ⟨-, kept⟩
    · rcases carries_enter carries with ⟨rfl, -⟩ | ⟨-, others⟩
      · rfl
      · exact ((admitted held brought).distinct other grant others same.symm).symm
    · exact before.distinct third held kept same
  known := sound.known
  past := by
    intro other leaderHost now starts waits
    by_cases same : other = op
    · subst same
      rw [enter_self] at waits
      exact past leaderHost now starts (Option.some.inj waits)
    · rw [enter_other world phase same] at waits
      exact sound.past other leaderHost now starts waits

/-- An operation may change to a phase with the lock it has, or without one. -/
theorem enter_keeps_sound (sound : world.Sound)
    (carried : ∀ grant, phase.carried = some grant → world.Carries op grant)
    (past : ∀ leaderHost now starts, phase ≠ .waiting leaderHost now starts) :
    (world.enter op phase).Sound :=
  enter_sound sound (fun grant brought => sound.admits op grant (carried grant brought))
    (fun leaderHost now starts waits => absurd waits (past leaderHost now starts))

/-- A sidecar may change as long as it keeps the locks that have not lapsed by then. -/
theorem sidecar_sound {sidecar} (sound : world.Sound)
    (forward : (world.sidecars host).clock ≤ sidecar.clock)
    (started : (world.sidecars host).starts ≤ sidecar.starts)
    (known : ∀ held ∈ sidecar.lock, held.token ∈ world.issued)
    (live : ∀ op grant, world.Carries op grant → grant.leaderHost = host →
      sidecar.clock < grant.expiresAt → sidecar.starts = grant.starts → sidecar.Keeps grant) :
    (world.setSidecar host sidecar).Sound where
  admits op grant carries := by
    have before := sound.admits op grant carries
    refine { before with live := ?_, started := ?_ }
    · refine sidecar_cases (fun found => ¬ (grant.expiresAt ≤ found.clock ∨
        found.starts ≠ grant.starts) → found.Keeps grant) ?_ before.live
      intro here lasting
      rw [not_or, not_not, Int.not_le] at lasting
      exact live op grant carries here lasting.1 lasting.2
    · exact sidecar_cases (grant.starts ≤ ·.starts)
        (fun here => (here ▸ before.started).trans started)
        before.started
  known other := sidecar_cases (fun found => ∀ held ∈ found.lock, held.token ∈ world.issued)
    (fun _ => known) (sound.known other)
  past op leaderHost now starts waits := by
    have before := sound.past op leaderHost now starts waits
    exact sidecar_cases (now ≤ ·.clock) (fun here => (here ▸ before).trans forward) before

/-- Drawing a token makes no difference to the tokens drawn before. -/
theorem draw_sound (token : String) (sound : world.Sound) :
    ({ world with issued := token :: world.issued } : World Result).Sound where
  admits op grant carries :=
    { sound.admits op grant carries with
      drawn := List.mem_cons_of_mem token (sound.admits op grant carries).drawn }
  known host held member := List.mem_cons_of_mem token (sound.known host held member)
  past := sound.past

/-- Exchange the lock of a sidecar. -/
def World.relock (world : World Result) (host : String) (lock : Option BackupLockInfo) :
    World Result :=
  world.setSidecar host { world.sidecars host with lock := lock }

theorem relock_sound {lock} (sound : world.Sound) (known : ∀ held ∈ lock, held.token ∈ world.issued)
    (live : ∀ op grant, world.Carries op grant → grant.leaderHost = host →
      ¬ world.Lapsed grant → ∃ held ∈ lock, held.token = grant.lockToken ∧
        held.expiresAt = grant.expiresAt) : (world.relock host lock).Sound := by
  apply sidecar_sound sound
  · exact Int.le_refl _
  · exact Nat.le_refl _
  · exact known
  intro op grant carries here early started
  apply live op grant carries here
  rw [World.Lapsed, here, not_or, not_not, Int.not_le]
  exact ⟨early, started⟩

/-- A sidecar with the same lock whose clock has not gone back. -/
theorem clock_sound {instant} (sound : world.Sound)
    (forward : (world.sidecars host).clock ≤ instant) :
    (world.setSidecar host { world.sidecars host with clock := instant, role := role }).Sound := by
  apply sidecar_sound sound
  · exact forward
  · exact Nat.le_refl _
  · exact sound.known host
  intro op grant carries here early started
  have lasting : ¬ world.Lapsed grant := by
    rw [World.Lapsed, here, not_or, not_not, Int.not_le]
    exact ⟨forward.trans_lt early, started⟩
  exact here ▸ (sound.admits op grant carries).live lasting

/-- A restart loses the lock, and with it every lock handed out before. -/
theorem restart_sound (sound : world.Sound) : (world.setSidecar host { world.sidecars host with
      role := role, lock := none, starts := (world.sidecars host).starts + 1 }).Sound := by
  apply sidecar_sound sound
  · exact Int.le_refl _
  · exact Nat.le_succ _
  · nofun
  intro op grant carries here _ started
  have earlier := (sound.admits op grant carries).started
  rw [here] at earlier
  simp only at started
  omega

variable {leaderHost : String}

/-- A request that is granted finds no lock, or one that has expired. -/
theorem granted_lapsed (sound : world.Sound) (past : now ≤ (world.sidecars leaderHost).clock)
    (free : ∀ existing, (world.sidecars leaderHost).lock = some existing →
      existing.expiresAt ≤ now) (carries : world.Carries op grant)
    (here : grant.leaderHost = leaderHost) : world.Lapsed grant := by
  by_contra lasting
  obtain ⟨existing, stored, -, expiry⟩ := (sound.admits op grant carries).live lasting
  have expired : existing.expiresAt ≤ now := free existing (here ▸ stored)
  rw [expiry] at expired
  exact lasting (.inl (here ▸ expired.trans past))

/-- The world after an operation has passed the section of the lock. -/
def World.passed (world : World Result) (op : Nat) (leaderHost token : String) (starts : Nat)
    (outcome : Option BackupLockInfo × AcquireReply) : World Result :=
  (({ world with issued := token :: world.issued } : World Result).relock leaderHost
    outcome.1).enter op (.replied leaderHost starts outcome.2)

theorem acquire_sound {token} (sound : world.Sound) (waits : world.operations op =
      some (.waiting leaderHost now (world.sidecars leaderHost).starts))
    (fresh : token ∉ world.issued) :
    (world.passed op leaderHost token (world.sidecars leaderHost).starts
      (acquireLock now token (world.sidecars leaderHost).lock)).Sound := by
  have drawn := draw_sound token sound
  have past : now ≤ (world.sidecars leaderHost).clock := sound.past _ _ _ _ waits
  rcases acquire_cases now token (world.sidecars leaderHost).lock with
    ⟨existing, -, -, refused⟩ | ⟨free, taken⟩
  · rw [refused, World.passed]
    refine enter_keeps_sound ?_ nofun nofun
    apply relock_sound drawn (drawn.known leaderHost)
    intro other grant carries here lasting
    exact here ▸ (drawn.admits other grant carries).live lasting
  · rw [taken, World.passed]
    have relocked : (({ world with issued := token :: world.issued } : World Result).relock
        leaderHost (grantLock now token).1).Sound := by
      apply relock_sound drawn
      · intro held member
        cases member
        exact List.mem_cons_self
      · intro other grant carries here lasting
        exact absurd (granted_lapsed sound past free carries here) lasting
    refine enter_sound relocked ?_ nofun
    rintro grant brought
    cases brought
    exact
      { live := fun _ => by
          rw [World.relock, sidecar_self]
          exact ⟨_, rfl, rfl, rfl⟩
        distinct := by
          rintro other held carried (rfl : token = held.lockToken)
          exact absurd (sound.admits other held carried).drawn fresh
        drawn := List.mem_cons_self
        started := by
          rw [World.relock, sidecar_self] }

/-- A release frees nobody else's lock. -/
theorem release_sound {result} (sound : world.Sound)
    (releasing : world.operations op = some (.releasing grant result)) :
    ((world.relock grant.leaderHost
      (releaseLock grant.lockToken (world.sidecars grant.leaderHost).lock).1).enter op
        (.finished result)).Sound := by
  have ended : (world.enter op (.finished result)).Sound := enter_keeps_sound sound nofun nofun
  have own : world.Carries op grant := by
    rw [World.Carries, releasing]
    rfl
  suffices changed : ((world.enter op (.finished result)).relock grant.leaderHost
      (releaseLock grant.lockToken (world.sidecars grant.leaderHost).lock).1).Sound from changed
  apply relock_sound ended
  · intro held member
    exact sound.known grant.leaderHost held (released_subset held member)
  intro other held carried here lasting
  rcases carries_enter carried with ⟨rfl, nothing⟩ | ⟨different, before⟩
  · cases nothing
  obtain ⟨lock, stored, token, expiry⟩ := (sound.admits other held before).live lasting
  rw [here] at stored
  have kept : ∀ lock ∈ (world.sidecars grant.leaderHost).lock, lock.token ≠ grant.lockToken := by
    intro found member same
    cases stored.symm.trans member
    exact different ((sound.admits other held before).distinct op grant own (token.symm.trans same))
  exact ⟨lock, (release_other kept).symm ▸ stored, token, expiry⟩

variable {config : ServiceConfig}

/-- What a step does to the world. Most steps only move one operation to a phase without a
lock; an answer with a lock starts the work. -/
inductive Moves (config : ServiceConfig) (world : World Result) :
    BackupEvent Result → World Result → Prop where
  | advance (host : String) (instant : DateTime)
      (forward : (world.sidecars host).clock ≤ instant) : Moves config world (.advance host instant)
        (world.setSidecar host { world.sidecars host with clock := instant })
  | setRole (host : String) (role : NodeRole) : Moves config world (.setRole host role)
        (world.setSidecar host { world.sidecars host with role := role })
  | restart (host : String) (role : NodeRole) :
      Moves config world (.restart host role) (world.setSidecar host { world.sidecars host with
        role := role, lock := none, starts := (world.sidecars host).starts + 1 })
  | retarget (leaderAddr : Option String) :
      Moves config world (.retarget leaderAddr) { world with leaderAddr := leaderAddr }
  | rests (event : BackupEvent Result) (op : Nat) (phase : Phase Result)
      (empty : phase.carried = none)
      (read : ∀ leaderHost now starts, phase = .waiting leaderHost now starts →
        now = (world.sidecars leaderHost).clock) : Moves config world event (world.enter op phase)
  | acquire (op : Nat) (token leaderHost : String) (now : DateTime)
      (waits : world.operations op =
        some (.waiting leaderHost now (world.sidecars leaderHost).starts))
      (fresh : token ∉ world.issued) : Moves config world (.acquire op token)
        (world.passed op leaderHost token (world.sidecars leaderHost).starts
          (acquireLock now token (world.sidecars leaderHost).lock))
  | begins (op : Nat) (grant : Grant) (offered : world.Offered op grant) :
      Moves config world (.respond op none) (world.enter op (.working grant))
  | finish (op : Nat) (result : Except String Result) (grant : Grant)
      (working : world.Working op grant) :
      Moves config world (.finish op result) (world.enter op (.releasing grant result))
  | release (op : Nat) (grant : Grant) (result : Except String Result)
      (releasing : world.operations op = some (.releasing grant result)) :
      Moves config world (.release op) ((world.relock grant.leaderHost
        (releaseLock grant.lockToken (world.sidecars grant.leaderHost).lock).1).enter op
          (.finished result))

variable {next : World Result} {event : BackupEvent Result}

theorem step_moves (moved : world.step config event = some next) :
    Moves config world event next := by
  cases event <;> simp only [World.step] at moved
  -- an event is taken in the phase that awaits it and refused elsewhere
  all_goals try split at moved
  all_goals try split at moved
  all_goals try cases moved
  · exact .advance _ _ ‹_›
  · exact .setRole _ _
  · exact .restart _ _
  · exact .retarget _
  · exact .rests _ _ _ rfl nofun
  iterate 3
    · exact .rests _ _ _ rfl nofun
  · exact .rests _ _ _ rfl nofun
  · refine .rests _ _ _ rfl ?_
    intro leaderHost now starts same
    cases same
    rfl
  next op token _ leaderHost now starts waits allowed =>
    obtain ⟨fresh, current⟩ := not_or.mp allowed
    obtain rfl := not_not.mp current
    exact .acquire op token leaderHost now waits fresh
  next op cut _ leaderHost starts reply replied =>
    cases reply with
    | acquired lockToken acquiredAt expiresAt =>
      cases cut with
      | none => exact .begins op ⟨leaderHost, lockToken, expiresAt, starts⟩ ⟨acquiredAt, replied⟩
      | some reason => exact .rests _ _ _ rfl nofun
    | conflict expiresAt | notLeader => exact .rests _ _ _ rfl nofun
  · exact .finish _ _ _ ‹_›
  · exact .release _ _ _ ‹_›
  iterate 2
    · exact .rests _ _ _ rfl nofun

theorem step_sound (sound : world.Sound) (moved : world.step config event = some next) :
    next.Sound := by
  cases step_moves moved with
  | advance host instant forward => exact clock_sound sound forward
  | setRole host role => exact clock_sound sound (Int.le_refl _)
  | restart host role => exact restart_sound sound
  | retarget leaderAddr =>
    exact { sound with admits := fun op grant carries => { sound.admits op grant carries with } }
  | rests event op phase empty read =>
    refine enter_sound sound ?_ ?_
    · intro grant carried
      cases empty.symm.trans carried
    · intro leaderHost now starts waits
      exact (read leaderHost now starts waits).le
  | acquire op token leaderHost now waits fresh => exact acquire_sound sound waits fresh
  | begins op grant offered =>
    refine enter_keeps_sound sound ?_ nofun
    intro held carried
    cases carried
    exact offered.carries
  | finish op result grant working =>
    refine enter_keeps_sound sound ?_ nofun
    intro held carried
    cases carried
    exact working.carries
  | release op grant result releasing => exact release_sound sound releasing

theorem working_enter (working : (world.enter op phase).Working other grant) :
    (other = op ∧ phase = .working grant) ∨ world.Working other grant := by
  by_cases same : other = op
  · subst same
    rw [World.Working, enter_self] at working
    exact .inl ⟨rfl, Option.some.inj working⟩
  · rw [World.Working, enter_other world phase same] at working
    exact .inr working

theorem working_of_enter (working : (world.enter op phase).Working other grant)
    (resting : phase ≠ .working grant) : world.Working other grant := by
  rcases working_enter working with ⟨-, begun⟩ | kept
  · exact absurd begun resting
  · exact kept

/-- An operation begins its work only when an answer with a lock arrives. -/
theorem step_working (moved : world.step config event = some next)
    (working : next.Working op grant) :
    world.Working op grant ∨ (event = .respond op none ∧ world.Offered op grant) := by
  cases step_moves moved with
  | advance host instant forward => exact .inl working
  | setRole host role | restart host role | retarget leaderAddr => exact .inl working
  | rests event other phase empty read =>
    left
    apply working_of_enter working
    rintro rfl
    cases empty
  | acquire other token leaderHost now waits fresh => exact .inl (working_of_enter working nofun)
  | begins other held offered =>
    rcases working_enter working with ⟨rfl, begun⟩ | kept
    · cases begun
      exact .inr ⟨rfl, offered⟩
    · exact .inl kept
  | finish other result held ends => exact .inl (working_of_enter working nofun)
  | release other held result releasing => exact .inl (working_of_enter working nofun)

/-- An offered lock starts the work of its operation, beside the others at work. -/
theorem respond_working (config : ServiceConfig) (offered : world.Offered op grant) :
    ∃ next, world.step config (.respond op none) = some next ∧ next.Working op grant ∧
      ∀ other held, world.Working other held → next.Working other held := by
  obtain ⟨acquiredAt, replied⟩ := offered
  refine ⟨world.enter op (.working grant), ?_, enter_self _ _ _, ?_⟩
  · simp only [World.step, replied]
    rfl
  intro other held working
  have different : other ≠ op := by
    rintro rfl
    cases working.symm.trans replied
  exact (enter_other world _ different).trans working

/-- A step keeps working phases apart exactly if what begins is covered. -/
theorem step_exclusive_iff (sound : world.Sound) (apart : world.Exclusive) :
    (∀ next, world.step config event = some next → next.Exclusive) ↔ world.Covered event := by
  constructor
  · intro kept
    unfold World.Covered
    split
    · rename_i op
      intro grant offered other held working
      obtain ⟨next, moved, begun, others⟩ := respond_working config offered
      have same : op = other :=
        kept next moved op other grant held begun (others other held working)
      subst same
      obtain ⟨acquiredAt, replied⟩ := offered
      cases working.symm.trans replied
    · trivial
  · intro covered next moved first second grant held one two
    rcases step_working moved one with before | ⟨rfl, offered⟩
    · rcases step_working moved two with also | ⟨rfl, offered⟩
      · exact apart first second grant held before also
      · obtain ⟨together, alive, live⟩ := covered held offered first grant before
        exact sound.alone before.carries offered.carries together.symm alive live
    · rcases step_working moved two with also | ⟨same, -⟩
      · obtain ⟨together, alive, live⟩ := covered grant offered second held also
        exact sound.alone offered.carries also.carries together live alive
      · cases same
        rfl

end Steps

/-- Working phases never overlap if and only if no operation begins its work while another
one works under a lock of another sidecar or one that has lapsed, nor under a lapsed lock
of its own. -/
theorem working_phases_apart_iff (config : ServiceConfig) (clock : String → DateTime)
    (role : String → NodeRole) (leaderAddr : Option String) (events : List (BackupEvent Result)) :
    Meets (World.step config)
        (fun world event => ∀ next, world.step config event = some next → next.Exclusive)
        (World.new clock role leaderAddr) events ↔
      Meets (World.step config) World.Covered (World.new clock role leaderAddr) events := by
  apply meets_congr (World.step config) _ _ (fun world => world.Sound ∧ world.Exclusive)
  · rintro world event next ⟨sound, -⟩ kept moved
    exact ⟨step_sound sound moved, kept next moved⟩
  · rintro world event ⟨sound, apart⟩
    exact step_exclusive_iff sound apart
  · exact ⟨new_sound clock role leaderAddr, new_exclusive clock role leaderAddr⟩

/-- One operation up to its work. -/
def begun (op : Nat) (token : String) : List (BackupEvent Unit) :=
  [.start op, .arrive op, .acquire op token, .respond op none]

def twoNodes : ServiceConfig where
  configuredLeader := some "node-1:5432"
  controlPort := 8080

/-- Two working phases overlap when the first outlasts its lock, and when the leader
changes. -/
theorem working_phases_overlap :
    (∃ world grant held, run (World.step twoNodes) (World.new (fun _ => 0) (fun _ => .leader) none)
        (begun 1 "a" ++ [.advance "node-1" 900000000000] ++ begun 2 "b") = some world ∧
      world.Working 1 grant ∧ world.Working 2 held) ∧ ∃ world grant held, run (World.step twoNodes)
        (World.new (fun _ => 0) (fun host => if host = "node-1" then .leader else .standby) none)
        (begun 1 "a" ++ [.setRole "node-1" .standby, .setRole "node-2" .leader,
          .retarget (some "node-2:5432")] ++ begun 2 "b") = some world ∧
      world.Working 1 grant ∧ world.Working 2 held := by
  constructor
  all_goals exact ⟨_, _, _, rfl, rfl, rfl⟩

end PgVisor.BackupOperations
