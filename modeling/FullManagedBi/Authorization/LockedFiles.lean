import FullManagedBi.Authorization.FileStore
import FullManagedBi.Lib.Program

/-!
# The locks of the state file and of the configuration

`FileAuthorizationStore` (`src/authorization/file-store.mjs`) changes its file under a lock file, and
`finalizeAuthorizationReceipt` (`scripts/finalize_full_managed_authorization_receipt.mjs`) changes the
OpenAPI configuration under a lock directory. Here both take their locks step by step (`SiteCall`), and
between two steps of one process any other may take its own. What a finalization does besides (the
review record, the receipt, the live query) succeeds or fails as the environment says.
-/

namespace FullManagedBi.Authorization

open Lib

/-! ## Calls -/

/-- The two locks: `….lock` beside the state file, and the lock directory of the configuration. -/
inductive LockPath where
  | state
  | config
  deriving DecidableEq

structure LockOwner where
  pid : Int
  nonce : Nat := 0
  createdAt : Instant
  deriving DecidableEq

/-- What `lstat` tells of a lock. -/
structure LockStat where
  ino : Nat
  mtimeMs : Instant
  deriving DecidableEq

/-- What a finalization does besides changing the configuration and the state. -/
inductive ReceiptStage where
  /-- The review record, the receipt and the expected identity are read and checked. -/
  | select
  /-- The live identity query. -/
  | verify
  | isolate
  | dispose
  | restore
  deriving DecidableEq

/-- The calls of a mutation or a finalization. A mutation is named by an `M`. -/
inductive SiteCall (M Config : Type) where
  | dateNow
  | randomNonce
  | sleep
  | processIsAlive (pid : Int)
  /-- `open(…, 'wx')` and the `stat` of its handle, or `mkdir`. -/
  | create (lock : LockPath)
  | lstat (lock : LockPath)
  | writeOwner (lock : LockPath) (owner : LockOwner)
  | readLockOwner (lock : LockPath)
  /-- Renaming what lies at the path of the lock out of the way. -/
  | rename (lock : LockPath)
  | readMovedOwner
  | discardMoved
  | unlink (lock : LockPath)
  | unlinkOwner (lock : LockPath)
  | rmdir (lock : LockPath)
  | readState
  | writeState (mutation : M) (state : StateFile)
  | readConfig
  | createBackup
  | atomicWrite (config : Config)
  | restoreBackup (config : Config)
  | receipt (stage : ReceiptStage)

abbrev SiteReply {M Config : Type} : SiteCall M Config → Type
  | .dateNow => Instant
  | .randomNonce => Nat
  | .processIsAlive _ => Bool
  | .create _ => Nat
  | .lstat _ => LockStat
  | .readLockOwner _ => Option LockOwner
  | .readMovedOwner => Option LockOwner
  | .readState => StateFile
  | .readConfig => Config
  | .createBackup => Config
  | _ => Unit

abbrev SiteProgram (M Config : Type) := Program (SiteCall M Config) SiteReply JsError

variable {M Config : Type}

/-- A call of a mutation or a finalization. -/
def awaiting (call : SiteCall M Config) : SiteProgram M Config (SiteReply call) := .perform call

/-- An error with a `code`. -/
def coded (code message : String) : JsError := ⟨some code, message⟩

/-- The error of a process that is still waiting when its model ends. -/
def stillWaiting : JsError := ⟨none, "waiting"⟩

/-! ## The lock file -/

/-- The loop of `#withFileLock` that creates the lock file: its inode. -/
def acquireFileLock (pid : Int) (deadline : Instant) : Nat → SiteProgram M Config Nat
  | 0 => throw stillWaiting
  | patience + 1 => do
    match ← observing (awaiting (.create .state)) with
    | .ok ino =>
      awaiting (.writeOwner .state { pid, createdAt := ← awaiting .dateNow })
      return ino
    | .error error =>
      if error.code ≠ some "EEXIST" then throw error
      else
        match ← observing (awaiting (.lstat .state)) with
        | .error inspectError =>
          if inspectError.code = some "ENOENT" then acquireFileLock pid deadline patience
          else throw inspectError
        | .ok metadata =>
          if 30000 < (← awaiting .dateNow) - metadata.mtimeMs then
            let reclaim : SiteProgram M Config Unit := do
              awaiting (.rename .state)
              awaiting .discardMoved
            match ← observing reclaim with
            | .ok _ => acquireFileLock pid deadline patience
            | .error staleError =>
              if staleError.code ∈ [some "ENOENT", some "EACCES", some "EPERM"] then
                acquireFileLock pid deadline patience
              else throw staleError
          else if deadline ≤ (← awaiting .dateNow) then
            throw (coded "AUTHORIZATION_STATE_BUSY" "authorization state is busy")
          else do
            awaiting .sleep
            acquireFileLock pid deadline patience

/-- The `finally` of `#withFileLock`. -/
def releaseFileLock (ino : Nat) : SiteProgram M Config Unit := do
  match ← observing (awaiting (.lstat .state)) with
  | .error error => if error.code ≠ some "ENOENT" then throw error else pure ()
  | .ok metadata => if metadata.ino = ino then awaiting (.unlink .state) else pure ()

/-- `#withFileLock`. -/
def withFileLock {α : Type} (pid : Int) (patience : Nat) (operation : SiteProgram M Config α) :
    SiteProgram M Config α := do
  let deadline := (← awaiting .dateNow) + 5000
  let ino ← acquireFileLock pid deadline patience
  let outcome ← observing operation
  releaseFileLock ino
  .ofExcept outcome

/-- `#mutate`, step by step. -/
def mutateLocked (pid : Int) (patience : Nat) (operation : M → Operation Unit) (mutation : M) :
    SiteProgram M Config Unit :=
  withFileLock pid patience do
    match operation mutation (← awaiting .readState) with
    | .ok (_, state) => awaiting (.writeState mutation state)
    | .error refusal =>
      match refusal.persist with
      | some state => awaiting (.writeState mutation state)
      | none => pure ()
      throw refusal.error

/-! ## The lock directory -/

/-- `LOCK_WAIT_MS`. -/
def lockWaitMs : Int := 30000

/-- `LOCK_STALE_MS`. -/
def lockStaleMs : Int := 5 * 60 * 1000

/-- `owner !== null && !processIsAlive(owner.pid)`. -/
def ownerExited : Option LockOwner → SiteProgram M Config Bool
  | none => pure false
  | some owner => do
    let alive ← awaiting (.processIsAlive owner.pid)
    return !alive

def reapStaleLock : SiteProgram M Config Bool := do
  match ← observing (awaiting (.lstat .config)) with
  | .error error =>
    if error.code = some "ENOENT" then return true
    else throw (coded "FINALIZATION_LOCK_UNAVAILABLE" "finalization lock cannot be inspected")
  | .ok metadata =>
    let owner ← awaiting (.readLockOwner .config)
    let oldEnough := decide (lockStaleMs < (← awaiting .dateNow) - metadata.mtimeMs)
    let exited ← ownerExited owner
    if !oldEnough && !exited then return false
    else
      match ← observing (awaiting (.rename .config)) with
      | .error error =>
        if error.code ∈ [some "ENOENT", some "EEXIST"] then return true
        else
          throw (coded "FINALIZATION_LOCK_UNAVAILABLE" "stale finalization lock cannot be isolated")
      | .ok _ =>
        awaiting .discardMoved
        return true

def createLockOwner (owner : LockOwner) : SiteProgram M Config Unit := do
  match ← observing (awaiting (.writeOwner .config owner)) with
  | .ok _ => return ()
  | .error _ =>
    let _ ← observing (awaiting (.unlinkOwner .config))
    let _ ← observing (awaiting (.rmdir .config))
    throw (coded "FINALIZATION_LOCK_UNAVAILABLE" "finalization lock owner cannot be created")

/-- The loop of `acquireOpenApiFinalizationLock`: the owner it has written. -/
def acquireFinalizationLock (pid : Int) (deadline : Instant) : Nat → SiteProgram M Config LockOwner
  | 0 => throw stillWaiting
  | patience + 1 => do
    let nonce ← awaiting .randomNonce
    match ← observing (awaiting (.create .config)) with
    | .ok _ =>
      let owner : LockOwner := { pid, nonce, createdAt := ← awaiting .dateNow }
      createLockOwner owner
      return owner
    | .error error =>
      if error.code ≠ some "EEXIST" then
        throw (coded "FINALIZATION_LOCK_UNAVAILABLE" "finalization lock cannot be created")
      else if ← reapStaleLock then acquireFinalizationLock pid deadline patience
      else if deadline ≤ (← awaiting .dateNow) then
        throw (coded "FINALIZATION_LOCK_TIMEOUT"
          "another finalization still owns the configuration lock")
      else do
        awaiting .sleep
        acquireFinalizationLock pid deadline patience

/-- The owner read is the one that was written. -/
def LockOwner.Same (owner : LockOwner) (read : Option LockOwner) : Prop :=
  ∃ found ∈ read, found.pid = owner.pid ∧ found.nonce = owner.nonce

instance (owner : LockOwner) (read : Option LockOwner) : Decidable (owner.Same read) :=
  inferInstanceAs (Decidable (∃ found ∈ read, _))

/-- `releaseOpenApiFinalizationLock`. -/
def releaseFinalizationLock (owner : LockOwner) : SiteProgram M Config Unit := do
  if ¬owner.Same (← awaiting (.readLockOwner .config)) then
    throw (coded "FINALIZATION_LOCK_OWNERSHIP_LOST" "finalization lock ownership could not be verified")
  else
    match ← observing (awaiting (.rename .config)) with
    | .error _ =>
      throw (coded "FINALIZATION_LOCK_RELEASE_FAILED"
        "finalization lock could not be isolated for release")
    | .ok _ =>
      if ¬owner.Same (← awaiting .readMovedOwner) then
        throw (coded "FINALIZATION_LOCK_OWNERSHIP_LOST" "released finalization lock owner is invalid")
      else
        awaiting .discardMoved

/-- `withOpenApiFinalizationLock`. -/
def withFinalizationLock {α : Type} (pid : Int) (patience : Nat) (operation : SiteProgram M Config α) :
    SiteProgram M Config α := do
  let deadline := (← awaiting .dateNow) + lockWaitMs
  let owner ← acquireFinalizationLock pid deadline patience
  match ← observing operation with
  | .ok result =>
    releaseFinalizationLock owner
    return result
  | .error error =>
    let _ ← observing (releaseFinalizationLock owner)
    throw error

/-! ## A finalization -/

/-- What a finalization is to do: how it changes the configuration, and the mutations that approve the
store and take the approval back. -/
structure FinalizationWork (M Config : Type) where
  update : Config → Except JsError Config
  approve : M
  rollback : M

/-- How far the `try` block came: the backup, `configWritten`, `approvalCommitted`, and its error. -/
structure FinalizationProgress (Config : Type) where
  backup : Option Config := none
  configWritten : Bool := false
  approvalCommitted : Bool := false
  error : Option JsError := none

/-- The `try` block of `finalizeAuthorizationReceipt`. -/
def finalizationTry (pid : Int) (patience : Nat) (operation : M → Operation Unit)
    (work : FinalizationWork M Config) (updated : Config) :
    SiteProgram M Config (FinalizationProgress Config) := do
  match ← observing (awaiting .createBackup) with
  | .error e => return { error := some e }
  | .ok backup =>
    match ← observing (awaiting (.atomicWrite updated)) with
    | .error e => return { backup := some backup, error := some e }
    | .ok _ =>
      match ← observing (mutateLocked pid patience operation work.approve) with
      | .error e => return { backup := some backup, configWritten := true, error := some e }
      | .ok _ =>
        match ← observing (awaiting (.receipt .dispose)) with
        | .error e =>
          return { backup := some backup, configWritten := true, approvalCommitted := true
                   error := some e }
        | .ok _ => return { backup := some backup, configWritten := true, approvalCommitted := true }

/-- The `catch` block: the approval is taken back. -/
def takeBackApproval (pid : Int) (patience : Nat) (operation : M → Operation Unit)
    (work : FinalizationWork M Config) :
    (approvalCommitted : Bool) → SiteProgram M Config (Except JsError Unit)
  | true => observing (mutateLocked pid patience operation work.rollback)
  | false => pure (.ok ())

/-- The `catch` block: the configuration is written back. -/
def writeBackConfig :
    (configWritten : Bool) → (backup : Option Config) → SiteProgram M Config (Except JsError Unit)
  | true, some backup => observing (awaiting (.restoreBackup backup))
  | _, _ => pure (.ok ())

/-- The `catch` block of `finalizeAuthorizationReceipt`. -/
def finalizationCatch (pid : Int) (patience : Nat) (operation : M → Operation Unit)
    (work : FinalizationWork M Config) (progress : FinalizationProgress Config) :
    SiteProgram M Config Unit := do
  let approval ← takeBackApproval pid patience operation work progress.approvalCommitted
  let config ← writeBackConfig progress.configWritten progress.backup
  let receipt ← observing (awaiting (.receipt .restore))
  match approval, config, receipt with
  | .ok _, .ok _, .ok _ =>
    throw (coded "FINALIZATION_TRANSACTION_FAILED" "finalization failed and was fully rolled back")
  | _, _, _ =>
    throw (coded "FINALIZATION_ROLLBACK_FAILED" "finalization failed and rollback was incomplete")

/-- `finalizeAuthorizationReceipt`. -/
def finalizeLocked (pid : Int) (patience : Nat) (operation : M → Operation Unit)
    (work : FinalizationWork M Config) : SiteProgram M Config Unit :=
  withFinalizationLock pid patience do
    awaiting (.receipt .select)
    let updated ← .ofExcept (work.update (← awaiting .readConfig))
    awaiting (.receipt .verify)
    awaiting (.receipt .isolate)
    let progress ← finalizationTry pid patience operation work updated
    match progress.error with
    | none => return ()
    | some _ => finalizationCatch pid patience operation work progress

/-! ## The site -/

/-- What a job of a process does: one mutation, or one finalization. -/
inductive SiteWork (M Config : Type) where
  | mutation (mutation : M)
  | finalization (work : FinalizationWork M Config)

/-- The jobs `J` of all processes, how often each tries for a lock before its model ends, and what the
mutations do to the state. -/
structure SiteJobs (J M Config : Type) where
  pid : J → Int
  patience : J → Nat
  work : J → SiteWork M Config
  operation : M → Operation Unit

def SiteJobs.body {J : Type} (jobs : SiteJobs J M Config) (job : J) : SiteProgram M Config Unit :=
  match jobs.work job with
  | .mutation mutation => mutateLocked (jobs.pid job) (jobs.patience job) jobs.operation mutation
  | .finalization work => finalizeLocked (jobs.pid job) (jobs.patience job) jobs.operation work

/-- What lies at the path of a lock, and the job that created it. -/
structure LockEntry (J : Type) where
  ino : Nat
  mtimeMs : Instant
  owner : Option LockOwner := none
  createdBy : J

/-- The files and the processes. `committed` and `applied` record who wrote the state and the
configuration, in the order of the writes; nobody reads them. -/
structure Site (J M Config : Type) where
  now : Instant
  locks : LockPath → Option (LockEntry J) := fun _ => none
  moved : J → Option (LockEntry J) := fun _ => none
  state : StateFile
  config : Config
  committed : List (J × M) := []
  applied : List J := []
  ended : Int → Bool := fun _ => false

section Answers

variable {J : Type} [DecidableEq J]

/-- The site after a lock's path came to hold an entry, or none. -/
def Site.put (s : Site J M Config) (lock : LockPath) (entry : Option (LockEntry J)) : Site J M Config :=
  { s with locks := Function.update s.locks lock entry }

omit [DecidableEq J] in
@[simp] theorem Site.put_locks_self (s : Site J M Config) (lock : LockPath) (entry : Option (LockEntry J)) :
    (s.put lock entry).locks lock = entry := Function.update_self ..

omit [DecidableEq J] in
theorem Site.put_locks_of_ne (s : Site J M Config) {lock other : LockPath} (differs : other ≠ lock)
    (entry : Option (LockEntry J)) : (s.put lock entry).locks other = s.locks other :=
  Function.update_of_ne differs ..

/-- What the environment chooses: an inode, random bytes, how a step besides the two files goes. -/
structure SiteChoice where
  ino : Nat := 0
  nonce : Nat := 0
  outcome : Except JsError Unit := .ok ()

/-- `EEXIST`. -/
def eexist : JsError := coded "EEXIST" "file already exists"

/-- `ENOENT`. -/
def enoent : JsError := coded "ENOENT" "no such file or directory"

def LockEntry.sign (entry : LockEntry J) (owner : LockOwner) (now : Instant) : LockEntry J :=
  { entry with owner := some owner, mtimeMs := now }

/-- The answer of the file system, of the clock, of the probe or of the environment. -/
def Site.answer (s : Site J M Config) (job : J) (call : SiteCall M Config) (choice : SiteChoice) :
    Except JsError (SiteReply call) × Site J M Config :=
  match call with
  | .dateNow => (.ok s.now, s)
  | .randomNonce => (.ok choice.nonce, s)
  | .sleep => (.ok (), s)
  | .processIsAlive pid => (.ok !(s.ended pid), s)
  | .create lock =>
    match s.locks lock with
    | some _ => (.error eexist, s)
    | none => (.ok choice.ino, s.put lock (some { ino := choice.ino, mtimeMs := s.now, createdBy := job }))
  | .lstat lock =>
    match s.locks lock with
    | some entry => (.ok ⟨entry.ino, entry.mtimeMs⟩, s)
    | none => (.error enoent, s)
  -- The lock file is written through the handle that created it.
  | .writeOwner .state owner =>
    match s.locks .state with
    | some entry =>
      if entry.createdBy = job then (.ok (), s.put .state (some (entry.sign owner s.now))) else (.ok (), s)
    | none => (.ok (), s)
  -- The owner of the directory is a file created exclusively in whatever lies at its path.
  | .writeOwner .config owner =>
    match s.locks .config with
    | some entry =>
      match entry.owner with
      | some _ => (.error eexist, s)
      | none => (.ok (), s.put .config (some (entry.sign owner s.now)))
    | none => (.error enoent, s)
  | .readLockOwner lock => (.ok ((s.locks lock).bind (·.owner)), s)
  | .rename lock =>
    match s.locks lock with
    | some entry =>
      (.ok (), { s.put lock none with moved := Function.update s.moved job (some entry) })
    | none => (.error enoent, s)
  | .readMovedOwner => (.ok ((s.moved job).bind (·.owner)), s)
  | .discardMoved => (.ok (), { s with moved := Function.update s.moved job none })
  | .unlink lock =>
    match s.locks lock with
    | some _ => (.ok (), s.put lock none)
    | none => (.error enoent, s)
  | .unlinkOwner lock =>
    match s.locks lock with
    | some entry => (.ok (), s.put lock (some { entry with owner := none }))
    | none => (.error enoent, s)
  | .rmdir lock =>
    match s.locks lock with
    | some entry =>
      if entry.owner = none then (.ok (), s.put lock none)
      else (.error (coded "ENOTEMPTY" "directory not empty"), s)
    | none => (.error enoent, s)
  | .readState => (.ok s.state, s)
  | .writeState mutation state =>
    (.ok (), { s with state, committed := s.committed ++ [(job, mutation)] })
  | .readConfig => (.ok s.config, s)
  | .createBackup => (.ok s.config, s)
  | .atomicWrite config => (.ok (), { s with config, applied := s.applied ++ [job] })
  -- Restoring takes back the last change of the job.
  | .restoreBackup config =>
    (.ok (), { s with config, applied := (s.applied.reverse.erase job).reverse })
  | .receipt _ => (choice.outcome, s)

/-- What happens besides the calls: time passes, or a process ends. -/
inductive SiteEvent where
  | tick (milliseconds : Nat)
  | exit (pid : Int)

def Site.event (s : Site J M Config) : SiteEvent → Site J M Config
  | .tick milliseconds => { s with now := s.now + milliseconds }
  | .exit pid => { s with ended := Function.update s.ended pid true }

end Answers

end FullManagedBi.Authorization
