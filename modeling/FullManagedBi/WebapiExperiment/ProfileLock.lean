import FullManagedBi.Lib.Js
import FullManagedBi.Lib.Program

/-!
# The locks of the WebAPI experiment

`createExperimentLockManager` (`src/webapi-experiment/profile-lock.mjs`) takes a global lock and a lock
per Profile, as files that are created exclusively. A process calls the file system step by step
(`LockCall`), and between two of its steps any other process takes its own.
-/

namespace FullManagedBi.WebapiExperiment

open Lib

/-! ## Calls -/

/-- What a lock file says: who owns it, for which store, since when. -/
structure LockRecord where
  ownerPid : Int
  storeCode : String
  acquiredAt : Int
  deriving DecidableEq

/-- The calls of the lock manager: the injected file system, the probe and the clock. -/
inductive LockCall where
  | mkdir (directory : String)
  | writeFileExclusive (path : String) (record : LockRecord)
  | readFile (path : String)
  | remove (path : String)
  | isProcessAlive (pid : Int)
  | clock
  deriving DecidableEq

abbrev LockReply : LockCall → Type
  | .mkdir _ => Unit
  | .writeFileExclusive _ _ => Unit
  | .readFile _ => LockRecord
  | .remove _ => Unit
  | .isProcessAlive _ => Bool
  | .clock => Int

/-- An error of the file system by its code, or a `WebApiLockError`. -/
inductive LockError where
  | eexist
  | enoent
  | refused (code : String) (storeCode : Option String)
  deriving DecidableEq

abbrev LockProgram := Program LockCall LockReply LockError

def await (call : LockCall) : LockProgram (LockReply call) := .perform call

/-! ## The manager -/

/-- What a lock manager is created with: the process and the directory. -/
structure LockManager where
  pid : Int
  lockDirectory : String
  deriving DecidableEq

variable (B : CaseBuiltins)

/-- `GLOBAL_LOCK_NAME`. -/
def globalLockName : String := "webapi-experiment.global.lock"

def lockFileName (storeCode : String) : String :=
  "webapi-experiment." ++ B.toLowerCase storeCode ++ ".lock"

/-- `joinLockPath`: the directory without the separators it ends in, and the name. -/
def LockManager.joinLockPath (manager : LockManager) (name : String) : String :=
  String.ofList (manager.lockDirectory.toList.reverse.dropWhile fun c => c == '/' || c == '\\').reverse ++
    "/" ++ name

/-- `Number.isSafeInteger`. -/
def isSafeInteger (n : Int) : Bool := decide (n.natAbs ≤ maxSafeInteger)

/-- `createExperimentLockManager`: what it checks of its arguments. -/
def createExperimentLockManager (manager : LockManager) : LockProgram LockManager :=
  if ¬isSafeInteger manager.pid ∨ manager.lockDirectory = "" then
    throw (.refused "WEBAPI_LOCK_DEPENDENCIES_MISSING" none)
  else
    pure manager

def isProvablyStale (record : Option LockRecord) (pid : Int) : LockProgram Bool :=
  match record with
  | none => pure false
  | some record =>
    if ¬isSafeInteger record.ownerPid ∨ record.ownerPid ≤ 0 then pure false
    else if record.ownerPid = pid then pure false
    else do
      -- An unreadable probe result is treated as "still alive".
      match ← observing (await (.isProcessAlive record.ownerPid)) with
      | .ok alive => return !alive
      | .error _ => return false

def LockManager.claim (manager : LockManager) (name storeCode heldCode : String) : LockProgram String := do
  let path := manager.joinLockPath name
  let record : LockRecord := { ownerPid := manager.pid, storeCode, acquiredAt := ← await .clock }
  match ← observing (await (.writeFileExclusive path record)) with
  | .ok _ => return path
  | .error .eexist =>
    let existing := (← observing (await (.readFile path))).toOption
    if ← isProvablyStale existing manager.pid then
      let reclaim : LockProgram Unit := do
        await (.remove path)
        await (.writeFileExclusive path record)
      match ← observing reclaim with
      | .ok _ => return path
      | .error _ => throw (.refused heldCode (some storeCode))
    else
      throw (.refused heldCode (some storeCode))
  | .error _ => throw (.refused "WEBAPI_LOCK_WRITE_FAILED" (some storeCode))

def LockManager.releaseOwned (manager : LockManager) (path : String) : LockProgram Bool := do
  match ← observing (await (.readFile path)) with
  | .error _ => return false
  | .ok record =>
    if record.ownerPid ≠ manager.pid then return false
    else
      match ← observing (await (.remove path)) with
      | .ok _ => return true
      | .error _ => return false

/-- What `acquire` returns, as far as `release` reads it. -/
structure LockHandle where
  storeCode : String
  globalPath : String
  profilePath : String

/-- `acquire`, where the roster is `WEBAPI_STORE_CODES`. -/
def LockManager.acquire (manager : LockManager) (roster : List String) (storeCode : Option String) :
    LockProgram LockHandle :=
  let canonical := B.toUpperCase (jsTrim (storeCode.getD ""))
  if canonical ∉ roster then
    throw (.refused "WEBAPI_LOCK_STORE_NOT_ALLOWED" none)
  else do
    await (.mkdir manager.lockDirectory)
    let globalPath ← manager.claim globalLockName canonical "WEBAPI_LOCK_GLOBAL_HELD"
    match ← observing
      (manager.claim (lockFileName B canonical) canonical "WEBAPI_LOCK_PROFILE_HELD") with
    | .ok profilePath => return { storeCode := canonical, globalPath, profilePath }
    | .error error =>
      -- Never leave the global lock behind when the Profile lock is refused.
      let _ ← manager.releaseOwned globalPath
      throw error

/-- The `release` of a handle: the Profile's lock first. A second call returns at once. -/
def LockManager.release (manager : LockManager) (handle : LockHandle) (released : Bool) :
    LockProgram Bool :=
  if released then pure false
  else do
    let profileReleased ← manager.releaseOwned handle.profilePath
    let globalReleased ← manager.releaseOwned handle.globalPath
    return profileReleased && globalReleased

/-! ## Processes -/

/-- One use of the locks: a process acquires them for a store and, some time later, releases them. A
process may have any number of uses, one after another or at the same time. -/
structure LockUse where
  manager : LockManager
  storeCode : Option String
  number : Nat
  deriving DecidableEq

def LockUse.body (roster : List String) (use : LockUse) : LockProgram Bool := do
  let manager ← createExperimentLockManager use.manager
  let handle ← manager.acquire B roster use.storeCode
  manager.release handle false

structure LockFile where
  record : LockRecord
  createdBy : LockUse
  deriving DecidableEq

/-- The lock files, and which processes have come to an end. -/
structure LockDirectory where
  files : String → Option LockFile
  ended : Int → Bool

/-- The directory after a path came to hold a file, or none. -/
def LockDirectory.put (s : LockDirectory) (path : String) (file : Option LockFile) : LockDirectory :=
  { s with files := Function.update s.files path file }

@[simp] theorem LockDirectory.put_ended (s : LockDirectory) (path : String) (file : Option LockFile) :
    (s.put path file).ended = s.ended := rfl

@[simp] theorem LockDirectory.put_files_self (s : LockDirectory) (path : String) (file : Option LockFile) :
    (s.put path file).files path = file := Function.update_self ..

theorem LockDirectory.put_files_of_ne (s : LockDirectory) {path other : String} (differs : other ≠ path)
    (file : Option LockFile) : (s.put path file).files other = s.files other :=
  Function.update_of_ne differs ..

/-- The answer of the file system, the probe or the clock. -/
def LockDirectory.answer (s : LockDirectory) (use : LockUse) (call : LockCall) (now : Int) :
    Except LockError (LockReply call) × LockDirectory :=
  match call with
  | .mkdir _ => (.ok (), s)
  | .writeFileExclusive path record =>
    match s.files path with
    | some _ => (.error .eexist, s)
    | none => (.ok (), s.put path (some ⟨record, use⟩))
  | .readFile path =>
    match s.files path with
    | some file => (.ok file.record, s)
    | none => (.error .enoent, s)
  | .remove path =>
    match s.files path with
    | some _ => (.ok (), s.put path none)
    | none => (.error .enoent, s)
  | .isProcessAlive pid => (.ok !(s.ended pid), s)
  | .clock => (.ok now, s)

end FullManagedBi.WebapiExperiment
