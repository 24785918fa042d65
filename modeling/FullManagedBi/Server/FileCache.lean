import FullManagedBi.Lib.Js
import FullManagedBi.Lib.Run

/-!
# The cache of dashboard files

`loadDashboardData`, `loadHomeHistoryData` and `loadCachedJson` of `src/server/dashboard-data.mjs`. A load waits for
`stat`, goes on with what the cache holds by then, and where it reads the file it waits for the content; loads and
atomic replacements of the files take their steps in any order. A file is the list of what has stood under its path. A
`stat`, and an open with the read behind it, sees what stands there at that moment, and either may fail. The promise of
a load has the number of the load.
-/

namespace FullManagedBi.Server

open Lib

/-- What `stat` says of a file, each number as its text. -/
structure FileMetadata where
  dev : String
  ino : String
  size : String
  mtimeMs : String
  ctimeMs : String
  deriving DecidableEq

def FileMetadata.signature (m : FileMetadata) : String :=
  m.dev ++ ":" ++ m.ino ++ ":" ++ m.size ++ ":" ++ m.mtimeMs ++ ":" ++ m.ctimeMs

/-- What stands under a path until it is replaced. -/
structure FileVersion where
  metadata : FileMetadata
  content : String
  deriving DecidableEq

/-- The signature of what stood under a path. -/
def FileVersion.signature (w : FileVersion) : String := w.metadata.signature

inductive CacheNamespace where
  | dashboard
  | home
  deriving DecidableEq

def CacheNamespace.text : CacheNamespace → String
  | .dashboard => "dashboard"
  | .home => "home"

/-- The variable that names the file in production. -/
def CacheNamespace.variable : CacheNamespace → String
  | .dashboard => "FULL_BI_DATA_FILE"
  | .home => "FULL_BI_HOME_DATA_FILE"

/-- `key`. -/
def cacheKey (namespace_ : CacheNamespace) (file : String) : String := namespace_.text ++ ":" ++ file

/-- What the loads use: `JSON.parse`, the normalizers, and the file that stands in for a missing path. -/
structure DashboardFiles (J V : Type*) where
  case : CaseBuiltins
  defaultFile : String
  parse : String → Option J
  normalize : CacheNamespace → J → Option V

variable {J V : Type*}

def DashboardFiles.value (D : DashboardFiles J V) (namespace_ : CacheNamespace) (content : String) : Option V :=
  (D.parse content).bind (D.normalize namespace_)

/-- A call of `loadDashboardData` or `loadHomeHistoryData`. -/
structure LoadRequest where
  namespace_ : CacheNamespace
  dataFile : Option String
  runtimeEnvironment : String := "development"
  forceRefresh : Bool := false
  deriving DecidableEq

def DashboardFiles.selectedFile (D : DashboardFiles J V) (r : LoadRequest) : Except JsError String :=
  match r.dataFile with
  | some "" | none =>
    if D.case.toLowerCase r.runtimeEnvironment = "production" then
      .error { message := r.namespace_.variable ++ " is required in production." }
    else .ok D.defaultFile
  | some file => .ok file

/-- How far a load is. `waiting` returns the promise of another load. -/
inductive LoadPhase (V : Type*) where
  | called
  | stated (signature : String)
  | reading (signature : String)
  | read (signature : String) (content : Option String)
  | waiting (load : Nat)
  | returned (value : V)
  | failed
  deriving DecidableEq

def LoadPhase.settled : LoadPhase V → Option (Option V)
  | .returned value => some (some value)
  | .failed => some none
  | _ => none

structure CachedLoad (V : Type*) where
  file : String
  namespace_ : CacheNamespace
  forceRefresh : Bool
  phase : LoadPhase V := .called
  deriving DecidableEq

/-- An entry of `FILE_CACHE`. -/
inductive CacheEntry (V : Type*) where
  | value (signature : String) (value : V)
  | promise (signature : String) (load : Nat)
  deriving DecidableEq

/-- The files, the cache, and the loads so far. -/
structure FileCacheState (V : Type*) where
  versions : String → List FileVersion := fun _ => []
  cache : String → Option (CacheEntry V) := fun _ => none
  loads : List (CachedLoad V) := []

/-- A step: a file is replaced, a load begins, its `stat` answers, it goes on, its file is opened and read, its promise
settles. -/
inductive FileCacheEvent where
  | replace (file : String) (version : FileVersion)
  | load (request : LoadRequest)
  | stat (load : Nat) (fails : Bool)
  | resume (load : Nat)
  | read (load : Nat) (fails : Bool)
  | settle (load : Nat)
  deriving DecidableEq

namespace FileCacheState

def setPhase (s : FileCacheState V) (load : Nat) (phase : LoadPhase V) : FileCacheState V :=
  { s with loads := s.loads.modify load fun l => { l with phase } }

def setEntry (s : FileCacheState V) (key : String) (entry : Option (CacheEntry V)) : FileCacheState V :=
  { s with cache := Function.update s.cache key entry }

def begin_ (s : FileCacheState V) (D : DashboardFiles J V) (r : LoadRequest) : FileCacheState V :=
  { s with loads := s.loads ++ [match D.selectedFile r with
      | .ok file => ⟨file, r.namespace_, r.forceRefresh, .called⟩
      | .error _ => ⟨"", r.namespace_, r.forceRefresh, .failed⟩] }

/-- `await stat(file)`. -/
def stat (s : FileCacheState V) (load : Nat) (l : CachedLoad V) (fails : Bool) : FileCacheState V :=
  match (s.versions l.file).getLast?, fails with
  | some version, false => s.setPhase load (.stated version.signature)
  | _, _ => s.setPhase load .failed

/-- What stands between the two awaits. -/
def resume (s : FileCacheState V) (load : Nat) (l : CachedLoad V) (signature : String) : FileCacheState V :=
  let key := cacheKey l.namespace_ l.file
  let read := (s.setEntry key (some (.promise signature load))).setPhase load (.reading signature)
  match s.cache key with
  | some (.value seen value) =>
    if !l.forceRefresh ∧ seen = signature then s.setPhase load (.returned value) else read
  | some (.promise seen other) => if seen = signature then s.setPhase load (.waiting other) else read
  | none => read

def read (s : FileCacheState V) (load : Nat) (l : CachedLoad V) (signature : String) (fails : Bool) :
    FileCacheState V :=
  s.setPhase load (.read signature
    (if fails then none else (s.versions l.file).getLast?.map (·.content)))

def isOwnPromise (load : Nat) : Option (CacheEntry V) → Bool
  | some (.promise _ other) => other = load
  | _ => false

/-- The promise settles: the value goes to the cache, a failure takes its own promise out. -/
def settle (s : FileCacheState V) (D : DashboardFiles J V) (load : Nat) (l : CachedLoad V) (signature : String)
    (content : Option String) : FileCacheState V :=
  let key := cacheKey l.namespace_ l.file
  match content.bind (D.value l.namespace_) with
  | some value => (s.setEntry key (some (.value signature value))).setPhase load (.returned value)
  | none => (if isOwnPromise load (s.cache key) then s.setEntry key none else s).setPhase load .failed

/-- A step. What a load does not wait for does not happen to it. -/
def step (D : DashboardFiles J V) (s : FileCacheState V) : FileCacheEvent → FileCacheState V
  | .replace file version =>
    { s with versions := Function.update s.versions file (s.versions file ++ [version]) }
  | .load request => s.begin_ D request
  | .stat load fails => match s.loads[load]? with
    | some l => match l.phase with
      | .called => s.stat load l fails
      | _ => s
    | none => s
  | .resume load => match s.loads[load]? with
    | some l => match l.phase with
      | .stated signature => s.resume load l signature
      | _ => s
    | none => s
  | .read load fails => match s.loads[load]? with
    | some l => match l.phase with
      | .reading signature => s.read load l signature fails
      | _ => s
    | none => s
  | .settle load => match s.loads[load]? with
    | some l => match l.phase with
      | .read signature content => s.settle D load l signature content
      | _ => s
    | none => s

def phase (s : FileCacheState V) (load : Nat) : Option (LoadPhase V) := s.loads[load]?.map (·.phase)

/-- What a load has come to. A load that waits comes to what the load behind its promise comes to. -/
def outcome (s : FileCacheState V) (load : Nat) : Option (Option V) :=
  match s.phase load with
  | some (.waiting other) => (s.phase other).bind LoadPhase.settled
  | some phase => phase.settled
  | none => none

end FileCacheState

/-- What replaces a file has a signature that the path has not had. -/
def FreshSignature (s : FileCacheState V) : FileCacheEvent → Prop
  | .replace file version => version.signature ∉ (s.versions file).map (·.signature)
  | _ => True

/-- The file can be read, and what stands there has a value. -/
def Readable (D : DashboardFiles J V) (namespace_ : CacheNamespace) (file : String) (s : FileCacheState V) :
    FileCacheEvent → Prop
  | .replace path version => path = file → (D.value namespace_ version.content).isSome
  | .stat load fails | .read load fails => (∃ l ∈ s.loads[load]?, l.file = file) → fails = false
  | _ => True

end FullManagedBi.Server
