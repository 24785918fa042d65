import FullManagedBi.Coordinator.Run

/-!
# Marking a run as published

`scripts/mark_full_managed_coordinators_published.mjs` reads the state file of a run, and where the run is ready it
renames a copy of it with the marks over the file. An activation of the run (`runCoordinator`) renames its snapshots over
the same file. Each program writes a temporary file of its own before a rename; the two take their steps in any order,
and each may crash between any two of them. There is at most one activation and at most one marker at a time. Instants
are milliseconds.
-/

namespace FullManagedBi.Coordinator

open Lib

/-! ## Files -/

/-- `fingerprint`. -/
structure Fingerprint where
  file : String
  bytes : Nat
  modifiedAt : Nat
  sha256 : String
  deriving DecidableEq

/-- The fields of a state file next to its status and its stages. -/
structure Stamps where
  readyAt : Option Nat := none
  publishedAt : Option Nat := none
  manifest : Option (List Fingerprint) := none
  deriving DecidableEq

structure StateFile where
  state : RunState
  stamps : Stamps

/-! ## States -/

/-- Where a marker stands with the file of the run. -/
inductive MarkerPosition where
  | listed
  | writing (value : StateFile)
  | renaming (value : StateFile)
  | passed (marked : Bool)

/-- The temporary file is written, and the rename comes next. -/
def MarkerPosition.isRenaming : MarkerPosition → Bool
  | .renaming _ => true
  | _ => false

/-- A run of `markReadyCoordinatorsPublished`. `seen` is how often the coordinator had renamed its file when the marker
read it. -/
structure MarkerRun where
  readyThrough : Nat
  publishedAt : Nat
  manifest : List Fingerprint
  position : MarkerPosition := .listed
  seen : Nat := 0

/-- A rename of a marker: what it has read, and how often the coordinator had renamed the file by then. -/
structure Mark where
  marker : MarkerRun
  value : StateFile
  replaced : Nat

/-- The two programs and the state file of the run, whose status and stages are `coordinator.file`. `memory` holds the
other fields of the activation's state. -/
structure Publication where
  now : Nat := 0
  coordinator : CoordinatorState := {}
  fileStamps : Stamps := {}
  memory : Stamps := {}
  /-- The temporary file of the activation's next snapshot is written. -/
  prepared : Bool := false
  marker : Option MarkerRun := none
  /-- How often the coordinator has renamed the file. -/
  renames : Nat := 0
  /-- How many marks there were when the activation has read the file. -/
  opened : Nat := 0
  marks : List Mark := []
  /-- The markers that have returned with the run among those that are `marked`. -/
  reports : List MarkerRun := []

def Publication.file (s : Publication) : Option StateFile :=
  s.coordinator.file.map fun state => { state, stamps := s.fileStamps }

/-! ## Activations -/

variable (js : StageBuiltins) (plan : CoordinatorPlan)

/-- The fields that a snapshot is written with: `readyAt` is set together with `READY_TO_PUBLISH`. -/
def snapshotStamps (memory : Stamps) (snapshot : RunState) : Stamps :=
  { memory with readyAt := if snapshot.status = .readyToPublish then memory.readyAt else none }

/-- Whether the activation comes to its last snapshot. -/
def concludes (act : Activation) : Bool := stagesEnded plan act ∧ 0 < act.written ∧ !act.concluded

/-- A step of the coordinator, with the fields next to the status and the stages. -/
def coordinatorMove (s : Publication) (move : Move) : Publication :=
  let next := { s with coordinator := coordinatorStep js plan s.coordinator move }
  match move, s.coordinator.active with
  | .activate, none =>
    { next with
      memory := { publishedAt := s.file.bind (·.stamps.publishedAt) }
      prepared := false
      opened := s.marks.length }
  | .within .write, some act =>
    match act.snapshots, s.prepared with
    | snapshot :: _, true =>
      { next with fileStamps := snapshotStamps s.memory snapshot, prepared := false, renames := s.renames + 1 }
    | _, _ => s
  | .within .conclude, some act =>
    if concludes plan act ∧ allComplete plan act.state then
      { next with memory := { s.memory with readyAt := some s.now } }
    else next
  | .crash, _ => { next with prepared := false }
  | _, _ => next

/-! ## Markers -/

/-- The check of a file: it is ready, since `readyThrough` at the latest. -/
def isReady (readyThrough : Nat) (value : StateFile) : Bool :=
  decide (value.state.status = .readyToPublish) && value.stamps.readyAt.any fun readyAt => decide (readyAt ≤ readyThrough)

/-- What a marker writes over the file that it has read. -/
def markedFile (marker : MarkerRun) (value : StateFile) : StateFile where
  state := { value.state with status := .published }
  stamps := { value.stamps with publishedAt := some marker.publishedAt, manifest := some marker.manifest }

inductive MarkerMove where
  | read
  | writeTemporary
  | rename
  | finish
  | crash
  deriving DecidableEq

/-- A step of a marker. `finish` is its return, after the files of other runs. -/
def markerStep (s : Publication) (marker : MarkerRun) : MarkerMove → Publication
  | .read =>
    match marker.position, s.file with
    | .listed, some value =>
      if isReady marker.readyThrough value then
        { s with marker := some { marker with position := .writing value, seen := s.renames } }
      else { s with marker := some { marker with position := .passed false } }
    | .listed, none => { s with marker := some { marker with position := .passed false } }
    | _, _ => s
  | .writeTemporary =>
    match marker.position with
    | .writing value => { s with marker := some { marker with position := .renaming value } }
    | _ => s
  | .rename =>
    match marker.position with
    | .renaming value =>
      { s with
        coordinator := { s.coordinator with file := some (markedFile marker value).state }
        fileStamps := (markedFile marker value).stamps
        marks := s.marks ++ [{ marker, value, replaced := s.renames }]
        marker := some { marker with position := .passed true } }
    | _ => s
  | .finish =>
    match marker.position with
    | .passed marked => { s with marker := none, reports := s.reports ++ if marked then [marker] else [] }
    | _ => s
  | .crash => { s with marker := none }

/-! ## Interleavings -/

/-- A step of the two programs: time passes, the activation writes a temporary file or takes a step, a marker starts or
takes a step. -/
inductive PublicationMove where
  | wait (duration : Nat)
  | prepare
  | coordinator (move : Move)
  | startMarker (readyThrough : Nat) (manifest : List Fingerprint)
  | marker (move : MarkerMove)

def publicationStep (s : Publication) : PublicationMove → Publication
  | .wait duration => { s with now := s.now + duration }
  | .prepare => { s with prepared := s.coordinator.active.any fun act => !act.snapshots.isEmpty }
  | .coordinator move => coordinatorMove js plan s move
  | .startMarker readyThrough manifest =>
    match s.marker with
    | some _ => s
    | none => { s with marker := some { readyThrough, publishedAt := s.now, manifest } }
  | .marker move =>
    match s.marker with
    | some marker => markerStep s marker move
    | none => s

/-- No rename is over one of the other program, which has come after the file was read: a marker renames over the file
that it has read, and an activation writes only where there is no mark since it has read the file. -/
def Unraced (s : Publication) : PublicationMove → Prop
  | .coordinator (.within .write) => s.prepared = true → s.opened = s.marks.length
  | .marker .rename => ∀ marker ∈ s.marker, marker.position.isRenaming = true → marker.seen = s.renames
  | _ => True

instance (s : Publication) (move : PublicationMove) : Decidable (Unraced s move) := by
  unfold Unraced
  split <;> infer_instance

end FullManagedBi.Coordinator
