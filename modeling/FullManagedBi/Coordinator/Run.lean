import FullManagedBi.Lib.Run
import FullManagedBi.Coordinator.Stages

/-!
# Activations of a coordinator run

`runCoordinator` keeps the state of a run in memory and writes a snapshot of it to the state file at each
`persistState`; the writes happen one after another, in the order they were asked for. Each stage is a
coroutine that stops at every `await`: for its snapshot to be written, for its process, for its sleep.
The stages of a parallel plan take their steps in any order. An activation may crash between any two
steps, and what is in the file is all that the next one knows.
-/

namespace FullManagedBi.Coordinator

open Lib

inductive StageStatus where
  | complete | running | failed | waitingResource | retrying | waiting
  deriving DecidableEq

inductive RunStatus where
  | running | failed | waitingResource | waitingPlatform | readyToPublish | published
  deriving DecidableEq

/-- The record of a stage. The number of its attempts is below 2^53. -/
structure StageState where
  status : StageStatus
  attempts : Nat
  pendingStores : List String := []
  needsRecovery : Bool := false
  terminalWarnings : List String := []
  terminalDetails : List TerminalDetail := []
  lastExitCode : Option Int := none
  deriving DecidableEq

structure RunState where
  status : RunStatus
  stages : String → Option StageState

/-- Where a stage waits. A write is known by its number. -/
inductive Position where
  | idle
  | launching (write : Nat)
  | launched
  | pausing (write : Nat)
  | sleeping
  | closing (write : Nat)
  | returned
  | thrown
  deriving DecidableEq

/-- The local variables of `executeStage`. -/
structure StageTask where
  position : Position := .idle
  attempts : Nat := 0
  pendingStores : Option (List String) := none
  terminalWarnings : List String := []
  terminalDetails : List TerminalDetail := []
  deriving DecidableEq

/-- An activation: the state in memory, its stages, and the snapshots that are not written yet. -/
structure Activation where
  state : RunState
  tasks : String → StageTask := fun _ => {}
  snapshots : List RunState := []
  written : Nat := 0
  concluded : Bool := false

structure Launch where
  stageName : String
  attempt : Nat
  stores : Option (List String)
  args : List String
  deriving DecidableEq

/-- A coordinator run: its state file, its activation, and what happened so far. -/
structure CoordinatorState where
  file : Option RunState := none
  active : Option Activation := none
  launches : List Launch := []
  results : List (String × StageResult) := []
  returned : Option RunState := none

/-- What the environment decides at a step: whether the clock is before the deadline, and how the
process ended, if it did with an exit code. -/
structure StepEnv where
  inBudget : Bool := true
  result : Option StageResult := none

inductive ActivationMove where
  | write
  | advance (stage : Stage) (env : StepEnv)
  | conclude
  | finish

inductive Move where
  | activate
  | within (move : ActivationMove)
  | crash

/-! ## Stages -/

namespace Activation

/-- `state.stages[stage.name] = record`. -/
def setStage (act : Activation) (name : String) (record : StageState) : Activation :=
  { act with state := { act.state with stages := Function.update act.state.stages name (some record) } }

/-- `state.status = status`. -/
def setStatus (act : Activation) (status : RunStatus) : Activation :=
  { act with state := { act.state with status } }

def setTask (act : Activation) (name : String) (task : StageTask) : Activation :=
  { act with tasks := Function.update act.tasks name task }

/-- The number of the last write that was asked for. -/
def issued (act : Activation) : Nat := act.written + act.snapshots.length

/-- `persistState`. -/
def persist (act : Activation) : Activation := { act with snapshots := act.snapshots ++ [act.state] }

end Activation

variable (js : StageBuiltins) (plan : CoordinatorPlan)

def detailKey (detail : TerminalDetail) : String :=
  detail.warning ++ ":" ++ detail.storeCode.getD "null" ++ ":" ++ detail.errorCode

/-- `terminalDetails.set` under the key of a detail. -/
def setDetail (details : List TerminalDetail) (detail : TerminalDetail) : List TerminalDetail :=
  if details.any (detailKey · = detailKey detail) then
    details.map fun other => if detailKey other = detailKey detail then detail else other
  else details ++ [detail]

/-- The head of the loop: an attempt within the budget, or the end of the stage. -/
def nextAttempt (stage : Stage) (inBudget : Bool) (task : StageTask) (act : Activation) : Activation :=
  if inBudget then
    let attempts := task.attempts + 1
    let act := (act.setStage stage.name {
      status := .running
      attempts
      pendingStores := task.pendingStores.getD []
      terminalWarnings := task.terminalWarnings
      terminalDetails := task.terminalDetails }).persist
    act.setTask stage.name { task with attempts, position := .launching act.issued }
  else
    let act := ((act.setStage stage.name {
      status := .waiting
      attempts := task.attempts
      pendingStores := task.pendingStores.getD []
      lastExitCode := some partialExitCode }).setStatus .waitingPlatform).persist
    act.setTask stage.name { task with position := .closing act.issued }

/-- The local variables a stage starts with. -/
def taskOf (prior : Option StageState) : StageTask :=
  match prior with
  | none => {}
  | some prior => {
    attempts := prior.attempts
    pendingStores := if prior.pendingStores = [] then none else some prior.pendingStores
    terminalWarnings := prior.terminalWarnings.eraseDups
    terminalDetails := prior.terminalDetails.foldl setDetail [] }

/-- Whether a stage is for a partial result that its dependency did not have. -/
def isSkipped (stage : Stage) (state : RunState) : Bool :=
  stage.onlyAfterPartial.any fun name => !(state.stages name).any (·.needsRecovery)

/-- `executeStage` up to its first `await`. -/
def startStage (stage : Stage) (inBudget : Bool) (act : Activation) : Activation :=
  let prior := act.state.stages stage.name
  if prior.any (·.status = .complete) then act.setTask stage.name { position := .returned }
  else if isSkipped stage act.state then
    let act := (act.setStage stage.name { status := .complete, attempts := 0 }).persist
    act.setTask stage.name { position := .closing act.issued }
  else nextAttempt stage inBudget (taskOf prior) act

/-- What follows the end of a process. -/
def receiveResult (stage : Stage) (result : StageResult) (task : StageTask) (act : Activation) :
    Activation :=
  match classifyStageResult js stage.name result with
  | none => act.setTask stage.name { task with position := .thrown }
  | some classification =>
    let task := { task with
      terminalWarnings := (task.terminalWarnings ++ classification.terminalWarnings).eraseDups
      terminalDetails := classification.terminalDetails.foldl setDetail task.terminalDetails }
    if classification.complete then
      let act := (act.setStage stage.name {
        status := .complete
        attempts := task.attempts
        needsRecovery := classification.needsRecovery
        terminalWarnings := if classification.terminalPartial then task.terminalWarnings else []
        terminalDetails := if classification.terminalPartial then task.terminalDetails else []
        lastExitCode := some result.exitCode }).persist
      act.setTask stage.name { task with position := .closing act.issued }
    else if classification.fatal then
      let act := ((act.setStage stage.name {
        status := .failed
        attempts := task.attempts
        lastExitCode := some result.exitCode }).setStatus .failed).persist
      act.setTask stage.name { task with position := .closing act.issued }
    else
      let pendingStores :=
        if classification.retryStores = [] then task.pendingStores else some classification.retryStores
      let act := ((act.setStage stage.name {
        status := if classification.deferred then .waitingResource else .retrying
        attempts := task.attempts
        pendingStores := pendingStores.getD []
        terminalWarnings := task.terminalWarnings
        terminalDetails := task.terminalDetails
        lastExitCode := some result.exitCode }).setStatus
          (if classification.deferred then .waitingResource else .waitingPlatform)).persist
      act.setTask stage.name { task with pendingStores, position := .pausing act.issued }

def isDone (act : Activation) (stage : Stage) : Bool :=
  (act.tasks stage.name).position = .returned &&
    (act.state.stages stage.name).any (·.status = .complete)

/-- Whether the stage may start: at once in a parallel plan, and after the stages before it else. -/
def mayStart (act : Activation) (stage : Stage) : Bool :=
  plan.parallel || (plan.stages.takeWhile (· ≠ stage)).all (isDone act)

/-! ## Runs -/

/-- A stage of an activation takes its next step, if what it waits for has happened. -/
def advanceStage (stage : Stage) (env : StepEnv) (s : CoordinatorState) (act : Activation) : CoordinatorState :=
  let task := act.tasks stage.name
  match task.position with
  | .idle =>
    if 0 < act.written ∧ mayStart plan act stage then
      { s with active := some (startStage stage env.inBudget act) }
    else s
  | .launching write =>
    if write ≤ act.written then
      match stageArgsForStores stage task.pendingStores task.attempts with
      | some args =>
        { s with
          active := some (act.setTask stage.name { task with position := .launched })
          launches := s.launches ++ [⟨stage.name, task.attempts, task.pendingStores, args⟩] }
      | none => { s with active := some (act.setTask stage.name { task with position := .thrown }) }
    else s
  | .launched =>
    match env.result with
    | some result =>
      { s with
        active := some (receiveResult js stage result task act)
        results := s.results ++ [(stage.name, result)] }
    | none => { s with active := some (act.setTask stage.name { task with position := .thrown }) }
  | .pausing write =>
    if write ≤ act.written then
      { s with active := some (act.setTask stage.name { task with position := .sleeping }) }
    else s
  | .sleeping =>
    { s with active := some (nextAttempt stage env.inBudget task (act.setStatus .running)) }
  | .closing write =>
    if write ≤ act.written then
      { s with active := some (act.setTask stage.name { task with position := .returned }) }
    else s
  | .returned | .thrown => s

/-- Whether the loop over the stages of a sequential plan has ended. -/
def sequenceEnded (act : Activation) : List Stage → Bool
  | [] => true
  | stage :: stages =>
    (act.tasks stage.name).position = .returned &&
      (!(act.state.stages stage.name).any (·.status = .complete) || sequenceEnded act stages)

/-- Whether every stage that was executed has returned. -/
def stagesEnded (act : Activation) : Bool :=
  if plan.parallel then plan.stages.all fun stage => (act.tasks stage.name).position = .returned
  else sequenceEnded act plan.stages

/-- `plan.stages.every((stage) => state.stages[stage.name]?.status === 'COMPLETE')`. -/
def allComplete (state : RunState) : Bool :=
  plan.stages.all fun stage => (state.stages stage.name).any (·.status = .complete)

def finalStatus (state : RunState) : RunStatus :=
  if allComplete plan state then .readyToPublish
  else if state.status = .running then .waitingPlatform
  else state.status

def activationStep (s : CoordinatorState) (act : Activation) : ActivationMove → CoordinatorState
  | .write =>
    match act.snapshots with
    | snapshot :: snapshots =>
      { s with
        file := some snapshot
        active := some { act with snapshots, written := act.written + 1 } }
    | [] => s
  | .advance stage env =>
    if stage ∈ plan.stages then advanceStage js plan stage env s act else s
  | .conclude =>
    if stagesEnded plan act ∧ 0 < act.written ∧ !act.concluded then
      let act := (act.setStatus (finalStatus plan act.state)).persist
      { s with active := some { act with concluded := true } }
    else s
  | .finish =>
    if act.concluded ∧ act.snapshots = [] then { s with active := none, returned := some act.state }
    else s

def publishedPlanComplete (file : Option RunState) : Bool :=
  file.any fun existing => existing.status = .published && allComplete plan existing

/-- The activation that `runCoordinator` starts, with its first snapshot. -/
def openActivation (file : Option RunState) : Activation :=
  Activation.persist
    { state := { status := .running, stages := (file.map (·.stages)).getD fun _ => none } }

/-- `runCoordinator` up to its first `await`. -/
def activate (s : CoordinatorState) : CoordinatorState :=
  if publishedPlanComplete plan s.file then { s with returned := s.file }
  else
    { s with active := some (openActivation s.file) }

def coordinatorStep (s : CoordinatorState) : Move → CoordinatorState
  | .activate =>
    match s.active with
    | none => activate plan s
    | some _ => s
  | .within move =>
    match s.active with
    | none => s
    | some act => activationStep js plan s act move
  | .crash => { s with active := none }

/-- What `runCoordinator` returns, after the steps of one activation. -/
def runCoordinator (file : Option RunState) (moves : List ActivationMove) : Option RunState :=
  (run (coordinatorStep js plan) { file := file } (.activate :: moves.map .within)).returned

end FullManagedBi.Coordinator
