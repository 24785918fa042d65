import FullManagedBi.Coordinator.Run

/-!
# The steps of a coordinator run

A step of a stage changes its own task, and it may write its record and the status of the run
(`StageEffect`). `StageMove` lists what a step can do, and `advanceStage_cases` says that it does nothing
else. The laws of the run are read off this list.
-/

namespace FullManagedBi.Coordinator

open Lib

variable {js : StageBuiltins} {plan : CoordinatorPlan}

/-! ## Fields -/

section Fields

variable (act : Activation) (name : String) (record : StageState) (status : RunStatus) (task : StageTask)

@[simp] theorem Activation.setStage_stages : (act.setStage name record).state.stages =
    Function.update act.state.stages name (some record) := rfl
@[simp] theorem Activation.setStage_status : (act.setStage name record).state.status = act.state.status :=
  rfl
@[simp] theorem Activation.setStage_tasks : (act.setStage name record).tasks = act.tasks := rfl
@[simp] theorem Activation.setStage_snapshots : (act.setStage name record).snapshots = act.snapshots := rfl
@[simp] theorem Activation.setStage_written : (act.setStage name record).written = act.written := rfl
@[simp] theorem Activation.setStage_concluded : (act.setStage name record).concluded = act.concluded := rfl

@[simp] theorem Activation.setStatus_stages : (act.setStatus status).state.stages = act.state.stages := rfl
@[simp] theorem Activation.setStatus_status : (act.setStatus status).state.status = status := rfl
@[simp] theorem Activation.setStatus_tasks : (act.setStatus status).tasks = act.tasks := rfl
@[simp] theorem Activation.setStatus_snapshots : (act.setStatus status).snapshots = act.snapshots := rfl
@[simp] theorem Activation.setStatus_written : (act.setStatus status).written = act.written := rfl
@[simp] theorem Activation.setStatus_concluded : (act.setStatus status).concluded = act.concluded := rfl

@[simp] theorem Activation.setTask_state : (act.setTask name task).state = act.state := rfl
@[simp] theorem Activation.setTask_tasks : (act.setTask name task).tasks = Function.update act.tasks name task := rfl
@[simp] theorem Activation.setTask_snapshots : (act.setTask name task).snapshots = act.snapshots := rfl
@[simp] theorem Activation.setTask_written : (act.setTask name task).written = act.written := rfl
@[simp] theorem Activation.setTask_concluded : (act.setTask name task).concluded = act.concluded := rfl

@[simp] theorem Activation.persist_state : act.persist.state = act.state := rfl
@[simp] theorem Activation.persist_tasks : act.persist.tasks = act.tasks := rfl
@[simp] theorem Activation.persist_snapshots : act.persist.snapshots = act.snapshots ++ [act.state] := rfl
@[simp] theorem Activation.persist_written : act.persist.written = act.written := rfl
@[simp] theorem Activation.persist_concluded : act.persist.concluded = act.concluded := rfl

end Fields

/-! ## Effects -/

/-- A record that a stage writes, with the status of the run if it writes that too. -/
structure Entry where
  record : StageState
  status : Option RunStatus := none

/-- What a step of a stage does: its next task, whose position may depend on the number of its write, and
the entry it writes. -/
structure StageEffect where
  task : Nat → StageTask
  entry : Option Entry := none

def StageEffect.apply (effect : StageEffect) (name : String) (act : Activation) : Activation :=
  match effect.entry with
  | none => act.setTask name (effect.task act.issued)
  | some entry =>
    let act := ((act.setStage name entry.record).setStatus
      (entry.status.getD act.state.status)).persist
    act.setTask name (effect.task act.issued)

namespace StageEffect

variable (effect : StageEffect) (name : String) (act : Activation)

def write : Nat := act.issued + if effect.entry.isSome then 1 else 0

def stages : String → Option StageState :=
  match effect.entry with
  | none => act.state.stages
  | some entry => Function.update act.state.stages name (some entry.record)

def status : RunStatus := (effect.entry.bind (·.status)).getD act.state.status

theorem apply_eq : effect.apply name act = { act with
      state := ⟨effect.status act, effect.stages name act⟩
      tasks := Function.update act.tasks name (effect.task (effect.write act))
      snapshots := act.snapshots ++
        if effect.entry.isSome then [⟨effect.status act, effect.stages name act⟩] else [] } := by
  obtain ⟨task, _ | ⟨record, status⟩⟩ := effect
  · simp [apply, write, stages, StageEffect.status, Activation.setTask]
  · simp [apply, write, stages, StageEffect.status, Activation.setTask, Activation.persist,
      Activation.setStatus, Activation.setStage, Activation.issued, Nat.add_assoc]

@[simp] theorem apply_stages : (effect.apply name act).state.stages = effect.stages name act := by
  rw [apply_eq]

@[simp] theorem apply_status : (effect.apply name act).state.status = effect.status act := by
  rw [apply_eq]

@[simp] theorem apply_tasks : (effect.apply name act).tasks =
    Function.update act.tasks name (effect.task (effect.write act)) := by
  rw [apply_eq]

@[simp] theorem apply_written : (effect.apply name act).written = act.written := by
  rw [apply_eq]

@[simp] theorem apply_concluded : (effect.apply name act).concluded = act.concluded := by
  rw [apply_eq]

theorem stages_ne {other : String} (different : other ≠ name) :
    effect.stages name act other = act.state.stages other := by
  unfold stages
  cases effect.entry with
  | none => rfl
  | some entry => exact Function.update_of_ne different _ _

end StageEffect

structure Starts (plan : CoordinatorPlan) (stage : Stage) (act : Activation) : Prop where
  idle : (act.tasks stage.name).position = .idle
  opened : 0 < act.written
  may : mayStart plan act stage = true

def Blocked (plan : CoordinatorPlan) (stage : Stage) (act : Activation) : Prop :=
  match (act.tasks stage.name).position with
  | .idle => ¬(0 < act.written ∧ mayStart plan act stage = true)
  | .launching write | .pausing write | .closing write => ¬write ≤ act.written
  | .returned | .thrown => True
  | .launched | .sleeping => False

/-- The task a stage goes on with, and the status the run gets: the stage starts, or it wakes up. -/
inductive Loops (plan : CoordinatorPlan) (stage : Stage) (act : Activation) :
    StageTask → Option RunStatus → Prop
  | starts (start : Starts plan stage act)
      (incomplete : ¬(act.state.stages stage.name).any (·.status = .complete))
      (due : isSkipped stage act.state = false) :
      Loops plan stage act (taskOf (act.state.stages stage.name)) none
  | wakes (sleeping : (act.tasks stage.name).position = .sleeping) :
      Loops plan stage act (act.tasks stage.name) (some .running)

def StageTask.withGaps (task : StageTask) (classification : Classification) : StageTask :=
  { task with
    terminalWarnings := (task.terminalWarnings ++ classification.terminalWarnings).eraseDups
    terminalDetails := classification.terminalDetails.foldl setDetail task.terminalDetails }

def StageTask.storesAfter (task : StageTask) (classification : Classification) : Option (List String) :=
  if classification.retryStores = [] then task.pendingStores else some classification.retryStores

def runningRecord (task : StageTask) : StageState where
  status := .running
  attempts := task.attempts + 1
  pendingStores := task.pendingStores.getD []
  terminalWarnings := task.terminalWarnings
  terminalDetails := task.terminalDetails

/-- The record of a stage that is out of its budget. -/
def waitingRecord (task : StageTask) : StageState where
  status := .waiting
  attempts := task.attempts
  pendingStores := task.pendingStores.getD []
  lastExitCode := some partialExitCode

def completeRecord (task : StageTask) (classification : Classification) (exitCode : Int) : StageState where
  status := .complete
  attempts := task.attempts
  needsRecovery := classification.needsRecovery
  terminalWarnings := if classification.terminalPartial then task.terminalWarnings else []
  terminalDetails := if classification.terminalPartial then task.terminalDetails else []
  lastExitCode := some exitCode

def retryRecord (task : StageTask) (classification : Classification) (exitCode : Int) : StageState where
  status := if classification.deferred then .waitingResource else .retrying
  attempts := task.attempts
  pendingStores := (task.storesAfter classification).getD []
  terminalWarnings := task.terminalWarnings
  terminalDetails := task.terminalDetails
  lastExitCode := some exitCode

/-- What a step of a stage can do, and what is launched and received at it. -/
inductive StageMove (js : StageBuiltins) (plan : CoordinatorPlan) (stage : Stage) (env : StepEnv)
    (act : Activation) : StageEffect → Option Launch → Option StageResult → Prop
  | alreadyComplete (start : Starts plan stage act)
      (complete : (act.state.stages stage.name).any (·.status = .complete)) :
      StageMove js plan stage env act { task := fun _ => { position := .returned } } none none
  | skips (start : Starts plan stage act)
      (incomplete : ¬(act.state.stages stage.name).any (·.status = .complete))
      (skipped : isSkipped stage act.state = true) :
      StageMove js plan stage env act
        { task := fun write => { position := .closing write }
          entry := some { record := { status := .complete, attempts := 0 } } } none none
  | attempts {task : StageTask} {status : Option RunStatus} (loops : Loops plan stage act task status)
      (inBudget : env.inBudget = true) :
      StageMove js plan stage env act
        { task := fun write => { task with attempts := task.attempts + 1, position := .launching write }
          entry := some { record := runningRecord task, status } } none none
  | runsOut {task : StageTask} {status : Option RunStatus} (loops : Loops plan stage act task status)
      (late : env.inBudget = false) :
      StageMove js plan stage env act
        { task := fun write => { task with position := .closing write }
          entry := some { record := waitingRecord task, status := some .waitingPlatform } } none none
  | launches {write : Nat} {args : List String}
      (waits : (act.tasks stage.name).position = .launching write) (durable : write ≤ act.written)
      (called : stageArgsForStores stage (act.tasks stage.name).pendingStores
        (act.tasks stage.name).attempts = some args) :
      StageMove js plan stage env act
        { task := fun _ => { act.tasks stage.name with position := .launched } }
        (some ⟨stage.name, (act.tasks stage.name).attempts, (act.tasks stage.name).pendingStores, args⟩)
        none
  | misses {write : Nat} (waits : (act.tasks stage.name).position = .launching write)
      (called : stageArgsForStores stage (act.tasks stage.name).pendingStores
        (act.tasks stage.name).attempts = none) :
      StageMove js plan stage env act
        { task := fun _ => { act.tasks stage.name with position := .thrown } } none none
  | dies (launched : (act.tasks stage.name).position = .launched) (ended : env.result = none) :
      StageMove js plan stage env act
        { task := fun _ => { act.tasks stage.name with position := .thrown } } none none
  | misreads {result : StageResult} (launched : (act.tasks stage.name).position = .launched)
      (ended : env.result = some result)
      (classified : classifyStageResult js stage.name result = none) :
      StageMove js plan stage env act
        { task := fun _ => { act.tasks stage.name with position := .thrown } } none (some result)
  | completes {result : StageResult} {classification : Classification}
      (launched : (act.tasks stage.name).position = .launched) (ended : env.result = some result)
      (classified : classifyStageResult js stage.name result = some classification)
      (complete : classification.complete = true) :
      StageMove js plan stage env act
        { task := fun write =>
            { (act.tasks stage.name).withGaps classification with position := .closing write }
          entry := some {
            record := completeRecord ((act.tasks stage.name).withGaps classification) classification
              result.exitCode } } none (some result)
  | fails {result : StageResult} {classification : Classification}
      (launched : (act.tasks stage.name).position = .launched) (ended : env.result = some result)
      (classified : classifyStageResult js stage.name result = some classification)
      (incomplete : classification.complete = false) (fatal : classification.fatal = true) :
      StageMove js plan stage env act
        { task := fun write =>
            { (act.tasks stage.name).withGaps classification with position := .closing write }
          entry := some {
            record := {
              status := .failed
              attempts := (act.tasks stage.name).attempts
              lastExitCode := some result.exitCode }
            status := some .failed } } none (some result)
  | retries {result : StageResult} {classification : Classification}
      (launched : (act.tasks stage.name).position = .launched) (ended : env.result = some result)
      (classified : classifyStageResult js stage.name result = some classification)
      (incomplete : classification.complete = false) (mild : classification.fatal = false) :
      StageMove js plan stage env act
        { task := fun write =>
            { (act.tasks stage.name).withGaps classification with
              pendingStores := (act.tasks stage.name).storesAfter classification
              position := .pausing write }
          entry := some {
            record := retryRecord ((act.tasks stage.name).withGaps classification) classification
              result.exitCode
            status := some (if classification.deferred then .waitingResource else .waitingPlatform) } }
        none (some result)
  | pauses {write : Nat} (waits : (act.tasks stage.name).position = .pausing write)
      (durable : write ≤ act.written) :
      StageMove js plan stage env act
        { task := fun _ => { act.tasks stage.name with position := .sleeping } } none none
  | returns {write : Nat} (waits : (act.tasks stage.name).position = .closing write)
      (durable : write ≤ act.written) :
      StageMove js plan stage env act
        { task := fun _ => { act.tasks stage.name with position := .returned } } none none

/-! ## Inversion -/

variable {stage : Stage} {env : StepEnv} {s : CoordinatorState} {act : Activation}

def CoordinatorState.after (s : CoordinatorState) (stage : Stage) (act : Activation)
    (effect : StageEffect) (launch : Option Launch) (result : Option StageResult) : CoordinatorState :=
  { s with
    active := some (effect.apply stage.name act)
    launches := s.launches ++ launch.toList
    results := s.results ++ result.toList.map fun result => (stage.name, result) }

variable (js plan env) in
theorem nextAttempt_cases {task : StageTask} {status : Option RunStatus} (loops : Loops plan stage act task status) :
    ∃ effect, StageMove js plan stage env act effect none none ∧
      nextAttempt stage env.inBudget task (act.setStatus (status.getD act.state.status)) =
        effect.apply stage.name act := by
  cases budget : env.inBudget with
  | true => exact ⟨_, .attempts loops budget, rfl⟩
  | false => exact ⟨_, .runsOut loops budget, rfl⟩

variable (js env) in
theorem startStage_cases (start : Starts plan stage act) : ∃ effect, StageMove js plan stage env act effect none none ∧
      startStage stage env.inBudget act = effect.apply stage.name act := by
  unfold startStage
  dsimp only
  split_ifs with complete skipped
  · exact ⟨_, .alreadyComplete start complete, rfl⟩
  · exact ⟨_, .skips start complete skipped, rfl⟩
  · exact nextAttempt_cases js plan env (.starts start complete (Bool.eq_false_iff.mpr skipped))

variable (js plan) in
theorem receiveResult_cases {result : StageResult}
    (launched : (act.tasks stage.name).position = .launched) (ended : env.result = some result) :
    ∃ effect, StageMove js plan stage env act effect none (some result) ∧
      receiveResult js stage result (act.tasks stage.name) act = effect.apply stage.name act := by
  unfold receiveResult
  cases classified : classifyStageResult js stage.name result with
  | none => exact ⟨_, .misreads launched ended classified, rfl⟩
  | some classification =>
    cases complete : classification.complete with
    | true =>
      refine ⟨_, .completes launched ended classified complete, ?_⟩
      simp only [complete, if_true]
      rfl
    | false =>
      cases fatal : classification.fatal with
      | true =>
        refine ⟨_, .fails launched ended classified complete fatal, ?_⟩
        simp only [complete, fatal, if_true, Bool.false_eq_true, if_false]
        rfl
      | false =>
        refine ⟨_, .retries launched ended classified complete fatal, ?_⟩
        simp only [complete, fatal, Bool.false_eq_true, if_false]
        rfl

variable (js plan stage env s act) in
/-- **What a step of a stage does**: nothing where it is blocked, and one of the moves else. -/
theorem advanceStage_cases : (advanceStage js plan stage env s act = s ∧ Blocked plan stage act) ∨
    ∃ effect launch result, StageMove js plan stage env act effect launch result ∧
      advanceStage js plan stage env s act = s.after stage act effect launch result := by
  unfold advanceStage
  dsimp only
  cases at_ : (act.tasks stage.name).position with
  | idle =>
    dsimp only
    split_ifs with may
    · obtain ⟨effect, move, same⟩ :=
        startStage_cases js env (Starts.mk at_ may.1 may.2)
      exact .inr ⟨effect, none, none, move, by rw [same]; simp [CoordinatorState.after]⟩
    · exact .inl ⟨rfl, by simpa only [Blocked, at_] using may⟩
  | launching write =>
    dsimp only
    split_ifs with durable
    · cases called : stageArgsForStores stage (act.tasks stage.name).pendingStores
          (act.tasks stage.name).attempts with
      | none =>
        refine .inr ⟨_, none, none, .misses at_ called, ?_⟩
        simp only [CoordinatorState.after, Option.toList_none, List.map_nil, List.append_nil]
        rfl
      | some args =>
        refine .inr ⟨_, _, none, .launches at_ durable called, ?_⟩
        simp only [CoordinatorState.after, Option.toList_none, List.map_nil, List.append_nil,
          Option.toList_some]
        rfl
    · exact .inl ⟨rfl, by simpa only [Blocked, at_] using durable⟩
  | launched =>
    cases ended : env.result with
    | none =>
      refine .inr ⟨_, none, none, .dies at_ ended, ?_⟩
      simp only [CoordinatorState.after, Option.toList_none, List.map_nil, List.append_nil]
      rfl
    | some result =>
      obtain ⟨effect, move, same⟩ :=
        receiveResult_cases js plan at_ ended
      refine .inr ⟨effect, none, some result, move, ?_⟩
      dsimp only
      rw [same]
      simp [CoordinatorState.after]
  | pausing write =>
    dsimp only
    split_ifs with durable
    · refine .inr ⟨_, none, none, .pauses at_ durable, ?_⟩
      simp only [CoordinatorState.after, Option.toList_none, List.map_nil, List.append_nil]
      rfl
    · exact .inl ⟨rfl, by simpa only [Blocked, at_] using durable⟩
  | sleeping =>
    obtain ⟨effect, move, same⟩ :=
      nextAttempt_cases js plan env (Loops.wakes at_)
    refine .inr ⟨effect, none, none, move, ?_⟩
    simp only [CoordinatorState.after, Option.toList_none, List.map_nil, List.append_nil]
    rw [← same]
    rfl
  | closing write =>
    dsimp only
    split_ifs with durable
    · refine .inr ⟨_, none, none, .returns at_ durable, ?_⟩
      simp only [CoordinatorState.after, Option.toList_none, List.map_nil, List.append_nil]
      rfl
    · exact .inl ⟨rfl, by simpa only [Blocked, at_] using durable⟩
  | returned => exact .inl ⟨rfl, by simp only [Blocked, at_]⟩
  | thrown => exact .inl ⟨rfl, by simp only [Blocked, at_]⟩

theorem StageMove.ne_returned {effect : StageEffect} {launch : Option Launch}
    {result : Option StageResult} (move : StageMove js plan stage env act effect launch result) :
    (act.tasks stage.name).position ≠ .returned := by
  have start (starts : Starts plan stage act) : (act.tasks stage.name).position ≠ .returned := by
    simp [starts.idle]
  have loop {task : StageTask} {status : Option RunStatus} (loops : Loops plan stage act task status) :
      (act.tasks stage.name).position ≠ .returned := by
    cases loops with
    | starts starts => exact start starts
    | wakes sleeping => simp [sleeping]
  cases move with
  | alreadyComplete starts => exact start starts
  | skips starts => exact start starts
  | attempts loops => exact loop loops
  | runsOut loops => exact loop loops
  | launches waits => simp [waits]
  | misses waits => simp [waits]
  | dies launched => simp [launched]
  | misreads launched => simp [launched]
  | completes launched => simp [launched]
  | fails launched => simp [launched]
  | retries launched => simp [launched]
  | pauses waits => simp [waits]
  | returns waits => simp [waits]

end FullManagedBi.Coordinator
