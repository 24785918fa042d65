import FullManagedBi.Laws.CoordinatorSteps

/-!
# The status a coordinator run ends with

In a parallel plan the stages share the status of the run, and the last of them to write it wins. A stage
that fails writes `FAILED`; a stage that is retried, wakes up or is out of its budget writes another
status. So a failed run ends `FAILED` exactly when no such write comes after the last failure
(`finalStatus_iff`).
-/

namespace FullManagedBi.Coordinator

open Lib

variable (js : StageBuiltins) (plan : CoordinatorPlan)

/-- Whether a step of a stage writes the status of the run, and whether it writes `FAILED`. -/
def statusWrite (s : CoordinatorState) : ActivationMove → Option Bool
  | .advance stage env =>
    match s.active with
    | none => none
    | some act =>
      if stage ∈ plan.stages then
        match (act.tasks stage.name).position with
        | .idle =>
          if 0 < act.written ∧ mayStart plan act stage ∧ !env.inBudget ∧
              !(act.state.stages stage.name).any (·.status = .complete) ∧ !isSkipped stage act.state then
            some false
          else none
        | .launched =>
          (env.result.bind (classifyStageResult js stage.name)).bind fun classification =>
            if classification.complete then none else some classification.fatal
        | .sleeping => some false
        | _ => none
      else none
  | _ => none

/-- The writes of the status along the steps of an activation: a stage fails, or it does not. -/
def statusWrites (s : CoordinatorState) : List ActivationMove → List Bool
  | [] => []
  | move :: moves =>
    (statusWrite js plan s move).toList ++
      statusWrites (coordinatorStep js plan s (.within move)) moves

/-- Once a stage has failed, no stage is retried, wakes up or is out of its budget, unless a stage fails
after that. -/
def FailureLast (file : Option RunState) (moves : List ActivationMove) : Prop :=
  true ∈ statusWrites js plan (activate plan { file := file }) moves →
    (statusWrites js plan (activate plan { file := file }) moves).getLast? = some true

/-! ## What is written -/

variable {js plan} {s : CoordinatorState} {act : Activation} {stage : Stage} {env : StepEnv}
  {effect : StageEffect} {launch : Option Launch} {result : Option StageResult}

theorem statusWrite_blocked (active : s.active = some act) (blocked : Blocked plan stage act) :
    statusWrite js plan s (.advance stage env) = none := by
  unfold Blocked at blocked
  by_cases mem : stage ∈ plan.stages
  · cases at_ : (act.tasks stage.name).position with
    | idle =>
      simp only [at_, not_and] at blocked
      simp only [statusWrite, active, mem, at_, if_true, ite_eq_right_iff]
      rintro ⟨opened, may, -⟩
      exact absurd may (blocked opened)
    | launched => simp [at_] at blocked
    | sleeping => simp [at_] at blocked
    | _ => simp [statusWrite, active, mem, at_]
  · simp [statusWrite, active, mem]

theorem statusWrite_move (active : s.active = some act) (mem : stage ∈ plan.stages)
    (move : StageMove js plan stage env act effect launch result) : statusWrite js plan s (.advance stage env) =
      (effect.entry.bind (·.status)).map fun status => decide (status = .failed) := by
  simp only [statusWrite, active, mem, if_true]
  cases move with
  | alreadyComplete start complete => simp [start.idle, complete]
  | skips start incomplete skipped => simp [start.idle, skipped]
  | attempts loops inBudget =>
    cases loops with
    | starts start incomplete due => simp [start.idle, inBudget]
    | wakes sleeping => simp [sleeping]
  | runsOut loops late =>
    cases loops with
    | starts start incomplete due =>
      simp [start.idle, start.opened, start.may, late, due, Bool.eq_false_iff.mpr incomplete]
    | wakes sleeping => simp [sleeping]
  | launches waits => simp [waits]
  | misses waits => simp [waits]
  | dies launched ended => simp [launched, ended]
  | misreads launched ended classified => simp [launched, ended, classified]
  | completes launched ended classified complete => simp [launched, ended, classified, complete]
  | fails launched ended classified incomplete fatal =>
    simp [launched, ended, classified, incomplete, fatal]
  | @retries result classification launched ended classified incomplete mild =>
    cases classification.deferred <;> simp [launched, ended, classified, incomplete, mild]
  | pauses waits => simp [waits]
  | returns waits => simp [waits]

theorem status_ne_ready (move : StageMove js plan stage env act effect launch result)
    (before : act.state.status ≠ .readyToPublish) : effect.status act ≠ .readyToPublish := by
  unfold StageEffect.status
  cases move with
  | attempts loops => cases loops <;> simp [before]
  | retries =>
    simp only [Option.bind_some, Option.getD_some]
    split_ifs <;> simp
  | _ => simp [before]

/-! ## Failed stages -/

/-- A stage that has come to its end with a failure. -/
def HasFailed (act : Activation) (stage : Stage) : Prop :=
  ((act.tasks stage.name).position = .returned ∨
    ∃ write, (act.tasks stage.name).position = .closing write) ∧
  (act.state.stages stage.name).any (·.status = .failed)

theorem hasFailed_move (move : StageMove js plan stage env act effect launch result) :
    HasFailed (effect.apply stage.name act) stage ↔
      HasFailed act stage ∨ effect.entry.bind (·.status) = some .failed := by
  unfold HasFailed
  rw [StageEffect.apply_tasks, StageEffect.apply_stages, Function.update_self]
  unfold StageEffect.stages
  cases move with
  | alreadyComplete start complete =>
    cases found : act.state.stages stage.name with
    | none => simp [found, start.idle]
    | some record =>
      have complete : record.status = .complete := by simpa [found] using complete
      simp [found, start.idle, complete]
  | skips start => simp [start.idle]
  | attempts loops =>
    cases loops with
    | starts start => simp [start.idle]
    | wakes sleeping => simp [sleeping]
  | runsOut loops =>
    cases loops with
    | starts start => simp [start.idle, waitingRecord]
    | wakes sleeping => simp [sleeping, waitingRecord]
  | launches waits => simp [waits]
  | misses waits => simp [waits]
  | dies launched => simp [launched]
  | misreads launched => simp [launched]
  | completes launched => simp [launched, completeRecord]
  | fails launched => simp [launched]
  | retries launched => 
    simp only [launched]
    split_ifs <;> simp
  | pauses waits => simp [waits]
  | returns waits => simp [waits]

theorem hasFailed_other {other : Stage} (different : other.name ≠ stage.name) :
    HasFailed (effect.apply stage.name act) other ↔ HasFailed act other := by
  unfold HasFailed
  rw [StageEffect.apply_tasks, StageEffect.apply_stages, Function.update_of_ne different,
    effect.stages_ne _ _ different]

/-! ## Runs -/

/-- What the writes so far say about an activation. -/
structure Tells (plan : CoordinatorPlan) (writes : List Bool) (act : Activation) : Prop where
  status : act.state.status = .failed ↔ writes.getLast? = some true
  open_ : act.state.status ≠ .readyToPublish
  failed : true ∈ writes ↔ ∃ stage ∈ plan.stages, HasFailed act stage

/-- What the writes say about the state that is returned. -/
structure Settles (plan : CoordinatorPlan) (writes : List Bool) (state : RunState) : Prop where
  ready : state.status = .readyToPublish ↔ allComplete plan state = true
  status : state.status = .failed ↔ allComplete plan state = false ∧ writes.getLast? = some true
  failed : true ∈ writes ↔
    ∃ stage ∈ plan.stages, (state.stages stage.name).any (·.status = .failed) = true

/-- What the writes say about a run of one activation. -/
def RunTold (plan : CoordinatorPlan) (writes : List Bool) (s : CoordinatorState) : Prop :=
  match s.active with
  | some act => s.returned = none ∧
      if act.concluded then
        Settles plan writes act.state ∧
          ∀ stage ∈ plan.stages, (act.tasks stage.name).position = .returned
      else Tells plan writes act
  | none => ∀ state, s.returned = some state → Settles plan writes state

variable {writes : List Bool}

theorem tells_move (told : Tells plan writes act) (mem : stage ∈ plan.stages)
    (move : StageMove js plan stage env act effect launch result) :
    Tells plan (writes ++ ((effect.entry.bind (·.status)).map fun status =>
      decide (status = .failed)).toList) (effect.apply stage.name act) := by
  have failed : (∃ other ∈ plan.stages, HasFailed (effect.apply stage.name act) other) ↔
      (∃ other ∈ plan.stages, HasFailed act other) ∨ effect.entry.bind (·.status) = some .failed := by
    have here := hasFailed_move move
    constructor
    · rintro ⟨other, there, has⟩
      by_cases same : other.name = stage.name
      · obtain rfl := List.inj_on_of_nodup_map plan.names there mem same
        exact (here.mp has).imp_left fun has => ⟨other, there, has⟩
      · exact .inl ⟨other, there, (hasFailed_other same).mp has⟩
    · rintro (⟨other, there, has⟩ | now)
      · by_cases same : other.name = stage.name
        · obtain rfl := List.inj_on_of_nodup_map plan.names there mem same
          exact ⟨other, there, here.mpr (.inl has)⟩
        · exact ⟨other, there, (hasFailed_other same).mpr has⟩
      · exact ⟨stage, mem, here.mpr (.inr now)⟩
  constructor
  · rw [StageEffect.apply_status]
    unfold StageEffect.status
    cases effect.entry.bind (·.status) with
    | none => simpa using told.status
    | some status => simp
  · rw [StageEffect.apply_status]
    exact status_ne_ready move told.open_
  · rw [failed, ← told.failed, List.mem_append]
    cases effect.entry.bind (·.status) with
    | none => simp
    | some status => simp

theorem runTold_advance (active : s.active = some act) (follows : RunTold plan writes s) :
    RunTold plan (writes ++ (statusWrite js plan s (.advance stage env)).toList)
      (activationStep js plan s act (.advance stage env)) := by
  unfold activationStep
  dsimp only
  split_ifs with mem
  · rcases advanceStage_cases js plan stage env s act with ⟨same, blocked⟩ | ⟨effect, launch, result, move, same⟩
    · rw [same, statusWrite_blocked active blocked]
      simpa using follows
    · rw [same, statusWrite_move active mem move]
      unfold RunTold at follows ⊢
      rw [active] at follows
      obtain ⟨running, follows⟩ := follows
      refine ⟨running, ?_⟩
      rw [StageEffect.apply_concluded]
      cases concluded : act.concluded with
      | false =>
        simp only [concluded, Bool.false_eq_true, if_false] at follows ⊢
        exact tells_move follows mem move
      | true =>
        -- A stage that has returned takes no further step.
        simp only [concluded, if_true] at follows
        exact absurd (follows.2 stage mem) move.ne_returned
  · simp only [statusWrite, active, mem, if_false, Option.toList_none, List.append_nil]
    exact follows

/-- The final step patches a status that says that the run goes on. -/
theorem settles_conclude (told : Tells plan writes act)
    (returned : ∀ stage ∈ plan.stages, (act.tasks stage.name).position = .returned) :
    Settles plan writes ⟨finalStatus plan act.state, act.state.stages⟩ := by
  have same : allComplete plan ⟨finalStatus plan act.state, act.state.stages⟩ =
      allComplete plan act.state := rfl
  constructor
  · rw [same]
    dsimp only [finalStatus]
    cases complete : allComplete plan act.state with
    | true => simp
    | false =>
      have := told.open_
      split_ifs <;> simp_all
  · rw [same, ← told.status]
    dsimp only [finalStatus]
    cases complete : allComplete plan act.state with
    | true => simp
    | false =>
      by_cases running : act.state.status = .running
      · simp [running]
      · simp [running]
  · rw [told.failed]
    refine exists_congr fun stage => and_congr_right fun mem => ?_
    simp [HasFailed, returned stage mem]

theorem runTold_step (parallel : plan.parallel = true) (move : ActivationMove) (follows : RunTold plan writes s) :
    RunTold plan (writes ++ (statusWrite js plan s move).toList) (coordinatorStep js plan s (.within move)) := by
  unfold coordinatorStep
  cases active : s.active with
  | none =>
    have none_ : statusWrite js plan s move = none := by
      cases move <;> simp [statusWrite, active]
    simpa [none_] using follows
  | some act =>
    dsimp only
    cases move with
    | advance stage env => exact runTold_advance active follows
    | write =>
      have none_ : statusWrite js plan s .write = none := rfl
      rw [none_, Option.toList_none, List.append_nil]
      unfold activationStep
      cases snapshots : act.snapshots with
      | nil => exact follows
      | cons snapshot rest =>
        unfold RunTold at follows ⊢
        rw [active] at follows
        refine ⟨follows.1, ?_⟩
        cases concluded : act.concluded with
        | true => simpa [concluded] using follows.2
        | false =>
          simp only [concluded, Bool.false_eq_true, if_false] at follows ⊢
          exact ⟨follows.2.status, follows.2.open_, follows.2.failed⟩
    | conclude =>
      have none_ : statusWrite js plan s .conclude = none := rfl
      rw [none_, Option.toList_none, List.append_nil]
      unfold activationStep
      dsimp only
      split_ifs with ends
      · obtain ⟨ended, -, fresh⟩ := ends
        unfold RunTold at follows ⊢
        rw [active] at follows
        have fresh : act.concluded = false := by simpa using fresh
        simp only [fresh, Bool.false_eq_true, if_false] at follows
        have returned : ∀ stage ∈ plan.stages, (act.tasks stage.name).position = .returned := by
          simpa [stagesEnded, parallel] using ended
        exact ⟨follows.1, settles_conclude follows.2 returned, returned⟩
      · exact follows
    | finish =>
      have none_ : statusWrite js plan s .finish = none := rfl
      rw [none_, Option.toList_none, List.append_nil]
      unfold activationStep
      dsimp only
      split_ifs with ends
      · unfold RunTold at follows ⊢
        rw [active] at follows
        simp only [ends.1, if_true] at follows
        dsimp only
        intro state same
        obtain rfl := Option.some.inj same
        exact follows.2.1
      · exact follows

variable (js) in
theorem runTold_run (parallel : plan.parallel = true) (moves : List ActivationMove) (follows : RunTold plan writes s) :
    RunTold plan (writes ++ statusWrites js plan s moves) (run (coordinatorStep js plan) s (moves.map .within)) := by
  induction moves generalizing s writes with
  | nil => simpa [statusWrites] using follows
  | cons move moves ih =>
    rw [statusWrites, ← List.append_assoc, List.map_cons, run_cons]
    exact ih (runTold_step parallel move follows)

/-! ## The outcome -/

/-- Whether a stage has a record with the status. -/
def RunState.has (state : RunState) (stage : Stage) (status : StageStatus) : Prop :=
  (state.stages stage.name).any (·.status = status) = true

theorem RunState.has.ne_failed {state : RunState} {stage : Stage} (complete : state.has stage .complete) :
    ¬state.has stage .failed := by
  unfold RunState.has at complete ⊢
  cases found : state.stages stage.name with
  | none => simp
  | some record =>
    have complete : record.status = .complete := by simpa [found] using complete
    simp [complete]

theorem run_within_none (none_ : s.active = none) (moves : List ActivationMove) :
    run (coordinatorStep js plan) s (moves.map .within) = s := by
  induction moves with
  | nil => rfl
  | cons move moves ih =>
    have same : coordinatorStep js plan s (.within move) = s := by simp [coordinatorStep, none_]
    rw [List.map_cons, run_cons, same, ih]

variable (plan) in
theorem runTold_openActivation (file : Option RunState) :
    RunTold plan [] { file := file, active := some (openActivation file) } := by
  refine ⟨rfl, ?_⟩
  change Tells plan [] (openActivation file)
  constructor
  · simp [openActivation]
  · simp [openActivation]
  · simp [openActivation, HasFailed]

/-- **The status of a parallel run**: it is `READY_TO_PUBLISH` exactly when every stage is complete and
`FAILED` exactly when a stage has failed, if and only if the run was not published with all its stages,
and no other status is written after the last failure. -/
theorem finalStatus_iff (js : StageBuiltins) (plan : CoordinatorPlan) (parallel : plan.parallel = true)
    (file : Option RunState) (moves : List ActivationMove) (state : RunState)
    (returned : runCoordinator js plan file moves = some state) :
    ((state.status = .readyToPublish ↔ ∀ stage ∈ plan.stages, state.has stage .complete) ∧
        (state.status = .failed ↔ ∃ stage ∈ plan.stages, state.has stage .failed)) ↔
      publishedPlanComplete plan file = false ∧ FailureLast js plan file moves := by
  have all : allComplete plan state = true ↔ ∀ stage ∈ plan.stages, state.has stage .complete :=
    List.all_eq_true
  unfold runCoordinator at returned
  rw [run_cons] at returned
  have first : coordinatorStep js plan { file := file } .activate = activate plan { file := file } := rfl
  rw [first] at returned
  cases published : publishedPlanComplete plan file with
  | true =>
    have early : activate plan { file := file } = { file := file, returned := file } := by
      simp [activate, published]
    rw [early, run_within_none rfl] at returned
    obtain rfl : file = some state := returned
    obtain ⟨status, complete⟩ : state.status = .published ∧ allComplete plan state = true := by
      simpa [publishedPlanComplete] using published
    constructor
    · rintro ⟨ready, -⟩
      exact nomatch status.symm.trans (ready.mpr (all.mp complete))
    · rintro ⟨unpublished, -⟩
      exact nomatch unpublished
  | false =>
    have opened : activate plan { file := file } =
        { file := file, active := some (openActivation file) } := by
      simp [activate, published]
    have told := runTold_run js parallel moves (runTold_openActivation plan file)
    rw [List.nil_append] at told
    unfold FailureLast
    rw [opened] at returned ⊢
    obtain ⟨inactive, settled⟩ : (run (coordinatorStep js plan)
        { file := file, active := some (openActivation file) } (moves.map .within)).active = none ∧
        Settles plan (statusWrites js plan
          { file := file, active := some (openActivation file) } moves) state := by
      unfold RunTold at told
      cases active : (run (coordinatorStep js plan)
          { file := file, active := some (openActivation file) } (moves.map .within)).active with
      | none =>
        rw [active] at told
        exact ⟨rfl, told state returned⟩
      | some act =>
        rw [active] at told
        exact nomatch told.1.symm.trans returned
    have ready := settled.ready
    have failed : true ∈ statusWrites js plan { file := file, active := some (openActivation file) } moves ↔
        ∃ stage ∈ plan.stages, state.has stage .failed := settled.failed
    rw [settled.status, ← failed, ready, all]
    constructor
    · rintro ⟨-, last⟩
      exact ⟨rfl, fun some_ => (last.mpr some_).2⟩
    · rintro ⟨-, last⟩
      refine ⟨Iff.rfl, fun ends => List.mem_of_getLast? ends.2, fun some_ => ⟨?_, last some_⟩⟩
      obtain ⟨stage, mem, has⟩ := failed.mp some_
      rw [Bool.eq_false_iff]
      intro complete
      exact (all.mp complete stage mem).ne_failed has

/-! ## A failure that is lost -/

def hourlyPlan : CoordinatorPlan :=
  buildCoordinatorPlan .realtime ⟨"2026-08-07", "20", "2026-08-06", "2026-08-05", "2026-07-30"⟩

/-- `home-realtime` sleeps while `sales-realtime` fails, and then completes. -/
def lostFailure : List ActivationMove :=
  let home := hourlyPlan.stages.head (by decide)
  let sales := hourlyPlan.stages.getLast (by decide)
  let ends (stage : Stage) (exitCode : Int) : ActivationMove :=
    .advance stage { result := some ⟨exitCode, .null⟩ }
  let goes (stage : Stage) : ActivationMove := .advance stage {}
  [.write, goes home, goes sales, .write, .write, goes home, goes sales, ends home 75, .write, goes home,
    ends sales 1, .write, goes sales, goes home, .write, goes home, ends home 0, .write, goes home,
    .conclude, .write, .finish]

/-- A stage has failed, and the run ends `WAITING_PLATFORM`. -/
theorem failure_lost : (runCoordinator .ascii hourlyPlan none lostFailure).map (fun state =>
      (state.status, hourlyPlan.stages.map fun stage => (state.stages stage.name).map (·.status))) =
      some (.waitingPlatform, [some .complete, some .failed]) := by
  decide +kernel

def keptFailure : List ActivationMove :=
  let home := hourlyPlan.stages.head (by decide)
  let sales := hourlyPlan.stages.getLast (by decide)
  let ends (stage : Stage) (exitCode : Int) : ActivationMove :=
    .advance stage { result := some ⟨exitCode, .null⟩ }
  let goes (stage : Stage) : ActivationMove := .advance stage {}
  [.write, goes home, goes sales, .write, .write, goes home, goes sales, ends home 0, ends sales 1, .write,
    .write, goes home, goes sales, .conclude, .write, .finish]

/-- Where no stage goes on after the failure, the run ends with the right status. -/
theorem finalStatus_iff_kept :
    let state := (runCoordinator .ascii hourlyPlan none keptFailure).get (by decide +kernel)
    (state.status = .readyToPublish ↔ ∀ stage ∈ hourlyPlan.stages, state.has stage .complete) ∧
      (state.status = .failed ↔ ∃ stage ∈ hourlyPlan.stages, state.has stage .failed) := by
  refine (finalStatus_iff .ascii hourlyPlan rfl none keptFailure _ (Option.some_get _).symm).mpr
    ⟨rfl, ?_⟩
  unfold FailureLast
  decide +kernel

end FullManagedBi.Coordinator
