import FullManagedBi.Laws.CoordinatorAttempts
import FullManagedBi.Laws.CoordinatorOutstanding

/-!
# The stores of a coordinator run

The records of a stage never lose sight of an outstanding store (`Kept`): a record that is not complete asks
for it in the next attempt, and a complete one has it among its terminal details. What an attempt reports
is in no record while it runs, so its stores have to be those it was launched for: these are in the file.
-/

namespace FullManagedBi.Coordinator

open Lib

variable {js : StageBuiltins} {attempts : List Attempt} {name store : String}

/-! ## What a run keeps -/

/-- A run with the attempts that ended in it. -/
structure TrackedRun where
  state : CoordinatorState := {}
  attempts : List Attempt := []

def attemptAt (plan : CoordinatorPlan) (s : CoordinatorState) : Move → Option Attempt
  | .within (.advance stage env) =>
    s.active.bind fun act =>
      if stage ∈ plan.stages ∧ (act.tasks stage.name).position = .launched then
        env.result.map (⟨stage.name, (act.tasks stage.name).pendingStores, ·⟩)
      else none
  | _ => none

def trackedStep (js : StageBuiltins) (plan : CoordinatorPlan) (t : TrackedRun) (move : Move) :
    TrackedRun where
  state := coordinatorStep js plan t.state move
  attempts := t.attempts ++ (attemptAt plan t.state move).toList

/-- A complete record accounts for a store: the store is among its terminal details, or the stage is a
renewal that asks for a recovery. -/
def Accounts (name : String) (record : StageState) (store : String) : Prop :=
  HasStore record.terminalDetails store ∨ isRenewal name = true ∧ record.needsRecovery = true

/-- A stage is known to be due where it was attempted. -/
def Due (stage : Stage) (state : RunState) : Prop := isSkipped stage state = false

structure RecordKeeps (js : StageBuiltins) (attempts : List Attempt) (name : String)
    (record : StageState) : Prop where
  accounts : record.status = .complete → ∀ store, Outstanding js attempts name store →
    Accounts name record store
  noGaps : record.status ≠ .complete → record.terminalDetails = []
  asks : record.status ≠ .complete → record.pendingStores ≠ [] →
    ∀ store, Outstanding js attempts name store → store ∈ record.pendingStores

/-- What a state keeps of the stores of a stage. -/
structure Kept (js : StageBuiltins) (attempts : List Attempt) (stage : Stage) (state : RunState) : Prop where
  record : ∀ record, state.stages stage.name = some record → RecordKeeps js attempts stage.name record
  due : (∃ attempt ∈ attempts, attempt.stageName = stage.name) → Due stage state

structure TaskKeeps (js : StageBuiltins) (attempts : List Attempt) (name : String) (task : StageTask) :
    Prop where
  covers : ∀ store, Outstanding js attempts name store → ∀ stores ∈ task.pendingStores, store ∈ stores
  noGaps : task.terminalDetails = []

/-- The state has the record of an attempt that was launched for these stores. -/
structure RunsFor (stage : Stage) (stores : Option (List String)) (state : RunState) : Prop where
  record : ∃ record, state.stages stage.name = some record ∧ record.status ≠ .complete ∧
    record.pendingStores = stores.getD []
  due : Due stage state

/-- The states whose records an activation may go on with: that of the file, those that are still to be
written, and the memory. -/
def recordStates (s : CoordinatorState) (act : Activation) : List RunState :=
  (openActivation s.file).state :: act.snapshots ++ [act.state]

/-- What is kept of a stage where its task stands. -/
def Holds (js : StageBuiltins) (attempts : List Attempt) (s : CoordinatorState) (act : Activation)
    (stage : Stage) : Prop :=
  let task := act.tasks stage.name
  match task.position with
  | .launching write =>
    TaskKeeps js attempts stage.name task ∧ RunsFor stage task.pendingStores act.state ∧
      Durable s act write (RunsFor stage task.pendingStores)
  | .launched =>
    TaskKeeps js attempts stage.name task ∧ ∀ state ∈ recordStates s act, RunsFor stage task.pendingStores state
  | .pausing _ | .sleeping => TaskKeeps js attempts stage.name task ∧ Due stage act.state
  | _ => True

def storedStates (s : CoordinatorState) : List RunState :=
  match s.active with
  | none => [(openActivation s.file).state]
  | some act => recordStates s act

def RecoveriesComplete (state : RunState) : Prop :=
  ∀ name record, state.stages name = some record → record.needsRecovery = true → record.status = .complete

structure StoresKept (js : StageBuiltins) (plan : CoordinatorPlan) (t : TrackedRun) : Prop where
  sound : RunSound plan t.state
  recoveries : ∀ state ∈ storedStates t.state, RecoveriesComplete state
  kept : ∀ state ∈ storedStates t.state, ∀ stage ∈ plan.stages, Kept js t.attempts stage state
  holds : ∀ act, t.state.active = some act → ∀ stage ∈ plan.stages, Holds js t.attempts t.state act stage

/-! ## A step of a stage -/

variable {plan : CoordinatorPlan} {s : CoordinatorState} {act : Activation} {stage : Stage} {env : StepEnv}
  {effect : StageEffect} {launch : Option Launch} {result : Option StageResult} {state next : RunState}

theorem Due.follows (due : Due stage state) (recoveries : RecoveriesComplete state)
    (follows : Precedes state next) : Due stage next := by
  unfold Due isSkipped at due ⊢
  cases dependency : stage.onlyAfterPartial with
  | none => rfl
  | some name =>
    rw [dependency, Option.any_some, Bool.not_eq_false'] at due
    rw [Option.any_some, Bool.not_eq_false']
    cases found : state.stages name with
    | none => simp [found] at due
    | some record =>
      rw [found, Option.any_some] at due
      rw [follows.final name record found (recoveries name record found due), Option.any_some]
      exact due

theorem Kept.congr (kept : Kept js attempts stage state) (same : next.stages = state.stages) :
    Kept js attempts stage next := by
  constructor
  · rw [same]
    exact kept.record
  · unfold Due isSkipped
    rw [same]
    exact kept.due

theorem RunsFor.congr {stores : Option (List String)} (runs : RunsFor stage stores state)
    (same : next.stages = state.stages) : RunsFor stage stores next := by
  constructor
  · rw [same]
    exact runs.record
  · unfold Due isSkipped
    rw [same]
    exact runs.due

theorem loops_keeps {task : StageTask} {status : Option RunStatus} (kept : Kept js attempts stage act.state)
    (holds : Holds js attempts s act stage) (loops : Loops plan stage act task status) :
    TaskKeeps js attempts stage.name task ∧ Due stage act.state := by
  cases loops with
  | starts start incomplete due =>
    refine ⟨?_, due⟩
    cases found : act.state.stages stage.name with
    | none => exact ⟨nofun, rfl⟩
    | some record =>
      have open_ : record.status ≠ .complete := by simpa [found] using incomplete
      have keeps := kept.record record found
      constructor
      · intro store outstanding stores mem
        simp only [taskOf] at mem
        split_ifs at mem with none_
        · exact absurd mem (by simp)
        · obtain rfl := Option.some.inj mem
          exact keeps.asks open_ none_ store outstanding
      · simp [taskOf, keeps.noGaps open_]
  | wakes sleeping =>
    simp only [Holds, sleeping] at holds
    exact holds

theorem recordKeeps_of_task {task : StageTask} {record : StageState}
    (keeps : TaskKeeps js attempts name task) (open_ : record.status ≠ .complete)
    (gaps : record.terminalDetails = [] ∨ record.terminalDetails = task.terminalDetails)
    (stores : record.pendingStores = [] ∨ record.pendingStores = task.pendingStores.getD []) :
    RecordKeeps js attempts name record := by
  refine ⟨fun complete => absurd complete open_, fun _ => ?_, fun _ some_ store outstanding => ?_⟩
  · exact gaps.elim id fun same => same.trans keeps.noGaps
  · have same := stores.resolve_left some_
    cases pending : task.pendingStores with
    | none => exact absurd (by rw [same, pending]; rfl) some_
    | some list =>
      rw [same, pending]
      exact keeps.covers store outstanding list pending

section Ended

variable {task : StageTask} {ended : StageResult} {classification : Classification}
  (accountable : Attempt.Accountable js attempts ⟨name, task.pendingStores, ended⟩)
  (keeps : TaskKeeps js attempts name task)
  (classified : classifyStageResult js name ended = some classification)
  (read : ClassifiedAs js name ended classification)
include accountable keeps classified read

/-- **A complete stage accounts for its stores.** -/
theorem accounts_of_complete (complete : classification.complete = true)
    (outstanding : Outstanding js (attempts ++ [⟨name, task.pendingStores, ended⟩]) name store) :
    Accounts name (completeRecord (task.withGaps classification) classification ended.exitCode) store := by
  cases read with
  | succeeds exit same => exact absurd outstanding (not_outstanding_of_success accountable keeps.covers exit)
  | defers same =>
    subst same
    exact nomatch complete
  | waits exit same =>
    subst same
    exact nomatch complete
  | fails same =>
    subst same
    exact nomatch complete
  | recovers exit renewal same => exact .inr ⟨renewal, by rw [same]; rfl⟩
  | reports exit data shape =>
    have fails := fails_of_outstanding accountable keeps.covers exit data outstanding
    have kept := classified_keeps data exit classified (accountable.recognized exit) fails
    cases shape with
    | fails => exact nomatch complete
    | closes warnings details rows =>
      rcases kept with fatal | retried | ⟨-, -, has⟩
      · exact nomatch fatal
      · exact absurd retried List.not_mem_nil
      · refine .inl ?_
        change HasStore (details.foldl setDetail task.terminalDetails) store
        rw [keeps.noGaps]
        exact hasStore_foldl (fun _ mem => absurd mem List.not_mem_nil)
          (fun detail mem => (rows detail mem).plain) (.inr has)
    | retries stores =>
      have none_ : stores = [] := of_decide_eq_true complete
      rcases kept with fatal | retried | ⟨-, -, detail, mem, -⟩
      · exact nomatch fatal
      · exact absurd (none_ ▸ retried : store ∈ ([] : List String)) List.not_mem_nil
      · exact absurd mem List.not_mem_nil

/-- A stage that is retried goes on with the stores that are outstanding. -/
theorem taskKeeps_retry (incomplete : classification.complete = false) (mild : classification.fatal = false) :
    TaskKeeps js (attempts ++ [⟨name, task.pendingStores, ended⟩]) name
      { task.withGaps classification with pendingStores := task.storesAfter classification } := by
  have asked {store : String}
      (outstanding : Outstanding js (attempts ++ [⟨name, task.pendingStores, ended⟩]) name store) :
      ∀ stores ∈ task.pendingStores, store ∈ stores :=
    asked_of_outstanding accountable keeps.covers outstanding
  cases read with
  | succeeds exit same =>
    subst same
    exact nomatch incomplete
  | recovers exit renewal same =>
    subst same
    exact nomatch incomplete
  | fails same =>
    subst same
    exact nomatch mild
  | defers same =>
    subst same
    exact ⟨fun store outstanding => asked outstanding, keeps.noGaps⟩
  | waits exit same =>
    subst same
    exact ⟨fun store outstanding => asked outstanding, keeps.noGaps⟩
  | reports exit data shape =>
    cases shape with
    | fails => exact nomatch mild
    | closes warnings details rows => exact nomatch incomplete
    | retries stores =>
      have some_ : stores ≠ [] := of_decide_eq_false incomplete
      refine ⟨fun store outstanding list mem => ?_, keeps.noGaps⟩
      have fails := fails_of_outstanding accountable keeps.covers exit data outstanding
      have kept := classified_keeps data exit classified (accountable.recognized exit) fails
      obtain rfl : stores = list := by simpa [StageTask.storesAfter, retryResult, some_] using mem
      rcases kept with fatal | retried | ⟨none_, -, -⟩
      · exact nomatch fatal
      · exact retried
      · exact absurd none_ some_

end Ended

/-- The attempt that ends at a step of a stage. -/
def endedAttempt (act : Activation) (stage : Stage) (result : Option StageResult) : List Attempt :=
  result.toList.map (⟨stage.name, (act.tasks stage.name).pendingStores, ·⟩)

/-- A state with the record of the running attempt keeps what the attempt reports. -/
theorem kept_received {ended : StageResult}
    (accountable : Attempt.Accountable js attempts ⟨stage.name, (act.tasks stage.name).pendingStores, ended⟩)
    (keeps : TaskKeeps js attempts stage.name (act.tasks stage.name))
    (runs : RunsFor stage (act.tasks stage.name).pendingStores state) (kept : Kept js attempts stage state) :
    Kept js (attempts ++ [⟨stage.name, (act.tasks stage.name).pendingStores, ended⟩]) stage state := by
  refine ⟨fun record found => ?_, fun _ => runs.due⟩
  obtain ⟨running, there, open_, stores⟩ := runs.record
  obtain rfl := Option.mem_unique there found
  have task : TaskKeeps js (attempts ++ [⟨stage.name, (act.tasks stage.name).pendingStores, ended⟩])
      stage.name (act.tasks stage.name) :=
    ⟨fun store outstanding => asked_of_outstanding accountable keeps.covers outstanding, keeps.noGaps⟩
  exact recordKeeps_of_task task open_ (.inl ((kept.record running found).noGaps open_)) (.inr stores)

structure StepKeeps (js : StageBuiltins) (plan : CoordinatorPlan) (attempts : List Attempt)
    (s : CoordinatorState) (act : Activation) (stage : Stage) (result : Option StageResult) : Prop where
  planned : isPlanned stage.name = true
  accountable : ∀ ended ∈ result,
    Attempt.Accountable js attempts ⟨stage.name, (act.tasks stage.name).pendingStores, ended⟩
  kept : ∀ state ∈ recordStates s act, Kept js attempts stage state
  holds : Holds js attempts s act stage

theorem memory_mem_recordStates : act.state ∈ recordStates s act := by
  simp [recordStates]

/-- The states of an activation keep the stage of a step after the attempt that ends at it. -/
theorem StepKeeps.kept_after (keeps : StepKeeps js plan attempts s act stage result)
    (move : StageMove js plan stage env act effect launch result) (mem : state ∈ recordStates s act) :
    Kept js (attempts ++ endedAttempt act stage result) stage state := by
  have kept := keeps.kept state mem
  have received {ended : StageResult} (launched : (act.tasks stage.name).position = .launched)
      (here : result = some ended) :
      Kept js (attempts ++ endedAttempt act stage result) stage state := by
    have holds := keeps.holds
    simp only [Holds, launched] at holds
    rw [here]
    exact kept_received (keeps.accountable ended here) holds.1 (holds.2 state mem) kept
  cases move with
  | misreads launched => exact received launched rfl
  | completes launched => exact received launched rfl
  | fails launched => exact received launched rfl
  | retries launched => exact received launched rfl
  | _ => simpa [endedAttempt] using kept

theorem StepKeeps.entry (keeps : StepKeeps js plan attempts s act stage result)
    (move : StageMove js plan stage env act effect launch result) {entry : Entry}
    (writes : effect.entry = some entry) :
    RecordKeeps js (attempts ++ endedAttempt act stage result) stage.name entry.record ∧
      (entry.record.needsRecovery = true → entry.record.status = .complete) := by
  have kept := keeps.kept act.state memory_mem_recordStates
  cases move with
  | skips start incomplete skipped =>
    obtain rfl := Option.some.inj writes
    refine ⟨⟨fun _ store outstanding => ?_, nofun, nofun⟩, nofun⟩
    rw [endedAttempt, Option.toList_none, List.map_nil, List.append_nil] at outstanding
    exact nomatch skipped.symm.trans (kept.due outstanding.attempted)
  | attempts loops =>
    obtain rfl := Option.some.inj writes
    rw [endedAttempt, Option.toList_none, List.map_nil, List.append_nil]
    exact ⟨recordKeeps_of_task (loops_keeps kept keeps.holds loops).1 nofun (.inr rfl) (.inr rfl), nofun⟩
  | runsOut loops =>
    obtain rfl := Option.some.inj writes
    rw [endedAttempt, Option.toList_none, List.map_nil, List.append_nil]
    exact ⟨recordKeeps_of_task (loops_keeps kept keeps.holds loops).1 nofun (.inl rfl) (.inr rfl), nofun⟩
  | @completes ended classification launched _ classified complete =>
    obtain rfl := Option.some.inj writes
    have holds := keeps.holds
    simp only [Holds, launched] at holds
    refine ⟨⟨fun _ store outstanding => ?_, fun open_ => absurd rfl open_, fun open_ => absurd rfl open_⟩,
      fun _ => rfl⟩
    exact accounts_of_complete (keeps.accountable ended rfl) holds.1 classified
      (classifiedAs keeps.planned classified) complete outstanding
  | fails launched =>
    obtain rfl := Option.some.inj writes
    exact ⟨⟨nofun, fun _ => rfl, fun _ some_ => absurd rfl some_⟩, nofun⟩
  | @retries ended classification launched _ classified incomplete mild =>
    obtain rfl := Option.some.inj writes
    have holds := keeps.holds
    simp only [Holds, launched] at holds
    have retried := taskKeeps_retry (keeps.accountable ended rfl) holds.1 classified
      (classifiedAs keeps.planned classified) incomplete mild
    refine ⟨recordKeeps_of_task retried ?_ (.inr rfl) (.inr rfl), nofun⟩
    unfold retryRecord
    dsimp only
    split_ifs <;> simp
  | _ => exact nomatch writes

/-- A state after a step of a stage has the records of a state before it, or those that the step writes. -/
theorem recordStates_after (mem : state ∈ recordStates (s.after stage act effect launch result)
    (effect.apply stage.name act)) : (∃ old ∈ recordStates s act, state.stages = old.stages) ∨
      ∃ entry, effect.entry = some entry ∧
        state.stages = Function.update act.state.stages stage.name (some entry.record) := by
  unfold recordStates at mem
  rw [StageEffect.apply_eq] at mem
  have new (same : state.stages = effect.stages stage.name act) :
      (∃ old ∈ recordStates s act, state.stages = old.stages) ∨
        ∃ entry, effect.entry = some entry ∧
          state.stages = Function.update act.state.stages stage.name (some entry.record) := by
    unfold StageEffect.stages at same
    cases writes : effect.entry with
    | none => exact .inl ⟨act.state, memory_mem_recordStates, by rw [same, writes]⟩
    | some entry => exact .inr ⟨entry, rfl, by rw [same, writes]⟩
  dsimp only [CoordinatorState.after] at mem
  rcases mem_concat.mp mem with stored | memory
  · rcases List.mem_cons.mp stored with file | snapshot
    · exact .inl ⟨state, by rw [file]; exact List.mem_cons_self, rfl⟩
    · rcases List.mem_append.mp snapshot with old | written
      · exact .inl ⟨state, List.mem_cons_of_mem _ (List.mem_append_left _ old), rfl⟩
      · split_ifs at written
        · exact new (by rw [List.mem_singleton.mp written])
        · exact absurd written List.not_mem_nil
  · exact new (by rw [memory])

theorem recoveriesComplete_congr (recoveries : RecoveriesComplete state) (same : next.stages = state.stages) :
    RecoveriesComplete next := by
  unfold RecoveriesComplete
  rw [same]
  exact recoveries

theorem outstanding_endedAttempt {other : Stage} (different : other.name ≠ stage.name) :
    Outstanding js (attempts ++ endedAttempt act stage result) other.name store ↔
      Outstanding js attempts other.name store := by
  cases result with
  | none => simp [endedAttempt]
  | some ended => exact outstanding_concat_other different.symm

theorem kept_other {other : Stage} (different : other.name ≠ stage.name) (kept : Kept js attempts other state) :
    Kept js (attempts ++ endedAttempt act stage result) other state := by
  refine ⟨fun record found => ?_, ?_⟩
  · obtain ⟨accounts, noGaps, asks⟩ := kept.record record found
    refine ⟨fun complete store outstanding => ?_, noGaps, fun open_ some_ store outstanding => ?_⟩
    · exact accounts complete store ((outstanding_endedAttempt different).mp outstanding)
    · exact asks open_ some_ store ((outstanding_endedAttempt different).mp outstanding)
  · rintro ⟨attempt, mem, named⟩
    rcases List.mem_append.mp mem with old | new
    · exact kept.due ⟨attempt, old, named⟩
    · obtain ⟨ended, -, rfl⟩ := List.mem_map.mp new
      exact absurd named.symm different

theorem TaskKeeps.other {other : Stage} {task : StageTask} (different : other.name ≠ stage.name)
    (keeps : TaskKeeps js attempts other.name task) :
    TaskKeeps js (attempts ++ endedAttempt act stage result) other.name task :=
  ⟨fun store outstanding => keeps.covers store ((outstanding_endedAttempt different).mp outstanding),
    keeps.noGaps⟩

theorem holds_other {other : Stage} (different : other.name ≠ stage.name)
    (follows : Precedes act.state (effect.apply stage.name act).state)
    (recoveries : RecoveriesComplete act.state) (holds : Holds js attempts s act other) :
    Holds js (attempts ++ endedAttempt act stage result) (s.after stage act effect launch result)
      (effect.apply stage.name act) other := by
  have tasks : (effect.apply stage.name act).tasks other.name = act.tasks other.name := by
    rw [StageEffect.apply_tasks, Function.update_of_ne different]
  have record : (effect.apply stage.name act).state.stages other.name = act.state.stages other.name := by
    rw [StageEffect.apply_stages, effect.stages_ne _ _ different]
  have memory {stores : Option (List String)} (runs : RunsFor other stores act.state) :
      RunsFor other stores (effect.apply stage.name act).state :=
    ⟨by rw [record]; exact runs.record, runs.due.follows recoveries follows⟩
  unfold Holds at holds ⊢
  rw [tasks]
  dsimp only at holds ⊢
  cases at_ : (act.tasks other.name).position with
  | launching write =>
    simp only [at_] at holds ⊢
    obtain ⟨keeps, runs, durable⟩ := holds
    refine ⟨keeps.other different, memory runs, ?_⟩
    refine durable.append rfl (by simp) (by rw [StageEffect.apply_eq]) ?_
    intro state mem
    split_ifs at mem
    · rw [List.mem_singleton.mp mem]
      exact (memory runs).congr (by simp)
    · exact absurd mem List.not_mem_nil
  | launched =>
    simp only [at_] at holds ⊢
    obtain ⟨keeps, runs⟩ := holds
    refine ⟨keeps.other different, fun state mem => ?_⟩
    rcases recordStates_after mem with ⟨old, there, same⟩ | ⟨entry, writes, same⟩
    · exact (runs old there).congr same
    · refine (memory (runs act.state memory_mem_recordStates)).congr ?_
      rw [same, StageEffect.apply_stages, StageEffect.stages, writes]
  | pausing write =>
    simp only [at_] at holds ⊢
    exact ⟨holds.1.other different, holds.2.follows recoveries follows⟩
  | sleeping =>
    simp only [at_] at holds ⊢
    exact ⟨holds.1.other different, holds.2.follows recoveries follows⟩
  | _ => trivial

theorem StepKeeps.holds_after (keeps : StepKeeps js plan attempts s act stage result)
    (follows : Precedes act.state (effect.apply stage.name act).state) (recoveries : RecoveriesComplete act.state)
    (move : StageMove js plan stage env act effect launch result) :
    Holds js (attempts ++ endedAttempt act stage result) (s.after stage act effect launch result)
      (effect.apply stage.name act) stage := by
  have holds := keeps.holds
  have runsOf {entry : Entry} {stores : Option (List String)} (writes : effect.entry = some entry)
      (open_ : entry.record.status ≠ .complete) (asks : entry.record.pendingStores = stores.getD [])
      (due : Due stage act.state) : RunsFor stage stores (effect.apply stage.name act).state := by
    refine ⟨⟨entry.record, ?_, open_, asks⟩, due.follows recoveries follows⟩
    rw [StageEffect.apply_stages, StageEffect.stages, writes]
    exact Function.update_self ..
  unfold Holds
  rw [StageEffect.apply_tasks, Function.update_self]
  cases move with
  | @attempts task status loops inBudget =>
    obtain ⟨kept, due⟩ := loops_keeps (keeps.kept act.state memory_mem_recordStates) holds loops
    have runs : RunsFor stage task.pendingStores _ := runsOf rfl (fun complete => by cases complete) rfl due
    refine ⟨?_, runs, ?_, ?_⟩
    · rw [endedAttempt, Option.toList_none, List.map_nil, List.append_nil]
      exact ⟨kept.covers, kept.noGaps⟩
    · -- The write is still to come.
      intro written
      simp [StageEffect.write, Activation.issued] at written
    · rw [StageEffect.apply_eq]
      simp only [StageEffect.write, Activation.issued, Option.isSome_some, if_true]
      have past : act.written + act.snapshots.length + 1 - act.written - 1 = act.snapshots.length := by
        omega
      rw [past, List.drop_left]
      intro state mem
      rw [List.mem_singleton.mp mem]
      exact runs.congr rfl
  | launches waits durable =>
    simp only [Holds, waits] at holds
    obtain ⟨kept, memory, ⟨file, snapshots⟩⟩ := holds
    refine ⟨by simpa [endedAttempt] using ⟨kept.covers, kept.noGaps⟩, fun state mem => ?_⟩
    obtain ⟨old, there, equal⟩ := (recordStates_after mem).resolve_right (by rintro ⟨_, none, -⟩; cases none)
    refine RunsFor.congr ?_ equal
    obtain ⟨written, found, runs⟩ := file durable
    have none_ : ∀ write : Nat, write ≤ act.written → write - act.written - 1 = 0 := by omega
    rw [none_ _ durable, List.drop_zero] at snapshots
    rcases List.mem_cons.mp there with rfl | there
    · exact runs.congr (by rw [found]; rfl)
    · rcases mem_concat.mp there with snapshot | memoryState
      · exact snapshots old snapshot
      · exact memoryState ▸ memory
  | @retries ended classification launched _ classified incomplete mild =>
    simp only [Holds, launched] at holds
    have retried := taskKeeps_retry (keeps.accountable ended rfl) holds.1 classified
      (classifiedAs keeps.planned classified) incomplete mild
    refine ⟨⟨retried.covers, retried.noGaps⟩, ?_⟩
    exact (holds.2 act.state memory_mem_recordStates).due.follows recoveries follows
  | pauses waits =>
    simp only [Holds, waits] at holds
    refine ⟨by simpa [endedAttempt] using ⟨holds.1.covers, holds.1.noGaps⟩, ?_⟩
    exact holds.2.follows recoveries follows
  | _ => trivial

/-! ## Runs -/

/-- What a stage holds depends on the file, the memory and what is to be written. -/
theorem Holds.congr {s' : CoordinatorState} {act' : Activation} (holds : Holds js attempts s act stage)
    (tasks : act'.tasks = act.tasks) (stages : act'.state.stages = act.state.stages)
    (old : ∀ state ∈ recordStates s' act', ∃ other ∈ recordStates s act, state.stages = other.stages)
    (durable : ∀ write P, (∀ state, state.stages = act.state.stages → P state) →
      Durable s act write P → Durable s' act' write P) : Holds js attempts s' act' stage := by
  unfold Holds at holds ⊢
  rw [tasks]
  dsimp only at holds ⊢
  have due (kept : Due stage act.state) : Due stage act'.state := by
    unfold Due isSkipped at kept ⊢
    rwa [stages]
  cases at_ : (act.tasks stage.name).position with
  | launching write =>
    simp only [at_] at holds ⊢
    obtain ⟨keeps, runs, kept⟩ := holds
    exact ⟨keeps, runs.congr stages, durable write _ (fun state same => runs.congr same) kept⟩
  | launched =>
    simp only [at_] at holds ⊢
    refine ⟨holds.1, fun state mem => ?_⟩
    obtain ⟨other, there, same⟩ := old state mem
    exact (holds.2 other there).congr same
  | pausing write =>
    simp only [at_] at holds ⊢
    exact ⟨holds.1, due holds.2⟩
  | sleeping =>
    simp only [at_] at holds ⊢
    exact ⟨holds.1, due holds.2⟩
  | _ => trivial

theorem StoresKept.congr {t : TrackedRun} {s' : CoordinatorState} (kept : StoresKept js plan t)
    (sound : RunSound plan s')
    (old : ∀ state ∈ storedStates s', ∃ other ∈ storedStates t.state, state.stages = other.stages)
    (holds : ∀ act, s'.active = some act → ∀ stage ∈ plan.stages, Holds js t.attempts s' act stage) :
    StoresKept js plan ⟨s', t.attempts⟩ := by
  refine ⟨sound, fun state mem => ?_, fun state mem stage there => ?_, holds⟩
  · obtain ⟨other, stored, same⟩ := old state mem
    exact recoveriesComplete_congr (kept.recoveries other stored) same
  · obtain ⟨other, stored, same⟩ := old state mem
    exact (kept.kept other stored stage there).congr same

theorem storedStates_active (active : s.active = some act) : storedStates s = recordStates s act := by
  unfold storedStates
  rw [active]

/-- **A step of a stage keeps the stores.** -/
theorem storesKept_after {t : TrackedRun} (kept : StoresKept js plan t) (active : t.state.active = some act)
    (mem : stage ∈ plan.stages) (planned : isPlanned stage.name = true)
    (move : StageMove js plan stage env act effect launch result) (accountable : ∀ ended ∈ result,
      Attempt.Accountable js t.attempts ⟨stage.name, (act.tasks stage.name).pendingStores, ended⟩) : StoresKept js plan
      ⟨t.state.after stage act effect launch result, t.attempts ++ endedAttempt act stage result⟩ := by
  have stored := storedStates_active active
  have follows := precedes_move ((kept.sound.active act active).tasks stage mem) move
  have recoveries : RecoveriesComplete act.state :=
    kept.recoveries _ (stored ▸ memory_mem_recordStates)
  have keeps : StepKeeps js plan t.attempts t.state act stage result :=
    ⟨planned, accountable, fun state there => kept.kept state (stored ▸ there) stage mem,
      kept.holds act active stage mem⟩
  have names {other : Stage} (there : other ∈ plan.stages) (same : other.name = stage.name) :
      other = stage := List.inj_on_of_nodup_map plan.names there mem same
  have after : storedStates (t.state.after stage act effect launch result) =
      recordStates (t.state.after stage act effect launch result) (effect.apply stage.name act) :=
    storedStates_active rfl
  have keptOld (other : Stage) (there : other ∈ plan.stages) (state : RunState)
      (old : state ∈ recordStates t.state act) :
      Kept js (t.attempts ++ endedAttempt act stage result) other state := by
    by_cases same : other.name = stage.name
    · obtain rfl := names there same
      exact keeps.kept_after move old
    · exact kept_other same (kept.kept state (stored ▸ old) other there)
  refine ⟨runSound_after kept.sound active mem move, ?_, ?_, ?_⟩
  · intro state there
    rw [after] at there
    rcases recordStates_after there with ⟨old, before, same⟩ | ⟨entry, writes, same⟩
    · exact recoveriesComplete_congr (kept.recoveries old (stored ▸ before)) same
    · intro name record found
      rw [same] at found
      by_cases here : name = stage.name
      · subst here
        rw [Function.update_self] at found
        obtain rfl := Option.some.inj found
        exact (keeps.entry move writes).2
      · rw [Function.update_of_ne here] at found
        exact recoveries name record found
  · intro state there other otherMem
    rw [after] at there
    rcases recordStates_after there with ⟨old, before, same⟩ | ⟨entry, writes, same⟩
    · exact (keptOld other otherMem old before).congr same
    · have memory := keptOld other otherMem act.state memory_mem_recordStates
      have next : state.stages = (effect.apply stage.name act).state.stages := by
        rw [same, StageEffect.apply_stages, StageEffect.stages, writes]
      refine Kept.congr ⟨fun record found => ?_, fun attempted => ?_⟩ next
      · rw [← next, same] at found
        by_cases here : other.name = stage.name
        · rw [here, Function.update_self] at found
          obtain rfl := Option.some.inj found
          rw [here]
          exact (keeps.entry move writes).1
        · rw [Function.update_of_ne here] at found
          exact memory.record record found
      · exact (memory.due attempted).follows recoveries follows
  · intro other same other' otherMem
    obtain rfl : effect.apply stage.name act = other := Option.some.inj same
    by_cases here : other'.name = stage.name
    · obtain rfl := names otherMem here
      exact keeps.holds_after follows recoveries move
    · exact holds_other here follows recoveries (kept.holds act active other' otherMem)

/-- The attempt that ends at a step of a stage is the one that its result is received from. -/
theorem attemptAt_move (active : s.active = some act) (mem : stage ∈ plan.stages)
    (move : StageMove js plan stage env act effect launch result) :
    (attemptAt plan s (.within (.advance stage env))).toList = endedAttempt act stage result := by
  simp only [attemptAt, active, Option.bind_some, mem, true_and]
  have waits {position : Position} (at_ : (act.tasks stage.name).position = position)
      (other : position ≠ .launched) : (act.tasks stage.name).position ≠ .launched := at_ ▸ other
  have loop {task : StageTask} {status : Option RunStatus} (loops : Loops plan stage act task status) :
      (act.tasks stage.name).position ≠ .launched := by
    cases loops with
    | starts start => exact waits start.idle nofun
    | wakes sleeping => exact waits sleeping nofun
  cases move with
  | alreadyComplete start => rw [if_neg (waits start.idle nofun)]; rfl
  | skips start => rw [if_neg (waits start.idle nofun)]; rfl
  | attempts loops => rw [if_neg (loop loops)]; rfl
  | runsOut loops => rw [if_neg (loop loops)]; rfl
  | launches at_ => rw [if_neg (waits at_ nofun)]; rfl
  | misses at_ => rw [if_neg (waits at_ nofun)]; rfl
  | dies launched ended => rw [if_pos launched, ended]; rfl
  | misreads launched ended => rw [if_pos launched, ended]; rfl
  | completes launched ended => rw [if_pos launched, ended]; rfl
  | fails launched ended => rw [if_pos launched, ended]; rfl
  | retries launched ended => rw [if_pos launched, ended]; rfl
  | pauses at_ => rw [if_neg (waits at_ nofun)]; rfl
  | returns at_ => rw [if_neg (waits at_ nofun)]; rfl

theorem attemptAt_blocked (active : s.active = some act) (blocked : Blocked plan stage act) :
    attemptAt plan s (.within (.advance stage env)) = none := by
  have waits : (act.tasks stage.name).position ≠ .launched := by
    intro launched
    simp [Blocked, launched] at blocked
  simp [attemptAt, active, waits]

theorem mem_recordStates_persist {status : RunStatus} {concluded : Bool}
    (mem : state ∈ recordStates s { (act.setStatus status).persist with concluded := concluded }) :
    ∃ other ∈ recordStates s act, state.stages = other.stages := by
  unfold recordStates at mem ⊢
  dsimp only [Activation.persist_snapshots, Activation.setStatus_snapshots] at mem
  rcases mem_concat.mp mem with stored | memory
  · rcases List.mem_cons.mp stored with file | snapshot
    · exact ⟨state, by rw [file]; simp, rfl⟩
    · rcases mem_concat.mp snapshot with old | written
      · exact ⟨state, by simp [old], rfl⟩
      · exact ⟨act.state, by simp, by rw [written]; rfl⟩
  · exact ⟨act.state, by simp, by rw [memory]; rfl⟩

/-- The attempt that ends at a step is accountable. -/
def AccountableAt (js : StageBuiltins) (plan : CoordinatorPlan) (t : TrackedRun) (move : Move) : Prop :=
  ∀ attempt ∈ attemptAt plan t.state move, attempt.Accountable js t.attempts

instance (js : StageBuiltins) (plan : CoordinatorPlan) (t : TrackedRun) (move : Move) :
    Decidable (AccountableAt js plan t move) :=
  inferInstanceAs (Decidable (∀ attempt ∈ attemptAt plan t.state move, attempt.Accountable js t.attempts))

/-- **Every step keeps the stores**, where the attempt that ends at it is accountable. -/
theorem storesKept_step (planned : ∀ stage ∈ plan.stages, isPlanned stage.name = true) (t : TrackedRun)
    (move : Move) (kept : StoresKept js plan t) (accountable : AccountableAt js plan t move) :
    StoresKept js plan (trackedStep js plan t move) := by
  have sound := runSound_step js t.state move kept.sound
  have silent (none_ : attemptAt plan t.state move = none)
      (kept : StoresKept js plan ⟨coordinatorStep js plan t.state move, t.attempts⟩) :
      StoresKept js plan (trackedStep js plan t move) := by
    unfold trackedStep
    rwa [none_, Option.toList_none, List.append_nil]
  have closed {s' : CoordinatorState} (sound : RunSound plan s') (inactive : s'.active = none)
      (file : s'.file = t.state.file) : StoresKept js plan ⟨s', t.attempts⟩ := by
    refine kept.congr sound (fun state mem => ?_) fun act active => nomatch inactive.symm.trans active
    unfold storedStates at mem
    rw [inactive, file] at mem
    refine ⟨state, ?_, rfl⟩
    rw [List.mem_singleton.mp mem]
    unfold storedStates
    cases t.state.active with
    | none => exact List.mem_singleton_self _
    | some act => exact List.mem_cons_self
  cases move with
  | crash => exact silent rfl (closed sound rfl rfl)
  | activate =>
    refine silent rfl ?_
    unfold coordinatorStep at sound ⊢
    cases active : t.state.active with
    | some act => exact kept
    | none =>
      rw [active] at sound
      unfold activate at sound ⊢
      dsimp only at sound ⊢
      split_ifs at sound ⊢
      · exact closed sound active rfl
      · refine kept.congr sound (fun state mem => ?_) fun act same stage _ => ?_
        · refine ⟨(openActivation t.state.file).state, ?_, ?_⟩
          · simp [storedStates, active]
          · simp only [storedStates, recordStates, openActivation, Activation.persist_snapshots,
              List.nil_append, Activation.persist_state, List.mem_append, List.mem_cons, List.not_mem_nil,
              or_false, or_self] at mem
            rw [mem]
            rfl
        · obtain rfl := Option.some.inj same
          trivial
  | within move =>
    cases active : t.state.active with
    | none =>
      have stays : coordinatorStep js plan t.state (.within move) = t.state := by
        simp [coordinatorStep, active]
      have none_ : attemptAt plan t.state (.within move) = none := by
        cases move <;> simp [attemptAt, active]
      exact silent none_ (by rw [stays]; exact kept)
    | some act =>
      have steps : coordinatorStep js plan t.state (.within move) =
          activationStep js plan t.state act move := by
        simp [coordinatorStep, active]
      have stored := storedStates_active active
      rw [steps] at sound
      cases move with
      | write =>
        refine silent rfl ?_
        rw [steps]
        unfold activationStep at sound ⊢
        dsimp only at sound ⊢
        cases queue : act.snapshots with
        | nil => exact kept
        | cons snapshot snapshots =>
          rw [queue] at sound
          have old (state : RunState) (mem : state ∈ recordStates
              { t.state with
                file := some snapshot
                active := some { act with snapshots, written := act.written + 1 } }
              { act with snapshots, written := act.written + 1 }) :
              ∃ other ∈ recordStates t.state act, state.stages = other.stages := by
            unfold recordStates at mem ⊢
            rw [queue]
            rcases mem_concat.mp mem with stored | memory
            · rcases List.mem_cons.mp stored with file | later
              · exact ⟨snapshot, by simp, by rw [file]; rfl⟩
              · exact ⟨state, by simp [later], rfl⟩
            · exact ⟨state, by simp [memory], rfl⟩
          refine kept.congr sound (fun state mem => stored ▸ old state mem) fun other same stage there => ?_
          obtain rfl := Option.some.inj same
          exact (kept.holds act active stage there).congr rfl rfl old fun _ _ _ durable => durable.write queue
      | advance stage env =>
        by_cases mem : stage ∈ plan.stages
        · have stays : activationStep js plan t.state act (.advance stage env) =
              advanceStage js plan stage env t.state act := by
            simp [activationStep, mem]
          unfold trackedStep
          rw [steps, stays]
          rcases advanceStage_cases js plan stage env t.state act with
            ⟨same, blocked⟩ | ⟨effect, launch, result, stageMove, same⟩
          · rw [same, attemptAt_blocked active blocked, Option.toList_none, List.append_nil]
            exact kept
          · rw [same, attemptAt_move active mem stageMove]
            refine storesKept_after kept active mem (planned stage mem) stageMove fun ended here => ?_
            refine accountable _ ?_
            have there := attemptAt_move active mem stageMove
            rw [Option.mem_def.mp here, endedAttempt, Option.toList_some, List.map_singleton,
              Option.toList_eq_singleton_iff] at there
            exact there
        · have stays : activationStep js plan t.state act (.advance stage env) = t.state := by
            simp [activationStep, mem]
          refine silent (by simp [attemptAt, active, mem]) ?_
          rw [steps, stays]
          exact kept
      | conclude =>
        refine silent rfl ?_
        rw [steps]
        unfold activationStep at sound ⊢
        dsimp only at sound ⊢
        split_ifs at sound ⊢
        · refine kept.congr sound (fun state mem => stored ▸ mem_recordStates_persist mem)
            fun other same stage there => ?_
          obtain rfl := Option.some.inj same
          refine (kept.holds act active stage there).congr rfl rfl (fun _ => mem_recordStates_persist) ?_
          intro write P new durable
          refine durable.append rfl rfl
            (by simp : _ = act.snapshots ++ [(act.setStatus (finalStatus plan act.state)).state]) ?_
          intro state written
          rw [List.mem_singleton.mp written]
          exact new _ rfl
        · exact kept
      | finish =>
        refine silent rfl ?_
        rw [steps]
        unfold activationStep at sound ⊢
        dsimp only at sound ⊢
        split_ifs at sound ⊢
        · exact closed sound rfl rfl
        · exact kept

theorem storesKept_start : StoresKept js plan {} := by
  have start : storedStates {} = [(openActivation none).state] := rfl
  refine ⟨runSound_start plan none, ?_, ?_, nofun⟩
  · intro state mem
    rw [start] at mem
    rw [List.mem_singleton.mp mem]
    exact nofun
  · intro state mem stage _
    rw [start] at mem
    rw [List.mem_singleton.mp mem]
    exact ⟨nofun, fun ⟨_, there, _⟩ => absurd there List.not_mem_nil⟩

theorem mem_storedStates {state : RunState} (mem : s.file = some state ∨ s.active.map (·.state) = some state) :
    ∃ other ∈ storedStates s, state.stages = other.stages := by
  unfold storedStates
  rcases mem with file | memory
  · refine ⟨(openActivation s.file).state, ?_, by rw [file]; rfl⟩
    cases s.active with
    | none => exact List.mem_singleton_self _
    | some act => exact List.mem_cons_self
  · obtain ⟨act, active, rfl⟩ := Option.map_eq_some_iff.mp memory
    rw [active]
    exact ⟨act.state, memory_mem_recordStates, rfl⟩

def report (key : String) (rows : List (List (String × Json))) : Json := .obj [(key, .arr (rows.map .obj))]

/-- The steps of an attempt: its record is written, its process ends, and that is written too. -/
def attemptMoves (stage : Stage) (result : StageResult) : List Move :=
  [.within (.advance stage {}), .within .write, .within (.advance stage {}),
    .within (.advance stage { result := some result }), .within .write, .within (.advance stage {})]

/-- The steps of a run whose first stage gets these results. -/
def firstStageMoves (plan : CoordinatorPlan) (results : List StageResult) : List Move :=
  .activate :: .within .write ::
    plan.stages.head?.toList.flatMap fun stage => results.flatMap (attemptMoves stage)

def planOf (task : CoordinatorTask) : CoordinatorPlan :=
  buildCoordinatorPlan task ⟨"2026-08-07", "20", "2026-08-06", "2026-08-05", "2026-07-30"⟩

/-- A supply attempt fails for a store, and the next one succeeds for it. -/
def retriedStore : List StageResult :=
  [⟨2, report "results" [[("storeCode", .str "QY8886"), ("status", .str "error")]]⟩, ⟨0, .null⟩]

def Loses (task : CoordinatorTask) (results : List StageResult) (name store : String) : Prop :=
  let after := run (trackedStep .ascii (planOf task)) {} (firstStageMoves (planOf task) results)
  (∃ record ∈ after.state.file.bind (·.stages name), record.status = .complete ∧
      ¬HasStore record.terminalDetails store) ∧
    Outstanding .ascii after.attempts name store

instance (task : CoordinatorTask) (results : List StageResult) (name store : String) :
    Decidable (Loses task results name store) :=
  inferInstanceAs (Decidable (_ ∧ _))

end FullManagedBi.Coordinator
