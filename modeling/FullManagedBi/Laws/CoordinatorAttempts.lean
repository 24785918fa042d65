import FullManagedBi.Laws.CoordinatorSteps

/-!
# The attempts of a coordinator run

The number of an attempt is in the state file before its process is launched. Every state that is written
or kept in memory has at least the attempts of the state before it (`Precedes`), so what the file says
bounds the attempts that were launched, and each launch is beyond all of them. This holds across crashes,
which leave the file as it is.
-/

namespace FullManagedBi.Coordinator

open Lib

variable {js : StageBuiltins} {plan : CoordinatorPlan}

/-! ## States in order -/

def IsComplete (name : String) (state : RunState) : Prop :=
  ∃ record, state.stages name = some record ∧ record.status = .complete

/-- The stage is complete, or it has a record of at least `n` attempts. -/
def AtLeast (name : String) (n : Nat) (state : RunState) : Prop :=
  ∃ record, state.stages name = some record ∧ (record.status = .complete ∨ n ≤ record.attempts)

/-- A state that follows on another one: no stage loses attempts, and a complete record is final. -/
structure Precedes (state next : RunState) : Prop where
  atLeast : ∀ name n, AtLeast name n state → AtLeast name n next
  final : ∀ name record, state.stages name = some record → record.status = .complete →
    next.stages name = some record

variable {state next : RunState}

theorem Precedes.complete (follows : Precedes state next) (name : String)
    (complete : IsComplete name state) : IsComplete name next := by
  obtain ⟨record, found, complete⟩ := complete
  exact ⟨record, follows.final name record found complete, complete⟩

theorem precedes_of_stages (same : next.stages = state.stages) : Precedes state next := by
  constructor
  · intro name n atLeast
    unfold AtLeast at atLeast ⊢
    rwa [same]
  · intro name record found _
    rw [same, found]

theorem Precedes.trans {a b c : RunState} (ab : Precedes a b) (bc : Precedes b c) : Precedes a c :=
  ⟨fun name n h => bc.atLeast name n (ab.atLeast name n h),
    fun name record found complete =>
      bc.final name record (ab.final name record found complete) complete⟩

theorem precedes_update {state : RunState} {name : String} {record : StageState} {status : RunStatus}
    (grows : ∀ old, state.stages name = some old →
      old.status ≠ .complete ∧ (record.status = .complete ∨ old.attempts ≤ record.attempts)) :
    Precedes state ⟨status, Function.update state.stages name (some record)⟩ := by
  constructor
  · rintro other n ⟨old, found, enough⟩
    by_cases same : other = name
    · subst same
      obtain ⟨open_, grown⟩ := grows old found
      refine ⟨record, Function.update_self .., ?_⟩
      exact grown.imp_right (enough.resolve_left open_).trans
    · exact ⟨old, (Function.update_of_ne same _ _).trans found, enough⟩
  · intro other old found complete
    by_cases same : other = name
    · subst same
      exact absurd complete (grows old found).1
    · exact (Function.update_of_ne same _ _).trans found

/-! ## What is durable -/

def Durable (s : CoordinatorState) (act : Activation) (write : Nat) (P : RunState → Prop) : Prop :=
  (write ≤ act.written → ∃ state, s.file = some state ∧ P state) ∧
    ∀ state ∈ act.snapshots.drop (write - act.written - 1), P state

def TaskKnows (s : CoordinatorState) (act : Activation) (name : String) : Prop :=
  match (act.tasks name).position with
  | .launching write =>
    (∃ record, act.state.stages name = some record ∧ record.status = .running ∧
      record.attempts = (act.tasks name).attempts) ∧
    Durable s act write (AtLeast name (act.tasks name).attempts) ∧
    ∀ launch ∈ s.launches, launch.stageName = name → launch.attempt < (act.tasks name).attempts
  | .launched | .pausing _ | .sleeping =>
    ∃ record, act.state.stages name = some record ∧ record.status ≠ .complete ∧
      record.attempts = (act.tasks name).attempts
  | _ => True

/-- The states of an activation, oldest first: the file, what is still to be written, and the memory. -/
def versions (s : CoordinatorState) (act : Activation) : List RunState :=
  s.file.toList ++ act.snapshots ++ [act.state]

structure ActivationSound (plan : CoordinatorPlan) (s : CoordinatorState) (act : Activation) : Prop where
  ordered : (versions s act).Pairwise Precedes
  last : ∃ state, (s.file.toList ++ act.snapshots).getLast? = some state ∧
    state.stages = act.state.stages
  tasks : ∀ stage ∈ plan.stages, TaskKnows s act stage.name

def attemptsOf (launches : List Launch) (name : String) : List Nat :=
  (launches.filter (·.stageName = name)).map (·.attempt)

structure RunSound (plan : CoordinatorPlan) (s : CoordinatorState) : Prop where
  called : ∀ launch ∈ s.launches, ∃ stage ∈ plan.stages, stage.name = launch.stageName ∧
    stageArgsForStores stage launch.stores launch.attempt = some launch.args
  covered : ∀ launch ∈ s.launches,
    ∃ state, s.file = some state ∧ AtLeast launch.stageName launch.attempt state
  increasing : ∀ name, (attemptsOf s.launches name).Pairwise (· < ·)
  active : ∀ act, s.active = some act → ActivationSound plan s act

/-! ## A step of a stage -/

variable {s : CoordinatorState} {act : Activation} {stage : Stage} {env : StepEnv}
  {effect : StageEffect} {launch : Option Launch} {result : Option StageResult} {name : String}

variable {states : List RunState}

theorem pairwise_replace_last (ordered : (states ++ [state]).Pairwise Precedes)
    (follows : Precedes state next) : (states ++ [next]).Pairwise Precedes := by
  rw [List.pairwise_append] at ordered ⊢
  refine ⟨ordered.1, List.pairwise_singleton _ _, ?_⟩
  intro earlier mem other last
  obtain rfl := List.mem_singleton.mp last
  exact (ordered.2.2 earlier mem state (List.mem_singleton.mpr rfl)).trans follows

theorem pairwise_write_last {state : RunState} (ordered : (states ++ [state]).Pairwise Precedes) :
    (states ++ [state] ++ [state]).Pairwise Precedes := by
  rw [List.pairwise_append]
  refine ⟨ordered, List.pairwise_singleton _ _, ?_⟩
  intro earlier mem other last
  obtain rfl := List.mem_singleton.mp last
  rcases mem_concat.mp mem with before | rfl
  · exact (List.pairwise_append.mp ordered).2.2 earlier before _ (List.mem_singleton.mpr rfl)
  · exact precedes_of_stages rfl

/-- The record of a stage that goes on is not complete, and has the attempts of its task. -/
theorem loops_record {task : StageTask} {status : Option RunStatus} (known : TaskKnows s act stage.name)
    (loops : Loops plan stage act task status) {old : StageState} (found : act.state.stages stage.name = some old) :
    old.status ≠ .complete ∧ old.attempts = task.attempts := by
  cases loops with
  | starts start incomplete due =>
    rw [found] at incomplete ⊢
    exact ⟨by simpa using incomplete, rfl⟩
  | wakes sleeping =>
    simp only [TaskKnows, sleeping] at known
    obtain ⟨record, there, open_, attempts⟩ := known
    obtain rfl := Option.mem_unique there found
    exact ⟨open_, attempts⟩

theorem launched_record (known : TaskKnows s act stage.name)
    (launched : (act.tasks stage.name).position = .launched) {old : StageState}
    (found : act.state.stages stage.name = some old) :
    old.status ≠ .complete ∧ old.attempts = (act.tasks stage.name).attempts := by
  simp only [TaskKnows, launched] at known
  obtain ⟨record, there, open_, attempts⟩ := known
  obtain rfl := Option.mem_unique there found
  exact ⟨open_, attempts⟩

/-- What a step of a stage leaves in memory follows on what was there. -/
theorem precedes_move (known : TaskKnows s act stage.name)
    (move : StageMove js plan stage env act effect launch result) :
    Precedes act.state (effect.apply stage.name act).state := by
  rw [StageEffect.apply_eq]
  dsimp only
  unfold StageEffect.stages
  cases move with
  | skips start incomplete skipped =>
    refine precedes_update fun old found => ⟨?_, .inl rfl⟩
    rw [found] at incomplete
    simpa using incomplete
  | attempts loops =>
    refine precedes_update fun old found => ?_
    obtain ⟨open_, attempts⟩ := loops_record known loops found
    exact ⟨open_, .inr (attempts.trans_le (Nat.le_succ _))⟩
  | runsOut loops =>
    refine precedes_update fun old found => ?_
    obtain ⟨open_, attempts⟩ := loops_record known loops found
    exact ⟨open_, .inr attempts.le⟩
  | completes launched =>
    exact precedes_update fun old found => ⟨(launched_record known launched found).1, .inl rfl⟩
  | fails launched =>
    refine precedes_update fun old found => ?_
    obtain ⟨open_, attempts⟩ := launched_record known launched found
    exact ⟨open_, .inr attempts.le⟩
  | retries launched =>
    refine precedes_update fun old found => ?_
    obtain ⟨open_, attempts⟩ := launched_record known launched found
    exact ⟨open_, .inr attempts.le⟩
  | _ => exact precedes_of_stages rfl

/-- What is durable stays durable when one more state with the property is to be written. -/
theorem Durable.append {s' : CoordinatorState} {act' : Activation} {write : Nat}
    {P : RunState → Prop} (durable : Durable s act write P) (file : s'.file = s.file)
    (written : act'.written = act.written) (snapshots : act'.snapshots = act.snapshots ++ states)
    (new : ∀ state ∈ states, P state) : Durable s' act' write P := by
  constructor
  · intro le
    rw [file]
    exact durable.1 (written ▸ le)
  · rw [snapshots, written]
    intro state mem
    rw [List.drop_append] at mem
    rcases List.mem_append.mp mem with old | later
    · exact durable.2 state old
    · exact new state (List.mem_of_mem_drop later)

variable {snapshots : List RunState}

/-- What is durable stays durable when the oldest snapshot becomes the file. -/
theorem Durable.write {write : Nat} {P : RunState → Prop} {snapshot : RunState}
    (durable : Durable s act write P) (queue : act.snapshots = snapshot :: snapshots) : Durable { s with
      file := some snapshot
      active := some { act with snapshots, written := act.written + 1 } }
      { act with snapshots, written := act.written + 1 } write P := by
  obtain ⟨file, later⟩ := durable
  rw [queue] at later
  constructor
  · intro le
    refine ⟨snapshot, rfl, later snapshot ?_⟩
    have first : write - act.written - 1 = 0 := by
      have : write ≤ act.written + 1 := le
      omega
    rw [first, List.drop_zero]
    exact List.mem_cons_self
  · intro state there
    refine later state ?_
    dsimp only at there
    cases left : write - act.written - 1 with
    | zero =>
      rw [List.drop_zero]
      exact List.mem_cons_of_mem _ (List.mem_of_mem_drop there)
    | succ k =>
      have same : write - (act.written + 1) - 1 = k := by omega
      rw [List.drop_succ_cons, ← same]
      exact there

theorem taskKnows_other (known : TaskKnows s act name) (different : name ≠ stage.name)
    (move : StageMove js plan stage env act effect launch result) :
    TaskKnows (s.after stage act effect launch result) (effect.apply stage.name act) name := by
  have tasks : (effect.apply stage.name act).tasks name = act.tasks name := by
    rw [StageEffect.apply_tasks, Function.update_of_ne different]
  have record : (effect.apply stage.name act).state.stages name = act.state.stages name := by
    rw [StageEffect.apply_stages, effect.stages_ne _ _ different]
  unfold TaskKnows at known ⊢
  rw [tasks, record]
  cases at_ : (act.tasks name).position with
  | launching write =>
    rw [at_] at known
    obtain ⟨⟨old, found, running, attempts⟩, durable, below⟩ := known
    refine ⟨⟨old, found, running, attempts⟩, ?_, ?_⟩
    · refine durable.append rfl (by simp) (by rw [StageEffect.apply_eq]) ?_
      intro state mem
      have here : state.stages name = some old := by
        split_ifs at mem
        · obtain rfl := List.mem_singleton.mp mem
          exact (effect.stages_ne _ _ different).trans found
        · exact absurd mem List.not_mem_nil
      exact ⟨old, here, .inr attempts.ge⟩
    · intro other mem same
      rcases List.mem_append.mp mem with old | new
      · exact below other old same
      · cases move with
        | launches waits durable called =>
          rw [Option.toList_some, List.mem_singleton] at new
          subst new
          exact absurd same.symm different
        | _ => simp at new
  | launched => simpa only [at_] using known
  | pausing write => simpa only [at_] using known
  | sleeping => simpa only [at_] using known
  | _ => trivial

theorem ActivationSound.file_precedes (sound : ActivationSound plan s act) {state : RunState}
    (file : s.file = some state) : Precedes state act.state := by
  have ordered := sound.ordered
  unfold versions at ordered
  rw [file, Option.toList_some, List.append_assoc, List.singleton_append, List.pairwise_cons] at ordered
  exact ordered.1 act.state (by simp)

theorem launched_le (covered : ∀ launch ∈ s.launches,
      ∃ state, s.file = some state ∧ AtLeast launch.stageName launch.attempt state)
    (sound : ActivationSound plan s act) {n : Nat}
    (record : ∀ old, act.state.stages name = some old → old.status ≠ .complete ∧ old.attempts = n)
    {other : Launch} (mem : other ∈ s.launches) (same : other.stageName = name) : other.attempt ≤ n := by
  obtain ⟨state, file, atLeast⟩ := covered other mem
  obtain ⟨old, found, enough⟩ := (sound.file_precedes file).atLeast _ _ atLeast
  obtain ⟨open_, attempts⟩ := record old (same ▸ found)
  exact attempts ▸ enough.resolve_left open_

theorem taskKnows_self (covered : ∀ launch ∈ s.launches,
      ∃ state, s.file = some state ∧ AtLeast launch.stageName launch.attempt state)
    (sound : ActivationSound plan s act) (known : TaskKnows s act stage.name)
    (move : StageMove js plan stage env act effect launch result) :
    TaskKnows (s.after stage act effect launch result) (effect.apply stage.name act) stage.name := by
  unfold TaskKnows at known ⊢
  rw [StageEffect.apply_tasks, Function.update_self, StageEffect.apply_stages]
  cases move with
  | @attempts task status loops inBudget =>
    have beyond {other : Launch} (mem : other ∈ s.launches) (same : other.stageName = stage.name) :
        other.attempt ≤ task.attempts :=
      launched_le covered sound (fun old found => loops_record known loops found) mem same
    refine ⟨⟨runningRecord task, Function.update_self .., rfl, rfl⟩, ⟨?_, ?_⟩, ?_⟩
    · -- The write is still to come.
      intro written
      simp [StageEffect.write, Activation.issued] at written
    · rw [StageEffect.apply_eq]
      simp only [StageEffect.write, Activation.issued, Option.isSome_some, if_true]
      have past : act.written + act.snapshots.length + 1 - act.written - 1 = act.snapshots.length := by
        omega
      rw [past, List.drop_left]
      intro state mem
      obtain rfl := List.mem_singleton.mp mem
      exact ⟨runningRecord task, Function.update_self .., .inr le_rfl⟩
    · intro other mem same
      rw [CoordinatorState.after, Option.toList_none, List.append_nil] at mem
      exact Nat.lt_succ_of_le (beyond mem same)
  | launches waits durable called =>
    simp only [waits] at known
    obtain ⟨old, found, running, attempts⟩ := known.1
    exact ⟨old, found, by simp [running], attempts⟩
  | @retries result classification launched ended classified incomplete mild =>
    refine ⟨retryRecord ((act.tasks stage.name).withGaps classification) classification result.exitCode,
      Function.update_self .., ?_, rfl⟩
    unfold retryRecord
    dsimp only
    split_ifs <;> simp
  | pauses waits =>
    simp only [waits] at known
    exact known
  | _ => trivial

theorem versions_move (sound : ActivationSound plan s act) (known : TaskKnows s act stage.name)
    (move : StageMove js plan stage env act effect launch result) :
    (versions (s.after stage act effect launch result) (effect.apply stage.name act)).Pairwise Precedes := by
  have ordered := pairwise_replace_last sound.ordered (precedes_move known move)
  unfold versions
  rw [StageEffect.apply_eq] at ordered ⊢
  dsimp only [CoordinatorState.after] at ordered ⊢
  split_ifs with entry
  · rw [← List.append_assoc]
    exact pairwise_write_last ordered
  · rw [List.append_nil]
    exact ordered

/-- The newest state that is to be written has the records of the memory. -/
theorem last_move (sound : ActivationSound plan s act) :
    ∃ state, (s.file.toList ++ (effect.apply stage.name act).snapshots).getLast? = some state ∧
      state.stages = (effect.apply stage.name act).state.stages := by
  rw [StageEffect.apply_eq]
  dsimp only
  cases entry : effect.entry with
  | some entry =>
    refine ⟨⟨effect.status act, effect.stages stage.name act⟩, ?_, rfl⟩
    simp [← List.append_assoc]
  | none =>
    obtain ⟨state, found, same⟩ := sound.last
    refine ⟨state, ?_, ?_⟩
    · simpa using found
    · rw [same, StageEffect.stages, entry]

/-- **A step of a stage keeps the run sound.** -/
theorem runSound_after (sound : RunSound plan s) (active : s.active = some act)
    (mem : stage ∈ plan.stages) (move : StageMove js plan stage env act effect launch result) :
    RunSound plan (s.after stage act effect launch result) := by
  have act' := sound.active act active
  have known := act'.tasks stage mem
  constructor
  · intro other there
    rcases List.mem_append.mp there with old | new
    · exact sound.called other old
    · cases move with
      | launches waits durable called =>
        rw [Option.toList_some, List.mem_singleton] at new
        subst new
        exact ⟨stage, mem, rfl, called⟩
      | _ => simp at new
  · intro other there
    rcases List.mem_append.mp there with old | new
    · exact sound.covered other old
    · cases move with
      | launches waits durable called =>
        rw [Option.toList_some, List.mem_singleton] at new
        subst new
        simp only [TaskKnows, waits] at known
        exact known.2.1.1 durable
      | _ => simp at new
  · intro name
    have before := sound.increasing name
    unfold attemptsOf at before ⊢
    dsimp only [CoordinatorState.after]
    rw [List.filter_append, List.map_append, List.pairwise_append]
    refine ⟨before, ?_, ?_⟩
    · cases launch with
      | none => simp
      | some launch =>
        rw [Option.toList_some, List.filter_singleton]
        cases decide (launch.stageName = name) <;> simp
    · intro earlier old later new
      cases move with
      | launches waits durable called =>
        simp only [TaskKnows, waits] at known
        obtain ⟨other, there, rfl⟩ := List.mem_map.mp old
        obtain ⟨there, same⟩ := List.mem_filter.mp there
        obtain ⟨own, ownMem, rfl⟩ := List.mem_map.mp new
        obtain ⟨ownMem, ownSame⟩ := List.mem_filter.mp ownMem
        rw [Option.toList_some, List.mem_singleton] at ownMem
        subst ownMem
        rw [decide_eq_true_eq] at same ownSame
        exact known.2.2 other there (same.trans ownSame.symm)
      | _ => simp at new
  · intro other same
    obtain rfl : effect.apply stage.name act = other := Option.some.inj same
    constructor
    · exact versions_move act' known move
    · exact last_move (s := s) act'
    · intro other there
      by_cases same : other.name = stage.name
      · rw [same]
        exact taskKnows_self sound.covered act' known move
      · exact taskKnows_other (act'.tasks other there) same move

/-! ## Runs -/

/-- What a stage knows depends on the file, the memory and what is to be written. -/
theorem TaskKnows.congr {s' : CoordinatorState} {act' : Activation} (known : TaskKnows s act name)
    (tasks : act'.tasks = act.tasks) (stages : act'.state.stages = act.state.stages)
    (launches : s'.launches = s.launches) (durable : ∀ write P, (∀ state, state.stages = act.state.stages → P state) →
      Durable s act write P → Durable s' act' write P) : TaskKnows s' act' name := by
  unfold TaskKnows at known ⊢
  rw [tasks, stages, launches]
  cases at_ : (act.tasks name).position with
  | launching write =>
    rw [at_] at known
    obtain ⟨⟨old, found, running, attempts⟩, kept, below⟩ := known
    refine ⟨⟨old, found, running, attempts⟩, durable write _ ?_ kept, below⟩
    intro state same
    exact ⟨old, by rw [same, found], .inr attempts.ge⟩
  | launched => simpa only [at_] using known
  | pausing write => simpa only [at_] using known
  | sleeping => simpa only [at_] using known
  | _ => trivial

theorem runSound_write (sound : RunSound plan s) (active : s.active = some act)
    {snapshot : RunState} (queue : act.snapshots = snapshot :: snapshots) : RunSound plan { s with
      file := some snapshot
      active := some { act with snapshots, written := act.written + 1 } } := by
  have act' := sound.active act active
  have ordered := act'.ordered
  unfold versions at ordered
  rw [queue] at ordered
  constructor
  · exact sound.called
  · intro launch mem
    obtain ⟨state, file, atLeast⟩ := sound.covered launch mem
    rw [file, Option.toList_some, List.append_assoc, List.singleton_append, List.pairwise_cons] at ordered
    exact ⟨snapshot, rfl, (ordered.1 snapshot (by simp)).atLeast _ _ atLeast⟩
  · exact sound.increasing
  · intro other same
    obtain rfl := Option.some.inj same
    constructor
    · rw [List.append_assoc] at ordered
      exact (List.pairwise_append.mp ordered).2.1
    · obtain ⟨state, found, stages⟩ := act'.last
      refine ⟨state, ?_, stages⟩
      rw [queue, List.getLast?_append_cons] at found
      exact found
    · intro stage mem
      exact (act'.tasks stage mem).congr rfl rfl rfl fun _ _ _ durable => durable.write queue

theorem runSound_conclude (sound : RunSound plan s) (active : s.active = some act) (status : RunStatus) :
    RunSound plan { s with active := some { (act.setStatus status).persist with concluded := true } } := by
  have act' := sound.active act active
  refine ⟨sound.called, sound.covered, sound.increasing, ?_⟩
  intro other same
  obtain rfl := Option.some.inj same
  have replaced := pairwise_replace_last act'.ordered
    (precedes_of_stages (rfl : (act.setStatus status).state.stages = act.state.stages))
  constructor
  · unfold versions
    dsimp only [Activation.persist_snapshots, Activation.setStatus_snapshots]
    rw [← List.append_assoc]
    exact pairwise_write_last replaced
  · refine ⟨(act.setStatus status).state, ?_, rfl⟩
    simp [← List.append_assoc]
  · intro stage mem
    refine (act'.tasks stage mem).congr rfl rfl rfl fun write P new durable => ?_
    refine durable.append rfl rfl (by simp : _ = act.snapshots ++ [(act.setStatus status).state]) ?_
    intro state there
    obtain rfl := List.mem_singleton.mp there
    exact new _ rfl

theorem runSound_open (sound : RunSound plan s) : RunSound plan { s with active := some (openActivation s.file) } := by
  refine ⟨sound.called, sound.covered, sound.increasing, ?_⟩
  intro other same
  obtain rfl := Option.some.inj same
  constructor
  · unfold versions openActivation
    cases file : s.file with
    | none => simpa using precedes_of_stages rfl
    | some state =>
      simp only [Option.toList_some, Activation.persist_snapshots, List.nil_append, List.cons_append,
        Activation.persist_state, Option.map_some, Option.getD_some]
      refine List.pairwise_cons.mpr ⟨?_, List.pairwise_pair.mpr (precedes_of_stages rfl)⟩
      intro next mem
      exact precedes_of_stages (by simp at mem; rw [mem])
  · exact ⟨(openActivation s.file).state, by simp [openActivation], rfl⟩
  · intro stage _
    trivial

variable (js) in
/-- **Every step keeps the run sound.** -/
theorem runSound_step (s : CoordinatorState) (move : Move) (sound : RunSound plan s) :
    RunSound plan (coordinatorStep js plan s move) := by
  have inactive : RunSound plan { s with active := none } :=
    ⟨sound.called, sound.covered, sound.increasing, nofun⟩
  cases move with
  | crash => exact inactive
  | activate =>
    unfold coordinatorStep
    cases active : s.active with
    | none =>
      dsimp only [activate]
      split_ifs with published
      · exact ⟨sound.called, sound.covered, sound.increasing, fun act same => nomatch active.symm.trans same⟩
      · exact runSound_open sound
    | some act => exact sound
  | within move =>
    unfold coordinatorStep
    cases active : s.active with
    | none => exact sound
    | some act =>
      dsimp only
      cases move with
      | write =>
        unfold activationStep
        cases queue : act.snapshots with
        | nil => exact sound
        | cons snapshot snapshots => exact runSound_write sound active queue
      | advance stage env =>
        unfold activationStep
        dsimp only
        split_ifs with mem
        · rcases advanceStage_cases js plan stage env s act with ⟨same, -⟩ | ⟨effect, launch, result, stageMove, same⟩
          · rw [same]
            exact sound
          · rw [same]
            exact runSound_after sound active mem stageMove
        · exact sound
      | conclude =>
        unfold activationStep
        dsimp only
        split_ifs
        · exact runSound_conclude sound active _
        · exact sound
      | finish =>
        unfold activationStep
        dsimp only
        split_ifs
        · exact ⟨sound.called, sound.covered, sound.increasing, nofun⟩
        · exact sound

theorem runSound_start (plan : CoordinatorPlan) (file : Option RunState) : RunSound plan { file := file } :=
  ⟨fun _ => nofun, fun _ => nofun, fun _ => List.Pairwise.nil, nofun⟩

/-! ## Complete stages -/

def launchesOf (s : CoordinatorState) (name : String) : List Launch :=
  s.launches.filter (·.stageName = name)

def Recorded (s : CoordinatorState) (name : String) : Prop :=
  ∃ state, s.file = some state ∧ IsComplete name state

/-- The stage is complete in the memory of the activation. -/
def InMemory (s : CoordinatorState) (name : String) : Prop :=
  ∃ act, s.active = some act ∧ IsComplete name act.state

theorem launch_incomplete (known : TaskKnows s act stage.name)
    (move : StageMove js plan stage env act effect (some launch') result) (same : stage.name = name) :
    ¬IsComplete name act.state := by
  cases move with
  | launches waits durable called =>
    simp only [TaskKnows, waits] at known
    obtain ⟨⟨record, found, running, -⟩, -⟩ := known
    rintro ⟨other, there, complete⟩
    rw [← same, found] at there
    obtain rfl := Option.some.inj there
    exact nomatch running.symm.trans complete

theorem launchesOf_step (sound : RunSound plan s) (move : Move)
    (complete : ∀ act, s.active = some act → IsComplete name act.state) :
    launchesOf (coordinatorStep js plan s move) name = launchesOf s name := by
  cases move with
  | crash => rfl
  | activate =>
    unfold coordinatorStep
    cases s.active with
    | none =>
      dsimp only [activate]
      split_ifs <;> rfl
    | some act => rfl
  | within move =>
    unfold coordinatorStep
    cases active : s.active with
    | none => rfl
    | some act =>
      dsimp only
      cases move with
      | write =>
        unfold activationStep
        cases act.snapshots <;> rfl
      | conclude =>
        unfold activationStep
        dsimp only
        split_ifs <;> rfl
      | finish =>
        unfold activationStep
        dsimp only
        split_ifs <;> rfl
      | advance stage env =>
        unfold activationStep
        dsimp only
        split_ifs with mem
        · rcases advanceStage_cases js plan stage env s act with ⟨same, -⟩ | ⟨effect, launch, result, stageMove, same⟩
          · rw [same]
          · rw [same]
            unfold launchesOf CoordinatorState.after
            dsimp only
            have known := (sound.active act active).tasks stage mem
            have none_ : launch.toList.filter (·.stageName = name) = [] := by
              cases launch with
              | none => rfl
              | some launched =>
                have named : launched.stageName = stage.name := by
                  cases stageMove
                  rfl
                have other : stage.name ≠ name :=
                  fun same => launch_incomplete known stageMove same (complete act active)
                simp [named, other]
            rw [List.filter_append, none_, List.append_nil]
        · rfl

theorem recorded_step (sound : RunSound plan s) (move : Move) (recorded : Recorded s name) :
    Recorded (coordinatorStep js plan s move) name := by
  cases move with
  | crash => exact recorded
  | activate =>
    unfold coordinatorStep
    cases s.active with
    | none =>
      dsimp only [activate]
      split_ifs <;> exact recorded
    | some act => exact recorded
  | within move =>
    unfold coordinatorStep
    cases active : s.active with
    | none => exact recorded
    | some act =>
      dsimp only
      cases move with
      | write =>
        unfold activationStep
        cases queue : act.snapshots with
        | nil => exact recorded
        | cons snapshot snapshots =>
          obtain ⟨state, file, complete⟩ := recorded
          have ordered := (sound.active act active).ordered
          unfold versions at ordered
          rw [file, queue, Option.toList_some, List.append_assoc, List.singleton_append,
            List.pairwise_cons] at ordered
          exact ⟨snapshot, rfl, (ordered.1 snapshot (by simp)).complete _ complete⟩
      | conclude =>
        unfold activationStep
        dsimp only
        split_ifs <;> exact recorded
      | finish =>
        unfold activationStep
        dsimp only
        split_ifs <;> exact recorded
      | advance stage env =>
        unfold activationStep
        dsimp only
        split_ifs with mem
        · rcases advanceStage_cases js plan stage env s act with ⟨same, -⟩ | ⟨effect, launch, result, stageMove, same⟩ <;> rw [same]
          · exact recorded
          · exact recorded
        · exact recorded

variable (js) in
/-- A stage that is complete in memory stays so until the activation ends, when it is in the file. -/
theorem inMemory_step (sound : RunSound plan s) {move : Move} (alive : move ≠ .crash) (complete : InMemory s name) :
    InMemory (coordinatorStep js plan s move) name ∨ Recorded (coordinatorStep js plan s move) name := by
  obtain ⟨act, active, inAct⟩ := complete
  have act' := sound.active act active
  cases move with
  | crash => exact absurd rfl alive
  | activate =>
    unfold coordinatorStep
    rw [active]
    exact .inl ⟨act, active, inAct⟩
  | within move =>
    unfold coordinatorStep
    rw [active]
    dsimp only
    cases move with
    | write =>
      unfold activationStep
      cases act.snapshots with
      | nil => exact .inl ⟨act, active, inAct⟩
      | cons snapshot snapshots => exact .inl ⟨_, rfl, inAct⟩
    | conclude =>
      unfold activationStep
      dsimp only
      split_ifs
      · exact .inl ⟨_, rfl, inAct⟩
      · exact .inl ⟨act, active, inAct⟩
    | finish =>
      unfold activationStep
      dsimp only
      split_ifs with ends
      · obtain ⟨state, last, same⟩ := act'.last
        rw [ends.2, List.append_nil] at last
        refine .inr ⟨state, ?_, ?_⟩
        · cases file : s.file with
          | none => simp [file] at last
          | some other => simpa [file] using last
        · unfold IsComplete at inAct ⊢
          rwa [same]
      · exact .inl ⟨act, active, inAct⟩
    | advance stage env =>
      unfold activationStep
      dsimp only
      split_ifs with mem
      · rcases advanceStage_cases js plan stage env s act with ⟨same, -⟩ | ⟨effect, launch, result, stageMove, same⟩ <;> rw [same]
        · exact .inl ⟨act, active, inAct⟩
        · have follows := precedes_move (act'.tasks stage mem) stageMove
          exact .inl ⟨_, rfl, follows.complete _ inAct⟩
      · exact .inl ⟨act, active, inAct⟩

/-- A stage is never launched again once it is complete in the file. -/
theorem recorded_run (sound : RunSound plan s) (recorded : Recorded s name) (moves : List Move) :
    launchesOf (run (coordinatorStep js plan) s moves) name = launchesOf s name := by
  induction moves generalizing s with
  | nil => rfl
  | cons move moves ih =>
    rw [run_cons, ih (runSound_step js s move sound) (recorded_step sound move recorded)]
    refine launchesOf_step sound move fun act active => ?_
    obtain ⟨state, file, complete⟩ := recorded
    exact ((sound.active act active).file_precedes file).complete _ complete

/-- A stage is not launched again once it is complete in memory, unless the activation crashes. -/
theorem inMemory_run (sound : RunSound plan s) (complete : InMemory s name) {moves : List Move}
    (alive : .crash ∉ moves) : launchesOf (run (coordinatorStep js plan) s moves) name = launchesOf s name := by
  induction moves generalizing s with
  | nil => rfl
  | cons move moves ih =>
    have here : launchesOf (coordinatorStep js plan s move) name = launchesOf s name := by
      refine launchesOf_step sound move fun act active => ?_
      obtain ⟨other, same, inAct⟩ := complete
      obtain rfl := Option.mem_unique same active
      exact inAct
    rw [run_cons, ← here]
    have sound' := runSound_step js s move sound
    rcases inMemory_step js sound (List.ne_of_not_mem_cons alive).symm complete with still | recorded
    · exact ih sound' still (List.not_mem_of_not_mem_cons alive)
    · exact recorded_run sound' recorded moves

/-! ## Run ids -/

def runIdOf : List String → Option String
  | [] => none
  | token :: args => if token = "--run-id" then args.head? else runIdOf args

def runIdsOf (s : CoordinatorState) (name : String) : List (Option String) :=
  (launchesOf s name).map fun launch => runIdOf launch.args

theorem attemptRunId_injective {runId : String} {m n : Nat}
    (same : runId ++ ":attempt-" ++ toString m = runId ++ ":attempt-" ++ toString n) : m = n := by
  have digits : toString m = toString n := by
    have chars := congrArg String.toList same
    simp only [String.toList_append, List.append_cancel_left_eq] at chars
    exact String.toList_inj.mp chars
  exact Nat.repr_inj.mp digits

/-- A stage whose run ids are those of its attempts. -/
def ScopesRunId (stage : Stage) (runId : String) : Prop :=
  ∀ stores attempt args, stageArgsForStores stage stores attempt = some args →
    runIdOf args = some (runId ++ ":attempt-" ++ toString attempt)

theorem withoutStores_keep {token : String} (notAll : token ≠ "--all") (notStores : token ≠ "--stores")
    (notGiven : "--stores=".toList.isPrefixOf token.toList = false) (args : List String) :
    withoutStores false (token :: args) = token :: withoutStores false args := by
  simp only [withoutStores, notAll, notStores, notGiven, if_false, Bool.false_eq_true]

theorem withoutStores_all (args : List String) : withoutStores false ("--all" :: args) = withoutStores false args := by
  simp only [withoutStores, if_true]

theorem withoutStores_letter {token : String} {cs : List Char} (letter : token.toList = 'f' :: cs)
    (args : List String) : withoutStores false (token :: args) = token :: withoutStores false args := by
  refine withoutStores_keep ?_ ?_ ?_ args
  · rintro rfl
    exact nomatch letter
  · rintro rfl
    exact nomatch letter
  · rw [letter]
    rfl

theorem coordinatorRunId_letter (task : CoordinatorTask) (clock : ShanghaiClock) :
    ∃ cs, (coordinatorRunId task clock).toList = 'f' :: cs := by
  unfold coordinatorRunId
  simp only [String.toList_append]
  exact ⟨_, rfl⟩

theorem scopesRunId_of_plan {task : CoordinatorTask} {clock : ShanghaiClock}
    (mem : stage ∈ (buildCoordinatorPlan task clock).stages)
    (isScoped : stage.attemptScopedRunId = true) : ScopesRunId stage (coordinatorRunId task clock) := by
  obtain ⟨cs, letter⟩ := coordinatorRunId_letter task clock
  have some_ : coordinatorRunId task clock ≠ "" := by
    intro empty
    rw [empty] at letter
    exact nomatch letter
  have attemptLetter (attempt : Nat) :
      (coordinatorRunId task clock ++ ":attempt-" ++ toString attempt).toList =
        'f' :: (cs ++ ":attempt-".toList ++ (toString attempt).toList) := by
    simp [letter]
  have kept (attempt : Nat) (args : List String) := withoutStores_letter (attemptLetter attempt) args
  intro stores attempt args called
  cases task with
  | realtime =>
    obtain rfl | rfl : stage = _ ∨ stage = _ := by
      simpa [buildCoordinatorPlan, coordinatorStages] using mem
    · exact nomatch isScoped
    · obtain ⟨runIdArgs, narrowed⟩ : scopeRunId attempt ["--all", "--concurrency", "2", "--run-id",
            coordinatorRunId .realtime clock] = some ["--all", "--concurrency", "2", "--run-id",
            coordinatorRunId .realtime clock ++ ":attempt-" ++ toString attempt] ∧
          withoutStores false ["--all", "--concurrency", "2", "--run-id",
            coordinatorRunId .realtime clock ++ ":attempt-" ++ toString attempt] =
            ["--concurrency", "2", "--run-id",
              coordinatorRunId .realtime clock ++ ":attempt-" ++ toString attempt] := by
        constructor
        · simp [scopeRunId, some_]
        · rw [withoutStores_all, withoutStores_keep (by decide) (by decide) (by decide),
            withoutStores_keep (by decide) (by decide) (by decide),
            withoutStores_keep (by decide) (by decide) (by decide), kept]
          rfl
      obtain _ | _ | ⟨store, stores⟩ := stores <;>
        simp only [stageArgsForStores, if_true, runIdArgs, narrowed, Option.bind_eq_bind,
          Option.bind_some, Option.pure_def, Option.some.injEq] at called <;>
        subst called <;> simp [runIdOf]
  | supply =>
    obtain rfl : stage = _ := by simpa [buildCoordinatorPlan, coordinatorStages] using mem
    obtain ⟨runIdArgs, narrowed⟩ : scopeRunId attempt ["--run-id", coordinatorRunId .supply clock,
          "--concurrency", "2"] = some ["--run-id",
          coordinatorRunId .supply clock ++ ":attempt-" ++ toString attempt, "--concurrency", "2"] ∧
        withoutStores false ["--run-id",
          coordinatorRunId .supply clock ++ ":attempt-" ++ toString attempt, "--concurrency", "2"] =
          ["--run-id", coordinatorRunId .supply clock ++ ":attempt-" ++ toString attempt,
            "--concurrency", "2"] := by
      constructor
      · simp [scopeRunId, some_]
      · rw [withoutStores_keep (by decide) (by decide) (by decide), kept,
          withoutStores_keep (by decide) (by decide) (by decide),
          withoutStores_keep (by decide) (by decide) (by decide)]
        rfl
    obtain _ | _ | ⟨store, stores⟩ := stores <;>
      simp only [stageArgsForStores, if_true, runIdArgs, narrowed, Option.bind_eq_bind,
        Option.bind_some, Option.pure_def, Option.some.injEq] at called <;>
      subst called <;> simp [runIdOf]
  | daily =>
    obtain rfl | rfl : stage = _ ∨ stage = _ := by
      simpa [buildCoordinatorPlan, coordinatorStages] using mem
    · exact nomatch isScoped
    · exact nomatch isScoped
  | finance =>
    obtain rfl : stage = _ := by simpa [buildCoordinatorPlan, coordinatorStages] using mem
    exact nomatch isScoped
  | session =>
    obtain rfl | rfl | rfl | rfl | rfl : stage = _ ∨ stage = _ ∨ stage = _ ∨ stage = _ ∨ stage = _ := by
      simpa [buildCoordinatorPlan, coordinatorStages] using mem
    all_goals exact nomatch isScoped

/-- **Attempts are never reused**: over any activations of a run, with crashes anywhere between two steps,
the attempts a stage is launched with increase, so the run ids of an attempt-scoped stage are all
different; and a stage is not launched again once it is complete in the state file, or in the memory of an
activation that does not crash after that. -/
theorem attempts_never_reused (js : StageBuiltins) (task : CoordinatorTask) (clock : ShanghaiClock)
    (file : Option RunState) (moves : List Move) :
    let plan := buildCoordinatorPlan task clock
    let after (moves : List Move) := run (coordinatorStep js plan) { file := file } moves
    (∀ name, (attemptsOf (after moves).launches name).Pairwise (· < ·)) ∧
      (∀ stage ∈ plan.stages, stage.attemptScopedRunId = true →
        (runIdsOf (after moves) stage.name).Nodup) ∧
      ∀ pre post, moves = pre ++ post → ∀ name,
        (Recorded (after pre) name ∨ InMemory (after pre) name ∧ .crash ∉ post) →
        launchesOf (after moves) name = launchesOf (after pre) name := by
  intro plan after
  have sound (moves : List Move) : RunSound plan (after moves) :=
    run_invariant (runSound_step js) (runSound_start plan file) moves
  refine ⟨(sound moves).increasing, ?_, ?_⟩
  · intro stage mem isScoped
    have increasing := (sound moves).increasing stage.name
    unfold attemptsOf at increasing
    unfold runIdsOf launchesOf
    rw [List.pairwise_map] at increasing
    rw [List.Nodup, List.pairwise_map]
    have passes := scopesRunId_of_plan mem isScoped
    have runId {launch : Launch} (there : launch ∈ (after moves).launches.filter (·.stageName = stage.name)) :
        runIdOf launch.args =
          some (coordinatorRunId task clock ++ ":attempt-" ++ toString launch.attempt) := by
      obtain ⟨there, named⟩ := List.mem_filter.mp there
      obtain ⟨other, memOther, same, called⟩ := (sound moves).called launch there
      rw [decide_eq_true_eq] at named
      obtain rfl := List.inj_on_of_nodup_map plan.names memOther mem (same.trans named)
      exact passes _ _ _ called
    refine increasing.imp_of_mem fun {first second} memFirst memSecond less same => ?_
    rw [runId memFirst, runId memSecond] at same
    exact less.ne (attemptRunId_injective (Option.some.inj same))
  · rintro pre post rfl name complete
    have split : after (pre ++ post) = run (coordinatorStep js plan) (after pre) post := run_append _ _ _
    rw [split]
    rcases complete with recorded | ⟨inMemory, alive⟩
    · exact recorded_run (sound pre) recorded post
    · exact inMemory_run (sound pre) inMemory alive

end FullManagedBi.Coordinator
