import FullManagedBi.Backfill.Runner

/-!
# What the processing of one window may do

Everything a lane can do to the store and to the memory of its run while it is inside `processWindow`
is said once: `windowProtocol` is the calls it makes and in which order, and `processWindow_follows`
reads it off the program. A window fetches with consecutive ordinals, commits once, and sets the
checkpoint of its grain only where that commit advanced it.
-/

namespace FullManagedBi.Backfill

open Lib

/-! ## The gate -/

variable {B : CaseBuiltins} {ctx : RunContext} {checkpoint : Option CheckpointState} {window : Window}

variable {e : ExecutionStatus} {q : QualityStatus} {c : Option String} {n : OutcomeCounts}

@[simp] theorem outcome_executionStatus : (outcome e q c n).executionStatus = e := rfl

@[simp] theorem outcome_qualityStatus : (outcome e q c n).qualityStatus = q := rfl

@[simp] theorem outcome_counts : (outcome e q c n).counts = n := rfl

def IsEvaluated (status : ExecutionStatus) : Prop :=
  status = .blocked ∨ status = .failed ∨ status = .partial' ∨ status = .succeeded

theorem isEvaluated_ite {c : Prop} [Decidable c] {first second : WindowOutcome}
    (h : IsEvaluated first.executionStatus) (h' : IsEvaluated second.executionStatus) :
    IsEvaluated (if c then first else second).executionStatus := by
  split
  · exact h
  · exact h'

theorem isEvaluated_evaluateCounted {result : AdapterResult} {a r e o p : Nat} :
    IsEvaluated (evaluateCounted window result checkpoint a r e o p).executionStatus := by
  have failed : IsEvaluated .failed := .inr (.inl rfl)
  have partly : IsEvaluated .partial' := .inr (.inr (.inl rfl))
  have succeeded : IsEvaluated .succeeded := .inr (.inr (.inr rfl))
  unfold evaluateCounted
  iterate 2 apply isEvaluated_ite (by first | exact partly | exact failed)
  iterate 9 apply isEvaluated_ite (by first | exact failed | exact partly)
  split
  · exact failed
  · exact isEvaluated_ite failed succeeded

theorem isEvaluated_evaluateWindowOutcome (result : Option AdapterResult) :
    IsEvaluated (evaluateWindowOutcome window result checkpoint).executionStatus := by
  have failed : IsEvaluated .failed := .inr (.inl rfl)
  unfold evaluateWindowOutcome
  apply isEvaluated_ite (.inl rfl)
  cases result with
  | none => exact failed
  | some result =>
    apply isEvaluated_ite failed
    split
    · exact isEvaluated_evaluateCounted
    · exact failed

/-! ## The protocol -/

/-- How far the processing of a window is: it has made `n` fetches, its outcome was committed with this
reply, or the checkpoint it advanced is set. -/
inductive Phase where
  | attempting (n : Nat)
  | committed (commit : WindowCommit) (reply : Except JsError Persistence)
  | indexed (commit : WindowCommit)

def fetchOf (ctx : RunContext) (checkpoint : Option CheckpointState) (window : Window)
    (attempt : Nat) : FetchRequest where
  planHash := ctx.planHash
  storeCode := window.storeCode
  domain := window.domain
  windowStart := window.windowStart
  windowEnd := window.windowEnd
  windowKey := window.windowKey
  maxPages := window.maxPagesPerWindow
  maxRows := window.maxRowsPerWindow
  attempt
  checkpoint

def ExecuteContext.priorAttemptCount (run : ExecuteContext) (window : Window) : Nat :=
  (mapGet run.priorAttemptIndex window.windowKey).getD 0

/-- The commit of a window that is not fetched. -/
structure IsBlockCommit (run : ExecuteContext) (window : Window) (commit : WindowCommit) : Prop where
  sameRun : commit.backfillRunId = run.backfillRunId
  sameWindow : commit.window = window
  status : commit.outcome.executionStatus = .blocked
  attempts : commit.attemptCount = 0
  state : commit.checkpointState = none

/-- The commit of a window after `n` fetches: the attempts it counts are the fetches, unless the last
attempt was past the last ordinal. -/
structure IsOutcomeCommit (run : ExecuteContext) (checkpoint : Option CheckpointState)
    (window : Window) (n : Nat) (commit : WindowCommit) : Prop where
  sameRun : commit.backfillRunId = run.backfillRunId
  sameWindow : commit.window = window
  outcome : ∃ result, commit.outcome = evaluateWindowOutcome window result checkpoint
  attempts : commit.attemptCount = n ∧ 0 < n ∨
    commit.attemptCount = n + 1 ∧ maxAttemptOrdinal < run.priorAttemptCount window + (n + 1)
  state : commit.checkpointState =
    nextCheckpointState window commit.outcome checkpoint run.backfillRunId

def windowProtocol (ctx : RunContext) (checkpoint : Option CheckpointState) (window : Window) :
    Protocol Call Reply JsError Phase where
  allowed
    | .attempting n, .fetchWindow request => ∃ run, ctx.execute = some run ∧
        ctx.adapterKeys.contains window.adapterKey ∧
        request = fetchOf ctx checkpoint window (run.priorAttemptCount window + (n + 1)) ∧
        run.priorAttemptCount window + (n + 1) ≤ maxAttemptOrdinal
    | .attempting n, .commitWindowOutcome commit => ∃ run, ctx.execute = some run ∧
        (n = 0 ∧ IsBlockCommit run window commit ∨ IsOutcomeCommit run checkpoint window n commit)
    | .committed commit (.ok persistence), .setCheckpoint key state =>
        key = window.grainKey ∧ commit.checkpointState = some state ∧
          persistence.checkpointAdvanced = true
    | _, _ => False
  after
    | .attempting n, .fetchWindow _, _ => .attempting (n + 1)
    | .attempting _, .commitWindowOutcome commit, reply => .committed commit reply
    | .committed commit _, .setCheckpoint _ _, _ => .indexed commit
    | phase, _, _ => phase

/-- A window may end in this phase: nothing is left to set. -/
def Phase.Settled : Phase → Prop
  | .attempting n => n = 0
  | .committed commit (.ok persistence) =>
    persistence.checkpointAdvanced = false ∨ commit.checkpointState = none
  | .committed _ (.error _) => False
  | .indexed _ => True

/-- What the result of a window says. -/
structure IsResult (ctx : RunContext) (window : Window) (result : WindowResult) : Prop where
  sameWindow : result.window = window
  skipped : result.executionStatus = .skipped →
    ∃ run, ctx.execute = some run ∧ window.windowKey ∈ run.completedWindowKeys
  planned : result.executionStatus = .planned → ctx.execute = none
  running : result.executionStatus ≠ .running

def WindowEnds (ctx : RunContext) (window : Window) : Except JsError WindowResult → Phase → Prop
  | .ok result, phase => IsResult ctx window result ∧ phase.Settled
  | .error _, _ => True

theorem IsResult.of_evaluated {result : WindowResult} (same : result.window = window)
    (evaluated : IsEvaluated result.executionStatus) : IsResult ctx window result := by
  refine ⟨same, fun status => ?_, fun status => ?_, fun status => ?_⟩ <;>
    rw [status] at evaluated <;> rcases evaluated with h | h | h | h <;> exact nomatch h

/-! ## The program follows it -/

theorem blockWindow_follows (code : String) :
    Follows (windowProtocol ctx checkpoint window) (blockWindow ctx window code) (.attempting 0)
      (WindowEnds ctx window) := by
  have blocked (phase : Phase) (settled : phase.Settled) : WindowEnds ctx window (.ok {
      window, executionStatus := .blocked, qualityStatus := .unknown
      sanitizedErrorCode := some code }) phase :=
    ⟨.of_evaluated rfl (.inl rfl), settled⟩
  unfold blockWindow
  cases execute : ctx.execute with
  | none => exact blocked _ rfl
  | some run =>
    simp only
    rw [follows_bind, follows_perform]
    refine ⟨⟨run, execute, .inl ⟨rfl, rfl, rfl, rfl, rfl, rfl⟩⟩, fun reply => ?_⟩
    cases reply with
    | error e => trivial
    | ok persistence => exact blocked _ (.inr rfl)

theorem fetchWindow_follows {request : FetchRequest} {n : Nat}
    {Q : Except JsError (Option AdapterResult) → Phase → Prop}
    (allowed : (windowProtocol ctx checkpoint window).allowed (.attempting n) (.fetchWindow request))
    (next : ∀ result, Q (.ok result) (.attempting (n + 1))) :
    Follows (windowProtocol ctx checkpoint window) (fetchWindow B request) (.attempting n) Q := by
  unfold fetchWindow
  rw [follows_tryCatch, follows_perform]
  refine ⟨allowed, fun reply => ?_⟩
  cases reply with
  | error e => exact next _
  | ok result => exact next result

def AttemptsEnd (run : ExecuteContext) (checkpoint : Option CheckpointState) (window : Window) :
    Except JsError (WindowOutcome × Nat) → Phase → Prop :=
  Post (fun ended phase => ∃ fetches, phase = .attempting fetches ∧
      (∃ result, ended.1 = evaluateWindowOutcome window result checkpoint) ∧
      (ended.2 = fetches ∧ 0 < fetches ∨ ended.2 = fetches + 1 ∧
        maxAttemptOrdinal < run.priorAttemptCount window + (fetches + 1)))
    fun _ _ => False

theorem attempt_follows {run : ExecuteContext} (execute : ctx.execute = some run)
    (registered : ctx.adapterKeys.contains window.adapterKey) {more n : Nat}
    (rest : ∀ m, more = m + 1 → Follows (windowProtocol ctx checkpoint window)
      (attemptWindow B ctx checkpoint window (run.priorAttemptCount window) m (n + 1 + 1))
      (.attempting (n + 1)) (AttemptsEnd run checkpoint window)) : Follows (windowProtocol ctx checkpoint window)
      (attemptWindow B ctx checkpoint window (run.priorAttemptCount window) more (n + 1))
      (.attempting n) (AttemptsEnd run checkpoint window) := by
  unfold attemptWindow
  simp only
  split
  · rename_i past
    exact ⟨n, rfl, ⟨some attemptLimitResult, rfl⟩, .inr ⟨rfl, past⟩⟩
  · rename_i within
    rw [follows_bind]
    refine fetchWindow_follows ⟨run, execute, registered, rfl, Nat.le_of_not_lt within⟩ fun result => ?_
    have ends : AttemptsEnd run checkpoint window
        (.ok (evaluateWindowOutcome window result checkpoint, n + 1)) (.attempting (n + 1)) :=
      ⟨n + 1, rfl, ⟨result, rfl⟩, .inl ⟨rfl, Nat.succ_pos n⟩⟩
    rw [post_ok]
    split
    · exact ends
    split
    · exact ends
    cases more with
    | zero => exact ends
    | succ more => exact rest more rfl

/-- The attempts of a window: the outcome is evaluated from the last result, and the attempts are
counted. -/
theorem attemptWindow_follows {run : ExecuteContext} (execute : ctx.execute = some run)
    (registered : ctx.adapterKeys.contains window.adapterKey) (more n : Nat) :
    Follows (windowProtocol ctx checkpoint window)
      (attemptWindow B ctx checkpoint window (run.priorAttemptCount window) more (n + 1))
      (.attempting n) (AttemptsEnd run checkpoint window) := by
  induction more generalizing n with
  | zero => exact attempt_follows execute registered nofun
  | succ more ih =>
    refine attempt_follows execute registered fun m same => ?_
    obtain rfl : more = m := Nat.succ.inj same
    exact ih (n + 1)

/-- **Everything the processing of a window may do.** -/
theorem processWindow_follows : Follows (windowProtocol ctx checkpoint window) (processWindow B ctx checkpoint window)
      (.attempting 0) (WindowEnds ctx window) := by
  unfold processWindow
  split
  · exact blockWindow_follows _
  · cases execute : ctx.execute with
    | none =>
      refine ⟨⟨rfl, nofun, fun _ => execute, nofun⟩, rfl⟩
    | some run =>
      simp only
      split
      · rename_i completed
        refine ⟨⟨rfl, fun _ => ⟨run, execute, by simpa using completed⟩, nofun, nofun⟩, rfl⟩
      split
      · exact blockWindow_follows _
      rename_i unregistered
      have registered : ctx.adapterKeys.contains window.adapterKey := by simpa using unregistered
      rw [follows_bind]
      refine (attemptWindow_follows execute registered (window.maxAttempts - 1) 0).mono fun r phase ended => ?_
      cases r with
      | error e => exact ended.elim
      | ok evaluated =>
        obtain ⟨outcome, attemptCount⟩ := evaluated
        obtain ⟨fetches, rfl, result, attempts⟩ := ended
        obtain ⟨evaluatedBy, rfl⟩ := result
        rw [post_ok]
        simp only
        rw [follows_bind, follows_perform]
        refine ⟨⟨run, execute, .inr ⟨rfl, rfl, ⟨evaluatedBy, rfl⟩, attempts, rfl⟩⟩, fun reply => ?_⟩
        have evaluated : IsEvaluated
            (evaluateWindowOutcome window evaluatedBy checkpoint).executionStatus :=
          isEvaluated_evaluateWindowOutcome evaluatedBy
        cases reply with
        | error e => trivial
        | ok persistence =>
          simp only [post_ok]
          split
          · trivial
          split
          · rename_i advanced state
            rw [follows_bind, follows_perform]
            refine ⟨⟨rfl, state, advanced⟩, fun reply => ?_⟩
            cases reply with
            | error e => trivial
            | ok _ => exact ⟨.of_evaluated rfl evaluated, trivial⟩
          · rename_i unset
            refine ⟨.of_evaluated rfl evaluated, ?_⟩
            cases advanced : persistence.checkpointAdvanced with
            | false => exact .inl advanced
            | true =>
              refine .inr (Option.eq_none_iff_forall_ne_some.mpr fun state set => ?_)
              exact unset state advanced set

end FullManagedBi.Backfill
