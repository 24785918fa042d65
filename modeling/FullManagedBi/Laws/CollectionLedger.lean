import FullManagedBi.Collection.FactRepository
import FullManagedBi.Lib.Run

/-!
# The v4 ledger

Every transaction of the fact repository inserts one run, moves one run, inserts one attempt, moves one
attempt, or leaves both tables alone (`transaction_effect`). `Ledger.Sound` is what these five keep
(`Effect.sound`), and with it `runSound_iff` says what the ledger promises of a run: a succeeded run is
closed (`Ledger.Sound.succeeded`), what is terminal stays (`run_terminalRun`, `run_terminalAttempt`), and
a run can be moved to `FAILED` exactly when it has reached `RUNNING`.
-/

namespace FullManagedBi.Collection

open Lib

variable {B : LedgerBuiltins} {ledger after : Ledger}

/-! ## What each statement checks -/

theorem insertRun_ok {run : CollectionRun} : ledger.insertRun run = .ok after ↔
      guardCollectionRunState ledger none run = .ok () ∧ checkCollectionRun run = .ok () ∧
        (∀ other ∈ ledger.runs, other.runKey ≠ run.runKey) ∧
        { ledger with runs := ledger.runs ++ [run], nextRunId := ledger.nextRunId + 1 } = after := by
  simp only [Ledger.insertRun, check_ok_iff, refuse_eq_ok, not_exists, not_and, pure,
    Except.pure, Except.ok.injEq, ne_eq]

theorem updateRun_ok {old new : CollectionRun} : ledger.updateRun old new = .ok after ↔
      guardCollectionRunState ledger (some old) new = .ok () ∧ checkCollectionRun new = .ok () ∧
        { ledger with runs := updateWhere (·.runKey = old.runKey) (fun _ => new) ledger.runs } = after := by
  simp only [Ledger.updateRun, check_ok_iff, pure, Except.pure, Except.ok.injEq]

theorem insertAttempt_ok {attempt : CollectionAttempt} : ledger.insertAttempt attempt = .ok after ↔
      guardCollectionAttemptTerminal ledger none attempt = .ok () ∧
        checkCollectionAttempt attempt = .ok () ∧
        (∀ other ∈ ledger.attempts, other.attemptKey ≠ attempt.attemptKey) ∧
        (∀ other ∈ ledger.attempts,
          ¬other.AtGrain attempt.collectionRunId attempt.storeCode attempt.endpointCode) ∧
        { ledger with
          attempts := ledger.attempts ++ [attempt], nextAttemptId := ledger.nextAttemptId + 1 } = after := by
  simp only [Ledger.insertAttempt, check_ok_iff, refuse_eq_ok, not_exists, not_and,
    pure, Except.pure, Except.ok.injEq, ne_eq]

theorem updateAttempt_ok {old new : CollectionAttempt} : ledger.updateAttempt old new = .ok after ↔
      guardCollectionAttemptTerminal ledger (some old) new = .ok () ∧
        checkCollectionAttempt new = .ok () ∧
        { ledger with
          attempts := updateWhere (·.attemptKey = old.attemptKey) (fun _ => new) ledger.attempts } = after := by
  simp only [Ledger.updateAttempt, check_ok_iff, pure, Except.pure, Except.ok.injEq]

structure RunGuarded (ledger : Ledger) (old : Option CollectionRun) (new : CollectionRun) : Prop where
  move : guardRunMove old new = .ok ()
  roster : guardRunRoster new = .ok ()
  times : guardRunTimes new = .ok ()
  attempts : guardRunAttempts ledger new = .ok ()

theorem guardCollectionRunState_ok {old : Option CollectionRun} {new : CollectionRun} :
    guardCollectionRunState ledger old new = .ok () ↔ RunGuarded ledger old new := by
  simp only [guardCollectionRunState, check_ok_iff]
  constructor
  · rintro ⟨move, roster, times, attempts⟩
    exact ⟨move, roster, times, attempts⟩
  · intro guarded
    exact ⟨guarded.move, guarded.roster, guarded.times, guarded.attempts⟩

theorem guardRunMove_some {old new : CollectionRun} :
    guardRunMove (some old) new = .ok () ↔ old.SamePlan new ∧ new.runStatus ∈ old.runStatus.next := by
  simp only [guardRunMove, check_ok_iff, refuse_eq_ok, not_not]

theorem guardRunMove_none {new : CollectionRun} : guardRunMove none new = .ok () ↔
      new.runStatus = .planned ∧ new.startedAt = none ∧ new.completedAt = none := by
  simp only [guardRunMove, check_ok_iff, refuse_eq_ok, not_not, not_or, ne_eq]

theorem guardRunTimes_ok {new : CollectionRun} : guardRunTimes new = .ok () ↔
      ((new.runStatus = .running ∨ new.runStatus = .succeeded ∨ new.runStatus = .partly) →
        new.startedAt ≠ none) ∧
      (new.runStatus.Terminal → new.completedAt ≠ none) ∧
      (new.runStatus = .failed → new.sanitizedErrorCode ≠ none) := by
  simp only [guardRunTimes, check_ok_iff, refuse_eq_ok, not_and, ne_eq]

theorem guardRunAttempts_ok {new : CollectionRun} : guardRunAttempts ledger new = .ok () ↔
      ((new.runStatus = .succeeded ∨ new.runStatus = .partly ∨ new.runStatus = .failed) →
        ∀ attempt ∈ ledger.attemptsOf new.collectionRunId, ¬attempt.attemptStatus.Open) ∧
      (new.runStatus = .succeeded → (ledger.attemptsOf new.collectionRunId).length =
            new.expectedStoreCount * new.expectedEndpointCount ∧
          ∀ attempt ∈ ledger.attemptsOf new.collectionRunId, attempt.attemptStatus = .succeeded) ∧
      (new.runStatus = .partly → ledger.attemptsOf new.collectionRunId ≠ []) := by
  simp only [guardRunAttempts, check_ok_iff, refuse_eq_ok, not_and, not_exists, not_or,
    not_not, ne_eq, List.countP_eq_zero, decide_eq_true_eq]

/-- What the guard of an attempt checks. -/
structure AttemptGuarded (ledger : Ledger) (old : Option CollectionAttempt) (new : CollectionAttempt) :
    Prop where
  move : guardAttemptMove ledger old new = .ok ()
  columns : guardAttemptColumns new = .ok ()
  evidence : guardAttemptEvidence ledger new = .ok ()

theorem guardCollectionAttemptTerminal_ok {old : Option CollectionAttempt} {new : CollectionAttempt} :
    guardCollectionAttemptTerminal ledger old new = .ok () ↔ AttemptGuarded ledger old new := by
  simp only [guardCollectionAttemptTerminal, check_ok_iff]
  constructor
  · rintro ⟨move, columns, evidence⟩
    exact ⟨move, columns, evidence⟩
  · intro guarded
    exact ⟨guarded.move, guarded.columns, guarded.evidence⟩

theorem guardAttemptMove_some {old new : CollectionAttempt} : guardAttemptMove ledger (some old) new = .ok () ↔
      old.SameRequest new ∧ new.attemptStatus ∈ old.attemptStatus.next := by
  simp only [guardAttemptMove, check_ok_iff, refuse_eq_ok, not_not]

theorem guardAttemptMove_none {new : CollectionAttempt} : guardAttemptMove ledger none new = .ok () ↔
      (new.attemptStatus = .planned ∨ new.attemptStatus = .blocked ∨ new.attemptStatus = .unknown) ∧
      (∀ run ∈ ledger.runs, run.collectionRunId = new.collectionRunId → ¬run.runStatus.Terminal) ∧
      ∃ run ∈ ledger.runs, run.collectionRunId = new.collectionRunId ∧
        new.storeCode ∈ run.storeCodes ∧ new.endpointCode ∈ run.endpointCodes := by
  simp only [guardAttemptMove, check_ok_iff, refuse_eq_ok, not_not]
  refine and_congr_right fun _ => and_congr_left fun _ => ?_
  simp only [not_exists, not_and]

/-! ## What a transaction does to the runs and the attempts -/

/-- The runs, the attempts and what new runs depend on are left alone. -/
structure LeavesAlone (ledger after : Ledger) : Prop where
  clock : after.clock = ledger.clock
  runs : after.runs = ledger.runs
  attempts : after.attempts = ledger.attempts
  nextRunId : after.nextRunId = ledger.nextRunId

theorem LeavesAlone.rfl : LeavesAlone ledger ledger := ⟨Eq.refl _, Eq.refl _, Eq.refl _, Eq.refl _⟩

inductive Effect (ledger : Ledger) : Ledger → Prop
  | evidence {after : Ledger} (same : LeavesAlone ledger after) : Effect ledger after
  | runInserted {after : Ledger} {run : CollectionRun} (id : run.collectionRunId = ledger.nextRunId)
      (inserted : ledger.insertRun run = .ok after) : Effect ledger after
  | runMoved {after : Ledger} {old : CollectionRun} {arguments : TransitionRunArguments}
      (found : ledger.findRun arguments.runKey = some old)
      (updated : ledger.updateRun old (old.moved ledger.clock arguments) = .ok after) :
      Effect ledger after
  | attemptInserted {after : Ledger} {attempt : CollectionAttempt} (unstarted : attempt.startedAt = none)
      (inserted : ledger.insertAttempt attempt = .ok after) : Effect ledger after
  | attemptMoved {after : Ledger} {old : CollectionAttempt} {arguments : TransitionAttemptArguments}
      (found : ledger.findAttempt arguments.attemptKey = some old)
      (updated : ledger.updateAttempt old (old.moved ledger.clock arguments) = .ok after) :
      Effect ledger after

theorem createCollectionRun_effect {arguments : CreateRunArguments} {reply : RunAnswer}
    (h : createCollectionRun B arguments ledger = .ok (reply, after)) : Effect ledger after := by
  obtain ⟨window, -, h⟩ := bind_eq_ok h
  split at h
  · obtain ⟨-, -, h⟩ := bind_eq_ok h
    obtain ⟨-, rfl⟩ := Prod.mk.inj (Except.ok.inj h)
    exact .evidence .rfl
  · obtain ⟨stored, -, h⟩ := bind_eq_ok h
    obtain ⟨after', inserted, h⟩ := bind_eq_ok h
    obtain ⟨-, rfl⟩ := Prod.mk.inj (Except.ok.inj h)
    exact .runInserted rfl inserted

theorem transitionRun_ok {arguments : TransitionRunArguments} {reply : RunAnswer} :
    transitionRun arguments ledger = .ok (reply, after) ↔
      isSha256Hex arguments.runKey ∧ ¬(arguments.sanitizedErrorCode.any fun code => !isErrorCode code) ∧
      ∃ old, ledger.findRun arguments.runKey = some old ∧
        ¬((arguments.status = .succeeded ∨ arguments.status = .partly) ∧ old.startedAt = none) ∧
        ledger.updateRun old (old.moved ledger.clock arguments) = .ok after ∧
        ⟨old.collectionRunId, arguments.status, false⟩ = reply := by
  simp only [transitionRun, requireHex64, requireErrorCode, bind_eq_ok_iff, refuse_eq_ok, exists_const,
    not_not]
  refine and_congr_right fun _ => and_congr_right fun _ => ?_
  cases ledger.findRun arguments.runKey with
  | none =>
    refine iff_of_false (fun h => by cases h) ?_
    rintro ⟨old, found, -⟩
    cases found
  | some row =>
    simp only [bind_eq_ok_iff, refuse_eq_ok, exists_const, Option.some.injEq, exists_eq_left', pure,
      Except.pure, Except.ok.injEq, Prod.mk.injEq]
    constructor
    · rintro ⟨started, after', updated, rfl, rfl⟩
      exact ⟨started, updated, rfl⟩
    · rintro ⟨started, updated, rfl⟩
      exact ⟨started, after, updated, rfl, rfl⟩

theorem transitionRun_effect {arguments : TransitionRunArguments} {reply : RunAnswer}
    (h : transitionRun arguments ledger = .ok (reply, after)) : Effect ledger after := by
  obtain ⟨-, -, old, found, -, updated, -⟩ := transitionRun_ok.mp h
  exact .runMoved found updated

theorem beginAttempt_effect {arguments : BeginAttemptArguments} {reply : AttemptAnswer}
    (h : beginAttempt B arguments ledger = .ok (reply, after)) : Effect ledger after := by
  obtain ⟨window, -, h⟩ := bind_eq_ok h
  split at h
  · exact nomatch h
  · obtain ⟨-, -, h⟩ := bind_eq_ok h
    split at h
    · obtain ⟨-, -, h⟩ := bind_eq_ok h
      obtain ⟨-, rfl⟩ := Prod.mk.inj (Except.ok.inj h)
      exact .evidence .rfl
    · obtain ⟨stored, -, h⟩ := bind_eq_ok h
      obtain ⟨after', inserted, h⟩ := bind_eq_ok h
      obtain ⟨-, rfl⟩ := Prod.mk.inj (Except.ok.inj h)
      exact .attemptInserted rfl inserted

theorem transitionAttempt_ok {arguments : TransitionAttemptArguments} {reply : AttemptAnswer} :
    transitionAttempt arguments ledger = .ok (reply, after) ↔
      checkTransitionAttempt arguments = .ok () ∧
      ∃ old, ledger.findAttempt arguments.attemptKey = some old ∧
        ¬((arguments.status = .succeeded ∨ arguments.status = .partly) ∧ old.startedAt = none) ∧
        ledger.updateAttempt old (old.moved ledger.clock arguments) = .ok after ∧
        ⟨old.collectionAttemptId, arguments.status, old.attemptKey, false⟩ = reply := by
  simp only [transitionAttempt, check_ok_iff]
  refine and_congr_right fun _ => ?_
  cases ledger.findAttempt arguments.attemptKey with
  | none =>
    refine iff_of_false (fun h => by cases h) ?_
    rintro ⟨old, found, -⟩
    cases found
  | some row =>
    simp only [bind_eq_ok_iff, refuse_eq_ok, exists_const, Option.some.injEq, exists_eq_left', pure,
      Except.pure, Except.ok.injEq, Prod.mk.injEq]
    constructor
    · rintro ⟨started, after', updated, rfl, rfl⟩
      exact ⟨started, updated, rfl⟩
    · rintro ⟨started, updated, rfl⟩
      exact ⟨started, after, updated, rfl, rfl⟩

theorem transitionAttempt_effect {arguments : TransitionAttemptArguments} {reply : AttemptAnswer}
    (h : transitionAttempt arguments ledger = .ok (reply, after)) : Effect ledger after := by
  obtain ⟨-, old, found, -, updated, -⟩ := transitionAttempt_ok.mp h
  exact .attemptMoved found updated

theorem insertPage_same {attempt : CollectionAttempt} {page : PageArguments} {content : PageContent}
    (h : ledger.insertPage B attempt page content = .ok after) : LeavesAlone ledger after := by
  unfold Ledger.insertPage at h
  split at h
  · exact nomatch h
  · obtain ⟨-, -, h⟩ := bind_eq_ok h
    obtain ⟨-, -, h⟩ := bind_eq_ok h
    obtain rfl := Except.ok.inj h
    exact ⟨rfl, rfl, rfl, rfl⟩

theorem storePage_same {attempt : CollectionAttempt} {page : PageArguments} {content : PageContent}
    {stored : Nat × Bool} (h : ledger.storePage B attempt page content = .ok (stored, after)) :
    LeavesAlone ledger after := by
  unfold Ledger.storePage at h
  split at h
  · obtain ⟨-, -, h⟩ := bind_eq_ok h
    obtain ⟨-, rfl⟩ := Prod.mk.inj (Except.ok.inj h)
    exact .rfl
  · obtain ⟨-, -, h⟩ := bind_eq_ok h
    obtain ⟨after', inserted, h⟩ := bind_eq_ok h
    obtain ⟨-, rfl⟩ := Prod.mk.inj (Except.ok.inj h)
    exact insertPage_same inserted

theorem recordPageEvidence_effect {page : PageArguments} {content : PageContent} {reply : PageAnswer}
    (h : recordPageEvidence B page content ledger = .ok (reply, after)) : Effect ledger after := by
  simp only [recordPageEvidence, bind_eq_ok_iff] at h
  obtain ⟨-, -, -, -, -, -, -, -, -, -, -, -, -, -, -, -, -, -, -, -, -, -, attempt, -, stored, kept, h⟩ := h
  obtain ⟨-, rfl⟩ := Prod.mk.inj (Except.ok.inj h)
  exact .evidence (storePage_same kept)

theorem insertFacts_same {facts : List FactRow} (h : ledger.insertFacts B facts = .ok after) :
    LeavesAlone ledger after := by
  unfold Ledger.insertFacts at h
  split at h
  · exact nomatch h
  · obtain rfl := Except.ok.inj h
    exact ⟨rfl, rfl, rfl, rfl⟩

theorem LeavesAlone.trans {between : Ledger} (first : LeavesAlone ledger between)
    (second : LeavesAlone between after) : LeavesAlone ledger after :=
  ⟨second.clock.trans first.clock, second.runs.trans first.runs,
    second.attempts.trans first.attempts, second.nextRunId.trans first.nextRunId⟩

theorem insertTypedFacts_effect {arguments : FactArguments} {reply : FactAnswer}
    (h : insertTypedFacts B arguments ledger = .ok (reply, after)) : Effect ledger after := by
  simp only [insertTypedFacts, bind_eq_ok_iff] at h
  obtain ⟨-, -, -, -, -, -, -, -, -, -, -, -, -, -, -, -, -, -, typed, -, attempt, -, stored, kept, rows, -,
    last, inserted, -, -, h⟩ := h
  obtain ⟨-, rfl⟩ := Prod.mk.inj (Except.ok.inj h)
  exact .evidence ((storePage_same kept).trans (insertFacts_same inserted))

theorem recordCapabilityObservation_effect {arguments : CapabilityArguments} {reply : CapabilityAnswer}
    (h : recordCapabilityObservation B arguments ledger = .ok (reply, after)) : Effect ledger after := by
  simp only [recordCapabilityObservation, bind_eq_ok_iff] at h
  obtain ⟨-, -, -, -, -, -, -, -, -, -, -, -, h⟩ := h
  split at h
  · exact nomatch h
  · obtain ⟨-, -, h⟩ := bind_eq_ok h
    split at h
    · obtain ⟨-, -, h⟩ := bind_eq_ok h
      obtain ⟨-, rfl⟩ := Prod.mk.inj (Except.ok.inj h)
      exact .evidence .rfl
    · split at h
      · exact nomatch h
      · obtain ⟨-, -, h⟩ := bind_eq_ok h
        obtain ⟨-, rfl⟩ := Prod.mk.inj (Except.ok.inj h)
        exact .evidence ⟨rfl, rfl, rfl, rfl⟩

theorem insertCoverage_same {coverage : CollectionCoverage}
    (h : ledger.insertCoverage coverage = .ok after) : LeavesAlone ledger after := by
  obtain ⟨-, -, h⟩ := bind_eq_ok h
  obtain ⟨-, -, h⟩ := bind_eq_ok h
  obtain rfl := Except.ok.inj h
  exact ⟨rfl, rfl, rfl, rfl⟩

theorem finalizeCoverage_effect {arguments : CoverageArguments} {reply : CoverageAnswer}
    (h : finalizeCoverage arguments ledger = .ok (reply, after)) : Effect ledger after := by
  simp only [finalizeCoverage, bind_eq_ok_iff] at h
  obtain ⟨-, -, -, -, h⟩ := h
  split at h
  · exact nomatch h
  · obtain ⟨-, -, h⟩ := bind_eq_ok h
    split at h
    · obtain ⟨-, -, h⟩ := bind_eq_ok h
      obtain ⟨-, rfl⟩ := Prod.mk.inj (Except.ok.inj h)
      exact .evidence .rfl
    · obtain ⟨after', inserted, h⟩ := bind_eq_ok h
      obtain ⟨-, rfl⟩ := Prod.mk.inj (Except.ok.inj h)
      exact .evidence (insertCoverage_same inserted)

/-- **A transaction inserts or moves one run or one attempt, or leaves both tables alone.** -/
theorem transaction_effect {call : LedgerCall} {reply : call.Reply}
    (h : transaction B call ledger = .ok (reply, after)) : Effect ledger after := by
  cases call with
  | createCollectionRun arguments => exact createCollectionRun_effect h
  | transitionRun arguments => exact transitionRun_effect h
  | beginAttempt arguments => exact beginAttempt_effect h
  | transitionAttempt arguments => exact transitionAttempt_effect h
  | recordCapabilityObservation arguments => exact recordCapabilityObservation_effect h
  | recordPageEvidence page content => exact recordPageEvidence_effect h
  | finalizeCoverage arguments => exact finalizeCoverage_effect h
  | insertTypedFacts arguments => exact insertTypedFacts_effect h

theorem perform_of_ok {call : LedgerCall} {reply : call.Reply} (h : transaction B call ledger = .ok (reply, after)) :
    perform B call ledger = (.ok reply, after) := by
  unfold perform
  rw [h]

theorem perform_of_error {call : LedgerCall} {e : JsError} (h : transaction B call ledger = .error e) :
    perform B call ledger = (.error e, ledger) := by
  unfold perform
  rw [h]

theorem ledgerStep_of_ok {step : LedgerStep} {reply : step.call.Reply}
    (h : transaction B step.call (ledger.wait step.elapsed) = .ok (reply, after)) :
    ledgerStep B ledger step = after := by
  unfold ledgerStep
  rw [perform_of_ok h]

theorem ledgerStep_of_error {step : LedgerStep} {e : JsError}
    (h : transaction B step.call (ledger.wait step.elapsed) = .error e) :
    ledgerStep B ledger step = ledger.wait step.elapsed := by
  unfold ledgerStep
  rw [perform_of_error h]

theorem perform_effect (call : LedgerCall) : Effect ledger (perform B call ledger).2 := by
  unfold perform
  split
  · rename_i reply after done
    exact transaction_effect done
  · exact .evidence .rfl

/-! ## The invariant -/

def CollectionAttempt.grain (attempt : CollectionAttempt) : Nat × String × String :=
  (attempt.collectionRunId, attempt.storeCode, attempt.endpointCode)

structure Ledger.Sound (ledger : Ledger) : Prop where
  runKeys : (ledger.runs.map (·.runKey)).Nodup
  runIds : (ledger.runs.map (·.collectionRunId)).Nodup
  runIdsBelow : ∀ run ∈ ledger.runs, run.collectionRunId < ledger.nextRunId
  roster : ∀ run ∈ ledger.runs, guardRunRoster run = .ok ()
  runChecked : ∀ run ∈ ledger.runs, checkCollectionRun run = .ok ()
  unstarted : ∀ run ∈ ledger.runs, run.runStatus = .planned ∨ run.runStatus = .preflightPassed →
    run.startedAt = none
  started : ∀ run ∈ ledger.runs, run.runStatus = .running →
    ∃ started ∈ run.startedAt, started ≤ ledger.clock
  attemptKeys : (ledger.attempts.map (·.attemptKey)).Nodup
  grains : (ledger.attempts.map CollectionAttempt.grain).Nodup
  attemptChecked : ∀ attempt ∈ ledger.attempts, checkCollectionAttempt attempt = .ok ()
  attemptStarted : ∀ attempt ∈ ledger.attempts, ∀ started ∈ attempt.startedAt, started ≤ ledger.clock
  attemptRun : ∀ attempt ∈ ledger.attempts, ∃ run ∈ ledger.runs,
    run.collectionRunId = attempt.collectionRunId ∧ attempt.storeCode ∈ run.storeCodes ∧
      attempt.endpointCode ∈ run.endpointCodes
  closed : ∀ run ∈ ledger.runs, run.runStatus = .succeeded →
    (ledger.attempts.map (·.collectionRunId)).count run.collectionRunId =
        run.expectedStoreCount * run.expectedEndpointCount ∧
      ∀ attempt ∈ ledger.attempts, attempt.collectionRunId = run.collectionRunId →
        attempt.attemptStatus = .succeeded

theorem Ledger.Sound.empty : Ledger.Sound {} where
  runKeys := List.nodup_nil
  runIds := List.nodup_nil
  runIdsBelow _ mem := nomatch mem
  roster _ mem := nomatch mem
  runChecked _ mem := nomatch mem
  unstarted _ mem := nomatch mem
  started _ mem := nomatch mem
  attemptKeys := List.nodup_nil
  grains := List.nodup_nil
  attemptChecked _ mem := nomatch mem
  attemptStarted _ mem := nomatch mem
  attemptRun _ mem := nomatch mem
  closed _ mem := nomatch mem

theorem Ledger.Sound.wait (sound : ledger.Sound) (elapsed : Nat) : (ledger.wait elapsed).Sound :=
  { sound with
    started := by
      intro run mem running
      obtain ⟨started, there, le⟩ := sound.started run mem running
      exact ⟨started, there, le.trans (Nat.le_add_right _ _)⟩
    attemptStarted := fun attempt mem started there =>
      (sound.attemptStarted attempt mem started there).trans (Nat.le_add_right _ _) }

theorem LeavesAlone.sound (same : LeavesAlone ledger after) (sound : ledger.Sound) : after.Sound where
  runKeys := by rw [same.runs]; exact sound.runKeys
  runIds := by rw [same.runs]; exact sound.runIds
  runIdsBelow := by rw [same.runs, same.nextRunId]; exact sound.runIdsBelow
  roster := by rw [same.runs]; exact sound.roster
  runChecked := by rw [same.runs]; exact sound.runChecked
  unstarted := by rw [same.runs]; exact sound.unstarted
  started := by rw [same.runs, same.clock]; exact sound.started
  attemptKeys := by rw [same.attempts]; exact sound.attemptKeys
  grains := by rw [same.attempts]; exact sound.grains
  attemptChecked := by rw [same.attempts]; exact sound.attemptChecked
  attemptStarted := by rw [same.attempts, same.clock]; exact sound.attemptStarted
  attemptRun := by rw [same.attempts, same.runs]; exact sound.attemptRun
  closed := by rw [same.attempts, same.runs]; exact sound.closed

/-! ### Rows found by their key -/

theorem findRun_mem {runKey : String} {run : CollectionRun} (found : ledger.findRun runKey = some run) :
    run ∈ ledger.runs ∧ run.runKey = runKey :=
  ⟨List.mem_of_find?_eq_some found, by simpa using List.find?_some found⟩

theorem findAttempt_mem {attemptKey : String} {attempt : CollectionAttempt}
    (found : ledger.findAttempt attemptKey = some attempt) :
    attempt ∈ ledger.attempts ∧ attempt.attemptKey = attemptKey :=
  ⟨List.mem_of_find?_eq_some found, by simpa using List.find?_some found⟩

theorem Ledger.Sound.runOfId (sound : ledger.Sound) {run other : CollectionRun}
    (mem : run ∈ ledger.runs) (mem' : other ∈ ledger.runs)
    (same : run.collectionRunId = other.collectionRunId) : run = other :=
  List.inj_on_of_nodup_map sound.runIds mem mem' same

theorem Ledger.Sound.attemptOfKey (sound : ledger.Sound) {attempt other : CollectionAttempt}
    (mem : attempt ∈ ledger.attempts) (mem' : other ∈ ledger.attempts)
    (same : attempt.attemptKey = other.attemptKey) : attempt = other :=
  List.inj_on_of_nodup_map sound.attemptKeys mem mem' same

/-! ### Each effect -/

theorem runInserted_sound {run : CollectionRun} (sound : ledger.Sound)
    (id : run.collectionRunId = ledger.nextRunId) (inserted : ledger.insertRun run = .ok after) : after.Sound := by
  obtain ⟨guarded, checked, fresh, rfl⟩ := insertRun_ok.mp inserted
  rw [guardCollectionRunState_ok] at guarded
  obtain ⟨planned, unstarted, -⟩ := guardRunMove_none.mp guarded.move
  constructor
  · exact nodup_map_concat sound.runKeys fresh
  · refine nodup_map_concat sound.runIds fun row there => ?_
    rw [id]
    exact (sound.runIdsBelow row there).ne
  · refine forall_mem_concat (fun r mem => (sound.runIdsBelow r mem).trans (Nat.lt_succ_self _)) ?_
    rw [id]
    exact Nat.lt_succ_self _
  · exact forall_mem_concat sound.roster guarded.roster
  · exact forall_mem_concat sound.runChecked checked
  · exact forall_mem_concat sound.unstarted fun _ => unstarted
  · refine forall_mem_concat sound.started fun running => ?_
    rw [planned] at running
    exact nomatch running
  · exact sound.attemptKeys
  · exact sound.grains
  · exact sound.attemptChecked
  · exact sound.attemptStarted
  · intro attempt mem
    obtain ⟨r, there, rest⟩ := sound.attemptRun attempt mem
    exact ⟨r, List.mem_append_left _ there, rest⟩
  · refine forall_mem_concat sound.closed fun succeeded => ?_
    rw [planned] at succeeded
    exact nomatch succeeded

theorem runMoved_sound {old : CollectionRun} {arguments : TransitionRunArguments} (sound : ledger.Sound)
    (found : ledger.findRun arguments.runKey = some old)
    (updated : ledger.updateRun old (old.moved ledger.clock arguments) = .ok after) : after.Sound := by
  obtain ⟨mem, -⟩ := findRun_mem found
  obtain ⟨guarded, checked, rfl⟩ := updateRun_ok.mp updated
  rw [guardCollectionRunState_ok] at guarded
  obtain ⟨-, next⟩ := guardRunMove_some.mp guarded.move
  have next : arguments.status ∈ old.runStatus.next := next
  have each {P : CollectionRun → Prop} (others : ∀ r ∈ ledger.runs, P r)
      (new : P (old.moved ledger.clock arguments)) :
      ∀ r ∈ updateWhere (·.runKey = old.runKey) (fun _ => old.moved ledger.clock arguments) ledger.runs,
        P r := by
    intro r there
    rcases (mem_updateWhere_key sound.runKeys mem).mp there with rfl | ⟨there, -⟩
    · exact new
    · exact others r there
  have kept {κ : Type} (column : CollectionRun → κ)
      (same : column (old.moved ledger.clock arguments) = column old) :
      (updateWhere (·.runKey = old.runKey) (fun _ => old.moved ledger.clock arguments)
        ledger.runs).map column = ledger.runs.map column :=
    map_updateWhere_key sound.runKeys mem same
  constructor
  · exact (kept (·.runKey) rfl).symm ▸ sound.runKeys
  · exact (kept (·.collectionRunId) rfl).symm ▸ sound.runIds
  · exact each sound.runIdsBelow (sound.runIdsBelow old mem)
  · exact each sound.roster guarded.roster
  · exact each sound.runChecked checked
  · refine each sound.unstarted fun early => ?_
    have early : arguments.status = .planned ∨ arguments.status = .preflightPassed := early
    have before : old.runStatus = .planned := by
      cases status : old.runStatus <;> rcases early with early | early <;>
        simp [status, early, RunStatus.next] at next ⊢
    have notRunning : arguments.status ≠ .running := by
      rcases early with early | early <;> rw [early] <;> decide
    show (if arguments.status = .running then some ledger.clock else old.startedAt) = none
    rw [if_neg notRunning]
    exact sound.unstarted old mem (.inl before)
  · refine each sound.started fun running => ?_
    have running : arguments.status = .running := running
    exact ⟨ledger.clock, by simp [CollectionRun.moved, running], Nat.le_refl _⟩
  · exact sound.attemptKeys
  · exact sound.grains
  · exact sound.attemptChecked
  · exact sound.attemptStarted
  · intro attempt there
    obtain ⟨r, memR, rest⟩ := sound.attemptRun attempt there
    by_cases same : r = old
    · subst same
      exact ⟨_, (mem_updateWhere_key sound.runKeys mem).mpr (.inl rfl), rest⟩
    · exact ⟨r, (mem_updateWhere_key sound.runKeys mem).mpr (.inr ⟨memR, same⟩), rest⟩
  · refine each sound.closed fun succeeded => ?_
    obtain ⟨-, closed, -⟩ := guardRunAttempts_ok.mp guarded.attempts
    obtain ⟨size, all⟩ := closed succeeded
    constructor
    · rw [← size, Ledger.attemptsOf, List.count_eq_countP, List.countP_map, List.countP_eq_length_filter]
      rfl
    · intro attempt there same
      exact all attempt (List.mem_filter.mpr ⟨there, by simpa using same⟩)

theorem attemptInserted_sound {attempt : CollectionAttempt} (sound : ledger.Sound)
    (unstarted : attempt.startedAt = none) (inserted : ledger.insertAttempt attempt = .ok after) : after.Sound := by
  obtain ⟨guarded, checked, freshKey, freshGrain, rfl⟩ := insertAttempt_ok.mp inserted
  rw [guardCollectionAttemptTerminal_ok] at guarded
  obtain ⟨-, open_, rostered⟩ := guardAttemptMove_none.mp guarded.move
  refine { sound with
    attemptKeys := ?_, grains := ?_, attemptChecked := ?_, attemptStarted := ?_, attemptRun := ?_
    closed := ?_ }
  · exact nodup_map_concat sound.attemptKeys freshKey
  · refine nodup_map_concat sound.grains fun other there same => ?_
    simp only [CollectionAttempt.grain, Prod.mk.injEq] at same
    exact freshGrain other there same
  · exact forall_mem_concat sound.attemptChecked checked
  · refine forall_mem_concat sound.attemptStarted ?_
    rw [unstarted]
    exact fun _ there => nomatch there
  · exact forall_mem_concat sound.attemptRun rostered
  · intro run mem succeeded
    obtain ⟨size, all⟩ := sound.closed run mem succeeded
    have other : attempt.collectionRunId ≠ run.collectionRunId := by
      intro same
      exact open_ run mem same.symm (.inl succeeded)
    constructor
    · rw [List.map_append, List.count_append, size, List.map_singleton,
        List.count_singleton, if_neg (by simpa using other), Nat.add_zero]
    · refine forall_mem_concat all fun same => absurd same other

theorem attemptMoved_sound {old : CollectionAttempt} {arguments : TransitionAttemptArguments}
    (sound : ledger.Sound) (found : ledger.findAttempt arguments.attemptKey = some old)
    (updated : ledger.updateAttempt old (old.moved ledger.clock arguments) = .ok after) : after.Sound := by
  obtain ⟨mem, -⟩ := findAttempt_mem found
  obtain ⟨guarded, checked, rfl⟩ := updateAttempt_ok.mp updated
  rw [guardCollectionAttemptTerminal_ok] at guarded
  obtain ⟨-, next⟩ := guardAttemptMove_some.mp guarded.move
  have each {P : CollectionAttempt → Prop} (others : ∀ a ∈ ledger.attempts, a ≠ old → P a)
      (new : P (old.moved ledger.clock arguments)) :
      ∀ a ∈ updateWhere (·.attemptKey = old.attemptKey) (fun _ => old.moved ledger.clock arguments)
        ledger.attempts, P a := by
    intro a there
    rcases (mem_updateWhere_key sound.attemptKeys mem).mp there with rfl | ⟨there, other⟩
    · exact new
    · exact others a there other
  have kept {κ : Type} (column : CollectionAttempt → κ)
      (same : column (old.moved ledger.clock arguments) = column old) :
      (updateWhere (·.attemptKey = old.attemptKey) (fun _ => old.moved ledger.clock arguments)
        ledger.attempts).map column = ledger.attempts.map column :=
    map_updateWhere_key sound.attemptKeys mem same
  refine { sound with
    attemptKeys := ?_, grains := ?_, attemptChecked := ?_, attemptStarted := ?_, attemptRun := ?_
    closed := ?_ }
  · exact (kept (·.attemptKey) rfl).symm ▸ sound.attemptKeys
  · exact (kept CollectionAttempt.grain rfl).symm ▸ sound.grains
  · exact each (fun a there _ => sound.attemptChecked a there) checked
  · refine each (fun a there _ => sound.attemptStarted a there) fun started there => ?_
    have there : started ∈ if arguments.status = .running then some ledger.clock else old.startedAt :=
      there
    split at there
    · rw [← Option.some.inj there]
    · exact sound.attemptStarted old mem started there
  · exact each (fun a there _ => sound.attemptRun a there) (sound.attemptRun old mem)
  · intro run there succeeded
    obtain ⟨size, all⟩ := sound.closed run there succeeded
    refine ⟨?_, each (fun a memA _ => all a memA) fun same => ?_⟩
    · rw [← size]
      exact congrArg (List.count run.collectionRunId) (kept (·.collectionRunId) rfl)
    · -- A succeeded attempt has no next status.
      rw [all old mem same] at next
      exact nomatch next

/-- **Every transaction keeps the invariant.** -/
theorem Effect.sound (effect : Effect ledger after) (sound : ledger.Sound) : after.Sound := by
  cases effect with
  | evidence same => exact same.sound sound
  | runInserted id inserted => exact runInserted_sound sound id inserted
  | runMoved found updated => exact runMoved_sound sound found updated
  | attemptInserted unstarted inserted => exact attemptInserted_sound sound unstarted inserted
  | attemptMoved found updated => exact attemptMoved_sound sound found updated

theorem ledgerStep_sound (ledger : Ledger) (step : LedgerStep) (sound : ledger.Sound) :
    (ledgerStep B ledger step).Sound :=
  (perform_effect step.call).sound (sound.wait step.elapsed)

theorem run_sound (steps : List LedgerStep) : (run (ledgerStep B) {} steps).Sound :=
  run_invariant ledgerStep_sound .empty steps

/-! ## Terminal rows -/

theorem RunStatus.Terminal.next {status : RunStatus} (terminal : status.Terminal) : status.next = [] := by
  rcases terminal with rfl | rfl | rfl | rfl <;> rfl

theorem AttemptStatus.next_of_not_open {status : AttemptStatus} (closed : ¬status.Open) : status.next = [] := by
  cases status with
  | planned => exact absurd (.inl rfl) closed
  | running => exact absurd (.inr rfl) closed
  | succeeded => rfl
  | partly => rfl
  | failed => rfl
  | blocked => rfl
  | unknown => rfl

theorem Effect.terminalRun (effect : Effect ledger after) (sound : ledger.Sound) {row : CollectionRun}
    (mem : row ∈ ledger.runs) (terminal : row.runStatus.Terminal) : row ∈ after.runs := by
  cases effect with
  | evidence same => rwa [same.runs]
  | runInserted id inserted =>
    obtain ⟨-, -, -, rfl⟩ := insertRun_ok.mp inserted
    exact List.mem_append_left _ mem
  | attemptInserted unstarted inserted =>
    obtain ⟨-, -, -, -, rfl⟩ := insertAttempt_ok.mp inserted
    exact mem
  | attemptMoved found updated =>
    obtain ⟨-, -, rfl⟩ := updateAttempt_ok.mp updated
    exact mem
  | runMoved found updated =>
    obtain ⟨memOld, -⟩ := findRun_mem found
    obtain ⟨guarded, -, rfl⟩ := updateRun_ok.mp updated
    obtain ⟨-, next⟩ := guardRunMove_some.mp (guardCollectionRunState_ok.mp guarded).move
    refine (mem_updateWhere_key sound.runKeys memOld).mpr (.inr ⟨mem, ?_⟩)
    rintro rfl
    rw [terminal.next] at next
    exact nomatch next

theorem Effect.terminalAttempt (effect : Effect ledger after) (sound : ledger.Sound)
    {row : CollectionAttempt} (mem : row ∈ ledger.attempts) (closed : ¬row.attemptStatus.Open) :
    row ∈ after.attempts := by
  cases effect with
  | evidence same => rwa [same.attempts]
  | runInserted id inserted =>
    obtain ⟨-, -, -, rfl⟩ := insertRun_ok.mp inserted
    exact mem
  | runMoved found updated =>
    obtain ⟨-, -, rfl⟩ := updateRun_ok.mp updated
    exact mem
  | attemptInserted unstarted inserted =>
    obtain ⟨-, -, -, -, rfl⟩ := insertAttempt_ok.mp inserted
    exact List.mem_append_left _ mem
  | attemptMoved found updated =>
    obtain ⟨memOld, -⟩ := findAttempt_mem found
    obtain ⟨guarded, -, rfl⟩ := updateAttempt_ok.mp updated
    obtain ⟨-, next⟩ := guardAttemptMove_some.mp (guardCollectionAttemptTerminal_ok.mp guarded).move
    refine (mem_updateWhere_key sound.attemptKeys memOld).mpr (.inr ⟨mem, ?_⟩)
    rintro rfl
    rw [AttemptStatus.next_of_not_open closed] at next
    exact nomatch next

theorem run_terminalRun (sound : ledger.Sound) {row : CollectionRun} (mem : row ∈ ledger.runs)
    (terminal : row.runStatus.Terminal) (steps : List LedgerStep) : row ∈ (run (ledgerStep B) ledger steps).runs :=
  (run_invariant (I := fun s => Ledger.Sound s ∧ row ∈ s.runs)
    (fun s step ⟨sound, mem⟩ => ⟨ledgerStep_sound s step sound,
      (perform_effect step.call).terminalRun (sound.wait step.elapsed) mem terminal⟩)
    ⟨sound, mem⟩ steps).2

theorem run_terminalAttempt (sound : ledger.Sound) {row : CollectionAttempt}
    (mem : row ∈ ledger.attempts) (closed : ¬row.attemptStatus.Open) (steps : List LedgerStep) :
    row ∈ (run (ledgerStep B) ledger steps).attempts :=
  (run_invariant (I := fun s => Ledger.Sound s ∧ row ∈ s.attempts)
    (fun s step ⟨sound, mem⟩ => ⟨ledgerStep_sound s step sound,
      (perform_effect step.call).terminalAttempt (sound.wait step.elapsed) mem closed⟩)
    ⟨sound, mem⟩ steps).2

/-! ## Closing the roster -/

theorem guardRunRoster_ok {row : CollectionRun} (roster : guardRunRoster row = .ok ()) :
    row.expectedStoreCount = row.storeCodes.length ∧
      row.expectedEndpointCount = row.endpointCodes.length ∧ row.storeCodes.Nodup ∧
      row.endpointCodes.Nodup := by
  simp only [guardRunRoster, check_ok_iff, refuse_eq_ok, not_or, not_not, ne_eq] at roster
  obtain ⟨⟨stores, endpoints⟩, storesOnce, endpointsOnce, -⟩ := roster
  exact ⟨stores, endpoints, storesOnce, endpointsOnce⟩

/-- A succeeded run has an attempt for each store and work item: its attempts are as many as the pairs of
the roster, all different and all in the roster, so they are the pairs. -/
theorem Ledger.Sound.exists_attempt (sound : ledger.Sound) {row : CollectionRun}
    (mem : row ∈ ledger.runs) (succeeded : row.runStatus = .succeeded) {storeCode endpointCode : String}
    (store : storeCode ∈ row.storeCodes) (endpoint : endpointCode ∈ row.endpointCodes) :
    ∃ attempt ∈ ledger.attempts, attempt.grain = (row.collectionRunId, storeCode, endpointCode) := by
  obtain ⟨size, -⟩ := sound.closed row mem succeeded
  obtain ⟨stores, endpoints, storesOnce, endpointsOnce⟩ := guardRunRoster_ok (sound.roster row mem)
  let own := ledger.attempts.filter (·.collectionRunId = row.collectionRunId)
  let roster := row.storeCodes ×ˢ row.endpointCodes
  have ownRun {a : CollectionAttempt} (there : a ∈ own) :
      a ∈ ledger.attempts ∧ a.collectionRunId = row.collectionRunId :=
    ⟨(List.mem_filter.mp there).1, of_decide_eq_true (List.mem_filter.mp there).2⟩
  have once : (own.map fun a => a.grain.2).Nodup := by
    refine List.Nodup.map_on (fun a memA b memB same => ?_) (sound.grains.of_map.filter _)
    have runs : a.grain.1 = b.grain.1 := (ownRun memA).2.trans (ownRun memB).2.symm
    exact List.inj_on_of_nodup_map sound.grains (ownRun memA).1 (ownRun memB).1 (Prod.ext runs same)
  have inside : (own.map fun a => a.grain.2) ⊆ roster := by
    intro pair there
    obtain ⟨a, memA, rfl⟩ := List.mem_map.mp there
    obtain ⟨owner, memOwner, id, storeOf, endpointOf⟩ := sound.attemptRun a (ownRun memA).1
    obtain rfl := sound.runOfId memOwner mem (id.trans (ownRun memA).2)
    exact List.mem_product.mpr ⟨storeOf, endpointOf⟩
  have full : roster.length ≤ (own.map fun a => a.grain.2).length := by
    rw [List.length_product, List.length_map, ← stores, ← endpoints, ← size, List.count_eq_countP,
      List.countP_map, List.countP_eq_length_filter]
    exact Nat.le_refl _
  have perm := (once.subperm inside).perm_of_length_le full
  have there := perm.mem_iff.mpr (List.mem_product.mpr ⟨store, endpoint⟩)
  obtain ⟨a, memA, same⟩ := List.mem_map.mp there
  exact ⟨a, (ownRun memA).1, Prod.ext (ownRun memA).2 same⟩

/-- **A succeeded run has one attempt for each store and work item, and it succeeded.** -/
theorem Ledger.Sound.succeeded (sound : ledger.Sound) {row : CollectionRun} (mem : row ∈ ledger.runs)
    (succeeded : row.runStatus = .succeeded) {storeCode endpointCode : String}
    (store : storeCode ∈ row.storeCodes) (endpoint : endpointCode ∈ row.endpointCodes) :
    ((ledger.attempts.filter (·.AtGrain row.collectionRunId storeCode endpointCode)).map
      (·.attemptStatus)) = [.succeeded] := by
  obtain ⟨a, memA, grain⟩ := sound.exists_attempt mem succeeded store endpoint
  have only : ledger.attempts.filter (·.AtGrain row.collectionRunId storeCode endpointCode) = [a] := by
    rw [← filter_key_eq_singleton sound.grains memA]
    refine List.filter_congr fun other _ => decide_eq_decide.mpr ?_
    rw [grain]
    simp only [CollectionAttempt.AtGrain, CollectionAttempt.grain, Prod.mk.injEq]
  have status := (sound.closed row mem succeeded).2 a memA (congrArg Prod.fst grain)
  rw [only, List.map_singleton, status]

/-! ## Failing a run -/

theorem checkCollectionRun_ok {row : CollectionRun} : checkCollectionRun row = .ok () ↔
      (isSha256Hex row.runKey ∧ isSha256Hex row.planHash) ∧ row.retryPolicy = "NONE" ∧
      (1 ≤ row.expectedStoreCount ∧ row.expectedStoreCount ≤ 200 ∧ 1 ≤ row.expectedEndpointCount ∧
        row.expectedEndpointCount ≤ 200) ∧
      WindowFits row.window ∧ ¬(row.sanitizedErrorCode.any fun code => !isErrorCode code) ∧
      row.Timeline ∧ row.contractVersion = 1 := by
  simp only [checkCollectionRun, check_ok_iff, refuse_eq_ok, not_not, ne_eq]

theorem checkCollectionAttempt_ok {attempt : CollectionAttempt} : checkCollectionAttempt attempt = .ok () ↔
      (fitsInteger attempt.expectedRowCount ∧ fitsInteger attempt.observedRowCount ∧
        fitsInteger attempt.observedPageCount) ∧
      (isSha256Hex attempt.attemptKey ∧ isSha256Hex attempt.requestSchemaHash ∧
        isSha256Hex attempt.requestFingerprint) ∧
      isStoreCode attempt.storeCode ∧ isEndpointCode attempt.endpointCode ∧
      WindowFits attempt.window ∧ ¬(attempt.sanitizedErrorCode.any fun code => !isErrorCode code) ∧
      attempt.Timeline := by
  simp only [checkCollectionAttempt, check_ok_iff, refuse_eq_ok, not_not]

/-- A run that has not started cannot be moved to `FAILED`: its `completed_at` would stand without a
`started_at`, which the timeline of the table forbids. -/
theorem transitionRun_failed_unstarted {code : Option String} {row : CollectionRun} (runKey : String)
    (found : ledger.findRun runKey = some row) (unstarted : row.startedAt = none)
    (done : transitionRun ⟨runKey, .failed, code⟩ ledger = .ok (reply, after)) : False := by
  obtain ⟨-, -, old, found', -, updated, -⟩ := transitionRun_ok.mp done
  obtain rfl := Option.mem_unique found found'
  obtain ⟨-, checked, -⟩ := updateRun_ok.mp updated
  obtain ⟨-, -, -, -, -, timeline, -⟩ := checkCollectionRun_ok.mp checked
  obtain ⟨started, there, -⟩ := timeline.2 ledger.clock rfl
  have there : started ∈ row.startedAt := there
  rw [unstarted] at there
  exact nomatch there

/-- A running run whose attempts are all terminal can be moved to `FAILED`. -/
theorem Ledger.Sound.transitionRun_failed (sound : ledger.Sound) {row : CollectionRun}
    (mem : row ∈ ledger.runs) (running : row.runStatus = .running)
    (closed : ∀ attempt ∈ ledger.attemptsOf row.collectionRunId, ¬attempt.attemptStatus.Open)
    {code : String} (legal : isErrorCode code = true) : transitionRun ⟨row.runKey, .failed, some code⟩ ledger =
      .ok (⟨row.collectionRunId, .failed, false⟩, { ledger with
        runs := updateWhere (·.runKey = row.runKey)
          (fun _ => row.moved ledger.clock ⟨row.runKey, .failed, some code⟩) ledger.runs }) := by
  obtain ⟨hashes, policy, counts, window, -, timeline, contract⟩ :=
    checkCollectionRun_ok.mp (sound.runChecked row mem)
  have found : ledger.findRun row.runKey = some row :=
    (find?_key_eq_some sound.runKeys).mpr ⟨mem, rfl⟩
  have codeFits : ¬((some code).any fun code => !isErrorCode code) := by simp [legal]
  refine transitionRun_ok.mpr ⟨hashes.1, codeFits, row, found, ?_, updateRun_ok.mpr ⟨?_, ?_, rfl⟩, rfl⟩
  · rintro ⟨status | status, -⟩ <;> exact nomatch status
  · refine guardCollectionRunState_ok.mpr ⟨guardRunMove_some.mpr ⟨rfl, ?_⟩, sound.roster row mem, ?_, ?_⟩
    · rw [running]
      show RunStatus.failed ∈ RunStatus.running.next
      decide
    · refine guardRunTimes_ok.mpr ⟨?_, fun _ => Option.some_ne_none _, fun _ => Option.some_ne_none _⟩
      rintro (status | status | status) <;> exact nomatch status
    · refine guardRunAttempts_ok.mpr ⟨fun _ => closed, ?_, ?_⟩
      · intro status
        exact nomatch status
      · intro status
        exact nomatch status
  · refine checkCollectionRun_ok.mpr ⟨hashes, policy, counts, window, codeFits, ⟨timeline.1, ?_⟩, contract⟩
    intro completed there
    obtain rfl := Option.some.inj there
    exact sound.started row mem running

/-! ## Closing attempts -/

def closing (attemptKey : String) : LedgerStep :=
  { call := .transitionAttempt ⟨attemptKey, .failed, none, none, some "V4_CLOSED"⟩ }

theorem Ledger.Sound.transitionAttempt_failed (sound : ledger.Sound) {old : CollectionAttempt}
    (mem : old ∈ ledger.attempts) (open_ : old.attemptStatus.Open) {code : String} (legal : isErrorCode code = true) :
    ∃ reply, transitionAttempt ⟨old.attemptKey, .failed, none, none, some code⟩ ledger = .ok (reply, { ledger with
        attempts := updateWhere (·.attemptKey = old.attemptKey)
          (fun _ => old.moved ledger.clock ⟨old.attemptKey, .failed, none, none, some code⟩)
          ledger.attempts }) := by
  obtain ⟨fits, hashes, store, endpoint, window, -, timeline⟩ :=
    checkCollectionAttempt_ok.mp (sound.attemptChecked old mem)
  have found : ledger.findAttempt old.attemptKey = some old :=
    (find?_key_eq_some sound.attemptKeys).mpr ⟨mem, rfl⟩
  have codeFits : ¬((some code).any fun code => !isErrorCode code) := by simp [legal]
  refine ⟨_, transitionAttempt_ok.mpr ⟨?_, old, found, ?_, updateAttempt_ok.mpr ⟨?_, ?_, rfl⟩, rfl⟩⟩
  · simp [checkTransitionAttempt, requireHex64, check_ok_iff, hashes.1, legal]
  · rintro ⟨status | status, -⟩ <;> exact nomatch status
  · refine guardCollectionAttemptTerminal_ok.mpr ⟨guardAttemptMove_some.mpr ⟨rfl, ?_⟩, ?_, ?_⟩
    · show AttemptStatus.failed ∈ old.attemptStatus.next
      rcases open_ with status | status <;> rw [status] <;> decide
    · simp [guardAttemptColumns, CollectionAttempt.moved, check_ok_iff]
    · simp [guardAttemptEvidence, CollectionAttempt.moved, check_ok_iff]
  · refine checkCollectionAttempt_ok.mpr
      ⟨⟨fits.1, rfl, rfl⟩, hashes, store, endpoint, window, codeFits, timeline.1, ?_⟩
    intro completed there started started'
    obtain rfl := Option.some.inj there
    exact sound.attemptStarted old mem started started'

/-- The attempt of the key is terminal after the call, and nothing else of the two tables' keys and runs
has changed. -/
theorem closing_step (sound : ledger.Sound) {key : String} (there : key ∈ ledger.attempts.map (·.attemptKey)) :
    (ledgerStep B ledger (closing key)).runs = ledger.runs ∧
      (ledgerStep B ledger (closing key)).attempts.map (·.attemptKey) = ledger.attempts.map (·.attemptKey) ∧
      ∀ attempt ∈ (ledgerStep B ledger (closing key)).attempts, attempt.attemptKey = key →
        ¬attempt.attemptStatus.Open := by
  obtain ⟨old, mem, rfl⟩ := List.mem_map.mp there
  have waited : (ledger.wait 0).Sound := sound.wait 0
  by_cases open_ : old.attemptStatus.Open
  · obtain ⟨reply, done⟩ := waited.transitionAttempt_failed mem open_
      (show isErrorCode "V4_CLOSED" = true by decide)
    have after : transaction B (closing old.attemptKey).call (ledger.wait 0) = _ := done
    rw [ledgerStep_of_ok after]
    refine ⟨rfl, map_updateWhere_key waited.attemptKeys mem rfl, fun attempt memA same => ?_⟩
    rcases (mem_updateWhere_key waited.attemptKeys mem).mp memA with rfl | ⟨memA, other⟩
    · rintro (status | status) <;> exact nomatch status
    · exact absurd (sound.attemptOfKey memA mem same) other
  · -- The call fails, since a terminal attempt has no next status.
    cases outcome : transaction B (closing old.attemptKey).call (ledger.wait 0) with
    | ok result =>
      have done : transitionAttempt _ (ledger.wait 0) = .ok (result.1, result.2) := outcome
      obtain ⟨-, old', found, -, updated, -⟩ := transitionAttempt_ok.mp done
      obtain ⟨memOld', same⟩ := findAttempt_mem found
      obtain rfl := sound.attemptOfKey memOld' mem same
      obtain ⟨guarded, -⟩ := updateAttempt_ok.mp updated
      obtain ⟨-, next⟩ := guardAttemptMove_some.mp (guardCollectionAttemptTerminal_ok.mp guarded).move
      rw [AttemptStatus.next_of_not_open open_] at next
      exact nomatch next
    | error e =>
      rw [ledgerStep_of_error outcome]
      refine ⟨rfl, rfl, fun attempt memA same => ?_⟩
      rw [sound.attemptOfKey memA mem same]
      exact open_

/-- **The open attempts of a ledger can always be closed**, and closing them changes no run. -/
theorem run_closing (sound : ledger.Sound) {keys : List String}
    (there : ∀ key ∈ keys, key ∈ ledger.attempts.map (·.attemptKey)) :
    (run (ledgerStep B) ledger (keys.map closing)).runs = ledger.runs ∧
      (run (ledgerStep B) ledger (keys.map closing)).attempts.map (·.attemptKey) = ledger.attempts.map (·.attemptKey) ∧
      ∀ attempt ∈ (run (ledgerStep B) ledger (keys.map closing)).attempts, attempt.attemptKey ∈ keys →
        ¬attempt.attemptStatus.Open := by
  induction keys generalizing ledger with
  | nil => exact ⟨rfl, rfl, fun _ _ mem => nomatch mem⟩
  | cons key keys ih =>
    obtain ⟨runs, same, closed⟩ := closing_step (B := B) sound (there key List.mem_cons_self)
    have soundNext := ledgerStep_sound (B := B) ledger (closing key) sound
    have thereNext : ∀ k ∈ keys, k ∈ (ledgerStep B ledger (closing key)).attempts.map (·.attemptKey) := by
      intro k mem
      rw [same]
      exact there k (List.mem_cons_of_mem _ mem)
    obtain ⟨runs', same', closed'⟩ := ih soundNext thereNext
    refine ⟨runs'.trans runs, same'.trans same, fun attempt mem keyed => ?_⟩
    rcases List.mem_cons.mp keyed with here | later
    · -- The row of this key was terminal after its own call, and has stayed so.
      have keyThere : attempt.attemptKey ∈
          (ledgerStep B ledger (closing key)).attempts.map (·.attemptKey) := by
        rw [← same']
        exact List.mem_map_of_mem mem
      obtain ⟨earlier, memE, sameKey⟩ := List.mem_map.mp keyThere
      have terminal := closed earlier memE (sameKey.trans here)
      have kept := run_terminalAttempt (B := B) soundNext memE terminal (keys.map closing)
      have soundLast : (run (ledgerStep B) (ledgerStep B ledger (closing key)) (keys.map closing)).Sound :=
        run_invariant ledgerStep_sound soundNext _
      obtain rfl := soundLast.attemptOfKey kept mem sameKey
      exact terminal
    · exact closed' attempt mem later

/-! ## The claim on runs -/

/-- Whenever the run still stands as it is and its attempts are all terminal, `transitionRun` moves it to
`FAILED`. -/
def CanFail (B : LedgerBuiltins) (ledger : Ledger) (row : CollectionRun) : Prop :=
  ∀ steps, let later := run (ledgerStep B) ledger steps
    row ∈ later.runs →
    (∀ attempt ∈ later.attemptsOf row.collectionRunId, ¬attempt.attemptStatus.Open) →
    ∀ elapsed code, isErrorCode code = true →
      ∃ moved ∈ (ledgerStep B later ⟨.transitionRun ⟨row.runKey, .failed, some code⟩, elapsed⟩).runs,
        moved.collectionRunId = row.collectionRunId ∧ moved.runStatus = .failed

/-- What the ledger promises of a run. -/
structure RunSound (B : LedgerBuiltins) (ledger : Ledger) (row : CollectionRun) : Prop where
  succeeded : row.runStatus = .succeeded → ∀ storeCode ∈ row.storeCodes,
    ∀ endpointCode ∈ row.endpointCodes,
      ((ledger.attempts.filter (·.AtGrain row.collectionRunId storeCode endpointCode)).map
        (·.attemptStatus)) = [.succeeded]
  terminal : row.runStatus.Terminal → ∀ steps, row ∈ (run (ledgerStep B) ledger steps).runs
  attempts : ∀ attempt ∈ ledger.attemptsOf row.collectionRunId, ¬attempt.attemptStatus.Open →
    ∀ steps, attempt ∈ (run (ledgerStep B) ledger steps).attempts
  fails : ¬row.runStatus.Terminal → CanFail B ledger row

theorem Ledger.Sound.canFail (sound : ledger.Sound) {row : CollectionRun}
    (running : row.runStatus = .running) : CanFail B ledger row := by
  intro steps later mem closed elapsed code legal
  have soundLater : later.Sound := run_invariant ledgerStep_sound sound steps
  have waited := soundLater.wait elapsed
  have done : transaction B (.transitionRun ⟨row.runKey, .failed, some code⟩) (later.wait elapsed) = _ :=
    waited.transitionRun_failed mem running closed legal
  let call : LedgerStep := ⟨.transitionRun ⟨row.runKey, .failed, some code⟩, elapsed⟩
  rw [show ledgerStep B later call = _ from ledgerStep_of_ok done]
  exact ⟨_, (mem_updateWhere_key waited.runKeys mem).mpr (.inl rfl), rfl, rfl⟩

/-- A run that never reached `RUNNING` can never be moved to `FAILED`: its attempts can all be closed, and
then the move is still refused. -/
theorem Ledger.Sound.not_canFail (sound : ledger.Sound) {row : CollectionRun} (mem : row ∈ ledger.runs)
    (early : row.runStatus = .planned ∨ row.runStatus = .preflightPassed) : ¬CanFail B ledger row := by
  intro can
  obtain ⟨runs, keys, closed⟩ := run_closing (B := B) sound (fun _ mem => mem)
  let steps := (ledger.attempts.map (·.attemptKey)).map closing
  have soundLater : (run (ledgerStep B) ledger steps).Sound := run_invariant ledgerStep_sound sound steps
  have memLater : row ∈ (run (ledgerStep B) ledger steps).runs := by
    rw [runs]
    exact mem
  have closedOwn : ∀ attempt ∈ (run (ledgerStep B) ledger steps).attemptsOf row.collectionRunId,
      ¬attempt.attemptStatus.Open := by
    intro attempt own
    have there := (List.mem_filter.mp own).1
    refine closed attempt there ?_
    rw [← keys]
    exact List.mem_map_of_mem there
  obtain ⟨moved, there, id, failed⟩ := can steps memLater closedOwn 0 "V4_CLOSED" (by decide)
  have waited := soundLater.wait 0
  let call : LedgerStep := ⟨.transitionRun ⟨row.runKey, .failed, some "V4_CLOSED"⟩, 0⟩
  cases outcome : transaction B call.call ((run (ledgerStep B) ledger steps).wait 0) with
  | ok result =>
    have done : transitionRun _ _ = .ok (result.1, result.2) := outcome
    have found : ((run (ledgerStep B) ledger steps).wait 0).findRun row.runKey = some row :=
      (find?_key_eq_some waited.runKeys).mpr ⟨memLater, rfl⟩
    exact transitionRun_failed_unstarted row.runKey found (sound.unstarted row mem early) done
  | error e =>
    rw [show ledgerStep B _ call = _ from ledgerStep_of_error outcome] at there
    obtain rfl := soundLater.runOfId there memLater id
    rw [failed] at early
    exact absurd early (by decide)

/-- **A run of the ledger keeps every promise exactly when it is not stuck before `RUNNING`.** What a
succeeded run shows and what is terminal holds of every run; what a run that failed early cannot do is
become `FAILED`. -/
theorem runSound_iff (B : LedgerBuiltins) (steps : List LedgerStep) (row : CollectionRun)
    (mem : row ∈ (run (ledgerStep B) {} steps).runs) : RunSound B (run (ledgerStep B) {} steps) row ↔
      row.runStatus ≠ .planned ∧ row.runStatus ≠ .preflightPassed := by
  have sound : (run (ledgerStep B) {} steps).Sound := run_sound steps
  constructor
  · intro kept
    rw [← not_or]
    intro early
    refine sound.not_canFail mem early (kept.fails ?_)
    rcases early with status | status <;> rw [status] <;> decide
  · rintro ⟨notPlanned, notPassed⟩
    refine ⟨fun succeeded storeCode store endpointCode endpoint =>
        sound.succeeded mem succeeded store endpoint,
      run_terminalRun sound mem,
      fun attempt own => run_terminalAttempt sound (List.mem_filter.mp own).1, fun open_ => ?_⟩
    refine sound.canFail ?_
    cases status : row.runStatus with
    | planned => exact absurd status notPlanned
    | preflightPassed => exact absurd status notPassed
    | running => rfl
    | succeeded => exact absurd (.inl status) open_
    | partly => exact absurd (.inr (.inl status)) open_
    | failed => exact absurd (.inr (.inr (.inl status))) open_
    | aborted => exact absurd (.inr (.inr (.inr status))) open_

/-! ## Two runs -/

def hexOf (c : Char) : String := String.ofList (List.replicate 64 c)

def plainBuiltins : LedgerBuiltins where
  dates := ⟨parseIsoDate, fun parsed => parsed⟩
  digest := ⟨fun _ => hexOf 'd', fun _ => isSha256Hex_replicate (by decide)⟩
  readDate day := some (toIsoDate day)
  buildTypedRow _ _ := .error (.refused "V4_ROW_NOT_OBJECT")
  pagePayload _ _ := hexOf 'd'
  sameTyped _ _ := true
  factRefusal _ _ := none

def canonicalRun : CreateRunArguments where
  planHash := hexOf 'a'
  runKey := hexOf 'b'
  storeCodes := WebapiHistory.fullManagedStoreCodes
  endpointCodes := v4RequiredWorkItemCodes

def created : LedgerStep := { call := .createCollectionRun canonicalRun }

def canonicalRow (runStatus : RunStatus) (startedAt : Option Instant) : CollectionRun where
  collectionRunId := 1
  contractVersion := 1
  runKey := canonicalRun.runKey
  planHash := canonicalRun.planHash
  runStatus
  retryPolicy := "NONE"
  expectedStoreCount := 25
  expectedEndpointCount := 13
  storeCodes := canonicalRun.storeCodes
  endpointCodes := canonicalRun.endpointCodes
  window := none
  startedAt
  createdAt := 0

def startedSteps : List LedgerStep :=
  [created, { call := .transitionRun ⟨canonicalRun.runKey, .preflightPassed, none⟩ },
    { call := .transitionRun ⟨canonicalRun.runKey, .running, none⟩, elapsed := 5 }]

theorem mem_runs : canonicalRow .planned none ∈ (run (ledgerStep plainBuiltins) {} [created]).runs ∧
    canonicalRow .running (some 5) ∈ (run (ledgerStep plainBuiltins) {} startedSteps).runs := by
  decide +kernel

theorem runSound_iff_started : RunSound plainBuiltins (run (ledgerStep plainBuiltins) {} startedSteps)
      (canonicalRow .running (some 5)) :=
  (runSound_iff plainBuiltins startedSteps (canonicalRow .running (some 5)) mem_runs.2).mpr
    (by decide)

/-- A run that was created and then given up stands for ever. -/
theorem planned_run_stuck : canonicalRow .planned none ∈ (run (ledgerStep plainBuiltins) {} [created]).runs ∧
      ¬RunSound plainBuiltins (run (ledgerStep plainBuiltins) {} [created]) (canonicalRow .planned none) := by
  refine ⟨mem_runs.1, fun kept => ?_⟩
  exact (run_sound [created]).not_canFail mem_runs.1 (.inl rfl) (kept.fails (by decide))

/-- **The ledger is a record.** Whatever calls come, in whatever order and at whatever time: no two runs have one key, no two
attempts are for one work item of a run, and a run or an attempt that has ended stays as it has ended. -/
theorem ledger_record (B : LedgerBuiltins) (steps later : List LedgerStep) :
    let s := run (ledgerStep B) {} steps
    let t := run (ledgerStep B) s later
    (t.runs.map (·.runKey)).Nodup ∧ (t.attempts.map CollectionAttempt.grain).Nodup ∧
      (∀ row ∈ s.runs, row.runStatus.Terminal → row ∈ t.runs) ∧
      ∀ row ∈ s.attempts, ¬row.attemptStatus.Open → row ∈ t.attempts := by
  intro s t
  have sound : s.Sound := run_sound steps
  have kept : t.Sound := run_invariant ledgerStep_sound sound later
  refine ⟨kept.runKeys, kept.grains, fun row mem terminal => ?_, fun row mem ended => ?_⟩
  · exact run_terminalRun sound mem terminal later
  · exact run_terminalAttempt sound mem ended later

end FullManagedBi.Collection
