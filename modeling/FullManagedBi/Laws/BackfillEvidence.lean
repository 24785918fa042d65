import FullManagedBi.Laws.BackfillWindow

/-!
# What a checkpoint may be moved by

`Evidence` is every condition under which a window's result may move the checkpoint of its grain, and the
gate reports the checkpoint as advanceable exactly where they all hold (`advanceable_iff`). A window is
stored as succeeded only then.
-/

namespace FullManagedBi.Backfill

open Lib

variable {window : Window} {checkpoint : Option CheckpointState}

/-- The conditions on a result: the date and the fingerprint it proves are `date` and `fingerprint`. -/
structure Evidence (window : Window) (result : AdapterResult) (checkpoint : Option CheckpointState)
    (date fingerprint : String) : Prop where
  verified : window.capabilityStatus = .verified
  succeeded : result.okFalse = false ∧ result.adapterError = false
  /-- All counts are there: no page is missing, no row is rejected, every accepted row is persisted, and
  the bounds of the window are kept. -/
  counted : ∃ accepted expected, unitCount result.acceptedRowCount = some accepted ∧
    unitCount result.rejectedRowCount = some 0 ∧ unitCount result.expectedPageCount = some expected ∧
    unitCount result.observedPageCount = some expected ∧
    unitCount result.persistedRowCount = some accepted ∧
    expected ≤ window.maxPagesPerWindow ∧ accepted ≤ window.maxRowsPerWindow
  decimals : unitCount result.illegalDecimalCount = some 0
  metrics : unitCount result.unknownMetricCount = some 0
  schemaFingerprint : result.schemaFingerprint = some fingerprint
  hex : isSha256Hex fingerprint = true
  /-- The schema is that of the checkpoint, where it has one. -/
  noDrift : ∀ state, checkpoint = some state →
    state.schemaFingerprint = "" ∨ state.schemaFingerprint = fingerprint
  dates : ∀ item ∈ result.rawBusinessDates, (businessDate item).isSome
  oneDate : result.validBusinessDates.length ≤ 1
  sameDate : result.watermarkMismatch = false
  watermark : result.watermark = some date
  inside : ¬date < window.windowStart ∧ date < window.windowEnd

/-- The outcome of a window that may move its checkpoint. -/
def passed (result : AdapterResult) : WindowOutcome := outcome .succeeded .passed none result.counts

def OnlyAs (target o : WindowOutcome) : Prop :=
  o.checkpointAdvanceable = true ∨ o.executionStatus = .succeeded → o = target

theorem onlyAs_ite {c : Prop} [Decidable c] {target first second : WindowOutcome}
    (h : OnlyAs target first) (h' : OnlyAs target second) : OnlyAs target (if c then first else second) := by
  split
  · exact h
  · exact h'

variable {status : ExecutionStatus} {quality : QualityStatus} {code : Option String}
    {counts : OutcomeCounts}

theorem onlyAs_refused {target : WindowOutcome} (refused : status ≠ .succeeded) :
    OnlyAs target (outcome status quality code counts) := by
  rintro (advanceable | succeeded)
  · exact absurd (of_decide_eq_true advanceable).1 refused
  · exact absurd succeeded refused

variable {result : AdapterResult}

theorem refused_eq_passed (refused : status ≠ .succeeded) : outcome status quality code counts = passed result ↔ False :=
  iff_false_intro fun same => refused (congrArg WindowOutcome.executionStatus same)

/-- A branch of the gate that is not the passing one was not taken. -/
theorem ite_eq_passed {c : Prop} [Decidable c] {rest : WindowOutcome} (refused : status ≠ .succeeded) :
    (if c then outcome status quality code counts else rest) = passed result ↔
      ¬c ∧ rest = passed result := by
  by_cases taken : c
  · rw [if_pos taken]
    exact iff_of_false (refused_eq_passed refused).mp fun h => h.1 taken
  · rw [if_neg taken, and_iff_right taken]

theorem evaluateCounted_eq_passed {a r e o p : Nat} :
    evaluateCounted window result checkpoint a r e o p = passed result ↔
      o = e ∧ e ≤ window.maxPagesPerWindow ∧ a + r ≤ window.maxRowsPerWindow ∧
      (result.schemaFingerprint.any isSha256Hex = true) ∧
      (checkpoint.any fun checkpoint => checkpoint.schemaFingerprint ≠ "" ∧
        some checkpoint.schemaFingerprint ≠ result.schemaFingerprint) = false ∧
      (result.rawBusinessDates.any fun item => (businessDate item).isNone) = false ∧
      result.validBusinessDates.length ≤ 1 ∧ result.watermarkMismatch = false ∧
      unitCount result.illegalDecimalCount = some 0 ∧ unitCount result.unknownMetricCount = some 0 ∧
      r = 0 ∧ p = a ∧ ∃ date, result.watermark = some date ∧
        ¬date < window.windowStart ∧ date < window.windowEnd := by
  have failed : ExecutionStatus.failed ≠ .succeeded := by simp
  have partly : ExecutionStatus.partial' ≠ .succeeded := by simp
  unfold evaluateCounted
  simp only
  rw [ite_eq_passed partly, ite_eq_passed failed, ite_eq_passed failed, ite_eq_passed failed,
    ite_eq_passed failed, ite_eq_passed failed, ite_eq_passed failed, ite_eq_passed failed,
    ite_eq_passed failed, ite_eq_passed partly, ite_eq_passed failed]
  have counted : result.counts.sourceBusinessWatermark = result.watermark := rfl
  rw [counted]
  cases watermark : result.watermark with
  | none =>
    simp only [refused_eq_passed failed, and_false, reduceCtorEq, false_and, exists_false]
  | some date =>
    simp only
    have last : outcome .succeeded .passed none result.counts = passed result ↔ True :=
      iff_true_intro rfl
    rw [ite_eq_passed failed, last]
    simp only [ne_eq, not_not, not_or, Nat.not_lt, Bool.not_eq_true, Bool.not_eq_true',
      Bool.not_eq_false, Nat.le_zero, and_assoc, Option.some.injEq, exists_eq_left', and_true]

/-- **The gate passes a result exactly on its evidence.** -/
theorem evaluateWindowOutcome_eq_passed : evaluateWindowOutcome window (some result) checkpoint = passed result ↔
      ∃ date fingerprint, Evidence window result checkpoint date fingerprint := by
  have blocked : ExecutionStatus.blocked ≠ .succeeded := by simp
  have failed : ExecutionStatus.failed ≠ .succeeded := by simp
  unfold evaluateWindowOutcome
  rw [ite_eq_passed blocked]
  simp only
  rw [ite_eq_passed failed]
  have accepted : result.counts.acceptedRowCount = unitCount result.acceptedRowCount := rfl
  have rejected : result.counts.rejectedRowCount = unitCount result.rejectedRowCount := rfl
  have expected : result.counts.expectedPageCount = unitCount result.expectedPageCount := rfl
  have observed : result.counts.observedPageCount = unitCount result.observedPageCount := rfl
  rw [accepted, rejected, expected, observed]
  constructor
  · rintro ⟨verified, succeeded, same⟩
    split at same
    · rename_i a r e o p accepted rejected expected observed persisted
      obtain ⟨rfl, pages, rows, hex, noDrift, dates, oneDate, sameDate, decimals, metrics, rfl, rfl,
        date, watermark, inside⟩ := evaluateCounted_eq_passed.mp same
      obtain ⟨fingerprint, schema, hex⟩ := (Option.any_eq_true ..).mp hex
      refine ⟨date, fingerprint, not_not.mp verified, by simpa [not_or] using succeeded, ?_, decimals,
        metrics, schema, hex, ?_, ?_, oneDate, sameDate, watermark, inside⟩
      · exact ⟨_, _, accepted, rejected, expected, observed, persisted, pages, by simpa using rows⟩
      · rintro state rfl
        rw [schema] at noDrift
        by_cases empty : state.schemaFingerprint = ""
        · exact .inl empty
        · simpa [empty] using noDrift
      · intro item mem
        have some_ := List.any_eq_false.mp dates item mem
        simpa [Option.isSome_iff_ne_none] using some_
    · exact nomatch congrArg WindowOutcome.executionStatus same
  · rintro ⟨date, fingerprint, evidence⟩
    obtain ⟨a, e, accepted, rejected, expected, observed, persisted, pages, rows⟩ := evidence.counted
    refine ⟨not_not.mpr evidence.verified, by simp [evidence.succeeded], ?_⟩
    rw [accepted, rejected, expected, observed, persisted]
    simp only
    rw [evaluateCounted_eq_passed]
    refine ⟨rfl, pages, rows, ?_, ?_, ?_, evidence.oneDate, evidence.sameDate, evidence.decimals,
      evidence.metrics, rfl, rfl, date, evidence.watermark, evidence.inside⟩
    · rw [evidence.schemaFingerprint]
      exact evidence.hex
    · cases checkpoint with
      | none => rfl
      | some state =>
        rw [evidence.schemaFingerprint]
        rcases evidence.noDrift state rfl with empty | same
        · simp [empty]
        · simp [same]
    · rw [List.any_eq_false]
      intro item mem
      have some_ := evidence.dates item mem
      simpa [Option.isSome_iff_ne_none] using some_

theorem onlyAs_evaluateWindowOutcome (result : Option AdapterResult)
    (h : (evaluateWindowOutcome window result checkpoint).checkpointAdvanceable = true ∨
      (evaluateWindowOutcome window result checkpoint).executionStatus = .succeeded) :
    ∃ r, result = some r ∧ evaluateWindowOutcome window result checkpoint = passed r := by
  cases result with
  | none =>
    refine absurd h ?_
    have refused : OnlyAs (outcome .failed .unknown none)
        (evaluateWindowOutcome window none checkpoint) :=
      onlyAs_ite (onlyAs_refused (by simp)) (onlyAs_refused (by simp))
    intro h
    rw [refused h] at h
    rcases h with h | h <;> exact nomatch h
  | some r =>
    refine ⟨r, rfl, ?_⟩
    have only : OnlyAs (passed r) (evaluateWindowOutcome window (some r) checkpoint) := by
      unfold evaluateWindowOutcome
      apply onlyAs_ite (onlyAs_refused (by simp))
      apply onlyAs_ite (onlyAs_refused (by simp))
      split
      · unfold evaluateCounted
        iterate 11 apply onlyAs_ite (onlyAs_refused (by simp))
        split
        · exact onlyAs_refused (by simp)
        · exact onlyAs_ite (onlyAs_refused (by simp)) fun _ => rfl
      · exact onlyAs_refused (by simp)
    exact only h

/-- **The checkpoint is advanceable exactly on evidence.** -/
theorem advanceable_iff {result : Option AdapterResult} :
    (evaluateWindowOutcome window result checkpoint).checkpointAdvanceable = true ↔
      ∃ r, result = some r ∧ ∃ date fingerprint, Evidence window r checkpoint date fingerprint := by
  constructor
  · intro advanceable
    obtain ⟨r, rfl, same⟩ := onlyAs_evaluateWindowOutcome result (.inl advanceable)
    exact ⟨r, rfl, evaluateWindowOutcome_eq_passed.mp same⟩
  · rintro ⟨r, rfl, evidence⟩
    rw [evaluateWindowOutcome_eq_passed.mpr evidence]
    rfl

/-! ## The next state -/

theorem isSome_of_watermark {date : String} (watermark : result.watermark = some date) : (parseIsoDate date).isSome := by
  have valid {value : Option String} {text : String} (h : businessDate value = some text) :
      (parseIsoDate text).isSome := (Option.filter_eq_some_iff.mp h).2
  unfold AdapterResult.watermark at watermark
  rcases Option.or_eq_some_iff.mp watermark with explicit | ⟨-, single⟩
  · exact valid explicit
  · split at single
    · rename_i only dates
      obtain rfl := Option.some.inj single
      have mem : only ∈ result.validBusinessDates := by
        rw [dates]
        exact List.mem_singleton_self only
      unfold AdapterResult.validBusinessDates at mem
      obtain ⟨item, -, h⟩ := List.mem_filterMap.mp (List.mem_eraseDups.mp mem)
      exact valid h
    · exact nomatch single

/-- What passed becomes the next state of the checkpoint, unless that is not before its date. -/
theorem nextCheckpointState_passed {date fingerprint : String} (runId : Nat)
    (evidence : Evidence window result checkpoint date fingerprint) :
    nextCheckpointState window (passed result) checkpoint runId =
      if checkpoint.any fun checkpoint => ¬checkpoint.lastCompletedBusinessDate < date then none
      else some {
        storeCode := window.storeCode
        domain := window.domain
        adapterKey := window.adapterKey
        lastCompletedBusinessDate := date
        lastSourceCursor := window.windowEnd
        lastSuccessfulRunId := some runId
        schemaFingerprint := fingerprint } := by
  have advanceable : (passed result).checkpointAdvanceable = true := rfl
  have watermark : (passed result).counts.sourceBusinessWatermark = some date := evidence.watermark
  have schema : (passed result).counts.schemaFingerprint = some fingerprint :=
    evidence.schemaFingerprint
  have shape := isIsoDateShape_of_parse (isSome_of_watermark evidence.watermark)
  unfold nextCheckpointState
  simp only [advanceable, evidence.verified, watermark, schema, shape, evidence.inside.1,
    evidence.inside.2, Bool.not_true, Bool.false_eq_true, ne_eq, not_true_eq_false, or_self, if_false]

theorem nextCheckpointState_refused {o : WindowOutcome} (runId : Nat) (refused : o.checkpointAdvanceable ≠ true) :
    nextCheckpointState window o checkpoint runId = none := by
  unfold nextCheckpointState
  rw [if_pos (.inl (by simpa using refused))]

end FullManagedBi.Backfill
