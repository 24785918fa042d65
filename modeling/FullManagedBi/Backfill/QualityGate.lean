import FullManagedBi.Backfill.Plan

/-!
# The quality gate of a backfill window

`evaluateWindowOutcome` and `nextCheckpointState` (`src/backfill/quality-gate.mjs`): what an adapter
reported about a window becomes an execution status, a quality status and the evidence that is stored,
and a checkpoint may advance only to the business date a passed window proves.

A date column of the ledger is held as its `YYYY-MM-DD` text, and the order of the texts is the order
of the dates (`toIsoDate_lt`).
-/

namespace FullManagedBi.Backfill

open Lib

/-- `WINDOW_EXECUTION_STATUSES`. -/
inductive ExecutionStatus where
  | planned | blocked | running | succeeded | partial' | failed | skipped
  deriving DecidableEq

/-- `WINDOW_QUALITY_STATUSES`. -/
inductive QualityStatus where
  | unknown | passed | missingPage | schemaDrift | mixedBusinessDate | illegalDecimal | unknownMetric
  | rejectedRows | coverageGap | adapterError
  deriving DecidableEq

/-- What `fetchWindow` returned: a number is its value, absent where it is none, and a text or an array
is absent where the field has another type. -/
structure AdapterResult where
  okFalse : Bool := false
  adapterError : Bool := false
  sanitizedErrorCode : Option String := none
  acceptedRowCount : Option Rat := none
  rejectedRowCount : Option Rat := none
  expectedPageCount : Option Rat := none
  observedPageCount : Option Rat := none
  persistedRowCount : Option Rat := none
  illegalDecimalCount : Option Rat := none
  unknownMetricCount : Option Rat := none
  schemaFingerprint : Option String := none
  businessDates : Option (List (Option String)) := none
  sourceBusinessWatermark : Option String := none
  deriving DecidableEq

/-- A checkpoint, as `nextCheckpointState` builds it and, without its run, `loadCheckpoints` returns
it. -/
structure CheckpointState where
  storeCode : String
  domain : String
  adapterKey : String
  lastCompletedBusinessDate : String
  lastSourceCursor : String
  lastSuccessfulRunId : Option Nat := none
  schemaFingerprint : String
  deriving DecidableEq

/-- The counts and the evidence of an outcome. -/
structure OutcomeCounts where
  acceptedRowCount : Option Nat := none
  rejectedRowCount : Option Nat := none
  expectedPageCount : Option Nat := none
  observedPageCount : Option Nat := none
  schemaFingerprint : Option String := none
  sourceBusinessWatermark : Option String := none
  deriving DecidableEq

structure WindowOutcome where
  executionStatus : ExecutionStatus
  qualityStatus : QualityStatus
  sanitizedErrorCode : Option String
  checkpointAdvanceable : Bool
  counts : OutcomeCounts
  deriving DecidableEq

def outcome (executionStatus : ExecutionStatus) (qualityStatus : QualityStatus)
    (sanitizedErrorCode : Option String) (counts : OutcomeCounts := {}) : WindowOutcome where
  executionStatus
  qualityStatus
  sanitizedErrorCode
  checkpointAdvanceable := executionStatus = .succeeded ∧ qualityStatus = .passed
  counts

/-- `SANITIZED_CODE_PATTERN`, `/^[A-Z][A-Z0-9_]{2,60}$/`. -/
def isSanitizedCode (text : String) : Bool :=
  decide (3 ≤ text.toList.length ∧ text.toList.length ≤ 61) &&
    (text.toList.take 1).all (·.isUpper) &&
    text.toList.all fun c => c.isUpper || c.isDigit || c = '_'

def unitCount (value : Option Rat) : Option Nat := value.bind safeCount?

def businessDate (value : Option String) : Option String :=
  value.filter fun text => (parseIsoDate text).isSome

def AdapterResult.rawBusinessDates (result : AdapterResult) : List (Option String) :=
  result.businessDates.getD []

/-- `businessDates`: the valid ones, each once. -/
def AdapterResult.validBusinessDates (result : AdapterResult) : List String :=
  (result.rawBusinessDates.filterMap businessDate).eraseDups

/-- The date the result proves: the explicit watermark, or else its one business date. -/
def AdapterResult.watermark (result : AdapterResult) : Option String :=
  (businessDate result.sourceBusinessWatermark).or
    (match result.validBusinessDates with
      | [date] => some date
      | _ => none)

def AdapterResult.counts (result : AdapterResult) : OutcomeCounts where
  acceptedRowCount := unitCount result.acceptedRowCount
  rejectedRowCount := unitCount result.rejectedRowCount
  expectedPageCount := unitCount result.expectedPageCount
  observedPageCount := unitCount result.observedPageCount
  schemaFingerprint := result.schemaFingerprint
  sourceBusinessWatermark := result.watermark

def AdapterResult.watermarkMismatch (result : AdapterResult) : Bool :=
  match businessDate result.sourceBusinessWatermark, result.validBusinessDates with
  | some watermark, [date] => watermark ≠ date
  | _, _ => false

def evaluateCounted (window : Window) (result : AdapterResult) (checkpoint : Option CheckpointState)
    (accepted rejected expected observed persisted : Nat) : WindowOutcome :=
  let counts := result.counts
  let undated := { counts with sourceBusinessWatermark := none }
  if observed ≠ expected then
    outcome .partial' .missingPage (some "PAGE_COVERAGE_INCOMPLETE") counts
  else if window.maxPagesPerWindow < expected ∨ window.maxRowsPerWindow < accepted + rejected then
    outcome .failed .coverageGap (some "WINDOW_BOUND_EXCEEDED") counts
  else if !result.schemaFingerprint.any isSha256Hex then
    outcome .failed .schemaDrift (some "SCHEMA_FINGERPRINT_MISSING") counts
  else if checkpoint.any fun checkpoint => checkpoint.schemaFingerprint ≠ "" ∧
      some checkpoint.schemaFingerprint ≠ result.schemaFingerprint then
    outcome .failed .schemaDrift (some "SCHEMA_FINGERPRINT_DRIFT") counts
  else if result.rawBusinessDates.any fun item => (businessDate item).isNone then
    outcome .failed .mixedBusinessDate (some "INVALID_BUSINESS_DATE_IN_WINDOW") undated
  else if 1 < result.validBusinessDates.length then
    outcome .failed .mixedBusinessDate (some "MIXED_BUSINESS_DATE_IN_WINDOW") undated
  else if result.watermarkMismatch then
    outcome .failed .mixedBusinessDate (some "BUSINESS_WATERMARK_MISMATCH") undated
  else if unitCount result.illegalDecimalCount ≠ some 0 then
    outcome .failed .illegalDecimal (some "ILLEGAL_DECIMAL_VALUE") counts
  else if unitCount result.unknownMetricCount ≠ some 0 then
    outcome .failed .unknownMetric (some "UNKNOWN_METRIC_IN_WINDOW") counts
  else if 0 < rejected then
    outcome .partial' .rejectedRows (some "ROWS_REJECTED_BY_CONTRACT") counts
  else if persisted ≠ accepted then
    outcome .failed .coverageGap (some "PERSISTED_ROW_COUNT_MISMATCH") counts
  else
    match counts.sourceBusinessWatermark with
    | none => outcome .failed .coverageGap (some "SOURCE_BUSINESS_WATERMARK_MISSING") counts
    | some watermark =>
      if watermark < window.windowStart ∨ ¬watermark < window.windowEnd then
        outcome .failed .mixedBusinessDate (some "BUSINESS_DATE_OUTSIDE_WINDOW") counts
      else outcome .succeeded .passed none counts

/-- `evaluateWindowOutcome`; the result is absent where it is not an object. -/
def evaluateWindowOutcome (window : Window) (result : Option AdapterResult)
    (checkpoint : Option CheckpointState) : WindowOutcome :=
  if window.capabilityStatus ≠ .verified then
    outcome .blocked .unknown (some (window.blockedReasonCode.getD "CAPABILITY_NOT_VERIFIED"))
  else
    match result with
    | none => outcome .failed .adapterError (some "ADAPTER_RESULT_MISSING")
    | some result =>
      let counts := result.counts
      if result.okFalse ∨ result.adapterError then
        outcome .failed .adapterError
          (some ((result.sanitizedErrorCode.filter isSanitizedCode).getD "ADAPTER_ERROR")) counts
      else
        match counts.acceptedRowCount, counts.rejectedRowCount, counts.expectedPageCount,
          counts.observedPageCount, unitCount result.persistedRowCount with
        | some accepted, some rejected, some expected, some observed, some persisted =>
          evaluateCounted window result checkpoint accepted rejected expected observed persisted
        | _, _, _, _, _ =>
          outcome .failed .coverageGap (some "INCOMPLETE_ADAPTER_COUNTS") counts

/-- `nextCheckpointState`, of an outcome whose evidence is there. -/
def nextCheckpointState (window : Window) (outcome : WindowOutcome)
    (checkpoint : Option CheckpointState) (runId : Nat) : Option CheckpointState :=
  if !outcome.checkpointAdvanceable ∨ window.capabilityStatus ≠ .verified then none
  else
    match outcome.counts.sourceBusinessWatermark, outcome.counts.schemaFingerprint with
    | some watermark, some schemaFingerprint =>
      if !isIsoDateShape watermark ∨ watermark < window.windowStart ∨
          ¬watermark < window.windowEnd then none
      else if checkpoint.any fun checkpoint =>
          ¬checkpoint.lastCompletedBusinessDate < watermark then none
      else some {
        storeCode := window.storeCode
        domain := window.domain
        adapterKey := window.adapterKey
        lastCompletedBusinessDate := watermark
        lastSourceCursor := window.windowEnd
        lastSuccessfulRunId := some runId
        schemaFingerprint }
    | _, _ => none

end FullManagedBi.Backfill
