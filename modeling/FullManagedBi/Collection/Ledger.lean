import FullManagedBi.Lib.Json
import FullManagedBi.Lib.Table
import FullManagedBi.OrderManagement.Windows
import FullManagedBi.WebapiHistory.StoreDaily

/-!
# The ledger of the v4 collection

A collection run, its attempts (one for each store and work item), their page evidence and the coverage
of the finished run are rows of the `ops.v4_*` tables (migration `0028_v4_collection_control_plane.sql`).
The loader reaches them only through the functions of `src/warehouse/full-webapi-fact-repository.mjs`,
each of which is one transaction: an error rolls all of it back.

What a row may become is decided in three places, which are kept apart here: the checks of the
functions themselves, the triggers (`guard…`) and the table constraints (`check…`).
-/

namespace FullManagedBi.Collection

open Lib
open OrderManagement (DateBuiltins)
open WebapiHistory (fullManagedStoreCodes)

/-! ## Statuses -/

/-- `V4_RUN_STATUSES`. -/
inductive RunStatus where
  | planned
  | preflightPassed
  | running
  | succeeded
  | partly
  | failed
  | aborted
  deriving DecidableEq

/-- The status as the table stores it. -/
def RunStatus.text : RunStatus → String
  | .planned => "PLANNED"
  | .preflightPassed => "PREFLIGHT_PASSED"
  | .running => "RUNNING"
  | .succeeded => "SUCCEEDED"
  | .partly => "PARTIAL"
  | .failed => "FAILED"
  | .aborted => "ABORTED"

/-- `V4_TERMINAL_RUN_STATUSES`. -/
def RunStatus.Terminal (status : RunStatus) : Prop :=
  status = .succeeded ∨ status = .partly ∨ status = .failed ∨ status = .aborted

instance (status : RunStatus) : Decidable status.Terminal := by
  unfold RunStatus.Terminal
  infer_instance

/-- `V4_ATTEMPT_STATUSES`. -/
inductive AttemptStatus where
  | planned
  | running
  | succeeded
  | partly
  | failed
  | blocked
  | unknown
  deriving DecidableEq

/-- The status as the table stores it. -/
def AttemptStatus.text : AttemptStatus → String
  | .planned => "PLANNED"
  | .running => "RUNNING"
  | .succeeded => "SUCCEEDED"
  | .partly => "PARTIAL"
  | .failed => "FAILED"
  | .blocked => "BLOCKED"
  | .unknown => "UNKNOWN"

/-- `attempt_status IN ('PLANNED', 'RUNNING')`. -/
def AttemptStatus.Open (status : AttemptStatus) : Prop := status = .planned ∨ status = .running

instance (status : AttemptStatus) : Decidable status.Open := by
  unfold AttemptStatus.Open
  infer_instance

/-- `fetch_status`. -/
inductive FetchStatus where
  | succeeded
  | partly
  deriving DecidableEq

/-- `capability_status`. -/
inductive CapabilityStatus where
  | verified
  | unverified
  | unsupported
  | blocked
  | unavailable
  | unknown
  deriving DecidableEq

/-! ## Rows -/

/-- A reading of `clock_timestamp()`. -/
abbrev Instant := Nat

/-- A row of `ops.v4_collection_run`. The window is a pair of dates, each the days since the epoch. -/
structure CollectionRun where
  collectionRunId : Nat
  contractVersion : Nat
  runKey : String
  planHash : String
  runStatus : RunStatus := .planned
  retryPolicy : String
  expectedStoreCount : Nat
  expectedEndpointCount : Nat
  storeCodes : List String
  endpointCodes : List String
  window : Option (Int × Int)
  startedAt : Option Instant := none
  completedAt : Option Instant := none
  sanitizedErrorCode : Option String := none
  createdAt : Instant
  deriving DecidableEq

/-- A row of `ops.v4_collection_attempt`. -/
structure CollectionAttempt where
  collectionAttemptId : Nat
  collectionRunId : Nat
  storeCode : String
  endpointCode : String
  attemptKey : String
  requestSchemaHash : String
  requestFingerprint : String
  window : Option (Int × Int)
  attemptStatus : AttemptStatus
  expectedRowCount : Option Nat
  observedRowCount : Option Nat := none
  observedPageCount : Option Nat := none
  startedAt : Option Instant := none
  completedAt : Option Instant := none
  sanitizedErrorCode : Option String := none
  createdAt : Instant
  deriving DecidableEq

/-- A row of `ops.v4_page_evidence`. -/
structure PageEvidence where
  pageEvidenceId : Nat
  collectionAttemptId : Nat
  pageKey : String
  pageNumber : Nat
  pageSize : Nat
  pageRequestFingerprint : String
  responseSchemaHash : String
  payloadHash : String
  rowCount : Nat
  rejectedRowCount : Nat
  httpStatus : Option Nat
  fetchStatus : FetchStatus
  observedAt : Int
  deriving DecidableEq

/-- What `buildTypedRow` leaves of a platform record. -/
structure TypedRow where
  entityKeyHash : String
  sourceVersionToken : String
  sourceUpdatedAt : Option Int
  payloadHash : String
  typed : List (String × Json)

/-- The pages of `PAGE_SPECS`. -/
inductive PageId where
  | stockRecords
  | waybills
  | returnApplications
  | returnOrders
  | exceptions
  | valueAddedServices
  | qualityReports
  deriving DecidableEq

/-- `spec.endpointCode`. -/
def PageId.endpointCode : PageId → String
  | .stockRecords => "STOCK_RECORDS_LIST"
  | .waybills => "WAYBILLS_PAGE"
  | .returnApplications => "RETURN_APPLICATIONS_LIST"
  | .returnOrders => "RETURN_ORDERS_PAGE"
  | .exceptions => "EXCEPTIONS_PAGE"
  | .valueAddedServices => "VALUE_ADDED_SERVICES_PAGE"
  | .qualityReports => "QUALITY_REPORTS_PAGE"

/-- A row of the fact table of a page (migration `0029_v4_order_webapi_facts.sql`). -/
structure FactRow where
  pageId : PageId
  storeCode : String
  sourceAttemptId : Nat
  sourcePageEvidenceId : Nat
  observedAt : Option Int
  row : TypedRow

/-- A row of `ops.v4_collection_coverage`. -/
structure CollectionCoverage where
  coverageId : Nat
  collectionRunId : Nat
  expectedStoreCount : Nat
  completedStoreCount : Nat
  partialStoreCount : Nat
  unknownStoreCount : Nat
  expectedEndpointCount : Nat
  pagingVerified : Bool
  dedupeVerified : Bool
  rowCount : Nat
  reasonCode : Option String
  asOf : Instant
  deriving DecidableEq

/-- A row of `ops.v4_capability_observation`. -/
structure CapabilityObservation where
  capabilityObservationId : Nat
  observationKey : String
  collectionRunId : Nat
  storeCode : Option String
  endpointCode : String
  capabilityCode : String
  capabilityStatus : CapabilityStatus
  payloadHash : String
  observedAt : Int
  sourceUpdatedAt : Option Int
  sanitizedErrorCode : Option String
  deriving DecidableEq

/-- The tables, the next identity of each and the clock of the database. -/
structure Ledger where
  clock : Instant := 0
  runs : List CollectionRun := []
  attempts : List CollectionAttempt := []
  pages : List PageEvidence := []
  facts : List FactRow := []
  coverages : List CollectionCoverage := []
  capabilities : List CapabilityObservation := []
  nextRunId : Nat := 1
  nextAttemptId : Nat := 1
  nextPageId : Nat := 1
  nextCoverageId : Nat := 1
  nextCapabilityId : Nat := 1

/-- Why `buildTypedRow` refused a record: with a code of its own, or with an error that is not its own. -/
inductive RowRefusal where
  | refused (code : String)
  | thrown (error : JsError)

/-- What the functions take from elsewhere: the dates and the digest of the engine, how the driver reads
a `DATE` back, how a record is typed, and what the fact tables accept. -/
structure LedgerBuiltins where
  dates : DateBuiltins
  digest : Digest
  readDate : Int → Option String
  buildTypedRow : PageId → Json → Except RowRefusal TypedRow
  pagePayload : String → List TypedRow → String
  sameTyped : TypedRow → TypedRow → Bool
  factRefusal : List FactRow → List FactRow → Option JsError

/-! ## Errors and checks -/

/-- A `V4CollectionError`. -/
def v4Error (code : String) : JsError := ⟨some code, "full-webapi fact repository refused: " ++ code⟩

/-- An error the database raises, with its `ERRCODE`. -/
def databaseError (errcode message : String) : JsError := ⟨some errcode, message⟩

def violates (errcode name : String) : JsError :=
  databaseError errcode ("violates constraint \"" ++ name ++ "\"")

/-- `STORE_CODE_PATTERN`. -/
def isStoreCode (text : String) : Bool :=
  decide (text.toList.length = 6) && (text.toList.take 2).all (·.isUpper) &&
    (text.toList.drop 2).all (·.isDigit)

/-- `/^[A-Z][A-Z0-9_]{2,n}$/`. -/
def isUpperCode (n : Nat) (text : String) : Bool :=
  match text.toList with
  | [] => false
  | c :: cs =>
    c.isUpper && decide (2 ≤ cs.length ∧ cs.length ≤ n) &&
      cs.all fun d => d.isUpper || d.isDigit || d == '_'

/-- `ENDPOINT_CODE_PATTERN` and `CAPABILITY_CODE_PATTERN`. -/
def isEndpointCode : String → Bool := isUpperCode 60

/-- `ERROR_CODE_PATTERN`. -/
def isErrorCode : String → Bool := isUpperCode 80

def requireHex64 (value code : String) : Except JsError Unit := refuse (¬isSha256Hex value) (v4Error code)

def requireStoreCode (value : String) : Except JsError Unit :=
  refuse (¬isStoreCode value) (v4Error "V4_STORE_CODE_INVALID")

def requireEndpointCode (value : String) : Except JsError Unit :=
  refuse (¬isEndpointCode value) (v4Error "V4_ENDPOINT_CODE_INVALID")

def requireErrorCode (value : Option String) : Except JsError Unit :=
  refuse (value.any fun code => !isErrorCode code) (v4Error "V4_ERROR_CODE_INVALID")

/-- A pair of dates as a function receives it. -/
structure WindowArguments where
  windowStart : Option String := none
  windowEnd : Option String := none
  deriving DecidableEq

def requireWindow (D : DateBuiltins) : WindowArguments → Except JsError (Option (String × String))
  | ⟨none, none⟩ => .ok none
  | ⟨some start, some end_⟩ => do
    refuse (¬(isIsoDateShape start ∧ isIsoDateShape end_)) (v4Error "V4_WINDOW_INVALID")
    refuse (end_ < start) (v4Error "V4_WINDOW_INVALID")
    match D.epochDays start, D.epochDays end_ with
    | some first, some last => refuse (30 < last - first) (v4Error "V4_WINDOW_TOO_WIDE")
    -- A comparison with NaN is false.
    | _, _ => pure ()
    return some (start, end_)
  | _ => .error (v4Error "V4_WINDOW_INVALID")

/-- The cast of a text to `date`, which has no year zero. -/
def castDate (text : String) : Option Int :=
  if text.toList.take 4 = ['0', '0', '0', '0'] then none else parseIsoDate text

/-- The window columns a statement stores. -/
def castWindow : Option (String × String) → Except JsError (Option (Int × Int))
  | none => .ok none
  | some (start, end_) =>
    match castDate start, castDate end_ with
    | some first, some last => .ok (some (first, last))
    | _, _ => .error (databaseError "22008" "date/time field value out of range")

/-- `sameDateValue` of both ends of a window. -/
def sameWindow (B : LedgerBuiltins) : Option (Int × Int) → Option (String × String) → Bool
  | none, none => true
  | some (first, last), some (start, end_) =>
    B.readDate first = some start && B.readDate last = some end_
  | _, _ => false

/-- `sha256Hex`: the domain and the value. -/
def LedgerBuiltins.sha256Hex (B : LedgerBuiltins) (domain value : String) : String :=
  B.digest.sha256Hex (domain ++ value)

/-- `[…].join('\u001f')`. -/
def joinUnits (parts : List String) : String := String.intercalate (String.singleton (Char.ofNat 0x1F)) parts

/-- The range of an `integer` column. -/
def fitsInteger (value : Option Nat) : Bool := value.all (· ≤ 2147483647)

/-! ## The run guard -/

/-- `V4_REQUIRED_WORK_ITEM_CODES`, which the guard repeats. -/
def v4RequiredWorkItemCodes : List String :=
  ["STOCK_RECORDS_LIST", "WAYBILLS_PAGE", "RETURN_APPLICATIONS_LIST", "RETURN_ORDERS_PAGE",
    "EXCEPTIONS_PAGE", "VALUE_ADDED_SERVICES_PAGE", "QUALITY_REPORTS_PAGE", "WAYBILLS_STATISTICS_1",
    "WAYBILLS_STATISTICS_2", "WAYBILLS_STATISTICS_3", "WAYBILLS_STATISTICS_4", "WAYBILLS_STATISTICS_5",
    "WAYBILLS_STATISTICS_6"]

/-- The one-way state machine of runs. -/
def RunStatus.next : RunStatus → List RunStatus
  | .planned => [.preflightPassed, .failed, .aborted]
  | .preflightPassed => [.running, .failed, .aborted]
  | .running => [.succeeded, .partly, .failed, .aborted]
  | _ => []

/-- A `23514`, raised by a guard. -/
def checkViolation (message : String) : JsError := databaseError "23514" message

/-- The plan of a run, which no update may change. -/
def CollectionRun.SamePlan (old new : CollectionRun) : Prop :=
  new = { old with
    runStatus := new.runStatus, startedAt := new.startedAt, completedAt := new.completedAt
    sanitizedErrorCode := new.sanitizedErrorCode }

instance (old new : CollectionRun) : Decidable (old.SamePlan new) := by
  unfold CollectionRun.SamePlan
  infer_instance

/-- The part of the guard that reads the row as it was. -/
def guardRunMove : Option CollectionRun → CollectionRun → Except JsError Unit
  | some old, new => do
    refuse (¬old.SamePlan new) (databaseError "42501" "v4 collection run plan is immutable")
    refuse (new.runStatus ∉ old.runStatus.next) (checkViolation
      ("invalid v4 collection run transition " ++ old.runStatus.text ++ " -> " ++ new.runStatus.text))
  | none, new => do
    refuse (new.runStatus ≠ .planned) (checkViolation "v4 collection run must start as PLANNED")
    refuse (new.startedAt ≠ none ∨ new.completedAt ≠ none)
      (checkViolation "v4 collection run timeline starts empty")

/-- The part of the guard that closes the roster. -/
def guardRunRoster (new : CollectionRun) : Except JsError Unit := do
  refuse (new.expectedStoreCount ≠ new.storeCodes.length ∨
      new.expectedEndpointCount ≠ new.endpointCodes.length)
    (checkViolation "v4 collection run expected counts must equal the frozen roster sizes")
  refuse (¬new.storeCodes.Nodup) (checkViolation "v4 collection run store roster contains duplicates")
  refuse (¬new.endpointCodes.Nodup)
    (checkViolation "v4 collection run endpoint roster contains duplicates")
  refuse (new.storeCodes ≠ fullManagedStoreCodes ∨ new.expectedStoreCount ≠ 25)
    (checkViolation "v4 collection run must use the canonical 25-store roster")
  refuse (new.endpointCodes ≠ v4RequiredWorkItemCodes ∨ new.expectedEndpointCount ≠ 13)
    (checkViolation "v4 collection run must use the 13-item contract manifest")
  refuse (¬new.storeCodes.all isStoreCode)
    (checkViolation "v4 collection run store code has invalid format")
  refuse (¬new.endpointCodes.all isEndpointCode)
    (checkViolation "v4 collection run endpoint code has invalid format")

def guardRunTimes (new : CollectionRun) : Except JsError Unit := do
  refuse ((new.runStatus = .running ∨ new.runStatus = .succeeded ∨ new.runStatus = .partly) ∧
      new.startedAt = none)
    (checkViolation ("v4 collection run " ++ new.runStatus.text ++ " requires started_at"))
  refuse (new.runStatus.Terminal ∧ new.completedAt = none)
    (checkViolation ("v4 collection run " ++ new.runStatus.text ++ " requires completed_at"))
  refuse (new.runStatus = .failed ∧ new.sanitizedErrorCode = none)
    (checkViolation "v4 collection run FAILED requires a sanitized error code")

def Ledger.attemptsOf (ledger : Ledger) (collectionRunId : Nat) : List CollectionAttempt :=
  ledger.attempts.filter (·.collectionRunId = collectionRunId)

def guardRunAttempts (ledger : Ledger) (new : CollectionRun) : Except JsError Unit := do
  let attempts := ledger.attemptsOf new.collectionRunId
  refuse ((new.runStatus = .succeeded ∨ new.runStatus = .partly ∨ new.runStatus = .failed) ∧
      ∃ attempt ∈ attempts, attempt.attemptStatus.Open)
    (checkViolation
      ("v4 collection run " ++ new.runStatus.text ++ " requires every created attempt terminal"))
  refuse (new.runStatus = .succeeded ∧
      (attempts.length ≠ new.expectedStoreCount * new.expectedEndpointCount ∨
        attempts.countP (·.attemptStatus ≠ .succeeded) ≠ 0))
    (checkViolation ("v4 collection run cannot be SUCCEEDED until every roster store x endpoint " ++
      "attempt is SUCCEEDED"))
  refuse (new.runStatus = .partly ∧ attempts = [])
    (checkViolation "v4 collection run PARTIAL requires at least one attempt")

/-- `ops.guard_v4_collection_run_state`, for a writer that is the loader. -/
def guardCollectionRunState (ledger : Ledger) (old : Option CollectionRun) (new : CollectionRun) :
    Except JsError Unit := do
  guardRunMove old new
  guardRunRoster new
  guardRunTimes new
  guardRunAttempts ledger new

/-- The pair of dates a window column pair may hold. -/
def WindowFits : Option (Int × Int) → Prop
  | none => True
  | some (first, last) => first ≤ last ∧ last - first ≤ 30

instance : (window : Option (Int × Int)) → Decidable (WindowFits window)
  | none => .isTrue trivial
  | some _ => inferInstanceAs (Decidable (_ ∧ _))

/-- `ck_ops_v4_collection_run_timeline`. -/
def CollectionRun.Timeline (run : CollectionRun) : Prop :=
  (∀ started ∈ run.startedAt, run.createdAt ≤ started) ∧
    ∀ completed ∈ run.completedAt, ∃ started ∈ run.startedAt, started ≤ completed

instance (run : CollectionRun) : Decidable run.Timeline := by
  unfold CollectionRun.Timeline
  infer_instance

/-- The `CHECK` constraints of `ops.v4_collection_run` and its foreign key. -/
def checkCollectionRun (run : CollectionRun) : Except JsError Unit := do
  refuse (¬(isSha256Hex run.runKey ∧ isSha256Hex run.planHash))
    (violates "23514" "ck_ops_v4_collection_run_hashes")
  refuse (run.retryPolicy ≠ "NONE") (violates "23514" "ck_ops_v4_collection_run_retry")
  refuse (¬(1 ≤ run.expectedStoreCount ∧ run.expectedStoreCount ≤ 200 ∧
      1 ≤ run.expectedEndpointCount ∧ run.expectedEndpointCount ≤ 200))
    (violates "23514" "ck_ops_v4_collection_run_expected_counts")
  refuse (¬WindowFits run.window) (violates "23514" "ck_ops_v4_collection_run_window")
  refuse (run.sanitizedErrorCode.any fun code => !isErrorCode code)
    (violates "23514" "ck_ops_v4_collection_run_error_code")
  refuse (¬run.Timeline) (violates "23514" "ck_ops_v4_collection_run_timeline")
  -- The registry holds the one contract its migration inserts.
  refuse (run.contractVersion ≠ 1) (violates "23503" "fk_ops_v4_collection_run_contract")

/-! ## The attempt guard -/

/-- The one-way state machine of attempts. -/
def AttemptStatus.next : AttemptStatus → List AttemptStatus
  | .planned => [.running, .failed, .blocked, .unknown]
  | .running => [.succeeded, .partly, .failed]
  | _ => []

/-- The identity and the request contract of an attempt, which no update may change. -/
def CollectionAttempt.SameRequest (old new : CollectionAttempt) : Prop :=
  new = { old with
    attemptStatus := new.attemptStatus, observedRowCount := new.observedRowCount
    observedPageCount := new.observedPageCount, startedAt := new.startedAt
    completedAt := new.completedAt, sanitizedErrorCode := new.sanitizedErrorCode }

instance (old new : CollectionAttempt) : Decidable (old.SameRequest new) := by
  unfold CollectionAttempt.SameRequest
  infer_instance

/-- The part of the guard that reads the attempt as it was, or the run it is born under. -/
def guardAttemptMove (ledger : Ledger) :
    Option CollectionAttempt → CollectionAttempt → Except JsError Unit
  | some old, new => do
    refuse (¬old.SameRequest new)
      (databaseError "42501" "v4 collection attempt identity and request contract are immutable")
    refuse (new.attemptStatus ∉ old.attemptStatus.next) (checkViolation
      ("invalid v4 collection attempt transition " ++ old.attemptStatus.text ++ " -> " ++
        new.attemptStatus.text))
  | none, new => do
    refuse (¬(new.attemptStatus = .planned ∨ new.attemptStatus = .blocked ∨
        new.attemptStatus = .unknown))
      (checkViolation "v4 collection attempt must start as PLANNED, BLOCKED or UNKNOWN")
    refuse (∃ run ∈ ledger.runs, run.collectionRunId = new.collectionRunId ∧ run.runStatus.Terminal)
      (checkViolation "v4 collection attempt cannot be created under a terminal run")
    refuse (¬∃ run ∈ ledger.runs, run.collectionRunId = new.collectionRunId ∧
        new.storeCode ∈ run.storeCodes ∧ new.endpointCode ∈ run.endpointCodes)
      (checkViolation "v4 collection attempt is outside the frozen run roster")

def guardAttemptColumns (new : CollectionAttempt) : Except JsError Unit := do
  refuse (new.attemptStatus = .blocked ∧ (new.startedAt ≠ none ∨ new.completedAt = none ∨
      new.sanitizedErrorCode = none ∨ new.observedRowCount ≠ none ∨ new.observedPageCount ≠ none))
    (checkViolation
      "v4 collection attempt BLOCKED requires completed_at, a sanitized error code and no counts")
  refuse (new.attemptStatus = .unknown ∧ (new.completedAt = none ∨ new.observedRowCount ≠ none ∨
      new.observedPageCount ≠ none))
    (checkViolation "v4 collection attempt UNKNOWN requires completed_at and no counts")
  refuse (new.attemptStatus = .running ∧ (new.startedAt = none ∨ new.completedAt ≠ none))
    (checkViolation "v4 collection attempt RUNNING requires started_at only")
  refuse ((new.attemptStatus = .succeeded ∨ new.attemptStatus = .partly) ∧
      (new.startedAt = none ∨ new.completedAt = none ∨ new.observedRowCount = none))
    (checkViolation ("v4 collection attempt " ++ new.attemptStatus.text ++
      " requires started_at, completed_at and observed_row_count"))
  refuse (new.attemptStatus = .failed ∧ (new.completedAt = none ∨ new.sanitizedErrorCode = none ∨
      new.observedRowCount ≠ none ∨ new.observedPageCount ≠ none))
    (checkViolation ("v4 collection attempt FAILED requires completed_at and a sanitized error " ++
      "code, never counts"))

def Ledger.pagesOf (ledger : Ledger) (collectionAttemptId : Nat) : List PageEvidence :=
  ledger.pages.filter (·.collectionAttemptId = collectionAttemptId)

def guardAttemptEvidence (ledger : Ledger) (new : CollectionAttempt) : Except JsError Unit := do
  let pages := ledger.pagesOf new.collectionAttemptId
  refuse (new.attemptStatus = .succeeded ∧
      (¬new.observedPageCount.any (1 ≤ ·) ∨ (∃ page ∈ pages, page.fetchStatus ≠ .succeeded) ∨
        some pages.length ≠ new.observedPageCount))
    (checkViolation "v4 collection attempt SUCCEEDED requires complete accepted page evidence")
  refuse (new.attemptStatus = .partly ∧ pages = [])
    (checkViolation "v4 collection attempt PARTIAL requires at least one page evidence row")

/-- `ops.guard_v4_collection_attempt_terminal`. -/
def guardCollectionAttemptTerminal (ledger : Ledger) (old : Option CollectionAttempt)
    (new : CollectionAttempt) : Except JsError Unit := do
  guardAttemptMove ledger old new
  guardAttemptColumns new
  guardAttemptEvidence ledger new

/-- `ck_ops_v4_collection_attempt_timeline`. -/
def CollectionAttempt.Timeline (attempt : CollectionAttempt) : Prop :=
  (∀ started ∈ attempt.startedAt, attempt.createdAt ≤ started) ∧
    ∀ completed ∈ attempt.completedAt, ∀ started ∈ attempt.startedAt, started ≤ completed

instance (attempt : CollectionAttempt) : Decidable attempt.Timeline := by
  unfold CollectionAttempt.Timeline
  infer_instance

/-- The types and the `CHECK` constraints of `ops.v4_collection_attempt`. -/
def checkCollectionAttempt (attempt : CollectionAttempt) : Except JsError Unit := do
  refuse (¬(fitsInteger attempt.expectedRowCount ∧ fitsInteger attempt.observedRowCount ∧
      fitsInteger attempt.observedPageCount))
    (databaseError "22003" "integer out of range")
  refuse (¬(isSha256Hex attempt.attemptKey ∧ isSha256Hex attempt.requestSchemaHash ∧
      isSha256Hex attempt.requestFingerprint))
    (violates "23514" "ck_ops_v4_collection_attempt_hashes")
  refuse (¬isStoreCode attempt.storeCode) (violates "23514" "ck_ops_v4_collection_attempt_store")
  refuse (¬isEndpointCode attempt.endpointCode)
    (violates "23514" "ck_ops_v4_collection_attempt_endpoint")
  refuse (¬WindowFits attempt.window) (violates "23514" "ck_ops_v4_collection_attempt_window")
  refuse (attempt.sanitizedErrorCode.any fun code => !isErrorCode code)
    (violates "23514" "ck_ops_v4_collection_attempt_error_code")
  refuse (¬attempt.Timeline) (violates "23514" "ck_ops_v4_collection_attempt_timeline")

/-! ## The guards of the evidence -/

/-- `ops.guard_v4_page_evidence_mutation`, at an insert. -/
def guardPageEvidenceMutation (ledger : Ledger) (new : PageEvidence) : Except JsError Unit :=
  refuse (∃ attempt ∈ ledger.attempts, attempt.collectionAttemptId = new.collectionAttemptId ∧
      ¬attempt.attemptStatus.Open)
    (checkViolation "v4 page evidence requires a non-terminal attempt")

/-- The constraints of `ops.v4_page_evidence` on one row and on the table. -/
def checkPageEvidence (ledger : Ledger) (page : PageEvidence) : Except JsError Unit := do
  refuse (¬(fitsInteger (some page.rowCount) ∧ fitsInteger (some page.rejectedRowCount)))
    (databaseError "22003" "integer out of range")
  refuse (¬(isSha256Hex page.pageKey ∧ isSha256Hex page.pageRequestFingerprint ∧
      isSha256Hex page.responseSchemaHash ∧ isSha256Hex page.payloadHash))
    (violates "23514" "ck_ops_v4_page_evidence_hashes")
  refuse (¬(1 ≤ page.pageNumber ∧ page.pageNumber ≤ 1000 ∧ 1 ≤ page.pageSize ∧ page.pageSize ≤ 1000))
    (violates "23514" "ck_ops_v4_page_evidence_paging")
  refuse (page.httpStatus.any fun status => decide (status < 100 ∨ 599 < status))
    (violates "23514" "ck_ops_v4_page_evidence_http")
  refuse (¬(page.fetchStatus = .succeeded ↔ page.rejectedRowCount = 0))
    (violates "23514" "ck_ops_v4_page_evidence_fetch")
  refuse (∃ other ∈ ledger.pages, other.pageKey = page.pageKey)
    (violates "23505" "uq_ops_v4_page_evidence_key")
  refuse (∃ other ∈ ledger.pages, other.collectionAttemptId = page.collectionAttemptId ∧
      other.pageNumber = page.pageNumber)
    (violates "23505" "uq_ops_v4_page_evidence_number")

/-- How many stores of the roster the attempts complete, partly complete and leave unknown. -/
structure StoreCounts where
  completed : Nat := 0
  partly : Nat := 0
  unknown : Nat := 0
  deriving DecidableEq

/-- `completedStoreCount`, `partialStoreCount` and `unknownStoreCount`, which the coverage guard counts
once more. -/
def countStores (run : CollectionRun) (attempts : List CollectionAttempt) : StoreCounts :=
  run.storeCodes.foldl (fun counts storeCode =>
    let ofStore := attempts.filter (·.storeCode = storeCode)
    let succeeded := ofStore.countP (·.attemptStatus = .succeeded)
    if ofStore.length = run.expectedEndpointCount ∧ succeeded = ofStore.length then
      { counts with completed := counts.completed + 1 }
    else if 0 < succeeded then { counts with partly := counts.partly + 1 }
    else { counts with unknown := counts.unknown + 1 }) {}

/-- `sum(page.row_count)` over the attempts of the run. -/
def Ledger.evidenceRows (ledger : Ledger) (collectionRunId : Nat) : Nat :=
  ((ledger.attemptsOf collectionRunId).map fun attempt =>
    ((ledger.pagesOf attempt.collectionAttemptId).map (·.rowCount)).sum).sum

/-- `ops.guard_v4_collection_coverage`, at an insert. -/
def guardCollectionCoverage (ledger : Ledger) (new : CollectionCoverage) : Except JsError Unit := do
  match ledger.runs.find? (·.collectionRunId = new.collectionRunId) with
  | none => throw (databaseError "23502" "v4 coverage requires an existing run")
  | some run =>
    refuse (¬run.runStatus.Terminal) (checkViolation "v4 coverage requires a terminal run")
    refuse (new.expectedStoreCount ≠ run.expectedStoreCount ∨
        new.expectedEndpointCount ≠ run.expectedEndpointCount)
      (checkViolation "v4 coverage expected counts must mirror the run")
    let counts := countStores run (ledger.attemptsOf new.collectionRunId)
    refuse (new.completedStoreCount ≠ counts.completed ∨ new.partialStoreCount ≠ counts.partly ∨
        new.unknownStoreCount ≠ counts.unknown)
      (checkViolation "v4 coverage store counts do not match attempt evidence")
    refuse (new.rowCount ≠ ledger.evidenceRows new.collectionRunId)
      (checkViolation "v4 coverage row_count does not match page evidence")
    refuse (new.completedStoreCount < new.expectedStoreCount ∧ new.reasonCode = none)
      (checkViolation "v4 coverage requires a reason_code when completion is partial")

end FullManagedBi.Collection
