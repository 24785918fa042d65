import FullManagedBi.Collection.Ledger

/-!
# The fact repository

The functions of `src/warehouse/full-webapi-fact-repository.mjs`: `createCollectionRun`,
`transitionRun`, `beginAttempt`, `transitionAttempt`, `recordCapabilityObservation`,
`finalizeCoverage`, `recordPageEvidence` and `insertTypedFacts`. Each checks its arguments and then runs
one transaction, so each is a function from a ledger to an answer and a new ledger, or an error.
`LedgerCall` lists them and `perform` is the commit or the rollback.
-/

namespace FullManagedBi.Collection

open Lib
open WebapiHistory (fullManagedStoreCodes)

variable (B : LedgerBuiltins)

/-! ## Runs -/

/-- The arguments of `createCollectionRun`. -/
structure CreateRunArguments where
  contractVersion : Nat := 1
  planHash : String
  runKey : String
  storeCodes : List String
  endpointCodes : List String
  window : WindowArguments := {}
  retryPolicy : String := "NONE"
  deriving DecidableEq

structure RunAnswer where
  collectionRunId : Nat
  runStatus : RunStatus
  replayed : Bool := false
  deriving DecidableEq

/-- `WHERE run_key = $1`. -/
def Ledger.findRun (ledger : Ledger) (runKey : String) : Option CollectionRun :=
  ledger.runs.find? (·.runKey = runKey)

/-- The checks of `createCollectionRun` before its transaction. -/
def checkCreateRun (arguments : CreateRunArguments) : Except JsError (Option (String × String)) := do
  requireHex64 arguments.planHash "V4_PLAN_HASH_INVALID"
  requireHex64 arguments.runKey "V4_RUN_KEY_INVALID"
  refuse (arguments.storeCodes.length ≠ fullManagedStoreCodes.length)
    (v4Error "V4_STORE_ROSTER_NOT_CANONICAL")
  refuse (arguments.endpointCodes.length ≠ v4RequiredWorkItemCodes.length)
    (v4Error "V4_ENDPOINT_ROSTER_NOT_CANONICAL")
  arguments.storeCodes.forM requireStoreCode
  refuse (¬arguments.storeCodes.Nodup) (v4Error "V4_STORE_ROSTER_DUPLICATE")
  arguments.endpointCodes.forM requireEndpointCode
  refuse (¬arguments.endpointCodes.Nodup) (v4Error "V4_ENDPOINT_ROSTER_DUPLICATE")
  refuse (arguments.storeCodes ≠ fullManagedStoreCodes) (v4Error "V4_STORE_ROSTER_NOT_CANONICAL")
  refuse (arguments.endpointCodes ≠ v4RequiredWorkItemCodes)
    (v4Error "V4_ENDPOINT_ROSTER_NOT_CANONICAL")
  refuse (arguments.retryPolicy ≠ "NONE") (v4Error "V4_RETRY_POLICY_INVALID")
  refuse (maxSafeInteger < arguments.contractVersion ∨ arguments.contractVersion < 1)
    (v4Error "V4_CONTRACT_VERSION_INVALID")
  requireWindow B.dates arguments.window

/-- `replayExact` of a run. -/
def exactRun (arguments : CreateRunArguments) (window : Option (String × String)) (row : CollectionRun) :
    Bool :=
  row.contractVersion = arguments.contractVersion && row.planHash = arguments.planHash &&
    row.expectedStoreCount = arguments.storeCodes.length &&
    row.expectedEndpointCount = arguments.endpointCodes.length &&
    row.storeCodes = arguments.storeCodes && row.endpointCodes = arguments.endpointCodes &&
    row.retryPolicy = arguments.retryPolicy && sameWindow B row.window window

/-- `INSERT INTO ops.v4_collection_run`. -/
def Ledger.insertRun (ledger : Ledger) (run : CollectionRun) : Except JsError Ledger := do
  guardCollectionRunState ledger none run
  checkCollectionRun run
  refuse (∃ other ∈ ledger.runs, other.runKey = run.runKey)
    (violates "23505" "uq_ops_v4_collection_run_key")
  return { ledger with runs := ledger.runs ++ [run], nextRunId := ledger.nextRunId + 1 }

def createCollectionRun (arguments : CreateRunArguments) (ledger : Ledger) :
    Except JsError (RunAnswer × Ledger) := do
  let window ← checkCreateRun B arguments
  match ledger.findRun arguments.runKey with
  | some row =>
    refuse (¬exactRun B arguments window row) (v4Error "V4_RUN_REPLAY_DRIFT")
    return (⟨row.collectionRunId, row.runStatus, true⟩, ledger)
  | none =>
    let stored ← castWindow window
    let run : CollectionRun := {
      collectionRunId := ledger.nextRunId
      contractVersion := arguments.contractVersion
      runKey := arguments.runKey
      planHash := arguments.planHash
      retryPolicy := arguments.retryPolicy
      expectedStoreCount := arguments.storeCodes.length
      expectedEndpointCount := arguments.endpointCodes.length
      storeCodes := arguments.storeCodes
      endpointCodes := arguments.endpointCodes
      window := stored
      createdAt := ledger.clock }
    let after ← ledger.insertRun run
    return (⟨run.collectionRunId, run.runStatus, false⟩, after)

/-- The arguments of `transitionRun`. -/
structure TransitionRunArguments where
  runKey : String
  status : RunStatus
  sanitizedErrorCode : Option String := none
  deriving DecidableEq

/-- What the `UPDATE` of `transitionRun` makes of a row. -/
def CollectionRun.moved (row : CollectionRun) (now : Instant) (arguments : TransitionRunArguments) :
    CollectionRun :=
  { row with
    runStatus := arguments.status
    startedAt := if arguments.status = .running then some now else row.startedAt
    completedAt := if arguments.status.Terminal then some now else none
    sanitizedErrorCode := arguments.sanitizedErrorCode }

/-- `UPDATE ops.v4_collection_run`, of the row with the key. -/
def Ledger.updateRun (ledger : Ledger) (old new : CollectionRun) : Except JsError Ledger := do
  guardCollectionRunState ledger (some old) new
  checkCollectionRun new
  return { ledger with runs := updateWhere (·.runKey = old.runKey) (fun _ => new) ledger.runs }

def transitionRun (arguments : TransitionRunArguments) (ledger : Ledger) :
    Except JsError (RunAnswer × Ledger) := do
  requireHex64 arguments.runKey "V4_RUN_KEY_INVALID"
  requireErrorCode arguments.sanitizedErrorCode
  match ledger.findRun arguments.runKey with
  | none => throw (v4Error "V4_RUN_UNKNOWN")
  | some row =>
    refuse ((arguments.status = .succeeded ∨ arguments.status = .partly) ∧ row.startedAt = none)
      (v4Error "V4_RUN_NOT_STARTED")
    let after ← ledger.updateRun row (row.moved ledger.clock arguments)
    return (⟨row.collectionRunId, arguments.status, false⟩, after)

/-! ## Attempts -/

/-- The arguments of `beginAttempt`. -/
structure BeginAttemptArguments where
  runKey : String
  storeCode : String
  endpointCode : String
  requestSchemaHash : String
  requestFingerprint : String
  window : WindowArguments := {}
  expectedRowCount : Option Nat := none
  initialStatus : AttemptStatus := .planned
  sanitizedErrorCode : Option String := none
  deriving DecidableEq

/-- What the attempt functions return. -/
structure AttemptAnswer where
  collectionAttemptId : Nat
  attemptStatus : AttemptStatus
  attemptKey : String
  replayed : Bool := false
  deriving DecidableEq

def attemptKey (arguments : BeginAttemptArguments) (window : Option (String × String)) : String :=
  B.sha256Hex "full-managed.v4.attempt:" (joinUnits
    [arguments.runKey, arguments.storeCode, arguments.endpointCode, arguments.requestSchemaHash,
      (window.map (·.1)).getD "", (window.map (·.2)).getD ""])

/-- The checks of `beginAttempt` before its transaction. -/
def checkBeginAttempt (arguments : BeginAttemptArguments) :
    Except JsError (Option (String × String)) := do
  requireHex64 arguments.runKey "V4_RUN_KEY_INVALID"
  requireStoreCode arguments.storeCode
  requireEndpointCode arguments.endpointCode
  requireHex64 arguments.requestSchemaHash "V4_REQUEST_SCHEMA_HASH_INVALID"
  requireHex64 arguments.requestFingerprint "V4_REQUEST_FINGERPRINT_INVALID"
  refuse (¬(arguments.initialStatus = .planned ∨ arguments.initialStatus = .blocked ∨
      arguments.initialStatus = .unknown))
    (v4Error "V4_ATTEMPT_INITIAL_STATUS_INVALID")
  refuse (arguments.initialStatus = .blocked ∧ arguments.sanitizedErrorCode = none)
    (v4Error "V4_ATTEMPT_BLOCKED_REQUIRES_ERROR")
  requireErrorCode arguments.sanitizedErrorCode
  refuse (arguments.expectedRowCount.any (maxSafeInteger < ·))
    (v4Error "V4_EXPECTED_ROW_COUNT_INVALID")
  requireWindow B.dates arguments.window

/-- `replayExact` of an attempt. -/
def exactAttempt (arguments : BeginAttemptArguments) (window : Option (String × String))
    (row : CollectionAttempt) : Bool :=
  row.attemptKey = attemptKey B arguments window &&
    row.requestSchemaHash = arguments.requestSchemaHash &&
    row.requestFingerprint = arguments.requestFingerprint && sameWindow B row.window window &&
    row.expectedRowCount = arguments.expectedRowCount

/-- Whether an attempt is the one of a run, a store and a work item. -/
def CollectionAttempt.AtGrain (collectionRunId : Nat) (storeCode endpointCode : String)
    (attempt : CollectionAttempt) : Prop :=
  attempt.collectionRunId = collectionRunId ∧ attempt.storeCode = storeCode ∧
    attempt.endpointCode = endpointCode

instance (collectionRunId : Nat) (storeCode endpointCode : String) (attempt : CollectionAttempt) :
    Decidable (attempt.AtGrain collectionRunId storeCode endpointCode) := by
  unfold CollectionAttempt.AtGrain
  infer_instance

/-- `INSERT INTO ops.v4_collection_attempt`. -/
def Ledger.insertAttempt (ledger : Ledger) (attempt : CollectionAttempt) : Except JsError Ledger := do
  guardCollectionAttemptTerminal ledger none attempt
  checkCollectionAttempt attempt
  refuse (∃ other ∈ ledger.attempts, other.attemptKey = attempt.attemptKey)
    (violates "23505" "uq_ops_v4_collection_attempt_key")
  refuse (∃ other ∈ ledger.attempts,
      other.AtGrain attempt.collectionRunId attempt.storeCode attempt.endpointCode)
    (violates "23505" "uq_ops_v4_collection_attempt_grain")
  return { ledger with
    attempts := ledger.attempts ++ [attempt], nextAttemptId := ledger.nextAttemptId + 1 }

def beginAttempt (arguments : BeginAttemptArguments) (ledger : Ledger) :
    Except JsError (AttemptAnswer × Ledger) := do
  let window ← checkBeginAttempt B arguments
  match ledger.findRun arguments.runKey with
  | none => throw (v4Error "V4_RUN_UNKNOWN")
  | some run =>
    refuse run.runStatus.Terminal (v4Error "V4_RUN_TERMINAL")
    match ledger.attempts.find? (fun attempt =>
        attempt.AtGrain run.collectionRunId arguments.storeCode arguments.endpointCode) with
    | some row =>
      refuse (¬exactAttempt B arguments window row) (v4Error "V4_ATTEMPT_REPLAY_DRIFT")
      return (⟨row.collectionAttemptId, row.attemptStatus, row.attemptKey, true⟩, ledger)
    | none =>
      let stored ← castWindow window
      let attempt : CollectionAttempt := {
        collectionAttemptId := ledger.nextAttemptId
        collectionRunId := run.collectionRunId
        storeCode := arguments.storeCode
        endpointCode := arguments.endpointCode
        attemptKey := attemptKey B arguments window
        requestSchemaHash := arguments.requestSchemaHash
        requestFingerprint := arguments.requestFingerprint
        window := stored
        attemptStatus := arguments.initialStatus
        expectedRowCount := arguments.expectedRowCount
        completedAt := if arguments.initialStatus = .planned then none else some ledger.clock
        sanitizedErrorCode := arguments.sanitizedErrorCode
        createdAt := ledger.clock }
      let after ← ledger.insertAttempt attempt
      return (⟨attempt.collectionAttemptId, attempt.attemptStatus, attempt.attemptKey, false⟩, after)

/-- The arguments of `transitionAttempt`. -/
structure TransitionAttemptArguments where
  attemptKey : String
  status : AttemptStatus
  observedRowCount : Option Nat := none
  observedPageCount : Option Nat := none
  sanitizedErrorCode : Option String := none
  deriving DecidableEq

/-- The checks of `transitionAttempt` before its transaction. -/
def checkTransitionAttempt (arguments : TransitionAttemptArguments) : Except JsError Unit := do
  requireHex64 arguments.attemptKey "V4_ATTEMPT_KEY_INVALID"
  refuse ((arguments.status = .failed ∨ arguments.status = .blocked) ∧
      ¬arguments.sanitizedErrorCode.any isErrorCode)
    (v4Error "V4_ATTEMPT_TERMINAL_REQUIRES_ERROR")
  refuse (arguments.observedRowCount.any (maxSafeInteger < ·)) (v4Error "V4_OBSERVED_ROW_COUNT_INVALID")
  refuse (arguments.observedPageCount.any fun count => decide (maxSafeInteger < count ∨ count < 1))
    (v4Error "V4_OBSERVED_PAGE_COUNT_INVALID")

/-- What the `UPDATE` of `transitionAttempt` makes of a row. -/
def CollectionAttempt.moved (row : CollectionAttempt) (now : Instant)
    (arguments : TransitionAttemptArguments) : CollectionAttempt :=
  { row with
    attemptStatus := arguments.status
    startedAt := if arguments.status = .running then some now else row.startedAt
    completedAt := if arguments.status = .running then none else some now
    observedRowCount := arguments.observedRowCount
    observedPageCount := arguments.observedPageCount
    sanitizedErrorCode := arguments.sanitizedErrorCode }

/-- `WHERE attempt_key = $1`. -/
def Ledger.findAttempt (ledger : Ledger) (attemptKey : String) : Option CollectionAttempt :=
  ledger.attempts.find? (·.attemptKey = attemptKey)

/-- `UPDATE ops.v4_collection_attempt`, of the row with the key. -/
def Ledger.updateAttempt (ledger : Ledger) (old new : CollectionAttempt) : Except JsError Ledger := do
  guardCollectionAttemptTerminal ledger (some old) new
  checkCollectionAttempt new
  return { ledger with
    attempts := updateWhere (·.attemptKey = old.attemptKey) (fun _ => new) ledger.attempts }

def transitionAttempt (arguments : TransitionAttemptArguments) (ledger : Ledger) :
    Except JsError (AttemptAnswer × Ledger) := do
  checkTransitionAttempt arguments
  match ledger.findAttempt arguments.attemptKey with
  | none => throw (v4Error "V4_ATTEMPT_UNKNOWN")
  | some row =>
    refuse ((arguments.status = .succeeded ∨ arguments.status = .partly) ∧ row.startedAt = none)
      (v4Error "V4_ATTEMPT_NOT_STARTED")
    let after ← ledger.updateAttempt row (row.moved ledger.clock arguments)
    return (⟨row.collectionAttemptId, arguments.status, row.attemptKey, false⟩, after)

/-! ## Evidence -/

/-- What a page function needs of a page: its place, its request and its response. -/
structure PageArguments where
  storeCode : String
  endpointCode : String
  attemptKey : String
  pageNumber : Nat
  pageSize : Nat
  pageRequestFingerprint : String
  responseSchemaHash : String
  httpStatus : Option Nat := none
  observedAt : Option Int
  deriving DecidableEq

/-- The checks of a page that `recordPageEvidence` and `insertTypedFacts` share, after those of its
hashes. -/
def checkPage (page : PageArguments) : Except JsError Unit := do
  refuse (page.pageNumber < 1 ∨ 1000 < page.pageNumber) (v4Error "V4_PAGE_NUMBER_INVALID")
  refuse (page.pageSize < 1 ∨ 1000 < page.pageSize) (v4Error "V4_PAGE_SIZE_INVALID")

def checkHttpStatus (status : Option Nat) : Except JsError Unit :=
  refuse (status.any fun status => decide (status < 100 ∨ 599 < status)) (v4Error "V4_HTTP_STATUS_INVALID")

/-- The digest that names a page of an attempt. -/
def pageKey (page : PageArguments) : String :=
  B.sha256Hex "full-managed.v4.page:"
    (joinUnits [page.attemptKey, toString page.pageNumber, page.pageRequestFingerprint])

def Ledger.attemptOfPage (ledger : Ledger) (page : PageArguments) :
    Except JsError CollectionAttempt := do
  match ledger.findAttempt page.attemptKey with
  | none => throw (v4Error "V4_ATTEMPT_UNKNOWN")
  | some row =>
    refuse (row.storeCode ≠ page.storeCode ∨ row.endpointCode ≠ page.endpointCode)
      (v4Error "V4_ATTEMPT_GRAIN_MISMATCH")
    return row

structure PageContent where
  payloadHash : String
  rowCount : Nat
  rejectedRowCount : Nat
  fetchStatus : FetchStatus
  deriving DecidableEq

/-- `replayExact` of a page. -/
def exactPage (page : PageArguments) (content : PageContent) (row : PageEvidence) : Bool :=
  row.pageNumber = page.pageNumber && row.pageSize = page.pageSize &&
    row.pageRequestFingerprint = page.pageRequestFingerprint &&
    row.responseSchemaHash = page.responseSchemaHash && row.payloadHash = content.payloadHash &&
    row.rowCount = content.rowCount && row.rejectedRowCount = content.rejectedRowCount &&
    row.httpStatus = page.httpStatus && row.fetchStatus = content.fetchStatus

/-- `INSERT INTO ops.v4_page_evidence`. -/
def Ledger.insertPage (ledger : Ledger) (attempt : CollectionAttempt) (page : PageArguments)
    (content : PageContent) : Except JsError Ledger := do
  match page.observedAt with
  | none => throw (violates "23502" "observed_at")
  | some observedAt =>
    let row : PageEvidence := {
      pageEvidenceId := ledger.nextPageId
      collectionAttemptId := attempt.collectionAttemptId
      pageKey := pageKey B page
      pageNumber := page.pageNumber
      pageSize := page.pageSize
      pageRequestFingerprint := page.pageRequestFingerprint
      responseSchemaHash := page.responseSchemaHash
      payloadHash := content.payloadHash
      rowCount := content.rowCount
      rejectedRowCount := content.rejectedRowCount
      httpStatus := page.httpStatus
      fetchStatus := content.fetchStatus
      observedAt }
    guardPageEvidenceMutation ledger row
    checkPageEvidence ledger row
    return { ledger with pages := ledger.pages ++ [row], nextPageId := ledger.nextPageId + 1 }

/-- The page evidence of a page: the row there is, where the page is an exact replay of it, else a new
one under an open attempt. The identity and whether it was there. -/
def Ledger.storePage (ledger : Ledger) (attempt : CollectionAttempt) (page : PageArguments)
    (content : PageContent) : Except JsError ((Nat × Bool) × Ledger) := do
  match ledger.pages.find? (·.pageKey = pageKey B page) with
  | some row =>
    refuse (¬exactPage page content row) (v4Error "V4_PAGE_REPLAY_DRIFT")
    return ((row.pageEvidenceId, true), ledger)
  | none =>
    refuse (¬attempt.attemptStatus.Open) (v4Error "V4_ATTEMPT_TERMINAL")
    let after ← ledger.insertPage B attempt page content
    return ((ledger.nextPageId, false), after)

/-- What `recordPageEvidence` returns. -/
structure PageAnswer where
  pageEvidenceId : Nat
  pageKey : String
  content : PageContent
  replayed : Bool
  deriving DecidableEq

def recordPageEvidence (page : PageArguments) (content : PageContent) (ledger : Ledger) :
    Except JsError (PageAnswer × Ledger) := do
  requireStoreCode page.storeCode
  requireEndpointCode page.endpointCode
  requireHex64 page.attemptKey "V4_ATTEMPT_KEY_INVALID"
  requireHex64 page.pageRequestFingerprint "V4_PAGE_REQUEST_FINGERPRINT_INVALID"
  requireHex64 page.responseSchemaHash "V4_RESPONSE_SCHEMA_HASH_INVALID"
  requireHex64 content.payloadHash "V4_PAYLOAD_HASH_INVALID"
  checkPage page
  refuse (maxSafeInteger < content.rowCount) (v4Error "V4_PAGE_ROW_COUNT_INVALID")
  refuse (maxSafeInteger < content.rejectedRowCount) (v4Error "V4_PAGE_REJECTED_ROW_COUNT_INVALID")
  refuse (content.fetchStatus = .succeeded ∧ content.rejectedRowCount ≠ 0 ∨
      content.fetchStatus = .partly ∧ content.rejectedRowCount = 0)
    (v4Error "V4_PAGE_FETCH_STATUS_INVALID")
  checkHttpStatus page.httpStatus
  let attempt ← ledger.attemptOfPage page
  let ((pageEvidenceId, replayed), after) ← ledger.storePage B attempt page content
  return (⟨pageEvidenceId, pageKey B page, content, replayed⟩, after)

/-! ## Typed facts -/

/-- The arguments of `insertTypedFacts`. -/
structure FactArguments where
  pageId : PageId
  page : PageArguments
  sourcePayloadHash : Option String := none
  rows : List Json := []

/-- What `insertTypedFacts` returns. -/
structure FactAnswer where
  pageEvidenceId : Nat
  pageKey : String
  payloadHash : String
  acceptedRowCount : Nat
  rejectedRowCount : Nat
  insertedRowCount : Nat
  replayedRowCount : Nat
  rejectedCodes : List String
  readbackRowCount : Nat
  deriving DecidableEq

/-- The rows of a page that can be typed, and the codes of those that cannot. -/
def typeRows (pageId : PageId) : List Json → Except JsError (List TypedRow × List String)
  | [] => .ok ([], [])
  | record :: records => do
    match B.buildTypedRow pageId record with
    | .ok row =>
      let (typed, rejected) ← typeRows pageId records
      return (row :: typed, rejected)
    | .error (.refused code) =>
      let (typed, rejected) ← typeRows pageId records
      return (typed, code :: rejected)
    | .error (.thrown error) => throw error

def Ledger.factsOf (ledger : Ledger) (pageId : PageId) (collectionAttemptId : Nat) : List FactRow :=
  ledger.facts.filter fun fact => fact.pageId = pageId ∧ fact.sourceAttemptId = collectionAttemptId

/-- Whether two rows are of one version of one entity. -/
def TypedRow.SameVersion (row other : TypedRow) : Prop :=
  row.entityKeyHash = other.entityKeyHash ∧ row.sourceVersionToken = other.sourceVersionToken

instance (row other : TypedRow) : Decidable (row.SameVersion other) := by
  unfold TypedRow.SameVersion
  infer_instance

/-- The rows of a page that are not in its table yet; a row that is there has to be the same. -/
def newRows (open_ : Bool) (stored : List FactRow) : List TypedRow → Except JsError (List TypedRow)
  | [] => .ok []
  | row :: rows => do
    match stored.reverse.find? (fun fact => fact.row.SameVersion row) with
    | some fact =>
      refuse (¬(fact.row.payloadHash = row.payloadHash ∧ B.sameTyped fact.row row))
        (v4Error "V4_FACT_REPLAY_DRIFT")
      newRows open_ stored rows
    | none =>
      refuse (¬open_) (v4Error "V4_ATTEMPT_TERMINAL")
      return row :: (← newRows open_ stored rows)

/-- `INSERT INTO` the fact table of a page. -/
def Ledger.insertFacts (ledger : Ledger) (facts : List FactRow) : Except JsError Ledger :=
  match B.factRefusal ledger.facts facts with
  | some error => .error error
  | none => .ok { ledger with facts := ledger.facts ++ facts }

/-- `payloadHashesMatch`: as many rows as versions, each with the payload last written for it. -/
def readbackMatches (rows : List TypedRow) : Bool :=
  rows.Pairwise fun row other => ¬row.SameVersion other

def insertTypedFacts (arguments : FactArguments) (ledger : Ledger) :
    Except JsError (FactAnswer × Ledger) := do
  let page := arguments.page
  requireStoreCode page.storeCode
  requireEndpointCode page.endpointCode
  requireHex64 page.attemptKey "V4_ATTEMPT_KEY_INVALID"
  requireHex64 page.pageRequestFingerprint "V4_PAGE_REQUEST_FINGERPRINT_INVALID"
  requireHex64 page.responseSchemaHash "V4_RESPONSE_SCHEMA_HASH_INVALID"
  refuse (arguments.sourcePayloadHash.any fun hash => !isSha256Hex hash)
    (v4Error "V4_PAYLOAD_HASH_INVALID")
  checkPage page
  checkHttpStatus page.httpStatus
  refuse (arguments.pageId.endpointCode ≠ page.endpointCode) (v4Error "V4_PAGE_ENDPOINT_MISMATCH")
  let (typed, rejected) ← typeRows B arguments.pageId arguments.rows
  let content : PageContent := {
    payloadHash := arguments.sourcePayloadHash.getD (B.pagePayload page.storeCode typed)
    rowCount := typed.length
    rejectedRowCount := rejected.length
    fetchStatus := if 0 < rejected.length then .partly else .succeeded }
  let attempt ← ledger.attemptOfPage page
  let ((pageEvidenceId, _), paged) ← ledger.storePage B attempt page content
  let stored := ledger.factsOf arguments.pageId attempt.collectionAttemptId
  let inserted ← newRows B (decide attempt.attemptStatus.Open) stored typed
  let facts := inserted.map fun row : TypedRow =>
    (⟨arguments.pageId, page.storeCode, attempt.collectionAttemptId, pageEvidenceId, page.observedAt,
      row⟩ : FactRow)
  let after ← paged.insertFacts B facts
  refuse (¬readbackMatches (stored.map (·.row) ++ inserted)) (v4Error "V4_COLLECTION_READBACK_MISMATCH")
  return ({
    pageEvidenceId
    pageKey := pageKey B page
    payloadHash := content.payloadHash
    acceptedRowCount := typed.length
    rejectedRowCount := rejected.length
    insertedRowCount := inserted.length
    replayedRowCount := typed.length - inserted.length
    rejectedCodes := rejected.eraseDups
    readbackRowCount := stored.length + inserted.length }, after)

/-! ## Capabilities and coverage -/

/-- The arguments of `recordCapabilityObservation`. -/
structure CapabilityArguments where
  runKey : String
  storeCode : Option String := none
  endpointCode : String
  capabilityCode : String
  capabilityStatus : CapabilityStatus
  payloadHash : String
  observedAt : Option Int
  sourceUpdatedAt : Option Int := none
  sanitizedErrorCode : Option String := none
  deriving DecidableEq

/-- What `recordCapabilityObservation` returns. -/
structure CapabilityAnswer where
  capabilityObservationId : Nat
  replayed : Bool
  deriving DecidableEq

/-- `replayExact` of an observation. -/
def exactCapability (arguments : CapabilityArguments) (row : CapabilityObservation) : Bool :=
  row.storeCode = arguments.storeCode && row.endpointCode = arguments.endpointCode &&
    row.capabilityCode = arguments.capabilityCode && row.capabilityStatus = arguments.capabilityStatus &&
    row.payloadHash = arguments.payloadHash && some row.observedAt = arguments.observedAt &&
    row.sourceUpdatedAt = arguments.sourceUpdatedAt &&
    row.sanitizedErrorCode = arguments.sanitizedErrorCode

def recordCapabilityObservation (arguments : CapabilityArguments) (ledger : Ledger) :
    Except JsError (CapabilityAnswer × Ledger) := do
  requireHex64 arguments.runKey "V4_RUN_KEY_INVALID"
  arguments.storeCode.forM requireStoreCode
  requireEndpointCode arguments.endpointCode
  refuse (¬isEndpointCode arguments.capabilityCode) (v4Error "V4_CAPABILITY_CODE_INVALID")
  requireHex64 arguments.payloadHash "V4_PAYLOAD_HASH_INVALID"
  requireErrorCode arguments.sanitizedErrorCode
  let key := B.sha256Hex "full-managed.v4.capability:" (joinUnits
    [arguments.runKey, arguments.storeCode.getD "", arguments.endpointCode, arguments.capabilityCode,
      arguments.payloadHash])
  match ledger.findRun arguments.runKey with
  | none => throw (v4Error "V4_RUN_UNKNOWN")
  | some run =>
    refuse run.runStatus.Terminal (v4Error "V4_RUN_TERMINAL")
    match ledger.capabilities.find? (·.observationKey = key) with
    | some row =>
      refuse (¬exactCapability arguments row) (v4Error "V4_CAPABILITY_REPLAY_DRIFT")
      return (⟨row.capabilityObservationId, true⟩, ledger)
    | none =>
      match arguments.observedAt with
      | none => throw (violates "23502" "observed_at")
      | some observedAt =>
        refuse (∃ other ∈ ledger.capabilities, other.collectionRunId = run.collectionRunId ∧
            other.storeCode = arguments.storeCode ∧ other.endpointCode = arguments.endpointCode ∧
            other.capabilityCode = arguments.capabilityCode)
          (violates "23505" "uq_ops_v4_capability_observation_grain")
        let row : CapabilityObservation := {
          capabilityObservationId := ledger.nextCapabilityId
          observationKey := key
          collectionRunId := run.collectionRunId
          storeCode := arguments.storeCode
          endpointCode := arguments.endpointCode
          capabilityCode := arguments.capabilityCode
          capabilityStatus := arguments.capabilityStatus
          payloadHash := arguments.payloadHash
          observedAt
          sourceUpdatedAt := arguments.sourceUpdatedAt
          sanitizedErrorCode := arguments.sanitizedErrorCode }
        return (⟨ledger.nextCapabilityId, false⟩, { ledger with
          capabilities := ledger.capabilities ++ [row]
          nextCapabilityId := ledger.nextCapabilityId + 1 })

/-- The arguments of `finalizeCoverage`. -/
structure CoverageArguments where
  runKey : String
  pagingVerified : Bool
  dedupeVerified : Bool
  reasonCode : Option String := none
  deriving DecidableEq

/-- What `finalizeCoverage` returns. -/
structure CoverageAnswer where
  coverageId : Nat
  expectedStoreCount : Nat
  counts : StoreCounts
  rowCount : Nat
  replayed : Bool
  deriving DecidableEq

/-- `INSERT INTO ops.v4_collection_coverage`. -/
def Ledger.insertCoverage (ledger : Ledger) (coverage : CollectionCoverage) : Except JsError Ledger := do
  guardCollectionCoverage ledger coverage
  refuse (∃ other ∈ ledger.coverages, other.collectionRunId = coverage.collectionRunId)
    (violates "23505" "uq_ops_v4_collection_coverage_run")
  return { ledger with
    coverages := ledger.coverages ++ [coverage], nextCoverageId := ledger.nextCoverageId + 1 }

def finalizeCoverage (arguments : CoverageArguments) (ledger : Ledger) :
    Except JsError (CoverageAnswer × Ledger) := do
  requireHex64 arguments.runKey "V4_RUN_KEY_INVALID"
  requireErrorCode arguments.reasonCode
  match ledger.findRun arguments.runKey with
  | none => throw (v4Error "V4_RUN_UNKNOWN")
  | some run =>
    refuse (¬run.runStatus.Terminal) (v4Error "V4_RUN_NOT_TERMINAL")
    let counts := countStores run (ledger.attemptsOf run.collectionRunId)
    let rowCount := ledger.evidenceRows run.collectionRunId
    match ledger.coverages.find? (·.collectionRunId = run.collectionRunId) with
    | some row =>
      refuse (¬(row.completedStoreCount = counts.completed ∧ row.partialStoreCount = counts.partly ∧
          row.unknownStoreCount = counts.unknown ∧ row.rowCount = rowCount ∧
          row.reasonCode = arguments.reasonCode))
        (v4Error "V4_COVERAGE_REPLAY_DRIFT")
      return (⟨row.coverageId, run.expectedStoreCount, counts, rowCount, true⟩, ledger)
    | none =>
      let coverage : CollectionCoverage := {
        coverageId := ledger.nextCoverageId
        collectionRunId := run.collectionRunId
        expectedStoreCount := run.expectedStoreCount
        completedStoreCount := counts.completed
        partialStoreCount := counts.partly
        unknownStoreCount := counts.unknown
        expectedEndpointCount := run.expectedEndpointCount
        pagingVerified := arguments.pagingVerified
        dedupeVerified := arguments.dedupeVerified
        rowCount
        reasonCode := arguments.reasonCode
        asOf := ledger.clock }
      let after ← ledger.insertCoverage coverage
      return (⟨coverage.coverageId, run.expectedStoreCount, counts, rowCount, false⟩, after)

/-! ## The calls -/

/-- The functions of `createFullWebapiFactRepository`. -/
inductive LedgerCall where
  | createCollectionRun (arguments : CreateRunArguments)
  | transitionRun (arguments : TransitionRunArguments)
  | beginAttempt (arguments : BeginAttemptArguments)
  | transitionAttempt (arguments : TransitionAttemptArguments)
  | recordCapabilityObservation (arguments : CapabilityArguments)
  | recordPageEvidence (page : PageArguments) (content : PageContent)
  | finalizeCoverage (arguments : CoverageArguments)
  | insertTypedFacts (arguments : FactArguments)

abbrev LedgerCall.Reply : LedgerCall → Type
  | .createCollectionRun _ => RunAnswer
  | .transitionRun _ => RunAnswer
  | .beginAttempt _ => AttemptAnswer
  | .transitionAttempt _ => AttemptAnswer
  | .recordCapabilityObservation _ => CapabilityAnswer
  | .recordPageEvidence .. => PageAnswer
  | .finalizeCoverage _ => CoverageAnswer
  | .insertTypedFacts _ => FactAnswer

def transaction : (call : LedgerCall) → Ledger → Except JsError (call.Reply × Ledger)
  | .createCollectionRun arguments => createCollectionRun B arguments
  | .transitionRun arguments => transitionRun arguments
  | .beginAttempt arguments => beginAttempt B arguments
  | .transitionAttempt arguments => transitionAttempt arguments
  | .recordCapabilityObservation arguments => recordCapabilityObservation B arguments
  | .recordPageEvidence page content => recordPageEvidence B page content
  | .finalizeCoverage arguments => finalizeCoverage arguments
  | .insertTypedFacts arguments => insertTypedFacts B arguments

/-- `withWriteTransaction`: a transaction that throws is rolled back. -/
def perform (call : LedgerCall) (ledger : Ledger) : Except JsError call.Reply × Ledger :=
  match transaction B call ledger with
  | .ok (reply, after) => (.ok reply, after)
  | .error error => (.error error, ledger)

/-- The ledger after some time has passed. -/
def Ledger.wait (ledger : Ledger) (elapsed : Nat) : Ledger :=
  { ledger with clock := ledger.clock + elapsed }

/-- A call, and the time since the one before it. -/
structure LedgerStep where
  call : LedgerCall
  elapsed : Nat := 0

def ledgerStep (ledger : Ledger) (step : LedgerStep) : Ledger :=
  (perform B step.call (ledger.wait step.elapsed)).2

end FullManagedBi.Collection
