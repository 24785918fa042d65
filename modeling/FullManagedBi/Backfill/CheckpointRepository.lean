import FullManagedBi.Backfill.QualityGate
import FullManagedBi.Lib.Table

/-!
# The checkpoint store of backfills

The ledger of execute runs (`src/backfill/checkpoint-repository.mjs`, tables `ops.backfill_run`,
`ops.backfill_window` and `ops.backfill_checkpoint`). A window and the forward move of its checkpoint
are one transaction. What the table constraints refuse is a round trip that fails.
-/

namespace FullManagedBi.Backfill

open Lib

/-- `RUN_STATUSES`. -/
inductive RunStatus where
  | planned | running | partial' | succeeded | failed | cancelled
  deriving DecidableEq

/-- A row of `ops.backfill_run`, of mode `EXECUTE`. -/
structure RunRow where
  backfillRunId : Nat
  planHash : String
  status : RunStatus
  requestedDomains : List String
  requestedStoreCodes : List String
  requestedFrom : String
  requestedTo : String
  windowSpanDays : Nat
  plannedWindowCount : Nat
  createdBy : String
  startedAt : Int
  completedAt : Option Int := none
  sanitizedErrorCode : Option String := none
  deriving DecidableEq

/-- A row of `ops.backfill_window`. -/
structure WindowRow where
  backfillWindowId : Nat
  backfillRunId : Nat
  storeCode : String
  domain : String
  adapterKey : String
  windowStart : String
  windowEnd : String
  windowKey : String
  capabilityStatus : CapabilityStatus
  executionStatus : ExecutionStatus
  qualityStatus : QualityStatus
  attemptCount : Nat
  counts : OutcomeCounts
  sanitizedErrorCode : Option String
  deriving DecidableEq

/-- A row of `ops.backfill_checkpoint`. -/
structure CheckpointRow where
  storeCode : String
  domain : String
  adapterKey : String
  lastCompletedBusinessDate : String
  lastSourceCursor : String
  lastSuccessfulRunId : Option Nat
  lastSuccessfulWindowId : Nat
  schemaFingerprint : String
  deriving DecidableEq

/-- The tables, and the next values of their identity columns. -/
structure Database where
  runs : List RunRow := []
  windows : List WindowRow := []
  checkpoints : List CheckpointRow := []
  nextRunId : Nat := 1
  nextWindowId : Nat := 1
  deriving DecidableEq

/-- The unique key `uq_ops_backfill_window_grain` of a window of a run. -/
def WindowRow.hasGrain (backfillRunId : Nat) (window : Window) (row : WindowRow) : Bool :=
  row.backfillRunId = backfillRunId ∧ row.storeCode = window.storeCode ∧
    row.domain = window.domain ∧ row.adapterKey = window.adapterKey ∧
    row.windowStart = window.windowStart ∧ row.windowEnd = window.windowEnd

/-- The unique key `uq_ops_backfill_checkpoint_grain`. -/
def CheckpointRow.hasGrain (storeCode domain adapterKey : String) (row : CheckpointRow) : Bool :=
  row.storeCode = storeCode ∧ row.domain = domain ∧ row.adapterKey = adapterKey

def sanitized (B : CaseBuiltins) (value : Option String) : Option String :=
  value.map fun text =>
    let candidate := B.toUpperCase (jsTrim text)
    if isSanitizedCode candidate then candidate else "UNSPECIFIED_ERROR"

/-! ## Transactions -/

/-- What `openRun` is given. -/
structure RunRequest where
  planHash : String
  requestedDomains : List String
  requestedStoreCodes : List String
  requestedFrom : String
  requestedTo : String
  windowSpanDays : Nat
  plannedWindowCount : Nat
  createdBy : String
  startedAt : Int
  deriving DecidableEq

def RunRow.sameScope (request : RunRequest) (row : RunRow) : Bool :=
  row.requestedDomains = request.requestedDomains ∧
    row.requestedStoreCodes = request.requestedStoreCodes ∧
    row.requestedFrom = request.requestedFrom ∧ row.requestedTo = request.requestedTo ∧
    row.windowSpanDays = request.windowSpanDays ∧
    row.plannedWindowCount = request.plannedWindowCount

/-- The statements of `openRun`: a new run, or the existing one of the plan, in the same scope. -/
def openRunStatement (request : RunRequest) (db : Database) : Except JsError Nat × Database :=
  match db.runs.find? (·.planHash = request.planHash) with
  | none =>
    let row : RunRow := {
      backfillRunId := db.nextRunId
      planHash := request.planHash
      status := .running
      requestedDomains := request.requestedDomains
      requestedStoreCodes := request.requestedStoreCodes
      requestedFrom := request.requestedFrom
      requestedTo := request.requestedTo
      windowSpanDays := request.windowSpanDays
      plannedWindowCount := request.plannedWindowCount
      createdBy := request.createdBy
      startedAt := request.startedAt }
    (.ok db.nextRunId, { db with runs := db.runs ++ [row], nextRunId := db.nextRunId + 1 })
  | some row =>
    if row.sameScope request then (.ok row.backfillRunId, db)
    else (.error ⟨some "BACKFILL_RUN_REPLAY_DRIFT",
      "execute run plan hash was replayed with scope drift"⟩, db)

def Database.windowsOfPlan (db : Database) (planHash : String) : List WindowRow :=
  db.windows.filter fun row => db.runs.any fun run =>
    run.backfillRunId = row.backfillRunId ∧ run.planHash = planHash

/-- `loadCompletedWindowKeys`. -/
def Database.completedWindowKeys (db : Database) (planHash : String) : List String :=
  ((db.windowsOfPlan planHash).filter fun row =>
    row.executionStatus = .succeeded ∧ row.qualityStatus = .passed).map (·.windowKey)

/-- `loadWindowAttemptCounts`. -/
def Database.windowAttemptCounts (db : Database) (planHash : String) : List (String × Nat) :=
  (db.windowsOfPlan planHash).map fun row => (row.windowKey, row.attemptCount)

/-- A row of `loadCheckpoints`. -/
def CheckpointRow.state (row : CheckpointRow) : CheckpointState where
  storeCode := row.storeCode
  domain := row.domain
  adapterKey := row.adapterKey
  lastCompletedBusinessDate := row.lastCompletedBusinessDate
  lastSourceCursor := row.lastSourceCursor
  schemaFingerprint := row.schemaFingerprint

/-- `loadCheckpoints`. -/
def Database.checkpointStates (db : Database) (storeCodes domains : List String) :
    List CheckpointState :=
  (db.checkpoints.filter fun row => row.storeCode ∈ storeCodes ∧ row.domain ∈ domains).map (·.state)

/-- What `commitWindowOutcome` is given. -/
structure WindowCommit where
  backfillRunId : Nat
  window : Window
  outcome : WindowOutcome
  attemptCount : Nat
  checkpointState : Option CheckpointState
  deriving DecidableEq

/-- `upsertWindow` sets the columns of an outcome and adds the attempts. -/
def WindowRow.updated (B : CaseBuiltins) (commit : WindowCommit) (row : WindowRow) : WindowRow :=
  { row with
    executionStatus := commit.outcome.executionStatus
    qualityStatus := commit.outcome.qualityStatus
    attemptCount := row.attemptCount + commit.attemptCount
    counts := commit.outcome.counts
    sanitizedErrorCode := sanitized B commit.outcome.sanitizedErrorCode }

/-- The row `upsertWindow` inserts. -/
def WindowCommit.newRow (B : CaseBuiltins) (commit : WindowCommit) (backfillWindowId : Nat) :
    WindowRow where
  backfillWindowId
  backfillRunId := commit.backfillRunId
  storeCode := commit.window.storeCode
  domain := commit.window.domain
  adapterKey := commit.window.adapterKey
  windowStart := commit.window.windowStart
  windowEnd := commit.window.windowEnd
  windowKey := commit.window.windowKey
  capabilityStatus := commit.window.capabilityStatus
  executionStatus := commit.outcome.executionStatus
  qualityStatus := commit.outcome.qualityStatus
  attemptCount := commit.attemptCount
  counts := commit.outcome.counts
  sanitizedErrorCode := sanitized B commit.outcome.sanitizedErrorCode

/-- `upsertWindow`: the id of the window's row, and the tables. -/
def upsertWindow (B : CaseBuiltins) (commit : WindowCommit) (db : Database) : Nat × Database :=
  let found := WindowRow.hasGrain commit.backfillRunId commit.window
  match db.windows.find? found with
  | some row => (row.backfillWindowId,
      { db with windows := updateFirst found (WindowRow.updated B commit) db.windows })
  | none => (db.nextWindowId,
      { db with
        windows := db.windows ++ [commit.newRow B db.nextWindowId]
        nextWindowId := db.nextWindowId + 1 })

def CheckpointState.row (state : CheckpointState) (backfillWindowId : Nat) : CheckpointRow where
  storeCode := state.storeCode
  domain := state.domain
  adapterKey := state.adapterKey
  lastCompletedBusinessDate := state.lastCompletedBusinessDate
  lastSourceCursor := state.lastSourceCursor
  lastSuccessfulRunId := state.lastSuccessfulRunId
  lastSuccessfulWindowId := backfillWindowId
  schemaFingerprint := state.schemaFingerprint

/-- The checkpoint statement of `commitWindowOutcome`: a row of the grain is replaced where its date is
before the new one. It says whether a row was written. -/
def advanceCheckpoint (state : CheckpointState) (backfillWindowId : Nat) (db : Database) :
    Bool × Database :=
  let found := CheckpointRow.hasGrain state.storeCode state.domain state.adapterKey
  match db.checkpoints.find? found with
  | none => (true, { db with checkpoints := db.checkpoints ++ [state.row backfillWindowId] })
  | some row =>
    if row.lastCompletedBusinessDate < state.lastCompletedBusinessDate then
      (true, { db with
        checkpoints := updateFirst found (fun _ => state.row backfillWindowId) db.checkpoints })
    else (false, db)

/-- What `commitWindowOutcome` returns. -/
structure Persistence where
  persisted : Bool
  checkpointAdvanced : Bool
  deriving DecidableEq

/-- The transaction of `commitWindowOutcome`. -/
def commitStatement (B : CaseBuiltins) (commit : WindowCommit) (db : Database) :
    Persistence × Database :=
  let (backfillWindowId, db) := upsertWindow B commit db
  match commit.checkpointState with
  | none => (⟨true, false⟩, db)
  | some state =>
    let (checkpointAdvanced, db) := advanceCheckpoint state backfillWindowId db
    (⟨true, checkpointAdvanced⟩, db)

/-- The statement of `closeRun`. -/
def closeRunStatement (B : CaseBuiltins) (backfillRunId : Nat) (status : RunStatus)
    (completedAt : Int) (sanitizedErrorCode : Option String) (db : Database) :
    Except JsError Unit × Database :=
  if db.runs.any (·.backfillRunId = backfillRunId) then
    (.ok (), { db with
      runs := updateWhere (·.backfillRunId = backfillRunId) (fun run => { run with
        status
        completedAt := some completedAt
        sanitizedErrorCode := sanitized B sanitizedErrorCode }) db.runs })
  else (.error ⟨some "BACKFILL_RUN_CLOSE_MISSING", "execute run could not be closed"⟩, db)

/-- `timestamp`, of a clock reading that may be no instant. -/
def requireInstant (instant : Option Int) (code message : String) : Except JsError Int :=
  match instant with
  | some at' => .ok at'
  | none => .error ⟨some code, message⟩

end FullManagedBi.Backfill
