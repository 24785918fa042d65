import FullManagedBi.Backfill.CheckpointRepository
import FullManagedBi.Lib.Program

/-!
# Running a backfill plan

`runBackfillPlan` (`src/backfill/runner.mjs`). A run loads what earlier runs of its plan stored, and
then several lanes take the checkpoint grains of the plan from one shared cursor. A lane processes the
windows of its grain one after another; between two awaits of one lane any other lane may move.

What the environment decides (what an adapter answers, how a round trip to the store ends, which lane
moves next, where the process stops) is an argument of the run. A run that stops before its lanes have
ended is `cutOff`.
-/

namespace FullManagedBi.Backfill

open Lib

/-! ## What a window's processing calls -/

/-- What `fetchWindow` is given. -/
structure FetchRequest where
  planHash : String
  storeCode : String
  domain : String
  windowStart : String
  windowEnd : String
  windowKey : String
  maxPages : Nat
  maxRows : Nat
  attempt : Nat
  checkpoint : Option CheckpointState
  deriving DecidableEq

/-- A call that `processWindow` makes: the adapter, the repository, `checkpointIndex.set`. -/
inductive Call where
  | fetchWindow (request : FetchRequest)
  | commitWindowOutcome (commit : WindowCommit)
  | setCheckpoint (key : String) (state : CheckpointState)
  deriving DecidableEq

abbrev Reply : Call → Type
  | .fetchWindow _ => Option AdapterResult
  | .commitWindowOutcome _ => Persistence
  | .setCheckpoint _ _ => Unit

abbrev WindowProgram : Type → Type := Program Call Reply JsError

/-- What an execute run loaded before its lanes start. -/
structure ExecuteContext where
  backfillRunId : Nat
  completedWindowKeys : List String
  priorAttemptIndex : List (String × Nat)

/-- What every window of a run reads; there is no execute part in a dry run. -/
structure RunContext where
  planHash : String
  adapterKeys : List String
  execute : Option ExecuteContext

structure WindowResult where
  window : Window
  executionStatus : ExecutionStatus
  qualityStatus : QualityStatus
  sanitizedErrorCode : Option String
  acceptedRowCount : Option Nat := none
  rejectedRowCount : Option Nat := none
  checkpointAdvanced : Bool := false
  adapterInvoked : Bool := false
  attemptCount : Nat := 0
  deriving DecidableEq

def grainKeyOf (storeCode domain adapterKey : String) : String := joinKey [storeCode, domain, adapterKey]

/-- `checkpointKey` and `grainKey` of a window. -/
def Window.grainKey (window : Window) : String :=
  grainKeyOf window.storeCode window.domain window.adapterKey

/-! ## One window -/

def sanitizedCode (B : CaseBuiltins) (value : Option String) (fallback : String) : String :=
  let candidate := String.ofList ((B.toUpperCase (jsTrim (value.getD ""))).toList.map fun c =>
    if c.isUpper || c.isDigit || c = '_' then c else '_')
  if isSanitizedCode candidate then candidate else fallback

/-- The last attempt ordinal an adapter accepts. -/
def maxAttemptOrdinal : Nat := 99

/-- The adapter's answer; what it throws becomes a failed result. -/
def fetchWindow (B : CaseBuiltins) (request : FetchRequest) : WindowProgram (Option AdapterResult) :=
  tryCatch (Program.perform (R := Reply) (.fetchWindow request)) fun error =>
    pure (some {
      okFalse := true
      adapterError := true
      sanitizedErrorCode := some (sanitizedCode B error.code "ADAPTER_THREW") })

/-- The result of an attempt past the last ordinal. -/
def attemptLimitResult : AdapterResult where
  okFalse := true
  adapterError := true
  sanitizedErrorCode := some "BACKFILL_ATTEMPT_LIMIT_REACHED"

/-- The attempt loop, at its attempt `attemptCount` with at most `more` attempts after it: the outcome
and the attempts it counted. -/
def attemptWindow (B : CaseBuiltins) (ctx : RunContext) (checkpoint : Option CheckpointState)
    (window : Window) (priorAttemptCount : Nat) :
    (more : Nat) → (attemptCount : Nat) → WindowProgram (WindowOutcome × Nat)
  | more, attemptCount => do
    let attemptOrdinal := priorAttemptCount + attemptCount
    if maxAttemptOrdinal < attemptOrdinal then
      -- The attempt is counted although nothing is fetched.
      return (evaluateWindowOutcome window (some attemptLimitResult) checkpoint, attemptCount)
    else
      let result ← fetchWindow B {
        planHash := ctx.planHash
        storeCode := window.storeCode
        domain := window.domain
        windowStart := window.windowStart
        windowEnd := window.windowEnd
        windowKey := window.windowKey
        maxPages := window.maxPagesPerWindow
        maxRows := window.maxRowsPerWindow
        attempt := attemptOrdinal
        checkpoint }
      let outcome := evaluateWindowOutcome window result checkpoint
      if outcome.checkpointAdvanceable then return (outcome, attemptCount)
      else if outcome.executionStatus ≠ .failed ∨ outcome.qualityStatus ≠ .adapterError then
        return (outcome, attemptCount)
      else
        match more with
        | 0 => return (outcome, attemptCount)
        | more + 1 => attemptWindow B ctx checkpoint window priorAttemptCount more (attemptCount + 1)

def blockWindow (ctx : RunContext) (window : Window) (code : String) : WindowProgram WindowResult := do
  match ctx.execute with
  | some run =>
    let _ ← Program.perform (R := Reply) (.commitWindowOutcome {
      backfillRunId := run.backfillRunId
      window
      outcome := outcome .blocked .unknown (some code)
      attemptCount := 0
      checkpointState := none })
  | none => pure ()
  return { window, executionStatus := .blocked, qualityStatus := .unknown, sanitizedErrorCode := code }

/-- `processWindow`, with the checkpoint that `checkpointIndex` has for the window's grain. -/
def processWindow (B : CaseBuiltins) (ctx : RunContext) (checkpoint : Option CheckpointState)
    (window : Window) : WindowProgram WindowResult :=
  if window.capabilityStatus ≠ .verified then
    blockWindow ctx window (window.blockedReasonCode.getD "CAPABILITY_NOT_VERIFIED")
  else
    match ctx.execute with
    | none => return {
        window, executionStatus := .planned, qualityStatus := .unknown, sanitizedErrorCode := none }
    | some run =>
      if run.completedWindowKeys.contains window.windowKey then
        return {
          window, executionStatus := .skipped, qualityStatus := .passed, sanitizedErrorCode := none }
      else if !ctx.adapterKeys.contains window.adapterKey then
        blockWindow ctx window "ADAPTER_NOT_REGISTERED"
      else do
        let priorAttemptCount := (mapGet run.priorAttemptIndex window.windowKey).getD 0
        let (outcome, attemptCount) ←
          attemptWindow B ctx checkpoint window priorAttemptCount (window.maxAttempts - 1) 1
        let nextState := nextCheckpointState window outcome checkpoint run.backfillRunId
        let persistence ← Program.perform (R := Reply) (.commitWindowOutcome {
          backfillRunId := run.backfillRunId
          window, outcome, attemptCount
          checkpointState := nextState })
        if !Persistence.persisted persistence then
          throw ⟨some "WINDOW_OUTCOME_NOT_PERSISTED",
            "execute window outcome was not durably persisted"⟩
        match Persistence.checkpointAdvanced persistence, nextState with
        | true, some state => Program.perform (R := Reply) (.setCheckpoint window.grainKey state)
        | _, _ => pure ()
        return {
          window, attemptCount
          executionStatus := outcome.executionStatus
          qualityStatus := outcome.qualityStatus
          sanitizedErrorCode := outcome.sanitizedErrorCode
          acceptedRowCount := outcome.counts.acceptedRowCount
          rejectedRowCount := outcome.counts.rejectedRowCount
          checkpointAdvanced := Persistence.checkpointAdvanced persistence
          adapterInvoked := true }

/-! ## Lanes -/

/-- A window with its place in the plan. -/
structure Entry where
  window : Window
  planIndex : Nat
  deriving DecidableEq

/-- `grainQueues.set(key, [...(grainQueues.get(key) ?? []), entry])`. -/
def enqueue (queues : List (String × List Entry)) (entry : Entry) : List (String × List Entry) :=
  let key := entry.window.grainKey
  if queues.any (·.1 = key) then
    updateFirst (·.1 = key) (fun queue => (queue.1, queue.2 ++ [entry])) queues
  else queues ++ [(key, [entry])]

def planEntries (windows : List Window) : List Entry :=
  windows.zipIdx.map fun (window, planIndex) => { window, planIndex }

def grainQueues (windows : List Window) : List (String × List Entry) :=
  (planEntries windows).foldl enqueue []

/-- `grains`: the windows of each grain, in plan order. -/
def grains (windows : List Window) : List (List Entry) := (grainQueues windows).map (·.2)

inductive Lane where
  /-- Before the next window of its queue, or, with an empty one, before the next grain. -/
  | waiting (rest : List Entry)
  /-- Inside `processWindow`. -/
  | processing (entry : Entry) (program : WindowProgram WindowResult) (rest : List Entry)
  | finished
  | threw (error : JsError) (entry : Entry) (rest : List Entry)

/-- What calls act on: the store, what the lanes share in memory, and what was observed of the calls. -/
structure Shared where
  db : Database
  checkpointIndex : List (String × CheckpointState) := []
  adapterInvocationCount : Nat := 0
  /-- The requests adapters were called with. -/
  fetched : List FetchRequest := []
  /-- The keys of the windows whose outcome was committed. -/
  settled : List String := []

structure LanesState where
  shared : Shared
  lanes : List Lane
  nextGrain : Nat := 0
  indexedResults : List (Nat × WindowResult) := []
  /-- The error `Promise.all` rejects with. -/
  rejection : Option JsError := none

/-- What the environment decides about a call. -/
structure CallEnv where
  reply : Except JsError (Option AdapterResult) := .ok none
  trip : RoundTrip JsError := .done

structure LaneMove where
  lane : Nat
  env : CallEnv := {}

/-- The reply to a call, and what becomes of the store and of the memory. -/
def answer (B : CaseBuiltins) (s : Shared) (env : CallEnv) :
    (call : Call) → Except JsError (Reply call) × Shared
  | .fetchWindow request => (env.reply, { s with
      adapterInvocationCount := s.adapterInvocationCount + 1
      fetched := s.fetched ++ [request] })
  | .commitWindowOutcome commit =>
    let (reply, db) := (query env.trip (commitStatement B commit)).outcome s.db
    (reply, { s with
      db
      settled := if env.trip.commits then s.settled ++ [commit.window.windowKey] else s.settled })
  | .setCheckpoint key state =>
    (.ok (), { s with checkpointIndex := s.checkpointIndex ++ [(key, state)] })

/-- One lane moves up to its next await. -/
def laneStep (B : CaseBuiltins) (ctx : RunContext) (queues : List (List Entry)) (s : LanesState)
    (move : LaneMove) : LanesState :=
  match s.lanes[move.lane]? with
  | some (.waiting []) =>
    { s with
      nextGrain := s.nextGrain + 1
      lanes := s.lanes.set move.lane (match queues[s.nextGrain]? with
        | some queue => .waiting queue
        | none => .finished) }
  | some (.waiting (entry :: rest)) =>
    let checkpoint := mapGet s.shared.checkpointIndex entry.window.grainKey
    let program := processWindow B ctx checkpoint entry.window
    { s with lanes := s.lanes.set move.lane (.processing entry program rest) }
  | some (.processing entry (.done result) rest) =>
    { s with
      indexedResults := s.indexedResults ++ [(entry.planIndex, result)]
      lanes := s.lanes.set move.lane (.waiting rest) }
  | some (.processing entry (.fail error) rest) =>
    { s with
      rejection := s.rejection.or (some error)
      lanes := s.lanes.set move.lane (.threw error entry rest) }
  | some (.processing entry (.call call next) rest) =>
    let (reply, shared) := answer B s.shared move.env call
    { s with shared, lanes := s.lanes.set move.lane (.processing entry (next reply) rest) }
  | _ => s

def laneCount (concurrency : Nat) (queues : List (List Entry)) : Nat :=
  min (max 1 concurrency) (max 1 queues.length)

/-- The lanes before their first step. -/
def startLanes (db : Database) (checkpointIndex : List (String × CheckpointState)) (count : Nat) :
    LanesState :=
  { shared := { db, checkpointIndex }, lanes := List.replicate count (.waiting []) }

/-! ## The run -/

/-- The arguments of `runBackfillPlan`; an adapter is known by its key. -/
structure RunArgs where
  plan : Plan
  mode : BackfillMode := .dryRun
  adapterKeys : List String := []
  approvedPlanHash : String := ""
  allowedStoreCodes : Option (List String) := none
  allowedDomains : Option (List String) := none
  createdBy : Option String := none

/-- What the environment decides about a run: its clock, its round trips and how its lanes move. -/
structure RunEnv where
  startedAt : Option Int := some 0
  completedAt : Option Int := some 0
  openRun : RoundTrip JsError := .done
  loadCompletedWindowKeys : RoundTrip JsError := .done
  loadWindowAttemptCounts : RoundTrip JsError := .done
  loadCheckpoints : RoundTrip JsError := .done
  moves : List LaneMove
  closeRun : RoundTrip JsError := .done

structure PreparedRun where
  authorization : Option ExecuteAuthorization
  ctx : RunContext
  checkpointIndex : List (String × CheckpointState)

def RunArgs.request (args : RunArgs) (startedAt : Int) : RunRequest where
  planHash := args.plan.planHash
  requestedDomains := args.plan.domains
  requestedStoreCodes := args.plan.storeCodes
  requestedFrom := args.plan.from'
  requestedTo := args.plan.to'
  windowSpanDays := args.plan.windowSpanDays
  plannedWindowCount := args.plan.summary.plannedWindowCount
  createdBy := args.createdBy.getD args.plan.createdBy
  startedAt

/-- `openRun` of the repository. -/
def openRun (env : RunEnv) (args : RunArgs) : Action Database JsError Nat := do
  let startedAt ← MonadExcept.ofExcept (requireInstant env.startedAt
    "BACKFILL_RUN_START_INSTANT_INVALID" "openRun requires a valid start instant")
  let opened ← query env.openRun (openRunStatement (args.request startedAt))
  MonadExcept.ofExcept opened

/-- The rows of `loadWindowAttemptCounts` that a run uses. -/
def usableAttemptCounts (rows : List (String × Nat)) : List (String × Nat) :=
  rows.filter fun row => row.2 ≤ maxAttemptOrdinal

def prepareRun (B : CaseBuiltins) (env : RunEnv) (args : RunArgs) :
    Action Database JsError PreparedRun :=
  let ctx : RunContext := {
    planHash := args.plan.planHash, adapterKeys := args.adapterKeys, execute := none }
  match args.mode with
  | .dryRun => return { authorization := none, ctx, checkpointIndex := [] }
  | .execute => do
    let authorization ← MonadExcept.ofExcept (assertExecuteAuthorization B args.plan
      args.approvedPlanHash args.allowedStoreCodes args.allowedDomains)
    let backfillRunId ← openRun env args
    let completedWindowKeys ← query env.loadCompletedWindowKeys fun db =>
      (db.completedWindowKeys args.plan.planHash, db)
    let attemptCounts ← query env.loadWindowAttemptCounts fun db =>
      (db.windowAttemptCounts args.plan.planHash, db)
    let checkpoints ← query env.loadCheckpoints fun db =>
      (db.checkpointStates args.plan.storeCodes args.plan.domains, db)
    return {
      authorization
      ctx := { ctx with execute := some {
        backfillRunId, completedWindowKeys
        priorAttemptIndex := usableAttemptCounts attemptCounts } }
      checkpointIndex := checkpoints.map fun state =>
        (grainKeyOf state.storeCode state.domain state.adapterKey, state) }

/-- `counts`. -/
structure RunCounts where
  planned : Nat := 0
  blocked : Nat := 0
  skipped : Nat := 0
  succeeded : Nat := 0
  partial' : Nat := 0
  failed : Nat := 0
  deriving DecidableEq

/-- The counts after one more result. -/
def RunCounts.add (counts : RunCounts) (item : WindowResult) : RunCounts :=
  match item.executionStatus with
  | .planned => { counts with planned := counts.planned + 1 }
  | .blocked => { counts with blocked := counts.blocked + 1 }
  | .skipped => { counts with skipped := counts.skipped + 1 }
  | .succeeded => { counts with succeeded := counts.succeeded + 1 }
  | .partial' => { counts with partial' := counts.partial' + 1 }
  | .running | .failed => { counts with failed := counts.failed + 1 }

/-- `runStatus`. -/
def runStatusOf (mode : BackfillMode) (counts : RunCounts) : RunStatus :=
  match mode with
  | .dryRun => .planned
  | .execute =>
    if 0 < counts.failed ∧ counts.succeeded = 0 ∧ counts.skipped = 0 then .failed
    else if 0 < counts.failed ∨ 0 < counts.partial' ∨ 0 < counts.blocked then .partial'
    else .succeeded

/-- What `runBackfillPlan` returns; a window result stands for its row of the report. -/
structure RunReport where
  mode : BackfillMode
  planHash : String
  backfillRunId : Option Nat
  runStatus : RunStatus
  authorization : Option ExecuteAuthorization
  adapterInvocationCount : Nat
  counts : RunCounts
  checkpointAdvancedCount : Nat
  blockedReasonCodes : List String
  windows : List WindowResult
  deriving DecidableEq

/-- `windowResults`: the results in plan order. -/
def windowResults (indexedResults : List (Nat × WindowResult)) : List WindowResult :=
  (indexedResults.insertionSort fun left right => left.1 ≤ right.1).map (·.2)

def finishRun (B : CaseBuiltins) (env : RunEnv) (args : RunArgs) (prepared : PreparedRun)
    (s : LanesState) : Action Database JsError RunReport := do
  let results := windowResults s.indexedResults
  let counts := results.foldl RunCounts.add {}
  let runStatus := runStatusOf args.mode counts
  match prepared.ctx.execute with
  | some run =>
    let completedAt ← MonadExcept.ofExcept (requireInstant env.completedAt
      "BACKFILL_RUN_COMPLETION_INSTANT_INVALID" "closeRun requires a valid completion instant")
    let firstError := results.findSome? fun item => item.sanitizedErrorCode.filter (· ≠ "")
    let closed ← query env.closeRun (closeRunStatement B run.backfillRunId runStatus completedAt
      (if runStatus = .succeeded then none else firstError))
    MonadExcept.ofExcept closed
  | none => pure ()
  return {
    counts, runStatus
    mode := args.mode
    planHash := args.plan.planHash
    backfillRunId := prepared.ctx.execute.map (·.backfillRunId)
    authorization := prepared.authorization
    adapterInvocationCount := s.shared.adapterInvocationCount
    checkpointAdvancedCount := (results.filter (·.checkpointAdvanced)).length
    blockedReasonCodes := jsSort ((results.filter (·.executionStatus = .blocked)).map
      fun item => item.sanitizedErrorCode.getD "null").eraseDups
    windows := results }

def Lane.isFinished : Lane → Bool
  | .finished => true
  | _ => false

inductive RunEnd where
  | returned (report : RunReport)
  | rejected (error : JsError)
  | cutOff
  deriving DecidableEq

def RunEnd.ofExcept : Except JsError RunReport → RunEnd
  | .ok report => .returned report
  | .error error => .rejected error

/-- A run: how it ends, and the store and the observations it leaves. -/
structure RunTrace where
  runEnd : RunEnd
  db : Database
  fetched : List FetchRequest := []
  settled : List String := []

def runLanes (B : CaseBuiltins) (env : RunEnv) (args : RunArgs) (prepared : PreparedRun)
    (db : Database) : LanesState :=
  let queues := grains args.plan.windows
  run (laneStep B prepared.ctx queues)
    (startLanes db prepared.checkpointIndex (laneCount args.plan.concurrency queues)) env.moves

def runBackfillPlan (B : CaseBuiltins) (args : RunArgs) (env : RunEnv) (db : Database) : RunTrace :=
  match (prepareRun B env args).outcome db with
  | (.error error, db) => { runEnd := .rejected error, db }
  | (.ok prepared, db) =>
    let s := runLanes B env args prepared db
    let trace (runEnd : RunEnd) (db : Database) : RunTrace :=
      { runEnd, db, fetched := s.shared.fetched, settled := s.shared.settled }
    match s.rejection with
    | some error => trace (.rejected error) s.shared.db
    | none =>
      if s.lanes.all Lane.isFinished then
        let (result, db) := (finishRun B env args prepared s).outcome s.shared.db
        trace (.ofExcept result) db
      else trace .cutOff s.shared.db

end FullManagedBi.Backfill
