import FullManagedBi.Lib.Json
import FullManagedBi.WebapiHistory.StoreDaily

/-!
# The stages of a coordinator run

A coordinator plan (`scripts/run_full_managed_business_coordinator.mjs`) is a list of stages, each a
script with its arguments. `classifyStageResult` reads the exit code and the JSON summary of an attempt:
the stage is complete, waits for a resource, has failed, or is retried for the stores that failed.
`none` is a `TypeError` thrown at a summary that is not of the shape the code reads.
-/

namespace FullManagedBi.Coordinator

open Lib
open WebapiHistory (fullManagedStoreCodes normalizeFullManagedStoreCode)

/-- The builtins of the engine that stage results are read with. -/
structure StageBuiltins extends TextBuiltins where
  /-- `Number(text) > 0` -/
  positiveText : String → Bool

def StageBuiltins.ascii : StageBuiltins where
  toTextBuiltins := .ascii
  positiveText text :=
    text.toList.all (·.isDigit) && text.toList.any fun c => c ≠ '0'

inductive StoreArg where
  | equals | separate
  deriving DecidableEq

/-- A stage of a plan: its name and how its process is called. -/
structure Stage where
  name : String
  args : List String
  storeArg : Option StoreArg
  attemptScopedRunId : Bool := false
  onlyAfterPartial : Option String := none
  deriving DecidableEq

/-- A plan. Its stages have different names. -/
structure CoordinatorPlan where
  runId : String
  parallel : Bool
  stages : List Stage
  names : (stages.map (·.name)).Nodup

/-! ## Plans -/

/-- `COORDINATOR_TASKS`. -/
inductive CoordinatorTask where
  | realtime | daily | supply | finance | session
  deriving DecidableEq

def CoordinatorTask.text : CoordinatorTask → String
  | .realtime => "realtime-cockpit"
  | .daily => "daily-operations"
  | .supply => "supply-daily"
  | .finance => "finance-daily"
  | .session => "session-maintenance"

/-- The dates and the hour of an instant in Shanghai, as texts. -/
structure ShanghaiClock where
  date : String
  hour : String
  yesterday : String
  twoDaysAgo : String
  eightDaysAgo : String

def coordinatorRunId (task : CoordinatorTask) (clock : ShanghaiClock) : String :=
  "fm-" ++ task.text ++ "-" ++ match task with
    | .realtime => clock.date ++ "T" ++ clock.hour
    | _ => clock.date

def storeCsv (stores : List String) : String := String.intercalate "," stores

/-- The stages of `buildCoordinatorPlan`. -/
def coordinatorStages (task : CoordinatorTask) (clock : ShanghaiClock) : List Stage :=
  let stores := "--stores=" ++ storeCsv fullManagedStoreCodes
  let runId := coordinatorRunId task clock
  match task with
  | .realtime => [
    { name := "home-realtime", storeArg := some .equals
      args := [stores, "--from=" ++ clock.date, "--to=" ++ clock.date, "--retry-cdp=0", "--execute"] },
    { name := "sales-realtime", storeArg := some .separate, attemptScopedRunId := true
      args := ["--all", "--concurrency", "2", "--run-id", runId] }]
  | .daily => [
    { name := "home-history", storeArg := some .equals
      args := [stores, "--from=" ++ clock.twoDaysAgo, "--to=" ++ clock.yesterday,
        "--refresh-recent-days=2", "--require-settled-through=" ++ clock.yesterday, "--retry-cdp=0",
        "--execute"] },
    { name := "home-ledger", storeArg := some .equals
      args := [stores, "--from=" ++ clock.twoDaysAgo, "--to=" ++ clock.yesterday, "--retry-cdp=0",
        "--execute"] }]
  | .supply => [
    { name := "supply", storeArg := some .separate, attemptScopedRunId := true
      args := ["--run-id", runId, "--concurrency", "2"] }]
  | .finance => [
    { name := "finance", storeArg := some .equals
      args := [stores, "--from=" ++ clock.eightDaysAgo, "--to=" ++ clock.twoDaysAgo, "--concurrency=2",
        "--execute"] }]
  | .session => [
    { name := "session-renewal", args := [], storeArg := none },
    { name := "session-recovery", args := [], storeArg := none
      onlyAfterPartial := some "session-renewal" },
    { name := "session-final-renewal", args := [], storeArg := none },
    { name := "session-final-recovery", args := [], storeArg := none
      onlyAfterPartial := some "session-final-renewal" },
    { name := "session-final-validation", args := [], storeArg := none }]

theorem coordinatorStages_names (task : CoordinatorTask) (clock : ShanghaiClock) :
    (coordinatorStages task clock).map (·.name) = match task with
      | .realtime => ["home-realtime", "sales-realtime"]
      | .daily => ["home-history", "home-ledger"]
      | .supply => ["supply"]
      | .finance => ["finance"]
      | .session => ["session-renewal", "session-recovery", "session-final-renewal",
        "session-final-recovery", "session-final-validation"] := by
  cases task <;> rfl

def buildCoordinatorPlan (task : CoordinatorTask) (clock : ShanghaiClock) : CoordinatorPlan where
  runId := coordinatorRunId task clock
  parallel := task = .realtime
  stages := coordinatorStages task clock
  names := by
    rw [coordinatorStages_names]
    cases task <;> decide

/-! ## Results -/

/-- `DEFER_EXIT_CODE`. -/
def deferExitCode : Int := 75

/-- `PARTIAL_EXIT_CODE`. -/
def partialExitCode : Int := 2

structure TerminalDetail where
  warning : String
  storeCode : Option String
  errorCode : String
  deriving DecidableEq

/-- What `classifyStageResult` returns. -/
structure Classification where
  complete : Bool
  deferred : Bool := false
  fatal : Bool := false
  terminalPartial : Bool := false
  needsRecovery : Bool := false
  retryStores : List String := []
  terminalWarnings : List String := []
  terminalDetails : List TerminalDetail := []
  deriving DecidableEq

/-- The result of a process: its exit code and its summary, `null` where there is none. -/
structure StageResult where
  exitCode : Int
  summary : Json

variable (js : StageBuiltins)

def uniqueStoreCodes (values : List (Option Json)) : List String :=
  (values.filterMap fun value =>
    normalizeFullManagedStoreCode js.toTextBuiltins (textOrEmpty value)).eraseDups

/-- `value ?? []` of an array; anything else has no `filter`. -/
def arrayOrEmpty (value : Option Json) : Option (List Json) :=
  match nullish value none with
  | none => some []
  | some (.arr items) => some items
  | some _ => none

/-- `row?.part?.ok === false`. -/
def partFailed (row : Json) (part : String) : Bool :=
  strictEq ((row.field? part).bind (·.field? "ok")) (some (.bool false))

/-- The rows `homeRetryStores` takes for failed. -/
def homeRowFailed (row : Json) : Bool :=
  truthy (row.field? "sessionErrorCode") || partFailed row "storeDaily" || partFailed row "realtime" ||
    partFailed row "shopDaily" || partFailed row "productDaily" || partFailed row "tradeDaily" ||
    partFailed row "regionDaily"

def homeRetryStores (summary : Json) : Option (List String) :=
  if strictEq (summary.field? "requiresRetry") (some (.bool true)) then do
    let results ← arrayOrEmpty (summary.field? "results")
    return uniqueStoreCodes js ((results.filter homeRowFailed).map (·.field? "storeCode"))
  else some []

/-- A parameter pattern of fields, which `null` does not match. -/
def destructured (rows : List Json) : Option (List Json) :=
  if rows.any fun row => row matches .null then none else some rows

def failedStores (rows : Option Json) (failed : Json → Bool) : Option (List String) := do
  let rows ← arrayOrEmpty rows
  let rows ← destructured rows
  return uniqueStoreCodes js ((rows.filter failed).map (·.field? "storeCode"))

/-- `ok === false`. -/
def ledgerRowFailed (row : Json) : Bool := strictEq (row.field? "ok") (some (.bool false))

/-- `Number(failedWindows) > 0`. -/
def financeRowFailed (row : Json) : Bool :=
  match row.field? "failedWindows" with
  | some (.num (.int n)) => 0 < n
  | some (.num number) => js.positiveText number.text
  | some (.bool b) => b
  | some (.str s) => js.positiveText s
  | some (.arr items) => js.positiveText (Json.arr items).text
  | _ => false

def stringField (row : Json) (key : String) : Option String :=
  match row.field? key with
  | some (.str s) => some s
  | _ => none

/-! ### Sales -/

/-- `KNOWN_SALES_PRODUCER_STATUSES`. -/
def knownSalesProducerStatuses : List String :=
  ["loaded", "pending", "denied", "error", "quality_blocked"]

/-- Whether two rows of one store say the same. -/
def sameSalesRow (prior row : Json) : Bool :=
  strictEq (prior.field? "status") (row.field? "status") &&
    strictEq (prior.field? "qualityStatus") (row.field? "qualityStatus") &&
    strictEq (nullish (prior.field? "errorCode") (prior.field? "qualityReason"))
      (nullish (row.field? "errorCode") (row.field? "qualityReason"))

/-- The store of a sales row that is an object, of a canonical store and with a known status. -/
def salesRowStore (row : Json) : Option String :=
  match row with
  | .obj _ => do
    let canonicalCode ← normalizeFullManagedStoreCode js.toTextBuiltins (textOrEmpty (row.field? "storeCode"))
    let status ← stringField row "status"
    if stringField row "storeCode" = some canonicalCode ∧ status ∈ knownSalesProducerStatuses then
      some canonicalCode
    else none
  | _ => none

/-- The check of the rows of a sales summary. -/
def salesRowsSound : List (String × Json) → List Json → Bool
  | _, [] => true
  | seenStores, row :: rows =>
    match salesRowStore js row with
    | none => false
    | some canonicalCode =>
      (mapGet seenStores canonicalCode).all (sameSalesRow · row) &&
        salesRowsSound (seenStores ++ [(canonicalCode, row)]) rows

/-- `status === 'loaded' && qualityStatus === 'PARTIAL'`. -/
def partialDateAnchor (row : Json) : Bool :=
  stringField row "status" = some "loaded" && stringField row "qualityStatus" = some "PARTIAL"

/-- The rows of a sales summary that no retry helps. -/
def salesRowTerminal (row : Json) : Bool :=
  stringField row "status" = some "quality_blocked" || partialDateAnchor row ||
    !(stringField row "status" = some "loaded" || stringField row "status" = some "error")

/-- What `/^[A-Z0-9_]{3,64}$/` matches. -/
def isErrorCode (text : String) : Bool :=
  decide (3 ≤ text.toList.length ∧ text.toList.length ≤ 64) &&
    text.toList.all fun c => c.isUpper || c.isDigit || c == '_'

def salesTerminalDetail (row : Json) : TerminalDetail :=
  let rawCode := textOrEmpty (nullish (row.field? "errorCode") (row.field? "qualityReason"))
  { warning :=
      if stringField row "status" = some "quality_blocked" ∨ partialDateAnchor row then
        "TERMINAL_DATA_QUALITY_GAP"
      else "TERMINAL_CAPABILITY_GAP"
    storeCode := normalizeFullManagedStoreCode js.toTextBuiltins (textOrEmpty (row.field? "storeCode"))
    errorCode :=
      if isErrorCode rawCode then rawCode
      else if partialDateAnchor row then "SALES_DATE_ANCHOR_PARTIAL"
      else "UNCLASSIFIED_PARTIAL" }

def fatalResult : Classification := { complete := false, fatal := true }

/-- A stage that is complete for all the stores but those with a terminal gap. -/
def terminalResult (terminalWarnings : List String) (terminalDetails : List TerminalDetail) :
    Classification :=
  { complete := true, terminalPartial := true, terminalWarnings, terminalDetails }

def retryResult (retryStores : List String) : Classification :=
  { complete := retryStores = [], terminalPartial := retryStores = [], retryStores }

/-- The branch of `sales-realtime`. -/
def classifySales (summary : Json) : Classification :=
  match summary.field? "results" with
  | some (.arr results) =>
    if results = [] ∨ !salesRowsSound js [] results then fatalResult
    else
      let retryStores := uniqueStoreCodes js
        ((results.filter fun row => stringField row "status" = some "error").map (·.field? "storeCode"))
      let terminalDetails := (results.filter salesRowTerminal).map (salesTerminalDetail js)
      if retryStores = [] then
        if terminalDetails = [] then fatalResult
        else terminalResult (terminalDetails.map (·.warning)).eraseDups terminalDetails
      else retryResult retryStores
  | _ => fatalResult

/-! ### Supply -/

/-- `TERMINAL_SUPPLY_PLATFORM_CODES`. -/
def terminalSupplyPlatformCodes : List String := ["PENDING_DELIVERY_POINT_LOOKUP_MISSING"]

def supplyDomainFailed (domain : Json) : Bool :=
  (stringField domain "status").any
      (["fetch_error", "load_error", "blocked_by_dependency"].contains ·) ||
    stringField domain "coverageStatus" = some "PARTIAL"

/-- `String(errorCode ?? reasonCode ?? '')`. -/
def domainCode (domain : Json) : String :=
  textOrEmpty (nullish (domain.field? "errorCode") (domain.field? "reasonCode"))

def supplyRowIncomplete (row : Json) : Bool :=
  (stringField row "status").any (["partial", "error"].contains ·)

def supplyTerminalDetail (row : Json) : Option (Option TerminalDetail) := do
  let domains ← arrayOrEmpty (row.field? "domains")
  let domains ← destructured domains
  let failedDomains := domains.filter supplyDomainFailed
  match failedDomains with
  | [] => return none
  | first :: _ =>
    if stringField row "status" = some "partial" ∧
        failedDomains.all fun domain => terminalSupplyPlatformCodes.contains (domainCode domain) then
      return some {
        warning := "TERMINAL_PLATFORM_DATA_GAP"
        storeCode := normalizeFullManagedStoreCode js.toTextBuiltins (textOrEmpty (row.field? "storeCode"))
        errorCode := domainCode first }
    else return none

/-- The branch of `supply`. -/
def classifySupply (summary : Json) : Option Classification := do
  let results ← arrayOrEmpty (summary.field? "results")
  let results ← destructured results
  let incomplete := results.filter supplyRowIncomplete
  let terminal ← incomplete.mapM (supplyTerminalDetail js)
  let retryStores := uniqueStoreCodes js <|
    ((incomplete.zip terminal).filter (·.2.isNone)).map fun row => row.1.field? "storeCode"
  let terminalDetails := terminal.filterMap id
  if retryStores = [] ∧ terminalDetails ≠ [] then
    return terminalResult ["TERMINAL_PLATFORM_DATA_GAP"] terminalDetails
  else return retryResult retryStores

/-! ### All stages -/

def classifyStageResult (stageName : String) (result : StageResult) : Option Classification :=
  let summary := result.summary
  if result.exitCode = 0 then some { complete := true }
  else if result.exitCode = deferExitCode then some { complete := false, deferred := true }
  else if result.exitCode ≠ partialExitCode then some fatalResult
  else match stageName with
  | "home-history" | "home-realtime" => (homeRetryStores js summary).map retryResult
  | "home-ledger" => (failedStores js (summary.field? "results") ledgerRowFailed).map retryResult
  | "sales-realtime" => some (classifySales js summary)
  | "supply" => classifySupply js summary
  | "finance" => (failedStores js (summary.field? "stores") (financeRowFailed js)).map retryResult
  | "session-final-validation" => some { complete := false }
  | "session-renewal" | "session-final-renewal" => some { complete := true, needsRecovery := true }
  | "session-recovery" | "session-final-recovery" => some { complete := false }
  | _ => some (retryResult [])

/-! ## Processes -/

/-- The arguments without those that name stores; `skips` after `--stores`, whose value follows. -/
def withoutStores : (skips : Bool) → List String → List String
  | _, [] => []
  | true, _ :: args => withoutStores false args
  | false, token :: args =>
    if token = "--all" then withoutStores false args
    else if token = "--stores" then withoutStores true args
    else if "--stores=".toList.isPrefixOf token.toList then withoutStores false args
    else token :: withoutStores false args

/-- `sourceArgs` with the run id of an attempt: the value after the first `--run-id`. -/
def scopeRunId (attempt : Nat) : List String → Option (List String)
  | [] => none
  | token :: args =>
    if token = "--run-id" then
      match args with
      | runId :: args =>
        if runId = "" then none
        else some (token :: (runId ++ ":attempt-" ++ toString attempt) :: args)
      | [] => none
    else (scopeRunId attempt args).map (token :: ·)

/-- `stageArgsForStores`, or `none` where it throws. -/
def stageArgsForStores (stage : Stage) (stores : Option (List String)) (attempt : Nat) :
    Option (List String) := do
  let sourceArgs ← if stage.attemptScopedRunId then scopeRunId attempt stage.args else some stage.args
  match stage.storeArg, stores with
  | some .separate, some (store :: stores) =>
    return withoutStores false sourceArgs ++ ["--stores", storeCsv (store :: stores)]
  | some .equals, some (store :: stores) =>
    return withoutStores false sourceArgs ++ ["--stores=" ++ storeCsv (store :: stores)]
  | _, _ => return sourceArgs

end FullManagedBi.Coordinator
