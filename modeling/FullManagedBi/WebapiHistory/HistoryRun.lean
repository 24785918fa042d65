import FullManagedBi.WebapiHistory.Sync

/-!
# Attempts, stores and the summary

One attempt at a store (`syncStoreAttempt`) opens a session and goes through the windows and the
current day. `syncStore` repeats it while the retry budget lasts and its end carries a retryable code;
`runFullHomeHistorySync` does so for every store of the scope and counts the rows of the last attempts.
-/

namespace FullManagedBi.WebapiHistory

open Lib

/-! ## One attempt -/

/-- The last row of a list, changed: `storeResults.at(-1).field = value`. -/
def updateLast {α : Type} (change : α → α) : List α → List α
  | [] => []
  | [a] => [change a]
  | a :: b :: rest => a :: updateLast change (b :: rest)

/-- What the repository says of the dates of a range, and what `refreshRecentSettledDays` leaves of
it. -/
def readDateSets (input : SyncInput) (env : AttemptEnv) (storeCode : String) (range : Window) :
    Sync DateSets := do
  MonadExcept.ofExcept env.reads
  let s ← get
  let successful (endpointCode : EndpointCode) :=
    successfulDailyDates s storeCode endpointCode range.startDate range.endDate
  let unsupported (endpointCode : EndpointCode) :=
    terminalUnsupportedDailyDates s storeCode endpointCode range.startDate range.endDate
  let refreshed (dates : List BusinessDate) :=
    if 0 < input.refreshRecentSettledDays then
      dates.filter (· < input.settledEndDate + (1 - input.refreshRecentSettledDays))
    else dates
  return {
    completedTradeDates := refreshed (successful .tradeOverview)
    completedRegionDates := refreshed (successful .regionRank)
    completedProductDates :=
      if input.includeProducts then refreshed (successful .productDiagnoseList) else []
    unsupportedTradeDates := refreshed (unsupported .tradeOverview)
    unsupportedRegionDates := refreshed (unsupported .regionRank) }

def syncNextWindow (js : TextBuiltins) (input : SyncInput) (env : AttemptEnv) (storeCode : String)
    (dataAnchor : IndexAnchor) (before : List HistoryRow × DateSets) (window : Window) :
    Sync (List HistoryRow × DateSets) := do
  let (row, sets) ← syncStoreWindow ⟨js, env, storeCode, window, dataAnchor⟩ input.includeProducts
    before.2
  return (before.1 ++ [row], sets)

def settlementRow (input : SyncInput) (storeCode : String) (dataAnchor : IndexAnchor) :
    Option HistoryRow :=
  match input.requireSettledThrough with
  | some required =>
    if dataAnchor.dataAnchorDate < required then
      some {
        storeCode, startDate := input.startDate, endDate := input.endDate
        sessionErrorCode := some "HOME_SETTLEMENT_NOT_READY"
        settlement := some ⟨required, dataAnchor.dataAnchorDate, dataAnchor.sourceUpdatedAt⟩ }
    else none
  | none => none

/-- The settled windows of an attempt: their rows, or the row of an index that is not settled. -/
def syncSettledWindows (js : TextBuiltins) (input : SyncInput) (env : AttemptEnv)
    (storeCode : String) : Sync (Except HistoryRow (List HistoryRow)) :=
  match input.windows.head?, input.windows.getLast? with
  | some first, some last => do
    let dataAnchor ← resolveDataAnchor js env storeCode last.endDate
    match settlementRow input storeCode dataAnchor with
    | some row => return .error row
    | none =>
      let sets ← readDateSets input env storeCode ⟨first.startDate, last.endDate⟩
      let (storeResults, _) ← input.windows.foldlM
        (syncNextWindow js input env storeCode dataAnchor) ([], sets)
      return .ok storeResults
  | _, _ => return .ok []

/-- The rows the current day is written into: without windows, a row of its own. -/
def currentDayRows (storeCode : String) (today : BusinessDate) (storeResults : List HistoryRow) :
    List HistoryRow :=
  if storeResults = [] then [{ storeCode, startDate := today, endDate := today }] else storeResults

def syncCurrentDay (js : TextBuiltins) (input : SyncInput) (env : AttemptEnv) (storeCode : String)
    (storeResults : List HistoryRow) : Sync (List HistoryRow) :=
  match input.realtime with
  | none => return storeResults
  | some today => do
    let realtime ← syncRealtimeDay js env storeCode today
    let rows := updateLast ({ · with realtime := some realtime })
      (currentDayRows storeCode today storeResults)
    if input.includeProducts ∧ realtime.ok ∧ realtime.isStale = false then
      let day ← syncProductDate js ⟨.currentProduct, storeCode, today, today⟩ env.currentProduct
      return updateLast ({ · with productDaily := some (.currentDay day) }) rows
    else
      return rows

/-- How an attempt ends, unless it throws. -/
inductive AttemptEnd where
  | notReady (row : HistoryRow)
  | rows (storeResults : List HistoryRow)
  deriving DecidableEq

def syncStoreAttempt (js : TextBuiltins) (input : SyncInput) (env : AttemptEnv)
    (storeCode : String) : Sync AttemptEnd := do
  MonadExcept.ofExcept env.session
  match ← syncSettledWindows js input env storeCode with
  | .error row => return .notReady row
  | .ok storeResults => return .rows (← syncCurrentDay js input env storeCode storeResults)

/-! ## The retries of a store -/

/-- The store loop goes on to another attempt, if the budget has one left. -/
def retryable (js : TextBuiltins) : Except Thrown AttemptEnd → Bool
  | .ok (.notReady _) => false
  | .ok (.rows storeResults) => (storeResults.findSome? (retryableHistoryResultCode js)).isSome
  | .error error => retryableCdpCode js (some (sanitizedErrorCode js error "HOME_SESSION_FAILED"))

def resultRows (js : TextBuiltins) (input : SyncInput) (storeCode : String) (retryCount : Nat) :
    Except Thrown AttemptEnd → List HistoryRow
  | .ok (.notReady row) => [row]
  | .ok (.rows storeResults) => storeResults.map ({ · with cdpRetryCount := some retryCount })
  | .error error => [{
      storeCode, startDate := input.startDate, endDate := input.endDate
      sessionErrorCode := some (sanitizedErrorCode js error "HOME_SESSION_FAILED")
      cdpRetryCount := some retryCount }]

/-- The last attempt at a store: how it ended, what it did, and the rows it pushed. -/
structure StoreOutcome where
  attemptEnd : Except Thrown AttemptEnd
  events : List SyncEvent
  rows : List HistoryRow

def syncStoreFrom (js : TextBuiltins) (input : SyncInput) (env : Nat → AttemptEnv)
    (storeCode : String) : Nat → Nat → SyncState → SyncState × StoreOutcome
  | retriesLeft, retryCount, s =>
    let attempt := (syncStoreAttempt js input (env retryCount) storeCode).outcome s
    let outcome : StoreOutcome := {
      attemptEnd := attempt.1
      events := attempt.2.trace.drop s.trace.length
      rows := resultRows js input storeCode retryCount attempt.1 }
    match retriesLeft with
    | 0 => (attempt.2, outcome)
    | left + 1 =>
      if retryable js attempt.1 then
        syncStoreFrom js input env storeCode left (retryCount + 1) attempt.2
      else (attempt.2, outcome)

def syncStores (js : TextBuiltins) (input : SyncInput) (env : Nat → Nat → AttemptEnv) :
    List String → Nat → SyncState → SyncState × List StoreOutcome
  | [], _, s => (s, [])
  | rawStoreCode :: rest, position, s =>
    let storeCode := js.toUpperCase (jsTrim rawStoreCode)
    let store := syncStoreFrom js input (env position) storeCode input.retryCdpCount 0 s
    let others := syncStores js input env rest (position + 1) store.1
    (others.1, store.2 :: others.2)

/-! ## The summary -/

/-- The part of a row is there and its `ok` is `false`. -/
def failedPart {α : Type} (ok : α → Bool) (part : Option α) : Bool := part.any fun a => !ok a

/-- A row of `failedWindows`. -/
def failedWindow (row : HistoryRow) : Bool :=
  row.sessionErrorCode.isSome || failedPart (·.ok) row.storeDaily || failedPart (·.ok) row.realtime

/-- A row of `partialWindows`. -/
def partialWindow (row : HistoryRow) : Bool :=
  row.sessionErrorCode.isSome || failedPart (·.ok) row.shopDaily ||
    failedPart (·.ok) row.productDaily || failedPart (·.ok) row.tradeDaily ||
    failedPart (·.ok) row.regionDaily

/-- A row of `retryablePartialWindows`. -/
def retryablePartialWindow (js : TextBuiltins) (row : HistoryRow) : Bool :=
  (retryableHistoryResultCode js row).isSome ||
    row.shopDaily.any (fun shop => shop.errorCode.any fun code => !terminalShopCapabilityGap code) ||
    failedPart (·.ok) row.productDaily || failedPart (·.ok) row.tradeDaily ||
    failedPart (·.ok) row.regionDaily

/-- What `runFullHomeHistorySync` returns. -/
structure HistorySummary where
  ok : Bool
  complete : Bool
  requiresRetry : Bool
  storeCount : Nat
  windowCount : Nat
  resultCount : Nat
  failedWindows : Nat
  partialWindows : Nat
  retryablePartialWindows : Nat
  results : List HistoryRow
  deriving DecidableEq

/-- The summary of the rows of a run. -/
def summarize (js : TextBuiltins) (input : SyncInput) (results : List HistoryRow) : HistorySummary :=
  let failedWindows := results.countP failedWindow
  let partialWindows := results.countP partialWindow
  let retryablePartialWindows := results.countP (retryablePartialWindow js)
  { ok := failedWindows == 0
    complete := failedWindows == 0 && partialWindows == 0
    requiresRetry := decide (0 < failedWindows) || decide (0 < retryablePartialWindows)
    storeCount := input.storeCodes.length
    windowCount := input.windows.length
    resultCount := results.length
    failedWindows, partialWindows, retryablePartialWindows, results }

/-- The checks of the arguments, in their order. -/
def SyncInput.check (input : SyncInput) : Except String Unit := do
  if input.storeCodes = [] then throw "storeCodes are required"
  if 30 < input.refreshRecentSettledDays then
    throw "refreshRecentSettledDays must be between 0 and 30"
  if 2 < input.retryCdpCount then throw "retryCdpCount must be between 0 and 2"
  if input.endDate < input.startDate then throw "startDate is after endDate"

/-- One run: its arguments, and what the environment decides at every store and attempt. -/
structure HistoryRun where
  input : SyncInput
  env : Nat → Nat → AttemptEnv

/-- `runFullHomeHistorySync`: the state it leaves, and its summary or the error of a check. -/
def runFullHomeHistorySync (js : TextBuiltins) (r : HistoryRun) (s : SyncState) :
    SyncState × Except String HistorySummary :=
  match r.input.check with
  | .error message => (s, .error message)
  | .ok _ =>
    let stores := syncStores js r.input r.env r.input.storeCodes 0 s
    (stores.1, .ok (summarize js r.input (stores.2.flatMap (·.rows))))

def finalAttempts (js : TextBuiltins) (r : HistoryRun) (s : SyncState) : List StoreOutcome :=
  (syncStores js r.input r.env r.input.storeCodes 0 s).2

/-- A run as a step of the audit table. -/
def historyStep (js : TextBuiltins) (s : SyncState) (r : HistoryRun) : SyncState :=
  (runFullHomeHistorySync js r s).1

end FullManagedBi.WebapiHistory
