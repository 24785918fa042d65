import FullManagedBi.WebapiHistory.ProductDate

/-!
# The history sync

`runFullHomeHistorySync` (`src/webapi-history/sync.mjs`) goes through the stores of its scope. For each
it opens a session, reads which dates earlier runs completed, syncs every window of the settled range
and then the current day, and retries the store while its results carry a retryable code. The rows of
the last attempt of every store make the summary.

The realtime block writes into the row of the last window after that row was pushed: its `realtime`
field, and its `productDaily` field, which held the product dates of the window.
-/

namespace FullManagedBi.WebapiHistory

open Lib

/-! ## Windows and dates -/

/-- `HOME_HISTORY_MAX_WINDOW_DAYS`. -/
def homeHistoryMaxWindowDays : Int := 90

/-- The windows from `cursor` on; each takes at least one of the `daysLeft` days. -/
def historyWindowsFrom : Nat → BusinessDate → BusinessDate → List Window
  | 0, _, _ => []
  | daysLeft + 1, cursor, last =>
    if cursor ≤ last then
      let windowEnd := min (cursor + homeHistoryMaxWindowDays - 1) last
      ⟨cursor, windowEnd⟩ :: historyWindowsFrom daysLeft (windowEnd + 1) last
    else []

/-- `historyWindows` of a range that starts no later than it ends. -/
def historyWindows (startDate endDate : BusinessDate) : List Window :=
  historyWindowsFrom (endDate - startDate + 1).toNat startDate endDate

def datesInWindow (window : Window) : List BusinessDate :=
  (List.range (window.endDate - window.startDate + 1).toNat).map fun n => window.startDate + n

/-! ## The environment of one attempt -/

/-- What `parseIndexUpdateTime` returns. -/
structure IndexAnchor where
  dataAnchorDate : BusinessDate
  sourceUpdatedAt : Option String := none
  deriving DecidableEq

/-- What `parseRealtimeUpdateTime` returns; the end hour is never empty. -/
structure RealtimeAnchor where
  businessDate : BusinessDate
  endHour : Nat
  deriving DecidableEq

/-- One parsed row of the daily index, as `operationalRows` reads it. -/
structure StoreMetrics where
  businessDate : BusinessDate
  dealAmount : Option Rat := none
  netDealAmount : Option Rat := none
  salesQuantity : Option Nat := none
  buyerCount : Option Nat := none
  goodsDetailVisitors : Option Nat := none
  stockingOrderCount : Option Nat := none
  urgentPurchaseOrderCount : Option Nat := none
  deriving DecidableEq

/-- A row of `operationalRows`: some metric is known. -/
def StoreMetrics.operational (row : StoreMetrics) : Bool :=
  row.dealAmount.isSome || row.netDealAmount.isSome || row.salesQuantity.isSome ||
    row.buyerCount.isSome || row.goodsDetailVisitors.isSome || row.stockingOrderCount.isSome ||
    row.urgentPurchaseOrderCount.isSome

/-- One page of the shop analysis: its row count and `analyseCount` of the body. -/
structure ShopPage where
  rowCount : Nat
  count : Option Nat
  deriving DecidableEq

/-- `historyMetricFloors`. -/
structure MetricFloors where
  tradeFloor : Option BusinessDate
  regionFloor : Option BusinessDate
  deriving DecidableEq

/-- What the environment decides about one attempt at a store. The body of a reply says what
transport, parser and store write of the endpoint came to. -/
structure AttemptEnv where
  /-- `openSession` and `transportFactory`. -/
  session : Except Thrown Unit
  anchor : Reply IndexAnchor
  /-- The repository reads before the windows. -/
  reads : Except Thrown Unit
  metricFloors : MetricFloors
  storeDaily : Window → Reply (List StoreMetrics)
  /-- Whether `payload(body).status` is `true`. -/
  shopModel : Window → Reply Bool
  shopSearch : Window → Nat → Reply ShopPage
  /-- Parsing, merging and storing the shop rows: the number of merged rows. -/
  shopRows : Window → Except Thrown Nat
  trade : Window → BusinessDate → Reply Unit
  region : Window → BusinessDate → Reply Nat
  /-- Of the two fetches of a date, the region's is the first to throw. -/
  regionThrowsFirst : Window → BusinessDate → Bool
  product : Window → BusinessDate → Nat → ProductReply
  realtimeAnchor : Reply RealtimeAnchor
  /-- The hourly rows of the curve. -/
  realtimeCurve : Reply Nat
  /-- The operational rows of the summary. -/
  realtimeSummary : Reply Nat
  currentProduct : Nat → ProductReply

/-! ## The rows of a result -/

structure StoreDailyPayload where
  hasOperationalRows : Bool
  productDates : List BusinessDate
  deriving DecidableEq

/-- `result.shopDaily`. -/
inductive ShopDaily where
  | loaded (accepted sourceRows : Nat) (total : Option Nat)
  | skipped (reason : String)
  | failed (errorCode : String)
  /-- A failed model request with `terminal: true`. -/
  | permissionDenied (errorCode : String)
  deriving DecidableEq

def ShopDaily.errorCode : ShopDaily → Option String
  | .loaded .. => none
  | .skipped _ => none
  | .failed code => some code
  | .permissionDenied code => some code

def ShopDaily.ok (shop : ShopDaily) : Bool := shop.errorCode.isNone

/-- `terminalShopCapabilityGap`, of the code of a failed fetch. -/
def terminalShopCapabilityGap (errorCode : String) : Bool :=
  errorCode == "HOME_ANALYSE_PERMISSION_DENIED"

/-- `tradeDaily` and `regionDaily`; only the region counts rows. -/
structure DatedDaily where
  ok : Bool := true
  loaded : Nat := 0
  skipped : Nat := 0
  unsupported : Nat := 0
  failed : Nat := 0
  acceptedRows : Nat := 0
  firstErrorCode : Option String := none
  deriving DecidableEq

/-- The `productDaily` of a window. -/
structure ProductWindow where
  ok : Bool := true
  loadedDates : Nat := 0
  skippedDates : Nat := 0
  failedDates : Nat := 0
  acceptedRows : Nat := 0
  sourceRows : Nat := 0
  firstErrorCode : Option String := none
  deriving DecidableEq

/-- `result.productDaily`: what a window's product dates came to, or the current day's own result,
which has no `firstErrorCode`. -/
inductive ProductDaily where
  | window (dates : ProductWindow)
  | currentDay (day : ProductDateResult)
  deriving DecidableEq

def ProductDaily.ok : ProductDaily → Bool
  | .window dates => dates.ok
  | .currentDay day => day.ok

def ProductDaily.firstErrorCode : ProductDaily → Option String
  | .window dates => dates.firstErrorCode
  | .currentDay _ => none

/-- What `syncRealtimeDay` returns. -/
inductive RealtimeDaily where
  | unavailable (errorCode : String)
  | stale (requestedBusinessDate availableBusinessDate : BusinessDate)
  | synced (curve summary : FetchResult Nat)
  deriving DecidableEq

def RealtimeDaily.ok : RealtimeDaily → Bool
  | .unavailable _ => false
  | .stale .. => true
  | .synced curve summary => curve.ok && summary.ok

def RealtimeDaily.errorCode : RealtimeDaily → Option String
  | .unavailable code => some code
  | .stale .. => none
  | .synced curve summary => curve.errorCode.or summary.errorCode

/-- `payload?.stale === true`. -/
def RealtimeDaily.isStale : RealtimeDaily → Bool
  | .stale .. => true
  | _ => false

/-- The `settlement` of a store whose index is not settled far enough. -/
structure Settlement where
  requiredThrough : BusinessDate
  availableThrough : BusinessDate
  sourceUpdatedAt : Option String
  deriving DecidableEq

structure HistoryRow where
  storeCode : String
  startDate : BusinessDate
  endDate : BusinessDate
  sessionErrorCode : Option String := none
  settlement : Option Settlement := none
  dataAnchor : Option IndexAnchor := none
  storeDaily : Option (FetchResult StoreDailyPayload) := none
  shopDaily : Option ShopDaily := none
  productDaily : Option ProductDaily := none
  tradeDaily : Option DatedDaily := none
  regionDaily : Option DatedDaily := none
  realtime : Option RealtimeDaily := none
  cdpRetryCount : Option Nat := none
  deriving DecidableEq

def retryableHistoryResultCode (js : TextBuiltins) (row : HistoryRow) : Option String :=
  ([row.sessionErrorCode, row.storeDaily.bind (·.errorCode), row.shopDaily.bind (·.errorCode),
    row.productDaily.bind (·.firstErrorCode), row.tradeDaily.bind (·.firstErrorCode),
    row.regionDaily.bind (·.firstErrorCode), row.realtime.bind (·.errorCode)].find?
      (retryableCdpCode js)).join

/-! ## The current day -/

/-- The scope and the options of a run, and its `clock()`. Day numbers are valid dates. -/
structure SyncInput where
  storeCodes : List String
  startDate : BusinessDate
  endDate : BusinessDate
  includeProducts : Bool := true
  refreshRecentSettledDays : Nat := 0
  requireSettledThrough : Option BusinessDate := none
  retryCdpCount : Nat := 0
  /-- The business date of `shanghaiClockParts(clock())`. -/
  today : BusinessDate
  deriving DecidableEq

/-- `realtime`: the current day, when the scope holds it. -/
def SyncInput.realtime (input : SyncInput) : Option BusinessDate :=
  if input.startDate ≤ input.today ∧ input.today ≤ input.endDate then some input.today else none

def SyncInput.settledEndDate (input : SyncInput) : BusinessDate :=
  match input.realtime with
  | some today => today - 1
  | none => input.endDate

def SyncInput.windows (input : SyncInput) : List Window :=
  if input.startDate ≤ input.settledEndDate then
    historyWindows input.startDate input.settledEndDate
  else []

def rangeFetch (storeCode : String) (endpointCode : EndpointCode) (startDate endDate : BusinessDate)
    (request : Request) (observedAt : Instant) : FetchKey :=
  ⟨storeCode, endpointCode, startDate, endDate, request, observedAt⟩

/-- A handler of an endpoint whose reply already says what parsing and storing came to. -/
def handled {β π : Type} (accepted : β → Nat) (payload : β → π) (body : β) : Sync (Handled π) :=
  return { accepted := accepted body, payload := payload body }

def syncRealtimeDay (js : TextBuiltins) (env : AttemptEnv) (storeCode : String)
    (businessDate : BusinessDate) : Sync RealtimeDaily := do
  let fetch := rangeFetch storeCode
  let anchorResult ← requestAndAudit js .realtime
    (fetch .updateTime businessDate businessDate .realtimeUpdateTime env.realtimeAnchor.observedAt)
    env.realtimeAnchor (handled (fun _ => 1) id)
  match anchorResult with
  | .failed errorCode => return .unavailable errorCode
  | .done _ _ _ anchor =>
    if anchor.businessDate ≠ businessDate then return .stale businessDate anchor.businessDate
    let request := Request.realtime anchor.businessDate anchor.endHour
    let curve ← requestAndAudit js .realtime
      (fetch .storeRealtime businessDate businessDate request env.realtimeCurve.observedAt)
      env.realtimeCurve (handled id id)
    let summary ← requestAndAudit js .realtime
      (fetch .storeRealtimeSummary anchor.businessDate anchor.businessDate request
        env.realtimeSummary.observedAt)
      env.realtimeSummary (handled id id)
    return .synced curve summary

def resolveDataAnchor (js : TextBuiltins) (env : AttemptEnv) (storeCode : String)
    (requestedEndDate : BusinessDate) : Sync IndexAnchor := do
  let result ← requestAndAudit js .indexAnchor
    (rangeFetch storeCode .updateTime requestedEndDate requestedEndDate .indexUpdateTime
      env.anchor.observedAt)
    env.anchor (handled (fun _ => 1) id)
  match result with
  | .failed errorCode => throw ⟨some errorCode⟩
  | .done _ _ _ anchor => return anchor

/-! ## One window -/

/-- The sets of dates a store sync holds for completed or unsupported. -/
structure DateSets where
  completedTradeDates : List BusinessDate := []
  completedRegionDates : List BusinessDate := []
  completedProductDates : List BusinessDate := []
  unsupportedTradeDates : List BusinessDate := []
  unsupportedRegionDates : List BusinessDate := []
  deriving DecidableEq

/-- What the store sync of a window works on. -/
structure WindowContext where
  js : TextBuiltins
  env : AttemptEnv
  storeCode : String
  window : Window
  dataAnchor : IndexAnchor

/-- `result.storeDaily`. -/
def syncStoreDaily (cx : WindowContext) : Sync (FetchResult StoreDailyPayload) :=
  let reply := cx.env.storeDaily cx.window
  requestAndAudit cx.js (.storeDaily cx.window)
    (rangeFetch cx.storeCode .storeDailyHistory cx.window.startDate cx.window.endDate
      (.storeDailyHistory cx.window cx.dataAnchor.dataAnchorDate) reply.observedAt)
    reply <| handled List.length fun rows =>
      let activeRows := rows.filter (·.operational)
      { hasOperationalRows := !activeRows.isEmpty
        productDates :=
          (activeRows.filter fun row => 0 < row.salesQuantity.getD 0).map (·.businessDate) }

def assertAnalyseModelAccepted (status : Bool) : Except Thrown Unit :=
  if status then .ok ⟨⟩ else .error ⟨some "HOME_ANALYSE_MODEL_REJECTED"⟩

/-- The search pages from a page on: the source rows and the last total, or the code of the page that
failed. `pagesLeft` is the number of pages the request builder still admits. -/
def searchShopPages (cx : WindowContext) : Nat → Nat → Nat → Sync (FetchResult (Option Nat))
  | 0, _, _ => throw ⟨some "HOME_PAGE_INVALID"⟩
  | pagesLeft + 1, pageNum, sourceRows => do
    let reply := cx.env.shopSearch cx.window pageNum
    let page ← requestAndAudit cx.js (.shop cx.window)
      (rangeFetch cx.storeCode .analyseSearch cx.window.startDate cx.window.endDate
        (.analyseSearch pageNum productPageSize) reply.observedAt)
      reply fun body => return { accepted := body.rowCount, total := body.count, payload := body }
    match page with
    | .failed errorCode => return .failed errorCode
    | .done _ _ _ body =>
      let sourceRows := sourceRows + body.rowCount
      match body.count with
      | none => return .done sourceRows 0 0 none
      | some total =>
        if pageNum * productPageSize < total then
          searchShopPages cx pagesLeft (pageNum + 1) sourceRows
        else return .done sourceRows 0 0 (some total)

/-- `result.shopDaily`, of a window whose daily index came to `storeDaily`. -/
def syncShopDaily (cx : WindowContext) (storeDaily : FetchResult StoreDailyPayload) :
    Sync ShopDaily := do
  match storeDaily with
  | .failed _ => return .skipped "STORE_DAILY_FAILED"
  | .done _ _ _ payload =>
    if payload.hasOperationalRows = false then return .skipped "NO_OPERATIONAL_DATA"
    let reply := cx.env.shopModel cx.window
    let shopModel ← requestAndAudit cx.js (.shop cx.window)
      (rangeFetch cx.storeCode .analyseModel cx.window.startDate cx.window.endDate
        (.shopDaily cx.window) reply.observedAt)
      reply fun status => do
        MonadExcept.ofExcept (assertAnalyseModelAccepted status)
        return { accepted := 0, payload := () }
    match shopModel with
    | .failed errorCode =>
      if terminalShopCapabilityGap errorCode then return .permissionDenied errorCode
      else return .failed errorCode
    | .done .. =>
      match ← searchShopPages cx productPageLimit 1 0 with
      | .failed errorCode => return .failed errorCode
      | .done sourceRows _ _ total =>
        let accepted ← MonadExcept.ofExcept (cx.env.shopRows cx.window)
        return .loaded accepted sourceRows total

/-- One date of a metric that is fetched day by day, and the dates completed after it. `rows` counts
the rows of a loaded date. -/
def syncDatedMetric {π : Type} (floor : Option BusinessDate) (unsupported : List BusinessDate)
    (rows : Nat → Nat) (fetch : BusinessDate → Sync (FetchResult π)) (businessDate : BusinessDate)
    (daily : DatedDaily) (completed : List BusinessDate) :
    Sync (DatedDaily × List BusinessDate) := do
  if floor.any (businessDate < ·) ∨ businessDate ∈ unsupported then
    return ({ daily with unsupported := daily.unsupported + 1 }, completed)
  else if businessDate ∈ completed then
    return ({ daily with skipped := daily.skipped + 1 }, completed)
  else
    match ← fetch businessDate with
    | .done accepted .. =>
      return ({ daily with
        loaded := daily.loaded + 1
        acceptedRows := daily.acceptedRows + rows accepted }, businessDate :: completed)
    | .failed errorCode =>
      return ({ daily with
        ok := false
        failed := daily.failed + 1
        firstErrorCode := daily.firstErrorCode.or (some errorCode) }, completed)

def syncTradeDate (cx : WindowContext) (sets : DateSets) :
    BusinessDate → DatedDaily → List BusinessDate → Sync (DatedDaily × List BusinessDate) :=
  syncDatedMetric cx.env.metricFloors.tradeFloor sets.unsupportedTradeDates (fun _ => 0)
    fun businessDate =>
      let reply := cx.env.trade cx.window businessDate
      requestAndAudit cx.js (.trade cx.window businessDate)
        (rangeFetch cx.storeCode .tradeOverview businessDate businessDate
          (.tradeOverview businessDate cx.dataAnchor.dataAnchorDate) reply.observedAt)
        reply (handled (fun _ => 1) id)

def syncRegionDate (cx : WindowContext) (sets : DateSets) :
    BusinessDate → DatedDaily → List BusinessDate → Sync (DatedDaily × List BusinessDate) :=
  syncDatedMetric cx.env.metricFloors.regionFloor sets.unsupportedRegionDates id
    fun businessDate =>
      let reply := cx.env.region cx.window businessDate
      requestAndAudit cx.js (.region cx.window businessDate)
        (rangeFetch cx.storeCode .regionRank businessDate businessDate
          (.regionRank businessDate cx.dataAnchor.dataAnchorDate) reply.observedAt)
        reply (handled id id)

/-- `Promise.all` of two fetches that share nothing: both go on to their end, and the first to throw
is the one that rejects. -/
def promiseAll {α β : Type} (first : Sync α) (second : Sync β) (secondThrowsFirst : Bool) :
    Sync (α × β) := do
  let settledFirst ← observing first
  let settledSecond ← observing second
  match settledFirst, settledSecond with
  | .ok a, .ok b => return (a, b)
  | .ok _, .error error => throw error
  | .error error, .ok _ => throw error
  | .error error, .error other => throw (if secondThrowsFirst then other else error)

/-- `tradeDaily` and `regionDaily` of a window, with the dates completed. -/
structure MetricDays where
  tradeDaily : DatedDaily := {}
  regionDaily : DatedDaily := {}
  sets : DateSets

def syncMetricDate (cx : WindowContext) (days : MetricDays) (businessDate : BusinessDate) :
    Sync MetricDays := do
  let (trade, region) ← promiseAll
    (syncTradeDate cx days.sets businessDate days.tradeDaily days.sets.completedTradeDates)
    (syncRegionDate cx days.sets businessDate days.regionDaily days.sets.completedRegionDates)
    (cx.env.regionThrowsFirst cx.window businessDate)
  return {
    tradeDaily := trade.1
    regionDaily := region.1
    sets := { days.sets with completedTradeDates := trade.2, completedRegionDates := region.2 } }

def syncProductWindowDate (cx : WindowContext) (before : ProductWindow × List BusinessDate)
    (businessDate : BusinessDate) : Sync (ProductWindow × List BusinessDate) := do
  let (daily, completed) := before
  if businessDate ∈ completed then
    emit (.productSkipped cx.storeCode businessDate)
    return ({ daily with skippedDates := daily.skippedDates + 1 }, completed)
  else
    let product ← syncProductDate cx.js
      ⟨.product cx.window businessDate, cx.storeCode, businessDate, cx.dataAnchor.dataAnchorDate⟩
      (cx.env.product cx.window businessDate)
    match product with
    | .done accepted _ sourceRows _ _ =>
      return ({ daily with
        loadedDates := daily.loadedDates + 1
        acceptedRows := daily.acceptedRows + accepted
        sourceRows := daily.sourceRows + sourceRows }, businessDate :: completed)
    | .failed _ _ _ _ errorCode =>
      return ({ daily with
        ok := false
        failedDates := daily.failedDates + 1
        firstErrorCode := daily.firstErrorCode.or (some errorCode) }, completed)

/-- `[...new Set(result.storeDaily.payload?.productDates ?? [])].sort()`. -/
def productDatesOf (storeDaily : FetchResult StoreDailyPayload) : List BusinessDate :=
  match storeDaily with
  | .done _ _ _ payload => payload.productDates.eraseDups.insertionSort (· ≤ ·)
  | .failed _ => []

def syncStoreWindow (cx : WindowContext) (includeProducts : Bool) (sets : DateSets) :
    Sync (HistoryRow × DateSets) := do
  let storeDaily ← syncStoreDaily cx
  let shopDaily ← syncShopDaily cx storeDaily
  let days ← (datesInWindow cx.window).foldlM (syncMetricDate cx) { sets := sets }
  let row : HistoryRow := {
    storeCode := cx.storeCode
    startDate := cx.window.startDate
    endDate := cx.window.endDate
    dataAnchor := some cx.dataAnchor
    storeDaily := some storeDaily
    shopDaily := some shopDaily
    tradeDaily := some days.tradeDaily
    regionDaily := some days.regionDaily }
  if includeProducts then
    let (productDaily, completed) ← (productDatesOf storeDaily).foldlM (syncProductWindowDate cx)
      ({}, days.sets.completedProductDates)
    return ({ row with productDaily := some (.window productDaily) },
      { days.sets with completedProductDates := completed })
  else
    return (row, days.sets)

end FullManagedBi.WebapiHistory
