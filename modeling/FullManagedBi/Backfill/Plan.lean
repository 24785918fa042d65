import FullManagedBi.Lib.Calendar
import FullManagedBi.Lib.Json

/-!
# Backfill plans

The capability catalog (`src/backfill/capability-catalog.mjs`) and the planner
(`src/backfill/plan.mjs`). A plan cuts the requested days of each store and domain into half-open
windows, newest first. A domain that is not `VERIFIED` is planned as blocked, in the fewest windows the
ledger accepts. The plan hash covers the scope and the windows; a reviewed dry-run hash authorizes an
execute run of the same scope.
-/

namespace FullManagedBi.Backfill

open Lib

/-! ## The capability catalog -/

/-- `CAPABILITY_STATUSES`. -/
inductive CapabilityStatus where
  | verified | unverified | unsupported | experimentOnly
  deriving DecidableEq

def CapabilityStatus.text : CapabilityStatus → String
  | .verified => "VERIFIED"
  | .unverified => "UNVERIFIED"
  | .unsupported => "UNSUPPORTED"
  | .experimentOnly => "EXPERIMENT_ONLY"

/-- `WINDOW_GRAINS`. -/
inductive WindowGrain where
  | dimension | windowSnapshot | businessDate
  deriving DecidableEq

structure Capability where
  domain : String
  adapterKey : String
  capabilityStatus : CapabilityStatus
  windowGrain : WindowGrain
  maxWindowSpanDays : Nat
  maxPagesPerWindow : Nat := 0
  maxRowsPerWindow : Nat := 0
  maxAttempts : Nat := 0
  dailyHistoryReconstructable : Bool := false
  blockedReasonCode : Option String
  deriving DecidableEq

/-- `DOMAIN_ENTRIES`. -/
def domainEntries : List Capability := [
  { domain := "store-identity"
    adapterKey := "openapi.store-identity.v1"
    capabilityStatus := .unsupported
    windowGrain := .dimension
    maxWindowSpanDays := 31
    blockedReasonCode := some "STORE_IDENTITY_NOT_HISTORICAL" },
  { domain := "product-identity"
    adapterKey := "openapi.product-identity.v1"
    capabilityStatus := .unsupported
    windowGrain := .dimension
    maxWindowSpanDays := 31
    blockedReasonCode := some "PRODUCT_IDENTITY_NOT_HISTORICAL" },
  { domain := "sales-window-snapshot"
    adapterKey := "openapi.sales-window-snapshot.v1"
    capabilityStatus := .unsupported
    windowGrain := .windowSnapshot
    maxWindowSpanDays := 1
    blockedReasonCode := some "SALES_WINDOW_SNAPSHOT_NOT_HISTORICAL" },
  { domain := "purchase-orders"
    adapterKey := "openapi.purchase-orders.v1"
    capabilityStatus := .verified
    windowGrain := .businessDate
    maxWindowSpanDays := 1
    maxPagesPerWindow := 200
    maxRowsPerWindow := 200000
    maxAttempts := 3
    dailyHistoryReconstructable := true
    blockedReasonCode := none },
  { domain := "deliveries"
    adapterKey := "openapi.deliveries.v1"
    capabilityStatus := .unverified
    windowGrain := .businessDate
    maxWindowSpanDays := 1
    blockedReasonCode := some "DELIVERY_HISTORY_CREATED_AT_ONLY" },
  { domain := "financial-settlement"
    adapterKey := "openapi.financial-settlement.v0"
    capabilityStatus := .unverified
    windowGrain := .businessDate
    maxWindowSpanDays := 7
    blockedReasonCode := some "FINANCIAL_SETTLEMENT_UNVERIFIED" },
  { domain := "inventory-history"
    adapterKey := "openapi.inventory-history.v0"
    capabilityStatus := .unsupported
    windowGrain := .businessDate
    maxWindowSpanDays := 1
    blockedReasonCode := some "INVENTORY_HISTORY_UNSUPPORTED" },
  { domain := "webhook-history"
    adapterKey := "webhook.history.v0"
    capabilityStatus := .unsupported
    windowGrain := .businessDate
    maxWindowSpanDays := 1
    blockedReasonCode := some "WEBHOOK_HISTORY_UNSUPPORTED" },
  { domain := "webapi-home-snapshot"
    adapterKey := "webapi.home-snapshot.v0"
    capabilityStatus := .experimentOnly
    windowGrain := .windowSnapshot
    maxWindowSpanDays := 1
    blockedReasonCode := some "WEBAPI_EXPERIMENT_ONLY" }]

/-- `BACKFILL_DOMAIN_CATALOG[domain]`. -/
def backfillDomainCatalog (domain : String) : Option Capability :=
  domainEntries.find? (·.domain = domain)

def isExecutableCapability (capabilityStatus : CapabilityStatus) : Bool :=
  capabilityStatus = .verified

/-! ## Requests and plans -/

/-- `BACKFILL_MODES`. -/
inductive BackfillMode where
  | dryRun | execute
  deriving DecidableEq

/-- A request for a plan. An array is the list of its items, each as `String(item ?? '')` reads it, and
a bound is the text of its value, absent where it is `null` or `undefined`. -/
structure PlanRequest where
  storeCodes : Option (List String)
  domains : Option (List String)
  from' : JsField String
  to' : JsField String
  today : JsField String := .absent
  windowSpanDays : Option String := none
  concurrency : Option String := none
  maxAttempts : Option String := none
  mode : BackfillMode := .dryRun
  createdBy : String

structure Window where
  storeCode : String
  domain : String
  adapterKey : String
  capabilityStatus : CapabilityStatus
  windowGrain : WindowGrain
  windowStart : String
  windowEnd : String
  windowKey : String
  executable : Bool
  blockedReasonCode : Option String
  dailyHistoryReconstructable : Bool
  maxAttempts : Nat
  maxPagesPerWindow : Nat
  maxRowsPerWindow : Nat
  deriving DecidableEq

structure PlanSummary where
  plannedWindowCount : Nat
  executableWindowCount : Nat
  blockedWindowCount : Nat
  blockedDomains : List String
  blockedWindowChunkDays : Nat
  blockedWindowCountPerStoreDomain : Nat
  executableDomains : List String
  byCapability : List (CapabilityStatus × Nat)
  blockedReasonCodes : List String
  deriving DecidableEq

structure Plan where
  planHash : String
  createdBy : String
  storeCodes : List String
  domains : List String
  from' : String
  to' : String
  windowSpanDays : Nat
  concurrency : Nat
  maxAttempts : Nat
  windows : List Window
  summary : PlanSummary
  deriving DecidableEq

/-! ## Normalization -/

/-- A `BackfillPlanError`. -/
def fail {α : Type} (code message : String) : Except JsError α := .error ⟨some code, message⟩

namespace PlanLimits

def maxStoreCodes : Nat := 24
def maxDomains : Nat := 12
def minWindowSpanDays : Nat := 1
def maxWindowSpanDays : Nat := 31
def maxRangeDays : Nat := 400
def maxWindowsPerPlan : Nat := 2000
def minConcurrency : Nat := 1
def maxConcurrency : Nat := 4
def minAttempts : Nat := 1
def maxAttempts : Nat := 5

end PlanLimits

/-- `STORE_CODE_PATTERN`, `/^[A-Z]{2}[0-9]{4}$/`. -/
def isStoreCode (text : String) : Bool :=
  decide (text.toList.length = 6) && (text.toList.take 2).all (·.isUpper) &&
    (text.toList.drop 2).all (·.isDigit)

/-- `CREATED_BY_PATTERN`, `/^[A-Za-z0-9._:-]{3,80}$/`. -/
def isCreatedBy (text : String) : Bool :=
  decide (3 ≤ text.toList.length ∧ text.toList.length ≤ 80) &&
    text.toList.all fun c => c.isAlphanum || ['.', '_', ':', '-'].contains c

/-- An explicit scope: the items in normal form, each once and sorted. -/
def normalizeScope (normal : String → String) (valid : String → Bool) (limit : Nat)
    (empty invalid tooLarge : JsError) : Option (List String) → Except JsError (List String)
  | none | some [] => .error empty
  | some value =>
    let normalized := jsSort ((value.map normal).eraseDups.filter fun item => item ≠ "")
    if normalized = [] then .error empty
    else if !normalized.all valid then .error invalid
    else if limit < normalized.length then .error tooLarge
    else .ok normalized

def normalizeStoreCodes (B : CaseBuiltins) : Option (List String) → Except JsError (List String) :=
  normalizeScope (fun item => B.toUpperCase (jsTrim item)) isStoreCode PlanLimits.maxStoreCodes
    ⟨some "EMPTY_STORE_SCOPE", "at least one explicit store code is required"⟩
    ⟨some "INVALID_STORE_CODE", "store codes must use the canonical AA9999 form"⟩
    ⟨some "STORE_SCOPE_TOO_LARGE", "store scope exceeds the planner bound"⟩

def normalizeDomains (B : CaseBuiltins) : Option (List String) → Except JsError (List String) :=
  normalizeScope (fun item => B.toLowerCase (jsTrim item))
    (fun domain => (backfillDomainCatalog domain).isSome) PlanLimits.maxDomains
    ⟨some "EMPTY_DOMAIN_SCOPE", "at least one explicit domain is required"⟩
    ⟨some "UNKNOWN_DOMAIN", "domain is not present in the capability catalog"⟩
    ⟨some "DOMAIN_SCOPE_TOO_LARGE", "domain scope exceeds the planner bound"⟩

def parseBusinessDate (value : JsField String) (field : String) : Except JsError Int :=
  match value with
  | .value text =>
    match parseIsoDate text with
    | some day => .ok day
    -- The pattern and the calendar fail under one code, with two messages.
    | none =>
      if isIsoDateShape text then
        fail "INVALID_BUSINESS_DATE" (field ++ " is not a valid calendar date")
      else fail "INVALID_BUSINESS_DATE" (field ++ " must use YYYY-MM-DD")
  | _ => fail "INVALID_BUSINESS_DATE" (field ++ " must use YYYY-MM-DD")

/-- The value of a text of decimal digits without leading zeros. -/
def canonicalNat? (text : String) : Option Nat :=
  match text.toList with
  | ['0'] => some 0
  | c :: cs =>
    if c ≠ '0' ∧ (c :: cs).all (·.isDigit) then
      some ((c :: cs).foldl (fun n c => n * 10 + digitValue c) 0)
    else none
  | [] => none

/-- `normalizeInteger`, of a bound or its default. -/
def normalizeInteger (value : Option String) (default : Nat) (field : String) (min max : Nat) :
    Except JsError Nat :=
  let refused := fail "INVALID_BOUND"
    (field ++ " must be an integer between " ++ toString min ++ " and " ++ toString max)
  match value with
  | none => .ok default
  | some text =>
    match canonicalNat? (jsTrim text) with
    | some n => if n < min ∨ max < n then refused else .ok n
    | none => refused

/-! ## Windows -/

def keySeparator : Char := '\x1f'

/-- `join('\u001f')`. -/
def joinKey (parts : List String) : String :=
  String.ofList (List.intercalate [keySeparator] (parts.map (·.toList)))

def windowKeyFor (H : Digest) (storeCode domain adapterKey windowStart windowEnd : String) : String :=
  H.sha256Hex (joinKey [storeCode, domain, adapterKey, windowStart, windowEnd])

structure DayRange where
  windowStart : Int
  windowEnd : Int
  deriving DecidableEq

/-- The loop of `planWindowRanges`: windows of at most `span` days, cut backwards from `cursorEnd` down
to `from'`. Each round cuts at least one of the `days` left. -/
def cutBackwards (from' : Int) (span : Nat) : (days : Nat) → (cursorEnd : Int) → List DayRange
  | 0, _ => []
  | days + 1, cursorEnd =>
    if from' < cursorEnd then
      let windowStart := max from' (cursorEnd - span)
      ⟨windowStart, cursorEnd⟩ :: cutBackwards from' span days windowStart
    else []

def planWindowRanges (from' to' : Int) (windowSpanDays : Nat) (capability : Capability) :
    List DayRange :=
  let days := (to' + 1 - from').toNat
  if !isExecutableCapability capability.capabilityStatus then
    cutBackwards from' PlanLimits.maxWindowSpanDays days (to' + 1)
  else
    match capability.windowGrain with
    | .dimension | .windowSnapshot => [⟨to', to' + 1⟩]
    | .businessDate =>
      cutBackwards from' (min windowSpanDays capability.maxWindowSpanDays) days (to' + 1)

def planWindow (H : Digest) (maxAttempts : Nat) (storeCode domain : String) (capability : Capability)
    (range : DayRange) : Window :=
  let executable := isExecutableCapability capability.capabilityStatus
  let windowStart := toIsoDate range.windowStart
  let windowEnd := toIsoDate range.windowEnd
  { storeCode, domain, windowStart, windowEnd, executable
    adapterKey := capability.adapterKey
    capabilityStatus := capability.capabilityStatus
    windowGrain := capability.windowGrain
    windowKey := windowKeyFor H storeCode domain capability.adapterKey windowStart windowEnd
    blockedReasonCode := if executable then none else capability.blockedReasonCode
    dailyHistoryReconstructable := capability.dailyHistoryReconstructable
    maxAttempts := if executable then min maxAttempts capability.maxAttempts else 0
    maxPagesPerWindow := capability.maxPagesPerWindow
    maxRowsPerWindow := capability.maxRowsPerWindow }

def domainWindows (H : Digest) (from' to' : Int) (windowSpanDays maxAttempts : Nat)
    (storeCode domain : String) : List Window :=
  match backfillDomainCatalog domain with
  | some capability =>
    (planWindowRanges from' to' windowSpanDays capability).map
      (planWindow H maxAttempts storeCode domain capability)
  | none => []

/-- `localeCompare`: a total preorder of texts that orders the texts of two days as their days. -/
structure Collation where
  localeCompare : String → String → Ordering
  oriented : Std.OrientedCmp localeCompare
  transitive : Std.TransCmp localeCompare
  localeCompare_days : ∀ a b : Int, FourDigitYear a → FourDigitYear b →
    localeCompare (toIsoDate a) (toIsoDate b) = compare a b

/-- The comparison of `windows.sort`: newest window first within a store and domain. -/
def compareWindows (C : Collation) (left right : Window) : Ordering :=
  (C.localeCompare left.storeCode right.storeCode).then
    ((C.localeCompare left.domain right.domain).then
      (C.localeCompare right.windowStart left.windowStart))

/-! ## The plan -/

/-- `hashInput` of a window. -/
def hashInputOfWindow (window : Window) : Json := .obj [
  ("storeCode", .str window.storeCode),
  ("domain", .str window.domain),
  ("adapterKey", .str window.adapterKey),
  ("capabilityStatus", .str window.capabilityStatus.text),
  ("windowStart", .str window.windowStart),
  ("windowEnd", .str window.windowEnd),
  ("blockedReasonCode", .ofOption window.blockedReasonCode),
  ("executable", .bool window.executable)]

/-- `BACKFILL_PLAN_VERSION`. -/
def backfillPlanVersion : String := "backfill-plan.v1"

def hashInput (storeCodes domains : List String) (from' to' : Int)
    (windowSpanDays concurrency maxAttempts : Nat) (windows : List Window) : Json := .obj [
  ("planVersion", .str backfillPlanVersion),
  ("storeCodes", .arr (storeCodes.map .str)),
  ("domains", .arr (domains.map .str)),
  ("from", .str (toIsoDate from')),
  ("to", .str (toIsoDate to')),
  ("windowSpanDays", .ofNat windowSpanDays),
  ("concurrency", .ofNat concurrency),
  ("maxAttempts", .ofNat maxAttempts),
  ("windows", .arr (windows.map hashInputOfWindow))]

/-- `Math.ceil(days / PLAN_LIMITS.maxWindowSpanDays)`. -/
def chunkCount (days : Nat) : Nat :=
  (days + PlanLimits.maxWindowSpanDays - 1) / PlanLimits.maxWindowSpanDays

/-- `summary`. -/
def planSummary (rangeDays : Nat) (windows : List Window) : PlanSummary :=
  let blocked := windows.filter (!·.executable)
  let blockedDomains := jsSort (blocked.map (·.domain)).eraseDups
  { plannedWindowCount := windows.length
    executableWindowCount := (windows.filter (·.executable)).length
    blockedWindowCount := blocked.length
    blockedDomains
    blockedWindowChunkDays := PlanLimits.maxWindowSpanDays
    blockedWindowCountPerStoreDomain := if blockedDomains = [] then 0 else chunkCount rangeDays
    executableDomains := jsSort ((windows.filter (·.executable)).map (·.domain)).eraseDups
    byCapability := [.verified, .unverified, .unsupported, .experimentOnly].map fun status =>
      (status, (windows.filter (·.capabilityStatus = status)).length)
    blockedReasonCodes := jsSort (blocked.map fun window => window.blockedReasonCode.getD "null").eraseDups }

structure PlanScope where
  storeCodes : List String
  domains : List String
  from' : Int
  to' : Int
  windowSpanDays : Nat
  concurrency : Nat
  maxAttempts : Nat
  createdBy : String

/-- A range that ends after the given `today` is refused. -/
def refuseFuture (today : JsField String) (to' : Int) : Except JsError Unit :=
  match today with
  | .absent => .ok ()
  | given => do
    let today ← parseBusinessDate given "today"
    if today < to' then fail "FUTURE_DATE_RANGE" "backfill cannot plan a future business date"

/-- The checks of `buildBackfillPlan` on its request, in their order. -/
def planScope (B : CaseBuiltins) (request : PlanRequest) : Except JsError PlanScope := do
  let storeCodes ← normalizeStoreCodes B request.storeCodes
  let domains ← normalizeDomains B request.domains
  let from' ← parseBusinessDate request.from' "from"
  let to' ← parseBusinessDate request.to' "to"
  if to' < from' then fail "INVALID_DATE_RANGE" "from must not be after to"
  if PlanLimits.maxRangeDays < to' - from' + 1 then
    fail "DATE_RANGE_TOO_LARGE" "requested range exceeds the planner bound"
  refuseFuture request.today to'
  let windowSpanDays ← normalizeInteger request.windowSpanDays 1 "windowSpanDays"
    PlanLimits.minWindowSpanDays PlanLimits.maxWindowSpanDays
  let concurrency ← normalizeInteger request.concurrency 1 "concurrency"
    PlanLimits.minConcurrency PlanLimits.maxConcurrency
  let maxAttempts ← normalizeInteger request.maxAttempts 3 "maxAttempts"
    PlanLimits.minAttempts PlanLimits.maxAttempts
  let createdBy := jsTrim request.createdBy
  if !isCreatedBy createdBy then
    fail "INVALID_CREATED_BY" "createdBy must be an explicit auditable operator key"
  return { storeCodes, domains, from', to', windowSpanDays, concurrency, maxAttempts, createdBy }

def planWindows (H : Digest) (C : Collation) (scope : PlanScope) : List Window :=
  let windows := scope.storeCodes.flatMap fun storeCode => scope.domains.flatMap
    (domainWindows H scope.from' scope.to' scope.windowSpanDays scope.maxAttempts storeCode)
  windows.insertionSort fun left right => compareWindows C left right ≠ .gt

def planOfScope (H : Digest) (C : Collation) (scope : PlanScope) : Except JsError Plan := do
  let windows := planWindows H C scope
  if PlanLimits.maxWindowsPerPlan < windows.length then
    fail "WINDOW_COUNT_TOO_LARGE" "planned window count exceeds the planner bound"
  if !decide (windows.map (·.windowKey)).Nodup then
    fail "DUPLICATE_WINDOW" "planner produced a duplicate window grain"
  let planHash ← H.canonicalHash (hashInput scope.storeCodes scope.domains scope.from' scope.to'
    scope.windowSpanDays scope.concurrency scope.maxAttempts windows)
  let rangeDays := (scope.to' - scope.from' + 1).toNat
  let summary := planSummary rangeDays windows
  if summary.blockedWindowCount ≠
      scope.storeCodes.length * summary.blockedDomains.length * chunkCount rangeDays then
    fail "BLOCKER_NOT_COLLAPSED" "blocked domains must use minimal bounded ledger chunks"
  return {
    planHash, windows, summary
    createdBy := scope.createdBy
    storeCodes := scope.storeCodes
    domains := scope.domains
    from' := toIsoDate scope.from'
    to' := toIsoDate scope.to'
    windowSpanDays := scope.windowSpanDays
    concurrency := scope.concurrency
    maxAttempts := scope.maxAttempts }

def buildBackfillPlan (B : CaseBuiltins) (H : Digest) (C : Collation) (request : PlanRequest) :
    Except JsError Plan := do
  planOfScope H C (← planScope B request)

/-! ## Authorization -/

/-- The outcome of `assertExecuteAuthorization`. -/
structure ExecuteAuthorization where
  planHash : String
  allowedStoreCodes : List String
  allowedDomains : List String
  blockedDomains : List String
  deriving DecidableEq

def assertExecuteAuthorization (B : CaseBuiltins) (plan : Plan) (approvedPlanHash : String)
    (allowedStoreCodes allowedDomains : Option (List String)) :
    Except JsError ExecuteAuthorization := do
  let hash := B.toLowerCase (jsTrim approvedPlanHash)
  if !isSha256Hex hash then
    fail "MISSING_APPROVED_PLAN_HASH" "execute requires an explicit 64-hex plan hash"
  if hash ≠ plan.planHash then
    fail "PLAN_HASH_MISMATCH" "approved plan hash does not match the built plan"
  let stores ← normalizeStoreCodes B allowedStoreCodes
  let domains ← normalizeDomains B allowedDomains
  if stores ≠ plan.storeCodes then
    fail "STORE_NOT_AUTHORIZED" "execute store scope must exactly match the reviewed plan"
  if domains ≠ plan.domains then
    fail "DOMAIN_NOT_AUTHORIZED" "execute domain scope must exactly match the reviewed plan"
  return {
    planHash := plan.planHash
    allowedStoreCodes := stores
    allowedDomains := domains
    blockedDomains := jsSort ((plan.windows.filter (!·.executable)).map (·.domain)).eraseDups }

end FullManagedBi.Backfill
