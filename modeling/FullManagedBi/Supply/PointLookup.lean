import FullManagedBi.Lib.Js

/-!
# Point lookups of the supply sync

`runSupplySync` (`scripts/sync_full_managed_supply.mjs`), as the hydration runner calls it: for one
store, with purchase-order numbers or delivery codes to look up. The pages of an answer are fetched in
sequence (`fetchPageSequence` of `src/openapi/paginated-fetch.mjs`), merged by key, counted and loaded
into the warehouse as one snapshot.

What the platform answers to each request, whether the snapshot is loaded, and how the ledger of
attempts behaves is the `StoreEnv` of the environment. An answer stands for what
`mapPurchaseOrderResponse` or `mapDeliveryResponse` makes of it.
-/

namespace FullManagedBi.Supply

open Lib

/-- A point in time, in milliseconds. -/
abbrev Instant := Int

/-! ## The interface -/

/-- The domains a point lookup may ask for. -/
inductive SupplyDomain where
  | purchaseOrders
  | deliveries
  deriving DecidableEq

/-- What the runner asks of `runSupplySync`. `domains.join(',')` is split again by the sync. The
configuration, the database and the run id are left out. -/
structure SyncRequest where
  stores : String
  domains : List SupplyDomain
  purchaseOrderNos : String
  deliveryCodes : String
  deriving DecidableEq

/-- The `status` of a domain result. -/
inductive DomainStatus where
  | fetched
  | fetchError
  | loaded
  | loadError
  deriving DecidableEq

/-- An entry of a store result's `domains`. -/
structure DomainResult where
  domain : SupplyDomain
  status : DomainStatus
  recordCount : Option Nat
  deriving DecidableEq

/-- The `status` of a store result. -/
inductive StoreStatus where
  | loaded
  | partialResult
  | error
  | skipped
  deriving DecidableEq

/-- An entry of the summary's `results`. -/
structure StoreResult where
  storeCode : String
  status : StoreStatus
  domains : List DomainResult
  deriving DecidableEq

/-- What the runner reads of the summary `runSupplySync` returns. -/
structure SyncSummary where
  ok : Bool
  results : List StoreResult
  deriving DecidableEq

/-! ## Arguments -/

/-- The entries of a comma-separated text, in the order they first appear. -/
def csvEntries (value : String) (normalize : String → String) : List String :=
  (((value.toList.splitOnP (· == ',')).map fun raw => jsTrim (String.ofList raw)).filter
    (· ≠ "")).map normalize |>.eraseDups

/-- `uniqueCsv`, of a text; `none` is the empty text. -/
def uniqueCsv (value location : String) (normalize : String → String := id) :
    Except JsError (Option (List String)) :=
  if value = "" then .ok none
  else if csvEntries value normalize = [] then
    .error { message := location ++ " must contain at least one value" }
  else .ok (some (csvEntries value normalize))

def normalizeSupplyPointLookups (purchaseOrderNos deliveryCodes : String) :
    Except JsError (List String × List String) := do
  let orders := (← uniqueCsv purchaseOrderNos "purchaseOrderNos").getD []
  let deliveries := (← uniqueCsv deliveryCodes "deliveryCodes").getD []
  if 200 < orders.length then throw { message := "purchaseOrderNos cannot exceed 200 values" }
  if 200 < deliveries.length then throw { message := "deliveryCodes cannot exceed 200 values" }
  return (orders, deliveries)

/-! ## Pages -/

/-- An error of a fetch, as `isRetryableSupplyFetchError` reads it. -/
structure FetchError where
  code : Option String
  httpStatus : Option Nat := none
  deriving DecidableEq

/-- One page of an answer: its rows, and the count it advertises. -/
structure PageResponse (ι : Type) where
  items : List ι
  count : Option Nat
  deriving DecidableEq

/-- What `fetchPageSequence` has gathered before a page. -/
structure PageSequence (ι φ : Type) where
  items : List ι := []
  seenPageFingerprints : List (List φ) := []
  advertisedCount : Option Nat := none

section Pages

variable {ι φ : Type} [DecidableEq φ]

/-- `fetchPageSequence` from a page on. A page's fingerprint is the list of its rows' fingerprints. -/
def fetchPagesFrom (fetchPage : Nat → Except FetchError (PageResponse ι)) (pageSize maxItems : Nat)
    (fingerprintItem : ι → φ) :
    (pagesLeft page : Nat) → PageSequence ι φ → Except FetchError (List ι)
  | 0, _, _ => .error ⟨some "PAGINATION_LIMIT", none⟩
  | pagesLeft + 1, page, before => do
    let response ← fetchPage page
    if pageSize < response.items.length then throw ⟨some "PAGINATION_PAGE_OVERFLOW", none⟩
    if response.count.any fun observed => before.advertisedCount.any (· ≠ observed) then
      throw ⟨some "PAGINATION_COUNT_DRIFT", none⟩
    let advertisedCount := response.count.or before.advertisedCount
    let fingerprint := response.items.map fingerprintItem
    if response.items.length > 0 ∧ fingerprint ∈ before.seenPageFingerprints then
      throw ⟨some "PAGINATION_REPEATED_PAGE", none⟩
    let items := before.items ++ response.items
    if maxItems < items.length then throw ⟨some "PAGINATION_ITEM_LIMIT", none⟩
    if response.items.length < pageSize then
      if advertisedCount.any (items.length < ·) then
        throw ⟨some "PAGINATION_COUNT_MISMATCH", none⟩
      return items
    fetchPagesFrom fetchPage pageSize maxItems fingerprintItem pagesLeft (page + 1)
      ⟨items, fingerprint :: before.seenPageFingerprints, advertisedCount⟩

/-- `fetchPageSequence`, with its default limits. -/
def fetchPageSequence (fetchPage : Nat → Except FetchError (PageResponse ι)) (pageSize : Nat)
    (fingerprintItem : ι → φ) : Except FetchError (List ι) :=
  fetchPagesFrom fetchPage pageSize 1000000 fingerprintItem 10000 1 {}

end Pages

/-! ## Purchase orders and deliveries -/

/-- A line of a purchase order, as the fetch reads it. -/
structure PurchaseOrderLine where
  skuCode : Option String
  skc : Option String
  orderQuantity : Option Nat
  storageQuantity : Option Nat
  deriving DecidableEq

/-- A purchase order, as the fetch reads it. -/
structure PurchaseOrder where
  orderNo : String
  sourceUpdatedAt : Option Instant := none
  fetchedAt : Instant := 0
  statusCode : Option String := none
  lines : List PurchaseOrderLine := []
  deriving DecidableEq

/-- What `mapPurchaseOrderResponse` returns. -/
structure PurchaseOrderPage where
  count : Nat
  page : Nat
  orders : List PurchaseOrder
  deriving DecidableEq

def requirePositiveInteger (value maximum : Nat) : Except FetchError Unit :=
  if value < 1 ∨ maximum < value then throw ⟨none, none⟩ else return ()

/-- `fetchPage` of `fetchFullManagedPurchaseOrders`: the page asked for, with the count of an empty
page that advertises none dropped. -/
def purchaseOrderPage (answer : Nat → Except FetchError PurchaseOrderPage) (page : Nat) :
    Except FetchError (PageResponse PurchaseOrder) := do
  let mapped ← answer page
  if mapped.page ≠ page then throw ⟨some "PAGINATION_MISMATCH", none⟩
  return ⟨mapped.orders,
    if mapped.orders.length = 0 ∧ mapped.count = 0 then none else some mapped.count⟩

/-- `fetchFullManagedPurchaseOrders`, of order numbers. -/
def fetchFullManagedPurchaseOrders (pageSize : Nat)
    (answer : Nat → Except FetchError PurchaseOrderPage) :
    Except FetchError (List PurchaseOrder) := do
  requirePositiveInteger pageSize 200
  fetchPageSequence (purchaseOrderPage answer) pageSize fun order =>
    (order.orderNo, order.sourceUpdatedAt, order.statusCode, order.lines)

/-- A line of a delivery, as the fetch reads it. -/
structure DeliveryLine where
  orderNo : Option String
  skuCode : Option String
  skc : Option String
  deliveryQuantity : Option Nat
  deriving DecidableEq

/-- A delivery, as the fetch reads it. -/
structure Delivery where
  deliveryCode : String
  createdAt : Option Instant := none
  receivedAt : Option Instant := none
  takenAt : Option Instant := none
  fetchedAt : Instant := 0
  lines : List DeliveryLine := []
  deriving DecidableEq

/-- `fetchFullManagedDeliveries`, of one delivery code. -/
def fetchFullManagedDeliveries (pageSize : Nat)
    (answer : Nat → Except FetchError (PageResponse Delivery)) :
    Except FetchError (List Delivery) := do
  requirePositiveInteger pageSize 200
  fetchPageSequence answer pageSize fun delivery =>
    (delivery.deliveryCode, delivery.createdAt, delivery.receivedAt, delivery.lines)

/-! ## Merging -/

/-- `laterSourceRow`: the first of the times that differs decides, and the right row where none does.
A missing time is the earliest. -/
def laterSourceRow {α : Type} (times : List (α → Option Instant)) (left right : α) : α :=
  match times with
  | [] => right
  | time :: rest =>
    match time left, time right with
    | none, some _ => right
    | some _, none => left
    | some l, some r => if l < r then right else if r < l then left else laterSourceRow rest left right
    | none, none => laterSourceRow rest left right

/-- `map.set(key, previous ? later(previous, row) : row)`, where a map keeps the order its keys were
first set in. -/
def setRow {α : Type} (key : α → String) (later : α → α → α) (merged : List α) (row : α) : List α :=
  if (merged.map key).contains (key row) then
    merged.map fun previous => if key previous = key row then later previous row else previous
  else merged ++ [row]

def mergeRows {α : Type} (key : α → String) (later : α → α → α) (rows : List α) : List α :=
  rows.foldl (setRow key later) []

/-- The orders of `mergePurchaseOrderResults`. -/
def mergePurchaseOrderResults (results : List (List PurchaseOrder)) : List PurchaseOrder :=
  mergeRows (·.orderNo) (laterSourceRow [(·.sourceUpdatedAt), fun order => some order.fetchedAt])
    results.flatten

/-- The deliveries of `mergeDeliveryResults`. -/
def mergeDeliveryResults (results : List (List Delivery)) : List Delivery :=
  mergeRows (·.deliveryCode)
    (laterSourceRow [fun delivery => some delivery.fetchedAt, (·.receivedAt), (·.takenAt)])
    results.flatten

/-! ## Retries -/

/-- What `/^[A-Z0-9_]{3,80}$/` matches. -/
def isFetchErrorCode (code : String) : Bool :=
  decide (3 ≤ code.toList.length) && decide (code.toList.length ≤ 80) &&
    code.toList.all fun c => c.isUpper || c.isDigit || c == '_'

def isRetryableSupplyFetchError (js : TextBuiltins) (error : FetchError) : Bool :=
  let candidate := (error.code.map js.toUpperCase).getD ""
  let code := if isFetchErrorCode candidate then candidate else ""
  ["NETWORK_ERROR", "REQUEST_TIMEOUT", "PAGINATION_COUNT_DRIFT", "PAGINATION_UNSTABLE_MEMBERSHIP",
      "CATALOG_SWEEP_UNSTABLE"].contains code ||
    code == "HTTP_ERROR" && error.httpStatus.any fun status =>
      status == 429 || (decide (500 ≤ status) && decide (status ≤ 599))

/-- `fetchSupplyDomainWithRetry`, of the n-th attempt at the operation, from one attempt on. -/
def fetchSupplyDomainWithRetry {α : Type} (js : TextBuiltins)
    (operation : Nat → Except FetchError α) : (retriesLeft attempt : Nat) → Except FetchError α
  | 0, attempt => operation attempt
  | left + 1, attempt =>
    match operation attempt with
    | .ok value => .ok value
    | .error e =>
      if isRetryableSupplyFetchError js e then
        fetchSupplyDomainWithRetry js operation left (attempt + 1)
      else .error e

/-- `Promise.all`: all values, or one of the rejections; which one settled first is the
environment's. -/
def promiseAll {α : Type} (first : Nat) (settled : List (Except FetchError α)) :
    Except FetchError (List α) :=
  let rejections := settled.filterMap fun
    | .ok _ => none
    | .error e => some e
  match rejections[first % rejections.length]? with
  | some e => .error e
  | none => .ok (settled.filterMap Except.toOption)

/-! ## One store -/

/-- What the environment answers in one store: to the requests of each attempt, by page; whether the
store may be called; how the ledger of attempts and the load end. -/
structure StoreEnv where
  callBlocked : Bool := false
  pageSize : Nat := 200
  orderPages : (attempt page : Nat) → Except FetchError PurchaseOrderPage
  deliveryPages : (attempt : Nat) → (deliveryCode : String) → (page : Nat) →
    Except FetchError (PageResponse Delivery)
  firstRejection : (attempt : Nat) → Nat := fun _ => 0
  startAttempts : Bool := true
  createClient : Bool := true
  loadSnapshot : Bool := true
  finishAttempts : Bool := true

/-- What a store's sync came to: its result, and the records loaded into the warehouse. -/
structure StoreSync where
  result : StoreResult
  orders : List PurchaseOrder := []
  deliveries : List Delivery := []
  deriving DecidableEq

/-- The keys of the records of a domain that were loaded. -/
def StoreSync.keys (synced : StoreSync) : SupplyDomain → List String
  | .purchaseOrders => synced.orders.map (·.orderNo)
  | .deliveries => synced.deliveries.map (·.deliveryCode)

def lookUpPurchaseOrders (js : TextBuiltins) (env : StoreEnv) :
    Except FetchError (List PurchaseOrder) :=
  let operation (attempt : Nat) := do
    let orders ← fetchFullManagedPurchaseOrders (min env.pageSize 200) (env.orderPages attempt)
    return mergePurchaseOrderResults [orders]
  fetchSupplyDomainWithRetry js operation 2 0

def lookUpDeliveries (js : TextBuiltins) (env : StoreEnv) (deliveryCodes : List String) :
    Except FetchError (List Delivery) :=
  let operation (attempt : Nat) := do
    let results ← promiseAll (env.firstRejection attempt) <| deliveryCodes.map fun code =>
      fetchFullManagedDeliveries (min env.pageSize 200) (env.deliveryPages attempt code)
    return mergeDeliveryResults results
  fetchSupplyDomainWithRetry js operation 2 0

/-- The result of a domain after `loadPrimarySnapshot`. -/
def domainResult {α : Type} (domain : SupplyDomain) (loads : Bool) :
    Except FetchError (List α) → DomainResult
  | .ok records =>
    ⟨domain, if loads then .loaded else .loadError, some records.length⟩
  | .error _ => ⟨domain, .fetchError, none⟩

/-- The records of a domain that reach the warehouse. -/
def loadedRecords {α : Type} (loads : Bool) : Except FetchError (List α) → List α
  | .ok records => if loads then records else []
  | .error _ => []

def storeStatus (domains : List DomainResult) : StoreStatus :=
  let failed := domains.any fun row => row.status = .fetchError || row.status = .loadError
  if !failed then .loaded
  else if domains.any (·.status = .loaded) then .partialResult
  else .error

def syncDomain (js : TextBuiltins) (env : StoreEnv) (deliveryCodes : List String) :
    SupplyDomain → DomainResult
  | .purchaseOrders =>
    domainResult .purchaseOrders env.loadSnapshot (lookUpPurchaseOrders js env)
  | .deliveries => domainResult .deliveries env.loadSnapshot (lookUpDeliveries js env deliveryCodes)

/-- `syncStore`, of a point lookup. -/
def syncStore (js : TextBuiltins) (env : StoreEnv) (storeCode : String)
    (domains : List SupplyDomain) (deliveryCodes : List String) : StoreSync :=
  let results := domains.map (syncDomain js env deliveryCodes)
  { result := ⟨storeCode, storeStatus results, results⟩
    orders :=
      if .purchaseOrders ∈ domains then
        loadedRecords env.loadSnapshot (lookUpPurchaseOrders js env)
      else []
    deliveries :=
      if .deliveries ∈ domains then
        loadedRecords env.loadSnapshot (lookUpDeliveries js env deliveryCodes)
      else [] }

/-- One store of `runSupplySync`, with its ledger of attempts. -/
def syncStoreWithAttempts (js : TextBuiltins) (env : StoreEnv) (storeCode : String)
    (domains : List SupplyDomain) (deliveryCodes : List String) : StoreSync :=
  if env.callBlocked then { result := ⟨storeCode, .skipped, []⟩ }
  else if !env.startAttempts || !env.createClient then { result := ⟨storeCode, .error, []⟩ }
  else
    let synced := syncStore js env storeCode domains deliveryCodes
    if env.finishAttempts then synced
    else { synced with result := { synced.result with status := .error } }

/-- The stores of the configuration, and what the environment answers in each. -/
structure SupplyEnv where
  stores : List String
  env : String → StoreEnv

def selectStores (js : TextBuiltins) (config : SupplyEnv) (requestedValue : String) :
    Except JsError (List String) := do
  match ← uniqueCsv requestedValue "stores" js.toUpperCase with
  | none =>
    let eligible := config.stores.filter fun storeCode => !(config.env storeCode).callBlocked
    if eligible = [] then
      throw { message := "No enabled, approved and authorized full-managed store is eligible" }
    return eligible
  | some requested =>
    let unknown := requested.filter fun storeCode => !config.stores.contains storeCode
    if unknown ≠ [] then
      throw { message := "Unknown store code(s): " ++ ", ".intercalate unknown }
    return requested

/-- What `runSupplySync` does in the stores of a request. -/
def syncStores (js : TextBuiltins) (env : SupplyEnv) (request : SyncRequest) :
    Except JsError (List StoreSync) := do
  let (purchaseOrderNos, deliveryCodes) ←
    normalizeSupplyPointLookups request.purchaseOrderNos request.deliveryCodes
  if purchaseOrderNos ≠ [] ∧ .purchaseOrders ∉ request.domains then
    throw { message := "purchaseOrderNos requires the purchase-orders domain" }
  if deliveryCodes ≠ [] ∧ .deliveries ∉ request.domains then
    throw { message := "deliveryCodes requires the deliveries domain" }
  let selected ← selectStores js env request.stores
  return selected.map fun storeCode =>
    syncStoreWithAttempts js (env.env storeCode) storeCode request.domains deliveryCodes

/-- The summary of `runSupplySync`. -/
def summarizeSync (synced : List StoreSync) : SyncSummary where
  ok := synced.all (·.result.status = .loaded)
  results := synced.map (·.result)

def runSupplySync (js : TextBuiltins) (env : SupplyEnv) (request : SyncRequest) :
    Except JsError SyncSummary :=
  (syncStores js env request).map summarizeSync

end FullManagedBi.Supply
