import FullManagedBi.Lib.Double
import FullManagedBi.Lib.Json

/-!
# The answer to a stock query

`src/domain/inventory.mjs`: `mapStockQueryResponse` maps the rows of an answer to inventory items, and
`reconcileTotals` compares the totals of an item with the sums of its warehouses. The `details` of an error are left
out, but for the texts that are read to make them.
-/

namespace FullManagedBi.Domain

open Lib

/-! ## Fields -/

/-- `fail`. -/
def inventoryError {α : Type} (code message : String) : Except JsError α := .error { code := some code, message }

def record (value : Option Json) (location : String) : Except JsError Json :=
  match value with
  | some (.obj fields) => .ok (.obj fields)
  | _ => inventoryError "INVALID_FIELD" (location ++ " must be an object")

def arrayField (value : Option Json) (location : String) : Except JsError (List Json) :=
  match value with
  | some (.arr items) => .ok items
  | _ => inventoryError "INVALID_FIELD" (location ++ " must be an array")

/-- `value === undefined || value === null || value === ''`. -/
def isMissing : Option Json → Bool
  | none | some .null | some (.str "") => true
  | _ => false

/-- `String(value).trim() || null`. -/
def trimmed (text : String) : Option String := if jsTrim text = "" then none else some (jsTrim text)

def optionalText (value : Option Json) (location : String) : Except JsError (Option String) :=
  match value with
  | none | some .null => .ok none
  | some (.str text) => .ok (trimmed text)
  | some (.num n) => .ok (trimmed n.text)
  | some _ => inventoryError "INVALID_FIELD" (location ++ " must be text")

def requiredText (value : Option Json) (location : String) : Except JsError String := do
  match ← optionalText value location with
  | some text => return text
  | none => inventoryError "MISSING_FIELD" (location ++ " is required")

/-- A quantity: a safe integer that is not negative. -/
abbrev Quantity := { n : Nat // n ≤ maxSafeInteger }

/-- The number that decimal digits stand for. -/
def digitsValue (digits : List Char) : Nat := digits.foldl (fun n c => 10 * n + (c.toNat - 48)) 0

def readInteger : Json → Option Int
  | .num (.int n) => some n
  | .str text =>
    let digits := (jsTrim text).toList
    if digits ≠ [] ∧ digits.all Char.isDigit then some (digitsValue digits) else none
  | _ => none

def quantity (value : Option Json) (location : String) (isOptional : Bool) : Except JsError (Option Quantity) :=
  if isMissing value then
    if isOptional then .ok none else inventoryError "MISSING_FIELD" (location ++ " is required")
  else match value.bind readInteger with
    | some (.ofNat n) =>
      if safe : n ≤ maxSafeInteger then .ok (some ⟨n, safe⟩)
      else inventoryError "INVALID_QUANTITY" (location ++ " must be a non-negative safe integer")
    | _ => inventoryError "INVALID_QUANTITY" (location ++ " must be a non-negative safe integer")

/-! ## Items -/

structure Metrics (α : Type) where
  inventoryQuantity : α
  lockedQuantity : α
  tempLockQuantity : α
  usableInventory : α
  outOfStockQty : α
  transitQuantity : α
  deriving DecidableEq

inductive Metric where
  | inventoryQuantity
  | lockedQuantity
  | tempLockQuantity
  | usableInventory
  | outOfStockQty
  | transitQuantity
  deriving DecidableEq

/-- `METRICS`. -/
def metrics : List Metric :=
  [.inventoryQuantity, .lockedQuantity, .tempLockQuantity, .usableInventory, .outOfStockQty, .transitQuantity]

def Metric.detailField : Metric → String
  | .inventoryQuantity => "inventoryQuantity"
  | .lockedQuantity => "lockedQuantity"
  | .tempLockQuantity => "tempLockQuantity"
  | .usableInventory => "usableInventory"
  | .outOfStockQty => "outOfStockQty"
  | .transitQuantity => "transitQuantity"

def Metric.totalField : Metric → String
  | .inventoryQuantity => "totalInventoryQuantity"
  | .lockedQuantity => "totalLockedQuantity"
  | .tempLockQuantity => "totalTempLockQuantity"
  | .usableInventory => "totalUsableInventory"
  | .outOfStockQty => "totalOutOfStockQty"
  | .transitQuantity => "totalTransitQuantity"

/-- `{ optional: true }`. -/
def Metric.isOptional : Metric → Bool
  | .outOfStockQty | .transitQuantity => true
  | _ => false

def Metrics.get {α : Type} (values : Metrics α) : Metric → α
  | .inventoryQuantity => values.inventoryQuantity
  | .lockedQuantity => values.lockedQuantity
  | .tempLockQuantity => values.tempLockQuantity
  | .usableInventory => values.usableInventory
  | .outOfStockQty => values.outOfStockQty
  | .transitQuantity => values.transitQuantity

/-- What `mapWarehouse` returns. -/
structure WarehouseStock where
  warehouseCode : String
  warehouseTypeCode : String
  detail : Metrics (Option Quantity)
  deriving DecidableEq

/-- An item ahead of its reconciliation. -/
structure StockItem where
  spuName : Option String
  skcName : Option String
  skuCode : String
  total : Metrics (Option Quantity)
  warehouses : List WarehouseStock
  deriving DecidableEq

def readMetrics (row : Json) (field : Metric → String) (location : String) :
    Except JsError (Metrics (Option Quantity)) := do
  let read (metric : Metric) :=
    quantity (row.field? (field metric)) (location ++ "." ++ field metric) metric.isOptional
  let inventoryQuantity ← read .inventoryQuantity
  let lockedQuantity ← read .lockedQuantity
  let tempLockQuantity ← read .tempLockQuantity
  let usableInventory ← read .usableInventory
  let outOfStockQty ← read .outOfStockQty
  let transitQuantity ← read .transitQuantity
  return { inventoryQuantity, lockedQuantity, tempLockQuantity, usableInventory, outOfStockQty, transitQuantity }

def mapWarehouse (value : Json) (location : String) : Except JsError WarehouseStock := do
  let row ← record (some value) location
  let warehouseCode ← requiredText (row.field? "warehouseCode") (location ++ ".warehouseCode")
  let warehouseTypeCode ← requiredText (row.field? "warehouseType") (location ++ ".warehouseType")
  let detail ← readMetrics row Metric.detailField location
  return { warehouseCode, warehouseTypeCode, detail }

/-! ## Reconciliation -/

/-- `status` of a check. -/
inductive CheckStatus where
  | notExposed
  | partialDetail
  | match_
  | mismatch
  deriving DecidableEq

structure MetricCheck where
  metric : String
  status : CheckStatus
  aggregate : Option Quantity
  warehouseSum : Option Rat
  deriving DecidableEq

/-- `status` of a reconciliation. -/
inductive ReconciliationStatus where
  | totalOnly
  | mismatch
  | partialDetail
  | reconciled
  deriving DecidableEq

/-- What `reconcileTotals` returns. -/
structure Reconciliation where
  status : ReconciliationStatus
  explanation : String
  checks : List MetricCheck
  deriving DecidableEq

/-- `detailValues.reduce((sum, value) => sum + value, 0)`. -/
def doubleSum (values : List Quantity) : Rat := values.foldl (fun sum value => doubleAdd sum (value.1 : Rat)) 0

/-- The check of a metric. The quantities of the warehouses are known where none of them is missing. -/
def checkMetric (item : StockItem) (metric : Metric) : MetricCheck :=
  match item.total.get metric with
  | none => ⟨metric.totalField, .notExposed, none, none⟩
  | some expected =>
    match item.warehouses.mapM fun warehouse => warehouse.detail.get metric with
    | none => ⟨metric.totalField, .partialDetail, some expected, none⟩
    | some detailValues =>
      let warehouseSum := doubleSum detailValues
      ⟨metric.totalField, if warehouseSum = (expected.1 : Rat) then .match_ else .mismatch, some expected,
        some warehouseSum⟩

def overallStatus (checks : List MetricCheck) : ReconciliationStatus :=
  if ∃ check ∈ checks, check.status = .mismatch then .mismatch
  else if ∃ check ∈ checks, check.status = .partialDetail then .partialDetail
  else .reconciled

def ReconciliationStatus.explanation : ReconciliationStatus → String
  | .totalOnly =>
    "SHEIN returned aggregate inventory totals without warehouse detail; no warehouse sum can be claimed."
  | .mismatch => "At least one SHEIN aggregate inventory value differs from the sum of warehouse details."
  | .partialDetail => "SHEIN omitted at least one warehouse-level metric, so only the exposed metrics were reconciled."
  | .reconciled => "Every exposed aggregate inventory value matches the sum of warehouse details."

def reconcileTotals (item : StockItem) : Reconciliation :=
  if item.warehouses.length = 0 then ⟨.totalOnly, ReconciliationStatus.totalOnly.explanation, []⟩
  else
    let checks := metrics.map (checkMetric item)
    let status := overallStatus checks
    ⟨status, status.explanation, checks⟩

/-! ## The answer -/

/-- What `mapSku` returns. -/
structure InventoryItem where
  item : StockItem
  reconciliation : Reconciliation
  deriving DecidableEq

/-- `row.warehouseInventoryList ?? []`. -/
def warehouseRows (row : Json) (location : String) : Except JsError (List Json) :=
  arrayField (nullish (row.field? "warehouseInventoryList") (some (.arr []))) (location ++ ".warehouseInventoryList")

def mapSku (value : Json) (spuName skcName : Option String) (location : String) : Except JsError InventoryItem := do
  let row ← record (some value) location
  let rows ← warehouseRows row location
  let spuName ← optionalText (spuName.map Json.str) (location ++ ".spuName")
  let skcName ← optionalText (skcName.map Json.str) (location ++ ".skcName")
  let skuCode ← requiredText (row.field? "skuCode") (location ++ ".skuCode")
  let total ← readMetrics row Metric.totalField location
  let warehouses ← rows.zipIdx.mapM fun (warehouse, index) =>
    mapWarehouse warehouse (location ++ s!".warehouseInventoryList[{index}]")
  let item : StockItem := { spuName, skcName, skuCode, total, warehouses }
  return ⟨item, reconcileTotals item⟩

def containerGroups (container : Json) (index : Nat) : Except JsError (List Json) := do
  let container ← record (some container) s!"response.info[{index}]"
  arrayField (container.field? "goodsInventory") s!"response.info[{index}].goodsInventory"

/-- `Array.isArray(info) ? info : [record(info, 'response.info')]`. -/
def infoContainers (info : Option Json) : Except JsError (List Json) :=
  match info with
  | some (.arr containers) => .ok containers
  | _ => (record info "response.info").map ([·])

def goodsGroups (info : Option Json) : Except JsError (List Json) := do
  let containers ← infoContainers info
  let groups ← containers.zipIdx.mapM fun (container, index) => containerGroups container index
  return groups.flatten

/-- `queryDimension`. -/
inductive QueryDimension where
  | sku
  | skc
  | spu
  deriving DecidableEq

/-- The check of `queryDimension`. -/
def readDimension (text : String) : Except JsError QueryDimension :=
  if text = "SKU" then .ok .sku
  else if text = "SKC" then .ok .skc
  else if text = "SPU" then .ok .spu
  else inventoryError "INVALID_QUERY_DIMENSION" "queryDimension must be SKU, SKC or SPU"

/-- What a group of the answer adds: the codes it observes, and its items. -/
structure GroupRead where
  codes : List String
  items : List InventoryItem

/-- The body of the loop over the groups. -/
def mapGroup (queryDimension : QueryDimension) (value : Json) (groupIndex : Nat) : Except JsError GroupRead := do
  let group ← record (some value) s!"response.info.goodsInventory[{groupIndex}]"
  let spuName ← optionalText (group.field? "spuName") s!"goodsInventory[{groupIndex}].spuName"
  let skcName ← optionalText (group.field? "skcName") s!"goodsInventory[{groupIndex}].skcName"
  let skuList ← arrayField (group.field? "skuList") s!"goodsInventory[{groupIndex}].skuList"
  let items ← skuList.zipIdx.mapM fun (sku, skuIndex) =>
    mapSku sku spuName skcName s!"goodsInventory[{groupIndex}].skuList[{skuIndex}]"
  let codes := match queryDimension with
    | .spu => spuName.toList
    | .skc => skcName.toList
    | .sku => items.map (·.item.skuCode)
  return { codes, items }

/-- `shortages`: a SKU with its shortage. -/
structure Shortage where
  skuCode : String
  shortageQuantity : Option Quantity
  deriving DecidableEq

/-- `coverage`. -/
structure StockCoverage where
  complete : Bool
  requestedCount : Nat
  observedCount : Nat
  missingCodes : List String
  unexpectedCodes : List String
  explanation : String
  deriving DecidableEq

/-- What `mapStockQueryResponse` returns. -/
structure StockQueryResult where
  queryDimension : QueryDimension
  requestedCodes : List String
  inventoryType : String
  fetchedAt : String
  items : List InventoryItem
  shortages : List Shortage
  coverage : StockCoverage
  traceId : Option String
  deriving DecidableEq

/-- The arguments of `mapStockQueryResponse`. -/
structure StockQuery where
  response : Option Json
  queryDimension : String
  requestedCodes : Option Json
  inventoryType : String
  fetchedAt : String

/-- The check of `code`: the texts of its error are read first. -/
def requireSuccess (body : Json) : Except JsError Unit :=
  let code := match body.field? "code" with
    | some value => value.text
    | none => "undefined"
  if code = "0" then .ok ()
  else do
    let _ ← optionalText (body.field? "msg") "response.msg"
    let _ ← optionalText (body.field? "traceId") "response.traceId"
    inventoryError "OPENAPI_RESPONSE_ERROR" ("stock-query failed with code " ++ code)

def requestCodes (requestedCodes : Option Json) : Except JsError (List Json) :=
  match requestedCodes with
  | some (.arr (code :: codes)) => .ok (code :: codes)
  | _ => inventoryError "INVALID_REQUEST_CODES" "requestedCodes must be a non-empty array"

/-- `coverage`, for the codes that are missing. -/
def stockCoverage (requested observed : List String) : StockCoverage :=
  let missingCodes := requested.filter (· ∉ observed)
  { complete := missingCodes.length = 0
    requestedCount := requested.length
    observedCount := observed.length
    missingCodes := missingCodes
    unexpectedCodes := []
    explanation := if missingCodes.length = 0 then
        "Every requested identifier was present in the successful SHEIN response."
      else "SHEIN omitted requested identifiers; they remain unknown and were not converted to zero inventory." }

/-- `shortages`. -/
def shortagesOf (items : List InventoryItem) : List Shortage :=
  (items.filter fun item => match item.item.total.outOfStockQty with
    | some shortage => 0 < shortage.1
    | none => false).map fun item => ⟨item.item.skuCode, item.item.total.outOfStockQty⟩

def normalizeFetchedAt (isoInstant : String → Option String) (fetchedAt : String) : Except JsError String :=
  match isoInstant fetchedAt with
  | some instant => .ok instant
  | none => inventoryError "INVALID_FETCHED_AT" "fetchedAt must be a valid date-time"

/-- `mapStockQueryResponse`, with `new Date(value).toISOString()` where it is a date. -/
def mapStockQueryResponse (isoInstant : String → Option String) (query : StockQuery) :
    Except JsError StockQueryResult := do
  let body ← record query.response "response"
  requireSuccess body
  let queryDimension ← readDimension query.queryDimension
  let requestedCodes ← requestCodes query.requestedCodes
  let groups ← goodsGroups (body.field? "info")
  let reads ← groups.zipIdx.mapM fun (group, groupIndex) => mapGroup queryDimension group groupIndex
  let items := reads.flatMap (·.items)
  let observedCodes := (reads.flatMap (·.codes)).eraseDups
  let texts ← requestedCodes.mapM fun code => requiredText (some code) "requestedCodes"
  let requested := texts.eraseDups
  let unexpectedCodes := observedCodes.filter (· ∉ requested)
  refuse (0 < unexpectedCodes.length) {
    code := some "UNEXPECTED_RESPONSE_IDENTIFIER"
    message := s!"stock-query returned {unexpectedCodes.length} unrequested {query.queryDimension} identifier(s)" }
  refuse (¬ (items.map (·.item.skuCode)).Nodup) {
    code := some "DUPLICATE_RESPONSE_SKU", message := "stock-query returned a SKU more than once" }
  let fetchedAt ← normalizeFetchedAt isoInstant query.fetchedAt
  let traceId ← optionalText (body.field? "traceId") "response.traceId"
  return {
    queryDimension
    requestedCodes := requested
    inventoryType := query.inventoryType
    fetchedAt
    items
    shortages := shortagesOf items
    coverage := stockCoverage requested observedCodes
    traceId := traceId.map fun text => String.ofList (jsSlice 128 text.toList) }

end FullManagedBi.Domain
