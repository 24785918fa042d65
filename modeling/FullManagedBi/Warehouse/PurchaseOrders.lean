import FullManagedBi.Lib.Calendar
import FullManagedBi.Lib.Json

/-!
# Loading a purchase order

`loadPurchaseOrders` (`src/warehouse/supply-repository.mjs`) takes one order after the other. An order older
than the stored one is passed over, and one of the same source time must have the fingerprint of the stored
one, which is taken of its lines in a canonical order. Then the current lines are retired, and each line is
inserted under a key of its identity and of how many lines of that identity came before it.

`loadOrder` is the turn of one order, up to its JIT relations. `OrderTables` is what the two tables hold of
one store and order number, which `purchase_order_id` stands for; the columns of an order that this load
writes and does not read are left out. An instant is an ISO text with a year of four digits, as PostgreSQL
takes it: such texts compare as their instants do.
-/

namespace FullManagedBi.Warehouse

open Lib

/-- A point in time, in milliseconds. -/
abbrev Instant := Int

/-! ## Orders -/

/-- A line of a purchase order, as `mapLine` makes it. -/
structure PurchaseOrderLine where
  skuCode : Option String
  skc : Option String
  supplierCode : Option String
  supplierSku : Option String
  variantName : Option String
  needQuantity : Option Nat
  orderQuantity : Option Nat
  deliveryQuantity : Option Nat
  receiptQuantity : Option Nat
  storageQuantity : Option Nat
  defectiveQuantity : Option Nat
  requestDeliveryQuantity : Option Nat
  noRequestDeliveryQuantity : Option Nat
  alreadyDeliveryQuantity : Option Nat
  deriving DecidableEq

structure JitRelation where
  motherOrderNo : String
  childOrderNo : String
  deriving DecidableEq

/-- A purchase order, as `mapPurchaseOrder` makes it. -/
structure PurchaseOrder where
  orderNo : String
  orderTypeCode : Option String := none
  orderTypeName : Option String := none
  statusCode : Option String := none
  statusName : Option String := none
  prepareTypeCode : Option String := none
  prepareTypeName : Option String := none
  categoryCode : Option String := none
  categoryName : Option String := none
  currencyCode : Option String := none
  warehouseCode : Option String := none
  warehouseName : Option String := none
  jitRoleCode : Option String := none
  createdAt : Option Instant := none
  allocatedAt : Option Instant := none
  requestedDeliveryAt : Option Instant := none
  requestedReceiptAt : Option Instant := none
  deliveredAt : Option Instant := none
  receivedAt : Option Instant := none
  storedAt : Option Instant := none
  sourceUpdatedAt : Option Instant
  fetchedAt : Option Instant
  lines : List PurchaseOrderLine
  linesComplete : Bool
  jitRelations : List JitRelation
  jitRelationScopes : List String
  jitRelationsComplete : Bool
  deriving DecidableEq

/-! ## Fingerprints -/

def jsonQuantity : Option Nat → Json
  | some n => .ofNat n
  | none => .null

def jsonInstant (instant : Option Instant) : Json := .ofOption (instant.map toIsoInstant)

def PurchaseOrderLine.json (line : PurchaseOrderLine) : Json := .obj [
  ("skuCode", .ofOption line.skuCode),
  ("skc", .ofOption line.skc),
  ("supplierCode", .ofOption line.supplierCode),
  ("supplierSku", .ofOption line.supplierSku),
  ("variantName", .ofOption line.variantName),
  ("needQuantity", jsonQuantity line.needQuantity),
  ("orderQuantity", jsonQuantity line.orderQuantity),
  ("deliveryQuantity", jsonQuantity line.deliveryQuantity),
  ("receiptQuantity", jsonQuantity line.receiptQuantity),
  ("storageQuantity", jsonQuantity line.storageQuantity),
  ("defectiveQuantity", jsonQuantity line.defectiveQuantity),
  ("requestDeliveryQuantity", jsonQuantity line.requestDeliveryQuantity),
  ("noRequestDeliveryQuantity", jsonQuantity line.noRequestDeliveryQuantity),
  ("alreadyDeliveryQuantity", jsonQuantity line.alreadyDeliveryQuantity)]

def JitRelation.json (relation : JitRelation) : Json :=
  .obj [("motherOrderNo", .str relation.motherOrderNo), ("childOrderNo", .str relation.childOrderNo)]

/-- What the load uses of the engine: a digest, and the order of texts in its locale. -/
structure SupplyBuiltins where
  digest : Digest
  localeCompare : String → String → Ordering
  localeCompare_trans : Std.TransCmp localeCompare

variable (B : SupplyBuiltins)

def canonicalRowSet (rows : List Json) : List Json :=
  rows.insertionSort fun left right => B.localeCompare (stableJson left) (stableJson right) ≠ .gt

/-- The fingerprint of an order: without the time it was fetched at, and with its rows in canonical
order. -/
def orderFingerprint (order : PurchaseOrder) : String := B.digest.payloadFingerprint <| .obj [
  ("orderNo", .str order.orderNo),
  ("orderTypeCode", .ofOption order.orderTypeCode),
  ("orderTypeName", .ofOption order.orderTypeName),
  ("statusCode", .ofOption order.statusCode),
  ("statusName", .ofOption order.statusName),
  ("prepareTypeCode", .ofOption order.prepareTypeCode),
  ("prepareTypeName", .ofOption order.prepareTypeName),
  ("categoryCode", .ofOption order.categoryCode),
  ("categoryName", .ofOption order.categoryName),
  ("currencyCode", .ofOption order.currencyCode),
  ("warehouseCode", .ofOption order.warehouseCode),
  ("warehouseName", .ofOption order.warehouseName),
  ("jitRoleCode", .ofOption order.jitRoleCode),
  ("createdAt", jsonInstant order.createdAt),
  ("allocatedAt", jsonInstant order.allocatedAt),
  ("requestedDeliveryAt", jsonInstant order.requestedDeliveryAt),
  ("requestedReceiptAt", jsonInstant order.requestedReceiptAt),
  ("deliveredAt", jsonInstant order.deliveredAt),
  ("receivedAt", jsonInstant order.receivedAt),
  ("storedAt", jsonInstant order.storedAt),
  ("sourceUpdatedAt", jsonInstant order.sourceUpdatedAt),
  ("lines", .arr (canonicalRowSet B (order.lines.map PurchaseOrderLine.json))),
  ("linesComplete", .bool order.linesComplete),
  ("jitRelations", .arr (canonicalRowSet B (order.jitRelations.map JitRelation.json))),
  ("jitRelationScopes", .arr (order.jitRelationScopes.map .str)),
  ("jitRelationsComplete", .bool order.jitRelationsComplete)]

def lineFingerprint (line : PurchaseOrderLine) : String := B.digest.payloadFingerprint line.json

def PurchaseOrderLine.identity (line : PurchaseOrderLine) : Json := .obj [
  ("skuCode", .ofOption line.skuCode),
  ("skc", .ofOption line.skc),
  ("supplierCode", .ofOption line.supplierCode),
  ("supplierSku", .ofOption line.supplierSku)]

/-- `occurrenceKeyFactory`: the lines with their keys, as counted so far. -/
def keyedLines (counts : String → Nat) : List PurchaseOrderLine → List (String × PurchaseOrderLine)
  | [] => []
  | line :: lines =>
    let serialized := stableJson line.identity
    let occurrence := counts serialized
    let key := B.digest.payloadFingerprint
      (.obj [("identity", line.identity), ("occurrence", .ofNat occurrence)])
    (key, line) :: keyedLines (Function.update counts serialized (occurrence + 1)) lines

/-! ## Tables -/

/-- What is read again of a row of `fact.purchase_order`. -/
structure PurchaseOrderRow where
  payloadFingerprint : String
  sourceFetchedAt : Instant
  deriving DecidableEq

/-- A row of `fact.purchase_order_line`. -/
structure PurchaseOrderLineRow where
  sourceLineKey : String
  /-- The columns `sku_code` to `already_delivery_quantity`. -/
  line : PurchaseOrderLine
  sourceFetchBatchId : Nat
  payloadFingerprint : String
  sourceFetchedAt : Instant
  isCurrent : Bool
  retiredAt : Option Instant
  deriving DecidableEq

structure OrderTables where
  order : Option PurchaseOrderRow := none
  lines : List PurchaseOrderLineRow := []
  deriving DecidableEq

/-- The row of an observation: the columns of `uq_fact_purchase_order_line_observation`. -/
def PurchaseOrderLineRow.observes (key : String) (time : Instant) (row : PurchaseOrderLineRow) : Bool :=
  decide (row.sourceLineKey = key) && decide (row.sourceFetchedAt = time)

def PurchaseOrderLineRow.retire (time : Instant) (row : PurchaseOrderLineRow) : PurchaseOrderLineRow :=
  if row.isCurrent && decide (row.sourceFetchedAt ≤ time) then
    { row with isCurrent := false, retiredAt := some time }
  else row

def PurchaseOrderLineRow.revive (row : PurchaseOrderLineRow) : PurchaseOrderLineRow :=
  { row with isCurrent := true, retiredAt := none }

/-- A guard of the load that refuses an order. -/
def guardError (message code : String) : JsError := { code := some code, message }

def uniqueViolation (index : String) : JsError :=
  { code := some "23505", message := "duplicate key value violates unique constraint \"" ++ index ++ "\"" }

/-- One load of an order: the batch it comes with, and the time the snapshot was observed. -/
structure OrderLoad where
  order : PurchaseOrder
  fetchBatchId : Nat
  sourceFetchedAt : Instant
  deriving DecidableEq

/-- `isoDate(order.sourceUpdatedAt ?? order.fetchedAt ?? sourceFetchedAt)`. -/
def OrderLoad.effectiveSourceTime (load : OrderLoad) : Instant :=
  (load.order.sourceUpdatedAt.or load.order.fetchedAt).getD load.sourceFetchedAt

/-- `INSERT ... ON CONFLICT (store_id, purchase_order_id, source_line_key, source_fetched_at) DO UPDATE`, and
the guard after it. -/
def insertLine (load : OrderLoad) (rows : List PurchaseOrderLineRow) (item : String × PurchaseOrderLine) :
    Except JsError (List PurchaseOrderLineRow) :=
  let time := load.effectiveSourceTime
  let fingerprint := lineFingerprint B item.2
  match rows.find? (PurchaseOrderLineRow.observes item.1 time) with
  | some stored =>
    if stored.payloadFingerprint ≠ fingerprint then
      .error (guardError ("Purchase order " ++ load.order.orderNo ++
        " line evidence changed at an identical source timestamp") "PURCHASE_ORDER_LINE_SAME_TIME_DRIFT")
    else if rows.any fun row => row.isCurrent && decide (row.sourceLineKey = item.1) &&
        !row.observes item.1 time then
      .error (uniqueViolation "uq_fact_purchase_order_line_current")
    else .ok (rows.map fun row => if row.observes item.1 time then row.revive else row)
  | none =>
    if item.2.skuCode = none ∧ item.2.skc = none ∧ item.2.supplierCode = none then
      .error { code := some "23514", message := "new row violates \"ck_fact_purchase_order_line_identity\"" }
    else if rows.any fun row => decide (row.sourceFetchBatchId = load.fetchBatchId) &&
        decide (row.sourceLineKey = item.1) then
      .error (uniqueViolation "uq_fact_purchase_order_line_source")
    else if rows.any fun row => row.isCurrent && decide (row.sourceLineKey = item.1) then
      .error (uniqueViolation "uq_fact_purchase_order_line_current")
    else .ok (rows ++ [{
      sourceLineKey := item.1, line := item.2, sourceFetchBatchId := load.fetchBatchId,
      payloadFingerprint := fingerprint, sourceFetchedAt := time, isCurrent := true, retiredAt := none }])

structure LoadCounts where
  lineCount : Nat
  retiredLineCount : Nat
  staleOrderCount : Nat
  deriving DecidableEq

/-- The checks of an order before its tables are read. -/
def checkEvidence (order : PurchaseOrder) : Except JsError Unit := do
  refuse (order.linesComplete = false)
    (guardError ("Purchase order " ++ order.orderNo ++ " does not declare a complete line set")
      "PURCHASE_ORDER_LINE_SET_INCOMPLETE")
  refuse (order.jitRelationsComplete = true ∧ order.jitRelationScopes = [])
    (guardError ("Purchase order " ++ order.orderNo ++ " has invalid JIT relation evidence")
      "PURCHASE_ORDER_JIT_EVIDENCE_INVALID")

/-- The row of the order after the load: `ON CONFLICT` replaces an older one. -/
def upsertOrder (stored : Option PurchaseOrderRow) (incoming : PurchaseOrderRow) : PurchaseOrderRow :=
  match stored with
  | none => incoming
  | some row => if row.sourceFetchedAt < incoming.sourceFetchedAt then incoming else row

def loadOrder (tables : OrderTables) (load : OrderLoad) : Except JsError (OrderTables × LoadCounts) := do
  let order := load.order
  checkEvidence order
  let time := load.effectiveSourceTime
  let fingerprint := orderFingerprint B order
  if tables.order.any fun row => decide (time < row.sourceFetchedAt) then
    return (tables, { lineCount := 0, retiredLineCount := 0, staleOrderCount := 1 })
  refuse (tables.order.any fun row =>
      decide (row.sourceFetchedAt = time) && decide (row.payloadFingerprint ≠ fingerprint))
    (guardError ("Purchase order " ++ order.orderNo ++ " changed at an identical source timestamp")
      "PURCHASE_ORDER_SAME_TIME_PAYLOAD_DRIFT")
  let retired := tables.lines.countP fun row => row.isCurrent && decide (row.sourceFetchedAt ≤ time)
  let lines ← (keyedLines B (fun _ => 0) order.lines).foldlM (insertLine B load)
    (tables.lines.map (PurchaseOrderLineRow.retire time))
  return ({ order := some (upsertOrder tables.order ⟨fingerprint, time⟩), lines },
    { lineCount := order.lines.length, retiredLineCount := retired, staleOrderCount := 0 })

/-- A load as a step: one that fails is rolled back. -/
def orderStep (tables : OrderTables) (load : OrderLoad) : OrderTables :=
  match loadOrder B tables load with
  | .ok (after, _) => after
  | .error _ => tables

def OrderTables.currentLines (tables : OrderTables) : List PurchaseOrderLine :=
  (tables.lines.filter (·.isCurrent)).map (·.line)

end FullManagedBi.Warehouse
