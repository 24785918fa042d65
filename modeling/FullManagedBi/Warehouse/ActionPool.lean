import FullManagedBi.Lib.Grouping
import FullManagedBi.Lib.Js
import FullManagedBi.Lib.RoundRobin
import FullManagedBi.Warehouse.GoodsLookup

/-!
# The action pool

`buildReadOnlyActionPool` of `src/warehouse/operations-dashboard.mjs`. The rows are those that
`readFullManagedSupplyDashboard` and `readSupplyCoverage` return, with the fields that the pool reads: required texts are
there, and a number that is no safe integer is as good as missing.
-/

namespace FullManagedBi.ActionPool

open Lib
open GoodsLookup (StoreCode)

/-! ## Rows -/

/-- The severities that `dashboardSeverity` accepts. -/
inductive Severity where
  | critical
  | high
  | medium
  | low
  deriving DecidableEq

/-- `ACTION_SEVERITY_WEIGHT`. -/
def Severity.weight : Severity → Nat
  | .critical => 4
  | .high => 3
  | .medium => 2
  | .low => 1

inductive ActionType where
  | purchaseOrderOverdue
  | deliveryOverdue
  | skuShortageReview
  | skuUrgentSupplyReview
  | skuStockWarningReview
  | skuRestockAdviceReview
  | supplySyncFailureReview
  | supplyCoverageReview
  | shortageReview
  | inventoryReconciliation
  | stockWarningReview
  | restockAdviceReview
  | urgentSupplyReview
  | webhookDeadLetter
  | authorizationGateReview
  deriving DecidableEq

def ActionType.text : ActionType → String
  | .purchaseOrderOverdue => "PURCHASE_ORDER_OVERDUE"
  | .deliveryOverdue => "DELIVERY_OVERDUE"
  | .skuShortageReview => "SKU_SHORTAGE_REVIEW"
  | .skuUrgentSupplyReview => "SKU_URGENT_SUPPLY_REVIEW"
  | .skuStockWarningReview => "SKU_STOCK_WARNING_REVIEW"
  | .skuRestockAdviceReview => "SKU_RESTOCK_ADVICE_REVIEW"
  | .supplySyncFailureReview => "SUPPLY_SYNC_FAILURE_REVIEW"
  | .supplyCoverageReview => "SUPPLY_COVERAGE_REVIEW"
  | .shortageReview => "SHORTAGE_REVIEW"
  | .inventoryReconciliation => "INVENTORY_RECONCILIATION"
  | .stockWarningReview => "STOCK_WARNING_REVIEW"
  | .restockAdviceReview => "RESTOCK_ADVICE_REVIEW"
  | .urgentSupplyReview => "URGENT_SUPPLY_REVIEW"
  | .webhookDeadLetter => "WEBHOOK_DEAD_LETTER"
  | .authorizationGateReview => "AUTHORIZATION_GATE_REVIEW"

/-- A row of `purchaseOrderAttention` or `deliveryAttention`, by its `orderNo` or its `deliveryCode`. -/
structure AttentionRow where
  storeCode : StoreCode
  code : String
  attentionCode : Option String := none
  attentionLabel : Option String := none
  severity : Option Severity := none
  latestSourceFetchedAt : Option String := none

/-- A row of `inventoryRisks`. -/
structure InventoryRisk where
  storeCode : StoreCode
  skuCode : String
  inventoryTypeCode : String
  shortageQuantity : Option Int := none
  severity : Option Severity := none
  latestSourceFetchedAt : Option String := none

/-- A row of `stockAdviceRisks`. -/
structure StockAdviceRisk where
  storeCode : StoreCode
  skuCode : String
  plannedUrgentQuantity : Option Int := none
  stockWarningIsWarning : Option Bool := none
  advisedOrderQuantity : Option Int := none
  severity : Option Severity := none
  latestSourceFetchedAt : Option String := none

structure DomainCoverage where
  failedStoreCodes : List StoreCode := []
  missingStoreCodes : List StoreCode := []
  latestFetchedAt : Option String := none

/-- A row of `inventory`. -/
structure InventoryRow where
  storeCode : StoreCode
  inventoryTypeCode : String
  shortageSkuCount : Option Int := none
  shortageQuantity : Option Int := none
  reconciliationMismatchCount : Option Int := none
  latestSourceFetchedAt : Option String := none

/-- A row of `stockAdvice`. -/
structure StockAdviceRow where
  storeCode : StoreCode
  warningSkuCount : Option Int := none
  advisedSkuCount : Option Int := none
  advisedOrderQuantity : Option Int := none
  plannedUrgentQuantity : Option Int := none
  latestSourceFetchedAt : Option String := none

/-- `supply`. A list that is missing is empty. -/
structure Supply where
  purchaseOrderAttention : List AttentionRow := []
  deliveryAttention : List AttentionRow := []
  inventoryRisks : List InventoryRisk := []
  stockAdviceRisks : List StockAdviceRisk := []
  domains : List (String × DomainCoverage) := []
  inventory : List InventoryRow := []
  stockAdvice : List StockAdviceRow := []

/-- `platform.queue`. -/
structure PlatformQueue where
  deadLetter : Option Int := none
  blockedStores : Option Int := none
  lastProcessedAt : Option String := none
  lastReceivedAt : Option String := none

/-! ## Candidates -/

structure Candidate where
  candidateKey : String
  storeCode : Option StoreCode
  type : ActionType
  severity : Severity
  title : String
  reason : String
  entityCode : Option String
  evidenceAt : Option String
  deriving DecidableEq

/-- `candidateKey`. The hash is the text in `base64url`. -/
def candidateKey (sha256 : String → String) (parts : List (Option String)) : String :=
  String.ofList ((sha256 (String.intercalate "\x1f" (parts.map (·.getD "")))).toList.take 24)

variable (sha256 : String → String)

def candidate (storeCode : Option StoreCode) (type : ActionType) (severity : Severity) (title reason : String)
    (entityCode evidenceAt : Option String) : Candidate where
  candidateKey :=
    candidateKey sha256 [storeCode.map (·.text), some type.text, entityCode, evidenceAt, some reason]
  storeCode := storeCode
  type := type
  severity := severity
  title := title
  reason := reason
  entityCode := entityCode
  evidenceAt := evidenceAt

/-- `Number.isSafeInteger(value) && value > 0`: the number where it is. -/
def positive (value : Option Int) : Option Int := value.filter fun n => 0 < n ∧ n ≤ maxSafeInteger

/-- A number that is returned, or not in full. -/
def returnedText (value : Option Int) : String :=
  match value.filter fun n => n.natAbs ≤ maxSafeInteger with
  | some n => "为 " ++ toString n
  | none => "尚未完整返回"

/-- `String(row.attentionCode ?? '').endsWith('_OVERDUE')`. -/
def AttentionRow.overdue (row : AttentionRow) : Bool :=
  "_OVERDUE".toList.isSuffixOf (row.attentionCode.getD "").toList

/-- A row whose plan has not been kept. -/
def overdueCandidates (type : ActionType) (title fallback : String) (row : AttentionRow) : List Candidate :=
  if row.overdue then
    [candidate sha256 (some row.storeCode) type (row.severity.getD .critical) title
      (row.code ++ "：" ++ row.attentionLabel.getD fallback ++ "。") (some row.code) row.latestSourceFetchedAt]
  else []

/-- A row of `supply.purchaseOrderAttention`. -/
def purchaseOrderCandidates : AttentionRow → List Candidate :=
  overdueCandidates sha256 .purchaseOrderOverdue "处理逾期采购单" "采购单已超过计划节点"

/-- A row of `supply.deliveryAttention`. -/
def deliveryCandidates : AttentionRow → List Candidate :=
  overdueCandidates sha256 .deliveryOverdue "处理逾期送货单" "送货单已超过计划节点"

/-- A row of `supply.inventoryRisks`. -/
def inventoryRiskCandidates (row : InventoryRisk) : List Candidate :=
  match positive row.shortageQuantity with
  | none => []
  | some quantity =>
    [candidate sha256 (some row.storeCode) .skuShortageReview (row.severity.getD .critical) "处理SKU缺货"
      (row.skuCode ++ "（" ++ row.inventoryTypeCode ++ "）平台缺货数量为 " ++ toString quantity ++ "。")
      (some (row.inventoryTypeCode ++ ":" ++ row.skuCode)) row.latestSourceFetchedAt]

/-- A row of `supply.stockAdviceRisks`. -/
def stockAdviceRiskCandidates (row : StockAdviceRisk) : List Candidate :=
  let review (type : ActionType) (fallback : Severity) (title reason : String) :=
    [candidate sha256 (some row.storeCode) type (row.severity.getD fallback) title reason (some row.skuCode)
      row.latestSourceFetchedAt]
  match positive row.plannedUrgentQuantity, row.stockWarningIsWarning, positive row.advisedOrderQuantity with
  | some quantity, _, _ =>
    review .skuUrgentSupplyReview .critical "处理SKU急采"
      (row.skuCode ++ " 的平台计划急采数量为 " ++ toString quantity ++ "。")
  | none, some true, _ => review .skuStockWarningReview .high "复核SKU库存预警" (row.skuCode ++ " 返回平台库存预警。")
  | none, _, some quantity =>
    review .skuRestockAdviceReview .medium "复核SKU建议备货"
      (row.skuCode ++ " 的平台建议备货数量为 " ++ toString quantity ++ "。")
  | none, _, none => []

/-- A domain of `supply.coverage.domains`. -/
def coverageCandidates (entry : String × DomainCoverage) : List Candidate :=
  let (domain, coverage) := entry
  coverage.failedStoreCodes.map (fun storeCode =>
    candidate sha256 (some storeCode) .supplySyncFailureReview .high "复核供应链同步失败"
      (domain ++ " 最新只读批次失败或仅部分完成。") (some domain) coverage.latestFetchedAt) ++
  coverage.missingStoreCodes.map fun storeCode =>
    candidate sha256 (some storeCode) .supplyCoverageReview .medium "补齐供应链数据覆盖"
      (domain ++ " 尚无该店成功或失败批次证据，不能按零展示。") (some domain) coverage.latestFetchedAt

/-- A row of `supply.inventory`. -/
def inventoryCandidates (row : InventoryRow) : List Candidate :=
  ((positive row.shortageSkuCount).toList.map fun count =>
    candidate sha256 (some row.storeCode) .shortageReview .high "复核缺货商品"
      (toString count ++ " 个SKU有平台缺货观测，缺货数量" ++ returnedText row.shortageQuantity ++ "。")
      (some row.inventoryTypeCode) row.latestSourceFetchedAt) ++
  (positive row.reconciliationMismatchCount).toList.map fun count =>
    candidate sha256 (some row.storeCode) .inventoryReconciliation .high "核对库存分项"
      (toString count ++ " 个库存快照的仓库分项与汇总不一致。") (some row.inventoryTypeCode) row.latestSourceFetchedAt

/-- A row of `supply.stockAdvice`. -/
def stockAdviceCandidates (row : StockAdviceRow) : List Candidate :=
  let review (type : ActionType) (severity : Severity) (title reason : String) :=
    candidate sha256 (some row.storeCode) type severity title reason none row.latestSourceFetchedAt
  ((positive row.warningSkuCount).toList.map fun count =>
    review .stockWarningReview .high "复核平台库存预警" (toString count ++ " 个SKU返回库存预警状态。")) ++
  ((positive row.advisedSkuCount).toList.map fun count =>
    review .restockAdviceReview .medium "复核平台建议备货"
      (toString count ++ " 个SKU有建议备货量，建议总量" ++ returnedText row.advisedOrderQuantity ++ "。")) ++
  (positive row.plannedUrgentQuantity).toList.map fun quantity =>
    review .urgentSupplyReview .medium "复核急采计划" ("平台计划急采数量为 " ++ toString quantity ++ "。")

def platformCandidates (queue : PlatformQueue) : List Candidate :=
  let review (type : ActionType) (title reason : String) :=
    candidate sha256 none type .high title reason none (queue.lastProcessedAt <|> queue.lastReceivedAt)
  ((positive queue.deadLetter).toList.map fun count =>
    review .webhookDeadLetter "处理Webhook死信" (toString count ++ " 个Webhook任务进入死信队列。")) ++
  (positive queue.blockedStores).toList.map fun count =>
    review .authorizationGateReview "复核授权变化封闸" (toString count ++ " 家店因授权变化处于封闸状态。")

/-- The candidates of `buildReadOnlyActionPool`, in the order of their loops. -/
def actionCandidates (supply : Supply) (queue : Option PlatformQueue) : List Candidate :=
  supply.purchaseOrderAttention.flatMap (purchaseOrderCandidates sha256) ++
  supply.deliveryAttention.flatMap (deliveryCandidates sha256) ++
  supply.inventoryRisks.flatMap (inventoryRiskCandidates sha256) ++
  supply.stockAdviceRisks.flatMap (stockAdviceRiskCandidates sha256) ++
  supply.domains.flatMap (coverageCandidates sha256) ++
  supply.inventory.flatMap (inventoryCandidates sha256) ++
  supply.stockAdvice.flatMap (stockAdviceCandidates sha256) ++
  queue.toList.flatMap (platformCandidates sha256)

/-! ## Order -/

def Candidate.weight (c : Candidate) : Nat := c.severity.weight

/-- `[...candidates].sort(...)`, which is stable. -/
def severityOrdered (candidates : List Candidate) : List Candidate :=
  candidates.insertionSort fun left right => right.weight ≤ left.weight

def Candidate.key (c : Candidate) : String :=
  String.intercalate "\x1f" [(c.storeCode.map (·.text)).getD "", c.type.text, c.entityCode.getD ""]

def deduplicated (candidates : List Candidate) : List Candidate := unseen Candidate.key [] (severityOrdered candidates)

/-- `severityGroups`: the candidates of a weight by their types. -/
abbrev SeverityGroups := OrderedMap Nat (OrderedMap ActionType (List Candidate))

def pushCandidate (groups : SeverityGroups) (item : Candidate) : SeverityGroups :=
  groups.set item.weight (pushRow Candidate.type ((groups.get? item.weight).getD .empty) item)

def fairlyOrderActionCandidates (candidates : List Candidate) : List Candidate :=
  let severityGroups := (deduplicated candidates).foldl pushCandidate .empty
  let weights := severityGroups.keys.insertionSort fun left right => right ≤ left
  weights.flatMap fun weight => roundRobin ((severityGroups.get? weight).getD .empty).values

structure Pool where
  mode : String := "observe_only"
  writeEnabled : Bool := false
  candidates : List Candidate
  total : Nat
  returned : Nat
  truncated : Bool

def buildReadOnlyActionPool (supply : Supply) (queue : Option PlatformQueue) : Pool :=
  let fairlyOrdered := fairlyOrderActionCandidates (actionCandidates sha256 supply queue)
  let returnedCandidates := fairlyOrdered.take 100
  { candidates := returnedCandidates
    total := fairlyOrdered.length
    returned := returnedCandidates.length
    truncated := decide (returnedCandidates.length < fairlyOrdered.length) }

end FullManagedBi.ActionPool
