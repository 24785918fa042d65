import FullManagedBi.Lib.Json
import FullManagedBi.Lib.Paging
import FullManagedBi.WebapiSession.CookieJar

/-!
# The worklists of the dashboard and their order

The comparators of `src/server/procurement-query.mjs`, `fulfilment-query.mjs`, `inventory-query.mjs` and
`shipping-orders-query.mjs`, and the pages of the rows they sort. Each comparator is a chain of keys above a tie-break by
texts. An unknown instant or quantity stands as an infinity or as `-1`, and the files do not guard the difference of two
such numbers in one way: each guard is a `SortStep` of its own. A row is what the materialized file holds, and `matches`
the filter of an accepted query.
-/

namespace FullManagedBi.WorklistQuery

open Lib
open WebapiSession (JsFloat)

/-- The builtins: the collation of `zh-CN`, that of the process, `new Date(value).valueOf()` where it is finite, and the
value of a number. -/
structure WorklistBuiltins where
  zhCN : LocaleOrder
  defaultLocale : LocaleOrder
  case : CaseBuiltins
  dateValue : Json → Option Int
  numberValue : JsNumber → Rat

/-! ## Numbers -/

/-- The difference of two numbers. Rounding leaves its sign as it is, and makes no difference zero. -/
def difference : JsFloat → JsFloat → JsFloat
  | .nan, _ | _, .nan => .nan
  | .finite a, .finite b => .finite (a - b)
  | .finite _, .infinity positive => .infinity !positive
  | .infinity positive, .finite _ => .infinity positive
  | .infinity a, .infinity b => if a = b then .nan else .infinity a

/-- What `sort` makes of a number that a comparator returns. `NaN` is taken for zero. -/
def sortResult : JsFloat → Ordering
  | .nan => .eq
  | .infinity positive => if positive then .gt else .lt
  | .finite a => compare a 0

def isFinite : JsFloat → Bool
  | .finite _ => true
  | _ => false

/-- `left < right`. -/
def lessThan : JsFloat → JsFloat → Bool
  | .finite a, .finite b => a < b
  | .finite _, .infinity positive => positive
  | .infinity positive, .finite _ => !positive
  | .infinity a, .infinity b => !a && b
  | _, _ => false

/-! ## Keys -/

/-- `SEVERITY_RANK[text]`, of the texts it lists. -/
def listedRank (severity : String) : Option Rat :=
  if severity = "critical" then some 4
  else if severity = "high" then some 3
  else if severity = "medium" then some 2
  else if severity = "low" then some 1
  else none

/-- The properties that every object has and whose names have no capital letter. -/
def inheritedNames : List String := ["constructor", "__proto__"]

/-- What rows are compared by. -/
inductive SortKey where
  | instant (field : String) (descending : Bool)
  | rankDesc (field : String)
  | rankAsc (field : String)
  | severity
  deriving DecidableEq

variable (B : WorklistBuiltins)

/-- `isDecimal(value) ? value : …`. -/
def decimal (value : Option Json) : Option Rat :=
  match value with
  | some (.num n) => if 0 ≤ B.numberValue n then some (B.numberValue n) else none
  | _ => none

/-- The instant of `comparableInstant` and of `time`, where it is known. -/
def comparableInstant (value : Option Json) : Option Rat :=
  match value with
  | some v => if truthy value then (B.dateValue v).map fun ms => (ms : Rat) else none
  | none => none

/-- `String(row.severity ?? '').toLowerCase()`. -/
def severityText (row : Json) : String := B.case.toLowerCase (textOrEmpty (row.field? "severity"))

def SortKey.known : SortKey → Json → Option Rat
  | .instant field _, row => comparableInstant B (row.field? field)
  | .rankDesc field, row | .rankAsc field, row => decimal B (row.field? field)
  | .severity, row => listedRank (severityText B row)

/-- What stands for a key of which a row says nothing. A name that is inherited finds a function or an object, which is no
number. -/
def SortKey.fallback : SortKey → Json → JsFloat
  | .instant _ descending, _ => .infinity !descending
  | .rankDesc _, _ => .finite (-1)
  | .rankAsc _, _ => .infinity true
  | .severity, row => if severityText B row ∈ inheritedNames then .nan else .finite 0

def SortKey.descending : SortKey → Bool
  | .instant _ descending => descending
  | .rankDesc _ | .severity => true
  | .rankAsc _ => false

def SortKey.number (key : SortKey) (row : Json) : JsFloat :=
  match key.known B row with
  | some value => .finite value
  | none => key.fallback B row

/-- `left - right`, and `right - left` where the order descends. -/
def SortKey.delta (key : SortKey) (left right : Json) : JsFloat :=
  if key.descending then difference (key.number B right) (key.number B left)
  else difference (key.number B left) (key.number B right)

/-! ## Comparators -/

/-- How a comparator goes by a key: `if (delta !== 0) return delta`, the explicit comparison of a known instant with an
unknown one behind it in `fulfilment-query.mjs`, and that of `USABLE_ASC`. -/
inductive SortStep where
  | unlessZero (key : SortKey)
  | knownFirst (field : String)
  | usableAsc (field : String)
  deriving DecidableEq

def SortStep.key : SortStep → SortKey
  | .unlessZero key => key
  | .knownFirst field => .instant field false
  | .usableAsc field => .rankAsc field

/-- The comparison by a step; `rest` is what the comparator goes on to. -/
def SortStep.compare (step : SortStep) (left right : Json) (rest : Ordering) : Ordering :=
  match step with
  | .unlessZero key =>
    let delta := key.delta B left right
    if delta ≠ .finite 0 then sortResult delta else rest
  | .knownFirst field =>
    let delta := (SortKey.instant field false).delta B left right
    let leftKnown := (comparableInstant B (left.field? field)).isSome
    let rightKnown := (comparableInstant B (right.field? field)).isSome
    if delta ≠ .finite 0 ∧ isFinite delta then sortResult delta
    else if leftKnown ≠ rightKnown then if leftKnown then .lt else .gt
    else rest
  | .usableAsc field =>
    let leftValue := (SortKey.rankAsc field).number B left
    let rightValue := (SortKey.rankAsc field).number B right
    if isFinite leftValue ∨ isFinite rightValue then
      if leftValue ≠ rightValue then if lessThan leftValue rightValue then .lt else .gt else rest
    else rest

/-- `compareText(left[field], right[field])` of each field, as far as they tie. -/
def tieBreak : List String → Json → Json → Ordering
  | [], _, _ => .eq
  | field :: fields, left, right =>
    (B.zhCN.localeCompare (textOrEmpty (left.field? field)) (textOrEmpty (right.field? field))).then
      (tieBreak fields left right)

def compareSteps : List SortStep → List String → Json → Json → Ordering
  | [], fields, left, right => tieBreak B fields left right
  | step :: steps, fields, left, right => step.compare B left right (compareSteps steps fields left right)

/-- `String(value)`. -/
def stringOf : Option Json → String
  | none => "undefined"
  | some value => value.text

/-- The tie-break of `compareOrders`. -/
def orderTies (left right : Json) : Ordering :=
  let texts (field : String) := B.defaultLocale.localeCompare (stringOf (left.field? field)) (stringOf (right.field? field))
  (texts "storeCode").then (texts "orderNo")

inductive ProcurementSort where
  | priority
  | latest
  | deliveryDeadline
  deriving DecidableEq

inductive FulfilmentSort where
  | priority
  | latest
  | expectedReceipt
  deriving DecidableEq

inductive InventorySort where
  | priority
  | shortageDesc
  | usableAsc
  | freshnessDesc
  deriving DecidableEq

inductive AdviceSort where
  | priority
  | urgentDesc
  | adviceDesc
  | dailySalesDesc
  | freshnessDesc
  deriving DecidableEq

inductive ShippingSort where
  | latest
  | orderedDesc
  | deliveryDeadline
  deriving DecidableEq

def latestKey : SortKey := .instant "latestSourceFetchedAt" true

def deadlineKey : SortKey := .instant "requestedDeliveryAt" false

/-- `compareAttention` of `procurement-query.mjs`. -/
def ProcurementSort.steps : ProcurementSort → List SortStep
  | .latest => [.unlessZero latestKey]
  | .deliveryDeadline => [.unlessZero deadlineKey]
  | .priority => [.unlessZero .severity, .unlessZero deadlineKey]

/-- `compareAttention` of `fulfilment-query.mjs`. -/
def FulfilmentSort.steps : FulfilmentSort → List SortStep
  | .latest => [.unlessZero latestKey]
  | .expectedReceipt => [.knownFirst "expectedReceiptAt"]
  | .priority => [.unlessZero .severity, .knownFirst "takenAt"]

/-- `compareInventory`. -/
def InventorySort.steps : InventorySort → List SortStep
  | .shortageDesc => [.unlessZero (.rankDesc "shortageQuantity")]
  | .usableAsc => [.usableAsc "usableInventory"]
  | .freshnessDesc => [.unlessZero latestKey]
  | .priority => [.unlessZero .severity, .unlessZero (.rankDesc "shortageQuantity")]

/-- `compareAdvice`. -/
def AdviceSort.steps : AdviceSort → List SortStep
  | .urgentDesc => [.unlessZero (.rankDesc "plannedUrgentQuantity")]
  | .adviceDesc => [.unlessZero (.rankDesc "advisedOrderQuantity")]
  | .dailySalesDesc => [.unlessZero (.rankDesc "predictedDailySales")]
  | .freshnessDesc => [.unlessZero latestKey]
  | .priority =>
    [.unlessZero .severity, .unlessZero (.rankDesc "plannedUrgentQuantity"),
      .unlessZero (.rankDesc "advisedOrderQuantity")]

def ShippingSort.key : ShippingSort → SortKey
  | .deliveryDeadline => deadlineKey
  | .orderedDesc => .instant "createdAt" true
  | .latest => latestKey

/-- `compareOrders`. -/
def compareOrders (sort : ShippingSort) (left right : Json) : Ordering :=
  let compared := sort.key.delta B left right
  if isFinite compared ∧ compared ≠ .finite 0 then sortResult compared else orderTies B left right

/-- A list of the dashboard, with its sort. -/
inductive Worklist where
  | procurement (sort : ProcurementSort)
  | fulfilment (sort : FulfilmentSort)
  | inventory (sort : InventorySort)
  | advice (sort : AdviceSort)
  | shipping (sort : ShippingSort)
  deriving DecidableEq

/-- The keys of a comparator that is a chain, and the texts of its tie-break. -/
def Worklist.steps : Worklist → List SortStep
  | .procurement sort => sort.steps
  | .fulfilment sort => sort.steps
  | .inventory sort => sort.steps
  | .advice sort => sort.steps
  | .shipping _ => []

def Worklist.fields : Worklist → List String
  | .procurement _ => ["storeCode", "orderNo", "attentionCode"]
  | .fulfilment _ => ["storeCode", "deliveryCode", "attentionCode"]
  | .inventory _ | .advice _ => ["storeCode", "skuCode", "inventoryTypeCode"]
  | .shipping _ => ["storeCode", "orderNo"]

def Worklist.compare (list : Worklist) (left right : Json) : Ordering :=
  match list with
  | .shipping sort => compareOrders B sort left right
  | _ => compareSteps B list.steps list.fields left right

/-! ## Pages -/

/-- A page size that a query accepts; each query has its own set of them. -/
structure PageSize where
  size : Nat
  positive : 0 < size

def maxPage : Nat := 10_000

def Worklist.pageParam : Worklist → String
  | .inventory _ => "inventoryPage"
  | .advice _ => "advicePage"
  | _ => "page"

variable (E : ArraySort Json) (list : Worklist) (matches_ : Json → Bool) (pageSize : PageSize) (rows : List Json)

def queryPage (page : Nat) : Except JsError (List Json) := do
  refuse (page = 0) { code := some "QUERY_PARAMETER_INVALID", message := s!"参数 {list.pageParam} 必须是整数" }
  refuse (maxPage < page) { code := some "QUERY_PARAMETER_OUT_OF_RANGE", message := s!"参数 {list.pageParam} 超出范围" }
  let matched := E.sort (list.compare B) (rows.filter matches_)
  return pageOf pageSize.size page matched

/-- What the pages `1` to `pageCount` of a query make up. -/
def queryPages : Except JsError (List Json) := do
  let pages := List.range' 1 (pageCount pageSize.size (E.sort (list.compare B) (rows.filter matches_)).length)
  let read ← pages.mapM (queryPage B E list matches_ pageSize rows)
  return read.flatten

end FullManagedBi.WorklistQuery
