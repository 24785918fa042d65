import FullManagedBi.Lib.Run
import FullManagedBi.Lib.Js

/-!
# The store-daily row and its upsert

`fact.full_home_store_daily` holds one row for each store and business date. Four sources write it:
the settled daily index, the hourly realtime curve, the trade overview and the brand-summed analysis.
`upsertStoreDaily` (`src/webapi-history/repository.mjs`) validates every row of a call first
(`storeDailyValues`) and then runs one `INSERT ... ON CONFLICT DO UPDATE` for each, whose `SET` list
decides column by column what the incoming row may replace. `upsertRow` is that statement.

The precedence the statement's comments promise: the daily index is the settled operating truth, and
realtime is authoritative only until it exists. `settled_precedence_iff` says exactly which upserts
keep it. The `sales_quantity` case has a branch for the index, one for realtime before the index, and
one for the analysis; a realtime row after the index, and any trade row, reach the `ELSE`, which takes
the incoming quantity.
-/

namespace FullManagedBi.WebapiHistory

open Lib

/-- A business date, as a day number: ISO texts of four-digit years compare as their days do. -/
abbrev BusinessDate := Int

/-- An instant in milliseconds, as `toISOString` writes it. -/
abbrev Instant := Int

/-- `FULL_MANAGED_STORE_CODES` of `src/config/full-managed-stores.mjs`. -/
def fullManagedStoreCodes : List String :=
  ["CX4412", "XL2801", "QY8886", "DX0571", "NM7397", "LQ7173", "TS8263", "DL5477", "FY4021",
    "GJ8989", "QH8028", "JY8060", "ZL3133", "MZ2406", "YJ8177", "RH0099", "WY9025", "RH2848",
    "CX2816", "YJ4042", "NM4977", "NM8787", "NM8831", "NM7418", "DX2420"]

/-- `HOME_HISTORY_CONTRACT_VERSION`. -/
def homeHistoryContractVersion : Nat := 4

/-- The source codes `sourceCodes` allows. -/
inductive SourceCode where
  | webapiIndex
  | webapiRealtime
  | webapiTrade
  | webapiAnalyse
  deriving DecidableEq

def SourceCode.ofText? : String → Option SourceCode
  | "WEBAPI_INDEX" => some .webapiIndex
  | "WEBAPI_REALTIME" => some .webapiRealtime
  | "WEBAPI_TRADE" => some .webapiTrade
  | "WEBAPI_ANALYSE" => some .webapiAnalyse
  | _ => none

/-- `exposure_basis`. -/
inductive ExposureBasis where
  | storeDedup
  | brandSummed
  | unavailable
  deriving DecidableEq

/-- `quality_status`, without the `REJECTED` this loader never writes. -/
inductive QualityStatus where
  | complete
  | legalZero
  | partialRow
  deriving DecidableEq

/-! ## Validation -/

/-- One row as a parser hands it to `upsertStoreDaily`. -/
structure StoreDailyInput where
  storeCode : Option String
  businessDate : JsField BusinessDate
  currency : Option String := none
  dealAmount : JsField Rat := .absent
  netDealAmount : JsField Rat := .absent
  salesQuantity : JsField Rat := .absent
  buyerCount : JsField Rat := .absent
  goodsDetailVisitors : JsField Rat := .absent
  exposureUsers : JsField Rat := .absent
  exposureBasis : Option String := none
  stockingOrderCount : JsField Rat := .absent
  urgentPurchaseOrderCount : JsField Rat := .absent
  paymentOrderCount : JsField Rat := .absent
  newCustomerSalesQuantity : JsField Rat := .absent
  newCustomerPaymentOrderCount : JsField Rat := .absent
  sourceUpdatedAt : JsField Instant := .absent
  observedAt : JsField Instant
  /-- `new Date()`, read where the row carries no `observedAt`. -/
  now : Instant
  /-- `row.sourceCodes ?? row.sourceCode`, as a list. -/
  sourceCodes : List (Option String)

/-- The row of `fact.full_home_store_daily`, with its key; `created_at` and `updated_at` are left out. -/
structure StoreDailyRow where
  storeCode : String
  businessDate : BusinessDate
  currency : Option String
  dealAmount : Option Rat
  netDealAmount : Option Rat
  salesQuantity : Option Nat
  buyerCount : Option Nat
  goodsDetailVisitors : Option Nat
  exposureUsers : Option Nat
  exposureBasis : ExposureBasis
  stockingOrderCount : Option Nat
  urgentPurchaseOrderCount : Option Nat
  paymentOrderCount : Option Nat
  newCustomerSalesQuantity : Option Nat
  newCustomerPaymentOrderCount : Option Nat
  sourceUpdatedAt : Option Instant
  observedAt : Instant
  sourceContractVersion : Nat
  sourceCodes : List SourceCode
  qualityStatus : QualityStatus
  deriving DecidableEq

def StoreDailyRow.key (r : StoreDailyRow) : String × BusinessDate := (r.storeCode, r.businessDate)

/-- `nullableNumber` without `integer`. -/
def nullableNumber (value : JsField Rat) (location : String) : Except String (Option Rat) :=
  match value with
  | .absent => .ok none
  | .invalid => .error s!"{location} is invalid"
  | .value q => if q < 0 then .error s!"{location} is invalid" else .ok (some q)

/-- `nullableNumber` with `integer: true`. -/
def nullableCount (value : JsField Rat) (location : String) : Except String (Option Nat) :=
  match value with
  | .absent => .ok none
  | .invalid => .error s!"{location} is invalid"
  | .value q =>
    match safeCount? q with
    | some n => .ok (some n)
    | none => .error s!"{location} is invalid"

def instant (value : JsField Instant) (location : String) : Except String Instant :=
  match value with
  | .value at_ => .ok at_
  | _ => .error s!"{location} is invalid"

def nullableInstant (value : JsField Instant) (location : String) : Except String (Option Instant) :=
  match value with
  | .absent => .ok none
  | .value at_ => .ok (some at_)
  | .invalid => .error s!"{location} is invalid"

def date (value : JsField BusinessDate) (location : String) : Except String BusinessDate :=
  match value with
  | .value day => .ok day
  | _ => .error s!"{location} is invalid"

/-- `text` without `nullable`. -/
def text (js : TextBuiltins) (value : Option String) (location : String) (maximum : Nat) :
    Except String String :=
  match value with
  | none => .error s!"{location} is required"
  | some raw =>
    if raw = "" then .error s!"{location} is required"
    else
      let normalized := jsTrim (js.normalizeNfkc raw)
      if normalized = "" ∨ maximum < jsLength normalized then .error s!"{location} is invalid"
      else .ok normalized

def normalizeFullManagedStoreCode (js : TextBuiltins) (value : String) : Option String :=
  let storeCode := js.toUpperCase (jsTrim value)
  if storeCode ∈ fullManagedStoreCodes then some storeCode else none

def storeCode (js : TextBuiltins) (value : Option String) : Except String String := do
  let normalized := js.toUpperCase (← text js value "storeCode" 24)
  match normalizeFullManagedStoreCode js normalized with
  | some canonical => .ok canonical
  | none => .error "storeCode is outside the configured roster"

/-- `sourceCodes`: trimmed, without blanks and repetitions, and all in the allowed set. -/
def sourceCodes (js : TextBuiltins) (values : List (Option String)) :
    Except String (List SourceCode) :=
  let normalized :=
    ((values.map fun item => jsTrim (item.getD "")).filter (· ≠ "")).eraseDups
  match normalized.mapM SourceCode.ofText? with
  | some codes =>
    if 1 ≤ codes.length ∧ codes.length ≤ 8 then .ok codes else .error "sourceCodes are invalid"
  | none => .error "sourceCodes are invalid"

/-- The basis of an exposure count: unavailable without one, `STORE_DEDUP` unless the row names
another. -/
def exposureBasisFor (exposure : Option Nat) (basis : Option String) : ExposureBasis :=
  match exposure with
  | none => .unavailable
  | some _ => if basis = some "BRAND_SUMMED" then .brandSummed else .storeDedup

def qualityFor (core : List (Option Rat)) : QualityStatus :=
  if core.all (·.isSome) then
    if core.any (· ≠ some 0) then .complete else .legalZero
  else .partialRow

/-- `storeDailyValues`: the exposure count is checked first, then the columns in order. -/
def storeDailyValues (js : TextBuiltins) (row : StoreDailyInput) : Except String StoreDailyRow := do
  let exposure ← nullableCount row.exposureUsers "exposureUsers"
  let store ← storeCode js row.storeCode
  let businessDate ← date row.businessDate "businessDate"
  let currency ← match row.currency with
    | none => .ok none
    | some code => (text js (some code) "currency" 3).map fun c => some (js.toUpperCase c)
  let dealAmount ← nullableNumber row.dealAmount "dealAmount"
  let netDealAmount ← nullableNumber row.netDealAmount "netDealAmount"
  let salesQuantity ← nullableCount row.salesQuantity "salesQuantity"
  let buyerCount ← nullableCount row.buyerCount "buyerCount"
  let goodsDetailVisitors ← nullableCount row.goodsDetailVisitors "goodsDetailVisitors"
  let stockingOrderCount ← nullableCount row.stockingOrderCount "stockingOrderCount"
  let urgentPurchaseOrderCount ←
    nullableCount row.urgentPurchaseOrderCount "urgentPurchaseOrderCount"
  let paymentOrderCount ← nullableCount row.paymentOrderCount "paymentOrderCount"
  let newCustomerSalesQuantity ←
    nullableCount row.newCustomerSalesQuantity "newCustomerSalesQuantity"
  let newCustomerPaymentOrderCount ←
    nullableCount row.newCustomerPaymentOrderCount "newCustomerPaymentOrderCount"
  let sourceUpdatedAt ← nullableInstant row.sourceUpdatedAt "sourceUpdatedAt"
  let observedAt ← match row.observedAt with
    | .absent => .ok row.now
    | given => instant given "observedAt"
  let codes ← sourceCodes js row.sourceCodes
  let asNumber (n : Option Nat) : Option Rat := n.map fun k => (k : Rat)
  return {
    storeCode := store, businessDate, currency, dealAmount, netDealAmount, salesQuantity,
    buyerCount, goodsDetailVisitors, exposureUsers := exposure,
    exposureBasis := exposureBasisFor exposure row.exposureBasis,
    stockingOrderCount, urgentPurchaseOrderCount, paymentOrderCount, newCustomerSalesQuantity,
    newCustomerPaymentOrderCount, sourceUpdatedAt, observedAt,
    sourceContractVersion := homeHistoryContractVersion, sourceCodes := codes,
    qualityStatus := qualityFor [dealAmount, netDealAmount, asNumber salesQuantity,
      asNumber buyerCount, asNumber goodsDetailVisitors, asNumber stockingOrderCount,
      asNumber urgentPurchaseOrderCount] }

/-! ## The upsert statement -/

/-- `COALESCE(EXCLUDED.column, table.column)`. -/
def coalesce {α : Type} (incoming stored : Option α) : Option α := incoming.or stored

/-- `GREATEST` of two nullable instants: `NULL` only when both are. -/
def greatest (a b : Option Instant) : Option Instant :=
  match a, b with
  | some x, some y => some (max x y)
  | some x, none => some x
  | none, y => y

/-- `SELECT DISTINCT code FROM unnest(codes) ORDER BY code`: the four codes in text order. -/
def distinctSorted (codes : List SourceCode) : List SourceCode :=
  [.webapiAnalyse, .webapiIndex, .webapiRealtime, .webapiTrade].filter (· ∈ codes)

/-- The `sales_quantity` case. -/
def salesQuantityCase (stored incoming : StoreDailyRow) : Option Nat :=
  -- the settled operating truth may replace the hourly subtotal
  if .webapiIndex ∈ incoming.sourceCodes then
    coalesce incoming.salesQuantity stored.salesQuantity
  -- realtime is authoritative only until a settled row exists
  else if .webapiRealtime ∈ incoming.sourceCodes ∧ .webapiIndex ∉ stored.sourceCodes then
    coalesce incoming.salesQuantity stored.salesQuantity
  -- the brand-summed analysis never overwrites the index or realtime
  else if .webapiAnalyse ∈ incoming.sourceCodes ∧
      (.webapiIndex ∈ stored.sourceCodes ∨ .webapiRealtime ∈ stored.sourceCodes) then
    stored.salesQuantity
  else coalesce incoming.salesQuantity stored.salesQuantity

/-- The `payment_order_count` case. -/
def paymentOrderCountCase (stored incoming : StoreDailyRow) : Option Nat :=
  if .webapiTrade ∈ incoming.sourceCodes then
    coalesce incoming.paymentOrderCount stored.paymentOrderCount
  else if .webapiAnalyse ∈ incoming.sourceCodes ∧ .webapiTrade ∈ stored.sourceCodes then
    stored.paymentOrderCount
  else coalesce incoming.paymentOrderCount stored.paymentOrderCount

/-- The `source_codes` case. -/
def sourceCodesCase (stored incoming : StoreDailyRow) : List SourceCode :=
  distinctSorted <|
    if .webapiIndex ∈ incoming.sourceCodes then
      stored.sourceCodes.filter (· ≠ .webapiRealtime) ++ incoming.sourceCodes
    else if .webapiRealtime ∈ incoming.sourceCodes ∧ .webapiIndex ∈ stored.sourceCodes then
      stored.sourceCodes
    else stored.sourceCodes ++ incoming.sourceCodes

/-- The `quality_status` case. -/
def qualityStatusCase (stored incoming : QualityStatus) : QualityStatus :=
  if stored = .complete ∨ incoming = .complete then .complete
  else if stored = .legalZero ∨ incoming = .legalZero then .legalZero
  else .partialRow

/-- `ON CONFLICT (store_code, business_date) DO UPDATE SET ...`: the stored row after the update. -/
def updateRow (stored incoming : StoreDailyRow) : StoreDailyRow where
  storeCode := stored.storeCode
  businessDate := stored.businessDate
  currency := coalesce incoming.currency stored.currency
  dealAmount := coalesce incoming.dealAmount stored.dealAmount
  netDealAmount := coalesce incoming.netDealAmount stored.netDealAmount
  salesQuantity := salesQuantityCase stored incoming
  buyerCount := coalesce incoming.buyerCount stored.buyerCount
  goodsDetailVisitors := coalesce incoming.goodsDetailVisitors stored.goodsDetailVisitors
  exposureUsers := coalesce incoming.exposureUsers stored.exposureUsers
  exposureBasis :=
    if incoming.exposureUsers = none then stored.exposureBasis else incoming.exposureBasis
  stockingOrderCount := coalesce incoming.stockingOrderCount stored.stockingOrderCount
  urgentPurchaseOrderCount :=
    coalesce incoming.urgentPurchaseOrderCount stored.urgentPurchaseOrderCount
  paymentOrderCount := paymentOrderCountCase stored incoming
  newCustomerSalesQuantity :=
    coalesce incoming.newCustomerSalesQuantity stored.newCustomerSalesQuantity
  newCustomerPaymentOrderCount :=
    coalesce incoming.newCustomerPaymentOrderCount stored.newCustomerPaymentOrderCount
  sourceUpdatedAt := greatest incoming.sourceUpdatedAt stored.sourceUpdatedAt
  observedAt := max incoming.observedAt stored.observedAt
  sourceContractVersion := max incoming.sourceContractVersion stored.sourceContractVersion
  sourceCodes := sourceCodesCase stored incoming
  qualityStatus := qualityStatusCase stored.qualityStatus incoming.qualityStatus

abbrev StoreDailyTable := String × BusinessDate → Option StoreDailyRow

/-- One `INSERT ... ON CONFLICT DO UPDATE`. -/
def upsertRow (table : StoreDailyTable) (incoming : StoreDailyRow) : StoreDailyTable :=
  Function.update table incoming.key <|
    match table incoming.key with
    | none => some incoming
    | some stored => some (updateRow stored incoming)

/-- `upsertStoreDaily`: every row is validated before the first statement, and the statements run in
one transaction. -/
def upsertStoreDaily (js : TextBuiltins) (table : StoreDailyTable) (rows : List StoreDailyInput) :
    Except String (StoreDailyTable × Nat) := do
  let values ← rows.mapM (storeDailyValues js)
  return (run upsertRow table values, values.length)

/-- A call as a step: a rejected call leaves the table. -/
def upsertCall (js : TextBuiltins) (table : StoreDailyTable) (rows : List StoreDailyInput) :
    StoreDailyTable :=
  match upsertStoreDaily js table rows with
  | .ok (next, _) => next
  | .error _ => table

def acceptedRows (js : TextBuiltins) (calls : List (List StoreDailyInput)) : List StoreDailyRow :=
  calls.flatMap fun rows =>
    match rows.mapM (storeDailyValues js) with
    | .ok values => values
    | .error _ => []

end FullManagedBi.WebapiHistory
