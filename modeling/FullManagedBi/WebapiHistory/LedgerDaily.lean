import FullManagedBi.WebapiHistory.StoreDaily
import FullManagedBi.Lib.Upsert

/-!
# The ledger-daily row, and what the columns keep

`fact.full_home_ledger_daily` holds the inventory-ledger subtotal of a store and day. `ledgerRow` reads 21
counts and 21 amounts under the same names, and `upsertLedgerDaily` writes all rows of a call with one
statement, which cannot affect a row twice.

Both daily tables keep an amount as `numeric(20, 4)` and a currency of three capital letters: what a
statement compares and stores is the value of the column (`storeDailyColumns`, `ledgerColumns`), not the one
the loader has classified. A number is the decimal that its text writes. What else can make the database
refuse a call, or lose it, is part of the call (`HistoryCall.committed`).
-/

namespace FullManagedBi.WebapiHistory

open Lib

/-! ## Columns -/

/-- A number that is not negative, as a column of type `numeric(20, 4)`: halves are rounded up. -/
def numericColumn (q : Rat) : Except String Rat :=
  let units := ⌊q * 10000 + 1 / 2⌋
  if units < 10 ^ 20 then .ok (mkRat units 10000) else .error "numeric field overflow"

def amountColumn : Option Rat → Except String (Option Rat)
  | none => .ok none
  | some q => (numericColumn q).map some

/-- A `character(3)` column under the check `currency IS NULL OR currency ~ '^[A-Z]{3}$'`. -/
def currencyColumn (currency : Option String) : Except String (Option String) :=
  match currency with
  | none => .ok none
  | some code =>
    if code.toList.length = 3 ∧ ∀ c ∈ code.toList, c.isUpper then .ok (some code)
    else .error "currency violates the table"

/-- A row of `fact.full_home_store_daily` as its columns take it. -/
def storeDailyColumns (row : StoreDailyRow) : Except String StoreDailyRow := do
  let currency ← currencyColumn row.currency
  let dealAmount ← amountColumn row.dealAmount
  let netDealAmount ← amountColumn row.netDealAmount
  return { row with currency, dealAmount, netDealAmount }

/-! ## A ledger row -/

/-- `LEDGER_COUNT_FIELDS` without `Count`, which are `LEDGER_AMOUNT_FIELDS` without `Amount`. -/
inductive LedgerField where
  | beginBalance
  | inbound
  | outbound
  | endBalance
  | urgentOrderEntry
  | prepareOrderEntry
  | inboundGain
  | inboundReturn
  | supplyChangeIn
  | adjustmentIn
  | customerOutbound
  | directCustomerOutbound
  | platformCustomerOutbound
  | outboundLoss
  | supplierOutbound
  | inventoryClear
  | reportClear
  | scrap
  | supplyChangeOut
  | adjustmentOut
  | customerLoss
  deriving DecidableEq

def LedgerField.all : List LedgerField :=
  [.beginBalance, .inbound, .outbound, .endBalance, .urgentOrderEntry, .prepareOrderEntry, .inboundGain,
    .inboundReturn, .supplyChangeIn, .adjustmentIn, .customerOutbound, .directCustomerOutbound,
    .platformCustomerOutbound, .outboundLoss, .supplierOutbound, .inventoryClear, .reportClear, .scrap,
    .supplyChangeOut, .adjustmentOut, .customerLoss]

/-- The name of a field, without its kind. -/
def LedgerField.name : LedgerField → String
  | .beginBalance => "beginBalance"
  | .inbound => "inbound"
  | .outbound => "outbound"
  | .endBalance => "endBalance"
  | .urgentOrderEntry => "urgentOrderEntry"
  | .prepareOrderEntry => "prepareOrderEntry"
  | .inboundGain => "inboundGain"
  | .inboundReturn => "inboundReturn"
  | .supplyChangeIn => "supplyChangeIn"
  | .adjustmentIn => "adjustmentIn"
  | .customerOutbound => "customerOutbound"
  | .directCustomerOutbound => "directCustomerOutbound"
  | .platformCustomerOutbound => "platformCustomerOutbound"
  | .outboundLoss => "outboundLoss"
  | .supplierOutbound => "supplierOutbound"
  | .inventoryClear => "inventoryClear"
  | .reportClear => "reportClear"
  | .scrap => "scrap"
  | .supplyChangeOut => "supplyChangeOut"
  | .adjustmentOut => "adjustmentOut"
  | .customerLoss => "customerLoss"

/-- One row as the parser hands it to `upsertLedgerDaily`. -/
structure LedgerDailyInput where
  storeCode : Option String
  businessDate : JsField BusinessDate
  currency : Option String := none
  observedAt : JsField Instant
  /-- `new Date()`, read where the row carries no `observedAt`. -/
  now : Instant
  counts : LedgerField → JsField Rat
  amounts : LedgerField → JsField Rat

/-- The row of `fact.full_home_ledger_daily`, with its key; `updated_at` is left out. -/
structure LedgerDailyRow where
  storeCode : String
  businessDate : BusinessDate
  currency : Option String
  counts : LedgerField → Option Nat
  amounts : LedgerField → Option Rat
  observedAt : Instant
  sourceContractVersion : Nat
  qualityStatus : QualityStatus

def LedgerDailyRow.key (row : LedgerDailyRow) : String × BusinessDate := (row.storeCode, row.businessDate)

/-- The loop over fields that fills an object: a field it does not reach stays unset. -/
def readFields {α : Type} (read : LedgerField → Except String (Option α)) :
    List LedgerField → Except String (LedgerField → Option α)
  | [] => .ok fun _ => none
  | field :: fields => do
    let value ← read field
    let others ← readFields read fields
    return Function.update others field value

/-- The counts that `ledgerRow` classifies a row by. -/
def LedgerField.core : List LedgerField :=
  [.beginBalance, .inbound, .outbound, .endBalance, .customerOutbound]

def coreCounts (counts : LedgerField → Option Nat) : List (Option Rat) :=
  LedgerField.core.map fun field => (counts field).map Nat.cast

def optionalCurrency (js : TextBuiltins) (currency : Option String) : Except String (Option String) :=
  match currency with
  | none => .ok none
  | some code => (text js (some code) "currency" 3).map fun c => some (js.toUpperCase c)

/-- `instant(row.observedAt ?? new Date(), 'observedAt')`. -/
def observedInstant (observedAt : JsField Instant) (now : Instant) : Except String Instant :=
  match observedAt with
  | .absent => .ok now
  | given => instant given "observedAt"

/-- `ledgerRow`: the counts are checked before the amounts. -/
def ledgerRow (js : TextBuiltins) (row : LedgerDailyInput) : Except String LedgerDailyRow := do
  let store ← storeCode js row.storeCode
  let businessDate ← date row.businessDate "businessDate"
  let currency ← optionalCurrency js row.currency
  let observedAt ← observedInstant row.observedAt row.now
  let counts ←
    readFields (fun field => nullableCount (row.counts field) (field.name ++ "Count")) LedgerField.all
  let amounts ←
    readFields (fun field => nullableNumber (row.amounts field) (field.name ++ "Amount")) LedgerField.all
  return {
    storeCode := store, businessDate, currency, counts, amounts, observedAt,
    sourceContractVersion := homeHistoryContractVersion,
    qualityStatus := qualityFor (coreCounts counts) }

/-- A row of `fact.full_home_ledger_daily` as its columns take it. -/
def ledgerColumns (row : LedgerDailyRow) : Except String LedgerDailyRow := do
  let currency ← currencyColumn row.currency
  let amounts ← readFields (fun field => amountColumn (row.amounts field)) LedgerField.all
  return { row with currency, amounts }

/-! ## The upsert statement -/

/-- `ON CONFLICT (store_code, business_date) DO UPDATE SET ...`: the columns are merged, and the status is
that of the incoming row. -/
def updateLedgerRow (stored incoming : LedgerDailyRow) : LedgerDailyRow where
  storeCode := stored.storeCode
  businessDate := stored.businessDate
  currency := coalesce incoming.currency stored.currency
  counts := fun field => coalesce (incoming.counts field) (stored.counts field)
  amounts := fun field => coalesce (incoming.amounts field) (stored.amounts field)
  observedAt := max incoming.observedAt stored.observedAt
  sourceContractVersion := max incoming.sourceContractVersion stored.sourceContractVersion
  qualityStatus := incoming.qualityStatus

abbrev LedgerDailyTable := String × BusinessDate → Option LedgerDailyRow

/-! ## Calls -/

structure HistoryCall (α : Type) where
  rows : List α
  /-- Whether the transaction comes to its `COMMIT`, as far as the rows let it. -/
  committed : Bool

/-- The rows `upsertStoreDaily` writes: all are validated before the first statement. -/
def storeDailyRows (js : TextBuiltins) (rows : List StoreDailyInput) :
    Except String (List StoreDailyRow) := do
  let values ← rows.mapM (storeDailyValues js)
  values.mapM storeDailyColumns

/-- The rows `upsertLedgerDaily` writes. -/
def ledgerRows (js : TextBuiltins) (rows : List LedgerDailyInput) :
    Except String (List LedgerDailyRow) := do
  let values ← rows.mapM (ledgerRow js)
  let columns ← values.mapM ledgerColumns
  if (columns.map LedgerDailyRow.key).Nodup then .ok columns
  else .error "ON CONFLICT DO UPDATE command cannot affect row a second time"

/-- The rows a call leaves in the table: a call that fails is rolled back. -/
def HistoryCall.written {α β : Type} (rows : List α → Except String (List β)) (call : HistoryCall α) :
    List β :=
  if call.committed then
    match rows call.rows with
    | .ok written => written
    | .error _ => []
  else []

/-- A call of `upsertStoreDaily` as a step. -/
def storeDailyCall (js : TextBuiltins) : StoreDailyTable → HistoryCall StoreDailyInput → StoreDailyTable :=
  upsertWritten StoreDailyRow.key updateRow (HistoryCall.written (storeDailyRows js))

/-- A call of `upsertLedgerDaily` as a step. -/
def ledgerDailyCall (js : TextBuiltins) :
    LedgerDailyTable → HistoryCall LedgerDailyInput → LedgerDailyTable :=
  upsertWritten LedgerDailyRow.key updateLedgerRow (HistoryCall.written (ledgerRows js))

end FullManagedBi.WebapiHistory
