import FullManagedBi.Lib.Calendar
import FullManagedBi.Lib.Json
import FullManagedBi.Lib.Run

/-!
# The reports of a finance window

`financeWindows`, `mapFinanceReportListResponse`, `mapFinanceSalesDetailResponse`, `mapFinanceAdjustmentDetailResponse`
and `fetchFinanceWindow` of `src/openapi/finance-reports.mjs`. The list of reports is read page by page; then workers
take the reports in turn, and read the sales details and the adjustments of a report cursor by cursor. The workers take
their steps in any order. What the platform answers in the loop of a report may depend on all requests of that loop. How
the fields of a row are read is a parameter, next to the fields that the loops read; so are `Number` of what is not a
number, and NFKC.
-/

namespace FullManagedBi.OpenApi

open Lib

/-- `fail`. -/
def financeError {α : Type} (code message : String) : Except JsError α := .error { code := some code, message }

/-! ## Windows -/

/-- A window of dates, both ends included. -/
structure FinanceWindow where
  startDate : String
  endDate : String
  deriving DecidableEq

/-- `date`: the day. -/
def financeDay (value location : String) : Except JsError Int :=
  match parseIsoDate (String.ofList (jsSlice 10 value.toList)) with
  | some day => .ok day
  | none => financeError "FINANCE_DATE_INVALID" (location ++ " is invalid")

/-- The loop of `financeWindows`, where it ends within `rounds` rounds. -/
def cutWeeks (last : Int) : (rounds : Nat) → (cursor : Int) → List FinanceWindow
  | 0, _ => []
  | rounds + 1, cursor =>
    if cursor ≤ last then
      let windowEnd := min (cursor + 6) last
      ⟨toIsoDate cursor, toIsoDate windowEnd⟩ :: cutWeeks last rounds (windowEnd + 1)
    else []

def financeWindows (startDate endDate : String) : Except JsError (List FinanceWindow) := do
  let start ← financeDay startDate "startDate"
  let last ← financeDay endDate "endDate"
  refuse (last < start) { code := some "FINANCE_DATE_RANGE_INVALID", message := "startDate is after endDate" }
  return cutWeeks last (last - start + 1).toNat start

/-! ## Answers -/

/-- How fields are read: `Number` of what is not a number, where it is a safe integer, NFKC, the fields of a report
ahead of its totals, and the rows of details. -/
structure FinanceReaders (ρ δ α : Type) where
  number : Option Json → Option Int
  text : TextBuiltins
  digest : Digest
  reportFields : Json → Except JsError ρ
  salesRow : String → Json → Nat → Except JsError δ
  adjustmentRow : String → Json → Nat → Except JsError α

variable {ρ δ α : Type}

/-- `record`. -/
def financeRecord (value : Option Json) (location : String) : Except JsError Json :=
  match value with
  | some (.obj fields) => .ok (.obj fields)
  | _ => financeError "INVALID_RESPONSE_SHAPE" (location ++ " must be an object")

/-- `integer`. -/
def financeInteger (R : FinanceReaders ρ δ α) (value : Option Json) (location : String) : Except JsError Nat :=
  let number := match value with
    | some (.num (.int n)) => if n.natAbs ≤ maxSafeInteger then some n else none
    | some (.num _) => none
    | other => R.number other
  match number with
  | some (.ofNat n) => .ok n
  | _ => financeError "INVALID_RESPONSE_SHAPE" (location ++ " must be an integer")

def optionalInteger (R : FinanceReaders ρ δ α) (value : Option Json) (location : String) :
    Except JsError (Option Nat) :=
  match nullish value none with
  | none => .ok none
  | some value => (financeInteger R (some value) location).map some

/-- `optionalText`. -/
def financeText (R : FinanceReaders ρ δ α) (value : Option Json) (maximum : Nat) : Option String :=
  match nullish value none with
  | none => none
  | some value =>
    let text := jsTrim (R.text.normalizeNfkc value.text)
    if text = "" then none else some (String.ofList (jsSlice maximum text.toList))

def successfulInfo (data : Option Json) (path : String) : Except JsError Json := do
  let body ← financeRecord data (path ++ " response")
  refuse ((body.field? "code").map Json.text ≠ some "0")
    { code := some "PLATFORM_ERROR", message := path ++ " returned a platform error" }
  financeRecord (body.field? "info") (path ++ " response.info")

/-- A list that may be missing where the count is zero. -/
def countedRows (count : Nat) (rows : Option Json) (location : String) : Except JsError (List Json) :=
  match if count = 0 ∧ nullish rows none = none then some (.arr []) else rows with
  | some (.arr rows) => .ok rows
  | _ => financeError "INVALID_RESPONSE_SHAPE" (location ++ " must be an array")

structure FinanceReport (ρ : Type) where
  reportOrderNo : String
  reportOrderNoHash : String
  fields : ρ
  salesTotal : Option Nat
  adjustmentTotal : Option Nat
  expenseType : Option Nat

def mapFinanceReport (R : FinanceReaders ρ δ α) (input : Json) (index : Nat) : Except JsError (FinanceReport ρ) := do
  let row ← financeRecord (some input) s!"response.info.reportOrderInfos[{index}]"
  match financeText R (row.field? "reportOrderNo") 160 with
  | none => financeError "INVALID_RESPONSE_SHAPE" "reportOrderNo is required"
  | some reportOrderNo =>
    let fields ← R.reportFields row
    let salesTotal ← optionalInteger R (row.field? "salesTotal") "report.salesTotal"
    let adjustmentTotal ← optionalInteger R (row.field? "replenishTotal") "report.replenishTotal"
    let expenseType ← optionalInteger R (row.field? "expenseType") "report.expenseType"
    return {
      reportOrderNo, reportOrderNoHash := R.digest.sha256Hex reportOrderNo, fields, salesTotal, adjustmentTotal
      expenseType }

/-- What `mapFinanceReportListResponse` returns. -/
structure FinanceReportPage (ρ : Type) where
  count : Nat
  reports : List (FinanceReport ρ)

/-- The count of a list: an object without fields stands for an empty list. -/
def reportCount (R : FinanceReaders ρ δ α) (info : Json) : Except JsError Nat :=
  match info with
  | .obj [] => .ok 0
  | _ => financeInteger R (info.field? "count") "response.info.count"

def mapFinanceReportListResponse (R : FinanceReaders ρ δ α) (data : Option Json) (page pageSize : Nat) :
    Except JsError (FinanceReportPage ρ) := do
  let info ← successfulInfo data "/open-api/finance/report-list"
  let count ← reportCount R info
  let rows ← countedRows count (info.field? "reportOrderInfos") "response.info.reportOrderInfos"
  let reports ← rows.zipIdx.mapM fun (row, index) => mapFinanceReport R row index
  refuse (pageSize < reports.length ∨ count < (page - 1) * pageSize + reports.length)
    { code := some "PAGINATION_MISMATCH", message := "finance report list pagination is inconsistent" }
  return { count, reports }

/-- What `mapFinanceSalesDetailResponse` and `mapFinanceAdjustmentDetailResponse` return. -/
structure DetailPage (β : Type) where
  count : Nat
  nextQuery : Option String
  rows : List β

/-- The answer to a request for details: its path, the field of its rows, and how a row is read. -/
def mapDetailResponse {β : Type} (R : FinanceReaders ρ δ α) (path field : String)
    (mapRow : String → Json → Nat → Except JsError β) (reportOrderNoHash : String) (data : Option Json) :
    Except JsError (DetailPage β) := do
  refuse (isSha256Hex reportOrderNoHash = false)
    { code := some "FINANCE_REPORT_HASH_INVALID", message := "reportOrderNoHash is invalid" }
  let info ← successfulInfo data path
  let count ← financeInteger R (info.field? "count") "response.info.count"
  let inputs ← countedRows count (info.field? field) ("response.info." ++ field)
  let rows ← inputs.zipIdx.mapM fun (row, index) => mapRow reportOrderNoHash row index
  return { count, nextQuery := financeText R (info.field? "query") 512, rows }

def mapFinanceSalesDetailResponse (R : FinanceReaders ρ δ α) :=
  mapDetailResponse R "/open-api/finance/report-sales-detail" "reportSalesDetails" R.salesRow

def mapFinanceAdjustmentDetailResponse (R : FinanceReaders ρ δ α) :=
  mapDetailResponse R "/open-api/finance/report-adjustment-detail" "reportReplenishDetail" R.adjustmentRow

/-! ## The list of reports -/

/-- The platform: the data of its answer to the request for a page of the list, and to the last of the requests of the
loop for the report at a place of the list. A request of a loop has a cursor, or none. -/
structure FinanceClient where
  reportList : Nat → Except JsError (Option Json)
  salesDetail : Nat → List (Option String) → Except JsError (Option Json)
  adjustmentDetail : Nat → List (Option String) → Except JsError (Option Json)

/-- The options of `fetchFinanceWindow`. A concurrency that is not a safe integer is `none`. -/
structure FinanceOptions where
  startDate : String
  endDate : String
  reportPageSize : Nat := 200
  maxReports : Nat := 20000
  maxDetails : Nat := 2000000
  maxAdjustments : Nat := 2000000
  detailConcurrency : Option Int := some 4

/-- The loop over the pages of the list, for a number of rounds: `none` where they do not suffice. -/
def listReports (R : FinanceReaders ρ δ α) (client : FinanceClient) (options : FinanceOptions) :
    (rounds page : Nat) → List (FinanceReport ρ) → Option (Except JsError (List (FinanceReport ρ)))
  | 0, _, _ => none
  | rounds + 1, page, reports =>
    match client.reportList page >>= fun data => mapFinanceReportListResponse R data page options.reportPageSize with
    | .error e => some (.error e)
    | .ok mapped =>
      let reports := reports ++ mapped.reports
      if options.maxReports < reports.length then
        some (financeError "FINANCE_REPORT_LIMIT" "finance report limit exceeded")
      else if mapped.count ≤ reports.length then some (.ok reports)
      else if mapped.reports.length = 0 then
        some (financeError "PAGINATION_EMPTY_GAP" "finance report pagination stopped early")
      else listReports R client options rounds (page + 1) reports

def requireFinanceWindow (options : FinanceOptions) : Except JsError Unit := do
  let windows ← financeWindows options.startDate options.endDate
  refuse (windows.head? ≠ some ⟨options.startDate, options.endDate⟩)
    { code := some "FINANCE_DATE_RANGE_INVALID", message := "finance window must not exceed seven days" }

def requireConcurrency (options : FinanceOptions) : Except JsError Nat :=
  match options.detailConcurrency with
  | some n =>
    if n < 1 ∨ 8 < n then financeError "FINANCE_CONCURRENCY_INVALID" "detail concurrency must be between 1 and 8"
    else .ok n.toNat
  | none => financeError "FINANCE_CONCURRENCY_INVALID" "detail concurrency must be between 1 and 8"

/-! ## The loop over the cursors of a report -/

/-- The variables of the loop, and the queries of its requests. -/
structure CursorLoop (β : Type) where
  rows : List β := []
  received : Nat := 0
  asked : List (Option String) := []
  query : Option String := none

inductive CursorRound (β : Type) where
  | next (loop : CursorLoop β)
  | done (rows : List β)

/-- A loop of a kind: how it is answered, its limit, and its words. -/
structure CursorKind (β : Type) where
  answer : List (Option String) → Except JsError (DetailPage β)
  limit : Nat
  limitCode : String
  noun : String

def cursorRound {β : Type} (kind : CursorKind β) (loop : CursorLoop β) : Except JsError (CursorRound β) := do
  let asked := loop.asked ++ [loop.query]
  let mapped ← kind.answer asked
  let rows := loop.rows ++ mapped.rows
  let received := loop.received + mapped.rows.length
  refuse (kind.limit < rows.length)
    { code := some kind.limitCode, message := "finance " ++ kind.noun ++ " limit exceeded" }
  match mapped.nextQuery with
  | none =>
    refuse (received ≠ mapped.count)
      { code := some "PAGINATION_COUNT_MISMATCH", message := "finance " ++ kind.noun ++ " count did not match" }
    return .done rows
  | some nextQuery =>
    refuse (mapped.rows.length = 0)
      { code := some "PAGINATION_EMPTY_GAP", message := "finance " ++ kind.noun ++ " cursor returned no rows" }
    return .next { rows, received, asked, query := some nextQuery }

/-- What `fetchFinanceWindow` fetches from: readers, the platform, the options, and the list of reports. -/
structure FinanceFetch (ρ δ α : Type) where
  readers : FinanceReaders ρ δ α
  client : FinanceClient
  options : FinanceOptions
  reports : List (FinanceReport ρ)

/-- The loop of `fetchReportDetails`. -/
def FinanceFetch.sales (F : FinanceFetch ρ δ α) (index : Nat) (report : FinanceReport ρ) : CursorKind δ where
  answer asked := F.client.salesDetail index asked >>=
    mapFinanceSalesDetailResponse F.readers report.reportOrderNoHash
  limit := F.options.maxDetails
  limitCode := "FINANCE_DETAIL_LIMIT"
  noun := "detail"

/-- The loop of `fetchReportAdjustments`. -/
def FinanceFetch.adjustments (F : FinanceFetch ρ δ α) (index : Nat) (report : FinanceReport ρ) : CursorKind α where
  answer asked := F.client.adjustmentDetail index asked >>=
    mapFinanceAdjustmentDetailResponse F.readers report.reportOrderNoHash
  limit := F.options.maxAdjustments
  limitCode := "FINANCE_ADJUSTMENT_LIMIT"
  noun := "adjustment"

/-- A step of `fetchReportDetails` or `fetchReportAdjustments`: nothing is asked where the total is zero. -/
def kindRound {β : Type} (total : Option Nat) (kind : CursorKind β) (loop : CursorLoop β) :
    Except JsError (CursorRound β) :=
  if total = some 0 then .ok (.done []) else cursorRound kind loop

/-! ## The workers -/

inductive FinanceWorker (δ α : Type) where
  | idle
  | sales (index : Nat) (loop : CursorLoop δ)
  | adjustments (index : Nat) (loop : CursorLoop α)
  | ended
  | failed

/-- The variables that the workers share, where each worker stands, and the first rejection. -/
structure FinanceState (δ α : Type) where
  nextReport : Nat := 0
  detailsByReport : Nat → Option (List δ) := fun _ => none
  adjustmentsByReport : Nat → Option (List α) := fun _ => none
  workers : List (FinanceWorker δ α)
  rejection : Option JsError := none

def FinanceState.move (s : FinanceState δ α) (w : Nat) (worker : FinanceWorker δ α) : FinanceState δ α :=
  { s with workers := s.workers.set w worker }

def FinanceState.reject (s : FinanceState δ α) (w : Nat) (e : JsError) : FinanceState δ α :=
  { s.move w .failed with rejection := s.rejection.or (some e) }

def FinanceFetch.step (F : FinanceFetch ρ δ α) (s : FinanceState δ α) (w : Nat) : FinanceState δ α :=
  match s.workers[w]? with
  | some .idle =>
    if s.nextReport < F.reports.length then
      { s.move w (.sales s.nextReport {}) with nextReport := s.nextReport + 1 }
    else s.move w .ended
  | some (.sales index loop) =>
    match F.reports[index]? with
    | none => s
    | some report =>
      match kindRound report.salesTotal (F.sales index report) loop with
      | .error e => s.reject w e
      | .ok (.next loop) => s.move w (.sales index loop)
      | .ok (.done rows) =>
        { s.move w (.adjustments index {}) with
          detailsByReport := Function.update s.detailsByReport index (some rows) }
  | some (.adjustments index loop) =>
    match F.reports[index]? with
    | none => s
    | some report =>
      match kindRound report.adjustmentTotal (F.adjustments index report) loop with
      | .error e => s.reject w e
      | .ok (.next loop) => s.move w (.adjustments index loop)
      | .ok (.done rows) =>
        { s.move w .idle with adjustmentsByReport := Function.update s.adjustmentsByReport index (some rows) }
  | some .ended | some .failed | none => s

def FinanceFetch.start (F : FinanceFetch ρ δ α) (concurrency : Nat) : FinanceState δ α :=
  { workers := List.replicate (min concurrency F.reports.length) .idle }

/-- What `fetchFinanceWindow` returns. -/
structure FinanceWindowResult (ρ δ α : Type) where
  reports : List (FinanceReport ρ)
  details : List δ
  adjustments : List α

/-- `flat()` of what there is for each report. -/
def flatByReport {β : Type} (count : Nat) (byReport : Nat → Option (List β)) : List β :=
  (List.range count).flatMap fun index => (byReport index).getD []

def FinanceFetch.finish (F : FinanceFetch ρ δ α) (s : FinanceState δ α) :
    Except JsError (FinanceWindowResult ρ δ α) := do
  match s.rejection with
  | some e => .error e
  | none =>
    let details := flatByReport F.reports.length s.detailsByReport
    let adjustments := flatByReport F.reports.length s.adjustmentsByReport
    refuse (F.options.maxDetails < details.length)
      { code := some "FINANCE_DETAIL_LIMIT", message := "finance detail limit exceeded" }
    refuse (F.options.maxAdjustments < adjustments.length)
      { code := some "FINANCE_ADJUSTMENT_LIMIT", message := "finance adjustment limit exceeded" }
    return { reports := F.reports, details, adjustments }

/-- The part of `fetchFinanceWindow` ahead of the workers: what they fetch from, and how many there are at most. -/
def prepareFinanceWindow (R : FinanceReaders ρ δ α) (client : FinanceClient) (options : FinanceOptions)
    (rounds : Nat) : Option (Except JsError (FinanceFetch ρ δ α × Nat)) :=
  match requireFinanceWindow options with
  | .error e => some (.error e)
  | .ok () =>
    (listReports R client options rounds 1 []).map fun listed => do
      let reports ← listed
      let concurrency ← requireConcurrency options
      return (⟨R, client, options, reports⟩, concurrency)

/-- A worker that takes no more steps. -/
def FinanceWorker.stopped : FinanceWorker δ α → Bool
  | .ended | .failed => true
  | .idle | .sales _ _ | .adjustments _ _ => false

/-- `Promise.all` of the workers is settled: one of them threw, or all ended. -/
def FinanceState.settled (s : FinanceState δ α) : Bool := s.rejection.isSome || s.workers.all FinanceWorker.stopped

/-- `fetchFinanceWindow`, where the workers take their steps in this order: `none` where the rounds or the order do not
suffice. -/
def fetchFinanceWindow (R : FinanceReaders ρ δ α) (client : FinanceClient) (options : FinanceOptions) (rounds : Nat)
    (order : List Nat) : Option (Except JsError (FinanceWindowResult ρ δ α)) :=
  match prepareFinanceWindow R client options rounds with
  | none => none
  | some (.error e) => some (.error e)
  | some (.ok (F, concurrency)) =>
    let s := run F.step (F.start concurrency) order
    if s.settled then some (F.finish s) else none

end FullManagedBi.OpenApi
