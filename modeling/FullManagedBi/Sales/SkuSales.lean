import FullManagedBi.Lib.Calendar
import FullManagedBi.Lib.Json

/-!
# SKU sales: the query batches, and the snapshots of a response

`src/domain/sku-sales-snapshot.mjs` asks for the sales of at most 100 SKUs at a time, and reads a response
against the codes it asked for: a code that was not asked for, one that comes twice and one that is missing
are errors, and none is filled in. `fetchFullManagedSkuSales` (`src/openapi/full-managed-sales.mjs`) sends
the batches one after the other. The `details` of an error are left out; its text has the path.
-/

namespace FullManagedBi.Sales

open Lib

/-- `MAX_SKUS_PER_SALES_QUERY`. -/
def maxSkusPerSalesQuery : Nat := 100

def fail {α : Type} (code message : String) : Except JsError α := .error { code := some code, message }

/-! ## Reading fields -/

def requireRecord (value : Json) (path : String) : Except JsError Json :=
  match value with
  | .obj fields => .ok (.obj fields)
  | _ => fail "INVALID_FIELD" s!"{path} must be an object"

def requireNonEmptyString (value : Json) (path : String) : Except JsError String :=
  match value with
  | .str text =>
    if jsTrim text = "" then fail "INVALID_FIELD" s!"{path} must be a non-empty string" else .ok (jsTrim text)
  | _ => fail "INVALID_FIELD" s!"{path} must be a non-empty string"

def requireField (record : Json) (field path : String) : Except JsError Json :=
  match nullish (record.field? field) none with
  | some value => .ok value
  | none => fail "MISSING_FIELD" s!"{path}.{field} is required"

def requireNonNegativeInteger (record : Json) (field path : String) : Except JsError Nat := do
  match ← requireField record field path with
  | .num (.int n) =>
    if maxSafeInteger < n.natAbs then fail "INVALID_SALES_COUNT" s!"{path}.{field} must be a safe integer"
    else if n < 0 then fail "NEGATIVE_SALES_COUNT" s!"{path}.{field} cannot be negative"
    else return n.toNat
  | _ => fail "INVALID_SALES_COUNT" s!"{path}.{field} must be a safe integer"

/-- What `/^(\d{4})(\d{2})(\d{2})$/` matches, with dashes between its groups. -/
def dashedDate? (compact : String) : Option String :=
  match compact.toList with
  | [y₁, y₂, y₃, y₄, m₁, m₂, d₁, d₂] =>
    if [y₁, y₂, y₃, y₄, m₁, m₂, d₁, d₂].all Char.isDigit then
      some (String.ofList [y₁, y₂, y₃, y₄, '-', m₁, m₂, '-', d₁, d₂])
    else none
  | _ => none

/-- `normalizeStatisticsDate`, of a value that is no blank text. -/
def normalizeStatisticsDate (value : Json) (path : String) : Except JsError String := do
  let compactDate ← requireNonEmptyString value path
  match dashedDate? compactDate with
  | none => fail "INVALID_STATISTICS_DATE" s!"{path} must use yyyyMMdd format"
  | some normalized =>
    if (parseIsoDate normalized).isSome then return normalized
    else fail "INVALID_STATISTICS_DATE" s!"{path} is not a valid calendar date"

def isBlankText : Json → Bool
  | .str text => jsTrim text = ""
  | _ => false

def normalizeStatisticsDateForMode (value : Json) (path : String) (allowEmptyStatisticsDate : Bool) :
    Except JsError (Option String) :=
  if isBlankText value then
    if allowEmptyStatisticsDate then .ok none
    else fail "STATISTICS_DATE_UNAVAILABLE"
      s!"{path} is empty; permission may be granted but this response cannot be loaded as dated sales facts"
  else (normalizeStatisticsDate value path).map some

/-- What `normalizeFetchedAt` is given. -/
inductive FetchedAt where
  /-- A `Date`, where it is valid with its instant. -/
  | date (instant : Option Int)
  | text (value : String)
  | other
  deriving DecidableEq

/-- `normalizeFetchedAt`: the ISO text of the instant. -/
def normalizeFetchedAt (parseDate : String → Option Int) : FetchedAt → Except JsError String
  | .other => fail "INVALID_FETCHED_AT" "fetchedAt must be a Date or ISO date-time string"
  | .date none => fail "INVALID_FETCHED_AT" "fetchedAt must be a valid date-time"
  | .date (some instant) => .ok (toIsoTimestamp instant)
  | .text value =>
    if jsTrim value = "" then fail "INVALID_FETCHED_AT" "fetchedAt must not be empty"
    else
      match parseDate value with
      | none => fail "INVALID_FETCHED_AT" "fetchedAt must be a valid date-time"
      | some instant => .ok (toIsoTimestamp instant)

/-! ## Requested codes -/

def requestedSkuCode (raw : Json) (index : Nat) : Except JsError String :=
  match raw with
  | .str text =>
    if jsTrim text = "" then fail "INVALID_SKU_CODE" s!"skuCodes[{index}] must be a non-empty string"
    else .ok (jsTrim text)
  | _ => fail "INVALID_SKU_CODE" s!"skuCodes[{index}] must be a non-empty string"

/-- The loop of `deduplicateSkuCodes` from an index on, with the codes seen so far in order. -/
def deduplicateFrom : Nat → List String → List Json → Except JsError (List String)
  | _, unique, [] => .ok unique
  | index, unique, raw :: raws => do
    let skuCode ← requestedSkuCode raw index
    deduplicateFrom (index + 1) (if skuCode ∈ unique then unique else unique ++ [skuCode]) raws

def deduplicateSkuCodes : Json → Except JsError (List String)
  | .arr raws => deduplicateFrom 0 [] raws
  | _ => fail "INVALID_SKU_LIST" "skuCodes must be an array"

def slicesFrom (codes : List String) : Nat → Nat → List (List String)
  | _, 0 => []
  | offset, count + 1 =>
    if offset < codes.length then
      (codes.drop offset).take maxSkusPerSalesQuery :: slicesFrom codes (offset + maxSkusPerSalesQuery) count
    else []

/-- `createSkuSalesQueryBatches`: the `skuCodeList` of each request body. -/
def createSkuSalesQueryBatches (skuCodes : Json) : Except JsError (List (List String)) := do
  let uniqueSkuCodes ← deduplicateSkuCodes skuCodes
  return slicesFrom uniqueSkuCodes 0 uniqueSkuCodes.length

/-! ## The response -/

structure SkuSalesRow where
  skuCode : String
  salesToday : Nat
  salesYesterday : Nat
  sales7Days : Nat
  sales30Days : Nat
  statisticsDate : Option String
  deriving DecidableEq

def readItem (allowEmptyStatisticsDate : Bool) (item : Json) (itemPath skuCode : String) :
    Except JsError SkuSalesRow := do
  let salesToday ← requireNonNegativeInteger item "realTimeSaleCnt" itemPath
  let salesYesterday ← requireNonNegativeInteger item "cydSaleCnt" itemPath
  let sales7Days ← requireNonNegativeInteger item "c7dSaleCnt" itemPath
  let sales30Days ← requireNonNegativeInteger item "c30dSaleCnt" itemPath
  let dt ← requireField item "dt" itemPath
  let statisticsDate ← normalizeStatisticsDateForMode dt s!"{itemPath}.dt" allowEmptyStatisticsDate
  return { skuCode, salesToday, salesYesterday, sales7Days, sales30Days, statisticsDate }

/-- `if (p) fail(code, message)`. -/
def failIf (p : Prop) [Decidable p] (code message : String) : Except JsError Unit :=
  refuse p { code := some code, message }

def itemSkuCode (item : Json) (itemPath : String) : Except JsError String := do
  let skuCode ← requireField item "skuCode" itemPath
  requireNonEmptyString skuCode s!"{itemPath}.skuCode"

/-- One pass of the loop over `dataList`. -/
def addItem (requested : List String) (allowEmptyStatisticsDate : Bool) (rows : List SkuSalesRow)
    (rawItem : Json) (index : Nat) : Except JsError (List SkuSalesRow) := do
  let itemPath := s!"response.info.dataList[{index}]"
  let item ← requireRecord rawItem itemPath
  let skuCode ← itemSkuCode item itemPath
  failIf (skuCode ∉ requested) "UNEXPECTED_RESPONSE_SKU" s!"response contains unrequested SKU {skuCode}"
  failIf (skuCode ∈ rows.map (·.skuCode)) "DUPLICATE_RESPONSE_SKU" s!"response contains duplicate SKU {skuCode}"
  let row ← readItem allowEmptyStatisticsDate item itemPath skuCode
  return rows ++ [row]

/-- The loop over `dataList` from an index on. -/
def addItems (requested : List String) (allowEmptyStatisticsDate : Bool) :
    Nat → List SkuSalesRow → List Json → Except JsError (List SkuSalesRow)
  | _, rows, [] => .ok rows
  | index, rows, rawItem :: rawItems => do
    let rows ← addItem requested allowEmptyStatisticsDate rows rawItem index
    addItems requested allowEmptyStatisticsDate (index + 1) rows rawItems

/-- `response.info.dataList` of a response whose code is `'0'`. -/
def responseDataList (response : Json) : Except JsError (List Json) := do
  let response ← requireRecord response "response"
  let code ← requireField response "code" "response"
  failIf (strictEq (some code) (some (.str "0")) = false) "OPENAPI_RESPONSE_ERROR"
    ("SHEIN SKU sales query failed with code " ++ code.text)
  let info ← requireRecord (← requireField response "info" "response") "response.info"
  match ← requireField info "dataList" "response.info" with
  | .arr items => return items
  | _ => fail "INVALID_FIELD" "response.info.dataList must be an array"

def missingSkuCodes (requested : List String) (rows : List SkuSalesRow) : List String :=
  requested.filter fun skuCode => skuCode ∉ rows.map (·.skuCode)

def normalizeSkuSalesResponseRows (requestedSkuCodes response : Json) (allowEmptyStatisticsDate : Bool) :
    Except JsError (List SkuSalesRow) := do
  let requested ← deduplicateSkuCodes requestedSkuCodes
  failIf (requested = []) "EMPTY_REQUESTED_SKU_LIST" "requestedSkuCodes must contain at least one SKU"
  failIf (maxSkusPerSalesQuery < requested.length) "TOO_MANY_REQUESTED_SKUS"
    "one response can cover at most 100 requested SKUs"
  let dataList ← responseDataList response
  let rows ← addItems requested allowEmptyStatisticsDate 0 [] dataList
  let missing := missingSkuCodes requested rows
  failIf (missing ≠ []) "MISSING_REQUESTED_SKU"
    ("response omitted " ++ toString missing.length ++ " requested SKU(s): " ++ String.intercalate ", " missing)
  return requested.filterMap fun skuCode => rows.find? (·.skuCode = skuCode)

structure SkuSalesSnapshot extends SkuSalesRow where
  storeCode : String
  fetchedAt : String
  deriving DecidableEq

def mapSkuSalesResponseToSnapshots (parseDate : String → Option Int) (storeCode requestedSkuCodes : Json)
    (fetchedAt : FetchedAt) (response : Json) : Except JsError (List SkuSalesSnapshot) := do
  let storeCode ← requireNonEmptyString storeCode "storeCode"
  let fetchedAt ← normalizeFetchedAt parseDate fetchedAt
  let rows ← normalizeSkuSalesResponseRows requestedSkuCodes response true
  return rows.map fun row => { row with storeCode, fetchedAt }

/-! ## The fetch -/

structure SalesBatchEvidence where
  batchIndex : Nat
  skuCount : Nat
  responseRecordCount : Nat
  traceId : Option String
  message : Option String
  deriving DecidableEq

/-- `typeof value === 'string' ? value.slice(0, maximum) : null`. -/
def slicedText (value : Option Json) (maximum : Nat) : Option String :=
  match value with
  | some (.str text) => some (String.ofList (jsSlice maximum text.toList))
  | _ => none

/-- The loop over the batches: `answers` is what the client answers to the request of each batch. -/
def fetchBatches (parseDate : String → Option Int) (storeCode : Json) (fetchedAt : FetchedAt)
    (answers : Nat → Except JsError Json) :
    Nat → List (List String) → Except JsError (List SkuSalesSnapshot × List SalesBatchEvidence)
  | _, [] => .ok ([], [])
  | index, skuCodeList :: batches => do
    let response ← answers index
    let mapped ← mapSkuSalesResponseToSnapshots parseDate storeCode (.arr (skuCodeList.map .str)) fetchedAt response
    let (snapshots, evidence) ← fetchBatches parseDate storeCode fetchedAt answers (index + 1) batches
    return (mapped ++ snapshots, {
      batchIndex := index, skuCount := skuCodeList.length, responseRecordCount := mapped.length,
      traceId := slicedText (response.field? "traceId") 128,
      message := slicedText (response.field? "msg") 240 } :: evidence)

def fetchFullManagedSkuSales (parseDate : String → Option Int) (storeCode skuCodes : Json) (fetchedAt : FetchedAt)
    (answers : Nat → Except JsError Json) : Except JsError (List SkuSalesSnapshot × List SalesBatchEvidence) := do
  let batches ← createSkuSalesQueryBatches skuCodes
  fetchBatches parseDate storeCode fetchedAt answers 0 batches

end FullManagedBi.Sales
