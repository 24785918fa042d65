import FullManagedBi.Lib.Calendar
import FullManagedBi.Lib.JsonText
import FullManagedBi.Lib.Sorting
import FullManagedBi.OpenApi.PaginatedFetch

/-!
# The stock advice

`fetchFullManagedStockAdvice` of `src/openapi/stock-advice.mjs`. A strict pass refuses a count that changes or is not
reached; where it fails by its count, two more passes without the count have to agree in the SKCs of their rows. What the
endpoint answers depends on the pass and on the page. The `details` of an error are left out.
-/

namespace FullManagedBi.OpenApi

open Lib

/-- The builtins: `Number(value)` where it is finite, and the instant of a text, where it is one. -/
structure AdviceBuiltins where
  digest : Digest
  locale : LocaleOrder
  toLowerCase : String → String
  number : Json → Option JsNumber
  parseDate : String → Option Int

def invalidShape {α : Type} (message : String) : Except JsError α := .error ⟨some "INVALID_RESPONSE_SHAPE", message⟩

/-- `record`. -/
def adviceRecord (value : Option Json) (location : String) : Except JsError Json :=
  match value with
  | some (.obj fields) => .ok (.obj fields)
  | _ => invalidShape s!"{location} must be an object"

/-- `optionalText`. -/
def scalarText (value : Option Json) (location : String) : Except JsError (Option String) :=
  match nullish value none with
  | none => .ok none
  | some (.arr _) | some (.obj _) => invalidShape s!"{location} must be scalar"
  | some scalar => .ok (if jsTrim scalar.text = "" then none else some (jsTrim scalar.text))

def nonEmptyText (value : Option Json) (location : String) : Except JsError String := do
  match ← scalarText value location with
  | some result => return result
  | none => invalidShape s!"{location} is required"

def isDigits (text : String) : Bool := text ≠ "" && text.toList.all Char.isDigit

variable (B : AdviceBuiltins)

/-- `optionalQuantity`; a missing value is `null`. -/
def optionalQuantity (value : Option Json) (location : String) : Except JsError Json :=
  match nullish value none with
  | none | some (.str "") => .ok .null
  | some given =>
    let normalized := match given with
      | .str text => if isDigits (jsTrim text) then B.number given else none
      | .num n => some n
      | _ => none
    match normalized with
    | some (.int n) =>
      if n < 0 ∨ maxSafeInteger < n then invalidShape s!"{location} must be a non-negative integer" else .ok (.num (.int n))
    | _ => invalidShape s!"{location} must be a non-negative integer"

def isNegative : JsNumber → Bool
  | .int n => n < 0
  | .large text | .fraction text => text.toList.head? = some '-'

/-- `optionalNumber`; a missing value is `null`. -/
def optionalNumber (value : Option Json) (location : String) : Except JsError Json :=
  match nullish value none with
  | none | some (.str "") => .ok .null
  | some given =>
    match B.number given with
    | some n => if isNegative n then invalidShape s!"{location} must be a non-negative number" else .ok (.num n)
    | none => invalidShape s!"{location} must be a non-negative number"

/-- What `status` returns. -/
structure GoodsStatus where
  observed : Bool := false
  isWarning : Option Bool := none
  code : Option String := none
  label : Option String := none
  type : Option String := none
  note : Option String := none
  deriving DecidableEq

def status (value : Option Json) (location : String) : Except JsError GoodsStatus :=
  match nullish value none with
  | none => .ok {}
  | some given => do
    let row ← adviceRecord (some given) location
    let type ← scalarText (row.field? "type") s!"{location}.type"
    let isWarning := type.bind fun text =>
      if B.toLowerCase text ∈ ["warning", "warn", "danger", "error"] then some true
      else if B.toLowerCase text ∈ ["success", "normal", "ok", "none", "no-warning"] then some false
      else none
    let code ← scalarText (nullish (row.field? "value") (nullish (row.field? "goodsLevel") (row.field? "type")))
      s!"{location}.value"
    let label ← scalarText (nullish (row.field? "name") (row.field? "goodsLevelName")) s!"{location}.name"
    let note ← scalarText (row.field? "note") s!"{location}.note"
    return { observed := isWarning.isSome, isWarning, code, label, type, note }

inductive FigureKind where
  | text
  | quantity
  | number
  | price
  deriving DecidableEq

/-- The figures of a SKU: the name of each, how it is read, and the field it is read from. -/
def skuFigures : List (String × FigureKind × String) :=
  [("predictedDailySales", .number, "predictDaySales"), ("pendingOrderQuantity", .quantity, "orderCnt"),
    ("totalSalesQuantity", .quantity, "totalSaleVolume"), ("sales7Days", .quantity, "c7dSaleCnt"),
    ("sales30Days", .quantity, "c30dSaleCnt"), ("pendingDeliveryQuantity", .quantity, "stayDeliver"),
    ("pendingShelfQuantity", .quantity, "stayShelf"), ("transitQuantity", .quantity, "transit"),
    ("stockQuantity", .quantity, "stock"), ("transitSaleQuantity", .quantity, "transitSale"),
    ("preemptionQuantity", .quantity, "preemptionNum"), ("plannedUrgentQuantity", .quantity, "planUrgentCount"),
    ("advisedOrderQuantity", .quantity, "adviceOrderCount"), ("placedOrderQuantity", .quantity, "orderCount"),
    ("stockSaleDays", .number, "stockSaleDays"), ("saleDays", .number, "saleDays"), ("stockDays", .number, "stockDays"),
    ("price", .price, "price"), ("currencySymbol", .text, "currencySymbol"),
    ("autoOrderStatusCode", .text, "autoOrderStatus"), ("mallSaleStatusCode", .text, "mallSaleStatus")]

def readFigure (kind : FigureKind) (value : Option Json) (location : String) : Except JsError Json :=
  match kind with
  | .text => (scalarText value location).map Json.ofOption
  | .quantity => optionalQuantity B value location
  | .number => optionalNumber B value location
  | .price => optionalNumber B (if strictEq value (some (.str "-")) then none else value) location

structure AdviceSku where
  skuCode : String
  skcName : String
  spuName : String
  supplierCode : Option String
  variantName : Option String
  figures : List (String × Json)

structure AdviceGoods where
  skcName : String
  spuName : String
  supplierCode : Option String
  categoryName : Option String
  shelfDays : Json
  statuses : List (String × GoodsStatus)
  skus : List AdviceSku

/-- A row that sums up the others. -/
def isSummary (skuCode : String) : Prop := skuCode = "合计" ∨ B.toLowerCase skuCode = "total"

instance (skuCode : String) : Decidable (isSummary B skuCode) := inferInstanceAs (Decidable (_ ∨ _))

/-- `mapSku`, for a product of this SKC, SPU and supplier. -/
def mapSku (value : Json) (skcName spuName : String) (supplierCode : Option String) (location : String) :
    Except JsError (Option AdviceSku) := do
  let row ← adviceRecord (some value) location
  let skuCode ← nonEmptyText (row.field? "skuCode") s!"{location}.skuCode"
  if isSummary B skuCode then return none
  let variantName ← scalarText (nullish (row.field? "suffixZh") (row.field? "attr")) s!"{location}.suffixZh"
  let figures ← skuFigures.mapM fun (name, kind, field) => do
    return (name, ← readFigure B kind (row.field? field) s!"{location}.{field}")
  return some { skuCode, skcName, spuName, supplierCode, variantName, figures }

/-- The statuses of goods: the name of each, and the field it is read from. -/
def goodsStatuses : List (String × String) :=
  [("supplyStatus", "supplyStatus"), ("shelfStatus", "shelfStatus"), ("saleModel", "saleModel"),
    ("qualityGrade", "qualityGrade"), ("goodsLevel", "goodsLevel"), ("stockStandard", "stockStandard"),
    ("stockWarningStatus", "stockWarnStatus")]

/-- The SKUs of goods: they are an array. -/
def skuListOf (row : Json) (location : String) : Except JsError (List Json) :=
  match row.field? "skuList" with
  | some (.arr items) => .ok items
  | _ => invalidShape s!"{location}.skuList must be an array"

def mapGoods (value : Json) (location : String) : Except JsError AdviceGoods := do
  let row ← adviceRecord (some value) location
  let skuList ← skuListOf row location
  let skcName ← nonEmptyText (row.field? "skc") s!"{location}.skc"
  let spuName ← nonEmptyText (nullish (row.field? "spuName") (row.field? "spu")) s!"{location}.spuName"
  let supplierCode ← scalarText (row.field? "supplierCode") s!"{location}.supplierCode"
  let categoryName ← scalarText (row.field? "categoryName") s!"{location}.categoryName"
  let shelfDays ← optionalQuantity B (row.field? "shelfDays") s!"{location}.shelfDays"
  let statuses ← goodsStatuses.mapM fun (name, field) => do
    return (name, ← status B (row.field? field) s!"{location}.{field}")
  let skus ← skuList.zipIdx.mapM fun (sku, index) =>
    mapSku B sku skcName spuName supplierCode s!"{location}.skuList[{index}]"
  return { skcName, spuName, supplierCode, categoryName, shelfDays, statuses, skus := skus.filterMap id }

/-! ## The passes -/

def stockGoodsListPath : String := "/open-api/openapi-business-backend/stock-goods-list"

/-- A page: its rows, and the count it advertises. -/
structure StockPage where
  rows : List Json
  count : Nat

/-- The part of `fetchPage` that reads the data of a response. -/
def readStockPage (data : Option Json) : Except JsError StockPage := do
  let body ← adviceRecord data "response"
  if textOfCode body ≠ "0" then
    let _ ← scalarText (body.field? "msg") "response.msg"
    throw ⟨some "PLATFORM_ERROR", s!"{stockGoodsListPath} returned platform error {textOfCode body}"⟩
  let info ← adviceRecord (body.field? "info") "response.info"
  let rows ← match info.field? "list" with
    | some (.arr rows) => .ok rows
    | _ => invalidShape "response.info.list must be an array"
  let invalid := invalidShape "response.info.count must be a non-negative integer"
  match B.number ((nullish (info.field? "count") none).getD (.ofNat 0)) with
  | some (.int n) => if n < 0 ∨ maxSafeInteger < n then invalid else return ⟨rows, n.toNat⟩
  | _ => invalid
where
  /-- `String(body.code)`. -/
  textOfCode (body : Json) : String :=
    match body.field? "code" with
    | some code => code.text
    | none => "undefined"

inductive AdvicePass where
  | strict
  | first
  | second
  deriving DecidableEq

/-- What the endpoint answers in a pass to the request for a page: the data of the response, or an error of the client. -/
abbrev StockEndpoint := AdvicePass → Nat → Except JsError (Option Json)

structure AdviceOptions where
  pageSize : Option Int := some 20
  maxPages : Option Int := some 10000
  maxItems : Option Int := some 1000000

/-- The options of `fetchStockAdvicePageSequence`; only the strict pass has `enforceAdvertisedCount`. -/
def stockPageOptions (endpoint : StockEndpoint) (o : AdviceOptions) (pass : AdvicePass) : PageOptions StockPage Json where
  fetchPage page := do readStockPage B (← endpoint pass page)
  getItems response _ := .ok (some response.rows)
  getAdvertisedCount response _ := .ok (if pass = .strict then some (some response.count) else none)
  pageSize := o.pageSize
  maxPages := o.maxPages
  maxItems := o.maxItems
  fingerprintItem row := .obj (["id", "skc", "supplierCode", "skuList"].map fun field =>
    (field, (nullish (row.field? field) none).getD .null))

def fetchStockAdvicePageSequence (endpoint : StockEndpoint) (o : AdviceOptions) (pass : AdvicePass) :
    List Nat × Except JsError (PageSequence Json) :=
  fetchPageSequence B.digest (stockPageOptions B endpoint o pass)

/-- What `stockAdviceMembershipEvidence` returns. -/
structure MembershipEvidence where
  count : Nat
  fingerprint : String
  deriving DecidableEq

def membershipKey (sweep : Nat) (value : Json) (index : Nat) : Except JsError String := do
  let row ← adviceRecord (some value) s!"sweep{sweep}.items[{index}]"
  nonEmptyText (row.field? "skc") s!"sweep{sweep}.items[{index}].skc"

/-- `sortedKeys`, as a value. -/
def sortedKeys (keys : List String) : Json :=
  .arr ((keys.insertionSort fun left right => B.locale.localeCompare left right ≠ .gt).map .str)

def stockAdviceMembershipEvidence (items : List Json) (sweep : Nat) : Except JsError MembershipEvidence := do
  let keys ← items.zipIdx.mapM fun (value, index) => membershipKey sweep value index
  refuse (¬keys.Nodup)
    ⟨some "PAGINATION_DUPLICATE_ITEM", "stock-advice sweep returned a duplicate SKC membership key"⟩
  return ⟨keys.length, B.digest.payloadFingerprint (sortedKeys B keys)⟩

/-- The checks of `fetchStableStockAdviceSequence` after both sweeps. -/
def compareSweeps (first second : PageSequence Json) : Except JsError (PageSequence Json) := do
  let firstMembership ← stockAdviceMembershipEvidence B first.items 1
  let secondMembership ← stockAdviceMembershipEvidence B second.items 2
  refuse (firstMembership ≠ secondMembership)
    ⟨some "PAGINATION_UNSTABLE_MEMBERSHIP", "stock-advice membership changed across two complete terminal sweeps"⟩
  return second

def fetchStableStockAdviceSequence (endpoint : StockEndpoint) (o : AdviceOptions) :
    List Nat × Except JsError (PageSequence Json) :=
  let first := fetchStockAdvicePageSequence B endpoint o .first
  match first.2 with
  | .error e => (first.1, .error e)
  | .ok firstSequence =>
    let second := fetchStockAdvicePageSequence B endpoint o .second
    (first.1 ++ second.1, second.2.bind (compareSweeps B firstSequence))

/-! ## The advice -/

/-- `paginationConsistency`. -/
inductive PaginationConsistency where
  | strictAdvertisedCount
  | doubleSweepIdentity
  deriving DecidableEq

def PaginationConsistency.text : PaginationConsistency → String
  | .strictAdvertisedCount => "STRICT_ADVERTISED_COUNT"
  | .doubleSweepIdentity => "DOUBLE_SWEEP_IDENTITY"

def PaginationConsistency.explanation : PaginationConsistency → String
  | .strictAdvertisedCount => "All pages reached a short or empty terminal page with one stable advertised count; " ++
      "an empty list clears the current advice projection."
  | .doubleSweepIdentity => "Two consecutive terminal sweeps returned the same unique SKC membership after the live " ++
      "advertised count changed; values come from the second sweep."

/-- An advice: a SKU with the statuses of its goods. -/
structure StockAdvice where
  sku : AdviceSku
  productStatuses : List (String × GoodsStatus)
  fetchedAt : String

structure StockAdviceResult where
  goods : List AdviceGoods
  advice : List StockAdvice
  observedCount : Nat
  explanation : String
  pages : List PageRecord
  terminalReason : TerminalReason
  paginationConsistency : PaginationConsistency
  requestFingerprint : String

/-- The strict pass, with the check of its count behind it. -/
def strictPass (endpoint : StockEndpoint) (o : AdviceOptions) : List Nat × Except JsError (PageSequence Json) :=
  let strict := fetchStockAdvicePageSequence B endpoint o .strict
  (strict.1, strict.2.bind fun sequence =>
    if sequence.advertisedCount ≠ none ∧ sequence.advertisedCount ≠ some sequence.items.length then
      .error ⟨some "PAGINATION_COUNT_MISMATCH", "terminal stock-advice membership differs from the advertised count"⟩
    else .ok sequence)

/-- The part of `fetchFullManagedStockAdvice` that fetches. -/
def fetchRows (endpoint : StockEndpoint) (o : AdviceOptions) :
    List Nat × Except JsError (PageSequence Json × PaginationConsistency) :=
  let strict := strictPass B endpoint o
  match strict.2 with
  | .ok sequence => (strict.1, .ok (sequence, .strictAdvertisedCount))
  | .error e =>
    if e.code = some "PAGINATION_COUNT_DRIFT" ∨ e.code = some "PAGINATION_COUNT_MISMATCH" then
      let sweeps := fetchStableStockAdviceSequence B endpoint o
      (strict.1 ++ sweeps.1, sweeps.2.map fun sequence => (sequence, .doubleSweepIdentity))
    else (strict.1, .error e)

/-- `normalizeFetchedAt`, of a text. -/
def adviceTime (fetchedAt : String) : Except JsError String :=
  match B.parseDate fetchedAt with
  | some instant => .ok (toIsoTimestamp instant)
  | none => .error ⟨none, "fetchedAt must be a valid date-time"⟩

/-- The part of `fetchFullManagedStockAdvice` that maps what was fetched. -/
def adviceOf (pageSize : Nat) (sequence : PageSequence Json) (consistency : PaginationConsistency) (fetchedAt : String) :
    Except JsError StockAdviceResult := do
  let goods ← sequence.items.zipIdx.mapM fun (row, index) => mapGoods B row s!"items[{index}]"
  let observationTime ← adviceTime B fetchedAt
  let advice := goods.flatMap fun product => product.skus.map fun sku => ⟨sku, product.statuses, observationTime⟩
  return {
    goods, advice
    observedCount := advice.length
    explanation := consistency.explanation
    pages := sequence.pages
    terminalReason := sequence.terminalReason
    paginationConsistency := consistency
    requestFingerprint := B.digest.payloadFingerprint (.obj [("pageSize", .ofNat pageSize),
      ("paginationConsistency", .str consistency.text)]) }

/-- `requirePositiveInteger(pageSize, 'pageSize', MAX_STOCK_GOODS_PAGE_SIZE)`. -/
def stockPageSize (pageSize : Option Int) : Except JsError Nat :=
  match pageSize with
  | some n => if n < 1 ∨ 20 < n then .error ⟨none, "pageSize must be an integer from 1 to 20"⟩ else .ok n.toNat
  | none => .error ⟨none, "pageSize must be an integer from 1 to 20"⟩

/-- `fetchFullManagedStockAdvice`: the pages asked for, and what it returns. -/
def fetchFullManagedStockAdvice (endpoint : StockEndpoint) (o : AdviceOptions) (fetchedAt : String) :
    List Nat × Except JsError StockAdviceResult :=
  match stockPageSize o.pageSize with
  | .error e => ([], .error e)
  | .ok pageSize =>
    let fetched := fetchRows B endpoint o
    (fetched.1, fetched.2.bind fun (sequence, consistency) => adviceOf B pageSize sequence consistency fetchedAt)

end FullManagedBi.OpenApi
