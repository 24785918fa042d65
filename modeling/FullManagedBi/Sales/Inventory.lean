import FullManagedBi.Lib.Action
import FullManagedBi.Lib.JsonText
import FullManagedBi.Lib.Sorting

/-!
# The SKU inventory, read in two sweeps

`fetchFullManagedSkuInventory` (`src/openapi/full-managed-sales.mjs`) scans the number list until two scans in
a row agree. A scan (`scanFullManagedSkuInventory`) reads pages until two of them are empty; it refuses a count
or a page size that changes, a SKU that comes twice, an SKC that comes on two pages, data after an empty page,
and in the end a count that is not the number of SKCs. The list is live: what the client answers may depend on
all requests before. The `details` of an error are left out.
-/

namespace FullManagedBi.Sales

open Lib

def openApiError {α : Type} (code message : String) : Except JsError α := .error { code := some code, message }

/-! ## One page -/

structure InventoryItem where
  skuCode : String
  skc : String
  designCode : Option String
  supplierSku : Option String
  attributeText : Option String
  deriving DecidableEq

structure InventoryPage where
  page : Nat
  perPage : Nat
  count : Nat
  items : List InventoryItem
  traceId : Option String
  message : Option String
  deriving DecidableEq

/-- `record`. -/
def recordAt (value : Option Json) (location : String) : Except JsError Json :=
  match value with
  | some (.obj fields) => .ok (.obj fields)
  | _ => openApiError "INVALID_RESPONSE_SHAPE" s!"{location} must be an object"

/-- `integer`. -/
def integerAt (value : Option Json) (location : String) (minimum : Nat) : Except JsError Nat :=
  match value with
  | some (.num (.int n)) =>
    if n < minimum ∨ maxSafeInteger < n.natAbs then
      openApiError "INVALID_RESPONSE_SHAPE" s!"{location} must be an integer >= {minimum}"
    else .ok n.toNat
  | _ => openApiError "INVALID_RESPONSE_SHAPE" s!"{location} must be an integer >= {minimum}"

def optionalText (value : Option Json) (location : String) : Except JsError (Option String) :=
  match nullish value none with
  | none => .ok none
  | some (.str text) => .ok (if jsTrim text = "" then none else some (jsTrim text))
  | some _ => openApiError "INVALID_RESPONSE_SHAPE" s!"{location} must be a string"

def requiredTextAt (value : Option Json) (location reason : String) : Except JsError String := do
  match ← optionalText value location with
  | some text => return text
  | none => openApiError "INVALID_RESPONSE_SHAPE" (location ++ reason)

def mapNumberRow (value : Json) (location : String) : Except JsError InventoryItem := do
  let item ← recordAt (some value) location
  let skuCode ← requiredTextAt (item.field? "sku_code") s!"{location}.sku_code" " is required"
  let skc ← requiredTextAt (item.field? "skc") s!"{location}.skc" " is required when number-list type=1"
  let designCode ← optionalText (item.field? "design_code") s!"{location}.design_code"
  let supplierSku ← optionalText (item.field? "supplier_sku") s!"{location}.supplier_sku"
  let attributeText ← optionalText (item.field? "attribute") s!"{location}.attribute"
  return { skuCode, skc, designCode, supplierSku, attributeText }

/-- `String(value)` of a value that may be `undefined`. -/
def textOfField : Option Json → String
  | none => "undefined"
  | some value => value.text

/-- `typeof value === 'string' ? value.slice(0, maximum) : null`. -/
def textSlice (value : Option Json) (maximum : Nat) : Option String :=
  match value with
  | some (.str text) => some (String.ofList (jsSlice maximum text.toList))
  | _ => none

def mapNumberRows (rows : List Json) : Except JsError (List InventoryItem) :=
  rows.zipIdx.mapM fun (row, index) => mapNumberRow row s!"response.info.list[{index}]"

def infoList (info : Json) : Except JsError (List Json) :=
  match info.field? "list" with
  | some (.arr rows) => .ok rows
  | _ => openApiError "INVALID_RESPONSE_SHAPE" "response.info.list must be an array"

/-- What `fetchFullManagedSkuInventoryPage` makes of the answer. -/
def readInventoryPage (page : Nat) (answer : Json) : Except JsError InventoryPage := do
  let body ← recordAt (some answer) "response"
  refuse (textOfField (body.field? "code") ≠ "0") {
    code := some "PLATFORM_ERROR"
    message := "/open-api/goods/number-list returned platform error " ++ textOfField (body.field? "code") }
  let info ← recordAt (body.field? "info") "response.info"
  let responsePage ← integerAt (info.field? "page") "response.info.page" 1
  let responsePageSize ← integerAt (info.field? "per_page") "response.info.per_page" 1
  let count ← integerAt (info.field? "count") "response.info.count" 0
  let rows ← infoList info
  refuse (responsePage ≠ page ∨ 100 < responsePageSize) {
    code := some "PAGINATION_MISMATCH", message := "number-list pagination metadata is inconsistent" }
  let items ← mapNumberRows rows
  return {
    page, perPage := responsePageSize, count, items
    traceId := textSlice (body.field? "traceId") 128, message := textSlice (body.field? "msg") 240 }

/-! ## Requests -/

/-- A request for a page of the number list. -/
structure PageRequest where
  page : Nat
  pageSize : Nat
  deriving DecidableEq

/-- The client: what it answers to a request after the requests before it. -/
abbrev InventoryClient := List PageRequest → Except JsError Json

/-- A program that makes requests; the state is the requests it made. -/
abbrev Inventory : Type → Type := Action (List PageRequest) JsError

/-- `client.request`. -/
def requestPage (client : InventoryClient) (page pageSize : Nat) : Inventory Json := do
  let made ← get
  modify (· ++ [{ page, pageSize }])
  MonadExcept.ofExcept (client made)

def fetchFullManagedSkuInventoryPage (client : InventoryClient) (page pageSize : Nat) :
    Inventory InventoryPage := do
  let answer ← requestPage client page pageSize
  MonadExcept.ofExcept (readInventoryPage page answer)

/-! ## One scan -/

structure PageEvidence where
  page : Nat
  perPage : Nat
  count : Nat
  recordCount : Nat
  skcCount : Nat
  traceId : Option String
  message : Option String
  deriving DecidableEq

/-- What a scan has read so far. `seenSkus` are the items by their code. -/
structure ScanState where
  items : List InventoryItem := []
  pages : List PageEvidence := []
  skcPages : List (String × Nat) := []
  advertisedCount : Option Nat := none
  responsePageSize : Option Nat := none
  consecutiveEmptyPages : Nat := 0
  deriving DecidableEq

/-- `JSON.stringify` of an optional text. -/
def optionalTextJson : Option String → List Char
  | some text => jsonString text
  | none => "null".toList

/-- `JSON.stringify` of an item. -/
def itemJson (item : InventoryItem) : List Char :=
  "\x7b\"skuCode\":".toList ++ (jsonString item.skuCode ++ (",\"skc\":".toList ++ (jsonString item.skc ++
    (",\"designCode\":".toList ++ (optionalTextJson item.designCode ++ (",\"supplierSku\":".toList ++
      (optionalTextJson item.supplierSku ++ (",\"attribute\":".toList ++
        (optionalTextJson item.attributeText ++ ['}'])))))))))

def scanItem (page maxItems : Nat) (scan : ScanState) (item : InventoryItem) : Except JsError ScanState :=
  match scan.items.find? (·.skuCode = item.skuCode), mapGet scan.skcPages item.skc with
  | some previous, _ =>
    openApiError (if itemJson previous = itemJson item then "PAGINATION_SKU_OVERLAP" else "DUPLICATE_SKU_DRIFT")
      ("number-list returned SKU " ++ item.skuCode ++ " more than once in one scan")
  | none, skcPage =>
    if skcPage.isSome ∧ skcPage ≠ some page then
      openApiError "PAGINATION_SKC_OVERLAP" "number-list split or repeated one SKC across pages"
    else if maxItems < scan.items.length + 1 then
      openApiError "PAGINATION_ITEM_LIMIT" "number-list exceeded the configured SKU safety limit"
    else .ok { scan with
      items := scan.items ++ [item]
      skcPages := if skcPage.isSome then scan.skcPages else scan.skcPages ++ [(item.skc, page)] }

/-- The value is set, and another one. -/
def Drifted (known : Option Nat) (value : Nat) : Prop := known ≠ none ∧ known ≠ some value

instance (known : Option Nat) (value : Nat) : Decidable (Drifted known value) :=
  inferInstanceAs (Decidable (_ ∧ _))

/-- What a scan makes of a page, up to whether it ends the scan. -/
def scanPage (maxItems : Nat) (scan : ScanState) (result : InventoryPage) : Except JsError ScanState := do
  refuse (Drifted scan.advertisedCount result.count) {
    code := some "PAGINATION_DRIFT", message := "number-list count changed during pagination" }
  refuse (Drifted scan.responsePageSize result.perPage) {
    code := some "PAGINATION_DRIFT", message := "number-list per_page changed during pagination" }
  let read ← result.items.foldlM (scanItem result.page maxItems) { scan with
    advertisedCount := some result.count, responsePageSize := some result.perPage }
  return { read with
    pages := read.pages ++ [{
      page := result.page, perPage := result.perPage, count := result.count
      recordCount := result.items.length, skcCount := (result.items.map (·.skc)).eraseDups.length
      traceId := result.traceId, message := result.message }] }

/-- The loop of `scanFullManagedSkuInventory` from a page on; `pagesLeft` counts up to `maxPages`. -/
def scanFrom (client : InventoryClient) (pageSize maxItems : Nat) :
    Nat → Nat → ScanState → Inventory ScanState
  | 0, _, _ => throw {
      code := some "PAGINATION_LIMIT", message := "number-list exceeded the configured page safety limit" }
  | pagesLeft + 1, page, scan => do
    let result ← fetchFullManagedSkuInventoryPage client page pageSize
    let scan ← MonadExcept.ofExcept (scanPage maxItems scan result)
    if result.items = [] then
      if scan.consecutiveEmptyPages + 1 < 2 then
        scanFrom client pageSize maxItems pagesLeft (page + 1)
          { scan with consecutiveEmptyPages := scan.consecutiveEmptyPages + 1 }
      else if scan.skcPages.length ≠ result.count then
        throw { code := some "PAGINATION_COUNT_MISMATCH"
                message := "number-list unique SKC count did not match the advertised type=1 count" }
      else return scan
    else if 0 < scan.consecutiveEmptyPages then
      throw { code := some "PAGINATION_EMPTY_GAP"
              message := "number-list returned data after an empty page in the same scan" }
    else if pagesLeft = 0 then
      throw { code := some "PAGINATION_LIMIT", message := "number-list did not reach an empty sentinel page" }
    else scanFrom client pageSize maxItems pagesLeft (page + 1) scan

/-! ## Sweeps -/

/-- `[...items].sort(...)`, which is stable. -/
def sortItems (L : LocaleOrder) (items : List InventoryItem) : List InventoryItem :=
  items.insertionSort fun left right => L.localeCompare left.skuCode right.skuCode ≠ .gt

structure InventoryScan where
  items : List InventoryItem
  pages : List PageEvidence
  count : Nat
  advertisedCount : Nat
  deriving DecidableEq

def scanFullManagedSkuInventory (L : LocaleOrder) (client : InventoryClient) (pageSize maxPages maxItems : Nat) :
    Inventory InventoryScan := do
  let scan ← scanFrom client pageSize maxItems maxPages 1 {}
  return {
    items := sortItems L scan.items, pages := scan.pages, count := scan.items.length
    advertisedCount := scan.advertisedCount.getD 0 }

/-- `canonicalInventory`: the text of the items in the order of their codes. -/
def canonicalInventory (L : LocaleOrder) (items : List InventoryItem) : List Char :=
  arrayText itemJson (sortItems L items)

structure StableInventory extends InventoryScan where
  sweepCount : Nat
  deriving DecidableEq

/-- The scan has the count and the content of the one before. -/
def SameSweep (L : LocaleOrder) (previous : Option InventoryScan) (current : InventoryScan) : Prop :=
  ∃ before, previous = some before ∧ current.advertisedCount = before.advertisedCount ∧
    canonicalInventory L current.items = canonicalInventory L before.items

instance (L : LocaleOrder) (previous : Option InventoryScan) (current : InventoryScan) :
    Decidable (SameSweep L previous current) :=
  match previous with
  | none => .isFalse nofun
  | some before =>
    decidable_of_iff (current.advertisedCount = before.advertisedCount ∧
        canonicalInventory L current.items = canonicalInventory L before.items)
      ⟨fun same => ⟨before, rfl, same⟩, fun ⟨_, here, same⟩ => Option.some.inj here ▸ same⟩

/-- The loop of `fetchFullManagedSkuInventory` from a sweep on. -/
def sweepFrom (L : LocaleOrder) (client : InventoryClient) (pageSize maxPages maxItems : Nat) :
    Nat → Nat → Option InventoryScan → Inventory StableInventory
  | 0, _, _ => throw {
      code := some "PAGINATION_UNSTABLE"
      message := "number-list did not produce two consecutive identical full inventory scans" }
  | sweepsLeft + 1, sweep, previous => do
    let current ← scanFullManagedSkuInventory L client pageSize maxPages maxItems
    if SameSweep L previous current then return { current with sweepCount := sweep }
    else sweepFrom L client pageSize maxPages maxItems sweepsLeft (sweep + 1) (some current)

structure SweepOptions where
  pageSize : Nat := 100
  maxPages : Nat := 100000
  maxItems : Nat := 1000000
  maxSweeps : Nat := 3
  deriving DecidableEq

def checkSweepOptions (options : SweepOptions) : Except JsError Unit := do
  refuse (options.pageSize < 1 ∨ 100 < options.pageSize) { message := "pageSize must be an integer from 1 to 100" }
  refuse (options.maxPages < 1 ∨ maxSafeInteger < options.maxPages) { message := "maxPages must be positive" }
  refuse (options.maxItems < 1 ∨ maxSafeInteger < options.maxItems) { message := "maxItems must be positive" }
  refuse (options.maxSweeps < 2 ∨ 3 < options.maxSweeps) { message := "maxSweeps must be an integer from 2 to 3" }

def fetchFullManagedSkuInventory (L : LocaleOrder) (client : InventoryClient) (options : SweepOptions) :
    Inventory StableInventory := do
  MonadExcept.ofExcept (checkSweepOptions options)
  sweepFrom L client options.pageSize options.maxPages options.maxItems options.maxSweeps 1 none

end FullManagedBi.Sales
