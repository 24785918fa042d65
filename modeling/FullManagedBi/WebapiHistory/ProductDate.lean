import FullManagedBi.WebapiHistory.FetchAudit

/-!
# The product list of one business date

`syncProductDate` (`src/webapi-history/sync.mjs`) reads the product list of a day page by page, most
sold first, and stops at the first page that cannot be followed by another one with sales. Every page
is audited on its own; a page that fails ends the day.
-/

namespace FullManagedBi.WebapiHistory

open Lib

/-! ## One page -/

/-- One source row of a product page: its `spu`, its name, and what `optionalCount` reads of its
sales. -/
structure ProductSourceRow where
  spu : Option String
  goodsName : Option String := none
  c1dSaleCnt : Option Nat
  deriving DecidableEq

/-- The body of a product page: what `optionalCount` reads of its count, and its rows. -/
structure ProductDiagnoseBody where
  count : Option Nat
  data : List ProductSourceRow
  deriving DecidableEq

def productKeyOf (row : ProductSourceRow) : Option String :=
  let productKey := jsTrim (row.spu.getD "")
  if productKey = "" ∨ productKey = "undefined" then none else some productKey

def productRowOf (storeCode : String) (businessDate : BusinessDate) (observedAt : Instant)
    (row : ProductSourceRow) : Option ProductRow :=
  match productKeyOf row, row.c1dSaleCnt with
  | some productKey, some salesQuantity =>
    if salesQuantity = 0 then none
    else
      let displayName := String.ofList (jsSlice 240 (jsTrim (row.goodsName.getD "")).toList)
      some {
        storeCode, businessDate, observedAt, salesQuantity
        productKey := String.ofList (jsSlice 160 productKey.toList)
        displayName := if displayName = "" then none else some displayName }
  | _, _ => none

def parseProductDiagnosePage (body : ProductDiagnoseBody) (storeCode : String)
    (businessDate : BusinessDate) (observedAt : Instant) : Except Thrown ProductPage :=
  match body.count with
  | none => .error ⟨some "HOME_PRODUCT_RESPONSE_INVALID"⟩
  | some count =>
    if count < body.data.length then .error ⟨some "HOME_PRODUCT_RESPONSE_INVALID"⟩
    else
      let orderedQuantities := body.data.map (·.c1dSaleCnt)
      if orderedQuantities.any (·.isNone) then .error ⟨some "HOME_PRODUCT_SALES_UNAVAILABLE"⟩
      else
        let quantities := orderedQuantities.map (·.getD 0)
        if (quantities.zip quantities.tail).any fun (previous, value) => previous < value then
          .error ⟨some "HOME_PRODUCT_SORT_INVALID"⟩
        else .ok {
          count
          sourceRowCount := body.data.length
          rejectedRowCount := (body.data.filter fun row => (productKeyOf row).isNone).length
          lastSalesQuantity := body.data.getLast?.bind (·.c1dSaleCnt)
          rows := body.data.filterMap (productRowOf storeCode businessDate observedAt) }

/-- `pageSize` of `syncProductDate`. -/
def productPageSize : Nat := 200

/-- The last page `buildProductDiagnoseListRequest` builds a request for. -/
def productPageLimit : Nat := 100000

/-- `hasAnotherPage` and `pageMayContainMoreSales`: the page may be followed by one with sales. -/
def ProductPage.MayContinue (page : ProductPage) (pageNum : Nat) : Prop :=
  pageNum * productPageSize < page.count ∧ page.sourceRowCount = productPageSize ∧
    0 < page.lastSalesQuantity.getD 0

instance (page : ProductPage) (pageNum : Nat) : Decidable (page.MayContinue pageNum) :=
  inferInstanceAs (Decidable (_ ∧ _ ∧ _))

/-! ## The pages of a date -/

/-- What the environment decides about one product page. -/
structure ProductReply extends Reply ProductDiagnoseBody where
  /-- How `upsertProducts` ends, where it has rows to write. -/
  upserted : Write := .done

/-- What `syncProductDate` returns. -/
inductive ProductDateResult where
  | done (accepted rejected sourceRows total pages : Nat)
  | failed (pageNum accepted rejected sourceRows : Nat) (errorCode : String)
  deriving DecidableEq

def ProductDateResult.ok : ProductDateResult → Bool
  | .done .. => true
  | .failed .. => false

def ProductDateResult.errorCode : ProductDateResult → Option String
  | .done .. => none
  | .failed _ _ _ _ code => some code

/-- `upsertProducts` of one page: without rows it opens no transaction. -/
def upsertProducts (write : Write) (storeCode : String) (businessDate : BusinessDate)
    (pageNum : Nat) (page : ProductPage) : Sync Unit :=
  let upserted := emit (.productsUpserted storeCode businessDate pageNum page)
  if page.rows = [] then upserted else write.perform upserted

/-- The day a product sync is about, and where it is made. -/
structure ProductDate where
  site : FetchSite
  storeCode : String
  businessDate : BusinessDate
  observedDate : BusinessDate
  deriving DecidableEq

def handleProductPage (day : ProductDate) (reply : ProductReply) (pageNum : Nat)
    (body : ProductDiagnoseBody) : Sync (Handled ProductPage) := do
  let parsed ← MonadExcept.ofExcept
    (parseProductDiagnosePage body day.storeCode day.businessDate reply.observedAt)
  upsertProducts reply.upserted day.storeCode day.businessDate pageNum parsed
  return {
    accepted := parsed.rows.length, rejected := parsed.rejectedRowCount
    total := some parsed.count, payload := parsed }

def syncProductPage (js : TextBuiltins) (day : ProductDate) (reply : ProductReply) (pageNum : Nat) :
    Sync (FetchResult ProductPage) :=
  requestAndAudit js day.site
    { storeCode := day.storeCode, endpointCode := .productDiagnoseList
      requestedStartDate := day.businessDate, requestedEndDate := day.businessDate
      request := .productDiagnoseList day.businessDate day.observedDate pageNum productPageSize
      observedAt := reply.observedAt }
    reply.toReply (handleProductPage day reply pageNum)

/-- What the pages read so far add up to. -/
structure ProductTotals where
  accepted : Nat := 0
  rejected : Nat := 0
  sourceRows : Nat := 0
  deriving DecidableEq

/-- The loop of `syncProductDate` from a page on. `pagesLeft` is the number of pages the request
builder still admits: past the last one it throws, outside the audited fetch. -/
def syncProductPages (js : TextBuiltins) (day : ProductDate) (replies : Nat → ProductReply) :
    Nat → Nat → ProductTotals → Sync ProductDateResult
  | 0, _, _ => throw ⟨some "HOME_PAGE_INVALID"⟩
  | pagesLeft + 1, pageNum, totals => do
    match ← syncProductPage js day (replies pageNum) pageNum with
    | .failed errorCode =>
      return .failed pageNum totals.accepted totals.rejected totals.sourceRows errorCode
    | .done accepted rejected total page =>
      let totals : ProductTotals := {
        accepted := totals.accepted + accepted
        rejected := totals.rejected + rejected
        sourceRows := totals.sourceRows + page.sourceRowCount }
      if page.MayContinue pageNum then
        syncProductPages js day replies pagesLeft (pageNum + 1) totals
      else
        return .done totals.accepted totals.rejected totals.sourceRows total pageNum

def syncProductDate (js : TextBuiltins) (day : ProductDate) (replies : Nat → ProductReply) :
    Sync ProductDateResult :=
  syncProductPages js day replies productPageLimit 1 {}

end FullManagedBi.WebapiHistory
