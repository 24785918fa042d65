import FullManagedBi.Lib.Json
import FullManagedBi.Lib.Pattern
import FullManagedBi.OrderManagement.Contracts

/-!
# The entries of a row, and the personal data they must not have

`src/order-management/order-management-contract.mjs`: the texts that count as personal data, the scrub of a text,
and the check of the metrics, facts and details of a row. The facts are built by `factEntry`
(`scripts/sync_full_managed_order_management_sessions.mjs`) and by `fact` and `detail`
(`src/warehouse/order-management-materializer.mjs`). An entry of an allowlist carries the hash of its own name, so
that the check of the hash always passes; it is left out.
-/

namespace FullManagedBi.OrderManagement

open Lib

/-! ## Patterns -/

/-- `\w`. -/
def isWordChar (c : Char) : Bool := c.isAlphanum || c = '_'

/-- The characters are the same letter, whatever its case (`/i`). -/
def sameLetter (c d : Char) : Bool := c.toLower = d.toLower

/-- A text, whatever the case of its letters. -/
def textPattern (text : String) : Pattern := .word sameLetter text.toList

def oneOf (p : Char → Bool) : Pattern := .times p 1 (some 1)

/-- `first|second|...`. -/
def anyOf (first : Pattern) (others : List Pattern) : Pattern := others.foldl .alt first

/-- `DENIED_KEY_PATTERN`. -/
def deniedKeyPattern : Pattern :=
  anyOf (textPattern "address") [textPattern "phone", .seq (textPattern "tel") (.boundary isWordChar),
    textPattern "mobile", textPattern "contact", textPattern "receiver", textPattern "sender",
    textPattern "consignee", textPattern "recipient", textPattern "postcode", textPattern "postal",
    .seq (textPattern "zip") (.boundary isWordChar)]

/-- `1[3-9]\d{9}`. -/
def phoneNumber : Pattern :=
  .seq (oneOf (· = '1')) (.seq (oneOf fun c => '3' ≤ c && c ≤ '9') (.times Char.isDigit 9 (some 9)))

/-- `PHONE_PATTERN`. -/
def phonePattern : Pattern := .seq (.notBehind Char.isDigit) (.seq phoneNumber (.notAhead Char.isDigit))

/-- `LONG_DIGITS_PATTERN`. -/
def longDigitsPattern : Pattern := .times Char.isDigit 11 none

/-- `[A-Z0-9._%+-]`, whatever the case. -/
def isMailboxChar (c : Char) : Bool := c.isAlphanum || ['.', '_', '%', '+', '-'].contains c

/-- `[A-Z0-9.-]`, whatever the case. -/
def isDomainChar (c : Char) : Bool := c.isAlphanum || ['.', '-'].contains c

/-- `[A-Z0-9._%+-]+@[A-Z0-9.-]+\.[A-Z]{2,}`, whatever the case. -/
def emailAddress : Pattern :=
  .seq (.times isMailboxChar 1 none) <| .seq (oneOf (· = '@')) <| .seq (.times isDomainChar 1 none) <|
    .seq (oneOf (· = '.')) (.times Char.isAlpha 2 none)

/-- `EMAIL_PATTERN`. -/
def emailPattern : Pattern := .seq (.boundary isWordChar) (.seq emailAddress (.boundary isWordChar))

/-- `[-\s]`. -/
def isSeparator (c : Char) : Bool := c = '-' || isJsSpace c

/-- `0\d{2,3}[-\s]?\d{7,8}`. -/
def landlineNumber : Pattern :=
  .seq (oneOf (· = '0')) <| .seq (.times Char.isDigit 2 (some 3)) <| .seq (.times isSeparator 0 (some 1)) <|
    .times Char.isDigit 7 (some 8)

/-- `LANDLINE_PATTERN`. -/
def landlinePattern : Pattern := .seq (.notBehind Char.isDigit) (.seq landlineNumber (.notAhead Char.isDigit))

/-- `SENSITIVE_TEXT_PATTERN`. -/
def sensitiveTextPattern : Pattern :=
  anyOf (textPattern "联系人") [textPattern "联系电话", textPattern "收件人", textPattern "收货人",
    .seq (textPattern "手机") (.times (· = '号') 0 (some 1)), textPattern "电话", textPattern "邮箱",
    textPattern "电子邮件", textPattern "详细地址", textPattern "门牌", textPattern "街道", textPattern "contact",
    textPattern "recipient", textPattern "receiver", textPattern "consignee", textPattern "phone",
    textPattern "mobile", .seq (textPattern "e") (.seq (.times (· = '-') 0 (some 1)) (textPattern "mail")),
    textPattern "address"]

/-! ## Checks -/

def isDeniedKeyName (name : String) : Bool := deniedKeyPattern.test name.toList

def containsNumericPii (text : String) : Bool := phonePattern.test text.toList || longDigitsPattern.test text.toList

def containsSensitiveText (text : String) : Bool :=
  phonePattern.test text.toList || landlinePattern.test text.toList || emailPattern.test text.toList ||
    sensitiveTextPattern.test text.toList

def hasPersonalData (text : String) : Bool := containsNumericPii text || containsSensitiveText text

def scrubPiiText (value : Option Json) : Option String :=
  let text := jsTrim (textOrEmpty value)
  if text = "" then none else if hasPersonalData text then none else some text

/-! ## Fields -/

/-- `FIELD_NAMES`. -/
def fieldNames : PageId → List String
  | .deliveryNotes =>
    ["deliveryCode", "deliveryTypeCode", "deliveryTypeName", "expressCode", "expressCompanyCode",
      "expressCompanyName", "packageCount", "packageWeight", "warehouseCode", "warehouseName",
      "reservedParcelAt", "takenAt", "expectedReceiptAt", "receivedAt", "platformCreatedAt",
      "sourceFetchedAt", "orderNo", "skcName", "skuCode", "deliveryQuantity", "orderTypeCode",
      "orderTypeName", "prepareTypeName", "lineCount", "skuCount", "orderCount"]
  | .waybills =>
    ["deliveryCode", "deliveryTypeName", "expressCompanyCode", "expressCompanyName", "packageCount",
      "packageWeight", "reservedParcelAt", "takenAt", "expectedReceiptAt", "receivedAt",
      "platformCreatedAt", "sourceFetchedAt", "orderNo", "skcName", "skuCode", "deliveryQuantity",
      "trackingNumber", "logisticsCompanyCode", "logisticsCompanyName", "waybillType",
      "waybillTypeSellerName", "orderType", "orderTypeName", "serviceModeCode", "serviceModeCodeName",
      "addTime", "pickupTime", "signTime", "packQuantity", "sendGoodsQuantity", "actualWeight",
      "volumeWeight", "estimatedWeight", "finalSettlementWeight", "convertedFinalApportionment",
      "exemptionAmount", "actualDeductionAmount", "changedEstimatedApportionment",
      "differenceDeductedAmount", "supplierCurrencyId", "supplierCurrencyName", "estimateCombineNo",
      "estimatedApportionmentBillNo", "combineNumber", "apportionmentBillNoOrHedgeBillNo", "supplierTitle",
      "isFree", "isFreeName", "syStatus", "syStatusName", "rightsResultType", "rightsResultTypeName",
      "orderSystem", "collectBatchNo", "appointmentPickupTime", "apportionmentState", "finalFormula",
      "lineCount", "skuCount", "orderCount"]
  | .stockRecords =>
    ["supplierCode", "skc", "orderMode", "orderModeValue", "applyStatus", "stockType", "orderSign",
      "orderNo", "addTime", "timezone"]
  | .returnApplications =>
    ["returnTime", "addTime", "lastUpdateTime", "returnPlanNo", "state", "stateName", "returnReasonType",
      "returnReasonName", "returnDimensions", "returnDimensionsName", "originNo", "returnQuantity",
      "returnTotalAmount", "pricingCurrencyId", "currencyCode", "billCurrencyId", "billCurrencyCode",
      "returnDealType", "returnDealTypeName", "returnMode", "returnModeName", "returnGenerateQuantity",
      "returnScrappedQuantity", "returnVssQuantity", "warehouseIds"]
  | .returnOrders =>
    ["returnOrderNo", "returnWayType", "changeReturnWayType", "returnWayTypeName",
      "returnExpressCompanyCode", "returnExpressCompanyName", "expressNoList", "warehouseId",
      "warehouseName", "subWarehouseId", "subWarehouseName", "returnPlanNo", "returnOrderType",
      "returnOrderTypeName", "returnOrderStatus", "returnOrderStatusName", "addTime", "skcNameList",
      "supplierCodeList", "waitReturnQuantity", "returnQuantity", "returnReasonType", "returnReasonName",
      "returnScrapType", "returnScrapTypeName", "returnDimensions", "isSign", "signTime", "completeTime",
      "sellerOrderNo", "sellerOrderNoList", "sellerDeliveryNo", "sellerDeliveryNoList", "returnAmount",
      "currencyCode", "billCurrencyCode", "returnBoxNum", "waybillPickupTime", "waybillSignTime",
      "updateTime", "skcNum", "canApplyReconsider"]
  | .exceptions =>
    ["workorderNo", "categoryId", "categoryCode", "categoryName", "firstCategoryCode", "firstCategoryName",
      "applyType", "applyTypeName", "sceneType", "sceneTypeName", "statusValue", "statusName", "createTime",
      "externalSystem", "externalNo", "workorderType"]
  | .valueAddedServices =>
    ["orderNo", "subOrderNo", "serviceSiteId", "serviceSiteName", "purchaseNo", "newPurchaseNo", "skc",
      "multiPartFlag", "supplierProductNumber", "skcNum", "totalFlag", "totalFlagName", "orderState",
      "orderStateName", "actualTotalAmount", "lowValueFlag", "valueAddedResult", "defectiveQuantity",
      "qcInspectionNo", "orderScene", "returnFlag", "returnNo", "deliveryNo", "vendorReplenishState",
      "vendorReplenishStateName", "estimateIncrementAmount", "showFeeTag", "supplierSource",
      "supplierSourceName"]
  | .qualityReports =>
    ["purchaseCode", "qcInspectionNo", "skc", "hasDefectiveTotal", "hasDefectiveTotalName",
      "inspectionTime", "defectiveTotalQty", "qcType", "qcTypeName", "orderDefectiveTotalQty",
      "orderQcResult", "orderQcResultName", "inspectionResult", "inspectionResultName"]

def assertAllowlistedFieldName (pageId : PageId) (name : String) : Except JsError String := do
  let normalized := jsTrim name
  refuse (normalized ∉ fieldNames pageId) {
    message := s!"ORDER_MANAGEMENT_FIELD_NOT_ALLOWED: {pageId.text}/{normalized}" }
  refuse (isDeniedKeyName normalized) {
    message := s!"ORDER_MANAGEMENT_FIELD_DENIED_PII: {pageId.text}/{normalized}" }
  return normalized

/-! ## Entries -/

def entryJson (name : String) (value : Json) : Json := .obj [("name", .str name), ("value", value)]

def sliceText (maximum : Nat) (text : String) : String := String.ofList (jsSlice maximum text.toList)

def textEntry (maximum : Nat) (pageId : PageId) (name : String) (value : Option Json) :
    Except JsError (Option Json) := do
  let _ ← assertAllowlistedFieldName pageId name
  return (scrubPiiText value).map fun text => entryJson name (.str (sliceText maximum text))

def factEntry : PageId → String → Option Json → Except JsError (Option Json) := textEntry 512

def fact : PageId → String → Option Json → Except JsError (Option Json) := textEntry 512

def detail (pageId : PageId) (name : String) (value : Option Json) : Except JsError (Option Json) := do
  let _ ← assertAllowlistedFieldName pageId name
  match nullish value none with
  | none => return none
  | some (.num n) => return some (entryJson name (.num n))
  | some value => textEntry 256 pageId name (some value)

def entryError (pageId : PageId) (kind : String) (index : Nat) (entry : Json) : Option String :=
  match entry with
  | .obj fields =>
    if ∃ field ∈ fields, field.1 ∉ ["name", "value"] then some s!"{kind}[{index}] contains unsupported keys"
    else match entry.field? "name" with
      | some (.str name) =>
        if name = "" then some s!"{kind}[{index}].name is required"
        else match assertAllowlistedFieldName pageId name with
          | .error _ => some s!"{kind}[{index}].name is not allowlisted"
          | .ok _ =>
            match entry.field? "value" with
            | some .null | some (.num _) => none
            | some (.str text) =>
              if hasPersonalData text then some s!"{kind}[{index}].value contains sensitive text" else none
            | some (.bool b) =>
              if hasPersonalData (Json.bool b).text then some s!"{kind}[{index}].value contains sensitive text"
              else none
            | _ => some s!"{kind}[{index}].value must be text or number"
      | _ => some s!"{kind}[{index}].name is required"
  | _ => some s!"{kind}[{index}] must be an object"

def validateEntryArray (pageId : PageId) (values : Option Json) (kind : String) : List String :=
  match values with
  | some (.arr entries) => entries.zipIdx.filterMap fun (entry, index) => entryError pageId kind index entry
  | _ => [s!"{kind} must be an array"]

/-! ## Rows -/

/-- `ORDER_MANAGEMENT_ROW_KEYS`. -/
def rowKeys : List String :=
  ["id", "storeCode", "statusCode", "statusName", "createdAt", "updatedAt", "primary", "secondary", "tags", "metrics",
    "facts", "details"]

def isNonEmptyText : Option Json → Bool
  | some (.str text) => text ≠ ""
  | _ => false

/-- The value is a text, `null` or `undefined`. -/
def isTextOrNullish : Option Json → Bool
  | none | some .null | some (.str _) => true
  | _ => false

def isNoText : Json → Bool
  | .str _ => false
  | _ => true

def isSensitive (value : Option Json) : Bool :=
  match nullish value none with
  | some value => containsSensitiveText value.text
  | none => false

def areTags : Option Json → Bool
  | some (.arr tags) => !tags.any isNoText
  | _ => false

def hasSensitiveTag : Option Json → Bool
  | some (.arr tags) => tags.any fun tag => containsSensitiveText (textOrEmpty (some tag))
  | _ => false

/-- The value of an instant is no date. `isDate` says of which values `new Date(value)` is one. -/
def isBadInstant (isDate : Json → Bool) (value : Option Json) : Bool :=
  match value with
  | none | some .null => false
  | some (.str "") => true
  | some value => !isDate value

/-- `validateOrderManagementRow`: its errors. -/
def validateOrderManagementRow (isDate : Json → Bool) (pageId : PageId) (row : Json) : List String :=
  match row with
  | .obj fields =>
    (rowKeys.filter fun key => (row.field? key).isNone).map (fun key => s!"row.{key} is required") ++
      (if ∃ field ∈ fields, field.1 ∉ rowKeys then ["row contains unsupported keys"] else []) ++
      (if isNonEmptyText (row.field? "id") then [] else ["row.id must be a non-empty string"]) ++
      (if isNonEmptyText (row.field? "storeCode") then [] else ["row.storeCode must be a non-empty string"]) ++
      (["statusCode", "statusName", "primary", "secondary"].filter fun key => !isTextOrNullish (row.field? key)).map
        (fun key => s!"row.{key} must be a string or null") ++
      (if areTags (row.field? "tags") then [] else ["row.tags must be an array of strings"]) ++
      (["statusName", "primary", "secondary"].filter fun key => isSensitive (row.field? key)).map
        (fun key => s!"row.{key} contains sensitive text") ++
      (if hasSensitiveTag (row.field? "tags") then ["row.tags contains sensitive text"] else []) ++
      validateEntryArray pageId (row.field? "metrics") "row.metrics" ++
      validateEntryArray pageId (row.field? "facts") "row.facts" ++
      validateEntryArray pageId (row.field? "details") "row.details" ++
      (["createdAt", "updatedAt"].filter fun key => isBadInstant isDate (row.field? key)).map
        (fun key => s!"row.{key} is not a valid instant")
  | _ => ["row must be an object"]

end FullManagedBi.OrderManagement
