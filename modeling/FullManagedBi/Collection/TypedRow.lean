import FullManagedBi.Lib.JsonProjection
import FullManagedBi.Collection.FactRepository
import FullManagedBi.OrderManagement.RowContract

/-!
# The typed rows of the v4 facts

`buildTypedRow` of `src/warehouse/full-webapi-fact-repository.mjs` types a platform record for one of seven pages: the
columns of `PAGE_SPECS` are coerced one by one, identifiers are hashed, and the row is sealed by two digests. The
version token is the digest of the fields of the record that its endpoint's allowlist names, the payload hash that of
the entity, the token and the typed columns. Both texts are written by `canonicalJson`, which is `JSON.stringify` with
the sorted names of the value as the list of names to write.
-/

namespace FullManagedBi.Collection

open Lib
open OrderManagement (anyOf hasPersonalData isDeniedKeyName isWordChar scrubPiiText textPattern)

/-! ## Pages -/

/-- The `type` of a column, with the `max` of a text. -/
inductive ColumnType where
  | hash
  | text (max : Nat)
  | int
  | flag
  | numeric
  | instant
  | char3
  deriving DecidableEq

/-- A column of a page, and the field of the record it is read from. -/
structure ColumnSpec where
  source : String
  column : String
  type : ColumnType
  deriving DecidableEq

/-- The verified fields of `ORDER_MANAGEMENT_ENDPOINT_FIELD_ALLOWLISTS`, of the endpoint of a page. -/
def fieldAllowlist : PageId → List String
  | .stockRecords =>
    ["id", "supplierCode", "skc", "orderMode", "orderModeValue", "applyStatus", "stockType", "orderSign",
     "orderNo", "addTime", "timezone"]
  | .waybills =>
    ["id", "trackingNumber", "logisticsCompanyCode", "logisticsCompanyName", "waybillType",
     "waybillTypeSellerName", "orderType", "orderTypeName", "serviceModeCode", "serviceModeCodeName",
     "addTime", "pickupTime", "signTime", "packQuantity", "sendGoodsQuantity", "actualWeight", "volumeWeight",
     "estimatedWeight", "finalSettlementWeight", "convertedFinalApportionment", "exemptionAmount",
     "actualDeductionAmount", "changedEstimatedApportionment", "differenceDeductedAmount",
     "supplierCurrencyId", "supplierCurrencyName", "estimateCombineNo", "estimatedApportionmentBillNo",
     "combineNumber", "apportionmentBillNoOrHedgeBillNo", "supplierTitle", "isFree", "isFreeName", "syStatus",
     "syStatusName", "rightsResultType", "rightsResultTypeName", "orderSystem", "collectBatchNo",
     "appointmentPickupTime", "apportionmentState", "finalFormula"]
  | .returnApplications =>
    ["id", "returnTime", "addTime", "lastUpdateTime", "returnPlanNo", "state", "stateName", "returnReasonType",
     "returnReasonName", "returnDimensions", "returnDimensionsName", "originNo", "returnQuantity",
     "returnTotalAmount", "pricingCurrencyId", "currencyCode", "billCurrencyId", "billCurrencyCode",
     "returnDealType", "returnDealTypeName", "returnMode", "returnModeName", "returnGenerateQuantity",
     "returnScrappedQuantity", "returnVssQuantity", "warehouseIds"]
  | .returnOrders =>
    ["id", "returnOrderNo", "returnWayType", "changeReturnWayType", "returnWayTypeName",
     "returnExpressCompanyCode", "returnExpressCompanyName", "expressNoList", "warehouseId", "warehouseName",
     "subWarehouseId", "subWarehouseName", "returnPlanNo", "returnOrderType", "returnOrderTypeName",
     "returnOrderStatus", "returnOrderStatusName", "addTime", "skcNameList", "supplierCodeList",
     "waitReturnQuantity", "returnQuantity", "returnReasonType", "returnReasonName", "returnScrapType",
     "returnScrapTypeName", "returnDimensions", "isSign", "signTime", "completeTime", "sellerOrderNo",
     "sellerOrderNoList", "sellerDeliveryNo", "sellerDeliveryNoList", "returnAmount", "currencyCode",
     "billCurrencyCode", "returnBoxNum", "waybillPickupTime", "waybillSignTime", "updateTime", "skcNum",
     "canApplyReconsider"]
  | .exceptions =>
    ["id", "workorderNo", "categoryId", "categoryCode", "categoryName", "firstCategoryCode",
     "firstCategoryName", "applyType", "applyTypeName", "sceneType", "sceneTypeName", "statusValue",
     "statusName", "createTime", "externalSystem", "externalNo", "workorderType"]
  | .valueAddedServices =>
    ["id", "orderNo", "subOrderNo", "serviceSiteId", "serviceSiteName", "purchaseNo", "newPurchaseNo", "skc",
     "multiPartFlag", "supplierProductNumber", "skcNum", "totalFlag", "totalFlagName", "orderState",
     "orderStateName", "actualTotalAmount", "lowValueFlag", "valueAddedResult", "defectiveQuantity",
     "qcInspectionNo", "orderScene", "returnFlag", "returnNo", "deliveryNo", "vendorReplenishState",
     "vendorReplenishStateName", "estimateIncrementAmount", "showFeeTag", "supplierSource",
     "supplierSourceName"]
  | .qualityReports =>
    ["purchaseCode", "qcInspectionNo", "skc", "hasDefectiveTotal", "hasDefectiveTotalName", "inspectionTime",
     "defectiveTotalQty", "qcType", "qcTypeName", "orderDefectiveTotalQty", "orderQcResult",
     "orderQcResultName", "inspectionResult", "inspectionResultName"]

/-- `spec.entityField`. -/
def PageId.entityField : PageId → String
  | .stockRecords => "id"
  | .waybills => "trackingNumber"
  | .returnApplications => "id"
  | .returnOrders => "returnOrderNo"
  | .exceptions => "workorderNo"
  | .valueAddedServices => "id"
  | .qualityReports => "qcInspectionNo"

/-- `spec.sourceUpdatedField`. -/
def PageId.sourceUpdatedField : PageId → Option String
  | .stockRecords => some "addTime"
  | .waybills => some "signTime"
  | .returnApplications => some "lastUpdateTime"
  | .returnOrders => some "updateTime"
  | .exceptions => some "createTime"
  | .valueAddedServices => none
  | .qualityReports => some "inspectionTime"

/-- `spec.columns`. -/
def PageId.columns : PageId → List ColumnSpec
  | .stockRecords =>
    [⟨"orderNo", "order_no_hash", .hash⟩, ⟨"supplierCode", "supplier_code", .text 64⟩,
     ⟨"skc", "skc", .text 64⟩, ⟨"orderMode", "order_mode", .int⟩,
     ⟨"orderModeValue", "order_mode_value", .text 120⟩, ⟨"applyStatus", "apply_status", .int⟩,
     ⟨"stockType", "stock_type", .int⟩, ⟨"orderSign", "order_sign", .text 120⟩,
     ⟨"addTime", "add_time", .instant⟩, ⟨"timezone", "timezone", .text 32⟩]
  | .waybills =>
    [⟨"collectBatchNo", "collect_batch_no_hash", .hash⟩,
     ⟨"estimateCombineNo", "estimate_combine_no_hash", .hash⟩,
     ⟨"estimatedApportionmentBillNo", "estimated_apportionment_bill_no_hash", .hash⟩,
     ⟨"combineNumber", "combine_number_hash", .hash⟩,
     ⟨"apportionmentBillNoOrHedgeBillNo", "apportionment_bill_no_hash", .hash⟩,
     ⟨"logisticsCompanyCode", "logistics_company_code", .text 64⟩,
     ⟨"logisticsCompanyName", "logistics_company_name", .text 160⟩, ⟨"waybillType", "waybill_type", .int⟩,
     ⟨"waybillTypeSellerName", "waybill_type_seller_name", .text 120⟩, ⟨"orderType", "order_type", .int⟩,
     ⟨"orderTypeName", "order_type_name", .text 120⟩, ⟨"serviceModeCode", "service_mode_code", .int⟩,
     ⟨"serviceModeCodeName", "service_mode_code_name", .text 120⟩, ⟨"addTime", "add_time", .instant⟩,
     ⟨"pickupTime", "pickup_time", .instant⟩, ⟨"signTime", "sign_time", .instant⟩,
     ⟨"appointmentPickupTime", "appointment_pickup_time", .instant⟩, ⟨"packQuantity", "pack_quantity", .int⟩,
     ⟨"sendGoodsQuantity", "send_goods_quantity", .int⟩, ⟨"actualWeight", "actual_weight", .numeric⟩,
     ⟨"volumeWeight", "volume_weight", .numeric⟩, ⟨"estimatedWeight", "estimated_weight", .numeric⟩,
     ⟨"finalSettlementWeight", "final_settlement_weight", .numeric⟩,
     ⟨"convertedFinalApportionment", "converted_final_apportionment", .numeric⟩,
     ⟨"exemptionAmount", "exemption_amount", .numeric⟩,
     ⟨"actualDeductionAmount", "actual_deduction_amount", .numeric⟩,
     ⟨"changedEstimatedApportionment", "changed_estimated_apportionment", .numeric⟩,
     ⟨"differenceDeductedAmount", "difference_deducted_amount", .numeric⟩,
     ⟨"supplierCurrencyId", "supplier_currency_id", .int⟩,
     ⟨"supplierCurrencyName", "supplier_currency_name", .text 64⟩, ⟨"isFree", "is_free", .flag⟩,
     ⟨"isFreeName", "is_free_name", .text 120⟩, ⟨"syStatus", "sy_status", .int⟩,
     ⟨"syStatusName", "sy_status_name", .text 120⟩, ⟨"rightsResultType", "rights_result_type", .int⟩,
     ⟨"rightsResultTypeName", "rights_result_type_name", .text 120⟩, ⟨"orderSystem", "order_system", .int⟩,
     ⟨"apportionmentState", "apportionment_state", .int⟩]
  | .returnApplications =>
    [⟨"returnPlanNo", "return_plan_no_hash", .hash⟩, ⟨"originNo", "origin_no_hash", .hash⟩,
     ⟨"returnTime", "return_time", .instant⟩, ⟨"addTime", "add_time", .instant⟩,
     ⟨"lastUpdateTime", "last_update_time", .instant⟩, ⟨"state", "state", .int⟩,
     ⟨"stateName", "state_name", .text 120⟩, ⟨"returnReasonType", "return_reason_type", .int⟩,
     ⟨"returnReasonName", "return_reason_name", .text 160⟩, ⟨"returnDimensions", "return_dimensions", .int⟩,
     ⟨"returnDimensionsName", "return_dimensions_name", .text 120⟩,
     ⟨"returnQuantity", "return_quantity", .int⟩, ⟨"returnTotalAmount", "return_total_amount", .numeric⟩,
     ⟨"pricingCurrencyId", "pricing_currency_id", .int⟩, ⟨"currencyCode", "currency_code", .char3⟩,
     ⟨"billCurrencyId", "bill_currency_id", .int⟩, ⟨"billCurrencyCode", "bill_currency_code", .char3⟩,
     ⟨"returnDealType", "return_deal_type", .int⟩, ⟨"returnDealTypeName", "return_deal_type_name", .text 120⟩,
     ⟨"returnMode", "return_mode", .int⟩, ⟨"returnModeName", "return_mode_name", .text 120⟩,
     ⟨"returnGenerateQuantity", "return_generate_quantity", .int⟩,
     ⟨"returnScrappedQuantity", "return_scrapped_quantity", .int⟩,
     ⟨"returnVssQuantity", "return_vss_quantity", .int⟩]
  | .returnOrders =>
    [⟨"returnPlanNo", "return_plan_no_hash", .hash⟩, ⟨"sellerOrderNo", "seller_order_no_hash", .hash⟩,
     ⟨"sellerDeliveryNo", "seller_delivery_no_hash", .hash⟩, ⟨"returnWayType", "return_way_type", .int⟩,
     ⟨"changeReturnWayType", "change_return_way_type", .int⟩,
     ⟨"returnWayTypeName", "return_way_type_name", .text 120⟩,
     ⟨"returnExpressCompanyCode", "return_express_company_code", .text 64⟩,
     ⟨"returnExpressCompanyName", "return_express_company_name", .text 160⟩,
     ⟨"warehouseId", "warehouse_id", .int⟩, ⟨"warehouseName", "warehouse_name", .text 160⟩,
     ⟨"subWarehouseId", "sub_warehouse_id", .int⟩, ⟨"subWarehouseName", "sub_warehouse_name", .text 160⟩,
     ⟨"returnOrderType", "return_order_type", .int⟩,
     ⟨"returnOrderTypeName", "return_order_type_name", .text 120⟩,
     ⟨"returnOrderStatus", "return_order_status", .int⟩,
     ⟨"returnOrderStatusName", "return_order_status_name", .text 120⟩, ⟨"addTime", "add_time", .instant⟩,
     ⟨"signTime", "sign_time", .instant⟩, ⟨"completeTime", "complete_time", .instant⟩,
     ⟨"waybillPickupTime", "waybill_pickup_time", .instant⟩,
     ⟨"waybillSignTime", "waybill_sign_time", .instant⟩, ⟨"updateTime", "update_time", .instant⟩,
     ⟨"waitReturnQuantity", "wait_return_quantity", .int⟩, ⟨"returnQuantity", "return_quantity", .int⟩,
     ⟨"returnBoxNum", "return_box_num", .int⟩, ⟨"skcNum", "skc_num", .int⟩,
     ⟨"returnReasonType", "return_reason_type", .int⟩, ⟨"returnReasonName", "return_reason_name", .text 160⟩,
     ⟨"returnScrapType", "return_scrap_type", .int⟩,
     ⟨"returnScrapTypeName", "return_scrap_type_name", .text 120⟩,
     ⟨"returnDimensions", "return_dimensions", .int⟩, ⟨"isSign", "is_sign", .flag⟩,
     ⟨"canApplyReconsider", "can_apply_reconsider", .flag⟩, ⟨"returnAmount", "return_amount", .numeric⟩,
     ⟨"currencyCode", "currency_code", .char3⟩, ⟨"billCurrencyCode", "bill_currency_code", .char3⟩]
  | .exceptions =>
    [⟨"externalNo", "external_no_hash", .hash⟩, ⟨"categoryId", "category_id", .int⟩,
     ⟨"categoryCode", "category_code", .text 64⟩, ⟨"categoryName", "category_name", .text 160⟩,
     ⟨"firstCategoryCode", "first_category_code", .text 64⟩,
     ⟨"firstCategoryName", "first_category_name", .text 160⟩, ⟨"applyType", "apply_type", .int⟩,
     ⟨"applyTypeName", "apply_type_name", .text 160⟩, ⟨"sceneType", "scene_type", .int⟩,
     ⟨"sceneTypeName", "scene_type_name", .text 160⟩, ⟨"statusValue", "status_value", .int⟩,
     ⟨"statusName", "status_name", .text 160⟩, ⟨"createTime", "create_time", .instant⟩,
     ⟨"externalSystem", "external_system", .text 64⟩, ⟨"workorderType", "workorder_type", .int⟩]
  | .valueAddedServices =>
    [⟨"orderNo", "order_no_hash", .hash⟩, ⟨"subOrderNo", "sub_order_no_hash", .hash⟩,
     ⟨"purchaseNo", "purchase_no_hash", .hash⟩, ⟨"newPurchaseNo", "new_purchase_no_hash", .hash⟩,
     ⟨"qcInspectionNo", "qc_inspection_no_hash", .hash⟩, ⟨"returnNo", "return_no_hash", .hash⟩,
     ⟨"deliveryNo", "delivery_no_hash", .hash⟩, ⟨"serviceSiteId", "service_site_id", .int⟩,
     ⟨"serviceSiteName", "service_site_name", .text 160⟩, ⟨"skc", "skc", .text 64⟩,
     ⟨"multiPartFlag", "multi_part_flag", .flag⟩,
     ⟨"supplierProductNumber", "supplier_product_number", .text 64⟩, ⟨"skcNum", "skc_num", .int⟩,
     ⟨"totalFlag", "total_flag", .flag⟩, ⟨"totalFlagName", "total_flag_name", .text 120⟩,
     ⟨"orderState", "order_state", .int⟩, ⟨"orderStateName", "order_state_name", .text 120⟩,
     ⟨"lowValueFlag", "low_value_flag", .flag⟩, ⟨"valueAddedResult", "value_added_result", .int⟩,
     ⟨"defectiveQuantity", "defective_quantity", .int⟩, ⟨"orderScene", "order_scene", .int⟩,
     ⟨"returnFlag", "return_flag", .flag⟩, ⟨"vendorReplenishState", "vendor_replenish_state", .int⟩,
     ⟨"vendorReplenishStateName", "vendor_replenish_state_name", .text 120⟩,
     ⟨"showFeeTag", "show_fee_tag", .flag⟩, ⟨"supplierSource", "supplier_source", .int⟩,
     ⟨"supplierSourceName", "supplier_source_name", .text 120⟩]
  | .qualityReports =>
    [⟨"purchaseCode", "purchase_code_hash", .hash⟩, ⟨"skc", "skc", .text 64⟩,
     ⟨"hasDefectiveTotal", "has_defective_total", .flag⟩,
     ⟨"hasDefectiveTotalName", "has_defective_total_name", .text 120⟩,
     ⟨"inspectionTime", "inspection_time", .instant⟩, ⟨"defectiveTotalQty", "defective_total_qty", .int⟩,
     ⟨"qcType", "qc_type", .int⟩, ⟨"qcTypeName", "qc_type_name", .text 120⟩,
     ⟨"orderDefectiveTotalQty", "order_defective_total_qty", .int⟩, ⟨"orderQcResult", "order_qc_result", .int⟩,
     ⟨"orderQcResultName", "order_qc_result_name", .text 120⟩, ⟨"inspectionResult", "inspection_result", .int⟩,
     ⟨"inspectionResultName", "inspection_result_name", .text 120⟩]

/-! ## Values -/

/-- What a row takes from the engine: the digest, `Number(text)` where it is finite, the letters of a case, and
`new Date` of a text or a number, in milliseconds, where it is a date. -/
structure RowBuiltins where
  digest : Digest
  number : String → Option JsNumber
  written_number : ∀ text n, number text = some n → n.Written
  upper : String → String
  lower : String → String
  dateOfText : String → Option Int
  dateOfNumber : JsNumber → Option Int

/-- `V4_KEY_DENIED_PATTERN`. -/
def keyDeniedPattern : Pattern :=
  anyOf (textPattern "cookie") [textPattern "token", textPattern "secret", textPattern "password",
    textPattern "authorization", textPattern "credential",
    .seq (.boundary isWordChar) (.seq (textPattern "csrf") (.boundary isWordChar)),
    .seq (textPattern "api") (.seq (.times (fun c => isJsSpace c || c = '_' || c = '-') 0 none) (textPattern "key")),
    textPattern "buyername", textPattern "returnaddress", textPattern "drivername"]

/-- `isDeniedKeyName(key) || V4_KEY_DENIED_PATTERN.test(key)`. -/
def isSensitiveKey (key : String) : Bool := isDeniedKeyName key || keyDeniedPattern.test key.toList

/-- What the pattern of a key accepts: 1 to 200 letters, digits and characters of `.`, `_`, `:`, `/`, `-`. -/
def isKeyText (text : String) : Bool :=
  let chars := text.toList
  decide (1 ≤ chars.length ∧ chars.length ≤ 200) &&
    chars.all fun c => c.isAlphanum || ['.', '_', ':', '/', '-'].contains c

/-- `CURRENCY_CODE_PATTERN`. -/
def isCurrencyCode (text : String) : Bool := decide (text.toList.length = 3) && text.toList.all (·.isUpper)

def isNegative : JsNumber → Bool
  | .int n => n < 0
  | .large text | .fraction text => text.toList.head? = some '-'

/-- The value is `null` or the empty text. -/
def isBlank : Json → Bool
  | .null => true
  | .str text => text = ""
  | _ => false

namespace RowBuiltins

variable (R : RowBuiltins)

/-- `sha256Hex`: the domain and the value. -/
def sha256Hex (domain value : String) : String := R.digest.sha256Hex (domain ++ value)

/-- `typeof value === 'number' ? value : Number(value)`, of a value that is not `null`. -/
def toNumber : Json → Option JsNumber
  | .num n => some n
  | .bool b => some (.int (if b then 1 else 0))
  | value => R.number value.text

/-- `isoInstant`: the milliseconds of the date. -/
def isoInstant (value : Json) : Option Int :=
  if isBlank value then none
  else match value with
    | .num n => R.dateOfNumber n
    | .bool b => R.dateOfNumber (.int (if b then 1 else 0))
    | value => R.dateOfText value.text

/-- `fail('V4_TYPED_VALUE_INVALID')`. -/
def invalidValue {α : Type} : Except RowRefusal α := .error (.refused "V4_TYPED_VALUE_INVALID")

/-- The case `'hash'`: a business identifier. -/
def coerceHash (value : Json) : Except RowRefusal (Option Json) :=
  if isBlank value then .ok none
  else
    let text := jsTrim value.text
    if text = "" then .ok none
    else if isKeyText text then .ok (some (.str (R.sha256Hex "full-managed.v4.entity:" text)))
    else invalidValue

/-- The case `'text'`. -/
def coerceText (max : Nat) : Json → Except RowRefusal (Option Json)
  | .null => .ok none
  | value =>
    if hasPersonalData value.text then .error (.refused "V4_PII_VALUE_REJECTED")
    else match scrubPiiText (some value) with
      | none => .error (.refused "V4_PII_VALUE_REJECTED")
      | some text =>
        let trimmed := jsTrim text
        if trimmed = "" then .ok none else if max < jsLength trimmed then invalidValue else .ok (some (.str trimmed))

/-- The case `'int'`. -/
def coerceInt (value : Json) : Except RowRefusal (Option Json) :=
  if isBlank value then .ok none
  else match R.toNumber value with
    | some (.int n) => if 0 ≤ n ∧ n ≤ maxSafeInteger then .ok (some (.num (.int n))) else invalidValue
    | _ => invalidValue

/-- A flag that is no boolean: zero or one. -/
def coerceFlagNumber (value : Json) : Except RowRefusal (Option Json) :=
  match R.toNumber value with
  | some (.int n) => if n = 0 ∨ n = 1 then .ok (some (.num (.int n))) else invalidValue
  | _ => invalidValue

/-- The case `'flag'`: a boolean, a text that names one, or zero or one. -/
def coerceFlag (value : Json) : Except RowRefusal (Option Json) :=
  if isBlank value then .ok none
  else match value with
    | .bool b => .ok (some (.num (.int (if b then 1 else 0))))
    | .str s =>
      let text := R.lower (jsTrim s)
      if text = "true" then .ok (some (.num (.int 1)))
      else if text = "false" then .ok (some (.num (.int 0)))
      else if text = "" then .ok none
      else R.coerceFlagNumber value
    | _ => R.coerceFlagNumber value

/-- The case `'numeric'`. -/
def coerceNumeric (value : Json) : Except RowRefusal (Option Json) :=
  if isBlank value then .ok none
  else match R.toNumber value with
    | some n => if isNegative n then invalidValue else .ok (some (.num n))
    | none => invalidValue

/-- The case `'instant'`. -/
def coerceInstant (value : Json) : Except RowRefusal (Option Json) :=
  if isBlank value then .ok none
  else match R.isoInstant value with
    | some ms => .ok (some (.str (toIsoTimestamp ms)))
    | none => invalidValue

/-- The case `'char3'`. -/
def coerceChar3 (value : Json) : Except RowRefusal (Option Json) :=
  if isBlank value then .ok none
  else
    let text := R.upper (jsTrim value.text)
    if isCurrencyCode text then .ok (some (.str text)) else invalidValue

def coerceTypedValue : ColumnType → Json → Except RowRefusal (Option Json)
  | .hash => R.coerceHash
  | .text max => coerceText max
  | .int => R.coerceInt
  | .flag => R.coerceFlag
  | .numeric => R.coerceNumeric
  | .instant => R.coerceInstant
  | .char3 => R.coerceChar3

end RowBuiltins

/-! ## Rows -/

/-- `canonicalJson` of an object: `JSON.stringify` with the sorted names of its fields as the names to write. -/
def canonicalJson (fields : List (String × Json)) : String :=
  String.ofList (jsonChars ((Json.obj fields).project (jsSort (fields.map (·.1)))))

/-- `picked`: the fields of a record that the allowlist names. -/
def pickedFields (pageId : PageId) (fields : List (String × Json)) : List (String × Json) :=
  selectFields (fieldAllowlist pageId) fields

/-- The text the version token is the digest of, behind its domain. -/
def versionText (pageId : PageId) (fields : List (String × Json)) : String :=
  "full-managed.v4.version:" ++ canonicalJson (pickedFields pageId fields)

/-- The text the payload hash is the digest of, behind its domain. -/
def payloadText (entityKeyHash sourceVersionToken : String) (typed : List (String × Json)) : String :=
  "full-managed.v4.payload:" ++ canonicalJson
    [("entityKeyHash", .str entityKeyHash), ("sourceVersionToken", .str sourceVersionToken), ("typed", .obj typed)]

/-- The columns of a page that the record has a value for, in the order of the page. -/
def typedColumns (R : RowBuiltins) (fields : List (String × Json)) :
    List ColumnSpec → Except RowRefusal (List (String × Json))
  | [] => .ok []
  | spec :: specs => do
    let coerced ← R.coerceTypedValue spec.type (((Json.obj fields).field? spec.source).getD .null)
    let rest ← typedColumns R fields specs
    return (coerced.map fun value => (spec.column, value)).toList ++ rest

def entityText (pageId : PageId) (fields : List (String × Json)) : Except RowRefusal String :=
  match nullish ((Json.obj fields).field? pageId.entityField) none with
  | none => .error (.refused "V4_ENTITY_KEY_MISSING")
  | some entity =>
    let text := jsTrim entity.text
    if text = "" then .error (.refused "V4_ENTITY_KEY_MISSING")
    else if isKeyText text then .ok text
    else .error (.refused "V4_ENTITY_KEY_INVALID")

def rejectSensitiveKeys (keys : List String) : Except RowRefusal Unit :=
  if keys.any isSensitiveKey then .error (.refused "V4_SENSITIVE_KEY_REJECTED") else .ok ()

def buildTypedRow (R : RowBuiltins) (pageId : PageId) : Json → Except RowRefusal TypedRow
  | .obj fields => do
    rejectSensitiveKeys ((pickedFields pageId fields).map (·.1))
    let entity ← entityText pageId fields
    -- Any sensitive key of the record refuses it, whether or not the allowlist names it.
    rejectSensitiveKeys (fields.map (·.1))
    let sourceVersionToken := R.digest.sha256Hex (versionText pageId fields)
    let typed ← typedColumns R fields pageId.columns
    let entityKeyHash := R.sha256Hex "full-managed.v4.entity:" entity
    return {
      entityKeyHash
      sourceVersionToken
      sourceUpdatedAt := (pageId.sourceUpdatedField.bind (Json.obj fields).field?).bind R.isoInstant
      payloadHash := R.digest.sha256Hex (payloadText entityKeyHash sourceVersionToken typed)
      typed }
  | _ => .error (.refused "V4_ROW_NOT_OBJECT")

def canonicalTypedRow (storeCode : String) (row : TypedRow) : String :=
  canonicalJson
    [("storeCode", .str storeCode), ("entityKeyHash", .str row.entityKeyHash),
      ("sourceVersionToken", .str row.sourceVersionToken),
      ("sourceUpdatedAt", .ofOption (row.sourceUpdatedAt.map toIsoTimestamp)), ("payloadHash", .str row.payloadHash),
      ("typed", .str (canonicalJson row.typed))]

/-- The payload hash of a page, where the caller has none: the digest of its rows. -/
def typedPayloadHash (R : RowBuiltins) (storeCode : String) (rows : List TypedRow) : String :=
  R.sha256Hex "full-managed.v4.page-payload:"
    (String.ofList (jsonChars (.arr (rows.map fun row => .str (canonicalTypedRow storeCode row)))))

end FullManagedBi.Collection
