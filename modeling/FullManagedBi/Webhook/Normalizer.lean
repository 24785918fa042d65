import FullManagedBi.Lib.Json
import FullManagedBi.Webhook.HydrationRepository

/-!
# Webhook events

`normalizeFullManagedWebhookEvent` (`src/webhook/normalizer.mjs`) unpacks the payload of a webhook event
into its items, collects the objects of each item, and reads the key, the identifiers and the status of the
event off them. What it leaves to the hydration runner is a directive whose lookup has the keys of the
items.

The stack of the engine is a parameter, `stack`: `unpack` calls itself once for each array and each embedded
text, and throws where there is no room for the call.
-/

namespace FullManagedBi.Webhook

open Lib

/-- The builtins of the engine that a payload is read with. -/
structure PayloadBuiltins where
  /-- `JSON.parse`, or `none` where it throws. -/
  parse : String → Option Json
  /-- The letters and numbers of Unicode: what `\p{L}` and `\p{N}` match. -/
  isLetterOrNumber : Char → Bool

/-- Builtins that parse nothing, and are right on ASCII letters and digits. -/
def PayloadBuiltins.ascii : PayloadBuiltins := ⟨fun _ => none, Char.isAlphanum⟩

/-- The fields of an object, in the order of `Object.values`. -/
abbrev Fields := List (String × Json)

/-! ## The registry -/

/-- `family` of the event registry (`src/webhook/event-registry.mjs`). -/
inductive EventFamily where
  | productReceive | productAuditAllChannels | productAudit | productDeleteAudit | productQuota
  | rrpReview | rrpValidity | productCompliance | purchaseOrder | delivery | logisticsForecast
  | purchaseReturnApplication | purchaseReturn | shortage | authorizationChange | unknown
  deriving DecidableEq

/-- `event.family` as a text. -/
def EventFamily.text : EventFamily → String
  | .productReceive => "product_receive"
  | .productAuditAllChannels => "product_audit_all_channels"
  | .productAudit => "product_audit"
  | .productDeleteAudit => "product_delete_audit"
  | .productQuota => "product_quota"
  | .rrpReview => "rrp_review"
  | .rrpValidity => "rrp_validity"
  | .productCompliance => "product_compliance"
  | .purchaseOrder => "purchase_order"
  | .delivery => "delivery"
  | .logisticsForecast => "logistics_forecast"
  | .purchaseReturnApplication => "purchase_return_application"
  | .purchaseReturn => "purchase_return"
  | .shortage => "shortage"
  | .authorizationChange => "authorization_change"
  | .unknown => "unknown"

/-- `businessType` of the event registry. -/
inductive BusinessType where
  | product | store | purchaseOrder | delivery | logisticsForecast | purchaseReturnApplication
  | purchaseReturn | shortage | unknown
  deriving DecidableEq

structure WebhookEvent where
  eventCode : String
  eventPath : String
  family : EventFamily
  label : String
  businessType : BusinessType
  hydrationType : Option HydrationType
  deriving DecidableEq

/-- `FULL_MANAGED_WEBHOOK_EVENTS`. -/
def fullManagedWebhookEvents : List WebhookEvent := [
  ⟨"3000910", "/product_document_receive_status_notice", .productReceive, "商品接收", .product,
    some .productReadback⟩,
  ⟨"3001449", "/product_document_audit_status_notice_all_channels", .productAuditAllChannels,
    "全渠道商品审核", .product, some .productReadback⟩,
  ⟨"3001450", "/product_document_audit_status_notice", .productAudit, "商品审核", .product,
    some .productReadback⟩,
  ⟨"3001903", "/product_delete_audit", .productDeleteAudit, "商品删除审核", .product, some .productReadback⟩,
  ⟨"3001061", "/product_quota_change_notice", .productQuota, "商品额度变更", .store, some .quotaReadback⟩,
  ⟨"3001792", "/product_rrp_review_status_changed", .rrpReview, "建议零售价审核", .product,
    some .rrpReadback⟩,
  ⟨"3001793", "/product_rrp_validity_changed", .rrpValidity, "建议零售价有效期", .product,
    some .rrpReadback⟩,
  ⟨"3001104", "/product_compliance_change_notice", .productCompliance, "商品合规变更", .product,
    some .complianceReadback⟩,
  ⟨"3001435", "/purchase_order_notice", .purchaseOrder, "采购单", .purchaseOrder,
    some .purchaseOrderReadback⟩,
  ⟨"3001441", "/delivery_modify_notice", .delivery, "发货单变更", .delivery, some .deliveryReadback⟩,
  ⟨"3001765", "/logistics_forecast_result_notice", .logisticsForecast, "采购物流预报", .logisticsForecast,
    some .logisticsForecastReadback⟩,
  ⟨"3001744", "/purchase_order_return_application_notice", .purchaseReturnApplication, "采购退货申请",
    .purchaseReturnApplication, some .purchaseReturnApplicationReadback⟩,
  ⟨"3001801", "/purchase_order_return_notice", .purchaseReturn, "采购退货单", .purchaseReturn,
    some .purchaseReturnReadback⟩,
  ⟨"3001048", "/out_of_stock_notice", .shortage, "缺货需求", .shortage, some .shortageReadback⟩,
  ⟨"3001503", "/authorization_change_notice", .authorizationChange, "授权关系变更", .store,
    some .authorizationProbe⟩]

/-- `deliveryScope`. -/
inductive DeliveryScope where
  | store | appOnly
  deriving DecidableEq

/-! ## Texts -/

/-- `MAX_EMBEDDED_JSON_BYTES`. -/
def maxEmbeddedJsonBytes : Nat := 256 * 1024

/-- `MAX_VISITED_OBJECTS`. -/
def maxVisitedObjects : Nat := 256

/-- `MAX_DEPTH`. -/
def maxDepth : Nat := 5

variable (B : PayloadBuiltins)

def text (value : Json) : String := jsTrim (textOrEmpty (some value))

/-- A text cut to `maximum` code units, if all its characters are letters, digits or of a set of others. -/
def safeText (others : List Char) (maximum : Nat) (value : Json) : String :=
  let result := jsSlice maximum (text value).toList
  if result.any isControl then ""
  else if result.all fun c => B.isLetterOrNumber c || others.contains c then String.ofList result
  else ""

def safeIdentifier (value : Json) : String :=
  safeText B ['.', '_', ':', '/', '@', '+', '-', '#', ' '] 160 value

def safeToken (value : Json) : String := safeText B ['.', '_', ':', '/', '+', '-', ' '] 80 value

/-! ## Unpacking -/

/-- `WEBHOOK_PAYLOAD_LIMIT`. -/
def payloadLimit (message : String) : JsError := ⟨some "WEBHOOK_PAYLOAD_LIMIT", message⟩

/-- `WEBHOOK_PAYLOAD_INVALID`. -/
def payloadInvalid (message : String) : JsError := ⟨some "WEBHOOK_PAYLOAD_INVALID", message⟩

def readEmbedded (value : Json) : Except JsError Json :=
  match value with
  | .str embedded =>
    if maxEmbeddedJsonBytes < embedded.utf8ByteSize then
      .error (payloadLimit "Embedded webhook JSON is too large.")
    else
      match B.parse embedded with
      | some current => .ok current
      | none => .error (payloadInvalid "Embedded webhook data is invalid JSON.")
  | _ => .ok value

/-- `{ ...fields, [key]: value }` of a key that the object has. -/
def setField (fields : Fields) (key : String) (value : Json) : Fields :=
  fields.map fun field => if field.1 = key then (key, value) else field

def unpack : (stack depth : Nat) → Json → Except JsError Fields
  | 0, _, _ => .error { message := "Maximum call stack size exceeded" }
  | stack + 1, depth, value => do
    match ← readEmbedded B value with
    | .arr [item] => unpack stack (depth + 1) item
    | .arr _ => .error (payloadInvalid "Embedded webhook array must contain exactly one object.")
    | .obj fields =>
      match (Json.obj fields).field? "data" with
      | some (.str data) =>
        if depth < maxDepth then do
          let inner ← unpack stack (depth + 1) (.str data)
          return setField fields "data" (.obj inner)
        else return fields
      | _ => return fields
    | _ => .error (payloadInvalid "Webhook payload must resolve to an object.")

def payloadItems (stack : Nat) (value : Json) : Except JsError (List Fields) := do
  match ← readEmbedded B value with
  | .arr items =>
    if items = [] then .error (payloadInvalid "Webhook event batch must contain 1..64 items.")
    else if 64 < items.length then .error (payloadLimit "Webhook event batch must contain 1..64 items.")
    else items.mapM (unpack B stack 1)
  | current => return [← unpack B stack 0 current]

/-- The objects below an object, one level deeper. -/
def children (fields : Fields) : List Fields :=
  fields.flatMap fun field =>
    match field.2 with
    | .obj child => [child]
    | .arr items => (items.take 64).filterMap fun item =>
      match item with
      | .obj child => some child
      | _ => none
    | _ => []

/-- The loop of `nodes`: the objects in breadth-first order, where there is room for so many more. -/
def visit : (room : Nat) → List (Fields × Nat) → Except JsError (List Fields)
  | _, [] => .ok []
  | 0, _ :: _ => .error (payloadLimit "Webhook payload has too many objects.")
  | room + 1, (fields, depth) :: queue => do
    let later := if maxDepth ≤ depth then [] else (children fields).map (·, depth + 1)
    let result ← visit room (queue ++ later)
    return fields :: result

def nodes (stack : Nat) (payload : Fields) : Except JsError (List Fields) := do
  visit maxVisitedObjects [(← unpack B stack 0 (.obj payload), 0)]

/-! ## Fields -/

def firstField (sources : List Fields) (names : List String) (sanitizer : Json → String) : String :=
  ((sources.flatMap fun source => names.filterMap fun name =>
    ((Json.obj source).field? name).map sanitizer).find? (· ≠ "")).getD ""

structure ProductIdentity where
  spu : String
  skc : String
  sku : String
  document : String
  deriving DecidableEq

def productIdentity (sources : List Fields) : ProductIdentity where
  spu := firstField sources ["spuName", "spu_name", "spuCode", "spu_code", "spuId", "spu_id"] (safeIdentifier B)
  skc := firstField sources ["skcName", "skc_name", "skcCode", "skc_code", "skcId", "skc_id"] (safeIdentifier B)
  sku := firstField sources ["skuCode", "sku_code", "skuName", "sku_name", "skuId", "sku_id", "sku"]
    (safeIdentifier B)
  document := firstField sources
    ["documentSn", "document_sn", "documentNo", "document_no", "documentId", "document_id"] (safeIdentifier B)

/-- `a || b` of texts. -/
def orText (a b : String) : String := if a = "" then b else a

def firstIdentity (identifiers : ProductIdentity) : String :=
  orText identifiers.document (orText identifiers.skc (orText identifiers.spu identifiers.sku))

/-- The entries of the identifiers that are not empty. -/
def safeIdentifiers (identifiers : ProductIdentity) : List (String × String) :=
  [("spu", identifiers.spu), ("skc", identifiers.skc), ("sku", identifiers.sku),
    ("document", identifiers.document)].filter (·.2 ≠ "")

def baseBusinessKey (event : WebhookEvent) (sources : List Fields) (identifiers : ProductIdentity) : String :=
  match event.family with
  | .purchaseOrder => firstField sources ["purchaseOrderNo", "purchase_order_no", "purchaseOrderSn",
      "purchase_order_sn", "poNo", "po_no", "orderNo", "order_no"] (safeIdentifier B)
  | .delivery => firstField sources ["deliveryNo", "delivery_no", "deliveryOrderNo", "delivery_order_no",
      "deliveryCode", "delivery_code"] (safeIdentifier B)
  | .logisticsForecast => firstField sources ["forecastNo", "forecast_no", "logisticsNo", "logistics_no",
      "deliveryNo", "delivery_no"] (safeIdentifier B)
  | .purchaseReturnApplication => firstField sources ["returnApplicationNo", "return_application_no",
      "returnApplyNo", "return_apply_no", "applicationNo", "application_no"] (safeIdentifier B)
  | .purchaseReturn => firstField sources ["purchaseReturnNo", "purchase_return_no", "returnOrderNo",
      "return_order_no", "returnNo", "return_no"] (safeIdentifier B)
  | .shortage => orText (firstField sources ["shortageDemandNo", "shortage_demand_no", "demandNo",
      "demand_no"] (safeIdentifier B)) (firstIdentity identifiers)
  | .authorizationChange => ""
  | _ => firstIdentity identifiers

/-- `numericField`: the text of a number of the form `/^-?\d+(?:\.\d+)?$/`. -/
def numericField (sources : List Fields) (names : List String) : Option String :=
  let raw := firstField sources names fun value => String.ofList (jsSlice 40 (text value).toList)
  let digits := if raw.toList.head? = some '-' then raw.toList.tail else raw.toList
  match digits.splitOn '.' with
  | [whole] => if whole ≠ [] ∧ whole.all (·.isDigit) then some raw else none
  | [whole, fraction] =>
    if whole ≠ [] ∧ fraction ≠ [] ∧ (whole ++ fraction).all (·.isDigit) then some raw else none
  | _ => none

/-- `quota <= 0` of the text of a number. -/
def atMostZero (number : String) : Bool :=
  number.toList.head? = some '-' || number.toList.all fun c => c = '0' || c = '.'

/-! ## Events -/

/-- `severity`. -/
inductive Severity where
  | p0 | p1 | p2 | p3
  deriving DecidableEq

/-- What `/(?:fail|reject|denied|invalid|delete|remove|^3$|^5$)/i` matches. -/
def isBadStatus (status : String) : Bool :=
  let upper := status.toList.map Char.toUpper
  ["FAIL", "REJECT", "DENIED", "INVALID", "DELETE", "REMOVE"].any (fun word =>
    upper.tails.any (word.toList.isPrefixOf ·)) || status = "3" || status = "5"

def severityFor (event : WebhookEvent) (status : String) (quota : Option String) : Severity :=
  if event.family = .authorizationChange then .p0
  else if event.family = .productQuota ∧ quota.any atMostZero then .p0
  else if [EventFamily.shortage, .productCompliance, .purchaseReturnApplication, .purchaseReturn].contains
      event.family then .p1
  else if [EventFamily.productAudit, .productAuditAllChannels, .productDeleteAudit, .rrpReview].contains
      event.family ∧ isBadStatus status then .p1
  else if [EventFamily.purchaseOrder, .delivery, .logisticsForecast].contains event.family then .p2
  else .p3

/-- The lookup of a directive: the keys that runners read, and the identifiers. -/
structure DirectiveLookup extends HydrationLookup where
  identifiers : List (String × String) := []
  deriving DecidableEq

def lookupFor (event : WebhookEvent) (businessKey : String) (identifiers : ProductIdentity) :
    DirectiveLookup :=
  if event.businessType = .store then {}
  else {
    businessKey := if businessKey = "" then none else some businessKey
    identifiers := safeIdentifiers identifiers }

/-- A directive for the hydration runner. -/
structure Directive where
  directiveType : HydrationType
  capabilityCode : HydrationType
  lookup : DirectiveLookup
  deriving DecidableEq

structure NormalizedRecord where
  schemaVersion : Nat
  eventCode : String
  eventPath : String
  eventFamily : EventFamily
  eventLabel : String
  businessType : BusinessType
  businessKey : Option String
  storeCode : Option String
  deliveryScope : DeliveryScope
  appScopedOnly : Bool
  action : String
  status : Option String
  identifiers : List (String × String)
  availableQuota : Option String
  severity : Severity
  eventCount : Nat
  deriving DecidableEq

/-- What `normalizeFullManagedWebhookEvent` returns. -/
structure NormalizedEvent where
  normalized : NormalizedRecord
  hydrationDirective : Option Directive
  closeAuthorizationGate : Bool
  deriving DecidableEq

/-- The arguments of `normalizeFullManagedWebhookEvent`. -/
structure WebhookDelivery where
  event : WebhookEvent
  payload : Json
  storeCode : Option String
  deliveryScope : DeliveryScope

def itemKeys (event : WebhookEvent) (itemNodes : List (List Fields)) : List String :=
  ((itemNodes.map fun sources => baseBusinessKey B event sources (productIdentity B sources)).filter
    (· ≠ "")).eraseDups

def normalizeFullManagedWebhookEvent (stack : Nat) (delivery : WebhookDelivery) :
    Except JsError NormalizedEvent := do
  let event := delivery.event
  if event.family = .unknown then
    throw { message := "A known full-managed webhook event is required." }
  let items ← payloadItems B stack delivery.payload
  let itemNodes ← items.mapM (nodes B stack)
  let sourceNodes := itemNodes.flatten
  let identifiers := productIdentity B sourceNodes
  let status := firstField sourceNodes ["status", "state", "auditState", "audit_state", "auditStatus",
    "audit_status", "resultStatus", "result_status", "type", "authType", "auth_type"] (safeToken B)
  let action := orText (firstField sourceNodes ["action", "operationType", "operation_type", "operateType",
    "operate_type", "changeType", "change_type"] (safeToken B)) event.family.text
  let quota := if event.family = .productQuota then
      numericField sourceNodes ["availableLimit", "available_limit", "availableQuota", "available_quota",
        "remainingQuota", "remaining_quota", "quota"]
    else none
  let appScopedOnly := delivery.deliveryScope = .appOnly
  let businessKeys := if appScopedOnly then [] else itemKeys B event itemNodes
  let businessKey := businessKeys.head?.getD
    (if appScopedOnly then "" else baseBusinessKey B event sourceNodes identifiers)
  let normalized : NormalizedRecord := {
    schemaVersion := 1
    eventCode := event.eventCode
    eventPath := event.eventPath
    eventFamily := event.family
    eventLabel := event.label
    businessType := event.businessType
    businessKey := if businessKey = "" then none else some businessKey
    storeCode := delivery.storeCode
    deliveryScope := delivery.deliveryScope
    appScopedOnly
    action
    status := if status = "" then none else some status
    identifiers := if appScopedOnly then [] else safeIdentifiers identifiers
    availableQuota := if appScopedOnly then none else quota
    severity := if appScopedOnly then .p3 else severityFor event status quota
    eventCount := items.length }
  let hydrationDirective := if appScopedOnly then none else
    event.hydrationType.map fun hydrationType => {
      directiveType := hydrationType
      capabilityCode := hydrationType
      lookup := { lookupFor event businessKey identifiers with
        businessKeys := if 1 < businessKeys.length then some businessKeys else none } }
  return {
    normalized, hydrationDirective
    closeAuthorizationGate := !appScopedOnly && event.family = .authorizationChange }

/-- The store code of the identity that `resolveStored` (`src/webhook/credentials.mjs`) gives a job: none
for an application, and the job's own for a store. -/
def resolvedStoreCode (deliveryScope : DeliveryScope) (storeCode : Option String) : Option String :=
  match deliveryScope with
  | .appOnly => none
  | .store => storeCode

/-- The normalization of a job by the worker (`src/webhook/worker.mjs`). -/
def normalizeJob (stack : Nat) (job : WebhookDelivery) : Except JsError NormalizedEvent :=
  normalizeFullManagedWebhookEvent B stack
    { job with storeCode := resolvedStoreCode job.deliveryScope job.storeCode }

end FullManagedBi.Webhook
