import FullManagedBi.Lib.JsonText
import FullManagedBi.Lib.OrderedMap
import FullManagedBi.OrderManagement.Windows

/-!
# The requests to the order management

`src/webapi-history/order-management-contracts.mjs`: the endpoints that may be called, the request bodies that
are built for them, and the check of a body before it is sent (`assertOrderManagementTransportRequest`).
-/

namespace FullManagedBi.OrderManagement

open Lib

/-- `fail`: an `OrderManagementContractError`. -/
def contractError (code : String) : JsError :=
  { code := some code, message := "order-management contract refused: " ++ code }

/-! ## Windows -/

/-- `isoDate`. -/
def contractDate (value location : String) : Except JsError String :=
  let text := jsTrim value
  if (parseIsoDate text).isSome then .ok text else .error (contractError (location ++ "_INVALID"))

def orderManagementWindow (window : DateWindow) (maximumDays : Int := orderManagementWindowMaxDays) :
    Except JsError DateWindow := do
  let start ← contractDate window.startDate "ORDER_MANAGEMENT_WINDOW_START"
  let end_ ← contractDate window.endDate "ORDER_MANAGEMENT_WINDOW_END"
  -- The texts are digits and hyphens, whose code units are their code points.
  refuse (end_ < start) (contractError "ORDER_MANAGEMENT_WINDOW_INVALID")
  refuse (maximumDays < 1 ∨ 30 < maximumDays) (contractError "ORDER_MANAGEMENT_WINDOW_INVALID")
  let distance := (parseIsoDate end_).getD 0 - (parseIsoDate start).getD 0
  refuse (maximumDays < distance + 1) (contractError "ORDER_MANAGEMENT_WINDOW_TOO_WIDE")
  return { startDate := start, endDate := end_ }

/-! ## Endpoints -/

/-- `ORDER_MANAGEMENT_PAGE_IDS`. -/
inductive PageId where
  | deliveryNotes
  | stockRecords
  | waybills
  | returnApplications
  | returnOrders
  | exceptions
  | valueAddedServices
  | qualityReports
  deriving DecidableEq

def PageId.text : PageId → String
  | .deliveryNotes => "delivery-notes"
  | .stockRecords => "stock-records"
  | .waybills => "waybills"
  | .returnApplications => "return-applications"
  | .returnOrders => "return-orders"
  | .exceptions => "exceptions"
  | .valueAddedServices => "value-added-services"
  | .qualityReports => "quality-reports"

/-- The keys of `ORDER_MANAGEMENT_ENDPOINTS`. -/
inductive EndpointCode where
  | stockRecordsList
  | waybillsPage
  | waybillsStatistics
  | returnApplicationsList
  | returnOrdersPage
  | exceptionsPage
  | valueAddedServicesPage
  | qualityReportsPage
  deriving DecidableEq

def EndpointCode.text : EndpointCode → String
  | .stockRecordsList => "STOCK_RECORDS_LIST"
  | .waybillsPage => "WAYBILLS_PAGE"
  | .waybillsStatistics => "WAYBILLS_STATISTICS"
  | .returnApplicationsList => "RETURN_APPLICATIONS_LIST"
  | .returnOrdersPage => "RETURN_ORDERS_PAGE"
  | .exceptionsPage => "EXCEPTIONS_PAGE"
  | .valueAddedServicesPage => "VALUE_ADDED_SERVICES_PAGE"
  | .qualityReportsPage => "QUALITY_REPORTS_PAGE"

def EndpointCode.all : List EndpointCode :=
  [.stockRecordsList, .waybillsPage, .waybillsStatistics, .returnApplicationsList, .returnOrdersPage,
    .exceptionsPage, .valueAddedServicesPage, .qualityReportsPage]

/-- `windowFields`. -/
structure WindowFields where
  startField : String
  endField : String

/-- How the pages of an endpoint are asked for and read. -/
structure Paging where
  pageKey : String
  pageSizeKey : String
  defaultPageSize : Nat
  pageSizeValue : Option String
  totalPath : List String
  rowsPath : List String

structure Endpoint where
  method : String := "POST"
  path : String
  pageId : PageId
  paging : Option Paging := none
  statisticsTypes : Option (List Nat) := none
  bodyTemplate : List (String × Json) := []
  windowFields : Option WindowFields := none

/-- `ORDER_MANAGEMENT_ENDPOINTS`. -/
def EndpointCode.endpoint : EndpointCode → Endpoint
  | .stockRecordsList => {
    path := "/idms/order-apply/list", pageId := .stockRecords
    paging := some {
      pageKey := "pageNumber", pageSizeKey := "pageSize", defaultPageSize := 100, pageSizeValue := none
      totalPath := ["info", "count"], rowsPath := ["info", "list"] }
    bodyTemplate := [("supplierCodes", .str ""), ("skcs", .str ""), ("orderNoStr", .str ""),
      ("applyStatus", .str ""), ("orderModes", .arr []), ("orderAccount", .str "")]
    windowFields := some { startField := "addTimeBegin", endField := "addTimeEnd" } }
  | .waybillsPage => {
    path := "/clms/waybill/page", pageId := .waybills
    paging := some {
      pageKey := "pageNumber", pageSizeKey := "pageSize", defaultPageSize := 50, pageSizeValue := none
      totalPath := ["info", "meta", "count"], rowsPath := ["info", "data"] }
    windowFields := some { startField := "addTimeStart", endField := "addTimeEnd" } }
  | .waybillsStatistics => {
    path := "/clms/waybill/statistics", pageId := .waybills
    statisticsTypes := some [1, 2, 3, 4, 5, 6]
    windowFields := some { startField := "addTimeStart", endField := "addTimeEnd" } }
  | .returnApplicationsList => {
    path := "/pfmp/returnPlan/list", pageId := .returnApplications
    paging := some {
      pageKey := "page", pageSizeKey := "perPage", defaultPageSize := 50, pageSizeValue := none
      totalPath := ["info", "meta", "count"], rowsPath := ["info", "data"] }
    windowFields := some { startField := "returnTimeStart", endField := "returnTimeEnd" } }
  | .returnOrdersPage => {
    path := "/pfmp/returnOrder/page", pageId := .returnOrders
    paging := some {
      pageKey := "page", pageSizeKey := "perPage", defaultPageSize := 50, pageSizeValue := none
      totalPath := ["info", "meta", "count"], rowsPath := ["info", "data"] }
    windowFields := some { startField := "addTimeStart", endField := "addTimeEnd" } }
  | .exceptionsPage => {
    path := "/pfmp/exceptionWorkorder/order/page", pageId := .exceptions
    paging := some {
      pageKey := "page", pageSizeKey := "perPage", defaultPageSize := 50, pageSizeValue := none
      totalPath := ["info", "meta", "count"], rowsPath := ["info", "data"] } }
  | .valueAddedServicesPage => {
    path := "/vssv/order/page", pageId := .valueAddedServices
    paging := some {
      pageKey := "pageNumber", pageSizeKey := "pageSize", defaultPageSize := 50, pageSizeValue := none
      totalPath := ["info", "count"], rowsPath := ["info", "list"] } }
  | .qualityReportsPage => {
    path := "/gmpj/quality/qcReportNew", pageId := .qualityReports
    paging := some {
      pageKey := "page", pageSizeKey := "perPage", defaultPageSize := 50, pageSizeValue := some "50"
      totalPath := ["info", "totalCount"], rowsPath := ["info", "list"] }
    bodyTemplate := [("reportUrl", .ofNat 1)]
    windowFields := some { startField := "inspectionTimeStart", endField := "inspectionTimeEnd" } }

/-- What every object has from its prototype. -/
def inheritedNames : List String :=
  ["constructor", "__proto__", "hasOwnProperty", "isPrototypeOf", "propertyIsEnumerable", "toLocaleString",
    "toString", "valueOf", "__defineGetter__", "__defineSetter__", "__lookupGetter__", "__lookupSetter__"]

/-- What `ORDER_MANAGEMENT_ENDPOINTS[code]` is. -/
inductive FoundEndpoint where
  | endpoint (code : EndpointCode)
  | inherited
  | missing
  deriving DecidableEq

/-- `ORDER_MANAGEMENT_ENDPOINTS[code]`. -/
def findEndpoint (endpointCode : String) : FoundEndpoint :=
  match EndpointCode.all.find? fun code : EndpointCode => code.text = endpointCode with
  | some code => .endpoint code
  | none => if endpointCode ∈ inheritedNames then .inherited else .missing

/-! ## Bodies -/

/-- `body[start]` and `body[end]` of a window. -/
def setWindow (body : OrderedMap String Json) (fields : WindowFields) (window : DateWindow) :
    OrderedMap String Json :=
  (body.set fields.startField (.str (window.startDate ++ " 00:00:00"))).set fields.endField
    (.str (window.endDate ++ " 23:59:59"))

def endpointBody (endpoint : Endpoint) (window : Option DateWindow) : Except JsError (OrderedMap String Json) := do
  refuse (endpoint.method ≠ "POST") (contractError "ORDER_MANAGEMENT_METHOD_NOT_ALLOWED")
  let body := OrderedMap.ofEntries endpoint.bodyTemplate
  match endpoint.windowFields, window with
  | none, _ => return body
  | some _, none => .error (contractError "ORDER_MANAGEMENT_WINDOW_REQUIRED")
  | some fields, some window => return setWindow body fields (← orderManagementWindow window)

def orderManagementRequestBody (endpointCode : String) (window : Option DateWindow) :
    Except JsError (OrderedMap String Json) :=
  match findEndpoint endpointCode with
  | .endpoint code => endpointBody code.endpoint window
  -- What is inherited has no `method`.
  | .inherited => .error (contractError "ORDER_MANAGEMENT_METHOD_NOT_ALLOWED")
  | .missing => .error (contractError "ORDER_MANAGEMENT_ENDPOINT_NOT_ALLOWED")

/-- `endpoint.pageSizeValue ?? endpoint.defaultPageSize`. -/
def Paging.pageSize (paging : Paging) : Json :=
  match paging.pageSizeValue with
  | some text => .str text
  | none => .ofNat paging.defaultPageSize

/-- The body that `fetchPageRows` (`scripts/sync_full_managed_order_management_sessions.mjs`) sends. -/
def pageRequestBody (endpointCode : String) (paging : Paging) (window : Option DateWindow) (page : Nat) :
    Except JsError (OrderedMap String Json) := do
  let body ← orderManagementRequestBody endpointCode window
  return (body.set paging.pageKey (.ofNat page)).set paging.pageSizeKey paging.pageSize

def statisticsRequestBody (endpointCode : String) (window : Option DateWindow) (statisticsType : Nat) :
    Except JsError (OrderedMap String Json) := do
  let body ← orderManagementRequestBody endpointCode window
  return body.set "statisticsType" (.ofNat statisticsType)

/-! ## The seal -/

inductive RequestBody where
  /-- An object, in which no key is twice and numbers have their texts. -/
  | object (fields : OrderedMap String Json) (proper : ∀ key value, fields.get? key = some value → value.Proper)
  /-- `null`, an array, or no object. -/
  | other

/-- `sameJsonValue`, of values that may be `undefined`. -/
def sameJsonValue (left right : Option Json) : Prop := left.map jsonChars = right.map jsonChars

instance (left right : Option Json) : Decidable (sameJsonValue left right) :=
  inferInstanceAs (Decidable (_ = _))

/-- What `/^\d{4}-\d{2}-\d{2} 00:00:00$/` matches, for a time of day. -/
def isDayText (time text : String) : Bool :=
  isIsoDateShape (String.ofList (text.toList.take 10)) && decide (text.toList.drop 10 = ' ' :: time.toList)

def requestedWindow (fields : WindowFields) (body : OrderedMap String Json) : Except JsError DateWindow := do
  let startValue := textOrEmpty (body.get? fields.startField)
  let endValue := textOrEmpty (body.get? fields.endField)
  refuse (¬(isDayText "00:00:00" startValue ∧ isDayText "23:59:59" endValue))
    (contractError "ORDER_MANAGEMENT_REQUEST_WINDOW_INVALID")
  orderManagementWindow {
    startDate := String.ofList (startValue.toList.take 10), endDate := String.ofList (endValue.toList.take 10) }

def endpointWindow (endpoint : Endpoint) (body : OrderedMap String Json) : Except JsError (Option DateWindow) :=
  match endpoint.windowFields with
  | none => .ok none
  | some fields => (requestedWindow fields body).map some

/-- `ORDER_MANAGEMENT_MAX_PAGES`. -/
def orderManagementMaxPages : Nat := 100

/-- The value is an integer from 1 to `ORDER_MANAGEMENT_MAX_PAGES`. -/
def isPageNumber : Option Json → Bool
  | some (.num (.int n)) => decide (1 ≤ n ∧ n ≤ orderManagementMaxPages)
  | _ => false

/-- `types.includes(value)`. -/
def includesNumber (types : List Nat) : Option Json → Bool
  | some (.num (.int n)) => types.any fun type => decide ((type : Int) = n)
  | _ => false

def checkAdded (endpoint : Endpoint) (body : OrderedMap String Json) : Except JsError (List String) :=
  match endpoint.paging, endpoint.statisticsTypes with
  | some paging, _ => do
    refuse (isPageNumber (body.get? paging.pageKey) = false ∨
      ¬sameJsonValue (body.get? paging.pageSizeKey) (some paging.pageSize))
      (contractError "ORDER_MANAGEMENT_REQUEST_PAGING_INVALID")
    return [paging.pageKey, paging.pageSizeKey]
  | none, some types => do
    refuse (includesNumber types (body.get? "statisticsType") = false)
      (contractError "ORDER_MANAGEMENT_REQUEST_STATISTICS_INVALID")
    return ["statisticsType"]
  | none, none => .ok []

/-- `assertOrderManagementTransportRequest` of an object for an endpoint of the table. -/
def assertEndpointRequest (code : EndpointCode) (body : OrderedMap String Json) : Except JsError Bool := do
  let window ← endpointWindow code.endpoint body
  let base ← orderManagementRequestBody code.text window
  -- A key that is not there has no text, and each text of `base` is one.
  refuse (∃ entry ∈ base.entries, ¬sameJsonValue (body.get? entry.1) (some entry.2))
    (contractError "ORDER_MANAGEMENT_REQUEST_BODY_INVALID")
  let addedKeys ← checkAdded code.endpoint body
  refuse (∃ key ∈ body.keys, key ∉ base.keys ++ addedKeys)
    (contractError "ORDER_MANAGEMENT_REQUEST_BODY_INVALID")
  return true

def assertOrderManagementTransportRequest (endpointCode : String) (body : RequestBody) : Except JsError Bool :=
  match findEndpoint endpointCode, body with
  | .missing, _ => .error (contractError "ORDER_MANAGEMENT_ENDPOINT_NOT_ALLOWED")
  | _, .other => .error (contractError "ORDER_MANAGEMENT_REQUEST_BODY_INVALID")
  -- What is inherited has no `windowFields`, and no body is built for it.
  | .inherited, .object .. => .error (contractError "ORDER_MANAGEMENT_METHOD_NOT_ALLOWED")
  | .endpoint code, .object fields _ => assertEndpointRequest code fields

end FullManagedBi.OrderManagement
