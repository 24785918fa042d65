import FullManagedBi.OrderManagement.RowContract

/-!
# The pages of a store

`scripts/sync_full_managed_order_management_sessions.mjs`: `fetchPageRows` walks the pages of a list,
`buildRowsForPage` makes the rows, and `storePageGates` decides whether they may be used.
`orderManagementResponseReader` (`src/webapi-session/order-management-http.mjs`) reads a response.
-/

namespace FullManagedBi.OrderManagement

open Lib

structure TransportError where
  code : Option String := none
  platformCode : Option String := none
  platformMessage : Option String := none

/-- What a walk meets: the transport, `platformMessageDigest`, and the hook for the evidence of a page (`evidence.onPage`;
it does nothing where there is none). -/
structure PageSource where
  fetch : OrderedMap String Json → Except TransportError (Option Json)
  platformMessageDigest : String → String
  onPage : Nat → List Json → Except JsError Unit

/-! ## Responses -/

def pathValue : Option Json → List String → Option Json
  | value, [] => value
  | some (.obj fields), key :: path => pathValue ((Json.obj fields).field? key) path
  | _, _ :: _ => none

def readTotal : Option Json → Option Int
  | some (.num (.int n)) => if n.natAbs ≤ maxSafeInteger then some n else none
  | _ => none

def readRows : Option Json → Option (List Json)
  | some (.arr rows) => some rows
  | _ => none

/-- `orderManagementResponseReader`: the total and the rows. -/
def orderManagementResponseReader (paging : Paging) (response : Option Json) : Option Int × Option (List Json) :=
  let body := nullish (response.bind (·.field? "body")) response
  (readTotal (pathValue body paging.totalPath), readRows (pathValue body paging.rowsPath))

/-! ## The walk -/

/-- What `fetchPageRows` returns. -/
structure Fetched where
  rows : List Json := []
  total : Option Int := none
  pagesFetched : Nat := 0
  failures : List String := []

structure FetchState extends Fetched where
  lastPageLength : Nat := 0

def safeFetchFailure (platformMessageDigest : String → String) (page : Nat) (error : TransportError) : String :=
  let code := error.code.getD "UNKNOWN"
  let part (label : String) (text : Option String) : List String :=
    match text with
    | none | some "" => []
    | some text => [label ++ text]
  String.intercalate ":" ([s!"PAGE_{page}_FETCH_FAILED:{code}"] ++
    part "PLATFORM_" error.platformCode ++ part "MSG_" (error.platformMessage.map platformMessageDigest))

def FetchState.fail (state : FetchState) (failure : String) : FetchState :=
  { state with failures := state.failures ++ [failure] }

def FetchState.take (state : FetchState) (total : Int) (rows : List Json) : FetchState :=
  { state with
    rows := state.rows ++ rows
    total := some (state.total.getD total)
    pagesFetched := state.pagesFetched + 1
    lastPageLength := rows.length }

def acceptsTotal (paging : Paging) (known : Option Int) (page : Nat) (total : Int) (rows : List Json) : Bool :=
  match known with
  | none => true
  | some first =>
    -- Page 1 exposes the full total, a later one maybe what remains, or its own length.
    let offset : Int := (page - 1 : Nat) * paging.defaultPageSize
    [first, max (first - offset) 0, (rows.length : Int)].contains total

/-- What the loop does with a page: it ends, or goes on. -/
def fetchPage (source : PageSource) (paging : Paging) (page : Nat) (body : OrderedMap String Json)
    (state : FetchState) : Except JsError (FetchState × Bool) :=
  match source.fetch body with
  | .error error => .ok (state.fail (safeFetchFailure source.platformMessageDigest page error), false)
  | .ok response =>
    match orderManagementResponseReader paging response with
    | (none, _) => .ok (state.fail s!"PAGE_{page}_TOTAL_MISSING", false)
    | (some _, none) => .ok (state.fail s!"PAGE_{page}_ROWS_PATH_MISSING", false)
    | (some total, some rows) => do
      source.onPage page rows
      if acceptsTotal paging state.total page total rows then
        return (state.take total rows, decide (paging.defaultPageSize ≤ rows.length))
      else return (state.fail s!"PAGE_{page}_TOTAL_DRIFT", false)

/-- The loop, from a page on, for so many pages at most. -/
def fetchPagesFrom (source : PageSource) (code : EndpointCode) (paging : Paging) (window : Option DateWindow) :
    Nat → Nat → FetchState → Except JsError FetchState
  | 0, _, state => .ok state
  | pages + 1, page, state => do
    let body ← pageRequestBody code.text paging window page
    let (state, more) ← fetchPage source paging page body state
    if more then fetchPagesFrom source code paging window pages (page + 1) state else return state

def Fetched.reachedTotal (fetched : Fetched) : Bool :=
  match fetched.total with
  | some total => total ≤ fetched.rows.length
  | none => false

/-- `fetchPageRows`, for an endpoint with pages. -/
def fetchPageRows (source : PageSource) (code : EndpointCode) (paging : Paging) (window : Option DateWindow)
    (maxPages : Nat) : Except JsError Fetched := do
  refuse (code.endpoint.windowFields.isSome ∧ window.isNone)
    { message := s!"ORDER_MANAGEMENT_WINDOW_REQUIRED: {code.text}" }
  let state ← fetchPagesFrom source code paging window maxPages 1 {}
  let naturalEnd := 0 < state.pagesFetched ∧ state.lastPageLength < paging.defaultPageSize
  if state.pagesFetched = 0 ∨ (¬naturalEnd ∧ state.reachedTotal = false) then
    return (state.fail "PAGING_INCOMPLETE").toFetched
  else return state.toFetched

/-! ## Rows -/

def pickFieldsByAllowlist (allowlist : List String) (record : Json) : Json :=
  .obj (allowlist.filterMap fun name => (record.field? name).map fun value => (name, value))

/-- How the rows of a page are made: the fields that are picked (`endpointAllowlistFor`), the builder of the page for a
store at a time (`PAGE_ROW_BUILDERS`), and the dates of the row check. -/
structure RowMaker where
  allowlist : List String
  build : Json → Except JsError (Option Json)
  isDate : Json → Bool

/-- `String(value ?? '').trim() || null`. -/
def trimmedOrNull (value : Option Json) : Json :=
  let text := jsTrim (textOrEmpty value)
  if text = "" then .null else .str text

def exceptionFacts : List String :=
  ["categoryId", "categoryCode", "categoryName", "firstCategoryCode", "firstCategoryName", "applyType", "applyTypeName",
    "sceneType", "sceneTypeName", "statusValue", "statusName", "externalSystem", "externalNo", "workorderType",
    "createTime"]

/-- `buildExceptionRow`, one of the builders. -/
def buildExceptionRow (parseInstant : Option Json → Json) (storeCode fetchedAt : String) (record : Json) :
    Except JsError (Option Json) := do
  let workorderNo := jsTrim (textOrEmpty (record.field? "workorderNo"))
  if workorderNo = "" then return none
  let facts ← exceptionFacts.mapM fun name => factEntry .exceptions name (record.field? name)
  return some (.obj [
    ("id", .str workorderNo),
    ("storeCode", .str storeCode),
    ("statusCode", trimmedOrNull (record.field? "statusValue")),
    ("statusName", trimmedOrNull (record.field? "statusName")),
    ("createdAt", parseInstant (record.field? "createTime")),
    ("updatedAt", .str fetchedAt),
    ("primary", .str workorderNo),
    ("secondary", trimmedOrNull (nullish (record.field? "externalNo") (record.field? "categoryName"))),
    ("tags", .arr (.str "收货/退货异常" :: [record.field? "categoryName", record.field? "sceneTypeName"].filterMap
      fun tag => if truthy tag then tag else none)),
    ("metrics", .arr []),
    ("facts", .arr (facts.filterMap id)),
    ("details", .arr [])])

/-- What `buildRowsForPage` returns. -/
structure Built where
  rows : List Json := []
  dropped : Nat := 0

def buildRow (maker : RowMaker) (pageId : PageId) (storeCode : String) (record : Json) :
    Except JsError (Option Json) := do
  match ← maker.build (pickFieldsByAllowlist maker.allowlist record) with
  | none => return none
  | some row =>
    match validateOrderManagementRow maker.isDate pageId row with
    | [] => return some row
    | error :: _ => .error { message := s!"ORDER_MANAGEMENT_SYNC_ROW_INVALID {storeCode}: {error}" }

def buildRowsForPage (maker : RowMaker) (pageId : PageId) (storeCode : String) (records : List Json) :
    Except JsError Built := do
  let rows ← records.mapM (buildRow maker pageId storeCode)
  return { rows := rows.filterMap id, dropped := rows.countP (·.isNone) }

/-! ## The gate -/

structure PageGates where
  ok : Bool
  totalVerified : Bool
  pagingVerified : Bool
  dedupeVerified : Bool
  contentVerified : Bool
  deriving DecidableEq

def rowIds (rows : List Json) : List String :=
  rows.filterMap fun row => (nullish (row.field? "id") none).map Json.text

def storePageGates (fetched : Fetched) (built : Built) : PageGates :=
  let ids := rowIds built.rows
  let dedupeVerified := ids.dedup.length = ids.length
  let totalVerified := fetched.total = some (fetched.rows.length : Int) ∧ built.rows.length = fetched.rows.length
  let pagingVerified := 0 < fetched.pagesFetched ∧ fetched.failures = []
  let contentVerified := built.dropped = 0 ∧ (fetched.total = some 0 ∨ 0 < built.rows.length)
  { ok := decide (totalVerified ∧ pagingVerified ∧ dedupeVerified ∧ contentVerified)
    totalVerified := decide totalVerified
    pagingVerified := decide pagingVerified
    dedupeVerified := decide dedupeVerified
    contentVerified := decide contentVerified }

end FullManagedBi.OrderManagement
