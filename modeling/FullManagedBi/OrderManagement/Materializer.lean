import FullManagedBi.Lib.Grouping
import FullManagedBi.OrderManagement.RowContract

/-!
# The index of the order management

`src/warehouse/order-management-materializer.mjs`: the pages of a session snapshot are normalized, its waybills are
merged with those of the database, and all pages make an index that may be promoted or not.
`validateOrderManagementIndex` and `isOrderManagementPromotable` are those of
`src/order-management/order-management-contract.mjs`. The pages of the database
(`materializeOrderManagementDatabasePages`) are given.
-/

namespace FullManagedBi.OrderManagement

open Lib

/-- `ORDER_MANAGEMENT_PAGE_IDS`, in order. -/
def PageId.all : List PageId :=
  [.deliveryNotes, .stockRecords, .waybills, .returnApplications, .returnOrders, .exceptions, .valueAddedServices,
    .qualityReports]

/-- `ORDER_MANAGEMENT_PAGE_STATUSES`. -/
inductive PageStatus where
  | available
  | partially
  | unavailable
  deriving DecidableEq

structure Page where
  status : PageStatus
  source : String
  latestSourceFetchedAt : Json
  reason : Json
  rows : List Json

/-- The evidence of a page. All its gates have one value. -/
structure PageEvidence where
  gates : Bool
  storeCodes : List String
  rowCount : Nat
  skippedDuplicates : Nat
  sessionSnapshotUsed : Option Bool := none

structure PageEntry where
  page : Page
  evidence : PageEvidence

def emptyPage (source reason : String) : Page where
  status := .unavailable
  source := source
  latestSourceFetchedAt := .null
  reason := .str reason
  rows := []

/-! ## A page of the snapshot -/

/-- `VALUE_ADDED_SERVICES_DENIED_FIELDS`. -/
def valueAddedServicesDeniedFields : List String := ["actualTotalAmount", "estimateIncrementAmount"]

def isDeniedEntry (entry : Json) : Bool :=
  match entry.field? "name" with
  | some (.str name) => name ∈ valueAddedServicesDeniedFields
  | _ => false

def keptEntries (field : String × Json) : String × Json :=
  match field with
  | (key, .arr entries) =>
    if key ∈ ["metrics", "facts", "details"] then (key, .arr (entries.filter fun entry => !isDeniedEntry entry))
    else (key, .arr entries)
  | other => other

def sanitizeSessionPageRows (pageId : PageId) (rows : List Json) : List Json :=
  if pageId = .valueAddedServices then
    rows.map fun row =>
      match row with
      | .obj fields => .obj (fields.map keptEntries)
      | row => row
  else rows

/-- The value is `true`. -/
def isTrue : Option Json → Bool
  | some (.bool b) => b
  | _ => false

/-- The value is `false`. -/
def isFalse : Option Json → Bool
  | some (.bool b) => !b
  | _ => false

def isText (text : String) : Option Json → Bool
  | some (.str other) => other = text
  | _ => false

def isSafeInteger (expected : Int) : Option Json → Bool
  | some (.num (.int n)) => n.natAbs ≤ maxSafeInteger ∧ n = expected
  | _ => false

def gatePassed (gates : Option Json) (expectedStoreCount : Int) : Bool :=
  let gate (name : String) : Option Json := gates.bind (·.field? name)
  isTrue (gate "totalVerified") && isTrue (gate "pagingVerified") && isTrue (gate "dedupeVerified") &&
    !isFalse (gate "contentVerified") && isSafeInteger expectedStoreCount (gate "storeCount")

def itemsOf : Option Json → List Json
  | some (.arr items) => items
  | _ => []

def nonEmptyText? : Json → Option String
  | .str text => if text = "" then none else some text
  | _ => none

def sortedCodes (codes : List String) : List String := jsSort codes.dedup

/-- The store code of a row, where it counts as true. That of a row that is refused may be no text, and is given as
one. -/
def rowStoreCode? : Json → Except JsError (Option String)
  | .null => .error { message := "Cannot read properties of null (reading 'storeCode')" }
  | row =>
    .ok (match row.field? "storeCode" with
      | some code => if truthy (some code) then some code.text else none
      | none => none)

/-- `rows.map((row) => row.storeCode).filter(Boolean)`. -/
def rowStoreCodes (rows : List Json) : Except JsError (List String) := do
  let codes ← rows.mapM rowStoreCode?
  return codes.filterMap id

def validateRows (isDate : Json → Bool) (pageId : PageId) (rows : List Json) (label : String) : List String :=
  rows.zipIdx.flatMap fun (row, index) =>
    (validateOrderManagementRow isDate pageId row).map fun message => s!"{label}[{index}] {message}"

structure NormalizedPage where
  page : Page
  storeCodes : List String

/-- `a ?? b`. -/
def orElse (value : Option Json) (other : Json) : Json := (nullish value (some other)).getD .null

def pageStoreCodes (page : Json) (rows : List Json) : Except JsError (List String) :=
  match (itemsOf (page.field? "storeCodes")).filterMap nonEmptyText? with
  | [] => (rowStoreCodes rows).map sortedCodes
  | declared => .ok (sortedCodes declared)

def normalizedPage (isDate : Json → Bool) (page : Json) (pageId : PageId) (expectedStoreCount : Int)
    (rows : List Json) : Page :=
  let latestSourceFetchedAt := orElse (page.field? "latestSourceFetchedAt") .null
  match validateRows isDate pageId rows s!"{pageId.text}/session" with
  | error :: _ =>
    { status := .partially, source := "SESSION_HTTP", latestSourceFetchedAt
      reason := .str s!"SESSION_SNAPSHOT_ROW_INVALID: {error}", rows := [] }
  | [] =>
    if isText "UNAVAILABLE" (page.field? "status") then
      { status := .unavailable, source := "SESSION_HTTP", latestSourceFetchedAt
        reason := orElse (page.field? "reason") (.str "SESSION_GATE_FAILED: no store produced a complete page.")
        rows := [] }
    else if isText "AVAILABLE" (page.field? "status") = false ∨
        gatePassed (page.field? "gates") expectedStoreCount = false then
      { status := .partially, source := "SESSION_HTTP", latestSourceFetchedAt
        reason := orElse (page.field? "reason") (.str
          "SESSION_GATE_FAILED: total/paging/dedupe/25-store coverage gate did not pass in the snapshot.")
        rows }
    else { status := .available, source := "SESSION_HTTP", latestSourceFetchedAt, reason := .null, rows }

/-- The value is an object or an array. -/
def isObject : Json → Bool
  | .obj _ | .arr _ => true
  | _ => false

def snapshotRows (pageId : PageId) (page : Json) : List Json :=
  sanitizeSessionPageRows pageId (itemsOf (page.field? "rows"))

def normalizeSnapshotPage (isDate : Json → Bool) (page : Option Json) (pageId : PageId) (expectedStoreCount : Int) :
    Except JsError NormalizedPage :=
  match page.filter isObject with
  | none => .ok { page := emptyPage "SESSION_HTTP" "SESSION_SNAPSHOT_PAGE_MISSING", storeCodes := [] }
  | some page => do
    let rows := snapshotRows pageId page
    let storeCodes ← pageStoreCodes page rows
    return { page := normalizedPage isDate page pageId expectedStoreCount rows, storeCodes }

/-! ## The session pages -/

def absentReason : String :=
  "SESSION_SNAPSHOT_ABSENT: run scripts/sync_full_managed_order_management_sessions.mjs with --execute to produce " ++
    "the snapshot; the materializer never guesses a live request."

def snapshotPages (snapshot : Option Json) : Option Json :=
  ((snapshot.filter isObject).bind (·.field? "pages")).filter fun pages => truthy (some pages)

def normalizedOf (isDate : Json → Bool) (snapshot : Option Json) (pageId : PageId) (expectedStoreCount : Int) :
    Except JsError NormalizedPage :=
  match snapshotPages snapshot with
  | some pages => normalizeSnapshotPage isDate (pages.field? pageId.text) pageId expectedStoreCount
  | none => .ok { page := emptyPage "SESSION_HTTP" absentReason, storeCodes := [] }

def sessionEntry (isDate : Json → Bool) (snapshot : Option Json) (pageId : PageId) (expectedStoreCount : Int) :
    Except JsError PageEntry := do
  let normalized ← normalizedOf isDate snapshot pageId expectedStoreCount
  return {
    page := normalized.page
    evidence := {
      gates := decide (normalized.page.status = .available)
      storeCodes := normalized.storeCodes
      rowCount := normalized.page.rows.length
      skippedDuplicates := 0
      sessionSnapshotUsed := some (snapshotPages snapshot).isSome } }

/-- `${value}`. -/
def templateText : Option Json → String
  | some value => value.text
  | none => "undefined"

/-- `${row.storeCode}\u001f${row.id}`. -/
def waybillKey (row : Json) : String :=
  templateText (row.field? "storeCode") ++ "\x1f" ++ templateText (row.field? "id")

/-- `values.filter(Boolean).sort().at(-1) ?? null`. -/
def latestOf (values : List (Option Json)) : Json :=
  ((values.filterMap fun value => if truthy value then value else none).insertionSort
    fun a b => jsUnits a.text ≤ jsUnits b.text).getLast?.getD .null

def mergedWaybillRows (waybillCoreRows sessionRows : List Json) : List Json :=
  let core := unseen waybillKey [] waybillCoreRows
  core ++ unseen waybillKey (core.map waybillKey) sessionRows

def waybillsPage (sessionPage : Page) (rows : List Json) (waybillStores : List String) (expectedStoreCount : Int) :
    Page :=
  let latestSourceFetchedAt :=
    latestOf (some sessionPage.latestSourceFetchedAt :: rows.map (·.field? "updatedAt"))
  if sessionPage.status = .partially then
    { status := .partially, source := "OPENAPI_FACT_DATABASE_SESSION_MERGED", latestSourceFetchedAt
      reason := orElse (some sessionPage.reason) (.str
        "SESSION_GATE_FAILED: the waybill session snapshot page did not pass its gates.")
      rows }
  else
    { status := if (waybillStores.length : Int) = expectedStoreCount then .available else .partially
      source := if sessionPage.status = .available then "OPENAPI_FACT_DATABASE_SESSION_MERGED"
        else "OPENAPI_FACT_DATABASE"
      latestSourceFetchedAt
      reason := if (waybillStores.length : Int) = expectedStoreCount then .null
        else .str (s!"STORE_COVERAGE_INCOMPLETE: waybills cover {waybillStores.length}/{expectedStoreCount} stores " ++
          "across fact.delivery and the session snapshot.")
      rows }

/-- The waybills of the session merged with those of the database. -/
def waybillsEntry (isDate : Json → Bool) (snapshot : Option Json) (expectedStoreCount : Int)
    (waybillCoreRows : List Json) : Except JsError PageEntry := do
  let normalized ← normalizedOf isDate snapshot .waybills expectedStoreCount
  let coreCodes ← rowStoreCodes waybillCoreRows
  let rows := mergedWaybillRows waybillCoreRows normalized.page.rows
  let errors := validateRows isDate .waybills rows "waybills/merged"
  refuse (errors ≠ []) { message := "ORDER_MANAGEMENT_ROW_INVALID\n" ++ String.intercalate "\n" errors }
  let waybillStores := sortedCodes (coreCodes ++ normalized.storeCodes)
  let page := waybillsPage normalized.page rows waybillStores expectedStoreCount
  return {
    page
    evidence := {
      gates := decide (page.status = .available)
      storeCodes := waybillStores
      rowCount := rows.length
      skippedDuplicates := normalized.page.rows.length -
        (rows.length - (unseen waybillKey [] waybillCoreRows).length)
      sessionSnapshotUsed := some (snapshotPages snapshot).isSome } }

structure SessionPages where
  stockRecords : PageEntry
  returnApplications : PageEntry
  returnOrders : PageEntry
  exceptions : PageEntry
  valueAddedServices : PageEntry
  qualityReports : PageEntry
  waybills : PageEntry

def mergeOrderManagementSessionSnapshot (isDate : Json → Bool) (snapshot : Option Json) (expectedStoreCount : Int)
    (waybillCoreRows : List Json) : Except JsError SessionPages := do
  let stockRecords ← sessionEntry isDate snapshot .stockRecords expectedStoreCount
  let returnApplications ← sessionEntry isDate snapshot .returnApplications expectedStoreCount
  let returnOrders ← sessionEntry isDate snapshot .returnOrders expectedStoreCount
  let exceptions ← sessionEntry isDate snapshot .exceptions expectedStoreCount
  let valueAddedServices ← sessionEntry isDate snapshot .valueAddedServices expectedStoreCount
  let qualityReports ← sessionEntry isDate snapshot .qualityReports expectedStoreCount
  let waybills ← waybillsEntry isDate snapshot expectedStoreCount waybillCoreRows
  return { stockRecords, returnApplications, returnOrders, exceptions, valueAddedServices, qualityReports, waybills }

/-! ## The index -/

/-- `ORDER_MANAGEMENT_COVERAGE_STATUSES`. -/
inductive CoverageStatus where
  | complete
  | partially
  | unavailable
  deriving DecidableEq

structure Coverage where
  status : CoverageStatus
  expectedStoreCount : Int
  completedStoreCount : Nat
  storeCodes : List String
  reason : Option String

structure Index where
  schemaVersion : Nat
  updatedAt : String
  coverage : Coverage
  promotable : Bool
  pages : PageId → Page
  evidence : PageId → PageEvidence

/-- The pages that `materializeOrderManagementDatabasePages` returns. -/
structure DatabasePages where
  deliveryNotes : PageEntry
  waybills : PageEntry

/-- The pages of the index: those of the database, and those of the session, which come later. Every page id has one. -/
def allPages (database : DatabasePages) (session : SessionPages) : PageId → PageEntry
  | .deliveryNotes => database.deliveryNotes
  | .stockRecords => session.stockRecords
  | .waybills => session.waybills
  | .returnApplications => session.returnApplications
  | .returnOrders => session.returnOrders
  | .exceptions => session.exceptions
  | .valueAddedServices => session.valueAddedServices
  | .qualityReports => session.qualityReports

def countStore (counts : OrderedMap String Nat) (storeCode : String) : OrderedMap String Nat :=
  counts.set storeCode ((counts.get? storeCode).getD 0 + 1)

def storeCounts (pages : List (List String)) : OrderedMap String Nat :=
  pages.foldl (fun counts storeCodes => storeCodes.dedup.foldl countStore counts) .empty

/-- `intersectionOf`, of the store codes of the pages. -/
def intersectionOf (pages : List (List String)) : List String :=
  if pages = [] then []
  else jsSort (((storeCounts pages).entries.filter fun entry => decide (entry.2 = pages.length)).map (·.1))

def pagesWith (pages : PageId → PageEntry) (status : PageStatus) : List PageId :=
  PageId.all.filter fun pageId => (pages pageId).page.status = status

def pageReasons (pages : PageId → PageEntry) (pageIds : List PageId) : String :=
  String.intercalate " | " (pageIds.map fun pageId => s!"{pageId.text}: {(pages pageId).page.reason.text}")

def coverageOf (pages : PageId → PageEntry) (expectedStoreCount : Int) : Coverage :=
  let availablePages := pagesWith pages .available
  let partialPages := pagesWith pages .partially
  let unavailablePages := pagesWith pages .unavailable
  let storeCodes := intersectionOf (availablePages.map fun pageId => (pages pageId).evidence.storeCodes)
  let completed := if availablePages.length = 0 then 0 else storeCodes.length
  let everyPageAvailable := availablePages.length = PageId.all.length
  let status : CoverageStatus :=
    if availablePages.length = 0 ∧ partialPages.length = 0 then .unavailable
    else if everyPageAvailable ∧ partialPages.length = 0 ∧ (completed : Int) = expectedStoreCount then .complete
    else .partially
  { status
    expectedStoreCount
    completedStoreCount := completed
    storeCodes
    reason :=
      if status = .complete then none
      else if 0 < partialPages.length then some ("PAGE_GATE_FAILED: " ++ pageReasons pages partialPages)
      else if 0 < unavailablePages.length then some ("PAGE_UNAVAILABLE: " ++ pageReasons pages unavailablePages)
      else if availablePages.length = 0 then
        some "NO_AVAILABLE_PAGES: every page is UNAVAILABLE; nothing can be promoted."
      else some (s!"STORE_COVERAGE_INCOMPLETE: {completed}/{expectedStoreCount} stores covered by every available page.") }

/-- The value is a text that is a date, `null` or `undefined`. -/
def isNullOrDateText (isDate : Json → Bool) : Json → Bool
  | .null => true
  | .str text => isDate (.str text)
  | _ => false

def pageErrors (isDate : Json → Bool) (pageId : PageId) (page : Page) : List String :=
  (if page.source = "" then [s!"pages.{pageId.text}.source is required"] else []) ++
    (if isNullOrDateText isDate page.latestSourceFetchedAt then []
      else [s!"pages.{pageId.text}.latestSourceFetchedAt is invalid"]) ++
    (if isTextOrNullish (some page.reason) then [] else [s!"pages.{pageId.text}.reason must be a string or null"]) ++
    (if page.status = .unavailable ∧ truthy (some page.reason) = false then
      [s!"pages.{pageId.text}.reason is required when status is UNAVAILABLE"] else []) ++
    (page.rows.zipIdx.flatMap fun (row, index) =>
      (validateOrderManagementRow isDate pageId row).map fun message => s!"pages.{pageId.text}.rows[{index}] {message}")

/-- `validateOrderManagementIndex`, of an index of the materializer: its errors. -/
def validateOrderManagementIndex (isDate : Json → Bool) (index : Index) : List String :=
  (if isDate (.str index.updatedAt) then [] else ["updatedAt must be an ISO instant"]) ++
    (if index.coverage.expectedStoreCount.natAbs ≤ maxSafeInteger then []
      else ["coverage.expectedStoreCount must be an integer or null"]) ++
    PageId.all.flatMap fun pageId => pageErrors isDate pageId (index.pages pageId)

def indexOf (pages : PageId → PageEntry) (expectedStoreCount : Int) (now : String) : Index where
  schemaVersion := 1
  updatedAt := now
  coverage := coverageOf pages expectedStoreCount
  promotable := decide ((coverageOf pages expectedStoreCount).status = .complete)
  pages := fun pageId => (pages pageId).page
  evidence := fun pageId => (pages pageId).evidence

/-- `materializeOrderManagement`, of the pages of the database. -/
def materializeOrderManagement (isDate : Json → Bool) (database : DatabasePages) (sessionSnapshot : Option Json)
    (expectedStoreCount : Int) (now : String) : Except JsError Index := do
  let session ← mergeOrderManagementSessionSnapshot isDate sessionSnapshot expectedStoreCount
    database.waybills.page.rows
  let index := indexOf (allPages database session) expectedStoreCount now
  let errors := validateOrderManagementIndex isDate index
  refuse (errors ≠ []) { message := "ORDER_MANAGEMENT_INDEX_INVALID\n" ++ String.intercalate "\n" errors }
  return index

def isOrderManagementPromotable (index : Index) : Bool :=
  decide (index.schemaVersion = 1) && index.promotable && decide (index.coverage.status = .complete) &&
    PageId.all.all fun pageId => decide ((index.pages pageId).status = .available)

end FullManagedBi.OrderManagement
