import FullManagedBi.Lib.Calendar
import FullManagedBi.Lib.Grouping
import FullManagedBi.Lib.Json
import FullManagedBi.Lib.Sorting

/-!
# The dashboard projection

`src/domain/dashboard-projection.mjs` makes the totals and rankings of the dashboard from the SKU sales
snapshots: it keeps the latest snapshot of each SKU of a store and adds up its counts by store, by SKU and over
all. `parseDate` is how the engine reads a date text (`new Date(text)`), and `L` how it compares texts. The
`details` of an error are left out.
-/

namespace FullManagedBi.Dashboard

open Lib

def fail {α : Type} (code message : String) : Except JsError α := .error { code := some code, message }

/-! ## Reading fields -/

def record (value : Option Json) (path : String) : Except JsError Json :=
  match value with
  | some (.obj fields) => .ok (.obj fields)
  | _ => fail "INVALID_FIELD" s!"{path} must be an object"

def nonEmptyString (value : Option Json) (path : String) : Except JsError String :=
  match value with
  | some (.str text) =>
    if jsTrim text = "" then fail "INVALID_FIELD" s!"{path} must be a non-empty string" else .ok (jsTrim text)
  | _ => fail "INVALID_FIELD" s!"{path} must be a non-empty string"

def nonNegativeInteger (value : Option Json) (path : String) : Except JsError Nat :=
  match value with
  | some (.num (.int n)) =>
    if maxSafeInteger < n.natAbs then fail "INVALID_SALES_COUNT" s!"{path} must be a safe integer"
    else if n < 0 then fail "NEGATIVE_SALES_COUNT" s!"{path} cannot be negative"
    else .ok n.toNat
  | _ => fail "INVALID_SALES_COUNT" s!"{path} must be a safe integer"

def statisticsDate (value : Option Json) (path : String) : Except JsError String := do
  let normalized ← nonEmptyString value path
  refuse (isIsoDateShape normalized = false) {
    code := some "INVALID_STATISTICS_DATE", message := s!"{path} must use YYYY-MM-DD format" }
  refuse ((parseIsoDate normalized).isNone) {
    code := some "INVALID_STATISTICS_DATE", message := s!"{path} is not a valid calendar date" }
  return normalized

/-- `fetchedAt`: the ISO text of the instant. -/
def fetchedAt (parseDate : String → Option Int) (value : Option Json) (path : String) : Except JsError String :=
  match value with
  | some (.str text) =>
    if jsTrim text = "" then fail "INVALID_FETCHED_AT" s!"{path} must be an ISO date-time string"
    else
      match parseDate text with
      | some instant => .ok (toIsoTimestamp instant)
      | none => fail "INVALID_FETCHED_AT" s!"{path} must be a valid date-time"
  | _ => fail "INVALID_FETCHED_AT" s!"{path} must be an ISO date-time string"

/-! ## Store permissions -/

/-- `PERMISSION_STATUSES`. -/
inductive PermissionStatus where
  | granted
  | partially
  | pending
  | denied
  | unknown
  deriving DecidableEq

def PermissionStatus.text : PermissionStatus → String
  | .granted => "granted"
  | .partially => "partial"
  | .pending => "pending"
  | .denied => "denied"
  | .unknown => "unknown"

def permissionStatusOf (text : String) : Option PermissionStatus :=
  [.granted, .partially, .pending, .denied, .unknown].find? fun status : PermissionStatus => status.text = text

structure StorePermission where
  storeCode : String
  storeName : String
  permissionStatus : PermissionStatus
  deriving DecidableEq

def StorePermission.json (permission : StorePermission) : Json :=
  .obj [("storeCode", .str permission.storeCode), ("storeName", .str permission.storeName),
    ("permissionStatus", .str permission.permissionStatus.text)]

def storeNameOf (value : Option Json) (storeCode path : String) : Except JsError String :=
  match nullish value none with
  | none => .ok storeCode
  | some name => nonEmptyString (some name) path

def supportedStatus (text path : String) : Except JsError PermissionStatus :=
  match permissionStatusOf text with
  | some status => .ok status
  | none => fail "INVALID_PERMISSION_STATUS" s!"{path}.permissionStatus is unsupported"

/-- One pass of the loop of `normalizePermissions`, with the codes seen so far. -/
def normalizePermission (rawPermission : Json) (index : Nat) (seen : List String) :
    Except JsError StorePermission := do
  let path := s!"storePermissions[{index}]"
  let permission ← record (some rawPermission) path
  let storeCode ← nonEmptyString (permission.field? "storeCode") s!"{path}.storeCode"
  let storeName ← storeNameOf (permission.field? "storeName") storeCode s!"{path}.storeName"
  let permissionStatus ← nonEmptyString (permission.field? "permissionStatus") s!"{path}.permissionStatus"
  let permissionStatus ← supportedStatus permissionStatus path
  refuse (storeCode ∈ seen) {
    code := some "DUPLICATE_STORE_PERMISSION", message := s!"duplicate permission state for store {storeCode}" }
  return { storeCode, storeName, permissionStatus }

/-- The loop of `normalizePermissions` from an index on. -/
def normalizePermissionsFrom : Nat → List String → List Json → Except JsError (List StorePermission)
  | _, _, [] => .ok []
  | index, seen, rawPermission :: rest => do
    let permission ← normalizePermission rawPermission index seen
    let others ← normalizePermissionsFrom (index + 1) (seen ++ [permission.storeCode]) rest
    return permission :: others

def normalizePermissions : Json → Except JsError (List StorePermission)
  | .arr (first :: rest) => normalizePermissionsFrom 0 [] (first :: rest)
  | _ => fail "INVALID_STORE_PERMISSIONS" "storePermissions must be a non-empty array"

/-! ## Snapshots -/

structure Snapshot where
  storeCode : String
  skuCode : String
  statisticsDate : String
  fetchedAt : String
  salesToday : Nat
  salesYesterday : Nat
  sales7Days : Nat
  sales30Days : Nat
  deriving DecidableEq

/-- One pass of the loop of `normalizeSnapshots`. -/
def normalizeSnapshot (parseDate : String → Option Int) (permittedStoreCodes : List String)
    (rawSnapshot : Json) (index : Nat) : Except JsError Snapshot := do
  let path := s!"snapshots[{index}]"
  let snapshot ← record (some rawSnapshot) path
  let storeCode ← nonEmptyString (snapshot.field? "storeCode") s!"{path}.storeCode"
  let skuCode ← nonEmptyString (snapshot.field? "skuCode") s!"{path}.skuCode"
  refuse (storeCode ∉ permittedStoreCodes) {
    code := some "UNKNOWN_SNAPSHOT_STORE", message := s!"snapshot store {storeCode} has no permission state" }
  let statisticsDate ← statisticsDate (snapshot.field? "statisticsDate") s!"{path}.statisticsDate"
  let fetchedAt ← fetchedAt parseDate (snapshot.field? "fetchedAt") s!"{path}.fetchedAt"
  let salesToday ← nonNegativeInteger (snapshot.field? "salesToday") s!"{path}.salesToday"
  let salesYesterday ← nonNegativeInteger (snapshot.field? "salesYesterday") s!"{path}.salesYesterday"
  let sales7Days ← nonNegativeInteger (snapshot.field? "sales7Days") s!"{path}.sales7Days"
  let sales30Days ← nonNegativeInteger (snapshot.field? "sales30Days") s!"{path}.sales30Days"
  return { storeCode, skuCode, statisticsDate, fetchedAt, salesToday, salesYesterday, sales7Days, sales30Days }

def normalizeSnapshots (parseDate : String → Option Int) (snapshots : Json) (permittedStoreCodes : List String) :
    Except JsError (List Snapshot) :=
  match snapshots with
  | .arr rows => rows.zipIdx.mapM fun (row, index) => normalizeSnapshot parseDate permittedStoreCodes row index
  | _ => fail "INVALID_SNAPSHOTS" "snapshots must be an array"

/-- `isNewer`. Both texts are ASCII, so that `<` is the order of their code units. -/
def isNewer (candidate current : Snapshot) : Prop :=
  current.statisticsDate < candidate.statisticsDate ∨
    candidate.statisticsDate = current.statisticsDate ∧ current.fetchedAt < candidate.fetchedAt

instance (candidate current : Snapshot) : Decidable (isNewer candidate current) :=
  inferInstanceAs (Decidable (_ ∨ _))

abbrev BySku := OrderedMap String Snapshot

/-- One pass of the loop of `selectLatestSkuSalesSnapshots`. -/
def selectSnapshot (byStore : OrderedMap String BySku) (snapshot : Snapshot) : OrderedMap String BySku :=
  let bySku := (byStore.get? snapshot.storeCode).getD .empty
  byStore.set snapshot.storeCode <|
    match bySku.get? snapshot.skuCode with
    | some current => if isNewer snapshot current then bySku.set snapshot.skuCode snapshot else bySku
    | none => bySku.set snapshot.skuCode snapshot

def selectLatestSkuSalesSnapshots (parseDate : String → Option Int) (snapshots storePermissions : Json) :
    Except JsError (List Snapshot) := do
  let permissions ← normalizePermissions storePermissions
  let normalizedSnapshots ← normalizeSnapshots parseDate snapshots (permissions.map (·.storeCode))
  let byStore := normalizedSnapshots.foldl selectSnapshot .empty
  return byStore.values.flatMap (·.values)

/-! ## Units sold -/

/-- `unitsSold`, with `yesterday`. -/
structure UnitsSold where
  today : Option Nat
  yesterday : Option Nat
  last7Days : Option Nat
  last30Days : Option Nat
  deriving DecidableEq

/-- `unitsSold` of a ranking. -/
structure RankedUnits where
  today : Option Nat
  last7Days : Option Nat
  last30Days : Option Nat
  deriving DecidableEq

def addSafeInteger (left right : Nat) (path : String) : Except JsError Nat :=
  if maxSafeInteger < left + right then fail "SALES_COUNT_OVERFLOW" s!"{path} exceeds the safe integer range"
  else .ok (left + right)

/-- The totals of a list that is not empty. -/
structure Totals where
  today : Nat := 0
  yesterday : Nat := 0
  last7Days : Nat := 0
  last30Days : Nat := 0
  deriving DecidableEq

/-- One pass of the loop of `aggregateUnits`, over `SALES_FIELDS`. -/
def addSnapshot (totals : Totals) (snapshot : Snapshot) : Except JsError Totals := do
  let today ← addSafeInteger totals.today snapshot.salesToday "unitsSold.today"
  let yesterday ← addSafeInteger totals.yesterday snapshot.salesYesterday "unitsSold.yesterday"
  let last7Days ← addSafeInteger totals.last7Days snapshot.sales7Days "unitsSold.last7Days"
  let last30Days ← addSafeInteger totals.last30Days snapshot.sales30Days "unitsSold.last30Days"
  return { today, yesterday, last7Days, last30Days }

/-- `aggregateUnits` with `includeYesterday`. -/
def aggregateUnits (snapshots : List Snapshot) : Except JsError UnitsSold :=
  if snapshots = [] then .ok { today := none, yesterday := none, last7Days := none, last30Days := none }
  else do
    let totals ← snapshots.foldlM addSnapshot {}
    return {
      today := some totals.today, yesterday := some totals.yesterday, last7Days := some totals.last7Days
      last30Days := some totals.last30Days }

/-- `aggregateUnits` without `includeYesterday`. -/
def aggregateRankedUnits (snapshots : List Snapshot) : Except JsError RankedUnits := do
  let units ← aggregateUnits snapshots
  return { today := units.today, last7Days := units.last7Days, last30Days := units.last30Days }

/-! ## Rankings -/

def rankValue : Option Nat → Int
  | some value => if value ≤ maxSafeInteger then value else -1
  | none => -1

/-- `compareRanking`: the higher count first, and then `tieBreaker`. -/
def compareRanking (left right : RankedUnits) (tieBreaker : Ordering) : Ordering :=
  (compare (rankValue right.last30Days) (rankValue left.last30Days)).then <|
    (compare (rankValue right.last7Days) (rankValue left.last7Days)).then <|
      (compare (rankValue right.today) (rankValue left.today)).then tieBreaker

/-- An entry of the ranking of stores. -/
structure StoreRank where
  code : String
  name : String
  permissionStatus : PermissionStatus
  unitsSold : RankedUnits
  deriving DecidableEq

structure SkuRank where
  sku : String
  unitsSold : RankedUnits
  deriving DecidableEq

/-- The entry does not come behind the other one. -/
def StoreRank.Le (L : LocaleOrder) (left right : StoreRank) : Prop :=
  compareRanking left.unitsSold right.unitsSold (L.localeCompare left.code right.code) ≠ .gt

instance (L : LocaleOrder) : DecidableRel (StoreRank.Le L) := fun _ _ => inferInstanceAs (Decidable (_ ≠ _))

/-- The entry does not come behind the other one. -/
def SkuRank.Le (L : LocaleOrder) (left right : SkuRank) : Prop :=
  compareRanking left.unitsSold right.unitsSold (L.localeCompare left.sku right.sku) ≠ .gt

instance (L : LocaleOrder) : DecidableRel (SkuRank.Le L) := fun _ _ => inferInstanceAs (Decidable (_ ≠ _))

/-! ## Permissions of all stores -/

/-- `permission` of the projection. -/
structure AggregateStatus where
  status : PermissionStatus
  authorizedStores : Nat
  totalStores : Nat
  deriving DecidableEq

def aggregatePermissionStatus (permissions : List StorePermission) : AggregateStatus :=
  let authorizedStores := permissions.countP fun permission => permission.permissionStatus = .granted
  let has (status : PermissionStatus) : Bool := permissions.any fun permission => permission.permissionStatus = status
  let status : PermissionStatus :=
    if authorizedStores = permissions.length then .granted
    else if 0 < authorizedStores ∨ has .partially then .partially
    else if has .pending then .pending
    else if permissions.all fun permission => permission.permissionStatus = .denied then .denied
    else .unknown
  { status, authorizedStores, totalStores := permissions.length }

/-! ## The projection -/

/-- What `projectDashboardData` returns. `live` is whether `datasetStatus` is `live`, and not `empty`. -/
structure DashboardData where
  live : Bool
  updatedAt : Option String
  permission : AggregateStatus
  unitsSold : UnitsSold
  storeRanking : List StoreRank
  skuRanking : List SkuRank
  deriving DecidableEq

def storeRankOf (snapshotsByStore : OrderedMap String (List Snapshot)) (permission : StorePermission) :
    Except JsError StoreRank := do
  let unitsSold ← aggregateRankedUnits ((snapshotsByStore.get? permission.storeCode).getD [])
  return {
    code := permission.storeCode, name := permission.storeName
    permissionStatus := permission.permissionStatus, unitsSold }

def skuRankOf (entry : String × List Snapshot) : Except JsError SkuRank := do
  let unitsSold ← aggregateRankedUnits entry.2
  return { sku := entry.1, unitsSold }

/-- `updatedAt`: the latest fetch time. -/
def updatedAtOf : List Snapshot → Option String
  | [] => none
  | first :: rest => some <| (first :: rest).foldl
      (fun latest snapshot => if latest < snapshot.fetchedAt then snapshot.fetchedAt else latest) first.fetchedAt

def projectDashboardData (L : LocaleOrder) (parseDate : String → Option Int) (snapshots storePermissions : Json) :
    Except JsError DashboardData := do
  let permissions ← normalizePermissions storePermissions
  let latestSnapshots ←
    selectLatestSkuSalesSnapshots parseDate snapshots (.arr (permissions.map StorePermission.json))
  let storeRanks ← permissions.mapM (storeRankOf (groupRows (·.storeCode) latestSnapshots))
  let skuRanks ← (groupRows (·.skuCode) latestSnapshots).entries.mapM skuRankOf
  let unitsSold ← aggregateUnits latestSnapshots
  return {
    live := !latestSnapshots.isEmpty
    updatedAt := updatedAtOf latestSnapshots
    permission := aggregatePermissionStatus permissions
    unitsSold
    storeRanking := storeRanks.insertionSort (StoreRank.Le L)
    skuRanking := skuRanks.insertionSort (SkuRank.Le L) }

end FullManagedBi.Dashboard
