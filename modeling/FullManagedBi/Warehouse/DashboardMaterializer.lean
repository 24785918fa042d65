import FullManagedBi.Sales.DashboardProjection

/-!
# The materialized dashboard

`buildDashboardFromProjectionInput` of `src/warehouse/dashboard-materializer.mjs` makes the dashboard from the rows
`readDashboardProjectionInput` reads: it votes for one business date, keeps the snapshots of that date, and regroups
them by store, by SKU and by product. The counts are those of one date, so that no number mixes two days.

`L` is how the engine compares texts, and `parseDate` how it reads a date text. What does not come from the sales
rows is left out: the readiness stages and the coverage and pipeline of the product identities.
-/

namespace FullManagedBi.Materializer

open Lib
open Dashboard (UnitsSold Totals AggregateStatus PermissionStatus projectDashboardData)

/-! ## The projection input -/

structure CanonicalAssignment where
  canonicalProductId : String
  standardProductCode : Option String
  standardProductName : Option String
  deriving DecidableEq

/-- A row of `snapshots`. -/
structure SalesSnapshot where
  storeCode : String
  skuCode : String
  skc : Option String
  supplierCode : Option String
  supplierSku : Option String
  productKey : Option String
  name : Option String
  salesToday : Nat
  salesYesterday : Nat
  sales7Days : Nat
  sales30Days : Nat
  statisticsDate : String
  fetchedAt : String
  canonicalAssignment : Option CanonicalAssignment
  deriving DecidableEq

/-- A row of `storePermissions`. -/
structure StorePermission where
  storeCode : String
  storeName : String
  permissionStatus : String
  deriving DecidableEq

/-- A row of `storeHealth`. -/
structure StoreHealth where
  storeCode : String
  probeDataQualityReason : Option String
  probeStatisticsDateCount : Option Nat
  probeAt : Option String
  runStatus : Option String
  watermarkDate : Option String
  dateAnchorStatus : Option String
  qualityStatus : Option String
  responseSkuCount : Option Nat
  quarantinedSkuCount : Option Nat
  quarantinedSkuCodes : List String
  unitsSold : Option UnitsSold
  fetchedAt : Option String
  deriving DecidableEq

/-- A row of `salesTrend`. -/
structure TrendRow where
  storeCode : String
  date : String
  unitsSold : Nat
  deriving DecidableEq

/-- A row of `owners`. -/
structure Owner where
  key : String
  name : String
  storeCodes : List String
  deriving DecidableEq

structure ProjectionInput where
  storePermissions : List StorePermission
  snapshots : List SalesSnapshot
  skuNames : OrderedMap String String
  salesTrend : List TrendRow
  storeHealth : List StoreHealth
  owners : List Owner

structure CatalogStore where
  storeCode : String
  storeName : Option String
  deriving DecidableEq

def storeSkuKey (storeCode skuCode : String) : String := s!"{storeCode}\u001f{skuCode}"

/-- The permission as `projectDashboardData` reads it. -/
def StorePermission.json (permission : StorePermission) : Json :=
  .obj [("storeCode", .str permission.storeCode), ("storeName", .str permission.storeName),
    ("permissionStatus", .str permission.permissionStatus)]

def countJson (count : Nat) : Json := .num (.int count)

/-- A row of `projectedSnapshots` as `projectDashboardData` reads it: its SKU is named with its store. -/
def SalesSnapshot.projected (snapshot : SalesSnapshot) : Json :=
  .obj [("storeCode", .str snapshot.storeCode),
    ("skuCode", .str (storeSkuKey snapshot.storeCode snapshot.skuCode)),
    ("statisticsDate", .str snapshot.statisticsDate), ("fetchedAt", .str snapshot.fetchedAt),
    ("salesToday", countJson snapshot.salesToday), ("salesYesterday", countJson snapshot.salesYesterday),
    ("sales7Days", countJson snapshot.sales7Days), ("sales30Days", countJson snapshot.sales30Days)]

/-- `[...new Set(texts)]`. -/
def distinct (texts : List String) : List String := unseen id [] texts

/-! ## Sums -/

/-- `EMPTY_UNITS`. -/
def emptyUnits : UnitsSold := { today := none, yesterday := none, last7Days := none, last30Days := none }

/-- `pgInteger` of a count. -/
def pgInteger (value : Nat) (location : String) : Except JsError Nat :=
  if maxSafeInteger < value then .error { message := s!"{location} is not a safe count" } else .ok value

/-- One field of one pass of the loop of `sumSnapshotUnits`. -/
def addCount (sum value : Nat) (location target : String) : Except JsError Nat := do
  let value ← pgInteger value location
  refuse (maxSafeInteger < sum + value) {
    message := s!"Sales total {target} exceeds the safe integer range" }
  return sum + value

/-- One pass of the loop of `sumSnapshotUnits`. -/
def addRow (result : Totals) (row : SalesSnapshot) : Except JsError Totals := do
  let location (source : String) : String := s!"{row.storeCode}/{row.skuCode}.{source}"
  let today ← addCount result.today row.salesToday (location "salesToday") "today"
  let yesterday ← addCount result.yesterday row.salesYesterday (location "salesYesterday") "yesterday"
  let last7Days ← addCount result.last7Days row.sales7Days (location "sales7Days") "last7Days"
  let last30Days ← addCount result.last30Days row.sales30Days (location "sales30Days") "last30Days"
  return { today, yesterday, last7Days, last30Days }

def unitsOfTotals (totals : Totals) : UnitsSold where
  today := some totals.today
  yesterday := some totals.yesterday
  last7Days := some totals.last7Days
  last30Days := some totals.last30Days

def sumSnapshotUnits (rows : List SalesSnapshot) : Except JsError UnitsSold :=
  if rows = [] then .ok emptyUnits
  else do
    let totals ← rows.foldlM addRow {}
    return unitsOfTotals totals

/-! ## The business date -/

/-- The date does not come behind the other one: more stores first, and then the later date. -/
def dateLe (L : LocaleOrder) (left right : String × Nat) : Prop :=
  (compare right.2 left.2).then (L.localeCompare right.1 left.1) ≠ .gt

instance (L : LocaleOrder) : DecidableRel (dateLe L) := fun _ _ => inferInstanceAs (Decidable (_ ≠ _))

def selectUnifiedBusinessDate (L : LocaleOrder) (snapshots : List SalesSnapshot) : Option String :=
  let coverageByDate := (groupRows (·.statisticsDate) snapshots).entries.map fun (date, rows) =>
    (date, (distinct (rows.map (·.storeCode))).length)
  (coverageByDate.insertionSort (dateLe L)).head?.map (·.1)

/-! ## Rankings -/

/-- A count as `compareUnits` reads it. -/
def unitRank (units : Option Nat) : Int := (units.map Int.ofNat).getD (-1)

/-- `compareUnits`: the higher count first, and then by name. -/
def compareUnits (L : LocaleOrder) (left right : UnitsSold) (leftName rightName : String) : Ordering :=
  (compare (unitRank right.last30Days) (unitRank left.last30Days)).then <|
    (compare (unitRank right.last7Days) (unitRank left.last7Days)).then <|
      (compare (unitRank right.today) (unitRank left.today)).then (L.localeCompare leftName rightName)

/-- `.sort(compareUnits)` of entries with their units and the name that breaks a tie. -/
def sortByUnits {ρ : Type} (L : LocaleOrder) (units : ρ → UnitsSold) (name : ρ → String) (rows : List ρ) : List ρ :=
  rows.insertionSort fun left right => compareUnits L (units left) (units right) (name left) (name right) ≠ .gt

/-- `mappingStatus`. -/
inductive MappingStatus where
  | confirmed
  | missingSpuId
  | unmapped
  | unverified
  deriving DecidableEq

/-- Whether the product is known by its SKC only. -/
def isSkcKey (productKey : Option String) : Bool := "SKC:".toList.isPrefixOf (productKey.getD "").toList

def SalesSnapshot.keyOrSku (snapshot : SalesSnapshot) : String :=
  snapshot.productKey.getD s!"SKU:{snapshot.skuCode}"

def SalesSnapshot.units (snapshot : SalesSnapshot) : UnitsSold where
  today := some snapshot.salesToday
  yesterday := some snapshot.salesYesterday
  last7Days := some snapshot.sales7Days
  last30Days := some snapshot.sales30Days

/-- An entry of the ranking of the SKUs of each store. -/
structure StoreSkuRank where
  storeCode : String
  sku : String
  skc : Option String
  supplierCode : Option String
  supplierSku : Option String
  productKey : String
  name : String
  canonicalProductId : Option String
  standardProductCode : Option String
  standardProductName : Option String
  mappingStatus : MappingStatus
  businessDate : String
  unitsSold : UnitsSold
  deriving DecidableEq

def storeSkuRank (skuNames : OrderedMap String String) (snapshot : SalesSnapshot) : StoreSkuRank where
  storeCode := snapshot.storeCode
  sku := snapshot.skuCode
  skc := snapshot.skc
  supplierCode := snapshot.supplierCode
  supplierSku := snapshot.supplierSku
  productKey := snapshot.keyOrSku
  name := (((snapshot.name.or (skuNames.get? (storeSkuKey snapshot.storeCode snapshot.skuCode))).or
    (skuNames.get? snapshot.skuCode)).getD snapshot.skuCode)
  canonicalProductId := snapshot.canonicalAssignment.map (·.canonicalProductId)
  standardProductCode := snapshot.canonicalAssignment.bind (·.standardProductCode)
  standardProductName := snapshot.canonicalAssignment.bind (·.standardProductName)
  mappingStatus :=
    if snapshot.canonicalAssignment.isSome then .confirmed
    else if isSkcKey snapshot.productKey then .missingSpuId
    else .unmapped
  businessDate := snapshot.statisticsDate
  unitsSold := snapshot.units

def buildStoreSkuRanking (L : LocaleOrder) (snapshots : List SalesSnapshot) (skuNames : OrderedMap String String) :
    List StoreSkuRank :=
  sortByUnits L (·.unitsSold) (·.sku) (snapshots.map (storeSkuRank skuNames))

/-- `identityLevel`. -/
inductive IdentityLevel where
  | canonicalConfirmed
  | storeLocalUnverified
  deriving DecidableEq

/-- A group of `buildProductRanking`. -/
structure ProductGroup where
  canonicalProductId : Option String
  standardProductCode : Option String
  name : String
  storeCode : Option String
  productKey : Option String
  identityLevel : IdentityLevel
  mappingStatus : MappingStatus
  storeCodes : List String
  rows : List SalesSnapshot
  deriving DecidableEq

def productGroupKey (snapshot : SalesSnapshot) : String :=
  match snapshot.canonicalAssignment with
  | some assignment => s!"CANONICAL:{assignment.canonicalProductId}"
  | none => s!"STORE_PRODUCT:{snapshot.storeCode}:{snapshot.keyOrSku}"

def openGroup (snapshot : SalesSnapshot) : ProductGroup :=
  let assignment := snapshot.canonicalAssignment
  { canonicalProductId := assignment.map (·.canonicalProductId)
    standardProductCode := assignment.bind (·.standardProductCode)
    name := (((assignment.bind (·.standardProductName)).or snapshot.name).or snapshot.productKey).getD snapshot.skuCode
    storeCode := if assignment.isSome then none else some snapshot.storeCode
    productKey := if assignment.isSome then none else some snapshot.keyOrSku
    identityLevel := if assignment.isSome then .canonicalConfirmed else .storeLocalUnverified
    mappingStatus :=
      if assignment.isSome then .confirmed
      else if isSkcKey snapshot.productKey then .missingSpuId
      else .unverified
    storeCodes := []
    rows := [] }

/-- `Set.prototype.add`. -/
def addText (texts : List String) (text : String) : List String := if text ∈ texts then texts else texts ++ [text]

def ProductGroup.push (group : ProductGroup) (snapshot : SalesSnapshot) : ProductGroup :=
  { group with storeCodes := addText group.storeCodes snapshot.storeCode, rows := group.rows ++ [snapshot] }

/-- The loop of `buildProductRanking`. -/
def productGroups (snapshots : List SalesSnapshot) : OrderedMap String ProductGroup :=
  foldRows productGroupKey openGroup ProductGroup.push snapshots

structure StoreUnits where
  storeCode : String
  unitsSold : UnitsSold
  deriving DecidableEq

/-- An entry of the ranking of products. -/
structure ProductRank where
  canonicalProductId : Option String
  standardProductCode : Option String
  name : String
  storeCode : Option String
  productKey : Option String
  identityLevel : IdentityLevel
  mappingStatus : MappingStatus
  storeCount : Nat
  storeBreakdown : List StoreUnits
  unitsSold : UnitsSold
  deriving DecidableEq

def storeUnitsOf (group : ProductGroup) (storeCode : String) : Except JsError StoreUnits := do
  let unitsSold ← sumSnapshotUnits (group.rows.filter fun row => row.storeCode = storeCode)
  return { storeCode, unitsSold }

def productRankOf (group : ProductGroup) : Except JsError ProductRank := do
  let storeBreakdown ← (jsSort group.storeCodes).mapM (storeUnitsOf group)
  let unitsSold ← sumSnapshotUnits group.rows
  return {
    canonicalProductId := group.canonicalProductId
    standardProductCode := group.standardProductCode
    name := group.name
    storeCode := group.storeCode
    productKey := group.productKey
    identityLevel := group.identityLevel
    mappingStatus := group.mappingStatus
    storeCount := group.storeCodes.length
    storeBreakdown
    unitsSold }

def buildProductRanking (L : LocaleOrder) (snapshots : List SalesSnapshot) : Except JsError (List ProductRank) := do
  let products ← (productGroups snapshots).values.mapM productRankOf
  return sortByUnits L (·.unitsSold) (·.name) products

/-! ## The trend -/

structure DayTotal where
  unitsSold : Nat
  stores : List String
  deriving DecidableEq

/-- One pass of the loop of `buildTrendSeries`. -/
def addTrendRow (byDate : OrderedMap String DayTotal) (row : TrendRow) : Except JsError (OrderedMap String DayTotal) := do
  let current := (byDate.get? row.date).getD { unitsSold := 0, stores := [] }
  let value ← pgInteger row.unitsSold s!"salesTrend.{row.storeCode}.{row.date}"
  let sum := current.unitsSold + value
  refuse (maxSafeInteger < sum) { message := s!"Sales trend {row.date} exceeds the safe integer range" }
  return byDate.set row.date { unitsSold := sum, stores := addText current.stores row.storeCode }

structure TrendPoint where
  date : String
  unitsSold : Nat
  coveredStores : Nat
  deriving DecidableEq

def buildTrendSeries (L : LocaleOrder) (rows : List TrendRow) : Except JsError (List TrendPoint) := do
  let byDate ← rows.foldlM addTrendRow .empty
  let days := byDate.entries.insertionSort fun left right => L.localeCompare left.1 right.1 ≠ .gt
  return days.map fun (date, value) => {
    date, unitsSold := value.unitsSold, coveredStores := value.stores.length }

/-! ## The coverage -/

/-- `MIXED_STATISTICS_DATES_CODE`. -/
def mixedStatisticsDatesCode : String := "MIXED_STATISTICS_DATES"

/-- Whether the run of the store found zero sales without a date. -/
def StoreHealth.legalZero (row : StoreHealth) : Bool := row.qualityStatus = some "LEGAL_ZERO_UNANCHORED"

/-- Whether the rows of the store are quarantined. -/
def StoreHealth.blocked (row : StoreHealth) : Bool := row.runStatus = some "QUALITY_BLOCKED"

/-- Whether the probe of the store found several dates. -/
def StoreHealth.mixed (row : StoreHealth) : Bool := row.probeDataQualityReason = some mixedStatisticsDatesCode

def StoreHealth.partiallyDated (row : StoreHealth) : Bool := row.dateAnchorStatus = some "PARTIAL"

/-- `status` of the coverage. -/
inductive CoverageStatus where
  | unknown
  | blocked
  | legalZero
  | partially
  | complete
  deriving DecidableEq

/-- `salesCoverage` of the dashboard. -/
structure SalesCoverage where
  businessDate : Option String
  coveredStores : Nat
  legalZeroStores : Nat
  totalStores : Nat
  status : CoverageStatus
  label : String
  reason : String
  partialStores : Nat
  mixedStatisticsDateStores : Nat
  quarantinedRows : Nat
  datedRows : Nat
  totalRows : Nat
  deriving DecidableEq

/-- The counts `salesCoverage` decides by. -/
structure CoverageCounts where
  acceptedStores : Nat
  legalZeroStores : Nat
  blockedStores : Nat
  mixedStatisticsDateStores : Nat
  partialStores : Nat
  quarantinedRows : Nat
  deriving DecidableEq

def coverageCounts (selectedSnapshots : List SalesSnapshot) (storeHealth : List StoreHealth) : CoverageCounts :=
  let legalZeroRows := storeHealth.filter (·.legalZero)
  let mixedStatisticsDateRows := storeHealth.filter (·.mixed)
  { acceptedStores :=
      (distinct (selectedSnapshots.map (·.storeCode) ++ legalZeroRows.map (·.storeCode))).length
    legalZeroStores := legalZeroRows.length
    blockedStores := (storeHealth.filter (·.blocked)).length
    mixedStatisticsDateStores := mixedStatisticsDateRows.length
    partialStores :=
      (distinct ((storeHealth.filter (·.partiallyDated)).map (·.storeCode) ++
        mixedStatisticsDateRows.map (·.storeCode))).length
    quarantinedRows := (storeHealth.map fun row => row.quarantinedSkuCount.getD 0).sum }

/-- Status, label and reason of the coverage. -/
def coverageStatus (businessDate : Option String) (totalStores : Nat) (counts : CoverageCounts) :
    CoverageStatus × String × String :=
  let { acceptedStores, legalZeroStores, blockedStores, mixedStatisticsDateStores, partialStores, quarantinedRows } :=
    counts
  if 0 < blockedStores then
    (.blocked, "存在隔离数据",
      s!"{blockedStores} 家店存在非零销量但统计日期缺失，相关行未进入BI" ++
        (if 0 < mixedStatisticsDateStores then s!"；另有 {mixedStatisticsDateStores} 家本轮日切返回混合统计日期" else ""))
  else if 0 < mixedStatisticsDateStores ∧ acceptedStores = 0 then
    (.blocked, "日切数据待收敛",
      s!"{mixedStatisticsDateStores} 家本轮日切返回混合统计日期；沿用上一可信水位，未混入首页")
  else if businessDate = none ∧ 0 < legalZeroStores then
    if acceptedStores = totalStores then (.legalZero, "合法零销量", "接口完整返回零值，但统计日期未锚定")
    else (.partially, "部分店铺为合法零销量", "接口完整返回零值，但统计日期未锚定")
  else if acceptedStores = totalStores ∧ 0 < totalStores ∧ legalZeroStores = 0 ∧ partialStores = 0 then
    (.complete, "同日覆盖完整", "所有店铺均使用同一业务日，或有明确合法零值观测")
  else if 0 < acceptedStores then
    (.partially, "同日覆盖不完整",
      if 0 < mixedStatisticsDateStores then
        s!"{acceptedStores}/{totalStores} 家店进入当前统一业务日；{mixedStatisticsDateStores} 家本轮日切返回混合统计日期，" ++
          "沿用上一可信水位且未混算" ++
          (if 0 < quarantinedRows then s!"；另有 {quarantinedRows} 个非零SKU因缺少统计日期已隔离" else "")
      else if 0 < quarantinedRows then
        s!"{acceptedStores}/{totalStores} 家店可用于当前口径，{quarantinedRows} 个非零SKU因缺少统计日期已隔离"
      else s!"{acceptedStores}/{totalStores} 家店可用于当前口径，未混合其他统计日")
  else (.unknown, "等待销量数据", "尚无完整、可解释的销量观测")

def salesCoverage (businessDate : Option String) (selectedSnapshots : List SalesSnapshot)
    (storeHealth : List StoreHealth) (totalStores : Nat) : SalesCoverage :=
  let counts := coverageCounts selectedSnapshots storeHealth
  let (status, label, reason) := coverageStatus businessDate totalStores counts
  { businessDate
    coveredStores := (distinct (selectedSnapshots.map (·.storeCode))).length
    legalZeroStores := counts.legalZeroStores
    totalStores, status, label, reason
    partialStores := counts.partialStores
    mixedStatisticsDateStores := counts.mixedStatisticsDateStores
    quarantinedRows := counts.quarantinedRows
    datedRows := selectedSnapshots.length
    totalRows := (storeHealth.map fun row => row.responseSkuCount.getD 0).sum }

/-! ## The snapshots that count -/

/-- `snapshots`: those of an active store, unless one of its health rows excludes it. -/
def currentSnapshots (input : ProjectionInput) : List SalesSnapshot :=
  let activeStoreCodes := input.storePermissions.map (·.storeCode)
  let excludedCurrentStoreCodes :=
    (input.storeHealth.filter fun row => row.legalZero || row.blocked || row.mixed).map (·.storeCode)
  input.snapshots.filter fun snapshot =>
    snapshot.storeCode ∈ activeStoreCodes ∧ snapshot.storeCode ∉ excludedCurrentStoreCodes

/-- `selectedSnapshots`: those of the business date. -/
def selectedSnapshots (L : LocaleOrder) (input : ProjectionInput) : List SalesSnapshot :=
  match selectUnifiedBusinessDate L (currentSnapshots input) with
  | none => []
  | some businessDate => (currentSnapshots input).filter fun snapshot => snapshot.statisticsDate = businessDate

/-! ## The ranking of stores -/

/-- `qualityStatus`. -/
inductive QualityStatus where
  | healthy
  | partially
  | legalZero
  | stale
  | error
  | unavailable
  deriving DecidableEq

/-- An entry of the ranking of stores. -/
structure StoreRank where
  code : String
  name : String
  ownerKey : Option String
  ownerName : Option String
  permissionStatus : String
  businessDate : Option String
  qualityStatus : QualityStatus
  qualityReason : String
  unitsSold : UnitsSold
  deriving DecidableEq

def ownerByStore (owners : List Owner) : OrderedMap String Owner :=
  .ofEntries (owners.flatMap fun owner => owner.storeCodes.map fun storeCode => (storeCode, owner))

/-- A text that is there and not empty. -/
def present (text : Option String) : Option String := text.filter (· ≠ "")

def storeQuality (businessDate : Option String) (health : Option StoreHealth) (rows : List SalesSnapshot) :
    QualityStatus × String :=
  let watermarkDate := present (health.bind (·.watermarkDate))
  let quarantinedSkuCount := (health.bind (·.quarantinedSkuCount)).getD 0
  if health.any (·.mixed) then
    let countText :=
      match health.bind (·.probeStatisticsDateCount) with
      | some dateCount => if dateCount ≤ maxSafeInteger then s!"，检测到 {dateCount} 个统计日" else ""
      | none => ""
    let watermarkText :=
      match watermarkDate with
      | some date => s!"沿用上一可信水位 {date}"
      | none => "未推进可信水位"
    let currentDateText :=
      match present businessDate with
      | some date => s!"，未与首页业务日 {date} 混算"
      | none => "，未进入首页汇总"
    (.stale, s!"本轮日切返回混合统计日期{countText}；{watermarkText}{currentDateText}")
  else if health.any (·.blocked) then (.error, "非零销量缺少统计日期，相关行已隔离")
  else if health.any (·.legalZero) then (.legalZero, "销量完整返回为0，但统计日期未锚定")
  else if rows ≠ [] then
    if health.any (·.partiallyDated) then
      let quarantinedPreview := ((health.map (·.quarantinedSkuCodes)).getD []).take 5
      let quarantinedSuffix :=
        if quarantinedPreview ≠ [] then
          "：" ++ "、".intercalate quarantinedPreview ++
            (if quarantinedPreview.length < quarantinedSkuCount then " 等" else "")
        else ""
      (.partially,
        if 0 < quarantinedSkuCount then
          s!"{quarantinedSkuCount} 个非零SKU缺少统计日期，已隔离{quarantinedSuffix}"
        else "部分零销量SKU缺少统计日期")
    else (.healthy, "销量已按统一业务日入仓")
  else
    match watermarkDate with
    | some date =>
      if businessDate ≠ some date then
        let currentDate := businessDate.getD "null"
        (.stale, s!"店铺业务日为 {date}，未与首页 {currentDate} 混算")
      else (.unavailable, "尚无可信销量观测")
    | none => (.unavailable, "尚无可信销量观测")

/-- `unitsSold` of a store: those of its run, where it found zero sales without a date. -/
def storeUnitsSold (health : Option StoreHealth) (rows : List SalesSnapshot) : Except JsError UnitsSold :=
  match if health.any (·.legalZero) then health.bind (·.unitsSold) else none with
  | some unitsSold => .ok unitsSold
  | none => sumSnapshotUnits rows

def storeRankOf (businessDate : Option String) (owners : OrderedMap String Owner)
    (healthByStore : OrderedMap String StoreHealth) (snapshotsByStore : OrderedMap String (List SalesSnapshot))
    (permission : StorePermission) : Except JsError StoreRank := do
  let health := healthByStore.get? permission.storeCode
  let rows := (snapshotsByStore.get? permission.storeCode).getD []
  let legalZero := health.any (·.legalZero)
  let unitsSold ← storeUnitsSold health rows
  return {
    code := permission.storeCode
    name := permission.storeName
    ownerKey := (owners.get? permission.storeCode).map (·.key)
    ownerName := (owners.get? permission.storeCode).map (·.name)
    permissionStatus := permission.permissionStatus
    businessDate :=
      if legalZero then none
      else if rows ≠ [] then businessDate
      else health.bind (·.watermarkDate)
    qualityStatus := (storeQuality businessDate health rows).1
    qualityReason := (storeQuality businessDate health rows).2
    unitsSold }

/-- `ranking`, before it is sorted. -/
def storeRanks (L : LocaleOrder) (input : ProjectionInput) : Except JsError (List StoreRank) :=
  let selected := selectedSnapshots L input
  input.storePermissions.mapM <|
    storeRankOf (selectUnifiedBusinessDate L (currentSnapshots input)) (ownerByStore input.owners)
      (.ofEntries (input.storeHealth.map fun row => (row.storeCode, row)))
      (groupRows (·.storeCode) selected)

/-! ## The dashboard -/

/-- `quality` of the dashboard. -/
structure Quality where
  status : QualityStatus
  label : String
  reason : String
  impact : String
  nextStep : Option String
  deriving DecidableEq

/-- `datasetStatus`. -/
inductive DatasetStatus where
  | live
  | empty
  deriving DecidableEq

/-- The dashboard. Its `skuRanking` is its `storeSkuRanking`. -/
structure MaterializedDashboard where
  datasetStatus : DatasetStatus
  updatedAt : Option String
  permission : AggregateStatus
  businessDate : Option String
  salesCoverage : SalesCoverage
  quality : Quality
  unitsSold : UnitsSold
  salesTrend : List TrendPoint
  salesTrendByStore : List TrendRow
  owners : List Owner
  storeRanking : List StoreRank
  storeSkuRanking : List StoreSkuRank
  productRanking : List ProductRank
  deriving DecidableEq

def qualityImpact (coverage : SalesCoverage) : String :=
  if coverage.status = .complete then "销售卡片、趋势和排行榜均使用同一业务日"
  else if 0 < coverage.mixedStatisticsDateStores then
    "首页仅汇总统一业务日；混合日期店保留上一可信水位，但不进入当前销售卡片和排行榜" ++
      (if 0 < coverage.quarantinedRows then "；缺少统计日期的非零SKU也未计入" else "")
  else if 0 < coverage.quarantinedRows then
    "销售卡片、趋势和排行榜仅汇总有日期的SKU；隔离SKU未计入，当前数值不是完整总量"
  else "首页只汇总可解释的同日数据，其他店铺保持空值或单独标注"

/-- What to do about stores with several dates. -/
def mixedDatesStep (coverage : SalesCoverage) : String :=
  "等待SHEIN日切收敛后由下一轮同步重试；不要选择日期或跨日补零" ++
    (if 0 < coverage.quarantinedRows then "；同时检查被隔离SKU并等待有效dt" else "")

def qualityNextStep (coverage : SalesCoverage) : Option String :=
  if coverage.status = .blocked then
    if 0 < coverage.mixedStatisticsDateStores then some (mixedDatesStep coverage)
    else some "检查被隔离SKU并等待SHEIN返回有效dt"
  else if 0 < coverage.mixedStatisticsDateStores then some (mixedDatesStep coverage)
  else if 0 < coverage.quarantinedRows then some "检查隔离SKU并等待SHEIN返回有效dt后重跑"
  else if coverage.status = .partially then some "继续同步未覆盖店铺，不要跨日补零"
  else none

/-- `dashboard.quality`. -/
def qualityOf (coverage : SalesCoverage) : Quality where
  status :=
    match coverage.status with
    | .complete => .healthy
    | .legalZero => .legalZero
    | .blocked => .error
    | .partially => .partially
    | .unknown => .unavailable
  label := coverage.label
  reason := coverage.reason
  impact := qualityImpact coverage
  nextStep := qualityNextStep coverage

def latestRunTime (storeHealth : List StoreHealth) : Option String :=
  (jsSort (storeHealth.flatMap fun row => [present row.fetchedAt, present row.probeAt].reduceOption)).getLast?

def headlineUnits (selected : List SalesSnapshot) (coverage : SalesCoverage) : Except JsError UnitsSold :=
  if selected ≠ [] then sumSnapshotUnits selected
  else if coverage.status = .legalZero then .ok (unitsOfTotals {})
  else .ok emptyUnits

def emptyDashboard (owners : List Owner) (storeCatalog : List CatalogStore) :
    MaterializedDashboard :=
  let ownerOf (storeCode : String) : Option Owner := (ownerByStore owners).get? storeCode
  { datasetStatus := .empty
    updatedAt := none
    permission := {
      status := if storeCatalog ≠ [] then .pending else .unknown
      authorizedStores := 0
      totalStores := storeCatalog.length }
    businessDate := none
    salesCoverage := {
      businessDate := none, coveredStores := 0, legalZeroStores := 0, totalStores := storeCatalog.length
      status := .unknown, label := "等待销量数据", reason := "尚无完整、可解释的销量观测"
      partialStores := 0, mixedStatisticsDateStores := 0, quarantinedRows := 0, datedRows := 0, totalRows := 0 }
    quality := {
      status := .unavailable, label := "暂无销量数据", reason := "尚未形成可信销量观测"
      impact := "销售卡片与排行榜不展示数值", nextStep := some "完成接口同步并检查业务日期" }
    unitsSold := emptyUnits
    salesTrend := []
    salesTrendByStore := []
    owners
    storeRanking := storeCatalog.map fun store => {
      code := store.storeCode
      name := store.storeName.getD store.storeCode
      ownerKey := (ownerOf store.storeCode).map (·.key)
      ownerName := (ownerOf store.storeCode).map (·.name)
      permissionStatus := "pending"
      businessDate := none
      qualityStatus := .unavailable
      qualityReason := "尚无可信销量观测"
      unitsSold := emptyUnits }
    storeSkuRanking := []
    productRanking := [] }

def buildDashboardFromProjectionInput (L : LocaleOrder) (parseDate : String → Option Int) (input : ProjectionInput)
    (storeCatalog : List CatalogStore) : Except JsError MaterializedDashboard :=
  if input.storePermissions = [] then .ok (emptyDashboard input.owners storeCatalog)
  else do
    let businessDate := selectUnifiedBusinessDate L (currentSnapshots input)
    let selected := selectedSnapshots L input
    let dashboard ← projectDashboardData L parseDate (.arr (selected.map SalesSnapshot.projected))
      (.arr (input.storePermissions.map StorePermission.json))
    let ranking ← storeRanks L input
    let coverage := salesCoverage businessDate selected input.storeHealth input.storePermissions.length
    let unitsSold ← headlineUnits selected coverage
    let activeStoreCodes := input.storePermissions.map (·.storeCode)
    let salesTrendByStore := input.salesTrend.filter fun row => row.storeCode ∈ activeStoreCodes
    let salesTrend ← buildTrendSeries L salesTrendByStore
    let productRanking ← buildProductRanking L selected
    return {
      datasetStatus := if 0 < coverage.coveredStores ∨ 0 < coverage.legalZeroStores then .live else .empty
      updatedAt := (latestRunTime input.storeHealth).or dashboard.updatedAt
      permission := dashboard.permission
      businessDate
      salesCoverage := coverage
      quality := qualityOf coverage
      unitsSold
      salesTrend
      salesTrendByStore
      owners := input.owners
      storeRanking := sortByUnits L (·.unitsSold) (·.code) ranking
      storeSkuRanking := buildStoreSkuRanking L selected input.skuNames
      productRanking }

end FullManagedBi.Materializer
