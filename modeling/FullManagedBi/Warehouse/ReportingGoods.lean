import FullManagedBi.Lib.Grouping
import FullManagedBi.Lib.Js
import FullManagedBi.Lib.Run
import FullManagedBi.Lib.Table

/-!
# The import of reporting goods

`scripts/import_full_managed_reporting_goods.mjs`: a manifest assigns reporting goods to SKUs, its apply
supersedes other assignments, and its rollback revokes its own and restores what it has superseded. The tables are those
of `db/migrations/0026_reporting_goods_mapping.sql`.

A plan hash is the hash of the manifest (`normalizeReportingGoodsManifest` recomputes it), so that a plan hash names one
manifest: `manifestOf` is a parameter, and so is `executionHash`, the hash of a plan with the rows it was shown for.
-/

namespace FullManagedBi.ReportingGoods

open Lib

/-! ## Manifests -/

structure Group where
  standardGoodsCode : String
  displayName : String
  modelNormalized : Option String
  namingRule : String
  deriving DecidableEq

structure ManifestAssignment where
  storeCode : String
  fullSkuId : Nat
  platformSkuId : Option String
  platformSkcId : Option String
  platformSpuId : Option String
  standardGoodsCode : String
  assignmentKey : String
  deriving DecidableEq

structure Manifest where
  groups : List Group
  assignments : List ManifestAssignment
  excludedCount : Nat
  deriving DecidableEq

def Manifest.skuIds (manifest : Manifest) : List Nat := manifest.assignments.map (·.fullSkuId)

/-- `new Map(...)` of the assignments: the goods code of a SKU. -/
def Manifest.goodsCode? (manifest : Manifest) (fullSkuId : Nat) : Option String :=
  (manifest.assignments.reverse.find? fun assignment => assignment.fullSkuId = fullSkuId).map (·.standardGoodsCode)

/-! ## Tables -/

/-- A row of `dim.full_sku` with its store. -/
structure SkuRow where
  fullSkuId : Nat
  storeCode : String
  platformSkuId : Option String
  platformSkcId : Option String
  platformSpuId : Option String
  isActive : Bool
  deriving DecidableEq

/-- `dim.full_sku`, by its primary key. -/
structure Warehouse where
  rows : List SkuRow
  keys : (rows.map (·.fullSkuId)).Nodup

/-- A row of `dim.reporting_goods`. -/
structure GoodsRow where
  group : Group
  isActive : Bool
  deriving DecidableEq

/-- `result_status`. -/
inductive RunStatus where
  | applied
  | rolledBack
  deriving DecidableEq

/-- A row of `ops.reporting_goods_import_run`. -/
structure ImportRun where
  planHash : String
  groupCount : Nat
  assignmentCount : Nat
  excludedSkuCount : Nat
  status : RunStatus
  deriving DecidableEq

/-- `assignment_status` with `superseded_by_plan_hash` and `valid_to`: a superseded assignment names the plan, and only a
confirmed one is still valid (`ck_dim_full_sku_reporting_validity`). -/
inductive AssignmentStatus where
  | confirmed
  | superseded (byPlanHash : String)
  | revoked
  deriving DecidableEq

/-- A row of `dim.full_sku_reporting_goods_assignment`. The store is that of the SKU. -/
structure Assignment where
  assignmentKey : String
  fullSkuId : Nat
  standardGoodsCode : String
  status : AssignmentStatus
  sourcePlanHash : String
  deriving DecidableEq

/-- `assignment_status = 'CONFIRMED' AND valid_to IS NULL`. -/
def Assignment.isCurrent (row : Assignment) : Bool := row.status = .confirmed

def Assignment.withStatus (row : Assignment) (status : AssignmentStatus) : Assignment := { row with status }

structure Db where
  runs : List ImportRun
  goods : List GoodsRow
  rows : List Assignment
  deriving DecidableEq

def currentOf (rows : List Assignment) (fullSkuId : Nat) : Option Assignment :=
  rows.find? fun row => row.isCurrent && decide (row.fullSkuId = fullSkuId)

/-- `uq_dim_full_sku_reporting_current`. -/
def CurrentUnique (rows : List Assignment) : Prop :=
  ((rows.filter Assignment.isCurrent).map (·.fullSkuId)).Nodup

instance (rows : List Assignment) : Decidable (CurrentUnique rows) := inferInstanceAs (Decidable (List.Nodup _))

/-! ## Apply -/

/-- A row that `readWarehouseState` returns. -/
structure WarehouseRow where
  sku : SkuRow
  currentStandardGoodsCode : Option String
  deriving DecidableEq

/-- The platform identity of an assignment is the one of the row, where the assignment has one. -/
def samePlatformId (expected actual : Option String) : Bool :=
  match expected with
  | none => true
  | some text => actual.getD "" = text

def checkScope (rows : List SkuRow) (assignment : ManifestAssignment) : Except JsError Unit := do
  match rows.find? fun row => row.fullSkuId = assignment.fullSkuId with
  | none =>
    .error { message := s!"SKU scope drifted: {assignment.storeCode}:{assignment.fullSkuId}" }
  | some row =>
    refuse (row.storeCode ≠ assignment.storeCode ∨ row.isActive = false)
      { message := s!"SKU scope drifted: {assignment.storeCode}:{assignment.fullSkuId}" }
    refuse (¬(samePlatformId assignment.platformSkuId row.platformSkuId ∧
        samePlatformId assignment.platformSkcId row.platformSkcId ∧
        samePlatformId assignment.platformSpuId row.platformSpuId))
      { message := s!"SKU platform identity drifted: {assignment.storeCode}:{assignment.fullSkuId}" }

def readWarehouseState (db : Db) (warehouse : Warehouse) (manifest : Manifest) :
    Except JsError (List WarehouseRow) := do
  let rows := (warehouse.rows.filter fun row => row.fullSkuId ∈ manifest.skuIds).insertionSort
    fun a b => a.fullSkuId ≤ b.fullSkuId
  refuse (rows.length ≠ manifest.assignments.length) {
    message := s!"Manifest references {manifest.assignments.length} SKUs but warehouse returned {rows.length}." }
  manifest.assignments.forM (checkScope rows)
  return rows.map fun sku =>
    { sku, currentStandardGoodsCode := (currentOf db.rows sku.fullSkuId).map (·.standardGoodsCode) }

def insertImportRun (runs : List ImportRun) (planHash : String) (manifest : Manifest) :
    Except JsError (List ImportRun) :=
  let run : ImportRun :=
    { planHash, groupCount := manifest.groups.length, assignmentCount := manifest.assignments.length
      excludedSkuCount := manifest.excludedCount, status := .applied }
  match runs.find? fun stored => stored.planHash = planHash with
  | none => .ok (runs ++ [run])
  | some stored =>
    if stored = run then .ok runs
    else .error { message := "Existing reporting-goods import run conflicts with the manifest." }

def upsertReportingGoods (goods : List GoodsRow) (manifest : Manifest) : Except JsError (List GoodsRow) := do
  let stored := goods ++ unseen (·.group.standardGoodsCode) (goods.map (·.group.standardGoodsCode))
    (manifest.groups.map fun group => { group, isActive := true })
  let readback := stored.filter fun row => row.group.standardGoodsCode ∈ manifest.groups.map (·.standardGoodsCode)
  refuse (readback.length ≠ manifest.groups.length)
    { message := "Reporting-goods readback count does not match the manifest." }
  readback.forM fun row =>
    refuse (row.isActive = false ∨ row.group ∉ manifest.groups)
      { message := s!"Existing reporting goods drifted: {row.group.standardGoodsCode}" }
  return stored

def hasGoods (goods : List GoodsRow) (standardGoodsCode : String) : Bool :=
  goods.any fun row => row.group.standardGoodsCode = standardGoodsCode

/-- The assignment is superseded: it is current, and the manifest wants other goods for its SKU. -/
def isSuperseded (goods : List GoodsRow) (manifest : Manifest) (row : Assignment) : Bool :=
  row.isCurrent && manifest.assignments.any fun desired =>
    decide (desired.fullSkuId = row.fullSkuId) && hasGoods goods desired.standardGoodsCode &&
      decide (desired.standardGoodsCode ≠ row.standardGoodsCode)

def newAssignment (planHash : String) (desired : ManifestAssignment) : Assignment where
  assignmentKey := desired.assignmentKey
  fullSkuId := desired.fullSkuId
  standardGoodsCode := desired.standardGoodsCode
  status := .confirmed
  sourcePlanHash := planHash

def insertedRows (warehouse : Warehouse) (goods : List GoodsRow) (rows : List Assignment) (planHash : String)
    (manifest : Manifest) : List Assignment :=
  unseen (·.assignmentKey) (rows.map (·.assignmentKey)) <|
    (manifest.assignments.filter fun desired =>
      (warehouse.rows.any fun row => row.fullSkuId = desired.fullSkuId) && hasGoods goods desired.standardGoodsCode &&
        (currentOf rows desired.fullSkuId).isNone).map (newAssignment planHash)

def uniqueViolation : JsError :=
  { code := some "23505", message := "duplicate key value violates unique constraint" }

def applyAssignments (warehouse : Warehouse) (goods : List GoodsRow) (rows : List Assignment) (planHash : String)
    (manifest : Manifest) : Except JsError (List Assignment) := do
  let superseded := updateWhere (isSuperseded goods manifest) (·.withStatus (.superseded planHash)) rows
  let stored := superseded ++ insertedRows warehouse goods superseded planHash manifest
  refuse (¬CurrentUnique stored) uniqueViolation
  return stored

def verifyApplied (rows : List Assignment) (manifest : Manifest) : Except JsError Unit := do
  let readback := (rows.filter fun row => row.isCurrent && decide (row.fullSkuId ∈ manifest.skuIds)).insertionSort
    fun a b => a.fullSkuId ≤ b.fullSkuId
  refuse (readback.length ≠ manifest.assignments.length)
    { message := "Current assignment readback count does not match the manifest." }
  readback.forM fun row =>
    refuse (manifest.goodsCode? row.fullSkuId ≠ some row.standardGoodsCode)
      { message := s!"Assignment readback drifted for SKU {row.fullSkuId}." }

/-- The transaction of `applyReportingGoodsManifest`. -/
def applyManifest (executionHash : String → List WarehouseRow → String) (db : Db) (warehouse : Warehouse)
    (planHash : String) (manifest : Manifest) (approvedHash : String) : Except JsError Db := do
  let warehouseRows ← readWarehouseState db warehouse manifest
  refuse (executionHash planHash warehouseRows ≠ approvedHash)
    { message := "Reporting-goods execution plan changed after dry-run." }
  let runs ← insertImportRun db.runs planHash manifest
  let goods ← upsertReportingGoods db.goods manifest
  let rows ← applyAssignments warehouse goods db.rows planHash manifest
  verifyApplied rows manifest
  return { runs, goods, rows }

/-! ## Rollback -/

def isRevoked (planHash : String) (row : Assignment) : Bool :=
  decide (row.sourcePlanHash = planHash) && row.isCurrent

/-- The assignment is one that the plan has superseded, of a SKU that has no current one. -/
def isRestored (planHash : String) (rows : List Assignment) (row : Assignment) : Bool :=
  decide (row.status = .superseded planHash) && (currentOf rows row.fullSkuId).isNone

def isAppliedRun (planHash : String) (run : ImportRun) : Bool :=
  decide (run.planHash = planHash) && decide (run.status = .applied)

/-- The transaction of `rollbackReportingGoodsManifest`. -/
def rollbackManifest (db : Db) (planHash approvedHash : String) : Except JsError Db := do
  refuse (approvedHash ≠ planHash) { message := "Rollback requires the exact manifest plan hash." }
  let revoked := updateWhere (isRevoked planHash) (·.withStatus .revoked) db.rows
  let restored := updateWhere (isRestored planHash revoked) (·.withStatus .confirmed) revoked
  refuse (¬CurrentUnique restored) uniqueViolation
  refuse (rowCount (isAppliedRun planHash) db.runs ≠ 1)
    { message := "Applied import run was not available for rollback." }
  return {
    db with
    rows := restored
    runs := updateWhere (isAppliedRun planHash) ({ · with status := .rolledBack }) db.runs }

/-! ## Calls -/

/-- A call, with what it meets: the SKUs of the warehouse, and an error of the database, where there is one. -/
inductive Call where
  | apply (planHash approvedHash : String) (warehouse : Warehouse) (failure : Option JsError)
  | rollback (planHash approvedHash : String) (failure : Option JsError)

def Call.commit (manifestOf : String → Manifest) (executionHash : String → List WarehouseRow → String) (db : Db) :
    Call → Except JsError Db
  | .apply planHash approvedHash warehouse none =>
    applyManifest executionHash db warehouse planHash (manifestOf planHash) approvedHash
  | .rollback planHash approvedHash none => rollbackManifest db planHash approvedHash
  | .apply _ _ _ (some failure) | .rollback _ _ (some failure) => .error failure

/-- The tables after a call: a call that fails is rolled back. -/
def Call.after (manifestOf : String → Manifest) (executionHash : String → List WarehouseRow → String) (db : Db)
    (call : Call) : Db :=
  match call.commit manifestOf executionHash db with
  | .ok next => next
  | .error _ => db

end FullManagedBi.ReportingGoods
