import FullManagedBi.Warehouse.ReportingGoods

/-!
# The history of reporting goods

What an apply and a rollback do to the assignments is said once (`Applied`, `Restored`); every invariant is read off
that. A rollback restores what its plan has superseded, and so it may restore an assignment of a plan that has been
rolled back itself. As long as no plan is rolled back that has found such an assignment on one of its SKUs (`Allowed`),
no assignment of a rolled-back plan is current, and a rollback gives each SKU, which no other plan has touched since, the
assignment that it had before the plan (`reportingGoods_history`).
-/

namespace FullManagedBi.ReportingGoods

open Lib

variable {rows : List Assignment} {row : Assignment} {fullSkuId : Nat}

/-! ## Current assignments -/

theorem isCurrent_iff : row.isCurrent = true ↔ row.status = .confirmed := decide_eq_true_iff

variable (status : AssignmentStatus)

@[simp] theorem withStatus_status : (row.withStatus status).status = status := rfl
@[simp] theorem withStatus_fullSkuId : (row.withStatus status).fullSkuId = row.fullSkuId := rfl

theorem withStatus_self {status : AssignmentStatus} (same : row.status = status) : row.withStatus status = row := by
  rw [← same]
  rfl

@[simp] theorem withStatus_withStatus (status other : AssignmentStatus) :
    (row.withStatus status).withStatus other = row.withStatus other := rfl

theorem eq_of_current (unique : CurrentUnique rows) {a b : Assignment} (hereA : a ∈ rows) (currentA : a.isCurrent = true)
    (hereB : b ∈ rows) (currentB : b.isCurrent = true) (same : a.fullSkuId = b.fullSkuId) : a = b :=
  List.inj_on_of_nodup_map unique (List.mem_filter.mpr ⟨hereA, currentA⟩) (List.mem_filter.mpr ⟨hereB, currentB⟩) same

theorem currentOf_eq_some (unique : CurrentUnique rows) : currentOf rows fullSkuId = some row ↔
    row ∈ rows ∧ row.isCurrent = true ∧ row.fullSkuId = fullSkuId := by
  have found_iff : ∀ {other : Assignment}, currentOf rows fullSkuId = some other →
      other ∈ rows ∧ other.isCurrent = true ∧ other.fullSkuId = fullSkuId := by
    intro other found
    have holds := List.find?_some found
    rw [Bool.and_eq_true, decide_eq_true_eq] at holds
    exact ⟨List.mem_of_find?_eq_some found, holds⟩
  constructor
  · exact found_iff
  · rintro ⟨here, current, rfl⟩
    have some_row : (currentOf rows row.fullSkuId).isSome :=
      List.find?_isSome.mpr ⟨row, here, by simp [current]⟩
    obtain ⟨other, found⟩ := Option.isSome_iff_exists.mp some_row
    obtain ⟨there, otherCurrent, same⟩ := found_iff found
    rw [found, eq_of_current unique there otherCurrent here current same]

theorem currentOf_eq_none : currentOf rows fullSkuId = none ↔
    ∀ row ∈ rows, row.isCurrent = true → row.fullSkuId ≠ fullSkuId := by
  unfold currentOf
  rw [List.find?_eq_none]
  simp only [Bool.and_eq_true, decide_eq_true_eq, not_and, ne_eq]

/-- The current assignments of two tables are the same where they have the same ones. -/
theorem currentOf_congr {others : List Assignment} (unique : CurrentUnique rows) (unique' : CurrentUnique others)
    (same : ∀ row : Assignment, row.isCurrent = true → row.fullSkuId = fullSkuId → (row ∈ rows ↔ row ∈ others)) :
    currentOf rows fullSkuId = currentOf others fullSkuId := by
  apply Option.ext
  intro row
  rw [currentOf_eq_some unique, currentOf_eq_some unique']
  constructor
  · rintro ⟨here, current, sku⟩
    exact ⟨(same row current sku).mp here, current, sku⟩
  · rintro ⟨here, current, sku⟩
    exact ⟨(same row current sku).mpr here, current, sku⟩

/-! ## What an apply does -/

/-- What the apply of a plan makes of the assignments. -/
structure Applied (planHash : String) (manifest : Manifest) (before after : List Assignment) : Prop where
  unique : CurrentUnique after
  /-- An assignment stays, or it is superseded, because the plan has other goods for its SKU. -/
  forth : ∀ row ∈ before, row ∈ after ∨ row.isCurrent = true ∧ row.withStatus (.superseded planHash) ∈ after ∧
    ∃ code, manifest.goodsCode? row.fullSkuId = some code ∧ code ≠ row.standardGoodsCode
  /-- An assignment was there, is superseded, or is a new one of the plan. -/
  back : ∀ row ∈ after, row ∈ before ∨
    (∃ old ∈ before, old.isCurrent = true ∧ row = old.withStatus (.superseded planHash) ∧
      ∃ code, manifest.goodsCode? old.fullSkuId = some code ∧ code ≠ old.standardGoodsCode) ∨
    (row.isCurrent = true ∧ row.sourcePlanHash = planHash ∧
      manifest.goodsCode? row.fullSkuId = some row.standardGoodsCode)
  /-- Each SKU of the plan has the goods of the plan. -/
  codes : ∀ fullSkuId ∈ manifest.skuIds, ∃ row ∈ after, row.isCurrent = true ∧ row.fullSkuId = fullSkuId ∧
    manifest.goodsCode? fullSkuId = some row.standardGoodsCode

variable {manifest : Manifest}

theorem goodsCode?_of_mem (nodup : manifest.skuIds.Nodup) {assignment : ManifestAssignment}
    (mem : assignment ∈ manifest.assignments) :
    manifest.goodsCode? assignment.fullSkuId = some assignment.standardGoodsCode := by
  have keys : (manifest.assignments.reverse.map (·.fullSkuId)).Nodup := by
    rw [List.map_reverse]
    exact List.nodup_reverse.mpr nodup
  have found := (find?_key_eq_some keys).mpr ⟨List.mem_reverse.mpr mem, rfl⟩
  unfold Manifest.goodsCode?
  rw [found]
  rfl

theorem mem_skuIds_of_goodsCode? {code : String} (found : manifest.goodsCode? fullSkuId = some code) : fullSkuId ∈ manifest.skuIds := by
  obtain ⟨assignment, here, -⟩ := Option.map_eq_some_iff.mp found
  have same := List.find?_some here
  rw [decide_eq_true_eq] at same
  exact List.mem_map.mpr ⟨assignment, List.mem_reverse.mp (List.mem_of_find?_eq_some here), same⟩

/-- A manifest that the warehouse has all SKUs of assigns no SKU twice. -/
theorem nodup_skuIds {db : Db} {warehouse : Warehouse} {warehouseRows : List WarehouseRow}
    (read : readWarehouseState db warehouse manifest = .ok warehouseRows) : manifest.skuIds.Nodup := by
  obtain ⟨count, read⟩ := check_ok_iff.mp read
  obtain ⟨scope, -⟩ := check_ok_iff.mp read
  rw [refuse_eq_ok, not_not, List.length_insertionSort] at count
  have sorted_perm := List.perm_insertionSort (fun a b : SkuRow => a.fullSkuId ≤ b.fullSkuId)
    (warehouse.rows.filter fun row => row.fullSkuId ∈ manifest.skuIds)
  have nodup : ((warehouse.rows.filter fun row => row.fullSkuId ∈ manifest.skuIds).map (·.fullSkuId)).Nodup :=
    warehouse.keys.sublist (List.filter_sublist.map _)
  have all_found : ∀ fullSkuId ∈ manifest.skuIds,
      fullSkuId ∈ (warehouse.rows.filter fun row => row.fullSkuId ∈ manifest.skuIds).map (·.fullSkuId) := by
    intro fullSkuId mem
    obtain ⟨assignment, there, rfl⟩ := List.mem_map.mp mem
    have checked := forM_eq_ok_iff.mp scope assignment there
    unfold checkScope at checked
    split at checked
    · exact nomatch checked
    · next row found =>
      have same := List.find?_some found
      rw [decide_eq_true_eq] at same
      exact List.mem_map.mpr ⟨row, sorted_perm.mem_iff.mp (List.mem_of_find?_eq_some found), same⟩
  have subset : manifest.skuIds.toFinset ⊆
      ((warehouse.rows.filter fun row => row.fullSkuId ∈ manifest.skuIds).map (·.fullSkuId)).toFinset := by
    intro fullSkuId mem
    exact List.mem_toFinset.mpr (all_found fullSkuId (List.mem_toFinset.mp mem))
  have reverse : ((warehouse.rows.filter fun row => row.fullSkuId ∈ manifest.skuIds).map (·.fullSkuId)).toFinset ⊆
      manifest.skuIds.toFinset := by
    intro fullSkuId mem
    obtain ⟨row, there, rfl⟩ := List.mem_map.mp (List.mem_toFinset.mp mem)
    exact List.mem_toFinset.mpr (of_decide_eq_true (List.mem_filter.mp there).2)
  have cards := congrArg Finset.card (subset.antisymm reverse)
  rw [List.toFinset_card_of_nodup nodup, List.length_map, count, List.card_toFinset] at cards
  have length : manifest.skuIds.length = manifest.assignments.length := List.length_map ..
  exact List.dedup_eq_self.mp ((List.dedup_sublist _).eq_of_length (cards.trans length.symm))

theorem wants_other {goods : List GoodsRow} (nodup : manifest.skuIds.Nodup)
    (superseded : isSuperseded goods manifest row = true) : row.isCurrent = true ∧
      ∃ code, manifest.goodsCode? row.fullSkuId = some code ∧ code ≠ row.standardGoodsCode := by
  unfold isSuperseded at superseded
  rw [Bool.and_eq_true, List.any_eq_true] at superseded
  obtain ⟨current, desired, there, wanted⟩ := superseded
  simp only [Bool.and_eq_true, decide_eq_true_eq] at wanted
  obtain ⟨⟨same, -⟩, other⟩ := wanted
  exact ⟨current, desired.standardGoodsCode, same ▸ goodsCode?_of_mem nodup there, other⟩

/-- What has been read back: each SKU of the manifest has one current assignment, with the goods of the manifest. -/
theorem codes_of_verifyApplied (nodup : manifest.skuIds.Nodup) (unique : CurrentUnique rows)
    (verified : verifyApplied rows manifest = .ok ()) : ∀ fullSkuId ∈ manifest.skuIds, ∃ row ∈ rows,
      row.isCurrent = true ∧ row.fullSkuId = fullSkuId ∧
        manifest.goodsCode? fullSkuId = some row.standardGoodsCode := by
  obtain ⟨count, checked⟩ := check_ok_iff.mp verified
  rw [refuse_eq_ok, not_not, List.length_insertionSort] at count
  let readback := rows.filter fun row => row.isCurrent && decide (row.fullSkuId ∈ manifest.skuIds)
  have mem_readback : ∀ row : Assignment,
      row ∈ readback ↔ row ∈ rows ∧ row.isCurrent = true ∧ row.fullSkuId ∈ manifest.skuIds := by
    intro row
    rw [List.mem_filter, Bool.and_eq_true, decide_eq_true_eq]
  have inside : (readback.map (·.fullSkuId)).toFinset ⊆ manifest.skuIds.toFinset := by
    intro fullSkuId mem
    obtain ⟨row, there, rfl⟩ := List.mem_map.mp (List.mem_toFinset.mp mem)
    exact List.mem_toFinset.mpr ((mem_readback row).mp there).2.2
  have different : (readback.map (·.fullSkuId)).Nodup := by
    have part : readback.Sublist (rows.filter Assignment.isCurrent) := by
      have two : readback = (rows.filter Assignment.isCurrent).filter fun row =>
          decide (row.fullSkuId ∈ manifest.skuIds) := by
        rw [List.filter_filter]
        exact List.filter_congr fun row _ => Bool.and_comm ..
      rw [two]
      exact List.filter_sublist
    exact unique.sublist (part.map _)
  have all : (readback.map (·.fullSkuId)).toFinset = manifest.skuIds.toFinset := by
    apply Finset.eq_of_subset_of_card_le inside
    rw [List.toFinset_card_of_nodup nodup, List.toFinset_card_of_nodup different, List.length_map]
    exact le_of_eq (count.symm ▸ List.length_map ..)
  intro fullSkuId mem
  rw [← List.mem_toFinset, ← all, List.mem_toFinset] at mem
  obtain ⟨row, there, rfl⟩ := List.mem_map.mp mem
  obtain ⟨here, current, -⟩ := (mem_readback row).mp there
  have same := forM_eq_ok_iff.mp checked row ((List.perm_insertionSort _ _).mem_iff.mpr there)
  rw [refuse_eq_ok, not_not] at same
  exact ⟨row, here, current, rfl, same⟩

variable {planHash approvedHash : String}

/-- **What an apply does.** -/
theorem applied_of_applyManifest {executionHash : String → List WarehouseRow → String}
    {db next : Db} {warehouse : Warehouse}
    (done : applyManifest executionHash db warehouse planHash manifest approvedHash = .ok next) :
    Applied planHash manifest db.rows next.rows ∧ insertImportRun db.runs planHash manifest = .ok next.runs := by
  obtain ⟨warehouseRows, read, done⟩ := bind_eq_ok done
  obtain ⟨-, done⟩ := check_ok_iff.mp done
  obtain ⟨runs, inserted, done⟩ := bind_eq_ok done
  obtain ⟨goods, -, done⟩ := bind_eq_ok done
  obtain ⟨rows, assigned, done⟩ := bind_eq_ok done
  obtain ⟨verified, done⟩ := check_ok_iff.mp done
  obtain rfl := Except.ok.inj done
  refine ⟨?_, inserted⟩
  have nodup := nodup_skuIds read
  obtain ⟨unique, assigned⟩ := check_ok_iff.mp assigned
  obtain rfl := Except.ok.inj assigned
  rw [refuse_eq_ok, not_not] at unique
  refine ⟨unique, ?_, ?_, codes_of_verifyApplied nodup unique verified⟩
  · intro row here
    by_cases superseded : isSuperseded goods manifest row = true
    · obtain ⟨current, other⟩ := wants_other nodup superseded
      exact .inr ⟨current, List.mem_append_left _ (mem_updateWhere_of_pos here superseded), other⟩
    · exact .inl (List.mem_append_left _ (mem_updateWhere_of_not here (Bool.not_eq_true _ ▸ superseded)))
  · intro row there
    rcases List.mem_append.mp there with stored | new
    · obtain ⟨old, here, rfl⟩ := mem_updateWhere.mp stored
      by_cases superseded : isSuperseded goods manifest old = true
      · obtain ⟨current, other⟩ := wants_other nodup superseded
        rw [if_pos superseded]
        exact .inr (.inl ⟨old, here, current, rfl, other⟩)
      · rw [if_neg superseded]
        exact .inl here
    · obtain ⟨desired, wanted, rfl⟩ := List.mem_map.mp ((unseen_sublist _ _).subset new)
      exact .inr (.inr ⟨rfl, rfl, goodsCode?_of_mem nodup (List.mem_filter.mp wanted).1⟩)

/-! ## What a rollback does -/

/-- What the rollback of a plan makes of the assignments. -/
structure Restored (planHash : String) (before after : List Assignment) : Prop where
  unique : CurrentUnique after
  revoked : ∀ row ∈ before, row.isCurrent = true → row.sourcePlanHash = planHash → row.withStatus .revoked ∈ after
  kept : ∀ row ∈ before, row.isCurrent = true → row.sourcePlanHash ≠ planHash → row ∈ after
  /-- What the plan has superseded is restored, unless its SKU has an assignment of another plan. -/
  restored : ∀ row ∈ before, row.status = .superseded planHash →
    (∀ other ∈ before, other.isCurrent = true → other.fullSkuId = row.fullSkuId → other.sourcePlanHash = planHash) →
      row.withStatus .confirmed ∈ after
  others : ∀ row ∈ before, row.isCurrent = false → row.status ≠ .superseded planHash → row ∈ after
  back : ∀ row ∈ after, (row ∈ before ∧ (row.isCurrent = true → row.sourcePlanHash ≠ planHash)) ∨
    (∃ old ∈ before, row = old.withStatus .revoked) ∨
    ∃ old ∈ before, old.status = .superseded planHash ∧ row = old.withStatus .confirmed ∧
      ∀ other ∈ before, other.isCurrent = true → other.fullSkuId = row.fullSkuId → other.sourcePlanHash = planHash

/-- No assignment that has been revoked is current, and so a SKU is free where all its assignments were the plan's. -/
theorem currentOf_revoked {planHash : String} : currentOf (updateWhere (isRevoked planHash) (·.withStatus .revoked) rows)
    fullSkuId = none ↔ ∀ other ∈ rows, other.isCurrent = true → other.fullSkuId = fullSkuId →
      other.sourcePlanHash = planHash := by
  rw [currentOf_eq_none]
  constructor
  · intro free other here current sku
    by_contra different
    have stays : isRevoked planHash other = false := by simp [isRevoked, different]
    exact free other (mem_updateWhere_of_not here stays) current sku
  · intro own row there current sku
    obtain ⟨old, here, rfl⟩ := mem_updateWhere.mp there
    by_cases reached : isRevoked planHash old = true
    · rw [if_pos reached] at current
      exact nomatch current
    · rw [if_neg reached] at current sku
      apply reached
      simp [isRevoked, current, own old here current sku]

/-- **What a rollback does.** -/
theorem restored_of_rollbackManifest {db next : Db} (done : rollbackManifest db planHash approvedHash = .ok next) :
    Restored planHash db.rows next.rows ∧ (∃ run ∈ db.runs, isAppliedRun planHash run = true) ∧
      next.runs = updateWhere (isAppliedRun planHash) ({ · with status := .rolledBack }) db.runs := by
  obtain ⟨-, done⟩ := check_ok_iff.mp done
  obtain ⟨unique, done⟩ := check_ok_iff.mp done
  obtain ⟨available, done⟩ := check_ok_iff.mp done
  obtain rfl := Except.ok.inj done
  rw [refuse_eq_ok, not_not] at unique available
  have applied : ∃ run ∈ db.runs, isAppliedRun planHash run = true :=
    List.countP_pos_iff.mp (Nat.lt_of_lt_of_eq Nat.one_pos available.symm)
  refine ⟨?_, applied, rfl⟩
  -- A revoked assignment is not superseded, and so the second update leaves it.
  have second {row : Assignment} (there : row ∈ updateWhere (isRevoked planHash) (·.withStatus .revoked) db.rows)
      (other : row.status ≠ .superseded planHash) :
      row ∈ updateWhere (isRestored planHash (updateWhere (isRevoked planHash) (·.withStatus .revoked) db.rows))
        (·.withStatus .confirmed) (updateWhere (isRevoked planHash) (·.withStatus .revoked) db.rows) :=
    mem_updateWhere_of_not there (by simp [isRestored, other])
  constructor
  · exact unique
  · intro row here current own
    exact second (mem_updateWhere_of_pos here (by simp [isRevoked, own, current])) nofun
  · intro row here current own
    refine second (mem_updateWhere_of_not here (by simp [isRevoked, own])) ?_
    rw [isCurrent_iff.mp current]
    exact nofun
  · intro row here superseded free
    have stays : isRevoked planHash row = false := by simp [isRevoked, Assignment.isCurrent, superseded]
    refine mem_updateWhere_of_pos (mem_updateWhere_of_not here stays) ?_
    simp [isRestored, superseded, currentOf_revoked.mpr free]
  · intro row here current superseded
    exact second (mem_updateWhere_of_not here (by simp [isRevoked, current])) superseded
  · intro row there
    obtain ⟨middle, between, rfl⟩ := mem_updateWhere.mp there
    obtain ⟨old, here, rfl⟩ := mem_updateWhere.mp between
    by_cases revoked : isRevoked planHash old = true
    · rw [if_pos revoked, if_neg (by simp [isRestored])]
      exact .inr (.inl ⟨old, here, rfl⟩)
    · rw [if_neg revoked]
      split
      · next restored =>
        simp only [isRestored, Bool.and_eq_true, decide_eq_true_eq, Option.isNone_iff_eq_none] at restored
        exact .inr (.inr ⟨old, here, restored.1, rfl, currentOf_revoked.mp restored.2⟩)
      · refine .inl ⟨here, ?_⟩
        intro current own
        exact revoked (by simp [isRevoked, own, current])

/-! ## Histories -/

/-- A successful apply: its plan, and the tables that it has found. -/
structure Application where
  planHash : String
  before : Db

/-- The tables with the successful calls: the applies, the latest first, and the plans that have been rolled back. -/
structure History where
  db : Db
  applied : List Application
  rolledBack : List String

/-- The tables as the migration makes them, with any goods. -/
def History.start (goods : List GoodsRow) : History where
  db := { runs := [], goods, rows := [] }
  applied := []
  rolledBack := []

def History.record (history : History) (next : Db) : Call → History
  | .apply planHash _ _ _ =>
    { history with db := next, applied := { planHash, before := history.db } :: history.applied }
  | .rollback planHash _ _ => { history with db := next, rolledBack := planHash :: history.rolledBack }

variable (manifestOf : String → Manifest) (executionHash : String → List WarehouseRow → String)

def History.step (history : History) (call : Call) : History :=
  match call.commit manifestOf executionHash history.db with
  | .ok next => history.record next call
  | .error _ => history

theorem step_of_ok {history : History} {call : Call} {next : Db}
    (done : call.commit manifestOf executionHash history.db = .ok next) :
    history.step manifestOf executionHash call = history.record next call := by
  unfold History.step
  rw [done]

theorem db_step (history : History) (call : Call) : (history.step manifestOf executionHash call).db =
    call.after manifestOf executionHash history.db := by
  unfold History.step Call.after
  cases call.commit manifestOf executionHash history.db with
  | error => rfl
  | ok next => cases call <;> rfl

/-- Where a plan is rolled back, none of the assignments that it has found on its SKUs, whenever it was applied, belongs
to a plan that has been rolled back. -/
def Allowed (history : History) : Call → Prop
  | .apply .. => True
  | .rollback planHash _ _ => ∀ application ∈ history.applied, application.planHash = planHash →
      ∀ row ∈ application.before.rows, row.isCurrent = true → row.fullSkuId ∈ (manifestOf planHash).skuIds →
        row.sourcePlanHash ∉ history.rolledBack

instance (history : History) (call : Call) : Decidable (Allowed manifestOf history call) :=
  match call with
  | .apply .. => .isTrue trivial
  | .rollback .. => by
    unfold Allowed
    infer_instance

/-- What has become of the assignment that the first apply of a plan has found on one of its SKUs. -/
inductive Standing (planHash : String) (wanted : Option String) (fullSkuId : Nat) (before : List Assignment)
    (history : History) : Prop where
  /-- The plan has an assignment, and has superseded the one before it. -/
  | made
    (own : ∃ row ∈ history.db.rows, row.isCurrent = true ∧ row.fullSkuId = fullSkuId ∧ row.sourcePlanHash = planHash)
    (stored : ∀ row ∈ before, row.isCurrent = true → row.fullSkuId = fullSkuId →
      row.withStatus (.superseded planHash) ∈ history.db.rows)
    (found : ∀ row ∈ history.db.rows, row.status = .superseded planHash → row.fullSkuId = fullSkuId →
      row.withStatus .confirmed ∈ before)
  /-- The assignment before it has the goods of the plan. -/
  | kept (row : Assignment) (here : row ∈ before) (there : row ∈ history.db.rows) (current : row.isCurrent = true)
    (sku : row.fullSkuId = fullSkuId) (goods : wanted = some row.standardGoodsCode)
    (other : row.sourcePlanHash ≠ planHash)
    (none : ∀ row ∈ history.db.rows, row.status = .superseded planHash → row.fullSkuId ≠ fullSkuId)
  /-- The plan of the assignment before it has been rolled back. -/
  | lost (row : Assignment) (here : row ∈ before) (current : row.isCurrent = true) (sku : row.fullSkuId = fullSkuId)
    (gone : row.sourcePlanHash ∈ history.rolledBack)

/-- The plan has been applied, and `since` are the applies after its first one. -/
def History.FirstApplied (history : History) (application : Application) (since : List Application) : Prop :=
  ∃ earlier, history.applied = since ++ application :: earlier ∧
    ∀ other ∈ earlier, other.planHash ≠ application.planHash

def Untouched (planHash : String) (since : List Application) (fullSkuId : Nat) : Prop :=
  ∀ other ∈ since, other.planHash ≠ planHash → fullSkuId ∉ (manifestOf other.planHash).skuIds

structure Sound (history : History) : Prop where
  unique : CurrentUnique history.db.rows
  priors : ∀ application ∈ history.applied, CurrentUnique application.before.rows
  /-- An assignment has been made by an apply, with the goods of its plan. -/
  sources : ∀ row ∈ history.db.rows, (∃ application ∈ history.applied, application.planHash = row.sourcePlanHash) ∧
    (manifestOf row.sourcePlanHash).goodsCode? row.fullSkuId = some row.standardGoodsCode
  /-- A superseded assignment was found by an apply of the plan that has superseded it. -/
  supersessions : ∀ row ∈ history.db.rows, ∀ planHash, row.status = .superseded planHash →
    row.sourcePlanHash ≠ planHash ∧ ∃ application ∈ history.applied, application.planHash = planHash ∧
      row.fullSkuId ∈ (manifestOf planHash).skuIds ∧ row.withStatus .confirmed ∈ application.before.rows
  /-- A plan that has been rolled back has a run, and no applied one. -/
  runs : ∀ planHash ∈ history.rolledBack, (∃ run ∈ history.db.runs, run.planHash = planHash) ∧
    ∀ run ∈ history.db.runs, run.planHash = planHash → run.status = .rolledBack
  buried : ∀ planHash ∈ history.rolledBack, ∀ row ∈ history.db.rows, row.sourcePlanHash = planHash →
    row.isCurrent = false
  standing : ∀ application since, history.FirstApplied application since →
    application.planHash ∉ history.rolledBack → ∀ fullSkuId ∈ (manifestOf application.planHash).skuIds,
      Untouched manifestOf application.planHash since fullSkuId →
        Standing application.planHash ((manifestOf application.planHash).goodsCode? fullSkuId) fullSkuId
          application.before.rows history

theorem sound_start (goods : List GoodsRow) : Sound manifestOf (History.start goods) := by
  constructor
  · exact List.nodup_nil
  · exact nofun
  · exact nofun
  · exact nofun
  · exact nofun
  · exact nofun
  · rintro application since ⟨earlier, split, -⟩
    exact absurd split.symm (List.append_ne_nil_of_right_ne_nil _ (List.cons_ne_nil _ _))

/-! ## An apply in a history -/

section Apply

variable {planHash : String} {manifest : Manifest} {before after : List Assignment}

theorem Applied.stays (applied : Applied planHash manifest before after) (here : row ∈ before)
    (goods : manifest.goodsCode? row.fullSkuId = some row.standardGoodsCode) : row ∈ after := by
  rcases applied.forth row here with stays | ⟨-, -, code, wanted, other⟩
  · exact stays
  · exact absurd (Option.mem_unique wanted goods) other

theorem Applied.stays_old (applied : Applied planHash manifest before after) (here : row ∈ before)
    (old : row.isCurrent = false) : row ∈ after := by
  rcases applied.forth row here with stays | ⟨current, -⟩
  · exact stays
  · exact absurd current (Bool.eq_false_iff.mp old)

theorem Applied.superseded (applied : Applied planHash manifest before after) (there : row ∈ after) {byPlan : String}
    (status : row.status = .superseded byPlan) : row ∈ before ∨ byPlan = planHash ∧
      row.withStatus .confirmed ∈ before ∧
        ∃ code, manifest.goodsCode? row.fullSkuId = some code ∧ code ≠ row.standardGoodsCode := by
  rcases applied.back row there with here | ⟨old, here, current, rfl, other⟩ | ⟨current, -⟩
  · exact .inl here
  · rw [withStatus_status, AssignmentStatus.superseded.injEq] at status
    rw [withStatus_withStatus, withStatus_self (isCurrent_iff.mp current)]
    exact .inr ⟨status.symm, here, other⟩
  · rw [isCurrent_iff.mp current] at status
    exact nomatch status

theorem Applied.mem_iff (applied : Applied planHash manifest before after) (other : row.fullSkuId ∉ manifest.skuIds) :
    row ∈ after ↔ row ∈ before := by
  constructor
  · intro there
    rcases applied.back row there with here | ⟨old, -, -, rfl, code, wanted, -⟩ | ⟨-, -, wanted⟩
    · exact here
    · exact absurd (mem_skuIds_of_goodsCode? wanted) other
    · exact absurd (mem_skuIds_of_goodsCode? wanted) other
  · intro here
    rcases applied.forth row here with there | ⟨-, -, code, wanted, -⟩
    · exact there
    · exact absurd (mem_skuIds_of_goodsCode? wanted) other

/-- The run of a plan is stored as an applied one, and it is the only one that may be new. -/
theorem insertImportRun_cases {runs next : List ImportRun} (inserted : insertImportRun runs planHash manifest = .ok next) :
    (∃ run ∈ next, run.planHash = planHash ∧ run.status = .applied) ∧ (∀ run ∈ runs, run ∈ next) ∧
      ∀ run ∈ next, run ∈ runs ∨ run.planHash = planHash ∧ ∀ stored ∈ runs, stored.planHash ≠ planHash := by
  unfold insertImportRun at inserted
  dsimp only at inserted
  split at inserted
  · next absent =>
    obtain rfl := Except.ok.inj inserted
    refine ⟨⟨_, List.mem_concat_self, rfl, rfl⟩,
      fun run mem => List.mem_append_left _ mem, ?_⟩
    intro run mem
    rcases mem_concat.mp mem with old | new
    · exact .inl old
    · rw [new]
      exact .inr ⟨rfl, fun stored there => by simpa using List.find?_eq_none.mp absent stored there⟩
  · next stored found =>
    split at inserted
    · next same =>
      obtain rfl := Except.ok.inj inserted
      exact ⟨⟨stored, List.mem_of_find?_eq_some found, by rw [same], by rw [same]⟩, fun run mem => mem,
        fun run mem => .inl mem⟩
    · exact nomatch inserted

end Apply

variable {manifestOf} {history : History}

theorem Sound.not_rolledBack (sound : Sound manifestOf history) {planHash : String} {manifest : Manifest}
    {next : List ImportRun} (inserted : insertImportRun history.db.runs planHash manifest = .ok next) :
    planHash ∉ history.rolledBack := by
  intro rolledBack
  obtain ⟨⟨stored, there, own⟩, all⟩ := sound.runs planHash rolledBack
  obtain ⟨⟨run, mem, same, applied⟩, -, back⟩ := insertImportRun_cases inserted
  rcases back run mem with old | ⟨-, none⟩
  · rw [all run old same] at applied
    exact nomatch applied
  · exact none stored there own

theorem firstApplied_cons {next : Db} {planHash approvedHash : String} {warehouse : Warehouse}
    {failure : Option JsError} {application : Application} {since : List Application}
    (first : (history.record next (.apply planHash approvedHash warehouse failure)).FirstApplied application since) :
    (application = ⟨planHash, history.db⟩ ∧ ∀ other ∈ history.applied, other.planHash ≠ planHash) ∨
      ∃ rest, since = ⟨planHash, history.db⟩ :: rest ∧ history.FirstApplied application rest := by
  obtain ⟨earlier, split, other⟩ := first
  cases since with
  | nil =>
    obtain ⟨rfl, rfl⟩ := List.cons.inj split
    exact .inl ⟨rfl, other⟩
  | cons latest rest =>
    obtain ⟨rfl, before⟩ := List.cons.inj split
    exact .inr ⟨rest, rfl, earlier, before, other⟩

section Apply

variable {next : Db} {planHash approvedHash : String} {warehouse : Warehouse} {failure : Option JsError}

/-- The first apply of a plan makes an assignment, or finds one with its goods. -/
theorem standing_first (sound : Sound manifestOf history)
    (applied : Applied planHash (manifestOf planHash) history.db.rows next.rows)
    (first : ∀ other ∈ history.applied, other.planHash ≠ planHash) (mem : fullSkuId ∈ (manifestOf planHash).skuIds) :
    Standing planHash ((manifestOf planHash).goodsCode? fullSkuId) fullSkuId history.db.rows
      (history.record next (.apply planHash approvedHash warehouse failure)) := by
  have stranger {old : Assignment} (here : old ∈ history.db.rows) : old.sourcePlanHash ≠ planHash := by
    obtain ⟨⟨application, applied, same⟩, -⟩ := sound.sources old here
    exact same ▸ first application applied
  have superseded_new {old : Assignment} (here : old ∈ history.db.rows) : old.status ≠ .superseded planHash := by
    intro status
    obtain ⟨-, application, applied, same, -⟩ := sound.supersessions old here planHash status
    exact first application applied same
  obtain ⟨row, there, current, rfl, goods⟩ := applied.codes fullSkuId mem
  rcases applied.back row there with here | ⟨old, -, -, rfl, -⟩ | ⟨-, own, -⟩
  · refine .kept row here there current rfl goods (stranger here) ?_
    intro other otherThere status sku
    rcases applied.superseded otherThere status with otherHere | ⟨-, otherHere, code, wanted, different⟩
    · exact superseded_new otherHere status
    · have same : other.withStatus .confirmed = row :=
        eq_of_current sound.unique otherHere rfl here current sku
      rw [← same] at goods
      exact different (Option.mem_unique wanted goods)
  · exact nomatch current
  · refine .made ⟨row, there, current, rfl, own⟩ ?_ ?_
    · intro old here oldCurrent sku
      rcases applied.forth old here with stays | ⟨-, superseded, -⟩
      · have same : old = row := eq_of_current applied.unique stays oldCurrent there current sku
        exact absurd (same ▸ own) (stranger here)
      · exact superseded
    · intro old oldThere status sku
      rcases applied.superseded oldThere status with here | ⟨-, here, -⟩
      · exact absurd status (superseded_new here)
      · exact here

variable {before : List Assignment}

/-- A later apply of the same plan leaves what has become of an assignment. -/
theorem standing_again (sound : Sound manifestOf history)
    (applied : Applied planHash (manifestOf planHash) history.db.rows next.rows)
    (standing : Standing planHash ((manifestOf planHash).goodsCode? fullSkuId) fullSkuId before history) :
    Standing planHash ((manifestOf planHash).goodsCode? fullSkuId) fullSkuId before
      (history.record next (.apply planHash approvedHash warehouse failure)) := by
  -- Where the current assignment has the goods of the plan, nothing is superseded.
  have nothing {row other : Assignment} (here : row ∈ history.db.rows) (current : row.isCurrent = true)
      (goods : (manifestOf planHash).goodsCode? row.fullSkuId = some row.standardGoodsCode)
      (there : other ∈ next.rows) (status : other.status = .superseded planHash)
      (sku : other.fullSkuId = row.fullSkuId) : other ∈ history.db.rows := by
    rcases applied.superseded there status with otherHere | ⟨-, otherHere, code, wanted, different⟩
    · exact otherHere
    · have same : other.withStatus .confirmed = row := eq_of_current sound.unique otherHere rfl here current sku
      rw [← same] at goods
      exact absurd (Option.mem_unique wanted goods) different
  cases standing with
  | made own stored found =>
    obtain ⟨row, here, current, sku, source⟩ := own
    have goods := (sound.sources row here).2
    rw [source] at goods
    refine .made ⟨row, applied.stays here goods, current, sku, source⟩ ?_ ?_
    · intro old prior oldCurrent oldSku
      exact applied.stays_old (stored old prior oldCurrent oldSku) rfl
    · intro old there status oldSku
      exact found old (nothing here current goods there status (oldSku.trans sku.symm)) status oldSku
  | kept row prior here current sku goods other none =>
    rw [← sku] at goods
    refine .kept row prior (applied.stays here goods) current sku (sku ▸ goods) other ?_
    intro old there status oldSku
    exact none old (nothing here current goods there status (oldSku.trans sku.symm)) status oldSku
  | lost row prior current sku gone => exact .lost row prior current sku gone

/-- An apply of a plan that does not have the SKU leaves what has become of an assignment of it. -/
theorem standing_apart {manifest : Manifest} (applied : Applied planHash manifest history.db.rows next.rows)
    (apart : fullSkuId ∉ manifest.skuIds) {byPlan : String} {wanted : Option String}
    (standing : Standing byPlan wanted fullSkuId before history) : Standing byPlan wanted fullSkuId before
      (history.record next (.apply planHash approvedHash warehouse failure)) := by
  have same {row : Assignment} (sku : row.fullSkuId = fullSkuId) : row ∈ next.rows ↔ row ∈ history.db.rows :=
    applied.mem_iff (sku ▸ apart)
  cases standing with
  | made own stored found =>
    obtain ⟨row, here, current, sku, source⟩ := own
    refine .made ⟨row, (same sku).mpr here, current, sku, source⟩ ?_ ?_
    · intro old prior oldCurrent oldSku
      have superseded := stored old prior oldCurrent oldSku
      exact (same ((withStatus_fullSkuId _).trans oldSku)).mpr superseded
    · intro old there status oldSku
      exact found old ((same oldSku).mp there) status oldSku
  | kept row prior here current sku goods other none =>
    refine .kept row prior ((same sku).mpr here) current sku goods other ?_
    intro old there status oldSku
    exact none old ((same oldSku).mp there) status oldSku
  | lost row prior current sku gone => exact .lost row prior current sku gone

/-- **An apply keeps the invariant.** -/
theorem Sound.apply (sound : Sound manifestOf history)
    (applied : Applied planHash (manifestOf planHash) history.db.rows next.rows)
    (inserted : insertImportRun history.db.runs planHash (manifestOf planHash) = .ok next.runs) :
    Sound manifestOf (history.record next (.apply planHash approvedHash warehouse failure)) := by
  have fresh := sound.not_rolledBack inserted
  obtain ⟨-, forth, back⟩ := insertImportRun_cases inserted
  constructor
  · exact applied.unique
  · intro application mem
    rcases List.mem_cons.mp mem with rfl | old
    · exact sound.unique
    · exact sound.priors application old
  · intro row there
    rcases applied.back row there with here | ⟨old, here, -, rfl, -⟩ | ⟨-, own, goods⟩
    · obtain ⟨⟨application, mem, same⟩, goods⟩ := sound.sources row here
      exact ⟨⟨application, List.mem_cons_of_mem _ mem, same⟩, goods⟩
    · obtain ⟨⟨application, mem, same⟩, goods⟩ := sound.sources old here
      exact ⟨⟨application, List.mem_cons_of_mem _ mem, same⟩, goods⟩
    · exact ⟨⟨_, List.mem_cons_self, own.symm⟩, own ▸ goods⟩
  · intro row there byPlan status
    rcases applied.superseded there status with here | ⟨rfl, here, code, wanted, different⟩
    · obtain ⟨other, application, mem, found⟩ := sound.supersessions row here byPlan status
      exact ⟨other, application, List.mem_cons_of_mem _ mem, found⟩
    · refine ⟨?_, _, List.mem_cons_self, rfl, mem_skuIds_of_goodsCode? wanted, here⟩
      rintro rfl
      exact different (Option.some.inj (wanted.symm.trans (sound.sources _ here).2))
  · intro gone rolledBack
    obtain ⟨⟨stored, mem, own⟩, all⟩ := sound.runs gone rolledBack
    refine ⟨⟨stored, forth stored mem, own⟩, ?_⟩
    intro run mem same
    rcases back run mem with old | ⟨new, -⟩
    · exact all run old same
    · exact absurd (new ▸ same ▸ rolledBack) fresh
  · intro gone rolledBack row there own
    rcases applied.back row there with here | ⟨old, -, -, rfl, -⟩ | ⟨-, new, -⟩
    · exact sound.buried gone rolledBack row here own
    · rfl
    · exact absurd (new ▸ own ▸ rolledBack) fresh
  · intro application since first live fullSkuId mem untouched
    rcases firstApplied_cons first with ⟨rfl, new⟩ | ⟨rest, rfl, old⟩
    · exact standing_first sound applied new mem
    · have standing := sound.standing application rest old live fullSkuId mem fun other there =>
        untouched other (List.mem_cons_of_mem _ there)
      by_cases same : planHash = application.planHash
      · subst same
        exact standing_again sound applied standing
      · exact standing_apart applied (untouched _ List.mem_cons_self same) standing

end Apply

/-! ## A rollback in a history -/

section Rollback

variable {next : Db} {planHash approvedHash : String} {failure : Option JsError}

/-- A rollback of another plan leaves what has become of an assignment, unless that is an assignment of this plan. -/
theorem standing_rollback (restored : Restored planHash history.db.rows next.rows) {byPlan : String}
    (other : byPlan ≠ planHash) {wanted : Option String} {before : List Assignment}
    (standing : Standing byPlan wanted fullSkuId before history) :
    Standing byPlan wanted fullSkuId before (history.record next (.rollback planHash approvedHash failure)) := by
  have superseded {row : Assignment} (there : row ∈ next.rows) (status : row.status = .superseded byPlan) :
      row ∈ history.db.rows := by
    rcases restored.back row there with ⟨here, -⟩ | ⟨old, -, rfl⟩ | ⟨old, -, -, rfl, -⟩
    · exact here
    · exact nomatch status
    · exact nomatch status
  cases standing with
  | made own stored found =>
    obtain ⟨row, here, current, sku, rfl⟩ := own
    refine .made ⟨row, restored.kept row here current other, current, sku, rfl⟩ ?_ ?_
    · intro old prior oldCurrent oldSku
      refine restored.others _ (stored old prior oldCurrent oldSku) rfl ?_
      rw [withStatus_status]
      exact fun same => other (AssignmentStatus.superseded.inj same)
    · intro old there status oldSku
      exact found old (superseded there status) status oldSku
  | kept row prior here current sku goods different none =>
    by_cases own : row.sourcePlanHash = planHash
    · exact .lost row prior current sku (own ▸ List.mem_cons_self)
    · refine .kept row prior (restored.kept row here current own) current sku goods different ?_
      intro old there status
      exact none old (superseded there status) status
  | lost row prior current sku gone => exact .lost row prior current sku (List.mem_cons_of_mem _ gone)

/-- An assignment that the plan has superseded does not belong to a plan that has been rolled back. -/
theorem Sound.live_superseded (sound : Sound manifestOf history)
    (allowed : Allowed manifestOf history (.rollback planHash approvedHash failure)) (here : row ∈ history.db.rows)
    (status : row.status = .superseded planHash) : row.sourcePlanHash ∉ history.rolledBack := by
  obtain ⟨-, application, mem, same, sku, prior⟩ := sound.supersessions row here planHash status
  have live := allowed application mem same (row.withStatus .confirmed) prior rfl sku
  exact live

/-- **An allowed rollback keeps the invariant.** -/
theorem Sound.rollback (sound : Sound manifestOf history)
    (allowed : Allowed manifestOf history (.rollback planHash approvedHash failure))
    (restored : Restored planHash history.db.rows next.rows)
    (applied : ∃ run ∈ history.db.runs, isAppliedRun planHash run = true)
    (runs : next.runs = updateWhere (isAppliedRun planHash) ({ · with status := .rolledBack }) history.db.runs) :
    Sound manifestOf (history.record next (.rollback planHash approvedHash failure)) := by
  have rolled {run : ImportRun} : run ∈ next.runs ↔ ∃ old ∈ history.db.runs, run =
      if isAppliedRun planHash old then { old with status := .rolledBack } else old := by
    rw [runs]
    exact mem_updateWhere
  constructor
  · exact restored.unique
  · exact sound.priors
  · intro row there
    rcases restored.back row there with ⟨here, -⟩ | ⟨old, here, rfl⟩ | ⟨old, here, -, rfl, -⟩
    · exact sound.sources row here
    · exact sound.sources old here
    · exact sound.sources old here
  · intro row there byPlan status
    rcases restored.back row there with ⟨here, -⟩ | ⟨old, -, rfl⟩ | ⟨old, -, -, rfl, -⟩
    · exact sound.supersessions row here byPlan status
    · exact nomatch status
    · exact nomatch status
  · intro gone rolledBack
    rcases List.mem_cons.mp rolledBack with rfl | old
    · obtain ⟨run, mem, own⟩ := applied
      have same := own
      simp only [isAppliedRun, Bool.and_eq_true, decide_eq_true_eq] at same
      refine ⟨⟨_, rolled.mpr ⟨run, mem, (if_pos own).symm⟩, same.1⟩, ?_⟩
      intro other there here
      obtain ⟨stored, -, rfl⟩ := rolled.mp there
      split
      · rfl
      · next out =>
        rw [if_neg out] at here
        cases status : stored.status with
        | applied => exact absurd (by simp [isAppliedRun, here, status]) out
        | rolledBack => rfl
    · obtain ⟨⟨stored, mem, own⟩, all⟩ := sound.runs gone old
      constructor
      · refine ⟨_, rolled.mpr ⟨stored, mem, rfl⟩, ?_⟩
        split
        · exact own
        · exact own
      · intro other there here
        obtain ⟨stored, mem, rfl⟩ := rolled.mp there
        split
        · rfl
        · next out =>
          rw [if_neg out] at here
          exact all stored mem here
  · intro gone rolledBack row there own
    rcases restored.back row there with ⟨here, different⟩ | ⟨old, -, rfl⟩ | ⟨old, here, status, rfl, -⟩
    · rcases List.mem_cons.mp rolledBack with rfl | old
      · by_contra current
        exact different (Bool.eq_true_of_not_eq_false current) own
      · exact sound.buried gone old row here own
    · rfl
    · rcases List.mem_cons.mp rolledBack with rfl | before
      · exact absurd own (sound.supersessions old here gone status).1
      · exact absurd (own ▸ before) (sound.live_superseded allowed here status)
  · intro application since first live fullSkuId mem untouched
    have standing := sound.standing application since first (fun gone => live (List.mem_cons_of_mem _ gone))
      fullSkuId mem untouched
    exact standing_rollback restored (fun same => live (same ▸ List.mem_cons_self)) standing

/-- **What a rollback gives back**: a SKU of the plan, which no other plan has touched since the plan was first applied,
has the assignment that it had before. -/
theorem Sound.givesBack (sound : Sound manifestOf history)
    (allowed : Allowed manifestOf history (.rollback planHash approvedHash failure))
    (restored : Restored planHash history.db.rows next.rows)
    (applied : ∃ run ∈ history.db.runs, isAppliedRun planHash run = true)
    {application : Application} {since : List Application} (own : application.planHash = planHash)
    (first : history.FirstApplied application since) (mem : fullSkuId ∈ (manifestOf planHash).skuIds)
    (untouched : Untouched manifestOf planHash since fullSkuId) :
    currentOf next.rows fullSkuId = currentOf application.before.rows fullSkuId := by
  subst own
  have here : application ∈ history.applied := by
    obtain ⟨earlier, split, -⟩ := first
    rw [split]
    exact List.mem_append_right _ List.mem_cons_self
  have live : application.planHash ∉ history.rolledBack := by
    intro gone
    obtain ⟨run, there, was⟩ := applied
    simp only [isAppliedRun, Bool.and_eq_true, decide_eq_true_eq] at was
    have rolled := (sound.runs _ gone).2 run there was.1
    rw [was.2] at rolled
    exact nomatch rolled
  have prior := sound.priors application here
  apply currentOf_congr restored.unique prior
  intro row current sku
  cases sound.standing application since first live fullSkuId mem untouched with
  | made own stored found =>
    obtain ⟨made, madeHere, madeCurrent, madeSku, madeSource⟩ := own
    have only {other : Assignment} (there : other ∈ history.db.rows) (otherCurrent : other.isCurrent = true)
        (otherSku : other.fullSkuId = fullSkuId) : other.sourcePlanHash = application.planHash := by
      rw [eq_of_current sound.unique there otherCurrent madeHere madeCurrent (otherSku.trans madeSku.symm)]
      exact madeSource
    constructor
    · intro there
      rcases restored.back row there with ⟨before, different⟩ | ⟨old, -, rfl⟩ | ⟨old, before, status, rfl, -⟩
      · exact absurd (only before current sku) (different current)
      · exact nomatch current
      · exact found old before status sku
    · intro before
      have back := restored.restored _ (stored row before current sku) rfl fun other there otherCurrent otherSku =>
        only there otherCurrent (otherSku.trans sku)
      rwa [withStatus_withStatus, withStatus_self (isCurrent_iff.mp current)] at back
  | kept kept keptBefore keptHere keptCurrent keptSku goods different none =>
    have stays := restored.kept kept keptHere keptCurrent different
    constructor
    · intro there
      rwa [eq_of_current restored.unique there current stays keptCurrent (sku.trans keptSku.symm)]
    · intro before
      rwa [eq_of_current prior before current keptBefore keptCurrent (sku.trans keptSku.symm)]
  | lost lost lostBefore lostCurrent lostSku gone =>
    exact absurd gone (allowed application here rfl lost lostBefore lostCurrent (lostSku ▸ mem))

end Rollback

/-! ## Every history -/

theorem commit_cases {db next : Db} {call : Call} (done : call.commit manifestOf executionHash db = .ok next) :
    (∃ planHash approvedHash warehouse, call = .apply planHash approvedHash warehouse none ∧
      Applied planHash (manifestOf planHash) db.rows next.rows ∧
        insertImportRun db.runs planHash (manifestOf planHash) = .ok next.runs) ∨
    ∃ planHash approvedHash, call = .rollback planHash approvedHash none ∧
      Restored planHash db.rows next.rows ∧ (∃ run ∈ db.runs, isAppliedRun planHash run = true) ∧
        next.runs = updateWhere (isAppliedRun planHash) ({ · with status := .rolledBack }) db.runs := by
  cases call with
  | apply planHash approvedHash warehouse failure =>
    cases failure with
    | none => exact .inl ⟨planHash, approvedHash, warehouse, rfl, applied_of_applyManifest done⟩
    | some failure => exact nomatch done
  | rollback planHash approvedHash failure =>
    cases failure with
    | none => exact .inr ⟨planHash, approvedHash, rfl, restored_of_rollbackManifest done⟩
    | some failure => exact nomatch done

theorem Sound.step (history : History) (call : Call) (sound : Sound manifestOf history)
    (allowed : Allowed manifestOf history call) : Sound manifestOf (history.step manifestOf executionHash call) := by
  cases done : call.commit manifestOf executionHash history.db with
  | error failure =>
    unfold History.step
    rw [done]
    exact sound
  | ok next =>
    rw [step_of_ok manifestOf executionHash done]
    rcases commit_cases executionHash done with
      ⟨planHash, approvedHash, warehouse, rfl, applied, inserted⟩ | ⟨planHash, approvedHash, rfl, restored, available, runs⟩
    · exact sound.apply applied inserted
    · exact sound.rollback allowed restored available runs

theorem sound_run {goods : List GoodsRow} {calls : List Call}
    (allowed : Along (History.step manifestOf executionHash) (Allowed manifestOf) (History.start goods) calls) :
    Sound manifestOf (run (History.step manifestOf executionHash) (History.start goods) calls) :=
  run_invariant_along (Sound.step executionHash) (sound_start manifestOf goods) allowed

theorem db_run (history : History) (calls : List Call) :
    (run (History.step manifestOf executionHash) history calls).db =
      run (Call.after manifestOf executionHash) history.db calls := by
  induction calls generalizing history with
  | nil => rfl
  | cons call calls ih =>
    rw [run_cons, run_cons, ih, db_step]

theorem rolledBack_step (planHash : String) (history : History) (call : Call) (mem : planHash ∈ history.rolledBack) :
    planHash ∈ (history.step manifestOf executionHash call).rolledBack := by
  unfold History.step
  split
  · cases call with
    | apply => exact mem
    | rollback => exact List.mem_cons_of_mem _ mem
  · exact mem

theorem currentOf_applied {planHash : String} {manifest : Manifest} {before after : List Assignment}
    (applied : Applied planHash manifest before after) (mem : fullSkuId ∈ manifest.skuIds) :
    (currentOf after fullSkuId).map (·.standardGoodsCode) = manifest.goodsCode? fullSkuId := by
  obtain ⟨row, there, current, sku, goods⟩ := applied.codes fullSkuId mem
  rw [(currentOf_eq_some applied.unique).mpr ⟨there, current, sku⟩, goods]
  rfl

/-- **The history of reporting goods.** As long as no plan is rolled back that has found an assignment of a rolled-back
plan on one of its SKUs, each SKU has at most one current assignment; an apply leaves the SKUs of its manifest with its
goods and the others as they were, and a call that fails leaves everything; no assignment of a plan that has been rolled
back is current; and a rollback gives each SKU of its plan, which no other plan has touched since, the assignment that it
had before the plan. -/
theorem reportingGoods_history (manifestOf : String → Manifest) (executionHash : String → List WarehouseRow → String)
    (goods : List GoodsRow) (calls : List Call)
    (allowed : Along (History.step manifestOf executionHash) (Allowed manifestOf) (History.start goods) calls) :
    let history := run (History.step manifestOf executionHash) (History.start goods) calls
    history.db = run (Call.after manifestOf executionHash) (History.start goods).db calls ∧
    CurrentUnique history.db.rows ∧
    (∀ planHash approvedHash warehouse failure next,
      (Call.apply planHash approvedHash warehouse failure).commit manifestOf executionHash history.db = .ok next →
        (∀ fullSkuId ∈ (manifestOf planHash).skuIds, (currentOf next.rows fullSkuId).map (·.standardGoodsCode) =
          (manifestOf planHash).goodsCode? fullSkuId) ∧
        ∀ row : Assignment, row.fullSkuId ∉ (manifestOf planHash).skuIds → (row ∈ next.rows ↔ row ∈ history.db.rows)) ∧
    (∀ (call : Call) (error : JsError), call.commit manifestOf executionHash history.db = .error error →
      call.after manifestOf executionHash history.db = history.db) ∧
    (∀ earlier later planHash approvedHash failure next,
      calls = earlier ++ .rollback planHash approvedHash failure :: later →
        (Call.rollback planHash approvedHash failure).commit manifestOf executionHash
          (run (History.step manifestOf executionHash) (History.start goods) earlier).db = .ok next →
            ∀ row ∈ history.db.rows, row.sourcePlanHash = planHash → row.isCurrent = false) ∧
    ∀ planHash approvedHash failure next, Allowed manifestOf history (.rollback planHash approvedHash failure) →
      (Call.rollback planHash approvedHash failure).commit manifestOf executionHash history.db = .ok next →
        (∀ row ∈ next.rows, row.sourcePlanHash = planHash → row.isCurrent = false) ∧
        ∀ application since, application.planHash = planHash → history.FirstApplied application since →
          ∀ fullSkuId ∈ (manifestOf planHash).skuIds, Untouched manifestOf planHash since fullSkuId →
            currentOf next.rows fullSkuId = currentOf application.before.rows fullSkuId := by
  intro history
  have sound : Sound manifestOf history := sound_run executionHash allowed
  refine ⟨db_run executionHash _ calls, sound.unique, ?_, ?_, ?_, ?_⟩
  · intro planHash approvedHash warehouse failure next done
    rcases commit_cases executionHash done with ⟨_, _, _, same, applied, -⟩ | ⟨_, _, same, -⟩
    · obtain ⟨rfl, rfl, rfl, rfl⟩ := Call.apply.inj same
      exact ⟨fun fullSkuId mem => currentOf_applied applied mem, fun row other => applied.mem_iff other⟩
    · exact nomatch same
  · intro call error failed
    unfold Call.after
    rw [failed]
  · intro earlier later planHash approvedHash failure next split done
    apply sound.buried planHash
    have recorded : planHash ∈ (History.step manifestOf executionHash
        (run (History.step manifestOf executionHash) (History.start goods) earlier)
        (.rollback planHash approvedHash failure)).rolledBack := by
      rw [step_of_ok manifestOf executionHash done]
      exact List.mem_cons_self
    have later_recorded := run_invariant (@rolledBack_step manifestOf executionHash planHash) recorded later
    rwa [← run_cons, ← run_append, ← split] at later_recorded
  · intro planHash approvedHash failure next allowed done
    rcases commit_cases executionHash done with ⟨_, _, _, same, -⟩ | ⟨_, _, same, restored, available, runs⟩
    · exact nomatch same
    · obtain ⟨rfl, rfl, rfl⟩ := Call.rollback.inj same
      have after := sound.rollback allowed restored available runs
      refine ⟨after.buried planHash List.mem_cons_self, ?_⟩
      intro application since own first fullSkuId mem untouched
      exact sound.givesBack allowed restored available own first mem untouched

/-! ## Two plans for one SKU -/

def oneSku : Warehouse where
  rows := [{
    fullSkuId := 1, storeCode := "S1", platformSkuId := none, platformSkcId := none, platformSpuId := none
    isActive := true }]
  keys := by decide

def oneGoods (planHash : String) : Manifest where
  groups := [{
    standardGoodsCode := planHash, displayName := planHash, modelNormalized := none, namingRule := "r" }]
  assignments := [{
    storeCode := "S1", fullSkuId := 1, platformSkuId := none, platformSkcId := none, platformSpuId := none
    standardGoodsCode := planHash, assignmentKey := planHash }]
  excludedCount := 0

/-- The history of some calls, where an execution plan has the hash of its manifest. -/
def oneHistory (calls : List Call) : History :=
  run (History.step oneGoods fun planHash _ => planHash) (History.start []) calls

/-- Two plans are applied, and rolled back in the reverse order. -/
def reverseOrder : List Call :=
  [.apply "a" "a" oneSku none, .apply "b" "b" oneSku none, .rollback "b" "b" none, .rollback "a" "a" none]

/-- The reverse order is allowed, and each SKU has at most one current assignment after it: none, since both are
revoked. -/
theorem reverse_order_history : CurrentUnique (oneHistory reverseOrder).db.rows ∧
    (oneHistory reverseOrder).db.rows.map (·.status) = [.revoked, .revoked] :=
  ⟨(reportingGoods_history oneGoods (fun planHash _ => planHash) [] reverseOrder (by decide)).2.1,
    by decide⟩

/-- Two plans are applied, and rolled back in the order in which they were applied. -/
def sameOrder : List Call :=
  [.apply "a" "a" oneSku none, .apply "b" "b" oneSku none, .rollback "a" "a" none, .rollback "b" "b" none]

/-- **A rollback that restores what was rolled back**: the assignment of the first plan is current after both plans
have been rolled back. -/
theorem same_order_restores : (oneHistory sameOrder).rolledBack = ["b", "a"] ∧
    (oneHistory sameOrder).db.rows.map (fun row => (row.sourcePlanHash, row.status)) =
      [("a", .confirmed), ("b", .revoked)] := by
  decide

end FullManagedBi.ReportingGoods
