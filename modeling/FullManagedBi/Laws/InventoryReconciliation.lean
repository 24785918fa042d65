import FullManagedBi.Domain.Inventory

/-!
# What a reconciliation says

A sum of quantities in double precision is a safe integer exactly where the exact sum is that integer
(`doubleSum_eq_iff`), so the status of an item with warehouses is about exact sums
(`reconcileTotals_status`). An item without warehouses has a status of its own. A quantity is known exactly where its
field is there (`quantity_reads`), and a requested SKU is missing exactly where no row of the answer names it
(`mapStockQueryResponse_reads`).
-/

namespace FullManagedBi.Domain

open Lib

/-! ## Sums -/

/-- A sum is exact up to `2 ^ 53`, and does not come back below it. -/
theorem foldl_doubleAdd (values : List Quantity) : (∀ start : Nat, start ≤ 2 ^ 53 →
      (start + (values.map (·.1)).sum ≤ 2 ^ 53 ∧
        values.foldl (fun sum value => doubleAdd sum (value.1 : Rat)) (start : Rat) =
          ((start + (values.map (·.1)).sum : Nat) : Rat)) ∨
      (2 ^ 53 < start + (values.map (·.1)).sum ∧
        2 ^ 53 ≤ values.foldl (fun sum value => doubleAdd sum (value.1 : Rat)) (start : Rat))) ∧
    ∀ start : Rat, 2 ^ 53 ≤ start → 2 ^ 53 ≤ values.foldl (fun sum value => doubleAdd sum (value.1 : Rat)) start := by
  induction values with
  | nil =>
    constructor
    · intro start le
      exact .inl ⟨by simpa using le, by simp⟩
    · intro start le
      exact le
  | cons value values ih =>
    constructor
    · intro start le
      rw [List.map_cons, List.sum_cons, ← Nat.add_assoc]
      have added : doubleAdd (start : Rat) (value.1 : Rat) = toDouble ((start + value.1 : Nat) : Rat) := by
        rw [doubleAdd, Nat.cast_add]
      rw [List.foldl_cons, added]
      by_cases inside : start + value.1 ≤ 2 ^ 53
      · rw [toDouble_natCast inside]
        exact ih.1 _ inside
      · right
        refine ⟨by omega, ih.2 _ (le_toDouble ?_)⟩
        exact_mod_cast (not_le.mp inside).le
    · intro start le
      refine ih.2 _ (le_toDouble (le.trans ?_))
      exact le_add_of_nonneg_right (Nat.cast_nonneg _)

/-- A sum in double precision is a quantity exactly where the exact sum is. -/
theorem doubleSum_eq_iff {values : List Quantity} {total : Quantity} :
    doubleSum values = (total.1 : Rat) ↔ (values.map (·.1)).sum = total.1 := by
  have safe := total.2
  have bound : maxSafeInteger < 2 ^ 53 := by decide
  rcases (foldl_doubleAdd values).1 0 (Nat.zero_le _) with ⟨-, exact_⟩ | ⟨above, large⟩
  · rw [Nat.zero_add, Nat.cast_zero] at exact_
    rw [doubleSum, exact_]
    exact Nat.cast_inj
  · rw [Nat.zero_add] at above
    rw [Nat.cast_zero] at large
    refine iff_of_false ?_ (by omega)
    intro same
    rw [doubleSum] at same
    rw [same] at large
    have back : 2 ^ 53 ≤ total.1 := by exact_mod_cast large
    omega

/-! ## The status -/

variable {item : StockItem} {metric : Metric} {total : Quantity}

/-- All warehouses of an item expose a metric, with these quantities. -/
def Details (item : StockItem) (metric : Metric) (details : List Quantity) : Prop :=
  item.warehouses.map (·.detail.get metric) = details.map some

variable {α β : Type}

theorem mapM_eq_some_iff {f : α → Option β} {xs : List α} {ys : List β} :
    xs.mapM f = some ys ↔ xs.map f = ys.map some := by
  induction xs generalizing ys with
  | nil => cases ys <;> simp
  | cons x xs ih =>
    rw [List.mapM_cons]
    cases first : f x with
    | none => cases ys <;> simp [first]
    | some y =>
      cases ys with
      | nil => cases rest : xs.mapM f <;> simp
      | cons z ys => cases rest : xs.mapM f <;> simp [first, ← ih, rest]

theorem mapM_eq_none_iff {f : α → Option β} {xs : List α} : xs.mapM f = none ↔ ∃ x ∈ xs, f x = none := by
  induction xs with
  | nil => simp
  | cons x xs ih =>
    rw [List.mapM_cons]
    cases first : f x with
    | none => simp [first]
    | some y => cases rest : xs.mapM f <;> simp [first, ← ih, rest]

theorem mem_metrics (metric : Metric) : metric ∈ metrics := by
  cases metric <;> decide

theorem exists_check {P : MetricCheck → Prop} :
    (∃ check ∈ metrics.map (checkMetric item), P check) ↔ ∃ metric, P (checkMetric item metric) := by
  constructor
  · rintro ⟨check, mem, holds⟩
    obtain ⟨metric, -, rfl⟩ := List.mem_map.mp mem
    exact ⟨metric, holds⟩
  · rintro ⟨metric, holds⟩
    exact ⟨_, List.mem_map_of_mem (mem_metrics metric), holds⟩

theorem checkMetric_mismatch : (checkMetric item metric).status = .mismatch ↔
    ∃ total details, item.total.get metric = some total ∧ Details item metric details ∧
      (details.map (·.1)).sum ≠ total.1 := by
  unfold checkMetric
  cases exposed : item.total.get metric with
  | none => simp
  | some total =>
    cases known : item.warehouses.mapM fun warehouse => warehouse.detail.get metric with
    | none =>
      refine iff_of_false nofun ?_
      rintro ⟨_, details, -, all, -⟩
      exact nomatch known.symm.trans (mapM_eq_some_iff.mpr all)
    | some details =>
      have unique (others : List Quantity) : Details item metric others ↔ others = details := by
        rw [Details, ← mapM_eq_some_iff, known, Option.some.injEq, eq_comm]
      simp [unique, doubleSum_eq_iff]

theorem checkMetric_partialDetail : (checkMetric item metric).status = .partialDetail ↔
    item.total.get metric ≠ none ∧ ∃ warehouse ∈ item.warehouses, warehouse.detail.get metric = none := by
  unfold checkMetric
  cases exposed : item.total.get metric with
  | none => simp
  | some total =>
    rw [← mapM_eq_none_iff]
    cases known : item.warehouses.mapM fun warehouse => warehouse.detail.get metric with
    | none => simp
    | some details => simp; split <;> simp

theorem checkMetric_unknown (unknown : item.total.get metric = none ∨
    ∃ warehouse ∈ item.warehouses, warehouse.detail.get metric = none) :
    (checkMetric item metric).warehouseSum = none ∧ (checkMetric item metric).status ≠ .match_ ∧
      (checkMetric item metric).status ≠ .mismatch := by
  unfold checkMetric
  cases exposed : item.total.get metric with
  | none => simp
  | some total =>
    have missing := (mapM_eq_none_iff).mpr (unknown.resolve_left (by simp [exposed]))
    simp [missing]

/-- Every exposed total is the sum of the warehouses. -/
def AllMatch (item : StockItem) : Prop :=
  ∀ metric total, item.total.get metric = some total →
    ∃ details, Details item metric details ∧ (details.map (·.1)).sum = total.1

/-- Some exposed total is not the sum of the warehouses, all of which expose it. -/
def SomeDiffers (item : StockItem) : Prop :=
  ∃ metric total details, item.total.get metric = some total ∧ Details item metric details ∧
    (details.map (·.1)).sum ≠ total.1

theorem overallStatus_mismatch : overallStatus (metrics.map (checkMetric item)) = .mismatch ↔ SomeDiffers item := by
  have some_iff : (∃ check ∈ metrics.map (checkMetric item), check.status = .mismatch) ↔ SomeDiffers item := by
    rw [exists_check]
    exact exists_congr fun metric => checkMetric_mismatch
  rw [overallStatus, ← some_iff]
  split
  · next here => exact iff_of_true rfl here
  · next none => split <;> exact iff_of_false nofun none

theorem overallStatus_reconciled : overallStatus (metrics.map (checkMetric item)) = .reconciled ↔ AllMatch item := by
  have partial_iff : (∃ check ∈ metrics.map (checkMetric item), check.status = .partialDetail) ↔
      ∃ metric, item.total.get metric ≠ none ∧
        ∃ warehouse ∈ item.warehouses, warehouse.detail.get metric = none := by
    rw [exists_check]
    exact exists_congr fun metric => checkMetric_partialDetail
  have reconciled_iff : overallStatus (metrics.map (checkMetric item)) = .reconciled ↔
      overallStatus (metrics.map (checkMetric item)) ≠ .mismatch ∧
        ¬ ∃ check ∈ metrics.map (checkMetric item), check.status = .partialDetail := by
    unfold overallStatus
    split
    · simp
    · split
      · next some => simpa using some
      · next none => simpa using none
  rw [reconciled_iff, partial_iff, ne_eq, overallStatus_mismatch]
  constructor
  · rintro ⟨same, complete⟩ metric total exposed
    cases known : item.warehouses.mapM fun warehouse => warehouse.detail.get metric with
    | none => exact absurd ⟨metric, by simp [exposed], (mapM_eq_none_iff).mp known⟩ complete
    | some details =>
      have all : Details item metric details := (mapM_eq_some_iff).mp known
      refine ⟨details, all, ?_⟩
      by_contra differs
      exact same ⟨metric, total, details, exposed, all, differs⟩
  · intro all
    constructor
    · rintro ⟨metric, total, details, exposed, known, differs⟩
      obtain ⟨others, known', sum⟩ := all metric total exposed
      have same : details = others := by
        have both := (mapM_eq_some_iff.mpr known).symm.trans (mapM_eq_some_iff.mpr known')
        exact Option.some.inj both
      exact differs (same ▸ sum)
    · rintro ⟨metric, exposed, unknown⟩
      obtain ⟨total, here⟩ := Option.ne_none_iff_exists'.mp exposed
      obtain ⟨details, known, -⟩ := all metric total here
      rw [← mapM_eq_none_iff, (mapM_eq_some_iff).mpr known] at unknown
      exact nomatch unknown

/-! ## Quantities -/

/-- A quantity is what its field says: it is unknown where the field is missing, and else the integer in it. -/
def ReadsQuantity (value : Option Json) : Option Quantity → Prop
  | none => isMissing value = true
  | some n => isMissing value = false ∧ value.bind readInteger = some (n.1 : Int)

variable {value : Option Json} {location : String}

theorem quantity_reads {isOptional : Bool} {read : Option Quantity}
    (done : quantity value location isOptional = .ok read) : ReadsQuantity value read := by
  unfold quantity at done
  split at done
  · next missing =>
    split at done
    · obtain rfl := Except.ok.inj done
      exact missing
    · exact nomatch done
  · next there =>
    split at done
    · next n same =>
      split at done
      · obtain rfl := Except.ok.inj done
        exact ⟨by simpa using there, same⟩
      · exact nomatch done
    · exact nomatch done

theorem readMetrics_reads {row : Json} {field : Metric → String}
    {values : Metrics (Option Quantity)} (done : readMetrics row field location = .ok values)
    (metric : Metric) : ReadsQuantity (row.field? (field metric)) (values.get metric) := by
  obtain ⟨_, inventory, done⟩ := bind_eq_ok done
  obtain ⟨_, locked, done⟩ := bind_eq_ok done
  obtain ⟨_, tempLock, done⟩ := bind_eq_ok done
  obtain ⟨_, usable, done⟩ := bind_eq_ok done
  obtain ⟨_, outOfStock, done⟩ := bind_eq_ok done
  obtain ⟨_, transit, done⟩ := bind_eq_ok done
  obtain rfl := Except.ok.inj done
  cases metric with
  | inventoryQuantity => exact quantity_reads inventory
  | lockedQuantity => exact quantity_reads locked
  | tempLockQuantity => exact quantity_reads tempLock
  | usableInventory => exact quantity_reads usable
  | outOfStockQty => exact quantity_reads outOfStock
  | transitQuantity => exact quantity_reads transit

theorem record_eq_ok {row : Json} (done : record value location = .ok row) : value = some row := by
  unfold record at done
  split at done
  · obtain rfl := Except.ok.inj done
    rfl
  · exact nomatch done

theorem arrayField_eq_ok {items : List Json} (done : arrayField value location = .ok items) : value = some (.arr items) := by
  unfold arrayField at done
  split at done
  · obtain rfl := Except.ok.inj done
    rfl
  · exact nomatch done

/-- An item is what its row says: its code, its totals, and the quantities of its warehouses. -/
structure ReadsRow (row : Json) (mapped : InventoryItem) : Prop where
  skuCode : ∃ location, requiredText (row.field? "skuCode") location = .ok mapped.item.skuCode
  total : ∀ metric, ReadsQuantity (row.field? (Metric.totalField metric)) (mapped.item.total.get metric)
  warehouses : ∃ rows, nullish (row.field? "warehouseInventoryList") (some (.arr [])) = some (.arr rows) ∧
    List.Forall₂ (fun (warehouse : Json) (stock : WarehouseStock) => ∀ metric,
      ReadsQuantity (warehouse.field? (Metric.detailField metric)) (stock.detail.get metric))
      rows mapped.item.warehouses
  reconciliation : mapped.reconciliation = reconcileTotals mapped.item

theorem mapWarehouse_reads {value : Json} {stock : WarehouseStock}
    (done : mapWarehouse value location = .ok stock) (metric : Metric) :
    ReadsQuantity (value.field? (Metric.detailField metric)) (stock.detail.get metric) := by
  obtain ⟨row, isRecord, done⟩ := bind_eq_ok done
  obtain ⟨_, _, done⟩ := bind_eq_ok done
  obtain ⟨_, _, done⟩ := bind_eq_ok done
  obtain ⟨detail, read, done⟩ := bind_eq_ok done
  obtain rfl := Except.ok.inj done
  obtain rfl := Option.some.inj (record_eq_ok isRecord)
  exact readMetrics_reads read metric

theorem mapSku_reads {value : Json} {spuName skcName : Option String} {mapped : InventoryItem}
    (done : mapSku value spuName skcName location = .ok mapped) : ReadsRow value mapped := by
  obtain ⟨row, isRecord, done⟩ := bind_eq_ok done
  obtain ⟨rows, isArray, done⟩ := bind_eq_ok done
  obtain ⟨_, _, done⟩ := bind_eq_ok done
  obtain ⟨_, _, done⟩ := bind_eq_ok done
  obtain ⟨skuCode, coded, done⟩ := bind_eq_ok done
  obtain ⟨total, read, done⟩ := bind_eq_ok done
  obtain ⟨warehouses, mappedWarehouses, done⟩ := bind_eq_ok done
  obtain rfl := Except.ok.inj done
  obtain rfl := Option.some.inj (record_eq_ok isRecord)
  exact ⟨⟨_, coded⟩, readMetrics_reads read, ⟨rows, arrayField_eq_ok isArray,
    forall₂_of_mapM_zipIdx (fun warehouse index stock done => mapWarehouse_reads done) mappedWarehouses⟩, rfl⟩

/-! ## The answer -/

def responseContainers : Option Json → List Json
  | some (.arr containers) => containers
  | some container => [container]
  | none => []

def IsResponseGroup (response : Option Json) (group : Json) : Prop :=
  ∃ body container groups, response = some body ∧ container ∈ responseContainers (body.field? "info") ∧
    container.field? "goodsInventory" = some (.arr groups) ∧ group ∈ groups

def IsResponseRow (response : Option Json) (row : Json) : Prop :=
  ∃ group rows, IsResponseGroup response group ∧ group.field? "skuList" = some (.arr rows) ∧ row ∈ rows

theorem containerGroups_reads {container : Json} {index : Nat} {groups : List Json}
    (done : containerGroups container index = .ok groups) :
    container.field? "goodsInventory" = some (.arr groups) := by
  obtain ⟨row, isRecord, done⟩ := bind_eq_ok done
  obtain rfl := Option.some.inj (record_eq_ok isRecord)
  exact arrayField_eq_ok done

theorem mem_goodsGroups {body : Json} {groups : List Json} (done : goodsGroups (body.field? "info") = .ok groups)
    (group : Json) : group ∈ groups ↔ IsResponseGroup (some body) group := by
  obtain ⟨containers, listed, done⟩ := bind_eq_ok done
  obtain ⟨parts, mapped, done⟩ := bind_eq_ok done
  obtain rfl := Except.ok.inj done
  have containers_eq : responseContainers (body.field? "info") = containers := by
    unfold infoContainers at listed
    cases info : body.field? "info" with
    | none =>
      rw [info] at listed
      exact nomatch listed
    | some value =>
      rw [info] at listed
      cases value with
      | arr items => exact Except.ok.inj listed
      | obj fields => exact Except.ok.inj listed
      | null => exact nomatch listed
      | bool b => exact nomatch listed
      | num n => exact nomatch listed
      | str text => exact nomatch listed
  have related := exists_of_forall₂ (forall₂_of_mapM_zipIdx
    (fun container index groups done => containerGroups_reads done) mapped)
  rw [List.mem_flatten]
  constructor
  · rintro ⟨part, mem, there⟩
    obtain ⟨container, containerMem, same⟩ := related.1 part mem
    exact ⟨body, container, part, rfl, containers_eq ▸ containerMem, same, there⟩
  · rintro ⟨other, container, part, isBody, containerMem, same, there⟩
    obtain rfl := Option.some.inj isBody
    obtain ⟨other, mem, same'⟩ := related.2 container (containers_eq ▸ containerMem)
    obtain rfl : part = other := Json.arr.inj (Option.mem_unique same same')
    exact ⟨part, mem, there⟩

/-- A group is what its rows say, and observes the codes of its items where SKUs are asked for. -/
theorem mapGroup_reads {dimension : QueryDimension} {group : Json} {groupIndex : Nat} {read : GroupRead}
    (done : mapGroup dimension group groupIndex = .ok read) :
    (∃ rows, group.field? "skuList" = some (.arr rows) ∧ List.Forall₂ ReadsRow rows read.items) ∧
      (dimension = .sku → read.codes = read.items.map (·.item.skuCode)) := by
  obtain ⟨row, isRecord, done⟩ := bind_eq_ok done
  obtain ⟨spuName, _, done⟩ := bind_eq_ok done
  obtain ⟨skcName, _, done⟩ := bind_eq_ok done
  obtain ⟨rows, isArray, done⟩ := bind_eq_ok done
  obtain ⟨items, mapped, done⟩ := bind_eq_ok done
  obtain rfl := Except.ok.inj done
  obtain rfl := Option.some.inj (record_eq_ok isRecord)
  refine ⟨⟨rows, arrayField_eq_ok isArray, forall₂_of_mapM_zipIdx (fun _ _ _ done => mapSku_reads done) mapped⟩, ?_⟩
  rintro rfl
  rfl

/-- What a result says about its answer: its items are the rows of the answer, its codes are those of the request, and
a requested SKU is missing exactly where no item has it. -/
structure ReadsAnswer (query : StockQuery) (result : StockQueryResult) : Prop where
  items : ∀ item ∈ result.items, ∃ row, IsResponseRow query.response row ∧ ReadsRow row item
  rows : ∀ row, IsResponseRow query.response row → ∃ item ∈ result.items, ReadsRow row item
  requested : ∃ codes, query.requestedCodes = some (.arr codes) ∧ ∀ code, code ∈ result.requestedCodes ↔
    ∃ value ∈ codes, requiredText (some value) "requestedCodes" = .ok code
  missing : result.queryDimension = .sku → ∀ code, code ∈ result.coverage.missingCodes ↔
    code ∈ result.requestedCodes ∧ ∀ item ∈ result.items, item.item.skuCode ≠ code

theorem mapStockQueryResponse_reads {isoInstant : String → Option String} {query : StockQuery}
    {result : StockQueryResult} (done : mapStockQueryResponse isoInstant query = .ok result) :
    ReadsAnswer query result := by
  obtain ⟨body, isRecord, done⟩ := bind_eq_ok done
  obtain ⟨_, done⟩ := check_ok_iff.mp done
  obtain ⟨dimension, _, done⟩ := bind_eq_ok done
  obtain ⟨codes, coded, done⟩ := bind_eq_ok done
  obtain ⟨groups, grouped, done⟩ := bind_eq_ok done
  obtain ⟨reads, mapped, done⟩ := bind_eq_ok done
  obtain ⟨texts, texted, done⟩ := bind_eq_ok done
  obtain ⟨_, done⟩ := check_ok_iff.mp done
  obtain ⟨_, done⟩ := check_ok_iff.mp done
  obtain ⟨_, _, done⟩ := bind_eq_ok done
  obtain ⟨_, _, done⟩ := bind_eq_ok done
  obtain rfl := Except.ok.inj done
  have response_eq := record_eq_ok isRecord
  have related := exists_of_forall₂ (forall₂_of_mapM_zipIdx (fun _ _ _ done => mapGroup_reads done) mapped)
  constructor
  · intro item mem
    obtain ⟨read, readMem, itemMem⟩ := List.mem_flatMap.mp mem
    obtain ⟨group, groupMem, ⟨rows, listed, rowsRead⟩, -⟩ := related.1 read readMem
    obtain ⟨row, rowMem, same⟩ := (exists_of_forall₂ rowsRead).1 item itemMem
    rw [response_eq]
    exact ⟨row, ⟨group, rows, (mem_goodsGroups grouped group).mp groupMem, listed, rowMem⟩, same⟩
  · rintro row ⟨group, rows, isGroup, listed, rowMem⟩
    rw [response_eq] at isGroup
    obtain ⟨read, readMem, ⟨others, listed', rowsRead⟩, -⟩ :=
      related.2 group ((mem_goodsGroups grouped group).mpr isGroup)
    obtain rfl : rows = others := Json.arr.inj (Option.mem_unique listed listed')
    obtain ⟨item, itemMem, same⟩ := (exists_of_forall₂ rowsRead).2 row rowMem
    exact ⟨item, List.mem_flatMap.mpr ⟨read, readMem, itemMem⟩, same⟩
  · refine ⟨codes, ?_, ?_⟩
    · unfold requestCodes at coded
      split at coded
      · next same =>
        rw [← Except.ok.inj coded]
        exact same
      · exact nomatch coded
    · intro code
      rw [List.mem_eraseDups]
      constructor
      · intro mem
        exact exists_of_mem_mapM texted mem
      · rintro ⟨value, valueMem, same⟩
        obtain ⟨text, textMem, same'⟩ := exists_ok_of_mapM texted valueMem
        obtain rfl := Except.ok.inj (same.symm.trans same')
        exact textMem
  · rintro rfl code
    have observed : code ∈ (reads.flatMap (·.codes)).eraseDups ↔
        ∃ item ∈ reads.flatMap (·.items), item.item.skuCode = code := by
      rw [List.mem_eraseDups, List.mem_flatMap]
      constructor
      · rintro ⟨read, readMem, codeMem⟩
        obtain ⟨group, -, -, codes_eq⟩ := related.1 read readMem
        rw [codes_eq rfl] at codeMem
        obtain ⟨item, itemMem, same⟩ := List.mem_map.mp codeMem
        exact ⟨item, List.mem_flatMap.mpr ⟨read, readMem, itemMem⟩, same⟩
      · rintro ⟨item, mem, same⟩
        obtain ⟨read, readMem, itemMem⟩ := List.mem_flatMap.mp mem
        obtain ⟨group, -, -, codes_eq⟩ := related.1 read readMem
        refine ⟨read, readMem, ?_⟩
        rw [codes_eq rfl]
        exact List.mem_map.mpr ⟨item, itemMem, same⟩
    simp only [stockCoverage, List.mem_filter, decide_eq_true_eq]
    rw [observed]
    push Not
    rfl

/-! ## The law -/

/-- **What a reconciliation says.** The status of an item without warehouses is `TOTAL_ONLY`. With warehouses it is
`RECONCILED` exactly where every exposed total is the exact sum of the warehouses, `MISMATCH` exactly where some
exposed total whose parts are all known is not, and else `PARTIAL_DETAIL`; a sum with an unknown part is unknown. The
items of an answer are its rows, in which a quantity is unknown exactly where its field is missing; and a requested
SKU is missing exactly where no row names it. -/
theorem inventory_reconciliation : (∀ item : StockItem, item.warehouses = [] → reconcileTotals item =
      ⟨.totalOnly, ReconciliationStatus.totalOnly.explanation, []⟩) ∧
    (∀ item : StockItem, item.warehouses ≠ [] →
      ((reconcileTotals item).status = .reconciled ↔ AllMatch item) ∧
      ((reconcileTotals item).status = .mismatch ↔ SomeDiffers item) ∧
      ((reconcileTotals item).status = .partialDetail ↔ ¬ AllMatch item ∧ ¬ SomeDiffers item) ∧
      (reconcileTotals item).checks = metrics.map (checkMetric item)) ∧
    (∀ (item : StockItem) metric, (item.total.get metric = none ∨
        ∃ warehouse ∈ item.warehouses, warehouse.detail.get metric = none) →
      (checkMetric item metric).warehouseSum = none ∧ (checkMetric item metric).status ≠ .match_ ∧
        (checkMetric item metric).status ≠ .mismatch) ∧
    ∀ isoInstant query result, mapStockQueryResponse isoInstant query = .ok result → ReadsAnswer query result := by
  refine ⟨?_, ?_, fun item metric unknown => checkMetric_unknown unknown, fun _ _ _ => mapStockQueryResponse_reads⟩
  · intro item none
    simp [reconcileTotals, none]
  · intro item some
    have status : (reconcileTotals item).status = overallStatus (metrics.map (checkMetric item)) := by
      simp [reconcileTotals, some]
    rw [status]
    refine ⟨overallStatus_reconciled, overallStatus_mismatch, ?_, by simp [reconcileTotals, some]⟩
    rw [← overallStatus_reconciled, ← overallStatus_mismatch]
    unfold overallStatus
    split
    · simp
    · split <;> simp

/-- An item with one warehouse, which exposes no transit quantity. -/
def stockedItem : StockItem where
  spuName := none
  skcName := none
  skuCode := "S1"
  total := ⟨some ⟨7, by decide⟩, some ⟨2, by decide⟩, some ⟨0, by decide⟩, some ⟨5, by decide⟩, none, none⟩
  warehouses := [⟨"W1", "1", ⟨some ⟨7, by decide⟩, some ⟨2, by decide⟩, some ⟨0, by decide⟩, some ⟨5, by decide⟩,
    none, none⟩⟩]

theorem stockedItem_reconciled : (reconcileTotals stockedItem).status = .reconciled ↔ AllMatch stockedItem :=
  (inventory_reconciliation.2.1 stockedItem (by decide)).1

def emptyItem : StockItem where
  spuName := none
  skcName := none
  skuCode := "S1"
  total :=
    let zero : Option Quantity := some ⟨0, Nat.zero_le _⟩
    ⟨zero, zero, zero, zero, none, none⟩
  warehouses := []

/-- **No warehouse is not a sum of zero.** Every exposed total of the item is the sum of no warehouses, and the item
is not `RECONCILED`. -/
theorem emptyItem_not_reconciled :
    ¬ ∀ item : StockItem, (reconcileTotals item).status = .reconciled ↔ AllMatch item := by
  intro claimed
  have reconciled := (claimed emptyItem).mpr (by
    rintro metric total exposed
    refine ⟨[], rfl, ?_⟩
    cases metric with
    | outOfStockQty => exact nomatch exposed
    | transitQuantity => exact nomatch exposed
    | _ =>
      obtain rfl := Option.some.inj exposed
      rfl)
  exact absurd reconciled (by decide)

end FullManagedBi.Domain
