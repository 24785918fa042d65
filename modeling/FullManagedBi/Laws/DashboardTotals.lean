import FullManagedBi.Laws.DashboardSelection

/-!
# The totals of the dashboard

What is added up is the sum of the counts, where it is a safe integer (`aggregateUnits_eq_ok_iff`); so the
projection is known from the snapshots that are selected (`projectDashboardData_eq_ok_iff`). The sums of the
stores and of the SKUs are those over all snapshots, what is missing stays `null`, and the projection of a list
in another order differs at most in the order of SKUs that rank the same (`projectDashboardData_law`).
-/

namespace FullManagedBi.Dashboard

open Lib

/-! ## Sums -/

/-- The totals with the counts of more snapshots. -/
def Totals.plus (totals : Totals) (rows : List Snapshot) : Totals where
  today := totals.today + (rows.map (·.salesToday)).sum
  yesterday := totals.yesterday + (rows.map (·.salesYesterday)).sum
  last7Days := totals.last7Days + (rows.map (·.sales7Days)).sum
  last30Days := totals.last30Days + (rows.map (·.sales30Days)).sum

structure Totals.Safe (totals : Totals) : Prop where
  today : totals.today ≤ maxSafeInteger
  yesterday : totals.yesterday ≤ maxSafeInteger
  last7Days : totals.last7Days ≤ maxSafeInteger
  last30Days : totals.last30Days ≤ maxSafeInteger

def totalsOf (rows : List Snapshot) : Totals := ({} : Totals).plus rows

theorem Totals.plus_nil (totals : Totals) : totals.plus [] = totals := rfl

theorem Totals.plus_cons (totals : Totals) (row : Snapshot) (rows : List Snapshot) :
    totals.plus (row :: rows) = (totals.plus [row]).plus rows := by
  unfold Totals.plus
  simp only [List.map_cons, List.map_nil, List.sum_cons, List.sum_nil, Totals.mk.injEq]
  omega

variable {rows : List Snapshot}

theorem Totals.safe_of_plus {totals : Totals} (safe : (totals.plus rows).Safe) : totals.Safe :=
  ⟨(Nat.le_add_right ..).trans safe.today, (Nat.le_add_right ..).trans safe.yesterday,
    (Nat.le_add_right ..).trans safe.last7Days, (Nat.le_add_right ..).trans safe.last30Days⟩

variable {path : String}

theorem addSafeInteger_eq_ok_iff {left right sum : Nat} :
    addSafeInteger left right path = .ok sum ↔ left + right ≤ maxSafeInteger ∧ sum = left + right := by
  unfold addSafeInteger
  split
  · next large => exact iff_of_false nofun fun safe => absurd safe.1 (by omega)
  · next small => exact ⟨fun same => ⟨by omega, (Except.ok.inj same).symm⟩, fun safe => congrArg _ safe.2.symm⟩

variable {e : JsError}

theorem addSafeInteger_error {left right : Nat} (failed : addSafeInteger left right path = .error e) : e.code = some "SALES_COUNT_OVERFLOW" := by
  unfold addSafeInteger at failed
  split at failed
  · rw [← Except.error.inj failed]
  · exact nomatch failed

variable {row : Snapshot}

theorem addSnapshot_eq_ok_iff {totals after : Totals} :
    addSnapshot totals row = .ok after ↔ (totals.plus [row]).Safe ∧ after = totals.plus [row] := by
  unfold addSnapshot
  simp only [bind_eq_ok_iff, addSafeInteger_eq_ok_iff]
  constructor
  · rintro ⟨_, ⟨today, rfl⟩, _, ⟨yesterday, rfl⟩, _, ⟨week, rfl⟩, _, ⟨month, rfl⟩, same⟩
    exact ⟨⟨today, yesterday, week, month⟩, (Except.ok.inj same).symm⟩
  · rintro ⟨safe, rfl⟩
    exact ⟨_, ⟨safe.today, rfl⟩, _, ⟨safe.yesterday, rfl⟩, _, ⟨safe.last7Days, rfl⟩, _,
      ⟨safe.last30Days, rfl⟩, rfl⟩

theorem addSnapshots_eq_ok_iff {totals after : Totals} (start : totals.Safe) :
    rows.foldlM addSnapshot totals = .ok after ↔ (totals.plus rows).Safe ∧ after = totals.plus rows := by
  induction rows generalizing totals with
  | nil =>
    rw [Totals.plus_nil]
    exact ⟨fun done => ⟨start, (Except.ok.inj done).symm⟩, fun done => congrArg _ done.2.symm⟩
  | cons row rows ih =>
    rw [List.foldlM_cons, bind_eq_ok_iff, Totals.plus_cons]
    constructor
    · rintro ⟨middle, first, rest⟩
      obtain ⟨safe, rfl⟩ := (addSnapshot_eq_ok_iff).mp first
      exact (ih safe).mp rest
    · intro done
      have safe := Totals.safe_of_plus done.1
      exact ⟨_, (addSnapshot_eq_ok_iff).mpr ⟨safe, rfl⟩, (ih safe).mpr done⟩

theorem addSnapshot_error {totals : Totals} (failed : addSnapshot totals row = .error e) : e.code = some "SALES_COUNT_OVERFLOW" := by
  unfold addSnapshot at failed
  rcases bind_error failed with first | ⟨today, -, failed⟩
  · exact addSafeInteger_error first
  rcases bind_error failed with first | ⟨yesterday, -, failed⟩
  · exact addSafeInteger_error first
  rcases bind_error failed with first | ⟨week, -, failed⟩
  · exact addSafeInteger_error first
  rcases bind_error failed with first | ⟨month, -, failed⟩
  · exact addSafeInteger_error first
  · exact nomatch failed

/-- The units sold of a list: `null` where it is empty. -/
def unitsOf (rows : List Snapshot) : UnitsSold :=
  if rows = [] then { today := none, yesterday := none, last7Days := none, last30Days := none }
  else {
    today := some (totalsOf rows).today, yesterday := some (totalsOf rows).yesterday
    last7Days := some (totalsOf rows).last7Days, last30Days := some (totalsOf rows).last30Days }

def UnitsSold.ranked (units : UnitsSold) : RankedUnits where
  today := units.today
  last7Days := units.last7Days
  last30Days := units.last30Days

theorem safe_zero : ({} : Totals).Safe := ⟨Nat.zero_le _, Nat.zero_le _, Nat.zero_le _, Nat.zero_le _⟩

/-- **What is added up is the sum, where it is a safe integer.** -/
theorem aggregateUnits_eq_ok_iff {units : UnitsSold} :
    aggregateUnits rows = .ok units ↔ (totalsOf rows).Safe ∧ units = unitsOf rows := by
  unfold aggregateUnits unitsOf
  split
  · next none =>
    subst none
    exact ⟨fun same => ⟨safe_zero, (Except.ok.inj same).symm⟩, fun same => congrArg _ same.2.symm⟩
  · rw [bind_eq_ok_iff]
    constructor
    · rintro ⟨totals, added, same⟩
      obtain ⟨safe, rfl⟩ := (addSnapshots_eq_ok_iff safe_zero).mp added
      exact ⟨safe, (Except.ok.inj same).symm⟩
    · rintro ⟨safe, rfl⟩
      exact ⟨_, (addSnapshots_eq_ok_iff safe_zero).mpr ⟨safe, rfl⟩, rfl⟩

theorem aggregateUnits_error (failed : aggregateUnits rows = .error e) : e.code = some "SALES_COUNT_OVERFLOW" := by
  have loop {totals : Totals} (failed : rows.foldlM addSnapshot totals = .error e) :
      e.code = some "SALES_COUNT_OVERFLOW" := by
    clear * - failed
    induction rows generalizing totals with
    | nil => exact nomatch failed
    | cons row rows ih =>
      rw [List.foldlM_cons] at failed
      rcases bind_error failed with first | ⟨middle, -, rest⟩
      · exact addSnapshot_error first
      · exact ih rest
  unfold aggregateUnits at failed
  split at failed
  · exact nomatch failed
  · rcases bind_error failed with added | ⟨totals, -, failed⟩
    · exact loop added
    · exact nomatch failed

theorem aggregateRankedUnits_eq_ok_iff {units : RankedUnits} :
    aggregateRankedUnits rows = .ok units ↔ (totalsOf rows).Safe ∧ units = (unitsOf rows).ranked := by
  unfold aggregateRankedUnits
  simp only [bind_eq_ok_iff, aggregateUnits_eq_ok_iff]
  constructor
  · rintro ⟨_, ⟨safe, rfl⟩, same⟩
    exact ⟨safe, (Except.ok.inj same).symm⟩
  · rintro ⟨safe, rfl⟩
    exact ⟨_, ⟨safe, rfl⟩, rfl⟩

theorem aggregateRankedUnits_error (failed : aggregateRankedUnits rows = .error e) : e.code = some "SALES_COUNT_OVERFLOW" := by
  unfold aggregateRankedUnits at failed
  rcases bind_error failed with added | ⟨units, -, failed⟩
  · exact aggregateUnits_error added
  · exact nomatch failed

/-- Sums over some of the snapshots are safe where those over all are. -/
theorem Totals.Safe.sublist {rows rows' : List Snapshot} (safe : (totalsOf rows).Safe) (part : rows'.Sublist rows) :
    (totalsOf rows').Safe := by
  have less (count : Snapshot → Nat) : (rows'.map count).sum ≤ (rows.map count).sum :=
    (part.map count).sum_le_sum fun _ _ => Nat.zero_le _
  unfold totalsOf Totals.plus at safe ⊢
  obtain ⟨today, yesterday, week, month⟩ := safe
  dsimp only at today yesterday week month
  have lessToday := less (·.salesToday)
  have lessYesterday := less (·.salesYesterday)
  have lessWeek := less (·.sales7Days)
  have lessMonth := less (·.sales30Days)
  constructor <;> dsimp only <;> omega

theorem totalsOf_perm {rows rows' : List Snapshot} (perm : rows.Perm rows') : totalsOf rows = totalsOf rows' := by
  have same (count : Snapshot → Nat) : (rows.map count).sum = (rows'.map count).sum := (perm.map count).sum_eq
  unfold totalsOf Totals.plus
  rw [same, same, same, same]

theorem unitsOf_perm {rows rows' : List Snapshot} (perm : rows.Perm rows') : unitsOf rows = unitsOf rows' := by
  unfold unitsOf
  rw [totalsOf_perm perm]
  have empty : rows = [] ↔ rows' = [] := by
    rw [← List.length_eq_zero_iff, perm.length_eq, List.length_eq_zero_iff]
  simp only [empty]

/-! ## The projection of what is selected -/

def storeRank (latest : List Snapshot) (permission : StorePermission) : StoreRank where
  code := permission.storeCode
  name := permission.storeName
  permissionStatus := permission.permissionStatus
  unitsSold := (unitsOf (rowsOf (·.storeCode) latest permission.storeCode)).ranked

def skuRank (latest : List Snapshot) (sku : String) : SkuRank where
  sku
  unitsSold := (unitsOf (rowsOf (·.skuCode) latest sku)).ranked

/-- The SKUs that have snapshots, in the order in which they come. -/
def skusOf (latest : List Snapshot) : List String := (groupRows (·.skuCode) latest).keys

/-- The projection of the snapshots that are selected. -/
def dataOf (L : LocaleOrder) (permissions : List StorePermission) (latest : List Snapshot) : DashboardData where
  live := !latest.isEmpty
  updatedAt := updatedAtOf latest
  permission := aggregatePermissionStatus permissions
  unitsSold := unitsOf latest
  storeRanking := (permissions.map (storeRank latest)).insertionSort (StoreRank.Le L)
  skuRanking := ((skusOf latest).map (skuRank latest)).insertionSort (SkuRank.Le L)

variable {L : LocaleOrder} {parseDate : String → Option Int} {snapshots storePermissions : Json}
  {permissions : List StorePermission} {rows latest : List Snapshot} {data : DashboardData}

variable {permission : StorePermission}

theorem storeRankOf_eq_ok_iff {rank : StoreRank} : storeRankOf (groupRows (·.storeCode) latest) permission = .ok rank ↔
      (totalsOf (rowsOf (·.storeCode) latest permission.storeCode)).Safe ∧ rank = storeRank latest permission := by
  unfold storeRankOf
  simp only [bind_eq_ok_iff, aggregateRankedUnits_eq_ok_iff, getD_groupRows]
  constructor
  · rintro ⟨_, ⟨safe, rfl⟩, same⟩
    exact ⟨safe, (Except.ok.inj same).symm⟩
  · rintro ⟨safe, rfl⟩
    exact ⟨_, ⟨safe, rfl⟩, rfl⟩

theorem skuRankOf_eq_ok_iff {sku : String} {rank : SkuRank} :
    skuRankOf (sku, rowsOf (·.skuCode) latest sku) = .ok rank ↔
      (totalsOf (rowsOf (·.skuCode) latest sku)).Safe ∧ rank = skuRank latest sku := by
  unfold skuRankOf
  simp only [bind_eq_ok_iff, aggregateRankedUnits_eq_ok_iff]
  constructor
  · rintro ⟨_, ⟨safe, rfl⟩, same⟩
    exact ⟨safe, (Except.ok.inj same).symm⟩
  · rintro ⟨safe, rfl⟩
    exact ⟨_, ⟨safe, rfl⟩, rfl⟩

theorem skuRanks_eq (latest : List Snapshot) : (groupRows (·.skuCode) latest).entries.mapM skuRankOf =
    (skusOf latest).mapM fun sku => skuRankOf (sku, rowsOf (·.skuCode) latest sku) := by
  rw [entries_groupRows, List.mapM_map]
  rfl

theorem storeRanks_eq_ok_iff {ranks : List StoreRank} :
    permissions.mapM (storeRankOf (groupRows (·.storeCode) latest)) = .ok ranks ↔
      (∀ permission ∈ permissions, (totalsOf (rowsOf (·.storeCode) latest permission.storeCode)).Safe) ∧
        ranks = permissions.map (storeRank latest) :=
  mapM_ok_iff fun _ _ => storeRankOf_eq_ok_iff

theorem skuRanks_eq_ok_iff {ranks : List SkuRank} : (groupRows (·.skuCode) latest).entries.mapM skuRankOf = .ok ranks ↔
      (∀ sku ∈ skusOf latest, (totalsOf (rowsOf (·.skuCode) latest sku)).Safe) ∧
        ranks = (skusOf latest).map (skuRank latest) := by
  rw [skuRanks_eq]
  exact mapM_ok_iff fun _ _ => skuRankOf_eq_ok_iff

theorem storeRankOf_error {groups : OrderedMap String (List Snapshot)}
    (failed : storeRankOf groups permission = .error e) : e.code = some "SALES_COUNT_OVERFLOW" := by
  unfold storeRankOf at failed
  rcases bind_error failed with added | ⟨units, -, failed⟩
  · exact aggregateRankedUnits_error added
  · exact nomatch failed

theorem skuRankOf_error {entry : String × List Snapshot} (failed : skuRankOf entry = .error e) :
    e.code = some "SALES_COUNT_OVERFLOW" := by
  unfold skuRankOf at failed
  rcases bind_error failed with added | ⟨units, -, failed⟩
  · exact aggregateRankedUnits_error added
  · exact nomatch failed

theorem selectLatest_eq_ok_iff (read : normalizePermissions storePermissions = .ok permissions) :
    selectLatestSkuSalesSnapshots parseDate snapshots (.arr (permissions.map StorePermission.json)) = .ok latest ↔
      ∃ rows, normalizeSnapshots parseDate snapshots (permissions.map (·.storeCode)) = .ok rows ∧
        latest = latestOf rows := by
  unfold selectLatestSkuSalesSnapshots
  rw [(normalizePermissions_again read).2]
  change (normalizeSnapshots parseDate snapshots (permissions.map (·.storeCode)) >>= _) = _ ↔ _
  rw [bind_eq_ok_iff]
  constructor
  · rintro ⟨rows, here, same⟩
    exact ⟨rows, here, (Except.ok.inj same).symm⟩
  · rintro ⟨rows, here, rfl⟩
    exact ⟨rows, here, rfl⟩

/-- **The projection is that of the snapshots that are selected**, where their sums are safe integers. -/
theorem projectDashboardData_eq_ok_iff : projectDashboardData L parseDate snapshots storePermissions = .ok data ↔
    ∃ permissions rows, normalizePermissions storePermissions = .ok permissions ∧
      normalizeSnapshots parseDate snapshots (permissions.map (·.storeCode)) = .ok rows ∧
      (totalsOf (latestOf rows)).Safe ∧ data = dataOf L permissions (latestOf rows) := by
  unfold projectDashboardData
  rw [bind_eq_ok_iff]
  constructor
  · rintro ⟨permissions, read, done⟩
    obtain ⟨latest, selected, done⟩ := bind_eq_ok done
    obtain ⟨rows, readRows, rfl⟩ := (selectLatest_eq_ok_iff read).mp selected
    obtain ⟨storeRanks, stores, done⟩ := bind_eq_ok done
    obtain ⟨-, rfl⟩ := (storeRanks_eq_ok_iff).mp stores
    obtain ⟨skuRanks, skus, done⟩ := bind_eq_ok done
    obtain ⟨-, rfl⟩ := (skuRanks_eq_ok_iff).mp skus
    obtain ⟨units, added, same⟩ := bind_eq_ok done
    obtain ⟨safe, rfl⟩ := (aggregateUnits_eq_ok_iff).mp added
    exact ⟨permissions, rows, read, readRows, safe, (Except.ok.inj same).symm⟩
  · rintro ⟨permissions, rows, read, readRows, safe, rfl⟩
    have part (p : Snapshot → Bool) : (totalsOf ((latestOf rows).filter p)).Safe := safe.sublist List.filter_sublist
    refine ⟨permissions, read, bind_eq_ok_iff.mpr ⟨latestOf rows, ?_, ?_⟩⟩
    · exact (selectLatest_eq_ok_iff read).mpr ⟨rows, readRows, rfl⟩
    refine bind_eq_ok_iff.mpr ⟨_, (storeRanks_eq_ok_iff).mpr ⟨fun permission _ => part _, rfl⟩, ?_⟩
    refine bind_eq_ok_iff.mpr ⟨_, (skuRanks_eq_ok_iff).mpr ⟨fun sku _ => part _, rfl⟩, ?_⟩
    exact bind_eq_ok_iff.mpr ⟨_, (aggregateUnits_eq_ok_iff).mpr ⟨safe, rfl⟩, rfl⟩

/-- **Sums beyond the safe integers are refused.** -/
theorem projectDashboardData_overflow (read : normalizePermissions storePermissions = .ok permissions)
    (readRows : normalizeSnapshots parseDate snapshots (permissions.map (·.storeCode)) = .ok rows)
    (large : ¬(totalsOf (latestOf rows)).Safe) :
    ∃ e, projectDashboardData L parseDate snapshots storePermissions = .error e ∧
      e.code = some "SALES_COUNT_OVERFLOW" := by
  have selected : selectLatestSkuSalesSnapshots parseDate snapshots (.arr (permissions.map StorePermission.json)) =
      .ok (latestOf rows) := (selectLatest_eq_ok_iff read).mpr ⟨rows, readRows, rfl⟩
  cases outcome : projectDashboardData L parseDate snapshots storePermissions with
  | ok data =>
    obtain ⟨permissions', rows', read', readRows', safe, -⟩ := (projectDashboardData_eq_ok_iff).mp outcome
    obtain rfl := Except.ok.inj (read.symm.trans read')
    obtain rfl := Except.ok.inj (readRows.symm.trans readRows')
    exact absurd safe large
  | error e =>
    refine ⟨e, rfl, ?_⟩
    unfold projectDashboardData at outcome
    rw [read] at outcome
    rcases bind_error outcome with failed | ⟨_, ⟨⟩, outcome⟩
    · exact nomatch failed
    rw [selected] at outcome
    rcases bind_error outcome with failed | ⟨_, ⟨⟩, outcome⟩
    · exact nomatch failed
    rcases bind_error outcome with failed | ⟨storeRanks, -, outcome⟩
    · obtain ⟨permission, -, failed⟩ := exists_error_of_mapM failed
      exact storeRankOf_error failed
    rcases bind_error outcome with failed | ⟨skuRanks, -, outcome⟩
    · obtain ⟨entry, -, failed⟩ := exists_error_of_mapM failed
      exact skuRankOf_error failed
    rcases bind_error outcome with failed | ⟨units, -, outcome⟩
    · exact aggregateUnits_error failed
    · exact nomatch outcome

/-! ## Conservation -/

inductive Window where
  | today
  | last7Days
  | last30Days
  deriving DecidableEq

def Snapshot.sold (row : Snapshot) : Window → Nat
  | .today => row.salesToday
  | .last7Days => row.sales7Days
  | .last30Days => row.sales30Days

def RankedUnits.sold (units : RankedUnits) : Window → Option Nat
  | .today => units.today
  | .last7Days => units.last7Days
  | .last30Days => units.last30Days

/-- The units of a window of a list: their sum, and `null` where the list is empty. -/
theorem sold_unitsOf (rows : List Snapshot) (window : Window) :
    (unitsOf rows).ranked.sold window = if rows = [] then none else some (rows.map (·.sold window)).sum := by
  unfold unitsOf
  by_cases none : rows = []
  · rw [if_pos none, if_pos none]
    cases window <;> rfl
  · rw [if_neg none, if_neg none]
    cases window <;> exact congrArg some (Nat.zero_add _)

theorem getD_sold_unitsOf (rows : List Snapshot) (window : Window) :
    ((unitsOf rows).ranked.sold window).getD 0 = (rows.map (·.sold window)).sum := by
  rw [sold_unitsOf]
  split
  · next none => rw [none]; rfl
  · rfl

theorem updatedAtOf_eq_some {latest : List Snapshot} {time : String} (updated : updatedAtOf latest = some time) :
    (∃ row ∈ latest, row.fetchedAt = time) ∧ ∀ row ∈ latest, row.fetchedAt ≤ time := by
  have loop (rows : List Snapshot) (start : String) :
      let last := rows.foldl
        (fun latest snapshot => if latest < snapshot.fetchedAt then snapshot.fetchedAt else latest) start
      (last = start ∨ ∃ row ∈ rows, row.fetchedAt = last) ∧ start ≤ last ∧ ∀ row ∈ rows, row.fetchedAt ≤ last := by
    induction rows generalizing start with
    | nil => exact ⟨.inl rfl, le_rfl, nofun⟩
    | cons row rows ih =>
      obtain ⟨among, after, above⟩ := ih (if start < row.fetchedAt then row.fetchedAt else start)
      rw [List.foldl_cons]
      refine ⟨?_, le_trans ?_ after, List.forall_mem_cons.mpr ⟨le_trans ?_ after, above⟩⟩
      · rcases among with same | ⟨other, mem, same⟩
        · rw [same]
          split
          · exact .inr ⟨row, List.mem_cons_self, rfl⟩
          · exact .inl rfl
        · exact .inr ⟨other, List.mem_cons_of_mem _ mem, same⟩
      · split
        · next later => exact later.le
        · exact le_rfl
      · split
        · exact le_rfl
        · next earlier => exact not_lt.mp earlier
  cases latest with
  | nil => exact nomatch updated
  | cons first rest =>
    obtain rfl := Option.some.inj updated
    obtain ⟨among, after, above⟩ := loop (first :: rest) first.fetchedAt
    refine ⟨?_, above⟩
    rcases among with same | other
    · exact ⟨first, List.mem_cons_self, same.symm⟩
    · exact other

variable {latest latest' : List Snapshot}

theorem updatedAtOf_perm (perm : latest.Perm latest') : updatedAtOf latest = updatedAtOf latest' := by
  cases before : updatedAtOf latest with
  | none =>
    cases latest with
    | nil => rw [List.nil_perm.mp perm]; rfl
    | cons first rest => exact nomatch before
  | some time =>
    cases after : updatedAtOf latest' with
    | none =>
      cases latest' with
      | nil =>
        rw [List.perm_nil.mp perm] at before
        exact nomatch before
      | cons first rest => exact nomatch after
    | some time' =>
      obtain ⟨⟨row, mem, rfl⟩, above⟩ := updatedAtOf_eq_some before
      obtain ⟨⟨row', mem', rfl⟩, above'⟩ := updatedAtOf_eq_some after
      rw [le_antisymm (above' row (perm.mem_iff.mp mem)) (above row' (perm.mem_iff.mpr mem'))]

/-! ## Rankings of the same SKUs -/

def SkuRank.order (L : LocaleOrder) (left right : SkuRank) : Ordering :=
  compareRanking left.unitsSold right.unitsSold (L.localeCompare left.sku right.sku)

theorem then_ne_gt_iff {a b : Int} {next : Ordering} : (compare a b).then next ≠ .gt ↔ a < b ∨ a = b ∧ next ≠ .gt := by
  rcases lt_trichotomy a b with less | same | more
  · simp [compare_lt_iff_lt.mpr less, less]
  · simp [same]
  · simp [compare_gt_iff_gt.mpr more, more.not_gt, more.ne']

/-- An entry does not come behind one with lower counts, in the order in which they decide. -/
theorem skuRank_le_iff (L : LocaleOrder) {left right : SkuRank} : SkuRank.Le L left right ↔
    rankValue right.unitsSold.last30Days < rankValue left.unitsSold.last30Days ∨
      rankValue right.unitsSold.last30Days = rankValue left.unitsSold.last30Days ∧
        (rankValue right.unitsSold.last7Days < rankValue left.unitsSold.last7Days ∨
          rankValue right.unitsSold.last7Days = rankValue left.unitsSold.last7Days ∧
            (rankValue right.unitsSold.today < rankValue left.unitsSold.today ∨
              rankValue right.unitsSold.today = rankValue left.unitsSold.today ∧
                L.localeCompare left.sku right.sku ≠ .gt)) := by
  unfold SkuRank.Le compareRanking
  rw [then_ne_gt_iff, then_ne_gt_iff, then_ne_gt_iff]

instance (L : LocaleOrder) : IsTrans SkuRank (SkuRank.Le L) where
  trans a b c := by
    intro first second
    have texts : L.localeCompare a.sku b.sku ≠ .gt → L.localeCompare b.sku c.sku ≠ .gt →
        L.localeCompare a.sku c.sku ≠ .gt := fun first second =>
      Ordering.isLE_iff_ne_gt.mp (Std.TransCmp.isLE_trans (Ordering.isLE_iff_ne_gt.mpr first)
        (Ordering.isLE_iff_ne_gt.mpr second))
    rw [skuRank_le_iff] at first second ⊢
    grind

theorem localeCompare_swap (L : LocaleOrder) (a b : String) :
    L.localeCompare a b = (L.localeCompare b a).swap := Std.OrientedCmp.eq_swap

instance (L : LocaleOrder) : Std.Total (SkuRank.Le L) where
  total a b := by
    have turned := localeCompare_swap L a.sku b.sku
    rw [skuRank_le_iff, skuRank_le_iff]
    cases texts : L.localeCompare b.sku a.sku <;> simp [texts] at turned <;> simp [turned] <;> omega

theorem order_eq_of_le (L : LocaleOrder) {left right : SkuRank} (le : SkuRank.Le L left right)
    (ge : SkuRank.Le L right left) : SkuRank.order L left right = .eq := by
  have turned := localeCompare_swap L left.sku right.sku
  rw [skuRank_le_iff] at le ge
  have month : rankValue right.unitsSold.last30Days = rankValue left.unitsSold.last30Days := by omega
  have week : rankValue right.unitsSold.last7Days = rankValue left.unitsSold.last7Days := by omega
  have today : rankValue right.unitsSold.today = rankValue left.unitsSold.today := by omega
  unfold SkuRank.order compareRanking
  rw [month, week, today]
  have same (n : Int) : compare n n = .eq := compare_eq_iff_eq.mpr rfl
  simp only [same, Ordering.eq_then]
  cases texts : L.localeCompare right.sku left.sku with
  | eq => rw [turned, texts]; rfl
  | lt => rw [texts] at turned; simp [month, week, today, turned] at le
  | gt => simp [month, week, today, texts] at ge

/-! ## The law -/

/-- What the projection keeps of the snapshots that are read. -/
structure Conserves (rows latest : List Snapshot) (permissions : List StorePermission) (data : DashboardData) :
    Prop where
  /-- One snapshot is used for each SKU of a store that has one. -/
  one : (latest.map skuKey).Nodup
  each : ∀ row ∈ rows, ∃ kept ∈ latest, skuKey kept = skuKey row
  /-- It is one of the list; none has a later date, or the same date and a fetch time with a later ISO text. -/
  newest : ∀ kept ∈ latest, kept ∈ rows ∧ ∀ row ∈ rows, skuKey row = skuKey kept → ¬isNewer row kept
  /-- In the years 0 to 9999 the order of the ISO texts is that of the fetch times. -/
  chronological : ∀ kept ∈ latest, ∀ row ∈ rows, skuKey row = skuKey kept →
    row.statisticsDate = kept.statisticsDate → ∀ instant instant', row.fetchedAt = toIsoTimestamp instant →
      kept.fetchedAt = toIsoTimestamp instant' → FourDigitYear (instant / 86400000) →
      FourDigitYear (instant' / 86400000) → instant ≤ instant'
  /-- The units are those of the snapshots that are used; without any they are `null`. -/
  total : ∀ window, data.unitsSold.ranked.sold window =
    if latest = [] then none else some (latest.map (·.sold window)).sum
  /-- Each permitted store is ranked once. -/
  ranked : (data.storeRanking.map (·.code)).Perm (permissions.map (·.storeCode))
  stores : ∀ window, (data.storeRanking.map fun rank => (rank.unitsSold.sold window).getD 0).sum =
    (data.unitsSold.ranked.sold window).getD 0
  skus : ∀ window, (data.skuRanking.map fun rank => (rank.unitsSold.sold window).getD 0).sum =
    (data.unitsSold.ranked.sold window).getD 0
  /-- The units of a store are `null` exactly if it has no snapshot; those of a ranked SKU are not. -/
  missing : ∀ rank ∈ data.storeRanking, ∀ window,
    rank.unitsSold.sold window = none ↔ ∀ row ∈ rows, row.storeCode ≠ rank.code
  present : ∀ rank ∈ data.skuRanking, ∀ window, rank.unitsSold.sold window ≠ none

/-- The projections differ at most in the order of SKUs that rank the same. -/
structure DashboardData.Alike (L : LocaleOrder) (data other : DashboardData) : Prop where
  rest : { data with skuRanking := [] } = { other with skuRanking := [] }
  skus : data.skuRanking.Perm other.skuRanking
  tied : List.Forall₂ (fun rank rank' => SkuRank.order L rank rank' = .eq) data.skuRanking other.skuRanking

/-- Both calls return, and `R` relates what they return, or both throw. -/
def SameOutcome {α : Type} (R : α → α → Prop) : Except JsError α → Except JsError α → Prop
  | .ok a, .ok b => R a b
  | .error _, .error _ => True
  | _, _ => False

theorem sum_skuRanking (latest : List Snapshot) (permissions : List StorePermission) (window : Window) :
    ((dataOf L permissions latest).skuRanking.map fun rank => (rank.unitsSold.sold window).getD 0).sum =
      (latest.map (·.sold window)).sum := by
  have perm := (List.perm_insertionSort (SkuRank.Le L) ((skusOf latest).map (skuRank latest))).map fun rank =>
    (rank.unitsSold.sold window).getD 0
  refine perm.sum_eq.trans ?_
  rw [List.map_map]
  have covered : ∀ row ∈ latest, row.skuCode ∈ skusOf latest := fun row mem => mem_keys_groupRows.mpr ⟨row, mem, rfl⟩
  rw [← sum_map_rowsOf OrderedMap.nodup_keys covered]
  congr 1
  apply List.map_congr_left
  intro sku _
  exact getD_sold_unitsOf _ window

variable {permissions : List StorePermission}

theorem sum_storeRanking {latest : List Snapshot} (distinct : (permissions.map (·.storeCode)).Nodup)
    (permitted : ∀ row ∈ latest, row.storeCode ∈ permissions.map (·.storeCode)) (window : Window) :
    ((dataOf L permissions latest).storeRanking.map fun rank => (rank.unitsSold.sold window).getD 0).sum =
      (latest.map (·.sold window)).sum := by
  have perm := (List.perm_insertionSort (StoreRank.Le L) (permissions.map (storeRank latest))).map fun rank =>
    (rank.unitsSold.sold window).getD 0
  refine perm.sum_eq.trans ?_
  rw [List.map_map, ← sum_map_rowsOf distinct permitted, List.map_map]
  congr 1
  apply List.map_congr_left
  intro permission _
  exact getD_sold_unitsOf _ window

/-- **Conservation**: the projection keeps the snapshots it is made of. -/
theorem conserves_dataOf (distinct : (permissions.map (·.storeCode)).Nodup)
    (permitted : ∀ row ∈ rows, row.storeCode ∈ permissions.map (·.storeCode)) :
    Conserves rows (latestOf rows) permissions (dataOf L permissions (latestOf rows)) := by
  have kept : ∀ row ∈ latestOf rows, row ∈ rows := fun row mem => (newest_of_mem_latestOf mem).1
  have total (window : Window) := sold_unitsOf (latestOf rows) window
  have sum (window : Window) := getD_sold_unitsOf (latestOf rows) window
  constructor
  · exact nodup_latestOf rows
  · exact fun row mem => exists_mem_latestOf mem
  · intro row mem
    obtain ⟨inside, newest⟩ := newest_of_mem_latestOf mem
    exact ⟨inside, fun other there same newer => (newest other there same).not_gt (isNewer_iff.mp newer)⟩
  · intro row mem other there same date instant instant' fetched fetched' four four'
    have le := (newest_of_mem_latestOf mem).2 other there same
    unfold stamp at le
    rw [Prod.Lex.toLex_le_toLex, date, fetched, fetched'] at le
    have texts : toIsoTimestamp instant ≤ toIsoTimestamp instant' := by
      rcases le with less | same
      · exact absurd less (lt_irrefl _)
      · exact same.2
    exact not_lt.mp fun less => texts.not_gt ((toIsoTimestamp_lt four' four).mpr less)
  · exact total
  · have perm := (List.perm_insertionSort (StoreRank.Le L) (permissions.map (storeRank (latestOf rows)))).map (·.code)
    rw [List.map_map] at perm
    exact perm
  · intro window
    rw [sum_storeRanking distinct fun row mem => permitted row (kept row mem)]
    exact (sum window).symm
  · intro window
    rw [sum_skuRanking]
    exact (sum window).symm
  · intro rank mem window
    obtain ⟨permission, -, rfl⟩ := List.mem_map.mp ((List.mem_insertionSort _).mp mem)
    change (unitsOf (rowsOf (·.storeCode) (latestOf rows) permission.storeCode)).ranked.sold window = none ↔
      ∀ row ∈ rows, row.storeCode ≠ permission.storeCode
    rw [sold_unitsOf]
    constructor
    · intro null row there same
      obtain ⟨other, inside, key⟩ := exists_mem_latestOf there
      have ofStore : other ∈ rowsOf (·.storeCode) (latestOf rows) permission.storeCode :=
        List.mem_filter.mpr ⟨inside, decide_eq_true ((congrArg Prod.fst key).trans same)⟩
      rw [if_neg (List.ne_nil_of_mem ofStore)] at null
      exact nomatch null
    · intro absent
      refine if_pos (List.filter_eq_nil_iff.mpr ?_)
      intro row inside same
      exact absent row (kept row inside) (of_decide_eq_true same)
  · intro rank mem window
    obtain ⟨sku, there, rfl⟩ := List.mem_map.mp ((List.mem_insertionSort _).mp mem)
    obtain ⟨row, inside, same⟩ := mem_keys_groupRows.mp there
    have ofSku : row ∈ rowsOf (·.skuCode) (latestOf rows) sku := List.mem_filter.mpr ⟨inside, decide_eq_true same⟩
    change (unitsOf (rowsOf (·.skuCode) (latestOf rows) sku)).ranked.sold window ≠ none
    rw [sold_unitsOf, if_neg (List.ne_nil_of_mem ofSku)]
    exact Option.some_ne_none _

/-- **The order of the snapshots that are selected** matters at most to the order of SKUs that rank the same. -/
theorem dataOf_alike (perm : latest.Perm latest') :
    (dataOf L permissions latest).Alike L (dataOf L permissions latest') := by
  have stores : permissions.map (storeRank latest) = permissions.map (storeRank latest') := by
    apply List.map_congr_left
    intro permission _
    unfold storeRank
    rw [unitsOf_perm (rowsOf_perm perm permission.storeCode)]
  have ranks : ((skusOf latest).map (skuRank latest)).Perm ((skusOf latest').map (skuRank latest')) := by
    have same : (skusOf latest').map (skuRank latest') = (skusOf latest').map (skuRank latest) := by
      apply List.map_congr_left
      intro sku _
      unfold skuRank
      rw [unitsOf_perm (rowsOf_perm perm.symm sku)]
    rw [same]
    exact (keys_groupRows_perm perm).map _
  have empty : latest.isEmpty = latest'.isEmpty := by
    rw [Bool.eq_iff_iff, List.isEmpty_iff, List.isEmpty_iff, ← List.length_eq_zero_iff, perm.length_eq,
      List.length_eq_zero_iff]
  have sorted := List.pairwise_insertionSort (SkuRank.Le L) ((skusOf latest).map (skuRank latest))
  have sorted' := List.pairwise_insertionSort (SkuRank.Le L) ((skusOf latest').map (skuRank latest'))
  have both := (List.perm_insertionSort (SkuRank.Le L) _).trans
    (ranks.trans (List.perm_insertionSort (SkuRank.Le L) _).symm)
  refine ⟨?_, both, ?_⟩
  · unfold dataOf
    rw [stores, empty, updatedAtOf_perm perm, unitsOf_perm perm]
  · have tied := forall₂_of_perm_pairwise (fun a => (Std.Total.total (r := SkuRank.Le L) a a).elim id id)
      (fun a b c => IsTrans.trans a b c) both sorted sorted'
    exact tied.imp fun rank rank' le => order_eq_of_le L le.1 le.2

def salesFields : List String := ["salesToday", "salesYesterday", "sales7Days", "sales30Days"]

theorem nonNegativeInteger_eq_ok {value : Option Json} {count : Nat}
    (read : nonNegativeInteger value path = .ok count) : value = some (.ofNat count) := by
  unfold nonNegativeInteger at read
  split at read
  · next n =>
    split at read
    · exact nomatch read
    split at read
    · exact nomatch read
    next positive =>
    rw [← Except.ok.inj read, Json.ofNat, Int.toNat_of_nonneg (not_lt.mp positive)]
  · exact nomatch read

theorem counted_of_normalizeSnapshot {codes : List String} {raw : Json} {index : Nat}
    (read : normalizeSnapshot parseDate codes raw index = .ok row) :
    ∀ field ∈ salesFields, ∃ count, raw.field? field = some (.ofNat count) := by
  unfold normalizeSnapshot at read
  obtain ⟨snapshot, fields, read⟩ := bind_eq_ok read
  have same : snapshot = raw := by
    unfold record at fields
    split at fields
    · next there =>
      rw [Option.some.inj there]
      exact (Except.ok.inj fields).symm
    · exact nomatch fields
  rw [← same]
  obtain ⟨storeCode, -, read⟩ := bind_eq_ok read
  obtain ⟨skuCode, -, read⟩ := bind_eq_ok read
  rw [check_ok_iff] at read
  obtain ⟨date, -, read⟩ := bind_eq_ok read.2
  obtain ⟨fetched, -, read⟩ := bind_eq_ok read
  obtain ⟨today, isToday, read⟩ := bind_eq_ok read
  obtain ⟨yesterday, isYesterday, read⟩ := bind_eq_ok read
  obtain ⟨week, isWeek, read⟩ := bind_eq_ok read
  obtain ⟨month, isMonth, read⟩ := bind_eq_ok read
  simp only [salesFields, List.forall_mem_cons]
  exact ⟨⟨today, nonNegativeInteger_eq_ok isToday⟩, ⟨yesterday, nonNegativeInteger_eq_ok isYesterday⟩,
    ⟨week, nonNegativeInteger_eq_ok isWeek⟩, ⟨month, nonNegativeInteger_eq_ok isMonth⟩, nofun⟩

/-- A projection that is returned stays one, and is alike, if the snapshots come in another order. -/
theorem projectDashboardData_perm {raws raws' : List Json} (perm : raws.Perm raws')
    (untied : ∀ permissions rows, normalizePermissions storePermissions = .ok permissions →
      normalizeSnapshots parseDate (.arr raws) (permissions.map (·.storeCode)) = .ok rows →
      rows.Pairwise fun row other => ¬Ties row other)
    (done : projectDashboardData L parseDate (.arr raws) storePermissions = .ok data) :
    ∃ other, projectDashboardData L parseDate (.arr raws') storePermissions = .ok other ∧ data.Alike L other := by
  obtain ⟨permissions, rows, read, readRows, safe, rfl⟩ := (projectDashboardData_eq_ok_iff).mp done
  obtain ⟨rows', readRows', permuted⟩ := normalizeSnapshots_perm perm readRows
  have selected := latestOf_perm permuted (untied permissions rows read readRows)
  refine ⟨dataOf L permissions (latestOf rows'), (projectDashboardData_eq_ok_iff).mpr ?_, dataOf_alike selected⟩
  exact ⟨permissions, rows', read, readRows', totalsOf_perm selected ▸ safe, rfl⟩

/-- **The dashboard projection.** What is returned keeps the snapshots that are read: one of the newest for each
SKU of a store, with the same sums over the stores, over the SKUs and over all, and `null` where there is no
snapshot; no count was missing. Sums beyond the safe integers are refused. Without ties, another order of the
snapshots makes no difference but to the order of SKUs that rank the same. -/
theorem projectDashboardData_law (L : LocaleOrder) (parseDate : String → Option Int) (raws : List Json)
    (storePermissions : Json) : (∀ data, projectDashboardData L parseDate (.arr raws) storePermissions = .ok data →
      (∃ permissions rows latest, normalizePermissions storePermissions = .ok permissions ∧
        normalizeSnapshots parseDate (.arr raws) (permissions.map (·.storeCode)) = .ok rows ∧
        selectLatestSkuSalesSnapshots parseDate (.arr raws) storePermissions = .ok latest ∧
        Conserves rows latest permissions data) ∧
      ∀ raw ∈ raws, ∀ field ∈ salesFields, ∃ count, raw.field? field = some (.ofNat count)) ∧
    (∀ latest, selectLatestSkuSalesSnapshots parseDate (.arr raws) storePermissions = .ok latest →
      ¬(totalsOf latest).Safe → ∃ e, projectDashboardData L parseDate (.arr raws) storePermissions = .error e ∧
        e.code = some "SALES_COUNT_OVERFLOW") ∧
    ∀ raws', raws.Perm raws' →
      (∀ permissions rows, normalizePermissions storePermissions = .ok permissions →
        normalizeSnapshots parseDate (.arr raws) (permissions.map (·.storeCode)) = .ok rows →
        rows.Pairwise fun row other => ¬Ties row other) →
      SameOutcome (DashboardData.Alike L) (projectDashboardData L parseDate (.arr raws) storePermissions)
        (projectDashboardData L parseDate (.arr raws') storePermissions) := by
  refine ⟨?_, ?_, ?_⟩
  · intro data done
    obtain ⟨permissions, rows, read, readRows, -, rfl⟩ := (projectDashboardData_eq_ok_iff).mp done
    have selected : selectLatestSkuSalesSnapshots parseDate (.arr raws) storePermissions = .ok (latestOf rows) := by
      unfold selectLatestSkuSalesSnapshots
      exact bind_eq_ok_iff.mpr ⟨permissions, read, bind_eq_ok_iff.mpr ⟨rows, readRows, rfl⟩⟩
    refine ⟨⟨permissions, rows, latestOf rows, read, readRows, selected, ?_⟩, ?_⟩
    · exact conserves_dataOf (normalizePermissions_again read).1
        fun row mem => storeCode_of_normalizeSnapshots readRows mem
    · intro raw mem
      have mapped := (ReadAlike.mapM_zipIdx (normalizeSnapshot_alike parseDate _)).mp readRows
      obtain ⟨row, -, here⟩ := exists_ok_of_mapM mapped mem
      exact counted_of_normalizeSnapshot here
  · intro latest selected large
    unfold selectLatestSkuSalesSnapshots at selected
    obtain ⟨permissions, read, selected⟩ := bind_eq_ok selected
    obtain ⟨rows, readRows, same⟩ := bind_eq_ok selected
    obtain rfl := Except.ok.inj same
    exact projectDashboardData_overflow read readRows large
  · intro raws' perm untied
    cases before : projectDashboardData L parseDate (.arr raws) storePermissions with
    | ok data =>
      obtain ⟨other, done, alike⟩ := projectDashboardData_perm perm untied before
      rw [done]
      exact alike
    | error e =>
      cases after : projectDashboardData L parseDate (.arr raws') storePermissions with
      | error e' => trivial
      | ok other =>
        refine absurd (projectDashboardData_perm perm.symm ?_ after) ?_
        · intro permissions rows' read readRows'
          obtain ⟨rows, readRows, permuted⟩ := normalizeSnapshots_perm perm.symm readRows'
          refine (permuted.pairwise_iff fun free ties => ?_).mpr (untied permissions rows read readRows)
          exact free ⟨ties.1.symm, ties.2.symm⟩
        · rintro ⟨data, done, -⟩
          exact nomatch before.symm.trans done

/-! ## Two codes that compare the same -/

/-- A locale in which an `é` is the same text in one character and in two. -/
def composedLocale : LocaleOrder where
  localeCompare := compareOn fun text => if text = "e\u0301" then "é" else text
  localeCompare_trans := inferInstance

def snapshotOf (sku : String) : Json :=
  .obj [("storeCode", .str "DL5477"), ("skuCode", .str sku), ("statisticsDate", .str "2026-07-20"),
    ("fetchedAt", .str "2026-07-20T03:00:00.000Z"), ("salesToday", .ofNat 1), ("salesYesterday", .ofNat 2),
    ("sales7Days", .ofNat 7), ("sales30Days", .ofNat 30)]

def grantedStore : Json :=
  .arr [.obj [("storeCode", .str "DL5477"), ("storeName", .null), ("permissionStatus", .str "granted")]]

def readFetchTime (text : String) : Option Int := if text = "2026-07-20T03:00:00.000Z" then some 1784516400000 else none

def rankedSkus (outcome : Except JsError DashboardData) : List String :=
  match outcome with
  | .ok data => data.skuRanking.map (·.sku)
  | .error _ => []

/-- Two SKUs with the same units whose codes compare the same: the one whose snapshot comes first is ranked first. -/
theorem sameRank_inputOrder :
    rankedSkus (projectDashboardData composedLocale readFetchTime (.arr [snapshotOf "é", snapshotOf "e\u0301"])
      grantedStore) = ["é", "e\u0301"] ∧
    rankedSkus (projectDashboardData composedLocale readFetchTime (.arr [snapshotOf "e\u0301", snapshotOf "é"])
      grantedStore) = ["e\u0301", "é"] := by
  constructor <;> decide

theorem snapshots_untied : ∀ permissions rows, normalizePermissions grantedStore = .ok permissions →
    normalizeSnapshots readFetchTime (.arr [snapshotOf "é", snapshotOf "e\u0301"]) (permissions.map (·.storeCode)) =
      .ok rows → rows.Pairwise fun row other => ¬Ties row other := by
  intro permissions rows read readRows
  have stores : (normalizePermissions grantedStore).map (·.map (·.storeCode)) = .ok ["DL5477"] := by decide
  have skus : (normalizeSnapshots readFetchTime (.arr [snapshotOf "é", snapshotOf "e\u0301"]) ["DL5477"]).map
      (·.map (·.skuCode)) = .ok ["é", "e\u0301"] := by decide
  rw [read] at stores
  have code : permissions.map (·.storeCode) = ["DL5477"] := Except.ok.inj stores
  rw [code] at readRows
  rw [readRows] at skus
  have codes : rows.map (·.skuCode) = ["é", "e\u0301"] := Except.ok.inj skus
  have distinct : (rows.map (·.skuCode)).Nodup := codes ▸ by decide
  exact (List.pairwise_map.mp distinct).imp fun apart ties => apart (congrArg Prod.snd ties.1)

/-- **The order of the snapshots is seen** where two codes compare the same. -/
theorem snapshots_swapped : ¬∀ raws', [snapshotOf "é", snapshotOf "e\u0301"].Perm raws' →
    (∀ permissions rows, normalizePermissions grantedStore = .ok permissions →
      normalizeSnapshots readFetchTime (.arr [snapshotOf "é", snapshotOf "e\u0301"])
        (permissions.map (·.storeCode)) = .ok rows → rows.Pairwise fun row other => ¬Ties row other) →
    projectDashboardData composedLocale readFetchTime (.arr [snapshotOf "é", snapshotOf "e\u0301"]) grantedStore =
      projectDashboardData composedLocale readFetchTime (.arr raws') grantedStore := by
  intro invariant
  have same := congrArg rankedSkus (invariant _ (.swap ..) snapshots_untied)
  rw [(sameRank_inputOrder).1, (sameRank_inputOrder).2] at same
  exact absurd same (by decide)

/-- The law at the two snapshots. -/
theorem snapshots_alike : SameOutcome (DashboardData.Alike composedLocale)
    (projectDashboardData composedLocale readFetchTime (.arr [snapshotOf "é", snapshotOf "e\u0301"]) grantedStore)
    (projectDashboardData composedLocale readFetchTime (.arr [snapshotOf "e\u0301", snapshotOf "é"]) grantedStore) :=
  (projectDashboardData_law composedLocale readFetchTime [snapshotOf "é", snapshotOf "e\u0301"] grantedStore).2.2 _
    (.swap ..) snapshots_untied

end FullManagedBi.Dashboard
