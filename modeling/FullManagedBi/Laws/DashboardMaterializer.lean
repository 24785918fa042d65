import FullManagedBi.Warehouse.DashboardMaterializer

/-!
# The totals of the materialized dashboard agree

What `sumSnapshotUnits` returns is the sum of the counts (`sold_sumSnapshotUnits`). The groups of the products are a
regrouping of the selected snapshots (`groupOf_openGroup`), and so are the stores of a product; so each view adds up
to the same total (`buildDashboardFromProjectionInput_law`).
-/

namespace FullManagedBi.Materializer

open Lib
open Dashboard (UnitsSold Totals projectDashboardData)

/-! ## The four windows -/

inductive Window where
  | today
  | yesterday
  | last7Days
  | last30Days
  deriving DecidableEq

def SalesSnapshot.sold (row : SalesSnapshot) : Window → Nat
  | .today => row.salesToday
  | .yesterday => row.salesYesterday
  | .last7Days => row.sales7Days
  | .last30Days => row.sales30Days

def totalIn (totals : Totals) : Window → Nat
  | .today => totals.today
  | .yesterday => totals.yesterday
  | .last7Days => totals.last7Days
  | .last30Days => totals.last30Days

def unitsIn (units : UnitsSold) : Window → Option Nat
  | .today => units.today
  | .yesterday => units.yesterday
  | .last7Days => units.last7Days
  | .last30Days => units.last30Days

/-- The sum over the units of a window, where none of them is `null`. -/
def sumIn (window : Window) : List UnitsSold → Option Nat
  | [] => some 0
  | units :: rest => do
    let first ← unitsIn units window
    let sum ← sumIn window rest
    return first + sum

def soldBy (window : Window) (rows : List SalesSnapshot) : Nat := (rows.map (·.sold window)).sum

@[simp] theorem sumIn_nil (window : Window) : sumIn window [] = some 0 := rfl

variable {window : Window}

theorem sumIn_cons {units : UnitsSold} {rest : List UnitsSold} {first sum : Nat}
    (here : unitsIn units window = some first) (later : sumIn window rest = some sum) :
    sumIn window (units :: rest) = some (first + sum) := by
  simp [sumIn, here, later]

variable {left right : List UnitsSold}

theorem sumIn_append {sum sum' : Nat} (here : sumIn window left = some sum) (later : sumIn window right = some sum') :
    sumIn window (left ++ right) = some (sum + sum') := by
  induction left generalizing sum with
  | nil =>
    obtain rfl := Option.some.inj here
    simpa using later
  | cons units rest ih =>
    simp only [sumIn, Option.bind_eq_bind, Option.bind_eq_some_iff] at here
    obtain ⟨first, there, others, added, same⟩ := here
    obtain rfl := Option.some.inj same
    rw [List.cons_append, sumIn_cons there (ih added), Nat.add_assoc]

theorem sumIn_perm (perm : left.Perm right) : sumIn window left = sumIn window right := by
  induction perm with
  | nil => rfl
  | cons units _ ih => rw [sumIn, sumIn, ih]
  | swap first second rest =>
    cases one : unitsIn first window <;> cases two : unitsIn second window <;> cases others : sumIn window rest <;>
      simp [sumIn, one, two, others, Nat.add_left_comm]
  | trans _ _ ih ih' => exact ih.trans ih'

section Pairs

variable {ρ τ : Type} {R : ρ → τ → Prop} {window : Window} {items : List ρ} {rows : List τ} {g : ρ → Nat}

theorem sumIn_flatMap_of_forall₂ {f : τ → List UnitsSold} (pairs : List.Forall₂ R items rows)
    (each : ∀ item ∈ items, ∀ row, R item row → sumIn window (f row) = some (g item)) :
    sumIn window (rows.flatMap f) = some (items.map g).sum := by
  induction pairs with
  | nil => rfl
  | cons here _ ih =>
    rw [List.flatMap_cons, List.map_cons, List.sum_cons]
    apply sumIn_append (each _ List.mem_cons_self _ here)
    exact ih fun item mem => each item (List.mem_cons_of_mem _ mem)

theorem sumIn_map_of_forall₂ {f : τ → UnitsSold} (pairs : List.Forall₂ R items rows)
    (each : ∀ item ∈ items, ∀ row, R item row → unitsIn (f row) window = some (g item)) :
    sumIn window (rows.map f) = some (items.map g).sum := by
  rw [List.map_eq_flatMap]
  apply sumIn_flatMap_of_forall₂ pairs
  intro item mem row related
  exact sumIn_cons (each item mem row related) (sumIn_nil window)

theorem sumIn_map {f : ρ → UnitsSold} (each : ∀ item ∈ items, unitsIn (f item) window = some (g item)) :
    sumIn window (items.map f) = some (items.map g).sum := by
  have pairs : List.Forall₂ Eq items items := List.forall₂_refl items
  apply sumIn_map_of_forall₂ pairs
  rintro item mem _ rfl
  exact each item mem

end Pairs

/-! ## Sums of snapshots -/

theorem pgInteger_eq_ok {value number : Nat} {location : String} (read : pgInteger value location = .ok number) :
    number = value ∧ value ≤ maxSafeInteger := by
  unfold pgInteger at read
  split at read
  · exact nomatch read
  · next small => exact ⟨(Except.ok.inj read).symm, by omega⟩

theorem addCount_eq_ok {sum value result : Nat} {location target : String}
    (added : addCount sum value location target = .ok result) : result = sum + value := by
  unfold addCount at added
  obtain ⟨number, read, added⟩ := bind_eq_ok added
  obtain ⟨-, same⟩ := check_ok_iff.mp added
  rw [← Except.ok.inj same, (pgInteger_eq_ok read).1]

variable {result result' : Totals}

theorem addRow_eq_ok {row : SalesSnapshot} (added : addRow result row = .ok result')
    (window : Window) : totalIn result' window = totalIn result window + row.sold window := by
  unfold addRow at added
  obtain ⟨today, addedToday, added⟩ := bind_eq_ok added
  obtain ⟨yesterday, addedYesterday, added⟩ := bind_eq_ok added
  obtain ⟨week, addedWeek, added⟩ := bind_eq_ok added
  obtain ⟨month, addedMonth, added⟩ := bind_eq_ok added
  rw [← Except.ok.inj added]
  cases window with
  | today => exact addCount_eq_ok addedToday
  | yesterday => exact addCount_eq_ok addedYesterday
  | last7Days => exact addCount_eq_ok addedWeek
  | last30Days => exact addCount_eq_ok addedMonth

variable {rows : List SalesSnapshot}

theorem addRows_eq_ok (added : rows.foldlM addRow result = .ok result') (window : Window) :
    totalIn result' window = totalIn result window + soldBy window rows := by
  induction rows generalizing result with
  | nil =>
    rw [← Except.ok.inj added]
    rfl
  | cons row rows ih =>
    rw [List.foldlM_cons] at added
    obtain ⟨middle, first, rest⟩ := bind_eq_ok added
    rw [ih rest, addRow_eq_ok first, Nat.add_assoc]
    rfl

/-- **What is added up is the sum of the counts.** -/
theorem sold_sumSnapshotUnits {units : UnitsSold} (added : sumSnapshotUnits rows = .ok units)
    (some_row : rows ≠ []) (window : Window) : unitsIn units window = some (soldBy window rows) := by
  unfold sumSnapshotUnits at added
  rw [if_neg some_row] at added
  obtain ⟨totals, loop, same⟩ := bind_eq_ok added
  have total := addRows_eq_ok loop window
  rw [← Except.ok.inj same]
  have zero : totalIn {} window = 0 := by cases window <;> rfl
  rw [zero, Nat.zero_add] at total
  rw [← total]
  cases window <;> rfl

theorem unitsIn_units (row : SalesSnapshot) (window : Window) : unitsIn row.units window = some (row.sold window) := by
  cases window <;> rfl

theorem sortByUnits_perm {ρ : Type} (L : LocaleOrder) (units : ρ → UnitsSold) (name : ρ → String) (rows : List ρ) :
    (sortByUnits L units name rows).Perm rows := List.perm_insertionSort _ rows

/-! ## The groups of the products -/

theorem mem_addText {texts : List String} {text other : String} :
    other ∈ addText texts text ↔ other ∈ texts ∨ other = text := by
  unfold addText
  split
  · next there =>
    constructor
    · exact .inl
    · rintro (mem | rfl)
      · exact mem
      · exact there
  · simp

theorem nodup_addText {texts : List String} {text : String} (nodup : texts.Nodup) : (addText texts text).Nodup := by
  unfold addText
  split
  · exact nodup
  · next fresh =>
    rw [List.nodup_append]
    refine ⟨nodup, List.nodup_singleton text, ?_⟩
    rintro other mem _ single rfl
    exact fresh (List.mem_singleton.mp single ▸ mem)

/-- What a group holds of the rows it is built of. -/
structure ProductGroup.Of (group : ProductGroup) (rows : List SalesSnapshot) : Prop where
  held : group.rows = rows
  nodup : group.storeCodes.Nodup
  stores : ∀ storeCode, storeCode ∈ group.storeCodes ↔ ∃ row ∈ rows, row.storeCode = storeCode

variable {group : ProductGroup}

/-- **A group holds its rows and their stores**, by induction on the rows from the last one on. -/
theorem groupOf_openGroup (built : groupOf openGroup ProductGroup.push rows = some group) : group.Of rows := by
  induction rows using List.reverseRecOn generalizing group with
  | nil => exact nomatch built
  | append_singleton rows row ih =>
    rw [groupOf_concat] at built
    obtain rfl := Option.some.inj built
    have before : ((groupOf openGroup ProductGroup.push rows).getD (openGroup row)).Of rows := by
      cases found : groupOf openGroup ProductGroup.push rows with
      | none =>
        rw [groupOf_eq_none_iff.mp found]
        exact ⟨rfl, List.nodup_nil, fun storeCode => by simp [openGroup]⟩
      | some group => exact ih found
    refine ⟨congrArg (· ++ [row]) before.held, nodup_addText before.nodup, fun storeCode => ?_⟩
    rw [ProductGroup.push, mem_addText, before.stores]
    constructor
    · rintro (⟨other, mem, same⟩ | rfl)
      · exact ⟨other, List.mem_append_left _ mem, same⟩
      · exact ⟨row, by simp, rfl⟩
    · rintro ⟨other, mem, same⟩
      rcases mem_concat.mp mem with there | last
      · exact .inl ⟨other, there, same⟩
      · rw [last] at same
        exact .inr same.symm

theorem exists_rows_of_mem_productGroups {snapshots : List SalesSnapshot}
    (mem : group ∈ (productGroups snapshots).values) : ∃ rows, rows ≠ [] ∧ group.Of rows := by
  obtain ⟨key, found⟩ := OrderedMap.mem_values_iff.mp mem
  unfold productGroups at found
  rw [get?_foldRows] at found
  refine ⟨rowsOf productGroupKey snapshots key, ?_, groupOf_openGroup found⟩
  intro none
  rw [none] at found
  exact nomatch found

theorem sum_productGroups (snapshots : List SalesSnapshot) (window : Window) :
    ((productGroups snapshots).values.map fun group => soldBy window group.rows).sum = soldBy window snapshots := by
  apply sum_values_foldRows
  intro rows group built
  exact congrArg (soldBy window) (groupOf_openGroup built).held

theorem sumIn_storeBreakdown (of : group.Of rows) {breakdown : List StoreUnits}
    (built : (jsSort group.storeCodes).mapM (storeUnitsOf group) = .ok breakdown) (window : Window) : sumIn window (breakdown.map (·.unitsSold)) = some (soldBy window group.rows) := by
  have nodup : (jsSort group.storeCodes).Nodup := (perm_jsSort group.storeCodes).nodup_iff.mpr of.nodup
  have covered : ∀ row ∈ group.rows, row.storeCode ∈ jsSort group.storeCodes := by
    intro row mem
    rw [(perm_jsSort group.storeCodes).mem_iff, of.stores]
    exact ⟨row, of.held ▸ mem, rfl⟩
  have total := sum_map_rowsOf nodup covered fun row => row.sold window
  rw [soldBy, ← total]
  refine sumIn_map_of_forall₂ (forall₂_of_mapM built) fun storeCode mem entry made => ?_
  obtain ⟨unitsSold, added, same⟩ := bind_eq_ok made
  rw [← Except.ok.inj same]
  obtain ⟨row, there, store⟩ := (of.stores storeCode).mp ((perm_jsSort group.storeCodes).mem_iff.mp mem)
  refine sold_sumSnapshotUnits added (List.ne_nil_of_mem (a := row) ?_) window
  rw [of.held]
  exact List.mem_filter.mpr ⟨there, decide_eq_true store⟩

theorem productRankOf_eq_ok (of : group.Of rows) (some_row : rows ≠ []) {product : ProductRank}
    (made : productRankOf group = .ok product) (window : Window) :
    unitsIn product.unitsSold window = some (soldBy window group.rows) ∧
      sumIn window (product.storeBreakdown.map (·.unitsSold)) = some (soldBy window group.rows) := by
  unfold productRankOf at made
  obtain ⟨breakdown, built, made⟩ := bind_eq_ok made
  obtain ⟨unitsSold, added, same⟩ := bind_eq_ok made
  rw [← Except.ok.inj same]
  exact ⟨sold_sumSnapshotUnits added (of.held ▸ some_row) window, sumIn_storeBreakdown of built window⟩

/-! ## The snapshots that count -/

section Builder

variable {L : LocaleOrder} {parseDate : String → Option Int} {input : ProjectionInput}
  {storeCatalog : List CatalogStore} {dashboard : MaterializedDashboard}

variable {snapshot : SalesSnapshot}

theorem mem_currentSnapshots : snapshot ∈ currentSnapshots input ↔
    snapshot ∈ input.snapshots ∧ snapshot.storeCode ∈ input.storePermissions.map (·.storeCode) ∧
      ∀ row ∈ input.storeHealth, row.storeCode = snapshot.storeCode →
        row.legalZero = false ∧ row.blocked = false ∧ row.mixed = false := by
  unfold currentSnapshots
  rw [List.mem_filter, decide_eq_true_iff]
  refine and_congr_right fun _ => and_congr_right fun _ => ?_
  simp only [List.mem_map, List.mem_filter, not_exists, not_and, Bool.or_eq_true]
  constructor
  · intro kept row mem same
    have clear := fun bad => kept row ⟨mem, bad⟩ same
    simpa [or_assoc] using clear
  · rintro kept row ⟨mem, bad⟩ same
    obtain ⟨zero, blocked, mixed⟩ := kept row mem same
    simp [zero, blocked, mixed] at bad

theorem selectedSnapshots_sublist (L : LocaleOrder) (input : ProjectionInput) :
    (selectedSnapshots L input).Sublist (currentSnapshots input) := by
  unfold selectedSnapshots
  split
  · exact List.nil_sublist _
  · exact List.filter_sublist

theorem date_of_mem_selectedSnapshots (mem : snapshot ∈ selectedSnapshots L input) :
    selectUnifiedBusinessDate L (currentSnapshots input) = some snapshot.statisticsDate := by
  unfold selectedSnapshots at mem
  split at mem
  · cases mem
  · next date voted =>
    rw [voted, of_decide_eq_true (List.mem_filter.mp mem).2]

/-- A snapshot that counts is of a listed store that no health row excludes. -/
theorem current_of_mem_selectedSnapshots (mem : snapshot ∈ selectedSnapshots L input) :
    snapshot ∈ input.snapshots ∧ snapshot.storeCode ∈ input.storePermissions.map (·.storeCode) ∧
      ∀ row ∈ input.storeHealth, row.storeCode = snapshot.storeCode →
        row.legalZero = false ∧ row.blocked = false ∧ row.mixed = false :=
  mem_currentSnapshots.mp ((selectedSnapshots_sublist L input).subset mem)

/-! ## The ranking of stores -/

variable {businessDate : Option String}

theorem storeRankOf_eq_ok {owners : OrderedMap String Owner} {health : List StoreHealth}
    {selected : List SalesSnapshot} {permission : StorePermission} {rank : StoreRank}
    (made : storeRankOf businessDate owners (.ofEntries (health.map fun row => (row.storeCode, row)))
      (groupRows (·.storeCode) selected) permission = .ok rank) : rank.code = permission.storeCode ∧
      (rowsOf (·.storeCode) selected permission.storeCode ≠ [] →
        (∀ row ∈ health, row.storeCode = permission.storeCode → row.legalZero = false) →
        ∀ window, unitsIn rank.unitsSold window =
          some (soldBy window (rowsOf (·.storeCode) selected permission.storeCode))) := by
  unfold storeRankOf at made
  obtain ⟨unitsSold, added, same⟩ := bind_eq_ok made
  rw [← Except.ok.inj same]
  refine ⟨rfl, fun some_row clear window => ?_⟩
  have observed : ((OrderedMap.ofEntries (health.map fun row => (row.storeCode, row))).get?
      permission.storeCode).any (·.legalZero) = false := by
    rw [OrderedMap.get?_ofEntries]
    cases found : ((health.map fun row => (row.storeCode, row)).filter
        fun entry => decide (entry.1 = permission.storeCode)).getLast? with
    | none => rfl
    | some entry =>
      obtain ⟨there, ofStore⟩ := List.mem_filter.mp (List.mem_of_getLast? found)
      obtain ⟨row, mem, rfl⟩ := List.mem_map.mp there
      exact clear row mem (of_decide_eq_true ofStore)
  unfold storeUnitsSold at added
  rw [observed, if_neg Bool.false_ne_true, getD_groupRows] at added
  exact sold_sumSnapshotUnits added some_row window

theorem sumIn_storeRanking (nodup : (input.storePermissions.map (·.storeCode)).Nodup) {ranks : List StoreRank}
    (made : storeRanks L input = .ok ranks) (window : Window) :
    sumIn window ((ranks.filter fun rank => rank.code ∈ (selectedSnapshots L input).map (·.storeCode)).map
      (·.unitsSold)) = some (soldBy window (selectedSnapshots L input)) := by
  have codes : ranks.map (·.code) = input.storePermissions.map (·.storeCode) := by
    have pairs := (forall₂_of_mapM made).imp fun _ _ one => (storeRankOf_eq_ok one).1
    have equal : List.Forall₂ Eq (ranks.map (·.code)) (input.storePermissions.map (·.storeCode)) := by
      rw [List.forall₂_map_left_iff, List.forall₂_map_right_iff]
      exact pairs.flip
    exact List.forall₂_eq_eq_eq ▸ equal
  let listed := ranks.filter fun rank => rank.code ∈ (selectedSnapshots L input).map (·.storeCode)
  have each : ∀ rank ∈ listed, unitsIn rank.unitsSold window =
      some (soldBy window (rowsOf (·.storeCode) (selectedSnapshots L input) rank.code)) := by
    intro rank mem
    obtain ⟨there, selected⟩ := List.mem_filter.mp mem
    obtain ⟨permission, -, one⟩ := exists_of_mem_mapM made there
    obtain ⟨row, inside, store⟩ := List.mem_map.mp (of_decide_eq_true selected)
    obtain ⟨code, units⟩ := storeRankOf_eq_ok one
    rw [code] at store ⊢
    refine units (List.ne_nil_of_mem (List.mem_filter.mpr ⟨inside, decide_eq_true store⟩)) ?_ window
    intro health mem same
    exact ((current_of_mem_selectedSnapshots inside).2.2 health mem (same.trans store.symm)).1
  have covered : ∀ row ∈ selectedSnapshots L input, row.storeCode ∈ listed.map (·.code) := by
    intro row mem
    have active := (current_of_mem_selectedSnapshots mem).2.1
    rw [← codes] at active
    obtain ⟨rank, there, same⟩ := List.mem_map.mp active
    refine List.mem_map.mpr ⟨rank, List.mem_filter.mpr ⟨there, decide_eq_true ?_⟩, same⟩
    rw [same]
    exact List.mem_map_of_mem mem
  have keys : (listed.map (·.code)).Nodup := (codes ▸ nodup).sublist (List.filter_sublist.map _)
  rw [sumIn_map each, soldBy, ← sum_map_rowsOf keys covered fun row => row.sold window, List.map_map]
  rfl

/-! ## The coverage -/

theorem mem_distinct {texts : List String} {text : String} : text ∈ distinct texts ↔ text ∈ texts := by
  have kept : text ∈ (unseen id [] texts).map id ↔ text ∈ texts.map id ∧ text ∉ ([] : List String) := mem_map_unseen
  simpa [distinct] using kept

theorem nodup_distinct (texts : List String) : (distinct texts).Nodup := by
  have once : ((unseen id [] texts).map id).Nodup := nodup_map_unseen [] texts
  simpa [distinct] using once

theorem counts_of_complete {total : Nat} {counts : CoverageCounts}
    (complete : (coverageStatus businessDate total counts).1 = .complete) :
    counts.acceptedStores = total ∧ counts.legalZeroStores = 0 ∧ counts.blockedStores = 0 ∧
      counts.partialStores = 0 := by
  unfold coverageStatus at complete
  dsimp only at complete
  split at complete
  · exact nomatch complete
  next clear =>
  split at complete
  · exact nomatch complete
  split at complete
  · split at complete <;> exact nomatch complete
  split at complete
  · next all => exact ⟨all.1, all.2.2.1, by omega, all.2.2.2⟩
  split at complete <;> exact nomatch complete

/-- **A complete coverage has every store**: as many stores as are listed have selected snapshots, and each of these
is listed. -/
theorem covered_of_complete (complete : (salesCoverage businessDate (selectedSnapshots L input) input.storeHealth
      input.storePermissions.length).status = .complete) :
    (∀ permission ∈ input.storePermissions, ∃ snapshot ∈ selectedSnapshots L input,
      snapshot.storeCode = permission.storeCode) ∧
      ∀ row ∈ input.storeHealth, row.partiallyDated = false ∧ row.mixed = false ∧ row.blocked = false ∧
        row.legalZero = false := by
  have decided : (coverageStatus businessDate input.storePermissions.length
      (coverageCounts (selectedSnapshots L input) input.storeHealth)).1 = .complete := complete
  obtain ⟨accepted, zero, blocked, partially⟩ := counts_of_complete decided
  have noZero : input.storeHealth.filter (·.legalZero) = [] := List.length_eq_zero_iff.mp zero
  have noBlocked : input.storeHealth.filter (·.blocked) = [] := List.length_eq_zero_iff.mp blocked
  have noPartial := List.length_eq_zero_iff.mp partially
  have unlisted (storeCode : String) : storeCode ∉ (input.storeHealth.filter (·.partiallyDated)).map (·.storeCode) ++
      (input.storeHealth.filter (·.mixed)).map (·.storeCode) := by
    rw [← mem_distinct, noPartial]
    exact List.not_mem_nil
  constructor
  · let codes := distinct ((selectedSnapshots L input).map (·.storeCode))
    have size : codes.length = (input.storePermissions.map (·.storeCode)).length := by
      have counted : (distinct ((selectedSnapshots L input).map (·.storeCode) ++
          (input.storeHealth.filter (·.legalZero)).map (·.storeCode))).length = input.storePermissions.length := accepted
      rw [noZero, List.map_nil, List.append_nil] at counted
      rw [List.length_map]
      exact counted
    have listed : codes ⊆ input.storePermissions.map (·.storeCode) := by
      intro code mem
      obtain ⟨snapshot, inside, rfl⟩ := List.mem_map.mp (mem_distinct.mp mem)
      exact (current_of_mem_selectedSnapshots inside).2.1
    have same := (List.subperm_of_subset (nodup_distinct _) listed).perm_of_length_le size.ge
    intro permission mem
    have there : permission.storeCode ∈ codes := same.mem_iff.mpr (List.mem_map_of_mem mem)
    exact List.mem_map.mp (mem_distinct.mp there)
  · intro row mem
    have none {p : StoreHealth → Bool} (unfound : row ∉ input.storeHealth.filter p) : p row = false := by
      rw [List.mem_filter, not_and, Bool.not_eq_true] at unfound
      exact unfound mem
    have apart := unlisted row.storeCode
    rw [List.mem_append, not_or] at apart
    refine ⟨none fun there => apart.1 (List.mem_map_of_mem there), none fun there => apart.2 (List.mem_map_of_mem there),
      none ?_, none ?_⟩
    · rw [noBlocked]
      exact List.not_mem_nil
    · rw [noZero]
      exact List.not_mem_nil

/-! ## The dashboard -/

/-- Each view of the dashboard adds up to what the selected snapshots sold in a window. -/
structure TotalsAgree (selected : List SalesSnapshot) (dashboard : MaterializedDashboard) (window : Window) : Prop where
  headline : selected ≠ [] → unitsIn dashboard.unitsSold window = some (soldBy window selected)
  storeSkuRanking : sumIn window (dashboard.storeSkuRanking.map (·.unitsSold)) = some (soldBy window selected)
  productRanking : sumIn window (dashboard.productRanking.map (·.unitsSold)) = some (soldBy window selected)
  storeBreakdown : sumIn window (dashboard.productRanking.flatMap fun product =>
    product.storeBreakdown.map (·.unitsSold)) = some (soldBy window selected)
  storeRanking : sumIn window ((dashboard.storeRanking.filter fun store =>
    store.code ∈ selected.map (·.storeCode)).map (·.unitsSold)) = some (soldBy window selected)

theorem selectedSnapshots_of_noStore (none : input.storePermissions = []) : selectedSnapshots L input = [] := by
  rw [List.eq_nil_iff_forall_not_mem]
  intro snapshot mem
  have active := (current_of_mem_selectedSnapshots mem).2.1
  rw [none] at active
  cases active

theorem sumIn_productRanking {snapshots : List SalesSnapshot} {products : List ProductRank}
    (made : buildProductRanking L snapshots = .ok products) (window : Window) :
    sumIn window (products.map (·.unitsSold)) = some (soldBy window snapshots) ∧
      sumIn window (products.flatMap fun product => product.storeBreakdown.map (·.unitsSold)) =
        some (soldBy window snapshots) := by
  unfold buildProductRanking at made
  obtain ⟨unsorted, mapped, same⟩ := bind_eq_ok made
  rw [← Except.ok.inj same, ← sum_productGroups]
  have perm := sortByUnits_perm L (·.unitsSold) (·.name) unsorted
  rw [sumIn_perm (perm.map _), sumIn_perm (perm.flatMap_right _)]
  have each : ∀ group ∈ (productGroups snapshots).values, ∀ product, productRankOf group = .ok product →
      unitsIn product.unitsSold window = some (soldBy window group.rows) ∧
        sumIn window (product.storeBreakdown.map (·.unitsSold)) = some (soldBy window group.rows) := by
    intro group mem product one
    obtain ⟨rows, some_row, of⟩ := exists_rows_of_mem_productGroups mem
    exact productRankOf_eq_ok of some_row one window
  constructor
  · exact sumIn_map_of_forall₂ (forall₂_of_mapM mapped) fun group mem product one => (each group mem product one).1
  · exact sumIn_flatMap_of_forall₂ (forall₂_of_mapM mapped) fun group mem product one => (each group mem product one).2

theorem sumIn_storeSkuRanking (L : LocaleOrder) (snapshots : List SalesSnapshot)
    (skuNames : OrderedMap String String) (window : Window) :
    sumIn window ((buildStoreSkuRanking L snapshots skuNames).map (·.unitsSold)) = some (soldBy window snapshots) := by
  unfold buildStoreSkuRanking
  rw [sumIn_perm ((sortByUnits_perm L _ _ _).map _), List.map_map]
  exact sumIn_map fun snapshot _ => unitsIn_units snapshot window

theorem totalsAgree (nodup : (input.storePermissions.map (·.storeCode)).Nodup)
    (built : buildDashboardFromProjectionInput L parseDate input storeCatalog = .ok dashboard) (window : Window) :
    TotalsAgree (selectedSnapshots L input) dashboard window := by
  unfold buildDashboardFromProjectionInput at built
  split at built
  · next none =>
    rw [← Except.ok.inj built, selectedSnapshots_of_noStore none]
    have unlisted : (emptyDashboard input.owners storeCatalog).storeRanking.filter
        (fun store => store.code ∈ ([] : List SalesSnapshot).map (·.storeCode)) = [] := by simp
    refine ⟨fun some_row => absurd rfl some_row, rfl, rfl, rfl, ?_⟩
    rw [unlisted]
    rfl
  · obtain ⟨projected, -, built⟩ := bind_eq_ok built
    obtain ⟨ranking, ranked, built⟩ := bind_eq_ok built
    obtain ⟨unitsSold, headline, built⟩ := bind_eq_ok built
    obtain ⟨salesTrend, -, built⟩ := bind_eq_ok built
    obtain ⟨productRanking, products, built⟩ := bind_eq_ok built
    rw [← Except.ok.inj built]
    constructor
    · intro some_row
      unfold headlineUnits at headline
      rw [if_pos some_row] at headline
      exact sold_sumSnapshotUnits headline some_row window
    · exact sumIn_storeSkuRanking L _ _ window
    · exact (sumIn_productRanking products window).1
    · exact (sumIn_productRanking products window).2
    · have perm := (sortByUnits_perm L (·.unitsSold) (·.code) ranking).filter fun store =>
        store.code ∈ (selectedSnapshots L input).map (·.storeCode)
      exact (sumIn_perm (perm.map _)).trans (sumIn_storeRanking nodup ranked window)

/-- The dashboard shows the date and the coverage of the selected snapshots, where there is a store. -/
theorem coverage_of_built (built : buildDashboardFromProjectionInput L parseDate input storeCatalog = .ok dashboard)
    (stores : input.storePermissions ≠ []) :
    dashboard.businessDate = selectUnifiedBusinessDate L (currentSnapshots input) ∧
      dashboard.salesCoverage = salesCoverage dashboard.businessDate (selectedSnapshots L input) input.storeHealth
        input.storePermissions.length := by
  unfold buildDashboardFromProjectionInput at built
  rw [if_neg stores] at built
  obtain ⟨projected, -, built⟩ := bind_eq_ok built
  obtain ⟨ranking, -, built⟩ := bind_eq_ok built
  obtain ⟨unitsSold, -, built⟩ := bind_eq_ok built
  obtain ⟨salesTrend, -, built⟩ := bind_eq_ok built
  obtain ⟨productRanking, -, built⟩ := bind_eq_ok built
  rw [← Except.ok.inj built]
  exact ⟨rfl, rfl⟩

end Builder

/-- **The totals of the dashboard agree across its views**: the snapshots that count are those of one business date,
of listed stores that no health row excludes. In each window the headline, the ranking of SKUs, that of products, the
stores of all products and the stores with selected snapshots add up to them. A complete coverage has each listed
store, and no health row of one that is partial, mixed, blocked or legally zero. -/
theorem buildDashboardFromProjectionInput_law (L : LocaleOrder) (parseDate : String → Option Int)
    (input : ProjectionInput) (storeCatalog : List CatalogStore) (dashboard : MaterializedDashboard)
    (nodup : (input.storePermissions.map (·.storeCode)).Nodup)
    (built : buildDashboardFromProjectionInput L parseDate input storeCatalog = .ok dashboard) :
    (selectedSnapshots L input).Sublist input.snapshots ∧
      (∀ snapshot ∈ selectedSnapshots L input, dashboard.businessDate = some snapshot.statisticsDate ∧
        snapshot.storeCode ∈ input.storePermissions.map (·.storeCode)) ∧
      (∀ window, TotalsAgree (selectedSnapshots L input) dashboard window) ∧
      (dashboard.salesCoverage.status = .complete →
        (∀ permission ∈ input.storePermissions, ∃ snapshot ∈ selectedSnapshots L input,
          snapshot.storeCode = permission.storeCode) ∧
        ∀ row ∈ input.storeHealth, row.partiallyDated = false ∧ row.mixed = false ∧ row.blocked = false ∧
          row.legalZero = false) := by
  have stores {snapshot : SalesSnapshot} (mem : snapshot ∈ selectedSnapshots L input) :
      input.storePermissions ≠ [] := by
    intro none
    rw [selectedSnapshots_of_noStore none] at mem
    cases mem
  refine ⟨(selectedSnapshots_sublist L input).trans List.filter_sublist, ?_, totalsAgree nodup built, ?_⟩
  · intro snapshot mem
    rw [(coverage_of_built built (stores mem)).1]
    exact ⟨date_of_mem_selectedSnapshots mem, (current_of_mem_selectedSnapshots mem).2.1⟩
  · intro complete
    by_cases none : input.storePermissions = []
    · unfold buildDashboardFromProjectionInput at built
      rw [if_pos none] at built
      rw [← Except.ok.inj built] at complete
      exact nomatch complete
    · rw [(coverage_of_built built none).2] at complete
      exact covered_of_complete complete

/-! ## A product in two stores -/

def codePointLocale : LocaleOrder := ⟨compare, String.instTransOrd⟩

def sharedProduct : CanonicalAssignment where
  canonicalProductId := "7"
  standardProductCode := some "STD-7"
  standardProductName := some "杯"

def snapshotAt (storeCode skuCode statisticsDate : String) (units : Nat) (product : Option CanonicalAssignment) :
    SalesSnapshot where
  storeCode := storeCode
  skuCode := skuCode
  statisticsDate := statisticsDate
  skc := none
  supplierCode := none
  supplierSku := none
  productKey := none
  name := none
  salesToday := units
  salesYesterday := units
  sales7Days := 2 * units
  sales30Days := 3 * units
  fetchedAt := "2026-07-20T03:00:00.000Z"
  canonicalAssignment := product

/-- Two stores with a product in common; one snapshot is of the day before. -/
def sharedProductInput : ProjectionInput where
  storePermissions := [⟨"DL1", "一店", "granted"⟩, ⟨"DL2", "二店", "granted"⟩]
  snapshots := [snapshotAt "DL1" "A" "2026-07-20" 1 (some sharedProduct),
    snapshotAt "DL2" "A" "2026-07-20" 4 (some sharedProduct), snapshotAt "DL2" "B" "2026-07-20" 2 none,
    snapshotAt "DL2" "C" "2026-07-19" 9 none]
  skuNames := .empty
  salesTrend := []
  storeHealth := []
  owners := []

def readSnapshotTime (text : String) : Option Int :=
  if text = "2026-07-20T03:00:00.000Z" then some 1784516400000 else none

/-- The law at the two stores: their coverage is complete, and each view adds up to seven units. -/
theorem sharedProduct_agrees : ∃ dashboard, buildDashboardFromProjectionInput codePointLocale readSnapshotTime
    sharedProductInput [] = .ok dashboard ∧ dashboard.salesCoverage.status = .complete ∧
      soldBy .today (selectedSnapshots codePointLocale sharedProductInput) = 7 ∧
      TotalsAgree (selectedSnapshots codePointLocale sharedProductInput) dashboard .today := by
  have complete : (buildDashboardFromProjectionInput codePointLocale readSnapshotTime sharedProductInput []).map
      (·.salesCoverage.status) = .ok .complete := by decide
  cases built : buildDashboardFromProjectionInput codePointLocale readSnapshotTime sharedProductInput [] with
  | error e =>
    rw [built] at complete
    exact nomatch complete
  | ok dashboard =>
    rw [built] at complete
    refine ⟨dashboard, rfl, Except.ok.inj complete, by decide, ?_⟩
    have law := buildDashboardFromProjectionInput_law codePointLocale readSnapshotTime sharedProductInput [] dashboard
      (by decide) built
    exact law.2.2.1 .today

end FullManagedBi.Materializer
