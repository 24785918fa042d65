import FullManagedBi.WebapiHistory.LedgerDaily
import FullManagedBi.Laws.StoreDaily

/-!
# Whether the quality status agrees with the row

The loader classifies the row it reads, and the database merges columns and statuses by rules of their own:
the daily row takes the better of two statuses, the ledger row the last one. The status agrees with the
columns as long as the merge of two rows is what the statuses say:

- `updateRow_matches_iff`, `insert_matches_iff` — what a daily row needs;
- `updateLedgerRow_matches_iff` — what a ledger row needs: a partial row must leave something unknown;
- **`qualityStatus_matches_iff`** — so the statuses agree in every state exactly if each written row meets that.
-/

namespace FullManagedBi.WebapiHistory

open Lib

/-! ## Statuses -/

theorem all_isSome_iff {core : List (Option Rat)} : core.all (·.isSome) = true ↔ none ∉ core := by
  rw [List.all_eq_true]
  constructor
  · intro all mem
    exact nomatch all none mem
  · intro out value mem
    exact Option.isSome_iff_ne_none.mpr fun isNone => out (isNone ▸ mem)

theorem qualityFor_eq_complete {core : List (Option Rat)} :
    qualityFor core = .complete ↔ none ∉ core ∧ ∃ value ∈ core, value ≠ some 0 := by
  have nonzero : core.any (· ≠ some 0) = true ↔ ∃ value ∈ core, value ≠ some 0 := by
    simp only [List.any_eq_true, decide_eq_true_eq]
  unfold qualityFor
  split_ifs with all any
  · exact iff_of_true rfl ⟨all_isSome_iff.mp all, nonzero.mp any⟩
  · exact iff_of_false nofun fun both => any (nonzero.mpr both.2)
  · exact iff_of_false nofun fun both => all (all_isSome_iff.mpr both.1)

theorem qualityFor_eq_partialRow {core : List (Option Rat)} : qualityFor core = .partialRow ↔ none ∈ core := by
  unfold qualityFor
  split_ifs with all
  · exact iff_of_false nofun (all_isSome_iff.mp all)
  · exact iff_of_false nofun (all_isSome_iff.mp all)
  · exact iff_of_true rfl (not_not.mp (mt all_isSome_iff.mpr all))

theorem qualityFor_eq_legalZero {core : List (Option Rat)} :
    qualityFor core = .legalZero ↔ ∀ value ∈ core, value = some 0 := by
  cases status : qualityFor core with
  | complete =>
    obtain ⟨-, value, mem, nonzero⟩ := qualityFor_eq_complete.mp status
    exact iff_of_false nofun fun zero => nonzero (zero value mem)
  | partialRow =>
    exact iff_of_false nofun fun zero => nomatch zero none (qualityFor_eq_partialRow.mp status)
  | legalZero =>
    refine iff_of_true rfl fun value mem => ?_
    by_contra nonzero
    by_cases all : none ∈ core
    · exact nomatch status.symm.trans (qualityFor_eq_partialRow.mpr all)
    · exact nomatch status.symm.trans (qualityFor_eq_complete.mpr ⟨all, value, mem, nonzero⟩)

/-! ## Columns of one update -/

/-- A core column in one update: what is stored, and what the update takes from the incoming row. -/
structure CoreColumn where
  stored : Option Rat
  taken : Option Rat

namespace CoreColumn

def after (column : CoreColumn) : Option Rat := coalesce column.taken column.stored

def Unknown (column : CoreColumn) : Prop := column.taken = none ∧ column.stored = none

/-- The incoming row brings a value that is not zero. -/
def Brings (column : CoreColumn) : Prop := ∃ value, column.taken = some value ∧ value ≠ 0

/-- The stored row keeps a value that is not zero. -/
def Keeps (column : CoreColumn) : Prop :=
  column.taken = none ∧ ∃ value, column.stored = some value ∧ value ≠ 0

theorem after_eq_none {column : CoreColumn} : column.after = none ↔ column.Unknown := by
  obtain ⟨stored, taken⟩ := column
  cases taken with
  | none => exact ⟨fun unknown => ⟨rfl, unknown⟩, fun unknown => unknown.2⟩
  | some value => exact iff_of_false nofun fun unknown => nomatch unknown.1

theorem after_ne_zero {column : CoreColumn} (known : column.after ≠ none) :
    column.after ≠ some 0 ↔ column.Brings ∨ column.Keeps := by
  obtain ⟨stored, taken⟩ := column
  cases taken with
  | none =>
    cases stored with
    | none => exact absurd rfl known
    | some value =>
      constructor
      · intro nonzero
        exact .inr ⟨rfl, value, rfl, fun zero => nonzero (congrArg some zero)⟩
      · rintro (⟨_, isTaken, -⟩ | ⟨-, _, isStored, nonzero⟩)
        · exact nomatch isTaken
        · obtain rfl := Option.some.inj isStored
          exact fun zero => nonzero (Option.some.inj zero)
  | some value =>
    constructor
    · intro nonzero
      exact .inl ⟨value, rfl, fun zero => nonzero (congrArg some zero)⟩
    · rintro (⟨_, isTaken, nonzero⟩ | ⟨isNone, -⟩)
      · obtain rfl := Option.some.inj isTaken
        exact fun zero => nonzero (Option.some.inj zero)
      · exact nomatch isNone

theorem after_ne_zero_of_zero {column : CoreColumn} (zero : column.stored = some 0) :
    column.after ≠ some 0 ↔ column.Brings := by
  have known : column.after ≠ none := coalesce_ne_none (by rw [zero]; exact Option.some_ne_none 0)
  rw [after_ne_zero known]
  refine or_iff_left ?_
  rintro ⟨-, value, isStored, nonzero⟩
  exact nonzero (Option.mem_unique isStored zero)

end CoreColumn

section Columns

variable {columns : List CoreColumn}

theorem after_partialRow :
    qualityFor (columns.map CoreColumn.after) = .partialRow ↔ ∃ column ∈ columns, column.Unknown := by
  rw [qualityFor_eq_partialRow, List.mem_map]
  simp only [CoreColumn.after_eq_none]

/-- A complete row stays complete exactly if a column brings or keeps a value. -/
theorem after_complete (known : ∀ column ∈ columns, column.after ≠ none) :
    qualityFor (columns.map CoreColumn.after) = .complete ↔
      ∃ column ∈ columns, column.Brings ∨ column.Keeps := by
  rw [qualityFor_eq_complete]
  constructor
  · rintro ⟨-, value, mem, nonzero⟩
    obtain ⟨column, inside, rfl⟩ := List.mem_map.mp mem
    exact ⟨column, inside, (CoreColumn.after_ne_zero (known column inside)).mp nonzero⟩
  · rintro ⟨column, inside, nonzero⟩
    refine ⟨fun mem => ?_, column.after, List.mem_map_of_mem inside,
      (CoreColumn.after_ne_zero (known column inside)).mpr nonzero⟩
    obtain ⟨other, there, isNone⟩ := List.mem_map.mp mem
    exact known other there isNone

theorem after_legalZero (zeros : ∀ column ∈ columns, column.stored = some 0) :
    qualityFor (columns.map CoreColumn.after) = .legalZero ↔ ∀ column ∈ columns, ¬column.Brings := by
  rw [qualityFor_eq_legalZero, List.forall_mem_map]
  refine forall₂_congr fun column mem => ?_
  rw [← CoreColumn.after_ne_zero_of_zero (zeros column mem), not_not]

theorem zeros_complete (zeros : ∀ column ∈ columns, column.stored = some 0) :
    qualityFor (columns.map CoreColumn.after) = .complete ↔ ∃ column ∈ columns, column.Brings := by
  have known (column : CoreColumn) (mem : column ∈ columns) : column.after ≠ none :=
    coalesce_ne_none (by rw [zeros column mem]; exact Option.some_ne_none 0)
  rw [after_complete known]
  refine exists_congr fun column => and_congr_right fun mem => ?_
  rw [← CoreColumn.after_ne_zero (known column mem), CoreColumn.after_ne_zero_of_zero (zeros column mem)]

end Columns

/-! ## A store-daily row -/

def asNumber (count : Option Nat) : Option Rat := count.map Nat.cast

/-- The core columns of a row, in the order `storeDailyValues` classifies them. -/
def StoreDailyRow.core (row : StoreDailyRow) : List (Option Rat) :=
  [row.dealAmount, row.netDealAmount, asNumber row.salesQuantity, asNumber row.buyerCount,
    asNumber row.goodsDetailVisitors, asNumber row.stockingOrderCount, asNumber row.urgentPurchaseOrderCount]

/-- The `sales_quantity` case keeps the stored quantity. -/
def SalesKept (stored incoming : StoreDailyRow) : Prop :=
  .webapiAnalyse ∈ incoming.sourceCodes ∧ .webapiIndex ∉ incoming.sourceCodes ∧
    (.webapiIndex ∈ stored.sourceCodes ∨
      .webapiRealtime ∈ stored.sourceCodes ∧ .webapiRealtime ∉ incoming.sourceCodes)

instance (stored incoming : StoreDailyRow) : Decidable (SalesKept stored incoming) := by
  unfold SalesKept
  infer_instance

theorem salesQuantityCase_eq (stored incoming : StoreDailyRow) : salesQuantityCase stored incoming =
    coalesce (if SalesKept stored incoming then none else incoming.salesQuantity) stored.salesQuantity := by
  unfold salesQuantityCase SalesKept
  by_cases index : SourceCode.webapiIndex ∈ incoming.sourceCodes <;>
    by_cases realtime : SourceCode.webapiRealtime ∈ incoming.sourceCodes <;>
    by_cases analyse : SourceCode.webapiAnalyse ∈ incoming.sourceCodes <;>
    by_cases settled : SourceCode.webapiIndex ∈ stored.sourceCodes <;>
    by_cases hourly : SourceCode.webapiRealtime ∈ stored.sourceCodes <;>
    simp [index, realtime, analyse, settled, hourly]

def coreColumns (stored incoming : StoreDailyRow) : List CoreColumn :=
  [⟨stored.dealAmount, incoming.dealAmount⟩, ⟨stored.netDealAmount, incoming.netDealAmount⟩,
    ⟨asNumber stored.salesQuantity,
      if SalesKept stored incoming then none else asNumber incoming.salesQuantity⟩,
    ⟨asNumber stored.buyerCount, asNumber incoming.buyerCount⟩,
    ⟨asNumber stored.goodsDetailVisitors, asNumber incoming.goodsDetailVisitors⟩,
    ⟨asNumber stored.stockingOrderCount, asNumber incoming.stockingOrderCount⟩,
    ⟨asNumber stored.urgentPurchaseOrderCount, asNumber incoming.urgentPurchaseOrderCount⟩]

theorem map_stored_coreColumns (stored incoming : StoreDailyRow) :
    (coreColumns stored incoming).map CoreColumn.stored = stored.core := rfl

theorem asNumber_coalesce (incoming stored : Option Nat) :
    asNumber (coalesce incoming stored) = coalesce (asNumber incoming) (asNumber stored) := by
  cases incoming <;> rfl

theorem core_updateRow (stored incoming : StoreDailyRow) :
    (updateRow stored incoming).core = (coreColumns stored incoming).map CoreColumn.after := by
  have sales : asNumber (updateRow stored incoming).salesQuantity =
      coalesce (if SalesKept stored incoming then none else asNumber incoming.salesQuantity)
        (asNumber stored.salesQuantity) := by
    refine (congrArg asNumber (salesQuantityCase_eq stored incoming)).trans ?_
    rw [asNumber_coalesce]
    split <;> rfl
  unfold StoreDailyRow.core
  rw [sales]
  simp only [updateRow, asNumber_coalesce, coreColumns, List.map_cons, List.map_nil, CoreColumn.after]

/-- The status of a row agrees with its columns. -/
def StoreDailyRow.Matches (row : StoreDailyRow) : Prop := row.qualityStatus = qualityFor row.core

/-- What the status of an incoming row says of the columns it brings: an amount may be rounded to zero. -/
structure StoreDailyRow.Graded (row : StoreDailyRow) : Prop where
  complete : row.qualityStatus = .complete → none ∉ row.core
  legalZero : row.qualityStatus = .legalZero → ∀ value ∈ row.core, value = some 0
  partialRow : row.qualityStatus = .partialRow → none ∈ row.core

/-- The update leaves a status that agrees with the columns. -/
def KeepsQuality (stored incoming : StoreDailyRow) : Prop :=
  match stored.qualityStatus, incoming.qualityStatus with
  -- not every value is corrected to zero
  | .complete, _ => ∃ column ∈ coreColumns stored incoming, column.Brings ∨ column.Keeps
  -- a complete row corrects the zeros, and a partial row does not
  | .legalZero, .complete => ∃ column ∈ coreColumns stored incoming, column.Brings
  | .legalZero, _ => ∀ column ∈ coreColumns stored incoming, ¬column.Brings
  -- two partial rows do not complete each other
  | .partialRow, .partialRow => ∃ column ∈ coreColumns stored incoming, column.Unknown
  -- a known row completes the stored one, unless that keeps its quantity
  | .partialRow, .complete => (SalesKept stored incoming → stored.salesQuantity ≠ none) ∧
      ∃ column ∈ coreColumns stored incoming, column.Brings ∨ column.Keeps
  | .partialRow, .legalZero => SalesKept stored incoming → stored.salesQuantity = some 0

theorem asNumber_eq_none {count : Option Nat} : asNumber count = none ↔ count = none :=
  Option.map_eq_none_iff

theorem asNumber_eq_zero {count : Option Nat} : asNumber count = some 0 ↔ count = some 0 := by
  cases count with
  | none => exact iff_of_false nofun nofun
  | some n => exact Option.some_inj.trans (Nat.cast_eq_zero.trans Option.some_inj.symm)

def salesColumn (stored incoming : StoreDailyRow) : CoreColumn :=
  ⟨asNumber stored.salesQuantity,
    if SalesKept stored incoming then none else asNumber incoming.salesQuantity⟩

/-- What a property of a known value asks of an update: that a kept quantity has it. -/
theorem forall_coreColumns {P : Option Rat → Prop} {stored incoming : StoreDailyRow}
    (brought : ∀ value ∈ incoming.core, value ≠ none ∧ P value) :
    (∀ column ∈ coreColumns stored incoming, P column.after) ↔
      (SalesKept stored incoming → P (asNumber stored.salesQuantity)) := by
  have taken {value : Option Rat} (mem : value ∈ incoming.core) (before : Option Rat) :
      P (coalesce value before) := by
    obtain ⟨known, holds⟩ := brought value mem
    cases value with
    | none => exact absurd rfl known
    | some q => exact holds
  have sales : asNumber incoming.salesQuantity ∈ incoming.core := by simp [StoreDailyRow.core]
  constructor
  · intro all kept
    have column := all (salesColumn stored incoming) (by simp [coreColumns, salesColumn])
    unfold salesColumn CoreColumn.after at column
    rwa [if_pos kept, coalesce_none] at column
  · intro keeps
    have salesAfter : P (salesColumn stored incoming).after := by
      unfold salesColumn CoreColumn.after
      split
      · exact keeps ‹_›
      · exact taken sales _
    unfold coreColumns
    simp only [List.forall_mem_cons]
    refine ⟨taken ?_ _, taken ?_ _, salesAfter, taken ?_ _, taken ?_ _, taken ?_ _, taken ?_ _, nofun⟩ <;>
      simp [StoreDailyRow.core]

theorem stored_coreColumns {stored incoming : StoreDailyRow} {column : CoreColumn}
    (mem : column ∈ coreColumns stored incoming) : column.stored ∈ stored.core := by
  rw [← map_stored_coreColumns stored incoming]
  exact List.mem_map_of_mem mem

/-- **An update keeps the status and the columns in agreement exactly under the condition.** -/
theorem updateRow_matches_iff {stored incoming : StoreDailyRow} (sound : stored.Matches)
    (graded : incoming.Graded) : (updateRow stored incoming).Matches ↔ KeepsQuality stored incoming := by
  unfold StoreDailyRow.Matches at sound ⊢
  rw [core_updateRow, eq_comm]
  unfold KeepsQuality
  change qualityFor _ = qualityStatusCase stored.qualityStatus incoming.qualityStatus ↔ _
  cases before : stored.qualityStatus with
  | complete =>
    have known := (qualityFor_eq_complete.mp (sound.symm.trans before)).1
    refine after_complete fun column mem unknown => known ?_
    rw [← (CoreColumn.after_eq_none.mp unknown).2]
    exact stored_coreColumns mem
  | legalZero =>
    have zeros := qualityFor_eq_legalZero.mp (sound.symm.trans before)
    have stored_zero (column : CoreColumn) (mem : column ∈ coreColumns stored incoming) :
        column.stored = some 0 := zeros _ (stored_coreColumns mem)
    cases incoming.qualityStatus with
    | complete => exact zeros_complete stored_zero
    | legalZero => exact after_legalZero stored_zero
    | partialRow => exact after_legalZero stored_zero
  | partialRow =>
    cases given : incoming.qualityStatus with
    | complete =>
      have known := graded.complete given
      have kept : (∀ column ∈ coreColumns stored incoming, column.after ≠ none) ↔
          (SalesKept stored incoming → stored.salesQuantity ≠ none) := by
        refine (forall_coreColumns (P := (· ≠ none)) fun value mem => ?_).trans
          (forall_congr' fun _ => not_congr asNumber_eq_none)
        have isKnown : value ≠ none := fun unknown => known (unknown ▸ mem)
        exact ⟨isKnown, isKnown⟩
      change qualityFor _ = .complete ↔ _
      rw [← kept]
      constructor
      · intro complete
        have after (column : CoreColumn) (mem : column ∈ coreColumns stored incoming) : column.after ≠ none :=
          fun unknown => (qualityFor_eq_complete.mp complete).1 (unknown ▸ List.mem_map_of_mem mem)
        exact ⟨after, (after_complete after).mp complete⟩
      · intro ⟨after, nonzero⟩
        exact (after_complete after).mpr nonzero
    | legalZero =>
      have zeros := graded.legalZero given
      change qualityFor _ = .legalZero ↔ _
      rw [qualityFor_eq_legalZero, List.forall_mem_map]
      refine (forall_coreColumns (P := (· = some 0)) fun value mem => ?_).trans
        (forall_congr' fun _ => asNumber_eq_zero)
      exact ⟨by rw [zeros value mem]; exact Option.some_ne_none 0, zeros value mem⟩
    | partialRow => exact after_partialRow

/-- The row an insert stores has a status that agrees, unless all its amounts are rounded to zero. -/
theorem insert_matches_iff {incoming : StoreDailyRow} (graded : incoming.Graded) :
    incoming.Matches ↔ (incoming.qualityStatus = .complete → ∃ value ∈ incoming.core, value ≠ some 0) := by
  unfold StoreDailyRow.Matches
  rw [eq_comm]
  cases given : incoming.qualityStatus with
  | complete =>
    rw [qualityFor_eq_complete]
    exact ⟨fun both _ => both.2, fun nonzero => ⟨graded.complete given, nonzero rfl⟩⟩
  | legalZero => exact iff_of_true (qualityFor_eq_legalZero.mpr (graded.legalZero given)) nofun
  | partialRow => exact iff_of_true (qualityFor_eq_partialRow.mpr (graded.partialRow given)) nofun

/-! ## What the loader writes -/

@[simp] theorem numericColumn_zero : numericColumn 0 = .ok 0 := by decide +kernel

theorem amountColumn_keeps {amount kept : Option Rat} (typed : amountColumn amount = .ok kept) :
    (kept = none → amount = none) ∧ (amount = none → kept = none) ∧ (amount = some 0 → kept = some 0) := by
  cases amount with
  | none =>
    obtain rfl := Except.ok.inj typed
    exact ⟨id, id, nofun⟩
  | some q =>
    change (numericColumn q).map some = .ok kept at typed
    cases value : numericColumn q with
    | error e =>
      rw [value] at typed
      exact nomatch typed
    | ok units =>
      rw [value] at typed
      obtain rfl := Except.ok.inj typed
      refine ⟨nofun, nofun, fun zero => ?_⟩
      obtain rfl := Option.some.inj zero
      rw [numericColumn_zero] at value
      rw [Except.ok.inj value]

theorem storeDailyValues_matches {js : TextBuiltins} {input : StoreDailyInput} {row : StoreDailyRow}
    (read : storeDailyValues js input = .ok row) : row.Matches := by
  unfold storeDailyValues at read
  have same (count : Option Nat) : (count.map fun k => (k : Rat) : Option Rat) = asNumber count := by
    cases count <;> rfl
  obtain ⟨_, -, read⟩ := bind_eq_ok read
  obtain ⟨_, -, read⟩ := bind_eq_ok read
  obtain ⟨_, -, read⟩ := bind_eq_ok read
  dsimp only at read
  -- with or without a currency, and with or without an instant, the rest is read alike
  split at read
  all_goals
    iterate 12 obtain ⟨_, -, read⟩ := bind_eq_ok read
    split at read
    all_goals
      obtain ⟨_, -, read⟩ := bind_eq_ok read
      obtain ⟨_, -, read⟩ := bind_eq_ok read
      obtain rfl := Except.ok.inj read
      unfold StoreDailyRow.Matches StoreDailyRow.core
      dsimp only
      simp only [same]

theorem storeDailyColumns_graded {row columns : StoreDailyRow} (sound : row.Matches)
    (typed : storeDailyColumns row = .ok columns) : columns.Graded := by
  unfold storeDailyColumns at typed
  obtain ⟨currency, -, typed⟩ := bind_eq_ok typed
  obtain ⟨dealAmount, deal, typed⟩ := bind_eq_ok typed
  obtain ⟨netDealAmount, net, typed⟩ := bind_eq_ok typed
  obtain rfl := Except.ok.inj typed
  obtain ⟨dealKnown, dealUnknown, dealZero⟩ := amountColumn_keeps deal
  obtain ⟨netKnown, netUnknown, netZero⟩ := amountColumn_keeps net
  unfold StoreDailyRow.Matches at sound
  constructor
  · intro complete
    have known := (qualityFor_eq_complete.mp (sound.symm.trans complete)).1
    unfold StoreDailyRow.core at known ⊢
    simp only [List.mem_cons, not_or] at known ⊢
    exact ⟨fun unknown => known.1 (dealKnown unknown.symm).symm,
      fun unknown => known.2.1 (netKnown unknown.symm).symm, known.2.2⟩
  · intro legalZero
    have zeros := qualityFor_eq_legalZero.mp (sound.symm.trans legalZero)
    unfold StoreDailyRow.core at zeros ⊢
    simp only [List.forall_mem_cons] at zeros ⊢
    exact ⟨dealZero zeros.1, netZero zeros.2.1, zeros.2.2⟩
  · intro partialRow
    have unknown := qualityFor_eq_partialRow.mp (sound.symm.trans partialRow)
    unfold StoreDailyRow.core at unknown ⊢
    simp only [List.mem_cons] at unknown ⊢
    exact unknown.imp (fun isNone => (dealUnknown isNone.symm).symm)
      (Or.imp_left fun isNone => (netUnknown isNone.symm).symm)

theorem storeDailyRows_graded {js : TextBuiltins} {inputs : List StoreDailyInput}
    {rows : List StoreDailyRow} (read : storeDailyRows js inputs = .ok rows) : ∀ row ∈ rows, row.Graded := by
  obtain ⟨values, parsed, typed⟩ := bind_eq_ok read
  intro row mem
  obtain ⟨value, there, column⟩ := exists_of_mem_mapM typed mem
  obtain ⟨input, -, reads⟩ := exists_of_mem_mapM parsed there
  exact storeDailyColumns_graded (storeDailyValues_matches reads) column

theorem mem_written {α β : Type} {rows : List α → Except String (List β)} {call : HistoryCall α} {row : β}
    (mem : row ∈ call.written rows) : ∃ written, rows call.rows = .ok written ∧ row ∈ written := by
  unfold HistoryCall.written at mem
  split at mem
  · split at mem
    · exact ⟨_, ‹_›, mem⟩
    · exact nomatch mem
  · exact nomatch mem

/-! ## A ledger row -/

/-- The status of a row agrees with its columns. -/
def LedgerDailyRow.Matches (row : LedgerDailyRow) : Prop :=
  row.qualityStatus = qualityFor (coreCounts row.counts)

/-- A partial row leaves a column that neither row knows. -/
def KeepsLedgerQuality (stored incoming : LedgerDailyRow) : Prop :=
  incoming.qualityStatus = .partialRow →
    ∃ field ∈ LedgerField.core, incoming.counts field = none ∧ stored.counts field = none

theorem mem_coreCounts {counts : LedgerField → Option Nat} {value : Option Rat} :
    value ∈ coreCounts counts ↔ ∃ field ∈ LedgerField.core, (counts field).map Nat.cast = value :=
  List.mem_map

theorem none_mem_coreCounts {counts : LedgerField → Option Nat} :
    none ∈ coreCounts counts ↔ ∃ field ∈ LedgerField.core, counts field = none := by
  rw [mem_coreCounts]
  simp only [Option.map_eq_none_iff]

theorem coreCounts_replaced {stored incoming : LedgerField → Option Nat} (known : none ∉ coreCounts incoming) :
    coreCounts (fun field => coalesce (incoming field) (stored field)) = coreCounts incoming := by
  refine List.map_congr_left fun field mem => ?_
  dsimp only
  cases given : incoming field with
  | none => exact absurd (none_mem_coreCounts.mpr ⟨field, mem, given⟩) known
  | some n => rfl

/-- **The update keeps the status and the columns in agreement exactly under the condition.** -/
theorem updateLedgerRow_matches_iff {stored incoming : LedgerDailyRow} (graded : incoming.Matches) :
    (updateLedgerRow stored incoming).Matches ↔ KeepsLedgerQuality stored incoming := by
  have complete (known : none ∉ coreCounts incoming.counts) : (updateLedgerRow stored incoming).Matches := by
    refine Eq.trans graded (congrArg qualityFor ?_)
    exact (coreCounts_replaced known).symm
  unfold KeepsLedgerQuality
  by_cases partialRow : incoming.qualityStatus = .partialRow
  · rw [forall_prop_of_true partialRow]
    unfold LedgerDailyRow.Matches
    change incoming.qualityStatus = _ ↔ _
    rw [partialRow, eq_comm, qualityFor_eq_partialRow, none_mem_coreCounts]
    refine exists_congr fun field => and_congr_right fun _ => ?_
    exact Option.or_eq_none_iff
  · refine iff_of_true (complete fun unknown => partialRow ?_) fun isPartial => absurd isPartial partialRow
    exact graded.trans (qualityFor_eq_partialRow.mpr unknown)

theorem ledgerRow_matches {js : TextBuiltins} {input : LedgerDailyInput} {row : LedgerDailyRow}
    (read : ledgerRow js input = .ok row) : row.Matches := by
  unfold ledgerRow at read
  iterate 6 obtain ⟨_, -, read⟩ := bind_eq_ok read
  obtain rfl := Except.ok.inj read
  rfl

theorem ledgerColumns_matches {row columns : LedgerDailyRow} (sound : row.Matches)
    (typed : ledgerColumns row = .ok columns) : columns.Matches := by
  unfold ledgerColumns at typed
  obtain ⟨currency, -, typed⟩ := bind_eq_ok typed
  obtain ⟨amounts, -, typed⟩ := bind_eq_ok typed
  obtain rfl := Except.ok.inj typed
  exact sound

theorem ledgerRows_matches {js : TextBuiltins} {inputs : List LedgerDailyInput}
    {rows : List LedgerDailyRow} (read : ledgerRows js inputs = .ok rows) : ∀ row ∈ rows, row.Matches := by
  unfold ledgerRows at read
  obtain ⟨values, parsed, read⟩ := bind_eq_ok read
  obtain ⟨columns, typed, read⟩ := bind_eq_ok read
  split at read
  · obtain rfl := Except.ok.inj read
    intro row mem
    obtain ⟨value, there, column⟩ := exists_of_mem_mapM typed mem
    obtain ⟨input, -, reads⟩ := exists_of_mem_mapM parsed there
    exact ledgerColumns_matches (ledgerRow_matches reads) column
  · exact nomatch read

/-! ## The tables -/

/-- An inserted row that is complete has a value that is not rounded to zero. -/
def StartsQuality (incoming : StoreDailyRow) : Prop :=
  incoming.qualityStatus = .complete → ∃ value ∈ incoming.core, value ≠ some 0

/-- The status of the daily row at a key agrees with the row after every statement of every call. -/
def StoreDailyAgrees (js : TextBuiltins) (key : String × BusinessDate) :
    List (HistoryCall StoreDailyInput) → Prop :=
  AlwaysAt StoreDailyRow.key updateRow (HistoryCall.written (storeDailyRows js)) StoreDailyRow.Matches key

def StoreDailyKept (js : TextBuiltins) (key : String × BusinessDate) :
    List (HistoryCall StoreDailyInput) → Prop :=
  AllMeet StoreDailyRow.key updateRow (HistoryCall.written (storeDailyRows js)) StartsQuality KeepsQuality key

/-- The status of the ledger row at a key agrees with the row after every call. -/
def LedgerAgrees (js : TextBuiltins) (key : String × BusinessDate) :
    List (HistoryCall LedgerDailyInput) → Prop :=
  AlwaysAt LedgerDailyRow.key updateLedgerRow (HistoryCall.written (ledgerRows js)) LedgerDailyRow.Matches key

/-- Every ledger row that updates a stored one meets the condition. -/
def LedgerKept (js : TextBuiltins) (key : String × BusinessDate) :
    List (HistoryCall LedgerDailyInput) → Prop :=
  AllMeet LedgerDailyRow.key updateLedgerRow (HistoryCall.written (ledgerRows js)) (fun _ => True)
    KeepsLedgerQuality key

/-- **The status agrees with the row in every state exactly if every written row meets the conditions.** -/
theorem qualityStatus_matches_iff (js : TextBuiltins) (key : String × BusinessDate)
    (dailyCalls : List (HistoryCall StoreDailyInput)) (ledgerCalls : List (HistoryCall LedgerDailyInput)) :
    (StoreDailyAgrees js key dailyCalls ↔ StoreDailyKept js key dailyCalls) ∧
      (LedgerAgrees js key ledgerCalls ↔ LedgerKept js key ledgerCalls) := by
  constructor
  · have graded {call : HistoryCall StoreDailyInput} {row : StoreDailyRow}
        (mem : row ∈ call.written (storeDailyRows js)) : row.Graded := by
      obtain ⟨rows, read, there⟩ := mem_written mem
      exact storeDailyRows_graded read row there
    apply alwaysAt_iff
    · intro call _ row mem
      exact insert_matches_iff (graded mem)
    · intro call _ row mem stored sound
      exact updateRow_matches_iff sound (graded mem)
  · have graded {call : HistoryCall LedgerDailyInput} {row : LedgerDailyRow}
        (mem : row ∈ call.written (ledgerRows js)) : row.Matches := by
      obtain ⟨rows, read, there⟩ := mem_written mem
      exact ledgerRows_matches read row there
    apply alwaysAt_iff
    · intro call _ row mem
      exact iff_of_true (graded mem) trivial
    · intro call _ row mem stored _
      exact updateLedgerRow_matches_iff (graded mem)

/-! ## Rows that complete each other -/

/-- A row of one store and day that knows every core metric but its sales. -/
def allButSales : StoreDailyInput :=
  { salesOnlyInput 0 1 "WEBAPI_INDEX" with
    salesQuantity := .absent
    dealAmount := .value 10
    netDealAmount := .value 10
    buyerCount := .value 1
    goodsDetailVisitors := .value 5
    stockingOrderCount := .value 0
    urgentPurchaseOrderCount := .value 0 }

def completingCalls : List (HistoryCall StoreDailyInput) :=
  [⟨[allButSales], true⟩, ⟨[salesOnlyInput 2 2 "WEBAPI_REALTIME"], true⟩]

/-- A ledger row of one store and day with these counts. -/
def ledgerInput (counts : LedgerField → JsField Rat) : LedgerDailyInput where
  storeCode := some "DL5477"
  businessDate := .value 20000
  observedAt := .value 1
  now := 1
  counts := counts
  amounts := fun _ => .absent

/-- A row that knows all counts, and one that knows none. -/
def ledgerCallsThenNone : List (HistoryCall LedgerDailyInput) :=
  [⟨[ledgerInput fun _ => .value 3], true⟩, ⟨[ledgerInput fun _ => .absent], true⟩]

/-- **Two partial rows complete each other, and the row stays partial; and a ledger row loses nothing but
its status.** -/
theorem qualityStatus_drifts : ¬ StoreDailyAgrees .ascii ("DL5477", 20000) completingCalls ∧
      ¬ LedgerAgrees .ascii ("DL5477", 20000) ledgerCallsThenNone := by
  constructor
  · intro always
    have stored : (run (storeDailyCall .ascii) (fun _ => none) completingCalls ("DL5477", 20000)).map
        (fun row => (row.qualityStatus, qualityFor row.core)) = some (.partialRow, .complete) := by
      decide +kernel
    obtain ⟨row, there, drift⟩ := Option.map_eq_some_iff.mp stored
    have agrees : row.Matches := AlwaysAt.last always (List.cons_ne_nil _ _) row there
    exact nomatch (Prod.mk.inj drift).1.symm.trans (agrees.trans (Prod.mk.inj drift).2)
  · intro always
    have stored : (run (ledgerDailyCall .ascii) (fun _ => none) ledgerCallsThenNone ("DL5477", 20000)).map
        (fun row => (row.qualityStatus, qualityFor (coreCounts row.counts))) =
          some (.partialRow, .complete) := by decide +kernel
    obtain ⟨row, there, drift⟩ := Option.map_eq_some_iff.mp stored
    have agrees : row.Matches := AlwaysAt.last always (List.cons_ne_nil _ _) row there
    exact nomatch (Prod.mk.inj drift).1.symm.trans (agrees.trans (Prod.mk.inj drift).2)

end FullManagedBi.WebapiHistory
