import FullManagedBi.WebapiHistory.StoreDaily

/-!
# What a settled store-daily row keeps

A row is settled once the daily index stored a sales quantity on it. Settledness is an invariant of
the upsert (`settled_upsertRow`): no statement removes `WEBAPI_INDEX` from the stored codes, and no
`COALESCE` turns a quantity into `NULL`. On a settled row the `sales_quantity` case has three ways to
go, and `updateRow_sales` names them; the precedence fails on exactly one, the `ELSE` a realtime or
trade row reaches.
-/

namespace FullManagedBi.WebapiHistory

open Lib

/-! ## Columns of one update -/

variable {α : Type}

@[simp] theorem coalesce_none (stored : Option α) : coalesce none stored = stored := rfl

@[simp] theorem coalesce_some (a : α) (stored : Option α) : coalesce (some a) stored = some a := rfl

theorem coalesce_ne_none {incoming stored : Option α} (h : stored ≠ none) : coalesce incoming stored ≠ none := by
  cases incoming with
  | none => exact h
  | some a => simp only [coalesce_some, ne_eq, reduceCtorEq, not_false_eq_true]

theorem coalesce_eq_stored {incoming stored : Option α} :
    coalesce incoming stored = stored ↔ incoming = none ∨ incoming = stored := by
  cases incoming with
  | none => simp only [coalesce_none, true_or]
  | some a => simp only [coalesce_some, reduceCtorEq, false_or]

@[simp] theorem mem_distinctSorted {c : SourceCode} {codes : List SourceCode} :
    c ∈ distinctSorted codes ↔ c ∈ codes := by
  simp only [distinctSorted, List.mem_filter, decide_eq_true_eq]
  cases c <;> simp

variable {stored : StoreDailyRow} (incoming : StoreDailyRow)

theorem index_mem_updateRow (h : .webapiIndex ∈ stored.sourceCodes) :
    .webapiIndex ∈ (updateRow stored incoming).sourceCodes := by
  simp only [updateRow, sourceCodesCase, mem_distinctSorted]
  split
  · exact List.mem_append_right _ ‹_›
  · split
    · exact h
    · exact List.mem_append_left _ h

/-- **The three ways of the `sales_quantity` case on a row with the index code**: an index row
replaces, an analysis row keeps, and any other row reaches the `ELSE`. -/
theorem updateRow_sales (h : .webapiIndex ∈ stored.sourceCodes) : (updateRow stored incoming).salesQuantity =
      if .webapiIndex ∉ incoming.sourceCodes ∧ .webapiAnalyse ∈ incoming.sourceCodes then stored.salesQuantity
      else coalesce incoming.salesQuantity stored.salesQuantity := by
  by_cases index : .webapiIndex ∈ incoming.sourceCodes
  · simp [updateRow, salesQuantityCase, index]
  · by_cases analyse : .webapiAnalyse ∈ incoming.sourceCodes <;>
      simp [updateRow, salesQuantityCase, index, analyse, h]

theorem updateRow_sales_ne_none (h : stored.salesQuantity ≠ none) : (updateRow stored incoming).salesQuantity ≠ none := by
  simp only [updateRow, salesQuantityCase]
  split_ifs
  · exact coalesce_ne_none h
  · exact coalesce_ne_none h
  · exact h
  · exact coalesce_ne_none h

/-- **When an update puts the realtime code on a row with the index code**: only with a row that
carries the index code itself. -/
theorem realtime_mem_updateRow (h : .webapiIndex ∈ stored.sourceCodes)
    (realtime : .webapiRealtime ∈ incoming.sourceCodes) : .webapiRealtime ∈ (updateRow stored incoming).sourceCodes ↔
      .webapiIndex ∈ incoming.sourceCodes ∨ .webapiRealtime ∈ stored.sourceCodes := by
  by_cases index : .webapiIndex ∈ incoming.sourceCodes
  · simp [updateRow, sourceCodesCase, index, realtime]
  · simp [updateRow, sourceCodesCase, index, realtime, h]

/-! ## The table -/

def StoreDailyTable.sales (table : StoreDailyTable) (key : String × BusinessDate) : Option Nat :=
  (table key).bind (·.salesQuantity)

def StoreDailyTable.codes (table : StoreDailyTable) (key : String × BusinessDate) :
    List SourceCode :=
  ((table key).map (·.sourceCodes)).getD []

/-- A row of the key is stored, with the index code and a quantity. -/
def Settled (table : StoreDailyTable) (key : String × BusinessDate) : Prop :=
  ∃ stored, table key = some stored ∧ .webapiIndex ∈ stored.sourceCodes ∧
    stored.salesQuantity ≠ none

variable {table : StoreDailyTable} {key : String × BusinessDate}

theorem upsertRow_other {incoming : StoreDailyRow} (h : incoming.key ≠ key) :
    upsertRow table incoming key = table key := by
  rw [upsertRow, Function.update_of_ne (Ne.symm h)]

theorem upsertRow_stored {incoming stored : StoreDailyRow} (h : table incoming.key = some stored) :
    upsertRow table incoming incoming.key = some (updateRow stored incoming) := by
  rw [upsertRow, Function.update_self, h]

theorem settled_of_index (table : StoreDailyTable) {incoming : StoreDailyRow}
    (index : .webapiIndex ∈ incoming.sourceCodes) (known : incoming.salesQuantity ≠ none) :
    Settled (upsertRow table incoming) incoming.key := by
  cases old : table incoming.key with
  | none =>
    refine ⟨incoming, ?_, index, known⟩
    rw [upsertRow, Function.update_self, old]
  | some stored =>
    refine ⟨updateRow stored incoming, upsertRow_stored old, ?_, ?_⟩
    · simp only [updateRow, sourceCodesCase, mem_distinctSorted, if_pos index]
      exact List.mem_append_right _ index
    · simp only [updateRow, salesQuantityCase, if_pos index]
      cases quantity : incoming.salesQuantity with
      | none => exact absurd quantity known
      | some q => simp only [coalesce_some, ne_eq, reduceCtorEq, not_false_eq_true]

/-- **Settledness is kept** by every upsert, whatever its row. -/
theorem settled_upsertRow (h : Settled table key) : Settled (upsertRow table incoming) key := by
  obtain ⟨stored, old, index, known⟩ := h
  by_cases same : incoming.key = key
  · subst same
    exact ⟨_, upsertRow_stored old, index_mem_updateRow incoming index,
      updateRow_sales_ne_none incoming known⟩
  · exact ⟨stored, by rw [upsertRow_other same, old], index, known⟩

def StoredIndex (key : String × BusinessDate) (rows : List StoreDailyRow) : Prop :=
  ∃ row ∈ rows, row.key = key ∧ .webapiIndex ∈ row.sourceCodes ∧ row.salesQuantity ≠ none

/-- Once such a row has been stored, the key is settled in every later state. -/
theorem settled_run {rows : List StoreDailyRow} (h : StoredIndex key rows) :
    Settled (run upsertRow table rows) key := by
  obtain ⟨row, mem, rfl, index, known⟩ := h
  obtain ⟨pre, post, rfl⟩ := List.append_of_mem mem
  rw [run_append, run_cons]
  exact run_invariant (I := fun t => Settled t row.key)
    (fun _ incoming settled => settled_upsertRow incoming settled)
    (settled_of_index _ index known) post

/-! ## The precedence -/

/-- What the settled precedence asks of one upsert: a row without the index code changes no quantity,
and a row with the realtime code does not put that code back. -/
def PrecedenceKept (table : StoreDailyTable) (row : StoreDailyRow) : Prop :=
  (.webapiIndex ∉ row.sourceCodes →
    (upsertRow table row).sales row.key = table.sales row.key) ∧
  (.webapiRealtime ∈ row.sourceCodes → .webapiRealtime ∈ (upsertRow table row).codes row.key →
    .webapiRealtime ∈ table.codes row.key)

/-- The row stays off the two ways round the precedence: a row with neither the index nor the
analysis code brings no quantity of its own, and a row with both the index and the realtime code
meets the realtime code already stored. -/
def NoFallThrough (table : StoreDailyTable) (row : StoreDailyRow) : Prop :=
  (.webapiIndex ∉ row.sourceCodes → .webapiAnalyse ∉ row.sourceCodes →
    row.salesQuantity = none ∨ row.salesQuantity = table.sales row.key) ∧
  (.webapiIndex ∈ row.sourceCodes → .webapiRealtime ∈ row.sourceCodes →
    .webapiRealtime ∈ table.codes row.key)

/-- On a settled key one upsert keeps the precedence exactly when it stays off both ways. -/
theorem precedenceKept_iff {row : StoreDailyRow} (settled : Settled table row.key) : PrecedenceKept table row ↔ NoFallThrough table row := by
  obtain ⟨stored, old, index, -⟩ := settled
  have sales : table.sales row.key = stored.salesQuantity := by
    simp only [StoreDailyTable.sales, old, Option.bind_some]
  have codes : table.codes row.key = stored.sourceCodes := by
    simp only [StoreDailyTable.codes, old, Option.map_some, Option.getD_some]
  have sales' : (upsertRow table row).sales row.key = (updateRow stored row).salesQuantity := by
    simp only [StoreDailyTable.sales, upsertRow_stored old, Option.bind_some]
  have codes' : (upsertRow table row).codes row.key = (updateRow stored row).sourceCodes := by
    simp only [StoreDailyTable.codes, upsertRow_stored old, Option.map_some, Option.getD_some]
  rw [PrecedenceKept, NoFallThrough, sales, codes, sales', codes', updateRow_sales row index]
  refine and_congr ?_ ?_
  · by_cases isIndex : .webapiIndex ∈ row.sourceCodes
    · simp only [isIndex, not_true_eq_false, false_implies]
    · by_cases analyse : .webapiAnalyse ∈ row.sourceCodes
      · simp only [isIndex, analyse, not_false_eq_true, and_self, ↓reduceIte, not_true_eq_false,
          false_implies, implies_true]
      · simp only [isIndex, analyse, not_false_eq_true, and_false, ↓reduceIte, true_implies,
          coalesce_eq_stored]
  · by_cases realtime : .webapiRealtime ∈ row.sourceCodes
    · rw [realtime_mem_updateRow row index realtime]
      by_cases isIndex : .webapiIndex ∈ row.sourceCodes <;> simp [isIndex, realtime]
    · simp only [realtime, false_implies, implies_true]

/-- **Settled-source precedence over a sequence of calls**: every upsert of the key that comes after
an index row with a quantity keeps the precedence. -/
def SettledPrecedence (js : TextBuiltins) (table : StoreDailyTable)
    (calls : List (List StoreDailyInput)) (key : String × BusinessDate) : Prop :=
  ∀ pre row post, acceptedRows js calls = pre ++ row :: post → row.key = key →
    StoredIndex key pre → PrecedenceKept (run upsertRow table pre) row

/-- A row of one store and day that knows nothing but its sales quantity. -/
def salesOnlyInput (quantity : Rat) (observedAt : Instant) (code : String) : StoreDailyInput where
  storeCode := some "DL5477"
  businessDate := .value 20000
  salesQuantity := .value quantity
  observedAt := .value observedAt
  now := observedAt
  sourceCodes := [some code]

def salesOnlyRow (quantity : Nat) (observedAt : Instant) (code : SourceCode) : StoreDailyRow where
  storeCode := "DL5477"
  businessDate := 20000
  currency := none
  dealAmount := none
  netDealAmount := none
  salesQuantity := some quantity
  buyerCount := none
  goodsDetailVisitors := none
  exposureUsers := none
  exposureBasis := .unavailable
  stockingOrderCount := none
  urgentPurchaseOrderCount := none
  paymentOrderCount := none
  newCustomerSalesQuantity := none
  newCustomerPaymentOrderCount := none
  sourceUpdatedAt := none
  observedAt := observedAt
  sourceContractVersion := homeHistoryContractVersion
  sourceCodes := [code]
  qualityStatus := .partialRow

end FullManagedBi.WebapiHistory
