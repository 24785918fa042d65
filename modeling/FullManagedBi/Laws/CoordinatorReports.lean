import FullManagedBi.Coordinator.Stages

/-!
# What the summary of an attempt reports

The summary of a stage has a row for each store. `Reported` says which stores it reports as failed, by the
fields that the stage's script writes, and `classified_failed` says where `classifyStageResult` keeps them:
in the stores to retry, or in the terminal details, as long as the summary is of a kind it recognizes
(`Recognized`).
-/

namespace FullManagedBi.Coordinator

open Lib
open WebapiHistory (normalizeFullManagedStoreCode)

variable {js : StageBuiltins}

/-! ## Rows -/

def reportRows (stageName : String) (summary : Json) : List Json :=
  match summary.field? (if stageName = "finance" then "stores" else "results") with
  | some (.arr rows) => rows
  | _ => []

def rowStore (js : StageBuiltins) (row : Json) : Option String :=
  normalizeFullManagedStoreCode js.toTextBuiltins (textOrEmpty (row.field? "storeCode"))

/-- Whether a row says that its store failed, is partial or is blocked. -/
def rowFailed (js : StageBuiltins) (stageName : String) (row : Json) : Bool :=
  match stageName with
  | "home-history" | "home-realtime" => homeRowFailed row
  | "home-ledger" => ledgerRowFailed row
  | "sales-realtime" => !(stringField row "status" = some "loaded") || partialDateAnchor row
  | "supply" => (stringField row "status").any (["partial", "error", "skipped"].contains ·)
  | "finance" => financeRowFailed js row
  | "session-recovery" | "session-final-recovery" => ledgerRowFailed row
  | "session-renewal" | "session-final-renewal" | "session-final-validation" =>
    !(stringField row "state" = some "ACTIVE")
  | _ => false

def Reported (js : StageBuiltins) (stageName : String) (summary : Json) (store : String)
    (failed : Bool) : Prop :=
  ∃ row ∈ reportRows stageName summary, rowStore js row = some store ∧ rowFailed js stageName row = failed

instance (stageName : String) (summary : Json) (store : String) (failed : Bool) :
    Decidable (Reported js stageName summary store failed) :=
  inferInstanceAs (Decidable (∃ row ∈ _, _ ∧ _))

variable {row : Json} {store : String}

theorem mem_of_rowStore (named : rowStore js row = some store) : store ∈ WebapiHistory.fullManagedStoreCodes := by
  unfold rowStore normalizeFullManagedStoreCode at named
  dsimp only at named
  split_ifs at named with managed
  exact Option.some.inj named ▸ managed

theorem mem_uniqueStoreCodes {values : List (Option Json)} : store ∈ uniqueStoreCodes js values ↔
      ∃ value ∈ values, normalizeFullManagedStoreCode js.toTextBuiltins (textOrEmpty value) = some store := by
  rw [uniqueStoreCodes, List.mem_eraseDups, List.mem_filterMap]

variable {rows : List Json}

theorem mem_uniqueStoreCodes_filter {picks : Json → Bool} :
    store ∈ uniqueStoreCodes js ((rows.filter picks).map (·.field? "storeCode")) ↔
      ∃ row ∈ rows, picks row = true ∧ rowStore js row = some store := by
  rw [mem_uniqueStoreCodes]
  constructor
  · rintro ⟨value, mem, same⟩
    obtain ⟨row, there, rfl⟩ := List.mem_map.mp mem
    obtain ⟨there, picked⟩ := List.mem_filter.mp there
    exact ⟨row, there, picked, same⟩
  · rintro ⟨row, mem, picked, same⟩
    exact ⟨_, List.mem_map_of_mem (List.mem_filter.mpr ⟨mem, picked⟩), same⟩

/-! ## Recognized summaries -/

/-- A supply row with a gap that no retry closes. -/
def supplyRowTerminal (js : StageBuiltins) (row : Json) : Bool :=
  supplyRowIncomplete row && (supplyTerminalDetail js row).any (·.isSome)

def supplyRowRetried (js : StageBuiltins) (row : Json) : Bool :=
  supplyRowIncomplete row && supplyTerminalDetail js row = some none

/-- The summaries of partial attempts whose failed rows `classifyStageResult` keeps: the home summaries ask
for the retry, no supply row was skipped, and no summary of sales or supply has gaps that no retry closes
beside rows to retry. -/
def Recognized (js : StageBuiltins) (stageName : String) (summary : Json) : Prop :=
  match stageName with
  | "home-history" | "home-realtime" =>
    (∃ row ∈ reportRows stageName summary, homeRowFailed row = true) →
      strictEq (summary.field? "requiresRetry") (some (.bool true)) = true
  | "sales-realtime" =>
    ∀ row ∈ reportRows stageName summary, ∀ other ∈ reportRows stageName summary,
      stringField row "status" = some "error" → salesRowTerminal other = false
  | "supply" =>
    (∀ row ∈ reportRows stageName summary, stringField row "status" ≠ some "skipped") ∧
      ∀ row ∈ reportRows stageName summary, ∀ other ∈ reportRows stageName summary,
        supplyRowRetried js row = true → supplyRowTerminal js other = false
  | _ => True

instance (js : StageBuiltins) (stageName : String) (summary : Json) :
    Decidable (Recognized js stageName summary) := by
  unfold Recognized
  split <;> infer_instance

/-- Where a classification keeps a store: among the stores to retry, or in the gaps of a complete stage. -/
def Keeps (classification : Classification) (store : String) : Prop :=
  classification.fatal = true ∨ store ∈ classification.retryStores ∨
    classification.retryStores = [] ∧ classification.terminalPartial = true ∧
      ∃ detail ∈ classification.terminalDetails, detail.storeCode = some store

variable {summary : Json}

theorem reportRows_of_array {stageName key : String}
    (keyed : (if stageName = "finance" then "stores" else "results") = key)
    (read : arrayOrEmpty (summary.field? key) = some rows) : reportRows stageName summary = rows := by
  unfold reportRows
  rw [keyed]
  unfold arrayOrEmpty at read
  cases field : summary.field? key with
  | none => simpa [field, nullish] using read
  | some value =>
    cases value with
    | null => simpa [field, nullish] using read
    | arr items => simpa [field, nullish] using read
    | _ => simp [field, nullish] at read

theorem keeps_retryResult {picks : Json → Bool} (mem : row ∈ rows)
    (named : rowStore js row = some store) (picked : picks row = true) :
    Keeps (retryResult (uniqueStoreCodes js ((rows.filter picks).map (·.field? "storeCode")))) store :=
  .inr (.inl (mem_uniqueStoreCodes_filter.mpr ⟨row, mem, picked, named⟩))

variable {stageName : String} {classification : Classification}

theorem home_keeps (keyed : stageName ≠ "finance")
    (classified : (homeRetryStores js summary).map retryResult = some classification)
    (asks : (∃ row ∈ reportRows stageName summary, homeRowFailed row = true) →
      strictEq (summary.field? "requiresRetry") (some (.bool true)) = true)
    (mem : row ∈ reportRows stageName summary) (named : rowStore js row = some store)
    (failed : homeRowFailed row = true) : Keeps classification store := by
  obtain ⟨stores, read, rfl⟩ := Option.map_eq_some_iff.mp classified
  unfold homeRetryStores at read
  rw [if_pos (asks ⟨row, mem, failed⟩)] at read
  obtain ⟨results, array, same⟩ := Option.bind_eq_some_iff.mp read
  obtain rfl := Option.some.inj same
  rw [reportRows_of_array (if_neg keyed) array] at mem
  exact keeps_retryResult mem named failed

theorem failedStores_keeps {stageName key : String} {failedRow : Json → Bool}
    (keyed : (if stageName = "finance" then "stores" else "results") = key)
    (classified : (failedStores js (summary.field? key) failedRow).map retryResult = some classification)
    (mem : row ∈ reportRows stageName summary) (named : rowStore js row = some store)
    (failed : failedRow row = true) : Keeps classification store := by
  obtain ⟨stores, read, rfl⟩ := Option.map_eq_some_iff.mp classified
  obtain ⟨rows, array, rest⟩ := Option.bind_eq_some_iff.mp read
  obtain ⟨matched, destructs, same⟩ := Option.bind_eq_some_iff.mp rest
  obtain rfl := Option.some.inj same
  obtain rfl : rows = matched := by
    unfold destructured at destructs
    split_ifs at destructs
    exact Option.some.inj destructs
  rw [reportRows_of_array keyed array] at mem
  exact keeps_retryResult mem named failed

theorem sales_keeps
    (apart : ∀ row ∈ reportRows "sales-realtime" summary, ∀ other ∈ reportRows "sales-realtime" summary,
      stringField row "status" = some "error" → salesRowTerminal other = false)
    (mem : row ∈ reportRows "sales-realtime" summary) (named : rowStore js row = some store)
    (failed : rowFailed js "sales-realtime" row = true) : Keeps (classifySales js summary) store := by
  unfold classifySales
  cases field : summary.field? "results" with
  | none => exact .inl rfl
  | some value =>
    cases value with
    | arr results =>
      dsimp only
      have rows : reportRows "sales-realtime" summary = results := by simp [reportRows, field]
      rw [rows] at mem apart
      split_ifs with unsound noRetry noGap
      · exact .inl rfl
      · exact .inl rfl
      · -- No row is retried, so the row has a gap.
        have terminal : salesRowTerminal row = true := by
          have noError : stringField row "status" ≠ some "error" := by
            intro error
            have there : store ∈ uniqueStoreCodes js ((results.filter fun row =>
                stringField row "status" = some "error").map (·.field? "storeCode")) :=
              mem_uniqueStoreCodes_filter.mpr ⟨row, mem, decide_eq_true error, named⟩
            rw [noRetry] at there
            exact absurd there List.not_mem_nil
          unfold rowFailed at failed
          unfold salesRowTerminal
          simp only [Bool.or_eq_true, Bool.not_eq_true', decide_eq_false_iff_not,
            Bool.or_eq_false_iff] at failed ⊢
          rcases failed with other | anchor
          · exact .inr ⟨other, noError⟩
          · exact .inl (.inr anchor)
        refine .inr (.inr ⟨rfl, rfl, salesTerminalDetail js row, ?_, named⟩)
        exact List.mem_map_of_mem (List.mem_filter.mpr ⟨mem, terminal⟩)
      · -- Some row is retried, so no row has a gap.
        obtain ⟨retried, there⟩ := List.exists_mem_of_ne_nil _ noRetry
        obtain ⟨other, otherMem, error, -⟩ := mem_uniqueStoreCodes_filter.mp there
        have open_ := apart other otherMem row mem (of_decide_eq_true error)
        refine keeps_retryResult mem named ?_
        unfold rowFailed at failed
        unfold salesRowTerminal at open_
        simp only [Bool.or_eq_false_iff, Bool.not_eq_false', Bool.or_eq_true, decide_eq_true_eq] at open_
        simp only [Bool.or_eq_true, Bool.not_eq_true', decide_eq_false_iff_not, open_.1.2] at failed
        have unloaded := failed.resolve_right Bool.false_ne_true
        exact decide_eq_true (open_.2.resolve_left unloaded)
    | _ => exact .inl rfl

/-- What `mapM` pairs with each item is what the item is mapped to. -/
theorem zip_of_mapM {α β : Type} {f : α → Option β} {items : List α} {values : List β}
    (mapped : items.mapM f = some values) : (∀ pair ∈ items.zip values, f pair.1 = some pair.2) ∧
      (∀ item ∈ items, ∃ value, f item = some value ∧ (item, value) ∈ items.zip values) ∧
      ∀ value ∈ values, ∃ item, f item = some value := by
  induction items generalizing values with
  | nil =>
    obtain rfl := Option.some.inj mapped
    exact ⟨nofun, nofun, nofun⟩
  | cons item items ih =>
    rw [List.mapM_cons] at mapped
    obtain ⟨value, here, rest⟩ := Option.bind_eq_some_iff.mp mapped
    obtain ⟨later, mappedLater, same⟩ := Option.bind_eq_some_iff.mp rest
    obtain rfl := Option.some.inj same
    obtain ⟨pairs, paired, read⟩ := ih mappedLater
    rw [List.zip_cons_cons]
    refine ⟨?_, ?_, ?_⟩
    · rintro pair (_ | ⟨_, mem⟩)
      · exact here
      · exact pairs pair mem
    · rintro other (_ | ⟨_, mem⟩)
      · exact ⟨value, here, List.mem_cons_self⟩
      · obtain ⟨otherValue, read, there⟩ := paired other mem
        exact ⟨otherValue, read, List.mem_cons_of_mem _ there⟩
    · rintro other (_ | ⟨_, mem⟩)
      · exact ⟨item, here⟩
      · exact read other mem

theorem supplyTerminalDetail_eq {detail : TerminalDetail} (read : supplyTerminalDetail js row = some (some detail)) :
    detail.warning = "TERMINAL_PLATFORM_DATA_GAP" ∧ detail.storeCode = rowStore js row := by
  obtain ⟨domains, -, rest⟩ := Option.bind_eq_some_iff.mp read
  obtain ⟨matched, -, found⟩ := Option.bind_eq_some_iff.mp rest
  dsimp only at found
  cases failed : matched.filter supplyDomainFailed with
  | nil =>
    rw [failed] at found
    exact nomatch Option.some.inj found
  | cons first others =>
    rw [failed] at found
    dsimp only at found
    split_ifs at found
    · obtain rfl := Option.some.inj (Option.some.inj found)
      exact ⟨rfl, rfl⟩
    · exact nomatch Option.some.inj found

theorem supply_keeps (classified : classifySupply js summary = some classification)
    (recognized : Recognized js "supply" summary) (mem : row ∈ reportRows "supply" summary)
    (named : rowStore js row = some store) (failed : rowFailed js "supply" row = true) :
    Keeps classification store := by
  obtain ⟨unskipped, apart⟩ := recognized
  obtain ⟨rows, array, rest⟩ := Option.bind_eq_some_iff.mp classified
  obtain ⟨matched, destructs, rest⟩ := Option.bind_eq_some_iff.mp rest
  obtain ⟨terminal, mapped, same⟩ := Option.bind_eq_some_iff.mp rest
  obtain rfl : rows = matched := by
    unfold destructured at destructs
    split_ifs at destructs
    exact Option.some.inj destructs
  have keyed : (if "supply" = "finance" then "stores" else "results") = "results" := rfl
  rw [reportRows_of_array keyed array] at mem unskipped apart
  obtain ⟨pairs, paired, -⟩ := zip_of_mapM mapped
  have incomplete : supplyRowIncomplete row = true := by
    have open_ := unskipped row mem
    unfold rowFailed at failed
    unfold supplyRowIncomplete
    cases status : stringField row "status" with
    | none => simp [status] at failed
    | some text =>
      simp only [status, Option.any_some, List.contains_cons, Bool.or_eq_true, List.contains_nil,
        Bool.false_eq_true, or_false, beq_iff_eq, ne_eq, Option.some.injEq] at failed open_ ⊢
      tauto
  obtain ⟨value, read, there⟩ := paired row (List.mem_filter.mpr ⟨mem, incomplete⟩)
  have retriedOf {pair : Json × Option TerminalDetail}
      (pairMem : pair ∈ (rows.filter supplyRowIncomplete).zip terminal) (none_ : pair.2 = none) :
      pair.1 ∈ rows ∧ supplyRowRetried js pair.1 = true := by
    obtain ⟨pairRow, pairIncomplete⟩ := List.mem_filter.mp (List.of_mem_zip pairMem).1
    refine ⟨pairRow, ?_⟩
    have pairRead := pairs pair pairMem
    rw [none_] at pairRead
    simp [supplyRowRetried, pairIncomplete, pairRead]
  have memRetry : value = none → store ∈ uniqueStoreCodes js
      ((((rows.filter supplyRowIncomplete).zip terminal).filter (·.2.isNone)).map fun row =>
        row.1.field? "storeCode") := by
    rintro rfl
    exact mem_uniqueStoreCodes.mpr ⟨_, List.mem_map_of_mem (List.mem_filter.mpr ⟨there, rfl⟩), named⟩
  dsimp only at same
  split_ifs at same with gaps
  · obtain rfl := Option.some.inj same
    cases value with
    | none =>
      have there := memRetry rfl
      rw [gaps.1] at there
      exact absurd there List.not_mem_nil
    | some detail =>
      refine .inr (.inr ⟨rfl, rfl, detail, ?_, (supplyTerminalDetail_eq read).2.trans named⟩)
      exact List.mem_filterMap.mpr ⟨some detail, (List.of_mem_zip there).2, rfl⟩
  · obtain rfl := Option.some.inj same
    cases value with
    | none => exact .inr (.inl (memRetry rfl))
    | some detail =>
      -- Some row is retried, beside this one, which is not.
      exfalso
      have some_ : terminal.filterMap id ≠ [] :=
        List.ne_nil_of_mem (List.mem_filterMap.mpr ⟨some detail, (List.of_mem_zip there).2, rfl⟩)
      obtain ⟨retried, retriedMem⟩ := List.exists_mem_of_ne_nil _ fun none_ => gaps ⟨none_, some_⟩
      obtain ⟨field, fieldMem, -⟩ := mem_uniqueStoreCodes.mp retriedMem
      obtain ⟨pair, pairMem, -⟩ := List.mem_map.mp fieldMem
      obtain ⟨pairMem, none_⟩ := List.mem_filter.mp pairMem
      obtain ⟨otherMem, otherRetried⟩ := retriedOf pairMem (Option.isNone_iff_eq_none.mp none_)
      have open_ := apart _ otherMem row mem otherRetried
      simp [supplyRowTerminal, incomplete, read] at open_

/-! ## Classifications -/

/-- The stages whose partial exit code sends the run on to a recovery. -/
def isRenewal (stageName : String) : Bool :=
  stageName = "session-renewal" || stageName = "session-final-renewal"

def isDataStage (stageName : String) : Bool :=
  ["home-history", "home-realtime", "home-ledger", "sales-realtime", "supply", "finance"].contains stageName

/-- **A partial attempt of a data stage keeps every store it reports as failed**, where its summary is
recognized. -/
theorem classified_keeps {result : StageResult} (data : isDataStage stageName = true)
    (exit : result.exitCode = partialExitCode)
    (classified : classifyStageResult js stageName result = some classification)
    (recognized : Recognized js stageName result.summary)
    (failed : Reported js stageName result.summary store true) : Keeps classification store := by
  obtain ⟨row, mem, named, failed⟩ := failed
  unfold classifyStageResult at classified
  dsimp only at classified
  rw [exit, if_neg (by decide), if_neg (by decide), if_neg (by decide)] at classified
  simp only [isDataStage, List.contains_cons, List.contains_nil, Bool.or_false, Bool.or_eq_true,
    beq_iff_eq] at data
  rcases data with rfl | rfl | rfl | rfl | rfl | rfl
  · exact home_keeps (by decide) classified recognized mem named failed
  · exact home_keeps (by decide) classified recognized mem named failed
  · have read : (failedStores js (result.summary.field? "results") ledgerRowFailed).map retryResult =
        some classification := classified
    exact failedStores_keeps (if_neg (by decide)) read mem named failed
  · obtain rfl : classifySales js result.summary = classification := Option.some.inj classified
    exact sales_keeps recognized mem named failed
  · exact supply_keeps classified recognized mem named failed
  · have read : (failedStores js (result.summary.field? "stores") (financeRowFailed js)).map retryResult =
        some classification := classified
    exact failedStores_keeps (if_pos rfl) read mem named failed

/-- A detail of a row: a gap of the data, of a capability or of the platform, and the store of the row. -/
structure IsRowDetail (js : StageBuiltins) (detail : TerminalDetail) : Prop where
  warning : detail.warning ∈
    ["TERMINAL_DATA_QUALITY_GAP", "TERMINAL_CAPABILITY_GAP", "TERMINAL_PLATFORM_DATA_GAP"]
  storeCode : ∃ row, detail.storeCode = rowStore js row

/-- The classifications of the partial attempts of a data stage. -/
inductive DataShape (js : StageBuiltins) : Classification → Prop
  | fails : DataShape js fatalResult
  | closes (warnings : List String) (details : List TerminalDetail)
      (rows : ∀ detail ∈ details, IsRowDetail js detail) : DataShape js (terminalResult warnings details)
  | retries (stores : List String) : DataShape js (retryResult stores)

theorem classifySales_shape (summary : Json) : DataShape js (classifySales js summary) := by
  unfold classifySales
  split
  · dsimp only
    split_ifs
    · exact .fails
    · exact .fails
    · refine .closes _ _ fun detail mem => ?_
      obtain ⟨row, -, rfl⟩ := List.mem_map.mp mem
      refine ⟨?_, row, rfl⟩
      unfold salesTerminalDetail
      dsimp only
      split_ifs <;> decide
    · exact .retries _
  · exact .fails

theorem classifySupply_shape (classified : classifySupply js summary = some classification) : DataShape js classification := by
  obtain ⟨rows, -, rest⟩ := Option.bind_eq_some_iff.mp classified
  obtain ⟨matched, -, rest⟩ := Option.bind_eq_some_iff.mp rest
  obtain ⟨terminal, mapped, same⟩ := Option.bind_eq_some_iff.mp rest
  dsimp only at same
  split_ifs at same
  · obtain rfl := Option.some.inj same
    refine .closes _ _ fun detail mem => ?_
    obtain ⟨value, there, rfl⟩ := List.mem_filterMap.mp mem
    obtain ⟨row, read⟩ := (zip_of_mapM mapped).2.2 _ there
    obtain ⟨warning, storeCode⟩ := supplyTerminalDetail_eq read
    exact ⟨by simp [warning], row, storeCode⟩
  · obtain rfl := Option.some.inj same
    exact .retries _

theorem retried_shape {stores : Option (List String)}
    (retried : stores.map retryResult = some classification) : DataShape js classification := by
  obtain ⟨stores, -, rfl⟩ := Option.map_eq_some_iff.mp retried
  exact .retries stores

/-- What an attempt can be classified as. -/
inductive ClassifiedAs (js : StageBuiltins) (stageName : String) (result : StageResult) (classification : Classification) :
    Prop
  | succeeds (exit : result.exitCode = 0) (same : classification = { complete := true })
  | defers (same : classification = { complete := false, deferred := true })
  | waits (exit : result.exitCode = partialExitCode) (same : classification = { complete := false })
  | fails (same : classification = fatalResult)
  | reports (exit : result.exitCode = partialExitCode) (data : isDataStage stageName = true)
      (shape : DataShape js classification)
  | recovers (exit : result.exitCode = partialExitCode) (renewal : isRenewal stageName = true)
      (same : classification = { complete := true, needsRecovery := true })

def isPlanned (stageName : String) : Bool :=
  isDataStage stageName || isRenewal stageName ||
    ["session-recovery", "session-final-recovery", "session-final-validation"].contains stageName

theorem classifiedAs {result : StageResult} (planned : isPlanned stageName = true)
    (classified : classifyStageResult js stageName result = some classification) :
    ClassifiedAs js stageName result classification := by
  unfold classifyStageResult at classified
  dsimp only at classified
  split_ifs at classified with success defer failure
  · exact .succeeds success (Option.some.inj classified).symm
  · exact .defers (Option.some.inj classified).symm
  · exact .fails (Option.some.inj classified).symm
  · have exit := not_not.mp failure
    split at classified
    · exact .reports exit rfl (retried_shape classified)
    · exact .reports exit rfl (retried_shape classified)
    · exact .reports exit rfl (retried_shape classified)
    · obtain rfl := Option.some.inj classified
      exact .reports exit rfl (classifySales_shape _)
    · exact .reports exit rfl (classifySupply_shape classified)
    · exact .reports exit rfl (retried_shape classified)
    · exact .waits exit (Option.some.inj classified).symm
    · exact .recovers exit rfl (Option.some.inj classified).symm
    · exact .recovers exit rfl (Option.some.inj classified).symm
    · exact .waits exit (Option.some.inj classified).symm
    · exact .waits exit (Option.some.inj classified).symm
    · exfalso
      simp only [isPlanned, isDataStage, isRenewal, Bool.or_eq_true, decide_eq_true_eq,
        List.contains_cons, List.contains_nil, beq_iff_eq, Bool.false_eq_true, or_false] at planned
      tauto

/-- A sales attempt with the partial exit code and no rows in its summary fails its stage. -/
theorem classify_sales_unread (empty : reportRows "sales-realtime" summary = []) :
    classifyStageResult js "sales-realtime" ⟨partialExitCode, summary⟩ = some fatalResult := by
  have fatal : classifySales js summary = fatalResult := by
    unfold classifySales
    split
    · next results field =>
      have none_ : results = [] := by simpa [reportRows, field] using empty
      rw [if_pos (.inl none_)]
    · rfl
  rw [← fatal]
  rfl

theorem isPlanned_of_plan {task : CoordinatorTask} {clock : ShanghaiClock} {stage : Stage}
    (mem : stage ∈ (buildCoordinatorPlan task clock).stages) : isPlanned stage.name = true := by
  have named : stage.name ∈ (coordinatorStages task clock).map (·.name) := List.mem_map_of_mem mem
  rw [coordinatorStages_names] at named
  cases task <;> simp only [List.mem_cons, List.not_mem_nil, or_false] at named
  · rcases named with same | same <;> rw [same] <;> decide
  · rcases named with same | same <;> rw [same] <;> decide
  · rw [named]
    decide
  · rw [named]
    decide
  · rcases named with same | same | same | same | same <;> rw [same] <;> decide

end FullManagedBi.Coordinator
