import FullManagedBi.Laws.PageSequence
import FullManagedBi.Lib.Readers
import FullManagedBi.Lib.StableText
import FullManagedBi.OpenApi.StockAdvice

/-!
# When the stock advice is complete

A result of the strict pass has as many goods as every page advertised (`pageLoop_count`), and a result of two sweeps the
SKCs of both of them (`same_of_compareSweeps`). Both are mapped row by row (`adviceOf_spec`). Only the sweeps look for an
SKC that comes twice, so the goods of a strict pass are distinct where its rows are.
-/

namespace FullManagedBi.OpenApi

open Lib

/-! ## Counts of a sequence -/

section

variable {ρ α : Type} {H : Digest} {options : PageOptions ρ α} {pageSize maxItems : Nat} {state : PageState α}
  {page : Nat}

def Round.advertisedCount : Round α → Option Nat
  | .next state => state.advertisedCount
  | .done sequence => sequence.advertisedCount

/-- The response to a page advertises a count. -/
def Advertises (options : PageOptions ρ α) (count page : Nat) : Prop :=
  ∃ response, options.fetchPage page = .ok response ∧
    options.getAdvertisedCount response page = .ok (some (some (count : Int)))

theorem closeRound_count {recordCount : Nat} {round : Round α}
    (done : closeRound pageSize state page recordCount = .ok round) : round.advertisedCount = state.advertisedCount := by
  unfold closeRound at done
  split_ifs at done
  all_goals obtain rfl := Except.ok.inj done; rfl

theorem observeCount_counted {before after : Option Nat} {count : Nat}
    (done : observeCount before (some (some (count : Int))) page = .ok after) :
    after = some count ∧ (before = none ∨ before = some count) := by
  simp only [observeCount] at done
  split_ifs at done with negative drift
  · obtain rfl := Except.ok.inj done
    refine ⟨rfl, ?_⟩
    cases before with
    | none => exact .inl rfl
    | some other => simpa using drift

variable (counted : ∀ response page, ∃ count : Nat,
  options.getAdvertisedCount response page = .ok (some (some (count : Int))))

include counted

theorem pageRound_count {round : Round α} (done : pageRound H options pageSize maxItems state page = .ok round) :
    ∃ count, Advertises options count page ∧ round.advertisedCount = some count ∧
      (state.advertisedCount = none ∨ state.advertisedCount = some count) := by
  obtain ⟨response, fetched, done⟩ := bind_eq_ok done
  obtain ⟨value, -, done⟩ := bind_eq_ok done
  obtain ⟨items, -, done⟩ := bind_eq_ok done
  obtain ⟨-, done⟩ := check_ok_iff.mp done
  obtain ⟨observed, read, done⟩ := bind_eq_ok done
  obtain ⟨after, kept, done⟩ := bind_eq_ok done
  obtain ⟨seen, -, done⟩ := bind_eq_ok done
  obtain ⟨-, done⟩ := check_ok_iff.mp done
  obtain ⟨count, advertised⟩ := counted response page
  obtain rfl := Except.ok.inj (advertised.symm.trans read)
  obtain ⟨rfl, before⟩ := observeCount_counted kept
  exact ⟨count, ⟨response, fetched, advertised⟩, closeRound_count done, before⟩

/-- Every page of a sequence advertises its count. -/
theorem pageLoop_count {rounds : Nat} {sequence : PageSequence α}
    (done : (pageLoop H options pageSize maxItems rounds page state).2 = .ok sequence) :
    ∃ count, sequence.advertisedCount = some count ∧
      (state.advertisedCount = none ∨ state.advertisedCount = some count) ∧
      ∀ asked ∈ (pageLoop H options pageSize maxItems rounds page state).1, Advertises options count asked := by
  induction rounds generalizing page state with
  | zero => cases done
  | succ rounds ih =>
    rw [pageLoop] at done ⊢
    cases result : pageRound H options pageSize maxItems state page with
    | error e =>
      rw [result] at done
      cases done
    | ok round =>
      obtain ⟨count, advertises, after, before⟩ := pageRound_count counted result
      rw [result] at done
      cases round with
      | done other =>
        obtain rfl := Except.ok.inj done
        exact ⟨count, after, before, fun asked mem => List.mem_singleton.mp mem ▸ advertises⟩
      | next state' =>
        obtain ⟨other, whole, known, others⟩ := ih done
        obtain rfl : other = count := by
          rw [show state'.advertisedCount = some count from after] at known
          simpa [eq_comm] using known
        exact ⟨other, whole, before, List.forall_mem_cons.mpr ⟨advertises, others⟩⟩

end

/-! ## Rows -/

variable {B : AdviceBuiltins}

/-- The SKC of a row. -/
def skcText (row : Json) : Option String := (nonEmptyText (row.field? "skc") "").toOption

/-- The SKCs of rows. -/
def skcs (rows : List Json) : List String := rows.filterMap skcText

theorem scalarText_alike (value : Option Json) : ReadAlike (scalarText value) := by
  intro i j text done
  unfold scalarText at *
  cases given : nullish value none with
  | none => rwa [given] at done
  | some scalar =>
    rw [given] at done
    cases scalar with
    | arr items => cases done
    | obj fields => cases done
    | _ => exact done

theorem nonEmptyText_alike (value : Option Json) : ReadAlike (nonEmptyText value) := by
  intro i j text done
  obtain ⟨read, scalar, done⟩ := bind_eq_ok done
  cases read with
  | none => cases done
  | some result => exact bind_eq_ok_iff.mpr ⟨_, scalarText_alike value i j _ scalar, done⟩

theorem skcText_eq {row : Json} {location text : String} (done : nonEmptyText (row.field? "skc") location = .ok text) :
    skcText row = some text := by
  rw [skcText, nonEmptyText_alike _ location "" text done]
  rfl

theorem adviceRecord_eq {value row : Json} {location : String} (done : adviceRecord (some value) location = .ok row) :
    row = value := by
  cases value with
  | obj fields => exact (Except.ok.inj done).symm
  | _ => cases done

theorem filterMap_of_forall₂ {α β γ : Type} {f : α → Option γ} {g : β → γ} {items : List α} {values : List β}
    (read : List.Forall₂ (fun item value => f item = some (g value)) items values) :
    items.filterMap f = values.map g := by
  induction read with
  | nil => rfl
  | cons head tail ih => rw [List.filterMap_cons, head, ih, List.map_cons]

/-- A SKU that stands for itself, of these goods. -/
structure SkuOf (B : AdviceBuiltins) (goods : AdviceGoods) (sku : AdviceSku) : Prop where
  single : ¬isSummary B sku.skuCode
  skcName_eq : sku.skcName = goods.skcName
  spuName_eq : sku.spuName = goods.spuName
  supplierCode_eq : sku.supplierCode = goods.supplierCode

theorem mapSku_spec {value : Json} {skcName spuName : String} {supplierCode : Option String} {location : String}
    {sku : AdviceSku} (done : mapSku B value skcName spuName supplierCode location = .ok (some sku)) :
    ¬isSummary B sku.skuCode ∧ sku.skcName = skcName ∧ sku.spuName = spuName ∧ sku.supplierCode = supplierCode := by
  obtain ⟨row, -, done⟩ := bind_eq_ok done
  obtain ⟨skuCode, -, done⟩ := bind_eq_ok done
  split_ifs at done with summary
  · cases Except.ok.inj done
  · obtain ⟨variantName, -, done⟩ := bind_eq_ok done
    obtain ⟨figures, -, done⟩ := bind_eq_ok done
    obtain rfl := Option.some.inj (Except.ok.inj done)
    exact ⟨summary, rfl, rfl, rfl⟩

theorem mapGoods_spec {row : Json} {location : String} {goods : AdviceGoods} (done : mapGoods B row location = .ok goods) :
    skcText row = some goods.skcName ∧ ∀ sku ∈ goods.skus, SkuOf B goods sku := by
  obtain ⟨object, record, done⟩ := bind_eq_ok done
  obtain ⟨skuList, -, done⟩ := bind_eq_ok done
  obtain ⟨skcName, skc, done⟩ := bind_eq_ok done
  obtain ⟨spuName, -, done⟩ := bind_eq_ok done
  obtain ⟨supplierCode, -, done⟩ := bind_eq_ok done
  obtain ⟨categoryName, -, done⟩ := bind_eq_ok done
  obtain ⟨shelfDays, -, done⟩ := bind_eq_ok done
  obtain ⟨statuses, -, done⟩ := bind_eq_ok done
  obtain ⟨skus, mapped, done⟩ := bind_eq_ok done
  obtain rfl := Except.ok.inj done
  refine ⟨skcText_eq (adviceRecord_eq record ▸ skc), fun sku mem => ?_⟩
  obtain ⟨read, there, rfl⟩ := List.mem_filterMap.mp mem
  obtain ⟨pair, -, value⟩ := exists_of_mem_mapM mapped there
  obtain ⟨single, skcName, spuName, supplierCode⟩ := mapSku_spec value
  exact ⟨single, skcName, spuName, supplierCode⟩

/-- What a result says of the sequence that it is mapped from. -/
theorem adviceOf_spec {pageSize : Nat} {sequence : PageSequence Json} {consistency : PaginationConsistency}
    {fetchedAt : String} {result : StockAdviceResult} (done : adviceOf B pageSize sequence consistency fetchedAt = .ok result) :
    result.paginationConsistency = consistency ∧
      List.Forall₂ (fun row goods => ∃ location, mapGoods B row location = .ok goods) sequence.items result.goods ∧
      skcs sequence.items = result.goods.map (·.skcName) ∧
      ∀ advice ∈ result.advice, ∃ goods ∈ result.goods, advice.sku ∈ goods.skus ∧ SkuOf B goods advice.sku ∧
        advice.productStatuses = goods.statuses := by
  obtain ⟨goods, mapped, done⟩ := bind_eq_ok done
  obtain ⟨time, -, done⟩ := bind_eq_ok done
  obtain rfl := Except.ok.inj done
  have rows : List.Forall₂ (fun row goods => ∃ location, mapGoods B row location = .ok goods) sequence.items goods :=
    forall₂_of_mapM_zipIdx (fun row index product read => ⟨_, read⟩) mapped
  refine ⟨rfl, rows, filterMap_of_forall₂ (rows.imp fun row product ⟨_, read⟩ => (mapGoods_spec read).1), ?_⟩
  intro advice mem
  obtain ⟨product, there, mem⟩ := List.mem_flatMap.mp mem
  obtain ⟨sku, here, rfl⟩ := List.mem_map.mp mem
  obtain ⟨pair, -, read⟩ := exists_of_mem_mapM mapped there
  exact ⟨product, there, here, (mapGoods_spec read).2 sku here, rfl⟩

/-! ## Sweeps -/

theorem membership_spec {items : List Json} {sweep : Nat} {evidence : MembershipEvidence}
    (done : stockAdviceMembershipEvidence B items sweep = .ok evidence) :
    (skcs items).Nodup ∧ evidence = ⟨(skcs items).length, B.digest.payloadFingerprint (sortedKeys B (skcs items))⟩ := by
  obtain ⟨keys, read, done⟩ := bind_eq_ok done
  obtain ⟨nodup, done⟩ := check_ok_iff.mp done
  have rows : List.Forall₂ (fun row key => skcText row = some key) items keys :=
    forall₂_of_mapM_zipIdx (fun row index key found => by
      obtain ⟨object, record, skc⟩ := bind_eq_ok found
      obtain rfl := adviceRecord_eq record
      exact skcText_eq skc) read
  have same : skcs items = keys := (filterMap_of_forall₂ (g := id) rows).trans (List.map_id _)
  rw [same]
  exact ⟨not_not.mp (refuse_eq_ok.mp nodup), (Except.ok.inj done).symm⟩

/-- The text of sorted keys says which keys they are. -/
theorem perm_of_sortedKeys {keys others : List String}
    (same : stableJson (sortedKeys B keys) = stableJson (sortedKeys B others)) : keys.Perm others := by
  have written (texts : List String) : (Json.arr (texts.map .str)).Written := by
    refine writtenItems_iff.mpr fun item mem => ?_
    obtain ⟨text, -, rfl⟩ := List.mem_map.mp mem
    trivial
  have sorted (texts : List String) : (Json.arr (texts.map .str)).sorted = .arr (texts.map .str) := by
    rw [Json.sorted, sortedItems_eq, List.map_map]
    rfl
  have lists := sorted_eq_of_stableJson (written _) (written _) same
  rw [sorted, sorted] at lists
  have lists := List.map_injective_iff.mpr (fun a b => Json.str.inj) (Json.arr.inj lists)
  exact (List.perm_insertionSort _ keys).symm.trans (lists ▸ List.perm_insertionSort _ others)

theorem same_of_compareSweeps {first second sequence : PageSequence Json}
    (noCollision : B.digest.payloadFingerprint (sortedKeys B (skcs first.items)) =
        B.digest.payloadFingerprint (sortedKeys B (skcs second.items)) →
      stableJson (sortedKeys B (skcs first.items)) = stableJson (sortedKeys B (skcs second.items)))
    (done : compareSweeps B first second = .ok sequence) :
    sequence = second ∧ (skcs second.items).Nodup ∧ (skcs first.items).Perm (skcs second.items) := by
  obtain ⟨firstMembership, one, done⟩ := bind_eq_ok done
  obtain ⟨secondMembership, two, done⟩ := bind_eq_ok done
  obtain ⟨agree, done⟩ := check_ok_iff.mp done
  have fingerprints := congrArg MembershipEvidence.fingerprint (not_not.mp (refuse_eq_ok.mp agree))
  rw [(membership_spec one).2, (membership_spec two).2] at fingerprints
  exact ⟨(Except.ok.inj done).symm, (membership_spec two).1, perm_of_sortedKeys (noCollision fingerprints)⟩

/-! ## The whole fetch -/

variable {endpoint : StockEndpoint} {o : AdviceOptions} {fetchedAt : String}

theorem fetchPageSequence_cases {ρ α : Type} (H : Digest) (options : PageOptions ρ α) :
    (∃ e, fetchPageSequence H options = ([], .error e)) ∨ ∃ pageSize startPage maxPages maxItems,
      checkPageOptions options = .ok (pageSize, startPage, maxPages, maxItems) ∧
      fetchPageSequence H options = pageLoop H options pageSize maxItems maxPages startPage {} := by
  unfold fetchPageSequence
  cases checked : checkPageOptions options with
  | error e => exact .inl ⟨e, rfl⟩
  | ok numbers => exact .inr ⟨_, _, _, _, rfl, rfl⟩

/-- The pages that a pass may ask for. -/
def AdviceOptions.pageLimit (o : AdviceOptions) : Nat := (requirePositiveInteger o.maxPages "maxPages").toOption.getD 0

theorem pass_requests (pass : AdvicePass) : (fetchStockAdvicePageSequence B endpoint o pass).1.length ≤ o.pageLimit := by
  unfold fetchStockAdvicePageSequence
  obtain ⟨e, failed⟩ | ⟨pageSize, startPage, maxPages, maxItems, checked, run⟩ :=
    fetchPageSequence_cases B.digest (stockPageOptions B endpoint o pass)
  · simp [failed]
  · obtain ⟨_, -, checked⟩ := bind_eq_ok checked
    obtain ⟨_, -, checked⟩ := bind_eq_ok checked
    obtain ⟨limit, limited, checked⟩ := bind_eq_ok checked
    obtain ⟨_, -, checked⟩ := bind_eq_ok checked
    obtain ⟨-, -, rfl, -⟩ := Prod.mk.inj (Except.ok.inj checked) |>.imp_right fun rest => by simpa using rest
    change requirePositiveInteger o.maxPages "maxPages" = .ok limit at limited
    obtain ⟨count, le, pages⟩ : ∃ count ≤ limit, _ = List.range' startPage count := pageLoop_requests
    rw [run, pages, List.length_range', AdviceOptions.pageLimit, limited]
    exact le

/-- What the strict pass returns has as many rows as each of its pages advertises. -/
theorem strictPass_spec {sequence : PageSequence Json} (done : (strictPass B endpoint o).2 = .ok sequence) :
    ∀ page ∈ (strictPass B endpoint o).1, Advertises (stockPageOptions B endpoint o .strict) sequence.items.length page := by
  obtain ⟨strict, returned, done⟩ := bind_eq_ok done
  split_ifs at done with apart
  obtain rfl := Except.ok.inj done
  unfold strictPass fetchStockAdvicePageSequence at *
  obtain ⟨e, failed⟩ | ⟨pageSize, startPage, maxPages, maxItems, -, run⟩ :=
    fetchPageSequence_cases B.digest (stockPageOptions B endpoint o .strict)
  · rw [failed] at returned
    cases returned
  · rw [run] at returned ⊢
    obtain ⟨count, whole, -, each⟩ := pageLoop_count (fun response page => ⟨response.count, rfl⟩) returned
    rw [whole] at apart
    obtain rfl : count = strict.items.length := by simpa using apart
    exact each

/-- **What was fetched**: the strict pass, or the second of two sweeps that agree. -/
theorem fetchRows_cases {sequence : PageSequence Json} {consistency : PaginationConsistency}
    (done : (fetchRows B endpoint o).2 = .ok (sequence, consistency)) :
    consistency = .strictAdvertisedCount ∧ (strictPass B endpoint o).2 = .ok sequence ∨
      consistency = .doubleSweepIdentity ∧ (∀ strict, (strictPass B endpoint o).2 ≠ .ok strict) ∧ ∃ first second,
        (fetchStockAdvicePageSequence B endpoint o .first).2 = .ok first ∧
        (fetchStockAdvicePageSequence B endpoint o .second).2 = .ok second ∧ compareSweeps B first second = .ok sequence := by
  unfold fetchRows at done
  dsimp only at done
  cases strict : (strictPass B endpoint o).2 with
  | ok rows =>
    rw [strict] at done
    obtain ⟨rfl, rfl⟩ := Prod.mk.inj (Except.ok.inj done)
    exact .inl ⟨rfl, rfl⟩
  | error e =>
    rw [strict] at done
    dsimp only at done
    split_ifs at done
    cases swept : (fetchStableStockAdviceSequence B endpoint o).2 with
    | error e =>
      rw [swept] at done
      cases done
    | ok rows =>
      rw [swept] at done
      obtain ⟨rfl, rfl⟩ := Prod.mk.inj (Except.ok.inj done)
      refine .inr ⟨rfl, nofun, ?_⟩
      unfold fetchStableStockAdviceSequence at swept
      dsimp only at swept
      cases first : (fetchStockAdvicePageSequence B endpoint o .first).2 with
      | error e =>
        rw [first] at swept
        cases swept
      | ok one =>
        rw [first] at swept
        obtain ⟨two, second, compared⟩ := bind_eq_ok swept
        exact ⟨one, two, rfl, second, compared⟩

theorem fetchRows_requests : (fetchRows B endpoint o).1.length ≤ 3 * o.pageLimit := by
  have pass (pass : AdvicePass) : (fetchStockAdvicePageSequence B endpoint o pass).1.length ≤ o.pageLimit :=
    pass_requests pass
  have strict : (strictPass B endpoint o).1.length ≤ o.pageLimit := pass .strict
  have first := pass .first
  have second := pass .second
  have sweeps : (fetchStableStockAdviceSequence B endpoint o).1.length ≤ 2 * o.pageLimit := by
    unfold fetchStableStockAdviceSequence
    dsimp only
    split
    · exact first.trans (by omega)
    · simp only [List.length_append]
      omega
  unfold fetchRows
  dsimp only
  split
  · exact strict.trans (by omega)
  · split_ifs
    · simp only [List.length_append]
      omega
    · exact strict.trans (by omega)

variable (B endpoint o) in
/-- **What a result has to be.** The SKCs of the goods are distinct; every page of a strict pass advertises their number; two
sweeps have the same SKCs, and the goods are the rows of the second one; and an advice is of a SKU of the goods that stands
for itself. -/
structure AdviceComplete (result : StockAdviceResult) : Prop where
  distinct : (result.goods.map (·.skcName)).Nodup
  advertised : result.paginationConsistency = .strictAdvertisedCount → ∀ page ∈ (strictPass B endpoint o).1,
    Advertises (stockPageOptions B endpoint o .strict) result.goods.length page
  swept : result.paginationConsistency = .doubleSweepIdentity → ∃ first second,
    (fetchStockAdvicePageSequence B endpoint o .first).2 = .ok first ∧
    (fetchStockAdvicePageSequence B endpoint o .second).2 = .ok second ∧
    (skcs first.items).Perm (skcs second.items) ∧
    List.Forall₂ (fun row goods => ∃ location, mapGoods B row location = .ok goods) second.items result.goods
  advised : ∀ advice ∈ result.advice, ∃ goods ∈ result.goods, advice.sku ∈ goods.skus ∧ SkuOf B goods advice.sku ∧
    advice.productStatuses = goods.statuses

variable (B endpoint o) in
/-- The fingerprints of the SKCs of two sweeps are the same only where their texts are. -/
def NoSweepCollision : Prop := ∀ first second, (fetchStockAdvicePageSequence B endpoint o .first).2 = .ok first →
  (fetchStockAdvicePageSequence B endpoint o .second).2 = .ok second →
  B.digest.payloadFingerprint (sortedKeys B (skcs first.items)) =
    B.digest.payloadFingerprint (sortedKeys B (skcs second.items)) →
  stableJson (sortedKeys B (skcs first.items)) = stableJson (sortedKeys B (skcs second.items))

/-- A result is complete if and only if it was not fetched by a strict pass, or the rows of this pass have distinct SKCs. -/
theorem adviceComplete_iff (noCollision : NoSweepCollision B endpoint o)
    {result : StockAdviceResult} (done : (fetchFullManagedStockAdvice B endpoint o fetchedAt).2 = .ok result) :
    AdviceComplete B endpoint o result ↔
      ∀ sequence, (strictPass B endpoint o).2 = .ok sequence → (skcs sequence.items).Nodup := by
  unfold fetchFullManagedStockAdvice at done
  cases sized : stockPageSize o.pageSize with
  | error e =>
    rw [sized] at done
    cases done
  | ok pageSize =>
    rw [sized] at done
    obtain ⟨⟨sequence, consistency⟩, fetched, mapped⟩ := bind_eq_ok done
    obtain ⟨mode, rows, keys, advised⟩ := adviceOf_spec mapped
    have length := rows.length_eq
    constructor
    · intro complete strict returned
      obtain ⟨-, same⟩ | ⟨-, failed, -⟩ := fetchRows_cases fetched
      · obtain rfl := Except.ok.inj (returned.symm.trans same)
        exact keys ▸ complete.distinct
      · exact absurd returned (failed strict)
    · intro apart
      obtain ⟨rfl, strict⟩ | ⟨rfl, -, first, second, one, two, compared⟩ := fetchRows_cases fetched
      · exact ⟨keys ▸ apart sequence strict, fun _ => length ▸ strictPass_spec strict, fun same => (by
          rw [mode] at same
          cases same), advised⟩
      · obtain ⟨rfl, nodup, same⟩ := same_of_compareSweeps (noCollision first second one two) compared
        exact ⟨keys ▸ nodup, fun same => (by
          rw [mode] at same
          cases same), fun _ => ⟨first, sequence, one, two, same, rows⟩, advised⟩

/-- **The stock advice** takes at most three times the pages that a pass may ask for, and what is returned is complete if
and only if the rows that a strict pass returned for it have distinct SKCs. -/
theorem stockAdvice_law (B : AdviceBuiltins) (endpoint : StockEndpoint) (o : AdviceOptions) (fetchedAt : String)
    (noCollision : NoSweepCollision B endpoint o) :
    ((fetchFullManagedStockAdvice B endpoint o fetchedAt).1.length ≤ 3 * o.pageLimit ∧
      ∀ result, (fetchFullManagedStockAdvice B endpoint o fetchedAt).2 = .ok result → AdviceComplete B endpoint o result) ↔
    ∀ result, (fetchFullManagedStockAdvice B endpoint o fetchedAt).2 = .ok result →
      ∀ sequence, (strictPass B endpoint o).2 = .ok sequence → (skcs sequence.items).Nodup := by
  constructor
  · rintro ⟨-, complete⟩ result done
    exact (adviceComplete_iff noCollision done).mp (complete result done)
  · intro apart
    refine ⟨?_, fun result done => (adviceComplete_iff noCollision done).mpr (apart result done)⟩
    unfold fetchFullManagedStockAdvice
    cases stockPageSize o.pageSize with
    | error e => exact Nat.zero_le _
    | ok pageSize => exact fetchRows_requests

/-- A digest by the length of a text, texts in the order of their code points, and integers. -/
def lengthAdvice : AdviceBuiltins where
  digest := {
    sha256Hex := fun text => String.ofList (List.replicate 64 (hexChar (text.length % 16)))
    isSha256Hex_sha256Hex := fun _ => isSha256Hex_hexChar (Nat.mod_lt _ (by decide)) }
  locale := ⟨compare, String.instTransOrd⟩
  toLowerCase := id
  number
    | .num n => some n
    | _ => none
  parseDate _ := some 0

/-- Goods with an id and an SKC, on pages of one row with this count. -/
def stockData (count : Nat) (rows : List Json) : Json :=
  .obj [("code", .str "0"), ("info", .obj [("count", .ofNat count), ("list", .arr rows)])]

def stockRow (id : Nat) (skc : String) : Json :=
  .obj [("id", .ofNat id), ("skc", .str skc), ("spuName", .str "SPU"), ("skuList", .arr [])]

def twoRows (second : String) : StockEndpoint := fun _ page =>
  .ok (some (stockData 2 (if page = 1 then [stockRow 1 "SKC-1"] else if page = 2 then [stockRow 22 second] else [])))

/-- An SKC on two pages of a strict pass is returned as two goods. -/
theorem skc_twice : ∃ result,
    (fetchFullManagedStockAdvice lengthAdvice (twoRows "SKC-1") { pageSize := some 1 } "2026-01-05").2 = .ok result ∧
      ¬AdviceComplete lengthAdvice (twoRows "SKC-1") { pageSize := some 1 } result := by
  obtain ⟨result, done, goods⟩ := exists_of_toOption_map (show (fetchFullManagedStockAdvice lengthAdvice (twoRows "SKC-1")
    { pageSize := some 1 } "2026-01-05").2.toOption.map (fun result => result.goods.map (·.skcName)) =
      some ["SKC-1", "SKC-1"] by decide)
  refine ⟨result, done, fun complete => ?_⟩
  have distinct := complete.distinct
  rw [goods] at distinct
  exact absurd distinct (by decide)

/-- A strict pass over two SKCs is returned complete. -/
theorem skcs_once :
    let o : AdviceOptions := { pageSize := some 1 }
    (fetchFullManagedStockAdvice lengthAdvice (twoRows "SKC-2") o "2026-01-05").1.length ≤ 3 * o.pageLimit ∧
      ∀ result, (fetchFullManagedStockAdvice lengthAdvice (twoRows "SKC-2") o "2026-01-05").2 = .ok result →
        AdviceComplete lengthAdvice (twoRows "SKC-2") o result := by
  intro o
  have sweeps : fetchStockAdvicePageSequence lengthAdvice (twoRows "SKC-2") o .first =
      fetchStockAdvicePageSequence lengthAdvice (twoRows "SKC-2") o .second := rfl
  refine (stockAdvice_law _ _ _ _ fun first second one two _ => ?_).mpr fun _ _ sequence strict => ?_
  · rw [sweeps, two] at one
    rw [Except.ok.inj one]
  · have run : (strictPass lengthAdvice (twoRows "SKC-2") { pageSize := some 1 }).2.toOption.map (fun s => skcs s.items) =
        some ["SKC-1", "SKC-2"] := by decide
    rw [strict] at run
    rw [show skcs sequence.items = _ from Option.some.inj run]
    decide

end FullManagedBi.OpenApi
