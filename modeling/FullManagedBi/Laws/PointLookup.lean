import FullManagedBi.Supply.PointLookup

/-!
# What a point lookup counts

A merge keeps one record for each key (`mergeRows_keys`), so the `recordCount` of a loaded domain is
the number of distinct keys that were loaded (`syncStore_loaded`). It says nothing about which keys
they are.
-/

namespace FullManagedBi.Supply

open Lib

/-! ## Merging -/

section Merge

variable {α : Type} {key : α → String} {later : α → α → α}

theorem laterSourceRow_either (times : List (α → Option Instant)) (left right : α) :
    laterSourceRow times left right = left ∨ laterSourceRow times left right = right := by
  induction times with
  | nil => exact .inr rfl
  | cons time rest ih =>
    unfold laterSourceRow
    split
    · exact .inr rfl
    · exact .inl rfl
    · split
      · exact .inr rfl
      · split
        · exact .inl rfl
        · exact ih
    · exact ih

theorem key_laterSourceRow (times : List (α → Option Instant)) (left right : α)
    (same : key left = key right) : key (laterSourceRow times left right) = key left := by
  rcases laterSourceRow_either times left right with eq | eq
  · rw [eq]
  · rw [eq, same]

theorem setRow_keys (keep : ∀ l r, key l = key r → key (later l r) = key l) (merged : List α)
    (row : α) : (setRow key later merged row).map key =
      if key row ∈ merged.map key then merged.map key else merged.map key ++ [key row] := by
  unfold setRow
  simp only [List.contains_iff_mem]
  split
  · rw [List.map_map]
    apply List.map_congr_left
    intro previous _
    simp only [Function.comp_apply]
    split
    · rename_i same
      exact keep previous row same
    · rfl
  · rw [List.map_append, List.map_singleton]

/-- **A merge has one record for each key of its input.** -/
theorem mergeRows_keys (key : α → String) (keep : ∀ l r, key l = key r → key (later l r) = key l) (rows : List α) :
    ((mergeRows key later rows).map key).Nodup ∧
      (∀ k, k ∈ (mergeRows key later rows).map key ↔ k ∈ rows.map key) ∧
      (mergeRows key later rows).length ≤ rows.length := by
  induction rows using List.reverseRecOn with
  | nil => exact ⟨List.nodup_nil, fun _ => Iff.rfl, Nat.le_refl 0⟩
  | append_singleton rows row ih =>
    obtain ⟨nodup, mem, short⟩ := ih
    have last : mergeRows key later (rows ++ [row]) =
        setRow key later (mergeRows key later rows) row := by
      simp only [mergeRows, List.foldl_append, List.foldl_cons, List.foldl_nil]
    have keys := setRow_keys keep (mergeRows key later rows) row
    rw [← last] at keys
    have size := congrArg List.length keys
    rw [List.length_map] at size
    rw [List.length_append, List.length_singleton]
    by_cases known : key row ∈ (mergeRows key later rows).map key
    · rw [if_pos known] at keys size
      rw [List.length_map] at size
      refine ⟨keys ▸ nodup, fun k => ?_, by omega⟩
      rw [keys, mem, List.map_append, List.map_singleton, List.mem_append, List.mem_singleton]
      refine ⟨.inl, fun h => h.elim id fun eq => ?_⟩
      rw [eq]
      exact (mem _).mp known
    · rw [if_neg known] at keys size
      rw [List.length_append, List.length_map, List.length_singleton] at size
      refine ⟨?_, fun k => ?_, by omega⟩
      · rw [keys]
        exact List.nodup_append_comm.mp (List.nodup_cons.mpr ⟨known, nodup⟩)
      · rw [keys, List.mem_append, mem, List.map_append, List.map_singleton, List.mem_append]

end Merge

/-! ## Fetching -/

section Fetch

variable {js : TextBuiltins} {α : Type}

theorem fetchPagesFrom_length {ι φ : Type} [DecidableEq φ]
    {fetchPage : Nat → Except FetchError (PageResponse ι)} {pageSize maxItems : Nat}
    {fingerprintItem : ι → φ} {pagesLeft page : Nat} {before : PageSequence ι φ} {items : List ι}
    (h : fetchPagesFrom fetchPage pageSize maxItems fingerprintItem pagesLeft page before =
      .ok items) : items.length ≤ maxItems := by
  induction pagesLeft generalizing page before with
  | zero => exact nomatch h
  | succ left ih =>
    unfold fetchPagesFrom at h
    cases answer : fetchPage page with
    | error e =>
      rw [answer] at h
      exact nomatch h
    | ok response =>
      rw [answer] at h
      simp only [bind, Except.bind, pure, Except.pure, throw, throwThe,
        MonadExceptOf.throw] at h
      repeat' split at h
      all_goals first
        | exact ih h
        | (cases h <;> omega)

theorem fetchSupplyDomainWithRetry_ok {operation : Nat → Except FetchError α} {retriesLeft attempt : Nat} {value : α}
    (h : fetchSupplyDomainWithRetry js operation retriesLeft attempt = .ok value) : ∃ n, operation n = .ok value := by
  induction retriesLeft generalizing attempt with
  | zero => exact ⟨attempt, h⟩
  | succ left ih =>
    unfold fetchSupplyDomainWithRetry at h
    split at h
    · rename_i v ends
      exact ⟨attempt, ends.trans h⟩
    · split at h
      · exact ih h
      · exact nomatch h

theorem fetchPageSequence_length {ι φ : Type} [DecidableEq φ]
    {fetchPage : Nat → Except FetchError (PageResponse ι)} {pageSize size : Nat}
    {fingerprintItem : ι → φ} {items : List ι} (h : (do
      requirePositiveInteger size 200
      fetchPageSequence fetchPage pageSize fingerprintItem) = .ok items) :
    items.length ≤ 1000000 := by
  cases valid : requirePositiveInteger size 200 with
  | error e =>
    rw [valid] at h
    exact nomatch h
  | ok _ =>
    rw [valid] at h
    exact fetchPagesFrom_length h

/-- The purchase orders of a point lookup have distinct order numbers. -/
theorem lookUpPurchaseOrders_ok {env : StoreEnv} {orders : List PurchaseOrder}
    (h : lookUpPurchaseOrders js env = .ok orders) :
    (orders.map (·.orderNo)).Nodup ∧ orders.length ≤ maxSafeInteger := by
  obtain ⟨n, ends⟩ := fetchSupplyDomainWithRetry_ok h
  cases fetched : fetchFullManagedPurchaseOrders (min env.pageSize 200) (env.orderPages n) with
  | error e =>
    rw [fetched] at ends
    exact nomatch ends
  | ok rows =>
    rw [fetched] at ends
    cases ends
    have bound := fetchPageSequence_length fetched
    obtain ⟨nodup, -, short⟩ := mergeRows_keys PurchaseOrder.orderNo
      (key_laterSourceRow [(·.sourceUpdatedAt), fun order => some order.fetchedAt])
      [rows].flatten
    refine ⟨nodup, ?_⟩
    have limit : maxSafeInteger = 9007199254740991 := rfl
    change (mergePurchaseOrderResults [rows]).length ≤ maxSafeInteger
    have merged : (mergePurchaseOrderResults [rows]).length ≤ [rows].flatten.length := short
    rw [List.flatten_singleton] at merged
    omega

theorem promiseAll_ok {first : Nat} {settled : List (Except FetchError α)} {values : List α}
    (h : promiseAll first settled = .ok values) : values = settled.filterMap Except.toOption := by
  unfold promiseAll at h
  dsimp only at h
  split at h
  · exact nomatch h
  · exact (Except.ok.inj h).symm

theorem length_flatten_le {bound : Nat} {lists : List (List α)}
    (each : ∀ list ∈ lists, list.length ≤ bound) : lists.flatten.length ≤ lists.length * bound := by
  induction lists with
  | nil => exact Nat.zero_le _
  | cons list lists ih =>
    have here := each list List.mem_cons_self
    have rest := ih fun other mem => each other (List.mem_cons_of_mem list mem)
    rw [List.flatten_cons, List.length_append, List.length_cons, Nat.add_mul, Nat.one_mul]
    omega

theorem lookUpDeliveries_ok {env : StoreEnv} {codes : List String} {deliveries : List Delivery}
    (few : codes.length ≤ 200) (h : lookUpDeliveries js env codes = .ok deliveries) :
    (deliveries.map (·.deliveryCode)).Nodup ∧ deliveries.length ≤ maxSafeInteger := by
  obtain ⟨n, ends⟩ := fetchSupplyDomainWithRetry_ok h
  let settled := codes.map fun code =>
    fetchFullManagedDeliveries (min env.pageSize 200) (env.deliveryPages n code)
  cases all : promiseAll (env.firstRejection n) settled with
  | error e =>
    rw [all] at ends
    exact nomatch ends
  | ok results =>
    rw [all] at ends
    cases ends
    obtain ⟨nodup, -, short⟩ := mergeRows_keys Delivery.deliveryCode
      (key_laterSourceRow
        [fun delivery => some delivery.fetchedAt, (·.receivedAt), (·.takenAt)])
      results.flatten
    refine ⟨nodup, ?_⟩
    have each : ∀ list ∈ results, list.length ≤ 1000000 := by
      intro list mem
      rw [promiseAll_ok all] at mem
      obtain ⟨r, listed, eq⟩ := List.mem_filterMap.mp mem
      obtain ⟨code, -, rfl⟩ := List.mem_map.mp listed
      cases fetched : fetchFullManagedDeliveries (min env.pageSize 200)
          (env.deliveryPages n code) with
      | error e =>
        rw [fetched] at eq
        exact nomatch eq
      | ok rows =>
        rw [fetched] at eq
        cases eq
        exact fetchPageSequence_length fetched
    have count : results.length ≤ 200 := by
      rw [promiseAll_ok all]
      have := List.length_filterMap_le Except.toOption settled
      rw [List.length_map] at this
      omega
    have total := length_flatten_le each
    change (mergeDeliveryResults results).length ≤ maxSafeInteger
    have limit : maxSafeInteger = 9007199254740991 := rfl
    have merged : (mergeDeliveryResults results).length ≤ results.flatten.length := short
    omega

end Fetch

/-! ## A loaded store -/

section Store

variable {js : TextBuiltins} {env : StoreEnv} {storeCode : String} {domains : List SupplyDomain}
  {codes : List String}

theorem domainResult_domain {α : Type} (domain : SupplyDomain) (loads : Bool) (fetched : Except FetchError (List α)) :
    (domainResult domain loads fetched).domain = domain := by
  cases fetched <;> rfl

/-- A domain result that is neither a fetch error nor a load error counts the records loaded. -/
theorem domainResult_loaded {α : Type} {domain : SupplyDomain} {loads : Bool} {fetched : Except FetchError (List α)}
    (loaded : ¬ ((domainResult domain loads fetched).status = .fetchError ∨
      (domainResult domain loads fetched).status = .loadError)) :
    ∃ records, fetched = .ok records ∧ loadedRecords loads fetched = records ∧
      (domainResult domain loads fetched).recordCount = some records.length := by
  cases fetched with
  | error e => exact absurd (.inl rfl) loaded
  | ok records =>
    cases loads with
    | false => exact absurd (.inr rfl) loaded
    | true => exact ⟨records, rfl, rfl, rfl⟩

theorem storeStatus_loaded {results : List DomainResult} (h : storeStatus results = .loaded) :
    ∀ row ∈ results, ¬ (row.status = .fetchError ∨ row.status = .loadError) := by
  unfold storeStatus at h
  dsimp only at h
  split at h
  · rename_i fine
    simp only [Bool.not_eq_true', List.any_eq_false, Bool.or_eq_true, decide_eq_true_eq] at fine
    exact fine
  · split at h <;> exact nomatch h

/-- **The count of a loaded domain is the number of distinct keys loaded.** -/
theorem syncStore_loaded (few : codes.length ≤ 200)
    (loaded : (syncStoreWithAttempts js env storeCode domains codes).result.status = .loaded)
    {domain : SupplyDomain} (asked : domain ∈ domains) :
    let synced := syncStoreWithAttempts js env storeCode domains codes
    ((synced.result.domains.find? (·.domain = domain)).bind (·.recordCount)) =
        some (synced.keys domain).length ∧
      (synced.keys domain).Nodup ∧ (synced.keys domain).length ≤ maxSafeInteger := by
  unfold syncStoreWithAttempts at loaded ⊢
  split at loaded
  · exact nomatch loaded
  rename_i open_
  rw [if_neg open_]
  split at loaded
  · exact nomatch loaded
  rename_i started
  rw [if_neg started]
  dsimp only at loaded ⊢
  split at loaded
  case isFalse => exact nomatch loaded
  rename_i finished
  rw [if_pos finished]
  have fine := storeStatus_loaded loaded
  have own : ∀ d, (syncDomain js env codes d).domain = d := fun d => by
    cases d <;> exact domainResult_domain _ _ _
  have found : (domains.map (syncDomain js env codes)).find? (·.domain = domain) =
      some (syncDomain js env codes domain) := by
    obtain ⟨before, after, eq, first⟩ := List.eq_append_cons_of_mem asked
    rw [List.find?_eq_some_iff_append]
    refine ⟨decide_eq_true (own domain), before.map (syncDomain js env codes),
      after.map (syncDomain js env codes), by rw [eq, List.map_append, List.map_cons], ?_⟩
    intro row mem
    obtain ⟨d, listed, rfl⟩ := List.mem_map.mp mem
    have other : d ≠ domain := fun eq => first (eq ▸ listed)
    rw [own, decide_eq_false other, Bool.not_false]
  unfold syncStore
  rw [found, Option.bind_some]
  have loadedDomain := fine _ (List.mem_map_of_mem asked)
  cases domain with
  | purchaseOrders =>
    obtain ⟨orders, fetched, kept, count⟩ := domainResult_loaded loadedDomain
    obtain ⟨nodup, small⟩ := lookUpPurchaseOrders_ok fetched
    simp only [StoreSync.keys, if_pos asked, kept, List.length_map]
    exact ⟨count, nodup, small⟩
  | deliveries =>
    obtain ⟨deliveries, fetched, kept, count⟩ := domainResult_loaded loadedDomain
    obtain ⟨nodup, small⟩ := lookUpDeliveries_ok few fetched
    simp only [StoreSync.keys, if_pos asked, kept, List.length_map]
    exact ⟨count, nodup, small⟩

end Store

end FullManagedBi.Supply
