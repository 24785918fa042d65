import FullManagedBi.OrderManagement.Materializer

/-!
# Which index may be promoted, and the waybills in it

The materializer promotes an index exactly when each page is available and as many stores as expected are on every
page (`coverageOf_complete_iff`); the contract's own predicate agrees with it. The waybills of the index are those of the
database and of the session, each once by its store and its id. The session contributes no rows where its page is
unavailable or one of its rows is refused, and a store code with the separator U+001F may hide a row.
-/

namespace FullManagedBi.OrderManagement

open Lib

/-! ## Stores that all pages have -/

variable {counts : OrderedMap String Nat} {storeCode : String}

def countOf (counts : OrderedMap String Nat) (storeCode : String) : Nat := (counts.get? storeCode).getD 0

theorem countOf_countStore (other : String) :
    countOf (countStore counts other) storeCode = countOf counts storeCode + if storeCode = other then 1 else 0 := by
  unfold countOf countStore
  rw [OrderedMap.get?_set]
  by_cases same : storeCode = other
  · rw [if_pos same, if_pos same, same]
    rfl
  · rw [if_neg same, if_neg same]
    rfl

theorem countOf_page {codes : List String} (nodup : codes.Nodup) : countOf (codes.foldl countStore counts) storeCode =
      countOf counts storeCode + if storeCode ∈ codes then 1 else 0 := by
  induction codes generalizing counts with
  | nil => rfl
  | cons code codes ih =>
    obtain ⟨fresh, later⟩ := List.nodup_cons.mp nodup
    rw [List.foldl_cons, ih later, countOf_countStore, Nat.add_assoc]
    congr 1
    by_cases same : storeCode = code
    · subst same
      simp [fresh]
    · simp [same]

theorem countOf_storeCounts (pages : List (List String)) :
    countOf (storeCounts pages) storeCode = pages.countP fun codes => decide (storeCode ∈ codes) := by
  have general : ∀ counts : OrderedMap String Nat,
      countOf (pages.foldl (fun counts storeCodes => storeCodes.dedup.foldl countStore counts) counts) storeCode =
        countOf counts storeCode + pages.countP fun codes => decide (storeCode ∈ codes) := by
    induction pages with
    | nil => exact fun counts => rfl
    | cons codes pages ih =>
      intro counts
      rw [List.foldl_cons, ih, countOf_page codes.nodup_dedup, List.countP_cons, Nat.add_assoc]
      simp only [List.mem_dedup, decide_eq_true_eq]
      omega
  have none : countOf .empty storeCode = 0 := rfl
  rw [storeCounts, general, none, Nat.zero_add]

/-- **The intersection has the stores that all pages have.** -/
theorem mem_intersectionOf {pages : List (List String)} (some_page : pages ≠ []) :
    storeCode ∈ intersectionOf pages ↔ ∀ codes ∈ pages, storeCode ∈ codes := by
  have every : pages.countP (fun codes => decide (storeCode ∈ codes)) = pages.length ↔
      ∀ codes ∈ pages, storeCode ∈ codes := by
    rw [List.countP_eq_length]
    simp only [decide_eq_true_eq]
  unfold intersectionOf jsSort
  rw [if_neg some_page, List.mem_insertionSort, ← every, ← countOf_storeCounts, List.mem_map]
  constructor
  · rintro ⟨⟨code, count⟩, mem, rfl⟩
    obtain ⟨there, all⟩ := List.mem_filter.mp mem
    unfold countOf
    rw [OrderedMap.get?_eq_some_iff.mpr there]
    exact of_decide_eq_true all
  · intro all
    refine ⟨(storeCode, pages.length), List.mem_filter.mpr ⟨OrderedMap.get?_eq_some_iff.mp ?_, by simp⟩, rfl⟩
    unfold countOf at all
    cases found : (storeCounts pages).get? storeCode with
    | none =>
      rw [found] at all
      exact absurd (List.eq_nil_of_length_eq_zero all.symm) some_page
    | some count =>
      rw [found] at all
      exact congrArg some all

theorem nodup_intersectionOf (pages : List (List String)) : (intersectionOf pages).Nodup := by
  unfold intersectionOf
  split
  · exact List.nodup_nil
  · have keys : (((storeCounts pages).entries.filter fun entry => decide (entry.2 = pages.length)).map (·.1)).Nodup :=
      (OrderedMap.nodup_keys (m := storeCounts pages)).sublist (List.filter_sublist.map _)
    exact (List.perm_insertionSort _ _).nodup_iff.mpr keys

theorem length_intersectionOf {pages : List (List String)} (some_page : pages ≠ []) :
    (intersectionOf pages).length = {storeCode : String | ∀ codes ∈ pages, storeCode ∈ codes}.ncard := by
  have same : {storeCode : String | ∀ codes ∈ pages, storeCode ∈ codes} =
      ((intersectionOf pages).toFinset : Set String) := by
    ext storeCode
    rw [Set.mem_ofPred_eq, ← mem_intersectionOf some_page, Finset.mem_coe, List.mem_toFinset]
  rw [same, Set.ncard_coe_finset, List.toFinset_card_of_nodup (nodup_intersectionOf pages)]

/-! ## Promotion -/

variable {pages : PageId → PageEntry} {expectedStoreCount : Int}

theorem mem_pageIds (pageId : PageId) : pageId ∈ PageId.all := by
  cases pageId <;> decide

theorem length_pagesWith_eq_iff {status : PageStatus} : (pagesWith pages status).length = PageId.all.length ↔
    ∀ pageId, (pages pageId).page.status = status := by
  unfold pagesWith
  rw [List.length_filter_eq_length_iff]
  constructor
  · intro all pageId
    exact of_decide_eq_true (all pageId (mem_pageIds pageId))
  · intro all pageId _
    exact decide_eq_true (all pageId)

def commonStores (pages : PageId → PageEntry) : Set String :=
  {storeCode | ∀ pageId, storeCode ∈ (pages pageId).evidence.storeCodes}

/-- **The coverage is complete** exactly when each page is available and as many stores as expected are on every page. -/
theorem coverageOf_complete_iff : (coverageOf pages expectedStoreCount).status = .complete ↔
    (∀ pageId, (pages pageId).page.status = .available) ∧ ((commonStores pages).ncard : Int) = expectedStoreCount := by
  have eight : PageId.all.length = 8 := rfl
  have complete : (coverageOf pages expectedStoreCount).status = .complete ↔
      (pagesWith pages .available).length = PageId.all.length ∧ (pagesWith pages .partially).length = 0 ∧
        (((intersectionOf ((pagesWith pages .available).map fun pageId =>
          (pages pageId).evidence.storeCodes)).length : Nat) : Int) = expectedStoreCount := by
    unfold coverageOf
    dsimp only
    by_cases empty : (pagesWith pages .available).length = 0
    · rw [if_pos empty]
      constructor
      · intro status
        split at status
        · exact nomatch status
        · split at status
          · next all => exact absurd all.1 (by omega)
          · exact nomatch status
      · intro all
        exact absurd all.1 (by omega)
    · rw [if_neg empty, if_neg (fun both => empty both.1)]
      split
      · next all => exact iff_of_true rfl all
      · next other => exact iff_of_false (fun status => nomatch status) other
  rw [complete, length_pagesWith_eq_iff]
  apply and_congr_right
  intro all
  have whole : pagesWith pages .available = PageId.all :=
    List.filter_eq_self.mpr fun pageId _ => decide_eq_true (all pageId)
  have none : (pagesWith pages .partially).length = 0 := by
    rw [List.length_eq_zero_iff]
    apply List.filter_eq_nil_iff.mpr
    intro pageId _
    rw [all pageId]
    decide
  have stores : {storeCode : String |
      ∀ codes ∈ PageId.all.map fun pageId => (pages pageId).evidence.storeCodes, storeCode ∈ codes} =
        commonStores pages := by
    ext storeCode
    rw [Set.mem_ofPred_eq, List.forall_mem_map]
    exact ⟨fun every pageId => every pageId (mem_pageIds pageId), fun every pageId _ => every pageId⟩
  have some_page : PageId.all.map (fun pageId => (pages pageId).evidence.storeCodes) ≠ [] := List.cons_ne_nil _ _
  rw [whole, length_intersectionOf some_page, stores]
  exact and_iff_right none

/-! ## Waybills -/

variable {isDate : Json → Bool} {snapshot : Option Json} {database : DatabasePages}

def rowKey (row : Json) : String × String := (templateText (row.field? "storeCode"), templateText (row.field? "id"))

/-- The key of a waybill, of its store and its id. -/
def joinedKey (key : String × String) : String := key.1 ++ "\x1f" ++ key.2

theorem joinedKey_inj {a b : String × String} (plain : '\x1f' ∉ a.1.toList) (plain' : '\x1f' ∉ b.1.toList)
    (same : joinedKey a = joinedKey b) : a = b := by
  have lists := congrArg String.toList same
  unfold joinedKey at lists
  simp only [String.toList_append, List.append_assoc] at lists
  obtain ⟨store, id⟩ := append_cons_inj_of_first plain plain' lists
  exact Prod.ext (String.toList_inj.mp store) (String.toList_inj.mp id)

/-- The waybills that a snapshot contributes: none where its page is unavailable or has a row that is refused. -/
def sessionWaybills (isDate : Json → Bool) (snapshot : Option Json) : List Json :=
  match ((snapshotPages snapshot).bind (·.field? "waybills")).filter isObject with
  | none => []
  | some page =>
    if isText "UNAVAILABLE" (page.field? "status") = true ∨
        ∃ row ∈ itemsOf (page.field? "rows"), validateOrderManagementRow isDate .waybills row ≠ [] then []
    else itemsOf (page.field? "rows")

theorem validateRows_eq_nil_iff {pageId : PageId} {rows : List Json} {label : String} :
    validateRows isDate pageId rows label = [] ↔ ∀ row ∈ rows, validateOrderManagementRow isDate pageId row = [] := by
  unfold validateRows
  simp only [List.flatMap_eq_nil_iff, List.map_eq_nil_iff]
  constructor
  · intro all row mem
    obtain ⟨index, bound, rfl⟩ := List.mem_iff_getElem.mp mem
    exact all (rows[index], index) (List.mem_zipIdx_iff_getElem?.mpr (List.getElem?_eq_getElem bound))
  · intro all pair mem
    exact all pair.1 (List.fst_mem_of_mem_zipIdx mem)

theorem normalizedOf_waybills {normalized : NormalizedPage}
    (done : normalizedOf isDate snapshot .waybills expectedStoreCount = .ok normalized) :
    normalized.page.rows = sessionWaybills isDate snapshot := by
  unfold normalizedOf at done
  unfold sessionWaybills
  cases found : snapshotPages snapshot with
  | none =>
    rw [found] at done
    obtain rfl := Except.ok.inj done
    rfl
  | some session =>
    rw [found] at done
    dsimp only at done
    unfold normalizeSnapshotPage at done
    show _ = match (session.field? "waybills").filter isObject with | none => [] | some page => _
    have text : PageId.waybills.text = "waybills" := rfl
    rw [text] at done
    cases here : (session.field? "waybills").filter isObject with
    | none =>
      rw [here] at done
      obtain rfl := Except.ok.inj done
      rfl
    | some page =>
      rw [here] at done
      obtain ⟨codes, -, done⟩ := bind_eq_ok done
      obtain rfl := Except.ok.inj done
      have rows : snapshotRows .waybills page = itemsOf (page.field? "rows") := rfl
      rw [rows]
      dsimp only
      unfold normalizedPage
      dsimp only
      split
      · next error errors invalid =>
        have refused : ∃ row ∈ itemsOf (page.field? "rows"), validateOrderManagementRow isDate .waybills row ≠ [] := by
          by_contra valid
          push Not at valid
          rw [validateRows_eq_nil_iff.mpr valid] at invalid
          exact nomatch invalid
        rw [if_pos (.inr refused)]
      · next valid =>
        have all := validateRows_eq_nil_iff.mp valid
        split
        · next unavailable => rw [if_pos (.inl unavailable)]
        · next other =>
          have kept : ¬(isText "UNAVAILABLE" (page.field? "status") = true ∨
              ∃ row ∈ itemsOf (page.field? "rows"), validateOrderManagementRow isDate .waybills row ≠ []) := by
            rintro (unavailable | ⟨row, mem, refused⟩)
            · exact other unavailable
            · exact refused (all row mem)
          rw [if_neg kept]
          split <;> rfl

/-- **The merged waybills**: no two have the same store and id, and they have the stores and ids of all waybills of the
database and the session, where no store code has the separator. -/
theorem mergedWaybillRows_keys {core session : List Json} : ((mergedWaybillRows core session).map rowKey).Nodup ∧
      ((∀ row ∈ core ++ session, '\x1f' ∉ (rowKey row).1.toList) →
        ∀ key, key ∈ (mergedWaybillRows core session).map rowKey ↔ key ∈ (core ++ session).map rowKey) := by
  have joined : waybillKey = joinedKey ∘ rowKey := rfl
  have keys : ∀ key, key ∈ (mergedWaybillRows core session).map waybillKey ↔
      key ∈ (core ++ session).map waybillKey := by
    intro key
    unfold mergedWaybillRows
    rw [List.map_append, List.map_append, List.mem_append, List.mem_append, mem_map_unseen, mem_map_unseen,
      mem_map_unseen]
    constructor
    · rintro (⟨here, -⟩ | ⟨there, -⟩)
      · exact .inl here
      · exact .inr there
    · intro mem
      by_cases here : key ∈ core.map waybillKey
      · exact .inl ⟨here, List.not_mem_nil⟩
      · exact .inr ⟨mem.resolve_left here, fun both => here both.1⟩
  constructor
  · have nodup : ((mergedWaybillRows core session).map waybillKey).Nodup := by
      unfold mergedWaybillRows
      rw [List.map_append, List.nodup_append]
      refine ⟨nodup_map_unseen _ _, nodup_map_unseen _ _, ?_⟩
      rintro key here other there rfl
      exact (mem_map_unseen.mp there).2 here
    rw [joined, ← List.map_map] at nodup
    exact List.Nodup.of_map _ nodup
  · intro plain key
    have inputs : ∀ row ∈ mergedWaybillRows core session, row ∈ core ++ session := by
      intro row mem
      rcases List.mem_append.mp mem with here | there
      · exact List.mem_append_left _ ((unseen_sublist _ _).subset here)
      · exact List.mem_append_right _ ((unseen_sublist _ _).subset there)
    constructor
    · intro mem
      obtain ⟨row, there, rfl⟩ := List.mem_map.mp mem
      exact List.mem_map_of_mem (inputs row there)
    · intro mem
      obtain ⟨row, there, rfl⟩ := List.mem_map.mp mem
      obtain ⟨kept, kept_mem, same⟩ := List.mem_map.mp ((keys _).mpr (List.mem_map_of_mem there))
      have equal := joinedKey_inj (plain kept (inputs kept kept_mem)) (plain row there) same
      exact List.mem_map.mpr ⟨kept, kept_mem, equal⟩

/-! ## The law -/

theorem materializeOrderManagement_eq_ok {now : String} {index : Index}
    (done : materializeOrderManagement isDate database snapshot expectedStoreCount now = .ok index) :
    ∃ session, mergeOrderManagementSessionSnapshot isDate snapshot expectedStoreCount database.waybills.page.rows =
      .ok session ∧ index = indexOf (allPages database session) expectedStoreCount now := by
  obtain ⟨session, merged, done⟩ := bind_eq_ok done
  obtain ⟨-, done⟩ := check_ok_iff.mp done
  exact ⟨session, merged, (Except.ok.inj done).symm⟩

theorem waybills_of_merge {core : List Json} {session : SessionPages}
    (merged : mergeOrderManagementSessionSnapshot isDate snapshot expectedStoreCount core = .ok session) :
    session.waybills.page.rows = mergedWaybillRows core (sessionWaybills isDate snapshot) := by
  obtain ⟨_, -, merged⟩ := bind_eq_ok merged
  obtain ⟨_, -, merged⟩ := bind_eq_ok merged
  obtain ⟨_, -, merged⟩ := bind_eq_ok merged
  obtain ⟨_, -, merged⟩ := bind_eq_ok merged
  obtain ⟨_, -, merged⟩ := bind_eq_ok merged
  obtain ⟨_, -, merged⟩ := bind_eq_ok merged
  obtain ⟨entry, waybills, merged⟩ := bind_eq_ok merged
  obtain rfl := Except.ok.inj merged
  obtain ⟨normalized, page, waybills⟩ := bind_eq_ok waybills
  obtain ⟨codes, -, waybills⟩ := bind_eq_ok waybills
  obtain ⟨-, waybills⟩ := check_ok_iff.mp waybills
  obtain rfl := Except.ok.inj waybills
  rw [← normalizedOf_waybills page]
  show (waybillsPage _ _ _ _).rows = _
  unfold waybillsPage
  dsimp only
  split <;> rfl

theorem isOrderManagementPromotable_indexOf (now : String) :
    isOrderManagementPromotable (indexOf pages expectedStoreCount now) =
      (indexOf pages expectedStoreCount now).promotable := by
  rw [Bool.eq_iff_iff]
  unfold isOrderManagementPromotable indexOf
  simp only [Bool.and_eq_true, decide_eq_true_eq, List.all_eq_true, true_and]
  constructor
  · exact fun all => all.1.1
  · intro complete
    exact ⟨⟨complete, complete⟩, fun pageId _ => (coverageOf_complete_iff.mp complete).1 pageId⟩

/-- **The law of promotion.** An index is promotable exactly when each page is available and as many stores as expected
are on every page; the contract agrees; a page that is not available blocks the promotion; and the waybills of the index
are those of the database and of the session, each once by its store and its id. -/
theorem materializeOrderManagement_law {now : String} {index : Index}
    (done : materializeOrderManagement isDate database snapshot expectedStoreCount now = .ok index) :
    (index.promotable = true ↔ (∀ pageId, (index.pages pageId).status = .available) ∧
      (({storeCode | ∀ pageId, storeCode ∈ (index.evidence pageId).storeCodes} : Set String).ncard : Int) =
        expectedStoreCount) ∧
    isOrderManagementPromotable index = index.promotable ∧
    (∀ pageId, (index.pages pageId).status ≠ .available → isOrderManagementPromotable index = false) ∧
    ((index.pages .waybills).rows.map rowKey).Nodup ∧
    ((∀ row ∈ database.waybills.page.rows ++ sessionWaybills isDate snapshot, '\x1f' ∉ (rowKey row).1.toList) →
      ∀ key, key ∈ (index.pages .waybills).rows.map rowKey ↔
        key ∈ (database.waybills.page.rows ++ sessionWaybills isDate snapshot).map rowKey) := by
  obtain ⟨session, merged, rfl⟩ := materializeOrderManagement_eq_ok done
  have promotable : (indexOf (allPages database session) expectedStoreCount now).promotable = true ↔ _ :=
    decide_eq_true_iff.trans coverageOf_complete_iff
  have rows : ((indexOf (allPages database session) expectedStoreCount now).pages .waybills).rows =
      mergedWaybillRows database.waybills.page.rows (sessionWaybills isDate snapshot) := waybills_of_merge merged
  refine ⟨promotable, isOrderManagementPromotable_indexOf now, ?_, ?_⟩
  · intro pageId other
    rw [isOrderManagementPromotable_indexOf, ← Bool.not_eq_true, promotable]
    exact fun all => other (all.1 pageId)
  · rw [rows]
    exact mergedWaybillRows_keys

/-! ## Two indexes -/

def oneStoreDatabase : DatabasePages :=
  let entry : PageEntry :=
    { page := {
        status := .available, source := "OPENAPI_FACT_DATABASE", latestSourceFetchedAt := .null, reason := .null
        rows := [] }
      evidence := { gates := true, storeCodes := ["QTMZdsy3688"], rowCount := 0, skippedDuplicates := 0 } }
  { deliveryNotes := entry, waybills := entry }

def oneStorePage (status : String) (rows : List Json) : Json :=
  .obj [("status", .str status),
    ("gates", .obj [("totalVerified", .bool true), ("pagingVerified", .bool true), ("dedupeVerified", .bool true),
      ("contentVerified", .bool true), ("storeCount", .ofNat 1)]),
    ("storeCodes", .arr [.str "QTMZdsy3688"]), ("rows", .arr rows)]

def oneStoreSnapshot (waybills : Json) : Json :=
  .obj [("pages", .obj (("waybills", waybills) ::
    [PageId.stockRecords, .returnApplications, .returnOrders, .exceptions, .valueAddedServices, .qualityReports].map
      fun pageId => (pageId.text, oneStorePage "AVAILABLE" [])))]

/-- An index of one store is promoted. -/
theorem one_store_promoted : ∃ index,
    materializeOrderManagement (fun _ => true) oneStoreDatabase
      (some (oneStoreSnapshot (oneStorePage "AVAILABLE" []))) 1 "2026-08-08T06:00:00.000Z" = .ok index ∧
    isOrderManagementPromotable index = true ∧ ∀ pageId, (index.pages pageId).status = .available := by
  have promoted : (materializeOrderManagement (fun _ => true) oneStoreDatabase
      (some (oneStoreSnapshot (oneStorePage "AVAILABLE" []))) 1 "2026-08-08T06:00:00.000Z").toOption.map
        (·.promotable) = some true := by
    decide
  cases done : materializeOrderManagement (fun _ => true) oneStoreDatabase
      (some (oneStoreSnapshot (oneStorePage "AVAILABLE" []))) 1 "2026-08-08T06:00:00.000Z" with
  | error e =>
    rw [done] at promoted
    exact nomatch promoted
  | ok index =>
    rw [done] at promoted
    have law := materializeOrderManagement_law done
    have promotable : index.promotable = true := Option.some.inj promoted
    exact ⟨index, rfl, law.2.1.trans promotable, (law.1.mp promotable).1⟩

def hiddenWaybill : Json :=
  .obj [("id", .str "WB-1"), ("storeCode", .str "QTMZdsy3688"), ("statusCode", .str "SIGNED"), ("statusName", .null),
    ("createdAt", .null), ("updatedAt", .null), ("primary", .str "WB-1"), ("secondary", .null), ("tags", .arr []),
    ("metrics", .arr []), ("facts", .arr []), ("details", .arr [])]

/-- **A waybill on a page that is unavailable** is not in the index. -/
theorem waybill_hidden : ∃ index,
    materializeOrderManagement (fun _ => true) oneStoreDatabase
      (some (oneStoreSnapshot (oneStorePage "UNAVAILABLE" [hiddenWaybill]))) 1 "2026-08-08T06:00:00.000Z" = .ok index ∧
    rowKey hiddenWaybill ∉ (index.pages .waybills).rows.map rowKey := by
  have none : (materializeOrderManagement (fun _ => true) oneStoreDatabase
      (some (oneStoreSnapshot (oneStorePage "UNAVAILABLE" [hiddenWaybill]))) 1 "2026-08-08T06:00:00.000Z").toOption.map
        (fun index => (index.pages .waybills).rows.length) = some 0 := by
    decide
  cases done : materializeOrderManagement (fun _ => true) oneStoreDatabase
      (some (oneStoreSnapshot (oneStorePage "UNAVAILABLE" [hiddenWaybill]))) 1 "2026-08-08T06:00:00.000Z" with
  | error e =>
    rw [done] at none
    exact nomatch none
  | ok index =>
    rw [done] at none
    have empty := List.eq_nil_of_length_eq_zero (Option.some.inj none)
    refine ⟨index, rfl, ?_⟩
    rw [empty]
    exact List.not_mem_nil

end FullManagedBi.OrderManagement
