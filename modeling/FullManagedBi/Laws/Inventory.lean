import FullManagedBi.Sales.Inventory

/-!
# A complete inventory, twice

`ScanRead` says what a scan has kept of the pages it read; each item and each page keeps it (`scanItem_read`,
`scanPage_read`), so a scan that returns has read a complete list (`CompleteScan`). The fetch returns when two
scans in a row have the same text, and the text of an item is read back (`prefixFree_itemJson`), so they have
the same items (`fetchFullManagedSkuInventory_stable`).
-/

namespace FullManagedBi.Sales

open Lib

/-! ## The text of the items -/

theorem head?_jsonString (text : String) (rest : List Char) : (jsonString text ++ rest).head? = some '"' := rfl

theorem prefixFree_optionalTextJson : PrefixFree optionalTextJson := by
  have free := prefixFree_jsonString.orNull fun text rest => by
    rw [head?_jsonString]
    decide
  intro a b s t same
  refine free a b s t ?_
  cases a <;> cases b <;> exact same

/-- Five texts with fixed texts around them are read back, the last three of which may be missing. -/
theorem prefixFree_fiveTexts (first second third fourth fifth last : List Char) :
    PrefixFree fun item : String × String × Option String × Option String × Option String =>
      first ++ (jsonString item.1 ++ (second ++ (jsonString item.2.1 ++ (third ++ (optionalTextJson item.2.2.1 ++
        (fourth ++ (optionalTextJson item.2.2.2.1 ++ (fifth ++ (optionalTextJson item.2.2.2.2 ++ last))))))))) := by
  have texts := prefixFree_jsonString
  have optional := prefixFree_optionalTextJson
  have ends := (optional.behind last).before fifth
  have lastTwo := (optional.pair ends).before fourth
  have lastThree := (optional.pair lastTwo).before third
  have lastFour := (texts.pair lastThree).before second
  exact (texts.pair lastFour).before first

/-- **An item is read back from its text.** -/
theorem prefixFree_itemJson : PrefixFree itemJson := by
  have injective : Function.Injective fun item : InventoryItem =>
      (item.skuCode, item.skc, item.designCode, item.supplierSku, item.attributeText) := by
    rintro ⟨_, _, _, _, _⟩ ⟨_, _, _, _, _⟩ same
    simpa using same
  have fields := (prefixFree_fiveTexts "\x7b\"skuCode\":".toList ",\"skc\":".toList ",\"designCode\":".toList
    ",\"supplierSku\":".toList ",\"attribute\":".toList ['}']).comap injective
  exact fields

theorem head?_itemJson (item : InventoryItem) (rest : List Char) : (itemJson item ++ rest).head? = some '{' := by
  unfold itemJson
  rfl

theorem arrayText_itemJson_injective : Function.Injective (arrayText itemJson) := by
  refine (prefixFree_itemJson.array fun item rest => ?_).injective
  rw [head?_itemJson]
  decide

/-! ## The order of the items -/

section Sorting

variable (L : LocaleOrder)

def SkuLe (left right : InventoryItem) : Prop := L.localeCompare left.skuCode right.skuCode ≠ .gt

instance : DecidableRel (SkuLe L) := fun _ _ => inferInstanceAs (Decidable (_ ≠ _))

instance : Std.Total (SkuLe L) where
  total left right := by
    unfold SkuLe
    have turned : L.localeCompare left.skuCode right.skuCode = (L.localeCompare right.skuCode left.skuCode).swap :=
      Std.OrientedCmp.eq_swap
    rw [turned]
    cases L.localeCompare right.skuCode left.skuCode <;> simp

instance : IsTrans InventoryItem (SkuLe L) where
  trans a b c := by
    intro first second
    exact Ordering.isLE_iff_ne_gt.mp (Std.TransCmp.isLE_trans (Ordering.isLE_iff_ne_gt.mpr first)
      (Ordering.isLE_iff_ne_gt.mpr second))

variable (items : List InventoryItem)

theorem perm_sortItems : (sortItems L items).Perm items :=
  List.perm_insertionSort _ items

theorem sortItems_sortItems : sortItems L (sortItems L items) = sortItems L items := by
  have sorted : (sortItems L items).Pairwise (SkuLe L) := List.pairwise_insertionSort (SkuLe L) items
  exact sorted.insertionSort_eq

end Sorting

/-! ## One scan -/

def Carries (results : List InventoryPage) (skc : String) (page : Nat) : Prop :=
  ∃ result ∈ results, result.page = page ∧ ∃ item ∈ result.items, item.skc = skc

/-- What a scan has kept of the pages it read. -/
structure ScanRead (scan : ScanState) (results : List InventoryPage) : Prop where
  items : scan.items = results.flatMap (·.items)
  skus : (scan.items.map (·.skuCode)).Nodup
  skcs : (scan.skcPages.map (·.1)).Nodup
  carried : ∀ skc page, (skc, page) ∈ scan.skcPages ↔ Carries results skc page
  counts : ∀ result ∈ results, scan.advertisedCount = some result.count

def InventoryPage.withItems (result : InventoryPage) (items : List InventoryItem) : InventoryPage :=
  { result with items }

variable {results : List InventoryPage} {result : InventoryPage}

theorem carries_concat {skc : String} {page : Nat} : Carries (results ++ [result]) skc page ↔
      Carries results skc page ∨ result.page = page ∧ ∃ item ∈ result.items, item.skc = skc := by
  unfold Carries
  constructor
  · rintro ⟨other, mem, rest⟩
    rcases mem_concat.mp mem with old | rfl
    · exact .inl ⟨other, old, rest⟩
    · exact .inr rest
  · rintro (⟨other, mem, rest⟩ | rest)
    · exact ⟨other, List.mem_append_left _ mem, rest⟩
    · exact ⟨result, List.mem_concat_self, rest⟩

variable {scan next : ScanState}

/-- What an item that is accepted tells: its SKU is new, and its SKC was on no other page. -/
theorem scanItem_eq_ok {page maxItems : Nat} {item : InventoryItem}
    (accepted : scanItem page maxItems scan item = .ok next) :
    (∀ other ∈ scan.items, other.skuCode ≠ item.skuCode) ∧ next.items = scan.items ++ [item] ∧
      next.advertisedCount = scan.advertisedCount ∧ next.consecutiveEmptyPages = scan.consecutiveEmptyPages ∧
      ((item.skc, page) ∈ scan.skcPages ∧ next.skcPages = scan.skcPages ∨
        item.skc ∉ scan.skcPages.map (·.1) ∧ next.skcPages = scan.skcPages ++ [(item.skc, page)]) := by
  unfold scanItem at accepted
  split at accepted
  · exact nomatch accepted
  next unseen =>
  split at accepted
  · exact nomatch accepted
  next here =>
  split at accepted
  · exact nomatch accepted
  obtain rfl := Except.ok.inj accepted
  refine ⟨?_, rfl, rfl, rfl, ?_⟩
  · intro other mem same
    have absent := List.find?_eq_none.mp unseen other mem
    exact absent (decide_eq_true same)
  · dsimp only
    by_cases seen : (mapGet scan.skcPages item.skc).isSome
    · rw [if_pos seen]
      have same : mapGet scan.skcPages item.skc = some page := by
        by_contra other
        exact here ⟨seen, other⟩
      exact .inl ⟨mem_of_mapGet same, rfl⟩
    · rw [if_neg seen]
      refine .inr ⟨?_, rfl⟩
      intro mem
      obtain ⟨⟨skc, first⟩, there, rfl⟩ := List.mem_map.mp mem
      exact seen (isSome_mapGet there)

variable {maxItems : Nat}

theorem scanItem_read {item : InventoryItem} (read : ScanRead scan (results ++ [result]))
    (accepted : scanItem result.page maxItems scan item = .ok next) :
    ScanRead next (results ++ [result.withItems (result.items ++ [item])]) := by
  obtain ⟨unseen, items, count, -, pages⟩ := scanItem_eq_ok accepted
  have more (skc : String) (page : Nat) :
      Carries (results ++ [result.withItems (result.items ++ [item])]) skc page ↔
        Carries (results ++ [result]) skc page ∨ result.page = page ∧ item.skc = skc := by
    rw [carries_concat, carries_concat, or_assoc, ← and_or_left]
    simp [InventoryPage.withItems, or_and_right, exists_or]
  constructor
  · rw [items, read.items]
    simp [InventoryPage.withItems]
  · rw [items]
    exact nodup_map_concat read.skus unseen
  · rcases pages with ⟨-, same⟩ | ⟨new, added⟩
    · rw [same]
      exact read.skcs
    · rw [added, List.map_append, List.nodup_append]
      refine ⟨read.skcs, List.nodup_singleton _, ?_⟩
      intro skc mem other same equal
      rw [equal, List.mem_singleton.mp same] at mem
      exact new mem
  · intro skc page
    rw [more, ← read.carried]
    rcases pages with ⟨there, same⟩ | ⟨-, added⟩
    · rw [same]
      refine ⟨.inl, ?_⟩
      rintro (mem | ⟨rfl, rfl⟩)
      · exact mem
      · exact there
    · have turned : (skc, page) = (item.skc, result.page) ↔ result.page = page ∧ item.skc = skc := by
        rw [Prod.mk.injEq, and_comm, eq_comm, @eq_comm _ skc]
      rw [added, List.mem_append, List.mem_singleton, turned]
  · intro other mem
    rw [count]
    rcases mem_concat.mp mem with old | last
    · exact read.counts other (List.mem_append_left _ old)
    · rw [last]
      exact read.counts result List.mem_concat_self

variable {items : List InventoryItem}

theorem scanItems_read (read : ScanRead scan (results ++ [result]))
    (accepted : items.foldlM (scanItem result.page maxItems) scan = .ok next) :
    ScanRead next (results ++ [result.withItems (result.items ++ items)]) := by
  induction items generalizing scan result with
  | nil =>
    obtain rfl := Except.ok.inj accepted
    rw [List.append_nil]
    exact read
  | cons item items ih =>
    rw [List.foldlM_cons] at accepted
    obtain ⟨after, first, rest⟩ := bind_eq_ok accepted
    rw [List.append_cons result.items]
    exact ih (scanItem_read read first) rest

theorem scanPage_read (read : ScanRead scan results) (accepted : scanPage maxItems scan result = .ok next) :
    ScanRead next (results ++ [result]) := by
  unfold scanPage at accepted
  rw [check_ok_iff, check_ok_iff, refuse_eq_ok] at accepted
  obtain ⟨steady, -, accepted⟩ := accepted
  obtain ⟨after, items, rest⟩ := bind_eq_ok accepted
  obtain rfl := Except.ok.inj rest
  have start : ScanRead { scan with
      advertisedCount := some result.count, responsePageSize := some result.perPage }
      (results ++ [result.withItems []]) := by
    constructor
    · simpa [InventoryPage.withItems] using read.items
    · exact read.skus
    · exact read.skcs
    · intro skc page
      rw [carries_concat, read.carried]
      simp [InventoryPage.withItems]
    · intro other mem
      rcases mem_concat.mp mem with old | last
      · have known := read.counts other old
        by_contra changed
        refine steady ⟨by simp [known], ?_⟩
        rw [known]
        exact fun same => changed same.symm
      · rw [last]
        rfl
  have read := scanItems_read start items
  exact ⟨read.items, read.skus, read.skcs, read.carried, read.counts⟩

theorem consecutiveEmptyPages_of_scanItems {page maxItems : Nat}
    (read : items.foldlM (scanItem page maxItems) scan = .ok next) :
    next.consecutiveEmptyPages = scan.consecutiveEmptyPages := by
  induction items generalizing scan with
  | nil =>
    obtain rfl := Except.ok.inj read
    rfl
  | cons item items ih =>
    rw [List.foldlM_cons] at read
    obtain ⟨middle, first, rest⟩ := bind_eq_ok read
    rw [ih rest, (scanItem_eq_ok first).2.2.2.1]

theorem consecutiveEmptyPages_of_scanPage (accepted : scanPage maxItems scan result = .ok next) :
    next.consecutiveEmptyPages = scan.consecutiveEmptyPages := by
  unfold scanPage at accepted
  rw [check_ok_iff, check_ok_iff] at accepted
  obtain ⟨after, items, rest⟩ := bind_eq_ok accepted.2.2
  obtain rfl := Except.ok.inj rest
  have same := consecutiveEmptyPages_of_scanItems items
  exact same

/-! ## The walk over the pages -/

def pageRequests (pageSize count : Nat) : List PageRequest :=
  (List.range' 1 count).map fun page => { page, pageSize }

theorem length_pageRequests (pageSize count : Nat) : (pageRequests pageSize count).length = count := by
  unfold pageRequests
  rw [List.length_map, List.length_range']

theorem pageRequests_succ (pageSize count : Nat) :
    pageRequests pageSize (count + 1) = pageRequests pageSize count ++ [{ page := count + 1, pageSize }] := by
  unfold pageRequests
  rw [List.range'_1_concat, List.map_append, List.map_singleton, Nat.add_comm]

/-- The pages are what the client answered to the requests for pages 1, 2, ... after those made before. -/
def Answered (client : InventoryClient) (pageSize : Nat) (made : List PageRequest) (results : List InventoryPage) :
    Prop :=
  ∀ index result, results[index]? = some result → ∃ answer,
    client (made ++ pageRequests pageSize index) = .ok answer ∧ readInventoryPage (index + 1) answer = .ok result

/-- All pages have items but the last `count`, which have none. -/
def EmptyTail (results : List InventoryPage) (count : Nat) : Prop :=
  ∃ body last, results = body ++ last ∧ (∀ result ∈ body, result.items ≠ []) ∧
    (∀ result ∈ last, result.items = []) ∧ last.length = count

/-- The pages are a complete list, read in one scan: the pages up to two empty ones, with one count, which is the
number of SKCs; each SKU is there once, and each SKC on one page. -/
structure CompleteScan (client : InventoryClient) (pageSize : Nat) (made : List PageRequest)
    (results : List InventoryPage) : Prop where
  answered : Answered client pageSize made results
  closed : EmptyTail results 2
  skus : ((results.flatMap (·.items)).map (·.skuCode)).Nodup
  skcs : results.Pairwise fun page other => ∀ item ∈ page.items, ∀ item' ∈ other.items, item.skc ≠ item'.skc
  counts : ∀ result ∈ results, result.count = ((results.flatMap (·.items)).map (·.skc)).toFinset.card

variable {client : InventoryClient} {pageSize : Nat} {made : List PageRequest} {results : List InventoryPage}

theorem page_of_readInventoryPage {page : Nat} {answer : Json}
    (read : readInventoryPage page answer = .ok result) : result.page = page := by
  unfold readInventoryPage at read
  obtain ⟨body, -, read⟩ := bind_eq_ok read
  rw [check_ok_iff] at read
  obtain ⟨info, -, read⟩ := bind_eq_ok read.2
  obtain ⟨responsePage, -, read⟩ := bind_eq_ok read
  obtain ⟨responsePageSize, -, read⟩ := bind_eq_ok read
  obtain ⟨count, -, read⟩ := bind_eq_ok read
  obtain ⟨rows, -, read⟩ := bind_eq_ok read
  rw [check_ok_iff] at read
  obtain ⟨items, -, read⟩ := bind_eq_ok read.2
  obtain rfl := Except.ok.inj read
  rfl

theorem Answered.concat (answered : Answered client pageSize made results) {answer : Json}
    (said : client (made ++ pageRequests pageSize results.length) = .ok answer)
    (read : readInventoryPage (results.length + 1) answer = .ok result) :
    Answered client pageSize made (results ++ [result]) := by
  intro index other there
  rcases Nat.lt_or_ge index results.length with inside | beyond
  · rw [List.getElem?_append_left inside] at there
    exact answered index other there
  · rw [List.getElem?_append_right beyond, List.getElem?_singleton] at there
    split at there
    · next last =>
      obtain rfl := Option.some.inj there
      obtain rfl : index = results.length := by omega
      exact ⟨answer, said, read⟩
    · exact nomatch there

theorem Answered.page (answered : Answered client pageSize made results) {index : Nat}
    (there : results[index]? = some result) : result.page = index + 1 := by
  obtain ⟨answer, -, read⟩ := answered index result there
  exact page_of_readInventoryPage read

theorem EmptyTail.empty {count : Nat} (tail : EmptyTail results count) (empty : result.items = []) : EmptyTail (results ++ [result]) (count + 1) := by
  obtain ⟨body, last, rfl, full, none, length⟩ := tail
  refine ⟨body, last ++ [result], List.append_assoc .., full, ?_, ?_⟩
  · intro other mem
    rcases mem_concat.mp mem with old | new
    · exact none other old
    · exact new ▸ empty
  · rw [List.length_append, List.length_singleton, length]

theorem EmptyTail.full (tail : EmptyTail results 0) (full : result.items ≠ []) :
    EmptyTail (results ++ [result]) 0 := by
  obtain ⟨body, last, rfl, before, -, length⟩ := tail
  obtain rfl := List.length_eq_zero_iff.mp length
  refine ⟨body ++ [result], [], by simp, ?_, fun _ mem => absurd mem List.not_mem_nil, rfl⟩
  intro other mem
  rcases mem_concat.mp mem with old | new
  · exact before other old
  · exact new ▸ full

theorem ScanRead.skcs_apart {scan : ScanState} (read : ScanRead scan results)
    (answered : Answered client pageSize made results) :
    results.Pairwise fun page other => ∀ item ∈ page.items, ∀ item' ∈ other.items, item.skc ≠ item'.skc := by
  rw [List.pairwise_iff_getElem]
  intro i j insideI insideJ before item mem item' mem' same
  have kept : (item.skc, results[i].page) ∈ scan.skcPages :=
    (read.carried _ _).mpr ⟨_, List.getElem_mem insideI, rfl, item, mem, rfl⟩
  have kept' : (item.skc, results[j].page) ∈ scan.skcPages :=
    (read.carried _ _).mpr ⟨_, List.getElem_mem insideJ, rfl, item', mem', same.symm⟩
  have pages := congrArg Prod.snd (List.inj_on_of_nodup_map read.skcs kept kept' rfl)
  dsimp only at pages
  rw [answered.page (List.getElem?_eq_getElem insideI), answered.page (List.getElem?_eq_getElem insideJ)] at pages
  omega

theorem ScanRead.card_skcs {scan : ScanState} (read : ScanRead scan results) :
    scan.skcPages.length = ((results.flatMap (·.items)).map (·.skc)).toFinset.card := by
  have same : (scan.skcPages.map (·.1)).toFinset = ((results.flatMap (·.items)).map (·.skc)).toFinset := by
    ext skc
    rw [List.mem_toFinset, List.mem_toFinset, List.mem_map, List.mem_map]
    constructor
    · rintro ⟨⟨skc, page⟩, mem, rfl⟩
      obtain ⟨result, there, -, item, inside, rfl⟩ := (read.carried skc page).mp mem
      exact ⟨item, List.mem_flatMap.mpr ⟨result, there, inside⟩, rfl⟩
    · rintro ⟨item, mem, rfl⟩
      obtain ⟨result, there, inside⟩ := List.mem_flatMap.mp mem
      exact ⟨(item.skc, result.page), (read.carried _ _).mpr ⟨result, there, rfl, item, inside, rfl⟩, rfl⟩
  rw [← same, List.toFinset_card_of_nodup read.skcs, List.length_map]

/-- What a scan ends in: it asked for the first pages, at most as many as it may; what it returns is read from a
complete list. -/
def ScanEnds (client : InventoryClient) (pageSize : Nat) (made : List PageRequest) (limit : Nat)
    (outcome : Except JsError ScanState) (log : List PageRequest) : Prop :=
  ∃ count ≤ limit, log = made ++ pageRequests pageSize count ∧ ∀ scan, outcome = .ok scan →
    ∃ results, results.length = count ∧ CompleteScan client pageSize made results ∧ ScanRead scan results

/-- **The walk over the pages**, by induction on the pages that are left. -/
theorem scanFrom_ends {maxItems pagesLeft : Nat} {scan : ScanState} (answered : Answered client pageSize made results)
    (read : ScanRead scan results) (tail : EmptyTail results scan.consecutiveEmptyPages)
    (open_ : scan.consecutiveEmptyPages < 2) :
    Ends (scanFrom client pageSize maxItems pagesLeft (results.length + 1) scan)
      (made ++ pageRequests pageSize results.length) (ScanEnds client pageSize made (results.length + pagesLeft)) := by
  induction pagesLeft generalizing results scan with
  | zero => exact ⟨_, le_rfl, rfl, fun _ none => by cases none⟩
  | succ pagesLeft ih =>
    have asked : made ++ pageRequests pageSize results.length ++ [{ page := results.length + 1, pageSize }] =
        made ++ pageRequests pageSize (results.length + 1) := by
      rw [pageRequests_succ, List.append_assoc]
    have stops (outcome : Except JsError ScanState) (fails : ∀ final, outcome ≠ .ok final) :
        ScanEnds client pageSize made (results.length + (pagesLeft + 1)) outcome
          (made ++ pageRequests pageSize (results.length + 1)) :=
      ⟨_, by omega, rfl, fun final ok => absurd ok (fails final)⟩
    rw [scanFrom, fetchFullManagedSkuInventoryPage, requestPage]
    simp only [ends_bind, ends_get, ends_modify, ends_ofExcept, post_ok]
    rw [asked]
    refine post_intro (fun answer said => ?_) fun e _ => stops _ fun _ none => by cases none
    refine post_intro (fun result page => ?_) fun e _ => stops _ fun _ none => by cases none
    refine post_intro (fun next kept => ?_) fun e _ => stops _ fun _ none => by cases none
    have answered' := answered.concat said page
    have read' := scanPage_read read kept
    have empties := consecutiveEmptyPages_of_scanPage kept
    have length : (results ++ [result]).length = results.length + 1 := List.length_append
    have limits : (results ++ [result]).length + pagesLeft = results.length + (pagesLeft + 1) := by omega
    by_cases empty : result.items = []
    · have tail' := tail.empty empty
      rw [if_pos empty]
      by_cases more : next.consecutiveEmptyPages + 1 < 2
      · rw [if_pos more, ← length, ← limits]
        rw [← empties] at tail'
        exact ih answered' ⟨read'.items, read'.skus, read'.skcs, read'.carried, read'.counts⟩ tail' more
      · rw [if_neg more]
        split
        · exact stops _ fun _ none => by cases none
        next count =>
        refine ⟨_, by omega, rfl, ?_⟩
        rintro _ ⟨⟩
        refine ⟨results ++ [result], length, ?_, read'⟩
        have second : scan.consecutiveEmptyPages + 1 = 2 := by omega
        refine ⟨answered', second ▸ tail', read'.items ▸ read'.skus, read'.skcs_apart answered', ?_⟩
        intro other mem
        have counted := read'.counts other mem
        have last := read'.counts result List.mem_concat_self
        rw [Option.mem_unique counted last, ← not_not.mp count, read'.card_skcs]
    · rw [if_neg empty]
      split
      · exact stops _ fun _ none => by cases none
      next none =>
      split
      · exact stops _ fun _ none => by cases none
      have zero : scan.consecutiveEmptyPages = 0 := by omega
      have tail' : EmptyTail (results ++ [result]) next.consecutiveEmptyPages := by
        rw [empties, zero]
        exact (zero ▸ tail).full empty
      rw [← length, ← limits]
      exact ih answered' read' tail' (by omega)

/-! ## Two sweeps -/

/-- The pages of a complete list, and the list of their items in the order of the codes. -/
structure SweepOf (L : LocaleOrder) (client : InventoryClient) (pageSize : Nat) (made : List PageRequest)
    (results : List InventoryPage) (items : List InventoryItem) : Prop where
  complete : CompleteScan client pageSize made results
  sorted : items = sortItems L (results.flatMap (·.items))

/-- Before the last request there were two complete scans in a row with the items that are returned. Their SKUs
are unique, and the count is the number of their SKCs. -/
structure StableSweeps (L : LocaleOrder) (client : InventoryClient) (pageSize : Nat) (log : List PageRequest)
    (inventory : StableInventory) : Prop where
  sweeps : ∃ made first second,
    log = made ++ pageRequests pageSize first.length ++ pageRequests pageSize second.length ∧
      SweepOf L client pageSize made first inventory.items ∧
      SweepOf L client pageSize (made ++ pageRequests pageSize first.length) second inventory.items
  skus : (inventory.items.map (·.skuCode)).Nodup
  count : inventory.count = inventory.items.length
  advertisedCount : inventory.advertisedCount = (inventory.items.map (·.skc)).toFinset.card

theorem scanFullManagedSkuInventory_ends (L : LocaleOrder) (maxPages maxItems : Nat) :
    Ends (scanFullManagedSkuInventory L client pageSize maxPages maxItems) made fun outcome log =>
      ∃ count ≤ maxPages, log = made ++ pageRequests pageSize count ∧ ∀ scan, outcome = .ok scan →
        ∃ results, results.length = count ∧ SweepOf L client pageSize made results scan.items ∧
          scan.count = scan.items.length ∧
          scan.advertisedCount = (scan.items.map (·.skc)).toFinset.card := by
  have start : ScanRead {} [] := by
    constructor <;> simp [Carries]
  have walk : Ends (scanFrom client pageSize maxItems maxPages 1 {}) (made ++ pageRequests pageSize 0)
      (ScanEnds client pageSize made (0 + maxPages)) :=
    scanFrom_ends (fun _ _ there => absurd there (by simp)) start ⟨[], [], rfl, nofun, nofun, rfl⟩ Nat.two_pos
  have asked : made ++ pageRequests pageSize 0 = made := List.append_nil made
  rw [asked] at walk
  unfold scanFullManagedSkuInventory
  refine ends_bind.mpr (walk.mono ?_)
  rintro outcome log ⟨count, le, rfl, complete⟩
  refine post_intro ?_ fun e _ => ⟨count, by omega, rfl, nofun⟩
  rintro scan rfl
  obtain ⟨results, length, read, kept⟩ := complete scan rfl
  refine ends_pure.mpr ⟨count, by omega, rfl, ?_⟩
  rintro _ ⟨⟩
  have perm : (sortItems L scan.items).Perm scan.items := perm_sortItems L scan.items
  refine ⟨results, length, ⟨read, by rw [kept.items]⟩, perm.length_eq.symm, ?_⟩
  obtain ⟨body, last, split, -, -, two⟩ := read.closed
  have some : last ≠ [] := by
    rintro rfl
    exact nomatch two
  obtain ⟨result, mem⟩ := List.exists_mem_of_ne_nil last some
  have inside : result ∈ results := split ▸ List.mem_append_right _ mem
  dsimp only
  rw [kept.counts result inside, Option.getD_some, read.counts result inside, ← kept.items]
  congr 1
  ext skc
  rw [List.mem_toFinset, List.mem_toFinset, (perm.map _).mem_iff]

/-- **The sweeps**, by induction on those that are left. -/
theorem sweepFrom_ends (L : LocaleOrder) {maxPages maxItems sweepsLeft sweep : Nat} {previous : Option InventoryScan}
    {log : List PageRequest} (last : ∀ scan, previous = some scan → ∃ made results,
      log = made ++ pageRequests pageSize results.length ∧ SweepOf L client pageSize made results scan.items) :
    Ends (sweepFrom L client pageSize maxPages maxItems sweepsLeft sweep previous) log fun outcome log' =>
      log'.length ≤ log.length + sweepsLeft * maxPages ∧ ∀ inventory, outcome = .ok inventory →
        StableSweeps L client pageSize log' inventory := by
  induction sweepsLeft generalizing sweep previous log with
  | zero => exact ends_throw.mpr ⟨by omega, nofun⟩
  | succ sweepsLeft ih =>
    rw [sweepFrom]
    refine ends_bind.mpr ((scanFullManagedSkuInventory_ends L maxPages maxItems).mono ?_)
    rintro outcome _ ⟨count, le, rfl, complete⟩
    have room : (sweepsLeft + 1) * maxPages = sweepsLeft * maxPages + maxPages := Nat.succ_mul ..
    have length : (log ++ pageRequests pageSize count).length = log.length + count := by
      rw [List.length_append, length_pageRequests]
    refine post_intro ?_ fun e _ => ⟨by omega, nofun⟩
    rintro current rfl
    obtain ⟨results, rfl, swept, counted, advertised⟩ := complete current rfl
    split
    · next same =>
      obtain ⟨before, rfl, -, text⟩ := same
      obtain ⟨made, first, rfl, sweptBefore⟩ := last before rfl
      refine ends_pure.mpr ⟨by omega, ?_⟩
      rintro _ ⟨⟩
      have items : current.items = before.items := by
        have sorted := arrayText_itemJson_injective text
        rwa [swept.sorted, sortItems_sortItems, ← swept.sorted, sweptBefore.sorted, sortItems_sortItems,
          ← sweptBefore.sorted] at sorted
      refine ⟨⟨made, first, results, rfl, items ▸ sweptBefore, swept⟩, ?_, counted, advertised⟩
      dsimp only
      rw [swept.sorted]
      exact ((perm_sortItems L _).map _).nodup_iff.mpr swept.complete.skus
    · refine (ih ?_).mono ?_
      · rintro scan ⟨⟩
        exact ⟨log, results, rfl, swept⟩
      · rintro outcome log' ⟨bound, stable⟩
        exact ⟨by omega, stable⟩

/-- **A stable inventory.** Whatever the client answers, and however its answers change from request to request:
the fetch makes at most `maxSweeps * maxPages` requests, and the inventory it returns was read in two complete
scans in a row with the same items; its SKUs are unique, each SKC is on one page, and the count is the number of
the SKCs. -/
theorem fetchFullManagedSkuInventory_stable (L : LocaleOrder) (client : InventoryClient) (options : SweepOptions) :
    Ends (fetchFullManagedSkuInventory L client options) [] fun outcome log =>
      log.length ≤ options.maxSweeps * options.maxPages ∧ ∀ inventory, outcome = .ok inventory →
        StableSweeps L client options.pageSize log inventory := by
  unfold fetchFullManagedSkuInventory
  rw [ends_bind, ends_ofExcept]
  refine post_intro (fun _ _ => ?_) fun e _ => ⟨Nat.zero_le _, nofun⟩
  refine (sweepFrom_ends L ?_).mono ?_
  · exact fun scan none => nomatch none
  · rintro outcome log ⟨bound, stable⟩
    rw [List.length_nil, Nat.zero_add] at bound
    exact ⟨bound, stable⟩

end FullManagedBi.Sales
