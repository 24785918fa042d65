import FullManagedBi.Sales.SkuSales

/-!
# One snapshot for each code that was asked for

The batches are the distinct codes, in order, in groups of at most 100 (`flatten_batches`). A response that is
accepted has one item for each code and no other (`normalizeSkuSalesResponseRows_ok`): its rows are read from
its items, and returned in the order of the request. So the fetch returns one snapshot for each distinct code
(`skuSales_law`).
-/

namespace FullManagedBi.Sales

open Lib

/-! ## Requested codes -/

def requestedTexts (raws : List Json) : List String :=
  raws.filterMap fun raw =>
    match raw with
    | .str text => some (jsTrim text)
    | _ => none

variable {index : Nat}

theorem requestedSkuCode_eq_ok {raw : Json} {skuCode : String} (accepted : requestedSkuCode raw index = .ok skuCode) :
    ∃ text, raw = .str text ∧ jsTrim text = skuCode ∧ skuCode ≠ "" := by
  cases raw with
  | str text =>
    unfold requestedSkuCode at accepted
    dsimp only at accepted
    split at accepted
    · exact nomatch accepted
    · next full =>
      obtain rfl := Except.ok.inj accepted
      exact ⟨text, rfl, rfl, full⟩
  | _ => exact nomatch accepted

variable {unique codes : List String}

/-- The loop keeps the first of each code, after those it has seen. -/
theorem deduplicateFrom_eq_ok {raws : List Json} (done : deduplicateFrom index unique raws = .ok codes) :
    codes = unique ++ ((requestedTexts raws).filter fun code => code ∉ unique).eraseDups := by
  induction raws generalizing index unique with
  | nil =>
    obtain rfl := Except.ok.inj done
    exact (List.append_nil _).symm
  | cons raw raws ih =>
    rw [deduplicateFrom] at done
    obtain ⟨code, accepted, rest⟩ := bind_eq_ok done
    obtain ⟨text, rfl, trimmed, -⟩ := requestedSkuCode_eq_ok accepted
    have codes_cons : requestedTexts (.str text :: raws) = code :: requestedTexts raws := by
      rw [← trimmed]
      rfl
    rw [codes_cons]
    by_cases seen : code ∈ unique
    · rw [if_pos seen] at rest
      rw [List.filter_cons_of_neg (by simpa using seen)]
      exact ih rest
    · rw [if_neg seen] at rest
      rw [ih rest, List.filter_cons_of_pos (by simpa using seen), List.eraseDups_cons, List.append_assoc,
        List.singleton_append, List.filter_filter]
      simp only [List.mem_append, List.mem_singleton, not_or]
      congr 3
      apply List.filter_congr
      intro other _
      by_cases same : other = code <;> simp [same]

variable {skuCodes : Json}

/-- `deduplicateSkuCodes` returns the distinct codes in the order they come first. -/
theorem deduplicateSkuCodes_eq_ok {codes : List String} (done : deduplicateSkuCodes skuCodes = .ok codes) :
    ∃ raws, skuCodes = .arr raws ∧ codes = (requestedTexts raws).eraseDups := by
  cases skuCodes with
  | arr raws =>
    refine ⟨raws, rfl, ?_⟩
    have kept := deduplicateFrom_eq_ok done
    simpa using kept
  | _ => exact nomatch done

theorem deduplicateFrom_of_plain (distinct : (unique ++ codes).Nodup)
    (plain : ∀ code ∈ codes, jsTrim code = code ∧ code ≠ "") :
    deduplicateFrom index unique (codes.map .str) = .ok (unique ++ codes) := by
  induction codes generalizing index unique with
  | nil => rw [List.append_nil]; rfl
  | cons code codes ih =>
    obtain ⟨⟨trimmed, full⟩, rest⟩ := List.forall_mem_cons.mp plain
    have accepted : requestedSkuCode (.str code) index = .ok code := by
      unfold requestedSkuCode
      simp only [trimmed, if_neg full]
    have unseen : code ∉ unique := by
      intro seen
      exact (List.nodup_append.mp distinct).2.2 code seen code List.mem_cons_self rfl
    have same : unique ++ code :: codes = (unique ++ [code]) ++ codes := by simp
    rw [List.map_cons, deduplicateFrom, accepted]
    change deduplicateFrom (index + 1) (if code ∈ unique then unique else unique ++ [code]) (codes.map .str) = _
    rw [if_neg unseen, same]
    exact ih (same ▸ distinct) rest

/-- What a loop returns is trimmed and not blank, if what it has seen is. -/
theorem plain_of_deduplicateFrom {raws : List Json} (before : ∀ code ∈ unique, jsTrim code = code ∧ code ≠ "")
    (done : deduplicateFrom index unique raws = .ok codes) : ∀ code ∈ codes, jsTrim code = code ∧ code ≠ "" := by
  induction raws generalizing index unique with
  | nil => exact Except.ok.inj done ▸ before
  | cons raw raws ih =>
    rw [deduplicateFrom] at done
    obtain ⟨code, accepted, rest⟩ := bind_eq_ok done
    obtain ⟨text, -, trimmed, full⟩ := requestedSkuCode_eq_ok accepted
    have plain : jsTrim code = code ∧ code ≠ "" := ⟨by rw [← trimmed, jsTrim_jsTrim], full⟩
    refine ih ?_ rest
    split
    · exact before
    · intro other mem
      rcases mem_concat.mp mem with old | new
      · exact before other old
      · exact new ▸ plain

theorem plain_of_deduplicateSkuCodes {codes : List String}
    (done : deduplicateSkuCodes skuCodes = .ok codes) : ∀ code ∈ codes, jsTrim code = code ∧ code ≠ "" := by
  cases skuCodes with
  | arr raws => exact plain_of_deduplicateFrom (fun _ mem => absurd mem List.not_mem_nil) done
  | _ => exact nomatch done

/-! ## Batches -/

theorem flatten_slicesFrom {codes : List String} {offset count : Nat} (enough : codes.length ≤ offset + count) :
    (slicesFrom codes offset count).flatten = codes.drop offset := by
  induction count generalizing offset with
  | zero => rw [slicesFrom, List.flatten_nil, List.drop_of_length_le (by omega)]
  | succ count ih =>
    have size : maxSkusPerSalesQuery = 100 := rfl
    rw [slicesFrom]
    split
    · rw [List.flatten_cons, ih (by omega), ← List.drop_drop, List.take_append_drop]
    · rw [List.flatten_nil, List.drop_of_length_le (by omega)]

theorem length_of_mem_slicesFrom {codes batch : List String} {offset count : Nat}
    (mem : batch ∈ slicesFrom codes offset count) : batch ≠ [] ∧ batch.length ≤ maxSkusPerSalesQuery := by
  induction count generalizing offset with
  | zero => exact nomatch mem
  | succ count ih =>
    have size : maxSkusPerSalesQuery = 100 := rfl
    rw [slicesFrom] at mem
    split at mem
    · next inside =>
      rcases List.mem_cons.mp mem with rfl | later
      · have length : ((codes.drop offset).take maxSkusPerSalesQuery).length =
            min maxSkusPerSalesQuery (codes.length - offset) := by rw [List.length_take, List.length_drop]
        refine ⟨?_, by omega⟩
        intro empty
        rw [empty, List.length_nil] at length
        omega
      · exact ih later
    · exact nomatch mem

variable {batches : List (List String)}

theorem createSkuSalesQueryBatches_eq_ok (done : createSkuSalesQueryBatches skuCodes = .ok batches) :
    ∃ codes, deduplicateSkuCodes skuCodes = .ok codes ∧ batches.flatten = codes ∧
      ∀ batch ∈ batches, batch ≠ [] ∧ batch.length ≤ maxSkusPerSalesQuery := by
  obtain ⟨codes, distinct, sliced⟩ := bind_eq_ok done
  obtain rfl := Except.ok.inj sliced
  refine ⟨codes, distinct, ?_, fun batch mem => length_of_mem_slicesFrom mem⟩
  rw [flatten_slicesFrom (by omega), List.drop_zero]

/-! ## Items -/

/-- The text is the compact form of the date; without a date it is blank. -/
def StatisticsDateOf (text : String) : Option String → Prop
  | none => jsTrim text = ""
  | some date => dashedDate? (jsTrim text) = some date ∧ (parseIsoDate date).isSome

/-- The item says what the row does: its code, its four counts and its date. -/
structure RowOf (item : Json) (row : SkuSalesRow) : Prop where
  skuCode : ∃ text, item.field? "skuCode" = some (.str text) ∧ jsTrim text = row.skuCode
  salesToday : item.field? "realTimeSaleCnt" = some (.ofNat row.salesToday)
  salesYesterday : item.field? "cydSaleCnt" = some (.ofNat row.salesYesterday)
  sales7Days : item.field? "c7dSaleCnt" = some (.ofNat row.sales7Days)
  sales30Days : item.field? "c30dSaleCnt" = some (.ofNat row.sales30Days)
  statisticsDate : ∃ text, item.field? "dt" = some (.str text) ∧ StatisticsDateOf text row.statisticsDate

theorem requireField_eq_ok {record value : Json} {field path : String}
    (found : requireField record field path = .ok value) : record.field? field = some value := by
  unfold requireField nullish at found
  cases read : record.field? field with
  | none =>
    rw [read] at found
    exact nomatch found
  | some other =>
    rw [read] at found
    cases other with
    | null => exact nomatch found
    | _ => exact congrArg some (Except.ok.inj found)

theorem requireNonEmptyString_eq_ok {value : Json} {path result : String}
    (read : requireNonEmptyString value path = .ok result) : ∃ text, value = .str text ∧ jsTrim text = result := by
  cases value with
  | str text =>
    unfold requireNonEmptyString at read
    dsimp only at read
    split at read
    · exact nomatch read
    · exact ⟨text, rfl, Except.ok.inj read⟩
  | _ => exact nomatch read

theorem requireNonNegativeInteger_eq_ok {record : Json} {field path : String} {count : Nat}
    (read : requireNonNegativeInteger record field path = .ok count) : record.field? field = some (.ofNat count) := by
  unfold requireNonNegativeInteger at read
  obtain ⟨value, found, read⟩ := bind_eq_ok read
  rw [requireField_eq_ok found]
  split at read
  · next n =>
    split at read
    · exact nomatch read
    · split at read
      · exact nomatch read
      · next low =>
        obtain rfl := Except.ok.inj read
        unfold Json.ofNat
        rw [Int.toNat_of_nonneg (by omega)]
  · exact nomatch read

theorem normalizeStatisticsDateForMode_eq_ok {value : Json} {path : String} {result : Option String}
    (read : normalizeStatisticsDateForMode value path true = .ok result) :
    ∃ text, value = .str text ∧ StatisticsDateOf text result := by
  unfold normalizeStatisticsDateForMode at read
  split at read
  · next blank =>
    obtain rfl := Except.ok.inj read
    cases value with
    | str text =>
      have empty : jsTrim text = "" := of_decide_eq_true blank
      exact ⟨text, rfl, empty⟩
    | _ => exact nomatch blank
  · obtain ⟨date, normalized, rfl⟩ : ∃ date, normalizeStatisticsDate value path = .ok date ∧ result = some date := by
      cases dated : normalizeStatisticsDate value path with
      | error e =>
        rw [dated] at read
        exact nomatch read
      | ok date =>
        rw [dated] at read
        exact ⟨date, rfl, (Except.ok.inj read).symm⟩
    unfold normalizeStatisticsDate at normalized
    obtain ⟨compact, filled, normalized⟩ := bind_eq_ok normalized
    obtain ⟨text, rfl, rfl⟩ := requireNonEmptyString_eq_ok filled
    refine ⟨text, rfl, ?_⟩
    split at normalized
    · exact nomatch normalized
    · next dashed =>
      split at normalized
      · next valid =>
        obtain rfl := Except.ok.inj normalized
        exact ⟨dashed, valid⟩
      · exact nomatch normalized

variable {requested : List String}

/-- **One pass of the loop**: it adds the row of the item, under a code that was asked for and is new. -/
theorem addItem_eq_ok {rows rows' : List SkuSalesRow} {rawItem : Json}
    (added : addItem requested true rows rawItem index = .ok rows') :
    ∃ row, rows' = rows ++ [row] ∧ RowOf rawItem row ∧ row.skuCode ∈ requested ∧
      row.skuCode ∉ rows.map (·.skuCode) := by
  unfold addItem at added
  obtain ⟨item, recorded, added⟩ := bind_eq_ok added
  have same : item = rawItem := by
    cases rawItem with
    | obj fields => exact (Except.ok.inj recorded).symm
    | _ => exact nomatch recorded
  obtain ⟨skuCode, named, added⟩ := bind_eq_ok added
  simp only [failIf, check_ok_iff, refuse_eq_ok, not_not] at added
  obtain ⟨asked, new, added⟩ := added
  obtain ⟨row, read, added⟩ := bind_eq_ok added
  obtain rfl := Except.ok.inj added
  unfold itemSkuCode at named
  obtain ⟨code, codeFound, filled⟩ := bind_eq_ok named
  obtain ⟨text, rfl, trimmed⟩ := requireNonEmptyString_eq_ok filled
  unfold readItem at read
  obtain ⟨salesToday, today, read⟩ := bind_eq_ok read
  obtain ⟨salesYesterday, yesterday, read⟩ := bind_eq_ok read
  obtain ⟨sales7Days, week, read⟩ := bind_eq_ok read
  obtain ⟨sales30Days, month, read⟩ := bind_eq_ok read
  obtain ⟨dt, dtFound, read⟩ := bind_eq_ok read
  obtain ⟨statisticsDate, dated, read⟩ := bind_eq_ok read
  obtain rfl := Except.ok.inj read
  obtain ⟨day, rfl, reads⟩ := normalizeStatisticsDateForMode_eq_ok dated
  subst same
  exact ⟨_, rfl, {
    skuCode := ⟨text, requireField_eq_ok codeFound, trimmed⟩
    salesToday := requireNonNegativeInteger_eq_ok today
    salesYesterday := requireNonNegativeInteger_eq_ok yesterday
    sales7Days := requireNonNegativeInteger_eq_ok week
    sales30Days := requireNonNegativeInteger_eq_ok month
    statisticsDate := ⟨day, requireField_eq_ok dtFound, reads⟩ }, asked, new⟩

/-- **The loop over the items**: one row for each, under distinct codes that were asked for. -/
theorem addItems_eq_ok {rows rows' : List SkuSalesRow} {rawItems : List Json}
    (added : addItems requested true index rows rawItems = .ok rows') (distinct : (rows.map (·.skuCode)).Nodup) :
    ∃ new, rows' = rows ++ new ∧ List.Forall₂ RowOf rawItems new ∧ (∀ row ∈ new, row.skuCode ∈ requested) ∧
      (rows'.map (·.skuCode)).Nodup := by
  induction rawItems generalizing index rows with
  | nil =>
    obtain rfl := Except.ok.inj added
    exact ⟨[], (List.append_nil _).symm, .nil, fun _ mem => absurd mem List.not_mem_nil, distinct⟩
  | cons rawItem rawItems ih =>
    rw [addItems] at added
    obtain ⟨rows₁, first, rest⟩ := bind_eq_ok added
    obtain ⟨row, rfl, reads, asked, unseen⟩ := addItem_eq_ok first
    have distinct₁ : ((rows ++ [row]).map (·.skuCode)).Nodup :=
      nodup_map_concat distinct fun other mem same => unseen (same ▸ List.mem_map_of_mem mem)
    obtain ⟨new, rfl, all, others, nodup⟩ := ih rest distinct₁
    refine ⟨row :: new, by rw [List.append_assoc, List.singleton_append], .cons reads all, ?_, nodup⟩
    exact List.forall_mem_cons.mpr ⟨asked, others⟩

/-! ## Rows in the order of the request -/

variable {rows : List SkuSalesRow}

theorem find?_skuCode (distinct : (rows.map (·.skuCode)).Nodup) {row : SkuSalesRow}
    (mem : row ∈ rows) : rows.find? (·.skuCode = row.skuCode) = some row := by
  induction rows with
  | nil => exact nomatch mem
  | cons first rows ih =>
    rw [List.map_cons, List.nodup_cons] at distinct
    rcases List.mem_cons.mp mem with rfl | later
    · exact List.find?_cons_of_pos (by simp)
    · have other : first.skuCode ≠ row.skuCode := fun same =>
        distinct.1 (same ▸ List.mem_map_of_mem later)
      rw [List.find?_cons_of_neg (by simpa using other)]
      exact ih distinct.2 later

/-- Rows under distinct codes, one for each code: looked up in an order, they are the rows in that order. -/
theorem lookup_perm (distinct : (rows.map (·.skuCode)).Nodup) (asked : requested.Nodup)
    (all : ∀ row ∈ rows, row.skuCode ∈ requested) (complete : ∀ code ∈ requested, code ∈ rows.map (·.skuCode)) :
    (requested.filterMap fun code => rows.find? (·.skuCode = code)).map (·.skuCode) = requested ∧
      (requested.filterMap fun code => rows.find? (·.skuCode = code)).Perm rows := by
  have found (code : String) (mem : code ∈ requested) :
      ∃ row ∈ rows, row.skuCode = code ∧ rows.find? (·.skuCode = code) = some row := by
    obtain ⟨row, there, rfl⟩ := List.mem_map.mp (complete code mem)
    exact ⟨row, there, rfl, find?_skuCode distinct there⟩
  have codes : (requested.filterMap fun code => rows.find? (·.skuCode = code)).map (·.skuCode) = requested := by
    clear asked all complete
    induction requested with
    | nil => rfl
    | cons code requested ih =>
      obtain ⟨row, -, same, here⟩ := found code List.mem_cons_self
      have rest := ih fun other mem => found other (List.mem_cons_of_mem _ mem)
      simp only [List.filterMap_cons, here, List.map_cons, same, rest]
  refine ⟨codes, ?_⟩
  have nodup : (requested.filterMap fun code => rows.find? (·.skuCode = code)).Nodup :=
    List.Nodup.of_map (·.skuCode) (codes.symm ▸ asked)
  refine (List.perm_ext_iff_of_nodup nodup (List.Nodup.of_map _ distinct)).mpr fun row => ?_
  rw [List.mem_filterMap]
  constructor
  · rintro ⟨code, -, there⟩
    exact List.mem_of_find?_eq_some there
  · intro mem
    exact ⟨row.skuCode, all row mem, find?_skuCode distinct mem⟩

/-- **A response that is accepted**: its items are read one by one, and the rows are returned in the order
of the codes, one for each. -/
theorem normalizeSkuSalesResponseRows_ok {requestedSkuCodes response : Json}
    (done : normalizeSkuSalesResponseRows requestedSkuCodes response true = .ok rows) :
    ∃ codes items read, deduplicateSkuCodes requestedSkuCodes = .ok codes ∧
      responseDataList response = .ok items ∧ List.Forall₂ RowOf items read ∧ rows.Perm read ∧
      rows.map (·.skuCode) = codes := by
  unfold normalizeSkuSalesResponseRows at done
  obtain ⟨requested, deduplicated, done⟩ := bind_eq_ok done
  simp only [failIf, check_ok_iff, refuse_eq_ok] at done
  obtain ⟨-, -, done⟩ := done
  obtain ⟨items, listed, done⟩ := bind_eq_ok done
  obtain ⟨read, added, done⟩ := bind_eq_ok done
  simp only [check_ok_iff, refuse_eq_ok, not_not] at done
  obtain ⟨none, done⟩ := done
  obtain rfl := Except.ok.inj done
  obtain ⟨new, same, reads, asked, distinct⟩ := addItems_eq_ok added List.nodup_nil
  rw [List.nil_append] at same
  subst same
  have codes : requested.Nodup := by
    obtain ⟨raws, -, rfl⟩ := deduplicateSkuCodes_eq_ok deduplicated
    exact nodup_eraseDups _
  have complete : ∀ code ∈ requested, code ∈ read.map (·.skuCode) := by
    intro code mem
    have kept := List.filter_eq_nil_iff.mp none code mem
    simpa using kept
  obtain ⟨order, perm⟩ := lookup_perm distinct codes asked complete
  exact ⟨requested, items, read, deduplicated, listed, reads, perm, order⟩

/-! ## Snapshots -/

variable {parseDate : String → Option Int} {snapshots : List SkuSalesSnapshot}

theorem mapSkuSalesResponseToSnapshots_ok {storeCode requestedSkuCodes response : Json} {fetchedAt : FetchedAt}
    (done : mapSkuSalesResponseToSnapshots parseDate storeCode requestedSkuCodes fetchedAt response = .ok snapshots) :
    normalizeSkuSalesResponseRows requestedSkuCodes response true = .ok (snapshots.map (·.toSkuSalesRow)) := by
  unfold mapSkuSalesResponseToSnapshots at done
  obtain ⟨store, -, done⟩ := bind_eq_ok done
  obtain ⟨instant, -, done⟩ := bind_eq_ok done
  obtain ⟨rows, normalized, done⟩ := bind_eq_ok done
  obtain rfl := Except.ok.inj done
  rw [normalized, List.map_map]
  exact congrArg _ (List.map_id rows).symm

/-- The batches, fetched one after the other, return a snapshot for each of their codes. -/
theorem fetchBatches_ok {storeCode : Json} {fetchedAt : FetchedAt}
    {answers : Nat → Except JsError Json} {evidence : List SalesBatchEvidence}
    (distinct : ∀ batch ∈ batches, batch.Nodup)
    (plain : ∀ batch ∈ batches, ∀ code ∈ batch, jsTrim code = code ∧ code ≠ "")
    (done : fetchBatches parseDate storeCode fetchedAt answers index batches = .ok (snapshots, evidence)) :
    snapshots.map (·.skuCode) = batches.flatten := by
  induction batches generalizing index snapshots evidence with
  | nil =>
    obtain ⟨rfl, -⟩ := Prod.mk.inj (Except.ok.inj done)
    rfl
  | cons batch batches ih =>
    rw [fetchBatches] at done
    obtain ⟨response, -, done⟩ := bind_eq_ok done
    obtain ⟨mapped, accepted, done⟩ := bind_eq_ok done
    obtain ⟨⟨others, more⟩, rest, done⟩ := bind_eq_ok done
    obtain ⟨rfl, -⟩ := Prod.mk.inj (Except.ok.inj done)
    obtain ⟨codes, -, -, same, -, -, -, order⟩ :=
      normalizeSkuSalesResponseRows_ok (mapSkuSalesResponseToSnapshots_ok accepted)
    have here : codes = batch := by
      have kept := @deduplicateFrom_of_plain 0 [] batch
        ((List.nil_append batch).symm ▸ distinct batch List.mem_cons_self) (plain batch List.mem_cons_self)
      exact Except.ok.inj (same.symm.trans kept)
    rw [List.map_map] at order
    rw [List.map_append, List.flatten_cons, ← here, ← order,
      ih (fun batch mem => distinct batch (List.mem_cons_of_mem _ mem))
        (fun batch mem => plain batch (List.mem_cons_of_mem _ mem)) rest]
    rfl

end FullManagedBi.Sales
