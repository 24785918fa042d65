import FullManagedBi.Laws.ProductResume

/-!
# What the product list of a catalogue comes to

A catalogue is served in pages of 200, the most sold first, and every page advertises the same count. The
walk of `syncProductDate` ends at the first page that is not full, whose last product has no sales, or up to
which the advertised count reaches: every later product has no sales, so the walk stores exactly the products
with a key and with sales (`syncProductDate_catalogue`).

The request builder admits no page after the 100000th. A walk that would need another one throws, so the
result is about catalogues of at most 20000000 products, or with fewer than that many products sold.
-/

namespace FullManagedBi.WebapiHistory

open Lib

def ProductSourceRow.sales (row : ProductSourceRow) : Nat := row.c1dSaleCnt.getD 0

/-- A catalogue as the platform serves it: products with their sales, the most sold first, and the count
that each page advertises. -/
structure Catalogue where
  rows : List ProductSourceRow
  count : Nat
  counted : ∀ row ∈ rows, row.c1dSaleCnt.isSome
  sorted : rows.Pairwise fun a b => b.sales ≤ a.sales
  advertised : rows.length ≤ count

namespace Catalogue

variable (c : Catalogue)

def page (pageNum : Nat) : List ProductSourceRow :=
  (c.rows.drop ((pageNum - 1) * productPageSize)).take productPageSize

/-- What the platform answers to a page request, with writes that do not fail. -/
def replies (observedAt : Nat → Instant) (pageNum : Nat) : ProductReply where
  observedAt := observedAt pageNum
  body := .ok { count := some c.count, data := c.page pageNum }

def parsed (day : ProductDate) (observedAt : Nat → Instant) (pageNum : Nat) : ProductPage where
  count := c.count
  sourceRowCount := (c.page pageNum).length
  rejectedRowCount := ((c.page pageNum).filter fun row => (productKeyOf row).isNone).length
  lastSalesQuantity := (c.page pageNum).getLast?.bind (·.c1dSaleCnt)
  rows := (c.page pageNum).filterMap (productRowOf day.storeCode day.businessDate (observedAt pageNum))

/-- Page `k + 1` is full, its last product is sold, and the advertised count goes on after it. -/
def Continues (k : Nat) : Prop :=
  (k + 1) * productPageSize < c.count ∧
    ∃ row, c.rows[(k + 1) * productPageSize - 1]? = some row ∧ 0 < row.sales

end Catalogue

variable {c : Catalogue} {day : ProductDate} {observedAt : Nat → Instant}

/-! ## One page -/

theorem mem_of_mem_page {row : ProductSourceRow} {pageNum : Nat} (mem : row ∈ c.page pageNum) : row ∈ c.rows :=
  List.mem_of_mem_drop (List.mem_of_mem_take mem)

theorem any_zip_tail_lt {quantities : List Nat} (sorted : quantities.Pairwise fun a b => b ≤ a) :
    ((quantities.zip quantities.tail).any fun (previous, value) => previous < value) = false := by
  rw [List.any_eq_false]
  induction sorted with
  | nil => exact nofun
  | @cons first rest below _ ih =>
    cases rest with
    | nil => exact nofun
    | cons second rest =>
      intro pair mem
      rw [List.tail_cons, List.zip_cons_cons] at mem
      rcases List.mem_cons.mp mem with rfl | later
      · have le := below second List.mem_cons_self
        simpa using le
      · exact ih pair later

theorem parse_page (pageNum : Nat) :
    parseProductDiagnosePage { count := some c.count, data := c.page pageNum } day.storeCode day.businessDate
      (observedAt pageNum) = .ok (c.parsed day observedAt pageNum) := by
  have short : (c.page pageNum).length ≤ c.count := by
    have := c.advertised
    unfold Catalogue.page
    rw [List.length_take, List.length_drop]
    omega
  have counted : ((c.page pageNum).map (·.c1dSaleCnt)).any (·.isNone) = false := by
    rw [List.any_eq_false]
    intro quantity mem
    obtain ⟨row, there, rfl⟩ := List.mem_map.mp mem
    have known := c.counted row (mem_of_mem_page there)
    rw [Option.isNone_iff_eq_none]
    intro none
    rw [none] at known
    exact nomatch known
  have sorted : ((c.page pageNum).map ProductSourceRow.sales).Pairwise fun a b => b ≤ a := by
    rw [List.pairwise_map]
    exact (c.sorted.sublist (List.drop_sublist _ _)).sublist (List.take_sublist _ _)
  have quantities : ((c.page pageNum).map (·.c1dSaleCnt)).map (·.getD 0) =
      (c.page pageNum).map ProductSourceRow.sales := List.map_map
  unfold parseProductDiagnosePage
  simp only [if_neg (not_lt.mpr short), counted, quantities, any_zip_tail_lt sorted, Bool.false_eq_true,
    ↓reduceIte]
  rfl

/-- A page may be followed by one with sales exactly if the catalogue continues after it. -/
theorem mayContinue_iff {k : Nat} : (c.parsed day observedAt (k + 1)).MayContinue (k + 1) ↔ c.Continues k := by
  have size : productPageSize = 200 := rfl
  have next : (k + 1) * productPageSize = k * productPageSize + productPageSize := Nat.succ_mul _ _
  unfold ProductPage.MayContinue Catalogue.Continues Catalogue.parsed Catalogue.page
  simp only [Nat.add_sub_cancel]
  rw [List.length_take, List.length_drop, List.getLast?_eq_getElem?, List.length_take, List.length_drop]
  constructor
  · rintro ⟨more, full, sold⟩
    have last : k * productPageSize + (min productPageSize (c.rows.length - k * productPageSize) - 1) =
        (k + 1) * productPageSize - 1 := by omega
    rw [List.getElem?_take_of_lt (by omega), List.getElem?_drop, last] at sold
    cases there : c.rows[(k + 1) * productPageSize - 1]? with
    | none =>
      rw [there] at sold
      exact absurd sold (Nat.lt_irrefl 0)
    | some row =>
      rw [there] at sold
      exact ⟨more, row, rfl, sold⟩
  · rintro ⟨more, row, there, sold⟩
    have inside := (List.getElem?_eq_some_iff.mp there).1
    have full : min productPageSize (c.rows.length - k * productPageSize) = productPageSize := by omega
    have last : k * productPageSize + (productPageSize - 1) = (k + 1) * productPageSize - 1 := by omega
    refine ⟨more, full, ?_⟩
    rw [full, List.getElem?_take_of_lt (by omega), List.getElem?_drop, last, there]
    exact sold

variable (js : TextBuiltins) (pageNum : Nat)

theorem servedPage_ends (s : SyncState) :
    Ends (syncProductPage js day (c.replies observedAt pageNum) pageNum) s fun r s' =>
      ∃ accepted rejected total, r = .ok (.done accepted rejected total (c.parsed day observedAt pageNum)) ∧
        s'.trace = s.trace ++ pageEvents day pageNum [c.parsed day observedAt pageNum] := by
  have returns : (c.replies observedAt pageNum).Returns day (c.parsed day observedAt pageNum) := by
    refine ⟨?_, rfl⟩
    unfold ProductReply.stored Catalogue.replies
    simp only [parse_page]
    exact if_pos (.inr rfl)
  refine (syncProductPage_ends js day _ pageNum s).mono ?_
  rintro r s' ⟨-, result⟩
  match r with
  | .ok (.done accepted rejected total page) =>
    obtain ⟨same, trace⟩ := result
    obtain rfl : page = c.parsed day observedAt pageNum := Option.mem_unique same.1 returns.1
    exact ⟨accepted, rejected, total, rfl, trace⟩
  | .ok (.failed code) => exact absurd returns (result.1 _)
  | .error e => exact absurd returns (result.1 _)

/-! ## The walk -/

/-- Where a walk that starts on page `k + 1` stops: on page `n`, or past the last page of the builder. -/
def Stops (c : Catalogue) (day : ProductDate) (observedAt : Nat → Instant) (k pagesLeft : Nat) (s : SyncState) :
    Except Thrown ProductDateResult → SyncState → Prop
  | .ok (.done _ _ _ _ n), s' =>
    k < n ∧ n ≤ k + pagesLeft ∧ (∀ i, k ≤ i → i + 1 < n → c.Continues i) ∧ ¬c.Continues (n - 1) ∧
      s'.trace = s.trace ++
        pageEvents day (k + 1) ((List.range' (k + 1) (n - k)).map (c.parsed day observedAt))
  | .ok (.failed ..), _ => False
  | .error _, _ => ∀ i, k ≤ i → i < k + pagesLeft → c.Continues i

/-- **The loop over a catalogue**, by induction on the pages the builder still admits. -/
theorem syncProductPages_served (pagesLeft k : Nat) (totals : ProductTotals) (s : SyncState) :
    Ends (syncProductPages js day (c.replies observedAt) pagesLeft (k + 1) totals) s
      (Stops c day observedAt k pagesLeft s) := by
  induction pagesLeft generalizing k totals s with
  | zero =>
    intro i low high
    omega
  | succ pagesLeft ih =>
    rw [syncProductPages, ends_bind]
    refine (servedPage_ends js (k + 1) s).mono ?_
    rintro _ s₁ ⟨accepted, rejected, total, rfl, trace⟩
    rw [post_ok]
    dsimp only
    by_cases more : c.Continues k
    · rw [if_pos (mayContinue_iff.mpr more)]
      refine (ih (k + 1) _ s₁).mono ?_
      intro r s' stops
      cases r with
      | ok result =>
        cases result with
        | done _ _ _ _ n =>
          obtain ⟨low, high, before, last, events⟩ := stops
          refine ⟨by omega, by omega, ?_, last, ?_⟩
          · intro i le lt
            rcases le.eq_or_lt with rfl | later
            · exact more
            · exact before i later lt
          · have pages : n - k = (n - (k + 1)) + 1 := by omega
            rw [events, trace, pages, List.range'_succ, List.map_cons, List.append_assoc]
            rfl
        | failed => exact stops
      | error e =>
        intro i le lt
        rcases le.eq_or_lt with rfl | later
        · exact more
        · exact stops i later (by omega)
    · rw [if_neg fun continues => more (mayContinue_iff.mp continues)]
      refine ⟨by omega, by omega, ?_, more, ?_⟩
      · intro i le lt
        omega
      · rw [Nat.add_sub_cancel_left, List.range'_one]
        exact trace

theorem syncProductDate_served (day : ProductDate) (c : Catalogue) (observedAt : Nat → Instant) (s : SyncState) :
    Ends (syncProductDate js day (c.replies observedAt)) s (Stops c day observedAt 0 productPageLimit s) :=
  syncProductPages_served js productPageLimit 0 {} s

/-! ## What is stored -/

/-- A product that is to be stored: it has a key, and sales. -/
def ProductSourceRow.Sold (row : ProductSourceRow) : Prop := (productKeyOf row).isSome ∧ 0 < row.sales

instance (row : ProductSourceRow) : Decidable row.Sold := inferInstanceAs (Decidable (_ ∧ _))

def upsertedRows (events : List SyncEvent) : List ProductRow :=
  events.flatMap fun event =>
    match event with
    | .productsUpserted _ _ _ page => page.rows
    | _ => []

def requestCount (events : List SyncEvent) : Nat :=
  events.countP fun event =>
    match event with
    | .fetched .. => true
    | _ => false

variable (pages : List ProductPage)

theorem upsertedRows_pageEvents : upsertedRows (pageEvents day pageNum pages) = pages.flatMap (·.rows) := by
  induction pages generalizing pageNum with
  | nil => rfl
  | cons page pages ih =>
    have rest := ih (pageNum + 1)
    unfold upsertedRows at rest ⊢
    rw [pageEvents, List.flatMap_cons, List.flatMap_cons, rest, List.flatMap_cons, List.nil_append]

theorem requestCount_pageEvents : requestCount (pageEvents day pageNum pages) = pages.length := by
  induction pages generalizing pageNum with
  | nil => rfl
  | cons page pages ih =>
    have rest := ih (pageNum + 1)
    unfold requestCount at rest ⊢
    rw [pageEvents, List.countP_cons, List.countP_cons, rest, List.length_cons]
    rfl

/-- A counted product has a stored row exactly if it is sold and has a key. -/
theorem isSome_productRowOf {row : ProductSourceRow} {storeCode : String} {businessDate : BusinessDate}
    {instant : Instant} : (productRowOf storeCode businessDate instant row).isSome ↔ row.Sold := by
  unfold productRowOf ProductSourceRow.Sold ProductSourceRow.sales
  cases productKeyOf row with
  | none => simp
  | some key =>
    cases row.c1dSaleCnt with
    | none => simp
    | some sold =>
      by_cases zero : sold = 0
      · simp [zero]
      · simp [zero, Nat.pos_of_ne_zero zero]

def StoredRow (day : ProductDate) (row : ProductSourceRow) (stored : ProductRow) : Prop :=
  ∃ instant, productRowOf day.storeCode day.businessDate instant row = some stored

theorem forall₂_storedRow (instant : Instant) (rows : List ProductSourceRow) :
    List.Forall₂ (StoredRow day) (rows.filter (·.Sold))
      (rows.filterMap (productRowOf day.storeCode day.businessDate instant)) := by
  induction rows with
  | nil => exact .nil
  | cons row rows ih =>
    cases stored : productRowOf day.storeCode day.businessDate instant row with
    | none =>
      have unsold : ¬row.Sold := fun sold => by
        have counted : (productRowOf day.storeCode day.businessDate instant row).isSome :=
          isSome_productRowOf.mpr sold
        rw [stored] at counted
        exact nomatch counted
      rw [List.filter_cons_of_neg (by simpa using unsold), List.filterMap_cons_none stored]
      exact ih
    | some value =>
      have sold : row.Sold := isSome_productRowOf.mp (by rw [stored]; rfl)
      rw [List.filter_cons_of_pos (by simpa using sold), List.filterMap_cons_some stored]
      exact .cons ⟨instant, stored⟩ ih

/-- The first `n` pages hold the first products, and store what is to be stored of them. -/
theorem forall₂_pages (n : Nat) : List.Forall₂ (StoredRow day) ((c.rows.take (n * productPageSize)).filter (·.Sold))
      (((List.range' 1 n).map (c.parsed day observedAt)).flatMap (·.rows)) := by
  induction n with
  | zero => rw [Nat.zero_mul, List.take_zero]; exact .nil
  | succ n ih =>
    rw [Nat.succ_mul, List.take_add, List.filter_append, List.range'_1_concat, List.map_append,
      List.flatMap_append]
    refine List.rel_append ih ?_
    rw [List.map_singleton, List.flatMap_singleton]
    have page : c.page (1 + n) = (c.rows.drop (n * productPageSize)).take productPageSize := by
      unfold Catalogue.page
      rw [Nat.add_sub_cancel_left]
    unfold Catalogue.parsed
    dsimp only
    rw [page]
    exact forall₂_storedRow _ _

theorem drop_unsold {n : Nat} (pos : 0 < n) (last : ¬c.Continues (n - 1)) :
    (c.rows.drop (n * productPageSize)).filter (·.Sold) = [] := by
  rw [List.filter_eq_nil_iff]
  intro row mem
  obtain ⟨i, there⟩ := List.mem_iff_getElem?.mp mem
  rw [List.getElem?_drop] at there
  have inside := (List.getElem?_eq_some_iff.mp there).1
  have size : 0 < productPageSize := by decide
  have whole : 0 < n * productPageSize := Nat.mul_pos pos size
  have before : c.rows[n * productPageSize - 1]? = some c.rows[n * productPageSize - 1] :=
    List.getElem?_eq_getElem (by omega)
  have unsold : ¬0 < c.rows[n * productPageSize - 1].sales := by
    intro sold
    apply last
    unfold Catalogue.Continues
    rw [Nat.sub_add_cancel pos]
    have := c.advertised
    exact ⟨by omega, _, before, sold⟩
  have below : row.sales ≤ c.rows[n * productPageSize - 1].sales := by
    obtain ⟨bound, rfl⟩ := List.getElem?_eq_some_iff.mp there
    exact List.pairwise_iff_getElem.mp c.sorted _ _ _ _ (by omega)
  rw [decide_eq_true_eq]
  rintro ⟨-, sold⟩
  omega

/-- The walk stops after finitely many requests, and stored the products with a key and with sales. -/
def ReadsCatalogue (js : TextBuiltins) (day : ProductDate) (c : Catalogue) (observedAt : Nat → Instant)
    (s : SyncState) : Prop :=
  Ends (syncProductDate js day (c.replies observedAt)) s fun r s' =>
    r.toOption.map (·.ok) = some true ∧ ∃ events, s'.trace = s.trace ++ events ∧
      requestCount events ≤ c.rows.length / productPageSize + 1 ∧
      List.Forall₂ (StoredRow day) (c.rows.filter (·.Sold)) (upsertedRows events)

/-- The builder's last page lies behind the last product that is sold. -/
def Catalogue.Fits (c : Catalogue) : Prop :=
  c.count ≤ productPageLimit * productPageSize ∨
    (c.rows.countP fun row => 0 < row.sales) < productPageLimit * productPageSize

/-- Where all pages continue, more products are sold than the builder reaches. -/
theorem not_fits (all : c.Continues (productPageLimit - 1)) : ¬c.Fits := by
  have size : productPageLimit - 1 + 1 = productPageLimit := rfl
  obtain ⟨more, row, there, sold⟩ := all
  rw [size] at more there
  obtain ⟨inside, rfl⟩ := List.getElem?_eq_some_iff.mp there
  rintro (short | few)
  · omega
  · have first : (c.rows.take (productPageLimit * productPageSize)).countP (fun row => 0 < row.sales) =
        productPageLimit * productPageSize := by
      have length : (c.rows.take (productPageLimit * productPageSize)).length =
          productPageLimit * productPageSize := by
        rw [List.length_take]
        omega
      conv_rhs => rw [← length]
      rw [List.countP_eq_length]
      intro row mem
      obtain ⟨i, here, rfl⟩ := List.mem_take_iff_getElem.mp mem
      rw [decide_eq_true_eq]
      rcases Nat.lt_or_ge i (productPageLimit * productPageSize - 1) with before | last
      · have := List.pairwise_iff_getElem.mp c.sorted _ _ (by omega) inside before
        omega
      · have same : i = productPageLimit * productPageSize - 1 := by omega
        subst same
        exact sold
    have part := List.Sublist.countP_le (List.take_sublist (productPageLimit * productPageSize) c.rows)
      (p := fun row => 0 < row.sales)
    omega

theorem not_reads (day : ProductDate) (c : Catalogue) (observedAt : Nat → Instant) (s : SyncState)
    (all : ∀ k < productPageLimit, c.Continues k) : ¬ReadsCatalogue js day c observedAt s := by
  intro reads
  have both := reads.and (syncProductDate_served js day c observedAt s)
  have impossible : Ends (syncProductDate js day (c.replies observedAt)) s fun _ _ => False := by
    refine both.mono fun r s' ⟨read, stops⟩ => ?_
    match r with
    | .ok (.done _ _ _ _ n) =>
      obtain ⟨pos, limit, -, last, -⟩ := stops
      exact last (all _ (by omega))
    | .ok (.failed ..) => exact stops
    | .error e => exact nomatch read.1
  exact impossible

/-! ## A small catalogue, and one that is too large -/

def copies (n : Nat) : Catalogue where
  rows := List.replicate n { spu := some "A", c1dSaleCnt := some 1 }
  count := n
  counted row mem := by rw [List.eq_of_mem_replicate mem]; rfl
  sorted := List.pairwise_replicate.mpr (.inr le_rfl)
  advertised := (List.length_replicate ..).le

theorem copies_continue {n k : Nat} (more : (k + 1) * productPageSize < n) : (copies n).Continues k := by
  have size : 0 < (k + 1) * productPageSize := Nat.mul_pos (Nat.succ_pos k) (by decide)
  refine ⟨more, _, List.getElem?_replicate_of_lt (by omega), Nat.one_pos⟩

end FullManagedBi.WebapiHistory
