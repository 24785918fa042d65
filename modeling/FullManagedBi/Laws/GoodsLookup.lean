import FullManagedBi.Warehouse.GoodsLookup

/-!
# The goods of a product

An index has, for each key, what the rows of the key agree on (`get?_registerAll`): a value that is forgotten stays
forgotten. A key has one store and one normalized value (`storeIdentifierKey_inj`), for a store code has no separator. So
an index answers with what the rows of one store with one identifier agree on (`candidate_code_iff`), which has nothing to
do with the order of the rows, or with the rows of other stores.
-/

namespace FullManagedBi.GoodsLookup

open Lib

variable {B : NormalizeBuiltin}

/-! ## What the values of a key agree on -/

/-- Nothing where there are no values, the first value where all have its code, and `null` otherwise. -/
def agreed : List GoodsAssignment → Option (Option GoodsAssignment)
  | [] => none
  | first :: rest =>
    some (if rest.all fun value => value.standardGoodsCode = first.standardGoodsCode then some first else none)

theorem agreed_concat (values : List GoodsAssignment) (value : GoodsAssignment) :
    agreed (values ++ [value]) = match agreed values with
      | none => some (some value)
      | some current =>
        if current.map (·.standardGoodsCode) ≠ some value.standardGoodsCode then some none else some current := by
  cases values with
  | nil => rfl
  | cons first rest =>
    rw [List.cons_append]
    simp only [agreed, List.all_append, List.all_cons, List.all_nil, Bool.and_true]
    by_cases same : (rest.all fun value => value.standardGoodsCode = first.standardGoodsCode) = true
    · by_cases last : value.standardGoodsCode = first.standardGoodsCode
      · simp [same, last]
      · simp [same, last, Ne.symm last]
    · simp [same]

theorem agreed_code_iff {values : List GoodsAssignment} {code : String} :
    (agreed values).join.map (·.standardGoodsCode) = some code ↔
      values ≠ [] ∧ ∀ value ∈ values, value.standardGoodsCode = code := by
  cases values with
  | nil => simp [agreed]
  | cons first rest =>
    by_cases same : ∀ value ∈ rest, value.standardGoodsCode = first.standardGoodsCode
    · have all : (rest.all fun value => value.standardGoodsCode = first.standardGoodsCode) = true :=
        List.all_eq_true.mpr fun value mem => decide_eq_true (same value mem)
      simp only [agreed, all, if_true, Option.join_some, Option.map_some, Option.some.injEq, ne_eq, reduceCtorEq,
        not_false_eq_true, true_and, List.forall_mem_cons]
      refine ⟨fun eq => ⟨eq, fun value mem => (same value mem).trans eq⟩, And.left⟩
    · have all : ¬(rest.all fun value => value.standardGoodsCode = first.standardGoodsCode) = true := fun all =>
        same fun value mem => of_decide_eq_true (List.all_eq_true.mp all value mem)
      simp only [agreed, all, Bool.false_eq_true, if_false, Option.join_some, Option.map_none, reduceCtorEq,
        false_iff, List.forall_mem_cons, not_and]
      rintro - rfl
      exact same

/-! ## An index -/

def registered (keyOf : AssignmentRow → Option String) (rows : List AssignmentRow) (key : String) :
    List GoodsAssignment :=
  (rows.filter fun row => keyOf row = some key).map (·.assignment)

/-- **An index has what the values of a key agree on.** -/
theorem get?_registerAll (keyOf : AssignmentRow → Option String) (rows : List AssignmentRow) (key : String) :
    (rows.foldl (fun index row => registerUniqueReportingAssignment index (keyOf row) row.assignment) .empty).get?
      key = agreed (registered keyOf rows key) := by
  induction rows using List.reverseRecOn with
  | nil => rfl
  | append_singleton rows row ih =>
    rw [List.foldl_append, List.foldl_cons, List.foldl_nil]
    generalize rows.foldl _ _ = index at ih ⊢
    unfold registered at ih ⊢
    rw [List.filter_append, List.map_append]
    unfold registerUniqueReportingAssignment
    cases here : keyOf row with
    | none => simp [here, ih]
    | some own =>
      dsimp only
      by_cases same : own = key
      · subst same
        rw [List.filter_cons_of_pos (by simp [here]), List.filter_nil, List.map_singleton, agreed_concat, ← ih]
        cases found : index.get? own with
        | none => simp only [OrderedMap.get?_set, if_true]
        | some current =>
          dsimp only
          split
          · rw [OrderedMap.get?_set, if_pos rfl]
          · exact found
      · have apart : ¬key = own := Ne.symm same
        rw [List.filter_cons_of_neg (by simp [here, same]), List.filter_nil, List.map_nil, List.append_nil, ← ih]
        cases found : index.get? own with
        | none => simp only [OrderedMap.get?_set, if_neg apart]
        | some current =>
          dsimp only
          split
          · rw [OrderedMap.get?_set, if_neg apart]
          · rfl

/-- The key that an index registers a row under. -/
def rowKey (B : NormalizeBuiltin) (identifier : Identifier) (row : AssignmentRow) : Option String :=
  storeIdentifierKey B (some row.store_code) (row.value identifier)

variable (rows : List AssignmentRow)

theorem index_buildReportingGoodsLookup (identifier : Identifier) :
    (buildReportingGoodsLookup B rows).index identifier =
      rows.foldl (fun index row => registerUniqueReportingAssignment index (rowKey B identifier row) row.assignment)
        .empty := by
  have filled (lookup : Lookup) : (rows.foldl (Lookup.register B) lookup).index identifier =
      rows.foldl (fun index row => registerUniqueReportingAssignment index (rowKey B identifier row) row.assignment)
        (lookup.index identifier) := by
    induction rows generalizing lookup with
    | nil => rfl
    | cons row rows ih =>
      rw [List.foldl_cons, ih, List.foldl_cons]
      cases identifier <;> rfl
  rw [buildReportingGoodsLookup, filled]
  cases identifier <;> rfl

/-! ## Keys -/

theorem isStoreChar_plain {c : Char} (h : isStoreChar c = true) :
    c.toNat < 128 ∧ isJsSpace c = false ∧ c ≠ '\x1f' := by
  have bounds : 45 ≤ c.toNat ∧ c.toNat ≤ 95 := by
    simp only [isStoreChar, Bool.or_eq_true, Bool.and_eq_true, decide_eq_true_eq, beq_iff_eq] at h
    obtain ((⟨low, high⟩ | ⟨low, high⟩) | rfl) | rfl := h
    · have low : ('A' : Char).toNat ≤ c.toNat := low
      have high : c.toNat ≤ ('Z' : Char).toNat := high
      have ends : ('A' : Char).toNat = 65 ∧ ('Z' : Char).toNat = 90 := ⟨rfl, rfl⟩
      omega
    · have low : ('0' : Char).toNat ≤ c.toNat := low
      have high : c.toNat ≤ ('9' : Char).toNat := high
      have ends : ('0' : Char).toNat = 48 ∧ ('9' : Char).toNat = 57 := ⟨rfl, rfl⟩
      omega
    · decide
    · decide
  refine ⟨by omega, ?_, ?_⟩
  · simp only [isJsSpace, List.contains_cons, List.contains_nil, Bool.or_false, Bool.or_eq_false_iff,
      Bool.and_eq_false_iff, decide_eq_false_iff_not, beq_eq_false_iff_ne]
    omega
  · rintro rfl
    exact absurd bounds (by decide)

theorem normalized_store (store : StoreCode) : normalized B (some store.text) = store.text := by
  have plain := fun c mem => isStoreChar_plain (List.all_eq_true.mp store.plain c mem)
  rw [normalized, Option.getD_some, B.ascii, jsTrim_of_noSpace fun c mem => (plain c mem).2.1]
  exact List.all_eq_true.mpr fun c mem => decide_eq_true (plain c mem).1

theorem storeIdentifierKey_some (store : StoreCode) (value : Option String) : storeIdentifierKey B (some store) value =
      if normalized B value ≠ "" then some (store.text ++ "\x1f" ++ normalized B value) else none := by
  simp only [storeIdentifierKey, Option.map_some, normalized_store, ne_eq, store.given, not_false_eq_true,
    true_and]

theorem storeIdentifierKey_none (value : Option String) : storeIdentifierKey B none value = none := by
  have empty : normalized B (Option.map StoreCode.text none) = "" := by
    rw [normalized, Option.map_none, Option.getD_none, B.ascii "" rfl]
    rfl
  simp only [storeIdentifierKey, empty, ne_eq, not_true_eq_false, false_and, if_false]

/-- **A key has one store and one normalized value.** -/
theorem storeIdentifierKey_inj {store other : StoreCode} {value value' : Option String} {key : String}
    (left : storeIdentifierKey B (some store) value = some key) : storeIdentifierKey B (some other) value' = some key ↔
      other = store ∧ normalized B value' = normalized B value := by
  rw [storeIdentifierKey_some] at left ⊢
  split at left
  case isFalse => cases left
  case isTrue given =>
    obtain rfl := Option.some.inj left
    constructor
    · intro right
      split at right
      · have free (code : StoreCode) : '\x1f' ∉ code.text.toList := fun mem =>
          (isStoreChar_plain (List.all_eq_true.mp code.plain _ mem)).2.2 rfl
        have lists := congrArg String.toList (Option.some.inj right)
        simp only [String.toList_append, List.append_assoc] at lists
        obtain ⟨code, rest⟩ := append_cons_inj_of_first (free other) (free store) lists
        refine ⟨?_, String.toList_inj.mp rest⟩
        cases other
        cases store
        simpa only [StoreCode.mk.injEq] using String.toList_inj.mp code
      · cases right
    · rintro ⟨rfl, same⟩
      rw [same, if_pos given]

/-! ## Answers -/

/-- The row and the product have the same store, and the same identifier, which is not empty. -/
def Matches (B : NormalizeBuiltin) (product : ProductRow) (identifier : Identifier) (row : AssignmentRow) : Prop :=
  product.store = some row.store_code ∧ normalized B (row.value identifier) = normalized B (product.value identifier) ∧
    normalized B (product.value identifier) ≠ ""

variable {product : ProductRow}

theorem rowKey_eq_iff {identifier : Identifier} {row : AssignmentRow} {key : String}
    (asked : storeIdentifierKey B product.store (product.value identifier) = some key) :
    rowKey B identifier row = some key ↔ Matches B product identifier row := by
  unfold rowKey Matches
  cases store : product.store with
  | none =>
    rw [store, storeIdentifierKey_none] at asked
    cases asked
  | some code =>
    rw [store] at asked
    rw [storeIdentifierKey_inj asked, Option.some.injEq, eq_comm (a := code)]
    rw [storeIdentifierKey_some] at asked
    split at asked
    · next given => simp only [given, ne_eq, not_false_eq_true, and_true]
    · cases asked

theorem not_matches_of_no_key {identifier : Identifier}
    (asked : storeIdentifierKey B product.store (product.value identifier) = none)
    (row : AssignmentRow) : ¬Matches B product identifier row := by
  rintro ⟨store, -, given⟩
  rw [store, storeIdentifierKey_some, if_pos given] at asked
  cases asked

open Classical in
/-- **An index answers with what the matching rows agree on.** -/
theorem candidate_eq (product : ProductRow) (identifier : Identifier) :
    candidate B (buildReportingGoodsLookup B rows) product identifier =
      (agreed ((rows.filter fun row => Matches B product identifier row).map (·.assignment))).join := by
  unfold candidate
  cases asked : storeIdentifierKey B product.store (product.value identifier) with
  | none =>
    rw [List.filter_eq_nil_iff.mpr fun row _ => by simp [not_matches_of_no_key asked row]]
    rfl
  | some key =>
    rw [index_buildReportingGoodsLookup]
    dsimp only
    rw [get?_registerAll, registered]
    congr 4
    funext row
    exact decide_eq_decide.mpr (rowKey_eq_iff asked)

/-- An index answers with a code exactly where a row matches and all matching rows have that code. -/
theorem candidate_code_iff {rows : List AssignmentRow} {identifier : Identifier} {code : String} :
    (candidate B (buildReportingGoodsLookup B rows) product identifier).map (·.standardGoodsCode) = some code ↔
      (∃ row ∈ rows, Matches B product identifier row) ∧
        ∀ row ∈ rows, Matches B product identifier row → row.standard_goods_code = code := by
  rw [candidate_eq, agreed_code_iff]
  simp only [ne_eq, List.map_eq_nil_iff, List.filter_eq_nil_iff, decide_eq_true_eq, not_forall, not_not,
    List.mem_map, List.mem_filter, forall_exists_index, and_imp, exists_prop]
  refine and_congr_right fun _ => ⟨fun all row mem same => all _ row mem same rfl, ?_⟩
  rintro all _ row mem same rfl
  exact all row mem same

/-- The code that is returned is the first that an index answers with. -/
theorem resolve_code (lookup : Lookup) (product : ProductRow) :
    (resolveReportingGoodsAssignment B lookup product).map (·.standardGoodsCode) =
      Identifier.all.findSome? fun identifier =>
        (candidate B lookup product identifier).map (·.standardGoodsCode) := by
  unfold resolveReportingGoodsAssignment
  rw [List.map_findSome?]
  rfl

/-- The order of the rows does not matter to the answer of an index. -/
theorem candidate_code_perm {rows rows' : List AssignmentRow} (perm : rows.Perm rows') (product : ProductRow)
    (identifier : Identifier) :
    (candidate B (buildReportingGoodsLookup B rows) product identifier).map (·.standardGoodsCode) =
      (candidate B (buildReportingGoodsLookup B rows') product identifier).map (·.standardGoodsCode) := by
  ext code
  rw [candidate_code_iff, candidate_code_iff]
  simp only [perm.mem_iff]

theorem candidate_ofStore (product : ProductRow) (identifier : Identifier) :
    candidate B (buildReportingGoodsLookup B (rows.filter fun row => product.store = some row.store_code)) product
      identifier = candidate B (buildReportingGoodsLookup B rows) product identifier := by
  classical
  rw [candidate_eq, candidate_eq, List.filter_filter]
  congr 4
  funext row
  by_cases same : Matches B product identifier row
  · simp [same, same.1]
  · simp [same]

/-- **The resolution of reporting goods is unambiguous and free of order.** The rows may come in any order; those of other
stores may be left out; and where the answer comes through an identifier, a row of the store has that identifier, and all
rows of the store that have it have the code of the answer. -/
theorem resolveReportingGoodsAssignment_law (B : NormalizeBuiltin) {rows rows' : List AssignmentRow}
    (perm : rows.Perm rows') (product : ProductRow) :
    (resolveReportingGoodsAssignment B (buildReportingGoodsLookup B rows') product).map (·.standardGoodsCode) =
      (resolveReportingGoodsAssignment B (buildReportingGoodsLookup B rows) product).map (·.standardGoodsCode) ∧
    resolveReportingGoodsAssignment B
      (buildReportingGoodsLookup B (rows.filter fun row => product.store = some row.store_code)) product =
      resolveReportingGoodsAssignment B (buildReportingGoodsLookup B rows) product ∧
    ∀ assignment, resolveReportingGoodsAssignment B (buildReportingGoodsLookup B rows) product = some assignment →
      ∃ identifier, candidate B (buildReportingGoodsLookup B rows) product identifier = some assignment ∧
        (∃ row ∈ rows, Matches B product identifier row) ∧
        ∀ row ∈ rows, product.store = some row.store_code →
          normalized B (row.value identifier) = normalized B (product.value identifier) →
          row.standard_goods_code = assignment.standardGoodsCode := by
  refine ⟨?_, ?_, fun assignment found => ?_⟩
  · rw [resolve_code, resolve_code]
    congr 1
    funext identifier
    exact (candidate_code_perm perm product identifier).symm
  · unfold resolveReportingGoodsAssignment
    congr 1
    funext identifier
    exact candidate_ofStore rows product identifier
  · obtain ⟨identifier, -, here⟩ := List.exists_of_findSome?_eq_some found
    have code := candidate_code_iff.mp (congrArg (Option.map (·.standardGoodsCode)) here)
    refine ⟨identifier, here, code.1, fun row mem store same => code.2 row mem ⟨store, same, ?_⟩⟩
    obtain ⟨other, -, matches_⟩ := code.1
    exact matches_.2.2

def assignmentOf (sku supplierCode code : String) : AssignmentRow where
  store_code := ⟨"DE0001", by decide, by decide⟩
  platform_sku_id := some sku
  supplier_code := some supplierCode
  standard_goods_code := code
  display_name := code
  naming_rule := "MODEL"
  confidence_band := "HIGH"
  source_plan_hash := "0"

/-- The second row makes the supplier code ambiguous, and the third does not mend it; the SKU still answers. -/
theorem conflict_is_kept :
    let rows := [assignmentOf "1" "A" "G1", assignmentOf "2" "A" "G2", assignmentOf "3" "A" "G1"]
    let product : ProductRow := { store_code := some ⟨"DE0001", by decide, by decide⟩, supplierCode := some "A" }
    let answer (rows : List AssignmentRow) (product : ProductRow) :=
      (resolveReportingGoodsAssignment ⟨id, fun _ _ => rfl⟩ (buildReportingGoodsLookup ⟨id, fun _ _ => rfl⟩ rows)
        product).map (·.standardGoodsCode)
    answer rows product = none ∧ answer rows { product with platformSkuId := some " 3 " } = some "G1" ∧
      answer rows.reverse { product with platformSkuId := some " 3 " } = some "G1" := by
  intro rows product answer
  have third : answer rows { product with platformSkuId := some " 3 " } = some "G1" := by decide
  refine ⟨by decide, third, ?_⟩
  have law := resolveReportingGoodsAssignment_law ⟨id, fun _ _ => rfl⟩ (List.reverse_perm rows).symm
    { product with platformSkuId := some " 3 " }
  exact law.1.trans third

end FullManagedBi.GoodsLookup
