import FullManagedBi.Warehouse.ActionPool
import FullManagedBi.Laws.GoodsLookup

/-!
# The order of the action pool

The key of a candidate tells its store, type and entity (`key_inj`): a store code has no separator, and a type has an
entity always or never (`wellFormed_actionCandidates`). The sort brings the most severe candidate of a key to the front of
the others, so the first of each key is the one to keep (`exists_deduplicated`). The groups are those of a weight and a
type (`get?_severityGroups`); they are emptied in turn, the heavier weights first.
-/

namespace FullManagedBi.ActionPool

open Lib
open GoodsLookup (StoreCode isStoreChar_plain)

variable {sha256 : String → String}

/-! ## Keys -/

def Candidate.identity (c : Candidate) : Option StoreCode × ActionType × Option String :=
  (c.storeCode, c.type, c.entityCode)

/-- The types of candidates that have no entity. -/
def ActionType.hasEntity : ActionType → Bool
  | .stockWarningReview | .restockAdviceReview | .urgentSupplyReview | .webhookDeadLetter
  | .authorizationGateReview => false
  | _ => true

def Candidate.WellFormed (c : Candidate) : Prop := c.entityCode.isSome = c.type.hasEntity

theorem type_text_inj {a b : ActionType} (same : a.text = b.text) : a = b := by
  cases a <;> cases b <;> first | rfl | exact absurd same (by decide)

theorem separator_not_mem_type (a : ActionType) : '\x1f' ∉ a.text.toList := by
  cases a <;> decide

theorem separator_not_mem_store (store : Option StoreCode) : '\x1f' ∉ ((store.map (·.text)).getD "").toList := by
  cases store with
  | none => simp
  | some code => exact fun mem => (isStoreChar_plain (List.all_eq_true.mp code.plain _ mem)).2.2 rfl

theorem store_of_text {store other : Option StoreCode}
    (same : (store.map (·.text)).getD "" = (other.map (·.text)).getD "") : store = other := by
  cases store with
  | none => cases other with
    | none => rfl
    | some code => exact absurd same.symm code.given
  | some code => cases other with
    | none => exact absurd same code.given
    | some code' =>
      cases code
      cases code'
      simpa only [Option.map_some, Option.getD_some, Option.some.injEq, StoreCode.mk.injEq] using same

/-- **A key has one store, one type and one entity.** -/
theorem key_inj {c d : Candidate} (hc : c.WellFormed) (hd : d.WellFormed) :
    c.key = d.key ↔ c.identity = d.identity := by
  constructor
  · intro same
    have lists := congrArg String.toList same
    simp only [Candidate.key, String.intercalate_cons_cons, String.intercalate_singleton, String.toList_append,
      List.append_assoc] at lists
    obtain ⟨store, rest⟩ :=
      append_cons_inj_of_first (separator_not_mem_store c.storeCode) (separator_not_mem_store d.storeCode) lists
    obtain ⟨type, entity⟩ := append_cons_inj_of_first (separator_not_mem_type _) (separator_not_mem_type _) rest
    have types := type_text_inj (String.toList_inj.mp type)
    have entities := String.toList_inj.mp entity
    unfold Candidate.WellFormed at hc hd
    rw [← types, ← hc] at hd
    unfold Candidate.identity
    rw [store_of_text (String.toList_inj.mp store), types]
    cases first : c.entityCode <;> cases second : d.entityCode <;> simp_all
  · intro same
    unfold Candidate.identity at same
    simp only [Prod.mk.injEq] at same
    rw [Candidate.key, Candidate.key, same.1, same.2.1, same.2.2]

variable {c : Candidate}

theorem wellFormed_overdueCandidates {type : ActionType} (entity : type.hasEntity = true)
    {title fallback : String} {row : AttentionRow}
    (mem : c ∈ overdueCandidates sha256 type title fallback row) : c.WellFormed := by
  unfold overdueCandidates at mem
  split at mem
  · obtain rfl := List.mem_singleton.mp mem
    exact entity.symm
  · cases mem

theorem wellFormed_inventoryRiskCandidates {row : InventoryRisk}
    (mem : c ∈ inventoryRiskCandidates sha256 row) : c.WellFormed := by
  unfold inventoryRiskCandidates at mem
  split at mem
  · cases mem
  · obtain rfl := List.mem_singleton.mp mem
    rfl

theorem wellFormed_stockAdviceRiskCandidates {row : StockAdviceRisk}
    (mem : c ∈ stockAdviceRiskCandidates sha256 row) : c.WellFormed := by
  unfold stockAdviceRiskCandidates at mem
  dsimp only at mem
  split at mem
  case h_4 => cases mem
  all_goals
    obtain rfl := List.mem_singleton.mp mem
    rfl

theorem wellFormed_coverageCandidates {entry : String × DomainCoverage}
    (mem : c ∈ coverageCandidates sha256 entry) : c.WellFormed := by
  unfold coverageCandidates at mem
  rw [List.mem_append, List.mem_map, List.mem_map] at mem
  obtain ⟨store, -, rfl⟩ | ⟨store, -, rfl⟩ := mem <;> rfl

theorem wellFormed_inventoryCandidates {row : InventoryRow}
    (mem : c ∈ inventoryCandidates sha256 row) : c.WellFormed := by
  unfold inventoryCandidates at mem
  rw [List.mem_append, List.mem_map, List.mem_map] at mem
  obtain ⟨count, -, rfl⟩ | ⟨count, -, rfl⟩ := mem <;> rfl

theorem wellFormed_stockAdviceCandidates {row : StockAdviceRow}
    (mem : c ∈ stockAdviceCandidates sha256 row) : c.WellFormed := by
  unfold stockAdviceCandidates at mem
  rw [List.mem_append, List.mem_append, List.mem_map, List.mem_map, List.mem_map] at mem
  obtain (⟨count, -, rfl⟩ | ⟨count, -, rfl⟩) | ⟨quantity, -, rfl⟩ := mem <;> rfl

theorem wellFormed_platformCandidates {queue : PlatformQueue}
    (mem : c ∈ platformCandidates sha256 queue) : c.WellFormed := by
  unfold platformCandidates at mem
  rw [List.mem_append, List.mem_map, List.mem_map] at mem
  obtain ⟨count, -, rfl⟩ | ⟨count, -, rfl⟩ := mem <;> rfl

theorem wellFormed_actionCandidates {supply : Supply} {queue : Option PlatformQueue}
    (mem : c ∈ actionCandidates sha256 supply queue) : c.WellFormed := by
  simp only [actionCandidates, List.mem_append, List.mem_flatMap] at mem
  obtain ((((((⟨row, -, here⟩ | ⟨row, -, here⟩) | ⟨row, -, here⟩) | ⟨row, -, here⟩) | ⟨entry, -, here⟩) |
    ⟨row, -, here⟩) | ⟨row, -, here⟩) | ⟨queue, -, here⟩ := mem
  · exact wellFormed_overdueCandidates rfl here
  · exact wellFormed_overdueCandidates rfl here
  · exact wellFormed_inventoryRiskCandidates here
  · exact wellFormed_stockAdviceRiskCandidates here
  · exact wellFormed_coverageCandidates here
  · exact wellFormed_inventoryCandidates here
  · exact wellFormed_stockAdviceCandidates here
  · exact wellFormed_platformCandidates here

/-! ## The candidates that are kept -/

instance : IsTrans Candidate fun left right => right.weight ≤ left.weight :=
  ⟨fun _ _ _ first second => Nat.le_trans second first⟩

instance : Std.Total fun left right : Candidate => right.weight ≤ left.weight :=
  ⟨fun left right => Nat.le_total right.weight left.weight⟩

variable (candidates : List Candidate)

theorem severityOrdered_perm : (severityOrdered candidates).Perm candidates :=
  List.perm_insertionSort _ _

theorem severityOrdered_pairwise :
    (severityOrdered candidates).Pairwise fun left right => right.weight ≤ left.weight :=
  List.pairwise_insertionSort _ _

theorem mem_of_mem_deduplicated {candidates : List Candidate} (mem : c ∈ deduplicated candidates) : c ∈ candidates :=
  (severityOrdered_perm candidates).mem_iff.mp ((unseen_sublist [] _).subset mem)

theorem exists_deduplicated {candidates : List Candidate} (mem : c ∈ candidates) :
    ∃ kept ∈ deduplicated candidates, kept.key = c.key ∧ c.weight ≤ kept.weight := by
  have fresh : c.key ∉ ([] : List String) := List.not_mem_nil
  obtain ⟨kept, there, same, best⟩ := exists_unseen_of_pairwise (severityOrdered_pairwise candidates)
    ((severityOrdered_perm candidates).mem_iff.mpr mem) fresh
  refine ⟨kept, there, same, ?_⟩
  obtain rfl | le := best
  · exact Nat.le_refl _
  · exact le

/-! ## The groups -/

variable (weight : Nat)

theorem get?_severityGroups : (candidates.foldl pushCandidate .empty).get? weight =
      if rowsOf Candidate.weight candidates weight = [] then none
      else some (groupRows Candidate.type (rowsOf Candidate.weight candidates weight)) := by
  induction candidates using List.reverseRecOn with
  | nil => rfl
  | append_singleton candidates c ih =>
    have parts : rowsOf Candidate.weight (candidates ++ [c]) weight =
        rowsOf Candidate.weight candidates weight ++ if c.weight = weight then [c] else [] := by
      rw [rowsOf, List.filter_append, rowsOf]
      by_cases same : c.weight = weight <;> simp [same]
    rw [List.foldl_append, List.foldl_cons, List.foldl_nil]
    generalize candidates.foldl pushCandidate .empty = groups at ih ⊢
    unfold pushCandidate
    rw [OrderedMap.get?_set, parts]
    by_cases same : weight = c.weight
    · subst same
      have pushed : groupRows Candidate.type (rowsOf Candidate.weight candidates c.weight ++ [c]) =
          pushRow Candidate.type (groupRows Candidate.type (rowsOf Candidate.weight candidates c.weight)) c := by
        rw [groupRows, List.foldl_append, List.foldl_cons, List.foldl_nil, groupRows]
      rw [if_pos rfl, if_pos rfl, if_neg (by simp), ih, pushed]
      congr 2
      split
      · next none => rw [none]; rfl
      · rfl
    · rw [if_neg same, if_neg (Ne.symm same), List.append_nil, ih]

def typeQueues (candidates : List Candidate) (weight : Nat) : List (List Candidate) :=
  (groupRows Candidate.type (rowsOf Candidate.weight candidates weight)).values

theorem typeQueues_eq : typeQueues candidates weight =
      (groupRows Candidate.type (rowsOf Candidate.weight candidates weight)).keys.map
        (rowsOf Candidate.type (rowsOf Candidate.weight candidates weight)) := by
  unfold typeQueues OrderedMap.values
  rw [entries_groupRows, List.map_map]
  rfl

theorem flatten_typeQueues_perm :
    (typeQueues candidates weight).flatten.Perm (rowsOf Candidate.weight candidates weight) := by
  rw [typeQueues_eq]
  exact flatten_map_rowsOf_perm OrderedMap.nodup_keys fun row mem => mem_keys_groupRows.mpr ⟨row, mem, rfl⟩

theorem separate_typeQueues : Separate Candidate.type (typeQueues candidates weight) := by
  rw [typeQueues_eq]
  constructor
  · intro queue mem a hereA b hereB
    obtain ⟨type, -, rfl⟩ := List.mem_map.mp mem
    exact (of_decide_eq_true (List.mem_filter.mp hereA).2).trans (of_decide_eq_true (List.mem_filter.mp hereB).2).symm
  · rw [List.pairwise_map]
    refine OrderedMap.nodup_keys.imp fun apart a hereA b hereB same => apart ?_
    exact (of_decide_eq_true (List.mem_filter.mp hereA).2).symm.trans
      (same.trans (of_decide_eq_true (List.mem_filter.mp hereB).2))

/-! ## The order -/

/-- The weights that occur, the heaviest first. -/
def weights (candidates : List Candidate) : List Nat :=
  (((deduplicated candidates).foldl pushCandidate .empty).keys).insertionSort fun left right => right ≤ left

theorem mem_weights {candidates : List Candidate} {weight : Nat} :
    weight ∈ weights candidates ↔ ∃ c ∈ deduplicated candidates, c.weight = weight := by
  unfold weights
  rw [(List.perm_insertionSort _ _).mem_iff, OrderedMap.mem_keys_iff, get?_severityGroups]
  by_cases none : rowsOf Candidate.weight (deduplicated candidates) weight = []
  · rw [if_pos none]
    have missing := List.filter_eq_nil_iff.mp none
    simp only [decide_eq_true_eq] at missing
    simp only [reduceCtorEq, exists_false, false_iff, not_exists, not_and]
    exact missing
  · rw [if_neg none]
    obtain ⟨c, mem⟩ := List.exists_mem_of_ne_nil _ none
    obtain ⟨there, same⟩ := List.mem_filter.mp mem
    exact ⟨fun _ => ⟨c, there, of_decide_eq_true same⟩, fun _ => ⟨_, rfl⟩⟩

theorem weights_pairwise : (weights candidates).Pairwise fun left right => right < left := by
  have sorted : (weights candidates).Pairwise fun left right => right ≤ left := List.pairwise_insertionSort _ _
  have nodup : (weights candidates).Nodup :=
    (List.perm_insertionSort _ _).nodup_iff.mpr OrderedMap.nodup_keys
  exact (sorted.and nodup).imp fun ⟨le, ne⟩ => lt_of_le_of_ne le (Ne.symm ne)

theorem fairlyOrder_eq : fairlyOrderActionCandidates candidates =
      (weights candidates).flatMap fun weight => roundRobin (typeQueues (deduplicated candidates) weight) := by
  unfold fairlyOrderActionCandidates
  refine List.flatMap_congr fun weight mem => ?_
  obtain ⟨c, there, same⟩ := mem_weights.mp mem
  have some_ : rowsOf Candidate.weight (deduplicated candidates) weight ≠ [] :=
    List.ne_nil_of_mem (List.mem_filter.mpr ⟨there, decide_eq_true same⟩)
  rw [get?_severityGroups, if_neg some_]
  rfl

theorem weight_of_mem_turns {candidates : List Candidate} {weight : Nat}
    (mem : c ∈ roundRobin (typeQueues candidates weight)) : c.weight = weight := by
  have there := (roundRobin_perm _).mem_iff.mp mem
  exact of_decide_eq_true (List.mem_filter.mp ((flatten_typeQueues_perm candidates weight).mem_iff.mp there)).2

theorem fairlyOrder_perm : (fairlyOrderActionCandidates candidates).Perm (deduplicated candidates) := by
  rw [fairlyOrder_eq, List.flatMap_def]
  have turns : (((weights candidates).map fun weight =>
        roundRobin (typeQueues (deduplicated candidates) weight)).flatten).Perm
      ((weights candidates).map (rowsOf Candidate.weight (deduplicated candidates))).flatten := by
    induction weights candidates with
    | nil => exact List.Perm.refl _
    | cons weight rest ih =>
      rw [List.map_cons, List.map_cons, List.flatten_cons, List.flatten_cons]
      exact ((roundRobin_perm _).trans (flatten_typeQueues_perm _ weight)).append ih
  have nodup : (weights candidates).Nodup := (weights_pairwise candidates).imp fun lt => (Nat.ne_of_lt lt).symm
  exact turns.trans (flatten_map_rowsOf_perm nodup fun c mem => mem_weights.mpr ⟨c, mem, rfl⟩)

theorem fairlyOrder_pairwise :
    (fairlyOrderActionCandidates candidates).Pairwise fun left right => right.weight ≤ left.weight := by
  rw [fairlyOrder_eq, List.flatMap_def, List.pairwise_flatten, List.pairwise_map]
  constructor
  · intro turns mem
    obtain ⟨weight, -, rfl⟩ := List.mem_map.mp mem
    refine List.pairwise_of_forall_mem_list fun left hereL right hereR => ?_
    rw [weight_of_mem_turns hereL, weight_of_mem_turns hereR]
  · refine (weights_pairwise candidates).imp fun lt left hereL right hereR => ?_
    rw [weight_of_mem_turns hereL, weight_of_mem_turns hereR]
    exact Nat.le_of_lt lt

theorem filter_fairlyOrder : (fairlyOrderActionCandidates candidates).filter (fun c => c.weight = weight) =
      if weight ∈ weights candidates then roundRobin (typeQueues (deduplicated candidates) weight) else [] := by
  rw [fairlyOrder_eq]
  have distinct : (weights candidates).Nodup := (weights_pairwise candidates).imp fun lt => (Nat.ne_of_lt lt).symm
  generalize weights candidates = all at distinct ⊢
  induction all with
  | nil => rfl
  | cons first rest ih =>
    obtain ⟨fresh, distinct⟩ := List.nodup_cons.mp distinct
    rw [List.flatMap_cons, List.filter_append, ih distinct]
    by_cases same : weight = first
    · subst same
      rw [List.filter_eq_self.mpr fun c mem => decide_eq_true (weight_of_mem_turns mem), if_neg fresh,
        if_pos List.mem_cons_self, List.append_nil]
    · have none : (roundRobin (typeQueues (deduplicated candidates) first)).filter (fun c => c.weight = weight) = [] :=
        List.filter_eq_nil_iff.mpr fun c mem other =>
          same ((of_decide_eq_true other).symm.trans (weight_of_mem_turns mem))
      simp only [none, List.nil_append, List.mem_cons, same, false_or]

theorem weight_eq_iff {severity : Severity} : c.weight = severity.weight ↔ c.severity = severity := by
  constructor
  · intro same
    unfold Candidate.weight at same
    cases own : c.severity <;> cases severity <;> first | rfl | (rw [own] at same; cases same)
  · rintro rfl
    rfl

theorem fairlyOrder_fair {candidates : List Candidate} {severity : Severity} {taken : List Candidate}
    (start : taken <+: (fairlyOrderActionCandidates candidates).filter fun c => c.severity = severity)
    (type other : ActionType) : (taken.map (·.type)).count type ≤ (taken.map (·.type)).count other + 1 ∨
      (taken.map (·.type)).count other =
        (((fairlyOrderActionCandidates candidates).filter fun c => c.severity = severity).map (·.type)).count
          other := by
  have weighed : (fairlyOrderActionCandidates candidates).filter (fun c => c.severity = severity) =
      (fairlyOrderActionCandidates candidates).filter fun c => c.weight = severity.weight :=
    List.filter_congr fun c _ => decide_eq_decide.mpr weight_eq_iff.symm
  rw [weighed, filter_fairlyOrder] at start ⊢
  by_cases occurs : severity.weight ∈ weights candidates
  · rw [if_pos occurs] at start ⊢
    exact roundRobin_fair (separate_typeQueues _ _) start type other
  · rw [if_neg occurs, List.prefix_nil] at start
    subst start
    exact .inl (Nat.zero_le _)

theorem identities_fairlyOrder {candidates : List Candidate} (wellFormed : ∀ c ∈ candidates, c.WellFormed) :
    ((fairlyOrderActionCandidates candidates).map (·.identity)).Nodup ∧
    ∀ c ∈ candidates, ∃ kept ∈ fairlyOrderActionCandidates candidates,
      kept.identity = c.identity ∧ c.weight ≤ kept.weight := by
  have perm := fairlyOrder_perm candidates
  constructor
  · refine (perm.map _).nodup_iff.mpr ?_
    have keys : ((deduplicated candidates).map Candidate.key).Nodup := nodup_map_unseen _ _
    refine List.pairwise_map.mpr ((List.pairwise_map.mp keys).imp_of_mem fun {c d} hereC hereD apart same => apart ?_)
    exact (key_inj (wellFormed c (mem_of_mem_deduplicated hereC)) (wellFormed d (mem_of_mem_deduplicated hereD))).mpr
      same
  · intro c mem
    obtain ⟨kept, there, same, best⟩ := exists_deduplicated mem
    have identity := (key_inj (wellFormed kept (mem_of_mem_deduplicated there)) (wellFormed c mem)).mp same
    exact ⟨kept, perm.mem_iff.mpr there, identity, best⟩

theorem weight_le_of_not_mem_take {ordered : List Candidate} {n : Nat}
    (sorted : ordered.Pairwise fun left right => right.weight ≤ left.weight) {kept c : Candidate}
    (mem : kept ∈ ordered.take n) (there : c ∈ ordered) (left : c ∉ ordered.take n) : c.weight ≤ kept.weight := by
  rw [← List.take_append_drop n ordered] at sorted there
  exact (List.pairwise_append.mp sorted).2.2 kept mem c ((List.mem_append.mp there).resolve_left left)

theorem length_fairlyOrder {candidates : List Candidate} (wellFormed : ∀ c ∈ candidates, c.WellFormed) :
    (fairlyOrderActionCandidates candidates).length = ((candidates.map (·.identity)).dedup).length := by
  obtain ⟨nodup, covers⟩ := identities_fairlyOrder wellFormed
  have same : ((fairlyOrderActionCandidates candidates).map (·.identity)).Perm
      (candidates.map (·.identity)).dedup := by
    rw [List.perm_ext_iff_of_nodup nodup (List.nodup_dedup _)]
    intro identity
    rw [List.mem_dedup, List.mem_map, List.mem_map]
    constructor
    · rintro ⟨c, mem, rfl⟩
      exact ⟨c, mem_of_mem_deduplicated ((fairlyOrder_perm candidates).mem_iff.mp mem), rfl⟩
    · rintro ⟨c, mem, rfl⟩
      obtain ⟨kept, there, eq, -⟩ := covers c mem
      exact ⟨kept, there, eq⟩
  rw [← same.length_eq, List.length_map]

/-- **The order of the action pool.** The order has one candidate for each store, type and entity that occurs, and none is
more severe than it; the severities never increase; inside one severity, in what has been taken two types differ by at
most one, unless the one with fewer candidates has no more. The pool returns the first hundred, so that nothing more
severe is left out, and counts them all. -/
theorem buildReadOnlyActionPool_law (sha256 : String → String) (supply : Supply) (queue : Option PlatformQueue) :
    let candidates := actionCandidates sha256 supply queue
    let ordered := fairlyOrderActionCandidates candidates
    let pool := buildReadOnlyActionPool sha256 supply queue
    (ordered.map (·.identity)).Nodup ∧ (∀ kept ∈ ordered, kept ∈ candidates) ∧
    (∀ c ∈ candidates, ∃ kept ∈ ordered,
      kept.identity = c.identity ∧ c.severity.weight ≤ kept.severity.weight) ∧
    (ordered.Pairwise fun left right => right.severity.weight ≤ left.severity.weight) ∧
    (∀ severity taken, taken <+: ordered.filter (fun c => c.severity = severity) → ∀ type other,
      (taken.map (·.type)).count type ≤ (taken.map (·.type)).count other + 1 ∨
        (taken.map (·.type)).count other =
          ((ordered.filter fun c => c.severity = severity).map (·.type)).count other) ∧
    pool.candidates = ordered.take 100 ∧
    (∀ kept ∈ pool.candidates, ∀ c ∈ ordered, c ∉ pool.candidates → c.severity.weight ≤ kept.severity.weight) ∧
    pool.total = ((candidates.map (·.identity)).dedup).length ∧ pool.returned = pool.candidates.length ∧
    (pool.truncated = true ↔ pool.returned < pool.total) := by
  have wellFormed : ∀ c ∈ actionCandidates sha256 supply queue, c.WellFormed := fun c mem =>
    wellFormed_actionCandidates mem
  obtain ⟨nodup, covers⟩ := identities_fairlyOrder wellFormed
  have sorted := fairlyOrder_pairwise (actionCandidates sha256 supply queue)
  have total := length_fairlyOrder wellFormed
  generalize pooled : buildReadOnlyActionPool sha256 supply queue = pool
  unfold buildReadOnlyActionPool at pooled
  generalize actionCandidates sha256 supply queue = candidates at wellFormed nodup covers sorted total pooled ⊢
  intro candidates ordered pool
  subst pooled
  refine ⟨nodup, fun kept mem => mem_of_mem_deduplicated ((fairlyOrder_perm candidates).mem_iff.mp mem), covers, sorted,
    fun severity taken start => fairlyOrder_fair start, rfl, ?_, total, rfl, decide_eq_true_iff⟩
  intro kept mem c there left
  exact weight_le_of_not_mem_take sorted mem there left

end FullManagedBi.ActionPool
