import FullManagedBi.Backfill.Plan

/-!
# The windows of a backfill plan

What a built plan is made of: the checked scope of its request (`buildBackfillPlan_ok`), and one window
for each range of each of its stores and domains (`mem_planWindows`). The ranges of a store and a domain
cut its days backwards, without a gap and without an overlap.
-/

namespace FullManagedBi.Backfill

open Lib

variable {B : CaseBuiltins} {H : Digest} {C : Collation}

/-! ## Checks that pass -/

theorem unless_eq_ok {α : Type} {c : Prop} [Decidable c] {code message : String}
    {next : Unit → Except JsError α} {a : α}
    (h : (if c then fail code message >>= next else next ()) = .ok a) : ¬c ∧ next () = .ok a := by
  by_cases applies : c
  · rw [if_pos applies] at h
    exact nomatch h
  · rw [if_neg applies] at h
    exact ⟨applies, h⟩

theorem normalizeScope_ok {normal : String → String} {valid : String → Bool} {limit : Nat}
    {empty invalid tooLarge : JsError} {value : Option (List String)} {scope : List String}
    (h : normalizeScope normal valid limit empty invalid tooLarge value = .ok scope) : ∃ items, value = some items ∧
      scope = jsSort ((items.map normal).eraseDups.filter fun item => item ≠ "") ∧ scope ≠ [] ∧
      (∀ item ∈ scope, valid item) ∧ scope.length ≤ limit := by
  unfold normalizeScope at h
  split at h
  · exact nomatch h
  · exact nomatch h
  · rename_i items _
    simp only at h
    split_ifs at h with none_ bad large
    obtain rfl := Except.ok.inj h
    refine ⟨items, rfl, rfl, none_, ?_, Nat.le_of_not_lt large⟩
    rw [Bool.not_eq_true', Bool.not_eq_false] at bad
    exact List.all_eq_true.mp bad

/-! ## Windows -/

variable {scope : PlanScope}

theorem mem_planWindows {window : Window} :
    window ∈ planWindows H C scope ↔ ∃ storeCode ∈ scope.storeCodes, ∃ domain ∈ scope.domains,
      ∃ capability, backfillDomainCatalog domain = some capability ∧
        ∃ range ∈ planWindowRanges scope.from' scope.to' scope.windowSpanDays capability,
          window = planWindow H scope.maxAttempts storeCode domain capability range := by
  unfold planWindows
  simp only [(List.perm_insertionSort _ _).mem_iff, List.mem_flatMap]
  refine exists_congr fun storeCode => and_congr_right fun _ =>
    exists_congr fun domain => and_congr_right fun _ => ?_
  unfold domainWindows
  cases backfillDomainCatalog domain with
  | none => simp
  | some capability => simp [eq_comm]

variable {request : PlanRequest} {plan : Plan}

/-- **A built plan is the plan of a checked scope.** -/
theorem buildBackfillPlan_ok (built : buildBackfillPlan B H C request = .ok plan) :
    ∃ scope, planScope B request = .ok scope ∧ planOfScope H C scope = .ok plan :=
  bind_eq_ok built

/-- What a plan takes from its scope. -/
structure IsPlanOf (H : Digest) (C : Collation) (scope : PlanScope) (plan : Plan) : Prop where
  windows : plan.windows = planWindows H C scope
  storeCodes : plan.storeCodes = scope.storeCodes
  domains : plan.domains = scope.domains
  bound : plan.windows.length ≤ PlanLimits.maxWindowsPerPlan
  keys : (plan.windows.map (·.windowKey)).Nodup
  hash : H.canonicalHash (hashInput scope.storeCodes scope.domains scope.from' scope.to'
    scope.windowSpanDays scope.concurrency scope.maxAttempts plan.windows) = .ok plan.planHash
  summary : plan.summary = planSummary (scope.to' - scope.from' + 1).toNat plan.windows

theorem planOfScope_ok (h : planOfScope H C scope = .ok plan) : IsPlanOf H C scope plan := by
  unfold planOfScope at h
  dsimp only at h
  obtain ⟨bound, h⟩ := unless_eq_ok h
  obtain ⟨keys, h⟩ := unless_eq_ok h
  obtain ⟨planHash, hash, h⟩ := bind_eq_ok h
  obtain ⟨-, h⟩ := unless_eq_ok h
  obtain rfl := Except.ok.inj h
  refine ⟨rfl, rfl, rfl, Nat.le_of_not_lt bound, ?_, hash, rfl⟩
  simpa using keys

/-- What a scope takes from its request. -/
structure IsScopeOf (B : CaseBuiltins) (request : PlanRequest) (scope : PlanScope) : Prop where
  storeCodes : normalizeStoreCodes B request.storeCodes = .ok scope.storeCodes
  domains : normalizeDomains B request.domains = .ok scope.domains
  from' : parseBusinessDate request.from' "from" = .ok scope.from'
  to' : parseBusinessDate request.to' "to" = .ok scope.to'
  order : scope.from' ≤ scope.to'
  range : scope.to' - scope.from' + 1 ≤ PlanLimits.maxRangeDays
  windowSpanDays : normalizeInteger request.windowSpanDays 1 "windowSpanDays"
    PlanLimits.minWindowSpanDays PlanLimits.maxWindowSpanDays = .ok scope.windowSpanDays
  concurrency : normalizeInteger request.concurrency 1 "concurrency"
    PlanLimits.minConcurrency PlanLimits.maxConcurrency = .ok scope.concurrency
  maxAttempts : normalizeInteger request.maxAttempts 3 "maxAttempts"
    PlanLimits.minAttempts PlanLimits.maxAttempts = .ok scope.maxAttempts

theorem planScope_ok (h : planScope B request = .ok scope) : IsScopeOf B request scope := by
  unfold planScope at h
  obtain ⟨storeCodes, stores, h⟩ := bind_eq_ok h
  obtain ⟨domains, domainsOk, h⟩ := bind_eq_ok h
  obtain ⟨from', fromOk, h⟩ := bind_eq_ok h
  obtain ⟨to', toOk, h⟩ := bind_eq_ok h
  dsimp only at h
  obtain ⟨order, h⟩ := unless_eq_ok h
  obtain ⟨range, h⟩ := unless_eq_ok h
  obtain ⟨_, -, h⟩ := bind_eq_ok h
  obtain ⟨windowSpanDays, span, h⟩ := bind_eq_ok h
  obtain ⟨concurrency, lanes, h⟩ := bind_eq_ok h
  obtain ⟨maxAttempts, attempts, h⟩ := bind_eq_ok h
  obtain ⟨-, h⟩ := unless_eq_ok h
  obtain rfl := Except.ok.inj h
  exact ⟨stores, domainsOk, fromOk, toOk, Int.not_lt.mp order, Int.not_lt.mp range, span, lanes,
    attempts⟩

/-! ## Keys -/

def Plain (text : String) : Prop := keySeparator ∉ text.toList

/-- A key of three parts says what they are, where the first two are plain. -/
theorem joinKey_three {a b c a' b' c' : String} (ha : Plain a) (hb : Plain b) (ha' : Plain a')
    (hb' : Plain b') (same : joinKey [a, b, c] = joinKey [a', b', c']) : a = a' ∧ b = b' ∧ c = c' := by
  have chars := String.ofList_injective same
  simp only [List.intercalate, List.map_cons, List.map_nil, List.intersperse, List.flatten_cons,
    List.flatten_nil, List.append_nil, List.singleton_append] at chars
  obtain ⟨first, rest⟩ := append_cons_inj_of_first ha ha' chars
  obtain ⟨second, third⟩ := append_cons_inj_of_first hb hb' rest
  exact ⟨String.toList_inj.mp first, String.toList_inj.mp second, String.toList_inj.mp third⟩

theorem plain_storeCode {storeCode : String} (valid : isStoreCode storeCode) : Plain storeCode := by
  intro mem
  unfold isStoreCode at valid
  simp only [Bool.and_eq_true, List.all_eq_true] at valid
  rw [← List.take_append_drop 2 storeCode.toList] at mem
  rcases List.mem_append.mp mem with letter | digit
  · exact absurd (valid.1.2 _ letter) (by decide)
  · exact absurd (valid.2 _ digit) (by decide)

theorem plain_catalog {domain : String} {capability : Capability}
    (found : backfillDomainCatalog domain = some capability) : Plain domain ∧ Plain capability.adapterKey := by
  have all : ∀ entry ∈ domainEntries, Plain entry.domain ∧ Plain entry.adapterKey := by
    unfold Plain
    decide
  have same := List.find?_some found
  rw [← of_decide_eq_true same]
  exact all capability (List.mem_of_find?_eq_some found)

structure PlanKeyed (plan : Plan) : Prop where
  keys : (plan.windows.map (·.windowKey)).Nodup
  /-- The key of a window depends on its grain and its range. -/
  sameKey : ∀ window ∈ plan.windows, ∀ window' ∈ plan.windows,
    window.storeCode = window'.storeCode → window.domain = window'.domain →
    window.adapterKey = window'.adapterKey → window.windowStart = window'.windowStart →
    window.windowEnd = window'.windowEnd → window.windowKey = window'.windowKey
  inScope : ∀ window ∈ plan.windows, window.storeCode ∈ plan.storeCodes ∧ window.domain ∈ plan.domains
  plain : ∀ window ∈ plan.windows,
    Plain window.storeCode ∧ Plain window.domain ∧ Plain window.adapterKey

/-- **A built plan is keyed.** -/
theorem planKeyed_of_build (built : buildBackfillPlan B H C request = .ok plan) : PlanKeyed plan := by
  obtain ⟨scope, checked, planned⟩ := buildBackfillPlan_ok built
  have isScope := planScope_ok checked
  have isPlan := planOfScope_ok planned
  have windows {window : Window} (mem : window ∈ plan.windows) :=
    (mem_planWindows).mp (isPlan.windows ▸ mem)
  constructor
  · exact isPlan.keys
  · intro window mem window' mem' store domain adapter start end_
    obtain ⟨_, _, _, _, _, _, _, _, rfl⟩ := windows mem
    obtain ⟨_, _, _, _, _, _, _, _, rfl⟩ := windows mem'
    simp only [planWindow] at store domain adapter start end_ ⊢
    rw [store, domain, adapter, start, end_]
  · intro window mem
    obtain ⟨storeCode, store, domain, inDomains, _, _, _, _, rfl⟩ := windows mem
    exact ⟨isPlan.storeCodes ▸ store, isPlan.domains ▸ inDomains⟩
  · intro window mem
    obtain ⟨storeCode, store, domain, inDomains, capability, found, _, _, rfl⟩ := windows mem
    obtain ⟨_, -, -, -, valid, -⟩ := normalizeScope_ok isScope.storeCodes
    exact ⟨plain_storeCode (valid storeCode store), plain_catalog found⟩

def Collation.codePoints : Collation where
  localeCompare := compare
  oriented := inferInstance
  transitive := inferInstance
  localeCompare_days a b fourA fourB := by
    have less := toIsoDate_lt fourA fourB
    have more := toIsoDate_lt fourB fourA
    have texts (s t : String) : compare s t = compareOfLessAndEq s t := rfl
    rw [texts]
    unfold compareOfLessAndEq
    rcases lt_trichotomy a b with lt | rfl | gt
    · rw [compare_lt_iff_lt.mpr lt, if_pos (less.mpr lt)]
    · rw [compare_eq_iff_eq.mpr rfl, if_neg (fun lt => lt_irrefl a (less.mp lt)), if_pos rfl]
    · rw [compare_gt_iff_gt.mpr gt, if_neg (fun lt => lt_asymm gt (less.mp lt)), if_neg fun same => ?_]
      exact lt_irrefl _ (same ▸ more.mpr gt)

end FullManagedBi.Backfill
