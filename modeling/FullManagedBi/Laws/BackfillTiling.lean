import FullManagedBi.Lib.Tiling
import FullManagedBi.Laws.BackfillAttempts

/-!
# The windows of a plan tile its days

The windows of a store and a domain are the requested days, cut backwards into ranges of at most the
span of the domain (`cutBackwards_tiles`, `length_cutBackwards`). The sort of the plan keeps them together
and in their order (`filter_planWindows`), so the plan is newest first within each store and domain. A
blocked domain has the fewest windows the ledger accepts, so the planner's own check of their number
never fails. The plan depends on the items of the scope only, not on their order, their repetition or
the case of their letters.
-/

namespace FullManagedBi.Backfill

open Lib

variable {B : CaseBuiltins} {H : Digest} {C : Collation}

/-! ## Cutting days backwards -/

def DayRange.ends (range : DayRange) : Int × Int := (range.windowStart, range.windowEnd)

/-- The ranges are the days from `first` to `last`, newest first: neither a gap nor an overlap. -/
def TileDays (first last : Int) (ranges : List DayRange) : Prop :=
  Tiles first (last + 1) (ranges.reverse.map DayRange.ends)

variable {first : Int} {span : Nat}

variable {days : Nat} {cursorEnd : Int}

theorem cutBackwards_tiles (positive : 0 < span) (le : first ≤ cursorEnd) (enough : cursorEnd - first ≤ days) :
    Tiles first cursorEnd ((cutBackwards first span days cursorEnd).reverse.map DayRange.ends) := by
  induction days generalizing cursorEnd with
  | zero =>
    have done : first = cursorEnd := by omega
    simpa [cutBackwards] using done
  | succ days ih =>
    unfold cutBackwards
    by_cases more : first < cursorEnd
    · have older := @ih (max first (cursorEnd - span)) (by omega) (by omega)
      simp only [more, if_true, List.reverse_cons, List.map_append, List.map_cons, List.map_nil]
      -- The window just cut is the newest one, so it comes last.
      rw [tiles_append]
      refine ⟨_, older, ?_⟩
      simp only [DayRange.ends, tiles_cons, tiles_nil, and_true, true_and]
      omega
    · have done : first = cursorEnd := by omega
      simpa [more] using done

theorem cutBackwards_span {range : DayRange} (mem : range ∈ cutBackwards first span days cursorEnd) :
    range.windowEnd - range.windowStart ≤ span := by
  induction days generalizing cursorEnd with
  | zero => simp [cutBackwards] at mem
  | succ days ih =>
    unfold cutBackwards at mem
    split_ifs at mem with more
    · rcases List.mem_cons.mp mem with rfl | older
      · dsimp only
        omega
      · exact ih older
    · simp at mem

theorem length_cutBackwards (positive : 0 < span) (enough : cursorEnd - first ≤ days) :
    (cutBackwards first span days cursorEnd).length = ((cursorEnd - first).toNat + span - 1) / span := by
  induction days generalizing cursorEnd with
  | zero =>
    have none_ : (cursorEnd - first).toNat = 0 := by omega
    rw [none_, Nat.zero_add, Nat.div_eq_of_lt (by omega)]
    rfl
  | succ days ih =>
    unfold cutBackwards
    by_cases more : first < cursorEnd
    · have older := @ih (max first (cursorEnd - span)) (by omega)
      simp only [more, if_true, List.length_cons, older]
      by_cases last : cursorEnd - span ≤ first
      · have left : (max first (cursorEnd - span) - first).toNat + span - 1 = span - 1 := by omega
        have here : (cursorEnd - first).toNat + span - 1 = (cursorEnd - first).toNat - 1 + span := by
          omega
        rw [left, here, Nat.add_div_right _ positive, Nat.div_eq_of_lt (by omega),
          Nat.div_eq_of_lt (by omega)]
      · have here : (cursorEnd - first).toNat + span - 1 =
            (max first (cursorEnd - span) - first).toNat + span - 1 + span := by omega
        rw [here, Nat.add_div_right _ positive]
    · have none_ : (cursorEnd - first).toNat = 0 := by omega
      simp only [more, if_false, List.length_nil, none_, Nat.zero_add]
      rw [Nat.div_eq_of_lt (by omega)]

/-! ## The ranges of a domain -/

/-- A domain whose windows cover the days: blocked, or reported by business date. -/
def Capability.coversDays (capability : Capability) : Bool :=
  !isExecutableCapability capability.capabilityStatus || capability.windowGrain = .businessDate

/-- The most days a window of the domain may have. -/
def Capability.spanBound (capability : Capability) (windowSpanDays : Nat) : Nat :=
  if isExecutableCapability capability.capabilityStatus then
    min windowSpanDays capability.maxWindowSpanDays
  else PlanLimits.maxWindowSpanDays

variable {last : Int} {windowSpanDays : Nat} {capability : Capability}

theorem planWindowRanges_eq (covers : capability.coversDays) : planWindowRanges first last windowSpanDays capability =
      cutBackwards first (capability.spanBound windowSpanDays) (last + 1 - first).toNat (last + 1) := by
  unfold Capability.coversDays at covers
  unfold planWindowRanges Capability.spanBound
  cases executable : isExecutableCapability capability.capabilityStatus with
  | false => simp
  | true =>
    have grain : capability.windowGrain = .businessDate := by simpa [executable] using covers
    simp [grain]

/-- The ranges of a covered domain tile the days, and none is longer than the bound of the domain. -/
theorem planWindowRanges_tile (covers : capability.coversDays) (order : first ≤ last)
    (positive : 0 < capability.spanBound windowSpanDays) :
    TileDays first last (planWindowRanges first last windowSpanDays capability) ∧
      ∀ range ∈ planWindowRanges first last windowSpanDays capability,
        range.windowEnd - range.windowStart ≤ capability.spanBound windowSpanDays := by
  rw [planWindowRanges_eq covers]
  constructor
  · exact cutBackwards_tiles positive (by omega) (by omega)
  · exact fun range mem => cutBackwards_span mem

theorem spanBound_pos {domain : String} (found : backfillDomainCatalog domain = some capability)
    (positive : 0 < windowSpanDays) : 0 < capability.spanBound windowSpanDays := by
  have spans : ∀ entry ∈ domainEntries, 0 < entry.maxWindowSpanDays := by decide
  have span := spans capability (List.mem_of_find?_eq_some found)
  unfold Capability.spanBound
  split_ifs
  · exact lt_min positive span
  · decide

theorem spanBound_le {domain : String} (found : backfillDomainCatalog domain = some capability) :
    capability.spanBound windowSpanDays ≤ PlanLimits.maxWindowSpanDays := by
  have spans : ∀ entry ∈ domainEntries, entry.maxWindowSpanDays ≤ PlanLimits.maxWindowSpanDays := by
    decide
  have span := spans capability (List.mem_of_find?_eq_some found)
  unfold Capability.spanBound
  split_ifs
  · exact (min_le_right _ _).trans span
  · exact le_rfl

variable {ranges : List DayRange}

theorem TileDays.newestFirst (tiles : TileDays first last ranges) :
    ranges.Pairwise fun newer older => older.windowEnd ≤ newer.windowStart := by
  have ascending := Tiles.pairwise tiles
  rw [List.pairwise_map, List.pairwise_reverse] at ascending
  exact ascending

theorem TileDays.descending (tiles : TileDays first last ranges) :
    ranges.Pairwise fun r s => s.windowStart < r.windowStart := by
  have ascending := Tiles.pairwise_start tiles
  rw [List.pairwise_map, List.pairwise_reverse] at ascending
  exact ascending

theorem TileDays.once (tiles : TileDays first last ranges) (day : Int) : (ranges.countP fun range => range.windowStart ≤ day ∧ day < range.windowEnd) =
      if first ≤ day ∧ day ≤ last then 1 else 0 := by
  have counted := Tiles.countP tiles day
  rw [List.countP_map, List.countP_reverse] at counted
  simp only [Int.lt_add_one_iff] at counted
  exact counted

/-! ## The order of a plan -/

instance : Std.TransCmp C.localeCompare := C.transitive

theorem transCmp_on {α β : Type} {cmp : β → β → Ordering} [Std.TransCmp cmp] (part : α → β) :
    Std.TransCmp fun a b => cmp (part a) (part b) where
  eq_swap := Std.OrientedCmp.eq_swap
  isLE_trans := Std.TransCmp.isLE_trans

instance : Std.TransCmp (compareWindows C) := by
  have stores : Std.TransCmp fun a b : Window => C.localeCompare a.storeCode b.storeCode :=
    transCmp_on _
  have domains : Std.TransCmp fun a b : Window => C.localeCompare a.domain b.domain := transCmp_on _
  have starts : Std.TransCmp fun a b : Window => C.localeCompare b.windowStart a.windowStart :=
    @transCmp_on _ _ (fun s t => C.localeCompare t s) _ Window.windowStart
  exact inferInstanceAs (Std.TransCmp (compareLex _ (compareLex _ _)))

instance : IsTrans Window fun left right => compareWindows C left right ≠ .gt where
  trans _ _ _ ab bc := Ordering.isLE_iff_ne_gt.mp <|
    Std.TransCmp.isLE_trans (Ordering.isLE_iff_ne_gt.mpr ab) (Ordering.isLE_iff_ne_gt.mpr bc)

instance : Std.Total fun left right : Window => compareWindows C left right ≠ .gt where
  total a b := by
    have swap : compareWindows C a b = (compareWindows C b a).swap := Std.OrientedCmp.eq_swap
    rw [swap]
    cases compareWindows C b a <;> decide

/-- **The windows of a plan are in its order**: newest first within each store and domain. -/
theorem planWindows_sorted (scope : PlanScope) :
    (planWindows H C scope).Pairwise fun left right => compareWindows C left right ≠ .gt :=
  List.pairwise_insertionSort _ _

/-! ## The windows of a store and a domain -/

def Window.isOf (storeCode domain : String) (window : Window) : Bool :=
  window.storeCode = storeCode ∧ window.domain = domain

theorem flatMap_eq_of_unique {α β : Type} {xs : List α} {f : α → List β} {a : α} (nodup : xs.Nodup)
    (mem : a ∈ xs) (others : ∀ x ∈ xs, x ≠ a → f x = []) : xs.flatMap f = f a := by
  induction xs with
  | nil => exact absurd mem List.not_mem_nil
  | cons x xs ih =>
    obtain ⟨fresh, nodup⟩ := List.nodup_cons.mp nodup
    rw [List.flatMap_cons]
    rcases List.mem_cons.mp mem with rfl | later
    · have rest : xs.flatMap f = [] := by
        rw [List.flatMap_eq_nil_iff]
        intro y there
        exact others y (List.mem_cons_of_mem _ there) (ne_of_mem_of_not_mem there fresh)
      rw [rest, List.append_nil]
    · have here : f x = [] := others x List.mem_cons_self (ne_of_mem_of_not_mem later fresh).symm
      rw [here, List.nil_append]
      exact ih nodup later fun y there => others y (List.mem_cons_of_mem _ there)

theorem mem_domainWindows {from' to' : Int} {windowSpanDays maxAttempts : Nat} {storeCode domain : String}
    {window : Window} (mem : window ∈ domainWindows H from' to' windowSpanDays maxAttempts storeCode domain) :
    window.storeCode = storeCode ∧ window.domain = domain := by
  unfold domainWindows at mem
  split at mem
  · obtain ⟨range, -, rfl⟩ := List.mem_map.mp mem
    exact ⟨rfl, rfl⟩
  · exact absurd mem List.not_mem_nil

theorem filter_domainWindows {from' to' : Int} {windowSpanDays maxAttempts : Nat}
    (storeCode domain storeCode' domain' : String) :
    (domainWindows H from' to' windowSpanDays maxAttempts storeCode' domain').filter (Window.isOf storeCode domain) =
      if storeCode' = storeCode ∧ domain' = domain then
        domainWindows H from' to' windowSpanDays maxAttempts storeCode' domain' else [] := by
  split_ifs with same
  · rw [List.filter_eq_self]
    intro window mem
    obtain ⟨rfl, rfl⟩ := mem_domainWindows mem
    exact decide_eq_true same
  · rw [List.filter_eq_nil_iff]
    intro window mem isOf
    obtain ⟨rfl, rfl⟩ := mem_domainWindows mem
    exact same (of_decide_eq_true isOf)

/-- A scope as the planner gets it: each store and domain once, and at least one store. -/
structure ScopeSound (scope : PlanScope) : Prop where
  storeCodes : scope.storeCodes.Nodup
  domains : scope.domains.Nodup
  known : ∀ domain ∈ scope.domains, (backfillDomainCatalog domain).isSome
  someStore : scope.storeCodes ≠ []
  from' : FourDigitYear scope.from'
  to' : FourDigitYear scope.to'
  order : scope.from' ≤ scope.to'
  span : 0 < scope.windowSpanDays

variable {scope : PlanScope} {storeCode domain : String} {capability : Capability}

theorem filter_planWindows (sound : ScopeSound scope) (store : storeCode ∈ scope.storeCodes)
    (inDomains : domain ∈ scope.domains) (found : backfillDomainCatalog domain = some capability)
    (covers : capability.coversDays) : (planWindows H C scope).filter (Window.isOf storeCode domain) =
      (planWindowRanges scope.from' scope.to' scope.windowSpanDays capability).map
        (planWindow H scope.maxAttempts storeCode domain capability) := by
  have block : domainWindows H scope.from' scope.to' scope.windowSpanDays scope.maxAttempts storeCode
      domain = (planWindowRanges scope.from' scope.to' scope.windowSpanDays capability).map
        (planWindow H scope.maxAttempts storeCode domain capability) := by
    unfold domainWindows
    rw [found]
  -- Before the sort, the windows of the store and the domain are one block.
  have only : (scope.storeCodes.flatMap fun storeCode => scope.domains.flatMap
      (domainWindows H scope.from' scope.to' scope.windowSpanDays scope.maxAttempts storeCode)).filter
        (Window.isOf storeCode domain) = (planWindowRanges scope.from' scope.to' scope.windowSpanDays
          capability).map (planWindow H scope.maxAttempts storeCode domain capability) := by
    simp only [List.filter_flatMap, filter_domainWindows]
    rw [flatMap_eq_of_unique sound.storeCodes store, flatMap_eq_of_unique sound.domains inDomains]
    · rw [if_pos ⟨rfl, rfl⟩, block]
    · intro other _ different
      exact if_neg fun same => different same.2
    · intro other _ different
      rw [List.flatMap_eq_nil_iff]
      exact fun _ _ => if_neg fun same => different same.1
  have tile := planWindowRanges_tile covers sound.order (spanBound_pos found sound.span)
  have inYears {range : DayRange}
      (mem : range ∈ planWindowRanges scope.from' scope.to' scope.windowSpanDays capability) :
      FourDigitYear range.windowStart := by
    have inside := Tiles.mem tile.1 (List.mem_map_of_mem (List.mem_reverse.mpr mem))
    dsimp only [DayRange.ends] at inside
    exact sound.from'.between sound.to' (by omega) (by omega)
  have perm : ((planWindows H C scope).filter (Window.isOf storeCode domain)).Perm
      ((planWindowRanges scope.from' scope.to' scope.windowSpanDays capability).map
        (planWindow H scope.maxAttempts storeCode domain capability)) := by
    rw [← only]
    exact (List.perm_insertionSort _ _).filter _
  have compared {r s : DayRange}
      (memR : r ∈ planWindowRanges scope.from' scope.to' scope.windowSpanDays capability)
      (memS : s ∈ planWindowRanges scope.from' scope.to' scope.windowSpanDays capability) :
      C.localeCompare (toIsoDate s.windowStart) (toIsoDate r.windowStart) ≠ .gt ↔
        s.windowStart ≤ r.windowStart := by
    rw [C.localeCompare_days _ _ (inYears memS) (inYears memR)]
    exact compare_le_iff_le
  -- The sort orders the block by its starts, which are in order already.
  apply @List.Perm.eq_of_pairwise _
    (fun left right => C.localeCompare right.windowStart left.windowStart ≠ .gt) _ _ _ _ _ perm
  · intro left right memL memR le ge
    obtain ⟨r, memR', rfl⟩ := List.mem_map.mp (perm.mem_iff.mp memL)
    obtain ⟨s, memS', rfl⟩ := List.mem_map.mp memR
    have same : r.windowStart = s.windowStart :=
      le_antisymm ((compared memS' memR').mp ge) ((compared memR' memS').mp le)
    have : Std.Symm fun r s : DayRange => r.windowStart ≠ s.windowStart := ⟨fun _ _ ne => ne.symm⟩
    have apart : (planWindowRanges scope.from' scope.to' scope.windowSpanDays capability).Pairwise
        fun r s => r.windowStart ≠ s.windowStart := tile.1.descending.imp fun lt => lt.ne'
    by_contra different
    exact apart.forall memR' memS' (fun equal => different (by rw [equal])) same
  · have sorted := (planWindows_sorted (H := H) (C := C) scope).filter (Window.isOf storeCode domain)
    refine (List.Pairwise.and_mem.mp sorted).imp ?_
    rintro left right ⟨memL, memR, le⟩
    have ofL := (of_decide_eq_true (List.mem_filter.mp memL).2 :)
    have ofR := (of_decide_eq_true (List.mem_filter.mp memR).2 :)
    unfold compareWindows at le
    have self (text : String) : C.localeCompare text text = .eq := Std.ReflCmp.compare_self
    rw [ofL.1, ofL.2, ofR.1, ofR.2, self, self] at le
    exact le
  · rw [List.pairwise_map]
    refine (List.Pairwise.and_mem.mp tile.1.descending).imp ?_
    rintro r s ⟨memR, memS, lt⟩
    exact (compared memR memS).mpr lt.le

/-! ## The blocked windows -/

def isBlockedDomain (domain : String) : Bool :=
  (backfillDomainCatalog domain).any fun capability =>
    !isExecutableCapability capability.capabilityStatus

def PlanScope.rangeDays (scope : PlanScope) : Nat := (scope.to' - scope.from' + 1).toNat

theorem length_blockedRanges (order : scope.from' ≤ scope.to')
    (blocked : isExecutableCapability capability.capabilityStatus = false) :
    (planWindowRanges scope.from' scope.to' scope.windowSpanDays capability).length = chunkCount scope.rangeDays := by
  have covers : capability.coversDays := by simp [Capability.coversDays, blocked]
  have bound : capability.spanBound scope.windowSpanDays = PlanLimits.maxWindowSpanDays := by
    simp [Capability.spanBound, blocked]
  have days : (scope.to' + 1 - scope.from').toNat = scope.rangeDays := by
    unfold PlanScope.rangeDays
    omega
  rw [planWindowRanges_eq covers, bound, length_cutBackwards (by decide) (by omega), days]
  rfl

theorem countP_domainWindows (order : scope.from' ≤ scope.to') :
    ((domainWindows H scope.from' scope.to' scope.windowSpanDays scope.maxAttempts storeCode
        domain).countP (!·.executable)) = if isBlockedDomain domain then chunkCount scope.rangeDays else 0 := by
  unfold domainWindows isBlockedDomain
  cases found : backfillDomainCatalog domain with
  | none => simp
  | some capability =>
    rw [List.countP_map]
    cases executable : isExecutableCapability capability.capabilityStatus with
    | false =>
      have all : ((fun window : Window => !window.executable) ∘
          planWindow H scope.maxAttempts storeCode domain capability) = fun _ => true := by
        funext range
        simp [planWindow, executable]
      simp [all, executable, length_blockedRanges order executable]
    | true =>
      have none_ : ((fun window : Window => !window.executable) ∘
          planWindow H scope.maxAttempts storeCode domain capability) = fun _ => false := by
        funext range
        simp [planWindow, executable]
      simp [none_, executable]

/-- A sum over the elements with a property, each of which counts the same. -/
theorem sum_map_ite {α : Type} (p : α → Bool) (n : Nat) (xs : List α) :
    (xs.map fun x => if p x then n else 0).sum = (xs.filter p).length * n := by
  induction xs with
  | nil => simp
  | cons x xs ih =>
    rw [List.map_cons, List.sum_cons, ih, List.filter_cons]
    split_ifs
    · rw [List.length_cons]
      ring
    · rw [Nat.zero_add]

theorem length_blockedWindows (order : scope.from' ≤ scope.to') :
    ((planWindows H C scope).filter (!·.executable)).length = scope.storeCodes.length *
        ((scope.domains.filter isBlockedDomain).length * chunkCount scope.rangeDays) := by
  have unsorted : (planWindows H C scope).Perm (scope.storeCodes.flatMap fun storeCode =>
      scope.domains.flatMap
        (domainWindows H scope.from' scope.to' scope.windowSpanDays scope.maxAttempts storeCode)) :=
    List.perm_insertionSort _ _
  rw [← List.countP_eq_length_filter, unsorted.countP_eq, List.countP_flatMap]
  have perStore : (List.countP (fun window : Window => !window.executable) ∘ fun storeCode =>
      scope.domains.flatMap
        (domainWindows H scope.from' scope.to' scope.windowSpanDays scope.maxAttempts storeCode)) =
      fun _ => (scope.domains.filter isBlockedDomain).length * chunkCount scope.rangeDays := by
    funext storeCode
    rw [Function.comp_apply, List.countP_flatMap, ← sum_map_ite]
    congr 1
    apply List.map_congr_left
    intro domain _
    exact countP_domainWindows order
  rw [perStore, List.map_const', List.sum_replicate, smul_eq_mul]

theorem length_blockedDomains (sound : ScopeSound scope) :
    (planSummary scope.rangeDays (planWindows H C scope)).blockedDomains.length =
      (scope.domains.filter isBlockedDomain).length := by
  have perm : (((planWindows H C scope).filter (!·.executable)).map (·.domain)).eraseDups.Perm
      (scope.domains.filter isBlockedDomain) := by
    rw [List.perm_ext_iff_of_nodup (nodup_eraseDups _) (sound.domains.filter _)]
    intro domain
    rw [List.mem_eraseDups, List.mem_map, List.mem_filter]
    constructor
    · rintro ⟨window, mem, rfl⟩
      obtain ⟨planned, blocked⟩ := List.mem_filter.mp mem
      obtain ⟨_, _, domain, inDomains, capability, found, range, _, rfl⟩ := mem_planWindows.mp planned
      refine ⟨inDomains, ?_⟩
      rw [isBlockedDomain, planWindow, found]
      exact blocked
    · rintro ⟨inDomains, blocked⟩
      obtain ⟨capability, found, notExecutable⟩ : ∃ capability, backfillDomainCatalog domain =
          some capability ∧ isExecutableCapability capability.capabilityStatus = false := by
        unfold isBlockedDomain at blocked
        cases found : backfillDomainCatalog domain with
        | none => simp [found] at blocked
        | some capability => exact ⟨capability, rfl, by simpa [found] using blocked⟩
      obtain ⟨storeCode, store⟩ := List.exists_mem_of_ne_nil _ sound.someStore
      have some_ : 0 < (planWindowRanges scope.from' scope.to' scope.windowSpanDays capability).length := by
        rw [length_blockedRanges sound.order notExecutable, chunkCount]
        apply Nat.div_pos
        · have := sound.order
          simp only [PlanScope.rangeDays, PlanLimits.maxWindowSpanDays]
          omega
        · decide
      obtain ⟨range, mem⟩ := List.exists_mem_of_length_pos some_
      refine ⟨planWindow H scope.maxAttempts storeCode domain capability range, ?_, rfl⟩
      rw [List.mem_filter]
      refine ⟨mem_planWindows.mpr ⟨_, store, _, inDomains, _, found, _, mem, rfl⟩, ?_⟩
      simp [planWindow, notExecutable]
  exact (perm_jsSort _).length_eq.trans perm.length_eq

theorem blockedWindowCount_eq (sound : ScopeSound scope) :
    (planSummary scope.rangeDays (planWindows H C scope)).blockedWindowCount = scope.storeCodes.length *
        (planSummary scope.rangeDays (planWindows H C scope)).blockedDomains.length * chunkCount scope.rangeDays := by
  rw [length_blockedDomains sound, Nat.mul_assoc]
  exact length_blockedWindows sound.order

/-! ## What a checked scope has -/

theorem parseBusinessDate_ok {value : JsField String} {field : String} {day : Int}
    (h : parseBusinessDate value field = .ok day) : ∃ text, value = .value text ∧ parseIsoDate text = some day := by
  unfold parseBusinessDate at h
  cases value with
  | absent => exact nomatch h
  | invalid => exact nomatch h
  | value text =>
    simp only at h
    cases parsed : parseIsoDate text with
    | none =>
      rw [parsed] at h
      simp only at h
      split_ifs at h <;> exact nomatch h
    | some found =>
      rw [parsed] at h
      obtain rfl := Except.ok.inj h
      exact ⟨text, rfl, parsed⟩

theorem normalizeInteger_ok {value : Option String} {default : Nat} {field : String} {min max n : Nat}
    (low : min ≤ default) (h : normalizeInteger value default field min max = .ok n) : min ≤ n := by
  unfold normalizeInteger at h
  simp only at h
  split at h
  · obtain rfl := Except.ok.inj h
    exact low
  · split at h
    · split_ifs at h with outside
      · exact nomatch h
      · obtain rfl := Except.ok.inj h
        omega
    · exact nomatch h

variable {normal : String → String} {valid : String → Bool} {empty invalid tooLarge : JsError}

theorem normalizeScope_nodup {limit : Nat} {value : Option (List String)} {items : List String}
    (h : normalizeScope normal valid limit empty invalid tooLarge value = .ok items) : items.Nodup := by
  obtain ⟨_, -, rfl, -, -, -⟩ := normalizeScope_ok h
  exact (perm_jsSort _).nodup_iff.mpr ((nodup_eraseDups _).filter _)

theorem IsScopeOf.sound {request : PlanRequest} (isScope : IsScopeOf B request scope) : ScopeSound scope := by
  obtain ⟨_, -, -, someStore, -, -⟩ := normalizeScope_ok isScope.storeCodes
  obtain ⟨_, -, -, -, known, -⟩ := normalizeScope_ok isScope.domains
  obtain ⟨_, -, first⟩ := parseBusinessDate_ok isScope.from'
  obtain ⟨_, -, last⟩ := parseBusinessDate_ok isScope.to'
  exact ⟨normalizeScope_nodup isScope.storeCodes, normalizeScope_nodup isScope.domains, known, someStore,
    fourDigitYear_of_parse first, fourDigitYear_of_parse last, isScope.order,
    normalizeInteger_ok (le_refl 1) isScope.windowSpanDays⟩

/-! ## What a plan depends on -/

/-- The same items, in any order, any number of times and in any letter case. -/
def SameItems (B : CaseBuiltins) (xs ys : List String) : Prop :=
  (∀ x ∈ xs, ∃ y ∈ ys, B.SameLetters x y) ∧ ∀ y ∈ ys, ∃ x ∈ xs, B.SameLetters x y

/-- Requests of the same scope. Their modes and their authors are free. -/
structure SameScope (B : CaseBuiltins) (request request' : PlanRequest) : Prop where
  storeCodes : Option.Rel (SameItems B) request.storeCodes request'.storeCodes
  domains : Option.Rel (SameItems B) request.domains request'.domains
  from' : request'.from' = request.from'
  to' : request'.to' = request.to'
  today : request'.today = request.today
  windowSpanDays : request'.windowSpanDays = request.windowSpanDays
  concurrency : request'.concurrency = request.concurrency
  maxAttempts : request'.maxAttempts = request.maxAttempts

theorem normalizeScope_congr {limit : Nat} {value value' : Option (List String)}
    (letters : ∀ x y, B.SameLetters x y → normal x = normal y) (same : Option.Rel (SameItems B) value value') :
    normalizeScope normal valid limit empty invalid tooLarge value' =
      normalizeScope normal valid limit empty invalid tooLarge value := by
  cases same with
  | none => rfl
  | @some xs ys items =>
    have perm : (ys.map normal).eraseDups.Perm (xs.map normal).eraseDups := by
      rw [List.perm_ext_iff_of_nodup (nodup_eraseDups _) (nodup_eraseDups _)]
      intro text
      simp only [List.mem_eraseDups, List.mem_map]
      constructor
      · rintro ⟨y, mem, rfl⟩
        obtain ⟨x, there, equal⟩ := items.2 y mem
        exact ⟨x, there, letters x y equal⟩
      · rintro ⟨x, mem, rfl⟩
        obtain ⟨y, there, equal⟩ := items.1 x mem
        exact ⟨y, there, (letters x y equal).symm⟩
    cases xs with
    | nil =>
      cases ys with
      | nil => rfl
      | cons y ys =>
        obtain ⟨x, mem, -⟩ := items.2 y List.mem_cons_self
        exact absurd mem List.not_mem_nil
    | cons x xs =>
      cases ys with
      | nil =>
        obtain ⟨y, mem, -⟩ := items.1 x List.mem_cons_self
        exact absurd mem List.not_mem_nil
      | cons y ys =>
        simp only [normalizeScope]
        rw [jsSort_congr (perm.filter _)]

variable {request request' : PlanRequest} {plan : Plan}

theorem planScope_congr (same : SameScope B request request')
    (author : isCreatedBy (jsTrim request'.createdBy)) (h : planScope B request = .ok scope) :
    planScope B request' = .ok { scope with createdBy := jsTrim request'.createdBy } := by
  have stores : normalizeStoreCodes B request'.storeCodes = normalizeStoreCodes B request.storeCodes := by
    refine normalizeScope_congr (fun x y equal => ?_) same.storeCodes
    rw [B.toUpperCase_trim, B.toUpperCase_trim, equal.1]
  have domains : normalizeDomains B request'.domains = normalizeDomains B request.domains := by
    refine normalizeScope_congr (fun x y equal => ?_) same.domains
    rw [B.toLowerCase_trim, B.toLowerCase_trim, equal.2]
  unfold planScope at h ⊢
  rw [stores, domains, same.from', same.to', same.today, same.windowSpanDays, same.concurrency,
    same.maxAttempts]
  obtain ⟨storeCodes, stores, h⟩ := bind_eq_ok h
  obtain ⟨domains, domainsOk, h⟩ := bind_eq_ok h
  obtain ⟨from', fromOk, h⟩ := bind_eq_ok h
  obtain ⟨to', toOk, h⟩ := bind_eq_ok h
  dsimp only at h
  obtain ⟨order, h⟩ := unless_eq_ok h
  obtain ⟨range, h⟩ := unless_eq_ok h
  obtain ⟨_, past, h⟩ := bind_eq_ok h
  obtain ⟨windowSpanDays, span, h⟩ := bind_eq_ok h
  obtain ⟨concurrency, lanes, h⟩ := bind_eq_ok h
  obtain ⟨maxAttempts, attempts, h⟩ := bind_eq_ok h
  obtain ⟨-, h⟩ := unless_eq_ok h
  obtain rfl := Except.ok.inj h
  simp only [stores, domainsOk, fromOk, toOk, order, range, past, span, lanes, attempts, author, bind,
    Except.bind, if_false, Bool.not_true, Bool.false_eq_true]
  rfl

theorem planOfScope_createdBy (createdBy : String) (h : planOfScope H C scope = .ok plan) :
    planOfScope H C { scope with createdBy } = .ok { plan with createdBy } := by
  unfold planOfScope at h ⊢
  dsimp only at h
  obtain ⟨bound, h⟩ := unless_eq_ok h
  obtain ⟨keys, h⟩ := unless_eq_ok h
  obtain ⟨planHash, hash, h⟩ := bind_eq_ok h
  obtain ⟨collapsed, h⟩ := unless_eq_ok h
  obtain rfl := Except.ok.inj h
  have windows : planWindows H C { scope with createdBy } = planWindows H C scope := rfl
  simp only [windows, bound, keys, hash, collapsed, bind, Except.bind, if_false]
  rfl

theorem planOfScope_days (h : planOfScope H C scope = .ok plan) :
    plan.from' = toIsoDate scope.from' ∧ plan.to' = toIsoDate scope.to' ∧
      plan.windowSpanDays = scope.windowSpanDays := by
  unfold planOfScope at h
  dsimp only at h
  obtain ⟨-, h⟩ := unless_eq_ok h
  obtain ⟨-, h⟩ := unless_eq_ok h
  obtain ⟨_, -, h⟩ := bind_eq_ok h
  obtain ⟨-, h⟩ := unless_eq_ok h
  obtain rfl := Except.ok.inj h
  exact ⟨rfl, rfl, rfl⟩

/-- **A request of the same scope has the same plan**, but for its author. -/
theorem buildBackfillPlan_congr (same : SameScope B request request')
    (author : isCreatedBy (jsTrim request'.createdBy)) (built : buildBackfillPlan B H C request = .ok plan) :
    buildBackfillPlan B H C request' = .ok { plan with createdBy := jsTrim request'.createdBy } := by
  obtain ⟨scope, checked, planned⟩ := buildBackfillPlan_ok built
  unfold buildBackfillPlan
  rw [planScope_congr same author checked]
  exact planOfScope_createdBy _ planned

/-! ## Errors a check does not throw -/

def Avoids {α : Type} (code : String) (x : Except JsError α) : Prop :=
  ∀ e, x = .error e → e.code ≠ some code

section Avoids

variable {α β : Type} {code : String}

theorem avoids_ok (a : α) : Avoids code (.ok a) := by
  intro e thrown
  exact nomatch thrown

theorem avoids_error {e : JsError} (other : e.code ≠ some code) : Avoids (α := α) code (.error e) := by
  intro e' thrown
  obtain rfl := Except.error.inj thrown
  exact other

theorem avoids_fail {code' message : String} (other : code' ≠ code) : Avoids (α := α) code (fail code' message) :=
  avoids_error fun same => other (Option.some.inj same)

theorem Avoids.bind {x : Except JsError α} {f : α → Except JsError β} (first : Avoids code x)
    (rest : ∀ a, x = .ok a → Avoids code (f a)) : Avoids code (x >>= f) := by
  intro e thrown
  cases x with
  | error e' =>
    obtain rfl := Except.error.inj thrown
    exact first _ rfl
  | ok a => exact rest a rfl e thrown

theorem Avoids.unless {c : Prop} [Decidable c] {code' message : String}
    {next : Unit → Except JsError α} (other : c → code' ≠ code) (rest : ¬c → Avoids code (next ())) :
    Avoids code (if c then fail code' message >>= next else next ()) := by
  split_ifs with applies
  · exact (avoids_fail (other applies)).bind fun _ ok => nomatch ok
  · exact rest applies

end Avoids

theorem avoids_normalizeScope {normal : String → String} {valid : String → Bool} {limit : Nat}
    {empty invalid tooLarge : JsError} {value : Option (List String)} {code : String}
    (others : ∀ e ∈ [empty, invalid, tooLarge], e.code ≠ some code) :
    Avoids code (normalizeScope normal valid limit empty invalid tooLarge value) := by
  have thrown {e : JsError} (mem : e ∈ [empty, invalid, tooLarge]) :
      Avoids (α := List String) code (.error e) := avoids_error (others e mem)
  unfold normalizeScope
  split
  · exact thrown (by simp)
  · exact thrown (by simp)
  · simp only
    split_ifs
    · exact thrown (by simp)
    · exact thrown (by simp)
    · exact thrown (by simp)
    · exact avoids_ok _

theorem avoids_parseBusinessDate {value : JsField String} {field code : String}
    (other : "INVALID_BUSINESS_DATE" ≠ code) : Avoids code (parseBusinessDate value field) := by
  unfold parseBusinessDate
  split
  · split
    · exact avoids_ok _
    · split_ifs <;> exact avoids_fail other
  · exact avoids_fail other

theorem avoids_normalizeInteger {value : Option String} {default : Nat} {field code : String}
    {min max : Nat} (other : "INVALID_BOUND" ≠ code) : Avoids code (normalizeInteger value default field min max) := by
  unfold normalizeInteger
  simp only
  split
  · exact avoids_ok _
  · split
    · split_ifs
      · exact avoids_fail other
      · exact avoids_ok _
    · exact avoids_fail other

theorem avoids_planScope (request : PlanRequest) : Avoids "BLOCKER_NOT_COLLAPSED" (planScope B request) := by
  unfold planScope
  refine (avoids_normalizeScope (by decide)).bind fun _ _ => ?_
  refine (avoids_normalizeScope (by decide)).bind fun _ _ => ?_
  refine (avoids_parseBusinessDate (by decide)).bind fun _ _ => ?_
  refine (avoids_parseBusinessDate (by decide)).bind fun _ _ => ?_
  refine Avoids.unless (fun _ => by decide) fun _ => ?_
  refine Avoids.unless (fun _ => by decide) fun _ => ?_
  refine Avoids.bind ?_ fun _ _ => ?_
  · unfold refuseFuture
    split
    · exact avoids_ok _
    · refine (avoids_parseBusinessDate (by decide)).bind fun _ _ => ?_
      split_ifs
      · exact avoids_fail (by decide)
      · exact avoids_ok _
  refine (avoids_normalizeInteger (by decide)).bind fun _ _ => ?_
  refine (avoids_normalizeInteger (by decide)).bind fun _ _ => ?_
  refine (avoids_normalizeInteger (by decide)).bind fun _ _ => ?_
  exact Avoids.unless (fun _ => by decide) fun _ => avoids_ok _

theorem avoids_canonicalHash (value : Json) (code : String) : Avoids code (H.canonicalHash value) := by
  unfold Digest.canonicalHash canonicalJson
  split
  · exact avoids_ok _
  · exact avoids_error nofun

theorem avoids_planOfScope (sound : ScopeSound scope) : Avoids "BLOCKER_NOT_COLLAPSED" (planOfScope H C scope) := by
  unfold planOfScope
  dsimp only
  refine Avoids.unless (fun _ => by decide) fun _ => ?_
  refine Avoids.unless (fun _ => by decide) fun _ => ?_
  refine (avoids_canonicalHash _ _).bind fun _ _ => ?_
  refine Avoids.unless (fun other => absurd (blockedWindowCount_eq sound) other) fun _ => avoids_ok _

/-! ## Built plans -/

/-- The windows of a store and a domain are the ranges, which cut the days without a gap and without an
overlap into spans of at most the bound. -/
structure CutInto (plan : Plan) (storeCode domain : String) (bound : Nat) (first last : Int)
    (ranges : List DayRange) : Prop where
  windows : (plan.windows.filter (Window.isOf storeCode domain)).map
      (fun window => (window.windowStart, window.windowEnd)) =
    ranges.map fun range => (toIsoDate range.windowStart, toIsoDate range.windowEnd)
  tile : TileDays first last ranges
  once : ∀ day, (ranges.countP fun range => range.windowStart ≤ day ∧ day < range.windowEnd) =
    if first ≤ day ∧ day ≤ last then 1 else 0
  span : ∀ range ∈ ranges, range.windowEnd - range.windowStart ≤ bound
  ledger : ∀ range ∈ ranges, range.windowEnd - range.windowStart ≤ PlanLimits.maxWindowSpanDays
  newestFirst : ranges.Pairwise fun newer older => older.windowEnd ≤ newer.windowStart

structure PlanSound (B : CaseBuiltins) (H : Digest) (C : Collation) (request : PlanRequest) (plan : Plan) :
    Prop where
  cut : ∃ first last, parseIsoDate plan.from' = some first ∧ parseIsoDate plan.to' = some last ∧
    request.from' = .value plan.from' ∧ request.to' = .value plan.to' ∧ first ≤ last ∧
    ∀ storeCode ∈ plan.storeCodes, ∀ domain ∈ plan.domains, ∀ capability,
      backfillDomainCatalog domain = some capability → capability.coversDays →
      ∃ ranges, CutInto plan storeCode domain (capability.spanBound plan.windowSpanDays) first last ranges
  inScope : ∀ window ∈ plan.windows, window.storeCode ∈ plan.storeCodes ∧ window.domain ∈ plan.domains
  sorted : plan.windows.Pairwise fun left right => compareWindows C left right ≠ .gt
  keys : (plan.windows.map (·.windowKey)).Nodup
  sameScope : ∀ request', SameScope B request request' → isCreatedBy (jsTrim request'.createdBy) →
    buildBackfillPlan B H C request' = .ok { plan with createdBy := jsTrim request'.createdBy }

theorem cutInto_of_plan {storeCode domain : String} {capability : Capability}
    (isPlan : IsPlanOf H C scope plan) (sound : ScopeSound scope)
    (store : storeCode ∈ scope.storeCodes) (inDomains : domain ∈ scope.domains)
    (found : backfillDomainCatalog domain = some capability) (covers : capability.coversDays) :
    CutInto plan storeCode domain (capability.spanBound scope.windowSpanDays) scope.from' scope.to'
      (planWindowRanges scope.from' scope.to' scope.windowSpanDays capability) := by
  obtain ⟨tile, span⟩ := planWindowRanges_tile covers sound.order (spanBound_pos found sound.span)
  constructor
  · rw [isPlan.windows, filter_planWindows sound store inDomains found covers, List.map_map]
    rfl
  · exact tile
  · exact tile.once
  · exact span
  · intro range mem
    have bound : capability.spanBound scope.windowSpanDays ≤ PlanLimits.maxWindowSpanDays :=
      spanBound_le found
    have := span range mem
    omega
  · exact tile.newestFirst

/-- **A built plan tiles the requested days** of each store and domain, newest first, and depends on
nothing but its scope; the planner's own check of the blocked windows never fails. -/
theorem buildBackfillPlan_sound (B : CaseBuiltins) (H : Digest) (C : Collation) (request : PlanRequest) :
    match buildBackfillPlan B H C request with
    | .ok plan => PlanSound B H C request plan
    | .error e => e.code ≠ some "BLOCKER_NOT_COLLAPSED" := by
  cases built : buildBackfillPlan B H C request with
  | error e =>
    refine Avoids.bind (avoids_planScope request) (fun scope checked => ?_) e built
    exact avoids_planOfScope (planScope_ok checked).sound
  | ok plan =>
    obtain ⟨scope, checked, planned⟩ := buildBackfillPlan_ok built
    have isScope := planScope_ok checked
    have isPlan := planOfScope_ok planned
    have sound := isScope.sound
    obtain ⟨fromText, fromGiven, first⟩ := parseBusinessDate_ok isScope.from'
    obtain ⟨toText, toGiven, last⟩ := parseBusinessDate_ok isScope.to'
    obtain ⟨fromDay, toDay, spanDays⟩ := planOfScope_days planned
    constructor
    · refine ⟨scope.from', scope.to', ?_, ?_, ?_, ?_, isScope.order, ?_⟩
      · rw [fromDay, parseIsoDate_toIsoDate sound.from']
      · rw [toDay, parseIsoDate_toIsoDate sound.to']
      · rw [fromGiven, fromDay, toIsoDate_of_parse first]
      · rw [toGiven, toDay, toIsoDate_of_parse last]
      · intro storeCode store domain inDomains capability found covers
        rw [isPlan.storeCodes] at store
        rw [isPlan.domains] at inDomains
        rw [spanDays]
        exact ⟨_, cutInto_of_plan isPlan sound store inDomains found covers⟩
    · exact (planKeyed_of_build built).inScope
    · rw [isPlan.windows]
      exact planWindows_sorted scope
    · exact isPlan.keys
    · exact fun request' same author => buildBackfillPlan_congr same author built

def deliveriesRequest : PlanRequest where
  storeCodes := some ["DL5477"]
  domains := some ["deliveries"]
  from' := .value "2026-07-01"
  to' := .value "2026-07-31"
  createdBy := "operator"

/-- The span of deliveries is one day, but a blocked month is one window of 31 days. -/
theorem blockedWindow_long : (backfillDomainCatalog "deliveries").map (·.maxWindowSpanDays) = some 1 ∧
      ((buildBackfillPlan .ascii constantDigest .codePoints deliveriesRequest).toOption.map
        fun plan => plan.windows.map fun window =>
          (window.domain, parseIsoDate window.windowStart, parseIsoDate window.windowEnd)) =
        some [("deliveries", some 20635, some 20666)] ∧ 20666 - 20635 = 31 := by
  decide +kernel

end FullManagedBi.Backfill
