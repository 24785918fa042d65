import FullManagedBi.Server.WorklistOrder

/-!
# When the pages of a worklist follow its keys

`Worklist.order` is what a comparator is for: one key above the other, what is unknown behind what is known, and the
texts last. A comparator goes wrong where the difference of two numbers is no number, which `sort` takes for a tie
(`SortKey.Lost`), and that of shipping orders where one instant is known and the other is not. Where no two matched rows
meet so, each comparator is its order (`compare_eq_order_iff`) and the pages make up the sorted rows.
-/

namespace FullManagedBi.WorklistQuery

open Lib
open WebapiSession (JsFloat)

variable (B : WorklistBuiltins)

/-! ## The order of a key -/

def SortKey.order (key : SortKey) (left right : Json) : Ordering :=
  Lib.knownFirst (if key.descending then fun a b => Ord.compare b a else Ord.compare) (key.known B left)
    (key.known B right)

instance (key : SortKey) : Std.TransCmp (key.order B) := by
  have trans : Std.TransCmp (if key.descending then fun a b => Ord.compare b a else (Ord.compare : Rat → Rat → _)) := by
    split <;> infer_instance
  exact transCmp_comap (Lib.knownFirst _) (key.known B)

/-- **The difference by a key is no number**: both instants are unknown, or a severity names what every object
inherits. -/
def SortKey.Lost (key : SortKey) (left right : Json) : Prop :=
  match key with
  | .instant .. | .rankAsc _ => key.known B left = none ∧ key.known B right = none
  | .severity => severityText B left ∈ inheritedNames ∨ severityText B right ∈ inheritedNames
  | .rankDesc _ => False

variable {B} {left right : Json}

theorem sortResult_sub (a b : Rat) : sortResult (.finite (a - b)) = Ord.compare a b := by
  show Ord.compare (a - b) 0 = Ord.compare a b
  rcases lt_trichotomy a b with less | rfl | more
  · rw [compare_lt_iff_lt.mpr less, compare_lt_iff_lt.mpr (sub_neg.mpr less)]
  · simp
  · rw [compare_gt_iff_gt.mpr more, compare_gt_iff_gt.mpr (sub_pos.mpr more)]

theorem decimal_nonneg {value : Option Json} {a : Rat} (known : decimal B value = some a) : 0 ≤ a := by
  unfold decimal at known
  split at known
  · split_ifs at known with nonneg
    exact Option.some.inj known ▸ nonneg
  · contradiction

theorem listedRank_pos {severity : String} {a : Rat} (known : listedRank severity = some a) : 0 < a := by
  unfold listedRank at known
  split_ifs at known <;> simp only [Option.some.injEq] at known <;> subst known <;> norm_num

theorem listedRank_inherited {severity : String} (inherited : severity ∈ inheritedNames) : listedRank severity = none := by
  simp only [inheritedNames, List.mem_cons, List.not_mem_nil, or_false] at inherited
  obtain rfl | rfl := inherited <;> rfl

/-- An unknown key stands behind the known ones, in the direction of the order. -/
theorem difference_infinite {x y : Option Rat} (known : ¬(x = none ∧ y = none)) (descending : Bool) :
    let number (z : Option Rat) : JsFloat := z.elim (.infinity !descending) .finite
    let delta := if descending then difference (number y) (number x) else difference (number x) (number y)
    delta ≠ .nan ∧
      sortResult delta = Lib.knownFirst (if descending then fun a b => Ord.compare b a else Ord.compare) x y := by
  cases descending <;> cases x <;> cases y <;> simp_all [difference, Lib.knownFirst, sortResult_sub] <;> rfl

theorem difference_finite {x y : Option Rat} {unknown : Rat} (first : ∀ a ∈ x, unknown < a) (second : ∀ a ∈ y, unknown < a) :
    sortResult (.finite (y.getD unknown - x.getD unknown)) = Lib.knownFirst (fun a b => Ord.compare b a) x y := by
  rw [sortResult_sub]
  cases x with
  | none =>
    cases y with
    | none => exact compare_eq_iff_eq.mpr rfl
    | some b => exact compare_gt_iff_gt.mpr (second b rfl)
  | some a =>
    cases y with
    | none => exact compare_lt_iff_lt.mpr (first a rfl)
    | some b => rfl

theorem number_eq (key : SortKey) (row : Json) : key.number B row = (key.known B row).elim (key.fallback B row) .finite := by
  unfold SortKey.number
  cases key.known B row <;> rfl

theorem number_eq_finite (key : SortKey) {row : Json} {unknown : Rat} (stands : key.fallback B row = .finite unknown) :
    key.number B row = .finite ((key.known B row).getD unknown) := by
  rw [number_eq, stands]
  cases key.known B row <;> rfl

/-- **The sign of a difference is the order of the rows**, where the difference is a number. -/
theorem sortResult_delta {key : SortKey} (found : ¬key.Lost B left right) :
    key.delta B left right ≠ .nan ∧ sortResult (key.delta B left right) = key.order B left right := by
  cases key with
  | instant field descending =>
    simp only [SortKey.delta, number_eq]
    exact difference_infinite found descending
  | rankAsc field =>
    simp only [SortKey.delta, number_eq]
    exact difference_infinite found false
  | rankDesc field =>
    have above : ∀ row, ∀ a ∈ SortKey.known B (.rankDesc field) row, (-1 : Rat) < a :=
      fun row a mem => by linarith [decimal_nonneg mem]
    simp only [SortKey.delta, SortKey.descending, if_true, number_eq_finite (.rankDesc field) rfl]
    exact ⟨nofun, difference_finite (above left) (above right)⟩
  | severity =>
    obtain ⟨first, second⟩ := not_or.mp found
    have above : ∀ row, ∀ a ∈ SortKey.known B .severity row, (0 : Rat) < a := fun row a mem => listedRank_pos mem
    simp only [SortKey.delta, SortKey.descending, if_true,
      number_eq_finite .severity (if_neg first), number_eq_finite .severity (if_neg second)]
    exact ⟨nofun, difference_finite (above left) (above right)⟩

theorem delta_of_lost {key : SortKey} (lost : key.Lost B left right) : key.delta B left right = .nan := by
  cases key with
  | instant field descending =>
    obtain ⟨first, second⟩ := lost
    cases descending <;> simp [SortKey.delta, SortKey.descending, number_eq, first, second, SortKey.fallback, difference]
  | rankAsc field =>
    obtain ⟨first, second⟩ := lost
    simp [SortKey.delta, SortKey.descending, number_eq, first, second, SortKey.fallback, difference]
  | rankDesc field => contradiction
  | severity =>
    have none_ {row : Json} (inherited : severityText B row ∈ inheritedNames) : SortKey.number B .severity row = .nan := by
      rw [number_eq]
      simp [SortKey.known, listedRank_inherited inherited, SortKey.fallback, inherited]
    simp only [SortKey.delta, SortKey.descending, if_true]
    obtain inherited | inherited := lost
    · rw [none_ inherited]
      unfold difference
      split <;> simp_all
    · rw [none_ inherited]
      rfl

/-! ## Steps -/

theorem sortResult_eq_eq_iff (a : JsFloat) : sortResult a = .eq ↔ a = .nan ∨ a = .finite 0 := by
  cases a with
  | nan => simp [sortResult]
  | infinity positive => cases positive <;> simp [sortResult]
  | finite a => simp [sortResult]

/-- The comparison by a key, where the difference is a number. -/
theorem unlessZero_compare {key : SortKey} (found : ¬key.Lost B left right) (rest : Ordering) :
    (SortStep.unlessZero key).compare B left right rest = (key.order B left right).then rest := by
  obtain ⟨number, sign⟩ := sortResult_delta found
  have zero := sortResult_eq_eq_iff (key.delta B left right)
  simp only [number, false_or] at zero
  simp only [SortStep.compare]
  by_cases same : key.delta B left right = .finite 0
  · rw [if_neg (not_not.mpr same), ← sign, zero.mpr same]
    rfl
  · rw [if_pos same, ← sign]
    cases result : sortResult (key.delta B left right) with
    | eq => exact absurd (zero.mp result) same
    | lt => rfl
    | gt => rfl

/-- `sort` takes a difference that is no number for a tie. -/
theorem unlessZero_lost {key : SortKey} (lost : key.Lost B left right) (rest : Ordering) :
    (SortStep.unlessZero key).compare B left right rest = .eq := by
  simp [SortStep.compare, delta_of_lost lost, sortResult]

theorem compare_then (a b : Rat) (rest : Ordering) :
    (Ord.compare a b).then rest = if a = b then rest else if a < b then .lt else .gt := by
  obtain less | rfl | more := lt_trichotomy a b
  · simp [compare_lt_iff_lt.mpr less, less.ne, less]
  · simp
  · simp [compare_gt_iff_gt.mpr more, more.ne', more.not_gt]

theorem finite_then (a b : Rat) (rest : Ordering) :
    (if a - b = 0 then rest else sortResult (.finite (a - b))) = (Ord.compare a b).then rest := by
  rw [sortResult_sub]
  simp only [sub_eq_zero, compare_then]
  split
  · rfl
  · next ne => simpa [ne] using compare_then a b .eq

theorem knownFirst_compare (field : String) (rest : Ordering) : (SortStep.knownFirst field).compare B left right rest =
      ((SortKey.instant field false).order B left right).then rest := by
  cases first : comparableInstant B (left.field? field) <;>
    cases second : comparableInstant B (right.field? field) <;>
    simp [SortStep.compare, SortKey.delta, SortKey.order, number_eq, SortKey.known, SortKey.fallback,
      SortKey.descending, first, second, difference, isFinite, Lib.knownFirst]
  exact finite_then _ _ _

theorem usableAsc_compare (field : String) (rest : Ordering) :
    (SortStep.usableAsc field).compare B left right rest = ((SortKey.rankAsc field).order B left right).then rest := by
  cases first : decimal B (left.field? field) <;> cases second : decimal B (right.field? field) <;>
    simp [SortStep.compare, SortKey.order, number_eq, SortKey.known, SortKey.fallback,
      SortKey.descending, first, second, isFinite, lessThan, Lib.knownFirst, compare_then]

/-! ## Comparators -/

variable (B) in
/-- The order that a chain of keys stands for. -/
def stepsOrder : List SortStep → List String → Json → Json → Ordering
  | [], fields, left, right => tieBreak B fields left right
  | step :: steps, fields, left, right => (step.key.order B left right).then (stepsOrder steps fields left right)

instance (fields : List String) : Std.TransCmp (tieBreak B fields) := by
  induction fields with
  | nil => exact { eq_swap := rfl, isLE_trans := fun _ _ => rfl }
  | cons field fields ih =>
    have texts := transCmp_comap B.zhCN.localeCompare fun row : Json => textOrEmpty (row.field? field)
    exact inferInstanceAs (Std.TransCmp (compareLex _ (tieBreak B fields)))

instance (steps : List SortStep) (fields : List String) : Std.TransCmp (stepsOrder B steps fields) := by
  induction steps with
  | nil => exact inferInstanceAs (Std.TransCmp (tieBreak B fields))
  | cons step steps ih => exact inferInstanceAs (Std.TransCmp (compareLex (step.key.order B) (stepsOrder B steps fields)))

variable (B) in
/-- **Two rows meet at a lost difference**: up to an unguarded key they rank the same, there the difference is no number,
and from there on they do not rank the same. -/
def Undecided : List SortStep → List String → Json → Json → Prop
  | [], _, _, _ => False
  | .unlessZero key :: steps, fields, left, right =>
    (key.Lost B left right ∧ stepsOrder B (.unlessZero key :: steps) fields left right ≠ .eq) ∨
      (¬key.Lost B left right ∧ key.order B left right = .eq ∧ Undecided steps fields left right)
  | step :: steps, fields, left, right => step.key.order B left right = .eq ∧ Undecided steps fields left right

theorem then_eq_then_iff {first a b : Ordering} : first.then a = first.then b ↔ (first = .eq → a = b) := by
  cases first <;> simp [Ordering.then]

/-- A chain is the order of its keys where no difference is lost. -/
theorem compareSteps_eq_iff (steps : List SortStep) (fields : List String) :
    compareSteps B steps fields left right = stepsOrder B steps fields left right ↔
      ¬Undecided B steps fields left right := by
  induction steps with
  | nil => exact iff_of_true rfl id
  | cons step steps ih =>
    simp only [compareSteps]
    cases step with
    | unlessZero key =>
      by_cases lost : key.Lost B left right
      · simp only [unlessZero_lost lost, Undecided, lost, true_and, not_true, false_and, or_false, not_not]
        exact eq_comm
      · simp only [unlessZero_compare lost, Undecided, lost, false_and, false_or, not_false_eq_true, true_and, stepsOrder,
          SortStep.key, then_eq_then_iff, ih, not_and]
    | knownFirst field => simp only [knownFirst_compare, Undecided, stepsOrder, SortStep.key, then_eq_then_iff, ih, not_and]
    | usableAsc field => simp only [usableAsc_compare, Undecided, stepsOrder, SortStep.key, then_eq_then_iff, ih, not_and]

variable (B) in
/-- **What a worklist is sorted by**: its keys, then the store and the object. -/
def Worklist.order (list : Worklist) (left right : Json) : Ordering :=
  match list with
  | .shipping sort => (sort.key.order B left right).then (orderTies B left right)
  | _ => stepsOrder B list.steps list.fields left right

instance : Std.TransCmp (orderTies B) := by
  have texts (field : String) := transCmp_comap B.defaultLocale.localeCompare fun row : Json => stringOf (row.field? field)
  have store := texts "storeCode"
  have order := texts "orderNo"
  exact inferInstanceAs (Std.TransCmp (compareLex _ _))

instance (list : Worklist) : Std.TransCmp (list.order B) := by
  cases list with
  | shipping sort => exact inferInstanceAs (Std.TransCmp (compareLex (sort.key.order B) (orderTies B)))
  | procurement sort => exact inferInstanceAs (Std.TransCmp (stepsOrder B _ _))
  | fulfilment sort => exact inferInstanceAs (Std.TransCmp (stepsOrder B _ _))
  | inventory sort => exact inferInstanceAs (Std.TransCmp (stepsOrder B _ _))
  | advice sort => exact inferInstanceAs (Std.TransCmp (stepsOrder B _ _))

variable (B) in
/-- **Two rows are not in the order of the worklist**: they meet at a lost difference; of two shipping orders, one has a
known instant and the other has not, and the texts do not put the known one first. -/
def Worklist.Undecided (list : Worklist) (left right : Json) : Prop :=
  match list with
  | .shipping sort => (sort.key.known B left).isSome ≠ (sort.key.known B right).isSome ∧
      orderTies B left right ≠ sort.key.order B left right
  | _ => WorklistQuery.Undecided B list.steps list.fields left right

theorem ShippingSort.key_eq (sort : ShippingSort) : ∃ field descending, sort.key = .instant field descending := by
  cases sort <;> exact ⟨_, _, rfl⟩

theorem compareOrders_eq_iff (sort : ShippingSort) :
    compareOrders B sort left right = (sort.key.order B left right).then (orderTies B left right) ↔
      ¬(Worklist.shipping sort).Undecided B left right := by
  obtain ⟨field, descending, key⟩ := sort.key_eq
  simp only [compareOrders, Worklist.Undecided, key]
  cases descending <;> cases first : comparableInstant B (left.field? field) <;>
    cases second : comparableInstant B (right.field? field) <;>
    simp [SortKey.delta, SortKey.order, number_eq, SortKey.known, SortKey.fallback, SortKey.descending, first, second,
      difference, isFinite, Lib.knownFirst]
  all_goals exact finite_then _ _ _

theorem compare_eq_order_iff (list : Worklist) :
    list.compare B left right = list.order B left right ↔ ¬list.Undecided B left right := by
  cases list with
  | shipping sort => exact compareOrders_eq_iff sort
  | procurement sort => exact compareSteps_eq_iff _ _
  | fulfilment sort => exact compareSteps_eq_iff _ _
  | inventory sort => exact compareSteps_eq_iff _ _
  | advice sort => exact compareSteps_eq_iff _ _

/-! ## Pages -/

section

variable {E : ArraySort Json} {list : Worklist} {matches_ : Json → Bool} {pageSize : PageSize} {rows : List Json}

theorem queryPages_eq_ok_iff {listed : List Json} : queryPages B E list matches_ pageSize rows = .ok listed ↔
      pageCount pageSize.size (rows.filter matches_).length ≤ maxPage ∧
        listed = E.sort (list.compare B) (rows.filter matches_) := by
  have length := (E.sort_perm (list.compare B) (rows.filter matches_)).length_eq
  have page (page : Nat) (read : List Json) : queryPage B E list matches_ pageSize rows page = .ok read ↔
      (page ≠ 0 ∧ page ≤ maxPage) ∧ read = pageOf pageSize.size page (E.sort (list.compare B) (rows.filter matches_)) := by
    unfold queryPage
    simp only [check_ok_iff, refuse_eq_ok, not_lt, ← and_assoc]
    exact and_congr_right fun _ => by simp [pure, Except.pure, eq_comm]
  unfold queryPages
  rw [length, bind_eq_ok_iff]
  simp only [mapM_ok_iff page]
  have bounds : (∀ page ∈ List.range' 1 (pageCount pageSize.size (rows.filter matches_).length),
      page ≠ 0 ∧ page ≤ maxPage) ↔ pageCount pageSize.size (rows.filter matches_).length ≤ maxPage := by
    generalize pageCount pageSize.size (rows.filter matches_).length = pages
    simp only [List.mem_range'_1]
    constructor
    · intro each
      by_contra many
      have last := each pages ⟨by omega, by omega⟩
      omega
    · intro few page mem
      omega
  have whole := flatten_pages pageSize.positive (E.sort (list.compare B) (rows.filter matches_))
  rw [length, List.flatMap_def] at whole
  rw [bounds]
  constructor
  · rintro ⟨read, ⟨few, rfl⟩, done⟩
    rw [whole] at done
    exact ⟨few, (Except.ok.inj done).symm⟩
  · rintro ⟨few, rfl⟩
    exact ⟨_, ⟨few, rfl⟩, congrArg Except.ok whole⟩

end

variable (B) in
/-- **The pages of a worklist follow its order**: it is a total preorder, the comparator is this order on the matched rows,
and whichever sort the engine has, the pages make up the matched rows in this order; where no two matched rows rank the
same, the input may come in any order. -/
def PagesFollow (list : Worklist) (matches_ : Json → Bool) (pageSize : PageSize) (rows : List Json) : Prop :=
  Std.TransCmp (list.order B) ∧
    (∀ left ∈ rows.filter matches_, ∀ right ∈ rows.filter matches_,
      list.compare B left right = list.order B left right) ∧
    ∀ E : ArraySort Json, ∃ listed, queryPages B E list matches_ pageSize rows = .ok listed ∧
      listed.Perm (rows.filter matches_) ∧ (listed.Pairwise fun left right => list.order B left right ≠ .gt) ∧
      (((rows.filter matches_).Pairwise fun left right => list.order B left right ≠ .eq) →
        ∀ (E' : ArraySort Json) (rows' : List Json), rows'.Perm rows →
          queryPages B E' list matches_ pageSize rows' = .ok listed)

/-- The pages of a worklist follow its order exactly where no two matched rows are undecided and the query accepts the
number of every page. -/
theorem pagesFollow_iff (B : WorklistBuiltins) (list : Worklist) (matches_ : Json → Bool) (pageSize : PageSize)
    (rows : List Json) : PagesFollow B list matches_ pageSize rows ↔
      (∀ left ∈ rows.filter matches_, ∀ right ∈ rows.filter matches_, ¬list.Undecided B left right) ∧
        pageCount pageSize.size (rows.filter matches_).length ≤ maxPage := by
  constructor
  · rintro ⟨-, same, pages⟩
    refine ⟨fun left memLeft right memRight =>
      (compare_eq_order_iff list).mp (same left memLeft right memRight), ?_⟩
    obtain ⟨listed, read, -⟩ := pages (Classical.arbitrary _)
    exact (queryPages_eq_ok_iff.mp read).1
  · rintro ⟨decided, few⟩
    have same : ∀ left ∈ rows.filter matches_, ∀ right ∈ rows.filter matches_,
        list.compare B left right = list.order B left right := fun left memLeft right memRight =>
      (compare_eq_order_iff list).mpr (decided left memLeft right memRight)
    refine ⟨inferInstance, same, fun E => ?_⟩
    have sorted := E.sort_sorted _ _ _ inferInstance same
    refine ⟨_, queryPages_eq_ok_iff.mpr ⟨few, rfl⟩, E.sort_perm _ _, sorted, fun strict E' rows' perm => ?_⟩
    have matched := perm.filter matches_
    have same' : ∀ left ∈ rows'.filter matches_, ∀ right ∈ rows'.filter matches_,
        list.compare B left right = list.order B left right := fun left memLeft right memRight =>
      same left (matched.mem_iff.mp memLeft) right (matched.mem_iff.mp memRight)
    refine queryPages_eq_ok_iff.mpr ⟨matched.length_eq ▸ few, ?_⟩
    refine eq_of_sorted ?_ sorted (E'.sort_sorted _ _ _ inferInstance same') ?_
    · exact (E.sort_perm _ _).trans (matched.symm.trans (E'.sort_perm _ _).symm)
    · exact (strict_perm ((E'.sort_perm _ _).trans matched)).mpr strict

def codePointBuiltins : WorklistBuiltins where
  zhCN := ⟨Ord.compare, String.instTransOrd⟩
  defaultLocale := ⟨Ord.compare, String.instTransOrd⟩
  case := .ascii
  dateValue value := if value.text = "2026-01-05T00:00:00.000Z" then some 1767571200000 else none
  numberValue
    | .int n => n
    | .large _ | .fraction _ => 0

def lateOrder (storeCode : String) (requestedDeliveryAt : Json) : Json :=
  .obj [("storeCode", .str storeCode), ("orderNo", .str "PO-1"), ("severity", .str "high"),
    ("attentionCode", .str "DELIVERY_OVERDUE"), ("requestedDeliveryAt", requestedDeliveryAt)]

/-- Two procurement rows without a requested delivery keep the order of the input, and a shipping order without one comes
ahead of a dated order of a later store. -/
theorem unknownDeadlines_astray :
    ¬PagesFollow codePointBuiltins (.procurement .priority) (fun _ => true) ⟨25, by decide⟩
        [lateOrder "TS8263" .null, lateOrder "CX4412" .null] ∧
      ¬PagesFollow codePointBuiltins (.shipping .deliveryDeadline) (fun _ => true) ⟨25, by decide⟩
        [lateOrder "TS8263" (.str "2026-01-05T00:00:00.000Z"), lateOrder "CX4412" .null] := by
  constructor <;>
  · rintro ⟨-, same, -⟩
    have pair := same _ (.head _) _ (.tail _ (.head _))
    revert pair
    decide +kernel

end FullManagedBi.WorklistQuery
