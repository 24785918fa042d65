import FullManagedBi.Lib.Sorting

/-!
# Sorting a list and reading it in pages

`knownFirst` orders by a key that may be unknown. An `ArraySort` is the sort of an engine: it may do anything with a
comparison that contradicts itself, and sorts where the comparison is an order of the elements. The pages of a list make
up the list (`flatten_pages`), and a sorted list does not depend on the input where nothing ties (`ArraySort.sort_congr`).
-/

namespace Lib

variable {α κ : Type}

/-- The order by a key, in which the elements of unknown key tie behind the others. -/
def knownFirst (order : κ → κ → Ordering) : Option κ → Option κ → Ordering
  | some a, some b => order a b
  | some _, none => .lt
  | none, some _ => .gt
  | none, none => .eq

instance {order : κ → κ → Ordering} [Std.OrientedCmp order] : Std.OrientedCmp (knownFirst order) where
  eq_swap {a b} := by
    cases a <;> cases b <;> simp only [knownFirst]
    case some.some => exact Std.OrientedCmp.eq_swap
    all_goals rfl

instance {order : κ → κ → Ordering} [Std.TransCmp order] : Std.TransCmp (knownFirst order) where
  isLE_trans {a b c} first second := by
    cases a <;> cases b <;> cases c <;> simp only [knownFirst] at *
    case some.some.some => exact Std.TransCmp.isLE_trans first second
    all_goals first | contradiction | rfl

/-- The order of what a function reads off. -/
theorem transCmp_comap (order : κ → κ → Ordering) [Std.TransCmp order] (read : α → κ) :
    Std.TransCmp fun a b => order (read a) (read b) where
  eq_swap := Std.OrientedCmp.eq_swap
  isLE_trans := Std.TransCmp.isLE_trans

/-- **The sort of an engine** goes by a comparison, where that is an order of the elements. -/
structure ArraySort (α : Type) where
  sort : (α → α → Ordering) → List α → List α
  sort_perm : ∀ comparison (xs : List α), (sort comparison xs).Perm xs
  sort_sorted : ∀ comparison order (xs : List α), Std.TransCmp order →
    (∀ a ∈ xs, ∀ b ∈ xs, comparison a b = order a b) → (sort comparison xs).Pairwise fun a b => order a b ≠ .gt

instance : Nonempty (ArraySort α) := by
  classical
  let Orders (comparison order : α → α → Ordering) (xs : List α) : Prop :=
    Std.TransCmp order ∧ ∀ a ∈ xs, ∀ b ∈ xs, comparison a b = order a b
  refine ⟨fun comparison xs => if known : ∃ order, Orders comparison order xs
      then xs.mergeSort fun a b => (known.choose a b).isLE else xs, fun comparison xs => ?_, ?_⟩
  · split
    · exact List.mergeSort_perm _ _
    · exact .refl xs
  · intro comparison order xs trans same
    have known : ∃ order, Orders comparison order xs := ⟨order, trans, same⟩
    obtain ⟨trans', same'⟩ := known.choose_spec
    rw [dif_pos known]
    have total (a b : α) : ((known.choose a b).isLE || (known.choose b a).isLE) = true := by
      have turned : known.choose a b = (known.choose b a).swap := Std.OrientedCmp.eq_swap
      rw [turned]
      cases known.choose b a <;> rfl
    have trans (a b c : α) : (known.choose a b).isLE → (known.choose b c).isLE → (known.choose a c).isLE :=
      Std.TransCmp.isLE_trans
    have sorted := List.pairwise_mergeSort trans total xs
    refine sorted.imp_of_mem fun {a b} memA memB le => ?_
    rw [← same a (List.mem_mergeSort.mp memA) b (List.mem_mergeSort.mp memB),
      same' a (List.mem_mergeSort.mp memA) b (List.mem_mergeSort.mp memB)]
    exact Ordering.isLE_iff_ne_gt.mp le

section

variable {order : α → α → Ordering}

/-- Where nothing ties, one list of the elements is sorted. -/
theorem eq_of_sorted [Std.TransCmp order] {xs ys : List α} (perm : xs.Perm ys)
    (sorted : xs.Pairwise fun a b => order a b ≠ .gt) (sorted' : ys.Pairwise fun a b => order a b ≠ .gt)
    (strict : ys.Pairwise fun a b => order a b ≠ .eq) : xs = ys := by
  have apart : ∀ a ∈ ys, ∀ b ∈ ys, order a b = .eq → a = b := by
    intro a memA b memB ties
    by_contra ne
    have symm : Std.Symm fun a b => order a b ≠ .eq := ⟨fun a b tie other => tie (Std.OrientedCmp.eq_symm other)⟩
    exact strict.forall memA memB ne ties
  refine perm.eq_of_pairwise (fun a b memA memB le ge => ?_) sorted sorted'
  refine apart a (perm.mem_iff.mp memA) b memB ?_
  exact Std.OrientedCmp.isLE_antisymm (Ordering.isLE_iff_ne_gt.mpr le) (Ordering.isLE_iff_ne_gt.mpr ge)

/-- Whether two lists of the elements tie somewhere does not depend on their order. -/
theorem strict_perm [Std.OrientedCmp order] {xs ys : List α} (perm : xs.Perm ys) :
    (xs.Pairwise fun a b => order a b ≠ .eq) ↔ ys.Pairwise fun a b => order a b ≠ .eq :=
  perm.pairwise_iff fun tie other => tie (Std.OrientedCmp.eq_symm other)

end

/-! ## Pages -/

/-- `Math.ceil(length / pageSize)`. -/
def pageCount (pageSize length : Nat) : Nat := (length + (pageSize - 1)) / pageSize

/-- The rows of a page; the first page is page 1. -/
def pageOf (pageSize page : Nat) (xs : List α) : List α := (xs.drop ((page - 1) * pageSize)).take pageSize

theorem flatten_pages_take {pageSize : Nat} (xs : List α) (pages : Nat) :
    ((List.range' 1 pages).flatMap fun page => pageOf pageSize page xs) = xs.take (pages * pageSize) := by
  induction pages with
  | zero => simp
  | succ pages ih =>
    have page : 1 + 1 * pages - 1 = pages := by omega
    rw [List.range'_concat, List.flatMap_append, ih, List.flatMap_singleton, pageOf, page, Nat.succ_mul, List.take_add]

/-- **The pages of a list make up the list.** -/
theorem flatten_pages {pageSize : Nat} (positive : 0 < pageSize) (xs : List α) :
    ((List.range' 1 (pageCount pageSize xs.length)).flatMap fun page => pageOf pageSize page xs) = xs := by
  rw [flatten_pages_take]
  apply List.take_of_length_le
  have whole := Nat.lt_div_mul_add positive (a := xs.length + (pageSize - 1))
  unfold pageCount
  omega

end Lib
