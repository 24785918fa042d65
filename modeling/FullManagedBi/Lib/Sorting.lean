import Mathlib

/-!
# What sorting forgets

Two sorts of the same elements agree up to elements that rank the same (`forall₂_of_perm_pairwise`). So a
reading that does not tell apart what ranks the same does not see the order of the input
(`map_insertionSort_congr`). A `LocaleOrder` is how an engine compares texts; two texts may rank the same in it.
-/

namespace Lib

variable {α β : Type} {r : α → α → Prop} {f : α → β}

/-- Two sorted lists of the same elements agree up to elements that rank the same. -/
theorem forall₂_of_perm_pairwise (refl : ∀ a, r a a) (trans : ∀ a b c, r a b → r b c → r a c) {as bs : List α}
    (perm : as.Perm bs) (sorted : as.Pairwise r) (sorted' : bs.Pairwise r) :
    List.Forall₂ (fun a b => r a b ∧ r b a) as bs := by
  let order : Preorder α := { le := r, le_refl := refl, le_trans := trans }
  let rank : α → Antisymmetrization α (· ≤ ·) := toAntisymmetrization (· ≤ ·)
  have ranked {cs : List α} (sorted : cs.Pairwise r) : (cs.map rank).Pairwise (· ≤ ·) :=
    List.pairwise_map.mpr (sorted.imp fun le => toAntisymmetrization_le_toAntisymmetrization_iff.mpr le)
  have same : as.map rank = bs.map rank :=
    (perm.map rank).eq_of_pairwise' (ranked sorted) (ranked sorted')
  have ranks : List.Forall₂ Eq (as.map rank) (bs.map rank) := by
    rw [List.forall₂_eq_eq_eq]
    exact same
  rw [List.forall₂_map_left_iff, List.forall₂_map_right_iff] at ranks
  exact ranks.imp fun a b equal => Quotient.exact equal

theorem map_eq_of_forall₂ {R : α → α → Prop} {as bs : List α} (related : List.Forall₂ R as bs)
    (same : ∀ a ∈ as, ∀ b ∈ bs, R a b → f a = f b) : as.map f = bs.map f := by
  induction related with
  | nil => rfl
  | cons head tail ih =>
    rw [List.map_cons, List.map_cons, same _ List.mem_cons_self _ List.mem_cons_self head,
      ih fun a memA b memB => same a (List.mem_cons_of_mem _ memA) b (List.mem_cons_of_mem _ memB)]

/-- What does not tell apart what ranks the same does not see the order in which elements came. -/
theorem map_insertionSort_congr [DecidableRel r] [Std.Total r] [IsTrans α r] {as bs : List α} (perm : as.Perm bs)
    (same : ∀ a ∈ as, ∀ b ∈ as, r a b → r b a → f a = f b) :
    (as.insertionSort r).map f = (bs.insertionSort r).map f := by
  have sorted : List.Forall₂ (fun a b => r a b ∧ r b a) (as.insertionSort r) (bs.insertionSort r) := by
    refine forall₂_of_perm_pairwise (fun a => (Std.Total.total (r := r) a a).elim id id)
      (fun a b c => IsTrans.trans a b c) ?_ (List.pairwise_insertionSort r as) (List.pairwise_insertionSort r bs)
    exact (List.perm_insertionSort r as).trans (perm.trans (List.perm_insertionSort r bs).symm)
  refine map_eq_of_forall₂ sorted fun a memA b memB both => ?_
  exact same a ((List.mem_insertionSort r).mp memA) b (perm.mem_iff.mpr ((List.mem_insertionSort r).mp memB))
    both.1 both.2

/-- The order of texts in the engine's locale. -/
structure LocaleOrder where
  localeCompare : String → String → Ordering
  localeCompare_trans : Std.TransCmp localeCompare

instance (L : LocaleOrder) : Std.TransCmp L.localeCompare := L.localeCompare_trans

theorem LocaleOrder.not_gt_trans (L : LocaleOrder) {a b c : String} (first : L.localeCompare a b ≠ .gt)
    (second : L.localeCompare b c ≠ .gt) : L.localeCompare a c ≠ .gt :=
  Ordering.isLE_iff_ne_gt.mp (Std.TransCmp.isLE_trans (Ordering.isLE_iff_ne_gt.mpr first)
    (Ordering.isLE_iff_ne_gt.mpr second))

theorem LocaleOrder.not_gt_total (L : LocaleOrder) (a b : String) :
    L.localeCompare a b ≠ .gt ∨ L.localeCompare b a ≠ .gt := by
  have turned : L.localeCompare a b = (L.localeCompare b a).swap := Std.OrientedCmp.eq_swap
  cases texts : L.localeCompare b a with
  | lt => exact .inr nofun
  | eq => exact .inr nofun
  | gt =>
    left
    rw [turned, texts]
    exact nofun

end Lib
