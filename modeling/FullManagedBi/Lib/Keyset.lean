import Mathlib

/-!
# Pages behind a cursor

A list whose elements are strictly ordered is read in pages: what comes behind the last element of a page is the rest of
the list (`filter_behind_last`), and a page that is not full is the last one. Sorting and selecting may change places
(`filter_insertionSort`).
-/

namespace Lib

variable {α : Type} {r : α → α → Prop} [DecidableRel r]

theorem filter_behind_last (irrefl : ∀ a, ¬r a a) (trans : ∀ a b c, r a b → r b c → r a c) {list : List α}
    (sorted : list.Pairwise r) {n : Nat} {last : α} (end_ : (list.take n).getLast? = some last) :
    list.filter (fun a => r last a) = list.drop n := by
  obtain ⟨before, split⟩ := List.getLast?_eq_some_iff.mp end_
  have whole : before ++ [last] ++ list.drop n = list := by rw [← split, List.take_append_drop]
  rw [← whole, List.pairwise_append] at sorted
  obtain ⟨first, -, across⟩ := sorted
  have behind : (list.drop n).filter (fun a => r last a) = list.drop n :=
    List.filter_eq_self.mpr fun a mem =>
      decide_eq_true (across last (List.mem_append_right _ List.mem_cons_self) a mem)
  have none : (before ++ [last]).filter (fun a => r last a) = [] := by
    refine List.filter_eq_nil_iff.mpr fun a mem later => ?_
    have later := of_decide_eq_true later
    obtain earlier | here := List.mem_append.mp mem
    · have before_last := (List.pairwise_append.mp first).2.2 a earlier last List.mem_cons_self
      exact irrefl last (trans last a last later before_last)
    · exact irrefl last (List.mem_singleton.mp here ▸ later)
  conv_lhs => rw [← whole]
  rw [List.filter_append, none, behind, List.nil_append]

theorem exists_getLast?_take (list : List α) {n : Nat} (pos : 0 < n) (full : n ≤ list.length) :
    ∃ last, (list.take n).getLast? = some last := by
  have some_ : list.take n ≠ [] := by
    intro none
    have := congrArg List.length none
    rw [List.length_take, List.length_nil] at this
    omega
  exact ⟨_, List.getLast?_eq_some_getLast some_⟩

theorem filter_insertionSort [Std.Total r] [IsTrans α r] (p : α → Bool) {list : List α}
    (antisymm : ∀ a ∈ list, ∀ b ∈ list, r a b → r b a → a = b) :
    (list.insertionSort r).filter p = (list.filter p).insertionSort r := by
  have perm : ((list.insertionSort r).filter p).Perm ((list.filter p).insertionSort r) :=
    ((List.perm_insertionSort r list).filter p).trans (List.perm_insertionSort r _).symm
  refine perm.eq_of_pairwise (fun a b hereA hereB => ?_)
    ((List.pairwise_insertionSort r list).filter p) (List.pairwise_insertionSort r _)
  have memA := (List.mem_insertionSort r).mp (List.mem_filter.mp hereA).1
  have memB := (List.mem_filter.mp ((List.mem_insertionSort r).mp hereB)).1
  exact antisymm a memA b memB

end Lib
