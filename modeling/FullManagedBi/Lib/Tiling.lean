import Mathlib

/-!
# Tilings of a range

`Tiles a b ranges` says that the half-open ranges, in their order, are `[a, b)` cut into pieces: each
starts where the one before it ends. Every point of `[a, b)` lies in exactly one of them
(`Tiles.countP`).
-/

namespace Lib

variable {α : Type*} [LinearOrder α]

def Tiles : α → α → List (α × α) → Prop
  | a, b, [] => a = b
  | a, b, range :: ranges => range.1 = a ∧ range.1 < range.2 ∧ Tiles range.2 b ranges

variable {a b : α} {ranges : List (α × α)}

@[simp] theorem tiles_nil : Tiles a b [] ↔ a = b := Iff.rfl

@[simp] theorem tiles_cons {range : α × α} :
    Tiles a b (range :: ranges) ↔ range.1 = a ∧ range.1 < range.2 ∧ Tiles range.2 b ranges := Iff.rfl

theorem tiles_append {more : List (α × α)} :
    Tiles a b (ranges ++ more) ↔ ∃ mid, Tiles a mid ranges ∧ Tiles mid b more := by
  induction ranges generalizing a with
  | nil => simp
  | cons range ranges ih =>
    simp only [List.cons_append, tiles_cons, ih]
    constructor
    · rintro ⟨start, positive, mid, first, second⟩
      exact ⟨mid, ⟨start, positive, first⟩, second⟩
    · rintro ⟨mid, ⟨start, positive, first⟩, second⟩
      exact ⟨start, positive, mid, first, second⟩

theorem Tiles.le (tiles : Tiles a b ranges) : a ≤ b := by
  induction ranges generalizing a with
  | nil => exact tiles.le
  | cons range ranges ih =>
    obtain ⟨rfl, positive, rest⟩ := tiles
    exact positive.le.trans (ih rest)

theorem Tiles.mem (tiles : Tiles a b ranges) {range : α × α} (mem : range ∈ ranges) :
    a ≤ range.1 ∧ range.1 < range.2 ∧ range.2 ≤ b := by
  induction ranges generalizing a with
  | nil => exact nomatch mem
  | cons first ranges ih =>
    obtain ⟨rfl, positive, rest⟩ := tiles
    rcases List.mem_cons.mp mem with rfl | later
    · exact ⟨le_rfl, positive, rest.le⟩
    · obtain ⟨start, inside, stop⟩ := ih rest later
      exact ⟨positive.le.trans start, inside, stop⟩

theorem Tiles.pairwise (tiles : Tiles a b ranges) : ranges.Pairwise fun r s => r.2 ≤ s.1 := by
  induction ranges generalizing a with
  | nil => exact List.Pairwise.nil
  | cons range ranges ih =>
    obtain ⟨-, -, rest⟩ := tiles
    exact List.pairwise_cons.mpr ⟨fun other mem => (rest.mem mem).1, ih rest⟩

theorem Tiles.isChain (tiles : Tiles a b ranges) : ranges.IsChain fun r s => s.1 = r.2 := by
  induction ranges generalizing a with
  | nil => exact List.isChain_nil
  | cons range ranges ih =>
    obtain ⟨-, -, rest⟩ := tiles
    cases ranges with
    | nil => exact List.isChain_singleton _
    | cons next ranges => exact List.isChain_cons_cons.mpr ⟨rest.1, ih rest⟩

theorem Tiles.head? (tiles : Tiles a b ranges) (lt : a < b) : ranges.head?.map (·.1) = some a := by
  cases ranges with
  | nil => exact absurd tiles lt.ne
  | cons range ranges => rw [List.head?_cons, Option.map_some, tiles.1]

theorem Tiles.getLast? (tiles : Tiles a b ranges) (lt : a < b) : ranges.getLast?.map (·.2) = some b := by
  induction ranges generalizing a with
  | nil => exact absurd tiles lt.ne
  | cons range ranges ih =>
    obtain ⟨-, -, rest⟩ := tiles
    cases ranges with
    | nil =>
      rw [tiles_nil] at rest
      rw [List.getLast?_singleton, Option.map_some, rest]
    | cons next ranges =>
      rw [List.getLast?_cons_cons]
      have inside := rest.mem List.mem_cons_self
      exact ih rest (inside.1.trans_lt (inside.2.1.trans_le inside.2.2))

theorem Tiles.pairwise_start (tiles : Tiles a b ranges) : ranges.Pairwise fun r s => r.1 < s.1 := by
  refine (List.Pairwise.and_mem.mp tiles.pairwise).imp ?_
  rintro r s ⟨mem, -, le⟩
  exact (tiles.mem mem).2.1.trans_le le

/-- **Every point of the whole lies in exactly one piece**, and no other point in any. -/
theorem Tiles.countP (tiles : Tiles a b ranges) (x : α) :
    (ranges.countP fun range => decide (range.1 ≤ x ∧ x < range.2)) = if a ≤ x ∧ x < b then 1 else 0 := by
  induction ranges generalizing a with
  | nil =>
    obtain rfl : a = b := tiles
    rw [List.countP_nil, if_neg fun inside => absurd inside.2 inside.1.not_gt]
  | cons range ranges ih =>
    obtain ⟨rfl, positive, rest⟩ := tiles
    rw [List.countP_cons, ih rest]
    simp only [decide_eq_true_eq]
    by_cases before : x < range.2
    · rw [if_neg fun inside => absurd inside.1 before.not_ge, Nat.zero_add]
      have inside : x < b := before.trans_le rest.le
      simp only [before, inside, and_true]
    · have after := not_lt.mp before
      have start : range.1 ≤ x := positive.le.trans after
      simp only [before, after, start, and_false, true_and, if_false, Nat.add_zero]

end Lib
