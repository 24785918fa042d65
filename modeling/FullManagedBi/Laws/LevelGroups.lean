import FullManagedBi.ProductIndex.Levels

/-!
# When the stocking groups add up to the total

A row counts in the total always, and in a group where it has a level name. So the groups add up to the
total exactly where every row has a level name (`countLevelGroups_reconciles_iff`): a row whose level
name is missing is in the total alone, although the page promises numbers that reconcile.
-/

namespace FullManagedBi.ProductIndex

open Lib

variable {counts : LevelGroupCounts} {entry : Json}

theorem isSome_productLevelGroup :
    (productLevelGroup (entry.field? "goodsLevelName")).isSome ↔ HasLevelName entry := by
  unfold productLevelGroup HasLevelName
  rw [Option.isSome_map]

theorem groupSum_add_of_name (named : HasLevelName entry) : (counts.add entry).groupSum = counts.groupSum + 1 := by
  obtain ⟨group, found⟩ := Option.isSome_iff_exists.mp (isSome_productLevelGroup.mpr named)
  have counted : (counts.add entry).group = Function.update counts.group group (counts.group group + 1) := by
    unfold LevelGroupCounts.add
    simp only [found]
  have split := Finset.add_sum_erase Finset.univ counts.group (Finset.mem_univ group)
  unfold LevelGroupCounts.groupSum
  rw [counted, Finset.sum_update_of_mem (Finset.mem_univ group), ← Finset.erase_eq]
  omega

theorem groupSum_add_of_no_name (unnamed : ¬HasLevelName entry) : (counts.add entry).groupSum = counts.groupSum := by
  have none : productLevelGroup (entry.field? "goodsLevelName") = none := by
    rw [← Option.not_isSome_iff_eq_none, isSome_productLevelGroup]
    exact unnamed
  unfold LevelGroupCounts.groupSum LevelGroupCounts.add
  simp only [none]

theorem groupSum_foldl (entries : List Json) :
    (entries.foldl .add counts).groupSum + counts.total + entries.countP (fun entry => ¬HasLevelName entry) =
      counts.groupSum + (entries.foldl .add counts).total := by
  induction entries generalizing counts with
  | nil => exact Nat.add_right_cancel_iff.mpr rfl
  | cons entry entries ih =>
    have rest := @ih (counts.add entry)
    have totalled : (counts.add entry).total = counts.total + 1 := rfl
    rw [List.foldl_cons, List.countP_cons]
    by_cases named : HasLevelName entry
    · have step := @groupSum_add_of_name counts entry named
      rw [if_neg (by simpa using named)]
      omega
    · have step := @groupSum_add_of_no_name counts entry named
      rw [if_pos (by simpa using named)]
      omega

/-- **The groups add up to the total exactly where every row has a level name.** -/
theorem countLevelGroups_reconciles_iff (entries : List Json) :
    (countLevelGroups entries).groupSum = (countLevelGroups entries).total ↔
      ∀ entry ∈ entries, HasLevelName entry := by
  have counted := @groupSum_foldl { group := fun _ => 0, total := 0 } entries
  have start : LevelGroupCounts.groupSum { group := fun _ => 0, total := 0 } = 0 := Finset.sum_const_zero
  have unnamed : entries.countP (fun entry => ¬HasLevelName entry) = 0 ↔ ∀ entry ∈ entries, HasLevelName entry := by
    simp [List.countP_eq_zero]
  rw [start, Nat.zero_add] at counted
  change _ + 0 + _ = _ at counted
  rw [← unnamed]
  unfold countLevelGroups
  omega

/-- A row with a listed name, one with an unknown name, and one without. -/
def levelRows : List Json :=
  [.obj [("goodsLevelName", .str "新款")], .obj [("goodsLevelName", .str "未来新层次")],
    .obj [("goodsLevelName", .null)]]

/-- The row without a level name is in the total alone. -/
theorem levelRows_apart :
    ¬ ∀ entries : List Json, (countLevelGroups entries).groupSum = (countLevelGroups entries).total := by
  intro reconciles
  have here : (countLevelGroups levelRows).groupSum ≠ (countLevelGroups levelRows).total := by decide
  exact here (reconciles levelRows)

end FullManagedBi.ProductIndex
