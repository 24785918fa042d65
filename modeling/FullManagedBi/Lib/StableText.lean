import FullManagedBi.Lib.JsonProjection

/-!
# The text with sorted fields

`stableJson` is the text of the value with the fields of each object sorted by key (`stableChars_eq`). So two values
with the same text agree up to the order of fields (`sorted_eq_of_stableJson`), and two lists of fields with the same
keys in the same order agree where they have the same fields (`eq_of_perm_of_keys`).
-/

namespace Lib

theorem stableItems_map (items : List Json) : stableItems items = items.map stableChars := by
  induction items with
  | nil => rfl
  | cons item items ih => rw [stableItems, ih, List.map_cons]

theorem stableFields_map (fields : List (String × Json)) :
    stableFields fields = fields.map fun field => (field.1, stableChars field.2) := by
  induction fields with
  | nil => rfl
  | cons field fields ih => rw [stableFields, ih, List.map_cons]

/-- **The stable text** is the text of the value with its fields sorted. -/
theorem stableChars_eq (value : Json) : stableChars value = jsonChars value.sorted := by
  induction value using Json.induction_on_nested with
  | arr items ih =>
    have same : items.map stableChars = (items.map Json.sorted).map jsonChars := by
      rw [List.map_map]
      exact List.map_congr_left ih
    rw [stableChars, stableItems_map, Json.sorted, sortedItems_eq, jsonChars_arr, same]
  | obj fields ih =>
    have same : fields.map (fun field => (field.1, stableChars field.2)) =
        (fields.map fun field => (field.1, field.2.sorted)).map fun field => (field.1, jsonChars field.2) := by
      rw [List.map_map]
      exact List.map_congr_left fun field mem => Prod.ext rfl (ih field mem)
    have sorts := List.map_insertionSort (r := fun a b : String × Json => jsUnits a.1 ≤ jsUnits b.1)
      (s := fun a b : String × List Char => jsUnits a.1 ≤ jsUnits b.1) (fun field => (field.1, jsonChars field.2))
      (fields.map fun field => (field.1, field.2.sorted)) fun _ _ _ _ => Iff.rfl
    rw [stableChars, stableFields_map, Json.sorted, sortedFields_eq, jsonChars_obj, same, sortFields, sortByName,
      ← sorts, List.map_map]
    rfl
  | _ => rfl

theorem Json.Written.sorted {value : Json} (written : value.Written) : value.sorted.Written := by
  induction value using Json.induction_on_nested with
  | arr items ih =>
    rw [Json.sorted, sortedItems_eq]
    refine writtenItems_iff.mpr fun item mem => ?_
    obtain ⟨old, there, rfl⟩ := List.mem_map.mp mem
    exact ih old there (writtenItems_iff.mp written old there)
  | obj fields ih =>
    rw [Json.sorted, sortedFields_eq]
    refine writtenFields_iff.mpr fun field mem => ?_
    obtain ⟨old, there, rfl⟩ := List.mem_map.mp ((List.mem_insertionSort _).mp mem)
    exact ih old there (writtenFields_iff.mp written old there)
  | _ => exact written

/-- Two values with the same stable text differ at most in the order of fields. -/
theorem sorted_eq_of_stableJson {a b : Json} (ha : a.Written) (hb : b.Written) (same : stableJson a = stableJson b) :
    a.sorted = b.sorted := by
  have texts := String.ofList_injective same
  rw [stableChars_eq, stableChars_eq] at texts
  exact (jsonChars_inj ha.sorted hb.sorted).mp texts

/-- Two lists of fields with the same keys in the same order, each key once, are equal where they have the same
fields. -/
theorem eq_of_perm_of_keys {α : Type} {fields others : List (String × α)} (perm : fields.Perm others)
    (keys : fields.map (·.1) = others.map (·.1)) (nodup : (fields.map (·.1)).Nodup) : fields = others := by
  induction fields generalizing others with
  | nil => exact (List.nil_perm.mp perm).symm
  | cons field fields ih =>
    cases others with
    | nil => cases keys
    | cons other others =>
      obtain ⟨-, tails⟩ := List.cons.inj keys
      obtain ⟨fresh, nodup⟩ := List.nodup_cons.mp nodup
      have heads : field = other := by
        rcases List.mem_cons.mp (perm.subset List.mem_cons_self) with same | later
        · exact same
        · rw [tails] at fresh
          exact absurd (List.mem_map_of_mem later) fresh
      subst heads
      rw [ih (List.perm_cons field |>.mp perm) tails nodup]

end Lib
