import Mathlib

/-!
# Maps that keep the order of insertion

An `OrderedMap` is what `Map` is in JavaScript: at most one entry for each key, in the order in which
the keys came. `set` of a key that is there leaves its place and replaces its value.

A map is known by what `get?` finds (`get?_eq_some_iff`), and every operation has one lemma that says
what `get?` finds after it (`get?_set`, `get?_delete`, `get?_filter`, `get?_ofEntries`).
-/

namespace Lib

variable {κ α : Type} [DecidableEq κ]

/-- A map: its entries, no two of which have the same key. -/
structure OrderedMap (κ α : Type) where
  entries : List (κ × α)
  nodup : (entries.map (·.1)).Nodup

namespace OrderedMap

def empty : OrderedMap κ α := ⟨[], List.nodup_nil⟩

def keys (m : OrderedMap κ α) : List κ := m.entries.map (·.1)

def values (m : OrderedMap κ α) : List α := m.entries.map (·.2)

def size (m : OrderedMap κ α) : Nat := m.entries.length

def get? (m : OrderedMap κ α) (key : κ) : Option α := (m.entries.find? (·.1 = key)).map (·.2)

def setEntries (key : κ) (value : α) (entries : List (κ × α)) : List (κ × α) :=
  if key ∈ entries.map (·.1) then entries.map fun entry => if entry.1 = key then (key, value) else entry
  else entries ++ [(key, value)]

theorem nodup_setEntries {key : κ} {value : α} {entries : List (κ × α)}
    (nodup : (entries.map (·.1)).Nodup) : ((setEntries key value entries).map (·.1)).Nodup := by
  unfold setEntries
  split
  · have same : (entries.map fun entry => if entry.1 = key then (key, value) else entry).map (·.1) =
        entries.map (·.1) := by
      rw [List.map_map]
      apply List.map_congr_left
      intro entry _
      by_cases here : entry.1 = key
      · simp [here]
      · simp [here]
    rw [same]
    exact nodup
  · rename_i absent
    rw [List.map_append, List.map_singleton, List.nodup_append]
    refine ⟨nodup, List.nodup_singleton _, fun other mem last single same => absent ?_⟩
    rw [List.mem_singleton] at single
    rwa [same, single] at mem

def set (m : OrderedMap κ α) (key : κ) (value : α) : OrderedMap κ α :=
  ⟨setEntries key value m.entries, nodup_setEntries m.nodup⟩

def delete (m : OrderedMap κ α) (key : κ) : OrderedMap κ α :=
  ⟨m.entries.filter fun entry => decide (entry.1 ≠ key),
    m.nodup.sublist (List.filter_sublist.map _)⟩

/-- The map of the entries whose values have a property. -/
def filter (m : OrderedMap κ α) (p : α → Bool) : OrderedMap κ α :=
  ⟨m.entries.filter fun entry => p entry.2, m.nodup.sublist (List.filter_sublist.map _)⟩

/-- The map of a list of entries: a key that comes twice has its last value. -/
def ofEntries (entries : List (κ × α)) : OrderedMap κ α :=
  entries.foldl (fun m entry => m.set entry.1 entry.2) empty

variable {m : OrderedMap κ α} {key other : κ} {value : α}

theorem get?_eq_some_iff : m.get? key = some value ↔ (key, value) ∈ m.entries := by
  obtain ⟨entries, nodup⟩ := m
  change (entries.find? _).map _ = _ ↔ (key, value) ∈ entries
  constructor
  · intro found
    obtain ⟨⟨key', value'⟩, there, rfl⟩ := Option.map_eq_some_iff.mp found
    have same := List.find?_some there
    rw [decide_eq_true_eq] at same
    exact same ▸ List.mem_of_find?_eq_some there
  · intro mem
    induction entries with
    | nil => exact nomatch mem
    | cons first rest ih =>
      rw [List.map_cons, List.nodup_cons] at nodup
      by_cases here : first.1 = key
      · rw [List.find?_cons_of_pos (by simpa using here)]
        rcases List.mem_cons.mp mem with rfl | later
        · rfl
        · exact absurd (List.mem_map.mpr ⟨_, later, here.symm⟩) nodup.1
      · rw [List.find?_cons_of_neg (by simpa using here)]
        rcases List.mem_cons.mp mem with rfl | later
        · exact absurd rfl here
        · exact ih nodup.2 later

@[simp] theorem get?_empty : (empty : OrderedMap κ α).get? key = none := rfl

theorem mem_keys_iff : key ∈ m.keys ↔ ∃ value, m.get? key = some value := by
  unfold keys
  rw [List.mem_map]
  constructor
  · rintro ⟨⟨key', value⟩, mem, rfl⟩
    exact ⟨value, (get?_eq_some_iff).mpr mem⟩
  · rintro ⟨value, found⟩
    exact ⟨_, (get?_eq_some_iff).mp found, rfl⟩

omit [DecidableEq κ] in
theorem nodup_keys : m.keys.Nodup := m.nodup

theorem mem_values_iff : value ∈ m.values ↔ ∃ key, m.get? key = some value := by
  unfold values
  rw [List.mem_map]
  constructor
  · rintro ⟨⟨key, value'⟩, mem, rfl⟩
    exact ⟨key, (get?_eq_some_iff).mpr mem⟩
  · rintro ⟨key, found⟩
    exact ⟨_, (get?_eq_some_iff).mp found, rfl⟩

/-- The values of a map differ in what `f` reads exactly where their keys differ. -/
theorem nodup_map_values_iff {β : Type} {f : α → β} :
    (m.values.map f).Nodup ↔ ∀ key other a b, m.get? key = some a → m.get? other = some b → f a = f b →
      key = other := by
  unfold values
  rw [List.map_map]
  have entries_nodup : m.entries.Nodup := List.Nodup.of_map _ m.nodup
  rw [List.nodup_map_iff_inj_on entries_nodup]
  constructor
  · intro apart key other a b first second same
    exact congrArg Prod.fst (apart _ (get?_eq_some_iff.mp first) _ (get?_eq_some_iff.mp second) same)
  · intro apart first memFirst second memSecond same
    have sameKey := apart _ _ _ _ (get?_eq_some_iff.mpr memFirst) (get?_eq_some_iff.mpr memSecond) same
    have found := (get?_eq_some_iff).mpr memFirst
    rw [sameKey, (get?_eq_some_iff).mpr memSecond] at found
    exact Prod.ext sameKey (Option.some.inj found).symm

theorem get?_set : (m.set key value).get? other = if other = key then some value else m.get? other := by
  have mem : ∀ v, (other, v) ∈ (m.set key value).entries ↔
      if other = key then v = value else (other, v) ∈ m.entries := by
    intro v
    change (other, v) ∈ setEntries key value m.entries ↔ _
    unfold setEntries
    split
    · rename_i present
      rw [List.mem_map]
      by_cases here : other = key
      · rw [if_pos here]
        constructor
        · rintro ⟨entry, -, same⟩
          split at same
          · exact (Prod.mk.inj same).2.symm
          · rename_i apart
            exact absurd ((congrArg Prod.fst same).trans here) apart
        · rintro rfl
          obtain ⟨entry, there, found⟩ := List.mem_map.mp present
          exact ⟨entry, there, by rw [if_pos found, here]⟩
      · rw [if_neg here]
        constructor
        · rintro ⟨entry, there, same⟩
          split at same
          · exact absurd (Prod.mk.inj same).1.symm here
          · exact same ▸ there
        · exact fun there => ⟨_, there, if_neg here⟩
    · rename_i absent
      rw [List.mem_append, List.mem_singleton, Prod.mk.injEq]
      by_cases here : other = key
      · rw [if_pos here]
        have missing : (other, v) ∉ m.entries := fun there =>
          absent (List.mem_map.mpr ⟨_, there, here⟩)
        rw [or_iff_right missing]
        exact and_iff_right here
      · rw [if_neg here]
        exact or_iff_left fun same => here same.1
  apply Option.ext
  intro v
  rw [get?_eq_some_iff, mem v]
  by_cases here : other = key
  · rw [if_pos here, if_pos here, Option.some.injEq, eq_comm]
  · rw [if_neg here, if_neg here, get?_eq_some_iff]

theorem get?_delete : (m.delete key).get? other = if other = key then none else m.get? other := by
  apply Option.ext
  intro v
  rw [get?_eq_some_iff]
  change (other, v) ∈ m.entries.filter _ ↔ _
  rw [List.mem_filter, decide_eq_true_eq]
  by_cases here : other = key
  · rw [if_pos here]
    exact iff_of_false (fun both => both.2 here) nofun
  · rw [if_neg here, get?_eq_some_iff]
    exact and_iff_left here

/-- What a map finds among the entries whose values have a property. -/
theorem get?_filter {p : α → Bool} : (m.filter p).get? key = (m.get? key).filter p := by
  apply Option.ext
  intro v
  rw [get?_eq_some_iff]
  change (key, v) ∈ m.entries.filter _ ↔ _
  rw [List.mem_filter, ← get?_eq_some_iff, Option.filter_eq_some_iff]

theorem get?_ofEntries {entries : List (κ × α)} :
    (ofEntries entries).get? key = ((entries.filter (·.1 = key)).getLast?).map (·.2) := by
  have from_map (m : OrderedMap κ α) : (entries.foldl (fun m entry => m.set entry.1 entry.2) m).get? key =
      (((entries.filter (·.1 = key)).getLast?).map (·.2)).or (m.get? key) := by
    induction entries generalizing m with
    | nil => rfl
    | cons first rest ih =>
      rw [List.foldl_cons, ih, get?_set]
      by_cases here : first.1 = key
      · rw [if_pos here.symm, List.filter_cons_of_pos (by simpa using here)]
        cases last : rest.filter (·.1 = key) with
        | nil => rfl
        | cons entry more =>
          rw [List.getLast?_cons_cons]
          rw [List.getLast?_eq_some_getLast (List.cons_ne_nil entry more)]
          rfl
      · rw [if_neg fun same => here same.symm, List.filter_cons_of_neg (by simpa using here)]
  refine (from_map empty).trans ?_
  rw [get?_empty, Option.or_none]

theorem get?_ofEntries_of_nodup {entries : List (κ × α)} (nodup : (entries.map (·.1)).Nodup) :
    (ofEntries entries).get? key = (entries.find? (·.1 = key)).map (·.2) := by
  rw [get?_ofEntries, ← List.head?_filter]
  have keys : ((entries.filter (·.1 = key)).map (·.1)).Nodup := nodup.sublist (List.filter_sublist.map _)
  have same : ∀ entry ∈ entries.filter (·.1 = key), entry.1 = key := by
    intro entry mem
    simpa using (List.mem_filter.mp mem).2
  cases found : entries.filter (·.1 = key) with
  | nil => rfl
  | cons first rest =>
    rw [found] at keys same
    cases rest with
    | nil => rfl
    | cons second rest =>
      obtain ⟨here, there, -⟩ := List.forall_mem_cons.mp same |>.imp_right List.forall_mem_cons.mp
      simp [here, there] at keys

theorem size_set : (m.set key value).size = if key ∈ m.keys then m.size else m.size + 1 := by
  change (setEntries key value m.entries).length = _
  unfold setEntries
  by_cases here : key ∈ m.entries.map (·.1)
  · rw [if_pos here]
    exact (List.length_map _).trans (if_pos here).symm
  · rw [if_neg here, List.length_append]
    exact (if_neg here).symm

theorem size_ofEntries_le (entries : List (κ × α)) : (ofEntries entries).size ≤ entries.length := by
  have onto (m : OrderedMap κ α) :
      (entries.foldl (fun m entry => m.set entry.1 entry.2) m).size ≤ m.size + entries.length := by
    induction entries generalizing m with
    | nil => exact le_rfl
    | cons entry entries ih =>
      have later := ih (m.set entry.1 entry.2)
      rw [List.foldl_cons, List.length_cons]
      rw [size_set] at later
      split at later <;> omega
  have whole := onto empty
  have none : (empty : OrderedMap κ α).size = 0 := rfl
  rwa [none, Nat.zero_add] at whole

end OrderedMap

end Lib
