import FullManagedBi.Lib.OrderedMap

/-!
# Rows by key

`groupRows key rows` is the map of a loop that pushes each row onto the list of its key. It finds the rows of a
key (`get?_groupRows`), and has the keys of the rows (`mem_keys_groupRows`); what is added up key by key is what
is added up over all rows (`sum_map_rowsOf`). `foldRows key start push rows` is the map of a loop that opens a group
at the first row of a key; its groups are built of the rows of their keys (`get?_foldRows`).

`unseen key seen rows` is what a loop keeps that skips the rows whose key it has seen: the first row of each key.
-/

namespace Lib

variable {ρ κ : Type} [DecidableEq κ] {key : ρ → κ}

def rowsOf (key : ρ → κ) (rows : List ρ) (k : κ) : List ρ := rows.filter fun row => key row = k

theorem rowsOf_cons (row : ρ) (rows : List ρ) (k : κ) :
    rowsOf key (row :: rows) k = if key row = k then row :: rowsOf key rows k else rowsOf key rows k := by
  unfold rowsOf
  rw [List.filter_cons]
  by_cases same : key row = k <;> simp [same]

theorem rowsOf_perm {rows rows' : List ρ} (perm : rows.Perm rows') (k : κ) :
    (rowsOf key rows k).Perm (rowsOf key rows' k) := perm.filter _

theorem sum_map_rowsOf {M : Type} [AddCommMonoid M] {keys : List κ} (nodup : keys.Nodup) {rows : List ρ}
    (covered : ∀ row ∈ rows, key row ∈ keys) (f : ρ → M) :
    (keys.map fun k => ((rowsOf key rows k).map f).sum).sum = (rows.map f).sum := by
  rw [← List.sum_toFinset _ nodup]
  induction rows with
  | nil => simp [rowsOf]
  | cons row rows ih =>
    have split (k : κ) : ((rowsOf key (row :: rows) k).map f).sum =
        (if key row = k then f row else 0) + ((rowsOf key rows k).map f).sum := by
      rw [rowsOf_cons]
      by_cases same : key row = k
      · rw [if_pos same, if_pos same, List.map_cons, List.sum_cons]
      · rw [if_neg same, if_neg same, zero_add]
    have here : key row ∈ keys.toFinset := List.mem_toFinset.mpr (covered row List.mem_cons_self)
    rw [Finset.sum_congr rfl fun k _ => split k, Finset.sum_add_distrib, Finset.sum_ite_eq, if_pos here,
      ih fun other mem => covered other (List.mem_cons_of_mem row mem), List.map_cons, List.sum_cons]

theorem flatten_map_rowsOf_perm {keys : List κ} (nodup : keys.Nodup) {rows : List ρ}
    (covered : ∀ row ∈ rows, key row ∈ keys) : ((keys.map (rowsOf key rows)).flatten).Perm rows := by
  induction keys generalizing rows with
  | nil =>
    cases rows with
    | nil => exact List.Perm.refl _
    | cons row rows => cases covered row List.mem_cons_self
  | cons k keys ih =>
    obtain ⟨fresh, nodup⟩ := List.nodup_cons.mp nodup
    have others : keys.map (rowsOf key rows) = keys.map (rowsOf key (rows.filter fun row => ¬key row = k)) := by
      refine List.map_congr_left fun other mem => ?_
      rw [rowsOf, rowsOf, List.filter_filter]
      refine List.filter_congr fun row _ => ?_
      by_cases same : key row = other
      · have apart : key row ≠ k := fun eq => fresh (eq ▸ same ▸ mem)
        simp [same, same ▸ apart]
      · simp [same]
    rw [List.map_cons, List.flatten_cons, others]
    have rest : ((keys.map (rowsOf key (rows.filter fun row => ¬key row = k))).flatten).Perm
        (rows.filter fun row => ¬key row = k) := by
      refine ih nodup fun row mem => ?_
      obtain ⟨there, apart⟩ := List.mem_filter.mp mem
      exact (List.mem_cons.mp (covered row there)).resolve_left (of_decide_eq_true apart)
    refine (List.Perm.append_left _ rest).trans ?_
    simpa only [rowsOf, decide_not] using List.filter_append_perm (fun row => decide (key row = k)) rows

def pushRow (key : ρ → κ) (groups : OrderedMap κ (List ρ)) (row : ρ) : OrderedMap κ (List ρ) :=
  groups.set (key row) ((groups.get? (key row)).getD [] ++ [row])

def groupRows (key : ρ → κ) (rows : List ρ) : OrderedMap κ (List ρ) := rows.foldl (pushRow key) .empty

theorem get?_foldl_pushRow (groups : OrderedMap κ (List ρ)) (rows : List ρ) (k : κ) :
    (rows.foldl (pushRow key) groups).get? k =
      if rowsOf key rows k = [] then groups.get? k else some ((groups.get? k).getD [] ++ rowsOf key rows k) := by
  induction rows generalizing groups with
  | nil => rfl
  | cons row rows ih =>
    rw [List.foldl_cons, ih, pushRow, OrderedMap.get?_set, rowsOf_cons]
    by_cases same : key row = k
    · subst same
      rw [if_pos rfl, if_pos rfl, if_neg (List.cons_ne_nil _ _)]
      by_cases none : rowsOf key rows (key row) = []
      · rw [if_pos none, none]
      · rw [if_neg none, Option.getD_some, List.append_assoc, List.singleton_append]
    · rw [if_neg same, if_neg (Ne.symm same)]

variable (rows : List ρ)

/-- **A group is the rows of its key.** -/
theorem get?_groupRows (k : κ) :
    (groupRows key rows).get? k = if rowsOf key rows k = [] then none else some (rowsOf key rows k) := by
  unfold groupRows
  rw [get?_foldl_pushRow]
  rfl

theorem getD_groupRows (k : κ) : ((groupRows key rows).get? k).getD [] = rowsOf key rows k := by
  rw [get?_groupRows]
  split
  · next none => exact none.symm
  · rfl

theorem mem_keys_groupRows {rows : List ρ} {k : κ} : k ∈ (groupRows key rows).keys ↔ ∃ row ∈ rows, key row = k := by
  rw [OrderedMap.mem_keys_iff, get?_groupRows]
  constructor
  · rintro ⟨group, found⟩
    split at found
    · exact nomatch found
    · next some =>
      obtain ⟨row, mem⟩ := List.exists_mem_of_ne_nil _ some
      obtain ⟨there, same⟩ := List.mem_filter.mp mem
      exact ⟨row, there, of_decide_eq_true same⟩
  · rintro ⟨row, there, same⟩
    have mem : row ∈ rowsOf key rows k := List.mem_filter.mpr ⟨there, decide_eq_true same⟩
    exact ⟨_, if_neg (List.ne_nil_of_mem mem)⟩

theorem entries_groupRows :
    (groupRows key rows).entries = (groupRows key rows).keys.map fun k => (k, rowsOf key rows k) := by
  unfold OrderedMap.keys
  rw [List.map_map]
  conv_lhs => rw [← List.map_id (groupRows key rows).entries]
  apply List.map_congr_left
  rintro ⟨k, group⟩ mem
  have found := OrderedMap.get?_eq_some_iff.mpr mem
  rw [get?_groupRows] at found
  split at found
  · exact nomatch found
  · rw [← Option.some.inj found]
    rfl

/-- Grouping the rows in another order gives the same keys, in some order. -/
theorem keys_groupRows_perm {rows rows' : List ρ} (perm : rows.Perm rows') :
    (groupRows key rows).keys.Perm (groupRows key rows').keys := by
  rw [List.perm_ext_iff_of_nodup OrderedMap.nodup_keys OrderedMap.nodup_keys]
  intro k
  rw [mem_keys_groupRows, mem_keys_groupRows]
  simp only [perm.mem_iff]

/-! ## Groups that a loop builds -/

section Fold

variable {γ : Type} {start : ρ → γ} {push : γ → ρ → γ}

/-- A pass of a loop that opens the group of a key at its first row, and pushes each row into its group. -/
def foldRow (key : ρ → κ) (start : ρ → γ) (push : γ → ρ → γ) (groups : OrderedMap κ γ) (row : ρ) : OrderedMap κ γ :=
  groups.set (key row) (push ((groups.get? (key row)).getD (start row)) row)

def foldRows (key : ρ → κ) (start : ρ → γ) (push : γ → ρ → γ) (rows : List ρ) : OrderedMap κ γ :=
  rows.foldl (foldRow key start push) .empty

def groupOf (start : ρ → γ) (push : γ → ρ → γ) : List ρ → Option γ
  | [] => none
  | first :: rest => some ((first :: rest).foldl push (start first))

variable (rows : List ρ)

theorem groupOf_concat (row : ρ) :
    groupOf start push (rows ++ [row]) = some (push ((groupOf start push rows).getD (start row)) row) := by
  cases rows with
  | nil => rfl
  | cons first rest =>
    rw [List.cons_append, groupOf, groupOf, Option.getD_some, ← List.cons_append, List.foldl_append]
    rfl

theorem groupOf_eq_none_iff {rows : List ρ} : groupOf start push rows = none ↔ rows = [] := by
  cases rows <;> simp [groupOf]

theorem rowsOf_concat (row : ρ) (k : κ) :
    rowsOf key (rows ++ [row]) k = if key row = k then rowsOf key rows k ++ [row] else rowsOf key rows k := by
  unfold rowsOf
  rw [List.filter_append]
  by_cases same : key row = k <;> simp [same]

/-- **A group is built of the rows of its key.** -/
theorem get?_foldRows (k : κ) : (foldRows key start push rows).get? k = groupOf start push (rowsOf key rows k) := by
  induction rows using List.reverseRecOn with
  | nil => rfl
  | append_singleton rows row ih =>
    have last : foldRows key start push (rows ++ [row]) = foldRow key start push (foldRows key start push rows) row := by
      simp [foldRows]
    rw [last, foldRow, OrderedMap.get?_set, rowsOf_concat]
    by_cases same : key row = k
    · subst same
      rw [if_pos rfl, if_pos rfl, groupOf_concat, ih]
    · rw [if_neg (Ne.symm same), if_neg same, ih]

theorem mem_keys_foldRows {rows : List ρ} {k : κ} :
    k ∈ (foldRows key start push rows).keys ↔ ∃ row ∈ rows, key row = k := by
  have found : (∃ group, groupOf start push (rowsOf key rows k) = some group) ↔ rowsOf key rows k ≠ [] := by
    rw [← Option.ne_none_iff_exists', Ne, groupOf_eq_none_iff]
  rw [OrderedMap.mem_keys_iff, get?_foldRows, found, rowsOf, Ne, List.filter_eq_nil_iff]
  simp

theorem values_foldRows : (foldRows key start push rows).values =
    (foldRows key start push rows).keys.filterMap fun k => groupOf start push (rowsOf key rows k) := by
  unfold OrderedMap.values OrderedMap.keys
  rw [List.filterMap_map, ← List.filterMap_eq_map]
  apply List.filterMap_congr
  rintro ⟨k, group⟩ mem
  have found := OrderedMap.get?_eq_some_iff.mpr mem
  rw [get?_foldRows] at found
  exact found.symm

theorem sum_values_foldRows {M : Type} [AddCommMonoid M] {f : γ → M} {g : ρ → M}
    (added : ∀ rows group, groupOf start push rows = some group → f group = (rows.map g).sum) (rows : List ρ) :
    ((foldRows key start push rows).values.map f).sum = (rows.map g).sum := by
  have covered : ∀ row ∈ rows, key row ∈ (foldRows key start push rows).keys := fun row mem =>
    mem_keys_foldRows.mpr ⟨row, mem, rfl⟩
  rw [values_foldRows, ← sum_map_rowsOf OrderedMap.nodup_keys covered]
  induction (foldRows key start push rows).keys with
  | nil => rfl
  | cons k keys ih =>
    rw [List.map_cons, List.sum_cons, ← ih, List.filterMap_cons]
    cases group : groupOf start push (rowsOf key rows k) with
    | none => simp [groupOf_eq_none_iff.mp group]
    | some group' => simp [added _ _ group]

end Fold

/-! ## The first row of each key -/

def unseen (key : ρ → κ) : List κ → List ρ → List ρ
  | _, [] => []
  | seen, row :: rows => if key row ∈ seen then unseen key seen rows else row :: unseen key (key row :: seen) rows

theorem unseen_sublist (seen : List κ) (rows : List ρ) : (unseen key seen rows).Sublist rows := by
  induction rows generalizing seen with
  | nil => exact List.Sublist.slnil
  | cons row rows ih =>
    rw [unseen]
    split
    · exact (ih seen).cons row
    · exact (ih (key row :: seen)).cons_cons row

/-- The keys that are kept: those of the rows that have not been seen. -/
theorem mem_map_unseen {seen : List κ} {rows : List ρ} {k : κ} :
    k ∈ (unseen key seen rows).map key ↔ k ∈ rows.map key ∧ k ∉ seen := by
  induction rows generalizing seen with
  | nil => simp [unseen]
  | cons row rows ih =>
    rw [unseen]
    split
    · next here =>
      rw [ih, List.map_cons, List.mem_cons]
      constructor
      · rintro ⟨later, fresh⟩
        exact ⟨.inr later, fresh⟩
      · rintro ⟨rfl | later, fresh⟩
        · exact absurd here fresh
        · exact ⟨later, fresh⟩
    · next fresh =>
      rw [List.map_cons, List.mem_cons, ih, List.map_cons, List.mem_cons, List.mem_cons, not_or]
      constructor
      · rintro (rfl | ⟨later, -, other⟩)
        · exact ⟨.inl rfl, fresh⟩
        · exact ⟨.inr later, other⟩
      · rintro ⟨rfl | later, other⟩
        · exact .inl rfl
        · by_cases same : k = key row
          · exact .inl same
          · exact .inr ⟨later, same, other⟩

theorem exists_unseen_of_pairwise {r : ρ → ρ → Prop} {seen : List κ} {rows : List ρ} (sorted : rows.Pairwise r)
    {row : ρ} (mem : row ∈ rows) (fresh : key row ∉ seen) :
    ∃ kept ∈ unseen key seen rows, key kept = key row ∧ (kept = row ∨ r kept row) := by
  induction rows generalizing seen with
  | nil => cases mem
  | cons first rows ih =>
    obtain ⟨before, sorted⟩ := List.pairwise_cons.mp sorted
    rw [unseen]
    split
    · next here =>
      obtain rfl | later := List.mem_cons.mp mem
      · exact absurd here fresh
      · exact ih sorted later fresh
    · obtain rfl | later := List.mem_cons.mp mem
      · exact ⟨row, List.mem_cons_self, rfl, .inl rfl⟩
      · by_cases same : key row = key first
        · exact ⟨first, List.mem_cons_self, same.symm, .inr (before row later)⟩
        · have unlisted : key row ∉ key first :: seen := by simp [same, fresh]
          obtain ⟨kept, there, eq⟩ := ih sorted later unlisted
          exact ⟨kept, List.mem_cons_of_mem _ there, eq⟩

theorem nodup_map_unseen (seen : List κ) (rows : List ρ) : ((unseen key seen rows).map key).Nodup := by
  induction rows generalizing seen with
  | nil => exact List.nodup_nil
  | cons row rows ih =>
    rw [unseen]
    split
    · exact ih seen
    · rw [List.map_cons, List.nodup_cons]
      refine ⟨?_, ih _⟩
      intro again
      exact (mem_map_unseen.mp again).2 List.mem_cons_self

end Lib
