import FullManagedBi.Lib.Action

/-!
# Tables of rows

A table is the list of its rows, and its primary key is a function that is injective on them.
`updateWhere` is `UPDATE … SET f WHERE p`; `rowCount` is what the statement reports. `query` sends a
statement to the store: the `RoundTrip` says whether it is executed and whether its result arrives.
-/

namespace Lib

variable {α κ : Type} {p : α → Bool} {f : α → α} {rows : List α}

def updateWhere (p : α → Bool) (f : α → α) (rows : List α) : List α :=
  rows.map fun row => if p row then f row else row

def rowCount (p : α → Bool) (rows : List α) : Nat := rows.countP p

variable {row : α}

theorem mem_updateWhere : row ∈ updateWhere p f rows ↔ ∃ old ∈ rows, row = if p old then f old else old := by
  simp only [updateWhere, List.mem_map, eq_comm]

theorem mem_updateWhere_of_not (mem : row ∈ rows) (out : p row = false) : row ∈ updateWhere p f rows :=
  mem_updateWhere.mpr ⟨row, mem, by rw [out]; rfl⟩

theorem mem_updateWhere_of_pos (mem : row ∈ rows) (reached : p row = true) : f row ∈ updateWhere p f rows :=
  mem_updateWhere.mpr ⟨row, mem, by rw [reached]; rfl⟩

variable {key : α → κ}

/-- An update that leaves the key alone leaves the keys of the table alone. -/
theorem map_updateWhere (same : ∀ row, key (f row) = key row) : (updateWhere p f rows).map key = rows.map key := by
  unfold updateWhere
  rw [List.map_map]
  refine List.map_congr_left fun row _ => ?_
  simp only [Function.comp_apply]
  split
  · exact same row
  · rfl

/-! ## The first row a condition finds -/

theorem find?_key_eq_some [DecidableEq κ] (keys : (rows.map key).Nodup) {k : κ} :
    rows.find? (fun row => decide (key row = k)) = some row ↔ row ∈ rows ∧ key row = k := by
  constructor
  · intro found
    have same := List.find?_some found
    rw [decide_eq_true_eq] at same
    exact ⟨List.mem_of_find?_eq_some found, same⟩
  · rintro ⟨mem, rfl⟩
    have some_ : (rows.find? fun other => decide (key other = key row)).isSome :=
      List.find?_isSome.mpr ⟨row, mem, by simp⟩
    obtain ⟨other, found⟩ := Option.isSome_iff_exists.mp some_
    have same := List.find?_some found
    rw [decide_eq_true_eq] at same
    rw [found, List.inj_on_of_nodup_map keys (List.mem_of_find?_eq_some found) mem same]

/-- The rows after `UPDATE … WHERE key = …` of a row that is there: the new row, and those of other
keys. -/
theorem mem_updateWhere_key [DecidableEq κ] (keys : (rows.map key).Nodup) {old new row : α} (mem : old ∈ rows) :
    row ∈ updateWhere (fun r => decide (key r = key old)) (fun _ => new) rows ↔
      row = new ∨ row ∈ rows ∧ row ≠ old := by
  rw [mem_updateWhere]
  constructor
  · rintro ⟨r, there, rfl⟩
    by_cases same : key r = key old
    · exact .inl (by simp only [same, decide_true, if_true])
    · refine .inr ?_
      simp only [same, decide_false, Bool.false_eq_true, if_false]
      exact ⟨there, fun eq => same (by rw [eq])⟩
  · rintro (rfl | ⟨there, differs⟩)
    · exact ⟨old, mem, by simp only [decide_true, if_true]⟩
    · refine ⟨row, there, ?_⟩
      rw [if_neg]
      rw [decide_eq_true_eq]
      exact fun same => differs (List.inj_on_of_nodup_map keys there mem same)

/-- A column that such an update leaves alone is the same for the whole table. -/
theorem map_updateWhere_key {γ : Type} [DecidableEq κ] (keys : (rows.map key).Nodup)
    {column : α → γ} {old new : α} (mem : old ∈ rows) (same : column new = column old) :
    (updateWhere (fun r => decide (key r = key old)) (fun _ => new) rows).map column = rows.map column := by
  unfold updateWhere
  rw [List.map_map]
  refine List.map_congr_left fun row there => ?_
  rw [Function.comp_apply]
  split
  · rename_i found
    rw [List.inj_on_of_nodup_map keys there mem (of_decide_eq_true found), same]
  · rfl

theorem filter_key_eq_singleton [DecidableEq κ] (keys : (rows.map key).Nodup) (mem : row ∈ rows) : rows.filter (fun other => decide (key other = key row)) = [row] := by
  induction rows with
  | nil => exact nomatch mem
  | cons first rows ih =>
    rw [List.map_cons, List.nodup_cons] at keys
    rcases List.mem_cons.mp mem with rfl | later
    · rw [List.filter_cons_of_pos (by simp), List.filter_eq_nil_iff.mpr]
      intro other there
      rw [decide_eq_true_eq]
      intro same
      exact keys.1 (same ▸ List.mem_map_of_mem there)
    · have other : key first ≠ key row := fun same => keys.1 (same ▸ List.mem_map_of_mem later)
      rw [List.filter_cons_of_neg (by simpa using other), ih keys.2 later]

/-- The rows after `rows.find(p)` was assigned to: the first row `p` finds is rewritten. -/
def updateFirst (p : α → Bool) (f : α → α) : List α → List α
  | [] => []
  | row :: rows => if p row then f row :: rows else row :: updateFirst p f rows

theorem updateFirst_of_none (none : rows.find? p = none) : updateFirst p f rows = rows := by
  induction rows with
  | nil => rfl
  | cons first rows ih =>
    rw [List.find?_eq_none, List.forall_mem_cons] at none
    simp [updateFirst, none.1, ih (List.find?_eq_none.mpr none.2)]

variable {old : α}

theorem updateFirst_append {front back : List α} (outside : ∀ row ∈ front, p row = false) (inside : p old = true) :
    updateFirst p f (front ++ old :: back) = front ++ f old :: back := by
  induction front with
  | nil => simp [updateFirst, inside]
  | cons first front ih =>
    obtain ⟨head, tail⟩ := List.forall_mem_cons.mp outside
    simp [updateFirst, head, ih tail]

/-- **Where a row is found**: nothing in front of it meets the condition, and an update rewrites it there. -/
theorem exists_updateFirst (found : rows.find? p = some old) : ∃ front back, rows = front ++ old :: back ∧
    p old = true ∧ (∀ row ∈ front, p row = false) ∧ ∀ f, updateFirst p f rows = front ++ f old :: back := by
  obtain ⟨inside, front, back, rfl, outside⟩ := List.find?_eq_some_iff_append.mp found
  have free : ∀ row ∈ front, p row = false := by simpa using outside
  exact ⟨front, back, rfl, inside, free, fun f => updateFirst_append free inside⟩

/-- A row after the update is an old one, or what became of the row that was found. -/
theorem mem_updateFirst (mem : row ∈ updateFirst p f rows) :
    row ∈ rows ∨ ∃ old, rows.find? p = some old ∧ row = f old := by
  cases found : rows.find? p with
  | none => exact .inl (updateFirst_of_none found ▸ mem)
  | some old =>
    obtain ⟨front, back, rfl, -, -, update⟩ := exists_updateFirst found
    rw [update] at mem
    simp only [List.mem_append, List.mem_cons] at mem ⊢
    rcases mem with there | new | there
    · exact .inl (.inl there)
    · exact .inr ⟨old, rfl, new⟩
    · exact .inl (.inr (.inr there))

theorem mem_updateFirst_found (found : rows.find? p = some old) : f old ∈ updateFirst p f rows := by
  obtain ⟨front, back, -, -, -, update⟩ := exists_updateFirst found
  simp [update]

/-- An old row is a row after the update, unless it is the row found. -/
theorem mem_updateFirst_of_mem (mem : row ∈ rows) : row ∈ updateFirst p f rows ∨ rows.find? p = some row := by
  cases found : rows.find? p with
  | none => exact .inl ((updateFirst_of_none found).symm ▸ mem)
  | some old =>
    obtain ⟨front, back, rfl, -, -, update⟩ := exists_updateFirst found
    rw [update]
    simp only [List.mem_append, List.mem_cons, Option.some.injEq] at mem ⊢
    tauto

/-- An update that leaves the key of what it finds alone leaves the keys of the table alone. -/
theorem map_updateFirst_of_pos (same : ∀ row, p row = true → key (f row) = key row) :
    (updateFirst p f rows).map key = rows.map key := by
  cases found : rows.find? p with
  | none => rw [updateFirst_of_none found]
  | some old =>
    obtain ⟨front, back, rfl, inside, -, update⟩ := exists_updateFirst found
    simp [update, same old inside]

/-- An update that leaves the key alone leaves the keys of the table alone. -/
theorem map_updateFirst (same : ∀ row, key (f row) = key row) : (updateFirst p f rows).map key = rows.map key :=
  map_updateFirst_of_pos fun row _ => same row

/-- The row with the key of the row found is what became of it, where no two rows share their key. -/
theorem eq_of_mem_updateFirst (keys : (rows.map key).Nodup) (same : ∀ row, key (f row) = key row)
    {old row : α} (found : rows.find? p = some old) (mem : row ∈ updateFirst p f rows)
    (equal : key row = key old) : row = f old := by
  rw [← map_updateFirst (p := p) same] at keys
  exact List.inj_on_of_nodup_map keys mem (mem_updateFirst_found found) (equal.trans (same old).symm)

variable {q : α → Bool}

/-- An update that does not give the row found a property raises no count of it. -/
theorem countP_updateFirst_le (loses : ∀ old, rows.find? p = some old → q (f old) → q old) :
    (updateFirst p f rows).countP q ≤ rows.countP q := by
  cases found : rows.find? p with
  | none => rw [updateFirst_of_none found]
  | some old =>
    have kept := loses old found
    obtain ⟨front, back, rfl, -, -, update⟩ := exists_updateFirst found
    simp only [update, List.countP_append, List.countP_cons]
    split
    · rw [if_pos (kept ‹_›)]
    · omega

/-- However the row found is rewritten, the rows with a property are at most those outside the
condition that have it and those inside. -/
theorem countP_updateFirst_le_add :
    (updateFirst p f rows).countP q ≤ rows.countP (fun row => q row && !p row) + rows.countP p := by
  have apart (rows : List α) : rows.countP q ≤ rows.countP (fun row => q row && !p row) + rows.countP p := by
    induction rows with
    | nil => exact Nat.le_refl 0
    | cons row rows ih =>
      simp only [List.countP_cons]
      cases q row <;> cases p row <;> simp <;> omega
  cases found : rows.find? p with
  | none => exact (updateFirst_of_none found).symm ▸ apart rows
  | some old =>
    obtain ⟨front, back, rfl, inside, -, update⟩ := exists_updateFirst found
    simp only [update, List.countP_append, List.countP_cons, inside, Bool.not_true, Bool.and_false]
    have := apart front
    have := apart back
    split <;> simp <;> omega

/-- An update that does not change which rows have a property adds to a total over them what it adds to
the row found. -/
theorem sum_updateFirst {m : α → Nat} (found : rows.find? p = some old) (same : q (f old) = q old) :
    (((updateFirst p f rows).filter q).map m).sum + (if q old then m old else 0) =
      ((rows.filter q).map m).sum + if q old then m (f old) else 0 := by
  obtain ⟨front, back, rfl, -, -, update⟩ := exists_updateFirst found
  simp only [update, List.filter_append, List.filter_cons, same]
  split
  · simp only [List.map_append, List.map_cons, List.sum_append, List.sum_cons]
    omega
  · rfl

/-- An update that takes a property from the row found lowers the count of it by one. -/
theorem countP_updateFirst_lost (found : rows.find? p = some old) (had : q old = true)
    (lost : q (f old) = false) : (updateFirst p f rows).countP q + 1 = rows.countP q := by
  obtain ⟨front, back, rfl, -, -, update⟩ := exists_updateFirst found
  simp [update, List.countP_append, had, lost, Nat.add_assoc]

theorem filter_updateFirst (found : rows.find? p = some old) (before : q old = false)
    (after : q (f old) = false) : (updateFirst p f rows).filter q = rows.filter q := by
  obtain ⟨front, back, rfl, -, -, update⟩ := exists_updateFirst found
  simp [update, before, after]

theorem find?_updateFirst (outside : ∀ row, p row → q row = false)
    (stays : ∀ row, p row → q (f row) = false) : (updateFirst p f rows).find? q = rows.find? q := by
  cases found : rows.find? p with
  | none => rw [updateFirst_of_none found]
  | some old =>
    obtain ⟨front, back, rfl, inside, -, update⟩ := exists_updateFirst found
    simp [update, outside old inside, stays old inside]

/-- The row found, after an update that keeps it inside the condition. -/
theorem find?_updateFirst_self (keeps : ∀ row, p row → p (f row)) :
    (updateFirst p f rows).find? p = (rows.find? p).map f := by
  cases found : rows.find? p with
  | none => exact (updateFirst_of_none found).symm ▸ found
  | some old =>
    obtain ⟨front, back, rfl, inside, before, update⟩ := exists_updateFirst found
    rw [update, List.find?_append, List.find?_eq_none.mpr (by simpa using before)]
    simp [keeps old inside]

/-- Two updates of one row, the first of which keeps it inside the condition. -/
theorem updateFirst_updateFirst {g : α → α} (keeps : ∀ row, p row → p (f row)) :
    updateFirst p g (updateFirst p f rows) = updateFirst p (g ∘ f) rows := by
  cases found : rows.find? p with
  | none => simp only [updateFirst_of_none found]
  | some old =>
    obtain ⟨front, back, rfl, inside, before, update⟩ := exists_updateFirst found
    rw [update, update, updateFirst_append before (keeps old inside), Function.comp_apply]

theorem updateFirst_of_fixed (fixed : ∀ row, rows.find? p = some row → f row = row) : updateFirst p f rows = rows := by
  cases found : rows.find? p with
  | none => exact updateFirst_of_none found
  | some old =>
    have same := fixed old found
    obtain ⟨front, back, rfl, -, -, update⟩ := exists_updateFirst found
    rw [update, same]

theorem find?_of_filter_eq_singleton (only : rows.filter p = [row]) : rows.find? p = some row := by
  rw [← List.head?_filter, only]
  rfl

theorem filter_updateFirst_self (only : rows.filter p = [row]) (keeps : p (f row) = true) :
    (updateFirst p f rows).filter p = [f row] := by
  obtain ⟨front, back, rfl, inside, -, update⟩ := exists_updateFirst (find?_of_filter_eq_singleton only)
  rw [List.filter_append, List.filter_cons_of_pos inside, List.append_eq_singleton_iff] at only
  rw [update, List.filter_append, List.filter_cons_of_pos keeps]
  rcases only with ⟨first, last⟩ | ⟨-, last⟩
  · rw [first, (List.cons.inj last).2, List.nil_append]
  · exact nomatch last

/-- What an update adds to the row it finds is added to the whole table. -/
theorem flatMap_updateFirst {β : Type} {g : α → List β} {more : List β}
    (adds : ∀ row, (g (f row)).Perm (g row ++ more)) (found : rows.any p) :
    ((updateFirst p f rows).flatMap g).Perm (rows.flatMap g ++ more) := by
  obtain ⟨old, found⟩ := Option.isSome_iff_exists.mp ((List.find?_isSome ..).trans (List.any_eq_true ..).symm |>.mpr found)
  obtain ⟨front, back, rfl, -, -, update⟩ := exists_updateFirst found
  rw [update]
  simp only [List.flatMap_append, List.flatMap_cons, List.append_assoc]
  refine (((adds old).append_right _).trans ?_).append_left _
  rw [List.append_assoc]
  exact List.perm_append_comm.append_left _

/-- What a list of parts holds, apart from one of them, does not depend on that one. -/
theorem exists_flatMap_set {β : Type} {g : α → List β} {i : Nat} {x : α} (there : rows[i]? = some x) :
    ∃ others, (rows.flatMap g).Perm (g x ++ others) ∧
      ∀ y, ((rows.set i y).flatMap g).Perm (g y ++ others) := by
  induction rows generalizing i with
  | nil => exact nomatch there
  | cons first rows ih =>
    cases i with
    | zero =>
      obtain rfl : first = x := Option.some.inj there
      exact ⟨rows.flatMap g, .refl _, fun y => .refl _⟩
    | succ i =>
      obtain ⟨others, before, after⟩ := ih there
      have swap (z : α) {zs : List α} (perm : (zs.flatMap g).Perm (g z ++ others)) :
          ((first :: zs).flatMap g).Perm (g z ++ (g first ++ others)) := by
        rw [List.flatMap_cons, ← List.append_assoc]
        refine (perm.append_left _).trans ?_
        rw [← List.append_assoc]
        exact List.perm_append_comm.append_right _
      exact ⟨g first ++ others, swap x before, fun y => swap y (after y)⟩

/-! ## Statements -/

/-- How a statement sent to the store ends: its result arrives; it is executed and the result is lost;
it fails and changes nothing. -/
inductive RoundTrip (ε : Type) where
  | done
  | lost (e : ε)
  | failed (e : ε)

def RoundTrip.commits {ε : Type} : RoundTrip ε → Bool
  | .done => true
  | .lost _ => true
  | .failed _ => false

def query {σ ε β : Type} (trip : RoundTrip ε) (statement : σ → β × σ) : Action σ ε β :=
  match trip with
  | .done => do
    let (result, s) := statement (← get)
    set s
    return result
  | .lost e => do
    set (statement (← get)).2
    throw e
  | .failed e => throw e

/-- A statement that commits changes the store as it says, and one that does not leaves it. -/
theorem ends_query {σ ε β : Type} {trip : RoundTrip ε} {statement : σ → β × σ} {s : σ} {Q : Except ε β → σ → Prop}
    (done : trip = .done → Q (.ok (statement s).1) (statement s).2)
    (lost : ∀ e, trip.commits = true → Q (.error e) (statement s).2)
    (failed : ∀ e, trip.commits = false → Q (.error e) s) : Ends (query trip statement) s Q := by
  cases trip with
  | done => exact done rfl
  | lost e => exact lost e rfl
  | failed e => exact failed e rfl

end Lib
