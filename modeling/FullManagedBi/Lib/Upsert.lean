import FullManagedBi.Lib.Run

/-!
# Rows by key

A table by primary key, written by `INSERT ... ON CONFLICT DO UPDATE`: a row with a new key is stored as
it comes, and one with a stored key updates the stored row. Calls write rows one statement after the other.

`alwaysAt_iff` is the rule for a property of one row: if it is known what an insert and what an update need
to keep it, then the row has it in every state exactly if every row written under its key meets that.
-/

namespace Lib

variable {κ ρ γ : Type} [DecidableEq κ] {key : ρ → κ} {update : ρ → ρ → ρ} {written : γ → List ρ}

def upsert (key : ρ → κ) (update : ρ → ρ → ρ) (table : κ → Option ρ) (incoming : ρ) : κ → Option ρ :=
  Function.update table (key incoming) <|
    match table (key incoming) with
    | none => some incoming
    | some stored => some (update stored incoming)

variable {table : κ → Option ρ}

theorem upsert_other {incoming : ρ} {k : κ} (other : key incoming ≠ k) :
    upsert key update table incoming k = table k := Function.update_of_ne (Ne.symm other) _ _

theorem upsert_insert {incoming : ρ} (absent : table (key incoming) = none) :
    upsert key update table incoming (key incoming) = some incoming := by
  rw [upsert, Function.update_self, absent]

theorem upsert_update {incoming stored : ρ} (there : table (key incoming) = some stored) :
    upsert key update table incoming (key incoming) = some (update stored incoming) := by
  rw [upsert, Function.update_self, there]

/-- A call as a step: its rows are written one after the other. -/
def upsertWritten (key : ρ → κ) (update : ρ → ρ → ρ) (written : γ → List ρ) (table : κ → Option ρ) (call : γ) :
    κ → Option ρ := run (upsert key update) table (written call)

theorem run_upsert_other {rows : List ρ} {k : κ} (others : ∀ row ∈ rows, key row ≠ k) :
    run (upsert key update) table rows k = table k := by
  induction rows generalizing table with
  | nil => rfl
  | cons row rows ih =>
    obtain ⟨other, rest⟩ := List.forall_mem_cons.mp others
    exact (ih rest).trans (upsert_other other)

/-- Of rows with different keys each is stored as if it came alone. -/
theorem run_upsert_of_nodup {rows : List ρ} (keys : (rows.map key).Nodup) {row : ρ} (mem : row ∈ rows) :
    run (upsert key update) table rows (key row) = upsert key update table row (key row) := by
  induction rows generalizing table with
  | nil => exact nomatch mem
  | cons first rows ih =>
    rw [List.map_cons, List.nodup_cons] at keys
    rw [run_cons]
    rcases List.mem_cons.mp mem with rfl | later
    · apply run_upsert_other
      intro other there same
      exact keys.1 (same ▸ List.mem_map_of_mem there)
    · have apart : key first ≠ key row := fun same => keys.1 (same ▸ List.mem_map_of_mem later)
      rw [ih keys.2 later]
      unfold upsert
      rw [Function.update_self, Function.update_self, Function.update_of_ne (Ne.symm apart)]

def At (M : ρ → Prop) (k : κ) (table : κ → Option ρ) : Prop := ∀ row, table k = some row → M row

/-- What a row is to meet, if it is inserted and if it updates. -/
def Meets (key : ρ → κ) (starts : ρ → Prop) (keeps : ρ → ρ → Prop) (k : κ) (table : κ → Option ρ) (row : ρ) :
    Prop :=
  key row = k →
    match table k with
    | none => starts row
    | some stored => keeps stored row

/-- The row at a key has the property in every state: after each statement of each call. -/
def AlwaysAt (key : ρ → κ) (update : ρ → ρ → ρ) (written : γ → List ρ) (M : ρ → Prop) (k : κ) (calls : List γ) :
    Prop :=
  ∀ done call more, calls = done ++ call :: more → ∀ pre post, written call = pre ++ post →
    At M k (run (upsert key update) (run (upsertWritten key update written) (fun _ => none) done) pre)

/-- Every row that is written meets the conditions. -/
def AllMeet (key : ρ → κ) (update : ρ → ρ → ρ) (written : γ → List ρ) (starts : ρ → Prop) (keeps : ρ → ρ → Prop)
    (k : κ) (calls : List γ) : Prop :=
  ∀ done call more, calls = done ++ call :: more → ∀ pre row post, written call = pre ++ row :: post →
    Meets key starts keeps k
      (run (upsert key update) (run (upsertWritten key update written) (fun _ => none) done) pre) row

theorem AlwaysAt.last {M : ρ → Prop} {k : κ} {calls : List γ} (always : AlwaysAt key update written M k calls)
    (some_ : calls ≠ []) : At M k (run (upsertWritten key update written) (fun _ => none) calls) := by
  have split := (List.dropLast_append_getLast some_).symm
  rw [split, run_concat]
  exact always _ _ [] split _ [] (List.append_nil _).symm

section Rules

variable {M starts : ρ → Prop} {keeps : ρ → ρ → Prop} {k : κ}

variable {table : κ → Option ρ}

/-- One statement keeps the property exactly if its row meets the conditions. -/
theorem at_upsert_iff {row : ρ} (start : M row ↔ starts row)
    (keep : ∀ stored, M stored → (M (update stored row) ↔ keeps stored row)) (sound : At M k table) :
    At M k (upsert key update table row) ↔ Meets key starts keeps k table row := by
  unfold Meets
  by_cases same : key row = k
  · subst same
    rw [forall_prop_of_true rfl]
    unfold At
    cases old : table (key row) with
    | none =>
      rw [upsert_insert old]
      exact ⟨fun all => start.mp (all row rfl),
        fun holds other is => Option.some.inj is ▸ start.mpr holds⟩
    | some stored =>
      rw [upsert_update old]
      have kept := keep stored (sound stored old)
      exact ⟨fun all => kept.mp (all _ rfl), fun holds other is => Option.some.inj is ▸ kept.mpr holds⟩
  · refine iff_of_true ?_ fun equal => absurd equal same
    intro stored there
    rw [upsert_other same] at there
    exact sound stored there

theorem at_rows_iff {rows : List ρ} (start : ∀ row ∈ rows, M row ↔ starts row)
    (keep : ∀ row ∈ rows, ∀ stored, M stored → (M (update stored row) ↔ keeps stored row)) (sound : At M k table) :
    (∀ pre post, rows = pre ++ post → At M k (run (upsert key update) table pre)) ↔
      Along (upsert key update) (Meets key starts keeps k) table rows :=
  (along_iff_reaches (J := fun _ => True) (fun _ _ _ => trivial)
    (fun _ row mem _ sound => at_upsert_iff (start row mem) (keep row mem) sound) trivial sound).symm

/-- **The rule for a property of one row.** -/
theorem alwaysAt_iff {calls : List γ} (start : ∀ call ∈ calls, ∀ row ∈ written call, M row ↔ starts row)
    (keep : ∀ call ∈ calls, ∀ row ∈ written call, ∀ stored,
      M stored → (M (update stored row) ↔ keeps stored row)) :
    AlwaysAt key update written M k calls ↔ AllMeet key update written starts keeps k calls := by
  have states : Along (upsertWritten key update written)
      (fun table call => ∀ pre post, written call = pre ++ post → At M k (run (upsert key update) table pre))
      (fun _ => none) calls ↔ AlwaysAt key update written M k calls := along_iff_split _ calls
  have statements : Along (upsertWritten key update written)
      (fun table call => ∀ pre row post, written call = pre ++ row :: post →
        Meets key starts keeps k (run (upsert key update) table pre) row)
      (fun _ => none) calls ↔ AllMeet key update written starts keeps k calls := along_iff_split _ calls
  refine states.symm.trans (Iff.trans (along_congr (I := At M k) ?_ ?_ ?_) statements)
  · intro table call mem sound
    exact (at_rows_iff (start call mem) (keep call mem) sound).trans (along_iff_split table (written call))
  · intro table call _ _ all
    exact all (written call) [] (List.append_nil _).symm
  · intro row there
    exact nomatch there

end Rules

end Lib
