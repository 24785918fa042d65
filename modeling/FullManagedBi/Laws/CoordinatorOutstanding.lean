import FullManagedBi.Coordinator.Run
import FullManagedBi.Laws.CoordinatorReports

/-!
# Outstanding stores

A store is outstanding from the attempt that reports it as failed to one that succeeds for it
(`Outstanding`). `Attempt.Accountable` lists what an attempt has to report for its stage to account for its
stores, and the lemmas about one more attempt say what that leaves outstanding. The terminal details of a
stage are kept in a map; no detail of it takes the store of another one away (`hasStore_foldl`).
-/

namespace FullManagedBi.Coordinator

open Lib

/-! ## Attempts and their stores -/

/-- An attempt that ended: its stage, the stores it was launched for (all of them for `none`), and how its
process ended. -/
structure Attempt where
  stageName : String
  stores : Option (List String)
  result : StageResult

def Attempt.Asked (attempt : Attempt) (store : String) : Prop :=
  ∀ stores ∈ attempt.stores, store ∈ stores

/-- The summary of the attempt reports the store as failed, partial or blocked. -/
def Attempt.Fails (js : StageBuiltins) (attempt : Attempt) (store : String) : Prop :=
  Reported js attempt.stageName attempt.result.summary store true

/-- The attempt succeeds for a store: it was launched for it, does not report it as failed, and either
succeeds as a whole or reports the store as successful. -/
structure Attempt.Succeeds (js : StageBuiltins) (attempt : Attempt) (store : String) : Prop where
  clean : ¬attempt.Fails js store
  asked : attempt.Asked store
  done : attempt.result.exitCode = 0 ∨ Reported js attempt.stageName attempt.result.summary store false

/-- Some attempt of the stage reports the store as failed, and no later one succeeds for it. -/
def Outstanding (js : StageBuiltins) (attempts : List Attempt) (name store : String) : Prop :=
  ∃ before attempt later, attempts = before ++ attempt :: later ∧ attempt.stageName = name ∧
    attempt.Fails js store ∧ ∀ next ∈ later, next.stageName = name → ¬next.Succeeds js store

variable {js : StageBuiltins} {attempts : List Attempt} {attempt : Attempt} {name store : String}

theorem outstanding_concat : Outstanding js (attempts ++ [attempt]) name store ↔
      (attempt.stageName = name ∧ attempt.Fails js store) ∨
        Outstanding js attempts name store ∧ ¬(attempt.stageName = name ∧ attempt.Succeeds js store) := by
  constructor
  · rintro ⟨before, failed, later, split, named, fails, open_⟩
    rcases List.eq_nil_or_concat later with rfl | ⟨others, last, rfl⟩
    · obtain ⟨-, same⟩ := List.append_inj' split rfl
      obtain rfl := List.singleton_inj.mp same
      exact .inl ⟨named, fails⟩
    · rw [List.concat_eq_append, ← List.cons_append, ← List.append_assoc] at split
      obtain ⟨rfl, same⟩ := List.append_inj' split rfl
      obtain rfl := List.singleton_inj.mp same
      rw [List.concat_eq_append] at open_
      refine .inr ⟨⟨before, failed, others, rfl, named, fails, fun next mem => ?_⟩, ?_⟩
      · exact open_ next (List.mem_append_left _ mem)
      · rintro ⟨same, succeeds⟩
        exact open_ attempt (by simp) same succeeds
  · rintro (⟨named, fails⟩ | ⟨⟨before, failed, later, rfl, named, fails, open_⟩, missed⟩)
    · exact ⟨attempts, attempt, [], rfl, named, fails, nofun⟩
    · refine ⟨before, failed, later ++ [attempt], by simp, named, fails, ?_⟩
      intro next mem same succeeds
      rcases mem_concat.mp mem with old | rfl
      · exact open_ next old same succeeds
      · exact missed ⟨same, succeeds⟩

theorem outstanding_cons {later : List Attempt} : Outstanding js (attempt :: later) name store ↔
      (attempt.stageName = name ∧ attempt.Fails js store ∧
        ∀ next ∈ later, next.stageName = name → ¬next.Succeeds js store) ∨
      Outstanding js later name store := by
  constructor
  · rintro ⟨before, failed, rest, split, named, fails, open_⟩
    cases before with
    | nil =>
      obtain ⟨rfl, rfl⟩ := List.cons_eq_cons.mp split
      exact .inl ⟨named, fails, open_⟩
    | cons first before =>
      obtain ⟨rfl, rfl⟩ := List.cons_eq_cons.mp split
      exact .inr ⟨before, failed, rest, rfl, named, fails, open_⟩
  · rintro (⟨named, fails, open_⟩ | ⟨before, failed, rest, rfl, named, fails, open_⟩)
    · exact ⟨[], attempt, later, rfl, named, fails, open_⟩
    · exact ⟨attempt :: before, failed, rest, rfl, named, fails, open_⟩

instance (attempt : Attempt) (store : String) : Decidable (attempt.Asked store) :=
  inferInstanceAs (Decidable (∀ stores ∈ attempt.stores, store ∈ stores))

instance (js : StageBuiltins) (attempt : Attempt) (store : String) : Decidable (attempt.Fails js store) :=
  inferInstanceAs (Decidable (Reported ..))

instance (js : StageBuiltins) (attempt : Attempt) (store : String) :
    Decidable (attempt.Succeeds js store) :=
  decidable_of_iff (¬attempt.Fails js store ∧ attempt.Asked store ∧
      (attempt.result.exitCode = 0 ∨ Reported js attempt.stageName attempt.result.summary store false))
    ⟨fun ⟨clean, asked, done⟩ => ⟨clean, asked, done⟩, fun succeeds =>
      ⟨succeeds.clean, succeeds.asked, succeeds.done⟩⟩

instance decidableOutstanding (js : StageBuiltins) (name store : String) :
    (attempts : List Attempt) → Decidable (Outstanding js attempts name store)
  | [] => .isFalse fun ⟨before, _, _, split, _⟩ => by cases before <;> exact nomatch split
  | _ :: later =>
    have := decidableOutstanding js name store later
    decidable_of_iff _ outstanding_cons.symm

theorem outstanding_concat_other (other : attempt.stageName ≠ name) :
    Outstanding js (attempts ++ [attempt]) name store ↔ Outstanding js attempts name store := by
  simp [outstanding_concat, other]

theorem Outstanding.attempted (outstanding : Outstanding js attempts name store) :
    ∃ attempt ∈ attempts, attempt.stageName = name := by
  obtain ⟨before, attempt, later, rfl, named, -, -⟩ := outstanding
  exact ⟨attempt, by simp, named⟩

/-- An attempt whose report the stage can account for, after the attempts so far: success means that no
store failed; the report is about stores it was launched for; and with the partial exit code, its summary is
recognized and has a row for each outstanding store it was launched for. -/
structure Attempt.Accountable (js : StageBuiltins) (attempts : List Attempt) (attempt : Attempt) : Prop where
  clean : attempt.result.exitCode = 0 → ∀ store, ¬attempt.Fails js store
  asked : ∀ store, attempt.Fails js store → attempt.Asked store
  recognized : attempt.result.exitCode = partialExitCode →
    Recognized js attempt.stageName attempt.result.summary
  full : attempt.result.exitCode = partialExitCode → isDataStage attempt.stageName = true →
    ∀ store, Outstanding js attempts attempt.stageName store → attempt.Asked store →
      attempt.Fails js store ∨ Reported js attempt.stageName attempt.result.summary store false

theorem Outstanding.managed (outstanding : Outstanding js attempts name store) :
    store ∈ WebapiHistory.fullManagedStoreCodes := by
  obtain ⟨-, attempt, -, -, -, ⟨row, -, named, -⟩, -⟩ := outstanding
  exact mem_of_rowStore named

instance (js : StageBuiltins) (attempts : List Attempt) (attempt : Attempt) :
    Decidable (attempt.Accountable js attempts) :=
  decidable_of_iff
    ((attempt.result.exitCode = 0 → ∀ store ∈ WebapiHistory.fullManagedStoreCodes, ¬attempt.Fails js store) ∧
      (∀ store ∈ WebapiHistory.fullManagedStoreCodes, attempt.Fails js store → attempt.Asked store) ∧
      (attempt.result.exitCode = partialExitCode →
        Recognized js attempt.stageName attempt.result.summary) ∧
      (attempt.result.exitCode = partialExitCode → isDataStage attempt.stageName = true →
        ∀ store ∈ WebapiHistory.fullManagedStoreCodes,
          Outstanding js attempts attempt.stageName store → attempt.Asked store →
          attempt.Fails js store ∨ Reported js attempt.stageName attempt.result.summary store false)) <| by
    have managed {store : String} (fails : attempt.Fails js store) :
        store ∈ WebapiHistory.fullManagedStoreCodes := by
      obtain ⟨row, -, named, -⟩ := fails
      exact mem_of_rowStore named
    constructor
    · rintro ⟨clean, asked, recognized, full⟩
      exact ⟨fun exit store fails => clean exit store (managed fails) fails,
        fun store fails => asked store (managed fails) fails, recognized,
        fun exit data store outstanding => full exit data store outstanding.managed outstanding⟩
    · rintro ⟨clean, asked, recognized, full⟩
      exact ⟨fun exit store _ => clean exit store, fun store _ => asked store, recognized,
        fun exit data store _ => full exit data store⟩

/-! ### One more attempt -/

section Received

variable (accountable : attempt.Accountable js attempts)
  (covers : ∀ store, Outstanding js attempts attempt.stageName store → attempt.Asked store)
include accountable covers

/-- The stores that are outstanding after an attempt are among those it was launched for. -/
theorem asked_of_outstanding (outstanding : Outstanding js (attempts ++ [attempt]) attempt.stageName store) :
    attempt.Asked store := by
  rcases outstanding_concat.mp outstanding with ⟨-, fails⟩ | ⟨old, -⟩
  · exact accountable.asked store fails
  · exact covers store old

theorem not_outstanding_of_success (success : attempt.result.exitCode = 0) :
    ¬Outstanding js (attempts ++ [attempt]) attempt.stageName store := by
  intro outstanding
  rcases outstanding_concat.mp outstanding with ⟨-, fails⟩ | ⟨old, missed⟩
  · exact accountable.clean success store fails
  · exact missed ⟨rfl, accountable.clean success store, covers store old, .inl success⟩

/-- The stores that are outstanding after a partial attempt are those that it reports as failed. -/
theorem fails_of_outstanding (exit : attempt.result.exitCode = partialExitCode)
    (data : isDataStage attempt.stageName = true)
    (outstanding : Outstanding js (attempts ++ [attempt]) attempt.stageName store) : attempt.Fails js store := by
  rcases outstanding_concat.mp outstanding with ⟨-, fails⟩ | ⟨old, missed⟩
  · exact fails
  · have asked := covers store old
    by_contra clean
    have done := (accountable.full exit data store old asked).resolve_left clean
    exact missed ⟨rfl, clean, asked, .inr done⟩

end Received

/-! ## Terminal details -/

/-- A detail whose warning and store are told by its key. -/
structure TerminalDetail.Plain (detail : TerminalDetail) : Prop where
  warning : ':' ∉ detail.warning.toList
  storeCode : ':' ∉ (detail.storeCode.getD "null").toList
  named : detail.storeCode ≠ some "null"

theorem append_colon_inj {front back rest tail : List Char} (frontPlain : ':' ∉ front) (backPlain : ':' ∉ back)
    (same : front ++ ':' :: rest = back ++ ':' :: tail) : front = back ∧ rest = tail := by
  have before {plain later : List Char} (none_ : ':' ∉ plain) :
      (plain ++ ':' :: later).takeWhile (· ≠ ':') = plain := by
    rw [List.takeWhile_append_of_pos, List.takeWhile_cons_of_neg (by simp), List.append_nil]
    intro c mem
    have other : c ≠ ':' := fun colon => none_ (colon ▸ mem)
    simpa using other
  have fronts : front = back := by rw [← before frontPlain, same, before backPlain]
  subst fronts
  exact ⟨rfl, by simpa using same⟩

theorem storeCode_of_detailKey {detail other : TerminalDetail} (plain : detail.Plain) (plainOther : other.Plain)
    (same : detailKey detail = detailKey other) : detail.storeCode = other.storeCode := by
  have texts := congrArg String.toList same
  unfold detailKey at texts
  have colon : ":".toList = [':'] := rfl
  simp only [String.toList_append, colon, List.append_assoc, List.singleton_append] at texts
  obtain ⟨-, rest⟩ := append_colon_inj plain.warning plainOther.warning texts
  have codes := String.toList_inj.mp (append_colon_inj plain.storeCode plainOther.storeCode rest).1
  have name := plain.named
  have nameOther := plainOther.named
  cases left : detail.storeCode <;> cases right : other.storeCode <;> simp_all

def HasStore (details : List TerminalDetail) (store : String) : Prop :=
  ∃ detail ∈ details, detail.storeCode = some store

instance (details : List TerminalDetail) (store : String) : Decidable (HasStore details store) :=
  inferInstanceAs (Decidable (∃ detail ∈ details, _))

/-- The details of a map have the stores of the details that were put into it. -/
theorem hasStore_setDetail {details : List TerminalDetail} {detail : TerminalDetail}
    (plain : ∀ other ∈ details, other.Plain) (here : detail.Plain) :
    (∀ other ∈ setDetail details detail, other.Plain) ∧
      (∀ store, HasStore details store ∨ detail.storeCode = some store →
        HasStore (setDetail details detail) store) := by
  unfold setDetail
  split_ifs with found
  · constructor
    · intro other mem
      obtain ⟨old, there, rfl⟩ := List.mem_map.mp mem
      split_ifs
      · exact here
      · exact plain old there
    · rintro store (⟨old, there, named⟩ | named)
      · refine ⟨_, List.mem_map_of_mem there, ?_⟩
        split_ifs with same
        · exact (storeCode_of_detailKey here (plain old there) same.symm).trans named
        · exact named
      · obtain ⟨old, there, same⟩ := List.any_eq_true.mp found
        refine ⟨_, List.mem_map_of_mem there, ?_⟩
        rw [if_pos (of_decide_eq_true same)]
        exact named
  · constructor
    · intro other mem
      rcases mem_concat.mp mem with old | new
      · exact plain other old
      · exact new ▸ here
    · rintro store (⟨old, there, named⟩ | named)
      · exact ⟨old, List.mem_append_left _ there, named⟩
      · exact ⟨detail, by simp, named⟩

theorem hasStore_foldl {details new : List TerminalDetail} (plain : ∀ other ∈ details, other.Plain)
    (fresh : ∀ detail ∈ new, detail.Plain) {store : String}
    (has : HasStore details store ∨ HasStore new store) : HasStore (new.foldl setDetail details) store := by
  induction new generalizing details with
  | nil => exact has.resolve_right fun ⟨_, mem, _⟩ => absurd mem List.not_mem_nil
  | cons detail new ih =>
    obtain ⟨kept, stores⟩ := hasStore_setDetail plain (fresh detail List.mem_cons_self)
    refine ih kept (fun other mem => fresh other (List.mem_cons_of_mem _ mem)) ?_
    rcases has with old | ⟨other, mem, named⟩
    · exact .inl (stores store (.inl old))
    · rcases List.mem_cons.mp mem with rfl | later
      · exact .inl (stores store (.inr named))
      · exact .inr ⟨other, later, named⟩

theorem IsRowDetail.plain {detail : TerminalDetail} (row : IsRowDetail js detail) : detail.Plain := by
  obtain ⟨warning, row, storeCode⟩ := row
  have codes : ∀ code ∈ WebapiHistory.fullManagedStoreCodes, ':' ∉ code.toList ∧ code ≠ "null" := by
    decide
  have plain : ':' ∉ (detail.storeCode.getD "null").toList ∧ detail.storeCode ≠ some "null" := by
    rw [storeCode]
    unfold rowStore WebapiHistory.normalizeFullManagedStoreCode
    dsimp only
    split_ifs with managed
    · exact ⟨(codes _ managed).1, fun same => (codes _ managed).2 (Option.some.inj same)⟩
    · exact ⟨by decide, nofun⟩
  refine ⟨?_, plain.1, plain.2⟩
  have texts : ∀ text ∈ ["TERMINAL_DATA_QUALITY_GAP", "TERMINAL_CAPABILITY_GAP",
      "TERMINAL_PLATFORM_DATA_GAP"], ':' ∉ text.toList := by
    decide
  exact texts _ warning

end FullManagedBi.Coordinator
