import FullManagedBi.Laws.BackfillEvidence
import FullManagedBi.Laws.BackfillRuns

/-!
# The checkpoints of a backfill

A commit moves the checkpoint of its window's grain only on evidence, and only forward
(`CheckpointStep`); every window stored as succeeded has the schema of its grain's checkpoint
(`CheckpointsShared`). Both rest on one fact about the lanes: the checkpoint a window is evaluated
against is the stored one, because the grain of the window is in the hands of one lane.
-/

namespace FullManagedBi.Backfill

open Lib

variable {B : CaseBuiltins} {plan : Plan}

/-! ## Grains -/

structure Grain where
  storeCode : String
  domain : String
  adapterKey : String
  deriving DecidableEq

def Window.grain (window : Window) : Grain := ⟨window.storeCode, window.domain, window.adapterKey⟩

def WindowRow.grain (row : WindowRow) : Grain := ⟨row.storeCode, row.domain, row.adapterKey⟩

def CheckpointRow.grain (row : CheckpointRow) : Grain := ⟨row.storeCode, row.domain, row.adapterKey⟩

def Database.checkpointOf (db : Database) (grain : Grain) : Option CheckpointRow :=
  db.checkpoints.find? (·.grain = grain)

def CheckpointRow.marks (row : CheckpointRow) : String × String :=
  (row.lastCompletedBusinessDate, row.schemaFingerprint)

def CheckpointState.marks (state : CheckpointState) : String × String :=
  (state.lastCompletedBusinessDate, state.schemaFingerprint)

/-- The checkpoint a window is evaluated against says what the stored one says. -/
def Matches (checkpoint : Option CheckpointState) (row : Option CheckpointRow) : Prop :=
  checkpoint.map (·.marks) = row.map (·.marks)

theorem hasGrain_eq (storeCode domain adapterKey : String) : CheckpointRow.hasGrain storeCode domain adapterKey =
      fun row => decide (row.grain = ⟨storeCode, domain, adapterKey⟩) := by
  funext row
  unfold CheckpointRow.hasGrain CheckpointRow.grain
  rw [decide_eq_decide, Grain.mk.injEq]

/-! ## The stored checkpoints -/

structure CheckpointsShared (db : Database) : Prop where
  grains : (db.checkpoints.map (·.grain)).Nodup
  plain : ∀ row ∈ db.checkpoints, Plain row.storeCode ∧ Plain row.domain
  hex : ∀ row ∈ db.checkpoints, isSha256Hex row.schemaFingerprint = true
  succeeded : ∀ row ∈ db.windows, row.executionStatus = .succeeded →
    ∃ checkpoint, db.checkpointOf row.grain = some checkpoint ∧
      row.counts.schemaFingerprint = some checkpoint.schemaFingerprint

theorem checkpointsShared_empty : CheckpointsShared {} :=
  ⟨List.nodup_nil, fun _ => nofun, fun _ => nofun, fun _ => nofun⟩

theorem CheckpointsShared.congr {db db' : Database} (shared : CheckpointsShared db)
    (checkpoints : db'.checkpoints = db.checkpoints) (windows : db'.windows = db.windows) : CheckpointsShared db' where
  grains := checkpoints ▸ shared.grains
  plain := checkpoints ▸ shared.plain
  hex := checkpoints ▸ shared.hex
  succeeded row mem done := by
    unfold Database.checkpointOf
    rw [checkpoints]
    exact shared.succeeded row (windows ▸ mem) done

theorem CheckpointsShared.checkpointOf_eq_some {db : Database} (shared : CheckpointsShared db)
    {grain : Grain} {row : CheckpointRow} :
    db.checkpointOf grain = some row ↔ row ∈ db.checkpoints ∧ row.grain = grain :=
  find?_key_eq_some shared.grains

/-- A grain's checkpoint moved: it is later than before, and the result of a planned window of the grain
that was evaluated against the checkpoint before proves it. -/
structure CheckpointAdvance (windows : List Window) (db db' : Database) (grain : Grain) : Prop where
  advanced : ∃ row window result checkpoint, db'.checkpointOf grain = some row ∧
    (∀ old, db.checkpointOf grain = some old →
      old.lastCompletedBusinessDate < row.lastCompletedBusinessDate) ∧
    window ∈ windows ∧ window.grain = grain ∧ Matches checkpoint (db.checkpointOf grain) ∧
    Evidence window result checkpoint row.lastCompletedBusinessDate row.schemaFingerprint

/-- Every grain's checkpoint stayed or moved on evidence. -/
def CheckpointStep (windows : List Window) (db db' : Database) : Prop :=
  ∀ grain, db'.checkpointOf grain = db.checkpointOf grain ∨ CheckpointAdvance windows db db' grain

/-! ## A commit -/

theorem checkpoints_upsertWindow (commit : WindowCommit) (db : Database) :
    (upsertWindow B commit db).2.checkpoints = db.checkpoints := by
  unfold upsertWindow
  simp only
  split <;> rfl

variable {commit : WindowCommit}

theorem mem_windows_upsertWindow {db : Database} {row : WindowRow} (mem : row ∈ (upsertWindow B commit db).2.windows) :
    row ∈ db.windows ∨ row.grain = commit.window.grain ∧
      row.executionStatus = commit.outcome.executionStatus ∧ row.counts = commit.outcome.counts := by
  unfold upsertWindow at mem
  simp only at mem
  split at mem
  · rcases mem_updateFirst mem with before | ⟨old, found, rfl⟩
    · exact .inl before
    · have grain := List.find?_some found
      simp only [WindowRow.hasGrain, decide_eq_true_eq] at grain
      refine .inr ⟨?_, rfl, rfl⟩
      simp only [WindowRow.grain, WindowRow.updated, Window.grain, grain]
  · rcases mem_concat.mp mem with before | rfl
    · exact .inl before
    · exact .inr ⟨rfl, rfl, rfl⟩

theorem commitStatement_none (db : Database) (none_ : commit.checkpointState = none) :
    (commitStatement B commit db).2.checkpoints = db.checkpoints ∧
      (commitStatement B commit db).2.windows = (upsertWindow B commit db).2.windows ∧
      (commitStatement B commit db).1.checkpointAdvanced = false := by
  unfold commitStatement
  rw [none_]
  exact ⟨checkpoints_upsertWindow commit db, rfl, rfl⟩

theorem commitStatement_some (db : Database) {state : CheckpointState} {grain : Grain}
    (some_ : commit.checkpointState = some state) (same : grain = ⟨state.storeCode, state.domain, state.adapterKey⟩)
    (later : ∀ row, db.checkpointOf grain = some row →
      row.lastCompletedBusinessDate < state.lastCompletedBusinessDate) :
    ∃ id, (commitStatement B commit db).2.checkpoints = (match db.checkpointOf grain with
        | none => db.checkpoints ++ [state.row id]
        | some _ => updateFirst (fun row => decide (row.grain = grain)) (fun _ => state.row id)
            db.checkpoints) ∧
      (commitStatement B commit db).2.windows = (upsertWindow B commit db).2.windows ∧
      (commitStatement B commit db).1.checkpointAdvanced = true := by
  subst same
  refine ⟨(upsertWindow B commit db).1, ?_⟩
  have checkpoints := checkpoints_upsertWindow (B := B) commit db
  unfold commitStatement
  rw [some_]
  generalize upsertWindow B commit db = upserted at checkpoints ⊢
  obtain ⟨id, db'⟩ := upserted
  simp only at checkpoints ⊢
  unfold advanceCheckpoint Database.checkpointOf at *
  simp only [hasGrain_eq, checkpoints]
  cases found : db.checkpoints.find?
      (fun row => decide (row.grain = ⟨state.storeCode, state.domain, state.adapterKey⟩)) with
  | none => simp
  | some row => simp [later row found]

section Commit

variable {windows : List Window} {db : Database} {window : Window} {checkpoint : Option CheckpointState}
  {run : ExecuteContext} {n : Nat} {commit : WindowCommit}

structure CommitKeeps (windows : List Window) (db : Database) (window : Window) (commit : WindowCommit)
    (written : Persistence × Database) : Prop where
  shared : CheckpointsShared written.2
  others : ∀ grain, grain ≠ window.grain → written.2.checkpointOf grain = db.checkpointOf grain
  own : written.2.checkpointOf window.grain = db.checkpointOf window.grain ∧
      written.1.checkpointAdvanced = false ∨
    CheckpointAdvance windows db written.2 window.grain ∧ written.1.checkpointAdvanced = true ∧
      ∃ state, commit.checkpointState = some state ∧
        (written.2.checkpointOf window.grain).map (·.marks) = some state.marks

theorem commit_evidence
    (legal : n = 0 ∧ IsBlockCommit run window commit ∨ IsOutcomeCommit run checkpoint window n commit) :
    commit.checkpointState = none ∧ commit.outcome.executionStatus ≠ .succeeded ∨
      ∃ result date fingerprint, Evidence window result checkpoint date fingerprint ∧
        commit.outcome = passed result ∧ commit.checkpointState =
          nextCheckpointState window (passed result) checkpoint run.backfillRunId := by
  rcases legal with ⟨-, blocked⟩ | counted
  · refine .inl ⟨blocked.state, ?_⟩
    rw [blocked.status]
    simp
  · obtain ⟨result, evaluated⟩ := counted.outcome
    have state := counted.state
    by_cases done : (evaluateWindowOutcome window result checkpoint).checkpointAdvanceable = true ∨
        (evaluateWindowOutcome window result checkpoint).executionStatus = .succeeded
    · obtain ⟨r, rfl, same⟩ := onlyAs_evaluateWindowOutcome result done
      obtain ⟨date, fingerprint, evidence⟩ := evaluateWindowOutcome_eq_passed.mp same
      rw [evaluated, same] at state
      exact .inr ⟨r, date, fingerprint, evidence, evaluated.trans same, state⟩
    · obtain ⟨refused, unsuccessful⟩ := not_or.mp done
      rw [evaluated, nextCheckpointState_refused _ refused] at state
      exact .inl ⟨state, by rw [evaluated]; exact unsuccessful⟩

variable {date fingerprint : String}

theorem schema_of_matches {result : AdapterResult} (shared : CheckpointsShared db)
    (current : Matches checkpoint (db.checkpointOf window.grain))
    (evidence : Evidence window result checkpoint date fingerprint) {old : CheckpointRow}
    (found : db.checkpointOf window.grain = some old) : old.schemaFingerprint = fingerprint := by
  unfold Matches at current
  rw [found, Option.map_some] at current
  obtain ⟨state, known, marks⟩ := Option.map_eq_some_iff.mp current
  have same : state.schemaFingerprint = old.schemaFingerprint := (Prod.mk.inj marks).2
  rcases evidence.noDrift state known with empty | proved
  · have hex := shared.hex old (shared.checkpointOf_eq_some.mp found).1
    rw [← same, empty] at hex
    exact absurd hex (by decide)
  · exact same.symm.trans proved

theorem commitKeeps_none (shared : CheckpointsShared db) (sameWindow : commit.window = window)
    (none_ : commit.checkpointState = none) (known : commit.outcome.executionStatus = .succeeded → ∃ row,
      db.checkpointOf window.grain = some row ∧
        commit.outcome.counts.schemaFingerprint = some row.schemaFingerprint) :
    CommitKeeps windows db window commit (commitStatement B commit db) := by
  obtain ⟨checkpoints, rows, advanced⟩ := commitStatement_none (B := B) db none_
  have same (grain : Grain) :
      (commitStatement B commit db).2.checkpointOf grain = db.checkpointOf grain := by
    unfold Database.checkpointOf
    rw [checkpoints]
  refine ⟨⟨checkpoints ▸ shared.grains, checkpoints ▸ shared.plain, checkpoints ▸ shared.hex, ?_⟩,
    fun grain _ => same grain, .inl ⟨same _, advanced⟩⟩
  intro row mem done
  rw [same]
  rcases mem_windows_upsertWindow (rows ▸ mem) with before | ⟨grain, status, counts⟩
  · exact shared.succeeded row before done
  · rw [grain, counts, sameWindow]
    exact known (status.symm.trans done)

theorem commitKeeps_some {result : AdapterResult} {state : CheckpointState}
    (shared : CheckpointsShared db) (planned : window ∈ windows)
    (plain : Plain window.storeCode ∧ Plain window.domain) (sameWindow : commit.window = window)
    (current : Matches checkpoint (db.checkpointOf window.grain))
    (evidence : Evidence window result checkpoint date fingerprint)
    (outcome : commit.outcome = passed result) (some_ : commit.checkpointState = some state)
    (grainOf : window.grain = ⟨state.storeCode, state.domain, state.adapterKey⟩)
    (marks : state.marks = (date, fingerprint))
    (later : ∀ row, db.checkpointOf window.grain = some row → row.lastCompletedBusinessDate < date) :
    CommitKeeps windows db window commit (commitStatement B commit db) := by
  obtain ⟨rfl, rfl⟩ := Prod.mk.inj marks
  obtain ⟨id, checkpoints, rows, advanced⟩ := commitStatement_some (B := B) db some_ grainOf later
  have rowGrain : (state.row id).grain = window.grain := grainOf.symm
  -- The grain of the commit has its state, and the other grains are as they were.
  have own : (commitStatement B commit db).2.checkpointOf window.grain = some (state.row id) := by
    unfold Database.checkpointOf at checkpoints ⊢
    rw [checkpoints]
    cases found : db.checkpoints.find? (fun row => decide (row.grain = window.grain)) with
    | none =>
      simp only
      rw [List.find?_append, found, Option.none_or, List.find?_singleton, rowGrain]
      simp
    | some row =>
      simp only
      rw [find?_updateFirst_self (p := fun row : CheckpointRow => decide (row.grain = window.grain)),
        found, Option.map_some]
      intro _ _
      exact decide_eq_true rowGrain
  have others (grain : Grain) (apart : grain ≠ window.grain) :
      (commitStatement B commit db).2.checkpointOf grain = db.checkpointOf grain := by
    unfold Database.checkpointOf at checkpoints ⊢
    rw [checkpoints]
    have elsewhere : decide ((state.row id).grain = grain) = false := by
      rw [rowGrain]
      exact decide_eq_false apart.symm
    cases found : db.checkpoints.find? (fun row => decide (row.grain = window.grain)) with
    | none =>
      simp only
      rw [List.find?_append, List.find?_singleton, elsewhere]
      simp
    | some row =>
      refine find?_updateFirst (fun row here => ?_) fun _ _ => elsewhere
      rw [of_decide_eq_true here]
      exact decide_eq_false apart.symm
  have written : ∀ row ∈ (commitStatement B commit db).2.checkpoints,
      row ∈ db.checkpoints ∨ row = state.row id := by
    rw [checkpoints]
    intro row mem
    split at mem
    · rcases mem_concat.mp mem with before | last
      · exact .inl before
      · exact .inr last
    · rcases mem_updateFirst mem with before | ⟨_, _, new⟩
      · exact .inl before
      · exact .inr new
  refine ⟨⟨?_, ?_, ?_, ?_⟩, others, .inr ⟨⟨state.row id, window, result, checkpoint, own, later,
    planned, rfl, current, evidence⟩, advanced, state, some_, by rw [own]; rfl⟩⟩
  · rw [checkpoints]
    cases found : db.checkpointOf window.grain with
    | none =>
      simp only
      refine nodup_map_concat shared.grains fun row there same => ?_
      rw [shared.checkpointOf_eq_some.mpr ⟨there, same.trans rowGrain⟩] at found
      exact nomatch found
    | some row =>
      simp only
      rw [map_updateFirst_of_pos fun old here => rowGrain.trans (of_decide_eq_true here).symm]
      exact shared.grains
  · intro row mem
    rcases written row mem with before | rfl
    · exact shared.plain row before
    · obtain ⟨store, domain, -⟩ := Grain.mk.inj grainOf
      exact ⟨(store ▸ plain.1 : Plain state.storeCode), (domain ▸ plain.2 : Plain state.domain)⟩
  · intro row mem
    rcases written row mem with before | rfl
    · exact shared.hex row before
    · exact evidence.hex
  · intro row mem done
    rcases mem_windows_upsertWindow (rows ▸ mem) with before | ⟨grain, -, counts⟩
    · obtain ⟨old, found, same⟩ := shared.succeeded row before done
      by_cases here : row.grain = window.grain
      · rw [here] at found ⊢
        refine ⟨state.row id, own, same.trans ?_⟩
        rw [schema_of_matches shared current evidence found]
        rfl
      · exact ⟨old, (others row.grain here).trans found, same⟩
    · rw [grain, counts, sameWindow, outcome]
      exact ⟨state.row id, own, evidence.schemaFingerprint⟩

/-- **What a commit does to the checkpoints.** -/
theorem commit_keeps (shared : CheckpointsShared db) (planned : window ∈ windows)
    (plain : Plain window.storeCode ∧ Plain window.domain)
    (current : Matches checkpoint (db.checkpointOf window.grain))
    (legal : n = 0 ∧ IsBlockCommit run window commit ∨ IsOutcomeCommit run checkpoint window n commit) :
    CommitKeeps windows db window commit (commitStatement B commit db) := by
  have sameWindow : commit.window = window := legal.elim (·.2.sameWindow) (·.sameWindow)
  rcases commit_evidence legal with ⟨none_, unsuccessful⟩ | ⟨result, date, fingerprint, evidence,
    outcome, next⟩
  · exact commitKeeps_none shared sameWindow none_ fun done => absurd done unsuccessful
  · rw [nextCheckpointState_passed run.backfillRunId evidence] at next
    by_cases behind : (checkpoint.any fun checkpoint =>
        ¬checkpoint.lastCompletedBusinessDate < date) = true
    · -- The checkpoint is at the date or after it: only the window is stored.
      rw [if_pos behind] at next
      refine commitKeeps_none shared sameWindow next fun _ => ?_
      obtain ⟨state, rfl, -⟩ := (Option.any_eq_true ..).mp behind
      obtain ⟨row, found, -⟩ := Option.map_eq_some_iff.mp
        (current.symm.trans (Option.map_some ..))
      refine ⟨row, found, ?_⟩
      rw [outcome, schema_of_matches shared current evidence found]
      exact evidence.schemaFingerprint
    · rw [if_neg behind] at next
      refine commitKeeps_some shared planned plain sameWindow current evidence outcome next rfl rfl ?_
      intro row found
      unfold Matches at current
      rw [found, Option.map_some] at current
      obtain ⟨state, rfl, marks⟩ := Option.map_eq_some_iff.mp current
      have same : state.lastCompletedBusinessDate = row.lastCompletedBusinessDate :=
        (Prod.mk.inj marks).1
      rw [← same]
      simpa using behind

end Commit

/-! ## The lanes -/

section Lanes

variable {ctx : RunContext} {checkpoint : Option CheckpointState} {s s' : Shared} {phase phase' : Phase}

/-- The memory of the run knows the stored checkpoint of the window's grain. -/
def Synced (s : Shared) (window : Window) : Prop :=
  Matches (mapGet s.checkpointIndex window.grainKey) (s.db.checkpointOf window.grain)

/-- What a lane inside a window knows of its checkpoint. -/
def PhaseSynced (checkpoint : Option CheckpointState) (window : Window) (s : Shared) : Phase → Prop
  | .attempting _ => Matches checkpoint (s.db.checkpointOf window.grain) ∧ Synced s window
  | .committed commit (.ok persistence) =>
    (persistence.checkpointAdvanced = false ∨ commit.checkpointState = none → Synced s window) ∧
      ∀ state, commit.checkpointState = some state → persistence.checkpointAdvanced = true →
        (s.db.checkpointOf window.grain).map (·.marks) = some state.marks
  | .committed _ (.error _) => True
  | .indexed _ => Synced s window

/-- The windows of a grain that nobody works on. -/
structure CheckpointsWaiting (plan : Plan) (rest : List Entry) (s : Shared) : Prop where
  planned : ∀ entry ∈ rest, entry.window ∈ plan.windows ∧ Synced s entry.window
  oneGrain : ∀ entry ∈ rest, ∀ other ∈ rest, entry.window.grainKey = other.window.grainKey

structure CheckpointsBusy (plan : Plan) (entry : Entry) (rest : List Entry)
    (checkpoint : Option CheckpointState) (phase : Phase) (s : Shared) : Prop where
  planned : ∀ other ∈ entry :: rest, other.window ∈ plan.windows
  oneGrain : ∀ other ∈ entry :: rest, other.window.grainKey = entry.window.grainKey
  synced : PhaseSynced checkpoint entry.window s phase

theorem PlanKeyed.grain_of_grainKey (keyed : PlanKeyed plan) {window other : Window}
    (planned : window ∈ plan.windows) (planned' : other ∈ plan.windows)
    (same : window.grainKey = other.grainKey) : window.grain = other.grain := by
  obtain ⟨store, domain, -⟩ := keyed.plain window planned
  obtain ⟨store', domain', -⟩ := keyed.plain other planned'
  obtain ⟨sameStore, sameDomain, sameAdapter⟩ := joinKey_three store domain store' domain' same
  unfold Window.grain
  rw [sameStore, sameDomain, sameAdapter]

theorem grainKey_of_grain {window other : Window} (same : window.grain = other.grain) :
    window.grainKey = other.grainKey := by
  obtain ⟨store, domain, adapter⟩ := Grain.mk.inj same
  unfold Window.grainKey
  rw [store, domain, adapter]

variable {window : Window}

theorem CallEffect.checkpoints {windows : List Window}
    (keeps : ∀ run n commit, n = 0 ∧ IsBlockCommit run window commit ∨
      IsOutcomeCommit run checkpoint window n commit → phase = .attempting n →
      CommitKeeps windows s.db window commit (commitStatement B commit s.db))
    (effect : CallEffect B ctx checkpoint window s phase phase' s') {other : Window}
    (apart : window.grainKey ≠ other.grainKey) : s'.db.checkpointOf other.grain = s.db.checkpointOf other.grain ∧
      mapGet s'.checkpointIndex other.grainKey = mapGet s.checkpointIndex other.grainKey := by
  cases effect with
  | fetch => exact ⟨rfl, rfl⟩
  | commit run n commit reply executes legal =>
    refine ⟨(keeps run n commit legal rfl).others other.grain fun same => ?_, rfl⟩
    exact apart (grainKey_of_grain same.symm)
  | refuse => exact ⟨rfl, rfl⟩
  | index commit persistence state =>
    refine ⟨rfl, ?_⟩
    simp only [mapGet_append, if_neg apart]

theorem Synced.congr (same : s'.db.checkpointOf window.grain = s.db.checkpointOf window.grain ∧
      mapGet s'.checkpointIndex window.grainKey = mapGet s.checkpointIndex window.grainKey)
    (synced : Synced s window) : Synced s' window := by
  unfold Synced at synced ⊢
  rw [same.1, same.2]
  exact synced

theorem PhaseSynced.congr (same : s'.db.checkpointOf window.grain = s.db.checkpointOf window.grain ∧
      mapGet s'.checkpointIndex window.grainKey = mapGet s.checkpointIndex window.grainKey)
    (synced : PhaseSynced checkpoint window s phase) : PhaseSynced checkpoint window s' phase := by
  match phase, synced with
  | .attempting _, ⟨current, known⟩ => exact ⟨by rw [same.1]; exact current, known.congr same⟩
  | .committed _ (.ok _), ⟨settled, advanced⟩ =>
    refine ⟨fun still => (settled still).congr same, fun state carried moved => ?_⟩
    rw [same.1]
    exact advanced state carried moved
  | .committed _ (.error _), _ => exact trivial
  | .indexed _, known => exact Synced.congr same known

theorem PhaseSynced.step {windows : List Window} (keeps : ∀ run n commit, n = 0 ∧ IsBlockCommit run window commit ∨
      IsOutcomeCommit run checkpoint window n commit → phase = .attempting n →
      CommitKeeps windows s.db window commit (commitStatement B commit s.db))
    (synced : PhaseSynced checkpoint window s phase) (effect : CallEffect B ctx checkpoint window s phase phase' s') :
    PhaseSynced checkpoint window s' phase' := by
  cases effect with
  | fetch => exact synced
  | commit run n commit reply executes legal replied =>
    cases reply with
    | error e => trivial
    | ok persistence =>
      obtain rfl := replied persistence rfl
      rcases (keeps run n commit legal rfl).own with ⟨same, still⟩ | ⟨-, moved, state, carried, marks⟩
      · exact ⟨fun _ => synced.2.congr ⟨same, rfl⟩, fun _ _ moved => nomatch still.symm.trans moved⟩
      · refine ⟨fun settled => ?_, fun state' carried' _ => ?_⟩
        · rcases settled with still | none_
          · exact nomatch still.symm.trans moved
          · exact nomatch none_.symm.trans carried
        · rw [← Option.mem_unique carried carried']
          exact marks
  | refuse => trivial
  | index commit persistence state carried moved =>
    have marks := synced.2 state carried moved
    simp only [PhaseSynced, Synced, Matches, mapGet_append, if_true, Option.map_some]
    exact marks.symm

theorem PhaseSynced.settled (synced : PhaseSynced checkpoint window s phase)
    (settled : phase.Settled) : Synced s window := by
  match phase, synced, settled with
  | .attempting _, synced, _ => exact synced.2
  | .committed _ (.ok _), synced, settled => exact synced.1 settled
  | .indexed _, synced, _ => exact synced

theorem CheckpointsBusy.keeps (keyed : PlanKeyed plan) {entry : Entry} {rest : List Entry}
    (shared : CheckpointsShared s.db) (busy : CheckpointsBusy plan entry rest checkpoint phase s)
    (run : ExecuteContext) (n : Nat) (commit : WindowCommit) (legal : n = 0 ∧ IsBlockCommit run entry.window commit ∨
      IsOutcomeCommit run checkpoint entry.window n commit) (here : phase = .attempting n) :
    CommitKeeps plan.windows s.db entry.window commit (commitStatement B commit s.db) := by
  subst here
  have planned := busy.planned entry List.mem_cons_self
  obtain ⟨store, domain, -⟩ := keyed.plain entry.window planned
  exact commit_keeps shared planned ⟨store, domain⟩ busy.synced.1 legal

theorem CheckpointsBusy.step (keyed : PlanKeyed plan) {entry : Entry} {rest : List Entry}
    (shared : CheckpointsShared s.db) (busy : CheckpointsBusy plan entry rest checkpoint phase s)
    (effect : CallEffect B ctx checkpoint entry.window s phase phase' s') :
    CheckpointsShared s'.db ∧ CheckpointStep plan.windows s.db s'.db := by
  cases effect with
  | fetch => exact ⟨shared, fun _ => .inl rfl⟩
  | commit run n commit reply executes legal =>
    have keeps := busy.keeps (B := B) keyed shared run n commit legal rfl
    refine ⟨keeps.shared, fun grain => ?_⟩
    by_cases same : grain = entry.window.grain
    · subst same
      exact keeps.own.imp (·.1) (·.1)
    · exact .inl (keeps.others grain same)
  | refuse => exact ⟨shared, fun _ => .inl rfl⟩
  | index => exact ⟨shared, fun _ => .inl rfl⟩

/-- **The rules of the checkpoints.** -/
theorem checkpointsRules (keyed : PlanKeyed plan) :
    EffectRules B ctx (fun s => CheckpointsShared s.db) (CheckpointsWaiting plan) (CheckpointsBusy plan) := by
  constructor
  · exact fun s => ⟨nofun, nofun⟩
  · intro entry rest s _ waiting
    have first := List.mem_cons_self (a := entry) (l := rest)
    obtain ⟨-, synced⟩ := waiting.planned entry first
    exact ⟨fun other mem => (waiting.planned other mem).1,
      fun other mem => waiting.oneGrain other mem entry first, synced, synced⟩
  · intro entry rest checkpoint phase s _ busy settled
    have known := busy.synced.settled settled
    have later {other : Entry} (mem : other ∈ rest) : other ∈ entry :: rest :=
      List.mem_cons_of_mem entry mem
    refine ⟨fun other mem => ⟨busy.planned other (later mem), ?_⟩, fun other mem third mem' => ?_⟩
    · have key := busy.oneGrain other (later mem)
      unfold Synced at known ⊢
      rw [key, keyed.grain_of_grainKey (busy.planned other (later mem))
        (busy.planned entry List.mem_cons_self) key]
      exact known
    · exact (busy.oneGrain other (later mem)).trans (busy.oneGrain third (later mem')).symm
  · exact fun entry rest checkpoint phase s phase' s' shared busy effect =>
      (busy.step keyed shared effect).1
  · intro entry rest checkpoint phase s phase' s' shared busy effect
    exact ⟨busy.planned, busy.oneGrain, busy.synced.step (busy.keeps keyed shared) effect⟩
  · intro entry rest checkpoint phase s phase' s' others shared busy effect apart waiting
    refine ⟨fun other mem => ?_, waiting.oneGrain⟩
    obtain ⟨planned, synced⟩ := waiting.planned other mem
    exact ⟨planned, synced.congr (effect.checkpoints (busy.keeps keyed shared)
      (apart entry List.mem_cons_self other mem))⟩
  · intro entry rest checkpoint phase s phase' s' other rest' checkpoint' otherPhase shared busy effect
      apart otherBusy
    refine ⟨otherBusy.planned, otherBusy.oneGrain, otherBusy.synced.congr ?_⟩
    exact effect.checkpoints (busy.keeps keyed shared)
      (apart entry List.mem_cons_self other List.mem_cons_self)

end Lanes

/-! ## Whole runs -/

theorem OpensTo.checkpoints {args : RunArgs} {db db' : Database} (opened : OpensTo args db db') :
    db'.checkpoints = db.checkpoints ∧ db'.windows = db.windows := by
  rcases opened with rfl | ⟨startedAt, rfl⟩
  · exact ⟨rfl, rfl⟩
  · unfold openRunStatement
    split
    · exact ⟨rfl, rfl⟩
    · split
      · exact ⟨rfl, rfl⟩
      · exact ⟨rfl, rfl⟩

theorem ClosesTo.checkpoints {db db' : Database} (closed : ClosesTo B db db') :
    db'.checkpoints = db.checkpoints ∧ db'.windows = db.windows := by
  rcases closed with rfl | ⟨id, status, completedAt, code, rfl⟩
  · exact ⟨rfl, rfl⟩
  · unfold closeRunStatement
    split
    · exact ⟨rfl, rfl⟩
    · exact ⟨rfl, rfl⟩

theorem synced_loaded {db : Database} (keyed : PlanKeyed plan) (shared : CheckpointsShared db)
    {window : Window} (planned : window ∈ plan.windows) : Synced {
      db
      checkpointIndex := (db.checkpointStates plan.storeCodes plan.domains).map fun state =>
        (grainKeyOf state.storeCode state.domain state.adapterKey, state) } window := by
  obtain ⟨store, domain, -⟩ := keyed.plain window planned
  obtain ⟨inStores, inDomains⟩ := keyed.inScope window planned
  unfold Synced Matches
  simp only
  generalize index : (db.checkpointStates plan.storeCodes plan.domains).map
    (fun state => (grainKeyOf state.storeCode state.domain state.adapterKey, state)) = entries
  -- An entry of the key is the stored checkpoint of the grain.
  have stored (state : CheckpointState) (mem : (window.grainKey, state) ∈ entries) :
      ∃ row, db.checkpointOf window.grain = some row ∧ state = row.state := by
    rw [← index] at mem
    obtain ⟨state', listed, same⟩ := List.mem_map.mp mem
    obtain ⟨key, rfl⟩ := Prod.mk.inj same
    obtain ⟨row, inScope, rfl⟩ := List.mem_map.mp listed
    obtain ⟨there, -⟩ := List.mem_filter.mp inScope
    obtain ⟨rowStore, rowDomain⟩ := shared.plain row there
    obtain ⟨sameStore, sameDomain, sameAdapter⟩ := joinKey_three rowStore rowDomain store domain key
    refine ⟨row, shared.checkpointOf_eq_some.mpr ⟨there, ?_⟩, rfl⟩
    exact Grain.mk.injEq .. |>.mpr ⟨sameStore, sameDomain, sameAdapter⟩
  cases found : db.checkpointOf window.grain with
  | none =>
    cases loaded : mapGet entries window.grainKey with
    | none => rfl
    | some state =>
      obtain ⟨row, there, -⟩ := stored state (mem_of_mapGet loaded)
      exact nomatch found.symm.trans there
  | some row =>
    obtain ⟨there, grain⟩ := shared.checkpointOf_eq_some.mp found
    obtain ⟨sameStore, sameDomain, sameAdapter⟩ := Grain.mk.inj grain
    have listed : (window.grainKey, row.state) ∈ entries := by
      rw [← index]
      refine List.mem_map.mpr ⟨row.state, List.mem_map.mpr ⟨row, List.mem_filter.mpr ⟨there, ?_⟩, rfl⟩,
        ?_⟩
      · exact decide_eq_true ⟨sameStore ▸ inStores, sameDomain ▸ inDomains⟩
      · unfold Window.grainKey
        rw [← sameStore, ← sameDomain, ← sameAdapter]
        rfl
    obtain ⟨state, loaded⟩ := Option.isSome_iff_exists.mp (isSome_mapGet listed)
    obtain ⟨row', there', rfl⟩ := stored state (mem_of_mapGet loaded)
    obtain rfl := Option.mem_unique found there'
    rw [loaded]
    rfl

theorem checkpoints_lanesHold {args : RunArgs} {env : RunEnv} {db opened : Database}
    {prepared : PreparedRun} (keyed : PlanKeyed args.plan) (shared : CheckpointsShared opened)
    (ready : IsPrepared args db opened prepared) (executes : prepared.ctx.execute.isSome) (moves : List LaneMove) :
    LanesHold prepared.ctx (grains args.plan.windows) (fun s => CheckpointsShared s.db)
      (CheckpointsWaiting args.plan) (CheckpointsBusy args.plan)
      (runLanes B { env with moves } args prepared opened) := by
  refine runLanes_hold args { env with moves } (checkpointsRules keyed).laneRules shared ?_
  intro queue taken
  cases ready with
  | dryRun => exact nomatch executes
  | execute =>
    refine ⟨fun entry mem => ?_, fun entry mem other mem' => grainKey_of_mem_grains taken mem mem'⟩
    have planned := List.mem_of_getElem? (getElem?_of_mem_grains taken mem)
    exact ⟨planned, synced_loaded keyed shared planned⟩

structure PlannedRun (B : CaseBuiltins) where
  args : RunArgs
  env : RunEnv
  built : ∃ H C request, buildBackfillPlan B H C request = .ok args.plan

def storeStep (db : Database) (r : PlannedRun B) : Database := (runBackfillPlan B r.args r.env db).db

/-- What holds of a run that starts from the store `db`. -/
structure CheckpointsSafe (B : CaseBuiltins) (db : Database) (r : PlannedRun B) : Prop where
  start : CheckpointsShared db
  /-- At every moment of the lanes the succeeded windows share the schema of their checkpoint, and the
  next move of a lane moves a checkpoint only forward and on evidence. -/
  moments : ∀ prepared opened, (prepareRun B r.env r.args).outcome db = (.ok prepared, opened) →
    opened.checkpoints = db.checkpoints ∧ ∀ moves move,
      let before := (runLanes B { r.env with moves } r.args prepared opened).shared.db
      let after := (runLanes B { r.env with moves := moves ++ [move] } r.args prepared opened).shared.db
      CheckpointsShared before ∧ CheckpointStep r.args.plan.windows before after
  /-- Nothing else in a run moves a checkpoint. -/
  ends : (storeStep db r).checkpoints = db.checkpoints ∨
    ∃ prepared opened, (prepareRun B r.env r.args).outcome db = (.ok prepared, opened) ∧
      (storeStep db r).checkpoints =
        (runLanes B r.env r.args prepared opened).shared.db.checkpoints

theorem CheckpointsShared.moments {db opened : Database} {prepared : PreparedRun} (r : PlannedRun B)
    (shared : CheckpointsShared db)
    (outcome : (prepareRun B r.env r.args).outcome db = (.ok prepared, opened)) (moves : List LaneMove)
    (move : LaneMove) : CheckpointsShared (runLanes B { r.env with moves } r.args prepared opened).shared.db ∧
      CheckpointStep r.args.plan.windows (runLanes B { r.env with moves } r.args prepared opened).shared.db
        (runLanes B { r.env with moves := moves ++ [move] } r.args prepared opened).shared.db := by
  have ready := isPrepared_of_outcome outcome
  obtain ⟨checkpoints, windows⟩ := ready.opensTo.checkpoints
  have opens := shared.congr checkpoints windows
  cases executes : prepared.ctx.execute with
  | none =>
    rw [runLanes_dryRun executes, runLanes_dryRun executes]
    exact ⟨opens, fun _ => .inl rfl⟩
  | some run =>
    obtain ⟨H, C, request, built⟩ := r.built
    have keyed := planKeyed_of_build built
    have hold : LanesHold prepared.ctx (Backfill.grains r.args.plan.windows)
        (fun s => CheckpointsShared s.db) (CheckpointsWaiting r.args.plan) (CheckpointsBusy r.args.plan)
        (runLanes B { r.env with moves } r.args prepared opened) :=
      checkpoints_lanesHold keyed opens ready (by rw [executes]; rfl) moves
    refine ⟨hold.shared, ?_⟩
    have next : runLanes B { r.env with moves := moves ++ [move] } r.args prepared opened =
        laneStep B prepared.ctx (Backfill.grains r.args.plan.windows)
          (runLanes B { r.env with moves } r.args prepared opened) move := run_concat _ _ _
    rw [next]
    rcases laneStep_effect hold move with same | ⟨entry, rest, checkpoint, phase, phase', busy, effect⟩
    · rw [same]
      exact fun _ => .inl rfl
    · exact (busy.step keyed hold.shared effect).2

/-- **A run of a built plan keeps the checkpoints safe.** -/
theorem CheckpointsShared.safe {db : Database} (shared : CheckpointsShared db) (r : PlannedRun B) :
    CheckpointsSafe B db r ∧ CheckpointsShared (storeStep db r) := by
  have around := runBackfillPlan_around (B := B) r.args r.env db
  have moments {prepared : PreparedRun} {opened : Database}
      (outcome : (prepareRun B r.env r.args).outcome db = (.ok prepared, opened)) :
      opened.checkpoints = db.checkpoints ∧ _ :=
    ⟨(isPrepared_of_outcome outcome).opensTo.checkpoints.1, shared.moments r outcome⟩
  have leaves : ((storeStep db r).checkpoints = db.checkpoints ∨
      ∃ prepared opened, (prepareRun B r.env r.args).outcome db = (.ok prepared, opened) ∧
        (storeStep db r).checkpoints =
          (runLanes B r.env r.args prepared opened).shared.db.checkpoints) ∧
      CheckpointsShared (storeStep db r) := by
    unfold storeStep
    generalize runBackfillPlan B r.args r.env db = trace at around ⊢
    cases around with
    | unprepared runEnd db' opened =>
      obtain ⟨checkpoints, windows⟩ := opened.checkpoints
      exact ⟨.inl checkpoints, shared.congr checkpoints windows⟩
    | lanes runEnd prepared opened closed outcome closes =>
      obtain ⟨checkpoints, windows⟩ := closes.checkpoints
      refine ⟨.inr ⟨prepared, opened, outcome, checkpoints⟩, ?_⟩
      exact (shared.moments r outcome r.env.moves {lane := 0}).1.congr checkpoints windows
  exact ⟨⟨shared, fun _ _ outcome => moments outcome, leaves.1⟩, leaves.2⟩

end FullManagedBi.Backfill
