import FullManagedBi.Laws.BackfillRuns

/-!
# The attempt ordinals of a backfill window

What the store has counted for a window (`Database.storedAttempts`) grows by what each commit of the
window counts, and a run starts its ordinals after the count it read. So the ordinals of a window are
never reused as long as every count it read was the stored one, and every fetch was counted
(`KeepsAttempts`). A count above the last ordinal is not read, and the window starts again at 1.
-/

namespace FullManagedBi.Backfill

open Lib

variable {B : CaseBuiltins} {plan : Plan}

/-! ## The ledger of a plan -/

def Database.storedAttempts (db : Database) (planHash windowKey : String) : Nat :=
  (((db.windowsOfPlan planHash).filter (·.windowKey = windowKey)).map (·.attemptCount)).sum

def ordinalsOf (fetched : List FetchRequest) (windowKey : String) : List Nat :=
  (fetched.filter (·.windowKey = windowKey)).map (·.attempt)

/-- The run of the plan is `id`, and it has one row at most for each window of the plan. -/
structure LedgerOf (plan : Plan) (id : Nat) (db : Database) : Prop where
  mine : ∀ n, (db.runs.any fun run => run.backfillRunId = n ∧ run.planHash = plan.planHash) =
    decide (n = id)
  rows : ∀ row ∈ db.windows, row.backfillRunId = id →
    ∃ window ∈ plan.windows, row.hasGrain id window ∧ row.windowKey = window.windowKey
  keys : (db.windows.map fun row => (row.backfillRunId, row.windowKey)).Pairwise fun a b =>
    a.1 = id → b.1 = id → a.2 ≠ b.2

/-- A store that no run of the plan has used. -/
structure NotRun (plan : Plan) (db : Database) : Prop where
  runs : ∀ run ∈ db.runs, run.planHash ≠ plan.planHash
  rows : ∀ row ∈ db.windows, row.backfillRunId < db.nextRunId

/-- The store before or after the first run of the plan. -/
def PlanLedger (plan : Plan) (db : Database) : Prop := NotRun plan db ∨ ∃ id, LedgerOf plan id db

variable {id : Nat} {db : Database}

theorem LedgerOf.windowsOfPlan (ledger : LedgerOf plan id db) :
    db.windowsOfPlan plan.planHash = db.windows.filter (·.backfillRunId = id) := by
  unfold Database.windowsOfPlan
  apply List.filter_congr
  intro row _
  exact ledger.mine row.backfillRunId

theorem NotRun.windowsOfPlan (fresh : NotRun plan db) : db.windowsOfPlan plan.planHash = [] := by
  unfold Database.windowsOfPlan
  rw [List.filter_eq_nil_iff]
  intro row _ found
  obtain ⟨run, mem, same⟩ := List.any_eq_true.mp found
  exact fresh.runs run mem (of_decide_eq_true same).2

theorem LedgerOf.window_of_mem (ledger : LedgerOf plan id db) {row : WindowRow}
    (mem : row ∈ db.windowsOfPlan plan.planHash) :
    ∃ window ∈ plan.windows, row.hasGrain id window ∧ row.windowKey = window.windowKey := by
  rw [ledger.windowsOfPlan, List.mem_filter] at mem
  exact ledger.rows row mem.1 (of_decide_eq_true mem.2)

theorem LedgerOf.single (ledger : LedgerOf plan id db) (windowKey : String) :
    (db.windowsOfPlan plan.planHash).filter (·.windowKey = windowKey) = [] ∨
      ∃ row, (db.windowsOfPlan plan.planHash).filter (·.windowKey = windowKey) = [row] := by
  rw [ledger.windowsOfPlan, List.filter_filter]
  have apart := List.pairwise_map.mp ledger.keys
  have filtered := (apart.sublist List.filter_sublist :
    (db.windows.filter fun row => decide (row.windowKey = windowKey) &&
      decide (row.backfillRunId = id)).Pairwise _)
  generalize rows : db.windows.filter (fun row => decide (row.windowKey = windowKey) &&
    decide (row.backfillRunId = id)) = found at filtered
  have all : ∀ row ∈ found, row.windowKey = windowKey ∧ row.backfillRunId = id := by
    intro row mem
    rw [← rows, List.mem_filter, Bool.and_eq_true, decide_eq_true_eq, decide_eq_true_eq] at mem
    exact mem.2
  match found with
  | [] => exact .inl rfl
  | [row] => exact .inr ⟨row, rfl⟩
  | row :: other :: rest =>
    have differ := List.rel_of_pairwise_cons filtered (List.mem_cons_self (a := other) (l := rest))
    have first := all row List.mem_cons_self
    have second := all other (List.mem_cons_of_mem row List.mem_cons_self)
    exact absurd (first.1.trans second.1.symm) (differ first.2 second.2)

/-! ## What a run writes -/

theorem windows_commitStatement (commit : WindowCommit) (db : Database) :
    (commitStatement B commit db).2.windows = (upsertWindow B commit db).2.windows ∧
      (commitStatement B commit db).2.runs = db.runs := by
  have runs : (upsertWindow B commit db).2.runs = db.runs := by
    unfold upsertWindow
    simp only
    split <;> rfl
  unfold commitStatement
  cases commit.checkpointState with
  | none => exact ⟨rfl, runs⟩
  | some state =>
    simp only [advanceCheckpoint]
    split
    · exact ⟨rfl, runs⟩
    · split
      · exact ⟨rfl, runs⟩
      · exact ⟨rfl, runs⟩

theorem LedgerOf.windowKey_of_find (keyed : PlanKeyed plan) (ledger : LedgerOf plan id db)
    {window : Window} (planned : window ∈ plan.windows) {old : WindowRow}
    (found : db.windows.find? (WindowRow.hasGrain id window) = some old) :
    old.backfillRunId = id ∧ old.windowKey = window.windowKey := by
  have grain := List.find?_some found
  simp only [WindowRow.hasGrain, decide_eq_true_eq] at grain
  obtain ⟨sameRun, store, domain, adapter, start, end_⟩ := grain
  obtain ⟨other, mem, otherGrain, key⟩ := ledger.rows old (List.mem_of_find?_eq_some found) sameRun
  simp only [WindowRow.hasGrain, decide_eq_true_eq] at otherGrain
  obtain ⟨-, store', domain', adapter', start', end'⟩ := otherGrain
  refine ⟨sameRun, key.trans (keyed.sameKey other mem window planned ?_ ?_ ?_ ?_ ?_)⟩
  · exact store'.symm.trans store
  · exact domain'.symm.trans domain
  · exact adapter'.symm.trans adapter
  · exact start'.symm.trans start
  · exact end'.symm.trans end_

theorem LedgerOf.no_row (keyed : PlanKeyed plan) (ledger : LedgerOf plan id db) {window : Window}
    (planned : window ∈ plan.windows) (absent : db.windows.find? (WindowRow.hasGrain id window) = none) :
    ∀ row ∈ db.windows, row.backfillRunId = id → row.windowKey ≠ window.windowKey := by
  intro row mem sameRun same
  obtain ⟨other, inPlan, grain, key⟩ := ledger.rows row mem sameRun
  obtain rfl : other = window :=
    List.inj_on_of_nodup_map keyed.keys inPlan planned (key.symm.trans same)
  exact List.find?_eq_none.mp absent row mem grain

/-- **A commit keeps the ledger and adds its attempts to its window.** -/
theorem LedgerOf.commit (keyed : PlanKeyed plan) (ledger : LedgerOf plan id db)
    {commit : WindowCommit} (sameRun : commit.backfillRunId = id) (planned : commit.window ∈ plan.windows) :
    LedgerOf plan id (commitStatement B commit db).2 ∧
      ∀ windowKey, (commitStatement B commit db).2.storedAttempts plan.planHash windowKey =
        db.storedAttempts plan.planHash windowKey +
          if commit.window.windowKey = windowKey then commit.attemptCount else 0 := by
  subst sameRun
  obtain ⟨windows, runs⟩ := windows_commitStatement (B := B) commit db
  have mine := ledger.mine
  rw [← runs] at mine
  unfold upsertWindow at windows
  simp only at windows
  have counted {db' : Database} (ledger' : LedgerOf plan commit.backfillRunId db') (windowKey : String) :
      db'.storedAttempts plan.planHash windowKey = ((db'.windows.filter fun row =>
        decide (row.windowKey = windowKey) && decide (row.backfillRunId = commit.backfillRunId)).map
          (·.attemptCount)).sum := by
    unfold Database.storedAttempts
    rw [ledger'.windowsOfPlan, List.filter_filter]
  cases found : db.windows.find? (WindowRow.hasGrain commit.backfillRunId commit.window) with
  | some old =>
    rw [found] at windows
    simp only at windows
    obtain ⟨oldRun, oldKey⟩ := ledger.windowKey_of_find keyed planned found
    have kept : LedgerOf plan commit.backfillRunId (commitStatement B commit db).2 := by
      refine ⟨mine, ?_, ?_⟩
      · rw [windows]
        intro row mem mineRow
        rcases mem_updateFirst mem with before | ⟨old', found', rfl⟩
        · exact ledger.rows row before mineRow
        · exact ledger.rows old' (List.mem_of_find?_eq_some found') mineRow
      · rw [windows, map_updateFirst (f := WindowRow.updated B commit) fun row => rfl]
        exact ledger.keys
    refine ⟨kept, fun windowKey => ?_⟩
    rw [counted kept, counted ledger, windows]
    have total := sum_updateFirst (m := fun row => row.attemptCount) (f := WindowRow.updated B commit)
      (q := fun row => decide (row.windowKey = windowKey) &&
        decide (row.backfillRunId = commit.backfillRunId)) found rfl
    simp only [oldKey, oldRun, decide_true, Bool.and_true, decide_eq_true_eq] at total
    by_cases same : commit.window.windowKey = windowKey
    · rw [if_pos same, if_pos same] at total
      rw [if_pos same]
      have more : (WindowRow.updated B commit old).attemptCount =
          old.attemptCount + commit.attemptCount := rfl
      omega
    · rw [if_neg same, if_neg same] at total
      rw [if_neg same]
      exact total
  | none =>
    rw [found] at windows
    simp only at windows
    have kept : LedgerOf plan commit.backfillRunId (commitStatement B commit db).2 := by
      refine ⟨mine, ?_, ?_⟩
      · rw [windows]
        intro row mem mineRow
        rcases mem_concat.mp mem with before | rfl
        · exact ledger.rows row before mineRow
        · exact ⟨commit.window, planned, by simp [WindowRow.hasGrain, WindowCommit.newRow], rfl⟩
      · rw [windows, List.map_append, List.pairwise_append]
        refine ⟨ledger.keys, List.pairwise_singleton _ _, ?_⟩
        intro a memA b memB sameA _
        obtain ⟨row, mem, rfl⟩ := List.mem_map.mp memA
        obtain rfl := List.mem_singleton.mp memB
        exact ledger.no_row keyed planned found row mem sameA
    refine ⟨kept, fun windowKey => ?_⟩
    rw [counted kept, counted ledger, windows, List.filter_append, List.map_append, List.sum_append]
    by_cases same : commit.window.windowKey = windowKey
    · simp [WindowCommit.newRow, same]
    · simp [WindowCommit.newRow, same]

theorem NotRun.opened {db db' : Database} (fresh : NotRun plan db) {row : RunRow}
    (runs : db'.runs = db.runs ++ [row]) (windows : db'.windows = db.windows)
    (id : row.backfillRunId = db.nextRunId) (hash : row.planHash = plan.planHash) :
    LedgerOf plan db.nextRunId db' := by
  have before {row : WindowRow} (mem : row ∈ db.windows) : row.backfillRunId ≠ db.nextRunId :=
    Nat.ne_of_lt (fresh.rows row mem)
  constructor
  · intro n
    have others : (db.runs.any fun run => run.backfillRunId = n ∧ run.planHash = plan.planHash) =
        false := by
      rw [List.any_eq_false]
      intro run mem found
      exact fresh.runs run mem (of_decide_eq_true found).2
    rw [runs, List.any_append, others, List.any_cons, List.any_nil, id, hash]
    simp only [and_true, Bool.or_false, Bool.false_or, eq_comm]
  · intro row mem here
    exact absurd here (before (windows ▸ mem))
  · rw [windows]
    apply List.pairwise_map.mpr
    apply List.pairwise_of_forall_mem_list
    intro row mem other _ here
    exact absurd here (before mem)

theorem LedgerOf.no_rows (ledger : LedgerOf plan id db)
    (none_ : ∀ row ∈ db.windows, row.backfillRunId ≠ id) : db.windowsOfPlan plan.planHash = [] := by
  rw [ledger.windowsOfPlan, List.filter_eq_nil_iff]
  intro row mem sameRun
  exact none_ row mem (of_decide_eq_true sameRun)

/-- Opening a run makes the ledger of its plan, and counts no attempt. -/
theorem PlanLedger.openRun (ledger : PlanLedger plan db) (request : RunRequest)
    (same : request.planHash = plan.planHash) : (∃ id, LedgerOf plan id (openRunStatement request db).2 ∧
        ∀ n, (openRunStatement request db).1 = .ok n → n = id) ∧
      (openRunStatement request db).2.windowsOfPlan plan.planHash = db.windowsOfPlan plan.planHash := by
  rcases ledger with fresh | ⟨id, ledger⟩
  · have absent : db.runs.find? (·.planHash = request.planHash) = none := by
      rw [List.find?_eq_none, same]
      intro run mem
      rw [decide_eq_true_eq]
      exact fresh.runs run mem
    unfold openRunStatement
    rw [absent]
    simp only
    refine (fun made => ⟨⟨db.nextRunId, made, fun n opened => (Except.ok.inj opened).symm⟩,
      (LedgerOf.no_rows made fun row mem => Nat.ne_of_lt (fresh.rows row mem)).trans
        fresh.windowsOfPlan.symm⟩) ?_
    exact fresh.opened rfl rfl rfl same
  · obtain ⟨run, found⟩ : ∃ run, db.runs.find? (·.planHash = request.planHash) = some run := by
      have some_ := ledger.mine id
      rw [decide_eq_true rfl] at some_
      obtain ⟨run, mem, here⟩ := List.any_eq_true.mp some_
      refine Option.isSome_iff_exists.mp (List.find?_isSome.mpr ⟨run, mem, ?_⟩)
      rw [decide_eq_true_eq, same]
      exact (of_decide_eq_true here).2
    have mine : run.backfillRunId = id := by
      have hash := List.find?_some found
      rw [decide_eq_true_eq, same] at hash
      have known := ledger.mine run.backfillRunId
      rw [List.any_eq_true.mpr
        ⟨run, List.mem_of_find?_eq_some found, decide_eq_true ⟨rfl, hash⟩⟩] at known
      exact of_decide_eq_true known.symm
    unfold openRunStatement
    rw [found]
    simp only
    split
    · exact ⟨⟨id, ledger, fun n opened => (Except.ok.inj opened).symm.trans mine⟩, rfl⟩
    · exact ⟨⟨id, ledger, nofun⟩, rfl⟩

/-- Closing a run changes neither which runs the plan has nor the rows of its windows. -/
theorem PlanLedger.closeRun {db db' : Database} (ledger : PlanLedger plan db) (closed : ClosesTo B db db') :
    PlanLedger plan db' ∧ db'.windowsOfPlan plan.planHash = db.windowsOfPlan plan.planHash := by
  rcases closed with rfl | ⟨id, status, completedAt, code, rfl⟩
  · exact ⟨ledger, rfl⟩
  unfold closeRunStatement
  split
  · -- The ids and the hashes of the runs are what they were.
    have same (q : RunRow → Bool) (change : RunRow → RunRow)
        (kept : ∀ run, q (change run) = q run) :
        (updateWhere (fun run : RunRow => decide (run.backfillRunId = id)) change db.runs).any q =
          db.runs.any q := by
      unfold updateWhere
      rw [List.any_map]
      congr 1
      funext run
      simp only [Function.comp_apply]
      split
      · exact kept run
      · rfl
    constructor
    · rcases ledger with fresh | ⟨id', ledger⟩
      · refine .inl ⟨?_, fresh.rows⟩
        intro run mem
        obtain ⟨old, before, rfl⟩ := mem_updateWhere.mp mem
        split
        · exact fresh.runs old before
        · exact fresh.runs old before
      · refine .inr ⟨id', ?_, ledger.rows, ledger.keys⟩
        intro n
        rw [← ledger.mine n]
        exact same (fun run => decide (run.backfillRunId = n ∧ run.planHash = plan.planHash)) _
          fun run => rfl
    · unfold Database.windowsOfPlan
      apply List.filter_congr
      intro row _
      exact same (fun run => decide (run.backfillRunId = row.backfillRunId ∧
        run.planHash = plan.planHash)) _ fun run => rfl
  · exact ⟨ledger, rfl⟩

theorem PlanLedger.openRun' {args : RunArgs} {db db' : Database} (ledger : PlanLedger args.plan db)
    (opened : OpensTo args db db') : PlanLedger args.plan db' ∧
      db'.windowsOfPlan args.plan.planHash = db.windowsOfPlan args.plan.planHash := by
  rcases opened with rfl | ⟨startedAt, rfl⟩
  · exact ⟨ledger, rfl⟩
  · obtain ⟨⟨id, made, -⟩, rows⟩ := ledger.openRun (args.request startedAt) rfl
    exact ⟨.inr ⟨id, made⟩, rows⟩

/-! ## What a run reads -/

def Database.priorAttempts (db : Database) (planHash windowKey : String) : Nat :=
  (mapGet (usableAttemptCounts (db.windowAttemptCounts planHash)) windowKey).getD 0

theorem mapGet_usableAttemptCounts {planHash windowKey : String} {count : Nat}
    (found : mapGet (usableAttemptCounts (db.windowAttemptCounts planHash)) windowKey = some count) :
    ∃ row ∈ (db.windowsOfPlan planHash).filter (·.windowKey = windowKey),
      row.attemptCount = count ∧ count ≤ maxAttemptOrdinal := by
  have mem := mem_of_mapGet found
  unfold usableAttemptCounts Database.windowAttemptCounts at mem
  obtain ⟨listed, usable⟩ := List.mem_filter.mp mem
  obtain ⟨row, inPlan, same⟩ := List.mem_map.mp listed
  obtain ⟨rfl, rfl⟩ := Prod.mk.inj same
  exact ⟨row, List.mem_filter.mpr ⟨inPlan, decide_eq_true rfl⟩, rfl, of_decide_eq_true usable⟩

theorem priorAttempts_le (db : Database) (planHash windowKey : String) :
    db.priorAttempts planHash windowKey ≤ db.storedAttempts planHash windowKey := by
  unfold Database.priorAttempts
  cases found : mapGet (usableAttemptCounts (db.windowAttemptCounts planHash)) windowKey with
  | none => exact Nat.zero_le _
  | some count =>
    obtain ⟨row, mem, rfl, -⟩ := mapGet_usableAttemptCounts found
    exact List.le_sum_of_mem (List.mem_map.mpr ⟨row, mem, rfl⟩)

/-- **Where no count of a window is above the last ordinal, a run starts from the stored one.** -/
theorem PlanLedger.priorAttempts_eq (ledger : PlanLedger plan db) (windowKey : String)
    (within : ∀ row ∈ db.windowsOfPlan plan.planHash, row.windowKey = windowKey →
      row.attemptCount ≤ maxAttemptOrdinal) :
    db.priorAttempts plan.planHash windowKey = db.storedAttempts plan.planHash windowKey := by
  have single : (db.windowsOfPlan plan.planHash).filter (·.windowKey = windowKey) = [] ∨
      ∃ row, (db.windowsOfPlan plan.planHash).filter (·.windowKey = windowKey) = [row] := by
    rcases ledger with fresh | ⟨id, ledger⟩
    · rw [fresh.windowsOfPlan]
      exact .inl rfl
    · exact ledger.single windowKey
  unfold Database.priorAttempts Database.storedAttempts
  rcases single with none_ | ⟨row, one⟩
  · cases found : mapGet (usableAttemptCounts (db.windowAttemptCounts plan.planHash)) windowKey with
    | none =>
      rw [none_]
      rfl
    | some count =>
      obtain ⟨row, mem, -⟩ := mapGet_usableAttemptCounts found
      rw [none_] at mem
      exact absurd mem List.not_mem_nil
  · have here : row ∈ (db.windowsOfPlan plan.planHash).filter (·.windowKey = windowKey) := by
      rw [one]
      exact List.mem_singleton_self row
    obtain ⟨inPlan, key⟩ := List.mem_filter.mp here
    have key := of_decide_eq_true key
    have usable : (windowKey, row.attemptCount) ∈
        usableAttemptCounts (db.windowAttemptCounts plan.planHash) := by
      unfold usableAttemptCounts Database.windowAttemptCounts
      refine List.mem_filter.mpr ⟨List.mem_map.mpr ⟨row, inPlan, by rw [key]⟩, ?_⟩
      exact decide_eq_true (within row inPlan key)
    obtain ⟨count, found⟩ := Option.isSome_iff_exists.mp (isSome_mapGet usable)
    obtain ⟨other, mem, rfl, -⟩ := mapGet_usableAttemptCounts found
    rw [one] at mem ⊢
    obtain rfl := List.mem_singleton.mp mem
    rw [found]
    simp

/-! ## One run -/

section Run

variable {ctx : RunContext} {base : Database} {id : Nat}

/-- The window was fetched `n` times and is not committed yet. -/
structure Attempted (plan : Plan) (base : Database) (n : Nat) (window : Window) (s : Shared) : Prop where
  ordinals : ordinalsOf s.fetched window.windowKey =
    List.range' (base.priorAttempts plan.planHash window.windowKey + 1) n
  stored : s.db.storedAttempts plan.planHash window.windowKey =
    base.storedAttempts plan.planHash window.windowKey
  unsettled : window.windowKey ∉ s.settled

/-- The attempts of a window are consecutive, and all of them are stored once the window is committed. -/
structure AttemptsKept (plan : Plan) (base : Database) (window : Window) (s : Shared) (n : Nat) :
    Prop where
  ordinals : ordinalsOf s.fetched window.windowKey =
    List.range' (base.priorAttempts plan.planHash window.windowKey + 1) n
  settled : window.windowKey ∈ s.settled → base.priorAttempts plan.planHash window.windowKey + n ≤
    s.db.storedAttempts plan.planHash window.windowKey
  stored : base.storedAttempts plan.planHash window.windowKey ≤
    s.db.storedAttempts plan.planHash window.windowKey

variable {n : Nat}

theorem Attempted.kept {window : Window} {s : Shared} (attempted : Attempted plan base n window s) : AttemptsKept plan base window s n where
  ordinals := attempted.ordinals
  settled mem := absurd mem attempted.unsettled
  stored := Nat.le_of_eq attempted.stored.symm

/-- What every moment of the lanes keeps. -/
structure AttemptsInvariant (plan : Plan) (ctx : RunContext) (base : Database) (id : Nat)
    (s : Shared) : Prop where
  ledger : LedgerOf plan id s.db
  fetched : ∀ request ∈ s.fetched, request.attempt ≤ maxAttemptOrdinal ∧
    ∃ window ∈ plan.windows, window.windowKey = request.windowKey ∧
      ctx.adapterKeys.contains window.adapterKey
  kept : ∀ window ∈ plan.windows, ∃ n, AttemptsKept plan base window s n

/-- The windows of a grain that nobody works on. -/
structure AttemptsWaiting (plan : Plan) (base : Database) (rest : List Entry) (s : Shared) : Prop where
  planned : ∀ entry ∈ rest, entry.window ∈ plan.windows ∧ Attempted plan base 0 entry.window s
  keys : (rest.map (·.window.windowKey)).Nodup

structure AttemptsBusy (plan : Plan) (base : Database) (entry : Entry) (rest : List Entry)
    (phase : Phase) (s : Shared) : Prop where
  planned : entry.window ∈ plan.windows
  apart : ∀ other ∈ rest, entry.window.windowKey ≠ other.window.windowKey
  rest : AttemptsWaiting plan base rest s
  attempted : ∀ n, phase = .attempting n → Attempted plan base n entry.window s

structure KnowsPlan (plan : Plan) (ctx : RunContext) (base : Database) (id : Nat) : Prop where
  sameRun : ∀ run, ctx.execute = some run → run.backfillRunId = id
  prior : ∀ run, ctx.execute = some run → ∀ window : Window,
    run.priorAttemptCount window = base.priorAttempts plan.planHash window.windowKey

variable {checkpoint : Option CheckpointState} {window : Window} {s s' : Shared} {phase phase' : Phase}

theorem commit_same {run : ExecuteContext} {commit : WindowCommit}
    (legal : n = 0 ∧ IsBlockCommit run window commit ∨ IsOutcomeCommit run checkpoint window n commit) :
    commit.backfillRunId = run.backfillRunId ∧ commit.window = window ∧ n ≤ commit.attemptCount := by
  rcases legal with ⟨rfl, blocked⟩ | counted
  · exact ⟨blocked.sameRun, blocked.sameWindow, Nat.zero_le _⟩
  · refine ⟨counted.sameRun, counted.sameWindow, ?_⟩
    rcases counted.attempts with ⟨same, -⟩ | ⟨more, -⟩
    · omega
    · omega

theorem CallEffect.ledger (keyed : PlanKeyed plan) (knows : KnowsPlan plan ctx base id)
    (planned : window ∈ plan.windows) (ledger : LedgerOf plan id s.db)
    (effect : CallEffect B ctx checkpoint window s phase phase' s') : LedgerOf plan id s'.db := by
  cases effect with
  | fetch => exact ledger
  | commit run n commit reply executes legal =>
    obtain ⟨sameRun, sameWindow, -⟩ := commit_same legal
    exact (ledger.commit keyed (sameRun.trans (knows.sameRun run executes))
      (sameWindow ▸ planned)).1
  | refuse => exact ledger
  | index => exact ledger

theorem CallEffect.frame (keyed : PlanKeyed plan) (knows : KnowsPlan plan ctx base id)
    (planned : window ∈ plan.windows) (ledger : LedgerOf plan id s.db)
    (effect : CallEffect B ctx checkpoint window s phase phase' s') {windowKey : String}
    (apart : window.windowKey ≠ windowKey) : ordinalsOf s'.fetched windowKey = ordinalsOf s.fetched windowKey ∧
      s'.db.storedAttempts plan.planHash windowKey = s.db.storedAttempts plan.planHash windowKey ∧
      (windowKey ∈ s'.settled ↔ windowKey ∈ s.settled) := by
  cases effect with
  | fetch run n =>
    refine ⟨?_, rfl, Iff.rfl⟩
    unfold ordinalsOf
    rw [List.filter_append, List.filter_cons_of_neg, List.filter_nil, List.append_nil]
    rw [decide_eq_true_eq]
    exact apart
  | commit run n commit reply executes legal =>
    obtain ⟨sameRun, sameWindow, -⟩ := commit_same legal
    have counted := (ledger.commit (B := B) keyed (sameRun.trans (knows.sameRun run executes))
      (sameWindow ▸ planned)).2 windowKey
    rw [sameWindow, if_neg apart, Nat.add_zero] at counted
    refine ⟨rfl, counted, ?_⟩
    rw [List.mem_append, List.mem_singleton, or_iff_left apart.symm]
  | refuse => exact ⟨rfl, rfl, Iff.rfl⟩
  | index => exact ⟨rfl, rfl, Iff.rfl⟩

theorem Attempted.frame {other : Window} (attempted : Attempted plan base n other s)
    (same : ordinalsOf s'.fetched other.windowKey = ordinalsOf s.fetched other.windowKey ∧
      s'.db.storedAttempts plan.planHash other.windowKey = s.db.storedAttempts plan.planHash other.windowKey ∧
      (other.windowKey ∈ s'.settled ↔ other.windowKey ∈ s.settled)) : Attempted plan base n other s' where
  ordinals := same.1.trans attempted.ordinals
  stored := same.2.1.trans attempted.stored
  unsettled mem := attempted.unsettled (same.2.2.mp mem)

theorem AttemptsKept.frame {other : Window} (kept : AttemptsKept plan base other s n)
    (same : ordinalsOf s'.fetched other.windowKey = ordinalsOf s.fetched other.windowKey ∧
      s'.db.storedAttempts plan.planHash other.windowKey = s.db.storedAttempts plan.planHash other.windowKey ∧
      (other.windowKey ∈ s'.settled ↔ other.windowKey ∈ s.settled)) : AttemptsKept plan base other s' n where
  ordinals := same.1.trans kept.ordinals
  settled mem := same.2.1 ▸ kept.settled (same.2.2.mp mem)
  stored := same.2.1 ▸ kept.stored

theorem Attempted.fetch (knows : KnowsPlan plan ctx base id) {run : ExecuteContext}
    (executes : ctx.execute = some run) (attempted : Attempted plan base n window s) :
    Attempted plan base (n + 1) window { s with
      adapterInvocationCount := s.adapterInvocationCount + 1
      fetched := s.fetched ++
        [fetchOf ctx checkpoint window (run.priorAttemptCount window + (n + 1))] } where
  ordinals := by
    have before := attempted.ordinals
    unfold ordinalsOf at before ⊢
    rw [List.filter_append, List.map_append, List.filter_cons_of_pos (by simp [fetchOf]),
      List.filter_nil, List.map_singleton, List.range'_concat, knows.prior run executes, Nat.one_mul,
      before]
    simp only [fetchOf]
    congr 2
    omega
  stored := attempted.stored
  unsettled := attempted.unsettled

theorem CallEffect.own (keyed : PlanKeyed plan) (knows : KnowsPlan plan ctx base id)
    (planned : window ∈ plan.windows) (inv : AttemptsInvariant plan ctx base id s)
    (attempted : ∀ n, phase = .attempting n → Attempted plan base n window s)
    (effect : CallEffect B ctx checkpoint window s phase phase' s') : ∃ n, AttemptsKept plan base window s' n := by
  cases effect with
  | fetch run n executes registered within =>
    exact ⟨n + 1, ((attempted n rfl).fetch knows executes).kept⟩
  | commit run n commit reply executes legal =>
    obtain ⟨sameRun, sameWindow, counted⟩ := commit_same legal
    have before := attempted n rfl
    have added := (inv.ledger.commit (B := B) keyed (sameRun.trans (knows.sameRun run executes))
      (sameWindow ▸ planned)).2 window.windowKey
    rw [sameWindow, if_pos rfl, before.stored] at added
    have prior := priorAttempts_le base plan.planHash window.windowKey
    refine ⟨n, before.ordinals, fun _ => ?_, ?_⟩
    · rw [added]
      omega
    · rw [added]
      omega
  | refuse => exact inv.kept window planned
  | index =>
    obtain ⟨n, kept⟩ := inv.kept window planned
    exact ⟨n, kept.frame ⟨rfl, rfl, Iff.rfl⟩⟩

theorem PlanKeyed.apart (keyed : PlanKeyed plan) {entry other : Entry} {others : List Entry}
    (planned : entry.window ∈ plan.windows) (planned' : other.window ∈ plan.windows)
    (apart : GrainsApart [entry] others) (mem : other ∈ others) : entry.window.windowKey ≠ other.window.windowKey := by
  intro same
  have equal := List.inj_on_of_nodup_map keyed.keys planned planned' same
  exact apart entry List.mem_cons_self other mem (by rw [equal])

theorem AttemptsWaiting.frame {entry : Entry} {others : List Entry} (keyed : PlanKeyed plan)
    (knows : KnowsPlan plan ctx base id) (inv : AttemptsInvariant plan ctx base id s)
    (planned : entry.window ∈ plan.windows) (effect : CallEffect B ctx checkpoint entry.window s phase phase' s')
    (apart : ∀ other ∈ others, entry.window.windowKey ≠ other.window.windowKey)
    (waiting : AttemptsWaiting plan base others s) : AttemptsWaiting plan base others s' where
  planned other mem := by
    obtain ⟨inPlan, attempted⟩ := waiting.planned other mem
    exact ⟨inPlan, attempted.frame (effect.frame keyed knows planned inv.ledger (apart other mem))⟩
  keys := waiting.keys

/-- **The rules of the attempts.** -/
theorem attemptsRules (keyed : PlanKeyed plan) (knows : KnowsPlan plan ctx base id) :
    EffectRules B ctx (AttemptsInvariant plan ctx base id) (AttemptsWaiting plan base)
      fun entry rest _ phase s => AttemptsBusy plan base entry rest phase s := by
  constructor
  · exact fun s => ⟨nofun, List.nodup_nil⟩
  · intro entry rest s _ waiting
    have keys := waiting.keys
    rw [List.map_cons, List.nodup_cons] at keys
    refine ⟨(waiting.planned entry List.mem_cons_self).1, fun other mem same => ?_,
      ⟨fun other mem => waiting.planned other (List.mem_cons_of_mem entry mem), keys.2⟩, ?_⟩
    · exact keys.1 (List.mem_map.mpr ⟨other, mem, same.symm⟩)
    · rintro n ⟨⟩
      exact (waiting.planned entry List.mem_cons_self).2
  · exact fun entry rest checkpoint phase s _ busy _ => busy.rest
  · intro entry rest checkpoint phase s phase' s' inv busy effect
    refine ⟨effect.ledger keyed knows busy.planned inv.ledger, ?_, ?_⟩
    · cases effect with
      | fetch run n executes registered within =>
        intro request mem
        rcases mem_concat.mp mem with before | rfl
        · exact inv.fetched request before
        · exact ⟨within, entry.window, busy.planned, rfl, registered⟩
      | commit => exact inv.fetched
      | refuse => exact inv.fetched
      | index => exact inv.fetched
    · intro window planned
      by_cases same : entry.window.windowKey = window.windowKey
      · obtain rfl := List.inj_on_of_nodup_map keyed.keys busy.planned planned same
        exact effect.own keyed knows busy.planned inv busy.attempted
      · obtain ⟨n, kept⟩ := inv.kept window planned
        exact ⟨n, kept.frame (effect.frame keyed knows busy.planned inv.ledger same)⟩
  · intro entry rest checkpoint phase s phase' s' inv busy effect
    refine ⟨busy.planned, busy.apart,
      busy.rest.frame keyed knows inv busy.planned effect busy.apart, ?_⟩
    rintro m rfl
    cases effect with
    | fetch run n executes registered within =>
      exact (busy.attempted n rfl).fetch knows executes
  · intro entry rest checkpoint phase s phase' s' others inv busy effect apart waiting
    exact waiting.frame keyed knows inv busy.planned effect fun other mem =>
      keyed.apart busy.planned (waiting.planned other mem).1 apart mem
  · intro entry rest checkpoint phase s phase' s' other rest' checkpoint' otherPhase inv busy effect
      apart otherBusy
    refine ⟨otherBusy.planned, otherBusy.apart, ?_, fun n phase => ?_⟩
    · exact otherBusy.rest.frame keyed knows inv busy.planned effect fun third mem =>
        keyed.apart busy.planned (otherBusy.rest.planned third mem).1 apart
          (List.mem_cons_of_mem other mem)
    · exact (otherBusy.attempted n phase).frame (effect.frame keyed knows busy.planned inv.ledger
        (keyed.apart busy.planned otherBusy.planned apart List.mem_cons_self))

end Run

/-- What a run leaves, seen as what its lanes leave. -/
def RunTrace.observed (trace : RunTrace) : Shared where
  db := trace.db
  fetched := trace.fetched
  settled := trace.settled

structure RunAttempts (args : RunArgs) (db : Database) (trace : RunTrace) : Prop where
  ledger : PlanLedger args.plan trace.db
  fetched : ∀ request ∈ trace.fetched, args.mode = .execute ∧ request.attempt ≤ maxAttemptOrdinal ∧
    ∃ window ∈ args.plan.windows, window.windowKey = request.windowKey ∧
      args.adapterKeys.contains window.adapterKey
  kept : ∀ window ∈ args.plan.windows, ∃ n, AttemptsKept args.plan db window trace.observed n

theorem attempts_congr {db db' : Database} {planHash : String}
    (same : db'.windowsOfPlan planHash = db.windowsOfPlan planHash) (windowKey : String) :
    db'.storedAttempts planHash windowKey = db.storedAttempts planHash windowKey ∧
      db'.priorAttempts planHash windowKey = db.priorAttempts planHash windowKey := by
  unfold Database.storedAttempts Database.priorAttempts Database.windowAttemptCounts
  rw [same]
  exact ⟨rfl, rfl⟩

theorem runAttempts_of_idle {args : RunArgs} {db db' : Database} (runEnd : RunEnd) (ledger : PlanLedger args.plan db')
    (same : db'.windowsOfPlan args.plan.planHash = db.windowsOfPlan args.plan.planHash) :
    RunAttempts args db { runEnd, db := db' } where
  ledger := ledger
  fetched := nofun
  kept window _ := ⟨0, rfl, nofun, Nat.le_of_eq (attempts_congr same window.windowKey).1.symm⟩

theorem attemptsWaiting_start {db : Database} {checkpointIndex : List (String × CheckpointState)}
    (keyed : PlanKeyed plan) {queue : List Entry} (taken : queue ∈ grains plan.windows) :
    AttemptsWaiting plan db queue { db, checkpointIndex } where
  planned _ mem :=
    ⟨List.mem_of_getElem? (getElem?_of_mem_grains taken mem), rfl, rfl, List.not_mem_nil⟩
  keys := nodup_windowKey_of_mem_grains keyed.keys taken

/-- **What one run does to the attempts.** -/
theorem runBackfillPlan_attempts (args : RunArgs) (env : RunEnv) {db : Database}
    (keyed : PlanKeyed args.plan) (ledger : PlanLedger args.plan db) :
    RunAttempts args db (runBackfillPlan B args env db) := by
  have around := runBackfillPlan_around (B := B) args env db
  generalize runBackfillPlan B args env db = trace at around ⊢
  cases around with
  | unprepared runEnd db' opened =>
    obtain ⟨ledger', same⟩ := ledger.openRun' opened
    exact runAttempts_of_idle runEnd ledger' same
  | lanes runEnd prepared opened closed outcome closes =>
    have ready := isPrepared_of_outcome outcome
    obtain ⟨ledger', same⟩ := ledger.openRun' ready.opensTo
    cases ready with
    | dryRun mode unchanged =>
      rw [runLanes_dryRun rfl] at closes ⊢
      obtain ⟨ledger'', same'⟩ := ledger'.closeRun closes
      exact runAttempts_of_idle runEnd ledger'' (same'.trans same)
    | execute authorization startedAt id mode stated =>
      obtain ⟨⟨id', made, mine⟩, -⟩ := ledger.openRun (args.request startedAt) rfl
      rw [stated] at made mine
      obtain rfl := mine id rfl
      have knows : KnowsPlan args.plan {
          planHash := args.plan.planHash
          adapterKeys := args.adapterKeys
          execute := some {
            backfillRunId := id
            completedWindowKeys := opened.completedWindowKeys args.plan.planHash
            priorAttemptIndex :=
              usableAttemptCounts (opened.windowAttemptCounts args.plan.planHash) } } opened id :=
        ⟨fun run executes => by rw [← Option.some.inj executes],
          fun run executes window => by rw [← Option.some.inj executes]; rfl⟩
      generalize checkpointIndex : (opened.checkpointStates args.plan.storeCodes
        args.plan.domains).map _ = index at closes ⊢
      have inv := (runLanes_hold (B := B) args env (attemptsRules keyed knows).laneRules
        ⟨made, nofun, fun window _ => ⟨0, rfl, nofun, Nat.le_refl _⟩⟩
        fun queue taken => attemptsWaiting_start keyed taken :
          LanesHold _ _ _ _ _ (runLanes B env args ⟨authorization, _, index⟩ opened)).shared
      generalize runLanes B env args _ opened = lanes at inv closes ⊢
      obtain ⟨ledger'', same'⟩ := PlanLedger.closeRun (.inr ⟨id, inv.ledger⟩) closes
      refine ⟨ledger'', fun request mem => ⟨mode, inv.fetched request mem⟩, fun window planned => ?_⟩
      obtain ⟨n, kept⟩ := inv.kept window planned
      have before := attempts_congr same window.windowKey
      have after := attempts_congr same' window.windowKey
      refine ⟨n, ?_, fun settled => ?_, ?_⟩
      · rw [← before.2]
        exact kept.ordinals
      · rw [← before.2]
        exact (kept.settled settled).trans (Nat.le_of_eq after.1.symm)
      · rw [← before.1]
        exact kept.stored.trans (Nat.le_of_eq after.1.symm)

/-! ## Runs of one plan -/

/-- The store, and the fetches of all runs so far. -/
structure PlanHistory where
  db : Database
  fetched : List FetchRequest := []

def planStep (B : CaseBuiltins) (plan : Plan) (s : PlanHistory) (a : RunArgs × RunEnv) : PlanHistory :=
  let trace := runBackfillPlan B { a.1 with plan } a.2 s.db
  { db := trace.db, fetched := s.fetched ++ trace.fetched }

/-- A run that reads every count of the windows it may fetch, and whose fetches are all counted. -/
structure KeepsAttempts (B : CaseBuiltins) (plan : Plan) (s : PlanHistory) (a : RunArgs × RunEnv) :
    Prop where
  /-- No execute run with the adapter of a window starts while the count of the window is above the
  last ordinal. -/
  within : a.1.mode = .execute → ∀ row ∈ s.db.windowsOfPlan plan.planHash,
    a.1.adapterKeys.contains row.adapterKey → row.attemptCount ≤ maxAttemptOrdinal
  /-- The outcome of every window that was fetched is committed. -/
  committed : let trace := runBackfillPlan B { a.1 with plan } a.2 s.db
    ∀ request ∈ trace.fetched, request.windowKey ∈ trace.settled

/-- What every guarded run of the plan keeps. -/
structure OrdinalsInvariant (plan : Plan) (s : PlanHistory) : Prop where
  ledger : PlanLedger plan s.db
  planned : ∀ request ∈ s.fetched, ∃ window ∈ plan.windows, window.windowKey = request.windowKey
  increase : ∀ window ∈ plan.windows, (ordinalsOf s.fetched window.windowKey).Pairwise (· < ·)
  bounds : ∀ window ∈ plan.windows, ∀ m ∈ ordinalsOf s.fetched window.windowKey,
    1 ≤ m ∧ m ≤ maxAttemptOrdinal ∧ m ≤ s.db.storedAttempts plan.planHash window.windowKey

theorem mem_ordinalsOf {fetched : List FetchRequest} {windowKey : String} {m : Nat} :
    m ∈ ordinalsOf fetched windowKey ↔
      ∃ request ∈ fetched, request.windowKey = windowKey ∧ request.attempt = m := by
  unfold ordinalsOf
  simp only [List.mem_map, List.mem_filter, decide_eq_true_eq, and_assoc]

/-- **A guarded run keeps the ordinals.** -/
theorem OrdinalsInvariant.step (keyed : PlanKeyed plan) {s : PlanHistory} {a : RunArgs × RunEnv}
    (inv : OrdinalsInvariant plan s) (keeps : KeepsAttempts B plan s a) :
    OrdinalsInvariant plan (planStep B plan s a) := by
  have attempts := runBackfillPlan_attempts (B := B) { a.1 with plan } a.2 keyed inv.ledger
  have within := keeps.within
  have committed := keeps.committed
  unfold planStep
  simp only at committed ⊢
  generalize runBackfillPlan B { a.1 with plan } a.2 s.db = trace at attempts committed ⊢
  have appended (windowKey : String) : ordinalsOf (s.fetched ++ trace.fetched) windowKey =
      ordinalsOf s.fetched windowKey ++ ordinalsOf trace.fetched windowKey := by
    unfold ordinalsOf
    rw [List.filter_append, List.map_append]
  -- A window that is fetched starts from the stored count, and all its ordinals are stored.
  have fetched (window : Window) (planned : window ∈ plan.windows) (m : Nat)
      (new : m ∈ ordinalsOf trace.fetched window.windowKey) :
      s.db.storedAttempts plan.planHash window.windowKey < m ∧ m ≤ maxAttemptOrdinal ∧
        m ≤ trace.db.storedAttempts plan.planHash window.windowKey := by
    obtain ⟨request, mem, key, rfl⟩ := mem_ordinalsOf.mp new
    obtain ⟨mode, bound, other, inPlan, sameKey, registered⟩ := attempts.fetched request mem
    obtain rfl := List.inj_on_of_nodup_map keyed.keys inPlan planned (sameKey.trans key)
    have start := inv.ledger.priorAttempts_eq other.windowKey fun row mine same => by
      refine within mode row mine ?_
      rcases inv.ledger with fresh | ⟨id, ledger⟩
      · rw [fresh.windowsOfPlan] at mine
        exact absurd mine List.not_mem_nil
      · obtain ⟨third, inPlan', grain, rowKey⟩ := ledger.window_of_mem mine
        obtain rfl := List.inj_on_of_nodup_map keyed.keys inPlan' inPlan (rowKey.symm.trans same)
        simp only [WindowRow.hasGrain, decide_eq_true_eq] at grain
        rw [grain.2.2.2.1]
        exact registered
    obtain ⟨n, kept⟩ := attempts.kept other inPlan
    have stored := kept.settled (key ▸ committed request mem)
    have ordinals := kept.ordinals
    simp only [RunTrace.observed] at stored ordinals
    rw [ordinals, List.mem_range'_1, start] at new
    rw [start] at stored
    exact ⟨by omega, bound, by omega⟩
  constructor
  · exact attempts.ledger
  · intro request mem
    rcases List.mem_append.mp mem with before | new
    · exact inv.planned request before
    · obtain ⟨-, -, window, inPlan, key, -⟩ := attempts.fetched request new
      exact ⟨window, inPlan, key⟩
  · intro window planned
    rw [appended, List.pairwise_append]
    refine ⟨inv.increase window planned, ?_, fun m old m' new => ?_⟩
    · obtain ⟨n, kept⟩ := attempts.kept window planned
      have ordinals := kept.ordinals
      simp only [RunTrace.observed] at ordinals
      rw [ordinals]
      exact List.pairwise_lt_range'
    · have before := (inv.bounds window planned m old).2.2
      have after := (fetched window planned m' new).1
      omega
  · intro window planned m mem
    rw [appended] at mem
    rcases List.mem_append.mp mem with old | new
    · obtain ⟨positive, bound, stored⟩ := inv.bounds window planned m old
      obtain ⟨n, kept⟩ := attempts.kept window planned
      exact ⟨positive, bound, stored.trans kept.stored⟩
    · obtain ⟨after, bound, stored⟩ := fetched window planned m new
      exact ⟨by omega, bound, stored⟩

def oneDayPlan : Plan :=
  { purchaseOrderPlan [purchaseOrderWindow "2026-07-01" "2026-07-02" (digestOf 'a')] with
    to' := "2026-07-01" }

def oneDayRequest : PlanRequest where
  storeCodes := some ["DL5477"]
  domains := some ["purchase-orders"]
  from' := .value "2026-07-01"
  to' := .value "2026-07-01"
  createdBy := "operator"

theorem isSha256Hex_digestOf_a (_ : String) : isSha256Hex (digestOf 'a') = true := isSha256Hex_replicate (by decide)

def constantDigest : Digest := ⟨fun _ => digestOf 'a', isSha256Hex_digestOf_a⟩

/-- An execute run of the plan in which every fetch throws. -/
def failingRun : RunArgs × RunEnv :=
  (executeArgs [], { moves := List.replicate 8 {
    lane := 0
    env := { reply := .error ⟨some "ETIMEDOUT", "request timed out"⟩ } } })

end FullManagedBi.Backfill
