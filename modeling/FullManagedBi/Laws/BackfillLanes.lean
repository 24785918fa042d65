import FullManagedBi.Laws.BackfillWindow

/-!
# The accounting of a backfill run

What one move of a lane can change is said once (`laneStep_change`). Every planned window is at every
moment in exactly one place: reported, in a lane's hands, left behind by a lane that threw, or in a
grain that no lane has taken (`LanesInvariant.places`). A run that returns has finished all its lanes,
so its results are the planned windows, in plan order.
-/

namespace FullManagedBi.Backfill

open Lib

variable {B : CaseBuiltins} {ctx : RunContext}

/-! ## The queues -/

theorem perm_enqueue (queues : List (String × List Entry)) (entry : Entry) :
    ((enqueue queues entry).flatMap (·.2)).Perm (queues.flatMap (·.2) ++ [entry]) := by
  unfold enqueue
  simp only
  split
  · rename_i found
    exact flatMap_updateFirst (fun queue => .refl _) found
  · rw [List.flatMap_append]
    exact .refl _

theorem perm_grains (windows : List Window) : (grains windows).flatten.Perm (planEntries windows) := by
  have step (entries : List Entry) (queues : List (String × List Entry)) :
      ((entries.foldl enqueue queues).flatMap (·.2)).Perm (queues.flatMap (·.2) ++ entries) := by
    induction entries generalizing queues with
    | nil => rw [List.append_nil]; exact .refl _
    | cons entry entries ih =>
      rw [List.foldl_cons, List.append_cons]
      exact (ih _).trans ((perm_enqueue queues entry).append_right _)
  unfold grains grainQueues
  exact step (planEntries windows) []

theorem planIndex_planEntries (windows : List Window) :
    (planEntries windows).map (·.planIndex) = List.range windows.length := by
  unfold planEntries
  rw [List.map_map]
  exact List.zipIdx_map_snd 0 windows |>.trans List.range_eq_range'.symm

theorem getElem?_of_mem_grains {windows : List Window} {queue : List Entry} {entry : Entry}
    (taken : queue ∈ grains windows) (mem : entry ∈ queue) : windows[entry.planIndex]? = some entry.window := by
  have planned := (perm_grains windows).mem_iff.mp (List.mem_flatten.mpr ⟨queue, taken, mem⟩)
  obtain ⟨⟨window, planIndex⟩, there, rfl⟩ := List.mem_map.mp planned
  exact List.mk_mem_zipIdx_iff_getElem?.mp there

/-! ## One move -/

def Lane.entries : Lane → List Entry
  | .waiting rest => rest
  | .processing entry _ rest => entry :: rest
  | .finished => []
  | .threw _ entry rest => entry :: rest

def Lane.hasThrown : Lane → Bool
  | .threw _ _ _ => true
  | _ => false

/-- What a move of the lane `i` can do. -/
inductive LaneChange (B : CaseBuiltins) (ctx : RunContext) (queues : List (List Entry))
    (s : LanesState) (i : Nat) (env : CallEnv) : LanesState → Prop where
  | stay : LaneChange B ctx queues s i env s
  | take (queue : List Entry) : s.lanes[i]? = some (.waiting []) → queues[s.nextGrain]? = some queue →
      LaneChange B ctx queues s i env
        { s with nextGrain := s.nextGrain + 1, lanes := s.lanes.set i (.waiting queue) }
  | finish : s.lanes[i]? = some (.waiting []) → queues[s.nextGrain]? = none →
      LaneChange B ctx queues s i env
        { s with nextGrain := s.nextGrain + 1, lanes := s.lanes.set i .finished }
  | begin (entry : Entry) (rest : List Entry) : s.lanes[i]? = some (.waiting (entry :: rest)) →
      LaneChange B ctx queues s i env
        { s with lanes := s.lanes.set i (.processing entry (processWindow B ctx
            (mapGet s.shared.checkpointIndex entry.window.grainKey) entry.window) rest) }
  | report (entry : Entry) (result : WindowResult) (rest : List Entry) :
      s.lanes[i]? = some (.processing entry (.done result) rest) →
      LaneChange B ctx queues s i env
        { s with
          indexedResults := s.indexedResults ++ [(entry.planIndex, result)]
          lanes := s.lanes.set i (.waiting rest) }
  | throw (entry : Entry) (error : JsError) (rest : List Entry) :
      s.lanes[i]? = some (.processing entry (.fail error) rest) →
      LaneChange B ctx queues s i env
        { s with
          rejection := s.rejection.or (some error)
          lanes := s.lanes.set i (.threw error entry rest) }
  | call (entry : Entry) (call : Call)
      (next : Except JsError (Reply call) → WindowProgram WindowResult) (rest : List Entry) :
      s.lanes[i]? = some (.processing entry (.call call next) rest) →
      LaneChange B ctx queues s i env
        { s with
          shared := (answer B s.shared env call).2
          lanes := s.lanes.set i (.processing entry (next (answer B s.shared env call).1) rest) }

/-- **A move is one of these changes.** -/
theorem laneStep_change (B : CaseBuiltins) (ctx : RunContext) (queues : List (List Entry)) (s : LanesState) (move : LaneMove) :
    LaneChange B ctx queues s move.lane move.env (laneStep B ctx queues s move) := by
  unfold laneStep
  split
  · rename_i here
    cases next : queues[s.nextGrain]? with
    | none => exact .finish here next
    | some queue => exact .take queue here next
  · rename_i entry rest here
    exact .begin entry rest here
  · rename_i entry result rest here
    exact .report entry result rest here
  · rename_i entry error rest here
    exact .throw entry error rest here
  · rename_i entry call next rest here
    exact .call entry call next rest here
  · exact .stay

theorem mem_set_lanes {lanes : List Lane} {i : Nat} {moved lane : Lane}
    (mem : lane ∈ lanes.set i moved) : lane = moved ∨ lane ∈ lanes :=
  (List.mem_or_eq_of_mem_set mem).symm

/-! ## The invariant -/

def LanesState.places (queues : List (List Entry)) (s : LanesState) : List Nat :=
  s.indexedResults.map (·.1) ++
    (s.lanes.flatMap fun lane => lane.entries.map (·.planIndex)) ++
    (queues.drop s.nextGrain).flatten.map (·.planIndex)

/-- What holds at every moment of the lanes. -/
structure LanesInvariant (ctx : RunContext) (windows : List Window) (s : LanesState) : Prop where
  places : (s.places (grains windows)).Perm (List.range windows.length)
  results : ∀ p ∈ s.indexedResults,
    windows[p.1]? = some p.2.window ∧ IsResult ctx p.2.window p.2
  entries : ∀ lane ∈ s.lanes, ∀ entry ∈ lane.entries,
    windows[entry.planIndex]? = some entry.window
  processing : ∀ entry program rest, .processing entry program rest ∈ s.lanes →
    ∃ checkpoint phase, Follows (windowProtocol ctx checkpoint entry.window) program phase
      (WindowEnds ctx entry.window)
  finished : ∀ lane ∈ s.lanes, lane.isFinished → (grains windows).length ≤ s.nextGrain
  threw : (∃ lane ∈ s.lanes, lane.hasThrown) ↔ s.rejection.isSome

section Step

variable {windows : List Window} {s : LanesState} {i : Nat}

variable {lane moved : Lane}

/-- A lane that moves and keeps its entries, and one that trades them with a result or a queue, leave
the places as they are. -/
theorem perm_places_set {s' : LanesState} {reported : List Nat} (here : s.lanes[i]? = some lane)
    (lanes : s'.lanes = s.lanes.set i moved)
    (results : s'.indexedResults.map (·.1) = s.indexedResults.map (·.1) ++ reported)
    (traded : (reported ++ moved.entries.map (·.planIndex) ++
        ((grains windows).drop s'.nextGrain).flatten.map (·.planIndex)).Perm (lane.entries.map (·.planIndex) ++
        ((grains windows).drop s.nextGrain).flatten.map (·.planIndex))) :
    (s'.places (grains windows)).Perm (s.places (grains windows)) := by
  obtain ⟨others, before, after⟩ :=
    exists_flatMap_set (g := fun lane : Lane => lane.entries.map (·.planIndex)) here
  unfold LanesState.places
  rw [results, lanes, List.perm_iff_count]
  intro place
  have countBefore := before.count_eq place
  have countAfter := (after moved).count_eq place
  have countTraded := traded.count_eq place
  simp only [List.count_append] at countBefore countAfter countTraded ⊢
  omega

theorem exists_mem_set {lanes : List Lane} {P : Lane → Prop} (here : lanes[i]? = some lane) (none : ¬P lane) :
    (∃ other ∈ lanes.set i moved, P other) ↔ P moved ∨ ∃ other ∈ lanes, P other := by
  constructor
  · rintro ⟨other, mem, has⟩
    rcases mem_set_lanes mem with rfl | old
    · exact .inl has
    · exact .inr ⟨other, old, has⟩
  · rintro (has | ⟨other, mem, has⟩)
    · exact ⟨moved, List.mem_set (List.getElem?_eq_some_iff.mp here).1 moved, has⟩
    · obtain ⟨j, there⟩ := List.getElem?_of_mem mem
      have apart : i ≠ j := by
        rintro rfl
        rw [here, Option.some.injEq] at there
        exact none (there ▸ has)
      exact ⟨other, List.mem_of_getElem? (i := j) (by rw [List.getElem?_set_ne apart, there]), has⟩

/-- What a move must show about the lane that moved, the others being as they were. -/
theorem LanesInvariant.set {s' : LanesState} (inv : LanesInvariant ctx windows s)
    (reported : List Nat) (here : s.lanes[i]? = some lane) (lanes : s'.lanes = s.lanes.set i moved)
    (results : s'.indexedResults.map (·.1) = s.indexedResults.map (·.1) ++ reported)
    (traded : (reported ++ moved.entries.map (·.planIndex) ++
        ((grains windows).drop s'.nextGrain).flatten.map (·.planIndex)).Perm (lane.entries.map (·.planIndex) ++
        ((grains windows).drop s.nextGrain).flatten.map (·.planIndex)))
    (goodResults : ∀ p ∈ s'.indexedResults, p ∈ s.indexedResults ∨
      windows[p.1]? = some p.2.window ∧ IsResult ctx p.2.window p.2)
    (entries : ∀ entry ∈ moved.entries, windows[entry.planIndex]? = some entry.window)
    (processing : ∀ entry program rest, moved = .processing entry program rest →
      ∃ checkpoint phase, Follows (windowProtocol ctx checkpoint entry.window) program phase
        (WindowEnds ctx entry.window)) (later : s.nextGrain ≤ s'.nextGrain)
    (finished : moved.isFinished → (grains windows).length ≤ s'.nextGrain)
    (stands : ¬lane.hasThrown) (threw : s'.rejection.isSome ↔ moved.hasThrown ∨ s.rejection.isSome) :
    LanesInvariant ctx windows s' where
  places := (perm_places_set here lanes results traded).trans inv.places
  results p mem := (goodResults p mem).elim (inv.results p) id
  entries other mem := by
    rcases mem_set_lanes (lanes ▸ mem) with rfl | old
    · exact entries
    · exact inv.entries other old
  processing entry program rest mem := by
    rcases mem_set_lanes (lanes ▸ mem) with same | old
    · exact processing entry program rest same.symm
    · exact inv.processing entry program rest old
  finished other mem done := by
    rcases mem_set_lanes (lanes ▸ mem) with rfl | old
    · exact finished done
    · exact (inv.finished other old done).trans later
  threw := by
    rw [lanes, exists_mem_set here stands, threw, inv.threw]

/-- **Every move keeps the accounting.** -/
theorem LanesInvariant.step (inv : LanesInvariant ctx windows s) (move : LaneMove) :
    LanesInvariant ctx windows (laneStep B ctx (grains windows) s move) := by
  have change := laneStep_change B ctx (grains windows) s move
  generalize laneStep B ctx (grains windows) s move = s' at change ⊢
  cases change with
  | stay => exact inv
  | take queue here next =>
    obtain ⟨within, taken⟩ := List.getElem?_eq_some_iff.mp next
    have split := List.drop_eq_getElem_cons within
    rw [taken] at split
    refine inv.set [] here rfl (List.append_nil _).symm ?_ (fun p mem => .inl mem)
      (fun entry mem => getElem?_of_mem_grains (List.mem_of_getElem? next) mem) nofun
      (Nat.le_succ _) nofun nofun (by simp [Lane.hasThrown])
    rw [split, List.flatten_cons, List.map_append]
    exact .refl _
  | finish here next =>
    have past := List.getElem?_eq_none_iff.mp next
    refine inv.set [] here rfl (List.append_nil _).symm ?_ (fun p mem => .inl mem)
      nofun nofun (Nat.le_succ _) (fun _ => past.trans (Nat.le_succ _)) nofun
      (by simp [Lane.hasThrown])
    rw [List.drop_eq_nil_of_le past, List.drop_eq_nil_of_le (past.trans (Nat.le_succ _))]
    exact .refl _
  | begin entry rest here =>
    have known := inv.entries _ (List.mem_of_getElem? here)
    refine inv.set [] here rfl (List.append_nil _).symm (.refl _)
      (fun p mem => .inl mem) known ?_ (Nat.le_refl _) nofun nofun (by simp [Lane.hasThrown])
    rintro entry' program rest' ⟨⟩
    exact ⟨_, _, processWindow_follows⟩
  | report entry result rest here =>
    have known := inv.entries _ (List.mem_of_getElem? here)
    obtain ⟨checkpoint, phase, result_, -⟩ := inv.processing _ _ _ (List.mem_of_getElem? here)
    refine inv.set [entry.planIndex] here rfl (List.map_append ..) (.refl _) ?_
      (fun other mem => known other (List.mem_cons_of_mem entry mem)) nofun (Nat.le_refl _) nofun
      nofun (by simp [Lane.hasThrown])
    intro p mem
    rcases mem_concat.mp mem with old | rfl
    · exact .inl old
    · have same := result_.sameWindow
      exact .inr ⟨by rw [same]; exact known entry List.mem_cons_self, by rw [same]; exact result_⟩
  | throw entry error rest here =>
    have known := inv.entries _ (List.mem_of_getElem? here)
    exact inv.set [] here rfl (List.append_nil _).symm (.refl _)
      (fun p mem => .inl mem) known nofun (Nat.le_refl _) nofun nofun
      (by simp [Lane.hasThrown])
  | call entry call next rest here =>
    have known := inv.entries _ (List.mem_of_getElem? here)
    refine inv.set [] here rfl (List.append_nil _).symm (.refl _)
      (fun p mem => .inl mem) known ?_ (Nat.le_refl _) nofun nofun (by simp [Lane.hasThrown])
    rintro entry' program rest' ⟨⟩
    obtain ⟨checkpoint, phase, -, follows⟩ := inv.processing _ _ _ (List.mem_of_getElem? here)
    exact ⟨checkpoint, _, follows _⟩

end Step

theorem places_startLanes (windows : List Window) (db : Database)
    (checkpointIndex : List (String × CheckpointState)) (count : Nat) :
    (startLanes db checkpointIndex count).places (grains windows) = (grains windows).flatten.map (·.planIndex) := by
  have idle : (List.replicate count (Lane.waiting [])).flatMap
      (fun lane => lane.entries.map (·.planIndex)) = [] := by
    rw [List.flatMap_eq_nil_iff]
    intro lane mem
    rw [(List.mem_replicate.mp mem).2]
    rfl
  unfold LanesState.places startLanes
  simp only [idle, List.map_nil, List.nil_append, List.drop_zero]

theorem LanesInvariant.start (windows : List Window) (db : Database)
    (checkpointIndex : List (String × CheckpointState)) (count : Nat) :
    LanesInvariant ctx windows (startLanes db checkpointIndex count) := by
  have waiting : ∀ lane ∈ (startLanes db checkpointIndex count).lanes, lane = .waiting [] :=
    fun lane mem => (List.mem_replicate.mp mem).2
  constructor
  · rw [places_startLanes]
    have queued := (perm_grains windows).map (·.planIndex)
    rwa [planIndex_planEntries] at queued
  · intro p mem
    exact absurd mem List.not_mem_nil
  · intro lane mem entry held
    rw [waiting lane mem] at held
    exact nomatch held
  · intro entry program rest mem
    exact nomatch waiting _ mem
  · intro lane mem done
    rw [waiting lane mem] at done
    exact nomatch done
  · refine iff_of_false ?_ nofun
    rintro ⟨lane, mem, thrown⟩
    rw [waiting lane mem] at thrown
    exact nomatch thrown

variable (env : RunEnv) (args : RunArgs) (prepared : PreparedRun) (db : Database)

theorem lanesInvariant_runLanes : LanesInvariant prepared.ctx args.plan.windows (runLanes B env args prepared db) :=
  run_invariant (fun _ move inv => inv.step move) (.start _ _ _ _) env.moves

theorem laneCount_pos (concurrency : Nat) (queues : List (List Entry)) : 0 < laneCount concurrency queues := by
  unfold laneCount
  omega

@[simp] theorem length_lanes_laneStep (queues : List (List Entry)) (s : LanesState) (move : LaneMove) :
    (laneStep B ctx queues s move).lanes.length = s.lanes.length := by
  have change := laneStep_change B ctx queues s move
  generalize laneStep B ctx queues s move = s' at change ⊢
  cases change <;> simp only [List.length_set]

/-! ## Before the lanes -/

/-- The store after the part of a run before its lanes: only `openRun` writes. -/
def OpensTo (args : RunArgs) (db db' : Database) : Prop :=
  db' = db ∨ ∃ startedAt, db' = (openRunStatement (args.request startedAt) db).2

/-- What a run knows where its lanes start, from the store as they find it. -/
inductive IsPrepared (args : RunArgs) (db db' : Database) : PreparedRun → Prop where
  | dryRun : args.mode = .dryRun → db' = db → IsPrepared args db db' {
      authorization := none
      ctx := { planHash := args.plan.planHash, adapterKeys := args.adapterKeys, execute := none }
      checkpointIndex := [] }
  | execute (authorization : ExecuteAuthorization) (startedAt : Int) (backfillRunId : Nat) :
      args.mode = .execute →
      openRunStatement (args.request startedAt) db = (.ok backfillRunId, db') →
      IsPrepared args db db' {
        authorization
        ctx := {
          planHash := args.plan.planHash
          adapterKeys := args.adapterKeys
          execute := some {
            backfillRunId
            completedWindowKeys := db'.completedWindowKeys args.plan.planHash
            priorAttemptIndex := usableAttemptCounts (db'.windowAttemptCounts args.plan.planHash) } }
        checkpointIndex := (db'.checkpointStates args.plan.storeCodes args.plan.domains).map
          fun state => (grainKeyOf state.storeCode state.domain state.adapterKey, state) }

theorem openRun_ends : Ends (openRun env args) db (Post
      (fun id db' => ∃ startedAt, openRunStatement (args.request startedAt) db = (.ok id, db'))
      fun _ db' => OpensTo args db db') := by
  unfold openRun
  rw [ends_bind, ends_ofExcept]
  cases requireInstant env.startedAt _ _ with
  | error e => exact .inl rfl
  | ok startedAt =>
    rw [post_ok, ends_bind]
    apply ends_query
    · intro _
      rw [post_ok, ends_ofExcept]
      refine post_intro (fun id opened => ⟨startedAt, ?_⟩) fun e _ => .inr ⟨startedAt, rfl⟩
      rw [← opened]
    · intro e _
      exact .inr ⟨startedAt, rfl⟩
    · intro e _
      exact .inl rfl

theorem ends_read {β : Type} {trip : RoundTrip JsError} {read : Database → β} {db : Database}
    {Q : Except JsError β → Database → Prop} (done : Q (.ok (read db)) db)
    (error : ∀ e, Q (.error e) db) : Ends (query trip fun db => (read db, db)) db Q :=
  ends_query (fun _ => done) (fun e _ => error e) fun e _ => error e

/-- **The part of a run before its lanes.** -/
theorem prepareRun_ends : Ends (prepareRun B env args) db (Post (fun prepared db' => IsPrepared args db db' prepared)
      fun _ db' => OpensTo args db db') := by
  unfold prepareRun
  simp only
  cases mode : args.mode with
  | dryRun => exact .dryRun mode rfl
  | execute =>
    simp only
    rw [ends_bind, ends_ofExcept]
    cases assertExecuteAuthorization B args.plan args.approvedPlanHash args.allowedStoreCodes
        args.allowedDomains with
    | error e => exact .inl rfl
    | ok authorization =>
      rw [post_ok, ends_bind]
      refine (openRun_ends env args db).mono fun r db' opened => ?_
      cases r with
      | error e => exact opened
      | ok id =>
        obtain ⟨startedAt, opened⟩ := opened
        have written : OpensTo args db db' := .inr ⟨startedAt, by rw [opened]⟩
        rw [post_ok, ends_bind]
        refine ends_read ?_ fun e => written
        rw [post_ok, ends_bind]
        refine ends_read ?_ fun e => written
        rw [post_ok, ends_bind]
        refine ends_read ?_ fun e => written
        exact .execute authorization startedAt id mode opened

/-! ## The report -/

/-- Results that are one for each place are, in plan order, the planned windows. -/
theorem window_windowResults {windows : List Window} {indexedResults : List (Nat × WindowResult)}
    (places : (indexedResults.map (·.1)).Perm (List.range windows.length))
    (results : ∀ p ∈ indexedResults, windows[p.1]? = some p.2.window) :
    (windowResults indexedResults).map (·.window) = windows := by
  unfold windowResults
  have perm := List.perm_insertionSort (fun left right : Nat × WindowResult => left.1 ≤ right.1)
    indexedResults
  generalize sorted : indexedResults.insertionSort
    (fun left right : Nat × WindowResult => left.1 ≤ right.1) = ordered at perm
  have order : ordered.map (·.1) = List.range windows.length := by
    refine ((perm.map _).trans places).eq_of_pairwise' (r := (· ≤ ·)) ?_ List.pairwise_le_range
    rw [← sorted]
    exact (List.pairwise_insertionSort _ _).map _ fun _ _ le => le
  have looked : ordered.map (fun p => windows[p.1]?) = ordered.map fun p => some p.2.window :=
    List.map_congr_left fun p mem => results p (perm.mem_iff.mp mem)
  have all : (List.range windows.length).map (windows[·]?) = windows.map some := by
    apply List.ext_getElem
    · simp
    · intro i h h'
      simp
  have same : ((ordered.map (·.2)).map (·.window)).map some = windows.map some := by
    rw [← all, ← order, List.map_map, List.map_map, List.map_map]
    exact looked.symm
  exact List.map_injective_iff.mpr (Option.some_injective _) same

def RunCounts.total (counts : RunCounts) : Nat :=
  counts.planned + counts.blocked + counts.skipped + counts.succeeded + counts.partial' +
    counts.failed

/-- The number of windows that neither succeeded nor were skipped or only planned. -/
def RunCounts.unsuccessful (counts : RunCounts) : Nat :=
  counts.blocked + counts.partial' + counts.failed

def WindowResult.unsuccessful (item : WindowResult) : Bool :=
  match item.executionStatus with
  | .planned | .skipped | .succeeded => false
  | _ => true

theorem foldl_add (results : List WindowResult) (counts : RunCounts) :
    (results.foldl RunCounts.add counts).total = counts.total + results.length ∧
      (results.foldl RunCounts.add counts).unsuccessful = counts.unsuccessful + results.countP (·.unsuccessful) := by
  induction results generalizing counts with
  | nil => exact ⟨rfl, rfl⟩
  | cons item results ih =>
    obtain ⟨total, unsuccessful⟩ := ih (counts.add item)
    rw [List.foldl_cons, total, unsuccessful, List.length_cons, List.countP_cons]
    unfold RunCounts.add RunCounts.total RunCounts.unsuccessful WindowResult.unsuccessful
    cases item.executionStatus <;> simp only [Bool.false_eq_true, if_false, if_true] <;> omega

theorem runStatusOf_execute (counts : RunCounts) :
    runStatusOf .execute counts = .succeeded ↔ counts.unsuccessful = 0 := by
  unfold runStatusOf RunCounts.unsuccessful
  simp only
  split
  · simp only [reduceCtorEq, false_iff]
    omega
  split
  · simp only [reduceCtorEq, false_iff]
    omega
  · simp only [true_iff]
    omega

theorem finishRun_ends (s : LanesState) (db : Database) :
    Ends (finishRun B env args prepared s) db (Post (fun report _ => report.windows = windowResults s.indexedResults ∧
        report.counts = (windowResults s.indexedResults).foldl RunCounts.add {} ∧
        report.runStatus = runStatusOf args.mode report.counts) fun _ _ => True) := by
  unfold finishRun
  simp only
  split
  · refine ends_bind.mpr (ends_ofExcept.mpr ?_)
    cases requireInstant env.completedAt _ _ with
    | error e => trivial
    | ok completedAt =>
      rw [post_ok, ends_bind]
      apply ends_query
      · intro _
        rw [post_ok, ends_bind, ends_ofExcept]
        exact post_intro (fun _ _ => ⟨rfl, rfl, rfl⟩) fun _ _ => trivial
      · intro e _
        trivial
      · intro e _
        trivial
  · exact ⟨rfl, rfl, rfl⟩

/-- A run that returns has prepared itself, finished all its lanes, and reports their results. -/
theorem runBackfillPlan_returned {args : RunArgs} {env : RunEnv} {db : Database} {report : RunReport}
    (returned : (runBackfillPlan B args env db).runEnd = .returned report) :
    ∃ prepared db', (prepareRun B env args).outcome db = (.ok prepared, db') ∧
      (runLanes B env args prepared db').lanes.all Lane.isFinished = true ∧
      report.windows = windowResults (runLanes B env args prepared db').indexedResults ∧
      report.counts = report.windows.foldl RunCounts.add {} ∧
      report.runStatus = runStatusOf args.mode report.counts := by
  unfold runBackfillPlan at returned
  split at returned
  · exact nomatch returned
  · rename_i prepared db' opened
    simp only at returned
    split at returned
    · exact nomatch returned
    split at returned
    · rename_i finished
      have ends := finishRun_ends (B := B) env args prepared (runLanes B env args prepared db')
        (runLanes B env args prepared db').shared.db
      unfold Ends at ends
      generalize Action.outcome _ _ = ended at ends returned
      obtain ⟨error | result, db''⟩ := ended
      · exact nomatch returned
      · obtain rfl : result = report := RunEnd.returned.inj returned
        obtain ⟨results, counts, status⟩ := ends
        exact ⟨prepared, db', opened, finished, results, results ▸ counts, status⟩
    · exact nomatch returned

/-! ## The accounting of a run -/

/-- What a report says about a plan, where the lanes started from the store `db`. -/
structure AccountsFor (args : RunArgs) (db : Database) (report : RunReport) : Prop where
  /-- The results are the planned windows, each once and in plan order. -/
  windows : report.windows.map (·.window) = args.plan.windows
  total : report.counts.total = args.plan.windows.length
  succeeded : args.mode = .execute → (report.runStatus = .succeeded ↔ ∀ item ∈ report.windows,
    item.executionStatus = .succeeded ∨ item.executionStatus = .skipped)
  planned : args.mode = .dryRun → report.runStatus = .planned
  /-- A skipped window was completed by an earlier run of the plan. -/
  skipped : ∀ item ∈ report.windows, item.executionStatus = .skipped →
    item.window.windowKey ∈ db.completedWindowKeys args.plan.planHash

theorem isPrepared_of_outcome {args : RunArgs} {env : RunEnv} {db db' : Database}
    {prepared : PreparedRun} (opened : (prepareRun B env args).outcome db = (.ok prepared, db')) :
    IsPrepared args db db' prepared := by
  have ends := prepareRun_ends (B := B) env args db
  unfold Ends at ends
  rw [opened] at ends
  exact ends

theorem IsPrepared.opensTo {args : RunArgs} {db db' : Database} {prepared : PreparedRun}
    (ready : IsPrepared args db db' prepared) : OpensTo args db db' := by
  cases ready with
  | dryRun _ same => exact .inl same
  | execute _ startedAt _ _ opened => exact .inr ⟨startedAt, by rw [opened]⟩

theorem LanesInvariant.reported {windows : List Window} {s : LanesState}
    (inv : LanesInvariant ctx windows s) (some_ : 0 < s.lanes.length) (finished : s.lanes.all Lane.isFinished = true) :
    (s.indexedResults.map (·.1)).Perm (List.range windows.length) := by
  have done : ∀ lane ∈ s.lanes, lane.isFinished := List.all_eq_true.mp finished
  have idle : (s.lanes.flatMap fun lane => lane.entries.map (·.planIndex)) = [] := by
    rw [List.flatMap_eq_nil_iff]
    intro lane mem
    have ended := done lane mem
    cases lane with
    | finished => rfl
    | _ => exact nomatch ended
  have taken : (grains windows).drop s.nextGrain = [] := by
    obtain ⟨lane, mem⟩ := List.exists_mem_of_length_pos some_
    exact List.drop_eq_nil_of_le (inv.finished lane mem (done lane mem))
  have places := inv.places
  unfold LanesState.places at places
  rwa [idle, taken, List.append_nil, List.flatten_nil, List.map_nil, List.append_nil] at places

theorem length_lanes_runLanes : 0 < (runLanes B env args prepared db).lanes.length := by
  refine run_invariant (I := fun s : LanesState => 0 < s.lanes.length) (fun s move some_ => ?_) ?_ _
  · rwa [length_lanes_laneStep]
  · unfold startLanes
    rw [List.length_replicate]
    exact laneCount_pos _ _

/-- A result of an execute run that is not counted as unsuccessful succeeded or was skipped. -/
theorem IsResult.successful_iff {item : WindowResult} (h : IsResult ctx item.window item)
    (execute : ctx.execute.isSome) : item.unsuccessful = false ↔
      item.executionStatus = .succeeded ∨ item.executionStatus = .skipped := by
  have planned := h.planned
  unfold WindowResult.unsuccessful
  cases status : item.executionStatus with
  | planned =>
    rw [planned status] at execute
    exact nomatch execute
  | _ => simp

def purchaseOrderWindow (windowStart windowEnd windowKey : String) : Window where
  storeCode := "DL5477"
  domain := "purchase-orders"
  adapterKey := "openapi.purchase-orders.v1"
  capabilityStatus := .verified
  windowGrain := .businessDate
  windowStart
  windowEnd
  windowKey
  executable := true
  blockedReasonCode := none
  dailyHistoryReconstructable := true
  maxAttempts := 3
  maxPagesPerWindow := 200
  maxRowsPerWindow := 200000

def digestOf (digit : Char) : String := String.ofList (List.replicate 64 digit)

def purchaseOrderPlan (windows : List Window) : Plan where
  planHash := digestOf 'a'
  createdBy := "operator"
  storeCodes := ["DL5477"]
  domains := ["purchase-orders"]
  from' := "2026-07-01"
  to' := "2026-07-02"
  windowSpanDays := 1
  concurrency := 1
  maxAttempts := 3
  windows
  summary := {
    plannedWindowCount := windows.length
    executableWindowCount := windows.length
    blockedWindowCount := 0
    blockedDomains := []
    blockedWindowChunkDays := 31
    blockedWindowCountPerStoreDomain := 0
    executableDomains := ["purchase-orders"]
    byCapability := [
      (.verified, windows.length), (.unverified, 0), (.unsupported, 0), (.experimentOnly, 0)]
    blockedReasonCodes := [] }

def executeArgs (windows : List Window) : RunArgs where
  plan := purchaseOrderPlan windows
  mode := .execute
  adapterKeys := ["openapi.purchase-orders.v1"]
  approvedPlanHash := digestOf 'a'
  allowedStoreCodes := some ["DL5477"]
  allowedDomains := some ["purchase-orders"]

end FullManagedBi.Backfill
