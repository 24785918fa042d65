import FullManagedBi.Laws.BackfillGrains
import FullManagedBi.Laws.BackfillPlan

/-!
# A backfill run and its store

What a call of a window does to the store and to the memory of its run is one of four effects
(`answer_effect`), so a law about the lanes is proved effect by effect (`EffectRules`). Around its lanes
a run only opens and closes its own row (`runBackfillPlan_around`).
-/

namespace FullManagedBi.Backfill

open Lib

variable {B : CaseBuiltins} {ctx : RunContext}

/-! ## Effects -/

/-- What a call in the phase on the left does, and the phase it leads to. -/
inductive CallEffect (B : CaseBuiltins) (ctx : RunContext) (checkpoint : Option CheckpointState)
    (window : Window) (s : Shared) : Phase → Phase → Shared → Prop where
  | fetch (run : ExecuteContext) (n : Nat) :
      ctx.execute = some run → ctx.adapterKeys.contains window.adapterKey →
      run.priorAttemptCount window + (n + 1) ≤ maxAttemptOrdinal →
      CallEffect B ctx checkpoint window s (.attempting n) (.attempting (n + 1)) { s with
        adapterInvocationCount := s.adapterInvocationCount + 1
        fetched := s.fetched ++
          [fetchOf ctx checkpoint window (run.priorAttemptCount window + (n + 1))] }
  | commit (run : ExecuteContext) (n : Nat) (commit : WindowCommit)
      (reply : Except JsError Persistence) :
      ctx.execute = some run →
      n = 0 ∧ IsBlockCommit run window commit ∨ IsOutcomeCommit run checkpoint window n commit →
      (∀ persistence, reply = .ok persistence → persistence = (commitStatement B commit s.db).1) →
      CallEffect B ctx checkpoint window s (.attempting n) (.committed commit reply) { s with
        db := (commitStatement B commit s.db).2
        settled := s.settled ++ [window.windowKey] }
  | refuse (n : Nat) (commit : WindowCommit) (error : JsError) :
      CallEffect B ctx checkpoint window s (.attempting n) (.committed commit (.error error)) s
  | index (commit : WindowCommit) (persistence : Persistence) (state : CheckpointState) :
      commit.checkpointState = some state → persistence.checkpointAdvanced = true →
      CallEffect B ctx checkpoint window s (.committed commit (.ok persistence)) (.indexed commit)
        { s with checkpointIndex := s.checkpointIndex ++ [(window.grainKey, state)] }

/-- **Every call a window may make has one of the effects.** -/
theorem answer_effect {checkpoint : Option CheckpointState} {window : Window} {phase : Phase}
    {call : Call} (s : Shared) (env : CallEnv) (allowed : (windowProtocol ctx checkpoint window).allowed phase call) :
    CallEffect B ctx checkpoint window s phase
      ((windowProtocol ctx checkpoint window).after phase call (answer B s env call).1) (answer B s env call).2 := by
  cases phase with
  | attempting n =>
    cases call with
    | fetchWindow request =>
      obtain ⟨run, executes, registered, rfl, within⟩ := allowed
      exact .fetch run n executes registered within
    | commitWindowOutcome commit =>
      obtain ⟨run, executes, legal⟩ := allowed
      have same : commit.window = window := legal.elim (·.2.sameWindow) (·.sameWindow)
      subst same
      obtain ⟨reply, trip⟩ := env
      cases trip with
      | done => exact .commit run n commit _ executes legal fun _ replied => (Except.ok.inj replied).symm
      | lost e => exact .commit run n commit _ executes legal fun _ => nofun
      | failed e => exact .refuse n commit e
    | setCheckpoint key state => exact allowed.elim
  | committed commit reply =>
    cases reply with
    | error e => cases call <;> exact False.elim allowed
    | ok persistence =>
      cases call with
      | fetchWindow request => exact False.elim allowed
      | commitWindowOutcome commit' => exact False.elim allowed
      | setCheckpoint key state =>
        obtain ⟨rfl, state_, advanced⟩ := allowed
        exact .index commit persistence state state_ advanced
  | indexed commit => cases call <;> exact False.elim allowed

structure EffectRules (B : CaseBuiltins) (ctx : RunContext) (J : Shared → Prop)
    (Waiting : List Entry → Shared → Prop)
    (Busy : Entry → List Entry → Option CheckpointState → Phase → Shared → Prop) : Prop where
  idle : ∀ s, Waiting [] s
  begin : ∀ entry rest s, J s → Waiting (entry :: rest) s →
    Busy entry rest (mapGet s.checkpointIndex entry.window.grainKey) (.attempting 0) s
  report : ∀ entry rest checkpoint phase s, J s → Busy entry rest checkpoint phase s →
    phase.Settled → Waiting rest s
  shared : ∀ entry rest checkpoint phase s phase' s', J s → Busy entry rest checkpoint phase s →
    CallEffect B ctx checkpoint entry.window s phase phase' s' → J s'
  own : ∀ entry rest checkpoint phase s phase' s', J s → Busy entry rest checkpoint phase s →
    CallEffect B ctx checkpoint entry.window s phase phase' s' → Busy entry rest checkpoint phase' s'
  otherWaiting : ∀ entry rest checkpoint phase s phase' s' others, J s →
    Busy entry rest checkpoint phase s → CallEffect B ctx checkpoint entry.window s phase phase' s' →
    GrainsApart [entry] others → Waiting others s → Waiting others s'
  otherBusy : ∀ entry rest checkpoint phase s phase' s' other rest' checkpoint' otherPhase, J s →
    Busy entry rest checkpoint phase s → CallEffect B ctx checkpoint entry.window s phase phase' s' →
    GrainsApart [entry] (other :: rest') → Busy other rest' checkpoint' otherPhase s →
    Busy other rest' checkpoint' otherPhase s'

variable {Waiting : List Entry → Shared → Prop}
    {Busy : Entry → List Entry → Option CheckpointState → Phase → Shared → Prop}

theorem EffectRules.laneRules {J : Shared → Prop} (rules : EffectRules B ctx J Waiting Busy) : LaneRules B ctx J Waiting Busy where
  idle := rules.idle
  begin := rules.begin
  report := rules.report
  shared entry rest checkpoint phase s env _ good busy allowed :=
    rules.shared entry rest checkpoint phase s _ _ good busy (answer_effect s env allowed)
  own entry rest checkpoint phase s env _ good busy allowed :=
    rules.own entry rest checkpoint phase s _ _ good busy (answer_effect s env allowed)
  otherWaiting entry rest checkpoint phase s env _ others good busy allowed :=
    rules.otherWaiting entry rest checkpoint phase s _ _ others good busy (answer_effect s env allowed)
  otherBusy entry rest checkpoint phase s env _ other rest' checkpoint' otherPhase good busy allowed :=
    rules.otherBusy entry rest checkpoint phase s _ _ other rest' checkpoint' otherPhase good busy
      (answer_effect s env allowed)

theorem laneStep_effect {windows : List Window} {J : Shared → Prop} {s : LanesState}
    (hold : LanesHold ctx (grains windows) J Waiting Busy s) (move : LaneMove) :
    (laneStep B ctx (grains windows) s move).shared = s.shared ∨
      ∃ entry rest checkpoint phase phase', Busy entry rest checkpoint phase s.shared ∧
        CallEffect B ctx checkpoint entry.window s.shared phase phase'
          (laneStep B ctx (grains windows) s move).shared := by
  have change := laneStep_change B ctx (grains windows) s move
  generalize laneStep B ctx (grains windows) s move = s' at change ⊢
  cases change with
  | stay => exact .inl rfl
  | take => exact .inl rfl
  | finish => exact .inl rfl
  | begin => exact .inl rfl
  | report => exact .inl rfl
  | throw => exact .inl rfl
  | call entry call next rest here =>
    obtain ⟨checkpoint, phase, ⟨allowed, -⟩, busy⟩ := hold.lanes _ _ here
    exact .inr ⟨entry, rest, checkpoint, phase, _, busy, answer_effect s.shared move.env allowed⟩

/-! ## Around the lanes -/

theorem runLanes_dryRun {env : RunEnv} {args : RunArgs} {prepared : PreparedRun} {db : Database}
    (dryRun : prepared.ctx.execute = none) : (runLanes B env args prepared db).shared =
      { db, checkpointIndex := prepared.checkpointIndex } := by
  have none_ {checkpoint : Option CheckpointState} {window : Window} {s s' : Shared} {phase' : Phase}
      (effect : CallEffect B prepared.ctx checkpoint window s (.attempting 0) phase' s') : s' = s := by
    cases effect with
    | fetch run n executes => exact absurd (dryRun.symm.trans executes) nofun
    | commit run n commit reply executes => exact absurd (dryRun.symm.trans executes) nofun
    | refuse => rfl
  have rules : EffectRules B prepared.ctx
      (fun s => s = { db, checkpointIndex := prepared.checkpointIndex }) (fun _ _ => True)
      (fun _ _ _ phase _ => phase = .attempting 0 ∨ ∃ commit e, phase = .committed commit (.error e)) := by
    constructor
    · exact fun _ => trivial
    · exact fun _ _ _ _ _ => .inl rfl
    · exact fun _ _ _ _ _ _ _ _ => trivial
    · rintro entry rest checkpoint phase s phase' s' good (rfl | ⟨commit, e, rfl⟩) effect
      · exact (none_ effect).trans good
      · exact nomatch effect
    · rintro entry rest checkpoint phase s phase' s' good (rfl | ⟨commit, e, rfl⟩) effect
      · cases effect with
        | fetch run n executes => exact absurd (dryRun.symm.trans executes) nofun
        | commit run n commit reply executes => exact absurd (dryRun.symm.trans executes) nofun
        | refuse n commit e => exact .inr ⟨commit, e, rfl⟩
      · exact nomatch effect
    · exact fun _ _ _ _ _ _ _ _ _ _ _ _ _ => trivial
    · exact fun _ _ _ _ _ _ _ _ _ _ _ _ _ _ _ busy => busy
  exact (runLanes_hold args env rules.laneRules rfl fun _ _ => trivial).shared

/-- The store after the part of a run after its lanes: only `closeRun` writes. -/
def ClosesTo (B : CaseBuiltins) (db db' : Database) : Prop :=
  db' = db ∨ ∃ id status completedAt code,
    db' = (closeRunStatement B id status completedAt code db).2

theorem finishRun_closes (env : RunEnv) (args : RunArgs) (prepared : PreparedRun) (s : LanesState) (db : Database) :
    Ends (finishRun B env args prepared s) db fun _ db' => ClosesTo B db db' := by
  unfold finishRun
  simp only
  split
  · refine ends_bind.mpr (ends_ofExcept.mpr ?_)
    cases requireInstant env.completedAt _ _ with
    | error e => exact .inl rfl
    | ok completedAt =>
      rw [post_ok, ends_bind]
      apply ends_query
      · intro _
        rw [post_ok, ends_bind, ends_ofExcept]
        exact post_intro (fun _ _ => .inr ⟨_, _, _, _, rfl⟩) fun _ _ => .inr ⟨_, _, _, _, rfl⟩
      · intro e _
        exact .inr ⟨_, _, _, _, rfl⟩
      · intro e _
        exact .inl rfl
  · exact .inl rfl

/-- What a run leaves: it failed before its lanes, or its lanes moved. -/
inductive RunAround (B : CaseBuiltins) (args : RunArgs) (env : RunEnv) (db : Database) :
    RunTrace → Prop where
  | unprepared (runEnd : RunEnd) (db' : Database) : OpensTo args db db' →
      RunAround B args env db { runEnd, db := db' }
  | lanes (runEnd : RunEnd) (prepared : PreparedRun) (opened closed : Database) :
      (prepareRun B env args).outcome db = (.ok prepared, opened) →
      ClosesTo B (runLanes B env args prepared opened).shared.db closed →
      RunAround B args env db {
        runEnd
        db := closed
        fetched := (runLanes B env args prepared opened).shared.fetched
        settled := (runLanes B env args prepared opened).shared.settled }

/-- **Around its lanes a run only opens and closes its own row.** -/
theorem runBackfillPlan_around (args : RunArgs) (env : RunEnv) (db : Database) :
    RunAround B args env db (runBackfillPlan B args env db) := by
  unfold runBackfillPlan
  have ends := prepareRun_ends (B := B) env args db
  unfold Ends at ends
  split
  · rename_i error db' outcome
    rw [outcome] at ends
    exact .unprepared _ db' ends
  · rename_i prepared db' outcome
    simp only
    split
    · exact .lanes _ prepared db' _ outcome (.inl rfl)
    split
    · exact .lanes _ prepared db' _ outcome (finishRun_closes env args prepared _ _)
    · exact .lanes _ prepared db' _ outcome (.inl rfl)

end FullManagedBi.Backfill
