import FullManagedBi.Coordinator.Publication
import FullManagedBi.Laws.CoordinatorStatus

/-!
# Marks of publication

Once a run has been ready, every stage is complete in its file and in the memory of every activation (`Settled`), and so
nothing is launched any more, and a marker marks only what was complete at the time it was told. But neither program
looks at the file again before it renames: an activation that has read the file before a mark takes the mark away, and a
marker that has read the file before a snapshot takes the snapshot away. Where no rename is over one that its program has
not seen (`Unraced`), a mark stays (`publication_law`).
-/

namespace FullManagedBi.Coordinator

open Lib

variable {js : StageBuiltins} {plan : CoordinatorPlan} {act : Activation} {stage : Stage} {env : StepEnv}

/-! ## The status -/

def RunStatus.IsOver (status : RunStatus) : Prop := status = .readyToPublish ∨ status = .published

theorem isOver_of_move {effect : StageEffect} {launch : Option Launch} {result : Option StageResult}
    (move : StageMove js plan stage env act effect launch result) (isOver : (effect.status act).IsOver) :
    act.state.status.IsOver := by
  unfold StageEffect.status at isOver
  cases move with
  | attempts loops =>
    cases loops with
    | starts => exact isOver
    | wakes => simp [RunStatus.IsOver] at isOver
  | runsOut => simp [RunStatus.IsOver] at isOver
  | fails => simp [RunStatus.IsOver] at isOver
  | retries =>
    simp only [Option.bind_some, Option.getD_some] at isOver
    split_ifs at isOver <;> simp [RunStatus.IsOver] at isOver
  | _ => exact isOver

/-- The status that an activation ends with is over where all stages are complete, or where it was before. -/
theorem isOver_finalStatus {state : RunState} (incomplete : allComplete plan state = false)
    (isOver : (finalStatus plan state).IsOver) : state.status.IsOver := by
  unfold finalStatus at isOver
  rw [incomplete, if_neg Bool.false_ne_true] at isOver
  split at isOver
  · simp [RunStatus.IsOver] at isOver
  · exact isOver

/-! ## Activations with nothing to do -/

/-- Every stage is complete, and none is under way. -/
def Sealed (plan : CoordinatorPlan) (act : Activation) : Prop := ∀ stage ∈ plan.stages,
  ((act.tasks stage.name).position = .idle ∨ (act.tasks stage.name).position = .returned) ∧
    (act.state.stages stage.name).any (·.status = .complete) = true

theorem allComplete_iff {state : RunState} : allComplete plan state = true ↔
    ∀ stage ∈ plan.stages, (state.stages stage.name).any (·.status = .complete) = true := List.all_eq_true

theorem Sealed.allComplete (done : Sealed plan act) : allComplete plan act.state = true :=
  allComplete_iff.mpr fun stage mem => (done stage mem).2

variable (js env) in
theorem Sealed.advance (done : Sealed plan act) (s : CoordinatorState) (mem : stage ∈ plan.stages) :
    advanceStage js plan stage env s act = s ∨ advanceStage js plan stage env s act =
      { s with active := some (act.setTask stage.name { position := .returned }) } := by
  obtain ⟨position, complete⟩ := done stage mem
  unfold advanceStage
  dsimp only
  rcases position with idle | returned
  · rw [idle]
    dsimp only
    split
    · right
      unfold startStage
      dsimp only
      rw [if_pos complete]
    · exact .inl rfl
  · rw [returned]
    exact .inl rfl

theorem Sealed.setTask (done : Sealed plan act) : Sealed plan (act.setTask stage.name { position := .returned }) := by
  intro other mem
  obtain ⟨position, complete⟩ := done other mem
  refine ⟨?_, complete⟩
  by_cases same : other.name = stage.name
  · right
    simp [Activation.setTask, same]
  · simpa [Activation.setTask, same] using position

theorem returned_of_ended (ended : stagesEnded plan act = true) (complete : allComplete plan act.state = true) :
    Sealed plan act := by
  have returned : ∀ stages : List Stage, sequenceEnded act stages = true →
      (∀ stage ∈ stages, (act.state.stages stage.name).any (·.status = .complete) = true) →
        ∀ stage ∈ stages, (act.tasks stage.name).position = .returned := by
    intro stages
    induction stages with
    | nil => exact fun _ _ => nofun
    | cons first stages ih =>
      intro ended complete
      unfold sequenceEnded at ended
      obtain ⟨here, rest⟩ := List.forall_mem_cons.mp complete
      rw [here, Bool.not_true, Bool.false_or, Bool.and_eq_true, decide_eq_true_eq] at ended
      exact List.forall_mem_cons.mpr ⟨ended.1, ih ended.2 rest⟩
  have complete := allComplete_iff.mp complete
  intro stage mem
  refine ⟨.inr ?_, complete stage mem⟩
  unfold stagesEnded at ended
  split at ended
  · exact of_decide_eq_true (List.all_eq_true.mp ended stage mem)
  · exact returned plan.stages ended complete stage mem

/-! ## Activations -/

/-- An activation is at work, or it has come to the snapshot that says that the run is ready. -/
inductive Phase (plan : CoordinatorPlan) (act : Activation) : Prop
  | working (status : ¬act.state.status.IsOver) (snapshots : ∀ snapshot ∈ act.snapshots, ¬snapshot.status.IsOver)
  | ready (concluded : act.concluded = true) (done : Sealed plan act) (front : List RunState)
    (before : ∀ snapshot ∈ front, ¬snapshot.status.IsOver)
    (rest : act.snapshots = front ++ [act.state] ∨ act.snapshots = [])

theorem phase_open (file : Option RunState) : Phase plan (openActivation file) := by
  have running : ¬RunStatus.running.IsOver := by simp [RunStatus.IsOver]
  refine .working running ?_
  intro snapshot mem
  rw [List.mem_singleton.mp mem]
  exact running

theorem phase_advance {s : CoordinatorState} (active : s.active = some act) (phase : Phase plan act)
    (mem : stage ∈ plan.stages) {next : Activation}
    (after : (advanceStage js plan stage env s act).active = some next) : Phase plan next := by
  cases phase with
  | working status snapshots =>
    rcases advanceStage_cases js plan stage env s act with ⟨same, -⟩ | ⟨effect, launch, result, move, same⟩
    · rw [same, active] at after
      obtain rfl := Option.some.inj after
      exact .working status snapshots
    · rw [same] at after
      obtain rfl := Option.some.inj after
      rw [effect.apply_eq]
      have still : ¬(effect.status act).IsOver := fun isOver => status (isOver_of_move move isOver)
      refine .working still ?_
      intro snapshot there
      rcases List.mem_append.mp there with old | new
      · exact snapshots snapshot old
      · split at new
        · rw [List.mem_singleton.mp new]
          exact still
        · exact nomatch new
  | ready concluded done front before rest =>
    rcases done.advance js env s mem with same | same
    · rw [same, active] at after
      obtain rfl := Option.some.inj after
      exact .ready concluded done front before rest
    · rw [same] at after
      obtain rfl := Option.some.inj after
      exact .ready concluded done.setTask front before rest

def closing (plan : CoordinatorPlan) (act : Activation) : Activation :=
  { (act.setStatus (finalStatus plan act.state)).persist with concluded := true }

theorem phase_closing (phase : Phase plan act) (ended : stagesEnded plan act = true) (open_ : act.concluded = false) :
    Phase plan (closing plan act) := by
  cases phase with
  | working status snapshots =>
    by_cases complete : allComplete plan act.state = true
    · have done := returned_of_ended ended complete
      exact .ready rfl (fun stage mem => done stage mem) act.snapshots snapshots (.inl rfl)
    · have still : ¬(finalStatus plan act.state).IsOver := fun isOver =>
        status (isOver_finalStatus (Bool.eq_false_iff.mpr complete) isOver)
      refine .working still ?_
      intro snapshot there
      rcases mem_concat.mp there with old | new
      · exact snapshots snapshot old
      · rw [new]
        exact still
  | ready concluded => exact absurd (open_.symm.trans concluded) Bool.false_ne_true

/-! ## Runs that have been ready -/

variable {s : Publication}

/-- What a marker has read and not renamed yet. -/
def MarkerPosition.value? : MarkerPosition → Option StateFile
  | .writing value | .renaming value => some value
  | .listed | .passed _ => none

/-- The file says that the run is ready or published, a marker has read so, or there is a mark. -/
def HasBeenReady (s : Publication) : Prop :=
  (∃ state, s.coordinator.file = some state ∧ state.status.IsOver) ∨
    (∃ marker value, s.marker = some marker ∧ marker.position.value? = some value) ∨ s.marks ≠ []

/-- Every stage is complete in the file, in memory and in what is still to be written. -/
structure Settled (plan : CoordinatorPlan) (s : CoordinatorState) : Prop where
  file : ∃ state, s.file = some state ∧ allComplete plan state = true
  active : ∀ act, s.active = some act → Sealed plan act ∧
    ∀ snapshot ∈ act.snapshots, allComplete plan snapshot = true

/-- **Nothing is launched any more**, and what is complete stays complete. -/
theorem Settled.step {s : CoordinatorState} (settled : Settled plan s) (move : Move) :
    Settled plan (coordinatorStep js plan s move) ∧
      (coordinatorStep js plan s move).launches = s.launches := by
  obtain ⟨state, found, complete⟩ := settled.file
  cases move with
  | activate =>
    cases active : s.active with
    | some act =>
      unfold coordinatorStep
      rw [active]
      exact ⟨settled, rfl⟩
    | none =>
      unfold coordinatorStep activate
      rw [active]
      dsimp only
      split
      · exact ⟨⟨settled.file, nofun⟩, rfl⟩
      · refine ⟨⟨settled.file, ?_⟩, rfl⟩
        rintro act same
        obtain rfl := Option.some.inj same
        rw [found]
        refine ⟨fun stage mem => ⟨.inl rfl, allComplete_iff.mp complete stage mem⟩, ?_⟩
        intro snapshot mem
        rw [List.mem_singleton.mp mem]
        exact allComplete_iff.mpr (allComplete_iff.mp complete)
  | crash => exact ⟨⟨settled.file, nofun⟩, rfl⟩
  | within move =>
    cases active : s.active with
    | none =>
      unfold coordinatorStep
      rw [active]
      exact ⟨settled, rfl⟩
    | some act =>
      obtain ⟨done, waiting⟩ := settled.active act active
      unfold coordinatorStep
      rw [active]
      dsimp only
      unfold activationStep
      cases move with
      | write =>
        cases snapshots : act.snapshots with
        | nil => exact ⟨settled, rfl⟩
        | cons snapshot rest =>
          rw [snapshots] at waiting
          obtain ⟨here, later⟩ := List.forall_mem_cons.mp waiting
          refine ⟨⟨⟨snapshot, rfl, here⟩, ?_⟩, rfl⟩
          rintro next same
          obtain rfl := Option.some.inj same
          exact ⟨done, later⟩
      | advance stage env =>
        dsimp only
        split
        · next mem =>
          rcases done.advance js env s mem with same | same
          · rw [same]
            exact ⟨settled, rfl⟩
          · rw [same]
            refine ⟨⟨settled.file, ?_⟩, rfl⟩
            rintro next same
            obtain rfl := Option.some.inj same
            exact ⟨done.setTask, waiting⟩
        · exact ⟨settled, rfl⟩
      | conclude =>
        dsimp only
        split
        · refine ⟨⟨settled.file, ?_⟩, rfl⟩
          rintro next same
          obtain rfl := Option.some.inj same
          refine ⟨done, ?_⟩
          intro snapshot mem
          rcases mem_concat.mp mem with old | new
          · exact waiting snapshot old
          · rw [new]
            exact allComplete_iff.mpr (allComplete_iff.mp done.allComplete)
        · exact ⟨settled, rfl⟩
      | finish =>
        dsimp only
        split
        · exact ⟨⟨settled.file, nofun⟩, rfl⟩
        · exact ⟨settled, rfl⟩

variable (js plan s) in
theorem coordinatorMove_frame (move : Move) : (coordinatorMove js plan s move).marker = s.marker ∧
    (coordinatorMove js plan s move).marks = s.marks ∧ (coordinatorMove js plan s move).reports = s.reports ∧
    ((coordinatorMove js plan s move).coordinator = coordinatorStep js plan s.coordinator move ∨
      coordinatorMove js plan s move = s) := by
  unfold coordinatorMove
  dsimp only
  split
  · exact ⟨rfl, rfl, rfl, .inl rfl⟩
  · split
    · exact ⟨rfl, rfl, rfl, .inl rfl⟩
    · exact ⟨rfl, rfl, rfl, .inr rfl⟩
  · split
    · exact ⟨rfl, rfl, rfl, .inl rfl⟩
    · exact ⟨rfl, rfl, rfl, .inl rfl⟩
  · exact ⟨rfl, rfl, rfl, .inl rfl⟩
  · exact ⟨rfl, rfl, rfl, .inl rfl⟩

/-- The invariant of the two programs. `Was` is a property of the instants at which every stage is complete. -/
structure PublicationSound (plan : CoordinatorPlan) (Was : Nat → Prop) (s : Publication) : Prop where
  phase : ∀ act, s.coordinator.active = some act → Phase plan act
  settled : HasBeenReady s → Settled plan s.coordinator
  read : ∀ marker value, s.marker = some marker → marker.position.value? = some value →
    allComplete plan value.state = true ∧
      ∃ readyAt ≤ marker.readyThrough, value.stamps.readyAt = some readyAt ∧ Was readyAt
  memory : ∀ readyAt, s.memory.readyAt = some readyAt → Was readyAt
  stamps : ∀ readyAt, s.fileStamps.readyAt = some readyAt → Was readyAt
  marks : ∀ mark ∈ s.marks, ∃ readyAt ≤ mark.marker.readyThrough, Was readyAt

variable {Was : Nat → Prop}

theorem phase_step {s : CoordinatorState} (phase : ∀ act, s.active = some act → Phase plan act) (move : Move)
    {next : Activation} (after : (coordinatorStep js plan s move).active = some next) : Phase plan next := by
  unfold coordinatorStep at after
  cases move with
  | activate =>
    cases active : s.active with
    | some act =>
      rw [active] at after
      exact phase next after
    | none =>
      rw [active] at after
      dsimp only at after
      unfold activate at after
      split at after
      · exact nomatch active.symm.trans after
      · obtain rfl := Option.some.inj after
        exact phase_open s.file
  | crash => exact nomatch after
  | within move =>
    cases active : s.active with
    | none =>
      rw [active] at after
      exact nomatch active.symm.trans after
    | some act =>
      rw [active] at after
      have here := phase act active
      dsimp only at after
      unfold activationStep at after
      cases move with
      | write =>
        dsimp only at after
        cases snapshots : act.snapshots with
        | nil =>
          rw [snapshots] at after
          exact phase next after
        | cons snapshot rest =>
          rw [snapshots] at after
          obtain rfl := Option.some.inj after
          cases here with
          | working status before =>
            rw [snapshots] at before
            exact .working status (List.forall_mem_cons.mp before).2
          | ready concluded done front before last =>
            rw [snapshots] at last
            rcases last with last | none
            · cases front with
              | nil => exact .ready concluded done [] nofun (.inr (List.cons.inj last).2)
              | cons first front =>
                exact .ready concluded done front (List.forall_mem_cons.mp before).2 (.inl (List.cons.inj last).2)
            · exact nomatch none
      | advance stage env =>
        dsimp only at after
        split at after
        · next mem => exact phase_advance active here mem after
        · exact phase next after
      | conclude =>
        dsimp only at after
        split at after
        · next condition =>
          obtain rfl := Option.some.inj after
          exact phase_closing here condition.1 (by simpa using condition.2.2)
        · exact phase next after
      | finish =>
        dsimp only at after
        split at after
        · exact nomatch after
        · exact phase next after

variable (js plan s) in
/-- What a step of the coordinator does to the file: nothing, or it is the first snapshot of the activation. -/
theorem file_coordinatorMove (move : Move) : ((coordinatorMove js plan s move).coordinator.file = s.coordinator.file ∧
      (coordinatorMove js plan s move).fileStamps = s.fileStamps) ∨
    move = .within .write ∧ s.prepared = true ∧ ∃ act snapshot rest, s.coordinator.active = some act ∧
      act.snapshots = snapshot :: rest ∧ coordinatorMove js plan s move = { s with
          coordinator := { s.coordinator with
            file := some snapshot
            active := some { act with snapshots := rest, written := act.written + 1 } }
          fileStamps := snapshotStamps s.memory snapshot
          prepared := false
          renames := s.renames + 1 } := by
  have same : ∀ move, move ≠ .within .write →
      (coordinatorStep js plan s.coordinator move).file = s.coordinator.file := by
    intro move other
    unfold coordinatorStep
    cases move with
    | activate =>
      dsimp only
      split
      · unfold activate
        split <;> rfl
      · rfl
    | crash => rfl
    | within move =>
      dsimp only
      split
      · rfl
      · next act active =>
        unfold activationStep
        cases move with
        | write => exact absurd rfl other
        | advance stage env =>
          dsimp only
          split
          · rcases advanceStage_cases js plan stage env s.coordinator act with ⟨same, -⟩ | ⟨_, _, _, -, same⟩
            · rw [same]
            · rw [same]
              rfl
          · rfl
        | conclude =>
          dsimp only
          split <;> rfl
        | finish =>
          dsimp only
          split <;> rfl
  by_cases write : move = .within .write
  · subst write
    cases active : s.coordinator.active with
    | none =>
      left
      unfold coordinatorMove coordinatorStep
      rw [active]
      exact ⟨rfl, rfl⟩
    | some act =>
      cases snapshots : act.snapshots with
      | nil =>
        left
        unfold coordinatorMove
        rw [active]
        dsimp only
        rw [snapshots]
        exact ⟨rfl, rfl⟩
      | cons snapshot rest =>
        cases prepared : s.prepared with
        | false =>
          left
          unfold coordinatorMove
          rw [active]
          dsimp only
          rw [snapshots, prepared]
          exact ⟨rfl, rfl⟩
        | true =>
          refine .inr ⟨rfl, rfl, act, snapshot, rest, rfl, snapshots, ?_⟩
          unfold coordinatorMove coordinatorStep activationStep
          rw [active]
          dsimp only
          rw [snapshots, prepared]
  · left
    have frame := same move write
    unfold coordinatorMove
    dsimp only
    split
    · exact ⟨frame, rfl⟩
    · exact absurd rfl write
    · split
      · exact ⟨frame, rfl⟩
      · exact ⟨frame, rfl⟩
    · exact ⟨frame, rfl⟩
    · exact ⟨frame, rfl⟩

variable (js) in
/-- The time that an activation says that the run is ready is one at which every stage is complete. -/
theorem memory_coordinatorMove (memory : ∀ readyAt, s.memory.readyAt = some readyAt → Was readyAt)
    (now : ∀ act, s.coordinator.active = some act → allComplete plan act.state = true → Was s.now) (move : Move) :
    ∀ readyAt, (coordinatorMove js plan s move).memory.readyAt = some readyAt → Was readyAt := by
  unfold coordinatorMove
  dsimp only
  split
  · exact nofun
  · split
    · exact memory
    · exact memory
  · next act active =>
    split
    · next condition =>
      rintro readyAt same
      obtain rfl := Option.some.inj same
      exact now act active condition.2
    · exact memory
  · exact memory
  · exact memory

theorem PublicationSound.coordinator (sound : PublicationSound plan Was s)
    (now : ∀ act, s.coordinator.active = some act → allComplete plan act.state = true → Was s.now) (move : Move) :
    PublicationSound plan Was (coordinatorMove js plan s move) := by
  obtain ⟨marker, marks, -, coordinator⟩ := coordinatorMove_frame js plan s move
  have memory := memory_coordinatorMove js sound.memory now move
  have settles (before : HasBeenReady s) : Settled plan (coordinatorMove js plan s move).coordinator := by
    rcases coordinator with same | same
    · rw [same]
      exact ((sound.settled before).step move).1
    · rw [same]
      exact sound.settled before
  have phase : ∀ act, (coordinatorMove js plan s move).coordinator.active = some act → Phase plan act := by
    intro act active
    rcases coordinator with same | same
    · rw [same] at active
      exact phase_step sound.phase move active
    · rw [same] at active
      exact sound.phase act active
  constructor
  · exact phase
  · rintro (⟨state, found, isOver⟩ | rest)
    · rcases file_coordinatorMove js plan s move with
        ⟨file, -⟩ | ⟨-, -, act, snapshot, rest, active, snapshots, same⟩
      · exact settles (.inl ⟨state, file.symm.trans found, isOver⟩)
      · rw [same] at found ⊢
        obtain rfl := Option.some.inj found
        -- A snapshot that says so is the last one of its activation.
        cases sound.phase act active with
        | working status before =>
          rw [snapshots] at before
          exact absurd isOver (before snapshot List.mem_cons_self)
        | ready concluded done front before last =>
          rw [snapshots] at last
          rcases last with last | none
          · cases front with
            | cons first front =>
              obtain ⟨rfl, -⟩ := List.cons.inj last
              exact absurd isOver (before snapshot List.mem_cons_self)
            | nil =>
              obtain ⟨rfl, rfl⟩ := List.cons.inj last
              refine ⟨⟨_, rfl, done.allComplete⟩, ?_⟩
              rintro next same
              obtain rfl := Option.some.inj same
              exact ⟨done, nofun⟩
          · exact nomatch none
    · rw [marker, marks] at rest
      exact settles (.inr rest)
  · rw [marker]
    exact sound.read
  · exact memory
  · rcases file_coordinatorMove js plan s move with
      ⟨-, stamps⟩ | ⟨-, -, act, snapshot, rest, active, snapshots, same⟩
    · rw [stamps]
      exact sound.stamps
    · rw [same]
      intro readyAt written
      dsimp only [snapshotStamps] at written
      split at written
      · exact sound.memory readyAt written
      · exact nomatch written
  · rw [marks]
    exact sound.marks

theorem PublicationSound.marker (sound : PublicationSound plan Was s) {marker : MarkerRun}
    (here : s.marker = some marker) (move : MarkerMove) : PublicationSound plan Was (markerStep s marker move) := by
  -- A marker that has read the file as ready keeps the run settled.
  have passed (position : MarkerPosition) (none : position.value? = none) :
      PublicationSound plan Was { s with marker := some { marker with position } } := by
    refine ⟨sound.phase, ?_, ?_, sound.memory, sound.stamps, sound.marks⟩
    · rintro (file | ⟨other, value, same, some_⟩ | marks)
      · exact sound.settled (.inl file)
      · obtain rfl := Option.some.inj same
        exact nomatch none.symm.trans some_
      · exact sound.settled (.inr (.inr marks))
    · rintro other value same some_
      obtain rfl := Option.some.inj same
      exact nomatch none.symm.trans some_
  unfold markerStep
  cases move with
  | read =>
    dsimp only
    split
    · next value listed found =>
      split
      · next ready =>
        obtain ⟨state, file, rfl⟩ := Option.map_eq_some_iff.mp found
        simp only [isReady, Bool.and_eq_true, decide_eq_true_eq, Option.any_eq_true] at ready
        obtain ⟨status, readyAt, stamped, early⟩ := ready
        have settled := sound.settled (.inl ⟨state, file, .inl status⟩)
        obtain ⟨other, found, complete⟩ := settled.file
        obtain rfl := Option.mem_unique file found
        refine ⟨sound.phase, fun _ => settled, ?_, sound.memory, sound.stamps, sound.marks⟩
        rintro other value same some_
        obtain rfl := Option.some.inj same
        obtain rfl := Option.some.inj some_
        exact ⟨complete, readyAt, early, stamped, sound.stamps readyAt stamped⟩
      · exact passed _ rfl
    · exact passed _ rfl
    · exact sound
  | writeTemporary =>
    dsimp only
    split
    · next value position =>
      have read : marker.position.value? = some value := by rw [position]; rfl
      refine ⟨sound.phase, fun _ => sound.settled (.inr (.inl ⟨marker, value, here, read⟩)), ?_, sound.memory,
        sound.stamps, sound.marks⟩
      rintro other written same some_
      obtain rfl := Option.some.inj same
      obtain rfl := Option.some.inj some_
      exact sound.read marker value here read
    · exact sound
  | rename =>
    dsimp only
    split
    · next value position =>
      have read : marker.position.value? = some value := by rw [position]; rfl
      obtain ⟨complete, readyAt, early, stamped, was⟩ := sound.read marker value here read
      have settled := sound.settled (.inr (.inl ⟨marker, value, here, read⟩))
      refine ⟨sound.phase, fun _ => ⟨⟨_, rfl, ?_⟩, settled.active⟩, ?_, sound.memory, ?_, ?_⟩
      · exact allComplete_iff.mpr (allComplete_iff.mp complete)
      · rintro other written same some_
        obtain rfl := Option.some.inj same
        exact nomatch some_
      · intro other written
        obtain rfl := Option.mem_unique stamped written
        exact was
      · intro mark mem
        rcases mem_concat.mp mem with old | new
        · exact sound.marks mark old
        · rw [new]
          exact ⟨readyAt, early, was⟩
    · exact sound
  | finish =>
    dsimp only
    split
    · refine ⟨sound.phase, ?_, fun _ _ none => (nomatch none), sound.memory, sound.stamps, sound.marks⟩
      rintro (file | ⟨_, _, none, -⟩ | marks)
      · exact sound.settled (.inl file)
      · exact nomatch none
      · exact sound.settled (.inr (.inr marks))
    · exact sound
  | crash =>
    refine ⟨sound.phase, ?_, fun _ _ none => (nomatch none), sound.memory, sound.stamps, sound.marks⟩
    rintro (file | ⟨_, _, none, -⟩ | marks)
    · exact sound.settled (.inl file)
    · exact nomatch none
    · exact sound.settled (.inr (.inr marks))

/-- **Every step keeps the invariant.** -/
theorem PublicationSound.step (s : Publication) (move : PublicationMove) (sound : PublicationSound plan Was s)
    (now : ∀ act, s.coordinator.active = some act → allComplete plan act.state = true → Was s.now) :
    PublicationSound plan Was (publicationStep js plan s move) := by
  unfold publicationStep
  cases move with
  | wait duration => exact ⟨sound.phase, sound.settled, sound.read, sound.memory, sound.stamps, sound.marks⟩
  | prepare => exact ⟨sound.phase, sound.settled, sound.read, sound.memory, sound.stamps, sound.marks⟩
  | coordinator move => exact sound.coordinator now move
  | startMarker readyThrough manifest =>
    cases running : s.marker with
    | some marker => exact sound
    | none =>
      refine ⟨sound.phase, ?_, ?_, sound.memory, sound.stamps, sound.marks⟩
      · rintro (file | ⟨_, _, same, some_⟩ | marks)
        · exact sound.settled (.inl file)
        · obtain rfl := Option.some.inj same
          exact nomatch some_
        · exact sound.settled (.inr (.inr marks))
      · rintro _ _ same some_
        obtain rfl := Option.some.inj same
        exact nomatch some_
  | marker move =>
    cases running : s.marker with
    | none => exact sound
    | some marker => exact sound.marker running move

theorem publicationSound_start : PublicationSound plan Was {} := by
  refine ⟨fun _ none => (nomatch none), ?_, fun _ _ none => (nomatch none), fun _ none => (nomatch none),
    fun _ none => (nomatch none), fun _ mem => (nomatch mem)⟩
  rintro (⟨_, none, -⟩ | ⟨_, _, none, -⟩ | none)
  · exact nomatch none
  · exact nomatch none
  · exact absurd rfl none

/-! ## Runs without a race -/

def Marks (marks : List Mark) (marker : MarkerRun) : Prop := ∃ mark ∈ marks,
  mark.marker.publishedAt = marker.publishedAt ∧ mark.marker.manifest = marker.manifest

/-- The invariant of the runs without a race: a mark is what the file holds. -/
structure Published (s : Publication) : Prop where
  opened : ∀ act, s.coordinator.active = some act → s.opened = 0
  file : ∀ mark ∈ s.marks, s.file = some (markedFile mark.marker mark.value)
  read : ∀ marker value, s.marker = some marker → marker.position.value? = some value → s.marks = []
  passed : ∀ marker, s.marker = some marker → marker.position = .passed true → Marks s.marks marker
  reports : ∀ report ∈ s.reports, Marks s.marks report
  fresh : ∀ mark ∈ s.marks, mark.marker.seen = mark.replaced

theorem Published.published (published : Published s) (sound : PublicationSound plan Was s) (marked : s.marks ≠ []) :
    publishedPlanComplete plan s.coordinator.file = true := by
  obtain ⟨state, found, complete⟩ := (sound.settled (.inr (.inr marked))).file
  obtain ⟨mark, mem⟩ := List.exists_mem_of_ne_nil _ marked
  have same := published.file mark mem
  unfold Publication.file at same
  rw [found, Option.map_some, Option.some.injEq] at same
  have status : state.status = .published := congrArg (fun file : StateFile => file.state.status) same
  unfold publishedPlanComplete
  rw [found]
  simp [status, complete]

variable (js) in
theorem Published.stays_closed (published : Published s) (sound : PublicationSound plan Was s) (marked : s.marks ≠ [])
    (closed : s.coordinator.active = none) : (coordinatorStep js plan s.coordinator .activate).active = none := by
  unfold coordinatorStep activate
  rw [closed]
  dsimp only
  rw [if_pos (published.published sound marked)]

theorem active_of_step {s : CoordinatorState} {move : Move} (other : move ≠ .activate) {next : Activation}
    (after : (coordinatorStep js plan s move).active = some next) : ∃ act, s.active = some act := by
  cases active : s.active with
  | some act => exact ⟨act, rfl⟩
  | none =>
    unfold coordinatorStep at after
    cases move with
    | activate => exact absurd rfl other
    | crash => exact nomatch after
    | within move =>
      rw [active] at after
      exact nomatch active.symm.trans after

theorem Published.coordinator (published : Published s) (sound : PublicationSound plan Was s) {move : Move}
    (unraced : Unraced s (.coordinator move)) : Published (coordinatorMove js plan s move) := by
  obtain ⟨marker, marks, reports, coordinator⟩ := coordinatorMove_frame js plan s move
  constructor
  · intro next active
    by_cases activates : move = .activate
    · subst activates
      cases before : s.coordinator.active with
      | some act =>
        have same : coordinatorMove js plan s .activate =
            { s with coordinator := coordinatorStep js plan s.coordinator .activate } := by
          unfold coordinatorMove
          rw [before]
        rw [same]
        exact published.opened act before
      | none =>
        have opened : (coordinatorMove js plan s .activate).opened = s.marks.length := by
          unfold coordinatorMove
          rw [before]
        rw [opened, List.length_eq_zero_iff]
        by_contra marked
        have closed := published.stays_closed js sound marked before
        rcases coordinator with same | same
        · rw [same, closed] at active
          exact nomatch active
        · rw [same, before] at active
          exact nomatch active
    · have opened : (coordinatorMove js plan s move).opened = s.opened := by
        unfold coordinatorMove
        dsimp only
        split
        · exact absurd rfl activates
        all_goals (try split) <;> rfl
      rw [opened]
      rcases coordinator with same | same
      · rw [same] at active
        obtain ⟨act, before⟩ := active_of_step activates active
        exact published.opened act before
      · rw [same] at active
        exact published.opened next active
  · rw [marks]
    intro mark mem
    rcases file_coordinatorMove js plan s move with
      ⟨file, stamps⟩ | ⟨rfl, prepared, act, snapshot, rest, active, -⟩
    · have same : (coordinatorMove js plan s move).file = s.file := by
        unfold Publication.file
        rw [file, stamps]
      rw [same]
      exact published.file mark mem
    · have none := (unraced prepared).symm.trans (published.opened act active)
      rw [List.length_eq_zero_iff.mp none] at mem
      exact nomatch mem
  · rw [marker, marks]
    exact published.read
  · rw [marker, marks]
    exact published.passed
  · rw [reports, marks]
    exact published.reports
  · rw [marks]
    exact published.fresh

theorem Published.marker (published : Published s) {marker : MarkerRun} (here : s.marker = some marker)
    {move : MarkerMove} (unraced : Unraced s (.marker move)) : Published (markerStep s marker move) := by
  have passed (position : MarkerPosition) (none : position.value? = none) (unmarked : position ≠ .passed true) :
      Published { s with marker := some { marker with position } } := by
    refine ⟨published.opened, published.file, ?_, ?_, published.reports, published.fresh⟩
    · rintro other value same some_
      obtain rfl := Option.some.inj same
      exact nomatch none.symm.trans some_
    · rintro other same position
      obtain rfl := Option.some.inj same
      exact absurd position unmarked
  unfold markerStep
  cases move with
  | read =>
    dsimp only
    split
    · next value listed found =>
      split
      · next ready =>
        simp only [isReady, Bool.and_eq_true, decide_eq_true_eq] at ready
        have unmarked : s.marks = [] := by
          by_contra marked
          obtain ⟨mark, mem⟩ := List.exists_mem_of_ne_nil _ marked
          obtain rfl := Option.mem_unique found (published.file mark mem)
          exact nomatch ready.1
        refine ⟨published.opened, published.file, fun _ _ _ _ => unmarked, ?_, published.reports, published.fresh⟩
        rintro other same position
        obtain rfl := Option.some.inj same
        exact nomatch position
      · exact passed _ rfl nofun
    · exact passed _ rfl nofun
    · exact published
  | writeTemporary =>
    dsimp only
    split
    · next value position =>
      have read : marker.position.value? = some value := by rw [position]; rfl
      refine ⟨published.opened, published.file, fun _ _ _ _ => published.read marker value here read, ?_,
        published.reports, published.fresh⟩
      rintro other same position
      obtain rfl := Option.some.inj same
      exact nomatch position
    · exact published
  | rename =>
    dsimp only
    split
    · next value position =>
      have read : marker.position.value? = some value := by rw [position]; rfl
      have unmarked := published.read marker value here read
      have only {mark : Mark} (mem : mark ∈ s.marks ++ [{ marker, value, replaced := s.renames }]) :
          mark = { marker, value, replaced := s.renames } := by
        rw [unmarked] at mem
        exact List.mem_singleton.mp mem
      refine ⟨published.opened, ?_, ?_, ?_, ?_, ?_⟩
      · intro mark mem
        rw [only mem]
        rfl
      · rintro other written same some_
        obtain rfl := Option.some.inj same
        exact nomatch some_
      · rintro other same -
        obtain rfl := Option.some.inj same
        exact ⟨_, List.mem_concat_self, rfl, rfl⟩
      · intro report mem
        obtain ⟨mark, there, same⟩ := published.reports report mem
        exact ⟨mark, List.mem_append_left _ there, same⟩
      · intro mark mem
        rw [only mem]
        exact unraced marker here (by rw [position]; rfl)
    · exact published
  | finish =>
    dsimp only
    split
    · next marked position =>
      refine ⟨published.opened, published.file, fun _ _ none => (nomatch none), fun _ none => (nomatch none), ?_,
        published.fresh⟩
      intro report mem
      rcases List.mem_append.mp mem with old | new
      · exact published.reports report old
      · split at new
        · next yes =>
          rw [List.mem_singleton.mp new]
          exact published.passed marker here (position.trans (congrArg MarkerPosition.passed yes))
        · exact nomatch new
    · exact published
  | crash =>
    exact ⟨published.opened, published.file, fun _ _ none => (nomatch none), fun _ none => (nomatch none),
      published.reports, published.fresh⟩

/-- **Every step without a race keeps the marks.** -/
theorem Published.step (published : Published s) (sound : PublicationSound plan Was s) {move : PublicationMove}
    (unraced : Unraced s move) : Published (publicationStep js plan s move) := by
  unfold publicationStep
  cases move with
  | wait duration =>
    exact ⟨published.opened, published.file, published.read, published.passed, published.reports, published.fresh⟩
  | prepare =>
    exact ⟨published.opened, published.file, published.read, published.passed, published.reports, published.fresh⟩
  | coordinator move => exact published.coordinator sound unraced
  | startMarker readyThrough manifest =>
    cases running : s.marker with
    | some marker => exact published
    | none =>
      refine ⟨published.opened, published.file, ?_, ?_, published.reports, published.fresh⟩
      · rintro _ _ same some_
        obtain rfl := Option.some.inj same
        exact nomatch some_
      · rintro _ same position
        obtain rfl := Option.some.inj same
        exact nomatch position
  | marker move =>
    cases running : s.marker with
    | none => exact published
    | some marker => exact published.marker running unraced

/-! ## Every run -/

/-- A step moves the coordinator, or comes after a mark, or leaves the coordinator alone. -/
theorem coordinator_publicationStep (move : PublicationMove) :
    (∃ own, (publicationStep js plan s move).coordinator = coordinatorStep js plan s.coordinator own) ∨
      ((publicationStep js plan s move).marks ≠ [] ∧
        (publicationStep js plan s move).coordinator.launches = s.coordinator.launches) ∨
      (publicationStep js plan s move).coordinator = s.coordinator := by
  unfold publicationStep
  cases move with
  | coordinator own =>
    obtain ⟨-, -, -, same | same⟩ := coordinatorMove_frame js plan s own
    · exact .inl ⟨own, same⟩
    · exact .inr (.inr (congrArg (·.coordinator) same))
  | marker move =>
    right
    dsimp only
    split
    · unfold markerStep
      cases move <;> dsimp only <;> (repeat' split) <;> simp
    · simp
  | startMarker readyThrough manifest =>
    dsimp only
    split <;> simp
  | _ => simp

theorem launches_of_settled (settled : Settled plan s.coordinator) (move : PublicationMove) :
    (publicationStep js plan s move).coordinator.launches = s.coordinator.launches := by
  rcases coordinator_publicationStep move with ⟨own, same⟩ | ⟨-, same⟩ | same
  · rw [same]
    exact (settled.step own).2
  · exact same
  · rw [same]

def CompleteAt (js : StageBuiltins) (plan : CoordinatorPlan) (moves : List PublicationMove) (instant : Nat) : Prop :=
  ∃ earlier later act, moves = earlier ++ later ∧ (run (publicationStep js plan) {} earlier).now = instant ∧
    (run (publicationStep js plan) {} earlier).coordinator.active = some act ∧ allComplete plan act.state = true

theorem along_completeAt (moves : List PublicationMove) : Along (publicationStep js plan)
    (fun s _ => ∀ act, s.coordinator.active = some act → allComplete plan act.state = true →
      CompleteAt js plan moves s.now) {} moves := by
  rw [along_iff_split]
  intro earlier move later split act active complete
  exact ⟨earlier, move :: later, act, split, rfl, active, complete⟩

theorem publicationSound_run (moves : List PublicationMove) :
    PublicationSound plan (CompleteAt js plan moves) (run (publicationStep js plan) {} moves) :=
  run_invariant_along (fun s move sound now => PublicationSound.step s move sound now) publicationSound_start
    (along_completeAt moves)

theorem published_start : Published {} where
  opened _ none := nomatch none
  file _ mem := nomatch mem
  read _ _ none := nomatch none
  passed _ none := nomatch none
  reports _ mem := nomatch mem
  fresh _ mem := nomatch mem

theorem published_run {moves : List PublicationMove} (unraced : Along (publicationStep js plan) Unraced {} moves) :
    Published (run (publicationStep js plan) {} moves) := by
  have both : PublicationSound plan (CompleteAt js plan moves) (run (publicationStep js plan) {} moves) ∧
      Published (run (publicationStep js plan) {} moves) := by
    refine run_invariant_along (I := fun s => PublicationSound plan (CompleteAt js plan moves) s ∧ Published s)
      (G := fun s move => (∀ act, s.coordinator.active = some act → allComplete plan act.state = true →
        CompleteAt js plan moves s.now) ∧ Unraced s move) ?_ ⟨publicationSound_start, published_start⟩ ?_
    · rintro s move ⟨sound, published⟩ ⟨now, unraced⟩
      exact ⟨sound.step s move now, published.step sound unraced⟩
    · rw [along_iff_split] at unraced ⊢
      intro earlier move later split
      exact ⟨(along_iff_split _ _).mp (along_completeAt moves) earlier move later split,
        unraced earlier move later split⟩
  exact both.2

/-- **Marks of publication.** A run is marked only if every stage was complete at an instant that the marker was told;
once the file says that the run is published, no step launches a stage. Where there is no race, no mark is over a snapshot
that its marker has not seen, and the file of a run that was reported as marked holds the mark from then on. -/
theorem publication_law (js : StageBuiltins) (plan : CoordinatorPlan) (moves : List PublicationMove) :
    let s := run (publicationStep js plan) {} moves
    (∀ mark ∈ s.marks, ∃ instant ≤ mark.marker.readyThrough, CompleteAt js plan moves instant) ∧
    (∀ move, (∃ file, s.file = some file ∧ file.state.status = .published ∧ allComplete plan file.state = true) →
      (publicationStep js plan s move).coordinator.launches = s.coordinator.launches) ∧
    (Along (publicationStep js plan) Unraced {} moves →
      (∀ mark ∈ s.marks, mark.marker.seen = mark.replaced) ∧
      ∀ report ∈ s.reports, ∃ file, s.file = some file ∧ file.state.status = .published ∧
        file.stamps.publishedAt = some report.publishedAt ∧ file.stamps.manifest = some report.manifest) := by
  intro s
  have sound : PublicationSound plan (CompleteAt js plan moves) s := publicationSound_run moves
  refine ⟨sound.marks, ?_, ?_⟩
  · rintro move ⟨file, found, status, -⟩
    obtain ⟨state, there, rfl⟩ := Option.map_eq_some_iff.mp found
    exact launches_of_settled (sound.settled (.inl ⟨state, there, .inr status⟩)) move
  · intro unraced
    have published : Published s := published_run unraced
    refine ⟨published.fresh, ?_⟩
    intro report mem
    obtain ⟨mark, there, time, manifest⟩ := published.reports report mem
    exact ⟨_, published.file mark there, rfl, congrArg some time, congrArg some manifest⟩

/-! ## One run, marked twice -/

def oneStage : Stage := { name := "finance", args := [], storeArg := none }

def onePlan : CoordinatorPlan where
  runId := "fm-finance-daily-2026-01-02"
  parallel := false
  stages := [oneStage]
  names := by decide

def writes : List PublicationMove := [.prepare, .coordinator (.within .write)]

def advances (result : Option StageResult) : PublicationMove :=
  .coordinator (.within (.advance oneStage { result }))

/-- An activation, whose stage succeeds at once. -/
def firstActivation : List PublicationMove :=
  .coordinator .activate :: writes ++ advances none :: writes ++
    [advances none, advances (some { exitCode := 0, summary := .null })] ++ writes ++
      [advances none, .coordinator (.within .conclude)] ++ writes ++ [.coordinator (.within .finish)]

/-- A marker comes after the activation, and an activation after the marker. -/
def orderlyMoves : List PublicationMove :=
  firstActivation ++ [.startMarker 0 [], .marker .read, .marker .writeTemporary, .marker .rename, .marker .finish,
    .coordinator .activate]

/-- The mark stays. -/
theorem orderly_mark : ∀ report ∈ (run (publicationStep .ascii onePlan) {} orderlyMoves).reports,
    ∃ file, (run (publicationStep .ascii onePlan) {} orderlyMoves).file = some file ∧
      file.state.status = .published ∧ file.stamps.publishedAt = some report.publishedAt ∧
        file.stamps.manifest = some report.manifest :=
  ((publication_law .ascii onePlan orderlyMoves).2.2 (by decide)).2

def racedMoves : List PublicationMove :=
  firstActivation ++ [.startMarker 0 [], .marker .read, .marker .writeTemporary, .coordinator .activate] ++ writes ++
    [.marker .rename, .marker .finish, advances none, .coordinator (.within .conclude)] ++ writes

/-- **A race**: the mark is over a snapshot that the marker has not seen, and although the run was reported as marked,
its file says that it is ready, and not that it was published. -/
theorem raced_mark :
    (run (publicationStep .ascii onePlan) {} racedMoves).marks.map (fun mark => (mark.marker.seen, mark.replaced)) =
      [(4, 5)] ∧
    (run (publicationStep .ascii onePlan) {} racedMoves).reports.length = 1 ∧
    (run (publicationStep .ascii onePlan) {} racedMoves).file.map (fun file =>
      (file.state.status, file.stamps.publishedAt)) = some (.readyToPublish, none) := by
  decide

/-! ## After the run was ready -/

/-- **A run that was ready stays as it is**: once its file says that it is ready or published, no continuation, with whatever
crashes and races, launches a stage, or leaves one incomplete in the file, in memory or in what is still to be written. -/
theorem settled_of_ready (js : StageBuiltins) (plan : CoordinatorPlan) (moves later : List PublicationMove)
    (ready : ∃ state, (run (publicationStep js plan) {} moves).coordinator.file = some state ∧ state.status.IsOver) :
    (run (publicationStep js plan) {} (moves ++ later)).coordinator.launches =
        (run (publicationStep js plan) {} moves).coordinator.launches ∧
      Settled plan (run (publicationStep js plan) {} (moves ++ later)).coordinator := by
  have sound (moves : List PublicationMove) : PublicationSound plan (CompleteAt js plan moves)
      (run (publicationStep js plan) {} moves) := publicationSound_run moves
  induction later using List.reverseRecOn with
  | nil =>
    rw [List.append_nil]
    exact ⟨rfl, (sound moves).settled (.inl ready)⟩
  | append_singleton later move ih =>
    have next := sound (moves ++ (later ++ [move]))
    rw [← List.append_assoc, run_concat] at next ⊢
    refine ⟨(launches_of_settled ih.2 move).trans ih.1, ?_⟩
    rcases coordinator_publicationStep move with ⟨own, same⟩ | ⟨marked, -⟩ | same
    · rw [same]
      exact (ih.2.step own).1
    · exact next.settled (.inr (.inr marked))
    · rw [same]
      exact ih.2

theorem settled_of_ready_twice :
    (run (publicationStep .ascii onePlan) {} (firstActivation ++ firstActivation)).coordinator.launches =
        (run (publicationStep .ascii onePlan) {} firstActivation).coordinator.launches ∧
      Settled onePlan (run (publicationStep .ascii onePlan) {} (firstActivation ++ firstActivation)).coordinator := by
  refine settled_of_ready .ascii onePlan firstActivation firstActivation ?_
  have file : (run (publicationStep .ascii onePlan) {} firstActivation).coordinator.file.map (·.status) =
    some .readyToPublish := by decide
  obtain ⟨state, found, status⟩ := Option.map_eq_some_iff.mp file
  exact ⟨state, found, .inl status⟩

end FullManagedBi.Coordinator
