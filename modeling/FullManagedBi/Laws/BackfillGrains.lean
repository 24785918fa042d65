import FullManagedBi.Laws.BackfillLanes

/-!
# Reasoning about one grain at a time

No two lanes work on the same checkpoint grain. So a property of the store and of the memory that is
about one grain only may be proved as if the lane that has the grain ran alone: `LaneRules` collects
what one lane must keep, for itself and for the other grains, and `runLanes_hold` is the conclusion for
every interleaving.
-/

namespace FullManagedBi.Backfill

open Lib

variable {B : CaseBuiltins} {ctx : RunContext}

/-! ## The grains of the queues -/

/-- No window of the one list shares its grain with one of the other. -/
def GrainsApart (left right : List Entry) : Prop :=
  ∀ entry ∈ left, ∀ entry' ∈ right, entry.window.grainKey ≠ entry'.window.grainKey

theorem GrainsApart.symm {left right : List Entry} (h : GrainsApart left right) : GrainsApart right left :=
  fun entry mem entry' mem' same => h entry' mem' entry mem same.symm

theorem GrainsApart.mono {left left' right : List Entry} (h : GrainsApart left right)
    (sub : ∀ entry ∈ left', entry ∈ left) : GrainsApart left' right :=
  fun entry mem => h entry (sub entry mem)

structure QueuesKeyed (queues : List (String × List Entry)) : Prop where
  nodup : (queues.map (·.1)).Nodup
  keyed : ∀ queue ∈ queues, ∀ entry ∈ queue.2, entry.window.grainKey = queue.1

theorem QueuesKeyed.enqueue {queues : List (String × List Entry)} (h : QueuesKeyed queues)
    (entry : Entry) : QueuesKeyed (enqueue queues entry) := by
  unfold Backfill.enqueue
  simp only
  split
  · constructor
    · rw [map_updateFirst (f := fun queue => (queue.1, queue.2 ++ [entry])) fun queue => rfl]
      exact h.nodup
    · intro queue mem other held
      rcases mem_updateFirst mem with old | ⟨old, found, rfl⟩
      · exact h.keyed queue old other held
      · have key := List.find?_some found
        rcases mem_concat.mp held with before | rfl
        · exact h.keyed old (List.mem_of_find?_eq_some found) other before
        · exact (of_decide_eq_true key).symm
  · rename_i absent
    constructor
    · exact nodup_map_concat h.nodup fun queue there same =>
        absent (List.any_eq_true.mpr ⟨queue, there, decide_eq_true same⟩)
    · intro queue mem other held
      rcases mem_concat.mp mem with old | rfl
      · exact h.keyed queue old other held
      · obtain rfl := List.mem_singleton.mp held
        rfl

theorem queuesKeyed_grainQueues (windows : List Window) : QueuesKeyed (grainQueues windows) := by
  have step (entries : List Entry) (queues : List (String × List Entry)) (h : QueuesKeyed queues) :
      QueuesKeyed (entries.foldl enqueue queues) := by
    induction entries generalizing queues with
    | nil => exact h
    | cons entry entries ih => exact ih _ (h.enqueue entry)
  exact step _ [] ⟨List.nodup_nil, nofun⟩

theorem grainKey_of_mem_grains {windows : List Window} {queue : List Entry} {entry entry' : Entry}
    (taken : queue ∈ grains windows) (mem : entry ∈ queue) (mem' : entry' ∈ queue) :
    entry.window.grainKey = entry'.window.grainKey := by
  obtain ⟨keyed, there, rfl⟩ := List.mem_map.mp taken
  have good := queuesKeyed_grainQueues windows
  rw [good.keyed keyed there entry mem, good.keyed keyed there entry' mem']

theorem pairwise_grains (windows : List Window) : (grains windows).Pairwise GrainsApart := by
  have good := queuesKeyed_grainQueues windows
  have keys : (grainQueues windows).Pairwise fun a b => a.1 ≠ b.1 :=
    List.pairwise_map.mp good.nodup
  refine List.pairwise_map.mpr ((List.Pairwise.and_mem.mp keys).imp ?_)
  rintro a b ⟨memA, memB, differ⟩ entry mem entry' mem' same
  rw [good.keyed a memA entry mem, good.keyed b memB entry' mem'] at same
  exact differ same

theorem nodup_windowKey_of_mem_grains {windows : List Window} {queue : List Entry}
    (keys : (windows.map (·.windowKey)).Nodup) (taken : queue ∈ grains windows) :
    (queue.map (·.window.windowKey)).Nodup := by
  have all : ((grains windows).flatten.map (·.window.windowKey)).Nodup := by
    refine ((perm_grains windows).map (·.window.windowKey)).nodup_iff.mpr ?_
    have same : (planEntries windows).map (·.window.windowKey) = (windows.zipIdx.map (·.1)).map (·.windowKey) := by
      unfold planEntries
      rw [List.map_map, List.map_map]
      rfl
    rw [same, List.zipIdx_map_fst]
    exact keys
  exact all.sublist ((List.sublist_flatten_of_mem taken).map _)

/-! ## The rules -/

/-- What one lane must keep: `J` for everybody, `Waiting` for the windows of a grain that nobody
works on, `Busy` while it is inside a window. -/
structure LaneRules (B : CaseBuiltins) (ctx : RunContext) (J : Shared → Prop)
    (Waiting : List Entry → Shared → Prop)
    (Busy : Entry → List Entry → Option CheckpointState → Phase → Shared → Prop) : Prop where
  idle : ∀ s, Waiting [] s
  begin : ∀ entry rest s, J s → Waiting (entry :: rest) s →
    Busy entry rest (mapGet s.checkpointIndex entry.window.grainKey) (.attempting 0) s
  report : ∀ entry rest checkpoint phase s, J s → Busy entry rest checkpoint phase s →
    phase.Settled → Waiting rest s
  shared : ∀ entry rest checkpoint phase s env call, J s → Busy entry rest checkpoint phase s →
    (windowProtocol ctx checkpoint entry.window).allowed phase call → J (answer B s env call).2
  own : ∀ entry rest checkpoint phase s env call, J s → Busy entry rest checkpoint phase s →
    (windowProtocol ctx checkpoint entry.window).allowed phase call →
    Busy entry rest checkpoint
      ((windowProtocol ctx checkpoint entry.window).after phase call (answer B s env call).1)
      (answer B s env call).2
  otherWaiting : ∀ entry rest checkpoint phase s env call others, J s →
    Busy entry rest checkpoint phase s →
    (windowProtocol ctx checkpoint entry.window).allowed phase call →
    GrainsApart [entry] others → Waiting others s → Waiting others (answer B s env call).2
  otherBusy : ∀ entry rest checkpoint phase s env call entry' rest' checkpoint' phase', J s →
    Busy entry rest checkpoint phase s →
    (windowProtocol ctx checkpoint entry.window).allowed phase call →
    GrainsApart [entry] (entry' :: rest') → Busy entry' rest' checkpoint' phase' s →
    Busy entry' rest' checkpoint' phase' (answer B s env call).2

section Lanes

variable {J : Shared → Prop} {Waiting : List Entry → Shared → Prop}
  {Busy : Entry → List Entry → Option CheckpointState → Phase → Shared → Prop}

def LaneHolds (ctx : RunContext) (Waiting : List Entry → Shared → Prop)
    (Busy : Entry → List Entry → Option CheckpointState → Phase → Shared → Prop) (s : Shared) :
    Lane → Prop
  | .waiting rest => Waiting rest s
  | .processing entry program rest => ∃ checkpoint phase,
    Follows (windowProtocol ctx checkpoint entry.window) program phase
      (WindowEnds ctx entry.window) ∧ Busy entry rest checkpoint phase s
  | _ => True

/-- What holds of all lanes and of the grains that are not taken. -/
structure LanesHold (ctx : RunContext) (queues : List (List Entry)) (J : Shared → Prop)
    (Waiting : List Entry → Shared → Prop)
    (Busy : Entry → List Entry → Option CheckpointState → Phase → Shared → Prop)
    (s : LanesState) : Prop where
  shared : J s.shared
  lanes : ∀ (i : Nat) lane, s.lanes[i]? = some lane → LaneHolds ctx Waiting Busy s.shared lane
  untaken : ∀ queue ∈ queues.drop s.nextGrain, Waiting queue s.shared
  apart : ∀ (i j : Nat) lane lane', i ≠ j → s.lanes[i]? = some lane → s.lanes[j]? = some lane' →
    GrainsApart lane.entries lane'.entries
  beside : ∀ (i : Nat) lane, s.lanes[i]? = some lane → ∀ queue ∈ queues.drop s.nextGrain,
    GrainsApart lane.entries queue

/-- What a move must show about the lane that moved and about everybody else. -/
theorem LanesHold.set {queues : List (List Entry)} {s s' : LanesState} {i : Nat} {lane moved : Lane}
    (hold : LanesHold ctx queues J Waiting Busy s) (here : s.lanes[i]? = some lane)
    (lanes : s'.lanes = s.lanes.set i moved) (shared : J s'.shared)
    (holds : LaneHolds ctx Waiting Busy s'.shared moved)
    (others : ∀ (j : Nat) other, i ≠ j → s.lanes[j]? = some other →
      LaneHolds ctx Waiting Busy s.shared other → LaneHolds ctx Waiting Busy s'.shared other)
    (untaken : ∀ queue ∈ queues.drop s'.nextGrain, Waiting queue s'.shared)
    (fewer : ∀ queue ∈ queues.drop s'.nextGrain, queue ∈ queues.drop s.nextGrain)
    (apart : ∀ (j : Nat) other, i ≠ j → s.lanes[j]? = some other → GrainsApart moved.entries other.entries)
    (beside : ∀ queue ∈ queues.drop s'.nextGrain, GrainsApart moved.entries queue) :
    LanesHold ctx queues J Waiting Busy s' := by
  have within : i < s.lanes.length := (List.getElem?_eq_some_iff.mp here).1
  -- A lane after the move is the one that moved, or another as it was.
  have split (j : Nat) (other : Lane) (there : s'.lanes[j]? = some other) :
      i = j ∧ other = moved ∨ i ≠ j ∧ s.lanes[j]? = some other := by
    rw [lanes] at there
    by_cases same : i = j
    · subst same
      rw [List.getElem?_set_self within, Option.some.injEq] at there
      exact .inl ⟨rfl, there.symm⟩
    · rw [List.getElem?_set_ne same] at there
      exact .inr ⟨same, there⟩
  constructor
  · exact shared
  · intro j other there
    rcases split j other there with ⟨rfl, rfl⟩ | ⟨differ, before⟩
    · exact holds
    · exact others j other differ before (hold.lanes j other before)
  · exact untaken
  · intro j k left right differ there there'
    rcases split j left there with ⟨rfl, rfl⟩ | ⟨apartJ, before⟩
    · rcases split k right there' with ⟨rfl, rfl⟩ | ⟨apartK, before'⟩
      · exact absurd rfl differ
      · exact apart k right apartK before'
    · rcases split k right there' with ⟨rfl, rfl⟩ | ⟨apartK, before'⟩
      · exact (apart j left apartJ before).symm
      · exact hold.apart j k left right differ before before'
  · intro j other there queue mem
    rcases split j other there with ⟨rfl, rfl⟩ | ⟨differ, before⟩
    · exact beside queue mem
    · exact hold.beside j other before queue (fewer queue mem)

/-- **A move keeps what the rules keep.** -/
theorem laneStep_holds {windows : List Window} (rules : LaneRules B ctx J Waiting Busy)
    {s : LanesState} (hold : LanesHold ctx (grains windows) J Waiting Busy s) (move : LaneMove) :
    LanesHold ctx (grains windows) J Waiting Busy (laneStep B ctx (grains windows) s move) := by
  have change := laneStep_change B ctx (grains windows) s move
  generalize laneStep B ctx (grains windows) s move = s' at change ⊢
  cases change with
  | stay => exact hold
  | take queue here next =>
    obtain ⟨within, taken⟩ := List.getElem?_eq_some_iff.mp next
    have split := List.drop_eq_getElem_cons within
    rw [taken] at split
    have first : queue ∈ (grains windows).drop s.nextGrain := by
      rw [split]
      exact List.mem_cons_self
    have fewer : ∀ other ∈ (grains windows).drop (s.nextGrain + 1),
        other ∈ (grains windows).drop s.nextGrain := by
      intro other mem
      rw [split]
      exact List.mem_cons_of_mem queue mem
    have pairwise := (pairwise_grains windows).drop (i := s.nextGrain)
    rw [split, List.pairwise_cons] at pairwise
    exact hold.set here rfl hold.shared (hold.untaken queue first) (fun _ _ _ _ h => h)
      (fun other mem => hold.untaken other (fewer other mem)) fewer
      (fun j other _ there => (hold.beside j other there queue first).symm) pairwise.1
  | finish here next =>
    have past := List.getElem?_eq_none_iff.mp next
    have none_ : (grains windows).drop (s.nextGrain + 1) = [] :=
      List.drop_eq_nil_of_le (past.trans (Nat.le_succ _))
    refine hold.set here rfl hold.shared trivial (fun _ _ _ _ h => h) ?_ ?_ (fun _ _ _ _ => nofun)
      fun _ _ => nofun
    · intro queue mem
      rw [none_] at mem
      exact absurd mem List.not_mem_nil
    · intro queue mem
      rw [none_] at mem
      exact absurd mem List.not_mem_nil
  | begin entry rest here =>
    have waiting : Waiting (entry :: rest) s.shared := hold.lanes _ _ here
    exact hold.set here rfl hold.shared
      ⟨_, _, processWindow_follows, rules.begin entry rest s.shared hold.shared waiting⟩
      (fun _ _ _ _ h => h) hold.untaken (fun _ => id)
      (fun j other differ there => hold.apart _ j (.waiting (entry :: rest)) other differ here there)
      fun queue mem => hold.beside _ (.waiting (entry :: rest)) here queue mem
  | report entry result rest here =>
    obtain ⟨checkpoint, phase, ⟨-, settled⟩, busy⟩ := hold.lanes _ _ here
    have sub : ∀ other ∈ rest, other ∈ (Lane.processing entry (.done result) rest).entries :=
      fun other mem => List.mem_cons_of_mem entry mem
    exact hold.set here rfl hold.shared
      (rules.report entry rest checkpoint phase s.shared hold.shared busy settled)
      (fun _ _ _ _ h => h) hold.untaken (fun _ => id)
      (fun j other differ there => (hold.apart _ j _ other differ here there).mono sub)
      fun queue mem => (hold.beside _ _ here queue mem).mono sub
  | throw entry error rest here =>
    exact hold.set here rfl hold.shared trivial (fun _ _ _ _ h => h) hold.untaken (fun _ => id)
      (fun j other differ there =>
        hold.apart _ j (.processing entry (.fail error) rest) other differ here there)
      fun queue mem => hold.beside _ (.processing entry (.fail error) rest) here queue mem
  | call entry call next rest here =>
    obtain ⟨checkpoint, phase, ⟨allowed, follows⟩, busy⟩ := hold.lanes _ _ here
    have self : ∀ other ∈ [entry], other ∈ (Lane.processing entry (.call call next) rest).entries := by
      intro other mem
      rw [List.mem_singleton.mp mem]
      exact List.mem_cons_self
    refine hold.set here rfl
      (rules.shared entry rest checkpoint phase s.shared move.env call hold.shared busy allowed)
      ⟨checkpoint, _, follows _,
        rules.own entry rest checkpoint phase s.shared move.env call hold.shared busy allowed⟩
      ?_ ?_ (fun _ => id)
      (fun j other differ there =>
        hold.apart _ j (.processing entry (.call call next) rest) other differ here there)
      fun queue mem => hold.beside _ (.processing entry (.call call next) rest) here queue mem
    · intro j other differ there holds
      have clear := (hold.apart _ j _ other differ here there).mono self
      cases other with
      | waiting rest' =>
        exact rules.otherWaiting entry rest checkpoint phase s.shared move.env call rest'
          hold.shared busy allowed clear holds
      | processing entry' program rest' =>
        obtain ⟨checkpoint', phase', follows', busy'⟩ := holds
        exact ⟨checkpoint', phase', follows',
          rules.otherBusy entry rest checkpoint phase s.shared move.env call entry' rest'
            checkpoint' phase' hold.shared busy allowed clear busy'⟩
      | finished => trivial
      | threw error entry' rest' => trivial
    · intro queue mem
      exact rules.otherWaiting entry rest checkpoint phase s.shared move.env call queue
        hold.shared busy allowed ((hold.beside _ _ here queue mem).mono self)
        (hold.untaken queue mem)

/-- **What the rules keep holds at every moment of the lanes**, where it holds before them. -/
theorem runLanes_hold (args : RunArgs) (env : RunEnv) {prepared : PreparedRun} {db : Database}
    (rules : LaneRules B prepared.ctx J Waiting Busy) (start : J { db, checkpointIndex := prepared.checkpointIndex })
    (queues : ∀ queue ∈ grains args.plan.windows,
      Waiting queue { db, checkpointIndex := prepared.checkpointIndex }) :
    LanesHold prepared.ctx (grains args.plan.windows) J Waiting Busy
      (runLanes B env args prepared db) := by
  refine run_invariant (I := LanesHold prepared.ctx (grains args.plan.windows) J Waiting Busy)
    (fun s move hold => laneStep_holds rules hold move) ?_ env.moves
  have waiting (i : Nat) (lane : Lane) {count : Nat}
      (there : (List.replicate count (Lane.waiting []))[i]? = some lane) : lane = .waiting [] :=
    (List.mem_replicate.mp (List.mem_of_getElem? there)).2
  constructor
  · exact start
  · intro i lane there
    rw [waiting i lane there]
    exact rules.idle _
  · intro queue mem
    exact queues queue (List.mem_of_mem_drop mem)
  · intro i j lane lane' _ there _
    rw [waiting i lane there]
    exact nofun
  · intro i lane there queue _
    rw [waiting i lane there]
    exact nofun

end Lanes

end FullManagedBi.Backfill
