import FullManagedBi.Webhook.ProjectionNotifier

/-!
# No request is lost

A write of a marker is owed (`Owes`) while it is pending, in the queue, or left in the running flush. A step keeps
what is owed until it begins it, unless a write fails ahead of it in the same flush (`owes_step`); that is never a
dashboard write, which comes first. Flushes keep their distance because an armed timer fires no earlier than an
interval after the last flush (`timer_spaced`).
-/

namespace FullManagedBi.Webhook

open Lib

variable {N : Notifier} {s : NotifierState} {e : NotifierEvent} {marker : Marker}

/-! ## What is owed -/

/-- A write of a marker is still to begin. -/
structure Owes (s : NotifierState) (marker : Marker) : Prop where
  owed : (marker = .dashboard ∧ s.dashboardPending = true) ∨ (marker = .hydration ∧ s.hydrationPending = true) ∨
    (∃ job ∈ s.queue, marker ∈ job.writes) ∨ ∃ rest, s.running = some rest ∧ marker ∈ rest

/-- What may be left of a flush behind a write: nothing, or the hydration marker behind the dashboard marker. -/
def Behind (first : Marker) (rest : List Marker) : Prop :=
  rest = [] ∨ first = .dashboard ∧ rest = [.hydration]

/-- The invariant of a notifier: what is pending has its timer, which is armed for an interval after the last flush,
and a write that is under way has at most the hydration marker behind it. -/
structure NotifierInvariant (N : Notifier) (s : NotifierState) : Prop where
  armed : s.dashboardPending = true ∨ s.hydrationPending = true → s.timer.isSome
  deadline : ∀ time, s.timer = some time → ∃ last, s.flushedAt.getLast? = some last ∧ time = last + N.interval
  running : ∀ first, s.writing = some first → ∃ rest, s.running = some rest ∧ Behind first rest
  ordered : ∀ first rest, s.running = some (first :: rest) → Behind first rest

/-- The step loses what is owed of a marker: a write fails ahead of it. -/
def Loses (marker : Marker) (s : NotifierState) (e : NotifierEvent) : Prop :=
  e = .settle true ∧ s.writing.isSome ∧ ∃ rest, s.running = some rest ∧ marker ∈ rest

theorem FlushJob.mem_writes {job : FlushJob} : marker ∈ job.writes ↔
    (marker = .dashboard ∧ job.dashboard = true) ∨ (marker = .hydration ∧ job.hydration = true) := by
  unfold FlushJob.writes
  cases job.dashboard <;> cases job.hydration <;> simp

theorem FlushJob.writes_behind {job : FlushJob} {first : Marker} {rest : List Marker}
    (split : job.writes = first :: rest) : Behind first rest := by
  unfold FlushJob.writes at split
  cases dashboard : job.dashboard with
  | false =>
    cases hydration : job.hydration with
    | false => simp [dashboard, hydration] at split
    | true =>
      obtain ⟨-, rfl⟩ : Marker.hydration = first ∧ [] = rest := by simpa [dashboard, hydration] using split
      exact .inl rfl
  | true =>
    cases hydration : job.hydration with
    | false =>
      obtain ⟨-, rfl⟩ : Marker.dashboard = first ∧ [] = rest := by simpa [dashboard, hydration] using split
      exact .inl rfl
    | true =>
      obtain ⟨rfl, rfl⟩ : Marker.dashboard = first ∧ [Marker.hydration] = rest := by
        simpa [dashboard, hydration] using split
      exact .inr ⟨rfl, rfl⟩

/-! ## One step -/

theorem invariant_flush (inv : NotifierInvariant N s) (now : Int) : NotifierInvariant N (s.flush now) := by
  unfold NotifierState.flush
  split
  · next quiet =>
    simp only [Bool.and_eq_true, Bool.not_eq_true'] at quiet
    exact ⟨by simp [quiet.1, quiet.2], nofun, inv.running, inv.ordered⟩
  · exact ⟨by simp, nofun, inv.running, inv.ordered⟩

theorem invariant_request (inv : NotifierInvariant N s) (now flushNow : Int) (hydration : Bool) :
    NotifierInvariant N (s.request N.interval now flushNow hydration) := by
  unfold NotifierState.request
  dsimp only
  split
  · unfold NotifierState.flush
    split
    · next quiet => simp at quiet
    · exact ⟨by simp, nofun, inv.running, inv.ordered⟩
  · next waits =>
    split
    · refine ⟨fun _ => rfl, ?_, inv.running, inv.ordered⟩
      rintro time ⟨⟩
      unfold waitMs at waits ⊢
      cases last : s.flushedAt.getLast? with
      | none => simp [last] at waits
      | some lastFlushedAt =>
        simp only [last] at waits ⊢
        refine ⟨lastFlushedAt, rfl, ?_⟩
        omega
    · next armed => exact ⟨fun _ => by simpa [Option.isSome_iff_ne_none] using armed, inv.deadline, inv.running,
        inv.ordered⟩

theorem invariant_advance (inv : NotifierInvariant N s) : NotifierInvariant N s.advance := by
  unfold NotifierState.advance
  split
  · exact inv
  · next marker rest _ running =>
    have behind := inv.ordered marker rest running
    refine ⟨inv.armed, inv.deadline, ?_, ?_⟩
    · rintro first ⟨⟩
      exact ⟨rest, rfl, behind⟩
    · rintro first later ⟨⟩
      rcases behind with none | ⟨-, only⟩
      · exact nomatch none
      · exact .inl (List.cons.inj only).2
  · exact ⟨inv.armed, inv.deadline, by simp_all, nofun⟩
  · next job queue writing running _ =>
    refine ⟨inv.armed, inv.deadline, by simp [writing], ?_⟩
    intro first rest split
    exact FlushJob.writes_behind (Option.some.inj split)
  · exact inv

theorem invariant_settle (inv : NotifierInvariant N s) (fails : Bool) : NotifierInvariant N (s.settle fails) := by
  unfold NotifierState.settle
  split
  · exact inv
  · refine ⟨inv.armed, inv.deadline, nofun, ?_⟩
    cases fails with
    | true => simp
    | false => exact inv.ordered

theorem invariant_step (inv : NotifierInvariant N s) (e : NotifierEvent) : NotifierInvariant N (N.step s e) := by
  cases e with
  | request now flushNow hydration => exact invariant_request inv now flushNow hydration
  | flush now => exact invariant_flush inv now
  | timer now =>
    unfold Notifier.step
    dsimp only
    split
    · exact invariant_flush inv now
    · exact inv
  | advance => exact invariant_advance inv
  | settle fails => exact invariant_settle inv fails

theorem owes_flush (owes : Owes s marker) (now : Int) : Owes (s.flush now) marker := by
  unfold NotifierState.flush
  split
  · exact ⟨owes.owed⟩
  · rcases owes.owed with ⟨rfl, pending⟩ | ⟨rfl, pending⟩ | ⟨job, mem, writes⟩ | left
    · refine ⟨.inr (.inr (.inl ⟨_, List.mem_concat_self, ?_⟩))⟩
      exact FlushJob.mem_writes.mpr (.inl ⟨rfl, pending⟩)
    · refine ⟨.inr (.inr (.inl ⟨_, List.mem_concat_self, ?_⟩))⟩
      exact FlushJob.mem_writes.mpr (.inr ⟨rfl, pending⟩)
    · exact ⟨.inr (.inr (.inl ⟨job, List.mem_append_left _ mem, writes⟩))⟩
    · exact ⟨.inr (.inr (.inr left))⟩

/-- A request owes a write, of the hydration marker where it asks for it, and keeps what is owed. -/
theorem owes_request {interval : Nat} {now flushNow : Int} {hydration : Bool}
    (asks : Owes s marker ∨ marker = .dashboard ∨ marker = .hydration ∧ hydration = true) :
    Owes (s.request interval now flushNow hydration) marker := by
  have pending : Owes { s with dashboardPending := true, hydrationPending := s.hydrationPending || hydration }
      marker := by
    rcases asks with ⟨⟨rfl, -⟩ | ⟨rfl, before⟩ | queued | left⟩ | rfl | ⟨rfl, rfl⟩
    · exact ⟨.inl ⟨rfl, rfl⟩⟩
    · exact ⟨.inr (.inl ⟨rfl, by simp [before]⟩)⟩
    · exact ⟨.inr (.inr (.inl queued))⟩
    · exact ⟨.inr (.inr (.inr left))⟩
    · exact ⟨.inl ⟨rfl, rfl⟩⟩
    · exact ⟨.inr (.inl ⟨rfl, by simp⟩)⟩
  unfold NotifierState.request
  dsimp only
  split
  · exact owes_flush pending flushNow
  · split
    · exact ⟨pending.owed⟩
    · exact pending

theorem owes_advance (owes : Owes s marker) : Owes s.advance marker ∨ s.advance.begun = s.begun ++ [marker] := by
  unfold NotifierState.advance
  split
  · exact .inl owes
  · next first rest _ running =>
    rcases owes.owed with pending | pending | queued | ⟨left, here, mem⟩
    · exact .inl ⟨.inl pending⟩
    · exact .inl ⟨.inr (.inl pending)⟩
    · exact .inl ⟨.inr (.inr (.inl queued))⟩
    · obtain rfl := Option.mem_unique running here
      rcases List.mem_cons.mp mem with rfl | later
      · exact .inr rfl
      · exact .inl ⟨.inr (.inr (.inr ⟨rest, rfl, later⟩))⟩
  · next _ running =>
    rcases owes.owed with pending | pending | queued | ⟨left, here, mem⟩
    · exact .inl ⟨.inl pending⟩
    · exact .inl ⟨.inr (.inl pending)⟩
    · exact .inl ⟨.inr (.inr (.inl queued))⟩
    · obtain rfl := Option.mem_unique running here
      exact absurd mem List.not_mem_nil
  · next job queue _ running waiting =>
    rcases owes.owed with pending | pending | ⟨other, mem, writes⟩ | ⟨left, here, -⟩
    · exact .inl ⟨.inl pending⟩
    · exact .inl ⟨.inr (.inl pending)⟩
    · rw [waiting] at mem
      rcases List.mem_cons.mp mem with rfl | later
      · exact .inl ⟨.inr (.inr (.inr ⟨_, rfl, writes⟩))⟩
      · exact .inl ⟨.inr (.inr (.inl ⟨other, later, writes⟩))⟩
    · exact nomatch running.symm.trans here
  · exact .inl owes

/-- A step keeps what is owed until it begins it, unless a write fails ahead of it. -/
theorem owes_step (owes : Owes s marker) (e : NotifierEvent) (kept : ¬ Loses marker s e) :
    Owes (N.step s e) marker ∨ (N.step s e).begun = s.begun ++ [marker] := by
  cases e with
  | request now flushNow hydration => exact .inl (owes_request (.inl owes))
  | flush now => exact .inl (owes_flush owes now)
  | timer now =>
    left
    unfold Notifier.step
    dsimp only
    split
    · exact owes_flush owes now
    · exact owes
  | advance => exact owes_advance owes
  | settle fails =>
    left
    unfold Notifier.step
    dsimp only [NotifierState.settle]
    split
    · exact owes
    · next written writing =>
      rcases owes.owed with pending | pending | queued | left
      · exact ⟨.inl pending⟩
      · exact ⟨.inr (.inl pending)⟩
      · exact ⟨.inr (.inr (.inl queued))⟩
      · cases fails with
        | false => exact ⟨.inr (.inr (.inr left))⟩
        | true => exact absurd ⟨rfl, by simp [writing], left⟩ kept

theorem begun_step (e : NotifierEvent) : ∃ more, (N.step s e).begun = s.begun ++ more := by
  have flush (s : NotifierState) (now : Int) : (s.flush now).begun = s.begun := by
    unfold NotifierState.flush
    split <;> rfl
  cases e with
  | request now flushNow hydration =>
    refine ⟨[], ?_⟩
    rw [List.append_nil]
    change (s.request _ _ _ _).begun = _
    unfold NotifierState.request
    dsimp only
    split
    · exact flush _ _
    · split <;> rfl
  | flush now => exact ⟨[], (flush s now).trans (List.append_nil _).symm⟩
  | timer now =>
    refine ⟨[], ?_⟩
    rw [List.append_nil]
    unfold Notifier.step
    dsimp only
    split
    · exact flush s now
    · rfl
  | advance =>
    change ∃ more, s.advance.begun = _
    unfold NotifierState.advance
    split
    · exact ⟨[], (List.append_nil _).symm⟩
    · exact ⟨_, rfl⟩
    · exact ⟨[], (List.append_nil _).symm⟩
    · exact ⟨[], (List.append_nil _).symm⟩
    · exact ⟨[], (List.append_nil _).symm⟩
  | settle fails =>
    refine ⟨[], ?_⟩
    rw [List.append_nil]
    change (s.settle fails).begun = _
    unfold NotifierState.settle
    split <;> rfl

/-! ## A run -/

/-- A write of a marker began between two states, or is owed in the second one. -/
def WrittenOrOwed (s later : NotifierState) (marker : Marker) : Prop :=
  ∃ more, later.begun = s.begun ++ more ∧ (marker ∈ more ∨ Owes later marker)

theorem begun_run (events : List NotifierEvent) : ∃ more, (run N.step s events).begun = s.begun ++ more := by
  induction events generalizing s with
  | nil => exact ⟨[], (List.append_nil _).symm⟩
  | cons e events ih =>
    obtain ⟨more, first⟩ := begun_step (N := N) (s := s) e
    obtain ⟨later, rest⟩ := ih (s := N.step s e)
    refine ⟨more ++ later, ?_⟩
    rw [run_cons, rest, first, List.append_assoc]

variable {events : List NotifierEvent}

theorem writtenOrOwed_run (owes : Owes s marker) (kept : Along N.step (fun s e => ¬ Loses marker s e) s events) :
    WrittenOrOwed s (run N.step s events) marker := by
  induction events generalizing s with
  | nil => exact ⟨[], (List.append_nil _).symm, .inr owes⟩
  | cons e events ih =>
    obtain ⟨here, later⟩ := kept
    rcases owes_step owes e here with still | begins
    · obtain ⟨more, first⟩ := begun_step (N := N) (s := s) e
      obtain ⟨after, rest, or⟩ := ih still later
      refine ⟨more ++ after, ?_, or.imp (List.mem_append_right _) id⟩
      rw [run_cons, rest, first, List.append_assoc]
    · obtain ⟨after, rest⟩ := begun_run (N := N) (s := N.step s e) events
      refine ⟨[marker] ++ after, ?_, .inl (by simp)⟩
      rw [run_cons, rest, begins, List.append_assoc]

/-- A dashboard write fails in a flush that is to write the hydration marker, too. -/
def DashboardFails (s : NotifierState) (e : NotifierEvent) : Prop :=
  e = .settle true ∧ s.writing = some .dashboard ∧ ∃ rest, s.running = some rest ∧ Marker.hydration ∈ rest

theorem loses_iff (inv : NotifierInvariant N s) : Loses marker s e ↔ marker = .hydration ∧ DashboardFails s e := by
  constructor
  · rintro ⟨rfl, writes, rest, running, mem⟩
    obtain ⟨first, writing⟩ := Option.isSome_iff_exists.mp writes
    obtain ⟨others, running', behind⟩ := inv.running first writing
    obtain rfl := Option.mem_unique running running'
    rcases behind with rfl | ⟨rfl, rfl⟩
    · exact absurd mem List.not_mem_nil
    · exact ⟨List.mem_singleton.mp mem, rfl, writing, _, running, List.mem_singleton_self _⟩
  · rintro ⟨rfl, rfl, writing, rest, running, mem⟩
    exact ⟨rfl, by simp [writing], rest, running, mem⟩

theorem invariant_start : NotifierInvariant N {} := ⟨by simp, nofun, nofun, nofun⟩

theorem invariant_run (events : List NotifierEvent) : NotifierInvariant N (run N.step {} events) :=
  run_invariant (I := NotifierInvariant N) (fun _ e inv => invariant_step inv e) invariant_start events

theorem dashboard_run (inv : NotifierInvariant N s) (owes : Owes s .dashboard) (events : List NotifierEvent) :
    WrittenOrOwed s (run N.step s events) .dashboard := by
  refine writtenOrOwed_run owes ((along_iff_split s events).mpr ?_)
  intro before e after _ loses
  have kept := run_invariant (I := NotifierInvariant N) (fun _ e inv => invariant_step inv e) inv before
  exact nomatch ((loses_iff kept).mp loses).1

/-- A hydration write that is owed is not lost where no dashboard write fails ahead of it. -/
theorem hydration_run (inv : NotifierInvariant N s) (owes : Owes s .hydration)
    (kept : Along N.step (fun s e => ¬ DashboardFails s e) s events) :
    WrittenOrOwed s (run N.step s events) .hydration := by
  refine writtenOrOwed_run owes ((along_iff_split s events).mpr ?_)
  intro before e after split loses
  have reached := run_invariant (I := NotifierInvariant N) (fun _ e inv => invariant_step inv e) inv before
  exact (along_iff_split s events).mp kept before e after split ((loses_iff reached).mp loses).2

/-! ## Distance -/

def Spaced (N : Notifier) (s : NotifierState) : Prop :=
  s.flushedAt.IsChain fun (first second : Int) => first + N.interval ≤ second

/-- The clock does not go back within a request, the timer does not fire early, and nobody else flushes. -/
def Punctual (s : NotifierState) : NotifierEvent → Prop
  | .request now flushNow _ => now ≤ flushNow
  | .timer now => ∀ deadline, s.timer = some deadline → deadline ≤ now
  | .flush _ => False
  | .advance | .settle _ => True

theorem spaced_flush (spaced : Spaced N s) {now : Int}
    (late : ∀ last, s.flushedAt.getLast? = some last → last + N.interval ≤ now) : Spaced N (s.flush now) := by
  unfold NotifierState.flush Spaced
  split
  · exact spaced
  · rw [List.isChain_append]
    refine ⟨spaced, List.isChain_singleton _, ?_⟩
    rintro last lastMem next ⟨⟩
    exact late last lastMem

theorem spaced_step (inv : NotifierInvariant N s) (spaced : Spaced N s) (punctual : Punctual s e) :
    Spaced N (N.step s e) := by
  cases e with
  | request now flushNow hydration =>
    change Spaced N (s.request _ _ _ _)
    unfold NotifierState.request
    dsimp only
    split
    · next passed =>
      refine spaced_flush (s := { s with
        dashboardPending := true, hydrationPending := s.hydrationPending || hydration }) spaced ?_
      intro last there
      dsimp only at there
      simp only [waitMs, there] at passed
      have ordered : now ≤ flushNow := punctual
      omega
    · split
      · exact spaced
      · exact spaced
  | flush now => exact punctual.elim
  | timer now =>
    unfold Notifier.step
    dsimp only
    split
    · next armed =>
      obtain ⟨deadline, there⟩ := Option.isSome_iff_exists.mp armed
      apply spaced_flush spaced
      intro last lastThere
      obtain ⟨other, otherThere, rfl⟩ := inv.deadline deadline there
      obtain rfl := Option.mem_unique lastThere otherThere
      exact punctual _ there
    · exact spaced
  | advance =>
    change Spaced N s.advance
    unfold NotifierState.advance
    split <;> exact spaced
  | settle fails =>
    change Spaced N (s.settle fails)
    unfold NotifierState.settle
    split <;> exact spaced

theorem spaced_run (punctual : Along N.step Punctual {} events) : Spaced N (run N.step {} events) := by
  have both : NotifierInvariant N (run N.step {} events) ∧ Spaced N (run N.step {} events) :=
    run_invariant_along (I := fun s => NotifierInvariant N s ∧ Spaced N s)
      (fun s e kept punctual => ⟨invariant_step kept.1 e, spaced_step kept.1 kept.2 punctual⟩)
      ⟨invariant_start, List.isChain_nil⟩ punctual
  exact both.2

/-! ## Progress -/

/-- An event of the notifier itself: the timer fires, or the chain goes on. -/
def NotifierEvent.isOwn : NotifierEvent → Bool
  | .request _ _ _ | .flush _ => false
  | .timer _ | .advance | .settle _ => true

/-- How many steps the chain has left at most, with those of a flush that the timer starts. -/
def work (s : NotifierState) : Nat :=
  (if s.timer.isSome then 7 else 0) + (s.queue.map fun job => 2 * job.writes.length + 2).sum +
    (match s.running with
      | none => 0
      | some rest => 2 * rest.length + 1) + if s.writing.isSome then 1 else 0

theorem FlushJob.length_writes_le (job : FlushJob) : job.writes.length ≤ 2 := by
  unfold FlushJob.writes
  cases job.dashboard <;> cases job.hydration <;> decide

theorem work_flush (armed : s.timer.isSome) (now : Int) : work (s.flush now) < work s := by
  unfold NotifierState.flush
  split
  · simp [work, armed]
  · have few := FlushJob.length_writes_le ⟨s.dashboardPending, s.hydrationPending⟩
    simp only [work, armed, List.map_append, List.sum_append, List.map_singleton, List.sum_singleton]
    simp
    omega

theorem work_step (inv : NotifierInvariant N s) (own : e.isOwn = true) : N.step s e = s ∨ work (N.step s e) < work s := by
  cases e with
  | request now flushNow hydration => exact nomatch own
  | flush now => exact nomatch own
  | timer now =>
    unfold Notifier.step
    dsimp only
    split
    · next armed => exact .inr (work_flush armed now)
    · exact .inl rfl
  | advance =>
    change s.advance = s ∨ work s.advance < work s
    unfold NotifierState.advance
    split
    · exact .inl rfl
    · next writing running =>
      right
      simp [work, writing, running]
      omega
    · next writing running =>
      right
      simp [work, writing, running]
    · next writing running waiting =>
      right
      simp [work, writing, running, waiting]
      omega
    · exact .inl rfl
  | settle fails =>
    change s.settle fails = s ∨ work (s.settle fails) < work s
    unfold NotifierState.settle
    split
    · exact .inl rfl
    · next written writing =>
      right
      obtain ⟨rest, running, -⟩ := inv.running written writing
      cases fails <;> simp [work, writing, running]

def Quiet (s : NotifierState) : Prop :=
  s.timer = none ∧ s.queue = [] ∧ s.running = none ∧ s.writing = none

theorem quiet_iff : Quiet s ↔ ∀ e, e.isOwn = true → N.step s e = s := by
  constructor
  · rintro ⟨timer, queue, running, writing⟩ e own
    cases e with
    | request now flushNow hydration => exact nomatch own
    | flush now => exact nomatch own
    | timer now => simp [Notifier.step, timer]
    | advance => simp [Notifier.step, NotifierState.advance, queue, running, writing]
    | settle fails => simp [Notifier.step, NotifierState.settle, writing]
  · intro still
    have timer : s.timer = none := by
      by_contra some
      have armed : s.timer.isSome := Option.isSome_iff_ne_none.mpr some
      have fired := still (.timer 0) rfl
      rw [Notifier.step, if_pos armed] at fired
      exact absurd (congrArg work fired) (work_flush armed 0).ne
    have writing : s.writing = none := by
      have settled := congrArg NotifierState.writing (still (.settle false) rfl)
      cases here : s.writing with
      | none => rfl
      | some first => simp [Notifier.step, NotifierState.settle, here] at settled
    have advanced := still .advance rfl
    simp only [Notifier.step, NotifierState.advance, writing] at advanced
    cases running : s.running with
    | some rest =>
      cases rest with
      | nil => simpa [running] using congrArg NotifierState.running advanced
      | cons first rest => simpa [running, writing] using congrArg NotifierState.writing advanced
    | none =>
      cases queue : s.queue with
      | cons job jobs => simpa [running, queue] using congrArg NotifierState.queue advanced
      | nil => exact ⟨timer, queue, running, writing⟩

theorem not_owes_of_quiet (inv : NotifierInvariant N s) (quiet : Quiet s) : ¬ Owes s marker := by
  obtain ⟨timer, queue, running, writing⟩ := quiet
  have idle : ¬ (s.dashboardPending = true ∨ s.hydrationPending = true) := fun pending => by
    simpa [timer] using inv.armed pending
  rintro ⟨⟨-, pending⟩ | ⟨-, pending⟩ | ⟨job, mem, -⟩ | ⟨rest, here, -⟩⟩
  · exact idle (.inl pending)
  · exact idle (.inr pending)
  · rw [queue] at mem
    exact absurd mem List.not_mem_nil
  · exact nomatch running.symm.trans here

/-! ## The law -/

/-- What is said of a run: each request is followed by a write that begins after it, of the hydration marker too where
it asks for it, or owes it; in a punctual run the flushes keep their distance; and the notifier's own steps come to an
end, where nothing is owed. -/
structure Delivers (N : Notifier) (events : List NotifierEvent) : Prop where
  dashboard : ∀ before now flushNow hydration after,
    events = before ++ .request now flushNow hydration :: after →
      WrittenOrOwed (run N.step {} (before ++ [.request now flushNow hydration])) (run N.step {} events) .dashboard
  hydration : ∀ before now flushNow after, events = before ++ .request now flushNow true :: after →
    WrittenOrOwed (run N.step {} (before ++ [.request now flushNow true])) (run N.step {} events) .hydration
  spaced : Along N.step Punctual {} events → Spaced N (run N.step {} events)
  works : ∀ e, e.isOwn = true → N.step (run N.step {} events) e = run N.step {} events ∨
    work (N.step (run N.step {} events) e) < work (run N.step {} events)
  settles : (∀ e, e.isOwn = true → N.step (run N.step {} events) e = run N.step {} events) →
    ∀ marker, ¬ Owes (run N.step {} events) marker

variable (before : List NotifierEvent)

theorem owes_of_request (now flushNow : Int) {hydration : Bool}
    (asks : marker = .dashboard ∨ marker = .hydration ∧ hydration = true) :
    Owes (run N.step {} (before ++ [.request now flushNow hydration])) marker := by
  rw [run_concat]
  exact owes_request (.inr asks)

theorem run_split {step : NotifierState → NotifierEvent → NotifierState} (e : NotifierEvent)
    (after : List NotifierEvent) :
    run step {} (before ++ e :: after) = run step (run step {} (before ++ [e])) after := by
  rw [← run_append, List.append_assoc]
  rfl

/-- **No request is lost.** In every run in which no dashboard write fails in a flush that is to write the hydration
marker, too, each request is followed by the writes it asks for or owes them, flushes keep their distance, and what is
owed is begun by the notifier's own steps. -/
theorem notifier_delivers (N : Notifier) (events : List NotifierEvent)
    (kept : Along N.step (fun s e => ¬ DashboardFails s e) {} events) : Delivers N events where
  dashboard := by
    rintro before now flushNow hydration after rfl
    rw [run_split before _ after]
    exact dashboard_run (invariant_run _) (owes_of_request before now flushNow (.inl rfl)) after
  hydration := by
    rintro before now flushNow after rfl
    rw [run_split before _ after]
    refine hydration_run (invariant_run _) (owes_of_request before now flushNow (.inr ⟨rfl, rfl⟩)) ?_
    rw [← List.singleton_append, ← List.append_assoc, along_append] at kept
    exact kept.2
  spaced := spaced_run
  works e own := work_step (invariant_run events) own
  settles still marker := not_owes_of_quiet (invariant_run events) (quiet_iff.mpr still)

def workerNotifier : Notifier where
  dashboardMarker := "/runtime/dashboard"
  hydrationMarker := "/runtime/hydration"
  interval := 30000
  dashboardMarker_given := by decide
  hydrationMarker_given := by decide
  interval_low := by decide
  interval_high := by decide

/-- A request whose writes succeed, and one more in the same interval. -/
def calmEvents : List NotifierEvent :=
  [.request 0 0 true, .advance, .advance, .settle false, .request 1000 1000 true, .advance, .settle true]

theorem calm_delivers : Delivers workerNotifier calmEvents := by
  refine notifier_delivers workerNotifier calmEvents ?_
  simp [calmEvents, DashboardFails, Notifier.step, NotifierState.request, NotifierState.flush, NotifierState.advance,
    NotifierState.settle, waitMs, FlushJob.writes, workerNotifier]

/-- A request for hydration whose dashboard write fails. -/
def failedEvents : List NotifierEvent := [.request 0 0 true, .advance, .advance, .settle true, .advance]

/-- **A failed dashboard write loses the hydration marker.** Nothing is left to do, and it was never written. -/
theorem failed_loses_hydration : ¬ ∀ N events, Delivers N events := by
  intro claimed
  have delivers := claimed workerNotifier failedEvents
  obtain ⟨more, begun, written⟩ := delivers.hydration [] 0 0 [.advance, .advance, .settle true, .advance] rfl
  have final : run workerNotifier.step {} failedEvents = { flushedAt := [0], begun := [.dashboard] } := by
    decide
  have first : (run workerNotifier.step {} ([] ++ [.request 0 0 true])).begun = [] := by decide
  rw [final, first] at begun
  rcases written with mem | owes
  · rw [← show [Marker.dashboard] = more from begun] at mem
    exact absurd mem (by decide)
  · refine not_owes_of_quiet (invariant_run failedEvents) ?_ owes
    rw [final]
    exact ⟨rfl, rfl, rfl, rfl⟩

end FullManagedBi.Webhook
