import FullManagedBi.Server.LoginLimiter

/-!
# What the limits of logins limit

A reservation is held by a call between its two steps, and for a moment inside a step: `LimiterInvariant` says what
holds while one is held. Reserving hands it out (`reserveRateLimit_invariant`), and completing takes it back
(`complete_invariant`). `WindowsApart` is about time: a window that gave way to another one has passed, or no
verification began in it, or one of them succeeded or threw.
-/

namespace FullManagedBi.Server

open Lib

variable {L : LoginLimits} {s : LimiterState} {key : String} {now : Int} {window other : Nat}

/-! ## Windows -/

variable {state : AttemptWindow}

@[simp] theorem setWindow_self : (s.setWindow window state).windows window = state :=
  Function.update_self _ _ _

theorem setWindow_of_ne (ne : other ≠ window) :
    (s.setWindow window state).windows other = s.windows other := Function.update_of_ne ne _ _

@[simp] theorem setWindow_attempts : (s.setWindow window state).attempts = s.attempts := rfl

theorem setWindow_key (same : state.key = (s.windows window).key) (other : Nat) :
    ((s.setWindow window state).windows other).key = (s.windows other).key := by
  by_cases here : other = window
  · rw [here, setWindow_self, same]
  · rw [setWindow_of_ne here]

/-! ## The invariant -/

/-- The verifications of a window that have not settled. -/
def callsIn (s : LimiterState) (window : Nat) : Nat := (s.calls.filter (·.window = window)).length

def IsCurrent (s : LimiterState) (window : Nat) : Prop := s.attempts.get? (s.windows window).key = some window

/-- What holds of a window with so many verifications in flight, and so many reservations held, `early` of them for
verifications that have not begun or that are noted as errors. -/
structure WindowInvariant (L : LoginLimits) (calls : Nat) (current : Prop) (held early : Nat) (state : AttemptWindow) :
    Prop where
  inFlight : state.inFlight = calls + held
  counted : state.count + state.inFlight ≤ L.rateLimitMaxAttempts
  current : current → state.started + early = state.count + state.inFlight + state.errors
  started : state.started ≤ L.rateLimitMaxAttempts + state.errors

structure LimiterFrame (L : LoginLimits) (s : LimiterState) (P : Nat → Prop) : Prop where
  known : ∀ key window, s.attempts.get? key = some window → window < s.next ∧ (s.windows window).key = key
  opened : ∀ call ∈ s.calls, call.window < s.next ∧ (s.windows call.window).key = call.key
  windows : ∀ window, P window → WindowInvariant L (callsIn s window) (IsCurrent s window) 0 0 (s.windows window)
  unopened : ∀ window, s.next ≤ window → s.windows window = {}
  kdfs : s.activeKdfs = s.calls.length
  bound : s.calls.length ≤ L.maxConcurrentKdfs

abbrev LimiterInvariant (L : LoginLimits) (s : LimiterState) : Prop := LimiterFrame L s fun _ => True

/-- The invariant, with a reservation held in a window. -/
structure Holding (L : LoginLimits) (s : LimiterState) (window early : Nat) : Prop where
  frame : LimiterFrame L s (· ≠ window)
  opened : window < s.next
  held : WindowInvariant L (callsIn s window) (IsCurrent s window) 1 early (s.windows window)

theorem invariant_start : LimiterInvariant L {} where
  known := nofun
  opened := nofun
  windows _ _ := ⟨rfl, Nat.zero_le _, nofun, Nat.zero_le _⟩
  unopened _ _ := rfl
  kdfs := rfl
  bound := Nat.zero_le _

theorem WindowInvariant.imp {calls held early : Nat} {current current' : Prop}
    (inv : WindowInvariant L calls current held early state) (imp : current' → current) :
    WindowInvariant L calls current' held early state :=
  ⟨inv.inFlight, inv.counted, fun here => inv.current (imp here), inv.started⟩

theorem LimiterFrame.setWindow {P Q : Nat → Prop} (inv : LimiterFrame L s P)
    (opened : window < s.next) (same : state.key = (s.windows window).key)
    (window_ : Q window → WindowInvariant L (callsIn s window) (IsCurrent s window) 0 0 state)
    (others : ∀ other, other ≠ window → Q other → P other) : LimiterFrame L (s.setWindow window state) Q where
  known key other found := by
    rw [setWindow_key same]
    exact inv.known key other found
  opened call mem := by
    rw [setWindow_key same]
    exact inv.opened call mem
  windows other q := by
    have current : IsCurrent (s.setWindow window state) other ↔ IsCurrent s other := by
      unfold IsCurrent
      rw [setWindow_key same, setWindow_attempts]
    by_cases here : other = window
    · subst here
      rw [setWindow_self]
      exact (window_ q).imp current.mp
    · rw [setWindow_of_ne here]
      exact (inv.windows other (others other here q)).imp current.mp
  unopened other far := by
    have ne : other ≠ window := fun here => absurd opened (not_lt.mpr (here ▸ far))
    rw [setWindow_of_ne ne]
    exact inv.unopened other far
  kdfs := inv.kdfs
  bound := inv.bound

theorem LimiterFrame.forget {P : Nat → Prop} (inv : LimiterFrame L s P) (key : String) :
    LimiterFrame L (s.forget key) P := by
  have found {other : String} {window : Nat} (here : (s.attempts.delete key).get? other = some window) :
      s.attempts.get? other = some window := by
    rw [OrderedMap.get?_delete] at here
    split at here
    · exact nomatch here
    · exact here
  exact { inv with
    known := fun other window here => inv.known other window (found here)
    windows := fun window p => (inv.windows window p).imp found }

/-! ## Reserving -/

theorem pruneAttempts_invariant (inv : LimiterInvariant L s) (now : Int) : LimiterInvariant L (pruneAttempts L s now) := by
  unfold pruneAttempts
  split
  · exact inv
  · have found {key : String} {window : Nat}
        (here : (s.attempts.filter fun window => now < (s.windows window).resetAt).get? key = some window) :
        s.attempts.get? key = some window := by
      rw [OrderedMap.get?_filter] at here
      exact (Option.filter_eq_some_iff.mp here).1
    exact { inv with
      known := fun key window here => inv.known key window (found here)
      windows := fun window p => (inv.windows window p).imp found }

theorem callsIn_of_unopened (inv : LimiterInvariant L s) (fresh : s.next ≤ window) : callsIn s window = 0 := by
  have zero := (inv.windows window trivial).inFlight
  rw [inv.unopened window fresh] at zero
  exact zero.symm

theorem openWindow_invariant (inv : LimiterInvariant L s) (key : String) (now : Int) :
    LimiterInvariant L (openWindow L s key now) := by
  have opened {other : Nat} (below : other < s.next) : (openWindow L s key now).windows other = s.windows other :=
    setWindow_of_ne below.ne
  have new : (openWindow L s key now).windows s.next =
      { key, openedAt := now, resetAt := now + L.rateLimitWindowMs } := setWindow_self
  have found {other : String} {window : Nat} (here : (openWindow L s key now).attempts.get? other = some window) :
      (other = key ∧ window = s.next) ∨ s.attempts.get? other = some window := by
    rw [openWindow, setWindow_attempts, OrderedMap.get?_set] at here
    split at here
    · next same => exact .inl ⟨same, (Option.some.inj here).symm⟩
    · exact .inr here
  constructor
  · intro other window here
    rcases found here with ⟨rfl, rfl⟩ | before
    · exact ⟨Nat.lt_succ_self _, by rw [new]⟩
    · obtain ⟨below, same⟩ := inv.known other window before
      exact ⟨Nat.lt_succ_of_lt below, by rw [opened below, same]⟩
  · intro call mem
    obtain ⟨below, same⟩ := inv.opened call mem
    exact ⟨Nat.lt_succ_of_lt below, by rw [opened below, same]⟩
  · intro window _
    rcases lt_trichotomy window s.next with below | rfl | above
    · unfold IsCurrent
      rw [opened below]
      refine (inv.windows window trivial).imp fun here => ?_
      rcases found here with ⟨-, rfl⟩ | before
      · exact absurd below (lt_irrefl _)
      · exact before
    · rw [new]
      exact ⟨(callsIn_of_unopened inv le_rfl).symm, Nat.zero_le _, fun _ => rfl, Nat.zero_le _⟩
    · have far : (openWindow L s key now).windows window = {} :=
        (setWindow_of_ne above.ne').trans (inv.unopened window above.le)
      rw [far]
      refine ⟨(callsIn_of_unopened inv above.le).symm, Nat.zero_le _, fun _ => rfl, Nat.zero_le _⟩
  · intro window above
    exact (setWindow_of_ne (Nat.ne_of_gt above)).trans (inv.unopened window (Nat.le_of_succ_le above))
  · exact inv.kdfs
  · exact inv.bound

/-- What reserving comes to: a reservation in the window of the client, or nothing. -/
def Reserves (L : LoginLimits) (key : String) : LimiterState × Except LoginStart Nat → Prop
  | (s, .ok window) => Holding L s window 1 ∧ s.attempts.get? key = some window
  | (s, .error _) => LimiterInvariant L s

theorem reserveIn_invariant (inv : LimiterInvariant L s) (here : s.attempts.get? key = some window) (now : Int) :
    Reserves L key (reserveIn L s window now) := by
  obtain ⟨opened, keyed⟩ := inv.known key window here
  obtain ⟨inFlight, counted, current, started⟩ := inv.windows window trivial
  unfold reserveIn
  dsimp only
  split
  · next room =>
    refine ⟨⟨inv.setWindow opened rfl (fun absurd_ => absurd rfl absurd_) fun _ _ _ => trivial, opened, ?_⟩, here⟩
    rw [setWindow_self]
    refine ⟨congrArg (· + 1) inFlight, room, fun _ => ?_, started⟩
    have before := current (by rw [IsCurrent, keyed]; exact here)
    dsimp only
    omega
  · exact inv

/-- Reserving hands out a reservation in the window of the client, or nothing. -/
theorem reserveRateLimit_invariant (inv : LimiterInvariant L s) (key : String) (now : Int) :
    Reserves L key (reserveRateLimit L s key now) := by
  have pruned := pruneAttempts_invariant inv now
  unfold reserveRateLimit
  dsimp only
  split
  · next window current => exact reserveIn_invariant pruned (Option.filter_eq_some_iff.mp current).1 now
  · split
    · exact pruned
    · refine reserveIn_invariant (openWindow_invariant pruned key now) ?_ now
      rw [openWindow, setWindow_attempts, OrderedMap.get?_set, if_pos rfl]

/-! ## Completing -/

/-- Completing takes a reservation back: a failure counts instead of it, and a release is for one whose verification has
not begun or is noted as an error. -/
theorem complete_invariant {early : Nat} (holds : Holding L s window early) (keyed : (s.windows window).key = key)
    (outcome : Settlement) (fits : outcome = .failure ∧ early = 0 ∨ outcome = .release ∧ early = 1 ∨
      outcome = .success) : LimiterInvariant L (completeRateLimitReservation s key window outcome) := by
  obtain ⟨frame, opened, inFlight, counted, current, started⟩ := holds
  have taken (gone : ¬ IsCurrent s window ∨ early = 1) : LimiterInvariant L (s.setWindow window
      { s.windows window with inFlight := (s.windows window).inFlight - 1 }) := by
    refine frame.setWindow opened rfl (fun _ => ⟨?_, ?_, ?_, started⟩) fun other ne _ => ne
    · dsimp only
      omega
    · dsimp only
      omega
    · intro here
      have before := current here
      rcases gone with orphan | rfl
      · exact absurd here orphan
      · dsimp only
        omega
  have forgotten : LimiterInvariant L ((s.setWindow window
      { s.windows window with inFlight := (s.windows window).inFlight - 1 }).forget key) := by
    have taken : LimiterFrame L (s.setWindow window
        { s.windows window with inFlight := (s.windows window).inFlight - 1 }) (· ≠ window) :=
      frame.setWindow opened rfl (fun absurd_ => absurd rfl absurd_) fun other ne _ => ne
    have others := taken.forget key
    refine { others with windows := fun other _ => ?_ }
    by_cases here : other = window
    · subst here
      change WindowInvariant L _ _ 0 0 ((s.setWindow other _).windows other)
      rw [setWindow_self]
      refine ⟨?_, ?_, ?_, started⟩
      · dsimp only
        change _ = callsIn s other + 0
        omega
      · dsimp only
        omega
      · intro is
        have gone : (s.attempts.delete key).get? key = some other := by
          have found : (s.attempts.delete key).get? ((s.setWindow other
            { s.windows other with inFlight := (s.windows other).inFlight - 1 }).windows other).key = some other := is
          rwa [setWindow_self, keyed] at found
        rw [OrderedMap.get?_delete, if_pos rfl] at gone
        exact nomatch gone
    · exact others.windows other here
  unfold completeRateLimitReservation
  dsimp only
  split
  · next orphan => exact taken (.inl (by rwa [IsCurrent, keyed]))
  · next there =>
    rcases fits with ⟨rfl, rfl⟩ | ⟨rfl, rfl⟩ | rfl
    · refine frame.setWindow opened rfl (fun _ => ⟨?_, ?_, ?_, started⟩) fun other ne _ => ne
      · dsimp only
        omega
      · dsimp only
        omega
      · intro here
        have before := current here
        dsimp only
        omega
    · dsimp only
      split
      · exact forgotten
      · exact taken (.inr rfl)
    · exact forgotten

/-! ## The two steps of a call -/

/-- A verification begins with the reservation, or the reservation is released. -/
theorem beginVerification_invariant (holds : Holding L s window 1) (here : s.attempts.get? key = some window)
    {username : Option Json} (readable : (usernameText username).isSome) (password : Option Json) :
    LimiterInvariant L (beginVerification L s key window username password).1 := by
  have keyed := (holds.frame.known key window here).2
  unfold beginVerification
  split
  · exact complete_invariant holds keyed .release (.inr (.inl ⟨rfl, rfl⟩))
  · next room =>
    obtain ⟨text, named⟩ := Option.isSome_iff_exists.mp readable
    rw [named]
    dsimp only
    obtain ⟨frame, opened, inFlight, counted, current, started⟩ := holds
    have calls (other : Nat) : callsIn { s with
        activeKdfs := s.activeKdfs + 1, calls := s.calls ++ [verificationOf L key window text password] } other =
          callsIn s other + if window = other then 1 else 0 := by
      by_cases at_ : window = other
      · simp [callsIn, verificationOf, at_]
      · simp [callsIn, verificationOf, at_]
    have began : LimiterFrame L { s with
        activeKdfs := s.activeKdfs + 1, calls := s.calls ++ [verificationOf L key window text password] }
        (· ≠ window) := {
      known := frame.known
      opened := by
        intro call mem
        rcases mem_concat.mp mem with before | rfl
        · exact frame.opened call before
        · exact ⟨opened, keyed⟩
      windows := by
        intro other ne
        rw [calls, if_neg fun same => ne same.symm]
        exact frame.windows other ne
      unopened := frame.unopened
      kdfs := by
        have same := frame.kdfs
        simp only [List.length_append, List.length_singleton]
        omega
      bound := by
        have same := frame.kdfs
        simp only [List.length_append, List.length_singleton]
        omega }
    refine began.setWindow opened rfl (fun _ => ?_) fun other ne _ => ne
    have before := current (by rw [IsCurrent, keyed]; exact here)
    rw [calls, if_pos rfl]
    refine ⟨inFlight, counted, fun _ => ?_, ?_⟩
    · dsimp only
      omega
    · dsimp only
      omega

/-- A call keeps the invariant, where the text of its user name can be made. -/
theorem authenticate_invariant (inv : LimiterInvariant L s) (key : String) (now : Int) {username : Option Json}
    (readable : (usernameText username).isSome) (password : Option Json) :
    LimiterInvariant L (authenticate L s key now username password).1 := by
  have reserves := reserveRateLimit_invariant inv key now
  unfold authenticate
  match reserveRateLimit L s key now, reserves with
  | (s, .error refused), inv => exact inv
  | (s, .ok window), ⟨holds, here⟩ => exact beginVerification_invariant holds here readable password

variable {index : Nat}

theorem split_of_getElem? {α : Type} {items : List α} {item : α} (there : items[index]? = some item) :
    ∃ front rest, items = front ++ item :: rest ∧ items.eraseIdx index = front ++ rest := by
  obtain ⟨below, same⟩ := List.getElem?_eq_some_iff.mp there
  refine ⟨items.take index, items.drop (index + 1), ?_, List.eraseIdx_eq_take_drop_succ _ _⟩
  rw [← same, List.cons_getElem_drop_succ, List.take_append_drop]

variable {call : Verification}

theorem holding_of_settled (inv : LimiterInvariant L s) (there : s.calls[index]? = some call) :
    Holding L { s with calls := s.calls.eraseIdx index, activeKdfs := s.activeKdfs - 1 } call.window 0 ∧
      (s.windows call.window).key = call.key := by
  obtain ⟨front, rest, split, erased⟩ := split_of_getElem? there
  have mem : call ∈ s.calls := List.mem_of_getElem? there
  obtain ⟨opened, keyed⟩ := inv.opened call mem
  have calls (other : Nat) : callsIn s other = callsIn { s with
      calls := s.calls.eraseIdx index, activeKdfs := s.activeKdfs - 1 } other +
        if call.window = other then 1 else 0 := by
    simp only [callsIn]
    rw [erased, split]
    by_cases at_ : call.window = other
    · simp [at_, Nat.add_assoc]
    · simp [at_]
  refine ⟨⟨?_, opened, ?_⟩, keyed⟩
  · refine ⟨inv.known, ?_, ?_, inv.unopened, ?_, ?_⟩
    · intro other otherMem
      exact inv.opened other (List.mem_of_mem_eraseIdx otherMem)
    · intro other ne
      have before := inv.windows other trivial
      rw [calls, if_neg fun same => ne same.symm] at before
      exact before
    · have same := inv.kdfs
      have length := congrArg List.length split
      simp only [erased, List.length_append, List.length_cons] at length ⊢
      omega
    · exact (List.length_eraseIdx_le _ _).trans inv.bound
  · obtain ⟨inFlight, counted, current, started⟩ := inv.windows call.window trivial
    rw [calls, if_pos rfl] at inFlight
    exact ⟨inFlight, counted, current, started⟩

theorem Holding.note (holds : Holding L s window 0) (state : AttemptWindow) (early : Nat)
    (same : state.key = (s.windows window).key) (inFlight : state.inFlight = (s.windows window).inFlight)
    (count : state.count = (s.windows window).count) (started : state.started = (s.windows window).started)
    (errors : state.errors = (s.windows window).errors + early) : Holding L (s.setWindow window state) window early := by
  obtain ⟨frame, opened, inFlight', counted', current', started'⟩ := holds
  refine ⟨frame.setWindow opened same (fun absurd_ => absurd rfl absurd_) fun other ne _ => ne, opened, ?_⟩
  rw [setWindow_self]
  refine ⟨inFlight.trans inFlight', by omega, ?_, by omega⟩
  intro here
  have before := current' (by
    unfold IsCurrent at here ⊢
    rwa [setWindow_self, setWindow_attempts, same] at here)
  omega

theorem settle_invariant (inv : LimiterInvariant L s) (there : s.calls[index]? = some call) (verified : Option Bool) :
    LimiterInvariant L (settleVerification { s with calls := s.calls.eraseIdx index } call verified) := by
  obtain ⟨holds, keyed⟩ := holding_of_settled inv there
  unfold settleVerification
  cases verified with
  | none =>
    have noted := holds.note { s.windows call.window with errors := (s.windows call.window).errors + 1 } 1
      rfl rfl rfl rfl rfl
    refine complete_invariant noted ?_ .release (.inr (.inl ⟨rfl, rfl⟩))
    rw [setWindow_self]
    exact keyed
  | some passwordMatches =>
    dsimp only
    split
    · have noted := holds.note { s.windows call.window with successes := (s.windows call.window).successes + 1 } 0
        rfl rfl rfl rfl rfl
      refine complete_invariant noted ?_ .success (.inr (.inr rfl))
      rw [setWindow_self]
      exact keyed
    · exact complete_invariant holds keyed .failure (.inl ⟨rfl, rfl⟩)

/-- The text of the user name of a call can be made. -/
def LoginEvent.Readable : LoginEvent → Prop
  | .authenticate _ _ username _ => (usernameText username).isSome
  | .settle _ _ => True

theorem step_invariant (inv : LimiterInvariant L s) {e : LoginEvent} (readable : e.Readable) :
    LimiterInvariant L (L.step s e) := by
  cases e with
  | authenticate key now username password => exact authenticate_invariant inv key now readable password
  | settle index verified =>
    unfold LoginLimits.step
    dsimp only
    split
    · exact inv
    · next call there => exact settle_invariant inv there verified

variable {events : List LoginEvent}

theorem run_invariant_limiter (readable : ∀ e ∈ events, e.Readable) : LimiterInvariant L (run L.step {} events) :=
  run_invariant_along (I := LimiterInvariant L) (G := fun _ (e : LoginEvent) => e.Readable)
    (fun _ _ inv readable => step_invariant inv readable)
    invariant_start (along_of_mem (fun e mem _ => readable e mem) _)

/-! ## Time -/

/-- No verification began in the window, or one of them threw or succeeded. -/
def Spent (state : AttemptWindow) : Prop := state.started = 0 ∨ 0 < state.errors ∨ 0 < state.successes

/-- The windows of a client do not overlap, but for those that are spent: a window that is not the one of its client has
passed at a time. -/
structure WindowsApart (L : LoginLimits) (s : LimiterState) (time : Int) : Prop where
  latest : ∀ key window, s.attempts.get? key = some window → ∀ other, window < other → other < s.next →
    (s.windows other).key ≠ key
  passed : ∀ window, window < s.next → ¬ IsCurrent s window →
    Spent (s.windows window) ∨ (s.windows window).resetAt ≤ time
  apart : ∀ first second, first < second → second < s.next → (s.windows first).key = (s.windows second).key →
    Spent (s.windows first) ∨ (s.windows first).resetAt ≤ (s.windows second).openedAt
  length : ∀ window, window < s.next →
    (s.windows window).resetAt = (s.windows window).openedAt + L.rateLimitWindowMs

variable {time : Int}

theorem WindowsApart.later (apart : WindowsApart L s time) (le : time ≤ now) : WindowsApart L s now :=
  { apart with passed := fun window opened gone => (apart.passed window opened gone).imp_right (le_trans · le) }

/-- A change of a window that keeps its times, and keeps it spent unless it is the window of its client. -/
theorem WindowsApart.setWindow (apart : WindowsApart L s time) (window : Nat) (state : AttemptWindow)
    (key_eq : state.key = (s.windows window).key) (openedAt_eq : state.openedAt = (s.windows window).openedAt)
    (resetAt_eq : state.resetAt = (s.windows window).resetAt)
    (spent : IsCurrent s window ∨ (Spent (s.windows window) → Spent state)) :
    WindowsApart L (s.setWindow window state) time := by
  have current (other : Nat) : IsCurrent (s.setWindow window state) other ↔ IsCurrent s other := by
    unfold IsCurrent
    rw [setWindow_key key_eq, setWindow_attempts]
  have opened (other : Nat) : ((s.setWindow window state).windows other).openedAt = (s.windows other).openedAt := by
    by_cases here : other = window
    · rw [here, setWindow_self, openedAt_eq]
    · rw [setWindow_of_ne here]
  have reset (other : Nat) : ((s.setWindow window state).windows other).resetAt = (s.windows other).resetAt := by
    by_cases here : other = window
    · rw [here, setWindow_self, resetAt_eq]
    · rw [setWindow_of_ne here]
  have still (other : Nat) (here : ¬ IsCurrent s other) (before : Spent (s.windows other)) :
      Spent ((s.setWindow window state).windows other) := by
    by_cases same : other = window
    · subst same
      rw [setWindow_self]
      exact spent.resolve_left here before
    · rw [setWindow_of_ne same]
      exact before
  constructor
  · intro key other found later above below
    rw [setWindow_key key_eq]
    exact apart.latest key other found later above below
  · intro other below gone
    rw [current] at gone
    rw [reset]
    exact (apart.passed other below gone).imp_left (still other gone)
  · intro first second less below same
    rw [setWindow_key key_eq, setWindow_key key_eq] at same
    rw [opened, reset]
    refine (apart.apart first second less below same).imp_left (still first fun here => ?_)
    exact apart.latest _ first here second less below same.symm
  · intro other below
    rw [opened, reset]
    exact apart.length other below

theorem WindowsApart.forget (apart : WindowsApart L s time)
    (spent : ∀ window, s.attempts.get? key = some window → Spent (s.windows window)) :
    WindowsApart L (s.forget key) time := by
  have found (other : String) : (s.forget key).attempts.get? other =
      if other = key then none else s.attempts.get? other := OrderedMap.get?_delete
  refine { apart with latest := ?_, passed := ?_ }
  · intro other window here
    rw [found] at here
    split at here
    · exact nomatch here
    · exact apart.latest other window here
  · intro window below gone
    by_cases here : IsCurrent s window
    · left
      have forgotten : (s.windows window).key = key := by
        by_contra ne
        apply gone
        change (s.forget key).attempts.get? (s.windows window).key = some window
        rw [found, if_neg ne]
        exact here
      exact spent window (forgotten ▸ here)
    · exact apart.passed window below here

theorem pruneAttempts_apart (apart : WindowsApart L s time) (le : time ≤ now) :
    WindowsApart L (pruneAttempts L s now) now := by
  unfold pruneAttempts
  split
  · exact apart.later le
  · refine { apart.later le with latest := ?_, passed := ?_ }
    · intro key window here
      dsimp only at here
      rw [OrderedMap.get?_filter] at here
      exact apart.latest key window (Option.filter_eq_some_iff.mp here).1
    · intro window below gone
      by_cases here : IsCurrent s window
      · right
        by_contra open_
        apply gone
        unfold IsCurrent
        dsimp only
        rw [OrderedMap.get?_filter, here]
        simpa using open_
      · exact (apart.passed window below here).imp_right (le_trans · le)

theorem openWindow_apart (apart : WindowsApart L s now)
    (none : currentWindow s key now = none) : WindowsApart L (openWindow L s key now) now := by
  have opened {other : Nat} (below : other < s.next) : (openWindow L s key now).windows other = s.windows other :=
    setWindow_of_ne below.ne
  have new : (openWindow L s key now).windows s.next =
      { key, openedAt := now, resetAt := now + L.rateLimitWindowMs } := setWindow_self
  have found (other : String) : (openWindow L s key now).attempts.get? other =
      if other = key then some s.next else s.attempts.get? other := OrderedMap.get?_set
  -- The window that the client has, if any, has passed.
  have expired (window : Nat) (here : s.attempts.get? key = some window) : (s.windows window).resetAt ≤ now := by
    unfold currentWindow at none
    rw [here, Option.filter_eq_none_iff] at none
    simpa using none window rfl
  have gone (window : Nat) (below : window < s.next) (same : (s.windows window).key = key) :
      Spent (s.windows window) ∨ (s.windows window).resetAt ≤ now := by
    by_cases here : IsCurrent s window
    · exact .inr (expired window (same ▸ here))
    · exact apart.passed window below here
  have split_ {window : Nat} (below : window < (openWindow L s key now).next) : window < s.next ∨ window = s.next :=
    Nat.lt_succ_iff_lt_or_eq.mp below
  constructor
  · intro other window here later above below
    rw [found] at here
    split at here
    · obtain rfl := Option.some.inj here
      rcases split_ below with less | rfl
      · exact absurd above (Nat.lt_asymm less)
      · exact absurd above (lt_irrefl _)
    · next ne =>
      rcases split_ below with less | rfl
      · rw [opened less]
        exact apart.latest other window here later above less
      · rw [new]
        exact fun same => ne same.symm
  · intro window below notCurrent
    rcases split_ below with less | rfl
    · rw [opened less]
      by_cases same : (s.windows window).key = key
      · exact gone window less same
      · refine apart.passed window less fun here => notCurrent ?_
        unfold IsCurrent
        rw [opened less, found, if_neg same]
        exact here
    · refine absurd ?_ notCurrent
      unfold IsCurrent
      rw [new, found, if_pos rfl]
  · intro first second less below same
    rcases split_ below with before | rfl
    · rw [opened before, opened (less.trans before)] at *
      exact apart.apart first second less before same
    · rw [new, opened less] at *
      exact gone first less same
  · intro window below
    rcases split_ below with less | rfl
    · rw [opened less]
      exact apart.length window less
    · rw [new]

theorem reserveIn_apart (apart : WindowsApart L s time) (window : Nat) (now : Int) :
    WindowsApart L (reserveIn L s window now).1 time := by
  unfold reserveIn
  dsimp only
  split
  · exact apart.setWindow _ _ rfl rfl rfl (.inr id)
  · exact apart

theorem reserveRateLimit_apart (apart : WindowsApart L s time) (le : time ≤ now)
    (key : String) : WindowsApart L (reserveRateLimit L s key now).1 now := by
  have pruned := pruneAttempts_apart apart le
  unfold reserveRateLimit
  dsimp only
  split
  · exact reserveIn_apart pruned _ now
  · next none =>
    split
    · exact pruned
    · exact reserveIn_apart (openWindow_apart pruned none) _ now

/-- Completing keeps the windows apart: a client is forgotten where its window is spent. -/
theorem complete_apart (apart : WindowsApart L s time) {early : Nat} (holds : Holding L s window early)
    (keyed : (s.windows window).key = key) (outcome : Settlement) (fits : outcome = .failure ∨
      outcome = .release ∧ early = 1 ∨ outcome = .success ∧ 0 < (s.windows window).successes) :
    WindowsApart L (completeRateLimitReservation s key window outcome) time := by
  have taken : WindowsApart L (s.setWindow window
      { s.windows window with inFlight := (s.windows window).inFlight - 1 }) time :=
    apart.setWindow _ _ rfl rfl rfl (.inr id)
  unfold completeRateLimitReservation
  dsimp only
  split
  · exact taken
  · next there =>
    rw [ne_eq, not_not] at there
    have forgotten (spent : Spent (s.windows window)) : WindowsApart L ((s.setWindow window
        { s.windows window with inFlight := (s.windows window).inFlight - 1 }).forget key) time := by
      refine taken.forget fun other here => ?_
      obtain rfl := Option.mem_unique there here
      rw [setWindow_self]
      exact spent
    rcases fits with rfl | ⟨rfl, rfl⟩ | ⟨rfl, succeeded⟩
    · exact apart.setWindow _ _ rfl rfl rfl (.inr id)
    · dsimp only
      split
      · next empty =>
        obtain ⟨inFlight, -, current, -⟩ := holds.held
        have before := current (by rw [IsCurrent, keyed]; exact there)
        apply forgotten
        unfold Spent
        omega
      · exact taken
    · exact forgotten (.inr (.inr succeeded))

theorem beginVerification_apart (apart : WindowsApart L s time) (holds : Holding L s window 1)
    (here : s.attempts.get? key = some window) (username password : Option Json) :
    WindowsApart L (beginVerification L s key window username password).1 time := by
  have keyed := (holds.frame.known key window here).2
  unfold beginVerification
  split
  · exact complete_apart apart holds keyed .release (.inr (.inl ⟨rfl, rfl⟩))
  · have counted : WindowsApart L { s with activeKdfs := s.activeKdfs + 1 } time := { apart with }
    dsimp only
    split
    · exact counted
    · next text _ =>
      have listed : WindowsApart L { s with
          activeKdfs := s.activeKdfs + 1
          calls := s.calls ++ [verificationOf L key window text password] }
          time := { apart with }
      exact listed.setWindow _ _ rfl rfl rfl (.inl (by rw [IsCurrent, keyed]; exact here))

theorem authenticate_apart (inv : LimiterInvariant L s) (apart : WindowsApart L s time) (le : time ≤ now)
    (key : String) (username password : Option Json) :
    WindowsApart L (authenticate L s key now username password).1 now := by
  have reserves := reserveRateLimit_invariant inv key now
  have reserved := reserveRateLimit_apart apart le key
  unfold authenticate
  match reserveRateLimit L s key now, reserves, reserved with
  | (s, .error refused), _, reserved => exact reserved
  | (s, .ok window), ⟨holds, here⟩, reserved => exact beginVerification_apart reserved holds here username password

theorem settle_apart (inv : LimiterInvariant L s) (apart : WindowsApart L s time)
    (there : s.calls[index]? = some call) (verified : Option Bool) :
    WindowsApart L (settleVerification { s with calls := s.calls.eraseIdx index } call verified) time := by
  obtain ⟨holds, keyed⟩ := holding_of_settled inv there
  have settled : WindowsApart L { s with
      calls := s.calls.eraseIdx index, activeKdfs := s.activeKdfs - 1 } time := { apart with }
  unfold settleVerification
  cases verified with
  | none =>
    have noted := holds.note { s.windows call.window with errors := (s.windows call.window).errors + 1 } 1
      rfl rfl rfl rfl rfl
    have apart := settled.setWindow call.window
      { s.windows call.window with errors := (s.windows call.window).errors + 1 } rfl rfl rfl
      (.inr fun _ => .inr (.inl (Nat.succ_pos _)))
    refine complete_apart apart noted ?_ .release (.inr (.inl ⟨rfl, rfl⟩))
    · rw [setWindow_self]
      exact keyed
  | some passwordMatches =>
    dsimp only
    split
    · have noted := holds.note { s.windows call.window with successes := (s.windows call.window).successes + 1 } 0
        rfl rfl rfl rfl rfl
      have apart := settled.setWindow call.window
        { s.windows call.window with successes := (s.windows call.window).successes + 1 } rfl rfl rfl
        (.inr fun _ => .inr (.inr (Nat.succ_pos _)))
      refine complete_apart apart noted ?_ .success (.inr (.inr ⟨rfl, ?_⟩))
      · rw [setWindow_self]
        exact keyed
      · rw [setWindow_self]
        exact Nat.succ_pos _
    · exact complete_apart settled holds keyed .failure (.inl rfl)

/-! ## The law -/

def LoginEvent.now? : LoginEvent → Option Int
  | .authenticate _ now _ _ => some now
  | .settle _ _ => none

theorem run_apart (inv : LimiterInvariant L s) (apart : WindowsApart L s time) (readable : ∀ e ∈ events, e.Readable)
    (clock : (time :: events.filterMap LoginEvent.now?).Pairwise (· ≤ ·)) :
    ∃ later, WindowsApart L (run L.step s events) later := by
  induction events generalizing s time with
  | nil => exact ⟨time, apart⟩
  | cons e events ih =>
    have here := step_invariant inv (readable e List.mem_cons_self)
    have rest : ∀ e ∈ events, e.Readable := fun e mem => readable e (List.mem_cons_of_mem _ mem)
    cases e with
    | authenticate key now username password =>
      change (time :: now :: events.filterMap LoginEvent.now?).Pairwise (· ≤ ·) at clock
      rw [List.pairwise_cons] at clock
      exact ih here (authenticate_apart inv apart (clock.1 now List.mem_cons_self) key username password) rest clock.2
    | settle index verified =>
      refine ih here ?_ rest clock
      unfold LoginLimits.step
      dsimp only
      split
      · exact apart
      · next call there => exact settle_apart inv apart there verified

/-- What the limits hold of a state: the failures of a window with its verifications in flight, the verifications that
began in a window in which none threw, and the key derivations. -/
structure LimitsHold (L : LoginLimits) (s : LimiterState) : Prop where
  window : ∀ window, (s.windows window).count + callsIn s window ≤ L.rateLimitMaxAttempts
  started : ∀ window, (s.windows window).errors = 0 → (s.windows window).started ≤ L.rateLimitMaxAttempts
  kdfs : s.activeKdfs = s.calls.length
  bound : s.activeKdfs ≤ L.maxConcurrentKdfs

/-- **What the limits of logins hold.** In every run whose user names all have a text, the failures counted in a window
and its verifications in flight stay within the limit, so do the verifications that began in a window in which none
threw, and the active key derivations are the verifications in flight, within their bound. Where the clock does not go
back, two windows of a client do not overlap, but for windows in which no verification began, or one threw or
succeeded. -/
theorem login_limits_hold (L : LoginLimits) (events : List LoginEvent) (readable : ∀ e ∈ events, e.Readable) :
    LimitsHold L (run L.step {} events) ∧
    ((events.filterMap LoginEvent.now?).Pairwise (· ≤ ·) → ∃ time, WindowsApart L (run L.step {} events) time) := by
  have inv := run_invariant_limiter (L := L) readable
  constructor
  · constructor
    · intro window
      obtain ⟨inFlight, counted, -, -⟩ := inv.windows window trivial
      omega
    · intro window none
      obtain ⟨-, -, -, started⟩ := inv.windows window trivial
      omega
    · exact inv.kdfs
    · exact inv.kdfs.trans_le inv.bound
  · intro clock
    have start (time : Int) : WindowsApart L {} time := ⟨nofun, nofun, nofun, nofun⟩
    cases nows : events.filterMap LoginEvent.now? with
    | nil => exact run_apart invariant_start (start 0) readable (by rw [nows]; exact List.pairwise_singleton _ _)
    | cons now rest =>
      refine run_apart invariant_start (start now) readable ?_
      rw [nows] at clock ⊢
      rw [List.pairwise_cons]
      refine ⟨fun other mem => ?_, clock⟩
      rcases List.mem_cons.mp mem with rfl | later
      · exact le_rfl
      · exact List.rel_of_pairwise_cons clock later

/-- Two attempts in fifteen minutes, and eight key derivations. -/
def twoAttempts : LoginLimits where
  maxRateLimitClients := 10000
  rateLimitWindowMs := 900000
  rateLimitMaxAttempts := 2
  maxConcurrentKdfs := 8
  maxBodyBytes := 16384
  hasUser text := text == "admin"
  clients_pos := by decide
  window_pos := by decide
  attempts_pos := by decide
  kdfs_pos := by decide

def loginCall (now : Int) : LoginEvent := .authenticate "10.0.0.1" now (some (.str "admin")) (some (.str "secret"))

theorem login_limits_hold_twice : LimitsHold twoAttempts (run twoAttempts.step {} [loginCall 0, loginCall 1]) :=
  (login_limits_hold twoAttempts [loginCall 0, loginCall 1] (by
    intro e mem
    simp only [List.mem_cons, List.not_mem_nil, or_false, loginCall] at mem
    rcases mem with rfl | rfl <;> rfl)).1

/-- A call whose user name has no text is counted, and never settles. -/
example : (run twoAttempts.step {} [.authenticate "10.0.0.1" 0 (some (.obj [("toString", .null)])) none]).activeKdfs = 1 ∧
    (run twoAttempts.step {} [.authenticate "10.0.0.1" 0 (some (.obj [("toString", .null)])) none]).calls = [] := by
  decide +kernel

/-- Two calls, of which the first one succeeds, and two more. -/
def successEvents : List LoginEvent := [loginCall 0, loginCall 1, .settle 0 (some true), loginCall 2, loginCall 3]

/-- **A success opens a new window.** The verification of the old one that is still in flight does not count in it: three
are in flight where two are allowed. -/
theorem success_opens_window : ¬ ∀ (L : LoginLimits) (events : List LoginEvent) (key : String),
    (match (run L.step {} events).attempts.get? key with
      | some window => ((run L.step {} events).windows window).count
      | none => 0) + ((run L.step {} events).calls.filter (·.key = key)).length ≤ L.rateLimitMaxAttempts := by
  intro claimed
  have three : ((run twoAttempts.step {} successEvents).calls.filter (·.key = "10.0.0.1")).length = 3 := by
    decide +kernel
  have le := claimed twoAttempts successEvents "10.0.0.1"
  rw [three] at le
  change _ ≤ 2 at le
  omega

end FullManagedBi.Server
