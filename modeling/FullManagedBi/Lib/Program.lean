import FullManagedBi.Lib.Action
import FullManagedBi.Lib.Run

/-!
# Programs that call out, and pools of them

A `Program` makes calls and continues with their replies, so between two calls of one program any
other program may make its own: a `Pool` runs programs over one shared state, one call at a time, in
any order.

What a program has learned from its replies is its *knowledge*, and a `Protocol` says which calls the
knowledge allows. `Follows` reads a protocol off a program, construct by construct
(`follows_bind`, `follows_tryCatch`, `follows_foldlM`); a program may give up its part
once an answer contradicts what it relies on (`Unless`). `PoolRules` collects what one call must keep
for the shared state and for everybody's knowledge, and **`pool_invariant`** is the conclusion: every
run of the pool keeps it. In a crew everybody runs from the beginning and may cease to act
(`crew_invariant`).
-/

namespace Lib

/-- A program that calls out: `call c next` makes the call `c` and continues with its reply, which
may be an error. -/
inductive Program (C : Type) (R : C → Type) (ε α : Type) where
  | done (a : α)
  | fail (e : ε)
  | call (c : C) (next : Except ε (R c) → Program C R ε α)

namespace Program

variable {C : Type} {R : C → Type} {ε α β : Type}

/-- One program after another; an error skips what follows. -/
def andThen : Program C R ε α → (α → Program C R ε β) → Program C R ε β
  | .done a, f => f a
  | .fail e, _ => .fail e
  | .call c next, f => .call c fun r => (next r).andThen f

def handled : Program C R ε α → (ε → Program C R ε α) → Program C R ε α
  | .done a, _ => .done a
  | .fail e, h => h e
  | .call c next, h => .call c fun r => (next r).handled h

instance : Monad (Program C R ε) where
  pure := .done
  bind := .andThen

instance : MonadExceptOf ε (Program C R ε) where
  throw := .fail
  tryCatch := .handled

def perform (c : C) : Program C R ε (R c) :=
  .call c fun
    | .ok r => .done r
    | .error e => .fail e

def ended : Program C R ε α → Bool
  | .call _ _ => false
  | _ => true

def ofExcept : Except ε α → Program C R ε α
  | .ok a => .done a
  | .error e => .fail e

end Program

/-! ## Protocols -/

/-- Which calls a program may make with the knowledge it has, and what a reply adds to it. -/
structure Protocol (C : Type) (R : C → Type) (ε γ : Type) where
  allowed : γ → C → Prop
  after : γ → (c : C) → Except ε (R c) → γ

section Follows

variable {C : Type} {R : C → Type} {ε γ α β : Type} (P : Protocol C R ε γ)

/-- Started with the knowledge `g`, the program makes only calls the protocol allows, whatever the
replies, and ends in an outcome and a knowledge that `Q` relates. -/
def Follows : Program C R ε α → γ → (Except ε α → γ → Prop) → Prop
  | .done a, g, Q => Q (.ok a) g
  | .fail e, g, Q => Q (.error e) g
  | .call c next, g, Q => P.allowed g c ∧ ∀ r, Follows (next r) (P.after g c r) Q

variable {P} {p : Program C R ε α} {f : α → Program C R ε β} {g : γ}

variable {Q : Except ε α → γ → Prop}

@[simp] theorem follows_pure {a : α} : Follows P (pure a) g Q ↔ Q (.ok a) g := Iff.rfl

@[simp] theorem follows_throw {e : ε} : Follows P (throw e : Program C R ε α) g Q ↔ Q (.error e) g := Iff.rfl

@[simp] theorem follows_ofExcept {r : Except ε α} : Follows P (.ofExcept r) g Q ↔ Q r g := by
  cases r <;> exact Iff.rfl

theorem follows_perform {c : C} {Q : Except ε (R c) → γ → Prop} :
    Follows P (.perform c) g Q ↔ P.allowed g c ∧ ∀ r, Q r (P.after g c r) := by
  refine and_congr_right fun _ => forall_congr' fun r => ?_
  cases r <;> exact Iff.rfl

theorem Follows.of_ended (h : Follows P p g Q) (ended : p.ended = true) : ∃ r, Q r g := by
  cases p with
  | done a => exact ⟨_, h⟩
  | fail e => exact ⟨_, h⟩
  | call c next => exact nomatch ended

theorem Follows.mono {Q Q' : Except ε α → γ → Prop} (h : Follows P p g Q)
    (imp : ∀ r g', Q r g' → Q' r g') : Follows P p g Q' := by
  induction p generalizing g with
  | done a => exact imp _ _ h
  | fail e => exact imp _ _ h
  | call c next ih => exact ⟨h.1, fun r => ih r (h.2 r)⟩

/-- Sequencing: what follows starts with the knowledge the first program ends with. -/
theorem follows_bind {Q : Except ε β → γ → Prop} : Follows P (p >>= f) g Q ↔
      Follows P p g (Post (fun a g' => Follows P (f a) g' Q) fun e => Q (.error e)) := by
  induction p generalizing g with
  | done a => exact Iff.rfl
  | fail e => exact Iff.rfl
  | call c next ih => exact and_congr_right fun _ => forall_congr' fun r => ih r

variable {handler : ε → Program C R ε α}

/-- A handler starts with the knowledge the program it guards failed with. -/
theorem follows_tryCatch : Follows P (tryCatch p handler) g Q ↔
      Follows P p g (Post (fun a => Q (.ok a)) fun e g' => Follows P (handler e) g' Q) := by
  induction p generalizing g with
  | done a => exact Iff.rfl
  | fail e => exact Iff.rfl
  | call c next ih => exact and_congr_right fun _ => forall_congr' fun r => ih r

theorem follows_observing {Q : Except ε (Except ε α) → γ → Prop} :
    Follows P (observing p) g Q ↔ Follows P p g fun r g' => Q (.ok r) g' := by
  unfold observing
  rw [follows_tryCatch, follows_bind]
  constructor
  · intro h
    refine h.mono fun r g' post => ?_
    cases r <;> exact post
  · intro h
    refine h.mono fun r g' post => ?_
    cases r <;> exact post

theorem follows_foldlM {ι : Type} {J : γ → Prop} {items : List ι} {body : β → ι → Program C R ε β}
    {b : β} (keep : ∀ item ∈ items, ∀ b g, J g → Follows P (body b item) g fun _ => J)
    (start : J g) : Follows P (items.foldlM body b) g fun _ => J := by
  induction items generalizing b g with
  | nil => exact start
  | cons item items ih =>
    rw [List.foldlM_cons]
    refine (follows_bind).mpr ((keep item List.mem_cons_self b g start).mono fun r g' h => ?_)
    cases r with
    | error e => exact h
    | ok b' => exact ih (fun other mem => keep other (List.mem_cons_of_mem item mem)) h

/-! ### Contradicted programs -/

/-- What holds of an outcome, unless an answer has contradicted what the program relies on. -/
def Unless (lost : γ → Prop) (R : Except ε α → γ → Prop) : Except ε α → γ → Prop :=
  fun r g => ¬lost g → R r g

/-- A contradiction stays, and nothing is asked of a program that has met one. -/
structure Protocol.Forgives (P : Protocol C R ε γ) (lost : γ → Prop) : Prop where
  allowed : ∀ g c, lost g → P.allowed g c
  after : ∀ g c r, lost g → lost (P.after g c r)

variable {lost : γ → Prop} {Q : Except ε α → γ → Prop} {Q' : Except ε β → γ → Prop}

theorem follows_of_lost (forgives : P.Forgives lost) (contradicted : lost g) : Follows P p g (Unless lost Q) := by
  induction p generalizing g with
  | done a => exact fun clean => absurd contradicted clean
  | fail e => exact fun clean => absurd contradicted clean
  | call c next ih =>
    exact ⟨forgives.allowed g c contradicted, fun r => ih r (forgives.after g c r contradicted)⟩

theorem follows_perform_unless {c : C} (allowed : P.allowed g c) :
    Follows P (.perform c) g (Unless lost fun r g' => g' = P.after g c r ∧ ¬lost g') :=
  (follows_perform).mpr ⟨allowed, fun _ clean => ⟨rfl, clean⟩⟩

theorem follows_bind_unless (forgives : P.Forgives lost) (first : Follows P p g (Unless lost Q))
    (rest : ∀ a g', Q (.ok a) g' → Follows P (f a) g' (Unless lost Q'))
    (fails : ∀ e g', Q (.error e) g' → Q' (.error e) g') : Follows P (p >>= f) g (Unless lost Q') := by
  refine (follows_bind).mpr (first.mono fun r g' known => ?_)
  cases r with
  | error e => exact fun clean => fails e g' (known clean)
  | ok a =>
    by_cases contradicted : lost g'
    · exact follows_of_lost forgives contradicted
    · exact rest a g' (known contradicted)

theorem follows_tryCatch_unless (forgives : P.Forgives lost) {E : Except ε α → γ → Prop}
    (first : Follows P p g (Unless lost Q)) (returns : ∀ a g', Q (.ok a) g' → E (.ok a) g')
    (handles : ∀ e g', Q (.error e) g' → Follows P (handler e) g' (Unless lost E)) :
    Follows P (tryCatch p handler) g (Unless lost E) := by
  refine (follows_tryCatch).mpr (first.mono fun r g' known => ?_)
  cases r with
  | ok a => exact fun clean => returns a g' (known clean)
  | error e =>
    by_cases contradicted : lost g'
    · exact follows_of_lost forgives contradicted
    · exact handles e g' (known contradicted)

theorem follows_observing_unless (forgives : P.Forgives lost) {f : Except ε α → Program C R ε β}
    (first : Follows P p g (Unless lost Q)) (rest : ∀ r g', Q r g' → Follows P (f r) g' (Unless lost Q')) :
    Follows P (observing p >>= f) g (Unless lost Q') := by
  refine (follows_bind).mpr (follows_observing.mpr (first.mono fun r g' known => ?_))
  by_cases contradicted : lost g'
  · exact follows_of_lost forgives contradicted
  · exact rest r g' (known contradicted)

end Follows

/-! ## Pools -/

/-- What a pool is made of: the program a worker `w` runs, how the shared state answers a call (the
environment `E` chooses clocks, faults and what other services say), and what else may happen to the
shared state. -/
structure PoolSpec (σ W C : Type) (R : C → Type) (ε γ α E O : Type) where
  body : W → Program C R ε α
  protocol : W → Protocol C R ε γ
  unknowing : γ
  answer : σ → W → (c : C) → E → Except ε (R c) × σ
  outside : σ → O → σ

/-- The shared state, and the remaining program and the knowledge of each live worker. -/
structure Pool (σ W C : Type) (R : C → Type) (ε γ α : Type) where
  shared : σ
  live : W → Option (Program C R ε α × γ)

def Pool.init {σ W C : Type} {R : C → Type} {ε γ α : Type} (s : σ) : Pool σ W C R ε γ α :=
  ⟨s, fun _ => none⟩

inductive PoolAction (W E O : Type) where
  /-- The worker starts its program, unless it is running one. -/
  | start (w : W)
  /-- The worker stops, at the end of its program or before. -/
  | stop (w : W)
  /-- The next call of the worker is answered. -/
  | advance (w : W) (env : E)
  /-- Something else happens to the shared state. -/
  | outside (o : O)

section Pools

variable {σ W C : Type} {R : C → Type} {ε γ α E O : Type} [DecidableEq W]

def poolStep (S : PoolSpec σ W C R ε γ α E O) (s : Pool σ W C R ε γ α) :
    PoolAction W E O → Pool σ W C R ε γ α
  | .start w =>
    match s.live w with
    | none => { s with live := Function.update s.live w (some (S.body w, S.unknowing)) }
    | some _ => s
  | .stop w => { s with live := Function.update s.live w none }
  | .advance w env =>
    match s.live w with
    | some (.call c next, g) =>
      let answered := S.answer s.shared w c env
      { shared := answered.2
        live := Function.update s.live w
          (some (next answered.1, (S.protocol w).after g c answered.1)) }
    | _ => s
  | .outside o => { s with shared := S.outside s.shared o }

/-- A condition on the calls of a pool: on the shared state, the worker, its knowledge, the call and
the environment's choices. -/
def PoolGuard (L : σ → W → γ → C → E → Prop) (s : Pool σ W C R ε γ α) : PoolAction W E O → Prop
  | .advance w env =>
    match s.live w with
    | some (.call c _, g) => L s.shared w g c env
    | _ => True
  | _ => True

instance decidablePoolGuard {L : σ → W → γ → C → E → Prop}
    [∀ s w g c env, Decidable (L s w g c env)] (s : Pool σ W C R ε γ α) :
    (a : PoolAction W E O) → Decidable (PoolGuard L s a)
  | .start _ => .isTrue trivial
  | .stop _ => .isTrue trivial
  | .outside _ => .isTrue trivial
  | .advance w env =>
    match running : s.live w with
    | some (.call c _, g) =>
      decidable_of_iff (L s.shared w g c env) (by simp only [PoolGuard, running])
    | some (.done _, _) => .isTrue (by simp only [PoolGuard, running])
    | some (.fail _, _) => .isTrue (by simp only [PoolGuard, running])
    | none => .isTrue (by simp only [PoolGuard, running])

/-- `J` holds of the shared state, and every live worker knows what `K` says and follows the
protocol. -/
structure PoolInvariant (S : PoolSpec σ W C R ε γ α E O) (J : σ → Prop) (K : W → γ → σ → Prop)
    (s : Pool σ W C R ε γ α) : Prop where
  shared : J s.shared
  live : ∀ w p g, s.live w = some (p, g) →
    K w g s.shared ∧ Follows (S.protocol w) p g fun _ _ => True

/-- What each kind of step must keep. -/
structure PoolRules (S : PoolSpec σ W C R ε γ α E O) (J : σ → Prop) (K : W → γ → σ → Prop)
    (L : σ → W → γ → C → E → Prop) : Prop where
  body : ∀ w, Follows (S.protocol w) (S.body w) S.unknowing fun _ _ => True
  unknowing : ∀ s w, K w S.unknowing s
  outside : ∀ s o, J s → J (S.outside s o) ∧ ∀ w g, K w g s → K w g (S.outside s o)
  shared : ∀ s w c g env, J s → K w g s → (S.protocol w).allowed g c → L s w g c env →
    J (S.answer s w c env).2
  own : ∀ s w c g env, J s → K w g s → (S.protocol w).allowed g c →
    K w ((S.protocol w).after g c (S.answer s w c env).1) (S.answer s w c env).2
  other : ∀ s w c g env w' g', J s → K w g s → (S.protocol w).allowed g c → w' ≠ w → K w' g' s →
    K w' g' (S.answer s w c env).2

variable {S : PoolSpec σ W C R ε γ α E O} {J : σ → Prop} {K : W → γ → σ → Prop}
  {L : σ → W → γ → C → E → Prop}

omit [DecidableEq W] in
theorem PoolInvariant.init {s : σ} (h : J s) : PoolInvariant S J K (.init s) :=
  ⟨h, fun _ _ _ live => nomatch live⟩

theorem poolStep_invariant (rules : PoolRules S J K L) (s : Pool σ W C R ε γ α)
    (a : PoolAction W E O) (inv : PoolInvariant S J K s) (guarded : PoolGuard L s a) :
    PoolInvariant S J K (poolStep S s a) := by
  cases a with
  | start w =>
    simp only [poolStep]
    split
    · refine ⟨inv.shared, fun w' p g eq => ?_⟩
      by_cases same : w' = w
      · subst same
        simp only [Function.update_self, Option.some.injEq, Prod.mk.injEq] at eq
        obtain ⟨rfl, rfl⟩ := eq
        exact ⟨rules.unknowing s.shared w', rules.body w'⟩
      · exact inv.live w' p g (by simpa only [Function.update_of_ne same] using eq)
    · exact inv
  | stop w =>
    refine ⟨inv.shared, fun w' p g eq => ?_⟩
    by_cases same : w' = w
    · subst same
      simp [poolStep] at eq
    · exact inv.live w' p g (by simpa only [poolStep, Function.update_of_ne same] using eq)
  | advance w env =>
    simp only [poolStep]
    split
    · rename_i c next g running
      obtain ⟨known, allowed, follows⟩ := inv.live w _ g running
      have legal : L s.shared w g c env := by simpa only [PoolGuard, running] using guarded
      refine ⟨rules.shared _ w c g env inv.shared known allowed legal,
        fun w' p g' eq => ?_⟩
      by_cases same : w' = w
      · subst same
        simp only [Function.update_self, Option.some.injEq, Prod.mk.injEq] at eq
        obtain ⟨rfl, rfl⟩ := eq
        exact ⟨rules.own _ w' c g env inv.shared known allowed, follows _⟩
      · simp only [Function.update_of_ne same] at eq
        obtain ⟨known', follows'⟩ := inv.live w' p g' eq
        exact ⟨rules.other _ w c g env w' g' inv.shared known allowed same known', follows'⟩
    · exact inv
  | outside o =>
    obtain ⟨kept, known⟩ := rules.outside s.shared o inv.shared
    refine ⟨kept, fun w p g eq => ?_⟩
    obtain ⟨before, follows⟩ := inv.live w p g eq
    exact ⟨known w g before, follows⟩

variable {s : Pool σ W C R ε γ α}

/-- **Every guarded run of a pool keeps its invariant.** -/
theorem pool_invariant (rules : PoolRules S J K L) (inv : PoolInvariant S J K s)
    {as : List (PoolAction W E O)} (guarded : Along (poolStep S) (PoolGuard L) s as) :
    PoolInvariant S J K (run (poolStep S) s as) :=
  run_invariant_along (poolStep_invariant rules) inv guarded

/-! ## Crews -/

/-- One step of a crew, a pool in which everybody runs from the beginning. -/
inductive CrewAction (W E O : Type) where
  /-- The next call of the worker is answered. -/
  | advance (w : W) (env : E)
  /-- Something else happens to the shared state. -/
  | outside (o : O)

/-- A shared state, and everybody at the beginning of their program. -/
def Pool.begin (S : PoolSpec σ W C R ε γ α E O) (s : σ) : Pool σ W C R ε γ α :=
  ⟨s, fun w => some (S.body w, S.unknowing)⟩

variable (active : σ → W → Prop) [∀ s w, Decidable (active s w)]

/-- The crew after one action: a worker that is no longer active makes no call. -/
def crewStep (S : PoolSpec σ W C R ε γ α E O) (s : Pool σ W C R ε γ α) :
    CrewAction W E O → Pool σ W C R ε γ α
  | .advance w env => if active s.shared w then poolStep S s (.advance w env) else s
  | .outside o => poolStep S s (.outside o)

omit [DecidableEq W] [∀ s w, Decidable (active s w)] in
def CrewGuard (L : σ → W → γ → C → E → Prop) (s : Pool σ W C R ε γ α) : CrewAction W E O → Prop
  | .advance w env => active s.shared w → PoolGuard L s (.advance w env : PoolAction W E O)
  | .outside _ => True

instance decidableCrewGuard {L : σ → W → γ → C → E → Prop}
    [∀ s w g c env, Decidable (L s w g c env)] (s : Pool σ W C R ε γ α) :
    (a : CrewAction W E O) → Decidable (CrewGuard active L s a)
  | .advance w env =>
    inferInstanceAs (Decidable (active s.shared w → PoolGuard L s (.advance w env : PoolAction W E O)))
  | .outside _ => .isTrue trivial

/-- `J` holds of the shared state, and every worker knows what `K` says and follows the protocol to an
end that `F` relates to its knowledge. -/
structure CrewInvariant (S : PoolSpec σ W C R ε γ α E O) (J : σ → Prop) (K : W → γ → σ → Prop)
    (F : W → Except ε α → γ → Prop) (s : Pool σ W C R ε γ α) : Prop where
  shared : J s.shared
  live : ∀ w p g, s.live w = some (p, g) → K w g s.shared ∧ Follows (S.protocol w) p g (F w)

/-- What each kind of step of a crew must keep, of calls that meet the guard `L`. -/
structure CrewRules (S : PoolSpec σ W C R ε γ α E O) (J : σ → Prop) (K : W → γ → σ → Prop)
    (F : W → Except ε α → γ → Prop) (L : σ → W → γ → C → E → Prop) : Prop where
  body : ∀ w, Follows (S.protocol w) (S.body w) S.unknowing (F w)
  outside : ∀ s o, J s → J (S.outside s o) ∧ ∀ w g, K w g s → K w g (S.outside s o)
  shared : ∀ s w c g env, J s → K w g s → (S.protocol w).allowed g c → active s w → L s w g c env →
    J (S.answer s w c env).2
  own : ∀ s w c g env, J s → K w g s → (S.protocol w).allowed g c → active s w → L s w g c env →
    K w ((S.protocol w).after g c (S.answer s w c env).1) (S.answer s w c env).2
  other : ∀ s w c g env w' g', J s → K w g s → (S.protocol w).allowed g c → active s w →
    L s w g c env → w' ≠ w → K w' g' s → K w' g' (S.answer s w c env).2

variable {active} {F : W → Except ε α → γ → Prop}

omit [DecidableEq W] [∀ s w, Decidable (active s w)] in
theorem CrewInvariant.begin (rules : CrewRules active S J K F L) {s : σ} (shared : J s)
    (unknowing : ∀ w, K w S.unknowing s) : CrewInvariant S J K F (.begin S s) where
  shared := shared
  live w p g eq := by
    obtain ⟨rfl, rfl⟩ := Prod.mk.inj (Option.some.inj eq)
    exact ⟨unknowing w, rules.body w⟩

theorem crewStep_invariant (rules : CrewRules active S J K F L) (s : Pool σ W C R ε γ α)
    (a : CrewAction W E O) (inv : CrewInvariant S J K F s) (guarded : CrewGuard active L s a) :
    CrewInvariant S J K F (crewStep active S s a) := by
  cases a with
  | outside o =>
    obtain ⟨kept, known⟩ := rules.outside s.shared o inv.shared
    refine ⟨kept, fun w p g eq => ?_⟩
    obtain ⟨before, follows⟩ := inv.live w p g eq
    exact ⟨known w g before, follows⟩
  | advance w env =>
    simp only [crewStep]
    split
    · rename_i acts
      have legal := guarded acts
      simp only [poolStep]
      split
      · rename_i c next g running
        obtain ⟨known, allowed, follows⟩ := inv.live w _ g running
        simp only [PoolGuard, running] at legal
        refine ⟨rules.shared _ w c g env inv.shared known allowed acts legal, fun w' p g' eq => ?_⟩
        by_cases same : w' = w
        · subst same
          simp only [Function.update_self, Option.some.injEq, Prod.mk.injEq] at eq
          obtain ⟨rfl, rfl⟩ := eq
          exact ⟨rules.own _ w' c g env inv.shared known allowed acts legal, follows _⟩
        · simp only [Function.update_of_ne same] at eq
          obtain ⟨known', follows'⟩ := inv.live w' p g' eq
          exact ⟨rules.other _ w c g env w' g' inv.shared known allowed acts legal same known', follows'⟩
      · exact inv
    · exact inv

/-- **Every guarded run of a crew keeps its invariant.** -/
theorem crew_invariant (rules : CrewRules active S J K F L) (inv : CrewInvariant S J K F s)
    {as : List (CrewAction W E O)} (guarded : Along (crewStep active S) (CrewGuard active L) s as) :
    CrewInvariant S J K F (run (crewStep active S) s as) :=
  run_invariant_along (crewStep_invariant rules) inv guarded

end Pools

end Lib
