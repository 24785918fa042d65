import Mathlib

/-!
# Programs over a state that may throw

An `Action σ ε α` reads and writes a state `σ` and ends with an `α` or a thrown `ε`. The state
survives a throw, as what a program wrote to a store does.

`Ends m s R` says that `m`, started at `s`, ends with an outcome and a state that `R` relates. Its
rules follow the program: one for each construct (`ends_bind`, `ends_tryCatch`, ...), a rule of
consequence (`Ends.mono`) and a loop rule (`ends_foldlM`). A function of a program gets one `Ends`
lemma, and its callers use that lemma through `Ends.mono`.
-/

namespace Lib

variable {σ ε α β : Type}

/-- A program over the state `σ` that returns a value or throws an `ε`. -/
abbrev Action (σ ε : Type) : Type → Type := ExceptT ε (StateM σ)

/-- The outcome of a program started at `s`, and the state it leaves. -/
def Action.outcome (m : Action σ ε α) (s : σ) : Except ε α × σ := m.run.run s

/-- `m` started at `s` ends with an outcome and a state that `R` relates. -/
def Ends (m : Action σ ε α) (s : σ) (R : Except ε α → σ → Prop) : Prop :=
  R (m.outcome s).1 (m.outcome s).2

/-- A relation on outcomes from its part on values and its part on errors. -/
def Post (Q : α → σ → Prop) (E : ε → σ → Prop) : Except ε α → σ → Prop
  | .ok a, s => Q a s
  | .error e, s => E e s

variable {Q : α → σ → Prop} {E : ε → σ → Prop}

@[simp] theorem post_ok {a : α} {s : σ} : Post Q E (.ok a) s ↔ Q a s := Iff.rfl

@[simp] theorem post_error {e : ε} {s : σ} : Post Q E (.error e : Except ε α) s ↔ E e s := Iff.rfl

theorem post_intro {r : Except ε α} {s : σ} (ok : ∀ a, r = .ok a → Q a s)
    (error : ∀ e, r = .error e → E e s) : Post Q E r s := by
  cases r with
  | ok a => exact ok a rfl
  | error e => exact error e rfl

section Rules

variable {s : σ} {m : Action σ ε α} {f : α → Action σ ε β}

variable {R : Except ε α → σ → Prop}

@[simp] theorem ends_pure {a : α} : Ends (pure a : Action σ ε α) s R ↔ R (.ok a) s := Iff.rfl

@[simp] theorem ends_throw {e : ε} : Ends (throw e : Action σ ε α) s R ↔ R (.error e) s := Iff.rfl

@[simp] theorem ends_get {R : Except ε σ → σ → Prop} : Ends (get : Action σ ε σ) s R ↔ R (.ok s) s := Iff.rfl

@[simp] theorem ends_modify {g : σ → σ} {R : Except ε PUnit → σ → Prop} :
    Ends (modify g : Action σ ε PUnit) s R ↔ R (.ok ⟨⟩) (g s) := Iff.rfl

@[simp] theorem ends_ofExcept {r : Except ε α} : Ends (MonadExcept.ofExcept r : Action σ ε α) s R ↔ R r s := by
  cases r <;> exact Iff.rfl

/-- Sequencing: what follows starts where the first program ends, unless it threw. -/
theorem ends_bind {R : Except ε β → σ → Prop} :
    Ends (m >>= f) s R ↔ Ends m s (Post (fun a => (Ends (f a) · R)) fun e => R (.error e)) := by
  unfold Ends Action.outcome
  rw [ExceptT.run_bind, StateT.run_bind]
  rcases m.run.run s with ⟨_ | a, s'⟩ <;> exact Iff.rfl

variable {h : ε → Action σ ε α}

theorem ends_tryCatch : Ends (tryCatch m h) s R ↔ Ends m s (Post (fun a => R (.ok a)) fun e => (Ends (h e) · R)) := by
  unfold Ends Action.outcome
  have run : (tryCatch m h).run.run s =
      m.run.run s >>= fun p => (match p.1 with
        | .ok a => pure (.ok a)
        | .error e => (h e).run : StateM σ (Except ε α)).run p.2 := rfl
  rw [run]
  rcases m.run.run s with ⟨_ | a, s'⟩ <;> exact Iff.rfl

@[simp] theorem ends_observing {R : Except ε (Except ε α) → σ → Prop} :
    Ends (observing m) s R ↔ Ends m s fun r s' => R (.ok r) s' := by
  unfold observing
  rw [ends_tryCatch, ends_bind]
  unfold Ends
  rcases m.outcome s with ⟨_ | a, s'⟩ <;> exact Iff.rfl

theorem Ends.mono {R R' : Except ε α → σ → Prop} (h : Ends m s R) (imp : ∀ r s', R r s' → R' r s') :
    Ends m s R' := imp _ _ h

theorem Ends.and {R R' : Except ε α → σ → Prop} (h : Ends m s R) (h' : Ends m s R') :
    Ends m s fun r s' => R r s' ∧ R' r s' := ⟨h, h'⟩

/-- A program followed by another: what the first ends in is where the second starts. -/
theorem Ends.bind {Q : α → σ → Prop} {R : Except ε β → σ → Prop}
    (first : Ends m s (Post Q fun e => R (.error e))) (rest : ∀ a s', Q a s' → Ends (f a) s' R) :
    Ends (m >>= f) s R := by
  refine (ends_bind).mpr (first.mono fun r s' h => ?_)
  cases r with
  | error e => exact h
  | ok a => exact rest a s' h

/-- A guarded program: its values are kept, and the handler takes over from its throws. -/
theorem Ends.tryCatch {E : ε → σ → Prop} (guarded : Ends m s (Post (fun a => R (.ok a)) E))
    (handler : ∀ e s', E e s' → Ends (h e) s' R) : Ends (tryCatch m h) s R := by
  refine (ends_tryCatch).mpr (guarded.mono fun r s' h => ?_)
  cases r with
  | ok a => exact h
  | error e => exact handler e s' h

/-- The loop rule: an invariant that each round keeps holds after the loop. -/
theorem ends_foldlM {γ : Type} {J : β → σ → Prop} {E : ε → σ → Prop} {items : List γ}
    {body : β → γ → Action σ ε β} {b : β} {s : σ}
    (keep : ∀ item ∈ items, ∀ b s, J b s → Ends (body b item) s (Post J E)) (start : J b s) :
    Ends (items.foldlM body b) s (Post J E) := by
  induction items generalizing b s with
  | nil => exact start
  | cons item items ih =>
    rw [List.foldlM_cons]
    refine Ends.bind (keep item List.mem_cons_self b s start) fun b' s' h => ?_
    exact ih (fun other mem => keep other (List.mem_cons_of_mem item mem)) h

end Rules

/-! ## Relations every run respects -/

/-- Every run of the program relates the state it starts in to the state it ends in. -/
def Respects (R : σ → σ → Prop) (m : Action σ ε α) : Prop := ∀ s, Ends m s fun _ s' => R s s'

namespace Respects

variable {R : σ → σ → Prop} {m : Action σ ε α} {f : α → Action σ ε β}

theorem pure [Std.Refl R] {a : α} : Respects R (Pure.pure a : Action σ ε α) :=
  fun s => Std.Refl.refl s

theorem ofExcept [Std.Refl R] {r : Except ε α} : Respects R (MonadExcept.ofExcept r : Action σ ε α) :=
  fun s => (ends_ofExcept).mpr (Std.Refl.refl s)

theorem throw [Std.Refl R] {e : ε} : Respects R (MonadExcept.throw e : Action σ ε α) :=
  fun s => Std.Refl.refl s

theorem bind [IsTrans σ R] (first : Respects R m) (rest : ∀ a, Respects R (f a)) : Respects R (m >>= f) := by
  intro s
  refine (ends_bind).mpr ((first s).mono fun r s' h => ?_)
  cases r with
  | error e => exact h
  | ok a => exact (rest a s').mono fun _ s'' h' => IsTrans.trans s s' s'' h h'

theorem after [IsTrans σ R] (h : Respects R m) {s₀ s : σ} (start : R s₀ s) :
    Ends m s (Post (fun _ s' => R s₀ s') fun _ s' => R s₀ s') := by
  refine (h s).mono fun r s' related => ?_
  cases r <;> exact IsTrans.trans s₀ s s' start related

theorem observing (h : Respects R m) : Respects R (observing m) :=
  fun s => (ends_observing).mpr (h s)

end Respects

/-- A program that respects a relation and returns what `Q` says, continuing from a state already
related to the start. -/
theorem Ends.after {R : σ → σ → Prop} [IsTrans σ R] {m : Action σ ε α} {Q : α → σ → Prop} {s₀ s : σ}
    (h : Ends m s (Post (fun a s' => R s s' ∧ Q a s') fun _ s' => R s s')) (start : R s₀ s) :
    Ends m s (Post (fun a s' => R s₀ s' ∧ Q a s') fun _ s' => R s₀ s') := by
  refine h.mono fun r s' related => ?_
  cases r with
  | error e => exact IsTrans.trans s₀ s s' start related
  | ok a => exact ⟨IsTrans.trans s₀ s s' start related.1, related.2⟩

end Lib
