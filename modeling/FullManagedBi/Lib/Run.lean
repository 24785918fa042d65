import Mathlib

/-!
# Runs of a step function

A system is a step function `step : σ → α → σ`: the state, the action, the next state. Whatever the
environment chooses (a clock, a failure, which rows are locked) is part of the action, so a step is a
function and a run is a fold.

Two notions carry every whole-run statement:

- `run step s as` is the state after the actions `as`;
- `Along step G s as` says that each action is taken in a state that meets the guard `G`.

The rules are `run_invariant` (every step keeps the invariant) and `run_invariant_along` (every
guarded step does). `along_iff_split` reads the guard off at one action of the run, which is how a
statement names "the state before this action".
-/

namespace Lib

variable {σ α : Type*} {step : σ → α → σ} {I : σ → Prop} {G H : σ → α → Prop}

def run (step : σ → α → σ) : σ → List α → σ
  | s, [] => s
  | s, a :: as => run step (step s a) as

variable (s : σ)

@[simp] theorem run_nil : run step s [] = s := rfl

@[simp] theorem run_cons (a : α) (as : List α) : run step s (a :: as) = run step (step s a) as := rfl

theorem run_append (as bs : List α) : run step s (as ++ bs) = run step (run step s as) bs := by
  induction as generalizing s with
  | nil => rfl
  | cons a as ih => exact ih (step s a)

theorem run_concat (as : List α) (a : α) : run step s (as ++ [a]) = step (run step s as) a := by
  rw [run_append, run_cons, run_nil]

/-- Every action of the run is taken in a state that meets the guard. -/
def Along (step : σ → α → σ) (G : σ → α → Prop) : σ → List α → Prop
  | _, [] => True
  | s, a :: as => G s a ∧ Along step G (step s a) as

instance decidableAlong [∀ s a, Decidable (G s a)] (s : σ) :
    (as : List α) → Decidable (Along step G s as)
  | [] => .isTrue trivial
  | a :: as =>
    have := decidableAlong (step s a) as
    inferInstanceAs (Decidable (_ ∧ _))

@[simp] theorem along_nil : Along step G s [] := trivial

@[simp] theorem along_cons (a : α) (as : List α) :
    Along step G s (a :: as) ↔ G s a ∧ Along step G (step s a) as := Iff.rfl

theorem along_append (as bs : List α) :
    Along step G s (as ++ bs) ↔ Along step G s as ∧ Along step G (run step s as) bs := by
  induction as generalizing s with
  | nil => simp only [List.nil_append, along_nil, run_nil, true_and]
  | cons a as ih => simp only [List.cons_append, along_cons, run_cons, ih (step s a), and_assoc]

variable {as : List α}

theorem along_of_mem (meets : ∀ a ∈ as, ∀ s, G s a) (s : σ) : Along step G s as := by
  induction as generalizing s with
  | nil => trivial
  | cons a as ih =>
    exact ⟨meets a List.mem_cons_self s,
      ih (fun b mem => meets b (List.mem_cons_of_mem a mem)) (step s a)⟩

/-- **The guard at one action**: a run meets the guard exactly when each action does in the state the
actions before it lead to. -/
theorem along_iff_split (as : List α) :
    Along step G s as ↔ ∀ pre a post, as = pre ++ a :: post → G (run step s pre) a := by
  constructor
  · rintro h pre a post rfl
    exact ((along_append s pre (a :: post)).mp h).2.1
  · intro h
    induction as generalizing s with
    | nil => trivial
    | cons a as ih =>
      refine ⟨h [] a as rfl, ih (step s a) fun pre b post split => ?_⟩
      exact h (a :: pre) b post (by rw [split, List.cons_append])

/-- **The invariant rule**: what every step keeps, every run keeps. -/
theorem run_invariant (keep : ∀ s a, I s → I (step s a)) {s : σ} (start : I s) (as : List α) : I (run step s as) := by
  induction as generalizing s with
  | nil => exact start
  | cons a as ih => exact ih (keep s a start)

/-- **The guarded invariant rule**: what every step under the guard keeps, every guarded run keeps. -/
theorem run_invariant_along (keep : ∀ s a, I s → G s a → I (step s a)) {s : σ} (start : I s)
    (guarded : Along step G s as) : I (run step s as) := by
  induction as generalizing s with
  | nil => exact start
  | cons a as ih => exact ih (keep s a start guarded.1) guarded.2

/-- A guard that the invariant and each weaker guard give holds along the run. -/
theorem along_of_invariant (keep : ∀ s a, I s → G s a → I (step s a))
    (give : ∀ s a, I s → G s a → H s a) {s : σ} (start : I s) (guarded : Along step G s as) : Along step H s as := by
  induction as generalizing s with
  | nil => trivial
  | cons a as ih =>
    exact ⟨give s a start guarded.1, ih (keep s a start guarded.1) guarded.2⟩

/-- Guards that agree wherever the invariant holds, if the steps under them keep it. -/
theorem along_congr (same : ∀ s, ∀ a ∈ as, I s → (G s a ↔ H s a))
    (keep : ∀ s, ∀ a ∈ as, I s → G s a → I (step s a)) {s : σ} (start : I s) :
    Along step G s as ↔ Along step H s as := by
  induction as generalizing s with
  | nil => exact Iff.rfl
  | cons a as ih =>
    rw [along_cons, along_cons, ← same s a List.mem_cons_self start]
    refine and_congr_right fun guarded => ?_
    exact ih (fun t b mem => same t b (List.mem_cons_of_mem a mem))
      (fun t b mem => keep t b (List.mem_cons_of_mem a mem)) (keep s a List.mem_cons_self start guarded)

/-- **The exact guard rule**: where a guard is exactly what one step needs to keep a property, a run meets
the guard exactly when every state it reaches has the property. -/
theorem along_iff_reaches {J : σ → Prop} (keep : ∀ s a, J s → J (step s a))
    (exact_ : ∀ s, ∀ a ∈ as, J s → I s → (I (step s a) ↔ G s a)) {s : σ} (sound : J s) (start : I s) :
    Along step G s as ↔ ∀ pre post, as = pre ++ post → I (run step s pre) := by
  induction as generalizing s with
  | nil =>
    refine ⟨fun _ pre post split => ?_, fun _ => trivial⟩
    rw [(List.append_eq_nil_iff.mp split.symm).1]
    exact start
  | cons a as ih =>
    have here := exact_ s a List.mem_cons_self sound start
    have next : I (step s a) → (Along step G (step s a) as ↔
        ∀ pre post, as = pre ++ post → I (run step (step s a) pre)) :=
      ih (fun t b mem => exact_ t b (List.mem_cons_of_mem a mem)) (keep s a sound)
    constructor
    · rintro ⟨guarded, rest⟩ pre post split
      have kept := here.mpr guarded
      cases pre with
      | nil => exact start
      | cons b pre =>
        obtain ⟨same, later⟩ := List.cons.inj split
        rw [← same]
        exact (next kept).mp rest pre post later
    · intro reaches
      have kept : I (step s a) := reaches [a] as rfl
      refine ⟨here.mp kept, (next kept).mpr fun pre post split => ?_⟩
      exact reaches (a :: pre) post (by rw [split, List.cons_append])

/-! ## Counting along a run -/

/-- How many actions of the run have a property in the state they are taken in. -/
def tally (step : σ → α → σ) (P : σ → α → Bool) : σ → List α → Nat
  | _, [] => 0
  | s, a :: as => (if P s a then 1 else 0) + tally step P (step s a) as

/-- **The potential rule**: where each occurrence of one kind of action uses up a unit that only an
occurrence of another kind gives, the first kind occurs at most as often as the units there are. -/
theorem tally_le (step : σ → α → σ) {P Q : σ → α → Bool} {φ : σ → Nat}
    (pays : ∀ s a, φ (step s a) + (if P s a then 1 else 0) ≤ φ s + if Q s a then 1 else 0) (s : σ) (as : List α) :
    φ (run step s as) + tally step P s as ≤ φ s + tally step Q s as := by
  induction as generalizing s with
  | nil => exact Nat.le_refl _
  | cons a as ih =>
    simp only [run_cons, tally]
    have here := pays s a
    have later := ih (step s a)
    omega

end Lib
