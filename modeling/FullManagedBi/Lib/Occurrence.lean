import Mathlib

/-!
# Numbering by occurrence

Each element of a list is numbered among the elements of its class, by a map of counts: `numbered`. The
`n`-th of a class is the `n`-th element of the list that the class leaves (`mem_numbered`), so a rearranged
list has the same numbers, though not always for the same elements.
-/

namespace Lib

variable {α κ : Type} [DecidableEq κ] {classOf : α → κ}

/-- The elements with their class and how many of it came before, as counted so far. -/
def numberedFrom (classOf : α → κ) (counts : κ → Nat) : List α → List ((κ × Nat) × α)
  | [] => []
  | a :: as =>
    ((classOf a, counts (classOf a)), a) ::
      numberedFrom classOf (Function.update counts (classOf a) (counts (classOf a) + 1)) as

/-- The elements with their class and how many of it came before. -/
def numbered (classOf : α → κ) (as : List α) : List ((κ × Nat) × α) := numberedFrom classOf (fun _ => 0) as

def classMembers (classOf : α → κ) (k : κ) (as : List α) : List α := as.filter fun a => decide (classOf a = k)

theorem mem_numberedFrom {counts : κ → Nat} {as : List α} {k : κ} {n : Nat} {a : α} :
    ((k, n), a) ∈ numberedFrom classOf counts as ↔
      counts k ≤ n ∧ (classMembers classOf k as)[n - counts k]? = some a := by
  induction as generalizing counts with
  | nil => exact iff_of_false List.not_mem_nil fun both => nomatch both.2
  | cons b as ih =>
    rw [numberedFrom, List.mem_cons, ih, Prod.mk.injEq, Prod.mk.injEq]
    unfold classMembers
    by_cases same : classOf b = k
    · subst same
      rw [Function.update_self, List.filter_cons_of_pos (by simp)]
      constructor
      · rintro (⟨⟨-, rfl⟩, rfl⟩ | ⟨later, found⟩)
        · exact ⟨le_refl _, by rw [Nat.sub_self, List.getElem?_cons_zero]⟩
        · refine ⟨Nat.le_of_succ_le later, ?_⟩
          rw [show n - counts (classOf b) = n - (counts (classOf b) + 1) + 1 by omega, List.getElem?_cons_succ]
          exact found
      · rintro ⟨bound, found⟩
        rcases Nat.eq_or_lt_of_le bound with rfl | later
        · rw [Nat.sub_self, List.getElem?_cons_zero] at found
          exact .inl ⟨⟨rfl, rfl⟩, (Option.some.inj found).symm⟩
        · rw [show n - counts (classOf b) = n - (counts (classOf b) + 1) + 1 by omega,
            List.getElem?_cons_succ] at found
          exact .inr ⟨later, found⟩
    · rw [Function.update_of_ne (Ne.symm same), List.filter_cons_of_neg (by simpa using same)]
      exact or_iff_right fun both => same both.1.1.symm

/-- **The `n`-th of a class is the `n`-th element that the class leaves.** -/
theorem mem_numbered {as : List α} {k : κ} {n : Nat} {a : α} :
    ((k, n), a) ∈ numbered classOf as ↔ (classMembers classOf k as)[n]? = some a := by
  rw [numbered, mem_numberedFrom, Nat.sub_zero]
  exact and_iff_right (Nat.zero_le n)

theorem exists_mem_numbered_perm {as bs : List α} (perm : as.Perm bs) {k : κ} {n : Nat} {a : α}
    (mem : ((k, n), a) ∈ numbered classOf as) : ∃ b, ((k, n), b) ∈ numbered classOf bs := by
  have inside := (List.getElem?_eq_some_iff.mp (mem_numbered.mp mem)).1
  have length : (classMembers classOf k as).length = (classMembers classOf k bs).length :=
    (perm.filter _).length_eq
  rw [length] at inside
  exact ⟨_, mem_numbered.mpr (List.getElem?_eq_getElem inside)⟩

end Lib
