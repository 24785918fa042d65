import Mathlib

/-!
# Taking turns

`roundRobin queues` takes the first element of each queue in turn, round after round, until the queues are empty. It has
the elements of the queues (`roundRobin_perm`). Where each queue has the elements of one key, and no key has two queues,
no key falls behind: in whatever has been taken so far, two keys differ by at most one, unless the one with fewer
elements has no more (`roundRobin_fair`).
-/

namespace Lib

variable {α κ : Type}

/-- A round: the first element of each queue that has one. -/
def heads (queues : List (List α)) : List α := queues.filterMap List.head?

def tails (queues : List (List α)) : List (List α) := queues.map List.tail

theorem perm_heads_append_tails (queues : List (List α)) :
    queues.flatten.Perm (heads queues ++ (tails queues).flatten) := by
  induction queues with
  | nil => exact List.Perm.refl _
  | cons queue queues ih =>
    cases queue with
    | nil => exact ih
    | cons a rest =>
      have apart : heads ((a :: rest) :: queues) ++ (tails ((a :: rest) :: queues)).flatten =
          a :: (heads queues ++ (rest ++ (tails queues).flatten)) := rfl
      rw [apart, List.flatten_cons, List.cons_append]
      refine List.Perm.cons a ?_
      refine (List.Perm.append_left rest ih).trans ?_
      rw [← List.append_assoc, ← List.append_assoc]
      exact List.Perm.append_right _ List.perm_append_comm

variable {queues : List (List α)}

theorem length_flatten_tails_lt (more : heads queues ≠ []) :
    (tails queues).flatten.length < queues.flatten.length := by
  have total := (perm_heads_append_tails queues).length_eq
  rw [List.length_append] at total
  have := List.length_pos_iff.mpr more
  omega

def roundRobin (queues : List (List α)) : List α :=
  if _more : heads queues = [] then [] else heads queues ++ roundRobin (tails queues)
termination_by queues.flatten.length
decreasing_by exact length_flatten_tails_lt _more

theorem roundRobin_of_heads_eq_nil (none : heads queues = []) : roundRobin queues = [] := by
  rw [roundRobin, dif_pos none]

theorem roundRobin_of_heads_ne_nil (more : heads queues ≠ []) :
    roundRobin queues = heads queues ++ roundRobin (tails queues) := by
  rw [roundRobin, dif_neg more]

theorem heads_eq_nil_iff : heads queues = [] ↔ queues.flatten = [] := by
  simp [heads, List.filterMap_eq_nil_iff]

/-- **Nothing is lost, and nothing is taken twice.** -/
theorem roundRobin_perm (queues : List (List α)) : (roundRobin queues).Perm queues.flatten := by
  induction queues using roundRobin.induct with
  | case1 queues none =>
    rw [roundRobin_of_heads_eq_nil none, (heads_eq_nil_iff).mp none]
  | case2 queues more ih =>
    rw [roundRobin_of_heads_ne_nil more]
    exact (List.Perm.append_left _ ih).trans (perm_heads_append_tails queues).symm

theorem mem_roundRobin {a : α} : a ∈ roundRobin queues ↔ ∃ queue ∈ queues, a ∈ queue := by
  rw [(roundRobin_perm queues).mem_iff, List.mem_flatten]

/-- Each queue has the elements of one key, and no key has two queues. -/
structure Separate (key : α → κ) (queues : List (List α)) : Prop where
  alike : ∀ queue ∈ queues, ∀ a ∈ queue, ∀ b ∈ queue, key a = key b
  apart : queues.Pairwise fun queue other => ∀ a ∈ queue, ∀ b ∈ other, key a ≠ key b

variable {key : α → κ}

theorem Separate.tails (separate : Separate key queues) : Separate key (tails queues) := by
  constructor
  · intro queue mem a hereA b hereB
    obtain ⟨whole, there, rfl⟩ := List.mem_map.mp mem
    exact separate.alike whole there a (List.mem_of_mem_tail hereA) b (List.mem_of_mem_tail hereB)
  · rw [Lib.tails, List.pairwise_map]
    refine separate.apart.imp fun apart a hereA b hereB => ?_
    exact apart a (List.mem_of_mem_tail hereA) b (List.mem_of_mem_tail hereB)

theorem mem_heads {a : α} : a ∈ heads queues ↔ ∃ queue ∈ queues, queue.head? = some a := by
  simp [heads]

theorem Separate.nodup_heads (separate : Separate key queues) : ((heads queues).map key).Nodup := by
  unfold heads
  rw [List.map_filterMap, List.Nodup, List.pairwise_filterMap]
  refine separate.apart.imp fun apart k here l there => ?_
  obtain ⟨a, first, rfl⟩ := Option.map_eq_some_iff.mp here
  obtain ⟨b, second, rfl⟩ := Option.map_eq_some_iff.mp there
  exact apart a (List.mem_of_mem_head? first) b (List.mem_of_mem_head? second)

theorem Separate.not_mem_of_not_mem_heads (separate : Separate key queues) {k : κ}
    (missing : k ∉ (heads queues).map key) : k ∉ (roundRobin queues).map key := by
  intro mem
  obtain ⟨a, here, rfl⟩ := List.mem_map.mp mem
  obtain ⟨queue, there, inside⟩ := (mem_roundRobin).mp here
  cases queue with
  | nil => cases inside
  | cons first rest =>
    have alike := separate.alike _ there first List.mem_cons_self a inside
    refine missing (List.mem_map.mpr ⟨first, (mem_heads).mpr ⟨_, there, rfl⟩, alike⟩)

/-- **No key falls behind.** -/
theorem roundRobin_fair [DecidableEq κ] (separate : Separate key queues) {taken : List α}
    (start : taken <+: roundRobin queues) (k l : κ) : (taken.map key).count k ≤ (taken.map key).count l + 1 ∨
      (taken.map key).count l = ((roundRobin queues).map key).count l := by
  induction queues using roundRobin.induct generalizing taken with
  | case1 queues none =>
    rw [roundRobin_of_heads_eq_nil none, List.prefix_nil] at start
    subst start
    exact .inl (Nat.zero_le _)
  | case2 queues more ih =>
    have once := separate.nodup_heads
    have atMost (k : κ) : ((heads queues).map key).count k ≤ 1 := List.nodup_iff_count_le_one.mp once k
    rw [roundRobin_of_heads_ne_nil more] at start
    obtain within | ⟨later, rfl⟩ := List.prefix_or_prefix_of_prefix start (List.prefix_append _ _)
    · have le : (taken.map key).count k ≤ ((heads queues).map key).count k :=
        (within.sublist.map key).count_le k
      exact .inl (by have := atMost k; omega)
    · have start := (List.prefix_append_right_inj _).mp start
      rw [roundRobin_of_heads_ne_nil more]
      simp only [List.map_append, List.count_append]
      by_cases missing : l ∈ (heads queues).map key
      · have one : 1 ≤ ((heads queues).map key).count l := List.one_le_count_iff.mpr missing
        have := atMost k
        obtain near | spent := ih separate.tails start
        · exact .inl (by omega)
        · exact .inr (by omega)
      · -- The key has no more elements.
        have spent := separate.not_mem_of_not_mem_heads missing
        rw [roundRobin_of_heads_ne_nil more, List.map_append, List.mem_append, not_or] at spent
        have none := List.count_eq_zero.mpr spent.2
        have less : (later.map key).count l ≤ ((roundRobin (tails queues)).map key).count l :=
          (start.sublist.map key).count_le l
        exact .inr (by omega)

end Lib
