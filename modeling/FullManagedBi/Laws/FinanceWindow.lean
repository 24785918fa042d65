import FullManagedBi.Laws.CursorLoops

/-!
# The workers of a finance window

Whatever the order in which the workers take their steps, a report that a worker took is stored with the outcome of its
loops, or a worker is on it, or a worker threw (`Crew`, kept by each step: `step_crew`). A step of a worker that has not
stopped lowers what remains (`step_remaining`). So each order of steps ends, and what is returned then is what is fetched
for each report, in the order of the reports: the same for each number of workers and each order (`fetchFinanceWindow_law`).
-/

namespace FullManagedBi.OpenApi

open Lib

variable {ρ δ α : Type} {F : FinanceFetch ρ δ α} {s : FinanceState δ α} {concurrency w i : Nat}

/-! ## Steps -/

inductive FinanceMove (F : FinanceFetch ρ δ α) (s : FinanceState δ α) (w : Nat) : FinanceState δ α → Prop
  | still (none_left : ∀ worker, s.workers[w]? = some worker → worker.stopped = true) : FinanceMove F s w s
  | take (here : s.workers[w]? = some .idle) (more : s.nextReport < F.reports.length) :
      FinanceMove F s w { s.move w (.sales s.nextReport {}) with nextReport := s.nextReport + 1 }
  | quit (here : s.workers[w]? = some .idle) (all : F.reports.length ≤ s.nextReport) : FinanceMove F s w (s.move w .ended)
  | salesFails {i loop report e} (here : s.workers[w]? = some (.sales i loop)) (there : F.reports[i]? = some report)
      (round : kindRound report.salesTotal (F.sales i report) loop = .error e) : FinanceMove F s w (s.reject w e)
  | salesNext {i loop report after} (here : s.workers[w]? = some (.sales i loop)) (there : F.reports[i]? = some report)
      (round : kindRound report.salesTotal (F.sales i report) loop = .ok (.next after)) :
      FinanceMove F s w (s.move w (.sales i after))
  | salesDone {i loop report rows} (here : s.workers[w]? = some (.sales i loop)) (there : F.reports[i]? = some report)
      (round : kindRound report.salesTotal (F.sales i report) loop = .ok (.done rows)) :
      FinanceMove F s w { s.move w (.adjustments i {}) with
        detailsByReport := Function.update s.detailsByReport i (some rows) }
  | adjustmentsFail {i loop report e} (here : s.workers[w]? = some (.adjustments i loop))
      (there : F.reports[i]? = some report)
      (round : kindRound report.adjustmentTotal (F.adjustments i report) loop = .error e) :
      FinanceMove F s w (s.reject w e)
  | adjustmentsNext {i loop report after} (here : s.workers[w]? = some (.adjustments i loop))
      (there : F.reports[i]? = some report)
      (round : kindRound report.adjustmentTotal (F.adjustments i report) loop = .ok (.next after)) :
      FinanceMove F s w (s.move w (.adjustments i after))
  | adjustmentsDone {i loop report rows} (here : s.workers[w]? = some (.adjustments i loop))
      (there : F.reports[i]? = some report)
      (round : kindRound report.adjustmentTotal (F.adjustments i report) loop = .ok (.done rows)) :
      FinanceMove F s w { s.move w .idle with
        adjustmentsByReport := Function.update s.adjustmentsByReport i (some rows) }

def FinanceWorker.On (i : Nat) : FinanceWorker δ α → Prop
  | .sales j _ | .adjustments j _ => j = i
  | .idle | .ended | .failed => False

theorem step_moves (known : ∀ worker, s.workers[w]? = some worker → ∀ i, worker.On i → i < F.reports.length) :
    FinanceMove F s w (F.step s w) := by
  unfold FinanceFetch.step
  split
  · next here =>
    split
    · next more => exact .take here more
    · next all => exact .quit here (not_lt.mp all)
  · next i loop here =>
    obtain ⟨report, there⟩ : ∃ report, F.reports[i]? = some report :=
      ⟨_, List.getElem?_eq_getElem (known _ here i rfl)⟩
    rw [there]
    cases round : kindRound report.salesTotal (F.sales i report) loop with
    | error e => simpa only [round] using .salesFails here there round
    | ok result =>
      cases result with
      | next after => simpa only [round] using .salesNext here there round
      | done rows => simpa only [round] using .salesDone here there round
  · next i loop here =>
    obtain ⟨report, there⟩ : ∃ report, F.reports[i]? = some report :=
      ⟨_, List.getElem?_eq_getElem (known _ here i rfl)⟩
    rw [there]
    cases round : kindRound report.adjustmentTotal (F.adjustments i report) loop with
    | error e => simpa only [round] using .adjustmentsFail here there round
    | ok result =>
      cases result with
      | next after => simpa only [round] using .adjustmentsNext here there round
      | done rows => simpa only [round] using .adjustmentsDone here there round
  · next here => exact .still fun worker same => by rw [here] at same; exact Option.some.inj same ▸ rfl
  · next here => exact .still fun worker same => by rw [here] at same; exact Option.some.inj same ▸ rfl
  · next here => exact .still fun worker same => by rw [here] at same; exact nomatch same

/-! ## The invariant of the workers -/

/-- The outcome of the loop over the sales details of a report. -/
def SalesEnd (F : FinanceFetch ρ δ α) (i : Nat) (loop : CursorLoop δ) (outcome : Except JsError (List δ)) : Prop :=
  ∃ report, F.reports[i]? = some report ∧ Ends report.salesTotal (F.sales i report) loop outcome

def AdjustmentsEnd (F : FinanceFetch ρ δ α) (i : Nat) (loop : CursorLoop α) (outcome : Except JsError (List α)) :
    Prop :=
  ∃ report, F.reports[i]? = some report ∧ Ends report.adjustmentTotal (F.adjustments i report) loop outcome

/-- Where a worker stands: on the way to the outcome of its report. -/
def FinanceWorker.Sound (F : FinanceFetch ρ δ α) (s : FinanceState δ α) : FinanceWorker δ α → Prop
  | .idle => True
  | .sales i loop => i < s.nextReport ∧ ∀ outcome, SalesEnd F i loop outcome → SalesEnd F i {} outcome
  | .adjustments i loop => i < s.nextReport ∧ (s.detailsByReport i).isSome ∧
      ∀ outcome, AdjustmentsEnd F i loop outcome → AdjustmentsEnd F i {} outcome
  | .ended => F.reports.length ≤ s.nextReport
  | .failed => s.rejection.isSome

def Stored (s : FinanceState δ α) (i : Nat) : Prop := (s.detailsByReport i).isSome ∧ (s.adjustmentsByReport i).isSome

/-- The invariant: what is stored, and what is rejected, is an outcome; and each report that was taken is stored, or a
worker is on it, or a worker threw. -/
structure Crew (F : FinanceFetch ρ δ α) (concurrency : Nat) (s : FinanceState δ α) : Prop where
  size : s.workers.length = min concurrency F.reports.length
  inside : s.nextReport ≤ F.reports.length
  sound : ∀ (w : Nat) worker, s.workers[w]? = some worker → worker.Sound F s
  details : ∀ i rows, s.detailsByReport i = some rows → SalesEnd F i {} (.ok rows)
  adjustments : ∀ i rows, s.adjustmentsByReport i = some rows → AdjustmentsEnd F i {} (.ok rows)
  rejected : ∀ e, s.rejection = some e → ∃ i, SalesEnd F i {} (.error e) ∨ AdjustmentsEnd F i {} (.error e)
  covered : ∀ i < s.nextReport,
    Stored s i ∨ (∃ (w : Nat) (worker : FinanceWorker δ α), s.workers[w]? = some worker ∧ worker.On i) ∨
      s.rejection.isSome

/-- What is taken, stored and rejected stays so. -/
structure Grows (s t : FinanceState δ α) : Prop where
  taken : s.nextReport ≤ t.nextReport
  details : ∀ i, (s.detailsByReport i).isSome → (t.detailsByReport i).isSome
  adjustments : ∀ i, (s.adjustmentsByReport i).isSome → (t.adjustmentsByReport i).isSome
  rejection : s.rejection.isSome → t.rejection.isSome

variable {t : FinanceState δ α}

theorem FinanceWorker.Sound.grows {worker : FinanceWorker δ α} (grows : Grows s t)
    (sound : worker.Sound F s) : worker.Sound F t := by
  cases worker with
  | idle => trivial
  | sales i loop => exact ⟨sound.1.trans_le grows.taken, sound.2⟩
  | adjustments i loop => exact ⟨sound.1.trans_le grows.taken, grows.details i sound.2.1, sound.2.2⟩
  | ended => exact le_trans sound grows.taken
  | failed => exact grows.rejection sound

variable {old new : FinanceWorker δ α}

/-- The invariant is kept where a worker moves, what there was stays, and the report of the worker is accounted for. -/
theorem Crew.replace (crew : Crew F concurrency s) (here : s.workers[w]? = some old)
    (moved : t.workers = s.workers.set w new) (grows : Grows s t)
    (inside : t.nextReport ≤ F.reports.length) (sound : new.Sound F t)
    (details : ∀ i rows, t.detailsByReport i = some rows → SalesEnd F i {} (.ok rows))
    (adjustments : ∀ i rows, t.adjustmentsByReport i = some rows → AdjustmentsEnd F i {} (.ok rows))
    (rejected : ∀ e, t.rejection = some e → ∃ i, SalesEnd F i {} (.error e) ∨ AdjustmentsEnd F i {} (.error e))
    (account : ∀ i < t.nextReport, old.On i ∨ s.nextReport ≤ i → Stored t i ∨ new.On i ∨ t.rejection.isSome) :
    Crew F concurrency t := by
  have bound : w < s.workers.length := (List.getElem?_eq_some_iff.mp here).1
  have now : t.workers[w]? = some new := by rw [moved, List.getElem?_set_self bound]
  have others : ∀ v, v ≠ w → t.workers[v]? = s.workers[v]? := by
    intro v other
    rw [moved, List.getElem?_set_ne other.symm]
  refine ⟨?_, inside, ?_, details, adjustments, rejected, ?_⟩
  · rw [moved, List.length_set]
    exact crew.size
  · intro v worker there
    by_cases same : v = w
    · rw [same, now] at there
      exact Option.some.inj there ▸ sound
    · rw [others v same] at there
      exact (crew.sound v worker there).grows grows
  · intro i taken
    have this_worker : old.On i ∨ s.nextReport ≤ i → Stored t i ∨
        (∃ (w : Nat) (worker : FinanceWorker δ α), t.workers[w]? = some worker ∧ worker.On i) ∨ t.rejection.isSome := by
      intro on
      rcases account i taken on with stored | on | rejected
      · exact .inl stored
      · exact .inr (.inl ⟨w, new, now, on⟩)
      · exact .inr (.inr rejected)
    rcases Nat.lt_or_ge i s.nextReport with before | fresh
    · rcases crew.covered i before with stored | ⟨v, worker, there, on⟩ | rejected
      · exact .inl ⟨grows.details i stored.1, grows.adjustments i stored.2⟩
      · by_cases same : v = w
        · rw [same, here] at there
          exact this_worker (.inl (Option.some.inj there ▸ on))
        · exact .inr (.inl ⟨v, worker, (others v same).trans there, on⟩)
      · exact .inr (.inr (grows.rejection rejected))
    · exact this_worker (.inr fresh)

variable {report : FinanceReport ρ}

theorem salesEnd_next {loop after : CursorLoop δ} (there : F.reports[i]? = some report)
    (round : kindRound report.salesTotal (F.sales i report) loop = .ok (.next after))
    {outcome : Except JsError (List δ)} (rest : SalesEnd F i after outcome) : SalesEnd F i loop outcome := by
  obtain ⟨other, same, rest⟩ := rest
  obtain rfl := Option.mem_unique there same
  exact ⟨report, there, .next round rest⟩

theorem adjustmentsEnd_next {loop after : CursorLoop α} (there : F.reports[i]? = some report)
    (round : kindRound report.adjustmentTotal (F.adjustments i report) loop = .ok (.next after))
    {outcome : Except JsError (List α)} (rest : AdjustmentsEnd F i after outcome) : AdjustmentsEnd F i loop outcome := by
  obtain ⟨other, same, rest⟩ := rest
  obtain rfl := Option.mem_unique there same
  exact ⟨report, there, .next round rest⟩

theorem Crew.reject (crew : Crew F concurrency s) {old : FinanceWorker δ α} {e : JsError}
    (here : s.workers[w]? = some old) (failed : ∃ i, SalesEnd F i {} (.error e) ∨ AdjustmentsEnd F i {} (.error e)) :
    Crew F concurrency (s.reject w e) := by
  have thrown : (s.reject w e).rejection.isSome := by simp [FinanceState.reject]
  refine crew.replace here rfl ⟨le_rfl, fun _ => id, fun _ => id, fun _ => thrown⟩ crew.inside thrown crew.details
    crew.adjustments ?_ fun _ _ _ => .inr (.inr thrown)
  intro other same
  change s.rejection.or (some e) = some other at same
  cases before : s.rejection with
  | none =>
    rw [before, Option.none_or] at same
    exact Option.some.inj same ▸ failed
  | some first =>
    rw [before, Option.some_or] at same
    exact crew.rejected other (before.trans same)

theorem isSome_update {β : Type} {stored : Nat → Option β} {j : Nat} (value : β) (there : (stored j).isSome) :
    (Function.update stored i (some value) j).isSome := by
  rw [Function.update_apply]
  split
  · rfl
  · exact there

theorem Crew.moves (crew : Crew F concurrency s) (w : Nat) : FinanceMove F s w (F.step s w) := by
  apply step_moves
  intro worker there i on
  have sound := crew.sound w worker there
  cases worker with
  | sales j loop => exact on ▸ sound.1.trans_le crew.inside
  | adjustments j loop => exact on ▸ sound.1.trans_le crew.inside
  | idle => exact on.elim
  | ended => exact on.elim
  | failed => exact on.elim

/-- **Each step keeps the invariant.** -/
theorem step_crew (s : FinanceState δ α) (w : Nat) (crew : Crew F concurrency s) : Crew F concurrency (F.step s w) := by
  have moves : FinanceMove F s w (F.step s w) := crew.moves w
  generalize F.step s w = t at moves ⊢
  cases moves with
  | still => exact crew
  | take here more =>
    refine crew.replace here rfl ⟨Nat.le_succ _, fun _ => id, fun _ => id, id⟩ more
      ⟨Nat.lt_succ_self _, fun _ => id⟩ crew.details crew.adjustments crew.rejected ?_
    intro i taken account
    rcases account with on | fresh
    · exact on.elim
    · exact .inr (.inl (le_antisymm fresh (Nat.le_of_lt_succ taken)))
  | quit here all =>
    refine crew.replace here rfl ⟨le_rfl, fun _ => id, fun _ => id, id⟩ crew.inside all crew.details crew.adjustments
      crew.rejected ?_
    intro i taken account
    rcases account with on | fresh
    · exact on.elim
    · exact absurd taken (not_lt.mpr fresh)
  | @salesFails i loop report e here there round =>
    have sound := (crew.sound w _ here).2
    exact crew.reject here ⟨i, .inl (sound _ ⟨report, there, .fails round⟩)⟩
  | @salesNext i loop report after here there round =>
    have sound := crew.sound w _ here
    refine crew.replace here rfl ⟨le_rfl, fun _ => id, fun _ => id, id⟩ crew.inside
      ⟨sound.1, fun outcome rest => sound.2 outcome (salesEnd_next there round rest)⟩ crew.details crew.adjustments
      crew.rejected ?_
    intro j taken account
    rcases account with on | fresh
    · exact .inr (.inl on)
    · exact absurd taken (not_lt.mpr fresh)
  | @salesDone i loop report rows here there round =>
    have sound := crew.sound w _ here
    refine crew.replace here rfl ⟨le_rfl, fun j => isSome_update rows, fun _ => id, id⟩ crew.inside
      ⟨sound.1, by simp, fun _ => id⟩ ?_ crew.adjustments crew.rejected ?_
    · intro j others same
      simp only [Function.update_apply] at same
      split at same
      · next here =>
        obtain rfl := Option.some.inj same
        exact here ▸ sound.2 _ ⟨report, there, .done round⟩
      · exact crew.details j others same
    · intro j taken account
      rcases account with on | fresh
      · exact .inr (.inl on)
      · exact absurd taken (not_lt.mpr fresh)
  | @adjustmentsFail i loop report e here there round =>
    have sound := (crew.sound w _ here).2.2
    exact crew.reject here ⟨i, .inr (sound _ ⟨report, there, .fails round⟩)⟩
  | @adjustmentsNext i loop report after here there round =>
    have sound := crew.sound w _ here
    refine crew.replace here rfl ⟨le_rfl, fun _ => id, fun _ => id, id⟩ crew.inside
      ⟨sound.1, sound.2.1, fun outcome rest => sound.2.2 outcome (adjustmentsEnd_next there round rest)⟩ crew.details
      crew.adjustments crew.rejected ?_
    intro j taken account
    rcases account with on | fresh
    · exact .inr (.inl on)
    · exact absurd taken (not_lt.mpr fresh)
  | @adjustmentsDone i loop report rows here there round =>
    have sound := crew.sound w _ here
    refine crew.replace here rfl ⟨le_rfl, fun _ => id, fun j => isSome_update rows, id⟩ crew.inside trivial crew.details
      ?_ crew.rejected ?_
    · intro j others same
      simp only [Function.update_apply] at same
      split at same
      · next here =>
        obtain rfl := Option.some.inj same
        exact here ▸ sound.2.2 _ ⟨report, there, .done round⟩
      · exact crew.adjustments j others same
    · intro j taken account
      rcases account with on | fresh
      · obtain rfl : i = j := on
        exact .inl ⟨sound.2.1, by simp⟩
      · exact absurd taken (not_lt.mpr fresh)

variable (F concurrency) in
theorem start_crew : Crew F concurrency (F.start concurrency) := by
  refine ⟨by simp [FinanceFetch.start], Nat.zero_le _, ?_, nofun, nofun, nofun, nofun⟩
  intro w worker there
  rw [FinanceFetch.start, List.getElem?_replicate] at there
  split at there
  · obtain rfl := Option.some.inj there
    trivial
  · exact nomatch there

variable (F concurrency) in
theorem run_crew (order : List Nat) : Crew F concurrency (run F.step (F.start concurrency) order) :=
  run_invariant (I := Crew F concurrency) step_crew (start_crew F concurrency) order

/-! ## The end of the workers -/

def FinanceState.Busy (s : FinanceState δ α) (w : Nat) : Prop :=
  ∃ worker, s.workers[w]? = some worker ∧ worker.stopped = false

/-- How many steps a worker has left on its report, at most. -/
def FinanceFetch.left (F : FinanceFetch ρ δ α) : FinanceWorker δ α → Nat
  | .idle => 1
  | .sales _ loop => 3 + F.options.maxAdjustments + (F.options.maxDetails - loop.rows.length)
  | .adjustments _ loop => 2 + (F.options.maxAdjustments - loop.rows.length)
  | .ended | .failed => 0

def FinanceFetch.perReport (F : FinanceFetch ρ δ α) : Nat := 3 + F.options.maxAdjustments + F.options.maxDetails

/-- How many steps the workers have left, at most. -/
def FinanceFetch.remaining (F : FinanceFetch ρ δ α) (s : FinanceState δ α) : Nat :=
  (F.reports.length - s.nextReport) * F.perReport + (s.workers.map F.left).sum

theorem sum_map_set {β : Type} {f : β → Nat} {list : List β} {old : β} (here : list[i]? = some old) (new : β) :
    ((list.set i new).map f).sum + f old = (list.map f).sum + f new := by
  induction list generalizing i with
  | nil => exact nomatch here
  | cons first list ih =>
    cases i with
    | zero =>
      obtain rfl := Option.some.inj here
      simp only [List.set_cons_zero, List.map_cons, List.sum_cons]
      omega
    | succ i =>
      have rest := ih here
      simp only [List.set_cons_succ, List.map_cons, List.sum_cons]
      omega

theorem remaining_move (here : s.workers[w]? = some old) (moved : t.workers = s.workers.set w new)
    (same : t.nextReport = s.nextReport) (less : F.left new < F.left old) : F.remaining t < F.remaining s := by
  have sums := sum_map_set (f := F.left) here new
  simp only [FinanceFetch.remaining, moved, same]
  omega

/-- **A step of a worker that has not stopped lowers what remains.** -/
theorem step_remaining (crew : Crew F concurrency s) (busy : s.Busy w) : F.remaining (F.step s w) < F.remaining s := by
  have moves := crew.moves w
  generalize F.step s w = t at moves ⊢
  cases moves with
  | still none_left =>
    obtain ⟨worker, here, working⟩ := busy
    exact absurd (none_left worker here) (ne_true_of_eq_false working)
  | take here more =>
    -- The report brings in at most what it takes.
    have sums := sum_map_set (f := F.left) here (.sales s.nextReport {})
    have split_ : F.reports.length - s.nextReport = (F.reports.length - (s.nextReport + 1)) + 1 := by omega
    have start : F.left (.sales s.nextReport {}) = F.perReport := rfl
    have idle : F.left .idle = 1 := rfl
    simp only [FinanceFetch.remaining, FinanceState.move]
    rw [split_, Nat.add_mul]
    omega
  | quit here all => exact remaining_move here rfl rfl Nat.zero_lt_one
  | salesFails here there round =>
    refine remaining_move here rfl rfl ?_
    simp only [FinanceFetch.left]
    omega
  | salesNext here there round =>
    refine remaining_move here rfl rfl ?_
    have more := kindRound_next round
    simp only [FinanceFetch.sales] at more
    simp only [FinanceFetch.left]
    omega
  | salesDone here there round =>
    refine remaining_move here rfl rfl ?_
    simp only [FinanceFetch.left, List.length_nil]
    omega
  | adjustmentsFail here there round =>
    refine remaining_move here rfl rfl ?_
    simp only [FinanceFetch.left]
    omega
  | adjustmentsNext here there round =>
    refine remaining_move here rfl rfl ?_
    have more := kindRound_next round
    simp only [FinanceFetch.adjustments] at more
    simp only [FinanceFetch.left]
    omega
  | adjustmentsDone here there round =>
    refine remaining_move here rfl rfl ?_
    simp only [FinanceFetch.left]
    omega

/-- The steps of workers that have not stopped are no more than what remains. -/
theorem busy_steps_le {order : List Nat} (crew : Crew F concurrency s) (busy : Along F.step FinanceState.Busy s order) :
    order.length ≤ F.remaining s := by
  induction order generalizing s with
  | nil => exact Nat.zero_le _
  | cons w order ih =>
    have less := step_remaining crew busy.1
    have rest := ih (step_crew s w crew) busy.2
    rw [List.length_cons]
    omega

theorem exists_busy (open_ : s.settled = false) : ∃ w, s.Busy w := by
  rw [FinanceState.settled, Bool.or_eq_false_iff] at open_
  obtain ⟨worker, mem, working⟩ := List.all_eq_false.mp open_.2
  obtain ⟨w, there⟩ := List.getElem?_of_mem mem
  exact ⟨w, worker, there, Bool.eq_false_iff.mpr working⟩

theorem exists_settled (crew : Crew F concurrency s) : ∃ order, (run F.step s order).settled = true := by
  induction measure_ : F.remaining s using Nat.strong_induction_on generalizing s with
  | _ left ih =>
    cases done : s.settled with
    | true => exact ⟨[], done⟩
    | false =>
      obtain ⟨w, busy⟩ := exists_busy done
      obtain ⟨order, settled⟩ := ih _ (measure_ ▸ step_remaining crew busy) (step_crew s w crew) rfl
      exact ⟨w :: order, settled⟩

/-! ## What is returned -/

/-- What is fetched: the details of each report, and its adjustments, in the order of the reports. -/
def FinanceFetch.Fetches (F : FinanceFetch ρ δ α) (result : FinanceWindowResult ρ δ α) : Prop :=
  ∃ (details : Nat → List δ) (adjustments : Nat → List α),
    (∀ i report, F.reports[i]? = some report → Fetched report.salesTotal (F.sales i report) (details i) ∧
      Fetched report.adjustmentTotal (F.adjustments i report) (adjustments i)) ∧
    result = ⟨F.reports, (List.range F.reports.length).flatMap details,
      (List.range F.reports.length).flatMap adjustments⟩ ∧
    result.details.length ≤ F.options.maxDetails ∧ result.adjustments.length ≤ F.options.maxAdjustments

theorem finish_eq_ok_iff {result : FinanceWindowResult ρ δ α} : F.finish s = .ok result ↔ s.rejection = none ∧
    result = ⟨F.reports, flatByReport F.reports.length s.detailsByReport,
      flatByReport F.reports.length s.adjustmentsByReport⟩ ∧
    result.details.length ≤ F.options.maxDetails ∧ result.adjustments.length ≤ F.options.maxAdjustments := by
  unfold FinanceFetch.finish
  cases s.rejection with
  | some e => exact iff_of_false nofun nofun
  | none =>
    simp only [true_and]
    rw [check_ok_iff, check_ok_iff, refuse_eq_ok, refuse_eq_ok, not_lt, not_lt]
    constructor
    · rintro ⟨details, adjustments, same⟩
      obtain rfl := Except.ok.inj same
      exact ⟨rfl, details, adjustments⟩
    · rintro ⟨rfl, details, adjustments⟩
      exact ⟨details, adjustments, rfl⟩

theorem stored_of_settled (some_worker : 1 ≤ concurrency) (crew : Crew F concurrency s) (settled : s.settled = true)
    (kept : s.rejection = none) (inside : i < F.reports.length) : Stored s i := by
  simp only [FinanceState.settled, kept, Option.isSome_none, Bool.false_or, List.all_eq_true] at settled
  have ended : ∀ (w : Nat) worker, s.workers[w]? = some worker → worker = .ended := by
    intro w worker there
    have stopped := settled worker (List.mem_of_getElem? there)
    have sound := crew.sound w worker there
    cases worker with
    | ended => rfl
    | failed => exact absurd sound (by simp [FinanceWorker.Sound, kept])
    | idle => exact nomatch stopped
    | sales j loop => exact nomatch stopped
    | adjustments j loop => exact nomatch stopped
  have all : F.reports.length ≤ s.nextReport := by
    have size := crew.size
    have there : s.workers[0]? = some (s.workers.get ⟨0, by omega⟩) := List.getElem?_eq_getElem (by omega)
    have sound := crew.sound 0 _ there
    rwa [ended 0 _ there] at sound
  rcases crew.covered i (inside.trans_le all) with stored | ⟨w, worker, there, on⟩ | rejected
  · exact stored
  · rw [ended w worker there] at on
    exact on.elim
  · rw [kept] at rejected
    exact nomatch rejected

/-- **What the workers return is what is fetched for each report**, in the order of the reports. -/
theorem finish_iff_fetches (some_worker : 1 ≤ concurrency) (crew : Crew F concurrency s) (settled : s.settled = true)
    (result : FinanceWindowResult ρ δ α) : F.finish s = .ok result ↔ F.Fetches result := by
  rw [finish_eq_ok_iff]
  constructor
  · rintro ⟨kept, same, bounds⟩
    refine ⟨fun i => (s.detailsByReport i).getD [], fun i => (s.adjustmentsByReport i).getD [], ?_, same, bounds⟩
    intro i report there
    obtain ⟨details, adjustments⟩ := stored_of_settled some_worker crew settled kept (List.getElem?_eq_some_iff.mp there).1
    obtain ⟨rows, details⟩ := Option.isSome_iff_exists.mp details
    obtain ⟨others, adjustments⟩ := Option.isSome_iff_exists.mp adjustments
    obtain ⟨first, here, sales⟩ := crew.details i rows details
    obtain ⟨second, also_, adjusted⟩ := crew.adjustments i others adjustments
    obtain rfl := Option.mem_unique there here
    obtain rfl := Option.mem_unique there also_
    simp only [details, adjustments, Option.getD_some]
    exact ⟨ends_ok_iff_fetched.mp sales, ends_ok_iff_fetched.mp adjusted⟩
  · rintro ⟨details, adjustments, fetched, same, bounds⟩
    have sales : ∀ i outcome, SalesEnd F i {} outcome → outcome = .ok (details i) := by
      rintro i outcome ⟨report, there, h⟩
      exact ends_unique h (ends_ok_iff_fetched.mpr (fetched i report there).1)
    have adjusted : ∀ i outcome, AdjustmentsEnd F i {} outcome → outcome = .ok (adjustments i) := by
      rintro i outcome ⟨report, there, h⟩
      exact ends_unique h (ends_ok_iff_fetched.mpr (fetched i report there).2)
    have kept : s.rejection = none := by
      cases there : s.rejection with
      | none => rfl
      | some e =>
        obtain ⟨i, failed | failed⟩ := crew.rejected e there
        · exact nomatch sales i _ failed
        · exact nomatch adjusted i _ failed
    refine ⟨kept, ?_, bounds⟩
    rw [same]
    congr 1
    · apply List.flatMap_congr
      intro i mem
      obtain ⟨stored, -⟩ := stored_of_settled some_worker crew settled kept (List.mem_range.mp mem)
      obtain ⟨rows, there⟩ := Option.isSome_iff_exists.mp stored
      rw [there]
      exact (Except.ok.inj (sales i _ (crew.details i rows there))).symm
    · apply List.flatMap_congr
      intro i mem
      obtain ⟨-, stored⟩ := stored_of_settled some_worker crew settled kept (List.mem_range.mp mem)
      obtain ⟨rows, there⟩ := Option.isSome_iff_exists.mp stored
      rw [there]
      exact (Except.ok.inj (adjusted i _ (crew.adjustments i rows there))).symm

/-! ## The window -/

variable {R : FinanceReaders ρ δ α} {client : FinanceClient} {options : FinanceOptions} {rounds : Nat}
  {order : List Nat}

/-- What is fetched for a window: the reports of its list, and what is fetched for each. -/
def WindowFetched (R : FinanceReaders ρ δ α) (client : FinanceClient) (options : FinanceOptions)
    (result : FinanceWindowResult ρ δ α) : Prop :=
  requireFinanceWindow options = .ok () ∧
  (∃ front last, ReportChain R client options 1 0 front last ∧ result.reports = pageReports (front ++ [last])) ∧
  FinanceFetch.Fetches ⟨R, client, options, result.reports⟩ result

theorem windowFetched_concurrency {result : FinanceWindowResult ρ δ α} (concurrency : Option Int) :
    WindowFetched R client { options with detailConcurrency := concurrency } result ↔
      WindowFetched R client options result := by
  constructor
  · rintro ⟨window, ⟨front, last, chain, same⟩, fetched⟩
    exact ⟨window, ⟨front, last, ⟨chain.answers, chain.more, chain.whole, chain.within⟩, same⟩, fetched⟩
  · rintro ⟨window, ⟨front, last, chain, same⟩, fetched⟩
    exact ⟨window, ⟨front, last, ⟨chain.answers, chain.more, chain.whole, chain.within⟩, same⟩, fetched⟩

theorem requireConcurrency_pos {concurrency : Nat} (valid : requireConcurrency options = .ok concurrency) :
    1 ≤ concurrency := by
  unfold requireConcurrency at valid
  split at valid
  · split at valid
    · exact nomatch valid
    · obtain rfl := Except.ok.inj valid
      omega
  · exact nomatch valid

/-- What is ahead of the workers comes to: the reports of the list, under valid options. -/
theorem prepareFinanceWindow_ok_iff {outcome : Except JsError (FinanceFetch ρ δ α × Nat)}
    (h : prepareFinanceWindow R client options rounds = some outcome) {F : FinanceFetch ρ δ α} {concurrency : Nat} :
    outcome = .ok (F, concurrency) ↔ requireFinanceWindow options = .ok () ∧
      requireConcurrency options = .ok concurrency ∧ F = ⟨R, client, options, F.reports⟩ ∧
      ∃ front last, ReportChain R client options 1 0 front last ∧ F.reports = pageReports (front ++ [last]) := by
  unfold prepareFinanceWindow at h
  split at h
  · next e refused =>
    obtain rfl := Option.some.inj h
    exact iff_of_false nofun fun valid => nomatch refused.symm.trans valid.1
  · next window =>
    obtain ⟨listed, listing, rfl⟩ := Option.map_eq_some_iff.mp h
    have reads : ∀ reports, listed = .ok reports ↔ ∃ front last, ReportChain R client options 1 0 front last ∧
        reports = pageReports (front ++ [last]) := by
      intro reports
      have read : listed = .ok reports ↔ ∃ front last, ReportChain R client options 1 ([] : List (FinanceReport ρ)).length
          front last ∧ reports = [] ++ pageReports (front ++ [last]) := listReports_ok_iff listing
      simpa using read
    constructor
    · intro done
      obtain ⟨reports, same, done⟩ := bind_eq_ok done
      obtain ⟨found, valid, done⟩ := bind_eq_ok done
      obtain ⟨rfl, rfl⟩ := Prod.mk.inj (Except.ok.inj done)
      exact ⟨window, valid, rfl, (reads reports).mp same⟩
    · rintro ⟨-, valid, same, chain⟩
      rw [(reads F.reports).mpr chain, valid, same]
      rfl

theorem fetchFinanceWindow_ok_iff {outcome : Except JsError (FinanceWindowResult ρ δ α)}
    (h : fetchFinanceWindow R client options rounds order = some outcome) (result : FinanceWindowResult ρ δ α) :
    outcome = .ok result ↔ (∃ concurrency, requireConcurrency options = .ok concurrency) ∧
      WindowFetched R client options result := by
  unfold fetchFinanceWindow at h
  split at h
  · exact nomatch h
  · next e prepared =>
    obtain rfl := Option.some.inj h
    refine iff_of_false nofun ?_
    rintro ⟨⟨concurrency, valid⟩, window, chain, -⟩
    have refused := (prepareFinanceWindow_ok_iff prepared (F := ⟨R, client, options, result.reports⟩)).mpr
      ⟨window, valid, rfl, chain⟩
    exact nomatch refused
  · next F concurrency prepared =>
    obtain ⟨window, valid, same, chain⟩ := (prepareFinanceWindow_ok_iff prepared).mp rfl
    dsimp only at h
    split at h
    · next settled =>
      obtain rfl := Option.some.inj h
      rw [finish_iff_fetches (requireConcurrency_pos valid) (run_crew F concurrency order) settled]
      constructor
      · intro fetched
        have reports : result.reports = F.reports := by
          obtain ⟨details, adjustments, -, shape, -⟩ := fetched
          rw [shape]
        refine ⟨⟨concurrency, valid⟩, window, reports ▸ chain, ?_⟩
        rwa [reports, ← same]
      · rintro ⟨-, -, ⟨front, last, others, listed⟩, fetched⟩
        have reports : result.reports = F.reports := by
          have again := (prepareFinanceWindow_ok_iff prepared (F := ⟨R, client, options, result.reports⟩)).mpr
            ⟨window, valid, rfl, front, last, others, listed⟩
          rw [(Prod.mk.inj (Except.ok.inj again)).1]
        rwa [reports, ← same] at fetched
    · exact nomatch h

theorem exists_fetchFinanceWindow (R : FinanceReaders ρ δ α) (client : FinanceClient) (options : FinanceOptions)
    (order : List Nat) :
    ∃ rest, (fetchFinanceWindow R client options (options.maxReports + 1) (order ++ rest)).isSome := by
  have listed : ∃ outcome, listReports R client options (options.maxReports + 1) 1 [] = some outcome :=
    exists_listReports (Nat.zero_le _) (by simp)
  have prepared : ∃ outcome, prepareFinanceWindow R client options (options.maxReports + 1) = some outcome := by
    unfold prepareFinanceWindow
    split
    · exact ⟨_, rfl⟩
    · obtain ⟨outcome, listed⟩ := listed
      exact ⟨_, by rw [listed, Option.map_some]⟩
  obtain ⟨outcome, prepared⟩ := prepared
  simp only [fetchFinanceWindow, prepared]
  cases outcome with
  | error e => exact ⟨[], rfl⟩
  | ok ready =>
    obtain ⟨rest, settled⟩ := exists_settled (run_crew ready.1 ready.2 order)
    refine ⟨rest, ?_⟩
    simp only [run_append, settled, if_true, Option.isSome_some]

/-- **A finance window.** Each order of steps of the workers leads to an outcome, in which workers that have not stopped
take no more steps than remain at the start. The outcome is a result exactly where each loop of each report returns: the
reports of the list in order, and for each report, in the order of the reports, the rows of the answers from the request
without a cursor to the answer without one, where each request in between carries the cursor of the answer before it
and the number of the rows is the count of the last answer; a report with the total zero is not asked for. The result is
the same for each concurrency and each order of steps. Where the answers depend on the cursor alone, no cursor is asked
twice. -/
theorem fetchFinanceWindow_law (R : FinanceReaders ρ δ α) (client : FinanceClient) (options : FinanceOptions) :
    (∀ order, ∃ rest, (fetchFinanceWindow R client options (options.maxReports + 1) (order ++ rest)).isSome) ∧
    (∀ (F : FinanceFetch ρ δ α) concurrency order, Along F.step FinanceState.Busy (F.start concurrency) order →
      order.length ≤ F.remaining (F.start concurrency)) ∧
    (∀ rounds order outcome, fetchFinanceWindow R client options rounds order = some outcome → ∀ result,
      outcome = .ok result ↔ (∃ concurrency, requireConcurrency options = .ok concurrency) ∧
        WindowFetched R client options result) ∧
    (∀ few many rounds order otherRounds otherOrder outcome other,
      (requireConcurrency { options with detailConcurrency := few }).isOk →
      (requireConcurrency { options with detailConcurrency := many }).isOk →
      fetchFinanceWindow R client { options with detailConcurrency := few } rounds order = some outcome →
      fetchFinanceWindow R client { options with detailConcurrency := many } otherRounds otherOrder = some other →
      ∀ result, outcome = .ok result ↔ other = .ok result) ∧
    ∀ (β : Type) (kind : CursorKind β) front last, kind.Stateless → CursorChain kind {} front last →
      (queriesOf none front).Nodup := by
  refine ⟨exists_fetchFinanceWindow R client options, ?_, ?_, ?_, ?_⟩
  · intro F concurrency order busy
    exact busy_steps_le (start_crew F concurrency) busy
  · intro rounds order outcome done result
    exact fetchFinanceWindow_ok_iff done result
  · intro few many rounds order otherRounds otherOrder outcome other validFew validMany done otherDone result
    have valid : ∀ value : Except JsError Nat, value.isOk → ∃ n, value = .ok n := by
      intro value ok
      cases value with
      | ok n => exact ⟨n, rfl⟩
      | error e => exact nomatch ok
    rw [fetchFinanceWindow_ok_iff done, fetchFinanceWindow_ok_iff otherDone, windowFetched_concurrency few,
      windowFetched_concurrency many, and_iff_right (valid _ validFew), and_iff_right (valid _ validMany)]
  · intro β kind front last stateless chain
    exact queries_nodup stateless chain

/-! ## A cursor that is answered twice -/

theorem isSha256Hex_as (_ : String) : isSha256Hex (String.ofList (List.replicate 64 'a')) = true :=
  isSha256Hex_replicate (by decide)

def idReaders : FinanceReaders Unit String String where
  number _ := none
  text := .ascii
  digest := ⟨fun _ => String.ofList (List.replicate 64 'a'), isSha256Hex_as⟩
  reportFields _ := .ok ()
  salesRow _ row _ := .ok (textOrEmpty (row.field? "id"))
  adjustmentRow _ row _ := .ok (textOrEmpty (row.field? "id"))

def answerOf (info : List (String × Json)) : Option Json := some (.obj [("code", .str "0"), ("info", .obj info)])

def salesAnswer (id : String) (count : Nat) (query : Json) : Option Json :=
  answerOf [("count", .ofNat count), ("query", query), ("reportSalesDetails", .arr [.obj [("id", .str id)]])]

/-- A platform with one report, that answers the first two requests for its details with the same row and the same
cursor. -/
def repeatingClient : FinanceClient where
  reportList _ := .ok (answerOf [("count", .ofNat 1),
    ("reportOrderInfos", .arr [.obj [("reportOrderNo", .str "R1"), ("replenishTotal", .ofNat 0)]])])
  salesDetail _ asked := .ok (
    if asked.length < 3 then salesAnswer "sale-7" 1 (.str "A") else salesAnswer "sale-8" 3 .null)
  adjustmentDetail _ _ := .ok none

def oneDay : FinanceOptions := { startDate := "2026-01-01", endDate := "2026-01-01" }

theorem repeatingClient_result : ∃ result,
    fetchFinanceWindow idReaders repeatingClient oneDay 1 (List.replicate 6 0) = some (.ok result) ∧
      result.details = ["sale-7", "sale-7", "sale-8"] := by
  have details : ((fetchFinanceWindow idReaders repeatingClient oneDay 1 (List.replicate 6 0)).bind
      Except.toOption).map FinanceWindowResult.details = some ["sale-7", "sale-7", "sale-8"] := by decide +kernel
  obtain ⟨result, there, same⟩ := Option.map_eq_some_iff.mp details
  obtain ⟨outcome, done, ok⟩ := Option.bind_eq_some_iff.mp there
  cases outcome with
  | error e => exact nomatch ok
  | ok value =>
    obtain rfl := Option.some.inj ok
    exact ⟨value, done, same⟩

theorem oneDay_fetched : ∃ result, WindowFetched idReaders repeatingClient oneDay result ∧
    result.details = ["sale-7", "sale-7", "sale-8"] := by
  obtain ⟨result, done, details⟩ := repeatingClient_result
  have law := (fetchFinanceWindow_law idReaders repeatingClient oneDay).2.2.1
  exact ⟨result, ((law 1 _ _ done result).mp rfl).2, details⟩

/-- A row that is answered twice is there twice. -/
theorem repeated_row_kept : ∃ result,
    fetchFinanceWindow idReaders repeatingClient oneDay 1 (List.replicate 6 0) = some (.ok result) ∧
      ¬ result.details.Nodup := by
  obtain ⟨result, done, details⟩ := repeatingClient_result
  refine ⟨result, done, ?_⟩
  rw [details]
  decide

end FullManagedBi.OpenApi
