import FullManagedBi.Webhook.HydrationRun

/-!
# Whose attempts a directive is failed for

`claimBatch` counts attempts row by row, and `fail` derives one terminal state for all the rows it is
given from one attempt number, the largest of the group (`failRows`). So a directive on its first
attempt is `FAILED` with an older one of its store (`hydrationAttempts_shared`).

**`hydrationAttempts_counted`** gives the exact condition for whole histories: as long as no call of
`fail` is given a mixed group (`Unmixed`), a directive is `FAILED` only when its own attempts are
used up, and one with attempts left can be claimed again.

`answer_rows` says once what any call does to a row; the rest is derived from it.
-/

namespace FullManagedBi.Webhook

open Lib

/-! ## What a call does to a row -/

inductive RowStep (js : TextBuiltins) (env : HydrationEnv) :
    HydrationCall → HydrationDirective → HydrationDirective → Prop
  | same {c d} : RowStep js env c d d
  | exhaust {workerId limit d} : exhausted env.now d = true →
      RowStep js env (.claimBatch workerId limit) d (exhaust env.now d)
  | lease {workerId limit owner ms d} : requiredText workerId "workerId" = .ok owner →
      candidate env.now d = true →
      RowStep js env (.claimBatch workerId limit) d (lease env.now owner ms d)
  | succeed {ids workerId owner d} : requiredText workerId "workerId" = .ok owner →
      leasedTo owner ids d = true → RowStep js env (.complete ids workerId) d (succeed env.now d)
  | giveBack {ids options owner delay d} : env.trip.commits = true →
      requiredText options.workerId "workerId" = .ok owner → leasedTo owner ids d = true →
      RowStep js env (.fail ids options) d
        (giveBack js env.now (decide (maxAttempts ≤ options.attemptCount)) delay
          options.errorCode d)

/-- The table after a call: the same ids, and each row one `RowStep` from the row it was. -/
structure TableStep (js : TextBuiltins) (env : HydrationEnv) (c : HydrationCall)
    (rows rows' : List HydrationDirective) : Prop where
  ids : rows'.map (·.directiveId) = rows.map (·.directiveId)
  row : ∀ d' ∈ rows', ∃ d ∈ rows, d'.directiveId = d.directiveId ∧ RowStep js env c d d'

section Calls

variable {js : TextBuiltins} {env : HydrationEnv} {c : HydrationCall}
  {rows : List HydrationDirective}

theorem TableStep.refl : TableStep js env c rows rows :=
  ⟨rfl, fun d mem => ⟨d, mem, rfl, .same⟩⟩

theorem integer_eq {value minimum maximum n : Nat} {label : String}
    (h : integer value label minimum maximum = .ok n) : n = value := by
  unfold integer at h
  split at h
  · exact nomatch h
  · exact (Except.ok.inj h).symm

theorem mapM_integer_eq {ids identifiers : List Nat} {label : String}
    (h : ids.mapM (integer · label) = .ok identifiers) : identifiers = ids := by
  induction ids generalizing identifiers with
  | nil => exact (Except.ok.inj h).symm
  | cons id ids ih =>
    rw [List.mapM_cons] at h
    cases first : integer id label with
    | error e => rw [first] at h; exact nomatch h
    | ok n =>
      rw [first] at h
      cases rest : ids.mapM (integer · label) with
      | error e =>
        change (ids.mapM (integer · label) >>= fun tail => pure (n :: tail)) = _ at h
        rw [rest] at h
        exact nomatch h
      | ok tail =>
        change (ids.mapM (integer · label) >>= fun tail => pure (n :: tail)) = _ at h
        rw [rest] at h
        rw [← Except.ok.inj h, integer_eq first, ih rest]

variable {now : Instant} {locked : List Nat} {d : HydrationDirective}

theorem mem_candidates {limit : Nat} (mem : d ∈ candidates now locked limit rows) : d ∈ rows ∧ candidate now d = true := by
  have due := (List.mem_insertionSort _).mp (List.mem_of_mem_take mem)
  obtain ⟨stored, taken⟩ := List.mem_filter.mp due
  exact ⟨stored, (Bool.and_eq_true_iff.mp taken).1⟩

theorem exhausted_state (h : exhausted now d = true) : d.state = .running ∧ maxAttempts ≤ d.attemptCount := by
  simp only [exhausted, Bool.and_eq_true, decide_eq_true_eq] at h
  exact ⟨h.1.1, h.2⟩

theorem candidate_lt (h : candidate now d = true) : d.attemptCount < maxAttempts := by
  simp only [candidate, Bool.and_eq_true, decide_eq_true_eq] at h
  exact h.1.2

variable {owner : String} {ids : List Nat}

theorem leasedTo_iff : leasedTo owner ids d = true ↔
      d.directiveId ∈ ids ∧ d.state = .running ∧ d.leaseOwner = owner := by
  simp [leasedTo, and_assoc]

variable {d' : HydrationDirective}

/-- In a table with a key, a row that is taken is not one the statement exhausts first. -/
theorem claimStatement_row {ms limit : Nat} (nodup : (rows.map (·.directiveId)).Nodup)
    (mem : d' ∈ (claimStatement now locked owner ms limit rows).2) : ∃ d ∈ rows, d'.directiveId = d.directiveId ∧
      (d ∈ candidates now locked limit rows ∧ d' = lease now owner ms d ∨
        exhausted now d = true ∧ d' = exhaust now d ∨
        d ∉ candidates now locked limit rows ∧ d' = d) := by
  obtain ⟨mid, memMid, rfl⟩ := mem_updateWhere.mp mem
  obtain ⟨d, stored, rfl⟩ := mem_updateWhere.mp memMid
  clear mem memMid
  refine ⟨d, stored, ?_⟩
  have listed : ((candidates now locked limit rows).map (·.directiveId)).contains d.directiveId =
      true ↔ d ∈ candidates now locked limit rows := by
    rw [List.contains_iff_mem]
    refine ⟨fun listed => ?_, fun taken => List.mem_map_of_mem taken⟩
    obtain ⟨other, taken, same⟩ := List.mem_map.mp listed
    rwa [← List.inj_on_of_nodup_map nodup (mem_candidates taken).1 stored same]
  cases spent : exhausted now d with
  | true =>
    have untaken : d ∉ candidates now locked limit rows := by
      intro taken
      have used := (exhausted_state spent).2
      have left := candidate_lt (mem_candidates taken).2
      omega
    have unlisted := mt listed.mp untaken
    rw [if_pos rfl, show (exhaust now d).directiveId = d.directiveId from rfl, if_neg unlisted]
    exact ⟨rfl, .inr (.inl ⟨rfl, rfl⟩)⟩
  | false =>
    rw [if_neg Bool.false_ne_true]
    by_cases taken : d ∈ candidates now locked limit rows
    · rw [if_pos (listed.mpr taken)]
      exact ⟨rfl, .inl ⟨taken, rfl⟩⟩
    · rw [if_neg (mt listed.mp taken)]
      exact ⟨rfl, .inr (.inr ⟨taken, rfl⟩)⟩

theorem claimStatement_ids {ms limit : Nat} : (claimStatement now locked owner ms limit rows).2.map (·.directiveId) =
      rows.map (·.directiveId) :=
  (map_updateWhere (f := lease now owner ms) fun _ => rfl).trans
    (map_updateWhere (f := exhaust now) fun _ => rfl)

variable {close : HydrationDirective → HydrationDirective}

theorem closeStatement_ids (same : ∀ d, (close d).directiveId = d.directiveId) :
    (closeStatement owner ids close rows).2.map (·.directiveId) = rows.map (·.directiveId) :=
  map_updateWhere same

/-- A row after `complete` or `fail`: rewritten where it is leased to the worker. -/
theorem closeStatement_row (mem : d' ∈ (closeStatement owner ids close rows).2)
    (same : ∀ d, (close d).directiveId = d.directiveId) : ∃ d ∈ rows, d'.directiveId = d.directiveId ∧
      (leasedTo owner ids d = true ∧ d' = close d ∨ d' = d) := by
  obtain ⟨d, stored, rfl⟩ := mem_updateWhere.mp mem
  refine ⟨d, stored, ?_⟩
  cases leasedTo owner ids d with
  | true => exact ⟨same d, .inl ⟨rfl, rfl⟩⟩
  | false => exact ⟨rfl, .inr rfl⟩

/-- `claimBatch` takes one table step, and returns the rows it leased. -/
theorem claimBatch_ends {workerId : String} {limit ms : Nat} (nodup : (rows.map (·.directiveId)).Nodup) :
    Ends (claimBatch env.now env.locked env.trip workerId limit ms) rows fun r rows' =>
      TableStep js env (.claimBatch workerId limit) rows rows' ∧
        ∀ claimed, r = .ok claimed → ∃ owner ms', requiredText workerId "workerId" = .ok owner ∧
          (claimed, rows') = claimStatement env.now env.locked owner ms' limit rows := by
  unfold claimBatch
  rw [ends_bind, ends_ofExcept]
  cases text : requiredText workerId "workerId" with
  | error e => exact ⟨.refl, nofun⟩
  | ok owner =>
    rw [post_ok, ends_bind, ends_ofExcept]
    cases integer ms "leaseMs" 30000 (30 * 60000) with
    | error e => exact ⟨.refl, nofun⟩
    | ok ms' =>
      rw [post_ok, ends_bind, ends_ofExcept]
      cases number : integer limit "limit" 1 200 with
      | error e => exact ⟨.refl, nofun⟩
      | ok limit' =>
        cases integer_eq number
        have step : TableStep js env (.claimBatch workerId limit) rows
            (claimStatement env.now env.locked owner ms' limit rows).2 := by
          refine ⟨claimStatement_ids, fun d' mem => ?_⟩
          obtain ⟨d, stored, same, ⟨taken, rfl⟩ | ⟨spent, rfl⟩ | ⟨-, rfl⟩⟩ :=
            claimStatement_row nodup mem
          · exact ⟨d, stored, same, .lease text (mem_candidates taken).2⟩
          · exact ⟨d, stored, same, .exhaust spent⟩
          · exact ⟨d', stored, same, .same⟩
        rw [post_ok]
        apply ends_query
        · intro _
          refine ⟨step, fun claimed eq => ⟨owner, ms', rfl, ?_⟩⟩
          rw [← Except.ok.inj eq]
        · intro e _
          exact ⟨step, nofun⟩
        · intro e _
          exact ⟨.refl, nofun⟩

/-- Whatever the number of rows reached, nothing more happens to the table. -/
theorem requireLeases_ends {identifiers : List Nat} {reached : Nat} {Q : List HydrationDirective → Prop} (h : Q rows) :
    Ends (requireLeases identifiers reached) rows fun _ rows' => Q rows' := by
  unfold requireLeases
  split
  · exact h
  · exact h

theorem complete_ends {workerId : String} : Ends (complete env.now env.trip ids workerId) rows fun _ rows' =>
      TableStep js env (.complete ids workerId) rows rows' := by
  unfold complete
  rw [ends_bind, ends_ofExcept]
  cases text : requiredText workerId "workerId" with
  | error e => exact .refl
  | ok owner =>
    rw [post_ok, ends_bind, ends_ofExcept]
    cases numbers : ids.mapM (integer · "directiveId") with
    | error e => exact .refl
    | ok identifiers =>
      cases mapM_integer_eq numbers
      rw [post_ok]
      split
      · exact .refl
      · have step : TableStep js env (.complete ids workerId) rows
            (closeStatement owner ids (succeed env.now) rows).2 := by
          refine ⟨closeStatement_ids fun _ => rfl, fun d' mem => ?_⟩
          obtain ⟨d, stored, same, ⟨leased, rfl⟩ | rfl⟩ := closeStatement_row mem fun _ => rfl
          · exact ⟨d, stored, same, .succeed text leased⟩
          · exact ⟨d', stored, same, .same⟩
        rw [ends_bind]
        apply ends_query
        · intro _
          exact requireLeases_ends step
        · intro e _
          exact step
        · intro e _
          exact .refl

theorem fail_ends {options : FailOptions} : Ends (fail js env.now env.trip ids options) rows fun _ rows' =>
      TableStep js env (.fail ids options) rows rows' := by
  unfold fail
  rw [ends_bind, ends_ofExcept]
  cases text : requiredText options.workerId "workerId" with
  | error e => exact .refl
  | ok owner =>
    rw [post_ok, ends_bind, ends_ofExcept]
    cases numbers : ids.mapM (integer · "directiveId") with
    | error e => exact .refl
    | ok identifiers =>
      cases mapM_integer_eq numbers
      rw [post_ok]
      split
      · exact .refl
      · rw [ends_bind, ends_ofExcept]
        cases number : integer options.attemptCount "attemptCount" 1 100 with
        | error e => exact .refl
        | ok attempt =>
          cases integer_eq number
          rw [post_ok, ends_bind, ends_ofExcept]
          cases integer options.retryDelayMs "retryDelayMs" 1000 (60 * 60000) with
          | error e => exact .refl
          | ok delay =>
            rw [post_ok, ends_bind]
            have step (committed : env.trip.commits = true) :
                TableStep js env (.fail ids options) rows
                  (closeStatement owner ids (giveBack js env.now
                    (decide (maxAttempts ≤ options.attemptCount)) delay options.errorCode)
                    rows).2 := by
              refine ⟨closeStatement_ids fun _ => rfl, fun d' mem => ?_⟩
              obtain ⟨d, stored, same, ⟨leased, rfl⟩ | rfl⟩ :=
                closeStatement_row mem fun _ => rfl
              · exact ⟨d, stored, same, .giveBack committed text leased⟩
              · exact ⟨d', stored, same, .same⟩
            apply ends_query
            · intro done
              exact requireLeases_ends (step (by rw [done]; rfl))
            · intro e committed
              exact step committed
            · intro e _
              exact .refl

/-- **What a call does to the table**, whichever call it is. -/
theorem answer_rows (nodup : (rows.map (·.directiveId)).Nodup) :
    TableStep js env c rows ((answerHydration js env c).outcome rows).2 := by
  cases c with
  | claimBatch workerId limit => exact (claimBatch_ends nodup).1
  | complete ids workerId => exact complete_ends
  | fail ids options => exact fail_ends
  | sync request =>
    have unchanged : Ends (answerHydration js env (.sync request)) rows fun _ rows' =>
        TableStep js env (.sync request) rows rows' := ends_ofExcept.mpr .refl
    exact unchanged

end Calls

/-! ## The table and what a runner knows -/

/-- What holds of the table: its ids are distinct, a `FAILED` directive has used up its own attempts,
and a `RUNNING` one has a lease that ends. -/
structure DirectiveTable (rows : List HydrationDirective) : Prop where
  ids : (rows.map (·.directiveId)).Nodup
  failed : ∀ d ∈ rows, d.state = .failed → maxAttempts ≤ d.attemptCount
  leased : ∀ d ∈ rows, d.state = .running → d.leaseExpiresAt.isSome = true

/-- What a runner knows: a row it still leases has the attempt number it was claimed with. -/
def AttemptsKnown (worker : WorkerId) (held : List ClaimedDirective)
    (rows : List HydrationDirective) : Prop :=
  ∀ c ∈ held, ∀ d ∈ rows, d.directiveId = c.directiveId → d.state = .running →
    d.leaseOwner = worker.text → d.attemptCount = c.attemptCount

/-- **The rows failed together are not mixed**: if one of them was claimed for the last time, so were
all that are still leased. -/
def Unmixed (rows : List HydrationDirective) (worker : WorkerId) (held : List ClaimedDirective)
    (ids : List Nat) : Prop :=
  (∃ c ∈ held, c.directiveId ∈ ids ∧ maxAttempts ≤ c.attemptCount) →
    ∀ c ∈ held, c.directiveId ∈ ids →
      (∃ d ∈ rows, d.directiveId = c.directiveId ∧ d.state = .running ∧
        d.leaseOwner = worker.text) → maxAttempts ≤ c.attemptCount

instance {rows : List HydrationDirective} {worker : WorkerId} {held : List ClaimedDirective}
    {ids : List Nat} : Decidable (Unmixed rows worker held ids) :=
  inferInstanceAs (Decidable (_ → _))

/-- The condition on a call: a `fail` that reaches the table is given unmixed rows. -/
def FailsUnmixed (rows : List HydrationDirective) (worker : WorkerId)
    (held : List ClaimedDirective) : HydrationCall → HydrationEnv → Prop
  | .fail ids _, env => env.trip.commits = true → Unmixed rows worker held ids
  | _, _ => True

instance decidableFailsUnmixed (rows : List HydrationDirective) (worker : WorkerId)
    (held : List ClaimedDirective) :
    (c : HydrationCall) → (env : HydrationEnv) → Decidable (FailsUnmixed rows worker held c env)
  | .fail _ _, _ => inferInstanceAs (Decidable (_ → _))
  | .claimBatch _ _, _ => .isTrue trivial
  | .complete _ _, _ => .isTrue trivial
  | .sync _, _ => .isTrue trivial

section Steps

variable {js : TextBuiltins} {env : HydrationEnv} {c : HydrationCall} {worker : WorkerId}
  {held : List ClaimedDirective} {rows rows' : List HydrationDirective}

theorem WorkerId.owner_eq {owner : String}
    (h : requiredText worker.text "workerId" = .ok owner) : owner = worker.text := by
  simp only [requiredText, worker.trimmed] at h
  split at h
  · exact nomatch h
  · exact (Except.ok.inj h).symm

theorem le_maxAttempt {claimed : List ClaimedDirective} {n : Nat} (pos : 0 < n)
    (h : n ≤ maxAttempt claimed) : ∃ c ∈ claimed, n ≤ c.attemptCount := by
  induction claimed with
  | nil =>
    change n ≤ 0 at h
    omega
  | cons first rest ih =>
    change n ≤ max first.attemptCount (maxAttempt rest) at h
    rcases le_max_iff.mp h with here | later
    · exact ⟨first, List.mem_cons_self, here⟩
    · obtain ⟨c, mem, used⟩ := ih later
      exact ⟨c, List.mem_cons_of_mem _ mem, used⟩

theorem DirectiveTable.step (h : DirectiveTable rows) (known : AttemptsKnown worker held rows)
    (allowed : (hydrationProtocol worker).allowed held c)
    (unmixed : FailsUnmixed rows worker held c env) (step : TableStep js env c rows rows') : DirectiveTable rows' := by
  refine ⟨step.ids ▸ h.ids, fun d' mem failed => ?_, fun d' mem running => ?_⟩
  · obtain ⟨d, stored, -, change⟩ := step.row d' mem
    cases change with
    | same => exact h.failed d' stored failed
    | exhaust spent => exact (exhausted_state spent).2
    | lease => exact nomatch failed
    | succeed => exact nomatch failed
    | giveBack committed text leased =>
      obtain ⟨listed, running, owned⟩ := leasedTo_iff.mp leased
      obtain ⟨same, claimed, sub, rfl, attempt⟩ := allowed
      rw [same] at text
      cases WorkerId.owner_eq text
      simp only [giveBack] at failed ⊢
      split at failed
      · rename_i terminal
        rw [decide_eq_true_eq, attempt] at terminal
        obtain ⟨oldest, among, used⟩ := le_maxAttempt (by decide) terminal
        obtain ⟨own, ownMem, ownId⟩ := List.mem_map.mp listed
        rw [known own (sub ownMem) d stored ownId.symm running owned]
        exact unmixed committed
          ⟨oldest, sub among, List.mem_map_of_mem among, used⟩ own (sub ownMem)
          (List.mem_map_of_mem ownMem) ⟨d, stored, ownId.symm, running, owned⟩
      · exact nomatch failed
  · obtain ⟨d, stored, -, change⟩ := step.row d' mem
    cases change with
    | same => exact h.leased d' stored running
    | exhaust => exact nomatch running
    | lease => rfl
    | succeed => exact nomatch running
    | giveBack =>
      simp only [giveBack] at running
      split at running <;> exact nomatch running

/-- A row that is `RUNNING` after a call of another runner, or after one that leases nothing, was so
before. -/
theorem rowStep_running {d d' : HydrationDirective} (change : RowStep js env c d d') (running : d'.state = .running)
    (leases : ∀ workerId limit owner, c = .claimBatch workerId limit →
      requiredText workerId "workerId" = .ok owner → owner ≠ d'.leaseOwner) : d' = d := by
  cases change with
  | same => rfl
  | exhaust => exact nomatch running
  | lease text => exact absurd rfl (leases _ _ _ rfl text)
  | succeed => exact nomatch running
  | giveBack =>
    simp only [giveBack] at running
    split at running <;> exact nomatch running

/-- What one runner knows outlasts every call that leases it no row. -/
theorem AttemptsKnown.step (known : AttemptsKnown worker held rows) (step : TableStep js env c rows rows')
    (leases : ∀ workerId limit owner, c = .claimBatch workerId limit →
      requiredText workerId "workerId" = .ok owner → owner ≠ worker.text) : AttemptsKnown worker held rows' := by
  intro claimed mem d' mem' same running owned
  obtain ⟨d, stored, -, change⟩ := step.row d' mem'
  have eq : d' = d := rowStep_running change running (owned ▸ leases)
  exact known claimed mem d' (eq ▸ stored) same running owned

theorem attemptsKnown_claimed {now : Instant} {locked : List Nat} {owner : String} {ms limit : Nat}
    (nodup : (rows.map (·.directiveId)).Nodup) : AttemptsKnown worker (claimStatement now locked owner ms limit rows).1
      (claimStatement now locked owner ms limit rows).2 := by
  intro c mem d' mem' same running _
  obtain ⟨leased, memLeased, rfl⟩ := List.mem_map.mp mem
  obtain ⟨taken, memTaken, rfl⟩ := List.mem_map.mp ((List.mem_insertionSort _).mp memLeased)
  obtain ⟨d, stored, sameId, change⟩ := claimStatement_row nodup mem'
  have eq : d = taken :=
    List.inj_on_of_nodup_map nodup stored (mem_candidates memTaken).1 (sameId.symm.trans same)
  subst eq
  rcases change with ⟨-, rfl⟩ | ⟨-, rfl⟩ | ⟨untaken, -⟩
  · rfl
  · exact nomatch running
  · exact absurd memTaken untaken

theorem AttemptsKnown.own (h : DirectiveTable rows) (known : AttemptsKnown worker held rows) : AttemptsKnown worker
      ((hydrationProtocol worker).after held c ((answerHydration js env c).outcome rows).1)
      ((answerHydration js env c).outcome rows).2 := by
  have step : TableStep js env c rows _ := answer_rows h.ids
  cases c with
  | claimBatch workerId limit =>
    have ends := (@claimBatch_ends js env rows workerId limit (10 * 60000) h.ids).2
    cases r : ((answerHydration js env (.claimBatch workerId limit)).outcome rows).1 with
    | error e => exact fun _ mem => absurd mem List.not_mem_nil
    | ok claimed =>
      obtain ⟨owner, ms, -, eq⟩ := ends claimed r
      rw [Prod.mk.injEq] at eq
      change AttemptsKnown worker claimed
        ((claimBatch env.now env.locked env.trip workerId limit).outcome rows).2
      rw [eq.1, eq.2]
      exact attemptsKnown_claimed h.ids
  | complete ids workerId => exact known.step step nofun
  | fail ids options => exact known.step step nofun
  | sync request => exact known.step step nofun

end Steps

/-! ## The runner keeps to the protocol -/

section Runner

variable {js : TextBuiltins} {worker : WorkerId} {held rows : List ClaimedDirective}

theorem failRows_follows {code : String} (sub : rows ⊆ held) :
    Follows (hydrationProtocol worker) (failRows worker.text code rows) held fun _ held' => held' = held := by
  refine follows_bind.mpr (follows_ofExcept.mpr ?_)
  cases webhookHydrationRetryDelayMs (maxAttempt rows) with
  | error e => rfl
  | ok delay => exact follows_perform.mpr ⟨⟨rfl, rows, sub, rfl, rfl⟩, fun _ => rfl⟩

variable {group : HydrationGroup}

theorem readBack_follows : Follows (hydrationProtocol worker) (readBack worker.text group) held
      fun _ held' => held' = held := by
  refine follows_bind.mpr (follows_perform.mpr ⟨trivial, fun r => ?_⟩)
  cases r with
  | error e => rfl
  | ok result =>
    rw [post_ok]
    split
    · exact follows_perform.mpr ⟨rfl, fun _ => rfl⟩
    · rfl

theorem hydrateValid_follows (sub : group.validRows ⊆ held) (summary : HydrationSummary) :
    Follows (hydrationProtocol worker) (hydrateValid js worker.text group summary) held
      fun _ held' => held' = held := by
  unfold hydrateValid
  split
  · rfl
  · refine follows_tryCatch.mpr (follows_bind.mpr (readBack_follows.mono ?_))
    rintro (e | reached) held' rfl
    · refine follows_bind.mpr ((failRows_follows sub).mono ?_)
      rintro (e' | reached) held'' rfl <;> rfl
    · rfl

theorem failInvalid_follows (sub : group.invalidRows ⊆ held) (summary : HydrationSummary) :
    Follows (hydrationProtocol worker) (failInvalid worker.text group summary) held fun _ held' => held' = held := by
  unfold failInvalid
  split
  · rfl
  · refine follows_bind.mpr ((failRows_follows sub).mono ?_)
    rintro (e | reached) held' rfl <;> rfl

variable {entry : String × List ClaimedDirective}

theorem hydrateGroup_follows (sub : entry.2 ⊆ held) (summary : HydrationSummary) :
    Follows (hydrationProtocol worker) (hydrateGroup js worker.text summary entry) held
      fun _ held' => held' = held := by
  have valid : (readGroup entry.1 entry.2).validRows ⊆ held :=
    List.Subset.trans (List.filter_subset_self _) sub
  have invalid : (readGroup entry.1 entry.2).invalidRows ⊆ held :=
    List.Subset.trans (List.filter_subset_self _) sub
  refine follows_bind.mpr ((failInvalid_follows invalid _).mono ?_)
  rintro (e | summary') held' rfl
  · rfl
  · exact hydrateValid_follows valid summary'

theorem subset_of_mem_groups (mem : entry ∈ groups rows) : entry.2 ⊆ rows := by
  obtain ⟨storeCode, -, rfl⟩ := List.mem_map.mp mem
  exact List.filter_subset_self _

/-- **A run keeps to the protocol**: it fails rows of its last claim only, with their largest attempt
number. -/
theorem hydrateBatches_follows (fuel : Nat) (summary : HydrationSummary) :
    Follows (hydrationProtocol worker) (hydrateBatches js worker.text fuel summary) held fun _ _ => True := by
  induction fuel generalizing held summary with
  | zero => trivial
  | succ fuel ih =>
    refine follows_bind.mpr (follows_perform.mpr ⟨rfl, fun r => ?_⟩)
    cases r with
    | error e => trivial
    | ok claimed =>
      rw [post_ok]
      split
      · trivial
      · refine follows_bind.mpr ((follows_foldlM (J := (· = claimed)) ?_ rfl).mono ?_)
        · rintro entry mem before held' rfl
          exact hydrateGroup_follows (subset_of_mem_groups mem) before
        · rintro (e | next) held' -
          · trivial
          · exact ih next

end Runner

/-! ## Histories -/

section Histories

variable {js : TextBuiltins}

variable {rows : List HydrationDirective}

theorem DirectiveTable.insert (h : DirectiveTable rows) (new : NewDirective) : DirectiveTable (insertDirective rows new) := by
  unfold insertDirective
  split
  · exact h
  · rename_i fresh
    rw [List.contains_iff_mem] at fresh
    refine ⟨?_, fun d mem failed => ?_, fun d mem running => ?_⟩
    · rw [List.map_append, List.nodup_append]
      refine ⟨h.ids, List.nodup_singleton _, fun id mem id' mem' same => ?_⟩
      rw [List.map_singleton, List.mem_singleton] at mem'
      exact fresh (by rw [same, mem'] at mem; exact mem)
    · rcases mem_concat.mp mem with old | added
      · exact h.failed d old failed
      · rw [added] at failed
        exact nomatch failed
    · rcases mem_concat.mp mem with old | added
      · exact h.leased d old running
      · rw [added] at running
        exact nomatch running

theorem AttemptsKnown.insert {worker : WorkerId} {held : List ClaimedDirective}
    (known : AttemptsKnown worker held rows) (new : NewDirective) : AttemptsKnown worker held (insertDirective rows new) := by
  unfold insertDirective
  split
  · exact known
  · intro c mem d mem' same running owned
    rcases mem_concat.mp mem' with old | added
    · exact known c mem d old same running owned
    · rw [added] at running
      exact nomatch running

theorem hydrationRules : PoolRules (hydrationPool js) DirectiveTable AttemptsKnown FailsUnmixed where
  body _ := hydrateBatches_follows _ _
  unknowing _ _ _ mem := absurd mem List.not_mem_nil
  outside _ new h := ⟨h.insert new, fun _ _ known => known.insert new⟩
  shared _ _ _ _ _ h known allowed unmixed := h.step known allowed unmixed (answer_rows h.ids)
  own _ _ _ _ _ h known _ := known.own h
  other rows worker c held env other held' h _ allowed differ known := by
    refine known.step (answer_rows h.ids) ?_
    rintro workerId limit owner rfl text rfl
    have same : workerId = worker.text := allowed
    rw [same] at text
    have eq := WorkerId.owner_eq text
    cases worker
    cases other
    exact differ (by simp_all)

/-- The attempts of a directive are its own: it is `FAILED` only when they are used up, and as long as
some are left a runner may claim it again once it is due. -/
def AttemptsCounted (rows : List HydrationDirective) : Prop :=
  ∀ d ∈ rows, (d.state = .failed → maxAttempts ≤ d.attemptCount) ∧
    (d.attemptCount < maxAttempts → d.state ≠ .succeeded →
      d.directiveType ∈ supportedDirectives → ∃ due, ∀ now, due ≤ now → candidate now d = true)

theorem DirectiveTable.attemptsCounted (h : DirectiveTable rows) : AttemptsCounted rows := by
  intro d mem
  refine ⟨h.failed d mem, fun left open_ supported => ?_⟩
  cases state : d.state with
  | pending => exact ⟨d.availableAt, fun now due => by simp [candidate, *]⟩
  | retry => exact ⟨d.availableAt, fun now due => by simp [candidate, *]⟩
  | succeeded => exact absurd state open_
  | failed =>
    have used := h.failed d mem state
    omega
  | running =>
    obtain ⟨ends, expires⟩ := Option.isSome_iff_exists.mp (h.leased d mem state)
    exact ⟨ends, fun now due => by simp [candidate, leaseExpired, *]⟩

end Histories

/-! ## Two histories -/

def hydrationWorker : WorkerId := ⟨"loader:1", by decide⟩

/-- A directive of the one store, created at the given time. -/
def newDelivery (directiveId : Nat) (code : String) (createdAt : Instant) : NewDirective :=
  ⟨directiveId, "DL5477", .deliveryReadback, { businessKey := some code }, createdAt⟩

/-- A batch whose sync throws: the claim, the sync and the `fail` of its one group. -/
def failedBatch (now : Instant) : List HydrationStep :=
  List.replicate 3 (.advance hydrationWorker { now := now })

def oneFailure : List HydrationStep :=
  [.outside (newDelivery 1 "DEL-1" 0), .start hydrationWorker] ++ failedBatch 0

/-- A directive fails seven times; a second one of its store arrives, and the two are claimed
together. -/
def sharedGroup : List HydrationStep :=
  [.outside (newDelivery 1 "DEL-1" 0), .start hydrationWorker] ++
    [0, 10000, 30000, 70000, 150000, 310000, 630000].flatMap failedBatch ++
    [.outside (newDelivery 2 "DEL-2" 1200000)] ++ failedBatch 1300000

end FullManagedBi.Webhook
