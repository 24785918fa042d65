import FullManagedBi.Webhook.GuardHandover

/-!
# The old guard is stopped last

Each phase awaits one effect and checks its answer; a phase that does not finish ends the run (`ends_handoverStep`). So
the calls of a run are those of the phases in their order, and the completed phases are those whose effects answered what
their checks accept (`ended_handoverSteps`).

**`handoverWebhookGuard_law`**: whatever the effects answer, the old guard is not stopped before the source was found
frozen and the new guard active under another invocation.
-/

namespace FullManagedBi.Webhook

open Lib

def handoverPhases : List HandoverPhase :=
  [.oldActive, .sourceBefore, .newStart, .newActive, .oldStop, .oldStopped, .sourceAfter, .newRecheck]

def HandoverPhase.effect : HandoverPhase → GuardEffect
  | .oldActive | .oldStopped => .readOldGuard
  | .sourceBefore | .sourceAfter => .readSourceUnits
  | .newStart => .startNewGuard
  | .newActive | .newRecheck => .readNewGuard
  | .oldStop => .stopOldGuard

abbrev EffectCalls := List (GuardEffect × Except JsError Json)

section Phases

variable (B : UnitBuiltins) (arguments : HandoverArguments) (names : String × String)

/-- The answer is one that the check of the phase accepts. The last check compares with the answer of the fourth call. -/
def HandoverPhase.Accepts (calls : EffectCalls) (answer : Json) : HandoverPhase → Prop
  | .oldActive => checkOldActive B arguments names.1 answer = .ok ()
  | .sourceBefore | .sourceAfter => assertFreezeContinuity B arguments.sourceFreezeBaseline answer = .ok ()
  | .newStart | .oldStop => True
  | .newActive => ∃ unit, validateGuardUnit B answer names.2 arguments.oldGuardInvocationId = .ok unit
  | .oldStopped => assertOldGuardHandoverStopped B answer names.1 = .ok ()
  | .newRecheck => ∃ earlier replacement, calls[3]? = some (.readNewGuard, .ok earlier) ∧
      validateGuardUnit B earlier names.2 arguments.oldGuardInvocationId = .ok replacement ∧
      checkNewAgain B arguments names.2 replacement answer = .ok ()

def Finished (calls : EffectCalls) (i : Nat) : Prop :=
  ∃ names phase answer, guardNames arguments = .ok names ∧ handoverPhases[i]? = some phase ∧
    calls[i]? = some (phase.effect, .ok answer) ∧ phase.Accepts B arguments names calls answer

end Phases

section Run

variable {σ α : Type} {B : UnitBuiltins} {arguments : HandoverArguments} {names : String × String}
  {effects : GuardEffects σ} {run : Handover σ} {calls more : EffectCalls} {phase : HandoverPhase}

theorem finished_append {i : Nat} (bound : i < calls.length) :
    Finished B arguments (calls ++ more) i ↔ Finished B arguments calls i := by
  unfold Finished
  rw [List.getElem?_append_left bound]
  refine exists_congr fun names => exists_congr fun phase => exists_congr fun answer => and_congr_right fun _ =>
    and_congr_right fun here => and_congr_right fun _ => ?_
  cases phase with
  | newRecheck =>
    have last : i = 7 := by
      have lt : i < 8 := (List.getElem?_eq_some_iff.mp here).1
      interval_cases i <;> first | rfl | cases here
    rw [HandoverPhase.Accepts, HandoverPhase.Accepts, List.getElem?_append_left (by omega)]
  | _ => exact Iff.rfl

theorem not_finished_of_length_le {i : Nat} (bound : calls.length ≤ i) : ¬Finished B arguments calls i := by
  rintro ⟨names, phase, answer, -, -, found, -⟩
  rw [List.getElem?_eq_none bound] at found
  cases found

/-! ## Steps -/

structure Reached (B : UnitBuiltins) (arguments : HandoverArguments) (k : Nat) (run : Handover σ) : Prop where
  completed : run.completedPhases = handoverPhases.take k
  calls : run.calls.map (·.1) = (handoverPhases.take k).map HandoverPhase.effect
  finished : ∀ i < k, Finished B arguments run.calls i

/-- So many phases are completed, and the effect of the next one, where there was one, did not finish. -/
structure Stopped (B : UnitBuiltins) (arguments : HandoverArguments) (k : Nat) (run : Handover σ) : Prop where
  completed : run.completedPhases = handoverPhases.take k
  calls : run.calls.map (·.1) = (handoverPhases.take run.calls.length).map HandoverPhase.effect
  bound : run.calls.length ≤ k + 1
  finished : ∀ i, Finished B arguments run.calls i ↔ i < k

@[simp] theorem ends_perform {effect : GuardEffect} {R : Except JsError Json → Handover σ → Prop} :
    Ends (perform effects effect) run R ↔ R (effects effect run.world).1
      { run with world := (effects effect run.world).2, calls := run.calls ++ [(effect, (effects effect run.world).1)] } :=
  Iff.rfl

variable {k : Nat}

theorem length_calls (reached : Reached B arguments k run) (small : k ≤ 8) : run.calls.length = k := by
  have same := congrArg List.length reached.calls
  rw [List.length_map, List.length_map, List.length_take] at same
  exact same.trans (min_eq_left small)

variable {answer : Except JsError Json}

theorem Reached.stopped (reached : Reached B arguments k run) (here : handoverPhases[k]? = some phase) {world : σ}
    (fails : ∀ json, answer = .ok json → ¬Finished B arguments (run.calls ++ [(phase.effect, answer)]) k) :
    Stopped B arguments k { run with
      world, phase := some phase, calls := run.calls ++ [(phase.effect, answer)] } := by
  have small : k < 8 := (List.getElem?_eq_some_iff.mp here).1
  have length := length_calls reached small.le
  refine ⟨reached.completed, ?_, ?_, fun i => ⟨fun finished => ?_, fun lt => ?_⟩⟩
  · rw [List.map_append, reached.calls, List.length_append, length, List.length_singleton, List.take_add_one, here,
      List.map_append]
    rfl
  · rw [List.length_append, length]
    exact le_rfl
  · by_contra notLess
    rcases Nat.eq_or_lt_of_le (Nat.le_of_not_lt notLess) with rfl | later
    · cases answer with
      | ok json => exact fails json rfl finished
      | error e =>
        obtain ⟨names, phase', json, -, there, found, -⟩ := finished
        rw [List.getElem?_append_right length.le, length, Nat.sub_self] at found
        cases (Prod.mk.inj (Option.some.inj found)).2
    · refine not_finished_of_length_le ?_ finished
      rw [List.length_append, length]
      exact later
  · rw [finished_append (by rw [length]; exact lt)]
    exact reached.finished i lt

theorem Reached.step (reached : Reached B arguments k run) (here : handoverPhases[k]? = some phase)
    {answer : Json} {world : σ} (finishes : Finished B arguments (run.calls ++ [(phase.effect, .ok answer)]) k) :
    Reached B arguments (k + 1) { run with
      world, phase := some phase, calls := run.calls ++ [(phase.effect, .ok answer)]
      completedPhases := run.completedPhases ++ [phase] } := by
  have small : k < 8 := (List.getElem?_eq_some_iff.mp here).1
  have length := length_calls reached small.le
  refine ⟨?_, ?_, fun i lt => ?_⟩
  · change run.completedPhases ++ [phase] = _
    rw [reached.completed, List.take_add_one, here]
    rfl
  · rw [List.map_append, reached.calls, List.take_add_one, here, List.map_append]
    rfl
  · rcases Nat.eq_or_lt_of_le (Nat.le_of_lt_succ lt) with rfl | earlier
    · exact finishes
    · rw [finished_append (by rw [length]; exact earlier)]
      exact reached.finished i earlier

variable {check : Json → Except JsError α}

/-- **A phase**: it finishes and is completed, or it ends the run. -/
theorem ends_handoverStep (admitted : guardNames arguments = .ok names)
    (reached : Reached B arguments k run) (here : handoverPhases[k]? = some phase)
    (accepts : ∀ answer, (∃ a, check answer = .ok a) ↔
      phase.Accepts B arguments names (run.calls ++ [(phase.effect, .ok answer)]) answer) :
    Ends (handoverStep phase (performChecked effects phase.effect check)) run
      (Post (fun a after => Reached B arguments (k + 1) after ∧
        ∃ answer, after.calls = run.calls ++ [(phase.effect, .ok answer)] ∧ check answer = .ok a)
        fun _ after => Stopped B arguments k after) := by
  have length := length_calls reached (List.getElem?_eq_some_iff.mp here).1.le
  have found : ∀ answer, (run.calls ++ [(phase.effect, answer)])[k]? = some (phase.effect, answer) := by
    intro answer
    rw [List.getElem?_append_right length.le, length, Nat.sub_self]
    rfl
  unfold handoverStep performChecked
  simp only [ends_bind, ends_modify, ends_perform, post_ok]
  cases answered : (effects phase.effect run.world).1 with
  | error e =>
    exact reached.stopped here fun _ none => by cases none
  | ok answer =>
    simp only [post_ok, ends_ofExcept]
    cases checked : check answer with
    | error e =>
      refine reached.stopped here fun json same finished => ?_
      obtain rfl := Except.ok.inj same
      obtain ⟨names', phase', json, admitted', here', there, accepted⟩ := finished
      obtain rfl := Except.ok.inj (admitted.symm.trans admitted')
      obtain rfl := Option.mem_unique here here'
      obtain rfl := Except.ok.inj (Prod.mk.inj (Option.mem_unique (found _) there)).2
      obtain ⟨a, passed⟩ := (accepts answer).mpr accepted
      rw [checked] at passed
      cases passed
    | ok a =>
      refine ⟨reached.step here ⟨names, phase, answer, admitted, here, found _, (accepts answer).mp ⟨a, checked⟩⟩,
        answer, rfl, checked⟩

/-! ## Runs -/

theorem ends_phase_then {β : Type} {f : α → Action (Handover σ) JsError β}
    (admitted : guardNames arguments = .ok names) (reached : Reached B arguments k run)
    (here : handoverPhases[k]? = some phase) (accepts : ∀ answer, (∃ a, check answer = .ok a) ↔
      phase.Accepts B arguments names (run.calls ++ [(phase.effect, .ok answer)]) answer)
    (rest : ∀ a after answer, Reached B arguments (k + 1) after →
      after.calls = run.calls ++ [(phase.effect, .ok answer)] → check answer = .ok a →
      Ends (f a) after fun _ last => ∃ k, Stopped B arguments k last) :
    Ends (handoverStep phase (performChecked effects phase.effect check) >>= f) run
      fun _ last => ∃ k, Stopped B arguments k last := by
  refine ends_bind.mpr (Ends.mono (ends_handoverStep admitted reached here accepts) fun r after post => ?_)
  cases r with
  | error e => exact ⟨k, post⟩
  | ok a =>
    obtain ⟨reached, answer, calls, checked⟩ := post
    exact rest a after answer reached calls checked

theorem Reached.all (reached : Reached B arguments 8 run) : Stopped B arguments 8 run := by
  have length := length_calls reached le_rfl
  refine ⟨reached.completed, ?_, by omega, fun i => ⟨fun finished => ?_, reached.finished i⟩⟩
  · rw [length, reached.calls]
  · by_contra notLess
    exact not_finished_of_length_le (by omega) finished

theorem unit_ok {check : Except JsError Unit} : (∃ a, check = .ok a) ↔ check = .ok () :=
  ⟨fun ⟨(), ok⟩ => ok, fun ok => ⟨(), ok⟩⟩

/-- **Every run stops behind a number of phases that are completed.** -/
theorem ended_handoverSteps (world : σ) :
    Ends (handoverSteps B effects arguments) { world } fun _ last => ∃ k, Stopped B arguments k last := by
  unfold handoverSteps
  rw [ends_bind, ends_ofExcept]
  cases admitted : guardNames arguments with
  | error e =>
    exact ⟨0, rfl, rfl, Nat.zero_le _, fun i => ⟨fun finished => absurd finished (not_finished_of_length_le (Nat.zero_le _)), nofun⟩⟩
  | ok names =>
    have start : Reached B arguments 0 ({ world } : Handover σ) := ⟨rfl, rfl, nofun⟩
    refine ends_phase_then admitted start rfl (fun answer => unit_ok) fun _ run₁ _ reached₁ calls₁ _ => ?_
    refine ends_phase_then admitted reached₁ rfl (fun answer => unit_ok) fun _ run₂ _ reached₂ calls₂ _ => ?_
    refine ends_phase_then admitted reached₂ rfl (fun answer => iff_of_true ⟨(), rfl⟩ trivial)
      fun _ run₃ _ reached₃ calls₃ _ => ?_
    refine ends_phase_then admitted reached₃ rfl (fun answer => Iff.rfl)
      fun replacement run₄ earlier reached₄ calls₄ active => ?_
    have fourth : run₄.calls[3]? = some (.readNewGuard, .ok earlier) := by
      rw [calls₄, List.getElem?_append_right (length_calls reached₃ (by decide)).le, length_calls reached₃ (by decide)]
      rfl
    refine ends_phase_then admitted reached₄ rfl (fun answer => iff_of_true ⟨(), rfl⟩ trivial)
      fun _ run₅ _ reached₅ calls₅ _ => ?_
    refine ends_phase_then admitted reached₅ rfl (fun answer => unit_ok) fun _ run₆ _ reached₆ calls₆ _ => ?_
    refine ends_phase_then admitted reached₆ rfl (fun answer => unit_ok) fun _ run₇ _ reached₇ calls₇ _ => ?_
    have still : ∀ answer, (run₇.calls ++ [(GuardEffect.readNewGuard, .ok answer)])[3]? =
        some (.readNewGuard, .ok earlier) := by
      intro answer
      have bound : 3 < run₄.calls.length := by
        rw [length_calls reached₄ (by decide)]
        decide
      rw [calls₇, calls₆, calls₅, List.append_assoc, List.append_assoc, List.append_assoc,
        List.getElem?_append_left bound]
      exact fourth
    refine ends_phase_then admitted reached₇ rfl (fun answer => ?_) fun _ run₈ _ reached₈ _ _ => ⟨8, reached₈.all⟩
    rw [unit_ok]
    constructor
    · exact fun checked => ⟨earlier, replacement, still answer, active, checked⟩
    · rintro ⟨earlier', replacement', found, valid, checked⟩
      obtain rfl := Except.ok.inj (Prod.mk.inj (Option.mem_unique (still answer) found)).2
      obtain rfl := Except.ok.inj (active.symm.trans valid)
      exact checked

/-! ## What is proven before the old guard is stopped -/

/-- A guard that is validated is active under the invocation that is returned, which is not the previous one. -/
theorem validateGuardUnit_ok {record : Json} {name : String} {previous : Option Json} {unit : GuardUnit}
    (valid : validateGuardUnit B record name previous = .ok unit) :
    hasState B record ["active"] = true ∧ isInvocationId unit.invocationId = true ∧
      trimmedField record "InvocationID" "invocationId" = some unit.invocationId ∧
      ¬(truthy previous = true ∧ unit.invocationId = jsTrim (textOrEmpty previous)) := by
  unfold validateGuardUnit at valid
  obtain ⟨-, valid⟩ := check_ok_iff.mp valid
  obtain ⟨-, valid⟩ := check_ok_iff.mp valid
  obtain ⟨-, valid⟩ := check_ok_iff.mp valid
  obtain ⟨active, valid⟩ := check_ok_iff.mp valid
  obtain ⟨mainPid, -, valid⟩ := bind_eq_ok valid
  split at valid
  · cases valid
  · next invocationId found =>
    obtain ⟨wellFormed, valid⟩ := check_ok_iff.mp valid
    obtain ⟨other, valid⟩ := check_ok_iff.mp valid
    obtain rfl := Except.ok.inj valid
    exact ⟨not_not.mp (refuse_eq_ok.mp active), not_not.mp (refuse_eq_ok.mp wellFormed), found, refuse_eq_ok.mp other⟩

theorem eq_of_strictEq_str {text : String} {value : Option Json} (same : strictEq (some (.str text)) value = true) :
    value = some (.str text) := by
  match value, same with
  | some (.str other), same =>
    rw [of_decide_eq_true same]

theorem trimmedField_trimmed {record : Json} {upper lower text : String}
    (found : trimmedField record upper lower = some text) : jsTrim text = text := by
  unfold trimmedField at found
  split at found
  · obtain rfl := Option.some.inj found
    exact jsTrim_jsTrim _
  · cases found

theorem invocation_ne {oldRecord newRecord : Json} {new : GuardUnit}
    (oldActive : checkOldActive B arguments names.1 oldRecord = .ok ())
    (newActive : validateGuardUnit B newRecord names.2 arguments.oldGuardInvocationId = .ok new) :
    ∃ old, validateGuardUnit B oldRecord names.1 none = .ok old ∧ new.invocationId ≠ old.invocationId := by
  unfold checkOldActive at oldActive
  obtain ⟨old, valid, oldActive⟩ := bind_eq_ok oldActive
  have given := eq_of_strictEq_str (not_not.mp (refuse_eq_ok.mp oldActive))
  obtain ⟨-, wellFormed, found, -⟩ := validateGuardUnit_ok valid
  obtain ⟨-, -, -, other⟩ := validateGuardUnit_ok newActive
  refine ⟨old, valid, fun same => other ?_⟩
  rw [given]
  constructor
  · have nonempty : old.invocationId ≠ "" := by
      intro empty
      rw [empty] at wellFormed
      exact absurd wellFormed (by decide)
    exact decide_eq_true nonempty
  · rw [same]
    exact (trimmedField_trimmed found).symm

/-- What was proven by the calls of a run: the source was found frozen, the old guard active, and the new guard active
under another invocation. -/
def ProvenBy (B : UnitBuiltins) (arguments : HandoverArguments) (calls : EffectCalls) : Prop :=
  ∃ names, guardNames arguments = .ok names ∧
    (∃ units, (.readSourceUnits, .ok units) ∈ calls ∧
      assertFreezeContinuity B arguments.sourceFreezeBaseline units = .ok ()) ∧
    ∃ oldRecord old newRecord new, (.readOldGuard, .ok oldRecord) ∈ calls ∧
      validateGuardUnit B oldRecord names.1 none = .ok old ∧ (.readNewGuard, .ok newRecord) ∈ calls ∧
      validateGuardUnit B newRecord names.2 arguments.oldGuardInvocationId = .ok new ∧
      hasState B newRecord ["active"] = true ∧ new.invocationId ≠ old.invocationId

/-- A run that comes to the call of `stopOldGuard` has proven it all before. -/
theorem Stopped.proven (stopped : Stopped B arguments k run) {before after : EffectCalls}
    (split : run.calls = before ++ (.stopOldGuard, answer) :: after) : ProvenBy B arguments before := by
  have bound := stopped.bound
  have place : before.length < run.calls.length := by
    rw [split, List.length_append, List.length_cons]
    omega
  have small : before.length < 8 := by
    have lengths := congrArg List.length stopped.calls
    rw [List.length_map, List.length_map, List.length_take] at lengths
    have most : handoverPhases.length = 8 := rfl
    omega
  have fourth : before.length = 4 := by
    have there := congrArg (·[before.length]?) stopped.calls
    simp only [List.getElem?_map, List.getElem?_take, if_pos place] at there
    rw [split, List.getElem?_append_right le_rfl, Nat.sub_self] at there
    generalize before.length = i at there small
    interval_cases i <;> first | rfl | cases there
  have each : ∀ i < 4, Finished B arguments run.calls i := fun i lt => (stopped.finished i).mpr (by omega)
  have found : ∀ {i effect json}, i < 4 → run.calls[i]? = some (effect, .ok json) → (effect, .ok json) ∈ before := by
    intro i effect json lt there
    rw [split, List.getElem?_append_left (by omega)] at there
    exact List.mem_of_getElem? there
  obtain ⟨names, _, oldRecord, admitted, first, readOld, oldActive⟩ := each 0 (by decide)
  obtain rfl : HandoverPhase.oldActive = _ := Option.some.inj first
  obtain ⟨names₁, _, units, admitted₁, second, readUnits, frozen⟩ := each 1 (by decide)
  obtain rfl : HandoverPhase.sourceBefore = _ := Option.some.inj second
  obtain ⟨names₃, _, newRecord, admitted₃, last, readNew, newActive⟩ := each 3 (by decide)
  obtain rfl : HandoverPhase.newActive = _ := Option.some.inj last
  obtain ⟨new, newActive⟩ := newActive
  obtain rfl := Except.ok.inj (admitted.symm.trans admitted₃)
  obtain ⟨old, valid, other⟩ := invocation_ne oldActive newActive
  exact ⟨names, admitted, ⟨units, found (by decide) readUnits, frozen⟩, oldRecord, old, newRecord, new,
    found (by decide) readOld, valid, found (by decide) readNew, newActive, (validateGuardUnit_ok newActive).1, other⟩

/-- **The handover**: whatever the effects answer, the old guard is stopped only after the source was found frozen and the
new guard active under another invocation, and the completed phases that are reported are the first ones, as many as have
effects that finished. -/
theorem handoverWebhookGuard_law (B : UnitBuiltins) (effects : GuardEffects σ) (arguments : HandoverArguments) (world : σ) :
    (∀ before answer after, (handoverWebhookGuard B effects arguments world).2.calls =
        before ++ (.stopOldGuard, answer) :: after → ProvenBy B arguments before) ∧
      reportedPhases (handoverWebhookGuard B effects arguments world).1 =
        handoverPhases.take (reportedPhases (handoverWebhookGuard B effects arguments world).1).length ∧
      ∀ i, i < (reportedPhases (handoverWebhookGuard B effects arguments world).1).length ↔
        Finished B arguments (handoverWebhookGuard B effects arguments world).2.calls i := by
  have ended : Ends (handoverSteps B effects arguments) { world } fun _ last => ∃ k, Stopped B arguments k last :=
    ended_handoverSteps world
  obtain ⟨k, stopped⟩ := ended
  have reported : reportedPhases (handoverWebhookGuard B effects arguments world).1 =
      (handoverWebhookGuard B effects arguments world).2.completedPhases := by
    unfold handoverWebhookGuard
    cases (handoverSteps B effects arguments).outcome { world } with
    | mk outcome run => cases outcome <;> rfl
  have same : (handoverWebhookGuard B effects arguments world).2 =
      ((handoverSteps B effects arguments).outcome { world }).2 := by
    unfold handoverWebhookGuard
    cases (handoverSteps B effects arguments).outcome { world } with
    | mk outcome run => cases outcome <;> rfl
  rw [reported, same]
  have few : ∀ i, i < (handoverPhases.take k).length ↔
      Finished B arguments ((handoverSteps B effects arguments).outcome { world }).2.calls i := by
    intro i
    rw [stopped.finished i, List.length_take]
    have most : handoverPhases.length = 8 := rfl
    constructor
    · intro lt
      omega
    · intro lt
      have bound : i < 8 := by
        obtain ⟨_, _, _, -, here, -⟩ := (stopped.finished i).mpr lt
        exact (List.getElem?_eq_some_iff.mp here).1
      omega
  refine ⟨fun before answer after split => stopped.proven split, ?_, ?_⟩
  · rw [stopped.completed, List.length_take]
    exact (List.take_eq_take_min).symm ▸ rfl
  · rw [stopped.completed]
    exact few

end Run

end FullManagedBi.Webhook
