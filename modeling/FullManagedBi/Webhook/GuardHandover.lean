import FullManagedBi.Lib.Action
import FullManagedBi.Webhook.FreezeContinuity

/-!
# The handover from one guard to the next

`handoverWebhookGuard` of `scripts/lib/fnos-webhook-guard-handover.mjs`. The effects are supplied by the owner: each is a
function of the world, which it may change, and answers or throws. The run keeps the world, the calls with their answers,
and what the function keeps of its progress.
-/

namespace FullManagedBi.Webhook

open Lib

inductive GuardEffect where
  | readOldGuard
  | readSourceUnits
  | startNewGuard
  | readNewGuard
  | stopOldGuard
  deriving DecidableEq

inductive HandoverPhase where
  | oldActive
  | sourceBefore
  | newStart
  | newActive
  | oldStop
  | oldStopped
  | sourceAfter
  | newRecheck
  deriving DecidableEq

def HandoverPhase.name : HandoverPhase → String
  | .oldActive => "OLD_ACTIVE"
  | .sourceBefore => "SOURCE_BEFORE"
  | .newStart => "NEW_START"
  | .newActive => "NEW_ACTIVE"
  | .oldStop => "OLD_STOP"
  | .oldStopped => "OLD_STOPPED"
  | .sourceAfter => "SOURCE_AFTER"
  | .newRecheck => "NEW_RECHECK"

/-- What is handed over, other than the effects. -/
structure HandoverArguments where
  sourceFreezeBaseline : Json
  oldGuardName : Option Json
  oldGuardInvocationId : Option Json
  newGuardName : Option Json

/-- The effects, by what each answers in a world. -/
def GuardEffects (σ : Type) := GuardEffect → σ → Except JsError Json × σ

structure Handover (σ : Type) where
  world : σ
  calls : List (GuardEffect × Except JsError Json) := []
  phase : Option HandoverPhase := none
  completedPhases : List HandoverPhase := []

section Run

variable {σ α : Type}

def perform (effects : GuardEffects σ) (effect : GuardEffect) : Action (Handover σ) JsError Json := fun run =>
  let (answer, world) := effects effect run.world
  (answer, { run with world, calls := run.calls ++ [(effect, answer)] })

/-- `step`. -/
def handoverStep (name : HandoverPhase) (action : Action (Handover σ) JsError α) : Action (Handover σ) JsError α := do
  modify fun run => { run with phase := some name }
  let result ← action
  modify fun run => { run with completedPhases := run.completedPhases ++ [name] }
  return result

def performChecked (effects : GuardEffects σ) (effect : GuardEffect) (check : Json → Except JsError α) :
    Action (Handover σ) JsError α := do
  let answer ← perform effects effect
  MonadExcept.ofExcept (check answer)

def jsonText? : Option Json → Option String
  | some (.str text) => some text
  | _ => none

/-- `/^[0-9a-f]{32}$/`. -/
def isLowerInvocationId (text : String) : Bool :=
  decide (text.toList.length = 32) && text.toList.all fun c => c.isDigit || (decide ('a' ≤ c) && decide (c ≤ 'f'))

def guardNames (arguments : HandoverArguments) : Except JsError (String × String) := do
  refuse (¬isLowerInvocationId (textOrEmpty arguments.oldGuardInvocationId)) { message := "" }
  match jsonText? arguments.oldGuardName, jsonText? arguments.newGuardName with
  | some oldGuardName, some newGuardName =>
    refuse (oldGuardName = newGuardName) { message := "" }
    return (oldGuardName, newGuardName)
  | _, _ => .error { message := "" }

def checkOldActive (B : UnitBuiltins) (arguments : HandoverArguments) (oldGuardName : String) (answer : Json) :
    Except JsError Unit := do
  let old ← validateGuardUnit B answer oldGuardName none
  refuse (¬strictEq (some (.str old.invocationId)) arguments.oldGuardInvocationId) { message := "" }

/-- The new guard is the one that was proven active. -/
def checkNewAgain (B : UnitBuiltins) (arguments : HandoverArguments) (newGuardName : String) (replacement : GuardUnit)
    (answer : Json) : Except JsError Unit := do
  let current ← validateGuardUnit B answer newGuardName arguments.oldGuardInvocationId
  refuse (current.invocationId ≠ replacement.invocationId ∨ current.mainPid ≠ replacement.mainPid) { message := "" }

/-- The body of `handoverWebhookGuard`. -/
def handoverSteps (B : UnitBuiltins) (effects : GuardEffects σ) (arguments : HandoverArguments) :
    Action (Handover σ) JsError GuardUnit := do
  let names ← MonadExcept.ofExcept (guardNames arguments)
  handoverStep .oldActive (performChecked effects .readOldGuard (checkOldActive B arguments names.1))
  handoverStep .sourceBefore (performChecked effects .readSourceUnits
    (assertFreezeContinuity B arguments.sourceFreezeBaseline))
  handoverStep .newStart (performChecked effects .startNewGuard fun _ => .ok ())
  let replacement ← handoverStep .newActive (performChecked effects .readNewGuard
    (validateGuardUnit B · names.2 arguments.oldGuardInvocationId))
  handoverStep .oldStop (performChecked effects .stopOldGuard fun _ => .ok ())
  handoverStep .oldStopped (performChecked effects .readOldGuard (assertOldGuardHandoverStopped B · names.1))
  handoverStep .sourceAfter (performChecked effects .readSourceUnits
    (assertFreezeContinuity B arguments.sourceFreezeBaseline))
  handoverStep .newRecheck (performChecked effects .readNewGuard (checkNewAgain B arguments names.2 replacement))
  return replacement

/-- The error that is thrown, whatever the cause: its phase, where the arguments were admitted (`INPUT` else), and the
completed phases. -/
structure HandoverFailure where
  phase : Option HandoverPhase
  completedPhases : List HandoverPhase
  deriving DecidableEq

structure HandoverReport where
  freezeFingerprint : Option Json
  replacement : GuardUnit
  completedPhases : List HandoverPhase

/-- `handoverWebhookGuard`: what is thrown or returned, and the run. -/
def handoverWebhookGuard (B : UnitBuiltins) (effects : GuardEffects σ) (arguments : HandoverArguments) (world : σ) :
    Except HandoverFailure HandoverReport × Handover σ :=
  let (outcome, run) := (handoverSteps B effects arguments).outcome { world }
  (match outcome with
    | .error _ => .error ⟨run.phase, run.completedPhases⟩
    | .ok replacement =>
      .ok ⟨arguments.sourceFreezeBaseline.field? "freezeFingerprint", replacement, run.completedPhases⟩, run)

def reportedPhases : Except HandoverFailure HandoverReport → List HandoverPhase
  | .error failure => failure.completedPhases
  | .ok report => report.completedPhases

end Run

end FullManagedBi.Webhook
