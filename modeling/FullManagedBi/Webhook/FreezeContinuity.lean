import FullManagedBi.Lib.JsonText
import FullManagedBi.Lib.Sorting

/-!
# The records of frozen and guarding units

`scripts/lib/fnos-webhook-freeze-continuity.mjs`: what `systemctl show` must say of the five webhook units while they are
frozen, of a guard that took over and of a guard that was stopped. A record is a JSON value.
-/

namespace FullManagedBi.Webhook

open Lib

/-- The builtins the checks depend on. -/
structure UnitBuiltins where
  toLowerCase : String → String
  locale : LocaleOrder
  digest : Digest

/-- `REQUIRED_WEBHOOK_UNITS`. -/
def requiredWebhookUnits : List String := [
  "shein-fm-webhook-hydration.timer",
  "shein-fm-webhook-hydration.path",
  "shein-fm-webhook-hydration.service",
  "shein-fm-webhook-worker.service",
  "shein-fm-webhook-receiver.service"]

/-- `unitName.endsWith('.service')`. -/
def isService (unitName : String) : Bool := ".service".toList.isSuffixOf unitName.toList

/-- `fail`. -/
def freezeError (code message : String) : JsError := ⟨some code, message⟩

/-! ## Fields -/

/-- `record[upper] ?? record[lower]`. -/
def unitField (record : Json) (upper lower : String) : Option Json := nullish (record.field? upper) (record.field? lower)

def trimmedField (record : Json) (upper lower : String) : Option String :=
  match unitField record upper lower with
  | some (.str text) => some (jsTrim text)
  | _ => none

/-- `DECIMAL_STRING_PATTERN`. -/
def isDecimalString (text : String) : Bool := !text.toList.isEmpty && text.toList.all Char.isDigit

/-- `INVOCATION_ID_PATTERN`. -/
def isInvocationId (text : String) : Bool :=
  decide (text.toList.length = 32) && text.toList.all fun c =>
    c.isDigit || (decide ('a' ≤ c) && decide (c ≤ 'f')) || (decide ('A' ≤ c) && decide (c ≤ 'F'))

def decimalValue (text : String) : Nat := text.toList.foldl (fun n c => 10 * n + (c.toNat - 48)) 0

/-- `String(value).trim()`, where there is a value. -/
def scalarText : Option Json → Option String
  | none | some .null => none
  | some value => some (jsTrim value.text)

def parseSafePid (rawPid : Option Json) (requireZero allowZero : Bool) : Except JsError String := do
  match scalarText rawPid with
  | none => .error (freezeError "PID_FORMAT_INVALID" "PID field is missing")
  | some text =>
    refuse (¬isDecimalString text) (freezeError "PID_FORMAT_INVALID" "PID must be an unsigned decimal string")
    refuse (maxSafeInteger < decimalValue text) (freezeError "PID_BOUND_INVALID" "PID is out of safe integer range")
    refuse (requireZero ∧ decimalValue text ≠ 0) (freezeError "SERVICE_PID_NOT_ZERO" "Service MainPID must be zero")
    refuse (allowZero = false ∧ decimalValue text = 0)
      (freezeError "GUARD_PID_INVALID" "Guard MainPID must be a positive safe integer")
    return String.ofList (decimalDigits (decimalValue text))

def hasState (B : UnitBuiltins) (record : Json) (states : List String) : Bool :=
  match trimmedField record "ActiveState" "activeState" with
  | some state => B.toLowerCase state ∈ states
  | none => false

def isLoaded (B : UnitBuiltins) (record : Json) : Bool :=
  match trimmedField record "LoadState" "loadState" with
  | some state => B.toLowerCase state = "loaded"
  | none => false

/-- `ALLOWED_INACTIVE_STATES`. -/
def allowedInactiveStates : List String := ["inactive", "failed"]

def isPlainObject : Json → Bool
  | .obj _ => true
  | _ => false

/-! ## Frozen units -/

/-- What `validateUnitShowRecord` returns. -/
structure UnitRecord where
  id : String
  activeState : String
  activeEnterTimestampMonotonic : String
  inactiveEnterTimestampMonotonic : String
  mainPid : Option String
  invocationId : Option String
  deriving DecidableEq

def unitInvocation (unitName : String) (record : Json) : Except JsError (Option String) :=
  match unitField record "InvocationID" "invocationId" with
  | some (.str text) =>
    if isInvocationId (jsTrim text) then .ok (some (jsTrim text))
    else if isService unitName then
      .error (freezeError "INVOCATION_ID_INVALID" "Service InvocationID must be a 32-character hexadecimal string")
    else if jsTrim text = "" then .ok none
    else .error (freezeError "INVOCATION_ID_INVALID"
      "Non-service InvocationID if present must be a 32-character hexadecimal string")
  | other =>
    if isService unitName then
      .error (freezeError "INVOCATION_ID_INVALID" "Service InvocationID must be a 32-character hexadecimal string")
    else match scalarText other with
      | none => .ok none
      | some text =>
        if text = "" then .ok none
        else if isInvocationId text then .ok (some text)
        else .error (freezeError "INVOCATION_ID_INVALID"
          "Non-service InvocationID if present must be a 32-character hexadecimal string")

def timestampField (record : Json) (upper lower message : String) : Except JsError String :=
  match scalarText (unitField record upper lower) with
  | some text => if isDecimalString text then .ok text else .error (freezeError "TIMESTAMP_FORMAT_INVALID" message)
  | none => .error (freezeError "TIMESTAMP_FORMAT_INVALID" message)

def validateUnitShowRecord (B : UnitBuiltins) (unitName : String) (record : Json) : Except JsError UnitRecord := do
  refuse (¬isPlainObject record) (freezeError "RECORD_NOT_AN_OBJECT" "Unit record must be a plain object")
  refuse (¬isLoaded B record) (freezeError "UNIT_LOAD_STATE_NOT_LOADED" "Unit LoadState must be explicitly loaded")
  refuse (trimmedField record "Id" "id" ≠ some unitName)
    (freezeError "UNIT_ID_MISMATCH" "Unit Id does not match contracted unit")
  refuse (¬hasState B record allowedInactiveStates)
    (freezeError "ACTIVE_STATE_NOT_INACTIVE" "Unit ActiveState must be inactive or failed")
  let activeEnter ← timestampField record "ActiveEnterTimestampMonotonic" "activeEnterTimestampMonotonic"
    "ActiveEnterTimestampMonotonic must be an unsigned integer string"
  let inactiveEnter ← timestampField record "InactiveEnterTimestampMonotonic" "inactiveEnterTimestampMonotonic"
    "InactiveEnterTimestampMonotonic must be an unsigned integer string"
  refuse (decimalValue inactiveEnter = 0)
    (freezeError "INACTIVE_TIMESTAMP_ZERO" "InactiveEnterTimestampMonotonic cannot be zero for stopped unit")
  let mainPid ← if isService unitName then some <$> parseSafePid (unitField record "MainPID" "mainPid") true true
    else pure none
  let invocationId ← unitInvocation unitName record
  return {
    id := unitName
    activeState := B.toLowerCase ((trimmedField record "ActiveState" "activeState").getD "")
    activeEnterTimestampMonotonic := activeEnter
    inactiveEnterTimestampMonotonic := inactiveEnter
    mainPid
    invocationId }

def UnitRecord.json (record : UnitRecord) : Json := .obj [
  ("id", .str record.id), ("loadState", .str "loaded"), ("activeState", .str record.activeState),
  ("activeEnterTimestampMonotonic", .str record.activeEnterTimestampMonotonic),
  ("inactiveEnterTimestampMonotonic", .str record.inactiveEnterTimestampMonotonic),
  ("mainPid", .ofOption record.mainPid), ("invocationId", .ofOption record.invocationId)]

def computeFingerprint (B : UnitBuiltins) (units : List UnitRecord) : String :=
  let sorted := units.insertionSort fun a b => B.locale.localeCompare a.id b.id ≠ .gt
  B.digest.sha256Hex (String.intercalate "\n" (sorted.map fun unit => String.ofList (jsonChars unit.json)))

/-- What `captureFreezeBaseline` returns. -/
structure FreezeBaseline where
  freezeFingerprint : String
  units : List UnitRecord
  deriving DecidableEq

def captureFreezeBaseline (B : UnitBuiltins) (unitsMap : Json) : Except JsError FreezeBaseline := do
  match unitsMap with
  | .obj fields =>
    refuse (jsSort (fields.map (·.1)) ≠ jsSort requiredWebhookUnits)
      (freezeError "REQUIRED_UNITS_SET_MISMATCH" "unitsMap must contain exactly the contracted 5 webhook units")
    let units ← requiredWebhookUnits.mapM fun unitName =>
      validateUnitShowRecord B unitName (((Json.obj fields).field? unitName).getD .null)
    return { freezeFingerprint := computeFingerprint B units, units }
  | _ => .error (freezeError "UNITS_MAP_INVALID" "unitsMap must be a plain object")

/-- The first unit that differs from its baseline record, with what is different. -/
def driftOf (baselineUnits : Json) (current : UnitRecord) : Option JsError :=
  let baseline := fun name => ((baselineUnits.field? current.id).getD .null).field? name
  if ¬(strictEq (baseline "activeEnterTimestampMonotonic") (some (.str current.activeEnterTimestampMonotonic)) ∧
      strictEq (baseline "inactiveEnterTimestampMonotonic") (some (.str current.inactiveEnterTimestampMonotonic))) then
    some (freezeError "UNIT_LIFECYCLE_TIMESTAMP_DRIFT" "Unit lifecycle monotonic timestamp changed since baseline")
  else if ¬strictEq (baseline "invocationId") (some (.ofOption current.invocationId)) then
    some (freezeError "UNIT_INVOCATION_DRIFT" "Unit invocation ID changed since baseline")
  else if ¬(strictEq (baseline "activeState") (some (.str current.activeState)) ∧
      strictEq (baseline "mainPid") (some (.ofOption current.mainPid))) then
    some (freezeError "UNIT_STATE_DRIFT" "Unit state or MainPID diverged from baseline")
  else none

def assertFreezeContinuity (B : UnitBuiltins) (baseline currentUnitsMap : Json) : Except JsError Unit := do
  match baseline.field? "freezeFingerprint", baseline.field? "units" with
  | some (.str freezeFingerprint), some (.obj units) =>
    match captureFreezeBaseline B (.obj units) with
    | .error _ => .error (freezeError "BASELINE_UNITS_INVALID" "Baseline units failed schema validation")
    | .ok verified =>
      refuse (freezeFingerprint ≠ verified.freezeFingerprint)
        (freezeError "BASELINE_FINGERPRINT_CORRUPT" "Baseline units do not match baseline freezeFingerprint")
      let current ← captureFreezeBaseline B currentUnitsMap
      if current.freezeFingerprint ≠ freezeFingerprint then
        .error ((current.units.findSome? (driftOf (.obj units))).getD
          (freezeError "FREEZE_CONTINUITY_BROKEN" "Freeze fingerprint diverged between baseline and readback"))
  | _, _ => .error (freezeError "BASELINE_INVALID" "Baseline object is missing or invalid")

/-! ## Guards -/

/-- What `validateGuardUnit` returns. -/
structure GuardUnit where
  id : String
  mainPid : String
  invocationId : String
  deriving DecidableEq

def validateGuardUnit (B : UnitBuiltins) (record : Json) (expectedGuardName : String)
    (previousGuardInvocationId : Option Json) : Except JsError GuardUnit := do
  refuse (¬isPlainObject record) (freezeError "GUARD_RECORD_INVALID" "Guard record must be a plain object")
  refuse (¬isLoaded B record) (freezeError "GUARD_NOT_LOADED" "Guard unit LoadState must be explicitly loaded")
  refuse (trimmedField record "Id" "id" ≠ some expectedGuardName)
    (freezeError "GUARD_UNIT_NAME_MISMATCH" "Guard unit Id does not match expected name")
  refuse (¬hasState B record ["active"]) (freezeError "GUARD_NOT_ACTIVE" "Guard unit ActiveState must be active")
  let mainPid ← parseSafePid (unitField record "MainPID" "mainPid") false false
  match trimmedField record "InvocationID" "invocationId" with
  | none =>
    .error (freezeError "GUARD_INVOCATION_INVALID" "Guard InvocationID must be a 32-character hexadecimal string")
  | some invocationId =>
    refuse (¬isInvocationId invocationId)
      (freezeError "GUARD_INVOCATION_INVALID" "Guard InvocationID must be a 32-character hexadecimal string")
    refuse (truthy previousGuardInvocationId ∧ invocationId = jsTrim (textOrEmpty previousGuardInvocationId))
      (freezeError "GUARD_INVOCATION_REUSED" "Guard must not reuse previous guard invocation ID")
    return { id := expectedGuardName, mainPid, invocationId }

def assertOldGuardHandoverStopped (B : UnitBuiltins) (record : Json) (expectedOldGuardName : String) :
    Except JsError Unit := do
  refuse (¬isPlainObject record) (freezeError "OLD_GUARD_ABSENT" "Old guard record is missing or not an object")
  refuse (¬isLoaded B record) (freezeError "OLD_GUARD_NOT_LOADED" "Old guard LoadState must be explicitly loaded")
  refuse (trimmedField record "Id" "id" ≠ some expectedOldGuardName)
    (freezeError "OLD_GUARD_NAME_MISMATCH" "Old guard Id does not match expected name")
  refuse (¬hasState B record allowedInactiveStates)
    (freezeError "OLD_GUARD_STILL_ACTIVE" "Old guard ActiveState must be inactive or failed")
  let pid ← parseSafePid (unitField record "MainPID" "mainPid") false true
  refuse (decimalValue pid ≠ 0) (freezeError "OLD_GUARD_STILL_RUNNING" "Old guard MainPID must be zero")

end FullManagedBi.Webhook
