import FullManagedBi.Lib.Js
import FullManagedBi.Lib.Table

/-!
# Hydration directives and their leases

A webhook event may leave a read-only follow-up, a row of `ops.webhook_hydration_directive`
(migrations `0005_webhook_runtime.sql` and `0027`). Runners lease the rows that are due
(`claimBatch`), read the records back from the platform, and close the rows (`complete`) or give them
back (`fail`): `src/webhook/hydration-repository.mjs`.

Each of the three is one statement, so it is one step for everybody else. The clock is read once in a
statement, and which rows others hold locked is the environment's choice.
-/

namespace FullManagedBi.Webhook

open Lib

/-- A point in time, in milliseconds. -/
abbrev Instant := Int

/-- The hydration types of the event registry (`src/webhook/event-registry.mjs`). -/
inductive HydrationType where
  | productReadback
  | quotaReadback
  | rrpReadback
  | complianceReadback
  | purchaseOrderReadback
  | deliveryReadback
  | logisticsForecastReadback
  | purchaseReturnApplicationReadback
  | purchaseReturnReadback
  | shortageReadback
  | authorizationProbe
  deriving DecidableEq

/-- The lookup of a directive, as far as runners read it. -/
structure HydrationLookup where
  businessKey : Option String := none
  businessKeys : Option (List String) := none
  deriving DecidableEq

/-- `ck_ops_webhook_hydration_state`. -/
inductive HydrationState where
  | pending
  | running
  | succeeded
  | retry
  | failed
  deriving DecidableEq

/-- A row of `ops.webhook_hydration_directive`. -/
structure HydrationDirective where
  directiveId : Nat
  storeCode : String
  directiveType : HydrationType
  lookup : HydrationLookup
  state : HydrationState := .pending
  attemptCount : Nat := 0
  availableAt : Instant
  leaseOwner : String := ""
  leaseExpiresAt : Option Instant := none
  completedAt : Option Instant := none
  lastErrorCode : String := ""
  lastErrorMessage : String := ""
  deriving DecidableEq

/-- What `mapDirective` leaves of a claimed row. -/
structure ClaimedDirective where
  directiveId : Nat
  storeCode : String
  directiveType : HydrationType
  lookup : HydrationLookup
  attemptCount : Nat
  deriving DecidableEq

/-- What the repository's functions do to the table. -/
abbrev HydrationAction : Type → Type := Action (List HydrationDirective) JsError

/-! ## Checks on the arguments -/

/-- The characters `/[\u0000-\u001f\u007f]/` matches. -/
def isControl (c : Char) : Bool := c.toNat ≤ 0x1F || c.toNat == 0x7F

def requiredText (value label : String) (maximum : Nat := 200) : Except JsError String :=
  let result := jsTrim value
  if result = "" ∨ maximum < jsLength result ∨ result.toList.any isControl then
    .error { message := label ++ " is invalid." }
  else .ok result

/-- `integer`, of a number that is a natural number. -/
def integer (value : Nat) (label : String) (minimum : Nat := 1) (maximum : Nat := maxSafeInteger) :
    Except JsError Nat :=
  if maxSafeInteger < value ∨ value < minimum ∨ maximum < value then
    .error { message := label ++ " is invalid." }
  else .ok value

/-- What `/^[A-Z0-9_]{1,80}$/` matches. -/
def isErrorCode (code : String) : Bool :=
  decide (1 ≤ code.toList.length) && decide (code.toList.length ≤ 80) &&
    code.toList.all fun c => c.isUpper || c.isDigit || c == '_'

def safeError (js : TextBuiltins) (value fallback : String) : String :=
  let normalized := js.toUpperCase value
  if isErrorCode normalized then normalized else fallback

def webhookHydrationRetryDelayMs (attemptCount : Nat) : Except JsError Nat := do
  let attempt ← integer attemptCount "attemptCount" 1 100
  return min (60 * 60000) (10000 * 2 ^ min (attempt - 1) 10)

/-! ## claimBatch -/

def maxAttempts : Nat := 8

/-- `SUPPORTED_DIRECTIVES`. -/
def supportedDirectives : List HydrationType := [.purchaseOrderReadback, .deliveryReadback]

/-- `lease_expires_at <= clock_timestamp()`. -/
def leaseExpired (now : Instant) (row : HydrationDirective) : Bool :=
  row.leaseExpiresAt.any (· ≤ now)

/-- The rows the `exhausted` part of the statement closes. -/
def exhausted (now : Instant) (row : HydrationDirective) : Bool :=
  row.state = .running && leaseExpired now row && decide (maxAttempts ≤ row.attemptCount)

def exhaust (now : Instant) (row : HydrationDirective) : HydrationDirective :=
  { row with
    state := .failed, leaseOwner := "", leaseExpiresAt := none, completedAt := some now
    lastErrorCode := "HYDRATION_ATTEMPTS_EXHAUSTED"
    lastErrorMessage := "Read-only hydration exhausted its bounded attempts." }

/-- The rows the `candidate` part of the statement may take. -/
def candidate (now : Instant) (row : HydrationDirective) : Bool :=
  decide (row.directiveType ∈ supportedDirectives) && decide (row.attemptCount < maxAttempts) &&
    ((row.state = .pending || row.state = .retry) && decide (row.availableAt ≤ now) ||
      row.state = .running && leaseExpired now row)

/-- `ORDER BY available_at, hydration_directive_id`. -/
def DueBefore (a b : HydrationDirective) : Prop :=
  a.availableAt < b.availableAt ∨ a.availableAt = b.availableAt ∧ a.directiveId ≤ b.directiveId

instance : DecidableRel DueBefore := fun a b => by unfold DueBefore; infer_instance

/-- The rows taken: `FOR UPDATE SKIP LOCKED LIMIT`. -/
def candidates (now : Instant) (locked : List Nat) (limit : Nat) (rows : List HydrationDirective) :
    List HydrationDirective :=
  let due := rows.filter fun row => candidate now row && !locked.contains row.directiveId
  (due.insertionSort DueBefore).take limit

/-- What the `claimed` part of the statement makes of a row. -/
def lease (now : Instant) (owner : String) (leaseMs : Nat) (row : HydrationDirective) :
    HydrationDirective :=
  { row with
    state := .running, attemptCount := row.attemptCount + 1, leaseOwner := owner
    leaseExpiresAt := some (now + leaseMs), lastErrorCode := "", lastErrorMessage := "" }

def mapDirective (row : HydrationDirective) : ClaimedDirective :=
  ⟨row.directiveId, row.storeCode, row.directiveType, row.lookup, row.attemptCount⟩

/-- The statement of `claimBatch`. -/
def claimStatement (now : Instant) (locked : List Nat) (owner : String) (leaseMs limit : Nat)
    (rows : List HydrationDirective) : List ClaimedDirective × List HydrationDirective :=
  let taken := candidates now locked limit rows
  let claimed := (taken.map (lease now owner leaseMs)).insertionSort
    fun a b => a.directiveId ≤ b.directiveId
  (claimed.map mapDirective,
    updateWhere (fun row => (taken.map (·.directiveId)).contains row.directiveId)
      (lease now owner leaseMs)
      (updateWhere (exhausted now) (exhaust now) rows))

def claimBatch (now : Instant) (locked : List Nat) (trip : RoundTrip JsError)
    (workerId : String) (limit : Nat) (leaseMs : Nat := 10 * 60000) :
    HydrationAction (List ClaimedDirective) := do
  let owner ← MonadExcept.ofExcept (requiredText workerId "workerId")
  let leaseMs ← MonadExcept.ofExcept (integer leaseMs "leaseMs" 30000 (30 * 60000))
  let batchLimit ← MonadExcept.ofExcept (integer limit "limit" 1 200)
  query trip (claimStatement now locked owner leaseMs batchLimit)

/-! ## complete and fail -/

/-- The rows `complete` and `fail` reach: still leased to the worker. -/
def leasedTo (owner : String) (identifiers : List Nat) (row : HydrationDirective) : Bool :=
  identifiers.contains row.directiveId && row.state = .running && row.leaseOwner = owner

/-- What `complete` makes of a row. -/
def succeed (now : Instant) (row : HydrationDirective) : HydrationDirective :=
  { row with
    state := .succeeded, leaseOwner := "", leaseExpiresAt := none, completedAt := some now
    lastErrorCode := "", lastErrorMessage := "" }

/-- Closing the rows still leased to the worker: a statement that reports how many it reached. -/
def closeStatement (owner : String) (identifiers : List Nat)
    (close : HydrationDirective → HydrationDirective) (rows : List HydrationDirective) :
    Nat × List HydrationDirective :=
  (rowCount (leasedTo owner identifiers) rows,
    updateWhere (leasedTo owner identifiers) close rows)

/-- What `complete` and `fail` do with the number of rows they reached. -/
def requireLeases (identifiers : List Nat) (reached : Nat) : HydrationAction Nat :=
  if reached = identifiers.length then return reached
  else throw { message := "HYDRATION_LEASE_LOST" }

def complete (now : Instant) (trip : RoundTrip JsError) (ids : List Nat)
    (workerId : String) : HydrationAction Nat := do
  let owner ← MonadExcept.ofExcept (requiredText workerId "workerId")
  let identifiers ← MonadExcept.ofExcept (ids.mapM (integer · "directiveId"))
  if identifiers = [] then return 0
  let reached ← query trip (closeStatement owner identifiers (succeed now))
  requireLeases identifiers reached

/-- The options of `fail`. -/
structure FailOptions where
  workerId : String
  attemptCount : Nat
  errorCode : String
  retryDelayMs : Nat
  deriving DecidableEq

/-- What `fail` makes of a row: the state is `FAILED` where `terminal`, `RETRY` elsewhere. -/
def giveBack (js : TextBuiltins) (now : Instant) (terminal : Bool) (delay : Nat)
    (errorCode : String) (row : HydrationDirective) : HydrationDirective :=
  { row with
    state := if terminal then .failed else .retry
    availableAt := if terminal then row.availableAt else now + delay
    leaseOwner := "", leaseExpiresAt := none
    completedAt := if terminal then some now else none
    lastErrorCode := safeError js errorCode "HYDRATION_FAILED"
    lastErrorMessage :=
      if terminal then "Read-only hydration failed after bounded retries."
      else "Read-only hydration will retry after a bounded delay." }

/-- `fail`. One attempt number decides for all the rows. -/
def fail (js : TextBuiltins) (now : Instant) (trip : RoundTrip JsError) (ids : List Nat)
    (options : FailOptions) : HydrationAction Nat := do
  let owner ← MonadExcept.ofExcept (requiredText options.workerId "workerId")
  let identifiers ← MonadExcept.ofExcept (ids.mapM (integer · "directiveId"))
  if identifiers = [] then return 0
  let attempt ← MonadExcept.ofExcept (integer options.attemptCount "attemptCount" 1 100)
  let delay ← MonadExcept.ofExcept (integer options.retryDelayMs "retryDelayMs" 1000 (60 * 60000))
  let terminal := decide (maxAttempts ≤ attempt)
  let reached ← query trip
    (closeStatement owner identifiers (giveBack js now terminal delay options.errorCode))
  requireLeases identifiers reached

end FullManagedBi.Webhook
