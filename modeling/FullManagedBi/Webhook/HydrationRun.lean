import FullManagedBi.Lib.Program
import FullManagedBi.Supply.PointLookup
import FullManagedBi.Webhook.HydrationRepository

/-!
# The hydration runner

`runWebhookHydration` (`scripts/run_full_managed_webhook_hydration.mjs`) leases up to three directives
at a time, groups them by store, reads the records of a group back with one call of the supply sync,
and completes or fails the group. It is a `Program` over its four calls; `hydrationPool` runs any
number of runners over one table, while new directives arrive.
-/

namespace FullManagedBi.Webhook

open Lib Supply

/-! ## The calls -/

inductive HydrationCall where
  | claimBatch (workerId : String) (limit : Nat)
  | complete (ids : List Nat) (workerId : String)
  | fail (ids : List Nat) (options : FailOptions)
  | sync (request : SyncRequest)

abbrev HydrationCall.Reply : HydrationCall → Type
  | .claimBatch .. => List ClaimedDirective
  | .complete .. => Nat
  | .fail .. => Nat
  | .sync .. => SyncSummary

abbrev HydrationProgram : Type → Type := Program HydrationCall HydrationCall.Reply JsError

/-- `await repository.claimBatch(...)`. -/
def awaitClaim (workerId : String) (limit : Nat) : HydrationProgram (List ClaimedDirective) :=
  .perform (HydrationCall.claimBatch workerId limit)

/-- `await repository.complete(...)`. -/
def awaitComplete (ids : List Nat) (workerId : String) : HydrationProgram Nat :=
  .perform (HydrationCall.complete ids workerId)

/-- `await repository.fail(...)`. -/
def awaitFail (ids : List Nat) (options : FailOptions) : HydrationProgram Nat :=
  .perform (HydrationCall.fail ids options)

/-- `await sync(...)`. -/
def awaitSync (request : SyncRequest) : HydrationProgram SyncSummary :=
  .perform (HydrationCall.sync request)

/-! ## Groups and keys -/

/-- `groups`: a `Map` keeps its keys in the order they were first set. -/
def groups (rows : List ClaimedDirective) : List (String × List ClaimedDirective) :=
  (rows.map (·.storeCode)).eraseDups.map fun storeCode =>
    (storeCode, rows.filter (·.storeCode = storeCode))

def lookupKeys (row : ClaimedDirective) : List String :=
  ((row.lookup.businessKey.getD "" :: row.lookup.businessKeys.getD []).map jsTrim).filter (· ≠ "")

def businessKeys (rows : List ClaimedDirective) (type : HydrationType) : List String :=
  ((rows.filter (·.directiveType = type)).flatMap lookupKeys).eraseDups

def domainCount (summary : SyncSummary) (storeCode : String) (domain : SupplyDomain) : Nat :=
  let store := summary.results.find? (·.storeCode = storeCode)
  let result := store.bind fun row => row.domains.find? (·.domain = domain)
  safeOrZero (result.bind (·.recordCount))

def errorCode (js : TextBuiltins) (error : JsError) : String :=
  let code := js.toUpperCase (error.code.getD error.message)
  if isErrorCode code then code else "HYDRATION_FAILED"

/-- `Math.max(...rows.map(({ attemptCount }) => attemptCount))`. -/
def maxAttempt (rows : List ClaimedDirective) : Nat :=
  (rows.map (·.attemptCount)).foldr max 0

/-! ## The runner -/

/-- The `summary` of a run. -/
structure HydrationSummary where
  claimed : Nat := 0
  succeeded : Nat := 0
  retrying : Nat := 0
  groups : Nat := 0
  deriving DecidableEq

/-- A group as the body of the loop reads it. -/
structure HydrationGroup where
  storeCode : String
  orderNos : List String
  deliveryCodes : List String
  validRows : List ClaimedDirective
  invalidRows : List ClaimedDirective
  deriving DecidableEq

/-- Whether the row's own key is among the keys of its kind. -/
def hasKey (orderNos deliveryCodes : List String) (row : ClaimedDirective) : Bool :=
  row.directiveType = .purchaseOrderReadback && row.lookup.businessKey.any (orderNos.contains ·) ||
    row.directiveType = .deliveryReadback && row.lookup.businessKey.any (deliveryCodes.contains ·)

def readGroup (storeCode : String) (rows : List ClaimedDirective) : HydrationGroup :=
  let orderNos := businessKeys rows .purchaseOrderReadback
  let deliveryCodes := businessKeys rows .deliveryReadback
  { storeCode, orderNos, deliveryCodes
    validRows := rows.filter (hasKey orderNos deliveryCodes)
    invalidRows := rows.filter fun row => !hasKey orderNos deliveryCodes row }

/-- Failing rows of one group: the largest attempt number of the rows stands for all of them. -/
def failRows (workerId errorCode : String) (rows : List ClaimedDirective) :
    HydrationProgram Nat := do
  let attempt := maxAttempt rows
  let retryDelayMs ← .ofExcept (webhookHydrationRetryDelayMs attempt)
  awaitFail (rows.map (·.directiveId)) ⟨workerId, attempt, errorCode, retryDelayMs⟩

/-- What the runner asks the sync for. -/
def HydrationGroup.request (group : HydrationGroup) : SyncRequest where
  stores := group.storeCode
  domains := (if group.orderNos ≠ [] then [.purchaseOrders] else []) ++
    if group.deliveryCodes ≠ [] then [.deliveries] else []
  purchaseOrderNos := ",".intercalate group.orderNos
  deliveryCodes := ",".intercalate group.deliveryCodes

/-- Whether the runner takes a summary for a read-back of the group. -/
def HydrationGroup.ready (group : HydrationGroup) (result : SyncSummary) : Bool :=
  result.ok &&
    !(group.orderNos ≠ [] &&
      decide (domainCount result group.storeCode .purchaseOrders < group.orderNos.length)) &&
    !(group.deliveryCodes ≠ [] &&
      decide (domainCount result group.storeCode .deliveries < group.deliveryCodes.length))

/-- The guarded part: read the records back, and complete the directives. -/
def readBack (workerId : String) (group : HydrationGroup) : HydrationProgram Nat := do
  let result ← awaitSync group.request
  if group.ready result then
    awaitComplete (group.validRows.map (·.directiveId)) workerId
  else
    throw ⟨some "WEBHOOK_READBACK_NOT_READY", "WEBHOOK_READBACK_NOT_READY"⟩

def hydrateValid (js : TextBuiltins) (workerId : String) (group : HydrationGroup)
    (summary : HydrationSummary) : HydrationProgram HydrationSummary :=
  if group.validRows = [] then return summary
  else
    tryCatch
      (do
        let _ ← readBack workerId group
        return { summary with succeeded := summary.succeeded + group.validRows.length })
      fun error => do
        let _ ← failRows workerId (errorCode js error) group.validRows
        return { summary with retrying := summary.retrying + group.validRows.length }

def failInvalid (workerId : String) (group : HydrationGroup) (summary : HydrationSummary) :
    HydrationProgram HydrationSummary :=
  if group.invalidRows = [] then return summary
  else do
    let _ ← failRows workerId "HYDRATION_LOOKUP_MISSING" group.invalidRows
    return { summary with retrying := summary.retrying + group.invalidRows.length }

def hydrateGroup (js : TextBuiltins) (workerId : String) (summary : HydrationSummary)
    (entry : String × List ClaimedDirective) : HydrationProgram HydrationSummary := do
  let group := readGroup entry.1 entry.2
  let summary ← failInvalid workerId group { summary with groups := summary.groups + 1 }
  hydrateValid js workerId group summary

/-- The batches of a run, at most `fuel` of them. -/
def hydrateBatches (js : TextBuiltins) (workerId : String) :
    (fuel : Nat) → HydrationSummary → HydrationProgram HydrationSummary
  | 0, summary => return summary
  | fuel + 1, summary => do
    let claimed ← awaitClaim workerId 3
    if claimed = [] then return summary
    let summary ← (groups claimed).foldlM (hydrateGroup js workerId)
      { summary with claimed := summary.claimed + claimed.length }
    hydrateBatches js workerId fuel summary

/-- `runWebhookHydration`, from its first batch on. -/
def runWebhookHydration (js : TextBuiltins) (workerId : String) :
    HydrationProgram HydrationSummary :=
  hydrateBatches js workerId 10 {}

/-! ## Runners over one table -/

/-- The id of a runner, `hostname:pid`: no white space around it. -/
structure WorkerId where
  text : String
  trimmed : jsTrim text = text

instance : DecidableEq WorkerId := fun a b =>
  decidable_of_iff (a.text = b.text) ⟨fun h => by cases a; cases b; simp_all, fun h => h ▸ rfl⟩

/-- What the environment chooses for a call: the clock, the rows others hold locked, the round trip to
the database, and how the sync ends. -/
structure HydrationEnv where
  now : Instant := 0
  locked : List Nat := []
  trip : RoundTrip JsError := .done
  sync : Except JsError SyncSummary := .error { message := "fetch failed" }

def answerHydration (js : TextBuiltins) (env : HydrationEnv) :
    (c : HydrationCall) → HydrationAction c.Reply
  | .claimBatch workerId limit => claimBatch env.now env.locked env.trip workerId limit
  | .complete ids workerId => complete env.now env.trip ids workerId
  | .fail ids options => fail js env.now env.trip ids options
  | .sync _ => MonadExcept.ofExcept env.sync

/-- A new directive, as `completeJob` inserts it. -/
structure NewDirective where
  directiveId : Nat
  storeCode : String
  directiveType : HydrationType
  lookup : HydrationLookup
  createdAt : Instant
  deriving DecidableEq

def NewDirective.row (new : NewDirective) : HydrationDirective where
  directiveId := new.directiveId
  storeCode := new.storeCode
  directiveType := new.directiveType
  lookup := new.lookup
  availableAt := new.createdAt

/-- `INSERT INTO ops.webhook_hydration_directive`: the id is a fresh one. -/
def insertDirective (rows : List HydrationDirective) (new : NewDirective) :
    List HydrationDirective :=
  if (rows.map (·.directiveId)).contains new.directiveId then rows else rows ++ [new.row]

/-- What a runner may do with the rows its last `claimBatch` returned: fail some of them, with the
largest of their attempt numbers, under its own id. -/
def hydrationProtocol (worker : WorkerId) :
    Protocol HydrationCall HydrationCall.Reply JsError (List ClaimedDirective) where
  allowed held
    | .claimBatch workerId _ => workerId = worker.text
    | .complete _ workerId => workerId = worker.text
    | .fail ids options => options.workerId = worker.text ∧ ∃ rows ⊆ held,
        ids = rows.map (·.directiveId) ∧ options.attemptCount = maxAttempt rows
    | .sync _ => True
  after held
    | .claimBatch .., .ok rows => rows
    | .claimBatch .., .error _ => []
    | .complete .., _ => held
    | .fail .., _ => held
    | .sync .., _ => held

/-- Runners over one table of directives. -/
def hydrationPool (js : TextBuiltins) :
    PoolSpec (List HydrationDirective) WorkerId HydrationCall HydrationCall.Reply JsError
      (List ClaimedDirective) HydrationSummary HydrationEnv NewDirective where
  body worker := runWebhookHydration js worker.text
  protocol := hydrationProtocol
  unknowing := []
  answer rows _ c env := (answerHydration js env c).outcome rows
  outside := insertDirective

abbrev HydrationStep : Type := PoolAction WorkerId HydrationEnv NewDirective

end FullManagedBi.Webhook
