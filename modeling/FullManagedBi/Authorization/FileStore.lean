import FullManagedBi.Lib.Js
import FullManagedBi.Lib.Table

/-!
# The authorization state file

A batch asks some stores to authorize an application. A store that starts gets a state, a one-time
record the platform's callback comes back to; a state that completes leaves the store for review, and a
reviewer approves or rejects it. All of it is one document, `FileAuthorizationStore`
(`src/authorization/file-store.mjs`), and an operation reads it, changes it and renames the new version
into place under a lock, so it is one step for everybody else.

An operation that throws leaves the file alone, except where its error asks for the change to be kept
(`persistState`). A `RoundTrip` says what becomes of the write.
-/

namespace FullManagedBi.Authorization

open Lib

/-- A point in time, in milliseconds. -/
abbrev Instant := Int

/-- `BATCH_STATUSES`. -/
inductive BatchStatus where
  | active
  | completed
  | revoked
  deriving DecidableEq

/-- `STORE_STATUSES`. -/
inductive StoreStatus where
  | notStarted
  | authorizing
  | reviewRequired
  | approved
  | rejected
  | error
  deriving DecidableEq

/-- `STATE_STATUSES`. -/
inductive StateStatus where
  | pending
  | processing
  | succeeded
  | failed
  | expired
  deriving DecidableEq

structure BatchStore where
  storeCode : String
  applicationStoreCode : Option String := none
  applicationReady : Bool := true
  status : StoreStatus := .notStarted
  attemptCount : Nat := 0
  authorizedAt : Option Instant := none
  reviewedAt : Option Instant := none
  platformStoreName : Option String := none
  supplierId : Option String := none
  accountNo : Option String := none
  receiptFile : Option String := none
  credentialFingerprint : Option String := none
  lastErrorCode : Option String := none
  deriving DecidableEq

structure Batch where
  batchId : String
  label : String
  tokenHash : String
  status : BatchStatus
  createdAt : Instant
  expiresAt : Instant
  completedAt : Option Instant := none
  stores : List BatchStore
  deriving DecidableEq

/-- A state: one attempt of one store. -/
structure AuthorizationState where
  stateHash : String
  batchId : String
  storeCode : String
  applicationStoreCode : Option String := none
  status : StateStatus := .pending
  createdAt : Instant
  expiresAt : Instant
  processingAt : Option Instant := none
  completedAt : Option Instant := none
  failureCode : Option String := none
  deriving DecidableEq

structure StateFile where
  batches : List Batch
  states : List AuthorizationState
  deriving DecidableEq

def blankState : StateFile := ⟨[], []⟩

/-! ## Finding and rewriting records -/

/-- What `/^[A-Z0-9_-]{1,24}$/` matches. -/
def isStoreCode (code : String) : Bool :=
  decide (1 ≤ code.toList.length) && decide (code.toList.length ≤ 24) &&
    code.toList.all fun c => c.isUpper || c.isDigit || c == '_' || c == '-'

def safeEqualHex (left right : String) : Bool :=
  isSha256Hex left && isSha256Hex right && decide (left = right)

def StateFile.stateOf (s : StateFile) (stateHash : String) : Option AuthorizationState :=
  s.states.find? fun item => safeEqualHex item.stateHash stateHash

def StateFile.batchOf (s : StateFile) (batchId : String) : Option Batch :=
  s.batches.find? fun batch => decide (batch.batchId = batchId)

def findBatchByHash (s : StateFile) (tokenHash : String) : Option Batch :=
  s.batches.find? fun batch => safeEqualHex batch.tokenHash tokenHash

def findStore (batch : Batch) (storeCode : String) : Option BatchStore :=
  batch.stores.find? fun store => decide (store.storeCode = storeCode)

def StateFile.storeOf (s : StateFile) (batchId storeCode : String) : Option BatchStore :=
  (s.batchOf batchId).bind (findStore · storeCode)

def StateFile.updateState (s : StateFile) (stateHash : String)
    (f : AuthorizationState → AuthorizationState) : StateFile :=
  { s with states := updateFirst (fun item => safeEqualHex item.stateHash stateHash) f s.states }

def StateFile.updateBatch (s : StateFile) (batchId : String) (f : Batch → Batch) : StateFile :=
  { s with batches := updateFirst (fun batch => decide (batch.batchId = batchId)) f s.batches }

def Batch.updateStore (batch : Batch) (storeCode : String) (f : BatchStore → BatchStore) : Batch :=
  { batch with
    stores := updateFirst (fun store => decide (store.storeCode = storeCode)) f batch.stores }

def StateFile.updateStore (s : StateFile) (batchId storeCode : String)
    (f : BatchStore → BatchStore) : StateFile :=
  s.updateBatch batchId (·.updateStore storeCode f)

/-- `pruneStates`: states that are over are kept for thirty days. -/
def pruneStates (s : StateFile) (now : Instant) : StateFile :=
  { s with
    states := s.states.filter fun item =>
      item.status = .pending || item.status = .processing ||
        decide (now - 30 * 24 * 60 * 60 * 1000 ≤ item.createdAt) }

/-! ## What callers are shown -/

/-- A store, as `publicBatch` shows it. -/
structure PublicStore where
  storeCode : String
  applicationStoreCode : Option String
  applicationReady : Bool
  status : StoreStatus
  attemptCount : Nat
  authorizedAt : Option Instant
  reviewedAt : Option Instant
  lastErrorCode : Option String
  deriving DecidableEq

/-- A batch, as `publicBatch` shows it. `none` is the status `EXPIRED`. -/
structure PublicBatch where
  batchId : String
  label : String
  status : Option BatchStatus
  createdAt : Instant
  expiresAt : Instant
  stores : List PublicStore
  deriving DecidableEq

def publicBatch (batch : Batch) (now : Instant) : PublicBatch :=
  let isExpired := decide (batch.expiresAt ≤ now)
  { batchId := batch.batchId
    label := batch.label
    status := if isExpired then none else some batch.status
    createdAt := batch.createdAt
    expiresAt := batch.expiresAt
    stores := batch.stores.map fun store =>
      { storeCode := store.storeCode
        applicationStoreCode := store.applicationStoreCode
        applicationReady := store.applicationReady
        status := if isExpired && store.status = .authorizing then .error else store.status
        attemptCount := store.attemptCount
        authorizedAt := store.authorizedAt
        reviewedAt := store.reviewedAt
        lastErrorCode := store.lastErrorCode } }

/-! ## Changing the file -/

/-- An error of an operation: the change to write all the same, where the error has `persistState`. -/
structure Refusal where
  error : JsError
  persist : Option StateFile := none
  deriving DecidableEq

/-- What an operation does between reading the file and writing it. -/
abbrev Operation (β : Type) : Type := StateFile → Except Refusal (β × StateFile)

/-- `fail`. -/
def refuse {β : Type} (code message : String) (persist : Option StateFile := none) :
    Except Refusal β :=
  .error ⟨{ code := some code, message }, persist⟩

def written {β : Type} (operation : Operation β) (s : StateFile) : Option StateFile :=
  match operation s with
  | .ok (_, s') => some s'
  | .error refusal => refusal.persist

/-- `#write`. -/
def write (trip : RoundTrip JsError) (s : StateFile) : Action StateFile JsError Unit :=
  match trip with
  | .done => set s
  | .lost e => do
    set s
    throw e
  | .failed e => throw e

/-- `#mutate`. -/
def mutate {β : Type} (trip : RoundTrip JsError) (operation : Operation β) :
    Action StateFile JsError β := do
  match operation (← get) with
  | .ok (result, s) =>
    write trip s
    return result
  | .error refusal =>
    match refusal.persist with
    | some s => write trip s
    | none => pure ()
    throw refusal.error

/-- A `TypeError` of an argument check. -/
def requireThat (holds : Bool) (message : String) : Action StateFile JsError Unit :=
  if holds then pure () else throw { message }

/-! ## createBatch -/

/-- The arguments of `createBatch`. -/
structure BatchRequest where
  batchId : String
  label : String := ""
  tokenHash : String
  storeCodes : List String
  applicationStoreCodesByStore : Option (List (String × String)) := none
  availableApplicationStoreCodes : Option (List String) := none
  createdAt : Instant
  expiresAt : Instant
  deriving DecidableEq

/-- The owner an object of routes names for a store: of equal keys the last counts. -/
def routeOf (routes : List (String × String)) (storeCode : String) : Option String :=
  (routes.reverse.find? fun route => decide (route.1 = storeCode)).map (·.2)

def BatchRequest.routes (js : TextBuiltins) (r : BatchRequest) : Option (List (String × String)) :=
  r.applicationStoreCodesByStore.map fun entries =>
    entries.map fun entry => (js.toUpperCase entry.1, js.toUpperCase entry.2)

def BatchRequest.normalizedCodes (js : TextBuiltins) (r : BatchRequest) : List String :=
  (r.storeCodes.map js.toUpperCase).eraseDups

/-- The application owners that are ready, in upper case and without repetitions. -/
def BatchRequest.availableApplications (js : TextBuiltins) (r : BatchRequest) :
    Option (List String) :=
  r.availableApplicationStoreCodes.map fun owners => (owners.map js.toUpperCase).eraseDups

/-- Routes that name an owner for each store of the batch and for no other. -/
def routesCover (codes : List String) (routes : List (String × String)) : Bool :=
  let keys := (routes.map (·.1)).eraseDups
  decide (keys.length = codes.length) &&
    codes.all (fun code => isStoreCode ((routeOf routes code).getD "")) &&
    keys.all fun key => codes.contains key

def newStore (routes : Option (List (String × String))) (available : Option (List String))
    (storeCode : String) : BatchStore :=
  let owner := routes.bind (routeOf · storeCode)
  { storeCode
    applicationStoreCode := owner
    applicationReady := available.all (·.contains (owner.getD "")) }

def newBatch (js : TextBuiltins) (r : BatchRequest) : Batch :=
  { batchId := r.batchId
    label := String.ofList
      (jsSlice 80 (if r.label = "" then "全托店铺授权" else r.label).toList)
    tokenHash := r.tokenHash
    status := .active
    createdAt := r.createdAt
    expiresAt := r.expiresAt
    stores := (r.normalizedCodes js).map (newStore (r.routes js) (r.availableApplications js)) }

/-- An active batch gives way to a new one. -/
def revoke (batch : Batch) : Batch :=
  if batch.status = .active then { batch with status := .revoked } else batch

/-- What `createBatch` does to the file. -/
def createBatchIn (js : TextBuiltins) (r : BatchRequest) : Operation PublicBatch := fun s =>
  let batch := newBatch js r
  .ok (publicBatch batch r.createdAt,
    pruneStates { s with batches := s.batches.map revoke ++ [batch] } r.createdAt)

def createBatch (js : TextBuiltins) (trip : RoundTrip JsError) (r : BatchRequest) :
    Action StateFile JsError PublicBatch := do
  let codes := r.normalizedCodes js
  requireThat (r.batchId != "" && isSha256Hex r.tokenHash) "invalid authorization batch"
  requireThat (!r.storeCodes.isEmpty) "storeCodes must be a non-empty array"
  requireThat (decide (codes.length = r.storeCodes.length) && codes.all isStoreCode)
    "storeCodes must be unique valid store codes"
  requireThat ((r.routes js).all (routesCover codes))
    "application store routing must cover the batch exactly"
  requireThat
    ((r.availableApplications js).all fun owners =>
      decide (owners.length = (r.availableApplicationStoreCodes.getD []).length) &&
        owners.all isStoreCode)
    "available application owners must be unique valid codes"
  requireThat (decide (r.createdAt < r.expiresAt)) "authorization batch dates are invalid"
  mutate trip (createBatchIn js r)

/-! ## beginState -/

/-- The arguments of `beginState`. -/
structure BeginRequest where
  tokenHash : String
  storeCode : String
  stateHash : String
  createdAt : Instant
  expiresAt : Instant
  maxAttempts : Nat := 6
  deriving DecidableEq

/-- What `beginState` returns. -/
structure BegunState where
  batchId : String
  storeCode : String
  applicationStoreCode : Option String
  expiresAt : Instant
  deriving DecidableEq

def AuthorizationState.live (item : AuthorizationState) : Bool :=
  item.status = .pending || item.status = .processing

def AuthorizationState.belongsTo (batchId storeCode : String) (item : AuthorizationState) : Bool :=
  decide (item.batchId = batchId) && decide (item.storeCode = storeCode)

/-- An earlier attempt of the store gives way to a new one. -/
def supersede (now : Instant) (item : AuthorizationState) : AuthorizationState :=
  { item with status := .expired, completedAt := some now, failureCode := some "SUPERSEDED" }

/-- What `beginState` makes of the store. -/
def startAttempt (store : BatchStore) : BatchStore :=
  { store with
    status := .authorizing, attemptCount := store.attemptCount + 1, lastErrorCode := none }

def StoreStatus.received : StoreStatus → Bool
  | .reviewRequired => true
  | .approved => true
  | _ => false

def newState (r : BeginRequest) (batch : Batch) (store : BatchStore) : AuthorizationState :=
  { stateHash := r.stateHash
    batchId := batch.batchId
    storeCode := store.storeCode
    applicationStoreCode := store.applicationStoreCode
    createdAt := r.createdAt
    expiresAt := r.expiresAt }

/-- The file after `beginState`. -/
def begun (r : BeginRequest) (batch : Batch) (store : BatchStore) (s : StateFile) : StateFile :=
  let superseded := updateWhere
    (fun item => item.belongsTo batch.batchId store.storeCode && item.live)
    (supersede r.createdAt) s.states
  pruneStates
    { batches := updateFirst (fun other => safeEqualHex other.tokenHash r.tokenHash)
        (·.updateStore store.storeCode startAttempt) s.batches
      states := superseded ++ [newState r batch store] } r.createdAt

/-- What `beginState` does to the file, for a store code in upper case. -/
def beginStateIn (r : BeginRequest) (storeCode : String) : Operation BegunState := fun s =>
  match findBatchByHash s r.tokenHash with
  | none => refuse "INVALID_BATCH_TOKEN" "authorization batch is unavailable"
  | some batch =>
    if batch.status ≠ .active then
      refuse "INVALID_BATCH_TOKEN" "authorization batch is unavailable"
    else if batch.expiresAt ≤ r.createdAt then
      refuse "BATCH_EXPIRED" "authorization batch has expired"
    else match findStore batch storeCode with
      | none => refuse "STORE_NOT_IN_BATCH" "store is not part of this batch"
      | some store =>
        if !store.applicationReady then
          refuse "APPLICATION_NOT_READY" "the legal-entity application is not ready"
        else if store.status.received then
          refuse "STORE_ALREADY_RECEIVED" "store authorization has already been received"
        else if r.maxAttempts ≤ store.attemptCount then
          refuse "STORE_ATTEMPT_LIMIT" "store authorization attempt limit reached"
        else
          .ok (⟨batch.batchId, storeCode, store.applicationStoreCode, r.expiresAt⟩,
            begun r batch store s)

def beginState (js : TextBuiltins) (trip : RoundTrip JsError) (r : BeginRequest) :
    Action StateFile JsError BegunState := do
  let storeCode := js.toUpperCase r.storeCode
  requireThat (isSha256Hex r.tokenHash && isSha256Hex r.stateHash && isStoreCode storeCode)
    "invalid authorization state request"
  mutate trip (beginStateIn r storeCode)

/-! ## claimState -/

/-- What `claimState` returns. -/
structure Claim where
  batchId : String
  storeCode : String
  applicationStoreCode : Option String
  stateCreatedAt : Instant
  deriving DecidableEq

def expire (now : Instant) (item : AuthorizationState) : AuthorizationState :=
  { item with status := .expired, completedAt := some now, failureCode := some "STATE_EXPIRED" }

def endAttempt (code : String) (store : BatchStore) : BatchStore :=
  if store.status = .authorizing then
    { store with status := .error, lastErrorCode := some code }
  else store

def process (now : Instant) (item : AuthorizationState) : AuthorizationState :=
  { item with status := .processing, processingAt := some now }

/-- `batch.status !== 'ACTIVE' || Date.parse(batch.expiresAt) <= now`. -/
def Batch.closed (batch : Batch) (now : Instant) : Bool :=
  !decide (batch.status = .active) || decide (batch.expiresAt ≤ now)

/-- What `claimState` does to the file. -/
def claimStateIn (stateHash : String) (now : Instant) : Operation Claim := fun s =>
  match s.stateOf stateHash with
  | none => refuse "INVALID_AUTHORIZATION_STATE" "authorization state was not found"
  | some item =>
    if item.status ≠ .pending then
      refuse
        (if item.status = .succeeded then "AUTHORIZATION_STATE_REPLAYED"
          else "AUTHORIZATION_STATE_UNAVAILABLE")
        "authorization state is no longer available"
    else if item.expiresAt ≤ now then
      refuse "AUTHORIZATION_STATE_EXPIRED" "authorization state has expired"
        (some ((s.updateState stateHash (expire now)).updateStore item.batchId item.storeCode
          (endAttempt "STATE_EXPIRED")))
    else if (s.batchOf item.batchId).all (·.closed now) then
      refuse "BATCH_EXPIRED" "authorization batch has expired"
    else
      .ok (⟨item.batchId, item.storeCode, item.applicationStoreCode, item.createdAt⟩,
        s.updateState stateHash (process now))

def claimState (trip : RoundTrip JsError) (stateHash : String) (claimedAt : Instant) :
    Action StateFile JsError Claim := do
  requireThat (isSha256Hex stateHash) "invalid state hash"
  mutate trip (claimStateIn stateHash claimedAt)

/-! ## completeState -/

/-- The identity the platform confirmed. -/
structure StoreIdentity where
  supplierId : String
  platformStoreName : Option String := none
  accountNo : Option String := none
  deriving DecidableEq

/-- The arguments of `completeState`. -/
structure CompleteRequest where
  stateHash : String
  completedAt : Instant
  identity : StoreIdentity
  receiptFile : String
  credentialFingerprint : String
  deriving DecidableEq

/-- What `completeState` returns. -/
structure CompletedState where
  batchId : String
  storeCode : String
  status : StoreStatus
  authorizedAt : Instant
  platformStoreName : Option String
  supplierId : String
  accountNo : Option String
  deriving DecidableEq

/-- `path.basename`. -/
def basename (path : String) : String :=
  String.ofList ((path.toList.reverse.dropWhile (· == '/')).takeWhile (· != '/')).reverse

/-- `String(value)`, of a text or `null`. -/
def textOf (value : Option String) : String := value.getD "null"

/-- The stores of all batches, in the order the document has them. -/
def StateFile.stores (s : StateFile) : List BatchStore := s.batches.flatMap (·.stores)

/-- What `completeState` throws because of one store of the document. -/
def bindingConflict (r : CompleteRequest) (storeCode : String) (other : BatchStore) :
    Option Refusal :=
  if other.storeCode = storeCode || !other.status.received then none
  else if textOf other.supplierId = r.identity.supplierId then
    some ⟨{ code := some "SUPPLIER_ID_ALREADY_BOUND",
            message := "supplier id is already bound to a different store" }, none⟩
  else if other.credentialFingerprint = some r.credentialFingerprint then
    some ⟨{ code := some "CREDENTIAL_ALREADY_BOUND",
            message := "store credential is already bound to a different store" }, none⟩
  else none

def failWithBatch (now : Instant) (item : AuthorizationState) : AuthorizationState :=
  { item with status := .failed, completedAt := some now, failureCode := some "BATCH_EXPIRED" }

def succeed (now : Instant) (item : AuthorizationState) : AuthorizationState :=
  { item with status := .succeeded, completedAt := some now }

def nonEmpty (value : Option String) : Option String := value.filter (· != "")

/-- What `completeState` makes of the store. -/
def receive (r : CompleteRequest) (store : BatchStore) : BatchStore :=
  { store with
    status := .reviewRequired, authorizedAt := some r.completedAt, reviewedAt := none
    platformStoreName := nonEmpty r.identity.platformStoreName
    supplierId := some r.identity.supplierId, accountNo := nonEmpty r.identity.accountNo
    receiptFile := some (basename r.receiptFile)
    credentialFingerprint := some r.credentialFingerprint, lastErrorCode := none }

def closeIfReceived (now : Instant) (batch : Batch) : Batch :=
  if batch.stores.all (·.status.received) then
    { batch with status := .completed, completedAt := some now }
  else batch

/-- The file after `completeState`. -/
def completed (r : CompleteRequest) (item : AuthorizationState) (s : StateFile) : StateFile :=
  (s.updateState r.stateHash (succeed r.completedAt)).updateBatch item.batchId fun batch =>
    closeIfReceived r.completedAt (batch.updateStore item.storeCode (receive r))

/-- What `completeState` does to the file. -/
def completeStateIn (r : CompleteRequest) : Operation CompletedState := fun s =>
  match s.stateOf r.stateHash with
  | none => refuse "AUTHORIZATION_STATE_UNAVAILABLE" "authorization state is not processing"
  | some item =>
    if item.status ≠ .processing then
      refuse "AUTHORIZATION_STATE_UNAVAILABLE" "authorization state is not processing"
    else match s.batchOf item.batchId with
      | none => refuse "INVALID_STATE_FILE" "authorization state lost its store"
      | some batch => match findStore batch item.storeCode with
        | none => refuse "INVALID_STATE_FILE" "authorization state lost its store"
        | some store =>
          if batch.closed r.completedAt then
            refuse "BATCH_EXPIRED" "authorization batch has expired"
              (some (s.updateState r.stateHash (failWithBatch r.completedAt)))
          else match s.stores.findSome? (bindingConflict r store.storeCode) with
            | some refusal => .error refusal
            | none =>
              .ok (⟨batch.batchId, store.storeCode, .reviewRequired, r.completedAt,
                  nonEmpty r.identity.platformStoreName, r.identity.supplierId,
                  nonEmpty r.identity.accountNo⟩,
                completed r item s)

def completeState (trip : RoundTrip JsError) (r : CompleteRequest) :
    Action StateFile JsError CompletedState :=
  mutate trip (completeStateIn r)

/-! ## failState -/

/-- The arguments of `failState`. -/
structure FailRequest where
  stateHash : String
  failedAt : Instant
  failureCode : String
  deriving DecidableEq

/-- What `failState` returns. -/
inductive FailedState where
  | ignored
  | failed (storeCode : String)
  deriving DecidableEq

/-- The failure code, with everything outside `[A-Z0-9_]` replaced. -/
def safeFailureCode (failureCode : String) : String :=
  let code := if failureCode = "" then "AUTHORIZATION_FAILED" else failureCode
  String.ofList
    (jsSlice 80 (code.toList.map fun c => if c.isUpper || c.isDigit || c == '_' then c else '_'))

def failItem (now : Instant) (code : String) (item : AuthorizationState) : AuthorizationState :=
  { item with status := .failed, completedAt := some now, failureCode := some code }

/-- The file after `failState`. The store is the one of the state, whichever attempt of it is the
live one. -/
def failedFile (r : FailRequest) (item : AuthorizationState) (s : StateFile) : StateFile :=
  let code := safeFailureCode r.failureCode
  (s.updateState r.stateHash (failItem r.failedAt code)).updateStore item.batchId item.storeCode
    (endAttempt code)

/-- What `failState` does to the file. -/
def failStateIn (r : FailRequest) : Operation FailedState := fun s =>
  match s.stateOf r.stateHash with
  | none => .ok (.ignored, s)
  | some item =>
    if item.status = .succeeded then .ok (.ignored, s)
    else .ok (.failed item.storeCode, failedFile r item s)

def failState (trip : RoundTrip JsError) (r : FailRequest) :
    Action StateFile JsError FailedState :=
  mutate trip (failStateIn r)

/-! ## The review -/

/-- The arguments of `approveStore` and `rejectStore`. -/
structure ReviewRequest where
  batchId : String
  storeCode : String
  supplierId : String
  reviewedAt : Instant
  deriving DecidableEq

/-- What `approveStore` makes of the store. -/
def approve (now : Instant) (store : BatchStore) : BatchStore :=
  { store with status := .approved, reviewedAt := some now, receiptFile := none }

/-- What the review functions return of the file they wrote. -/
def reviewed (batch : Batch) (storeCode : String) (f : BatchStore → BatchStore) (now : Instant)
    (s : StateFile) : PublicBatch × StateFile :=
  (publicBatch (batch.updateStore storeCode f) now, s.updateStore batch.batchId storeCode f)

/-- What `approveStore` does to the file, for a store code in upper case. -/
def approveStoreIn (r : ReviewRequest) (storeCode : String) : Operation PublicBatch := fun s =>
  match s.batchOf r.batchId with
  | none => refuse "STORE_NOT_REVIEWABLE" "store is not awaiting review"
  | some batch => match findStore batch storeCode with
    | none => refuse "STORE_NOT_REVIEWABLE" "store is not awaiting review"
    | some store =>
      if store.status ≠ .reviewRequired then
        refuse "STORE_NOT_REVIEWABLE" "store is not awaiting review"
      else if textOf store.supplierId ≠ r.supplierId then
        refuse "SUPPLIER_ID_MISMATCH" "supplier id confirmation does not match"
      else .ok (reviewed batch storeCode (approve r.reviewedAt) r.reviewedAt s)

def approveStore (js : TextBuiltins) (trip : RoundTrip JsError) (r : ReviewRequest) :
    Action StateFile JsError PublicBatch :=
  mutate trip (approveStoreIn r (js.toUpperCase r.storeCode))

/-- The arguments of `rollbackStoreApproval`. -/
structure RollbackRequest extends ReviewRequest where
  receiptFile : String
  credentialFingerprint : String
  deriving DecidableEq

/-- What `rollbackStoreApproval` makes of the store. -/
def rollBack (receiptFile : String) (store : BatchStore) : BatchStore :=
  { store with status := .reviewRequired, reviewedAt := none, receiptFile := some receiptFile }

/-- The store is still as the approval left it. -/
def rollbackMatches (r : RollbackRequest) (store : BatchStore) : Bool :=
  store.status = .approved && decide (textOf store.supplierId = r.supplierId) &&
    decide (store.reviewedAt = some r.reviewedAt) && decide (store.receiptFile = none) &&
    decide (store.credentialFingerprint = some r.credentialFingerprint) &&
    decide (basename r.receiptFile ≠ "") && decide (basename r.receiptFile = r.receiptFile)

/-- What `rollbackStoreApproval` does to the file, for a store code in upper case. -/
def rollbackStoreApprovalIn (r : RollbackRequest) (storeCode : String) : Operation PublicBatch :=
  fun s =>
    let conflict : Except Refusal (PublicBatch × StateFile) :=
      refuse "APPROVAL_ROLLBACK_CONFLICT" "approved store no longer matches rollback preconditions"
    match s.batchOf r.batchId with
    | none => conflict
    | some batch => match findStore batch storeCode with
      | none => conflict
      | some store =>
        if !rollbackMatches r store then conflict
        else .ok (reviewed batch storeCode (rollBack (basename r.receiptFile)) r.reviewedAt s)

def rollbackStoreApproval (js : TextBuiltins) (trip : RoundTrip JsError) (r : RollbackRequest) :
    Action StateFile JsError PublicBatch :=
  mutate trip (rollbackStoreApprovalIn r (js.toUpperCase r.storeCode))

/-- What `rejectStore` makes of the store. -/
def reject (now : Instant) (store : BatchStore) : BatchStore :=
  { store with
    status := .rejected, reviewedAt := some now, lastErrorCode := some "MANUAL_REVIEW_REJECTED" }

/-- A complete batch is opened again for the store that was rejected. -/
def reopen (batch : Batch) : Batch := { batch with status := .active, completedAt := none }

/-- The batch after `rejectStore`: reopened where no other batch is active and it has not expired. -/
def rejectedBatch (s : StateFile) (batch : Batch) (storeCode : String) (now : Instant) : Batch :=
  let hasAnotherActiveBatch := s.batches.any fun other =>
    decide (other.batchId ≠ batch.batchId) && decide (other.status = .active)
  let rejected := batch.updateStore storeCode (reject now)
  if batch.status = .completed && !hasAnotherActiveBatch && decide (now < batch.expiresAt) then
    reopen rejected
  else rejected

/-- What `rejectStore` does to the file, for a store code in upper case. -/
def rejectStoreIn (r : ReviewRequest) (storeCode : String) : Operation PublicBatch := fun s =>
  match s.batches.filter fun batch => decide (batch.batchId = r.batchId) with
  | [batch] => match batch.stores.filter fun store => decide (store.storeCode = storeCode) with
    | [store] =>
      if store.status ≠ .reviewRequired then
        refuse "STORE_NOT_REVIEWABLE" "store is not awaiting review"
      else if textOf store.supplierId ≠ r.supplierId then
        refuse "SUPPLIER_ID_MISMATCH" "supplier id confirmation does not match"
      else
        .ok (publicBatch (rejectedBatch s batch storeCode r.reviewedAt) r.reviewedAt,
          s.updateBatch r.batchId fun _ => rejectedBatch s batch storeCode r.reviewedAt)
    | _ => refuse "STORE_NOT_REVIEWABLE" "store is not awaiting review"
  | _ => refuse "STORE_NOT_REVIEWABLE" "store is not awaiting review"

def rejectStore (js : TextBuiltins) (trip : RoundTrip JsError) (r : ReviewRequest) :
    Action StateFile JsError PublicBatch := do
  let storeCode := js.toUpperCase r.storeCode
  requireThat (r.batchId != "" && isStoreCode storeCode) "invalid store rejection request"
  mutate trip (rejectStoreIn r storeCode)

/-! ## Calls -/

/-- A call of one of the operations that write, with what becomes of its write. -/
inductive AuthorizationCall where
  | createBatch (trip : RoundTrip JsError) (r : BatchRequest)
  | beginState (trip : RoundTrip JsError) (r : BeginRequest)
  | claimState (trip : RoundTrip JsError) (stateHash : String) (claimedAt : Instant)
  | completeState (trip : RoundTrip JsError) (r : CompleteRequest)
  | failState (trip : RoundTrip JsError) (r : FailRequest)
  | approveStore (trip : RoundTrip JsError) (r : ReviewRequest)
  | rollbackStoreApproval (trip : RoundTrip JsError) (r : RollbackRequest)
  | rejectStore (trip : RoundTrip JsError) (r : ReviewRequest)

def authorizationStep (js : TextBuiltins) (s : StateFile) : AuthorizationCall → StateFile
  | .createBatch trip r => ((createBatch js trip r).outcome s).2
  | .beginState trip r => ((beginState js trip r).outcome s).2
  | .claimState trip stateHash claimedAt => ((claimState trip stateHash claimedAt).outcome s).2
  | .completeState trip r => ((completeState trip r).outcome s).2
  | .failState trip r => ((failState trip r).outcome s).2
  | .approveStore trip r => ((approveStore js trip r).outcome s).2
  | .rollbackStoreApproval trip r => ((rollbackStoreApproval js trip r).outcome s).2
  | .rejectStore trip r => ((rejectStore js trip r).outcome s).2

end FullManagedBi.Authorization
