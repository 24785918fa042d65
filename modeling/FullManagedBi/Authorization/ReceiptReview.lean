import FullManagedBi.Authorization.Service

/-!
# Reviewing a receipt

`finalizeAuthorizationReceipt` (`scripts/finalize_full_managed_authorization_receipt.mjs`) takes the
credentials of a receipt into the OpenAPI configuration and approves the store;
`rejectAuthorizationReceipt` (`scripts/reject_full_managed_authorization_receipt.mjs`) rejects it. Each
moves the receipt out of the way first, changes what it changes, and removes the receipt last; what fails
on the way is undone.

The files are a `ReviewSite`. How each step goes is given in advance (`FinalizationFaults`,
`RejectionFaults`): it is carried out, carried out and reported as failed, or not carried out.
-/

namespace FullManagedBi.Authorization.Review

open Lib
open Service (isNameChar receiptSuffix Exchange verifiedIdentity)

/-- The error of `fail`. -/
def failed (code message : String) : JsError := ⟨some code, message⟩

/-! ## The files -/

/-- A receipt in its directory: its inode and its JSON. -/
structure ReceiptNode where
  ino : Nat
  content : Json

/-- The state file, the OpenAPI configuration with its backup, and the receipt directory. -/
structure ReviewSite where
  state : StateFile
  config : String
  backup : Option String := none
  receipts : String → Option ReceiptNode

abbrev ReviewAction := Action ReviewSite JsError

/-- The builtins of JavaScript, and what decides whether a configuration is valid. -/
structure ReviewSettings where
  js : TextBuiltins
  toLowerCase : String → String
  sha256 : String → String
  toISOString : Instant → String
  parse : String → Option Json
  stringify : Json → String
  validateFullManagedConfig : Json → Except JsError Unit
  pid : Nat

/-- Moving a receipt to another name. -/
def ReviewSite.move (s : ReviewSite) (source target : String) : ReviewSite :=
  { s with
    receipts := Function.update (Function.update s.receipts source none) target (s.receipts source) }

def ReviewSite.remove (s : ReviewSite) (name : String) : ReviewSite :=
  { s with receipts := Function.update s.receipts name none }

def onState {α : Type} (update : Action StateFile JsError α) : ReviewAction α := do
  let s ← get
  match update.outcome s.state with
  | (.ok a, state) =>
    set { s with state }
    return a
  | (.error e, state) =>
    set { s with state }
    throw e

/-! ## Steps with receipts -/

/-- `lstat` of a receipt, which may fail with something else than `ENOENT`. -/
def lstatReceipt (fails : Bool) (name : String) : ReviewAction ReceiptNode := do
  if fails then throw (failed "EIO" "i/o error")
  else
    match (← get).receipts name with
    | some node => return node
    | none => throw (failed "ENOENT" "no such file or directory")

/-- Nothing lies at a path, or the step fails with `collision` or `uninspected`. -/
def requireAbsent (fails : Bool) (name : String) (collision uninspected : JsError) :
    ReviewAction Unit := do
  match ← observing (lstatReceipt fails name) with
  | .ok _ => throw collision
  | .error error => if error.code = some "ENOENT" then return () else throw uninspected

/-- What lies at a path is still the file it was. -/
def requireSameFile (fails : Bool) (name : String) (node : ReceiptNode) (code : String) :
    ReviewAction Unit := do
  match ← observing (lstatReceipt fails name) with
  | .error _ => throw (failed code "private file is unavailable")
  | .ok found => if found.ino = node.ino then return () else throw (failed code "receipt identity changed")

/-- A change of the directory, whose failure is reported as `error`. -/
def changeReceipts (trip : RoundTrip JsError) (change : ReviewSite → ReviewSite) (error : JsError) :
    ReviewAction Unit := do
  match ← observing (query trip fun s => ((), change s)) with
  | .ok _ => return ()
  | .error _ => throw error

/-- How the steps of moving a receipt go: what lies at the target is inspected, the receipt is renamed,
and the receipt is inspected. -/
structure MoveFaults where
  inspectFails : Bool := false
  rename : RoundTrip JsError := .done
  verifyFails : Bool := false

/-- How the steps of removing a receipt go. -/
structure DisposalFaults where
  verifyFails : Bool := false
  unlink : RoundTrip JsError := .done

/-- The codes of the errors of a move: the target is taken, it cannot be inspected, the file cannot be
renamed, the file is not the one it was. -/
structure MoveCodes where
  collision : String
  uninspected : String
  unrenamed : String
  changed : String

/-- `isolateReceipt`: the receipt is renamed, and inspected under its new name. -/
def isolateReceipt (codes : MoveCodes) (faults : MoveFaults) (name isolated : String)
    (node : ReceiptNode) : ReviewAction Unit := do
  requireAbsent faults.inspectFails isolated
    (failed codes.collision "receipt isolation destination already exists")
    (failed codes.uninspected "receipt isolation destination cannot be inspected")
  changeReceipts faults.rename (·.move name isolated)
    (failed codes.unrenamed "receipt could not be isolated")
  requireSameFile faults.verifyFails isolated node codes.changed

/-- `restoreIsolatedReceipt`, `restoreReceipt`: the receipt is inspected, and renamed back. -/
def restoreReceipt (codes : MoveCodes) (faults : MoveFaults) (isolated name : String)
    (node : ReceiptNode) : ReviewAction Unit := do
  requireAbsent faults.inspectFails name
    (failed codes.collision "receipt destination unexpectedly exists")
    (failed codes.uninspected "receipt destination cannot be inspected")
  requireSameFile faults.verifyFails isolated node codes.changed
  changeReceipts faults.rename (·.move isolated name)
    (failed codes.unrenamed "isolated receipt could not be restored")

def deleteIsolatedReceipt (faults : DisposalFaults) (isolated : String) (node : ReceiptNode) :
    ReviewAction Unit := do
  requireSameFile faults.verifyFails isolated node "RECEIPT_DISPOSAL_FAILED"
  changeReceipts faults.unlink (·.remove isolated)
    (failed "RECEIPT_DISPOSAL_FAILED" "isolated receipt could not be removed")

/-! ## What is checked before anything changes -/

/-- What `/^[A-Za-z0-9_-]{1,160}\.secret\.json$/` matches. -/
def isReceiptFile (name : String) : Bool :=
  let stem := name.toList.take (name.toList.length - receiptSuffix.length)
  decide (name.toList = stem ++ receiptSuffix) && decide (1 ≤ stem.length) &&
    decide (stem.length ≤ 160) && stem.all isNameChar

/-- What `/^[A-Za-z0-9_-]{1,128}$/` matches. -/
def isSupplierId (s : String) : Bool :=
  decide (1 ≤ s.toList.length) && decide (s.toList.length ≤ 128) && s.toList.all isNameChar

def fieldIs (value : Json) (key text : String) : Bool := strictEq (value.field? key) (some (.str text))

/-- `String(value)`, of a value that may be `undefined`. -/
def stringOf : Option Json → String
  | none => "undefined"
  | some value => value.text

/-- `String(value || '')`. -/
def stringOrEmpty (value : Option Json) : String := if truthy value then stringOf value else ""

/-- `String(receipt.identity?.supplierId)`. -/
def supplierOf (receipt : Json) : String := stringOf ((receipt.field? "identity").bind (·.field? "supplierId"))

def cleanRequiredString (value : Option Json) (maximum : Nat) : Except JsError String :=
  match value with
  | some (.str text) =>
    if text = "" ∨ maximum < jsLength text ∨
        text.toList.any (fun c => decide (c.toNat < 0x20) || decide (c.toNat = 0x7f)) then
      .error (failed "INVALID_RECEIPT" "required private value is invalid")
    else .ok text
  | _ => .error (failed "INVALID_RECEIPT" "required private value is invalid")

def receiptMatches (receipt : Json) (batchId storeCode supplierId : String) : Bool :=
  strictEq (receipt.field? "schemaVersion") (some (.num (.int 1))) &&
    fieldIs receipt "cooperationMode" "FULL_MANAGED" && fieldIs receipt "status" "REVIEW_REQUIRED" &&
    fieldIs receipt "batchId" batchId && fieldIs receipt "storeCode" storeCode &&
    decide (supplierOf receipt = supplierId)

structure Credentials where
  appId : String
  openKeyId : String
  secretKey : String
  deriving DecidableEq

/-- `validateReceipt` of a finalization. -/
def validateReceipt (R : ReviewSettings) (receipt : Json) (batchId : String) (store : BatchStore)
    (supplierId expectedAppId applicationStoreCode : String) : Except JsError Credentials := do
  if receiptMatches receipt batchId store.storeCode supplierId &&
      fieldIs receipt "applicationStoreCode" applicationStoreCode &&
      strictEq (receipt.field? "authorizedAt") (store.authorizedAt.map (.str ∘ R.toISOString)) then
    let appId ← cleanRequiredString (receipt.field? "appId") 256
    let openKeyId ← cleanRequiredString (receipt.field? "openKeyId") 256
    let secretKey ← cleanRequiredString (receipt.field? "secretKey") 2048
    if store.credentialFingerprint ≠ some (R.sha256 (appId ++ ":" ++ openKeyId)) then
      .error (failed "INVALID_RECEIPT" "receipt credential fingerprint does not match")
    else if appId ≠ expectedAppId then
      .error (failed "APPLICATION_ID_MISMATCH"
        "receipt app does not match the root-controlled routed app")
    else .ok ⟨appId, openKeyId, secretKey⟩
  else .error (failed "INVALID_RECEIPT" "receipt identity does not match the review request")

def isReviewable (storeCode supplierId : String) (store : BatchStore) : Bool :=
  decide (store.storeCode = storeCode) && decide (store.status = .reviewRequired) &&
    decide (textOf (nonEmpty store.supplierId) = supplierId)

def hasReceipt (supplierId : String) (store : BatchStore) : Bool :=
  decide (store.status = .reviewRequired) && decide (textOf store.supplierId = supplierId) &&
    store.receiptFile.any (fun name => isReceiptFile name && decide (basename name = name)) &&
    store.credentialFingerprint.any isSha256Hex

/-- `selectReviewableStore` of a finalization: the id of the batch and the store. -/
def selectForFinalization (state : StateFile) (storeCode supplierId : String) :
    Except JsError (String × BatchStore) :=
  match state.batches.flatMap fun batch =>
      (batch.stores.filter (isReviewable storeCode supplierId)).map fun _ => batch.batchId with
  | [batchId] =>
    match state.storeOf batchId storeCode with
    | some store =>
      if hasReceipt supplierId store && store.authorizedAt.isSome then .ok (batchId, store)
      else .error (failed "INVALID_REVIEW_STATE" "review state and receipt reference do not agree")
    | none => .error (failed "INVALID_REVIEW_STATE" "review state and receipt reference do not agree")
  | [] => .error (failed "REVIEW_RECEIPT_NOT_FOUND" "exactly one reviewable authorization is required")
  | _ => .error (failed "AMBIGUOUS_REVIEW_RECEIPT" "exactly one reviewable authorization is required")

/-- `selectReviewableStore` of a rejection. -/
def selectForRejection (state : StateFile) (batchId storeCode supplierId : String) :
    Except JsError BatchStore :=
  let missing : Except JsError BatchStore :=
    .error (failed "REVIEW_RECEIPT_NOT_FOUND" "exactly one matching review receipt is required")
  match state.batches.filter fun batch => decide (batch.batchId = batchId) with
  | [batch] => match batch.stores.filter fun store => decide (store.storeCode = storeCode) with
    | [store] => if hasReceipt supplierId store then .ok store else missing
    | _ => missing
  | _ => missing

/-! ## The configuration -/

/-- `Object.assign` of one field. -/
def assignField (fields : List (String × Json)) (key : String) (value : Json) : List (String × Json) :=
  if fields.any fun field => decide (field.1 = key) then
    fields.map fun field => if field.1 = key then (key, value) else field
  else fields ++ [(key, value)]

/-- `Object.assign`. -/
def assignFields (target : Json) (fields : List (String × Json)) : Json :=
  match target with
  | .obj old => .obj (fields.foldl (fun old field => assignField old field.1 field.2) old)
  | other => other

/-- What a finalization assigns to the store of a configuration. -/
def approvedFields (supplierId : String) (credentials : Credentials) : List (String × Json) :=
  [("enabled", .bool true), ("applicationStatus", .str "approved"),
    ("authorizationStatus", .str "authorized"), ("appId", .str credentials.appId),
    ("openKeyId", .str credentials.openKeyId), ("secretKey", .str credentials.secretKey),
    ("platformSupplierId", .str supplierId)]

/-- What another store of the configuration forbids. -/
def bindingOf (storeCode supplierId : String) (credentials : Credentials) (store : Json) :
    Option JsError :=
  if fieldIs store "storeCode" storeCode then none
  else if jsTrim (stringOrEmpty (store.field? "platformSupplierId")) ≠ "" ∧
      jsTrim (stringOf (store.field? "platformSupplierId")) = supplierId then
    some (failed "PLATFORM_SUPPLIER_ID_ALREADY_BOUND" "supplier id is already bound to another store")
  else if jsTrim (stringOrEmpty (store.field? "openKeyId")) ≠ "" ∧
      jsTrim (stringOf (store.field? "openKeyId")) = credentials.openKeyId then
    some (failed "OPEN_KEY_ID_ALREADY_BOUND" "open key is already bound to another store")
  else none

def assignStore (storeCode supplierId : String) (credentials : Credentials) (store : Json) : Json :=
  if fieldIs store "storeCode" storeCode then assignFields store (approvedFields supplierId credentials)
  else store

def updateOpenApiConfiguration (R : ReviewSettings) (config : Json) (storeCode supplierId : String)
    (credentials : Credentials) : Except JsError Json :=
  match config, config.field? "stores" with
  | .obj fields, some (.arr stores) =>
    if (stores.filter fun store => fieldIs store "storeCode" storeCode).length ≠ 1 then
      .error (failed "INVALID_OPENAPI_CONFIG" "target store must exist exactly once")
    else
      match stores.findSome? (bindingOf storeCode supplierId credentials) with
      | some error => .error error
      | none =>
        let updated := Json.obj (assignField fields "stores"
          (.arr (stores.map (assignStore storeCode supplierId credentials))))
        match R.validateFullManagedConfig updated with
        | .ok _ => .ok updated
        | .error _ =>
          .error (failed "INVALID_OPENAPI_CONFIG" "updated OpenAPI configuration failed validation")
  | _, _ => .error (failed "INVALID_OPENAPI_CONFIG" "OpenAPI configuration is invalid")

/-! ## A finalization -/

/-- The arguments of a finalization, as `parseArguments` accepts them. -/
structure FinalizationArguments where
  storeCode : String
  supplierId : String
  now : Instant
  bytes : String
  storeCode_valid : isStoreCode storeCode = true

/-- Why a lock could not be released. -/
inductive ReleaseFailure where
  | ownershipLost
  | releaseFailed
  | ownerUnreadable
  deriving DecidableEq

def ReleaseFailure.error : ReleaseFailure → JsError
  | .ownershipLost =>
    failed "FINALIZATION_LOCK_OWNERSHIP_LOST" "finalization lock ownership could not be verified"
  | .releaseFailed =>
    failed "FINALIZATION_LOCK_RELEASE_FAILED" "finalization lock could not be isolated for release"
  | .ownerUnreadable => failed "UNSAFE_FINALIZATION_LOCK" "finalization lock owner cannot be inspected"

/-- How the steps of a finalization go: the lock, what is read, the live query, and what is changed. -/
structure FinalizationFaults where
  acquireLock : Except JsError Unit := .ok ()
  readState : Except JsError Unit := .ok ()
  resolveReceipt : Except JsError Unit := .ok ()
  readReceipt : Except JsError Unit := .ok ()
  applicationId : Except JsError String
  expectedSupplierId : Except JsError String
  readConfig : Except JsError Unit := .ok ()
  storeInfo : Except JsError Json
  isolation : MoveFaults := {}
  backup : Except JsError Unit := .ok ()
  write : RoundTrip JsError := .done
  approve : RoundTrip JsError := .done
  disposal : DisposalFaults := {}
  rollback : RoundTrip JsError := .done
  readBackup : Except JsError Unit := .ok ()
  rewrite : RoundTrip JsError := .done
  restoration : MoveFaults := {}
  releaseLock : Option ReleaseFailure := none

/-- What a finalization knows before it changes anything. -/
structure Prepared where
  batchId : String
  store : BatchStore
  receiptFile : String
  node : ReceiptNode
  credentials : Credentials
  config : Json
  updated : Json

def verifyLiveStoreIdentity (R : ReviewSettings) (storeInfo : Except JsError Json)
    (expectedSupplierId : String) : Except JsError Unit :=
  match storeInfo with
  | .error _ => .error (failed "LIVE_STORE_IDENTITY_QUERY_FAILED" "live store identity query failed")
  | .ok data =>
    let exchange : Exchange :=
      { appId := "", state := "", openKeyId := "", secretKey := "", encryptedSecretKey := ""
        supplierId := expectedSupplierId, supplierBusinessMode := some "FULL_MANAGED" }
    match verifiedIdentity R.toLowerCase exchange data with
    | .ok _ => .ok ()
    | .error _ =>
      .error (failed "LIVE_STORE_IDENTITY_MISMATCH"
        "live store identity does not match the identity map")

def require {α : Type} (value : Option α) (error : JsError) : Except JsError α :=
  match value with
  | some a => .ok a
  | none => .error error

/-- Everything a finalization reads and checks before its first change. -/
def prepareFinalization (R : ReviewSettings) (faults : FinalizationFaults)
    (args : FinalizationArguments) (s : ReviewSite) : Except JsError Prepared := do
  faults.readState
  let (batchId, store) ← selectForFinalization s.state args.storeCode args.supplierId
  let receiptFile := store.receiptFile.getD ""
  faults.resolveReceipt
  let node ← require (s.receipts receiptFile) (failed "INVALID_RECEIPT" "private file is unavailable")
  faults.readReceipt
  let applicationStoreCode := R.js.toUpperCase ((nonEmpty store.applicationStoreCode).getD "DL")
  let applicationId ← faults.applicationId
  let credentials ← validateReceipt R node.content batchId store args.supplierId applicationId
    applicationStoreCode
  let expectedSupplierId ← faults.expectedSupplierId
  faults.readConfig
  let config ← require (R.parse s.config)
    (failed "INVALID_OPENAPI_CONFIG" "private JSON file is invalid")
  let updated ← updateOpenApiConfiguration R config args.storeCode args.supplierId credentials
  verifyLiveStoreIdentity R faults.storeInfo expectedSupplierId
  return ⟨batchId, store, receiptFile, node, credentials, config, updated⟩

/-- The name an isolated receipt gets in a finalization. -/
def finalizingName (R : ReviewSettings) (bytes name : String) : String :=
  String.ofList (".finalizing-".toList ++ decimalDigits R.pid ++ '-' :: bytes.toList ++
    '-' :: name.toList)

def createBackup (outcome : Except JsError Unit) : ReviewAction Unit := do
  match outcome with
  | .ok _ => modify fun s => { s with backup := some s.config }
  | .error _ => throw (failed "BACKUP_FAILED" "OpenAPI configuration backup failed")

/-- `atomicWrite`: a temporary file is written and renamed into place. -/
def atomicWrite (trip : RoundTrip JsError) (contents : String) : ReviewAction Unit := do
  match ← observing (query trip fun (s : ReviewSite) => ((), { s with config := contents })) with
  | .ok _ => return ()
  | .error _ => throw (failed "ATOMIC_WRITE_FAILED" "private configuration update failed")

def restoreBackup (read : Except JsError Unit) (trip : RoundTrip JsError) : ReviewAction Unit := do
  MonadExcept.ofExcept read
  match (← get).backup with
  | none => throw (failed "ENOENT" "no such file or directory")
  | some contents => atomicWrite trip contents

/-- The codes of `isolateReceipt`. -/
def isolationCodes : MoveCodes :=
  ⟨"RECEIPT_ISOLATION_FAILED", "RECEIPT_ISOLATION_FAILED", "RECEIPT_ISOLATION_FAILED",
    "RECEIPT_ISOLATION_FAILED"⟩

/-- The codes of `restoreIsolatedReceipt`. -/
def restorationCodes : MoveCodes :=
  ⟨"RECEIPT_RESTORE_FAILED", "RECEIPT_RESTORE_FAILED", "RECEIPT_RESTORE_FAILED",
    "RECEIPT_RESTORE_FAILED"⟩

/-- How far the `try` block came: `configWritten`, `approvalCommitted`, and its outcome. -/
structure Progress where
  configWritten : Bool
  approvalCommitted : Bool
  outcome : Except JsError PublicBatch

def FinalizationArguments.request (args : FinalizationArguments) (batchId : String) : ReviewRequest :=
  { batchId, storeCode := args.storeCode, supplierId := args.supplierId, reviewedAt := args.now }

/-- The request that takes an approval back. -/
def FinalizationArguments.rollbackRequest (args : FinalizationArguments) (p : Prepared) :
    RollbackRequest :=
  { args.request p.batchId with
    receiptFile := p.receiptFile, credentialFingerprint := p.store.credentialFingerprint.getD "" }

/-- The `try` block of `finalizeAuthorizationReceipt`. -/
def tryFinalization (R : ReviewSettings) (faults : FinalizationFaults) (args : FinalizationArguments)
    (p : Prepared) (isolated : String) : ReviewAction Progress := do
  match ← observing (createBackup faults.backup) with
  | .error e => return ⟨false, false, .error e⟩
  | .ok _ =>
    match ← observing (atomicWrite faults.write (R.stringify p.updated)) with
    | .error e => return ⟨false, false, .error e⟩
    | .ok _ =>
      match ← observing (onState (approveStore R.js faults.approve (args.request p.batchId))) with
      | .error e => return ⟨true, false, .error e⟩
      | .ok approved =>
        match ← observing (deleteIsolatedReceipt faults.disposal isolated p.node) with
        | .error e => return ⟨true, true, .error e⟩
        | .ok _ => return ⟨true, true, .ok approved⟩

/-- A step of the `catch` block, where it applies: its error is collected. -/
def undo (applies : Bool) (step : ReviewAction Unit) : ReviewAction (Except JsError Unit) :=
  if applies then observing step else pure (.ok ())

/-- The `catch` block of `finalizeAuthorizationReceipt`. -/
def rollBackFinalization (R : ReviewSettings) (faults : FinalizationFaults)
    (args : FinalizationArguments) (p : Prepared) (isolated : String) (progress : Progress) :
    ReviewAction PublicBatch := do
  let approval ← undo progress.approvalCommitted do
    let _ ← onState (rollbackStoreApproval R.js faults.rollback (args.rollbackRequest p))
    return ()
  let config ← undo progress.configWritten (restoreBackup faults.readBackup faults.rewrite)
  let receipt ← undo true (restoreReceipt restorationCodes faults.restoration isolated p.receiptFile p.node)
  match approval, config, receipt with
  | .ok _, .ok _, .ok _ =>
    throw (failed "FINALIZATION_TRANSACTION_FAILED" "finalization failed and was fully rolled back")
  | _, _, _ =>
    throw (failed "FINALIZATION_ROLLBACK_FAILED" "finalization failed and rollback was incomplete")

def finalizeUnderLock (R : ReviewSettings) (faults : FinalizationFaults)
    (args : FinalizationArguments) : ReviewAction PublicBatch := do
  let p ← MonadExcept.ofExcept (prepareFinalization R faults args (← get))
  let isolated := finalizingName R args.bytes p.receiptFile
  isolateReceipt isolationCodes faults.isolation p.receiptFile isolated p.node
  let progress ← tryFinalization R faults args p isolated
  match progress.outcome with
  | .ok approved => return approved
  | .error _ => rollBackFinalization R faults args p isolated progress

/-- `finalizeAuthorizationReceipt`, and the batch it approved a store of. -/
def finalizeAuthorizationReceipt (R : ReviewSettings) (faults : FinalizationFaults)
    (args : FinalizationArguments) : ReviewAction PublicBatch := do
  MonadExcept.ofExcept faults.acquireLock
  match ← observing (finalizeUnderLock R faults args) with
  | .error e => throw e
  | .ok approved =>
    match faults.releaseLock with
    | none => return approved
    | some failure => throw failure.error

/-! ## A rejection -/

/-- The arguments of a rejection, as `parseArguments` accepts them. -/
structure RejectionArguments where
  batchId : String
  storeCode : String
  supplierId : String
  now : Instant
  bytes : String
  batchId_nonEmpty : batchId ≠ ""
  storeCode_valid : isStoreCode storeCode = true

structure RejectionFaults where
  readState : Except JsError Unit := .ok ()
  resolveReceipt : Except JsError Unit := .ok ()
  readReceipt : Except JsError Unit := .ok ()
  isolation : MoveFaults := {}
  reject : RoundTrip JsError := .done
  readAudit : Except JsError Unit := .ok ()
  restoration : MoveFaults := {}
  disposal : DisposalFaults := {}

/-- The codes of `isolateReceipt` of a rejection. -/
def quarantineCodes : MoveCodes :=
  ⟨"QUARANTINE_COLLISION", "QUARANTINE_UNAVAILABLE", "RECEIPT_ISOLATION_FAILED", "INVALID_QUARANTINE"⟩

/-- The codes of `restoreReceipt` of a rejection. -/
def receiptRollbackCodes : MoveCodes :=
  ⟨"RECEIPT_ROLLBACK_CONFLICT", "RECEIPT_ROLLBACK_FAILED", "RECEIPT_ROLLBACK_FAILED",
    "RECEIPT_ROLLBACK_FAILED"⟩

/-- Everything a rejection reads and checks before its first change: the store, the name of its receipt
and the receipt. -/
def prepareRejection (faults : RejectionFaults) (args : RejectionArguments) (s : ReviewSite) :
    Except JsError (BatchStore × String × ReceiptNode) := do
  faults.readState
  let store ← selectForRejection s.state args.batchId args.storeCode args.supplierId
  let receiptFile := store.receiptFile.getD ""
  faults.resolveReceipt
  let node ← require (s.receipts receiptFile) (failed "INVALID_RECEIPT" "private file is unavailable")
  faults.readReceipt
  if receiptMatches node.content args.batchId args.storeCode args.supplierId then
    .ok (store, receiptFile, node)
  else .error (failed "INVALID_RECEIPT" "receipt identity does not match the rejection request")

/-- The name an isolated receipt gets in a rejection. -/
def quarantineName (pid : Nat) (bytes name : String) : String :=
  String.ofList ('.' :: name.toList ++ ".reject-".toList ++ decimalDigits pid ++ '-' :: bytes.toList ++
    ".quarantine".toList)

def isRejected (supplierId : String) (previous store : BatchStore) : Bool :=
  decide (store.status = .rejected) && decide (textOf store.supplierId = supplierId) &&
    decide (store.receiptFile = previous.receiptFile) &&
    decide (store.credentialFingerprint = previous.credentialFingerprint)

def confirmRejectedAudit (read : Except JsError Unit) (args : RejectionArguments)
    (previous : BatchStore) : ReviewAction Unit := do
  MonadExcept.ofExcept read
  let unconfirmed : ReviewAction Unit :=
    throw (failed "REJECTION_STATE_UNCONFIRMED" "rejected audit state could not be confirmed")
  match (← get).state.batches.filter fun batch => decide (batch.batchId = args.batchId) with
  | [batch] => match batch.stores.filter fun store => decide (store.storeCode = args.storeCode) with
    | [store] => if isRejected args.supplierId previous store then return () else unconfirmed
    | _ => unconfirmed
  | _ => unconfirmed

def RejectionArguments.request (args : RejectionArguments) : ReviewRequest :=
  { batchId := args.batchId, storeCode := args.storeCode, supplierId := args.supplierId
    reviewedAt := args.now }

/-- The `try` block of `rejectAuthorizationReceipt`. -/
def tryRejection (R : ReviewSettings) (faults : RejectionFaults) (args : RejectionArguments)
    (previous : BatchStore) : ReviewAction PublicBatch := do
  let rejected ← onState (rejectStore R.js faults.reject args.request)
  confirmRejectedAudit faults.readAudit args previous
  return rejected

/-- `rejectAuthorizationReceipt`, and the batch it rejected a store of. -/
def rejectAuthorizationReceipt (R : ReviewSettings) (faults : RejectionFaults)
    (args : RejectionArguments) : ReviewAction PublicBatch := do
  let (store, receiptFile, node) ← MonadExcept.ofExcept (prepareRejection faults args (← get))
  let quarantine := quarantineName R.pid args.bytes receiptFile
  isolateReceipt quarantineCodes faults.isolation receiptFile quarantine node
  match ← observing (tryRejection R faults args store) with
  | .error _ =>
    match ← observing (restoreReceipt receiptRollbackCodes faults.restoration quarantine receiptFile
        node) with
    | .error _ =>
      throw (failed "REJECTION_FAILED_ROLLBACK_FAILED"
        "state rejection failed and the receipt could not be restored")
    | .ok _ =>
      throw (failed "REJECTION_STATE_FAILED" "state rejection failed; receipt was restored")
  | .ok rejected =>
    deleteIsolatedReceipt faults.disposal quarantine node
    return rejected

end FullManagedBi.Authorization.Review
