import FullManagedBi.Authorization.FileStore
import FullManagedBi.Lib.Json
import FullManagedBi.Lib.Program

/-!
# The authorization service

`begin` starts an attempt of a store, and `complete` answers the platform's callback
(`src/authorization/service.mjs`): it claims the state, exchanges the token, asks for the identity of the
store, writes the credentials to a receipt and completes the state. A receipt is written to a temporary
file and renamed, and removed again where the state cannot be completed.

Both are programs that call out (`ServiceCall`), so between two calls of one any other may make its own.
The environment (`ServiceChoice`) says what the clock, the platform and the application file say, and how
each update of the state and each step of a receipt ends.
-/

namespace FullManagedBi.Authorization.Service

open Lib

/-! ## What the service is told -/

/-- A thrown error. `ours` says that it is an `AuthorizationServiceError` or an
`AuthorizationStoreError`. -/
structure Thrown extends JsError where
  ours : Bool := false
  deriving DecidableEq

/-- `fail` of the service. -/
def failure (code message : String) : Thrown := { code := some code, message, ours := true }

/-- What `loadApplication` returns. -/
structure Application where
  ownerStoreCode : String
  appId : String
  appSecretKey : String
  deriving DecidableEq

/-- What `getByToken` returns. -/
structure Exchange where
  appId : String
  state : String
  openKeyId : String
  secretKey : String
  encryptedSecretKey : String
  supplierId : String
  supplierBusinessMode : Option String := none
  deriving DecidableEq

structure VerifiedIdentity where
  supplierId : String
  platformStoreName : Option String
  supplierBusinessMode : Option String
  deriving DecidableEq

/-- The receipt of an authorization, with its credentials. -/
structure Receipt where
  batchId : String
  storeCode : String
  applicationStoreCode : String
  appId : String
  openKeyId : String
  secretKey : String
  encryptedSecretKey : String
  identity : VerifiedIdentity
  authorizedAt : Instant
  deriving DecidableEq

structure Settings where
  js : TextBuiltins
  toLowerCase : String → String
  sha256 : String → String
  pid : Nat
  receiptDirectory : String
  callbackUrl : String
  ownerStoreCode : String := "DL"
  stateTtlSeconds : Nat := 600
  maximumStoreAttempts : Nat := 6

/-! ## Checks -/

/-- What `[A-Za-z0-9_-]` matches. -/
def isNameChar (c : Char) : Bool :=
  c.isUpper || c.isLower || c.isDigit || c == '_' || c == '-'

/-- `TOKEN_PATTERN`. -/
def isToken (s : String) : Bool := decide (s.toList.length = 43) && s.toList.all isNameChar

/-- `TEMP_TOKEN_PATTERN`. -/
def isTempToken (s : String) : Bool :=
  decide (8 ≤ s.toList.length) && decide (s.toList.length ≤ 1024) &&
    s.toList.all fun c => isNameChar c || c == '.' || c == '~'

/-! ## The identity of the store -/

/-- `replace(/\s+/g, ' ')`. -/
def collapseSpaces : List Char → List Char
  | [] => []
  | c :: rest =>
    if isJsSpace c then
      if rest.head?.any isJsSpace then collapseSpaces rest else ' ' :: collapseSpaces rest
    else c :: collapseSpaces rest

def cleanIdentityValue (value : Json) : String :=
  let text := jsTrim (String.ofList (collapseSpaces (textOrEmpty (some value)).toList))
  String.ofList (jsSlice 200 text.toList)

/-- What `collectStoreIdentity` collects. -/
structure StoreCandidates where
  supplierIds : List String := []
  storeNames : List String := []
  businessModes : List String := []
  deriving DecidableEq

/-- `add` to a set. -/
def addTo (values : List String) (text : String) : List String :=
  if values.contains text then values else values ++ [text]

def mentions (words : List String) (key : String) : Bool :=
  words.any fun word => decide (word.toList <:+: key.toList)

/-- A field of the reply that is no object. -/
def collectField (key text : String) (found : StoreCandidates) : StoreCandidates :=
  if text = "" then found
  else
    { supplierIds :=
        if mentions ["supplierid", "supplier_id", "merchantid", "merchant_id"] key then
          addTo found.supplierIds text
        else found.supplierIds
      storeNames :=
        if mentions ["storename", "store_name", "shopname", "shop_name", "suppliername",
            "supplier_name"] key then
          addTo found.storeNames text
        else found.storeNames
      businessModes :=
        if mentions ["supplierbusinessmode", "supplier_business_mode", "businessmode",
            "business_mode"] key then
          addTo found.businessModes text
        else found.businessModes }

/-- `visit`, with the levels that are left. -/
def visit (toLowerCase : String → String) : Nat → Json → StoreCandidates → StoreCandidates
  | 0, _, found => found
  | depth + 1, .arr items, found =>
    items.foldl (fun found item => visit toLowerCase depth item found) found
  | depth + 1, .obj fields, found =>
    fields.foldl (fun found field =>
      match field.2 with
      | .arr items => visit toLowerCase depth (.arr items) found
      | .obj fields => visit toLowerCase depth (.obj fields) found
      | value => collectField (toLowerCase field.1) (cleanIdentityValue value) found) found
  | _, _, found => found

/-- `collectStoreIdentity`: eight levels below the reply. -/
def collectStoreIdentity (toLowerCase : String → String) (value : Json) : StoreCandidates :=
  visit toLowerCase 9 value {}

def verifiedIdentity (toLowerCase : String → String) (exchange : Exchange) (storeInfo : Json) :
    Except Thrown VerifiedIdentity :=
  let candidates := collectStoreIdentity toLowerCase storeInfo
  if candidates.supplierIds = [] then
    .error (failure "STORE_IDENTITY_MISSING" "query-store-info did not return a supplier id")
  else if candidates.supplierIds ≠ [exchange.supplierId] then
    .error (failure "STORE_IDENTITY_MISMATCH"
      "query-store-info supplier id does not match get-by-token")
  else
    .ok
      { supplierId := exchange.supplierId
        platformStoreName := candidates.storeNames.head?
        supplierBusinessMode :=
          (nonEmpty exchange.supplierBusinessMode).or candidates.businessModes.head? }

/-! ## Calls -/

/-- The calls of `begin` and `complete`. Files are named within the receipt directory. -/
inductive ServiceCall where
  | now
  | getBatchByTokenHash (tokenHash : String) (now : Instant)
  | loadApplication (ownerStoreCode : String)
  | beginState (r : BeginRequest)
  | claimState (stateHash : String) (claimedAt : Instant)
  | completeState (r : CompleteRequest)
  | failState (r : FailRequest)
  | getByToken (appId appSecretKey tempToken : String)
  | queryStoreInfo (openKeyId secretKey : String)
  | mkdir
  | writeFile (name : String) (receipt : Receipt)
  | rename (source target : String)
  | unlink (name : String)

abbrev ServiceReply : ServiceCall → Type
  | .now => Instant
  | .getBatchByTokenHash _ _ => PublicBatch
  | .loadApplication _ => Application
  | .beginState _ => BegunState
  | .claimState _ _ => Claim
  | .completeState _ => CompletedState
  | .failState _ => FailedState
  | .getByToken _ _ _ => Exchange
  | .queryStoreInfo _ _ => Json
  | _ => Unit

abbrev ServiceProgram := Program ServiceCall ServiceReply Thrown

def awaiting (call : ServiceCall) : ServiceProgram (ServiceReply call) := .perform call

/-! ## begin -/

/-- What `begin` returns: the parts of the authorization URL, and the end of the state. -/
structure BegunAuthorization where
  storeCode : String
  expiresAt : Instant
  appId : String
  redirectUrl : String
  state : String
  deriving DecidableEq

/-- `begin`, for the token of the cookie and the random text of a new state. -/
def «begin» (S : Settings) (randomState token storeCode : String) :
    ServiceProgram BegunAuthorization := do
  let normalized := S.js.toUpperCase storeCode
  if !isToken token then
    throw (failure "AUTHORIZATION_SESSION_REQUIRED" "authorization session is missing")
  else if !isStoreCode normalized then
    throw (failure "INVALID_STORE_CODE" "store code is invalid")
  else if !isToken randomState then
    throw (failure "RANDOM_SOURCE_FAILURE" "state generation failed")
  else do
    let startedAt ← awaiting .now
    let expiresAt := startedAt + S.stateTtlSeconds * 1000
    let batch ← awaiting (.getBatchByTokenHash (S.sha256 token) (← awaiting .now))
    match batch.stores.find? fun candidate => decide (candidate.storeCode = normalized) with
    | none => throw (failure "STORE_NOT_IN_BATCH" "store is not part of this batch")
    | some target =>
      let owner := (nonEmpty target.applicationStoreCode).getD S.ownerStoreCode
      let application ← awaiting (.loadApplication owner)
      let _ ← awaiting (.beginState
        { tokenHash := S.sha256 token, storeCode := normalized, stateHash := S.sha256 randomState
          createdAt := startedAt, expiresAt, maxAttempts := S.maximumStoreAttempts })
      return ⟨normalized, expiresAt, application.appId, S.callbackUrl, randomState⟩

/-! ## writeReceipt -/

/-- `batchId.replace(/[^A-Za-z0-9_-]/g, '_').slice(0, 80)`. -/
def safeBatchId (batchId : String) : List Char :=
  (batchId.toList.flatMap fun c =>
    if isNameChar c then [c] else List.replicate (jsLength (String.singleton c)) '_').take 80

/-- `.secret.json`. -/
def receiptSuffix : List Char := ['.', 's', 'e', 'c', 'r', 'e', 't', '.', 'j', 's', 'o', 'n']

def receiptName (receipt : Receipt) (milliseconds : Instant) (bytes : String) : String :=
  String.ofList (safeBatchId receipt.batchId ++ '-' :: receipt.storeCode.toList ++
    '-' :: intText milliseconds ++ '-' :: bytes.toList ++ receiptSuffix)

/-- What the name of a temporary file adds. -/
def temporarySuffix (S : Settings) : List Char := '.' :: decimalDigits S.pid ++ ['.', 't', 'm', 'p']

def temporaryName (S : Settings) (name : String) : String :=
  String.ofList (name.toList ++ temporarySuffix S)

/-- `path.join(directory, filename)`. -/
def receiptPath (S : Settings) (name : String) : String :=
  String.ofList (S.receiptDirectory.toList ++ '/' :: name.toList)

/-- `writeReceipt`: the name of the receipt it has written. -/
def writeReceipt (S : Settings) (bytes : String) (receipt : Receipt) : ServiceProgram String := do
  awaiting .mkdir
  let name := receiptName receipt (← awaiting .now) bytes
  awaiting (.writeFile (temporaryName S name) receipt)
  awaiting (.rename (temporaryName S name) name)
  return name

/-! ## complete -/

/-- `sha256(appId:openKeyId)`. -/
def credentialFingerprint (S : Settings) (receipt : Receipt) : String :=
  S.sha256 (receipt.appId ++ ":" ++ receipt.openKeyId)

/-- The codes `mapFailure` lets through. -/
def knownFailures : List String :=
  ["AUTHORIZATION_CONFIGURATION_ERROR", "AUTHORIZATION_STATE_EXPIRED",
    "AUTHORIZATION_STATE_REPLAYED", "AUTHORIZATION_STATE_UNAVAILABLE", "BATCH_EXPIRED",
    "INVALID_AUTHORIZATION_STATE", "STORE_IDENTITY_MISSING", "STORE_IDENTITY_MISMATCH",
    "SUPPLIER_ID_ALREADY_BOUND", "CREDENTIAL_ALREADY_BOUND"]

def exchangeFailures : List String :=
  ["HTTP_ERROR", "PLATFORM_ERROR", "NETWORK_ERROR", "REQUEST_TIMEOUT",
    "INVALID_AUTHORIZATION_RESPONSE", "SECRET_DECRYPTION_FAILED"]

def mapFailure (error : Thrown) : String :=
  match error.code with
  | none => "AUTHORIZATION_FAILED"
  | some code =>
    if knownFailures.contains code then code
    else if exchangeFailures.contains code then "SHEIN_EXCHANGE_FAILED"
    else "AUTHORIZATION_FAILED"

def newReceipt (claim : Claim) (application : Application) (exchange : Exchange)
    (identity : VerifiedIdentity) (completedAt : Instant) : Receipt where
  batchId := claim.batchId
  storeCode := claim.storeCode
  applicationStoreCode := application.ownerStoreCode
  appId := application.appId
  openKeyId := exchange.openKeyId
  secretKey := exchange.secretKey
  encryptedSecretKey := exchange.encryptedSecretKey
  identity
  authorizedAt := completedAt

/-- The receipt is written and the state completed; the receipt goes where the state stays. -/
def receiveReceipt (S : Settings) (bytes stateHash : String) (receipt : Receipt) :
    ServiceProgram CompletedState := do
  let name ← writeReceipt S bytes receipt
  let completing := awaiting (.completeState
    { stateHash, completedAt := receipt.authorizedAt
      identity :=
        { supplierId := receipt.identity.supplierId
          platformStoreName := receipt.identity.platformStoreName }
      receiptFile := receiptPath S name
      credentialFingerprint := credentialFingerprint S receipt })
  tryCatch completing fun error => do
    let _ ← observing (awaiting (.unlink name))
    throw error

/-- The `try` block of `complete`. -/
def exchangeToken (S : Settings) (bytes state tempToken : String) (claim : Claim) :
    ServiceProgram CompletedState := do
  let owner := (nonEmpty claim.applicationStoreCode).getD S.ownerStoreCode
  let application ← awaiting (.loadApplication owner)
  let exchange ← awaiting (.getByToken application.appId application.appSecretKey tempToken)
  if exchange.appId ≠ application.appId then
    throw (failure "APPLICATION_ID_MISMATCH"
      "get-by-token returned an unexpected application id")
  else if exchange.state ≠ state then
    throw (failure "RETURNED_STATE_MISMATCH" "get-by-token returned an unexpected state")
  else do
    let storeInfo ← awaiting (.queryStoreInfo exchange.openKeyId exchange.secretKey)
    let identity ← .ofExcept (verifiedIdentity S.toLowerCase exchange storeInfo)
    let completedAt ← awaiting .now
    receiveReceipt S bytes (S.sha256 state)
      (newReceipt claim application exchange identity completedAt)

/-- The `catch` block of `complete`. -/
def abandonState {α : Type} (stateHash : String) (error : Thrown) : ServiceProgram α := do
  let failureCode := mapFailure error
  let failedAt ← awaiting .now
  let _ ← observing (awaiting (.failState { stateHash, failedAt, failureCode }))
  if error.ours then throw error
  else throw (failure failureCode "authorization could not be completed")

/-- `complete`, with the random bytes of its receipt's name. -/
def complete (S : Settings) (bytes state tempToken : String) : ServiceProgram CompletedState := do
  if !isToken state then
    throw (failure "INVALID_AUTHORIZATION_STATE" "callback state has an invalid format")
  else if !isTempToken tempToken then
    throw (failure "INVALID_TEMP_TOKEN" "callback tempToken has an invalid format")
  else do
    let stateHash := S.sha256 state
    let claim ← awaiting (.claimState stateHash (← awaiting .now))
    tryCatch (exchangeToken S bytes state tempToken claim) (abandonState stateHash)

/-! ## The calls of a site -/

inductive ServiceJob where
  | «begin» (token storeCode : String)
  | complete (state tempToken : String)
  deriving DecidableEq

/-- The calls `W` of the service. Each draws its random bytes: a state of 32 bytes, or the 6 bytes of a
receipt's name, which are never drawn twice. -/
structure ServiceJobs (W : Type) where
  job : W → ServiceJob
  randomState : W → String
  receiptBytes : W → String
  receiptBytes_length : ∀ w, (receiptBytes w).toList.length = 12
  receiptBytes_hex : ∀ w, ∀ c ∈ (receiptBytes w).toList,
    c.isDigit = true ∨ 'a' ≤ c ∧ c ≤ 'f'
  receiptBytes_injective : Function.Injective receiptBytes

inductive ServiceResult where
  | begun (authorization : BegunAuthorization)
  | completed (state : CompletedState)
  deriving DecidableEq

def ServiceJobs.body {W : Type} (jobs : ServiceJobs W) (S : Settings) (w : W) :
    ServiceProgram ServiceResult :=
  match jobs.job w with
  | .begin token storeCode => .begun <$> «begin» S (jobs.randomState w) token storeCode
  | .complete state tempToken => .completed <$> complete S (jobs.receiptBytes w) state tempToken

/-- The hash of the state a callback comes back with. -/
def ServiceJobs.stateHash {W : Type} (jobs : ServiceJobs W) (S : Settings) (w : W) : String :=
  match jobs.job w with
  | .begin _ _ => ""
  | .complete state _ => S.sha256 state

/-- The state file and the receipt directory. What follows them records, for nobody to read, the states
that were begun, who has claimed and who has exchanged which, and the file of each call that is neither
named by a store nor removed yet. -/
structure ServiceState (W : Type) where
  file : StateFile
  directory : String → Option Receipt
  began : List String
  claimed : List (W × String) := []
  exchanged : List (W × String) := []
  held : W → Option String := fun _ => none

/-- A file and a directory, before the first call. -/
def ServiceState.init {W : Type} (file : StateFile) (directory : String → Option Receipt) :
    ServiceState W where
  file
  directory
  began := file.states.map (·.stateHash)

section Answers

variable {W : Type} [DecidableEq W]

/-- What the environment chooses: what the clock, the application file and the platform say, how an update
of the state ends, and how a step of a receipt ends. -/
structure ServiceChoice where
  now : Instant := 0
  application : Except Thrown Application := .error { message := "no application" }
  exchange : Except Thrown Exchange := .error { message := "no exchange" }
  storeInfo : Except Thrown Json := .error { message := "no store info" }
  update : RoundTrip JsError := .done
  step : RoundTrip JsError := .done

def ServiceState.updateFile {β : Type} (s : ServiceState W) (trip : RoundTrip JsError)
    (update : Action StateFile JsError β) (writes : Bool) : Except Thrown β × ServiceState W :=
  match update.outcome s.file with
  | (.ok b, file) => (.ok b, { s with file })
  | (.error e, file) =>
    let ours := match trip with
      | .done => true
      | _ => !writes
    (.error { toJsError := e, ours }, { s with file })

def takesPlace {β : Type} (update : RoundTrip JsError → Action StateFile JsError β)
    (trip : RoundTrip JsError) (file : StateFile) : Bool :=
  trip.commits && ((update .done).outcome file).1.isOk

/-- The file of a call that no store names. -/
def ServiceState.hold (s : ServiceState W) (w : W) (name : Option String) : ServiceState W :=
  { s with held := Function.update s.held w name }

def ServiceState.put (s : ServiceState W) (name : String) (receipt : Option Receipt) : ServiceState W :=
  { s with directory := Function.update s.directory name receipt }

variable (s : ServiceState W)

omit [DecidableEq W] in
@[simp] theorem ServiceState.put_directory_self (name : String) (receipt : Option Receipt) : (s.put name receipt).directory name = receipt := Function.update_self ..

omit [DecidableEq W] in
theorem ServiceState.put_directory_of_ne {name other : String} (differs : other ≠ name) (receipt : Option Receipt) :
    (s.put name receipt).directory other = s.directory other := Function.update_of_ne differs ..

@[simp] theorem ServiceState.hold_held_self (w : W) (name : Option String) :
    (s.hold w name).held w = name := Function.update_self ..

theorem ServiceState.hold_held_of_ne {w other : W} (differs : other ≠ w) (name : Option String) : (s.hold w name).held other = s.held other :=
  Function.update_of_ne differs ..

/-- A step of a receipt: where it is carried out, it does what `change` says. -/
def ServiceState.takeStep (s : ServiceState W) (trip : RoundTrip JsError) (change : ServiceState W) :
    Except Thrown Unit × ServiceState W :=
  match trip with
  | .done => (.ok (), change)
  | .lost e => (.error { toJsError := e }, change)
  | .failed e => (.error { toJsError := e }, s)

def getBatchByTokenHash (file : StateFile) (tokenHash : String) (now : Instant) :
    Except Thrown PublicBatch :=
  match findBatchByHash file tokenHash with
  | none => .error (failure "INVALID_BATCH_TOKEN" "authorization batch was not found")
  | some batch => .ok (publicBatch batch now)

def ServiceState.answer (jobs : ServiceJobs W) (S : Settings) (s : ServiceState W) (w : W)
    (call : ServiceCall) (choice : ServiceChoice) : Except Thrown (ServiceReply call) × ServiceState W :=
  match call with
  | .now => (.ok choice.now, s)
  | .getBatchByTokenHash tokenHash now => (getBatchByTokenHash s.file tokenHash now, s)
  | .loadApplication _ => (choice.application, s)
  | .beginState r =>
    let began := if takesPlace (beginState S.js · r) choice.update s.file then [r.stateHash] else []
    let answered := s.updateFile choice.update (beginState S.js choice.update r) true
    (answered.1, { answered.2 with began := s.began ++ began })
  | .claimState stateHash claimedAt =>
    let answered := s.updateFile choice.update (claimState choice.update stateHash claimedAt)
      (written (claimStateIn stateHash claimedAt) s.file).isSome
    let claims := answered.1.toOption.toList.map fun _ => (w, stateHash)
    (answered.1, { answered.2 with claimed := s.claimed ++ claims })
  | .completeState r =>
    let answered := s.updateFile choice.update (completeState choice.update r)
      (written (completeStateIn r) s.file).isSome
    if takesPlace (completeState · r) choice.update s.file then (answered.1, answered.2.hold w none)
    else answered
  | .failState r => s.updateFile choice.update (failState choice.update r) true
  | .getByToken _ _ _ =>
    (choice.exchange, { s with exchanged := s.exchanged ++ [(w, jobs.stateHash S w)] })
  | .queryStoreInfo _ _ => (choice.storeInfo, s)
  | .mkdir => s.takeStep choice.step s
  | .writeFile name receipt => s.takeStep choice.step ((s.put name (some receipt)).hold w (some name))
  | .rename source target =>
    s.takeStep choice.step
      (((s.put source none).put target (s.directory source)).hold w (some target))
  | .unlink name => s.takeStep choice.step ((s.put name none).hold w none)

end Answers

end FullManagedBi.Authorization.Service
