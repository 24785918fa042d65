import FullManagedBi.Lib.Action
import FullManagedBi.WebapiHistory.StoreDaily

/-!
# One audited fetch

Every request of the history sync goes through `requestAndAudit` (`src/webapi-history/sync.mjs`): it
calls the transport, hands the body to a handler that parses and stores it, and records the outcome
in `raw.webapi_home_fetch_audit`. Later runs read that table to decide which dates they may skip
(`successfulDailyDates`, `terminalUnsupportedDailyDates` of `src/webapi-history/repository.mjs`).

What the transport answers, and how each write ends, is the `Reply` of the environment. The bodies of
the product pages are parsed here (`Product`); for the other endpoints the reply says what parsing
and storing the body came to. `SyncState` is the audit table and a `trace`: what the syncs did, oldest
first, which no function of the sync reads.
-/

namespace FullManagedBi.WebapiHistory

open Lib

/-- A thrown error, as `sanitizedErrorCode` sees it: its `code`. -/
structure Thrown where
  code : Option String
  deriving DecidableEq

/-- One window of `historyWindows`. -/
structure Window where
  startDate : BusinessDate
  endDate : BusinessDate
  deriving DecidableEq

/-- The keys of `HOME_ENDPOINTS` the sync uses. -/
inductive EndpointCode where
  | updateTime
  | storeDailyHistory
  | storeRealtime
  | storeRealtimeSummary
  | tradeOverview
  | regionRank
  | analyseModel
  | analyseSearch
  | productDiagnoseList
  deriving DecidableEq

/-- What the request builders build, less their constants. -/
inductive Request where
  | indexUpdateTime
  | realtimeUpdateTime
  | storeDailyHistory (window : Window) (observedDate : BusinessDate)
  | realtime (businessDate : BusinessDate) (endHour : Nat)
  | tradeOverview (businessDate observedDate : BusinessDate)
  | regionRank (businessDate observedDate : BusinessDate)
  | shopDaily (window : Window)
  | analyseSearch (pageNum pageSize : Nat)
  | productDiagnoseList (businessDate observedDate : BusinessDate) (pageNum pageSize : Nat)
  deriving DecidableEq

/-- `result_status`. -/
inductive ResultStatus where
  | succeeded
  | partialResult
  | rejected
  | failed
  deriving DecidableEq

/-- What identifies a fetch: `fetchKey` is a digest of these, with a digest of the request. -/
structure FetchKey where
  storeCode : String
  endpointCode : EndpointCode
  requestedStartDate : BusinessDate
  requestedEndDate : BusinessDate
  request : Request
  observedAt : Instant
  deriving DecidableEq

/-- A row of `raw.webapi_home_fetch_audit`; the digests of the body, the HTTP status and the time of
completion are left out. -/
structure FetchAudit where
  fetchKey : FetchKey
  resultStatus : ResultStatus
  acceptedRowCount : Nat
  rejectedRowCount : Nat
  sanitizedErrorCode : Option String
  deriving DecidableEq

/-- Where in the sync a fetch is made. -/
inductive FetchSite where
  | indexAnchor
  | storeDaily (window : Window)
  | shop (window : Window)
  | trade (window : Window) (businessDate : BusinessDate)
  | region (window : Window) (businessDate : BusinessDate)
  | product (window : Window) (businessDate : BusinessDate)
  | realtime
  | currentProduct
  deriving DecidableEq

/-- One row of a product page that is stored. -/
structure ProductRow where
  storeCode : String
  businessDate : BusinessDate
  productKey : String
  displayName : Option String
  salesQuantity : Nat
  observedAt : Instant
  deriving DecidableEq

/-- What `parseProductDiagnosePage` returns. -/
structure ProductPage where
  count : Nat
  sourceRowCount : Nat
  rejectedRowCount : Nat
  lastSalesQuantity : Option Nat
  rows : List ProductRow
  deriving DecidableEq

inductive SyncEvent where
  /-- `requestAndAudit` returned, with an error code where the fetch failed. -/
  | fetched (site : FetchSite) (errorCode : Option String)
  /-- `upsertProducts` committed the rows of a page. -/
  | productsUpserted (storeCode : String) (businessDate : BusinessDate) (pageNum : Nat)
      (page : ProductPage)
  /-- The product loop skipped a date it holds for completed. -/
  | productSkipped (storeCode : String) (businessDate : BusinessDate)
  deriving DecidableEq

/-- The audit table, and what the syncs did so far. -/
structure SyncState where
  fetchAudits : List FetchAudit
  trace : List SyncEvent
  deriving DecidableEq

def SyncState.empty : SyncState := ⟨[], []⟩

abbrev Sync : Type → Type := Action SyncState Thrown

def emit (event : SyncEvent) : Sync Unit :=
  modify fun s => { s with trace := s.trace ++ [event] }

/-! ## Errors -/

/-- `/^[A-Z][A-Z0-9_]{2,80}$/`. -/
def isErrorCode (candidate : String) : Bool :=
  match candidate.toList with
  | [] => false
  | c :: cs =>
    c.isUpper && decide (2 ≤ cs.length) && decide (cs.length ≤ 80) &&
      cs.all fun d => d.isUpper || d.isDigit || d == '_'

def sanitizedErrorCode (js : TextBuiltins) (error : Thrown) (fallback : String) : String :=
  let candidate := js.toUpperCase (error.code.getD fallback)
  if isErrorCode candidate then candidate else fallback

/-- `RETRYABLE_CDP_CODES` of `src/webapi-history/retry-policy.mjs`. -/
def retryableCdpCodes : List String :=
  ["CDP_COMMAND_TIMEOUT", "CDP_OPEN_TIMEOUT", "CDP_OPEN_FAILED", "CDP_SOCKET_CLOSED",
    "CDP_SOCKET_ERROR", "CDP_COMMAND_SEND_FAILED", "HOME_FETCH_FAILED", "HOME_HTTP_STATUS_FAILED"]

def retryableCdpCode (js : TextBuiltins) (value : Option String) : Bool :=
  retryableCdpCodes.contains (js.toUpperCase (jsTrim (value.getD "")))

/-! ## Writes and replies -/

/-- How a write ends: it committed, it committed and the answer was lost, or it failed. -/
inductive Write where
  | done
  | lost (error : Thrown)
  | failed (error : Thrown)
  deriving DecidableEq

def Write.commits : Write → Bool
  | .failed _ => false
  | _ => true

def Write.throws : Write → Option Thrown
  | .done => none
  | .lost error => some error
  | .failed error => some error

/-- A change of the state under the outcome of its write. -/
def Write.perform : Write → Sync Unit → Sync Unit
  | .done, change => change
  | .lost error, change => do
    change
    throw error
  | .failed error, _ => throw error

/-- What the environment decides about one `requestAndAudit`. -/
structure Reply (β : Type) where
  observedAt : Instant
  body : Except Thrown β
  /-- The audit of an accepted response. -/
  audited : Write := .done
  /-- The audit of a failure. -/
  failureAudited : Write := .done

/-- `recordFetchAudit`: `ON CONFLICT (fetch_key) DO NOTHING`. -/
def recordFetchAudit (write : Write) (row : FetchAudit) : Sync Unit :=
  write.perform <| modify fun s =>
    if s.fetchAudits.any (·.fetchKey = row.fetchKey) then s
    else { s with fetchAudits := s.fetchAudits ++ [row] }

/-- `audit`: an error of the repository is thrown on as a sync error. -/
def audit (js : TextBuiltins) (write : Write) (row : FetchAudit) : Sync Unit :=
  tryCatch (recordFetchAudit write row) fun error =>
    throw ⟨some (sanitizedErrorCode js error "HOME_AUDIT_PERSIST_FAILED")⟩

/-! ## The fetch -/

structure Handled (π : Type) where
  accepted : Nat
  rejected : Nat := 0
  total : Option Nat := none
  payload : π

/-- What `requestAndAudit` returns: `ok: true` with its counts, or `ok: false` with a code. -/
inductive FetchResult (π : Type) where
  | done (accepted rejected total : Nat) (payload : π)
  | failed (errorCode : String)
  deriving DecidableEq

def FetchResult.ok {π : Type} : FetchResult π → Bool
  | .done .. => true
  | .failed _ => false

def FetchResult.errorCode {π : Type} : FetchResult π → Option String
  | .done .. => none
  | .failed code => some code

def resultStatus (rows rejected : Nat) : ResultStatus :=
  if 0 < rejected ∧ 0 < rows then .partialResult
  else if 0 < rejected then .rejected
  else .succeeded

def auditAccepted {π : Type} (js : TextBuiltins) (fetchKey : FetchKey) (write : Write)
    (output : Handled π) : Sync (FetchResult π) := do
  audit js write
    ⟨fetchKey, resultStatus output.accepted output.rejected, output.accepted, output.rejected, none⟩
  return .done output.accepted output.rejected
    (output.total.getD (output.accepted + output.rejected)) output.payload

def auditFailure {π : Type} (js : TextBuiltins) (fetchKey : FetchKey) (write : Write)
    (error : Thrown) : Sync (FetchResult π) := do
  let errorCode := sanitizedErrorCode js error "HOME_SYNC_FAILED"
  audit js write ⟨fetchKey, .failed, 0, 0, some errorCode⟩
  return .failed errorCode

/-- `requestAndAudit`. The event closes the fetch for the trace. -/
def requestAndAudit {β π : Type} (js : TextBuiltins) (site : FetchSite) (fetchKey : FetchKey)
    (reply : Reply β) (handle : β → Sync (Handled π)) : Sync (FetchResult π) := do
  let result ← tryCatch
    (do
      let body ← MonadExcept.ofExcept reply.body
      let output ← handle body
      auditAccepted js fetchKey reply.audited output)
    (auditFailure js fetchKey reply.failureAudited)
  emit (.fetched site result.errorCode)
  return result

/-! ## What later runs read -/

/-- The rows of a daily endpoint within a range of dates. -/
def dailyAudits (s : SyncState) (storeCode : String) (endpointCode : EndpointCode)
    (startDate endDate : BusinessDate) : List FetchAudit :=
  s.fetchAudits.filter fun row =>
    row.fetchKey.storeCode = storeCode ∧ row.fetchKey.endpointCode = endpointCode ∧
      startDate ≤ row.fetchKey.requestedStartDate ∧ row.fetchKey.requestedEndDate ≤ endDate ∧
      row.fetchKey.requestedStartDate = row.fetchKey.requestedEndDate

/-- `successfulDailyDates`: one audited success makes a date completed. -/
def successfulDailyDates (s : SyncState) (storeCode : String) (endpointCode : EndpointCode)
    (startDate endDate : BusinessDate) : List BusinessDate :=
  (((dailyAudits s storeCode endpointCode startDate endDate).filter
    (·.resultStatus = .succeeded)).map (·.fetchKey.requestedStartDate)).eraseDups

/-- `terminalUnsupportedDailyDates`: dates the platform refused and never served. -/
def terminalUnsupportedDailyDates (s : SyncState) (storeCode : String)
    (endpointCode : EndpointCode) (startDate endDate : BusinessDate) : List BusinessDate :=
  let rows := dailyAudits s storeCode endpointCode startDate endDate
  let failed := rows.filter fun row =>
    row.resultStatus = .failed ∧ row.sanitizedErrorCode = some "HOME_BUSINESS_STATUS_FAILED"
  let unsupported := failed.filter fun row => !rows.any fun other =>
    other.fetchKey.requestedStartDate = row.fetchKey.requestedStartDate ∧
      other.resultStatus = .succeeded
  (unsupported.map (·.fetchKey.requestedStartDate)).eraseDups

end FullManagedBi.WebapiHistory
