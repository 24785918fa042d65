import FullManagedBi.Lib.Json
import FullManagedBi.WebapiSession.CookieJar

/-!
# Sessions over HTTP

`openFullHomeHttpSession` (`src/webapi-session/http-home-transport.mjs`) and `openOrderManagementHttpSession`
(`order-management-http.mjs`) once the stored session is read. They differ in their endpoints, in what they ask of a body
and in their error codes (`SessionKind`). Updates of the bundle are chained on one promise (`queue`), of which a caller
awaits the part that is there.
-/

namespace FullManagedBi.WebapiSession

open Lib

/-- `endpoint` has the addresses of the endpoints, `accepts` is what is asked of a body, `parseBody` is `parseBodyText`. -/
structure SessionKind where
  family : String
  refusal : String
  endpoint : String → Option Url
  accepts : String → Json → Bool
  parseBody : String → String → Except JsError Json
  maxResponseBytes : Nat

def SessionKind.error (kind : SessionKind) (code : String) : JsError :=
  ⟨some (kind.family ++ "_" ++ code), kind.refusal ++ kind.family ++ "_" ++ code⟩

/-- `openFullHomeHttpSession`, which accepts each body. -/
def fullHomeKind (endpoint : String → Option Url) (parseBody : String → String → Except JsError Json)
    (maxResponseBytes : Nat) : SessionKind where
  family := "HOME"
  refusal := "full homepage transport refused: "
  endpoint
  accepts _ _ := true
  parseBody
  maxResponseBytes

/-- `openOrderManagementHttpSession`. -/
def orderManagementKind (endpoint : String → Option Url) (accepts : String → Json → Bool)
    (parseBody : String → Except JsError Json) (maxResponseBytes : Nat) : SessionKind where
  family := "ORDER_MANAGEMENT"
  refusal := "order-management session HTTP refused: "
  endpoint
  accepts
  parseBody _ := parseBody
  maxResponseBytes

/-- `setCookies` is `responseSetCookieHeaders(response.headers)`; `text` is missing where reading it fails. -/
structure HttpResponse where
  status : Nat
  setCookies : List String
  text : Option String

def expiredStatuses : List Nat := [301, 302, 303, 307, 308, 401, 403]

/-- What `request` makes of a response once its cookies are merged. -/
def SessionKind.answer (kind : SessionKind) (endpointCode : String) (response : HttpResponse) : Except JsError Json := do
  refuse (response.status ∈ expiredStatuses) (kind.error "AUTH_EXPIRED")
  refuse (response.status < 200 ∨ 300 ≤ response.status) (kind.error "HTTP_STATUS_FAILED")
  match response.text with
  | none => .error (kind.error "FETCH_FAILED")
  | some text =>
    refuse (kind.maxResponseBytes < text.utf8ByteSize) (kind.error "RESPONSE_TOO_LARGE")
    kind.parseBody endpointCode text

/-- An update of the bundle: the cookies of a response, or the time of a verification. -/
inductive Update where
  | merge (url : Url) (values : List String)
  | verified

/-- The callback of `enqueueBundleUpdate`, which reads the clock once or twice. -/
def Update.apply (B : SessionBuiltins) (canonical : String) (bundle : SessionBundle) (clock : Instant × Instant) :
    Update → Except JsError SessionBundle
  | .merge url values => do
    normalizeWebApiSessionBundle B (← mergeSetCookieHeaders B bundle url values clock.1) canonical
  | .verified =>
    normalizeWebApiSessionBundle B { bundle with updatedAt := some clock.1, lastVerifiedAt := some (some clock.2) } canonical

/-- A call of `request`. `updates` is how much of the queue it awaits. -/
inductive Exchange where
  | fetching (endpointCode : String) (url : Url)
  | merging (endpointCode : String) (response : HttpResponse) (updates : Nat)
  | verifying (endpointCode : String) (response : HttpResponse) (body : Json) (updates : Nat)
  | done (response : Option HttpResponse) (answer : Except JsError Json)

structure HttpSession where
  bundle : SessionBundle
  closed : Bool := false
  dirty : Bool := false
  queue : List Update := []
  /-- The errors of the updates that are through. -/
  settled : List (Option JsError) := []
  exchanges : List Exchange := []
  /-- How much of the queue `close` awaits. -/
  closing : Option Nat := none
  /-- What `close` wrote, if anything. -/
  closeResult : Option (Except JsError (Option SessionBundle)) := none

inductive SessionEvent where
  | request (endpointCode : String) (body : Json) (now : Instant)
  /-- The answer of `fetch`, if it is not an error. -/
  | respond (exchange : Nat) (response : Option HttpResponse)
  /-- The next update of the queue. -/
  | drain (clock : Instant × Instant)
  /-- A call whose updates are through goes on. -/
  | goOn (exchange : Nat)
  | close
  /-- `close` goes on when its updates are through. -/
  | write

namespace HttpSession

variable (B : SessionBuiltins) (kind : SessionKind) (canonical : String) (s : HttpSession)

/-- The error with which the promise for this much of the queue is rejected, if it is through. -/
def through (updates : Nat) : Option (Option JsError) :=
  if s.settled.length < updates then none else some ((s.settled.take updates).getLast?.join)

def start (endpointCode : String) (body : Json) (now : Instant) : Exchange :=
  if s.closed then .done none (.error (kind.error "HTTP_SESSION_CLOSED"))
  else match kind.endpoint endpointCode with
    | none => .done none (.error (kind.error "ENDPOINT_NOT_ALLOWED"))
    | some url =>
      if !kind.accepts endpointCode body then .done none (.error (kind.error "REQUEST_BODY_INVALID"))
      else match cookieHeaderForUrl B s.bundle url now with
        | .error e => .done none (.error e)
        | .ok header => if header = "" then .done none (.error (kind.error "AUTH_EXPIRED")) else .fetching endpointCode url

def setExchange (i : Nat) (exchange : Exchange) : HttpSession := { s with exchanges := s.exchanges.set i exchange }

def drain (clock : Instant × Instant) : HttpSession :=
  match s.queue[s.settled.length]?, s.settled.getLast?.join with
  | none, _ => s
  -- Behind a rejected promise the callback is not called.
  | some _, some e => { s with settled := s.settled ++ [some e] }
  | some update, none =>
    match update.apply B canonical s.bundle clock with
    | .error e => { s with settled := s.settled ++ [some e] }
    | .ok bundle => { s with bundle, dirty := true, settled := s.settled ++ [none] }

def goOn (i : Nat) : HttpSession :=
  match s.exchanges[i]? with
  | some (.merging endpointCode response updates) =>
    match s.through updates with
    | none => s
    | some (some e) => s.setExchange i (.done (some response) (.error e))
    | some none =>
      match kind.answer endpointCode response with
      | .error e => s.setExchange i (.done (some response) (.error e))
      | .ok body =>
        { s.setExchange i (.verifying endpointCode response body (s.queue.length + 1)) with
          queue := s.queue ++ [.verified] }
  | some (.verifying _ response body updates) =>
    match s.through updates with
    | none => s
    | some (some e) => s.setExchange i (.done (some response) (.error e))
    | some none => s.setExchange i (.done (some response) (.ok body))
  | _ => s

def step (s : HttpSession) : SessionEvent → HttpSession
  | .request endpointCode body now => { s with exchanges := s.exchanges ++ [s.start B kind endpointCode body now] }
  | .respond i response =>
    match s.exchanges[i]?, response with
    | some (.fetching _ _), none => s.setExchange i (.done none (.error (kind.error "FETCH_FAILED")))
    | some (.fetching endpointCode url), some response =>
      if response.setCookies = [] then s.setExchange i (.merging endpointCode response 0)
      else
        { s.setExchange i (.merging endpointCode response (s.queue.length + 1)) with
          queue := s.queue ++ [.merge url response.setCookies] }
    | _, _ => s
  | .drain clock => s.drain B canonical clock
  | .goOn i => s.goOn kind i
  | .close => if s.closed then s else { s with closed := true, closing := some s.queue.length }
  | .write =>
    match s.closing, s.closeResult with
    | some updates, none =>
      match s.through updates with
      | none => s
      | some (some e) => { s with closeResult := some (.error e) }
      | some none => { s with closeResult := some (.ok (if s.dirty then some s.bundle else none)) }
    | _, _ => s

end HttpSession

end FullManagedBi.WebapiSession
