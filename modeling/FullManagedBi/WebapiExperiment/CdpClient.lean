import FullManagedBi.Lib.Json

/-!
# The protocol client

`src/webapi-experiment/cdp-client.mjs`, from the call of `createWebSocket` on. An `Event` is what the engine runs next: a
listener of the socket, a timer, a call of the caller, or a gesture that goes on after its last command. A promise of
`sendProtocol` is told by the number of calls before it. Of the caller's values `String` and `Number` have been taken.
-/

namespace FullManagedBi.Cdp

open Lib

def cdpAllowedMethods : List String :=
  ["Runtime.enable", "Runtime.evaluate", "Page.navigate", "Page.getNavigationHistory"]

def forbiddenCdpDomains : List String := ["Network", "Storage", "Browser", "Fetch", "Security", "Audits", "Log",
  "Tracing", "IndexedDB", "CacheStorage", "DOMStorage", "Input", "Emulation"]

def savedCredentialMouseMethod : String := "Input.dispatchMouseEvent"
def savedCredentialKeyMethod : String := "Input.dispatchKeyEvent"

def cdpMaxMessageBytes : Nat := 4 * 1024 * 1024

def cdpError (code message : String) : JsError := ⟨some code, message⟩

def assertAllowedMethod (name : String) : Except JsError String := do
  refuse (String.ofList (name.toList.takeWhile (· ≠ '.')) ∈ forbiddenCdpDomains)
    (cdpError "CDP_METHOD_DOMAIN_FORBIDDEN" "the requested protocol domain is forbidden")
  refuse (name ∉ cdpAllowedMethods)
    (cdpError "CDP_METHOD_NOT_ALLOWED" "the requested protocol method is not allow-listed")
  return name

inductive Params where
  | json (value : Json)
  | mouse (type : String) (x y : ℚ) (pressed : Bool)
  | key (type key code : String) (virtualKeyCode : Nat)

structure Call where
  method : String
  params : Params

inductive Settlement where
  | resolved (result : Json)
  | rejected (error : JsError)

def Settlement.isResolved : Settlement → Bool
  | .resolved _ => true
  | .rejected _ => false

inductive Opening where
  | waiting
  | opened
  | failed
  deriving DecidableEq

structure Client where
  sequence : Nat := 0
  closed : Bool := false
  /-- `pending`: the promise of each id. -/
  pending : List (Nat × Nat) := []
  /-- The timers that run, with the id and the promise that each has captured. -/
  timers : List (Nat × Nat) := []
  /-- The calls of `sendProtocol` with their ids; a call on a closed client has none. -/
  commands : List (Option Nat) := []
  /-- The calls of `resolve` and `reject`, in order. -/
  settlements : List (Nat × Settlement) := []
  /-- What the socket took. -/
  sent : List (Nat × Call) := []
  opening : Opening := .waiting
  /-- The promise that each gesture awaits, and the events that it has still to send. -/
  gestures : List (Nat × List Call) := []

namespace Client

variable (client : Client)

def settle (promise : Nat) (settlement : Settlement) : Client :=
  { client with settlements := client.settlements ++ [(promise, settlement)] }

/-- `pending.delete(id)` and `clearTimeout(entry.timer)`. -/
def forget (id : Nat) : Client :=
  { client with
    pending := client.pending.filter (·.1 ≠ id)
    timers := client.timers.filter (·.1 ≠ id) }

def rejectAll (error : JsError) : Client :=
  if client.closed then client
  else
    { client with
      closed := true
      timers := client.timers.filter (·.1 ∉ client.pending.map (·.1))
      settlements := client.settlements ++ client.pending.map fun entry => (entry.2, .rejected error)
      pending := [] }

/-- `message?.id === undefined ? undefined : pending.get(message.id)`. -/
def pendingEntry (message : Json) : Option (Nat × Nat) :=
  match message.field? "id" with
  | some (.num (.int id)) => client.pending.find? fun entry => (entry.1 : Int) = id
  | _ => none

def settlementOf (message : Json) : Settlement :=
  if truthy (message.field? "error") then
    .rejected (cdpError "CDP_COMMAND_REJECTED" "the protocol command was rejected")
  else .resolved ((nullish (message.field? "result") none).getD (.obj []))

/-- The listener of messages. -/
def receive (parse : String → Option Json) (raw : String) : Client :=
  if jsLength raw > cdpMaxMessageBytes then
    client.rejectAll (cdpError "CDP_MESSAGE_TOO_LARGE" "a protocol message exceeded the size bound")
  else
    match parse raw with
    | none => client
    | some message =>
      match client.pendingEntry message with
      | none => client
      | some (id, promise) => (client.forget id).settle promise (settlementOf message)

/-- The timer of a command, which runs unless it was cleared. -/
def timeout (id : Nat) : Client :=
  match client.timers.find? (·.1 = id) with
  | none => client
  | some (_, promise) =>
    (client.forget id).settle promise (.rejected (cdpError "CDP_COMMAND_TIMEOUT" "the protocol command timed out"))

/-- `sends`: whether `JSON.stringify` and `socket.send` return. -/
def sendProtocol (call : Call) (sends : Bool) : Client :=
  let promise := client.commands.length
  if client.closed then
    { client with commands := client.commands ++ [none] }.settle promise
      (.rejected (cdpError "CDP_SOCKET_CLOSED" "the protocol socket is closed"))
  else
    let id := client.sequence + 1
    let begun := { client with
      sequence := id
      commands := client.commands ++ [some id]
      timers := client.timers ++ [(id, promise)]
      pending := client.pending ++ [(id, promise)] }
    if sends then { begun with sent := begun.sent ++ [(id, call)] }
    else (begun.forget id).settle promise
      (.rejected (cdpError "CDP_COMMAND_SEND_FAILED" "the protocol command could not be sent"))

def send (method : String) (params : Params) (sends : Bool) : Client :=
  match assertAllowedMethod method with
  | .error _ => client
  | .ok name => client.sendProtocol ⟨name, params⟩ sends

/-- Some call settled the promise with a result. -/
def isResolved (promise : Nat) : Bool := client.settlements.any fun s => s.1 = promise && s.2.isResolved

/-- `createCdpClient` has returned the client: its own first command is resolved. -/
def returned : Bool := client.opening = .opened && client.isResolved 0

end Client

def mouseEvents (x y : ℚ) : List Call := [("mouseMoved", false), ("mousePressed", true), ("mouseReleased", true)].map
  fun event => ⟨savedCredentialMouseMethod, .mouse event.1 x y event.2⟩

def keyEvents (key : String) (virtualKeyCode : Nat) : List Call := ["keyDown", "keyUp"].map fun type =>
  ⟨savedCredentialKeyMethod, .key type key key virtualKeyCode⟩

/-- The events of `savedCredentialGesture`. A coordinate that is not finite is `none`. -/
def gestureEvents (stage : String) (x y : Option ℚ) : Except JsError (List Call) :=
  if stage = "focus" then
    match x, y with
    | some x, some y =>
      if x < 0 ∨ y < 0 ∨ 10000 < x ∨ 10000 < y then
        .error (cdpError "CDP_SAVED_CREDENTIAL_POINT_INVALID" "the saved credential focus point is invalid")
      else .ok (mouseEvents x y)
    | _, _ => .error (cdpError "CDP_SAVED_CREDENTIAL_POINT_INVALID" "the saved credential focus point is invalid")
  else if stage = "next" then .ok (keyEvents "ArrowDown" 40)
  else if stage = "confirm" then .ok (keyEvents "Enter" 13)
  else .error (cdpError "CDP_SAVED_CREDENTIAL_GESTURE_INVALID" "the saved credential gesture is invalid")

inductive Event where
  | socketOpen (sends : Bool)
  | openTimeout
  | message (raw : String)
  | socketClose
  | socketError
  | timeout (id : Nat)
  | send (method : String) (params : Json) (sends : Bool)
  | evaluate (expression : String) (sends : Bool)
  | gesture (stage : String) (x y : Option ℚ) (sends : Bool)
  /-- The promise that the gesture awaits is resolved, and the gesture sends its next event. -/
  | goOn (gesture : Nat) (sends : Bool)
  | close

/-- A gesture sends its next event, if it has one, and awaits the command. -/
def Client.advance (client : Client) (rest : List Call) (sends : Bool) : Client × List (Nat × List Call) :=
  match rest with
  | [] => (client, [])
  | call :: rest => (client.sendProtocol call sends, [(client.commands.length, rest)])

/-- What an event does. A caller has no client before `createCdpClient` returned it. -/
def step (parse : String → Option Json) (client : Client) : Event → Client
  | .socketOpen sends =>
    if client.opening = .waiting then { client with opening := .opened }.send "Runtime.enable" (.json (.obj [])) sends
    else client
  | .openTimeout =>
    if client.opening = .waiting then
      { client.rejectAll (cdpError "CDP_OPEN_TIMEOUT" "the protocol socket did not open in time") with opening := .failed }
    else client
  | .message raw => client.receive parse raw
  | .socketClose => client.rejectAll (cdpError "CDP_SOCKET_CLOSED" "the protocol socket closed")
  | .socketError =>
    let rejected := client.rejectAll (cdpError "CDP_SOCKET_ERROR" "the protocol socket failed")
    if client.opening = .waiting then { rejected with opening := .failed } else rejected
  | .timeout id => client.timeout id
  | .send method params sends => if client.returned then client.send method (.json params) sends else client
  | .evaluate expression sends =>
    if client.returned then
      client.send "Runtime.evaluate" (.json (.obj [("expression", .str expression), ("awaitPromise", .bool true),
        ("returnByValue", .bool true)])) sends
    else client
  | .gesture stage x y sends =>
    match client.returned, gestureEvents stage x y with
    | true, .ok events =>
      let (next, awaits) := client.advance events sends
      { next with gestures := client.gestures ++ awaits }
    | _, _ => client
  | .goOn gesture sends =>
    match client.gestures[gesture]? with
    | none => client
    | some (promise, rest) =>
      if client.isResolved promise then
        let (next, awaits) := client.advance rest sends
        { next with gestures := client.gestures.eraseIdx gesture ++ awaits }
      else client
  | .close =>
    if client.returned then client.rejectAll (cdpError "CDP_CLOSED_BY_CLIENT" "the protocol client was closed")
    else client

end FullManagedBi.Cdp
