import FullManagedBi.Lib.Json
import FullManagedBi.Lib.OrderedMap
import FullManagedBi.Lib.Run

/-!
# The limits of logins

`pruneAttempts`, `reserveRateLimit`, `completeRateLimitReservation` and `authenticate` of `src/server/auth.mjs`. A call
of `authenticate` takes two steps: it reserves and begins a verification, and the verification settles; calls of many
clients take their steps in any order. What a verification comes to is up to the environment. The states of the source
are objects that a reservation holds on to, so they have numbers, and a map from clients to numbers. Next to its fields,
a state keeps its client, when it was opened, and how many verifications began in it, threw and succeeded.
-/

namespace FullManagedBi.Server

open Lib

/-- The options of the service that the limits read, and whether `users` has a trimmed text in lower case. -/
structure LoginLimits where
  maxRateLimitClients : Nat
  rateLimitWindowMs : Nat
  rateLimitMaxAttempts : Nat
  maxConcurrentKdfs : Nat
  maxBodyBytes : Nat
  hasUser : String → Bool
  clients_pos : 0 < maxRateLimitClients
  window_pos : 0 < rateLimitWindowMs
  attempts_pos : 0 < rateLimitMaxAttempts
  kdfs_pos : 0 < maxConcurrentKdfs

/-- A state of `attempts`. -/
structure AttemptWindow where
  key : String := ""
  openedAt : Int := 0
  count : Nat := 0
  inFlight : Nat := 0
  resetAt : Int := 0
  started : Nat := 0
  errors : Nat := 0
  successes : Nat := 0
  deriving DecidableEq

/-- A verification that has not settled. `known` says that there is a user, and a password that is not too long. -/
structure Verification where
  key : String
  window : Nat
  known : Bool
  deriving DecidableEq

structure LimiterState where
  attempts : OrderedMap String Nat := .empty
  windows : Nat → AttemptWindow := fun _ => {}
  next : Nat := 0
  lastAttemptsPruneAt : Int := 0
  activeKdfs : Nat := 0
  calls : List Verification := []

def LimiterState.setWindow (s : LimiterState) (window : Nat) (state : AttemptWindow) : LimiterState :=
  { s with windows := Function.update s.windows window state }

inductive LoginStart where
  | rateLimited (capacityLimited : Bool) (retryAfterSeconds : Int)
  | busy
  | threw
  | verifies (call : Verification)
  deriving DecidableEq

def pruneAttempts (L : LoginLimits) (s : LimiterState) (now : Int) : LimiterState :=
  if s.attempts.size < L.maxRateLimitClients ∧ now - s.lastAttemptsPruneAt < 60000 then s
  else { s with
    lastAttemptsPruneAt := now
    attempts := s.attempts.filter fun window => now < (s.windows window).resetAt }

/-- `Math.max(1, Math.ceil((resetAt - now) / 1000))`. -/
def retryAfterSeconds (resetAt now : Int) : Int := max 1 (-((-(resetAt - now)) / 1000))

/-- The window of a client that has not passed. -/
def currentWindow (s : LimiterState) (key : String) (now : Int) : Option Nat :=
  (s.attempts.get? key).filter fun window => now < (s.windows window).resetAt

def openWindow (L : LoginLimits) (s : LimiterState) (key : String) (now : Int) : LimiterState :=
  { s with attempts := s.attempts.set key s.next, next := s.next + 1 }.setWindow s.next
    { key, openedAt := now, resetAt := now + L.rateLimitWindowMs }

/-- The reservation in a window: `inFlight` goes up, or the call is refused. -/
def reserveIn (L : LoginLimits) (s : LimiterState) (window : Nat) (now : Int) :
    LimiterState × Except LoginStart Nat :=
  let state := s.windows window
  if state.count + state.inFlight < L.rateLimitMaxAttempts then
    (s.setWindow window { state with inFlight := state.inFlight + 1 }, .ok window)
  else (s, .error (.rateLimited false (retryAfterSeconds state.resetAt now)))

def reserveRateLimit (L : LoginLimits) (s : LimiterState) (key : String) (now : Int) :
    LimiterState × Except LoginStart Nat :=
  let s := pruneAttempts L s now
  match currentWindow s key now with
  | some window => reserveIn L s window now
  | none =>
    if L.maxRateLimitClients ≤ s.attempts.size then
      let earliestResetAt := s.attempts.values.foldl (fun earliest window => min earliest (s.windows window).resetAt)
        (now + L.rateLimitWindowMs)
      (s, .error (.rateLimited true (retryAfterSeconds earliestResetAt now)))
    else reserveIn L (openWindow L s key now) s.next now

/-- `outcome`. -/
inductive Settlement where
  | success
  | failure
  | release
  deriving DecidableEq

/-- `attempts.delete`. -/
def LimiterState.forget (s : LimiterState) (key : String) : LimiterState := { s with attempts := s.attempts.delete key }

def completeRateLimitReservation (s : LimiterState) (key : String) (window : Nat) (outcome : Settlement) :
    LimiterState :=
  let state := { s.windows window with inFlight := (s.windows window).inFlight - 1 }
  if s.attempts.get? key ≠ some window then s.setWindow window state
  else match outcome with
    | .success => (s.setWindow window state).forget key
    | .failure => s.setWindow window { state with count := state.count + 1 }
    | .release =>
      if state.count = 0 ∧ state.inFlight = 0 then (s.setWindow window state).forget key
      else s.setWindow window state

/-- `String(value)` of a value of a request throws: it is an object with a field `toString`, or holds one in an array. -/
def throwsAsText : Json → Bool
  | .obj fields => fields.any (·.1 = "toString")
  | .arr items => throwsInItems items
  | _ => false
where
  /-- An item of an array throws. -/
  throwsInItems : List Json → Bool
    | [] => false
    | item :: items => throwsAsText item || throwsInItems items

/-- `String(username || '')`, where it does not throw. -/
def usernameText (username : Option Json) : Option String :=
  match username with
  | some value => if truthy (some value) then if throwsAsText value then none else some value.text else some ""
  | none => some ""

/-- `typeof password === 'string' ? password : ''`. -/
def suppliedPassword (password : Option Json) : String :=
  match password with
  | some (.str text) => text
  | _ => ""

/-- The verification that a call begins. -/
def verificationOf (L : LoginLimits) (key : String) (window : Nat) (username : String) (password : Option Json) :
    Verification :=
  ⟨key, window, L.hasUser username && decide (jsLength (suppliedPassword password) ≤ L.maxBodyBytes)⟩

/-- The part of `authenticate` behind the reservation. The text of the user name is made when the key derivation is
counted, and ahead of the `try`. -/
def beginVerification (L : LoginLimits) (s : LimiterState) (key : String) (window : Nat)
    (username password : Option Json) : LimiterState × LoginStart :=
  if L.maxConcurrentKdfs ≤ s.activeKdfs then (completeRateLimitReservation s key window .release, .busy)
  else
    let s := { s with activeKdfs := s.activeKdfs + 1 }
    match usernameText username with
    | none => (s, .threw)
    | some text =>
      let call := verificationOf L key window text password
      let state := s.windows window
      ({ s with calls := s.calls ++ [call] }.setWindow window { state with started := state.started + 1 },
        .verifies call)

/-- `authenticate`, up to the verification. -/
def authenticate (L : LoginLimits) (s : LimiterState) (key : String) (now : Int) (username password : Option Json) :
    LimiterState × LoginStart :=
  match reserveRateLimit L s key now with
  | (s, .error refused) => (s, refused)
  | (s, .ok window) => beginVerification L s key window username password

/-- `authenticate`, from the verification on: it throws (`none`), or says whether the password matches. -/
def settleVerification (s : LimiterState) (call : Verification) (verified : Option Bool) : LimiterState :=
  let s := { s with activeKdfs := s.activeKdfs - 1 }
  let state := s.windows call.window
  match verified with
  | none =>
    completeRateLimitReservation (s.setWindow call.window { state with errors := state.errors + 1 }) call.key
      call.window .release
  | some passwordMatches =>
    if call.known ∧ passwordMatches then
      completeRateLimitReservation (s.setWindow call.window { state with successes := state.successes + 1 })
        call.key call.window .success
    else completeRateLimitReservation s call.key call.window .failure

/-- A step: a call, or the end of a verification. -/
inductive LoginEvent where
  | authenticate (key : String) (now : Int) (username password : Option Json)
  | settle (index : Nat) (verified : Option Bool)

def LoginLimits.step (L : LoginLimits) (s : LimiterState) : LoginEvent → LimiterState
  | .authenticate key now username password => (authenticate L s key now username password).1
  | .settle index verified =>
    match s.calls[index]? with
    | none => s
    | some call => settleVerification { s with calls := s.calls.eraseIdx index } call verified

end FullManagedBi.Server
