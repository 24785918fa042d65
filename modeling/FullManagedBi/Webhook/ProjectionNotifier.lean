import FullManagedBi.Lib.Js
import FullManagedBi.Lib.Run

/-!
# The projection notifier

`createWebhookProjectionNotifier` of `src/webhook/projection-notifier.mjs`. Requests, calls of `flush`, the timer and the
chain of writes take their steps in any order. A request reads the clock once for its waiting time, and once more
where it flushes. A write may fail. The state keeps, next to the variables of the source, the times of all flushes and
the writes begun so far. What is written to a marker is left out.
-/

namespace FullManagedBi.Webhook

open Lib

structure Notifier where
  dashboardMarker : String
  hydrationMarker : String
  interval : Nat
  dashboardMarker_given : jsTrim dashboardMarker ≠ ""
  hydrationMarker_given : jsTrim hydrationMarker ≠ ""
  interval_low : 1000 ≤ interval
  interval_high : interval ≤ 300000

/-- The checks of `createWebhookProjectionNotifier`. `minimumIntervalMs` is `none` where it is not a safe integer. -/
def createNotifier (dashboardMarker hydrationMarker : String) (minimumIntervalMs : Option Int := some 30000) :
    Except JsError Notifier :=
  if dashboard : jsTrim dashboardMarker = "" then .error { message := "dashboardMarker is required." }
  else if hydration : jsTrim hydrationMarker = "" then .error { message := "hydrationMarker is required." }
  else match minimumIntervalMs with
    | some (.ofNat interval) =>
      if bounds : 1000 ≤ interval ∧ interval ≤ 300000 then
        .ok ⟨dashboardMarker, hydrationMarker, interval, dashboard, hydration, bounds.1, bounds.2⟩
      else .error { message := "Webhook projection interval must be 1000..300000 ms." }
    | _ => .error { message := "Webhook projection interval must be 1000..300000 ms." }

inductive Marker where
  | dashboard
  | hydration
  deriving DecidableEq

structure FlushJob where
  dashboard : Bool
  hydration : Bool
  deriving DecidableEq

def FlushJob.writes (job : FlushJob) : List Marker :=
  (if job.dashboard then [.dashboard] else []) ++ (if job.hydration then [.hydration] else [])

/-- The state of a notifier: its variables, the flushes in `writeChain` that have not begun, and what is left of the
running one. -/
structure NotifierState where
  dashboardPending : Bool := false
  hydrationPending : Bool := false
  timer : Option Int := none
  queue : List FlushJob := []
  running : Option (List Marker) := none
  writing : Option Marker := none
  flushedAt : List Int := []
  begun : List Marker := []
  deriving DecidableEq

/-- An event. `advance` is the next step of the chain that does not wait for a write. -/
inductive NotifierEvent where
  | request (now flushNow : Int) (hydration : Bool)
  | flush (now : Int)
  | timer (now : Int)
  | advance
  | settle (fails : Bool)
  deriving DecidableEq

def NotifierState.flush (s : NotifierState) (now : Int) : NotifierState :=
  if !s.dashboardPending && !s.hydrationPending then { s with timer := none }
  else { s with
    timer := none
    dashboardPending := false
    hydrationPending := false
    flushedAt := s.flushedAt ++ [now]
    queue := s.queue ++ [⟨s.dashboardPending, s.hydrationPending⟩] }

/-- `waitMs`: before the first flush there is no waiting. -/
def waitMs (interval : Nat) (flushedAt : List Int) (now : Int) : Int :=
  match flushedAt.getLast? with
  | none => 0
  | some lastFlushedAt => max 0 (interval - (now - lastFlushedAt))

def NotifierState.request (interval : Nat) (s : NotifierState) (now flushNow : Int) (hydration : Bool) :
    NotifierState :=
  let s := { s with dashboardPending := true, hydrationPending := s.hydrationPending || hydration }
  let wait := waitMs interval s.flushedAt now
  if wait = 0 then s.flush flushNow
  else if s.timer.isNone then { s with timer := some (now + wait) }
  else s

/-- The chain: it begins a write, ends a flush, or begins the next one. -/
def NotifierState.advance (s : NotifierState) : NotifierState :=
  match s.writing, s.running, s.queue with
  | some _, _, _ => s
  | none, some (marker :: rest), _ =>
    { s with writing := some marker, running := some rest, begun := s.begun ++ [marker] }
  | none, some [], _ => { s with running := none }
  | none, none, job :: queue => { s with running := some job.writes, queue := queue }
  | none, none, [] => s

/-- A write ends: where it fails, the rest of its flush is not written. -/
def NotifierState.settle (s : NotifierState) (fails : Bool) : NotifierState :=
  match s.writing with
  | none => s
  | some _ => { s with writing := none, running := if fails then some [] else s.running }

/-- A step. A timer that is not armed does not fire. -/
def Notifier.step (N : Notifier) (s : NotifierState) : NotifierEvent → NotifierState
  | .request now flushNow hydration => s.request N.interval now flushNow hydration
  | .flush now => s.flush now
  | .timer now => if s.timer.isSome then s.flush now else s
  | .advance => s.advance
  | .settle fails => s.settle fails

end FullManagedBi.Webhook
