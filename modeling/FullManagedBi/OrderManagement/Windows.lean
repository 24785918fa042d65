import FullManagedBi.Lib.Calendar
import FullManagedBi.Lib.Js

/-!
# The windows of a range of dates

Three loops of the source cut an inclusive range of dates into windows: `expectedWindows` of the snapshot
merge (`src/warehouse/order-management-snapshot-merge.mjs`), `buildBackfillWindows` of the session
backfill (`scripts/backfill_full_managed_order_management_sessions.mjs`) and `historyWindows` of the home
contracts (`src/webapi-history/home-contracts.mjs`).
-/

namespace FullManagedBi.OrderManagement

open Lib

/-- `Math.round(Date.parse(value + 'T00:00:00.000Z') / DAY_MS)`, where it is finite. Only what it is for a
calendar date is known. -/
structure DateBuiltins where
  epochDays : String → Option Int
  epochDays_iso : ∀ {text day}, parseIsoDate text = some day → epochDays text = some day

/-- A window of dates, both ends included. -/
structure DateWindow where
  startDate : String
  endDate : String
  deriving DecidableEq

/-- `{ startDate, endDate, maximumDays }`. -/
structure WindowRequest where
  startDate : String
  endDate : String
  maximumDays : Int

/-- The window from one day to another. -/
def windowOfDays (first last : Int) : DateWindow := ⟨toIsoDate first, toIsoDate last⟩

/-- The loop of `expectedWindows` and `buildBackfillWindows`, where it ends within `rounds` rounds. -/
def cutForwards (maximumDays last : Int) : (rounds : Nat) → (cursor : Int) → Option (List DateWindow)
  | rounds, cursor =>
    if cursor ≤ last then
      match rounds with
      | 0 => none
      | rounds + 1 =>
        let candidateEnd := min (cursor + maximumDays - 1) last
        (cutForwards maximumDays last rounds (candidateEnd + 1)).map
          (windowOfDays cursor candidateEnd :: ·)
    else some []

def expectedWindows (D : DateBuiltins) (rounds : Nat) (request : WindowRequest) :
    Except JsError (Option (List DateWindow)) :=
  if request.maximumDays < 1 ∨ 30 < request.maximumDays then
    .error { message := "ORDER_MANAGEMENT_MERGE_WINDOW_MAX_INVALID" }
  else match D.epochDays request.startDate, D.epochDays request.endDate with
    | some first, some last =>
      if last < first then .error { message := "ORDER_MANAGEMENT_MERGE_RANGE_INVALID" }
      else .ok (cutForwards request.maximumDays last rounds first)
    | _, _ => .error { message := "ORDER_MANAGEMENT_MERGE_RANGE_INVALID" }

/-- `ORDER_MANAGEMENT_WINDOW_MAX_DAYS`. -/
def orderManagementWindowMaxDays : Int := 30

def parseStrictIsoDate (value : String) : Option String :=
  let text := jsTrim value
  if (parseIsoDate text).isSome then some text else none

def buildBackfillWindows (D : DateBuiltins) (rounds : Nat) (request : WindowRequest) :
    Except JsError (Option (List DateWindow)) :=
  if request.maximumDays < 1 ∨ orderManagementWindowMaxDays < request.maximumDays then
    .error { message := "ORDER_MANAGEMENT_BACKFILL_WINDOW_MAX_INVALID" }
  else match parseStrictIsoDate request.startDate, parseStrictIsoDate request.endDate with
    | some start, some end_ =>
      match D.epochDays start, D.epochDays end_ with
      | some first, some last =>
        if last < first then .error { message := "ORDER_MANAGEMENT_BACKFILL_RANGE_INVALID" }
        else .ok (cutForwards request.maximumDays last rounds first)
      -- A comparison with NaN is false, so neither the check nor the loop applies.
      | _, _ => .ok (some [])
    | _, _ => .error { message := "ORDER_MANAGEMENT_BACKFILL_DATE_INVALID" }

/-- `isoDate` of the home contracts. -/
def isoDate (value location : String) : Except JsError String :=
  let normalized := jsTrim value
  if (parseIsoDate normalized).isSome then .ok normalized
  else .error ⟨some "HOME_DATE_INVALID", location ++ " is invalid"⟩

/-- The loop of `historyWindows`, where it ends within `rounds` rounds. The next window starts the day
after the date read back from the text of this one's end. -/
def historyLoop (D : DateBuiltins) (maximumDays last : Int) :
    (rounds : Nat) → (cursor : Int) → Option (List DateWindow)
  | rounds, cursor =>
    if cursor ≤ last then
      match rounds with
      | 0 => none
      | rounds + 1 =>
        let windowEnd := toIsoDate (min (cursor + maximumDays - 1) last)
        let window : DateWindow := ⟨toIsoDate cursor, windowEnd⟩
        match D.epochDays windowEnd with
        | some day => (historyLoop D maximumDays last rounds (day + 1)).map (window :: ·)
        -- No comparison with an invalid date holds.
        | none => some [window]
    else some []

def historyWindows (D : DateBuiltins) (rounds : Nat) (request : WindowRequest) :
    Except JsError (Option (List DateWindow)) := do
  let start ← isoDate request.startDate "startDate"
  let end_ ← isoDate request.endDate "endDate"
  -- The texts are digits and hyphens, whose code units are their code points.
  if end_ < start then
    throw ⟨some "HOME_DATE_RANGE_INVALID", "startDate is after endDate"⟩
  if request.maximumDays < 1 ∨ 90 < request.maximumDays then
    throw ⟨some "HOME_WINDOW_INVALID", "maximumDays must be between 1 and 90"⟩
  match D.epochDays start, D.epochDays end_ with
  | some first, some last => return historyLoop D request.maximumDays last rounds first
  | _, _ => return some []

end FullManagedBi.OrderManagement
