import FullManagedBi.Lib.Json
import FullManagedBi.Lib.OrderedMap

/-!
# A sequence of pages

`requirePositiveInteger` and `fetchPageSequence` of `src/openapi/paginated-fetch.mjs`. A run gives the pages it asked
for, in their order, and what it returns. No page is asked for twice, so what a server answers is a function of the
page, also where it has a state of its own.
-/

namespace FullManagedBi.OpenApi

open Lib

/-- `requirePositiveInteger`: a value that is not a safe integer is `none`. -/
def requirePositiveInteger (value : Option Int) (name : String) : Except JsError Nat :=
  let refused : JsError := ⟨none, name ++ " must be an integer from 1 to 9007199254740991"⟩
  match value with
  | some n => if n < 1 ∨ maxSafeInteger < n then .error refused else .ok n.toNat
  | none => .error refused

/-- The options of `fetchPageSequence`, for responses of a type and items of a type. `getItems` gives `none` for what
is not an array; `getAdvertisedCount` gives `none` for no count and `some none` for what is not a safe integer. -/
structure PageOptions (ρ α : Type) where
  fetchPage : Nat → Except JsError ρ
  getItems : ρ → Nat → Except JsError (Option (List α))
  getAdvertisedCount : ρ → Nat → Except JsError (Option (Option Int)) := fun _ _ => .ok none
  pageSize : Option Int
  startPage : Option Int := some 1
  maxPages : Option Int := some 10000
  maxItems : Option Int := some 1000000
  fingerprintItem : α → Json

/-- An entry of `pages`. -/
structure PageRecord where
  page : Nat
  pageSize : Nat
  recordCount : Nat
  responseFingerprint : String
  deriving DecidableEq

/-- `terminalReason`. -/
inductive TerminalReason where
  | emptyPage
  | shortPage
  deriving DecidableEq

/-- What `fetchPageSequence` returns. -/
structure PageSequence (α : Type) where
  items : List α
  pages : List PageRecord
  advertisedCount : Option Nat
  terminalPage : Nat
  terminalReason : TerminalReason
  deriving DecidableEq

structure PageState (α : Type) where
  items : List α := []
  pages : List PageRecord := []
  seenPageFingerprints : OrderedMap String Nat := .empty
  advertisedCount : Option Nat := none

def pageText (page : Nat) : String := "page " ++ toString page

variable {ρ α : Type}

def requireItems (value : Option (List α)) (page : Nat) : Except JsError (List α) :=
  match value with
  | some items => .ok items
  | none => .error ⟨some "INVALID_RESPONSE_SHAPE", pageText page ++ " did not return an item array"⟩

def observeCount (advertisedCount : Option Nat) (observedCount : Option (Option Int)) (page : Nat) :
    Except JsError (Option Nat) :=
  let invalid : JsError := ⟨some "INVALID_RESPONSE_SHAPE", pageText page ++ " returned an invalid advertised count"⟩
  match observedCount with
  | none => .ok advertisedCount
  | some none => .error invalid
  | some (some n) =>
    if n < 0 then .error invalid
    else if advertisedCount.isSome ∧ advertisedCount ≠ some n.toNat then
      .error ⟨some "PAGINATION_COUNT_DRIFT", "advertised count changed during pagination"⟩
    else .ok (some n.toNat)

def noteFingerprint (seen : OrderedMap String Nat) (pageItems : List α) (fingerprint : String) (page : Nat) :
    Except JsError (OrderedMap String Nat) :=
  if pageItems.length = 0 then .ok seen
  else match seen.get? fingerprint with
    | some repeatedFrom => .error ⟨some "PAGINATION_REPEATED_PAGE",
        pageText page ++ " repeated the payload from " ++ pageText repeatedFrom⟩
    | none => .ok (seen.set fingerprint page)

/-- What a round comes to: the loop goes on, or returns. -/
inductive Round (α : Type) where
  | next (state : PageState α)
  | done (sequence : PageSequence α)

/-- The end of a round: a full page is followed by another one. -/
def closeRound (pageSize : Nat) (state : PageState α) (page recordCount : Nat) : Except JsError (Round α) :=
  if recordCount < pageSize then
    if ∃ count ∈ state.advertisedCount, state.items.length < count then
      .error ⟨some "PAGINATION_COUNT_MISMATCH",
        "a terminal page arrived before the advertised record count was reached"⟩
    else .ok (.done {
      items := state.items
      pages := state.pages
      advertisedCount := state.advertisedCount
      terminalPage := page
      terminalReason := if recordCount = 0 then .emptyPage else .shortPage })
  else .ok (.next state)

def pageRound (H : Digest) (options : PageOptions ρ α) (pageSize maxItems : Nat) (state : PageState α) (page : Nat) :
    Except JsError (Round α) := do
  let response ← options.fetchPage page
  let pageItems ← requireItems (← options.getItems response page) page
  refuse (pageSize < pageItems.length)
    ⟨some "PAGINATION_PAGE_OVERFLOW", pageText page ++ " returned more than the requested page size"⟩
  let advertisedCount ← observeCount state.advertisedCount (← options.getAdvertisedCount response page) page
  let fingerprint := H.payloadFingerprint (.arr (pageItems.map options.fingerprintItem))
  let seen ← noteFingerprint state.seenPageFingerprints pageItems fingerprint page
  let state : PageState α := {
    items := state.items ++ pageItems
    pages := state.pages ++ [⟨page, pageSize, pageItems.length, fingerprint⟩]
    seenPageFingerprints := seen
    advertisedCount := advertisedCount }
  refuse (maxItems < state.items.length)
    ⟨some "PAGINATION_ITEM_LIMIT", "pagination exceeded the configured item safety limit"⟩
  closeRound pageSize state page pageItems.length

/-- The loop, for a number of rounds: the pages asked for, and what comes of it. -/
def pageLoop (H : Digest) (options : PageOptions ρ α) (pageSize maxItems : Nat) :
    (rounds page : Nat) → PageState α → List Nat × Except JsError (PageSequence α)
  | 0, _, _ => ([], .error ⟨some "PAGINATION_LIMIT", "pagination did not reach a short or empty terminal page"⟩)
  | rounds + 1, page, state =>
    match pageRound H options pageSize maxItems state page with
    | .error e => ([page], .error e)
    | .ok (.done sequence) => ([page], .ok sequence)
    | .ok (.next state) =>
      let (requests, outcome) := pageLoop H options pageSize maxItems rounds (page + 1) state
      (page :: requests, outcome)

/-- The checked numbers of the options: `pageSize`, `startPage`, `maxPages` and `maxItems`. -/
def checkPageOptions (options : PageOptions ρ α) : Except JsError (Nat × Nat × Nat × Nat) := do
  let pageSize ← requirePositiveInteger options.pageSize "pageSize"
  let startPage ← requirePositiveInteger options.startPage "startPage"
  let maxPages ← requirePositiveInteger options.maxPages "maxPages"
  let maxItems ← requirePositiveInteger options.maxItems "maxItems"
  return (pageSize, startPage, maxPages, maxItems)

/-- `fetchPageSequence`: the pages asked for, and what it returns. -/
def fetchPageSequence (H : Digest) (options : PageOptions ρ α) : List Nat × Except JsError (PageSequence α) :=
  match checkPageOptions options with
  | .error e => ([], .error e)
  | .ok (pageSize, startPage, maxPages, maxItems) =>
    pageLoop H options pageSize maxItems maxPages startPage {}

end FullManagedBi.OpenApi
