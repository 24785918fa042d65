import FullManagedBi.Authorization.ReceiptReview
import FullManagedBi.Laws.AuthorizationStore

/-!
# A review decision is a transaction

A review ends with the store reviewed and its receipt gone, with an error that says that not everything
could be undone, or with another error and everything as it was (`Decided`):

- **`reviewDecision_transaction`** — this holds exactly where no step takes effect and is reported as
  failed outside the reach of what undoes it (`FinalizationSlips`, `RejectionSlips`);
- `lostRejection_undecided` — a rejection that is written and then reported as failed stays, while the
  receipt is put back.

Every step is a round trip: done, done and reported as failed, or not done (`Took`). The law follows the
program from step to step with what each leaves behind.
-/

namespace FullManagedBi.Authorization

open Lib

/-! ## The state file -/

section StateFile

variable {s : StateFile} {batchId storeCode : String} {f g : BatchStore → BatchStore} {store : BatchStore}

theorem toNat_lt_of_storeCode {c : Char}
    (kind : (c.isUpper || c.isDigit || c == '_' || c == '-') = true) : c.toNat < 97 := by
  simp only [Bool.or_eq_true, beq_iff_eq, Char.isUpper, Char.isDigit, Bool.and_eq_true,
    decide_eq_true_eq, UInt32.le_iff_toNat_le] at kind
  rcases kind with ((upper | digit) | rfl) | rfl
  · exact Nat.lt_of_le_of_lt upper.2 (by decide)
  · exact Nat.lt_of_le_of_lt digit.2 (by decide)
  · decide
  · decide

theorem toUpper_of_lt {c : Char} (low : c.toNat < 97) : c.toUpper = c := by
  unfold Char.toUpper
  refine dif_neg fun lower => ?_
  have least : 97 ≤ c.toNat := UInt32.le_iff_toNat_le.mp lower.1
  omega

theorem toUpperCase_storeCode (js : TextBuiltins) (valid : isStoreCode storeCode = true) :
    js.toUpperCase storeCode = storeCode := by
  simp only [isStoreCode, Bool.and_eq_true, List.all_eq_true] at valid
  have low : ∀ c ∈ storeCode.toList, c.toNat < 97 := fun c mem =>
    toNat_lt_of_storeCode (valid.2 c mem)
  rw [js.toUpperCase_ascii]
  · unfold asciiUpper
    rw [List.map_congr_left fun c mem => toUpper_of_lt (low c mem), List.map_id', String.ofList_toList]
  · rw [List.all_eq_true]
    exact fun c mem => decide_eq_true ((low c mem).trans (by decide))

theorem updateStore_updateStore (same : ∀ store, (f store).storeCode = store.storeCode) :
    (s.updateStore batchId storeCode f).updateStore batchId storeCode g = s.updateStore batchId storeCode (g ∘ f) := by
  let update (f : BatchStore → BatchStore) (batch : Batch) := batch.updateStore storeCode f
  have each : update g ∘ update f = update (g ∘ f) := by
    funext batch
    refine congrArg (fun stores => ({ batch with stores } : Batch)) (updateFirst_updateFirst ?_)
    intro store code
    rw [same]
    exact code
  refine congrArg (fun batches => ({ s with batches } : StateFile)) ?_
  change updateFirst _ (update g) (updateFirst _ (update f) _) = updateFirst _ (update (g ∘ f)) _
  rw [← each]
  exact updateFirst_updateFirst fun batch id => id

theorem updateStore_of_fixed (found : s.storeOf batchId storeCode = some store) (fixed : f store = store) :
    s.updateStore batchId storeCode f = s := by
  unfold StateFile.updateStore StateFile.updateBatch
  rw [updateFirst_of_fixed]
  intro batch inFile
  unfold Batch.updateStore
  rw [updateFirst_of_fixed]
  intro other member
  have stored : s.storeOf batchId storeCode = some other := by
    unfold StateFile.storeOf StateFile.batchOf findStore
    rw [inFile, Option.bind_some, member]
  obtain rfl := Option.mem_unique stored found
  exact fixed

theorem exists_batch_of_storeOf (found : s.storeOf batchId storeCode = some store) :
    ∃ batch, s.batchOf batchId = some batch ∧ findStore batch storeCode = some store :=
  Option.bind_eq_some_iff.mp found

theorem approveStoreIn_ok {r : ReviewRequest} (found : s.storeOf r.batchId storeCode = some store)
    (awaits : store.status = .reviewRequired) (supplier : textOf store.supplierId = r.supplierId) :
    ∃ shown, approveStoreIn r storeCode s = .ok (shown, s.updateStore r.batchId storeCode (approve r.reviewedAt)) := by
  obtain ⟨batch, inFile, member⟩ := exists_batch_of_storeOf found
  refine ⟨publicBatch (batch.updateStore storeCode (approve r.reviewedAt)) r.reviewedAt, ?_⟩
  unfold approveStoreIn
  rw [inFile]
  simp only [member, awaits, supplier, ne_eq, not_true_eq_false, if_false, reviewed, batchOf_id inFile]

theorem rollbackStoreApprovalIn_ok (r : RollbackRequest) (store : BatchStore)
    (found : s.storeOf r.batchId storeCode = some store) (shape : rollbackMatches r store = true) :
    ∃ shown, rollbackStoreApprovalIn r storeCode s =
      .ok (shown, s.updateStore r.batchId storeCode (rollBack (basename r.receiptFile))) := by
  obtain ⟨batch, inFile, member⟩ := exists_batch_of_storeOf found
  refine ⟨publicBatch (batch.updateStore storeCode (rollBack (basename r.receiptFile)))
    r.reviewedAt, ?_⟩
  unfold rollbackStoreApprovalIn
  rw [inFile]
  simp only [member, shape, Bool.not_true, Bool.false_eq_true, if_false, reviewed, batchOf_id inFile]

structure Rejectable (s : StateFile) (r : ReviewRequest) (storeCode : String) (batch : Batch)
    (store : BatchStore) : Prop where
  onlyBatch : s.batches.filter (fun batch => decide (batch.batchId = r.batchId)) = [batch]
  onlyStore : batch.stores.filter (fun store => decide (store.storeCode = storeCode)) = [store]
  awaits : store.status = .reviewRequired
  supplier : textOf store.supplierId = r.supplierId

theorem storeOf_of_filter {batch : Batch}
    (inFile : s.batches.filter (fun batch => decide (batch.batchId = batchId)) = [batch])
    (member : batch.stores.filter (fun store => decide (store.storeCode = storeCode)) = [store]) :
    s.storeOf batchId storeCode = some store := by
  unfold StateFile.storeOf StateFile.batchOf findStore
  rw [find?_of_filter_eq_singleton inFile, Option.bind_some, find?_of_filter_eq_singleton member]

theorem rejectedBatch_id (batch : Batch) (now : Instant) :
    (rejectedBatch s batch storeCode now).batchId = batch.batchId := by
  unfold rejectedBatch
  simp only
  split <;> rfl

namespace Rejectable

variable {r : ReviewRequest} {batch : Batch}

theorem found (h : Rejectable s r storeCode batch store) :
    s.storeOf r.batchId storeCode = some store := storeOf_of_filter h.onlyBatch h.onlyStore

theorem rejected (h : Rejectable s r storeCode batch store) :
    ((s.updateBatch r.batchId fun _ => rejectedBatch s batch storeCode r.reviewedAt).batches.filter
        fun batch => decide (batch.batchId = r.batchId)) = [rejectedBatch s batch storeCode r.reviewedAt] ∧
    ((rejectedBatch s batch storeCode r.reviewedAt).stores.filter
        fun store => decide (store.storeCode = storeCode)) = [reject r.reviewedAt store] := by
  have inFile := find?_of_filter_eq_singleton h.onlyBatch
  have id : batch.batchId = r.batchId := batchOf_id inFile
  have code : store.storeCode = storeCode := findStore_code (find?_of_filter_eq_singleton h.onlyStore)
  constructor
  · exact filter_updateFirst_self h.onlyBatch (decide_eq_true ((rejectedBatch_id batch _).trans id))
  · rw [rejectedBatch_stores]
    exact filter_updateFirst_self h.onlyStore (decide_eq_true code)

theorem ok (h : Rejectable s r storeCode batch store) : ∃ shown, rejectStoreIn r storeCode s =
    .ok (shown, s.updateBatch r.batchId fun _ => rejectedBatch s batch storeCode r.reviewedAt) := by
  refine ⟨publicBatch (rejectedBatch s batch storeCode r.reviewedAt) r.reviewedAt, ?_⟩
  unfold rejectStoreIn
  rw [h.onlyBatch]
  simp only [h.onlyStore, h.awaits, h.supplier, ne_eq, not_true_eq_false, if_false]

end Rejectable

end StateFile

end FullManagedBi.Authorization

namespace FullManagedBi.Authorization.Review

open Lib

/-! ## How a step went -/

def quiet : RoundTrip JsError → RoundTrip Unit
  | .done => .done
  | .lost _ => .lost ()
  | .failed _ => .failed ()

def settled : Except JsError Unit → RoundTrip Unit
  | .ok _ => .done
  | .error _ => .failed ()

/-- One step and, where it is done, another that changes nothing. -/
def checked (fails : Bool) : RoundTrip Unit → RoundTrip Unit
  | .done => if fails then .lost () else .done
  | trip => trip

/-- A check that changes nothing, and a step after it. -/
def guarded (fails : Bool) (trip : RoundTrip Unit) : RoundTrip Unit :=
  if fails then .failed () else trip

def MoveFaults.isolation (faults : MoveFaults) (taken : Bool) : RoundTrip Unit :=
  guarded (faults.inspectFails || taken) (checked faults.verifyFails (quiet faults.rename))

def MoveFaults.restoration (faults : MoveFaults) : RoundTrip Unit :=
  guarded (faults.inspectFails || faults.verifyFails) (quiet faults.rename)

def DisposalFaults.disposal (faults : DisposalFaults) : RoundTrip Unit :=
  guarded faults.verifyFails (quiet faults.unlink)

def Coded (codes : List String) (e : JsError) : Prop := e.code ∈ codes.map some

/-- A step that goes as a round trip does: it changes the files where it is done, and throws such an
error where it does not return. -/
def Took {α : Type} (E : JsError → Prop) (trip : RoundTrip Unit) (change : ReviewSite → ReviewSite)
    (s : ReviewSite) (r : Except JsError α) (s' : ReviewSite) : Prop :=
  match trip with
  | .done => (∃ a, r = .ok a) ∧ s' = change s
  | .lost _ => (∃ e, r = .error e ∧ E e) ∧ s' = change s
  | .failed _ => (∃ e, r = .error e ∧ E e) ∧ s' = s

section Steps

variable {s : ReviewSite} {name isolated : String} {node : ReceiptNode} {codes : MoveCodes}

variable {fails : Bool} {R : Except JsError Unit → ReviewSite → Prop}

theorem ends_requireAbsent {collision uninspected : JsError} :
    Ends (requireAbsent fails name collision uninspected) s R ↔ R (if fails then .error uninspected
        else if (s.receipts name).isSome then .error collision else .ok ()) s := by
  unfold requireAbsent lstatReceipt
  rw [ends_bind, ends_observing]
  cases fails with
  | true => exact Iff.rfl
  | false =>
    simp only [Bool.false_eq_true, if_false]
    rw [ends_bind, ends_get, post_ok]
    cases s.receipts name <;> exact Iff.rfl

theorem ends_requireSameFile {code : String} : Ends (requireSameFile fails name node code) s R ↔
      R (if fails then .error (failed code "private file is unavailable") else match s.receipts name with
          | none => .error (failed code "private file is unavailable")
          | some found =>
            if found.ino = node.ino then .ok () else .error (failed code "receipt identity changed")) s := by
  unfold requireSameFile lstatReceipt
  rw [ends_bind, ends_observing]
  cases fails with
  | true => exact Iff.rfl
  | false =>
    simp only [Bool.false_eq_true, if_false]
    rw [ends_bind, ends_get, post_ok]
    cases s.receipts name with
    | none => exact Iff.rfl
    | some found =>
      simp only
      rw [ends_pure, post_ok]
      by_cases same : found.ino = node.ino
      · simp only [if_pos same]
        exact Iff.rfl
      · simp only [if_neg same]
        exact Iff.rfl

variable {trip : RoundTrip JsError} {change : ReviewSite → ReviewSite}

theorem changeReceipts_took {code message : String} : Ends (changeReceipts trip change (failed code message)) s
      (Took (Coded [code]) (quiet trip) change s) := by
  unfold changeReceipts
  rw [ends_bind, ends_observing]
  cases trip with
  | done => exact ⟨⟨(), rfl⟩, rfl⟩
  | lost e => exact ⟨⟨_, rfl, List.mem_singleton_self _⟩, rfl⟩
  | failed e => exact ⟨⟨_, rfl, List.mem_singleton_self _⟩, rfl⟩

theorem Took.cases {α : Type} {E : JsError → Prop} {trip : RoundTrip Unit} {s' : ReviewSite} {r : Except JsError α}
    (took : Took E trip change s r s') : (trip = .failed () ∧ (∃ e, r = .error e ∧ E e) ∧ s' = s) ∨
      (trip = .lost () ∧ (∃ e, r = .error e ∧ E e) ∧ s' = change s) ∨
        (trip = .done ∧ (∃ a, r = .ok a) ∧ s' = change s) := by
  cases trip with
  | failed => exact .inl ⟨rfl, took⟩
  | lost => exact .inr (.inl ⟨rfl, took⟩)
  | done => exact .inr (.inr ⟨rfl, took⟩)

theorem Took.mono {α : Type} {E E' : JsError → Prop} {trip : RoundTrip Unit} {s' : ReviewSite}
    {r : Except JsError α} (took : Took E trip change s r s') (imp : ∀ e, E e → E' e) : Took E' trip change s r s' := by
  cases trip with
  | done => exact took
  | lost e => exact ⟨took.1.imp fun e h => ⟨h.1, imp e h.2⟩, took.2⟩
  | failed e => exact ⟨took.1.imp fun e h => ⟨h.1, imp e h.2⟩, took.2⟩

theorem Coded.of_subset {codes codes' : List String} (subset : codes ⊆ codes') (e : JsError)
    (coded : Coded codes e) : Coded codes' e := List.map_subset some subset coded

def MoveCodes.all (codes : MoveCodes) : List String :=
  [codes.collision, codes.uninspected, codes.unrenamed, codes.changed]

theorem Took.guarded {α : Type} {E : JsError → Prop} {trip : RoundTrip Unit}
    {check : ReviewAction Unit} {rest : ReviewAction α} (throws : fails = true → Ends check s fun r s' =>
      ∃ e, r = .error e ∧ E e ∧ s' = s) (passes : fails = false → Ends check s fun r s' => r = .ok () ∧ s' = s)
    (took : fails = false → Ends rest s (Took E trip change s)) :
    Ends (check >>= fun _ => rest) s (Took E (guarded fails trip) change s) := by
  rw [ends_bind]
  cases fails with
  | true =>
    refine (throws rfl).mono ?_
    rintro r s' ⟨e, rfl, code, rfl⟩
    exact ⟨⟨e, rfl, code⟩, rfl⟩
  | false =>
    refine (passes rfl).mono ?_
    rintro r s' ⟨rfl, rfl⟩
    exact took rfl

theorem Took.checked {E : JsError → Prop} {trip : RoundTrip Unit} {step check : ReviewAction Unit}
    (took : Ends step s (Took E trip change s)) (throws : fails = true → Ends check (change s) fun r s' =>
      ∃ e, r = .error e ∧ E e ∧ s' = change s)
    (passes : fails = false → Ends check (change s) fun r s' => r = .ok () ∧ s' = change s) :
    Ends (step >>= fun _ => check) s (Took E (checked fails trip) change s) := by
  rw [ends_bind]
  refine took.mono fun r s' took => ?_
  obtain ⟨rfl, ⟨e, rfl, code⟩, rfl⟩ | ⟨rfl, ⟨e, rfl, code⟩, rfl⟩ | ⟨rfl, ⟨_, rfl⟩, rfl⟩ := took.cases
  · exact ⟨⟨e, rfl, code⟩, rfl⟩
  · exact ⟨⟨e, rfl, code⟩, rfl⟩
  · rw [post_ok]
    cases fails with
    | true =>
      refine (throws rfl).mono ?_
      rintro r s' ⟨e, rfl, code, rfl⟩
      exact ⟨⟨e, rfl, code⟩, rfl⟩
    | false =>
      refine (passes rfl).mono ?_
      rintro r s' ⟨rfl, rfl⟩
      exact ⟨⟨(), rfl⟩, rfl⟩

theorem move_target (there : s.receipts name = some node) : (s.move name isolated).receipts isolated = some node := by
  change Function.update _ isolated _ isolated = _
  rw [Function.update_self, there]

variable {faults : MoveFaults}

theorem isolateReceipt_took (there : s.receipts name = some node) :
    Ends (isolateReceipt codes faults name isolated node) s
      (Took (Coded codes.all) (faults.isolation (s.receipts isolated).isSome) (·.move name isolated) s) := by
  refine Took.guarded (fun throws => ?_) (fun passes => ?_) fun _ => Took.checked ?_ ?_ ?_
  · refine ends_requireAbsent.mpr ?_
    cases inspect : faults.inspectFails with
    | true => exact ⟨_, rfl, by simp [Coded, failed, MoveCodes.all], rfl⟩
    | false =>
      rw [inspect, Bool.false_or] at throws
      rw [throws]
      exact ⟨_, rfl, by simp [Coded, failed, MoveCodes.all], rfl⟩
  · rw [Bool.or_eq_false_iff] at passes
    refine ends_requireAbsent.mpr ?_
    rw [passes.1, passes.2]
    exact ⟨rfl, rfl⟩
  · exact changeReceipts_took.mono fun r s' took => took.mono (Coded.of_subset (by simp [MoveCodes.all]))
  · intro throws
    refine ends_requireSameFile.mpr ?_
    rw [throws]
    exact ⟨_, rfl, by simp [Coded, failed, MoveCodes.all], rfl⟩
  · intro passes
    refine ends_requireSameFile.mpr ?_
    rw [passes, move_target there]
    simp only [Bool.false_eq_true, if_false, if_true, and_self]

theorem restoreReceipt_took (there : s.receipts isolated = some node) (free : s.receipts name = none) :
    Ends (restoreReceipt codes faults isolated name node) s
      (Took (Coded codes.all) faults.restoration (·.move isolated name) s) := by
  have split : faults.restoration =
      Review.guarded faults.inspectFails (Review.guarded faults.verifyFails (quiet faults.rename)) := by
    unfold MoveFaults.restoration Review.guarded
    cases faults.inspectFails <;> rfl
  rw [split]
  refine Took.guarded (fun throws => ?_) (fun passes => ?_) fun _ =>
    Took.guarded (fun throws => ?_) (fun passes => ?_) fun _ => ?_
  · refine ends_requireAbsent.mpr ?_
    rw [throws]
    exact ⟨_, rfl, by simp [Coded, failed, MoveCodes.all], rfl⟩
  · refine ends_requireAbsent.mpr ?_
    rw [passes, free]
    exact ⟨rfl, rfl⟩
  · refine ends_requireSameFile.mpr ?_
    rw [throws]
    exact ⟨_, rfl, by simp [Coded, failed, MoveCodes.all], rfl⟩
  · refine ends_requireSameFile.mpr ?_
    rw [passes, there]
    simp only [Bool.false_eq_true, if_false, if_true, and_self]
  · exact changeReceipts_took.mono fun r s' took => took.mono (Coded.of_subset (by simp [MoveCodes.all]))

theorem restoreReceipt_gone (gone : s.receipts isolated = none) :
    Ends (restoreReceipt codes faults isolated name node) s fun r s' => (∃ e, r = .error e) ∧ s' = s := by
  unfold restoreReceipt
  rw [ends_bind, ends_requireAbsent]
  split
  · exact ⟨⟨_, rfl⟩, rfl⟩
  · split
    · exact ⟨⟨_, rfl⟩, rfl⟩
    · rw [post_ok, ends_bind, ends_requireSameFile, gone]
      split <;> exact ⟨⟨_, rfl⟩, rfl⟩

theorem deleteIsolatedReceipt_took {faults : DisposalFaults} (there : s.receipts isolated = some node) :
    Ends (deleteIsolatedReceipt faults isolated node) s
      (Took (Coded ["RECEIPT_DISPOSAL_FAILED"]) faults.disposal (·.remove isolated) s) := by
  refine Took.guarded (fun throws => ?_) (fun passes => ?_) fun _ => changeReceipts_took
  · refine ends_requireSameFile.mpr ?_
    rw [throws]
    exact ⟨_, rfl, List.mem_singleton_self _, rfl⟩
  · refine ends_requireSameFile.mpr ?_
    rw [passes, there]
    simp only [Bool.false_eq_true, if_false, if_true, and_self]

theorem createBackup_took {outcome : Except JsError Unit} : Ends (createBackup outcome) s
      (Took (fun _ => True) (settled outcome) (fun s => { s with backup := some s.config }) s) := by
  cases outcome with
  | ok _ => exact ⟨⟨(), rfl⟩, rfl⟩
  | error e => exact ⟨⟨_, rfl, trivial⟩, rfl⟩

theorem atomicWrite_took {contents : String} : Ends (atomicWrite trip contents) s
      (Took (fun _ => True) (quiet trip) (fun s => { s with config := contents }) s) := by
  unfold atomicWrite
  rw [ends_bind, ends_observing]
  cases trip with
  | done => exact ⟨⟨(), rfl⟩, rfl⟩
  | lost e => exact ⟨⟨_, rfl, trivial⟩, rfl⟩
  | failed e => exact ⟨⟨_, rfl, trivial⟩, rfl⟩

theorem restoreBackup_took {read : Except JsError Unit} {contents : String} (backup : s.backup = some contents) :
    Ends (restoreBackup read trip) s (Took (fun _ => True) (guarded (!(settled read matches .done)) (quiet trip))
        (fun s => { s with config := contents }) s) := by
  unfold restoreBackup
  rw [ends_bind, ends_ofExcept]
  cases read with
  | error e => exact ⟨⟨e, rfl, trivial⟩, rfl⟩
  | ok _ =>
    rw [post_ok, ends_bind, ends_get, post_ok, backup]
    exact atomicWrite_took

theorem ends_onState {α : Type} {update : Action StateFile JsError α} {R : Except JsError α → ReviewSite → Prop} :
    Ends (onState update) s R ↔ Ends update s.state fun r state => R r { s with state } := by
  unfold onState
  rw [ends_bind, ends_get, post_ok]
  unfold Ends
  rcases update.outcome s.state with ⟨_ | _, state⟩ <;> exact Iff.rfl

theorem onState_took {β : Type} {operation : Operation β} {shown : β} {state : StateFile}
    (accepts : operation s.state = .ok (shown, state)) : Ends (onState (mutate trip operation)) s
      (Took (fun _ => True) (quiet trip) (fun s => { s with state }) s) := by
  rw [ends_onState]
  unfold mutate
  rw [ends_bind, ends_get, post_ok, accepts]
  cases trip with
  | done => exact ⟨⟨shown, rfl⟩, rfl⟩
  | lost e => exact ⟨⟨e, rfl, trivial⟩, rfl⟩
  | failed e => exact ⟨⟨e, rfl, trivial⟩, rfl⟩

end Steps

/-! ## What a review decision promises -/

structure HoldsCredentials (storeCode : String) (receipt store : Json) : Prop where
  storeCode : fieldIs store "storeCode" storeCode = true
  appId : store.field? "appId" = receipt.field? "appId"
  openKeyId : store.field? "openKeyId" = receipt.field? "openKeyId"
  secretKey : store.field? "secretKey" = receipt.field? "secretKey"

/-- A configuration, after one store took the credentials of a receipt: there is one store with the code,
and everything else is as it was. -/
structure TakesCredentials (storeCode : String) (receipt before after : Json) : Prop where
  stores : ∃ old new, before.field? "stores" = some (.arr old) ∧ after.field? "stores" = some (.arr new) ∧
    (old.filter fun store => fieldIs store "storeCode" storeCode).length = 1 ∧
    List.Forall₂ (fun store store' =>
      if fieldIs store "storeCode" storeCode then HoldsCredentials storeCode receipt store'
      else store' = store) old new
  others : ∀ key, key ≠ "stores" → after.field? key = before.field? key

/-- A store that awaited review was reviewed, and its receipt is gone. -/
def Reviewed (storeCode : String) (review : BatchStore → BatchStore) (s s' : ReviewSite)
    (receipt : ReceiptNode) : Prop :=
  ∃ batchId store name, s.state.storeOf batchId storeCode = some store ∧
    store.status = .reviewRequired ∧ store.receiptFile = some name ∧ s.receipts name = some receipt ∧
    s'.state.storeOf batchId storeCode = some (review store) ∧
    s'.receipts = Function.update s.receipts name none

/-- A finalization succeeded: the store is approved, and its entry in the configuration holds the
credentials of the receipt. -/
def Finalized (R : ReviewSettings) (args : FinalizationArguments) (s s' : ReviewSite) : Prop :=
  ∃ receipt, Reviewed args.storeCode (approve args.now) s s' receipt ∧
    ∃ config updated, R.parse s.config = some config ∧ s'.config = R.stringify updated ∧
      TakesCredentials args.storeCode receipt.content config updated

def Rejected (args : RejectionArguments) (s s' : ReviewSite) : Prop :=
  s'.config = s.config ∧ ∃ receipt, Reviewed args.storeCode (reject args.now) s s' receipt

/-- The configuration, the review records of the store and the receipts are as before. -/
structure Unchanged (storeCode : String) (s s' : ReviewSite) : Prop where
  config : s'.config = s.config
  store : ∀ batchId, s'.state.storeOf batchId storeCode = s.state.storeOf batchId storeCode
  receipts : ∀ name receipt, s.receipts name = some receipt → s'.receipts name = some receipt

/-- The errors that say that something was left behind. -/
def rollbackFailures : List String :=
  ["FINALIZATION_ROLLBACK_FAILED", "REJECTION_FAILED_ROLLBACK_FAILED", "RECEIPT_DISPOSAL_FAILED"]

/-- A review succeeded, or says that it left something behind, or left everything as it was. -/
def Decided (succeeds : ReviewSite → Prop) (storeCode : String) (s : ReviewSite)
    (r : Except JsError PublicBatch) (s' : ReviewSite) : Prop :=
  match r with
  | .ok _ => succeeds s'
  | .error e => Coded rollbackFailures e ∨ Unchanged storeCode s s'

/-! ## What takes effect and is not undone -/

/-- The steps that undo a finalization are all done: the configuration is written back where
`configWritten` is set, and the receipt is renamed back. -/
def FinalizationFaults.undone (faults : FinalizationFaults) (configWritten : Bool) : Prop :=
  (configWritten = true → settled faults.readBackup = .done ∧ quiet faults.rewrite = .done) ∧
    faults.restoration.restoration = .done

/-- A finalization that isolates a receipt leaves something behind without saying so. -/
inductive FinalizationStrays (R : ReviewSettings) (faults : FinalizationFaults) (s : ReviewSite)
    (p : Prepared) (isolated : String) : Prop
  | isolation
      (lost : faults.isolation.isolation (s.receipts isolated).isSome = .lost ())
  | write
      (isolation : faults.isolation.isolation (s.receipts isolated).isSome = .done)
      (backup : settled faults.backup = .done) (lost : quiet faults.write = .lost ())
      (other : R.stringify p.updated ≠ s.config) (undone : faults.undone false)
  | approval
      (isolation : faults.isolation.isolation (s.receipts isolated).isSome = .done)
      (backup : settled faults.backup = .done) (write : quiet faults.write = .done)
      (lost : quiet faults.approve = .lost ()) (undone : faults.undone true)
  | disposal
      (isolation : faults.isolation.isolation (s.receipts isolated).isSome = .done)
      (backup : settled faults.backup = .done) (write : quiet faults.write = .done)
      (approval : quiet faults.approve = .done) (failed : faults.disposal.disposal = .failed ())
      (rollback : quiet faults.rollback = .done) (undone : faults.undone true)
      (reviewed : p.store.reviewedAt ≠ none)
  | release
      (isolation : faults.isolation.isolation (s.receipts isolated).isSome = .done)
      (backup : settled faults.backup = .done) (write : quiet faults.write = .done)
      (approval : quiet faults.approve = .done) (disposal : faults.disposal.disposal = .done)
      (kept : faults.releaseLock ≠ none)

/-- A finalization leaves something behind without saying so: it gets its lock, finds everything in
order, and one of its steps strays. -/
def FinalizationSlips (R : ReviewSettings) (faults : FinalizationFaults) (args : FinalizationArguments)
    (s : ReviewSite) : Prop :=
  ∃ p, settled faults.acquireLock = .done ∧ prepareFinalization R faults args s = .ok p ∧
    FinalizationStrays R faults s p (finalizingName R args.bytes p.receiptFile)

/-- A rejection that isolates a receipt leaves something behind without saying so. -/
inductive RejectionStrays (faults : RejectionFaults) (s : ReviewSite) (quarantine : String) : Prop
  | isolation
      (lost : faults.isolation.isolation (s.receipts quarantine).isSome = .lost ())
  | rejection
      (isolation : faults.isolation.isolation (s.receipts quarantine).isSome = .done)
      (lost : quiet faults.reject = .lost ()) (undone : faults.restoration.restoration = .done)
  | audit
      (isolation : faults.isolation.isolation (s.receipts quarantine).isSome = .done)
      (rejection : quiet faults.reject = .done) (unread : settled faults.readAudit = .failed ())
      (undone : faults.restoration.restoration = .done)

/-- A rejection leaves something behind without saying so. -/
def RejectionSlips (R : ReviewSettings) (faults : RejectionFaults) (args : RejectionArguments)
    (s : ReviewSite) : Prop :=
  ∃ store receiptFile node, prepareRejection faults args s = .ok (store, receiptFile, node) ∧
    RejectionStrays faults s (quarantineName R.pid args.bytes receiptFile)

/-! ## What is checked before anything changes -/

section Preparation

variable {R : ReviewSettings} {s : ReviewSite}

theorem require_ok {α : Type} {value : Option α} {error : JsError} {a : α}
    (h : require value error = .ok a) : value = some a := by
  cases value with
  | none => exact nomatch h
  | some b => rw [Except.ok.inj h]

/-- What is known of a store that has a receipt. -/
structure HasReceipt (supplierId : String) (store : BatchStore) : Prop where
  awaits : store.status = .reviewRequired
  supplier : textOf store.supplierId = supplierId
  file : ∃ name, store.receiptFile = some name ∧ basename name = name ∧ name ≠ ""
  fingerprint : ∃ hash, store.credentialFingerprint = some hash

variable {store : BatchStore}

theorem hasReceipt_iff {supplierId : String} (h : hasReceipt supplierId store = true) :
    HasReceipt supplierId store := by
  simp only [hasReceipt, Bool.and_eq_true, decide_eq_true_eq, Option.any_eq_true] at h
  obtain ⟨⟨⟨awaits, supplier⟩, name, file, shape, base⟩, hash, fingerprint, -⟩ := h
  refine ⟨awaits, supplier, ⟨name, file, base, ?_⟩, hash, fingerprint⟩
  rintro rfl
  simp [isReceiptFile] at shape

/-- What a finalization that finds everything in order has found. -/
structure Ready (R : ReviewSettings) (args : FinalizationArguments) (s : ReviewSite) (p : Prepared) :
    Prop where
  found : s.state.storeOf p.batchId args.storeCode = some p.store
  receipt : HasReceipt args.supplierId p.store
  file : p.store.receiptFile = some p.receiptFile
  there : s.receipts p.receiptFile = some p.node
  config : R.parse s.config = some p.config
  updated : updateOpenApiConfiguration R p.config args.storeCode args.supplierId p.credentials =
    .ok p.updated
  appId : p.node.content.field? "appId" = some (.str p.credentials.appId)
  openKeyId : p.node.content.field? "openKeyId" = some (.str p.credentials.openKeyId)
  secretKey : p.node.content.field? "secretKey" = some (.str p.credentials.secretKey)

theorem selectForFinalization_ok {state : StateFile} {storeCode supplierId batchId : String}
    (h : selectForFinalization state storeCode supplierId = .ok (batchId, store)) :
    state.storeOf batchId storeCode = some store ∧ hasReceipt supplierId store = true := by
  unfold selectForFinalization at h
  split at h
  · split at h
    · rename_i found
      split at h
      · rename_i shape
        obtain ⟨rfl, rfl⟩ := Prod.mk.inj (Except.ok.inj h)
        exact ⟨found, (Bool.and_eq_true_iff.mp shape).1⟩
      · exact nomatch h
    · exact nomatch h
  · exact nomatch h
  · exact nomatch h

theorem cleanRequiredString_ok {value : Option Json} {maximum : Nat} {text : String}
    (h : cleanRequiredString value maximum = .ok text) : value = some (.str text) := by
  unfold cleanRequiredString at h
  split at h
  · split at h
    · exact nomatch h
    · rw [Except.ok.inj h]
  · exact nomatch h

theorem validateReceipt_ok {receipt : Json} {batchId supplierId expectedAppId owner : String}
    {credentials : Credentials}
    (h : validateReceipt R receipt batchId store supplierId expectedAppId owner = .ok credentials) :
    receipt.field? "appId" = some (.str credentials.appId) ∧
      receipt.field? "openKeyId" = some (.str credentials.openKeyId) ∧
      receipt.field? "secretKey" = some (.str credentials.secretKey) := by
  unfold validateReceipt at h
  split at h
  · obtain ⟨appId, isAppId, h⟩ := bind_eq_ok h
    obtain ⟨openKeyId, isOpenKeyId, h⟩ := bind_eq_ok h
    obtain ⟨secretKey, isSecretKey, h⟩ := bind_eq_ok h
    split at h
    · exact nomatch h
    · split at h
      · exact nomatch h
      · obtain rfl := Except.ok.inj h
        exact ⟨cleanRequiredString_ok isAppId, cleanRequiredString_ok isOpenKeyId,
          cleanRequiredString_ok isSecretKey⟩
  · exact nomatch h

theorem prepareFinalization_ok {faults : FinalizationFaults} {args : FinalizationArguments}
    {p : Prepared} (h : prepareFinalization R faults args s = .ok p) : Ready R args s p := by
  unfold prepareFinalization at h
  obtain ⟨_, -, h⟩ := bind_eq_ok h
  obtain ⟨⟨batchId, store⟩, selected, h⟩ := bind_eq_ok h
  obtain ⟨_, -, h⟩ := bind_eq_ok h
  obtain ⟨node, there, h⟩ := bind_eq_ok h
  obtain ⟨_, -, h⟩ := bind_eq_ok h
  obtain ⟨applicationId, -, h⟩ := bind_eq_ok h
  obtain ⟨credentials, valid, h⟩ := bind_eq_ok h
  obtain ⟨expectedSupplierId, -, h⟩ := bind_eq_ok h
  obtain ⟨_, -, h⟩ := bind_eq_ok h
  obtain ⟨config, parsed, h⟩ := bind_eq_ok h
  obtain ⟨updated, update, h⟩ := bind_eq_ok h
  obtain ⟨_, -, h⟩ := bind_eq_ok h
  obtain rfl := Except.ok.inj h
  obtain ⟨found, shape⟩ := selectForFinalization_ok selected
  obtain ⟨name, file, -⟩ := (hasReceipt_iff shape).file
  obtain ⟨appId, openKeyId, secretKey⟩ := validateReceipt_ok valid
  have named : store.receiptFile = some (store.receiptFile.getD "") := by rw [file, Option.getD_some]
  exact ⟨found, hasReceipt_iff shape, named, require_ok there, require_ok parsed, update, appId,
    openKeyId, secretKey⟩

theorem ofList_ne_of_length_lt {chars : List Char} {name : String}
    (longer : name.toList.length < chars.length) : String.ofList chars ≠ name := by
  intro same
  rw [← same, String.toList_ofList] at longer
  exact Nat.lt_irrefl _ longer

theorem finalizingName_ne (bytes name : String) : finalizingName R bytes name ≠ name := by
  refine ofList_ne_of_length_lt ?_
  rw [List.length_append, List.length_cons]
  exact Nat.lt_add_left _ (Nat.lt_succ_self _)

theorem quarantineName_ne (pid : Nat) (bytes name : String) : quarantineName pid bytes name ≠ name := by
  refine ofList_ne_of_length_lt ?_
  rw [List.length_append, List.length_append, List.length_append, List.length_append, List.length_cons]
  generalize ".reject-".toList.length = reject
  generalize ".quarantine".toList.length = quarantine
  omega

end Preparation

/-! ## The configuration -/

section Configuration

variable {fields : List (String × Json)} {key other : String} {value : Json}

theorem field?_assignField : (Json.obj (assignField fields key value)).field? other =
      if other = key then some value else (Json.obj fields).field? other := by
  unfold Json.field? assignField
  simp only
  split
  · rename_i present
    have kept : ((fun field => decide (field.1 = other)) ∘ fun field : String × Json =>
        if field.1 = key then (key, value) else field) = fun field => decide (field.1 = other) := by
      funext field
      by_cases here : field.1 = key <;> simp [here]
    rw [List.find?_map, kept]
    cases found : fields.find? (fun field => decide (field.1 = other)) with
    | none =>
      have apart : other ≠ key := by
        rintro rfl
        obtain ⟨field, mem, here⟩ := List.any_eq_true.mp present
        exact List.find?_eq_none.mp found field mem here
      rw [if_neg apart]
      rfl
    | some field =>
      have name : field.1 = other := of_decide_eq_true (List.find?_some found :)
      by_cases same : other = key <;> simp [name, same]
  · rename_i absent
    rw [List.find?_append, List.find?_singleton]
    by_cases same : other = key
    · subst same
      have missing : fields.find? (fun field => decide (field.1 = other)) = none :=
        List.find?_eq_none.mpr fun field mem here => absent (List.any_eq_true.mpr ⟨field, mem, here⟩)
      simp [missing]
    · have differs : ¬ key = other := fun eq => same eq.symm
      simp [differs, same]

variable {storeCode supplierId : String} {credentials : Credentials}

theorem assignFields_approved {receipt store : Json} (code : fieldIs store "storeCode" storeCode = true)
    (appId : receipt.field? "appId" = some (.str credentials.appId))
    (openKeyId : receipt.field? "openKeyId" = some (.str credentials.openKeyId))
    (secretKey : receipt.field? "secretKey" = some (.str credentials.secretKey)) :
    HoldsCredentials storeCode receipt (assignFields store (approvedFields supplierId credentials)) := by
  cases store with
  | obj fields =>
    unfold fieldIs at code
    constructor <;>
      simp [assignFields, approvedFields, fieldIs, field?_assignField, code, appId, openKeyId, secretKey]
  | null => exact nomatch code
  | bool b => exact nomatch code
  | num n => exact nomatch code
  | str text => exact nomatch code
  | arr items => exact nomatch code

/-- **A configuration that is updated takes the credentials of the receipt for its store**, and nothing
else of it changes. -/
theorem updateOpenApiConfiguration_takes {R : ReviewSettings} {config updated receipt : Json}
    (update : updateOpenApiConfiguration R config storeCode supplierId credentials = .ok updated)
    (appId : receipt.field? "appId" = some (.str credentials.appId))
    (openKeyId : receipt.field? "openKeyId" = some (.str credentials.openKeyId))
    (secretKey : receipt.field? "secretKey" = some (.str credentials.secretKey)) :
    TakesCredentials storeCode receipt config updated := by
  unfold updateOpenApiConfiguration at update
  split at update
  · rename_i fields stores hasStores
    split at update
    · exact nomatch update
    · rename_i once
      split at update
      · exact nomatch update
      · dsimp only at update
        split at update
        · obtain rfl := Except.ok.inj update
          refine ⟨⟨stores, stores.map (assignStore storeCode supplierId credentials), hasStores, ?_,
            not_not.mp once, ?_⟩, ?_⟩
          · rw [field?_assignField, if_pos rfl]
          · rw [List.forall₂_map_right_iff, List.forall₂_same]
            intro store _
            unfold assignStore
            split
            · rename_i code
              exact assignFields_approved code appId openKeyId secretKey
            · rfl
          · intro key apart
            rw [field?_assignField, if_neg apart]
        · exact nomatch update
  · exact nomatch update

end Configuration

/-! ## A finalization, step by step -/

section Finalization

variable {R : ReviewSettings} {faults : FinalizationFaults} {args : FinalizationArguments}
  {s : ReviewSite} {p : Prepared} {isolated : String}

def configured (R : ReviewSettings) (p : Prepared) (s : ReviewSite) : ReviewSite :=
  { s with backup := some s.config, config := R.stringify p.updated }

def approvedSite (R : ReviewSettings) (args : FinalizationArguments) (p : Prepared) (s : ReviewSite) :
    ReviewSite :=
  { configured R p s with state := s.state.updateStore p.batchId args.storeCode (approve args.now) }

/-- What the `try` block of a finalization leaves. -/
inductive Tried (R : ReviewSettings) (faults : FinalizationFaults) (args : FinalizationArguments)
    (p : Prepared) (isolated : String) (s : ReviewSite) : Progress → ReviewSite → Prop
  | unwritten (e : JsError) (backup : Option String)
      (unwritten : settled faults.backup = .failed () ∨ quiet faults.write = .failed ()) :
      Tried R faults args p isolated s ⟨false, false, .error e⟩ { s with backup }
  | writeLost (e : JsError) (backup : settled faults.backup = .done)
      (lost : quiet faults.write = .lost ()) :
      Tried R faults args p isolated s ⟨false, false, .error e⟩ (configured R p s)
  | unapproved (e : JsError) (write : quiet faults.write = .done)
      (failed : quiet faults.approve = .failed ()) :
      Tried R faults args p isolated s ⟨true, false, .error e⟩ (configured R p s)
  | approvalLost (e : JsError) (backup : settled faults.backup = .done)
      (write : quiet faults.write = .done) (lost : quiet faults.approve = .lost ()) :
      Tried R faults args p isolated s ⟨true, false, .error e⟩ (approvedSite R args p s)
  | undisposed (e : JsError) (backup : settled faults.backup = .done)
      (write : quiet faults.write = .done) (approval : quiet faults.approve = .done)
      (failed : faults.disposal.disposal = .failed ()) :
      Tried R faults args p isolated s ⟨true, true, .error e⟩ (approvedSite R args p s)
  | disposalLost (e : JsError) (write : quiet faults.write = .done)
      (approval : quiet faults.approve = .done) (lost : faults.disposal.disposal = .lost ()) :
      Tried R faults args p isolated s ⟨true, true, .error e⟩
        ((approvedSite R args p s).remove isolated)
  | done (approved : PublicBatch) (backup : settled faults.backup = .done)
      (write : quiet faults.write = .done) (approval : quiet faults.approve = .done)
      (disposal : faults.disposal.disposal = .done) :
      Tried R faults args p isolated s ⟨true, true, .ok approved⟩
        ((approvedSite R args p s).remove isolated)

theorem settled_cases (r : Except JsError Unit) : settled r = .done ∨ settled r = .failed () := by
  cases r with
  | ok _ => exact .inl rfl
  | error _ => exact .inr rfl

theorem tryFinalization_ends (found : s.state.storeOf p.batchId args.storeCode = some p.store)
    (receipt : HasReceipt args.supplierId p.store) (there : s.receipts isolated = some p.node) :
    Ends (tryFinalization R faults args p isolated) s fun r s' =>
      ∃ progress, r = .ok progress ∧ Tried R faults args p isolated s progress s' := by
  unfold tryFinalization
  rw [ends_bind, ends_observing]
  refine createBackup_took.mono fun r s₂ took => ?_
  rw [post_ok]
  obtain ⟨backup, ⟨e, rfl, -⟩, rfl⟩ | ⟨backup, -⟩ | ⟨backup, ⟨_, rfl⟩, rfl⟩ := took.cases
  · exact ⟨_, rfl, .unwritten e s₂.backup (.inl backup)⟩
  · rcases settled_cases faults.backup with h | h <;> exact nomatch h.symm.trans backup
  dsimp only
  rw [ends_bind, ends_observing]
  refine atomicWrite_took.mono fun r s₃ took => ?_
  rw [post_ok]
  obtain ⟨write, ⟨e, rfl, -⟩, rfl⟩ | ⟨write, ⟨e, rfl, -⟩, rfl⟩ | ⟨write, ⟨_, rfl⟩, rfl⟩ := took.cases
  · exact ⟨_, rfl, .unwritten e _ (.inr write)⟩
  · exact ⟨_, rfl, .writeLost e backup write⟩
  dsimp only
  obtain ⟨shown, accepts⟩ := approveStoreIn_ok (r := args.request p.batchId) found receipt.awaits receipt.supplier
  rw [ends_bind, ends_observing]
  unfold approveStore
  have code : R.js.toUpperCase (args.request p.batchId).storeCode = args.storeCode :=
    toUpperCase_storeCode R.js args.storeCode_valid
  rw [code]
  refine (onState_took (s := configured R p s) accepts).mono fun r s₄ took => ?_
  rw [post_ok]
  obtain ⟨approval, ⟨e, rfl, -⟩, rfl⟩ | ⟨approval, ⟨e, rfl, -⟩, rfl⟩ | ⟨approval, ⟨approved, rfl⟩, rfl⟩ := took.cases
  · exact ⟨_, rfl, .unapproved e write approval⟩
  · exact ⟨_, rfl, .approvalLost e backup write approval⟩
  dsimp only
  rw [ends_bind, ends_observing]
  refine (deleteIsolatedReceipt_took (s := approvedSite R args p s) there).mono fun r s₅ took => ?_
  rw [post_ok]
  obtain ⟨disposal, ⟨e, rfl, -⟩, rfl⟩ | ⟨disposal, ⟨e, rfl, -⟩, rfl⟩ | ⟨disposal, ⟨_, rfl⟩, rfl⟩ := took.cases
  · exact ⟨_, rfl, .undisposed e backup write approval disposal⟩
  · exact ⟨_, rfl, .disposalLost e write approval disposal⟩
  · exact ⟨_, rfl, .done approved backup write approval disposal⟩

/-- A step of the `catch` block that applies goes as a round trip does. -/
theorem undo_ends {applies : Bool} {step : ReviewAction Unit} (trip : RoundTrip Unit)
    (change : ReviewSite → ReviewSite) (took : applies = true → Ends step s (Took (fun _ => True) trip change s)) :
    Ends (undo applies step) s fun r s' => ∃ x, r = .ok x ∧
      ((applies = true → trip = .done) ∧ x = .ok () ∧ s' = (if applies then change s else s) ∨
        ¬ (applies = true → trip = .done) ∧ (∃ e, x = .error e) ∧ (s' = s ∨ s' = change s)) := by
  unfold undo
  cases applies with
  | false => exact ⟨_, rfl, .inl ⟨nofun, rfl, rfl⟩⟩
  | true =>
    rw [if_pos rfl, ends_observing]
    refine (took rfl).mono fun r s' took => ⟨r, rfl, ?_⟩
    obtain ⟨rfl, ⟨e, rfl, -⟩, rfl⟩ | ⟨rfl, ⟨e, rfl, -⟩, rfl⟩ | ⟨rfl, ⟨_, rfl⟩, rfl⟩ := took.cases
    · exact .inr ⟨fun all => (nomatch all rfl), ⟨e, rfl⟩, .inl rfl⟩
    · exact .inr ⟨fun all => (nomatch all rfl), ⟨e, rfl⟩, .inr rfl⟩
    · exact .inl ⟨fun _ => rfl, rfl, rfl⟩

theorem Took.ignore {α : Type} {E : JsError → Prop} {step : ReviewAction α} {trip : RoundTrip Unit}
    {change : ReviewSite → ReviewSite} (took : Ends step s (Took E trip change s)) :
    Ends (step >>= fun _ => pure ()) s (Took E trip change s) := by
  rw [ends_bind]
  refine took.mono fun r s' took => ?_
  obtain ⟨rfl, ⟨e, rfl, code⟩, rfl⟩ | ⟨rfl, ⟨e, rfl, code⟩, rfl⟩ | ⟨rfl, ⟨_, rfl⟩, rfl⟩ := took.cases
  · exact ⟨⟨e, rfl, code⟩, rfl⟩
  · exact ⟨⟨e, rfl, code⟩, rfl⟩
  · exact ⟨⟨(), rfl⟩, rfl⟩

def Undone (faults : FinalizationFaults) (progress : Progress) (restoration : RoundTrip Unit) : Prop :=
  (progress.approvalCommitted = true → quiet faults.rollback = .done) ∧
    (progress.configWritten = true → settled faults.readBackup = .done ∧ quiet faults.rewrite = .done) ∧
    restoration = .done

/-- What the `catch` block leaves where all its steps are done. -/
def rolledBack (args : FinalizationArguments) (p : Prepared) (isolated contents : String)
    (progress : Progress) (s : ReviewSite) : ReviewSite :=
  { s with
    state := if progress.approvalCommitted then
        s.state.updateStore p.batchId args.storeCode (rollBack (basename p.receiptFile))
      else s.state
    config := if progress.configWritten then contents else s.config
    receipts := (s.move isolated p.receiptFile).receipts }

theorem guarded_done_iff {fails : Bool} {trip : RoundTrip Unit} :
    guarded fails trip = .done ↔ fails = false ∧ trip = .done := by
  cases fails <;> simp [guarded]

theorem rollBackFinalization_ends {progress : Progress} (s : ReviewSite) (contents : String)
    (restoration : RoundTrip Unit) (restores : ∀ s', s'.receipts = s.receipts →
      Ends (restoreReceipt restorationCodes faults.restoration isolated p.receiptFile p.node) s'
        (Took (fun _ => True) restoration (·.move isolated p.receiptFile) s'))
    (backup : progress.configWritten = true → s.backup = some contents)
    (accepts : progress.approvalCommitted = true → ∃ shown,
      rollbackStoreApprovalIn (args.rollbackRequest p) args.storeCode s.state =
        .ok (shown, s.state.updateStore p.batchId args.storeCode (rollBack (basename p.receiptFile)))) :
    Ends (rollBackFinalization R faults args p isolated progress) s fun r s' => ∃ e, r = .error e ∧
      (Undone faults progress restoration ∧ e.code = some "FINALIZATION_TRANSACTION_FAILED" ∧
          s' = rolledBack args p isolated contents progress s ∨
        ¬ Undone faults progress restoration ∧ e.code = some "FINALIZATION_ROLLBACK_FAILED") := by
  unfold rollBackFinalization
  have code : R.js.toUpperCase (args.rollbackRequest p).storeCode = args.storeCode :=
    toUpperCase_storeCode R.js args.storeCode_valid
  rw [ends_bind]
  refine (undo_ends (quiet faults.rollback) (fun s =>
    { s with state := s.state.updateStore p.batchId args.storeCode (rollBack (basename p.receiptFile)) })
    fun committed => ?_).mono ?_
  · obtain ⟨shown, accepts⟩ := accepts committed
    refine Took.ignore ?_
    unfold rollbackStoreApproval
    rw [code]
    exact onState_took accepts
  rintro _ s₁ ⟨approval, rfl, approval_ends⟩
  rw [post_ok, ends_bind]
  have frame₁ : s₁.receipts = s.receipts ∧ s₁.backup = s.backup ∧ s₁.config = s.config := by
    rcases approval_ends with ⟨-, -, rfl⟩ | ⟨-, -, rfl | rfl⟩
    · split <;> exact ⟨rfl, rfl, rfl⟩
    · exact ⟨rfl, rfl, rfl⟩
    · exact ⟨rfl, rfl, rfl⟩
  refine (undo_ends (guarded (!(settled faults.readBackup matches .done)) (quiet faults.rewrite))
    (fun s => { s with config := contents }) fun written => ?_).mono ?_
  · refine restoreBackup_took ?_
    rw [frame₁.2.1]
    exact backup written
  rintro _ s₂ ⟨config, rfl, config_ends⟩
  rw [post_ok, ends_bind]
  have frame₂ : s₂.receipts = s.receipts := by
    rcases config_ends with ⟨-, -, rfl⟩ | ⟨-, -, rfl | rfl⟩
    · split <;> exact frame₁.1
    · exact frame₁.1
    · exact frame₁.1
  refine (undo_ends _ _ fun _ => restores s₂ frame₂).mono ?_
  rintro _ s₃ ⟨receipt, rfl, receipt_ends⟩
  rw [post_ok]
  have read : guarded (!(settled faults.readBackup matches .done)) (quiet faults.rewrite) = .done ↔
      settled faults.readBackup = .done ∧ quiet faults.rewrite = .done := by
    rw [guarded_done_iff]
    cases faults.readBackup <;> simp [settled]
  rw [read] at config_ends
  rcases approval_ends with ⟨approved, rfl, rfl⟩ | ⟨stuck, ⟨e, rfl⟩, -⟩
  · rcases config_ends with ⟨written, rfl, rfl⟩ | ⟨stuck, ⟨e, rfl⟩, -⟩
    · rcases receipt_ends with ⟨restored, rfl, rfl⟩ | ⟨stuck, ⟨e, rfl⟩, -⟩
      · refine ⟨_, rfl, .inl ⟨⟨approved, written, restored rfl⟩, rfl, ?_⟩⟩
        unfold rolledBack ReviewSite.move
        cases progress.approvalCommitted <;> cases progress.configWritten <;> rfl
      · exact ⟨_, rfl, .inr ⟨fun undone => stuck fun _ => undone.2.2, rfl⟩⟩
    · exact ⟨_, rfl, .inr ⟨fun undone => stuck undone.2.1, rfl⟩⟩
  · exact ⟨_, rfl, .inr ⟨fun undone => stuck undone.1, rfl⟩⟩

theorem move_move (name : String) (free : s.receipts isolated = none) :
    ((s.move name isolated).move isolated name).receipts = s.receipts := by
  funext other
  let moved := (s.move name isolated).receipts
  have back : moved isolated = s.receipts name := Function.update_self ..
  change Function.update (Function.update moved isolated none) name (moved isolated) other = _
  rw [back]
  by_cases here : other = name
  · rw [here, Function.update_self]
  · rw [Function.update_of_ne here]
    by_cases there : other = isolated
    · rw [there, Function.update_self, free]
    · rw [Function.update_of_ne there]
      change Function.update (Function.update s.receipts name none) isolated _ other = _
      rw [Function.update_of_ne there, Function.update_of_ne here]

variable {name : String}

theorem move_remove (free : s.receipts isolated = none) (apart : isolated ≠ name) :
    ((s.move name isolated).remove isolated).receipts = Function.update s.receipts name none := by
  funext other
  change Function.update (Function.update (Function.update s.receipts name none) isolated _) isolated
    none other = _
  by_cases there : other = isolated
  · rw [there, Function.update_self, Function.update_of_ne apart, free]
  · rw [Function.update_of_ne there, Function.update_of_ne there]

/-- The receipt of a store is not under its name while it is isolated. -/
theorem move_source (apart : isolated ≠ name) : (s.move name isolated).receipts name = none := by
  change Function.update (Function.update s.receipts name none) isolated _ name = _
  rw [Function.update_of_ne apart.symm, Function.update_self]

/-- An approval that is taken back, of a store that had not been reviewed before. -/
theorem rollBack_approve {now : Instant} {store : BatchStore}
    (receipt : HasReceipt args.supplierId store) (file : store.receiptFile = some name) :
    rollBack name (approve now store) = { store with reviewedAt := none } := by
  unfold rollBack approve
  rw [← receipt.awaits, ← file]

theorem basename_receiptFile (ready : Ready R args s p) :
    basename p.receiptFile = p.receiptFile ∧ p.receiptFile ≠ "" := by
  obtain ⟨name, file, base, nonEmpty⟩ := ready.receipt.file
  obtain rfl := Option.mem_unique file ready.file
  exact ⟨base, nonEmpty⟩

theorem rollback_accepts (ready : Ready R args s p) : ∃ shown,
    rollbackStoreApprovalIn (args.rollbackRequest p) args.storeCode (approvedSite R args p s).state =
      .ok (shown, (approvedSite R args p s).state.updateStore p.batchId args.storeCode
        (rollBack (basename p.receiptFile))) := by
  refine rollbackStoreApprovalIn_ok (args.rollbackRequest p) (approve args.now p.store)
    ?_ ?_
  · change (s.state.updateStore p.batchId args.storeCode (approve args.now)).storeOf p.batchId
      args.storeCode = _
    rw [storeOf_updateStore (f := approve args.now) fun _ => rfl, ready.found]
    rfl
  · obtain ⟨hash, fingerprint⟩ := ready.receipt.fingerprint
    obtain ⟨base, nonEmpty⟩ := basename_receiptFile ready
    have supplier : textOf p.store.supplierId = args.supplierId := ready.receipt.supplier
    simp [rollbackMatches, approve, FinalizationArguments.rollbackRequest, FinalizationArguments.request,
      supplier, fingerprint, base, nonEmpty]

/-- A finalization that got as far as its `try` block and failed there. -/
theorem rollBack_decided (ready : Ready R args s p) (free : s.receipts isolated = none)
    (apart : isolated ≠ p.receiptFile) (isolation : faults.isolation.isolation (s.receipts isolated).isSome = .done)
    {progress : Progress} {s' : ReviewSite} {error : JsError} (fails : progress.outcome = .error error)
    (tried : Tried R faults args p isolated (s.move p.receiptFile isolated) progress s') :
    Ends (rollBackFinalization R faults args p isolated progress) s' fun r s'' => ∃ e, r = .error e ∧
      ((Coded rollbackFailures e ∨ Unchanged args.storeCode s s'') ↔ ¬ FinalizationStrays R faults s p isolated) := by
  have there : (s.move p.receiptFile isolated).receipts isolated = some p.node :=
    move_target ready.there
  have source : (s.move p.receiptFile isolated).receipts p.receiptFile = none := move_source apart
  have restores {s₁ s₂ : ReviewSite} (same : s₁.receipts = (s.move p.receiptFile isolated).receipts)
      (kept : s₂.receipts = s₁.receipts) :
      Ends (restoreReceipt restorationCodes faults.restoration isolated p.receiptFile p.node) s₂
        (Took (fun _ => True) faults.restoration.restoration (·.move isolated p.receiptFile) s₂) := by
    refine (restoreReceipt_took ?_ ?_).mono fun r s' took => took.mono fun _ _ => trivial
    · rw [kept, same, there]
    · rw [kept, same, source]
  have receipts {s₁ : ReviewSite} (same : s₁.receipts = (s.move p.receiptFile isolated).receipts) :
      (s₁.move isolated p.receiptFile).receipts = s.receipts := by
    have moved := move_move p.receiptFile free
    unfold ReviewSite.move at moved ⊢
    rw [same]
    exact moved
  have uncoded {e : JsError} (code : e.code = some "FINALIZATION_TRANSACTION_FAILED") :
      ¬ Coded rollbackFailures e := by
    unfold Coded
    rw [code]
    simp [rollbackFailures]
  have coded {e : JsError} (code : e.code = some "FINALIZATION_ROLLBACK_FAILED") :
      Coded rollbackFailures e := by
    unfold Coded
    rw [code]
    simp [rollbackFailures]
  have recovers (s₁ : ReviewSite) (progress : Progress)
      (same : s₁.receipts = (s.move p.receiptFile isolated).receipts)
      (backup : progress.configWritten = true → s₁.backup = some s.config)
      (accepts : progress.approvalCommitted = true → s₁.state = (approvedSite R args p s).state) :
      Ends (rollBackFinalization R faults args p isolated progress) s₁ fun r s' => ∃ e, r = .error e ∧
        (Undone faults progress faults.restoration.restoration ∧ ¬ Coded rollbackFailures e ∧
            s' = rolledBack args p isolated s.config progress s₁ ∨
          ¬ Undone faults progress faults.restoration.restoration ∧ Coded rollbackFailures e) := by
    refine (rollBackFinalization_ends _ _ _ (fun s₂ kept => restores same kept) backup fun committed => ?_).mono ?_
    · rw [accepts committed]
      exact rollback_accepts ready
    · rintro _ s' ⟨e, rfl, undone⟩
      exact ⟨e, rfl, undone.imp (fun h => ⟨h.1, uncoded h.2.1, h.2.2⟩) fun h => ⟨h.1, coded h.2⟩⟩
  let moved := s.move p.receiptFile isolated
  have put_back {s₁ s₂ : ReviewSite} (same : s₁.receipts = moved.receipts)
      (back : s₂.receipts = (s₁.move isolated p.receiptFile).receipts) (name : String)
      (receipt : ReceiptNode) (stored : s.receipts name = some receipt) :
      s₂.receipts name = some receipt := by
    rw [back, receipts same, stored]
  cases tried with
  | unwritten e backup unwritten =>
    refine (recovers { moved with backup } ⟨false, false, .error e⟩ rfl nofun nofun).mono ?_
    rintro _ s'' ⟨e, rfl, undone⟩
    refine ⟨e, rfl, iff_of_true ?_ ?_⟩
    · rcases undone with ⟨-, -, rfl⟩ | ⟨-, code⟩
      · exact .inr ⟨rfl, fun _ => rfl, put_back rfl rfl⟩
      · exact .inl code
    · intro strays
      cases strays <;> simp_all
  | writeLost e backup lost =>
    refine (recovers (configured R p moved) ⟨false, false, .error e⟩ rfl nofun nofun).mono ?_
    rintro _ s'' ⟨e, rfl, undone⟩
    refine ⟨e, rfl, ?_⟩
    rcases undone with ⟨undone, code, rfl⟩ | ⟨stuck, code⟩
    · rw [or_iff_right code]
      constructor
      · intro unchanged strays
        cases strays with
        | write _ _ _ other _ => exact other unchanged.config
        | _ => simp_all
      · intro straight
        by_cases same : R.stringify p.updated = s.config
        · exact ⟨same, fun _ => rfl, put_back rfl rfl⟩
        · exact absurd (.write isolation backup lost same ⟨nofun, undone.2.2⟩) straight
    · refine iff_of_true (.inl code) fun strays => ?_
      cases strays with
      | write _ _ _ _ undone => exact stuck ⟨nofun, nofun, undone.2⟩
      | _ => simp_all
  | unapproved e write failed =>
    refine (recovers (configured R p moved) ⟨true, false, .error e⟩ rfl (fun _ => rfl) nofun).mono ?_
    rintro _ s'' ⟨e, rfl, undone⟩
    refine ⟨e, rfl, iff_of_true ?_ ?_⟩
    · rcases undone with ⟨-, -, rfl⟩ | ⟨-, code⟩
      · exact .inr ⟨rfl, fun _ => rfl, put_back rfl rfl⟩
      · exact .inl code
    · intro strays
      cases strays <;> simp_all
  | approvalLost e backup write lost =>
    refine (recovers (approvedSite R args p moved) ⟨true, false, .error e⟩ rfl (fun _ => rfl)
      nofun).mono ?_
    rintro _ s'' ⟨e, rfl, undone⟩
    refine ⟨e, rfl, ?_⟩
    rcases undone with ⟨undone, code, rfl⟩ | ⟨stuck, code⟩
    · rw [or_iff_right code]
      refine iff_of_false (fun unchanged => ?_) fun straight =>
        straight (.approval isolation backup write lost undone.2)
      have kept := unchanged.store p.batchId
      change (s.state.updateStore p.batchId args.storeCode (approve args.now)).storeOf p.batchId
        args.storeCode = _ at kept
      rw [storeOf_updateStore (f := approve args.now) fun _ => rfl, ready.found] at kept
      have status := congrArg BatchStore.status (Option.some.inj kept)
      rw [ready.receipt.awaits] at status
      exact nomatch status
    · refine iff_of_true (.inl code) fun strays => ?_
      cases strays with
      | approval _ _ _ _ undone => exact stuck ⟨nofun, undone⟩
      | _ => simp_all
  | undisposed e backup write approval failed =>
    refine (recovers (approvedSite R args p moved) ⟨true, true, .error e⟩ rfl (fun _ => rfl)
      fun _ => rfl).mono ?_
    rintro _ s'' ⟨thrown, rfl, undone⟩
    refine ⟨thrown, rfl, ?_⟩
    rcases undone with ⟨undone, code, rfl⟩ | ⟨stuck, code⟩
    · rw [or_iff_right code]
      have twice : (rolledBack args p isolated s.config ⟨true, true, .error e⟩
            (approvedSite R args p moved)).state =
          s.state.updateStore p.batchId args.storeCode
            (rollBack p.receiptFile ∘ approve args.now) := by
        change (s.state.updateStore _ _ (approve args.now)).updateStore _ _
          (rollBack (basename p.receiptFile)) = _
        rw [(basename_receiptFile ready).1]
        exact updateStore_updateStore fun _ => rfl
      have rolled : (rollBack p.receiptFile ∘ approve args.now) p.store =
          { p.store with reviewedAt := none } := rollBack_approve ready.receipt ready.file
      constructor
      · intro unchanged strays
        cases strays with
        | disposal _ _ _ _ _ _ _ reviewed =>
          have kept := unchanged.store p.batchId
          rw [twice, storeOf_updateStore (f := rollBack p.receiptFile ∘ approve args.now) fun _ => rfl,
            ready.found, Option.map_some, rolled] at kept
          exact reviewed (congrArg BatchStore.reviewedAt (Option.some.inj kept)).symm
        | _ => simp_all
      · intro straight
        by_cases reviewed : p.store.reviewedAt = none
        · have fixed : { p.store with reviewedAt := none } = p.store := by rw [← reviewed]
          have same := twice.trans (updateStore_of_fixed ready.found (rolled.trans fixed))
          exact ⟨rfl, fun batchId => by rw [same], put_back rfl rfl⟩
        · exact absurd (.disposal isolation backup write approval failed (undone.1 rfl) undone.2 reviewed)
            straight
    · refine iff_of_true (.inl code) fun strays => ?_
      cases strays with
      | disposal _ _ _ _ _ rollback undone => exact stuck ⟨fun _ => rollback, undone⟩
      | _ => simp_all
  | disposalLost e write approval lost =>
    have gone : ((approvedSite R args p moved).remove isolated).receipts isolated = none :=
      Function.update_self ..
    have accepts := rollback_accepts ready
    refine (rollBackFinalization_ends ((approvedSite R args p moved).remove isolated)
      s.config (.failed ()) (fun s₂ kept => ?_) (fun _ => rfl)
      fun _ => accepts).mono ?_
    · refine (restoreReceipt_gone (by rw [kept]; exact gone)).mono ?_
      rintro _ _ ⟨⟨e, rfl⟩, rfl⟩
      exact ⟨⟨e, rfl, trivial⟩, rfl⟩
    · rintro _ s'' ⟨e, rfl, undone⟩
      refine ⟨e, rfl, iff_of_true (.inl ?_) fun strays => ?_⟩
      · rcases undone with ⟨undone, -⟩ | ⟨-, code⟩
        · exact nomatch undone.2.2
        · exact coded code
      · cases strays <;> simp_all
  | done => exact nomatch fails

theorem finalized_of_done (ready : Ready R args s p) (free : s.receipts isolated = none)
    (apart : isolated ≠ p.receiptFile) :
    Finalized R args s ((approvedSite R args p (s.move p.receiptFile isolated)).remove isolated) := by
  refine ⟨p.node, ⟨p.batchId, p.store, p.receiptFile, ready.found, ready.receipt.awaits, ready.file,
    ready.there, ?_, move_remove free apart⟩, p.config, p.updated, ready.config, rfl,
    updateOpenApiConfiguration_takes ready.updated ready.appId ready.openKeyId ready.secretKey⟩
  change (s.state.updateStore p.batchId args.storeCode (approve args.now)).storeOf p.batchId
    args.storeCode = _
  rw [storeOf_updateStore (f := approve args.now) fun _ => rfl, ready.found, Option.map_some]

/-- The codes of `isolateReceipt` say nothing of what was left behind. -/
theorem isolation_uncoded {e : JsError} (code : Coded isolationCodes.all e) : ¬ Coded rollbackFailures e := by
  intro left
  simp only [Coded, isolationCodes, MoveCodes.all, rollbackFailures, List.map_cons, List.map_nil,
    List.mem_cons, List.not_mem_nil, or_false, or_self] at code left
  rw [code] at left
  simp at left

theorem finalizeUnderLock_ends (prepared : prepareFinalization R faults args s = .ok p) :
    Ends (finalizeUnderLock R faults args) s (Post (fun _ s' => Finalized R args s s' ∧
        (FinalizationStrays R faults s p (finalizingName R args.bytes p.receiptFile) ↔ faults.releaseLock ≠ none))
      fun e s' => (Coded rollbackFailures e ∨ Unchanged args.storeCode s s') ↔
        ¬ FinalizationStrays R faults s p (finalizingName R args.bytes p.receiptFile)) := by
  have ready := prepareFinalization_ok prepared
  have apart := finalizingName_ne (R := R) args.bytes p.receiptFile
  unfold finalizeUnderLock
  rw [ends_bind, ends_get, post_ok, ends_bind, prepared, ends_ofExcept, post_ok]
  dsimp only
  generalize finalizingName R args.bytes p.receiptFile = isolated at apart ⊢
  rw [ends_bind]
  refine (isolateReceipt_took ready.there).mono fun r s₁ took => ?_
  obtain ⟨isolation, ⟨e, rfl, -⟩, rfl⟩ | ⟨isolation, ⟨e, rfl, code⟩, rfl⟩ | ⟨isolation, ⟨_, rfl⟩, rfl⟩ := took.cases
  · refine iff_of_true (.inr ⟨rfl, fun _ => rfl, fun _ _ => id⟩) fun strays => ?_
    cases strays <;> simp_all
  · refine iff_of_false (fun left => ?_) fun straight => straight (.isolation isolation)
    rcases left with coded | unchanged
    · exact isolation_uncoded code coded
    · have kept := unchanged.receipts _ _ ready.there
      rw [move_source apart] at kept
      exact nomatch kept
  · have free : s.receipts isolated = none := by
      unfold MoveFaults.isolation at isolation
      rw [guarded_done_iff, Bool.or_eq_false_iff] at isolation
      exact Option.not_isSome_iff_eq_none.mp (Bool.eq_false_iff.mp isolation.1.2)
    rw [post_ok, ends_bind]
    refine (tryFinalization_ends (s := s.move p.receiptFile isolated) ready.found ready.receipt
      (move_target ready.there)).mono ?_
    rintro _ s₂ ⟨progress, rfl, tried⟩
    rw [post_ok]
    cases outcome : progress.outcome with
    | error error =>
      refine (rollBack_decided ready free apart isolation outcome tried).mono ?_
      rintro _ s₃ ⟨e, rfl, decided⟩
      exact decided
    | ok approved =>
      cases tried with
      | done _ backup write approval disposal =>
        refine ⟨finalized_of_done ready free apart, ?_⟩
        constructor
        · intro strays
          cases strays <;> simp_all
        · exact .release isolation backup write approval disposal
      | _ => exact nomatch outcome

/-- The errors of a lock that could not be released say nothing of what was left behind. -/
theorem release_uncoded (failure : ReleaseFailure) : ¬ Coded rollbackFailures failure.error := by
  cases failure <;> simp [Coded, rollbackFailures, ReleaseFailure.error, failed]

/-- A finalization is decided exactly where none of its steps strays. -/
theorem finalization_decided_iff (R : ReviewSettings) (faults : FinalizationFaults)
    (args : FinalizationArguments) (s : ReviewSite) : Ends (finalizeAuthorizationReceipt R faults args) s
        (Decided (Finalized R args s) args.storeCode s) ↔ ¬ FinalizationSlips R faults args s := by
  suffices h : Ends (finalizeAuthorizationReceipt R faults args) s fun r s' =>
      Decided (Finalized R args s) args.storeCode s r s' ↔ ¬ FinalizationSlips R faults args s from h
  have unchanged {e : JsError} : Decided (Finalized R args s) args.storeCode s (.error e) s :=
    .inr ⟨rfl, fun _ => rfl, fun _ _ => id⟩
  unfold finalizeAuthorizationReceipt
  rw [ends_bind]
  cases acquired : faults.acquireLock with
  | error e =>
    refine ends_ofExcept.mpr (iff_of_true unchanged ?_)
    rintro ⟨p, lock, -⟩
    rw [acquired] at lock
    exact nomatch lock
  | ok _ =>
    rw [ends_ofExcept, post_ok, ends_bind, ends_observing]
    cases prepared : prepareFinalization R faults args s with
    | error e =>
      unfold finalizeUnderLock
      rw [ends_bind, ends_get, post_ok, ends_bind, prepared]
      refine ends_ofExcept.mpr (iff_of_true unchanged ?_)
      rintro ⟨p, -, found, -⟩
      exact nomatch prepared.symm.trans found
    | ok p =>
      have slips : FinalizationSlips R faults args s ↔
          FinalizationStrays R faults s p (finalizingName R args.bytes p.receiptFile) := by
        constructor
        · rintro ⟨other, -, found, strays⟩
          obtain rfl := Except.ok.inj (prepared.symm.trans found)
          exact strays
        · exact fun strays => ⟨p, by rw [acquired]; rfl, prepared, strays⟩
      rw [slips]
      refine (finalizeUnderLock_ends prepared).mono fun r s' ends => ?_
      cases r with
      | error e => exact ends
      | ok approved =>
        obtain ⟨finalized, strays⟩ := ends
        rw [strays, not_not, post_ok]
        cases release : faults.releaseLock with
        | none => exact iff_of_true finalized rfl
        | some failure =>
          have undecided : ¬ Decided (Finalized R args s) args.storeCode s (.error failure.error) s' := by
            rintro (coded | unchanged)
            · exact release_uncoded failure coded
            · obtain ⟨receipt, ⟨batchId, store, name, found, awaits, -, -, reviewed, -⟩, -⟩ := finalized
              have kept := unchanged.store batchId
              rw [reviewed, found] at kept
              have status := congrArg BatchStore.status (Option.some.inj kept)
              rw [awaits] at status
              exact nomatch status
          exact iff_of_false undecided nofun

end Finalization

/-! ## A rejection, step by step -/

section Rejection

variable {R : ReviewSettings} {faults : RejectionFaults} {args : RejectionArguments} {s : ReviewSite}
  {store : BatchStore} {receiptFile quarantine : String} {node : ReceiptNode}

/-- What a rejection that finds everything in order has found. -/
structure ReadyToReject (args : RejectionArguments) (s : ReviewSite) (store : BatchStore)
    (receiptFile : String) (node : ReceiptNode) (batch : Batch) : Prop where
  rejectable : Rejectable s.state args.request args.storeCode batch store
  file : store.receiptFile = some receiptFile
  there : s.receipts receiptFile = some node

theorem selectForRejection_ok {state : StateFile} {batchId storeCode supplierId : String}
    (h : selectForRejection state batchId storeCode supplierId = .ok store) :
    ∃ batch, state.batches.filter (fun batch => decide (batch.batchId = batchId)) = [batch] ∧
      batch.stores.filter (fun store => decide (store.storeCode = storeCode)) = [store] ∧
      hasReceipt supplierId store = true := by
  unfold selectForRejection at h
  dsimp only at h
  split at h
  · rename_i batch inFile
    split at h
    · rename_i found member
      split at h
      · rename_i shape
        obtain rfl := Except.ok.inj h
        exact ⟨batch, inFile, member, shape⟩
      · exact nomatch h
    · exact nomatch h
  · exact nomatch h

theorem prepareRejection_ok (h : prepareRejection faults args s = .ok (store, receiptFile, node)) :
    ∃ batch, ReadyToReject args s store receiptFile node batch := by
  unfold prepareRejection at h
  obtain ⟨_, -, h⟩ := bind_eq_ok h
  obtain ⟨found, selected, h⟩ := bind_eq_ok h
  obtain ⟨_, -, h⟩ := bind_eq_ok h
  obtain ⟨there, required, h⟩ := bind_eq_ok h
  obtain ⟨_, -, h⟩ := bind_eq_ok h
  split at h
  · obtain ⟨rfl, same⟩ := Prod.mk.inj (Except.ok.inj h)
    obtain ⟨rfl, rfl⟩ := Prod.mk.inj same
    obtain ⟨batch, inFile, member, shape⟩ := selectForRejection_ok selected
    have receipt := hasReceipt_iff shape
    obtain ⟨name, file, -⟩ := receipt.file
    have named : found.receiptFile = some (found.receiptFile.getD "") := by
      rw [file, Option.getD_some]
    exact ⟨batch, ⟨inFile, member, receipt.awaits, receipt.supplier⟩, named, require_ok required⟩
  · exact nomatch h

def rejectedSite (args : RejectionArguments) (batch : Batch) (s : ReviewSite) : ReviewSite :=
  { s with
    state := s.state.updateBatch args.batchId fun _ =>
      rejectedBatch s.state batch args.storeCode args.now }

variable {batch : Batch}

theorem storeOf_rejectedSite (ready : ReadyToReject args s store receiptFile node batch) :
    (rejectedSite args batch s).state.storeOf args.batchId args.storeCode = some (reject args.now store) := by
  obtain ⟨inFile, member⟩ := ready.rejectable.rejected
  exact storeOf_of_filter inFile member

theorem isRejected_reject {now : Instant} {supplierId : String} (supplier : textOf store.supplierId = supplierId) :
    isRejected supplierId store (reject now store) = true := by
  simp [isRejected, reject, supplier]

theorem confirmRejectedAudit_ends {read : Except JsError Unit}
    (ready : ReadyToReject args s store receiptFile node batch) {s' : ReviewSite}
    (state : s'.state = (rejectedSite args batch s).state) :
    Ends (confirmRejectedAudit read args store) s' fun r s'' =>
      (settled read = .done ∧ r = .ok () ∨ settled read = .failed () ∧ ∃ e, r = .error e) ∧ s'' = s' := by
  unfold confirmRejectedAudit
  rw [ends_bind]
  cases read with
  | error e => exact ⟨.inr ⟨rfl, e, rfl⟩, rfl⟩
  | ok _ =>
    obtain ⟨inFile, member⟩ := ready.rejectable.rejected
    have supplier : textOf store.supplierId = args.supplierId := ready.rejectable.supplier
    change (rejectedSite args batch s).state.batches.filter _ = _ at inFile
    rw [ends_ofExcept, post_ok]
    dsimp only
    rw [ends_bind, ends_get, post_ok, state]
    have found : ((rejectedSite args batch s).state.batches.filter fun batch =>
        decide (batch.batchId = args.batchId)) = _ := inFile
    rw [found]
    dsimp only
    have stores : ((rejectedBatch s.state batch args.storeCode args.request.reviewedAt).stores.filter fun store =>
        decide (store.storeCode = args.storeCode)) = [reject args.now store] := member
    rw [stores]
    dsimp only
    rw [isRejected_reject supplier, if_pos rfl]
    exact ⟨.inl ⟨rfl, rfl⟩, rfl⟩

/-- What the `try` block of a rejection leaves. -/
inductive TriedRejection (faults : RejectionFaults) (args : RejectionArguments) (batch : Batch)
    (s : ReviewSite) : Except JsError PublicBatch → ReviewSite → Prop
  | unrejected (e : JsError) (failed : quiet faults.reject = .failed ()) :
      TriedRejection faults args batch s (.error e) s
  | rejectionLost (e : JsError) (lost : quiet faults.reject = .lost ()) :
      TriedRejection faults args batch s (.error e) (rejectedSite args batch s)
  | unconfirmed (e : JsError) (rejection : quiet faults.reject = .done)
      (unread : settled faults.readAudit = .failed ()) :
      TriedRejection faults args batch s (.error e) (rejectedSite args batch s)
  | done (rejected : PublicBatch) (rejection : quiet faults.reject = .done)
      (audit : settled faults.readAudit = .done) :
      TriedRejection faults args batch s (.ok rejected) (rejectedSite args batch s)

theorem tryRejection_ends (ready : ReadyToReject args s store receiptFile node batch)
    (s₁ : ReviewSite) (state : s₁.state = s.state) :
    Ends (tryRejection R faults args store) s₁ fun r s' => TriedRejection faults args batch s₁ r s' := by
  obtain ⟨shown, accepts⟩ := ready.rejectable.ok
  have code : R.js.toUpperCase args.storeCode = args.storeCode :=
    toUpperCase_storeCode R.js args.storeCode_valid
  have valid : (args.batchId != "" && isStoreCode (R.js.toUpperCase args.storeCode)) = true := by
    rw [code, args.storeCode_valid, Bool.and_true]
    exact bne_iff_ne.mpr args.batchId_nonEmpty
  have starts : rejectStore R.js faults.reject args.request =
      mutate faults.reject (rejectStoreIn args.request args.storeCode) := by
    change (requireThat (args.batchId != "" && isStoreCode (R.js.toUpperCase args.storeCode)) _ >>=
      fun _ => mutate faults.reject (rejectStoreIn args.request (R.js.toUpperCase args.storeCode))) = _
    rw [valid, code]
    rfl
  have same : rejectedSite args batch s₁ =
      { s₁ with state := (rejectedSite args batch s).state } := by
    unfold rejectedSite
    rw [state]
  unfold tryRejection
  rw [ends_bind, starts]
  rw [← state] at accepts
  refine (onState_took accepts).mono fun r s₂ took => ?_
  obtain ⟨rejection, ⟨e, rfl, -⟩, rfl⟩ | ⟨rejection, ⟨e, rfl, -⟩, rfl⟩ | ⟨rejection, ⟨rejected, rfl⟩, rfl⟩ := took.cases
  · exact .unrejected e rejection
  · have lost : TriedRejection faults args batch s₁ _ _ := .rejectionLost e rejection
    rw [same] at lost
    rw [state]
    exact lost
  · rw [post_ok, ends_bind]
    refine (confirmRejectedAudit_ends ready (by rw [state]; rfl)).mono ?_
    rintro _ _ ⟨⟨audit, rfl⟩ | ⟨unread, e, rfl⟩, rfl⟩
    · have done : TriedRejection faults args batch s₁ _ _ := .done rejected rejection audit
      rw [same] at done
      rw [state]
      exact done
    · have unconfirmed : TriedRejection faults args batch s₁ _ _ := .unconfirmed e rejection unread
      rw [same] at unconfirmed
      rw [state]
      exact unconfirmed

theorem quarantine_uncoded {e : JsError} (code : Coded quarantineCodes.all e) : ¬ Coded rollbackFailures e := by
  intro left
  simp only [Coded, quarantineCodes, MoveCodes.all, List.map_cons, List.map_nil, List.mem_cons,
    List.not_mem_nil, or_false] at code
  rcases code with code | code | code | code <;>
    simp [Coded, rollbackFailures, code] at left

/-- The receipt of a rejection that failed is renamed back, or the error says that it is not. -/
theorem restore_ends (quarantined : s.receipts quarantine = some node) (free : s.receipts receiptFile = none) :
    Ends (do
      match ← observing (restoreReceipt receiptRollbackCodes faults.restoration quarantine receiptFile
          node) with
      | .error _ =>
        throw (failed "REJECTION_FAILED_ROLLBACK_FAILED"
          "state rejection failed and the receipt could not be restored")
      | .ok _ =>
        throw (failed "REJECTION_STATE_FAILED" "state rejection failed; receipt was restored") :
      ReviewAction PublicBatch) s fun r s' => ∃ e, r = .error e ∧
        (faults.restoration.restoration = .done ∧ ¬ Coded rollbackFailures e ∧
            s' = s.move quarantine receiptFile ∨
          faults.restoration.restoration ≠ .done ∧ Coded rollbackFailures e) := by
  rw [ends_bind, ends_observing]
  refine (restoreReceipt_took quarantined free).mono fun r s' took => ?_
  rw [post_ok]
  obtain ⟨trip, ⟨e, rfl, -⟩, rfl⟩ | ⟨trip, ⟨e, rfl, -⟩, rfl⟩ | ⟨trip, ⟨_, rfl⟩, rfl⟩ := took.cases <;> rw [trip]
  · exact ⟨_, rfl, .inr ⟨nofun, by simp [Coded, rollbackFailures, failed]⟩⟩
  · exact ⟨_, rfl, .inr ⟨nofun, by simp [Coded, rollbackFailures, failed]⟩⟩
  · exact ⟨_, rfl, .inl ⟨rfl, by simp [Coded, rollbackFailures, failed], rfl⟩⟩

theorem rejected_changed (ready : ReadyToReject args s store receiptFile node batch)
    {s' : ReviewSite} (state : s'.state = (rejectedSite args batch s).state) : ¬ Unchanged args.storeCode s s' := by
  intro unchanged
  have kept := unchanged.store args.batchId
  rw [state, storeOf_rejectedSite ready,
    show s.state.storeOf args.batchId args.storeCode = some store from ready.rejectable.found] at kept
  have status := congrArg BatchStore.status (Option.some.inj kept)
  rw [ready.rejectable.awaits] at status
  exact nomatch status

theorem rejection_decided_iff (R : ReviewSettings) (faults : RejectionFaults) (args : RejectionArguments)
    (s : ReviewSite) : Ends (rejectAuthorizationReceipt R faults args) s (Decided (Rejected args s) args.storeCode s) ↔
      ¬ RejectionSlips R faults args s := by
  suffices h : Ends (rejectAuthorizationReceipt R faults args) s fun r s' =>
      Decided (Rejected args s) args.storeCode s r s' ↔ ¬ RejectionSlips R faults args s from h
  have unchanged {e : JsError} : Decided (Rejected args s) args.storeCode s (.error e) s :=
    .inr ⟨rfl, fun _ => rfl, fun _ _ => id⟩
  unfold rejectAuthorizationReceipt
  rw [ends_bind, ends_get, post_ok, ends_bind]
  cases prepared : prepareRejection faults args s with
  | error e =>
    refine ends_ofExcept.mpr (iff_of_true unchanged ?_)
    rintro ⟨store, receiptFile, node, found, -⟩
    exact nomatch prepared.symm.trans found
  | ok found =>
    obtain ⟨store, receiptFile, node⟩ := found
    obtain ⟨batch, ready⟩ := prepareRejection_ok prepared
    have slips : RejectionSlips R faults args s ↔
        RejectionStrays faults s (quarantineName R.pid args.bytes receiptFile) := by
      constructor
      · rintro ⟨_, _, _, found, strays⟩
        obtain ⟨rfl, same⟩ := Prod.mk.inj (Except.ok.inj (prepared.symm.trans found))
        obtain ⟨rfl, rfl⟩ := Prod.mk.inj same
        exact strays
      · exact fun strays => ⟨store, receiptFile, node, prepared, strays⟩
    rw [slips]
    have apart := quarantineName_ne R.pid args.bytes receiptFile
    rw [ends_ofExcept, post_ok]
    dsimp only
    generalize quarantineName R.pid args.bytes receiptFile = quarantine at apart ⊢
    rw [ends_bind]
    refine (isolateReceipt_took ready.there).mono fun r s₁ took => ?_
    obtain ⟨isolation, ⟨e, rfl, -⟩, rfl⟩ | ⟨isolation, ⟨e, rfl, code⟩, rfl⟩ | ⟨isolation, ⟨_, rfl⟩, rfl⟩ := took.cases
    · refine iff_of_true unchanged fun strays => ?_
      cases strays <;> simp_all
    · refine iff_of_false (fun left => ?_) fun straight => straight (.isolation isolation)
      rcases left with coded | kept
      · exact quarantine_uncoded code coded
      · have there := kept.receipts _ _ ready.there
        rw [move_source apart] at there
        exact nomatch there
    · have free : s.receipts quarantine = none := by
        unfold MoveFaults.isolation at isolation
        rw [guarded_done_iff, Bool.or_eq_false_iff] at isolation
        exact Option.not_isSome_iff_eq_none.mp (Bool.eq_false_iff.mp isolation.1.2)
      let moved := s.move receiptFile quarantine
      have quarantined : moved.receipts quarantine = some node := move_target ready.there
      have source : moved.receipts receiptFile = none := move_source apart
      have back : (moved.move quarantine receiptFile).receipts = s.receipts := move_move _ free
      rw [post_ok, ends_bind, ends_observing]
      refine (tryRejection_ends ready moved rfl).mono fun r s₂ tried => ?_
      rw [post_ok]
      cases tried with
      | unrejected e failed =>
        refine (restore_ends quarantined source).mono ?_
        rintro _ s₃ ⟨e, rfl, ended⟩
        refine iff_of_true ?_ fun strays => ?_
        · rcases ended with ⟨-, -, rfl⟩ | ⟨-, coded⟩
          · exact .inr ⟨rfl, fun _ => rfl, fun name receipt stored => (congrFun back name).trans stored⟩
          · exact .inl coded
        · cases strays <;> simp_all
      | rejectionLost e lost =>
        refine (restore_ends (s := rejectedSite args batch moved) quarantined source).mono ?_
        rintro _ s₃ ⟨e, rfl, ended⟩
        rcases ended with ⟨restored, uncoded, rfl⟩ | ⟨stuck, coded⟩
        · exact iff_of_false (not_or.mpr ⟨uncoded, rejected_changed ready rfl⟩) fun straight =>
            straight (.rejection isolation lost restored)
        · refine iff_of_true (.inl coded) fun strays => ?_
          cases strays <;> simp_all
      | unconfirmed e rejection unread =>
        refine (restore_ends (s := rejectedSite args batch moved) quarantined source).mono ?_
        rintro _ s₃ ⟨e, rfl, ended⟩
        rcases ended with ⟨restored, uncoded, rfl⟩ | ⟨stuck, coded⟩
        · exact iff_of_false (not_or.mpr ⟨uncoded, rejected_changed ready rfl⟩) fun straight =>
            straight (.audit isolation rejection unread restored)
        · refine iff_of_true (.inl coded) fun strays => ?_
          cases strays <;> simp_all
      | done rejected rejection audit =>
        have straight : ¬ RejectionStrays faults s quarantine := by
          intro strays
          cases strays <;> simp_all
        refine ends_bind.mpr ((deleteIsolatedReceipt_took (s := rejectedSite args batch moved)
          quarantined).mono fun r s₃ took => ?_)
        obtain ⟨-, ⟨e, rfl, code⟩, rfl⟩ | ⟨-, ⟨e, rfl, code⟩, rfl⟩ | ⟨-, ⟨_, rfl⟩, rfl⟩ := took.cases
        · exact iff_of_true (.inl (Coded.of_subset (by simp [rollbackFailures]) e code)) straight
        · exact iff_of_true (.inl (Coded.of_subset (by simp [rollbackFailures]) e code)) straight
        · have stored := storeOf_rejectedSite ready
          exact iff_of_true (⟨rfl, node, args.batchId, store, receiptFile, ready.rejectable.found,
            ready.rejectable.awaits, ready.file, ready.there, stored, move_remove free apart⟩ :
            Rejected args s ((rejectedSite args batch moved).remove quarantine)) straight

end Rejection

/-! ## The law -/

/-- **A review decision is a transaction exactly where no step strays**: it succeeds with the store
reviewed and the receipt gone, says that it left something behind, or leaves everything as it was,
unless a step takes effect and is reported as failed where nothing undoes it. -/
theorem reviewDecision_transaction (R : ReviewSettings) (s : ReviewSite) :
    (∀ faults args, Ends (finalizeAuthorizationReceipt R faults args) s
        (Decided (Finalized R args s) args.storeCode s) ↔ ¬ FinalizationSlips R faults args s) ∧
      ∀ faults args, Ends (rejectAuthorizationReceipt R faults args) s
        (Decided (Rejected args s) args.storeCode s) ↔ ¬ RejectionSlips R faults args s :=
  ⟨fun faults args => finalization_decided_iff R faults args s,
    fun faults args => rejection_decided_iff R faults args s⟩

/-! ## A rejection that is written and reported as failed -/

def plainSettings : ReviewSettings where
  js := .ascii
  toLowerCase := id
  sha256 := id
  toISOString _ := ""
  parse _ := none
  stringify _ := ""
  validateFullManagedConfig _ := .ok ()
  pid := 1

def awaitingStore : BatchStore where
  storeCode := "S1"
  status := .reviewRequired
  supplierId := some "1"
  receiptFile := some "r.secret.json"
  credentialFingerprint := some (String.ofList (List.replicate 64 'a'))

def awaitingBatch : Batch where
  batchId := "b"
  label := ""
  tokenHash := ""
  status := .active
  createdAt := 0
  expiresAt := 10
  stores := [awaitingStore]

def awaitingReceipt : ReceiptNode where
  ino := 1
  content := .obj [("schemaVersion", .num (.int 1)), ("cooperationMode", .str "FULL_MANAGED"),
    ("status", .str "REVIEW_REQUIRED"), ("batchId", .str "b"), ("storeCode", .str "S1"),
    ("identity", .obj [("supplierId", .str "1")])]

def awaitingSite : ReviewSite where
  state := ⟨[awaitingBatch], []⟩
  config := ""
  receipts := Function.update (fun _ => none) "r.secret.json" (some awaitingReceipt)

def rejectIt : RejectionArguments where
  batchId := "b"
  storeCode := "S1"
  supplierId := "1"
  now := 1
  bytes := ""
  batchId_nonEmpty := by decide
  storeCode_valid := by decide

/-- The state file is renamed into place, and the call fails afterwards. -/
def lostRejection : RejectionFaults := { reject := .lost { message := "lock could not be released" } }

theorem prepareRejection_lostRejection : prepareRejection lostRejection rejectIt awaitingSite =
    .ok (awaitingStore, "r.secret.json", awaitingReceipt) := by
  rfl

/-- A rejection whose update of the state file is written and then reported as failed: the receipt is put
back, the error says that the rejection failed, and the store is rejected all the same. -/
theorem lostRejection_undecided : ¬ Ends (rejectAuthorizationReceipt plainSettings lostRejection rejectIt) awaitingSite
      (Decided (Rejected rejectIt awaitingSite) rejectIt.storeCode awaitingSite) := by
  rw [rejection_decided_iff, not_not]
  have apart := quarantineName_ne 1 "" "r.secret.json"
  have free : awaitingSite.receipts (quarantineName 1 "" "r.secret.json") = none :=
    Function.update_of_ne apart (some awaitingReceipt) fun _ => none
  refine ⟨_, _, _, prepareRejection_lostRejection, .rejection ?_ rfl rfl⟩
  change lostRejection.isolation.isolation
    (awaitingSite.receipts (quarantineName 1 "" "r.secret.json")).isSome = .done
  rw [free]
  rfl

end FullManagedBi.Authorization.Review
