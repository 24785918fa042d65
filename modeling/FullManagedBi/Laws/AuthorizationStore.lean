import FullManagedBi.Authorization.FileStore
import FullManagedBi.Lib.Run

/-!
# What holds of the authorization file

`Change s s'` says once what a call can do to the file. From it, over every sequence of calls:

- at most one batch is active, at most one state of a store is live, an attempt is counted within its
  limit, and two stores never share a supplier or a credential (`authorizationStore_invariants`);
- a late failure of a superseded or expired state leaves the live attempt alone, and leaves the store
  alone exactly where the store is not authorizing (`failState_undisturbed_iff`).
-/

namespace FullManagedBi.Authorization

open Lib

variable {js : TextBuiltins} {s s' : StateFile}

/-! ## What a call writes -/

variable (trip : RoundTrip JsError)

theorem write_ends (new : StateFile) : Ends (write trip new) s fun _ s' => s' = if trip.commits then new else s := by
  cases trip <;> rfl

/-- An operation that wants the file changed changes it where the write commits. -/
theorem mutate_ends {β : Type} (operation : Operation β) : Ends (mutate trip operation) s fun _ s' =>
      s' = if trip.commits then (written operation s).getD s else s := by
  unfold mutate written
  rw [ends_bind, ends_get, post_ok]
  rcases operation s with ⟨e, _ | new⟩ | ⟨result, new⟩
  · simp only [ends_throw, Option.getD_none, ite_self]
  · refine ends_bind.mpr ((write_ends trip new).mono fun r s' wrote => ?_)
    cases r <;> exact wrote
  · refine ends_bind.mpr ((write_ends trip new).mono fun r s' wrote => ?_)
    cases r <;> exact wrote

theorem requireThat_ends {β : Type} {holds : Bool} {message : String}
    {rest : Action StateFile JsError β} {R : StateFile → Prop} (same : R s)
    (passed : holds = true → Ends rest s fun _ => R) :
    Ends (requireThat holds message >>= fun _ => rest) s fun _ => R := by
  cases holds with
  | false => exact same
  | true => exact passed rfl

/-! ## What a call can do -/

def limitOf : AuthorizationCall → Nat
  | .beginState _ r => r.maxAttempts
  | _ => 0

def begins (js : TextBuiltins) (s : StateFile) : AuthorizationCall → Option String
  | .beginState trip r =>
    let storeCode := js.toUpperCase r.storeCode
    if isSha256Hex r.tokenHash && isSha256Hex r.stateHash && isStoreCode storeCode &&
        trip.commits && (beginStateIn r storeCode s).isOk then
      some r.stateHash
    else none
  | _ => none

def succeeds (s : StateFile) : AuthorizationCall → Option String
  | .completeState trip r =>
    if trip.commits && (completeStateIn r s).isOk then some r.stateHash else none
  | _ => none

/-- What one call, allowing `limit` attempts, can make of the file: the state it begins, the state it
lets succeed, and the file after it. -/
inductive Change (limit : Nat) (s : StateFile) : Option String → Option String → StateFile → Prop where
  | nothing : Change limit s none none s
  | created (batch : Batch) (now : Instant) (active : batch.status = .active)
      (fresh : ∀ store ∈ batch.stores, store.status = .notStarted ∧ store.attemptCount = 0) :
      Change limit s none none
        (pruneStates { s with batches := s.batches.map revoke ++ [batch] } now)
  | begun (r : BeginRequest) (batch : Batch) (store : BatchStore)
      (found : findBatchByHash s r.tokenHash = some batch)
      (member : findStore batch store.storeCode = some store)
      (room : store.attemptCount < limit) :
      Change limit s (some r.stateHash) none (begun r batch store s)
  | late (stateHash : String) (now : Instant) (item : AuthorizationState)
      (found : s.stateOf stateHash = some item) (pending : item.status = .pending) :
      Change limit s none none
        ((s.updateState stateHash (expire now)).updateStore item.batchId item.storeCode
          (endAttempt "STATE_EXPIRED"))
  | claimed (stateHash : String) (now : Instant) (item : AuthorizationState)
      (found : s.stateOf stateHash = some item) (pending : item.status = .pending) :
      Change limit s none none (s.updateState stateHash (process now))
  | batchEnded (stateHash : String) (now : Instant) (item : AuthorizationState)
      (found : s.stateOf stateHash = some item) (processing : item.status = .processing) :
      Change limit s none none (s.updateState stateHash (failWithBatch now))
  | completed (r : CompleteRequest) (item : AuthorizationState) (batch : Batch)
      (store : BatchStore) (found : s.stateOf r.stateHash = some item)
      (processing : item.status = .processing) (inFile : s.batchOf item.batchId = some batch)
      (member : findStore batch item.storeCode = some store)
      (unbound : s.stores.findSome? (bindingConflict r store.storeCode) = none) :
      Change limit s none (some r.stateHash) (completed r item s)
  | failed (r : FailRequest) (item : AuthorizationState)
      (found : s.stateOf r.stateHash = some item) (unfinished : item.status ≠ .succeeded) :
      Change limit s none none (failedFile r item s)
  | reviewed (batch : Batch) (store : BatchStore) (f : BatchStore → BatchStore)
      (inFile : s.batchOf batch.batchId = some batch)
      (member : findStore batch store.storeCode = some store)
      (received : store.status.received = true)
      (identity : (f store).storeCode = store.storeCode ∧ (f store).supplierId = store.supplierId ∧
        (f store).credentialFingerprint = store.credentialFingerprint ∧
        (f store).attemptCount = store.attemptCount) :
      Change limit s none none (s.updateStore batch.batchId store.storeCode f)
  | rejected (batch : Batch) (storeCode : String) (now : Instant)
      (only : s.batches.filter (fun other => decide (other.batchId = batch.batchId)) = [batch]) :
      Change limit s none none
        (s.updateBatch batch.batchId fun _ => rejectedBatch s batch storeCode now)

variable {batch : Batch} {store : BatchStore}

theorem findStore_code {storeCode : String} (member : findStore batch storeCode = some store) : store.storeCode = storeCode := by
  have same := List.find?_some member
  exact of_decide_eq_true same

theorem batchOf_id {batchId : String} (inFile : s.batchOf batchId = some batch) : batch.batchId = batchId := by
  have same := List.find?_some inFile
  exact of_decide_eq_true same

variable {item : AuthorizationState}

theorem stateOf_hash {stateHash : String} (found : s.stateOf stateHash = some item) : item.stateHash = stateHash := by
  have same := List.find?_some found
  simp only [safeEqualHex, Bool.and_eq_true, decide_eq_true_eq] at same
  exact same.2

theorem beginStateIn_change (r : BeginRequest) (storeCode : String) :
    (∃ result batch store, beginStateIn r storeCode s = .ok (result, begun r batch store s) ∧
      findBatchByHash s r.tokenHash = some batch ∧
      findStore batch store.storeCode = some store ∧ store.attemptCount < r.maxAttempts) ∨
    ∃ e, beginStateIn r storeCode s = .error ⟨e, none⟩ := by
  unfold beginStateIn refuse
  split
  · exact .inr ⟨_, rfl⟩
  · rename_i batch found
    split
    · exact .inr ⟨_, rfl⟩
    · split
      · exact .inr ⟨_, rfl⟩
      · split
        · exact .inr ⟨_, rfl⟩
        · rename_i store member
          split
          · exact .inr ⟨_, rfl⟩
          · split
            · exact .inr ⟨_, rfl⟩
            · split
              · exact .inr ⟨_, rfl⟩
              · rename_i room
                have code := findStore_code member
                exact .inl ⟨_, batch, store, rfl, found, code ▸ member, by omega⟩

theorem claimStateIn_change (stateHash : String) (now : Instant) (limit : Nat) :
    Change limit s none none ((written (claimStateIn stateHash now) s).getD s) := by
  unfold written claimStateIn refuse
  cases found : s.stateOf stateHash with
  | none => exact .nothing
  | some item =>
    by_cases pending : item.status = .pending
    · simp only [pending, ne_eq, not_true_eq_false, if_false]
      by_cases late : item.expiresAt ≤ now
      · rw [if_pos late]
        exact .late stateHash now item found pending
      · rw [if_neg late]
        by_cases closed : (s.batchOf item.batchId).all (·.closed now) = true
        · rw [if_pos closed]
          exact .nothing
        · rw [if_neg closed]
          exact .claimed stateHash now item found pending
    · simp only [pending, ne_eq, not_false_eq_true, if_true]
      exact .nothing

variable (r : CompleteRequest)

/-- `completeState` lets the state succeed, ends it with its batch, or changes nothing. -/
theorem completeStateIn_change (limit : Nat) : (∃ result new, completeStateIn r s = .ok (result, new) ∧
      Change limit s none (some r.stateHash) new) ∨
    ∃ refusal, completeStateIn r s = .error refusal ∧
      Change limit s none none (refusal.persist.getD s) := by
  unfold completeStateIn refuse
  cases found : s.stateOf r.stateHash with
  | none => exact .inr ⟨_, rfl, .nothing⟩
  | some item =>
    by_cases processing : item.status = .processing
    · simp only [processing, ne_eq, not_true_eq_false, if_false]
      cases inFile : s.batchOf item.batchId with
      | none => exact .inr ⟨_, rfl, .nothing⟩
      | some batch =>
        cases member : findStore batch item.storeCode with
        | none =>
          simp only [member]
          exact .inr ⟨_, rfl, .nothing⟩
        | some store =>
          simp only [member]
          by_cases closed : batch.closed r.completedAt = true
          · rw [if_pos closed]
            exact .inr ⟨_, rfl, .batchEnded r.stateHash r.completedAt item found processing⟩
          · rw [if_neg closed]
            cases unbound : s.stores.findSome? (bindingConflict r store.storeCode) with
            | none =>
              exact .inl ⟨_, _, rfl,
                .completed r item batch store found processing inFile member unbound⟩
            | some refusal =>
              obtain ⟨other, -, conflict⟩ := List.exists_of_findSome?_eq_some unbound
              have lost : refusal.persist = none := by
                unfold bindingConflict at conflict
                split at conflict
                · exact nomatch conflict
                · split at conflict
                  · rw [← Option.some.inj conflict]
                  · split at conflict
                    · rw [← Option.some.inj conflict]
                    · exact nomatch conflict
              exact .inr ⟨refusal, rfl, by rw [lost]; exact .nothing⟩
    · simp only [processing, ne_eq, not_false_eq_true, if_true]
      exact .inr ⟨_, rfl, .nothing⟩

theorem failStateIn_change (r : FailRequest) (limit : Nat) :
    Change limit s none none ((written (failStateIn r) s).getD s) := by
  unfold written failStateIn
  cases found : s.stateOf r.stateHash with
  | none => exact .nothing
  | some item =>
    by_cases ended : item.status = .succeeded
    · simp only [ended, if_true]
      exact .nothing
    · simp only [ended, if_false]
      exact .failed r item found ended

theorem received_of_status (status : store.status = .reviewRequired ∨ store.status = .approved) :
    store.status.received = true := by
  rcases status with status | status <;> rw [status] <;> rfl

theorem approveStoreIn_change (r : ReviewRequest) (storeCode : String) (limit : Nat) :
    Change limit s none none ((written (approveStoreIn r storeCode) s).getD s) := by
  unfold written approveStoreIn refuse
  cases inFile : s.batchOf r.batchId with
  | none => exact .nothing
  | some batch =>
    cases member : findStore batch storeCode with
    | none =>
      simp only [member]
      exact .nothing
    | some store =>
      simp only [member]
      by_cases status : store.status = .reviewRequired
      · simp only [status, ne_eq, not_true_eq_false, if_false]
        by_cases supplier : textOf store.supplierId = r.supplierId
        · simp only [supplier, not_true_eq_false, if_false]
          have code := findStore_code member
          have id := batchOf_id inFile
          subst code
          rw [← id] at inFile
          exact .reviewed batch store (approve r.reviewedAt) inFile member
            (received_of_status (.inl status)) ⟨rfl, rfl, rfl, rfl⟩
        · simp only [supplier, not_false_eq_true, if_true]
          exact .nothing
      · simp only [status, ne_eq, not_false_eq_true, if_true]
        exact .nothing

theorem rollbackStoreApprovalIn_change (r : RollbackRequest) (storeCode : String) (limit : Nat) :
    Change limit s none none ((written (rollbackStoreApprovalIn r storeCode) s).getD s) := by
  unfold written rollbackStoreApprovalIn refuse
  cases inFile : s.batchOf r.batchId with
  | none => exact .nothing
  | some batch =>
    cases member : findStore batch storeCode with
    | none =>
      simp only [member]
      exact .nothing
    | some store =>
      simp only [member]
      by_cases matching : rollbackMatches r store = true
      · simp only [matching, Bool.not_true, Bool.false_eq_true, if_false]
        have code := findStore_code member
        have id := batchOf_id inFile
        have status : store.status = .approved := by
          simp only [rollbackMatches, Bool.and_eq_true, decide_eq_true_eq] at matching
          exact matching.1.1.1.1.1.1
        subst code
        rw [← id] at inFile
        exact .reviewed batch store (rollBack (basename r.receiptFile)) inFile member
          (received_of_status (.inr status)) ⟨rfl, rfl, rfl, rfl⟩
      · simp only [matching, Bool.not_false, if_true]
        exact .nothing

theorem rejectStoreIn_change (r : ReviewRequest) (storeCode : String) (limit : Nat) :
    Change limit s none none ((written (rejectStoreIn r storeCode) s).getD s) := by
  unfold written rejectStoreIn refuse
  split
  · rename_i new ran
    split at ran
    · rename_i batch only
      split at ran
      · split at ran
        · exact nomatch ran
        · split at ran
          · exact nomatch ran
          · obtain ⟨-, rfl⟩ := Prod.mk.inj (Except.ok.inj ran)
            have member : batch ∈ s.batches.filter fun other => decide (other.batchId = r.batchId) := by
              rw [only]
              exact List.mem_singleton_self batch
            have id : batch.batchId = r.batchId := of_decide_eq_true (List.mem_filter.mp member).2
            rw [← id] at only ⊢
            exact .rejected batch storeCode r.reviewedAt only
      · exact nomatch ran
    · exact nomatch ran
  · rename_i refusal ran
    split at ran
    · split at ran
      · split at ran
        · rw [← Except.error.inj ran]
          exact .nothing
        · split at ran
          · rw [← Except.error.inj ran]
            exact .nothing
          · exact nomatch ran
      · rw [← Except.error.inj ran]
        exact .nothing
    · rw [← Except.error.inj ran]
      exact .nothing

/-- An operation that makes a change makes it or, where its write does not commit, makes none. -/
theorem mutate_change {β : Type} {limit : Nat} {operation : Operation β}
    (change : Change limit s none none ((written operation s).getD s)) (trip : RoundTrip JsError) :
    Ends (mutate trip operation) s fun _ s' => Change limit s none none s' := by
  refine (mutate_ends trip operation).mono fun _ s' wrote => ?_
  rw [wrote]
  split
  · exact change
  · exact .nothing

theorem mem_newBatch {r : BatchRequest} (mem : store ∈ (newBatch js r).stores) :
    store.status = .notStarted ∧ store.attemptCount = 0 := by
  obtain ⟨storeCode, -, rfl⟩ := List.mem_map.mp mem
  exact ⟨rfl, rfl⟩

theorem createBatch_change (r : BatchRequest) :
    Ends (createBatch js trip r) s fun _ s' => Change 0 s none none s' := by
  unfold createBatch
  iterate 6 refine requireThat_ends (R := Change 0 s none none) .nothing fun _ => ?_
  exact mutate_change (.created (newBatch js r) r.createdAt rfl fun _ => mem_newBatch) trip

theorem beginState_change (r : BeginRequest) : Ends (beginState js trip r) s fun _ s' =>
      Change r.maxAttempts s (begins js s (.beginState trip r)) none s' := by
  unfold beginState begins
  dsimp only
  cases checked : isSha256Hex r.tokenHash && isSha256Hex r.stateHash &&
      isStoreCode (js.toUpperCase r.storeCode) with
  | false => exact .nothing
  | true =>
    change Ends (mutate trip (beginStateIn r (js.toUpperCase r.storeCode))) s _
    refine (mutate_ends trip (beginStateIn r (js.toUpperCase r.storeCode))).mono fun _ s' wrote => ?_
    rw [wrote, Bool.true_and]
    cases trip.commits with
    | false => exact .nothing
    | true =>
      rcases beginStateIn_change (s := s) r (js.toUpperCase r.storeCode) with
        ⟨result, batch, store, ran, found, member, room⟩ | ⟨e, ran⟩
      · simp only [written, ran, if_true]
        exact .begun r batch store found member room
      · simp only [written, ran, if_true]
        exact .nothing

theorem completeState_change : Ends (completeState trip r) s fun _ s' =>
      Change 0 s none (succeeds s (.completeState trip r)) s' := by
  unfold completeState succeeds
  dsimp only
  refine (mutate_ends trip (completeStateIn r)).mono fun _ s' wrote => ?_
  rw [wrote]
  cases trip.commits with
  | false => exact .nothing
  | true =>
    rcases completeStateIn_change (s := s) r 0 with ⟨result, new, ran, change⟩ | ⟨e, ran, change⟩
    · simp only [written, ran, if_true]
      exact change
    · simp only [written, ran, if_true]
      exact change

/-- **Each call makes one change**, of the kind it says. -/
theorem authorizationStep_change (js : TextBuiltins) (s : StateFile) (call : AuthorizationCall) :
    Change (limitOf call) s (begins js s call) (succeeds s call) (authorizationStep js s call) := by
  cases call with
  | createBatch trip r => exact createBatch_change trip r
  | beginState trip r => exact beginState_change trip r
  | claimState trip stateHash claimedAt =>
    exact requireThat_ends (R := Change 0 s none none) .nothing fun _ =>
      mutate_change (claimStateIn_change stateHash claimedAt 0) trip
  | completeState trip r => exact completeState_change trip r
  | failState trip r => exact mutate_change (failStateIn_change r 0) trip
  | approveStore trip r => exact mutate_change (approveStoreIn_change r _ 0) trip
  | rollbackStoreApproval trip r => exact mutate_change (rollbackStoreApprovalIn_change r _ 0) trip
  | rejectStore trip r =>
    exact requireThat_ends (R := Change 0 s none none) .nothing fun _ =>
      mutate_change (rejectStoreIn_change r _ 0) trip

/-! ## Invariants -/

/-- No two different stores that were received share a supplier or a credential. -/
def BoundOnce (stores : List BatchStore) : Prop :=
  ∀ a ∈ stores, ∀ b ∈ stores, a.status.received = true → b.status.received = true →
    a.storeCode ≠ b.storeCode →
      a.supplierId ≠ b.supplierId ∧ a.credentialFingerprint ≠ b.credentialFingerprint

/-- What holds of every file the calls can lead to. -/
structure StoreInvariants (s : StateFile) : Prop where
  oneActive : s.batches.countP (fun batch => batch.status = .active) ≤ 1
  oneLive : ∀ batchId storeCode,
    s.states.countP (fun item => item.belongsTo batchId storeCode && item.live) ≤ 1
  boundOnce : BoundOnce s.stores

variable {p : Batch → Bool} {f : BatchStore → BatchStore}

/-- A store after an assignment inside one batch: an old one, or what became of the one found. -/
theorem mem_stores_updateFirst {g : Batch → Batch} (storeCode : String) {batches : List Batch}
    (inside : ∀ batch, batches.find? p = some batch → (g batch).stores = (batch.updateStore storeCode f).stores)
    (mem : store ∈ (updateFirst p g batches).flatMap (·.stores)) : store ∈ batches.flatMap (·.stores) ∨
      ∃ batch old, batches.find? p = some batch ∧ findStore batch storeCode = some old ∧
        store = f old := by
  obtain ⟨batch, stored, mem⟩ := List.mem_flatMap.mp mem
  rcases mem_updateFirst stored with stored | ⟨batch, found, rfl⟩
  · exact .inl (List.mem_flatMap.mpr ⟨batch, stored, mem⟩)
  · rw [inside batch found] at mem
    rcases mem_updateFirst mem with mem | ⟨old, member, rfl⟩
    · exact .inl (List.mem_flatMap.mpr ⟨batch, List.mem_of_find?_eq_some found, mem⟩)
    · exact .inr ⟨batch, old, found, member, rfl⟩

theorem mem_stores_of_found {storeCode : String} (found : s.batches.find? p = some batch)
    (member : findStore batch storeCode = some store) : store ∈ s.stores :=
  List.mem_flatMap.mpr
    ⟨batch, List.mem_of_find?_eq_some found, List.mem_of_find?_eq_some member⟩

/-- A store that was received after a change was received before it, as the same store, unless the
change is the one that receives it. -/
def Traced (stores stores' : List BatchStore) : Prop :=
  ∀ store ∈ stores', store.status.received = true →
    ∃ old ∈ stores, old.status.received = true ∧ old.storeCode = store.storeCode ∧
      old.supplierId = store.supplierId ∧
      old.credentialFingerprint = store.credentialFingerprint

theorem BoundOnce.of_traced {stores stores' : List BatchStore} (bound : BoundOnce stores)
    (traced : Traced stores stores') : BoundOnce stores' := by
  intro a memA b memB receivedA receivedB different
  obtain ⟨oldA, oldMemA, oldReceivedA, codeA, supplierA, credentialA⟩ := traced a memA receivedA
  obtain ⟨oldB, oldMemB, oldReceivedB, codeB, supplierB, credentialB⟩ := traced b memB receivedB
  rw [← codeA, ← codeB] at different
  rw [← supplierA, ← supplierB, ← credentialA, ← credentialB]
  exact bound oldA oldMemA oldB oldMemB oldReceivedA oldReceivedB different

/-- An assignment to one store traces, where it receives the store only if it was received and leaves
its identity. -/
theorem traced_updateFirst {g : Batch → Batch} (storeCode : String) (inside : ∀ batch, s.batches.find? p = some batch →
      (g batch).stores = (batch.updateStore storeCode f).stores)
    (tame : ∀ batch old, s.batches.find? p = some batch → findStore batch storeCode = some old →
      (f old).status.received = true → old.status.received = true ∧
        old.storeCode = (f old).storeCode ∧ old.supplierId = (f old).supplierId ∧
        old.credentialFingerprint = (f old).credentialFingerprint) :
    Traced s.stores ((updateFirst p g s.batches).flatMap (·.stores)) := by
  intro store mem received
  rcases mem_stores_updateFirst storeCode inside mem with mem | ⟨batch, old, found, member, rfl⟩
  · exact ⟨store, mem, received, rfl, rfl, rfl⟩
  · exact ⟨old, mem_stores_of_found found member, tame batch old found member received⟩

theorem endAttempt_received {code : String}
    (received : (endAttempt code store).status.received = true) : endAttempt code store = store := by
  unfold endAttempt at received ⊢
  split at received
  · exact nomatch received
  · rename_i other
    rw [if_neg other]

theorem revoke_stores (batch : Batch) : (revoke batch).stores = batch.stores := by
  unfold revoke
  split <;> rfl

theorem closeIfReceived_stores (now : Instant) (batch : Batch) :
    (closeIfReceived now batch).stores = batch.stores := by
  unfold closeIfReceived
  split <;> rfl

theorem rejectedBatch_stores (batch : Batch) (storeCode : String) (now : Instant) :
    (rejectedBatch s batch storeCode now).stores = (batch.updateStore storeCode (reject now)).stores := by
  unfold rejectedBatch
  dsimp only
  split <;> rfl

/-- A received store elsewhere shares nothing with what `completeState` binds. -/
theorem unbound_apart {r : CompleteRequest} {storeCode : String} {other : BatchStore}
    (unbound : s.stores.findSome? (bindingConflict r storeCode) = none) (mem : other ∈ s.stores)
    (received : other.status.received = true) (different : other.storeCode ≠ storeCode) :
    other.supplierId ≠ some r.identity.supplierId ∧
      other.credentialFingerprint ≠ some r.credentialFingerprint := by
  have free := List.findSome?_eq_none_iff.mp unbound other mem
  unfold bindingConflict at free
  rw [if_neg (by simp [different, received])] at free
  split at free
  · exact nomatch free
  · rename_i supplier
    split at free
    · exact nomatch free
    · rename_i credential
      refine ⟨fun same => supplier ?_, credential⟩
      rw [same]
      rfl

variable {began done : Option String}

theorem Change.boundOnce {limit : Nat} (change : Change limit s began done s')
    (bound : BoundOnce s.stores) : BoundOnce s'.stores := by
  cases change with
  | nothing => exact bound
  | created batch now active fresh =>
    refine bound.of_traced fun store mem received => ?_
    obtain ⟨owner, stored, mem⟩ := List.mem_flatMap.mp mem
    rcases mem_concat.mp stored with stored | stored
    · obtain ⟨old, oldStored, rfl⟩ := List.mem_map.mp stored
      rw [revoke_stores] at mem
      exact ⟨store, List.mem_flatMap.mpr ⟨old, oldStored, mem⟩, received, rfl, rfl, rfl⟩
    · rw [stored] at mem
      rw [(fresh store mem).1] at received
      exact nomatch received
  | begun r batch store found member room =>
    refine bound.of_traced (traced_updateFirst store.storeCode (f := startAttempt)
      (fun _ _ => rfl) fun _ _ _ _ received => nomatch received)
  | late stateHash now item found pending =>
    refine bound.of_traced (traced_updateFirst item.storeCode
      (f := endAttempt "STATE_EXPIRED") (fun _ _ => rfl) fun _ old _ _ received => ?_)
    have same := endAttempt_received received
    rw [same] at received ⊢
    exact ⟨received, rfl, rfl, rfl⟩
  | claimed stateHash now item found pending => exact bound
  | batchEnded stateHash now item found processing => exact bound
  | completed r item batch store found processing inFile member unbound =>
    have code := findStore_code member
    -- A store after the change is an old one, or the one that is received now.
    have cases_store : ∀ after ∈ (Authorization.completed r item s).stores,
        after ∈ s.stores ∨ after = receive r store := by
      intro after mem
      rcases mem_stores_updateFirst item.storeCode (f := receive r)
          (fun _ _ => closeIfReceived_stores _ _) mem with mem | ⟨owner, old, foundOwner, memOwner, rfl⟩
      · exact .inl mem
      · have same : owner = batch := Option.mem_unique foundOwner inFile
        subst same
        rw [Option.mem_unique memOwner member]
        exact .inr rfl
    intro a memA b memB receivedA receivedB different
    rcases cases_store a memA with memA | rfl
    · rcases cases_store b memB with memB | rfl
      · exact bound a memA b memB receivedA receivedB different
      · exact unbound_apart unbound memA receivedA different
    · rcases cases_store b memB with memB | rfl
      · obtain ⟨supplier, credential⟩ := unbound_apart unbound memB receivedB different.symm
        exact ⟨supplier.symm, credential.symm⟩
      · exact absurd rfl different
  | failed r item found unfinished =>
    refine bound.of_traced (traced_updateFirst item.storeCode
      (f := endAttempt (safeFailureCode r.failureCode)) (fun _ _ => rfl)
      fun _ old _ _ received => ?_)
    have same := endAttempt_received received
    rw [same] at received ⊢
    exact ⟨received, rfl, rfl, rfl⟩
  | reviewed batch store f inFile member received identity =>
    refine bound.of_traced (traced_updateFirst store.storeCode (f := f)
      (fun _ _ => rfl) fun owner old foundOwner memOwner _ => ?_)
    have same : owner = batch := Option.mem_unique foundOwner inFile
    subst same
    rw [Option.mem_unique memOwner member]
    exact ⟨received, identity.1.symm, identity.2.1.symm, identity.2.2.1.symm⟩
  | rejected batch storeCode now only =>
    refine bound.of_traced (traced_updateFirst storeCode (f := reject now)
      (fun owner foundOwner => ?_) fun _ _ _ _ received => nomatch received)
    rw [Option.mem_unique foundOwner (find?_of_filter_eq_singleton only)]
    exact rejectedBatch_stores batch storeCode now

theorem Change.attempts {limit highest : Nat} (change : Change limit s began done s')
    (within : limit ≤ highest) (bound : ∀ store ∈ s.stores, store.attemptCount ≤ highest) :
    ∀ store ∈ s'.stores, store.attemptCount ≤ highest := by
  -- Every case but the two that add stores or attempts is an assignment that leaves the count alone.
  have assigned : ∀ {p : Batch → Bool} {g : Batch → Batch} (storeCode : String)
      {f : BatchStore → BatchStore},
      (∀ batch, s.batches.find? p = some batch →
        (g batch).stores = (batch.updateStore storeCode f).stores) →
      (∀ batch old, s.batches.find? p = some batch → findStore batch storeCode = some old →
        (f old).attemptCount ≤ highest) →
      ∀ store ∈ (updateFirst p g s.batches).flatMap (·.stores), store.attemptCount ≤ highest := by
    intro p g storeCode f inside counted store mem
    rcases mem_stores_updateFirst storeCode inside mem with mem | ⟨batch, old, found, member, rfl⟩
    · exact bound store mem
    · exact counted batch old found member
  have old_le : ∀ {p : Batch → Bool} {batch : Batch} {storeCode : String} {old : BatchStore},
      s.batches.find? p = some batch → findStore batch storeCode = some old →
      old.attemptCount ≤ highest :=
    fun found member => bound _ (mem_stores_of_found found member)
  have ends : ∀ (code : String) (old : BatchStore),
      (endAttempt code old).attemptCount = old.attemptCount := by
    intro code old
    unfold endAttempt
    split <;> rfl
  cases change with
  | nothing => exact bound
  | created batch now active fresh =>
    intro store mem
    obtain ⟨owner, stored, mem⟩ := List.mem_flatMap.mp mem
    rcases mem_concat.mp stored with stored | stored
    · obtain ⟨old, oldStored, rfl⟩ := List.mem_map.mp stored
      rw [revoke_stores] at mem
      exact bound store (List.mem_flatMap.mpr ⟨old, oldStored, mem⟩)
    · rw [stored] at mem
      rw [(fresh store mem).2]
      exact Nat.zero_le highest
  | begun r batch store found member room =>
    refine assigned store.storeCode (f := startAttempt) (fun _ _ => rfl)
      fun owner old foundOwner memOwner => ?_
    rw [Option.mem_unique foundOwner found] at memOwner
    rw [Option.mem_unique memOwner member]
    change store.attemptCount + 1 ≤ highest
    omega
  | late stateHash now item found pending =>
    refine assigned item.storeCode (f := endAttempt "STATE_EXPIRED") (fun _ _ => rfl)
      fun _ old foundOwner member => ?_
    rw [ends]
    exact old_le foundOwner member
  | claimed stateHash now item found pending => exact bound
  | batchEnded stateHash now item found processing => exact bound
  | completed r item batch store found processing inFile member unbound =>
    exact assigned item.storeCode (f := receive r)
      (fun _ _ => closeIfReceived_stores _ _) fun _ old foundOwner member =>
        (old_le foundOwner member : old.attemptCount ≤ highest)
  | failed r item found unfinished =>
    refine assigned item.storeCode (f := endAttempt (safeFailureCode r.failureCode))
      (fun _ _ => rfl) fun _ old foundOwner member => ?_
    rw [ends]
    exact old_le foundOwner member
  | reviewed batch store f inFile member received identity =>
    refine assigned store.storeCode (f := f) (fun _ _ => rfl)
      fun owner old foundOwner memOwner => ?_
    rw [Option.mem_unique foundOwner inFile] at memOwner
    rw [Option.mem_unique memOwner member, identity.2.2.2]
    exact old_le inFile member
  | rejected batch storeCode now only =>
    refine assigned storeCode (f := reject now) (fun owner foundOwner => ?_)
      fun _ old foundOwner member => (old_le foundOwner member : old.attemptCount ≤ highest)
    rw [Option.mem_unique foundOwner (find?_of_filter_eq_singleton only)]
    exact rejectedBatch_stores batch storeCode now

theorem Change.oneActive {limit : Nat} (change : Change limit s began done s')
    (one : s.batches.countP (fun batch => batch.status = .active) ≤ 1) :
    s'.batches.countP (fun batch => batch.status = .active) ≤ 1 := by
  cases change with
  | nothing => exact one
  | created batch now active fresh =>
    have revoked : (s.batches.map revoke).countP (fun batch => batch.status = .active) = 0 := by
      refine List.countP_eq_zero.mpr fun old mem => ?_
      obtain ⟨before, -, rfl⟩ := List.mem_map.mp mem
      unfold revoke
      by_cases status : before.status = .active <;> simp [status]
    change (s.batches.map revoke ++ [batch]).countP _ ≤ 1
    rw [List.countP_append, revoked, Nat.zero_add]
    exact List.countP_le_length
  | begun r batch store found member room =>
    refine le_trans (countP_updateFirst_le fun _ _ active => ?_) one
    exact active
  | late stateHash now item found pending =>
    refine le_trans (countP_updateFirst_le fun _ _ active => ?_) one
    exact active
  | claimed stateHash now item found pending => exact one
  | batchEnded stateHash now item found processing => exact one
  | completed r item batch store found processing inFile member unbound =>
    refine (countP_updateFirst_le fun old _ active => ?_).trans one
    unfold closeIfReceived at active
    split at active
    · exact nomatch active
    · exact active
  | failed r item found unfinished =>
    refine le_trans (countP_updateFirst_le fun _ _ active => ?_) one
    exact active
  | reviewed batch store f inFile member received identity =>
    refine le_trans (countP_updateFirst_le fun _ _ active => ?_) one
    exact active
  | rejected batch storeCode now only =>
    have found := find?_of_filter_eq_singleton only
    by_cases reopened : (rejectedBatch s batch storeCode now).status = batch.status
    · refine (countP_updateFirst_le fun old foundOld active => ?_).trans one
      rw [Option.mem_unique foundOld found, ← reopened]
      exact active
    · -- The batch is reopened only where no other one is active.
      have others : s.batches.countP (fun other =>
          decide (other.status = .active) && !decide (other.batchId = batch.batchId)) = 0 := by
        refine List.countP_eq_zero.mpr fun other mem isActive => reopened ?_
        simp only [Bool.and_eq_true, decide_eq_true_eq, Bool.not_eq_true',
          decide_eq_false_iff_not] at isActive
        have another : (s.batches.any fun other => decide (other.batchId ≠ batch.batchId) &&
            decide (other.status = .active)) = true :=
          List.any_eq_true.mpr ⟨other, mem, by simp [isActive]⟩
        unfold rejectedBatch
        simp only [another, Bool.not_true, Bool.and_false, Bool.false_and, Bool.false_eq_true,
          if_false]
        rfl
      refine countP_updateFirst_le_add.trans ?_
      rw [others, List.countP_eq_length_filter, only]
      exact Nat.le_refl 1

theorem countP_pruneStates (q : AuthorizationState → Bool) (file : StateFile) (now : Instant) :
    (pruneStates file now).states.countP q ≤ file.states.countP q :=
  List.filter_sublist.countP_le

theorem countP_supersede (states : List AuthorizationState) (now : Instant)
    (batchId storeCode : String) (q : AuthorizationState → Bool)
    (dead : ∀ item, item.live = true → q (supersede now item) = true → q item = true) :
    (updateWhere (fun item => item.belongsTo batchId storeCode && item.live) (supersede now)
      states).countP q ≤ states.countP q := by
  unfold updateWhere
  rw [List.countP_map]
  refine List.countP_mono_left fun item _ after => ?_
  simp only [Function.comp_apply] at after
  split at after
  · rename_i taken
    exact dead item (Bool.and_eq_true_iff.mp taken).2 after
  · exact after

theorem Change.oneLive {limit : Nat} (change : Change limit s began done s') (batchId storeCode : String)
    (one : s.states.countP (fun item => item.belongsTo batchId storeCode && item.live) ≤ 1) :
    s'.states.countP (fun item => item.belongsTo batchId storeCode && item.live) ≤ 1 := by
  cases change with
  | nothing => exact one
  | created batch now active fresh => exact (countP_pruneStates _ _ now).trans one
  | begun r batch store found member room =>
    refine (countP_pruneStates _ _ _).trans ?_
    rw [List.countP_append]
    by_cases same : batch.batchId = batchId ∧ store.storeCode = storeCode
    · obtain ⟨rfl, rfl⟩ := same
      have none_live : (updateWhere
          (fun item => item.belongsTo batch.batchId store.storeCode && item.live)
          (supersede r.createdAt) s.states).countP
            (fun item => item.belongsTo batch.batchId store.storeCode && item.live) = 0 := by
        refine List.countP_eq_zero.mpr fun item mem => ?_
        obtain ⟨old, -, rfl⟩ := mem_updateWhere.mp mem
        split
        · simp [supersede, AuthorizationState.live]
        · assumption
      rw [none_live, Nat.zero_add]
      exact List.countP_le_length
    · have apart : (newState r batch store).belongsTo batchId storeCode = false := by
        rw [Bool.eq_false_iff]
        intro belongs
        obtain ⟨sameBatch, sameStore⟩ := Bool.and_eq_true_iff.mp belongs
        exact same ⟨of_decide_eq_true sameBatch, of_decide_eq_true sameStore⟩
      rw [List.countP_singleton, apart]
      refine le_trans (countP_supersede s.states r.createdAt _ _ _ fun item _ live => ?_) one
      simp [supersede, AuthorizationState.live] at live
  | late stateHash now item found pending =>
    refine le_trans (countP_updateFirst_le fun old _ live => ?_) one
    simp [expire, AuthorizationState.live] at live
  | claimed stateHash now item found pending =>
    refine le_trans (countP_updateFirst_le fun old foundOld live => ?_) one
    rw [Option.mem_unique foundOld found] at live ⊢
    simp only [Bool.and_eq_true] at live ⊢
    exact ⟨live.1, by rw [AuthorizationState.live, pending]; rfl⟩
  | batchEnded stateHash now item found processing =>
    refine le_trans (countP_updateFirst_le fun old _ live => ?_) one
    simp [failWithBatch, AuthorizationState.live] at live
  | completed r item batch store found processing inFile member unbound =>
    refine le_trans (countP_updateFirst_le fun old _ live => ?_) one
    simp [succeed, AuthorizationState.live] at live
  | failed r item found unfinished =>
    refine le_trans (countP_updateFirst_le fun old _ live => ?_) one
    simp [failItem, AuthorizationState.live] at live
  | reviewed batch store f inFile member received identity => exact one
  | rejected batch storeCode now only => exact one

def unfinished (stateHash : String) (s : StateFile) : Nat :=
  s.states.countP fun item => decide (item.stateHash = stateHash) && !decide (item.status = .succeeded)

/-- An assignment to a state that has not succeeded lets no state back. -/
theorem countP_unfinished_le {found : String} {f : AuthorizationState → AuthorizationState}
    (stored : s.stateOf found = some item) (status : item.status ≠ .succeeded)
    (same : (f item).stateHash = item.stateHash) (stateHash : String) :
    unfinished stateHash (s.updateState found f) ≤ unfinished stateHash s := by
  refine countP_updateFirst_le fun old foundOld left => ?_
  rw [Option.mem_unique foundOld stored] at left ⊢
  rw [same] at left
  simp only [Bool.and_eq_true, decide_eq_true_eq, Bool.not_eq_true', decide_eq_false_iff_not]
    at left ⊢
  exact ⟨left.1, status⟩

theorem Change.unfinished {limit : Nat} (change : Change limit s began done s') (stateHash : String) :
    unfinished stateHash s' + (if done = some stateHash then 1 else 0) ≤
      unfinished stateHash s + if began = some stateHash then 1 else 0 := by
  cases change with
  | nothing => exact Nat.le_refl _
  | created batch now active fresh => exact Nat.add_le_add_right (countP_pruneStates _ _ now) 0
  | begun r batch store found member room =>
    simp only [reduceCtorEq, if_false, Nat.add_zero, Option.some.injEq]
    refine (countP_pruneStates _ _ _).trans ?_
    rw [List.countP_append]
    refine Nat.add_le_add
      (countP_supersede s.states r.createdAt _ _ _ fun item live left => ?_) ?_
    · simp only [Bool.and_eq_true] at left ⊢
      refine ⟨left.1, ?_⟩
      unfold AuthorizationState.live at live
      cases status : item.status <;> simp [status] at live ⊢
    · rw [List.countP_singleton]
      by_cases same : r.stateHash = stateHash <;> simp [newState, same]
  | late found now item stored pending =>
    have open_ : item.status ≠ .succeeded := by rw [pending]; decide
    exact Nat.add_le_add_right (countP_unfinished_le stored open_ rfl stateHash) 0
  | claimed found now item stored pending =>
    have open_ : item.status ≠ .succeeded := by rw [pending]; decide
    exact Nat.add_le_add_right (countP_unfinished_le stored open_ rfl stateHash) 0
  | batchEnded found now item stored processing =>
    have open_ : item.status ≠ .succeeded := by rw [processing]; decide
    exact Nat.add_le_add_right (countP_unfinished_le stored open_ rfl stateHash) 0
  | completed r item batch store stored processing inFile member unbound =>
    have open_ : item.status ≠ .succeeded := by rw [processing]; decide
    by_cases same : r.stateHash = stateHash
    · subst same
      have hash := stateOf_hash stored
      simp only [if_true, reduceCtorEq, if_false, Nat.add_zero]
      refine le_of_eq (countP_updateFirst_lost stored ?_ ?_)
      · simp [hash, open_]
      · simp [succeed]
    · simp only [Option.some.injEq, same, reduceCtorEq, if_false]
      exact Nat.add_le_add_right
        (countP_unfinished_le (f := succeed r.completedAt) stored open_ rfl stateHash) 0
  | failed r item stored left =>
    exact Nat.add_le_add_right (countP_unfinished_le stored left rfl stateHash) 0
  | reviewed batch store f inFile member received identity => exact Nat.le_refl _
  | rejected batch storeCode now only => exact Nat.le_refl _

/-! ## Over every sequence of calls -/

/-- The most attempts a call of the sequence allows. -/
def highestLimit (calls : List AuthorizationCall) : Nat := (calls.map limitOf).foldr max 0

theorem limitOf_le {call : AuthorizationCall} {calls : List AuthorizationCall}
    (mem : call ∈ calls) : limitOf call ≤ highestLimit calls :=
  List.le_max_of_le' 0 (List.mem_map_of_mem mem) (Nat.le_refl _)

theorem StoreInvariants.step (inv : StoreInvariants s) (call : AuthorizationCall) :
    StoreInvariants (authorizationStep js s call) :=
  have change := authorizationStep_change js s call
  ⟨change.oneActive inv.oneActive,
    fun batchId storeCode => change.oneLive batchId storeCode (inv.oneLive batchId storeCode),
    change.boundOnce inv.boundOnce⟩

theorem storeInvariants_blank : StoreInvariants blankState :=
  ⟨Nat.zero_le 1, fun _ _ => Nat.zero_le 1, fun _ mem => absurd mem List.not_mem_nil⟩

/-- **The authorization file after any calls**: at most one batch is active, at most one state of a
store is live, received stores share no supplier and no credential, no store has more attempts than a
call allows, and a state succeeds at most as often as it was begun. -/
theorem authorizationStore_invariants (js : TextBuiltins) (calls : List AuthorizationCall) :
    StoreInvariants (run (authorizationStep js) blankState calls) ∧
      (∀ store ∈ (run (authorizationStep js) blankState calls).stores,
        store.attemptCount ≤ highestLimit calls) ∧
      ∀ stateHash,
        tally (authorizationStep js) (fun s call => succeeds s call = some stateHash) blankState calls ≤
          tally (authorizationStep js) (fun s call => begins js s call = some stateHash) blankState calls := by
  refine ⟨run_invariant (fun s call inv => inv.step call) storeInvariants_blank calls, ?_, ?_⟩
  · have within : Along (authorizationStep js) (fun _ call => limitOf call ≤ highestLimit calls)
        blankState calls := along_of_mem (fun call mem _ => limitOf_le mem) blankState
    refine run_invariant_along
      (I := fun s : StateFile => ∀ store ∈ s.stores, store.attemptCount ≤ highestLimit calls)
      (fun s call bound limit => ?_) (fun _ mem => absurd mem List.not_mem_nil) within
    exact (authorizationStep_change js s call).attempts limit bound
  · intro stateHash
    have paid := tally_le (authorizationStep js)
      (P := fun s call => succeeds s call = some stateHash)
      (Q := fun s call => begins js s call = some stateHash) (φ := unfinished stateHash)
      (fun s call => ?_) blankState calls
    · have none_left : unfinished stateHash blankState = 0 := rfl
      omega
    · simp only [decide_eq_true_eq]
      exact (authorizationStep_change js s call).unfinished stateHash

/-! ## A late failure -/

/-- The failure of the state of `r` leaves its store and the live states as they were, and every other
state can be claimed and completed as before. -/
structure Undisturbed (r : FailRequest) (item : AuthorizationState) (s s' : StateFile) : Prop where
  store : s'.storeOf item.batchId item.storeCode = s.storeOf item.batchId item.storeCode
  live : s'.states.filter (·.live) = s.states.filter (·.live)
  claims : ∀ stateHash now, stateHash ≠ r.stateHash →
    (claimStateIn stateHash now s').toOption.map (·.1) =
      (claimStateIn stateHash now s).toOption.map (·.1)
  completions : ∀ other : CompleteRequest, other.stateHash ≠ r.stateHash →
    (completeStateIn other s').toOption.map (·.1) = (completeStateIn other s).toOption.map (·.1)

theorem batchOf_updateStore (batchId storeCode other : String) (f : BatchStore → BatchStore) :
    (s.updateStore batchId storeCode f).batchOf other =
      if other = batchId then (s.batchOf other).map (·.updateStore storeCode f) else s.batchOf other := by
  by_cases same : other = batchId
  · subst same
    rw [if_pos rfl]
    exact find?_updateFirst_self fun _ id => id
  · rw [if_neg same]
    refine find?_updateFirst (fun batch id => ?_) fun batch id => ?_
    · rw [of_decide_eq_true id]
      exact decide_eq_false fun eq => same eq.symm
    · change decide (batch.batchId = other) = false
      rw [of_decide_eq_true id]
      exact decide_eq_false fun eq => same eq.symm

theorem findStore_updateStore {storeCode : String} (same : ∀ store, (f store).storeCode = store.storeCode) :
    findStore (batch.updateStore storeCode f) storeCode = (findStore batch storeCode).map f := by
  refine find?_updateFirst_self fun store code => ?_
  rw [same]
  exact code

theorem endAttempt_storeCode (code : String) (store : BatchStore) :
    (endAttempt code store).storeCode = store.storeCode := by
  unfold endAttempt
  split <;> rfl

/-- The store of a state after an assignment to it that keeps its code. -/
theorem storeOf_updateStore {batchId storeCode : String} (same : ∀ store, (f store).storeCode = store.storeCode) :
    (s.updateStore batchId storeCode f).storeOf batchId storeCode = (s.storeOf batchId storeCode).map f := by
  unfold StateFile.storeOf
  rw [batchOf_updateStore, if_pos rfl]
  cases s.batchOf batchId with
  | none => rfl
  | some batch => exact findStore_updateStore same

/-- An attempt that ends changes its store exactly where the store is authorizing. -/
theorem endAttempt_eq_iff {code : String} : endAttempt code store = store ↔ store.status ≠ .authorizing := by
  unfold endAttempt
  by_cases status : store.status = .authorizing
  · rw [if_pos status]
    refine iff_of_false (fun same => ?_) fun other => other status
    have changed := congrArg BatchStore.status same
    rw [status] at changed
    exact nomatch changed
  · rw [if_neg status]
    exact iff_of_true rfl status

/-- A store of a batch, after an assignment that keeps the codes, is there exactly where it was. -/
theorem findStore_isSome {storeCode other : String} (same : ∀ store, (f store).storeCode = store.storeCode) :
    (findStore (batch.updateStore storeCode f) other).isSome = (findStore batch other).isSome := by
  have found : ∀ owner : Batch, (findStore owner other).isSome =
      (owner.stores.map (·.storeCode)).any fun code => decide (code = other) := by
    intro owner
    unfold findStore
    rw [List.isSome_find?, List.any_map]
    rfl
  have codes : (batch.updateStore storeCode f).stores.map (·.storeCode) =
      batch.stores.map (·.storeCode) := map_updateFirst same
  rw [found, found, codes]

/-- What the bindings of the document refuse does not depend on attempts that ended. -/
theorem findSome?_endAttempt (batchId storeCode code owner : String) (r : CompleteRequest) :
    (s.updateStore batchId storeCode (endAttempt code)).stores.findSome? (bindingConflict r owner) =
      s.stores.findSome? (bindingConflict r owner) := by
  have conflict : ∀ store, bindingConflict r owner (endAttempt code store) =
      bindingConflict r owner store := by
    intro store
    by_cases status : store.status = .authorizing
    · simp [endAttempt, bindingConflict, status, StoreStatus.received]
    · rw [(endAttempt_eq_iff).mpr status]
  have each : ((s.updateStore batchId storeCode (endAttempt code)).batches.map
      fun batch => batch.stores.map (bindingConflict r owner)) =
        s.batches.map fun batch => batch.stores.map (bindingConflict r owner) :=
    map_updateFirst fun batch => map_updateFirst conflict
  have through : ∀ file : StateFile, file.stores.findSome? (bindingConflict r owner) =
      (file.batches.map fun batch => batch.stores.map (bindingConflict r owner)).flatten.findSome?
        id := by
    intro file
    rw [← List.flatMap_def, ← List.map_flatMap, List.findSome?_map]
    rfl
  rw [through, through, each]

/-- What a superseded or expired state leaves behind when it fails. -/
theorem failStateIn_dead {r : FailRequest} (found : s.stateOf r.stateHash = some item)
    (dead : item.status = .expired) : written (failStateIn r) s = some (failedFile r item s) := by
  simp only [written, failStateIn, found, dead, reduceCtorEq, if_false]

theorem stateOf_failedFile {r : FailRequest} {other : String} (apart : other ≠ r.stateHash) :
    (failedFile r item s).stateOf other = s.stateOf other := by
  have elsewhere : ∀ row : AuthorizationState, safeEqualHex row.stateHash r.stateHash = true →
      safeEqualHex row.stateHash other = false := by
    intro row same
    have hash : row.stateHash = r.stateHash := by
      simp only [safeEqualHex, Bool.and_eq_true, decide_eq_true_eq] at same
      exact same.2
    rw [safeEqualHex, hash, decide_eq_false (Ne.symm apart), Bool.and_false]
  exact find?_updateFirst elsewhere elsewhere

/-- A batch that is closed stays closed, and an open one open, when an attempt of it ends. -/
theorem batchOf_failedFile (s : StateFile) (r : FailRequest) (item : AuthorizationState) (batchId : String) :
    (failedFile r item s).batchOf batchId = s.batchOf batchId ∨
      (failedFile r item s).batchOf batchId = (s.batchOf batchId).map
        (·.updateStore item.storeCode (endAttempt (safeFailureCode r.failureCode))) := by
  have at_ := batchOf_updateStore (s := s.updateState r.stateHash
      (failItem r.failedAt (safeFailureCode r.failureCode))) item.batchId item.storeCode batchId
    (endAttempt (safeFailureCode r.failureCode))
  by_cases same : batchId = item.batchId
  · rw [if_pos same] at at_
    exact .inr at_
  · rw [if_neg same] at at_
    exact .inl at_

theorem claimStateIn_failedFile {r : FailRequest} {other : String} (apart : other ≠ r.stateHash) (now : Instant) :
    (claimStateIn other now (failedFile r item s)).toOption.map (·.1) =
      (claimStateIn other now s).toOption.map (·.1) := by
  unfold claimStateIn refuse
  rw [stateOf_failedFile apart]
  cases s.stateOf other with
  | none => rfl
  | some newer =>
    have closed : ((failedFile r item s).batchOf newer.batchId).all (·.closed now) =
        (s.batchOf newer.batchId).all (·.closed now) := by
      rcases batchOf_failedFile s r item newer.batchId with same | same
      · rw [same]
      · rw [same, Option.all_map]
        rfl
    dsimp only
    split
    · rfl
    · split
      · rfl
      · rw [closed]
        split <;> rfl

theorem completeStateIn_result : (completeStateIn r s).toOption.map (·.1) =
      (s.stateOf r.stateHash).bind fun item => (s.batchOf item.batchId).bind fun batch =>
        if item.status = .processing ∧ (findStore batch item.storeCode).isSome ∧
            batch.closed r.completedAt = false ∧
            s.stores.findSome? (bindingConflict r item.storeCode) = none then
          some ⟨batch.batchId, item.storeCode, .reviewRequired, r.completedAt,
            nonEmpty r.identity.platformStoreName, r.identity.supplierId,
            nonEmpty r.identity.accountNo⟩ else none := by
  unfold completeStateIn refuse
  cases s.stateOf r.stateHash with
  | none => rfl
  | some item =>
    rw [Option.bind_some]
    by_cases processing : item.status = .processing
    · simp only [processing, ne_eq, not_true_eq_false, if_false, true_and]
      cases s.batchOf item.batchId with
      | none => rfl
      | some batch =>
        rw [Option.bind_some]
        cases member : findStore batch item.storeCode with
        | none => simp only [member]; rfl
        | some store =>
          simp only [member, findStore_code member]
          cases batch.closed r.completedAt with
          | true => rfl
          | false =>
            cases s.stores.findSome? (bindingConflict r item.storeCode) with
            | none => rfl
            | some refusal => rfl
    · simp only [processing, ne_eq, not_false_eq_true, if_true, false_and, if_false]
      cases s.batchOf item.batchId <;> rfl

theorem completeStateIn_failedFile {r : FailRequest} {other : CompleteRequest}
    (apart : other.stateHash ≠ r.stateHash) : (completeStateIn other (failedFile r item s)).toOption.map (·.1) =
      (completeStateIn other s).toOption.map (·.1) := by
  have conflicts : ∀ owner, (failedFile r item s).stores.findSome? (bindingConflict other owner) =
      s.stores.findSome? (bindingConflict other owner) := fun owner =>
    findSome?_endAttempt (s := s.updateState r.stateHash
      (failItem r.failedAt (safeFailureCode r.failureCode))) item.batchId item.storeCode
      (safeFailureCode r.failureCode) owner other
  rw [completeStateIn_result, completeStateIn_result, stateOf_failedFile apart]
  refine Option.bind_congr fun newer _ => ?_
  rw [conflicts]
  rcases batchOf_failedFile s r item newer.batchId with same | same
  · rw [same]
  · rw [same, Option.bind_map]
    refine Option.bind_congr fun batch _ => ?_
    simp only [Function.comp_apply, findStore_isSome (endAttempt_storeCode _)]
    rfl

/-- **When a late failure leaves the live attempt's store alone**: the failure of a superseded or
expired state leaves every live state as it was, and its store exactly where the store is not
authorizing. -/
theorem failState_undisturbed_iff (js : TextBuiltins) (trip : RoundTrip JsError) (r : FailRequest)
    (s : StateFile) (item : AuthorizationState) (commits : trip.commits = true)
    (found : s.stateOf r.stateHash = some item) (dead : item.status = .expired) :
    Undisturbed r item s (authorizationStep js s (.failState trip r)) ↔
      ∀ store, s.storeOf item.batchId item.storeCode = some store → store.status ≠ .authorizing := by
  have after : authorizationStep js s (.failState trip r) = failedFile r item s := by
    have ended := mutate_ends (s := s) trip (failStateIn r)
    rw [failStateIn_dead found dead, commits] at ended
    exact ended
  have store_after : (failedFile r item s).storeOf item.batchId item.storeCode =
      (s.storeOf item.batchId item.storeCode).map
        (endAttempt (safeFailureCode r.failureCode)) :=
    storeOf_updateStore (s := s.updateState r.stateHash _) (endAttempt_storeCode _)
  rw [after]
  constructor
  · intro undisturbed store stored
    have same := undisturbed.store
    rw [store_after, stored] at same
    exact (endAttempt_eq_iff).mp (Option.some.inj same)
  · intro idle
    refine ⟨?_, ?_, fun _ now apart => claimStateIn_failedFile apart now,
      fun _ apart => completeStateIn_failedFile apart⟩
    · rw [store_after]
      cases stored : s.storeOf item.batchId item.storeCode with
      | none => rfl
      | some store => exact congrArg some (endAttempt_eq_iff.mpr (idle store stored))
    · refine filter_updateFirst found ?_ ?_
      · simp [AuthorizationState.live, dead]
      · simp [AuthorizationState.live, failItem]

def digest (digit : Char) : String := String.ofList (List.replicate 64 digit)

def oneStore : AuthorizationCall :=
  .createBatch .done
    { batchId := "B1", tokenHash := digest '0', storeCodes := ["DL5477"]
      createdAt := 0, expiresAt := 1000000 }

/-- An attempt of its store, with ten minutes to come back. -/
def attempt (digit : Char) (now : Instant) : AuthorizationCall :=
  .beginState .done
    { tokenHash := digest '0', storeCode := "DL5477", stateHash := digest digit
      createdAt := now, expiresAt := now + 600000 }

/-- The state of an attempt that came back too late. -/
def lateState : AuthorizationState :=
  { stateHash := digest 'a', batchId := "B1", storeCode := "DL5477", status := .expired
    createdAt := 1, expiresAt := 600001, completedAt := some 700000
    failureCode := some "STATE_EXPIRED" }

theorem lateState_there : (run (authorizationStep .ascii) blankState
      [oneStore, attempt 'a' 1, .claimState .done (digest 'a') 700000]).stateOf (digest 'a') = some lateState ∧
    ((run (authorizationStep .ascii) blankState
      [oneStore, attempt 'a' 1, .claimState .done (digest 'a') 700000]).storeOf "B1" "DL5477").map (·.status) =
        some .error := by
  decide +kernel

/-- The failure of a state that expired, with no newer attempt, changes nothing else. -/
theorem failState_undisturbed_late : Undisturbed ⟨digest 'a', 700001, "AUTHORIZATION_FAILED"⟩ lateState
      (run (authorizationStep .ascii) blankState [oneStore, attempt 'a' 1, .claimState .done (digest 'a') 700000])
      (authorizationStep .ascii (run (authorizationStep .ascii) blankState
          [oneStore, attempt 'a' 1, .claimState .done (digest 'a') 700000])
        (.failState .done ⟨digest 'a', 700001, "AUTHORIZATION_FAILED"⟩)) :=
  (failState_undisturbed_iff .ascii .done ⟨digest 'a', 700001, "AUTHORIZATION_FAILED"⟩ _ lateState rfl lateState_there.1 rfl).mpr
    fun store stored authorizing => by
      have status := lateState_there.2
      rw [show lateState.batchId = "B1" from rfl, show lateState.storeCode = "DL5477" from rfl]
        at stored
      rw [stored, Option.map_some, authorizing] at status
      exact nomatch status

def supersededState : AuthorizationState :=
  { stateHash := digest 'a', batchId := "B1", storeCode := "DL5477", status := .expired
    createdAt := 1, expiresAt := 600001, processingAt := some 2, completedAt := some 3
    failureCode := some "SUPERSEDED" }

def supersededFile : StateFile :=
  run (authorizationStep .ascii) blankState
    [oneStore, attempt 'a' 1, .claimState .done (digest 'a') 2, attempt 'b' 3]

theorem supersededState_there : supersededFile.stateOf (digest 'a') = some supersededState ∧
    (authorizationStep .ascii supersededFile (.failState .done ⟨digest 'a', 4, "AUTHORIZATION_FAILED"⟩)).storeOf "B1"
      "DL5477" ≠ supersededFile.storeOf "B1" "DL5477" := by
  decide +kernel

/-- The callback of a superseded attempt fails while the newer one is pending: the store is no longer
authorizing. -/
theorem failState_superseded_disturbs : ¬ ∀ (js : TextBuiltins) (calls : List AuthorizationCall) (r : FailRequest)
      (item : AuthorizationState),
      (run (authorizationStep js) blankState calls).stateOf r.stateHash = some item →
      item.status = .expired → Undisturbed r item (run (authorizationStep js) blankState calls)
        (authorizationStep js (run (authorizationStep js) blankState calls) (.failState .done r)) := by
  intro all
  exact supersededState_there.2 (all .ascii
    [oneStore, attempt 'a' 1, .claimState .done (digest 'a') 2, attempt 'b' 3]
    ⟨digest 'a', 4, "AUTHORIZATION_FAILED"⟩ supersededState supersededState_there.1 rfl).store

end FullManagedBi.Authorization
