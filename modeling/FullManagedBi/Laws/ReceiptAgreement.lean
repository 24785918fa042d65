import FullManagedBi.Authorization.Service
import FullManagedBi.Laws.AuthorizationStore

/-!
# Receipts and stores that await review

A store that awaits review names a receipt, and the receipt directory holds no other file. Between the
calls of the service the two agree, and a state is exchanged at most once (`Agreement`):

- **`receiptAgreement_law`** — wherever no call is running, in every run in which no update that
  completes a state commits and then reports an error, no receipt is left behind by a step that fails and
  no receipt resists its removal;
- `lostCompletion_disagrees` — an update that commits and then reports an error costs the store its
  receipt.

The invariant has one part for the file (`FileSound`) and one for the directory (`Sound`): a file in the
directory is named by a store that awaits review, or held by a call that is still running.
-/

namespace FullManagedBi.Authorization.Service

open Lib

/-! ## The state file -/

section File

variable {s s' : StateFile} {js : TextBuiltins}

/-- What the calls rely on: ids and codes tell batches and their stores apart, at most one state of a
store is live and none of a store that was received, and the codes of states are store codes. -/
structure FileSound (s : StateFile) : Prop where
  ids : (s.batches.map (·.batchId)).Nodup
  codes : ∀ batch ∈ s.batches, (batch.stores.map (·.storeCode)).Nodup
  oneLive : ∀ batchId storeCode,
    s.states.countP (fun item => item.belongsTo batchId storeCode && item.live) ≤ 1
  receivedIdle : ∀ batch ∈ s.batches, ∀ store ∈ batch.stores, store.status.received = true →
    ∀ item ∈ s.states, item.belongsTo batch.batchId store.storeCode = true → item.live = false
  stateCodes : ∀ item ∈ s.states, isStoreCode item.storeCode = true

def Awaits (s : StateFile) (store : BatchStore) : Prop :=
  store ∈ s.stores ∧ store.status = .reviewRequired

variable {store : BatchStore}

theorem Awaits.received (awaits : Awaits s store) : store.status.received = true := by
  rw [awaits.2]
  rfl

/-- The states with a hash that nobody has claimed. -/
def pending (stateHash : String) (s : StateFile) : Nat :=
  s.states.countP fun item => decide (item.stateHash = stateHash) && decide (item.status = .pending)

/-- An update of the file that receives no store. -/
structure Quiet (s s' : StateFile) : Prop where
  sound : FileSound s → FileSound s'
  awaits : FileSound s → ∀ store, Awaits s' store ↔ Awaits s store

theorem Quiet.refl (s : StateFile) : Quiet s s := ⟨id, fun _ _ => Iff.rfl⟩

theorem Quiet.trans {s₁ s₂ s₃ : StateFile} (first : Quiet s₁ s₂) (second : Quiet s₂ s₃) : Quiet s₁ s₃ where
  sound sound := second.sound (first.sound sound)
  awaits sound store := (second.awaits (first.sound sound) store).trans (first.awaits sound store)

variable {f : AuthorizationState → AuthorizationState}

theorem quiet_updateState {stateHash : String}
    (owner : ∀ item, (f item).batchId = item.batchId ∧ (f item).storeCode = item.storeCode)
    (calm : ∀ item, s.stateOf stateHash = some item → (f item).live = true → item.live = true) :
    Quiet s (s.updateState stateHash f) where
  awaits _ _ := Iff.rfl
  sound sound := by
    have belongs (batchId storeCode : String) (item : AuthorizationState) :
        (f item).belongsTo batchId storeCode = item.belongsTo batchId storeCode := by
      simp only [AuthorizationState.belongsTo, (owner item).1, (owner item).2]
    refine ⟨sound.ids, sound.codes, fun batchId storeCode => ?_,
      fun batch stored store member received item mem same => ?_, fun item mem => ?_⟩
    · refine (countP_updateFirst_le fun old found live => ?_).trans (sound.oneLive batchId storeCode)
      rw [belongs, Bool.and_eq_true] at live
      exact Bool.and_eq_true_iff.mpr ⟨live.1, calm old found live.2⟩
    · rcases mem_updateFirst mem with mem | ⟨old, found, rfl⟩
      · exact sound.receivedIdle batch stored store member received item mem same
      · rw [belongs] at same
        have dead := sound.receivedIdle batch stored store member received old
          (List.mem_of_find?_eq_some found) same
        exact Bool.eq_false_iff.mpr fun live => Bool.eq_false_iff.mp dead (calm old found live)
    · rcases mem_updateFirst mem with mem | ⟨old, found, rfl⟩
      · exact sound.stateCodes item mem
      · rw [(owner old).2]
        exact sound.stateCodes old (List.mem_of_find?_eq_some found)

/-- A store after an assignment inside one batch, from before it: it is still there, or it is the one
found. -/
theorem mem_stores_after {p : Batch → Bool} {g : Batch → Batch} (storeCode : String)
    (f : BatchStore → BatchStore) {batches : List Batch} (inside : ∀ batch, batches.find? p = some batch →
      (g batch).stores = (batch.updateStore storeCode f).stores) (mem : store ∈ batches.flatMap (·.stores)) :
    store ∈ (updateFirst p g batches).flatMap (·.stores) ∨
      ∃ batch, batches.find? p = some batch ∧ findStore batch storeCode = some store := by
  obtain ⟨batch, stored, member⟩ := List.mem_flatMap.mp mem
  rcases mem_updateFirst_of_mem (p := p) (f := g) stored with kept | found
  · exact .inl (List.mem_flatMap.mpr ⟨batch, kept, member⟩)
  · rcases mem_updateFirst_of_mem (p := fun store => decide (store.storeCode = storeCode)) (f := f)
      member with kept | here
    · refine .inl (List.mem_flatMap.mpr ⟨g batch, mem_updateFirst_found found, ?_⟩)
      rw [inside batch found]
      exact kept
    · exact .inr ⟨batch, found, here⟩

variable {batch : Batch}

theorem mem_stores_found {p : Batch → Bool} {g : Batch → Batch} (storeCode : String)
    (f : BatchStore → BatchStore) {batches : List Batch} (inside : ∀ batch, batches.find? p = some batch →
      (g batch).stores = (batch.updateStore storeCode f).stores)
    (found : batches.find? p = some batch) (member : findStore batch storeCode = some store) :
    f store ∈ (updateFirst p g batches).flatMap (·.stores) := by
  refine List.mem_flatMap.mpr ⟨g batch, mem_updateFirst_found found, ?_⟩
  rw [inside batch found]
  exact mem_updateFirst_found member

/-- An assignment inside one batch keeps the ids and the codes. -/
theorem FileSound.keys {p : Batch → Bool} {g : Batch → Batch} (sound : FileSound s)
    (id : ∀ batch, (g batch).batchId = batch.batchId)
    (codes : ∀ batch, (g batch).stores.map (·.storeCode) = batch.stores.map (·.storeCode)) :
    ((updateFirst p g s.batches).map (·.batchId)).Nodup ∧
      ∀ batch ∈ updateFirst p g s.batches, (batch.stores.map (·.storeCode)).Nodup := by
  constructor
  · rw [map_updateFirst id]
    exact sound.ids
  · intro batch stored
    rcases mem_updateFirst stored with stored | ⟨old, found, rfl⟩
    · exact sound.codes batch stored
    · rw [codes]
      exact sound.codes old (List.mem_of_find?_eq_some found)

/-- An assignment to a store that leaves it as it is, where it makes it one that was received. -/
theorem quiet_updateStore {batchId storeCode : String} {f : BatchStore → BatchStore}
    (code : ∀ store, (f store).storeCode = store.storeCode)
    (calm : ∀ store, store.status.received = true ∨ (f store).status.received = true → f store = store) :
    Quiet s (s.updateStore batchId storeCode f) where
  awaits _ store := by
    constructor
    · rintro ⟨mem, status⟩
      rcases mem_stores_updateFirst storeCode (f := f) (fun _ _ => rfl) mem with
        mem | ⟨batch, old, found, member, rfl⟩
      · exact ⟨mem, status⟩
      · have same := calm old (.inr (by rw [status]; rfl))
        rw [same] at status ⊢
        exact ⟨mem_stores_of_found found member, status⟩
    · intro awaits
      rcases mem_stores_after storeCode f (fun _ _ => rfl) awaits.1 with
        mem | ⟨batch, found, member⟩
      · exact ⟨mem, awaits.2⟩
      · have mem := mem_stores_found storeCode f (fun _ _ => rfl) found member
        rw [calm store (.inl awaits.received)] at mem
        exact ⟨mem, awaits.2⟩
  sound sound := by
    obtain ⟨ids, codes⟩ := sound.keys (g := (·.updateStore storeCode f)) (fun _ => rfl) fun _ => map_updateFirst code
    refine ⟨ids, codes, sound.oneLive, fun batch stored store member received item mem same => ?_, sound.stateCodes⟩
    rcases mem_updateFirst stored with stored | ⟨old, found, rfl⟩
    · exact sound.receivedIdle batch stored store member received item mem same
    · have stored := List.mem_of_find?_eq_some found
      rcases mem_updateFirst member with member | ⟨before, here, rfl⟩
      · exact sound.receivedIdle old stored store member received item mem same
      · have kept := calm before (.inr received)
        rw [kept] at received same
        exact sound.receivedIdle old stored before (List.mem_of_find?_eq_some here) received item mem same

theorem quiet_endAttempt {batchId storeCode code : String} :
    Quiet s (s.updateStore batchId storeCode (endAttempt code)) := by
  refine quiet_updateStore (endAttempt_storeCode code) fun store received => ?_
  rcases received with received | received
  · refine endAttempt_eq_iff.mpr fun status => ?_
    rw [status] at received
    exact nomatch received
  · exact endAttempt_received received

variable {r : BeginRequest}

theorem quiet_begun (found : findBatchByHash s r.tokenHash = some batch)
    (member : findStore batch store.storeCode = some store)
    (unreceived : store.status.received = false) (code : isStoreCode store.storeCode = true) :
    Quiet s (begun r batch store s) where
  awaits _ other := by
    constructor
    · rintro ⟨mem, status⟩
      rcases mem_stores_updateFirst store.storeCode (f := startAttempt) (fun _ _ => rfl) mem with
        mem | ⟨_, old, -, -, rfl⟩
      · exact ⟨mem, status⟩
      · exact nomatch status
    · intro awaits
      rcases mem_stores_after store.storeCode startAttempt (fun _ _ => rfl)
          awaits.1 with mem | ⟨owner, foundOwner, here⟩
      · exact ⟨mem, awaits.2⟩
      · rw [Option.mem_unique foundOwner found] at here
        rw [Option.mem_unique here member] at awaits
        rw [awaits.received] at unreceived
        exact nomatch unreceived
  sound sound := by
    -- A state of the new file is an old one, one that gave way, or the new one.
    have states {item : AuthorizationState} (mem : item ∈ (begun r batch store s).states) :
        (∃ old ∈ s.states, item = old ∨ item = supersede r.createdAt old) ∨
          item = newState r batch store := by
      rcases mem_concat.mp (List.mem_of_mem_filter mem) with mem | mem
      · obtain ⟨old, there, rfl⟩ := mem_updateWhere.mp mem
        refine .inl ⟨old, there, ?_⟩
        split
        · exact .inr rfl
        · exact .inl rfl
      · exact .inr mem
    obtain ⟨ids, codes⟩ := sound.keys (g := (·.updateStore store.storeCode startAttempt)) (fun _ => rfl)
      fun _ => map_updateFirst fun _ => rfl
    refine ⟨ids, codes, fun batchId storeCode => ?_, fun owner stored other inside received item mem same => ?_,
      fun item mem => ?_⟩
    · have change : Change (store.attemptCount + 1) s _ _ (begun r batch store s) :=
        .begun r batch store found member (Nat.lt_succ_self _)
      exact change.oneLive batchId storeCode (sound.oneLive batchId storeCode)
    · -- A store that was received is an old one, of an old batch.
      have old : ∃ before ∈ s.batches, before.batchId = owner.batchId ∧ other ∈ before.stores := by
        rcases mem_updateFirst stored with stored | ⟨before, foundOld, rfl⟩
        · exact ⟨owner, stored, rfl, inside⟩
        · refine ⟨before, List.mem_of_find?_eq_some foundOld, rfl, ?_⟩
          rcases mem_updateFirst inside with inside | ⟨_, -, rfl⟩
          · exact inside
          · exact nomatch received
      obtain ⟨before, storedBefore, id, insideBefore⟩ := old
      rcases states mem with ⟨row, row_mem, rfl | rfl⟩ | rfl
      · rw [← id] at same
        exact sound.receivedIdle before storedBefore other insideBefore received item row_mem same
      · rfl
      · -- The new state's store is the one that begins, which was not received.
        obtain ⟨sameBatch, sameCode⟩ := Bool.and_eq_true_iff.mp same
        have updated : owner = batch.updateStore store.storeCode startAttempt :=
          eq_of_mem_updateFirst (f := (·.updateStore store.storeCode startAttempt)) sound.ids
            (fun _ => rfl) found stored (of_decide_eq_true sameBatch).symm
        rw [updated] at inside
        have started : other = startAttempt store :=
          eq_of_mem_updateFirst (f := startAttempt)
            (sound.codes batch (List.mem_of_find?_eq_some found)) (fun _ => rfl) member inside
            (of_decide_eq_true sameCode).symm
        rw [started] at received
        exact nomatch received
    · rcases states mem with ⟨row, row_mem, rfl | rfl⟩ | rfl
      · exact sound.stateCodes item row_mem
      · exact sound.stateCodes row row_mem
      · exact code

variable {item : AuthorizationState}

/-- A state that succeeds while it is processed: its store comes to await review, and no other does. -/
theorem awaits_completed {r : CompleteRequest} (sound : FileSound s)
    (found : s.stateOf r.stateHash = some item) (processing : item.status = .processing)
    (inFile : s.batchOf item.batchId = some batch)
    (member : findStore batch item.storeCode = some store) (other : BatchStore) :
    Awaits (completed r item s) other ↔ Awaits s other ∨ other = receive r store := by
  have inside (owner : Batch) (_ : s.batches.find? (fun batch => decide (batch.batchId = item.batchId)) =
      some owner) : (closeIfReceived r.completedAt (owner.updateStore item.storeCode (receive r))).stores =
        (owner.updateStore item.storeCode (receive r)).stores := closeIfReceived_stores _ _
  constructor
  · rintro ⟨mem, status⟩
    rcases mem_stores_updateFirst item.storeCode (f := receive r) inside mem with
      mem | ⟨owner, old, foundOwner, here, rfl⟩
    · exact .inl ⟨mem, status⟩
    · rw [Option.mem_unique foundOwner inFile] at here
      rw [Option.mem_unique here member]
      exact .inr rfl
  · rintro (awaits | rfl)
    · rcases mem_stores_after _ _ inside awaits.1 with mem | ⟨owner, foundOwner, here⟩
      · exact ⟨mem, awaits.2⟩
      · -- The store of a live state was not received.
        have dead := sound.receivedIdle owner (List.mem_of_find?_eq_some foundOwner) other
          (List.mem_of_find?_eq_some here) awaits.received item (List.mem_of_find?_eq_some found) (by
            rw [AuthorizationState.belongsTo, batchOf_id foundOwner, findStore_code here]
            simp only [decide_true, Bool.and_self])
        rw [AuthorizationState.live, processing] at dead
        cases dead
    · exact ⟨mem_stores_found _ _ inside inFile member, rfl⟩

theorem sound_completed {r : CompleteRequest} (sound : FileSound s)
    (found : s.stateOf r.stateHash = some item) (processing : item.status = .processing) :
    FileSound (completed r item s) := by
  have dead (item : AuthorizationState) (live : (succeed r.completedAt item).live = true) :
      item.live = true := nomatch live
  have succeeded : FileSound (s.updateState r.stateHash (succeed r.completedAt)) :=
    (quiet_updateState (f := succeed r.completedAt) (fun _ => ⟨rfl, rfl⟩) fun item _ => dead item).sound
      sound
  have id (owner : Batch) : (closeIfReceived r.completedAt
      (owner.updateStore item.storeCode (receive r))).batchId = owner.batchId := by
    unfold closeIfReceived
    split <;> rfl
  obtain ⟨ids, codes⟩ := sound.keys id fun owner =>
    (congrArg _ (closeIfReceived_stores _ _)).trans (map_updateFirst fun _ => rfl)
  refine ⟨ids, codes, succeeded.oneLive, fun owner stored other inside received row mem same => ?_,
    succeeded.stateCodes⟩
  · rcases mem_updateFirst stored with stored | ⟨old, foundOld, rfl⟩
    · exact succeeded.receivedIdle owner stored other inside received row mem same
    · rw [closeIfReceived_stores] at inside
      rw [id] at same
      rcases mem_updateFirst inside with inside | ⟨before, here, rfl⟩
      · exact succeeded.receivedIdle old (List.mem_of_find?_eq_some foundOld) other inside received row
          mem same
      · -- The state that succeeded was the only live one of its store.
        have code : before.storeCode = item.storeCode := findStore_code (show findStore old item.storeCode = some before from here)
        rw [batchOf_id foundOld, show (receive r before).storeCode = item.storeCode from code] at same
        have one := sound.oneLive item.batchId item.storeCode
        have lost := countP_updateFirst_lost
          (q := fun row => row.belongsTo item.batchId item.storeCode && row.live)
          (f := succeed r.completedAt) found
          (by simp [AuthorizationState.belongsTo, AuthorizationState.live, processing])
          (by simp [AuthorizationState.live, succeed])
        have none_live := List.countP_eq_zero.mp (Nat.le_zero.mp (by omega :
          (updateFirst (fun row => safeEqualHex row.stateHash r.stateHash) (succeed r.completedAt)
            s.states).countP (fun row => row.belongsTo item.batchId item.storeCode && row.live) ≤ 0))
          row mem
        simpa only [same, Bool.true_and, Bool.not_eq_true] using none_live

/-- An assignment to a state that leaves its hash and does not make it pending. -/
theorem pending_updateState {found stateHash : String} (settles : ∀ item, (f item).status ≠ .pending) :
    pending stateHash (s.updateState found f) ≤ pending stateHash s := by
  refine countP_updateFirst_le fun old _ left => absurd ?_ (settles old)
  exact of_decide_eq_true (Bool.and_eq_true_iff.mp left).2

/-! ### What each update does -/

/-- How an update ends, and the file it leaves. -/
inductive Updated {β : Type} (operation : Operation β) (trip : RoundTrip JsError) (s : StateFile) :
    Except JsError β → StateFile → Prop where
  | done (b : β) (new : StateFile) (ran : operation s = .ok (b, new)) (arrives : trip = .done) :
      Updated operation trip s (.ok b) new
  | lost (b : β) (new : StateFile) (e : JsError) (ran : operation s = .ok (b, new))
      (lost : trip = .lost e) : Updated operation trip s (.error e) new
  | refused (refusal : Refusal) (e : JsError) (ran : operation s = .error refusal) :
      Updated operation trip s (.error e) (refusal.persist.getD s)
  | failed (e : JsError) (fails : trip.commits = false) : Updated operation trip s (.error e) s

variable (trip : RoundTrip JsError)

theorem mutate_updated {β : Type} (operation : Operation β) :
    Ends (mutate trip operation) s (Updated operation trip s) := by
  unfold mutate
  rw [ends_bind, ends_get, post_ok]
  rcases ran : operation s with ⟨e, _ | new⟩ | ⟨result, new⟩
  · exact .refused ⟨e, none⟩ e ran
  · cases trip with
    | done => exact .refused ⟨e, some new⟩ e ran
    | lost e' => exact .refused ⟨e, some new⟩ e' ran
    | failed e' => exact .failed e' rfl
  · cases trip with
    | done => exact .done result new ran rfl
    | lost e => exact .lost result new e ran rfl
    | failed e => exact .failed e rfl

theorem takesPlace_mutate {β : Type} {trip : RoundTrip JsError} {operation : Operation β} :
    takesPlace (mutate · operation) trip s = (trip.commits && (operation s).isOk) := by
  have updated := mutate_updated (s := s) .done operation
  unfold Ends at updated
  unfold takesPlace
  generalize (mutate .done operation).outcome s = outcome at updated ⊢
  obtain ⟨result, file⟩ := outcome
  cases updated with
  | done b new ran arrives => rw [ran]; rfl
  | lost b new e ran lost => exact nomatch lost
  | refused refusal e ran => rw [ran]; rfl
  | failed e fails => exact nomatch fails

theorem beginStateIn_ok {storeCode : String} {result : BegunState} {new : StateFile}
    (ran : beginStateIn r storeCode s = .ok (result, new)) :
    ∃ batch store, new = begun r batch store s ∧ findBatchByHash s r.tokenHash = some batch ∧
      findStore batch store.storeCode = some store ∧ store.storeCode = storeCode ∧
      store.status.received = false := by
  unfold beginStateIn refuse at ran
  split at ran
  · exact nomatch ran
  · rename_i batch found
    split at ran
    · exact nomatch ran
    · split at ran
      · exact nomatch ran
      · split at ran
        · exact nomatch ran
        · rename_i store member
          split at ran
          · exact nomatch ran
          · split at ran
            · exact nomatch ran
            · rename_i unreceived
              split at ran
              · exact nomatch ran
              · have code := findStore_code member
                refine ⟨batch, store, (Prod.mk.inj (Except.ok.inj ran)).2.symm, found, ?_, code,
                  Bool.not_eq_true _ ▸ unreceived⟩
                rw [code]
                exact member

variable (stateHash : String)

theorem pending_begun :
    pending stateHash (begun r batch store s) ≤ pending stateHash s + [r.stateHash].count stateHash := by
  refine (countP_pruneStates _ _ _).trans ?_
  rw [List.countP_append]
  refine Nat.add_le_add (countP_supersede s.states r.createdAt _ _ _ fun item _ left => ?_) ?_
  · simp [supersede] at left
  · rw [List.countP_singleton, List.count_singleton]
    by_cases same : r.stateHash = stateHash <;> simp [newState, same]

def wellFormed (js : TextBuiltins) (r : BeginRequest) : Bool :=
  isSha256Hex r.tokenHash && isSha256Hex r.stateHash && isStoreCode (js.toUpperCase r.storeCode)

theorem beginState_of_wellFormed (checked : wellFormed js r = true) (trip : RoundTrip JsError) :
    beginState js trip r = mutate trip (beginStateIn r (js.toUpperCase r.storeCode)) := by
  unfold beginState
  dsimp only
  rw [show (isSha256Hex r.tokenHash && isSha256Hex r.stateHash &&
    isStoreCode (js.toUpperCase r.storeCode)) = true from checked]
  rfl

theorem beginState_of_malformed (checked : wellFormed js r = false) (trip : RoundTrip JsError) :
    (beginState js trip r).outcome s = (.error { message := "invalid authorization state request" }, s) := by
  unfold beginState
  dsimp only
  rw [show (isSha256Hex r.tokenHash && isSha256Hex r.stateHash &&
    isStoreCode (js.toUpperCase r.storeCode)) = false from checked]
  rfl

theorem beginState_ends (r : BeginRequest) : Ends (beginState js trip r) s fun _ s' => Quiet s s' ∧ ∀ stateHash,
      pending stateHash s' ≤ pending stateHash s +
        (if takesPlace (beginState js · r) trip s then [r.stateHash] else []).count stateHash := by
  cases checked : wellFormed js r with
  | false =>
    unfold Ends
    rw [beginState_of_malformed checked]
    exact ⟨.refl s, fun _ => Nat.le_add_right _ _⟩
  | true =>
    rw [show (beginState js · r) = (mutate · (beginStateIn r (js.toUpperCase r.storeCode))) from
      funext (beginState_of_wellFormed checked), beginState_of_wellFormed checked, takesPlace_mutate]
    -- An attempt that begins is counted.
    have begins {result : BegunState} {new : StateFile}
        (ran : beginStateIn r (js.toUpperCase r.storeCode) s = .ok (result, new))
        (commits : trip.commits = true) : Quiet s new ∧ ∀ stateHash,
          pending stateHash new ≤ pending stateHash s +
            (if trip.commits && (beginStateIn r (js.toUpperCase r.storeCode) s).isOk then
              [r.stateHash] else []).count stateHash := by
      obtain ⟨batch, store, rfl, found, member, code, unreceived⟩ := beginStateIn_ok ran
      have valid := (Bool.and_eq_true_iff.mp checked).2
      refine ⟨quiet_begun found member unreceived (code ▸ valid), fun stateHash => ?_⟩
      rw [commits, ran]
      exact pending_begun stateHash
    refine (mutate_updated trip (beginStateIn r (js.toUpperCase r.storeCode))).mono
      fun _ s' updated => ?_
    cases updated with
    | done b new ran arrives => exact begins ran (by rw [arrives]; rfl)
    | lost b new e ran lost => exact begins ran (by rw [lost]; rfl)
    | refused refusal e ran =>
      have kept : refusal.persist = none := by
        rcases beginStateIn_change (s := s) r (js.toUpperCase r.storeCode) with
          ⟨_, _, _, other, -⟩ | ⟨_, other⟩
        · exact nomatch ran.symm.trans other
        · rw [Except.error.inj (ran.symm.trans other)]
      rw [kept]
      exact ⟨.refl s, fun _ => Nat.le_add_right _ _⟩
    | failed e fails => exact ⟨.refl s, fun _ => Nat.le_add_right _ _⟩

/-- A claim takes a pending state, a late one is ended, and what is refused otherwise changes nothing. -/
theorem claimStateIn_cases (now : Instant) : (∃ item, s.stateOf stateHash = some item ∧ item.status = .pending ∧
      claimStateIn stateHash now s = .ok (⟨item.batchId, item.storeCode, item.applicationStoreCode, item.createdAt⟩,
          s.updateState stateHash (process now))) ∨
    ∃ refusal, claimStateIn stateHash now s = .error refusal ∧
      (refusal.persist = none ∨ ∃ item : AuthorizationState, refusal.persist =
        some ((s.updateState stateHash (expire now)).updateStore item.batchId item.storeCode
          (endAttempt "STATE_EXPIRED"))) := by
  unfold claimStateIn refuse
  cases found : s.stateOf stateHash with
  | none => exact .inr ⟨_, rfl, .inl rfl⟩
  | some item =>
    dsimp only
    split
    · exact .inr ⟨_, rfl, .inl rfl⟩
    · rename_i pending
      split
      · exact .inr ⟨_, rfl, .inr ⟨item, rfl⟩⟩
      · split
        · exact .inr ⟨_, rfl, .inl rfl⟩
        · exact .inl ⟨item, rfl, not_not.mp pending, rfl⟩

theorem pending_process {stateHash : String} {now : Instant}
    (found : s.stateOf stateHash = some item) (status : item.status = .pending) :
    pending stateHash (s.updateState stateHash (process now)) + 1 = pending stateHash s := by
  refine countP_updateFirst_lost (f := process now) found ?_ ?_
  · rw [stateOf_hash found, status]
    simp only [decide_true, Bool.and_self]
  · exact Bool.and_false _

/-- What `claimState` does to the file: a claim that is acknowledged uses up a pending state. -/
theorem claimState_ends (now : Instant) : Ends (claimState trip stateHash now) s fun result s' => Quiet s s' ∧
      (∀ other, pending other s' ≤ pending other s) ∧
      ∀ claim, result = .ok claim → pending stateHash s' + 1 = pending stateHash s ∧
        ∃ item ∈ s.states, item.storeCode = claim.storeCode := by
  unfold claimState
  cases isSha256Hex stateHash with
  | false => exact ⟨.refl s, fun _ => Nat.le_refl _, fun _ none => by cases none⟩
  | true =>
    change Ends (mutate trip (claimStateIn stateHash now)) s _
    refine (mutate_updated trip (claimStateIn stateHash now)).mono fun result s' updated => ?_
    rcases claimStateIn_cases (s := s) stateHash now with
      ⟨item, found, status, ran⟩ | ⟨refusal, ran, persist⟩
    · have quiet : Quiet s (s.updateState stateHash (process now)) := by
        refine quiet_updateState (fun _ => ⟨rfl, rfl⟩) fun other here _ => ?_
        rw [Option.mem_unique here found, AuthorizationState.live, status]
        rfl
      have less (other : String) : pending other (s.updateState stateHash (process now)) ≤
          pending other s := pending_updateState fun _ => by simp [process]
      cases updated with
      | done b new ran' arrives =>
        obtain ⟨rfl, rfl⟩ := Prod.mk.inj (Except.ok.inj (ran'.symm.trans ran))
        refine ⟨quiet, less, fun claim same => ?_⟩
        rw [← Except.ok.inj same]
        exact ⟨pending_process found status, item, List.mem_of_find?_eq_some found, rfl⟩
      | lost b new e ran' lost =>
        obtain ⟨rfl, rfl⟩ := Prod.mk.inj (Except.ok.inj (ran'.symm.trans ran))
        exact ⟨quiet, less, fun _ none => by cases none⟩
      | refused refusal e ran' => cases ran'.symm.trans ran
      | failed e fails => exact ⟨.refl s, fun _ => Nat.le_refl _, fun _ none => by cases none⟩
    · cases updated with
      | done b new ran' arrives => cases ran'.symm.trans ran
      | lost b new e ran' lost => cases ran'.symm.trans ran
      | refused refusal' e ran' =>
        obtain rfl := Except.error.inj (ran'.symm.trans ran)
        rcases persist with none_ | ⟨item, late⟩
        · rw [none_]
          exact ⟨.refl s, fun _ => Nat.le_refl _, fun _ none => by cases none⟩
        · rw [late]
          refine ⟨?_, fun _ => pending_updateState fun _ => by simp [expire], fun _ none => by cases none⟩
          exact (quiet_updateState (f := expire now) (fun _ => ⟨rfl, rfl⟩)
            fun _ _ live => by cases live).trans quiet_endAttempt
      | failed e fails => exact ⟨.refl s, fun _ => Nat.le_refl _, fun _ none => by cases none⟩

theorem completeStateIn_ok {r : CompleteRequest} {result : CompletedState} {new : StateFile}
    (ran : completeStateIn r s = .ok (result, new)) :
    ∃ item batch store, s.stateOf r.stateHash = some item ∧ item.status = .processing ∧
      s.batchOf item.batchId = some batch ∧ findStore batch item.storeCode = some store ∧
      new = completed r item s := by
  unfold completeStateIn refuse at ran
  split at ran
  · exact nomatch ran
  · rename_i item found
    split at ran
    · exact nomatch ran
    · rename_i processing
      split at ran
      · exact nomatch ran
      · rename_i batch inFile
        split at ran
        · exact nomatch ran
        · rename_i store member
          split at ran
          · exact nomatch ran
          · split at ran
            · exact nomatch ran
            · exact ⟨item, batch, store, found, not_not.mp processing, inFile, member,
                (Prod.mk.inj (Except.ok.inj ran)).2.symm⟩

theorem completeStateIn_error {r : CompleteRequest} {refusal : Refusal} (ran : completeStateIn r s = .error refusal) :
    refusal.persist.getD s = s ∨
      refusal.persist.getD s = s.updateState r.stateHash (failWithBatch r.completedAt) := by
  rcases completeStateIn_change (s := s) r 0 with ⟨_, _, other, -⟩ | ⟨refusal', same, change⟩
  · exact nomatch ran.symm.trans other
  · unfold completeStateIn refuse at ran
    split at ran
    · exact .inl (by rw [← Except.error.inj ran]; rfl)
    · split at ran
      · exact .inl (by rw [← Except.error.inj ran]; rfl)
      · split at ran
        · exact .inl (by rw [← Except.error.inj ran]; rfl)
        · split at ran
          · exact .inl (by rw [← Except.error.inj ran]; rfl)
          · split at ran
            · exact .inr (by rw [← Except.error.inj ran]; rfl)
            · split at ran
              · rename_i conflict found
                obtain ⟨other, -, conflicts⟩ := List.exists_of_findSome?_eq_some found
                refine .inl ?_
                rw [← Except.error.inj ran]
                unfold bindingConflict at conflicts
                split at conflicts
                · exact nomatch conflicts
                · split at conflicts
                  · rw [← Option.some.inj conflicts]; rfl
                  · split at conflicts
                    · rw [← Option.some.inj conflicts]; rfl
                    · exact nomatch conflicts
              · exact nomatch ran

/-- What `completeState` does to the file: the state succeeds, or no store is received and it does not
report that one was. -/
theorem completeState_ends (r : CompleteRequest) :
    Ends (completeState trip r) s fun result s' => (∀ other, pending other s' ≤ pending other s) ∧
      ((takesPlace (completeState · r) trip s = true ∧ (trip = .done → ∃ b, result = .ok b) ∧
        ∃ item batch store, s.stateOf r.stateHash = some item ∧ item.status = .processing ∧
          s.batchOf item.batchId = some batch ∧ findStore batch item.storeCode = some store ∧
          s' = completed r item s) ∨
        takesPlace (completeState · r) trip s = false ∧ (∀ b, result ≠ .ok b) ∧ Quiet s s') := by
  unfold completeState
  rw [takesPlace_mutate]
  refine (mutate_updated trip (completeStateIn r)).mono fun result s' updated => ?_
  have less (item : AuthorizationState) (other : String) :
      pending other (completed r item s) ≤ pending other s :=
    pending_updateState (f := succeed r.completedAt) fun _ => nofun
  cases updated with
  | done b new ran arrives =>
    obtain ⟨item, batch, store, found, processing, inFile, member, rfl⟩ := completeStateIn_ok ran
    refine ⟨less item, .inl ⟨?_, fun _ => ⟨b, rfl⟩, item, batch, store, found, processing, inFile, member,
      rfl⟩⟩
    rw [arrives, ran]
    rfl
  | lost b new e ran lost =>
    obtain ⟨item, batch, store, found, processing, inFile, member, rfl⟩ := completeStateIn_ok ran
    refine ⟨less item, .inl ⟨?_, fun arrives => (nomatch lost.symm.trans arrives), item, batch, store,
      found, processing, inFile, member, rfl⟩⟩
    rw [lost, ran]
    rfl
  | refused refusal e ran =>
    have refused : (trip.commits && (completeStateIn r s).isOk) = false := by
      rw [ran]
      exact Bool.and_false _
    rcases completeStateIn_error ran with same | same
    · rw [same]
      exact ⟨fun _ => Nat.le_refl _, .inr ⟨refused, nofun, .refl s⟩⟩
    · rw [same]
      refine ⟨fun _ => pending_updateState fun _ => nofun, .inr ⟨refused, nofun, ?_⟩⟩
      exact quiet_updateState (fun _ => ⟨rfl, rfl⟩) fun _ _ live => nomatch live
  | failed e fails =>
    refine ⟨fun _ => Nat.le_refl _, .inr ⟨?_, nofun, .refl s⟩⟩
    rw [fails]
    rfl

theorem failState_ends (r : FailRequest) :
    Ends (failState trip r) s fun _ s' => Quiet s s' ∧ ∀ other, pending other s' ≤ pending other s := by
  have fails (item : AuthorizationState) : Quiet s (failedFile r item s) ∧
      ∀ other, pending other (failedFile r item s) ≤ pending other s := by
    refine ⟨(quiet_updateState (f := failItem r.failedAt (safeFailureCode r.failureCode))
      (fun _ => ⟨rfl, rfl⟩) fun _ _ live => nomatch live).trans quiet_endAttempt, fun other => ?_⟩
    exact pending_updateState (f := failItem r.failedAt (safeFailureCode r.failureCode)) fun _ => nofun
  have effect {result : FailedState} {new : StateFile} (ran : failStateIn r s = .ok (result, new)) :
      Quiet s new ∧ ∀ other, pending other new ≤ pending other s := by
    unfold failStateIn at ran
    split at ran
    · obtain ⟨-, rfl⟩ := Prod.mk.inj (Except.ok.inj ran)
      exact ⟨.refl s, fun _ => Nat.le_refl _⟩
    · split at ran
      · obtain ⟨-, rfl⟩ := Prod.mk.inj (Except.ok.inj ran)
        exact ⟨.refl s, fun _ => Nat.le_refl _⟩
      · obtain ⟨-, rfl⟩ := Prod.mk.inj (Except.ok.inj ran)
        exact fails _
  refine (mutate_updated trip (failStateIn r)).mono fun result s' updated => ?_
  cases updated with
  | done b new ran arrives => exact effect ran
  | lost b new e ran lost => exact effect ran
  | refused refusal e ran =>
    unfold failStateIn at ran
    split at ran
    · exact nomatch ran
    · split at ran <;> exact nomatch ran
  | failed e fails => exact ⟨.refl s, fun _ => Nat.le_refl _⟩

end File

/-! ## The names of receipts -/

section Names

variable {W : Type} {S : Settings} {jobs : ServiceJobs W} {w w' : W}

/-- How the names of the receipts of a call end. -/
def receiptEnd (jobs : ServiceJobs W) (w : W) : List Char :=
  (jobs.receiptBytes w).toList ++ receiptSuffix

/-- A name that the call gives its receipt, or its temporary file. -/
def IsNameOf (S : Settings) (jobs : ServiceJobs W) (w : W) (name : String) : Prop :=
  receiptEnd jobs w <:+ name.toList ∨ receiptEnd jobs w ++ temporarySuffix S <:+ name.toList

theorem isNameOf_receiptName (receipt : Receipt) (milliseconds : Instant) :
    IsNameOf S jobs w (receiptName receipt milliseconds (jobs.receiptBytes w)) := by
  refine .inl ⟨safeBatchId receipt.batchId ++ '-' :: receipt.storeCode.toList ++
    '-' :: intText milliseconds ++ ['-'], ?_⟩
  simp [receiptName, receiptEnd]

theorem isNameOf_temporaryName (receipt : Receipt) (milliseconds : Instant) :
    IsNameOf S jobs w (temporaryName S (receiptName receipt milliseconds (jobs.receiptBytes w))) := by
  refine .inr ⟨safeBatchId receipt.batchId ++ '-' :: receipt.storeCode.toList ++
    '-' :: intText milliseconds ++ ['-'], ?_⟩
  simp [temporaryName, receiptName, receiptEnd]

theorem eq_of_suffixes {a b l : List Char} (left : a <:+ l) (right : b <:+ l) (length : a.length = b.length) : a = b :=
  (List.suffix_of_suffix_length_le left right length.le).eq_of_length length

/-- **Two calls never use one name.** -/
theorem IsNameOf.unique {name : String} (mine : IsNameOf S jobs w name) (other : IsNameOf S jobs w' name) :
    w = w' := by
  have lengths : (receiptEnd jobs w).length = (receiptEnd jobs w').length := by
    rw [receiptEnd, receiptEnd, List.length_append, List.length_append, jobs.receiptBytes_length,
      jobs.receiptBytes_length]
  have bytes (same : receiptEnd jobs w = receiptEnd jobs w') : w = w' :=
    jobs.receiptBytes_injective (String.toList_inj.mp (List.append_cancel_right same))
  have temporary : (temporarySuffix S).getLast? = some 'p' := by
    unfold temporarySuffix
    rw [List.getLast?_append]
    rfl
  -- A receipt ends in `n`, and a temporary file in `p`.
  have apart {v v' : W} (left : receiptEnd jobs v <:+ name.toList)
      (right : receiptEnd jobs v' ++ temporarySuffix S <:+ name.toList) : False := by
    obtain ⟨before, same⟩ := left
    obtain ⟨before', same'⟩ := right
    have last := congrArg List.getLast? (same.trans same'.symm)
    rw [List.getLast?_append, List.getLast?_append, List.getLast?_append, temporary, receiptEnd,
      List.getLast?_append] at last
    exact nomatch last
  rcases mine with mine | mine
  · rcases other with other | other
    · exact bytes (eq_of_suffixes mine other lengths)
    · exact (apart mine other).elim
  · rcases other with other | other
    · exact (apart other mine).elim
    · refine bytes (List.append_cancel_right (eq_of_suffixes mine other ?_))
      rw [List.length_append, List.length_append, lengths]

theorem receiptSuffix_chars : ∀ c ∈ receiptSuffix, isNameChar c = true ∨ c = '.' := by
  simp [receiptSuffix, isNameChar]

theorem receiptName_chars {receipt : Receipt} {milliseconds : Instant}
    (code : isStoreCode receipt.storeCode = true) {c : Char}
    (mem : c ∈ (receiptName receipt milliseconds (jobs.receiptBytes w)).toList) : isNameChar c = true ∨ c = '.' := by
  have digits (n : Nat) (digit : c ∈ decimalDigits n) : isNameChar c = true := by
    have := Nat.isDigit_of_mem_toDigits (by omega) (by omega) digit
    simp [isNameChar, this]
  have batch (there : c ∈ safeBatchId receipt.batchId) : isNameChar c = true := by
    obtain ⟨d, -, here⟩ := List.mem_flatMap.mp (List.mem_of_mem_take there)
    split at here
    · rename_i plain
      rw [List.mem_singleton.mp here]
      exact plain
    · rw [List.eq_of_mem_replicate here]
      rfl
  have store (there : c ∈ receipt.storeCode.toList) : isNameChar c = true := by
    have plain := List.all_eq_true.mp (Bool.and_eq_true_iff.mp code).2 c there
    simp only [Bool.or_eq_true, beq_iff_eq] at plain
    rcases plain with ((upper | digit) | rfl) | rfl
    · simp [isNameChar, upper]
    · simp [isNameChar, digit]
    · rfl
    · rfl
  have time (there : c ∈ intText milliseconds) : isNameChar c = true := by
    cases milliseconds with
    | ofNat n => exact digits n there
    | negSucc n =>
      rcases List.mem_cons.mp there with rfl | there
      · rfl
      · exact digits _ there
  have bytes (there : c ∈ (jobs.receiptBytes w).toList) : isNameChar c = true := by
    rcases jobs.receiptBytes_hex w c there with digit | letter
    · simp [isNameChar, digit]
    · have lower : c.isLower = true := by
        simp only [Char.isLower, Bool.and_eq_true, decide_eq_true_eq]
        exact ⟨letter.1, letter.2.trans (by decide)⟩
      simp [isNameChar, lower]
  have dash : isNameChar '-' = true := rfl
  simp only [receiptName, String.toList_ofList, List.mem_append, List.mem_cons] at mem
  rcases mem with (((there | rfl | there) | rfl | there) | rfl | there) | there
  · exact .inl (batch there)
  · exact .inl dash
  · exact .inl (store there)
  · exact .inl dash
  · exact .inl (time there)
  · exact .inl dash
  · exact .inl (bytes there)
  · exact receiptSuffix_chars c there

theorem basename_receiptPath {receipt : Receipt} {milliseconds : Instant}
    (code : isStoreCode receipt.storeCode = true) :
    basename (receiptPath S (receiptName receipt milliseconds (jobs.receiptBytes w))) =
      receiptName receipt milliseconds (jobs.receiptBytes w) := by
  have plain (c : Char) (mem : c ∈ (receiptName receipt milliseconds (jobs.receiptBytes w)).toList.reverse) :
      (c == '/') = false := by
    rcases receiptName_chars code (List.mem_reverse.mp mem) with name | rfl
    · refine beq_eq_false_iff_ne.mpr fun same => ?_
      rw [same] at name
      exact nomatch name
    · rfl
  have long : (receiptName receipt milliseconds (jobs.receiptBytes w)).toList.reverse ≠ [] := by
    simp [receiptName]
  generalize receiptName receipt milliseconds (jobs.receiptBytes w) = name at plain long ⊢
  unfold basename receiptPath
  rw [String.toList_ofList, List.reverse_append, List.reverse_cons, List.append_assoc,
    List.singleton_append]
  have kept : (name.toList.reverse ++ '/' :: S.receiptDirectory.toList.reverse).dropWhile (· == '/') =
      name.toList.reverse ++ '/' :: S.receiptDirectory.toList.reverse := by
    obtain ⟨c, rest, same⟩ := List.exists_cons_of_ne_nil long
    rw [same, List.cons_append, List.dropWhile_cons, plain c (same ▸ List.mem_cons_self)]
    rfl
  rw [kept, List.takeWhile_append_of_pos fun c mem => by rw [bne, plain c mem]; rfl,
    List.takeWhile_cons]
  simp

end Names

/-! ## How far a call has come -/

/-- How far a call has come: `written` is the receipt under its own name, and `settled` a receipt that a
store names or that is gone. `lost` says that an answer has broken the guard. -/
inductive CallPhase where
  | unclaimed
  | claimed
  | exchanged
  | temporary (name : String) (receipt : Receipt)
  | written (name : String) (receipt : Receipt)
  | settled
  | lost
  deriving DecidableEq

namespace CallPhase

def file : CallPhase → Option (String × Receipt)
  | temporary name receipt => some (name, receipt)
  | written name receipt => some (name, receipt)
  | _ => none

def moveTo (target : String) : CallPhase → CallPhase
  | temporary _ receipt => written target receipt
  | g => g

def next (g : CallPhase) : (call : ServiceCall) → Except Thrown (ServiceReply call) → CallPhase
  | .claimState _ _, .ok claim => if isStoreCode claim.storeCode then claimed else lost
  | .getByToken _ _ _, _ => exchanged
  | .writeFile name receipt, .ok _ => temporary name receipt
  | .rename _ target, .ok _ => g.moveTo target
  | .rename _ _, .error _ => lost
  | .completeState _, .ok _ => settled
  | .unlink _, .ok _ => settled
  | .unlink _, .error _ => lost
  | _, _ => g

end CallPhase

section Calls

variable {W : Type} {S : Settings} {jobs : ServiceJobs W} {w : W} {g : CallPhase}

/-- What a call of the service may do: it claims its own state and exchanges it once, writes files of its
own names, and completes a state with the receipt it has written. -/
def serviceProtocol (S : Settings) (jobs : ServiceJobs W) (w : W) :
    Protocol ServiceCall ServiceReply Thrown CallPhase where
  allowed g call := g = .lost ∨
    match call with
    | .claimState stateHash _ => g = .unclaimed ∧ stateHash = jobs.stateHash S w
    | .getByToken _ _ _ => g = .claimed
    | .writeFile name _ => g = .exchanged ∧ IsNameOf S jobs w name
    | .rename source target => IsNameOf S jobs w target ∧ ∃ receipt, g = .temporary source receipt
    | .completeState r => ∃ name receipt, g = .written name receipt ∧
        basename r.receiptFile = name ∧ r.credentialFingerprint = credentialFingerprint S receipt
    | .unlink name => ∃ receipt, g = .written name receipt
    | _ => True
  after g call reply := if g = .lost then .lost else g.next call reply

def arrives : RoundTrip JsError → Bool
  | .done => true
  | _ => false

/-- No update that completes a state commits and then reports an error, a receipt that cannot be written
leaves no file behind, and a receipt that is removed goes. -/
def LeavesNothing [DecidableEq W] (s : ServiceState W) (_ : W) (_ : CallPhase) :
    ServiceCall → ServiceChoice → Prop
  | .completeState r, choice =>
    arrives choice.update = true ∨ takesPlace (completeState · r) choice.update s.file = false
  | .writeFile _ _, choice => arrives choice.step = true ∨ choice.step.commits = false
  | .rename _ _, choice => arrives choice.step = true
  | .unlink _, choice => arrives choice.step = true
  | _, _ => True

instance [DecidableEq W] (s : ServiceState W) (w : W) (g : CallPhase) (call : ServiceCall)
    (choice : ServiceChoice) : Decidable (LeavesNothing s w g call choice) := by
  unfold LeavesNothing
  split <;> infer_instance

/-! ## The invariant -/

/-- What holds between any two steps. -/
structure Sound (S : Settings) (s : ServiceState W) : Prop where
  file : FileSound s.file
  named : ∀ store, Awaits s.file store → ∃ name receipt, store.receiptFile = some name ∧
    s.directory name = some receipt ∧
    store.credentialFingerprint = some (credentialFingerprint S receipt)
  only : ∀ name receipt, s.directory name = some receipt →
    (∃ store, Awaits s.file store ∧ store.receiptFile = some name) ∨ ∃ w, s.held w = some name
  paid : ∀ stateHash, s.claimed.countP (fun entry => decide (entry.2 = stateHash)) +
    pending stateHash s.file ≤ s.began.count stateHash
  once : (s.exchanged.map (·.1)).Nodup
  claims : ∀ entry ∈ s.exchanged, entry ∈ s.claimed

/-- What a call knows: its file is there, no store names a file of its own before it has settled, and it
has exchanged nothing before it says so. -/
structure Knows (S : Settings) (jobs : ServiceJobs W) (w : W) (g : CallPhase) (s : ServiceState W) :
    Prop where
  clean : g ≠ .lost
  held : s.held w = g.file.map (·.1)
  stored : ∀ name receipt, g.file = some (name, receipt) →
    IsNameOf S jobs w name ∧ s.directory name = some receipt
  fresh : g ≠ .settled → ∀ store, Awaits s.file store → ∀ name, store.receiptFile = some name →
    ¬IsNameOf S jobs w name
  unexchanged : g = .unclaimed ∨ g = .claimed → w ∉ s.exchanged.map (·.1)
  claimed : g = .claimed → (w, jobs.stateHash S w) ∈ s.claimed

/-- **What a call can do**, to the files and to its phase, where the guard holds. -/
inductive Effect [DecidableEq W] (S : Settings) (jobs : ServiceJobs W) (w : W) (s : ServiceState W) :
    CallPhase → ServiceState W → CallPhase → Prop where
  | nothing (g : CallPhase) : Effect S jobs w s g s g
  | updates (g : CallPhase) (file : StateFile) (began : List String) (quiet : Quiet s.file file)
      (less : ∀ stateHash, pending stateHash file ≤ pending stateHash s.file + began.count stateHash) :
      Effect S jobs w s g { s with file, began := s.began ++ began } g
  | claims (file : StateFile) (quiet : Quiet s.file file)
      (less : ∀ stateHash, pending stateHash file ≤ pending stateHash s.file)
      (used : pending (jobs.stateHash S w) file + 1 = pending (jobs.stateHash S w) s.file) :
      Effect S jobs w s .unclaimed
        { s with file, claimed := s.claimed ++ [(w, jobs.stateHash S w)] } .claimed
  | exchanges : Effect S jobs w s .claimed
      { s with exchanged := s.exchanged ++ [(w, jobs.stateHash S w)] } .exchanged
  | writes (name : String) (receipt : Receipt) (own : IsNameOf S jobs w name) :
      Effect S jobs w s .exchanged ((s.put name (some receipt)).hold w (some name))
        (.temporary name receipt)
  | renames (source target : String) (receipt : Receipt) (own : IsNameOf S jobs w target) :
      Effect S jobs w s (.temporary source receipt)
        (((s.put source none).put target (s.directory source)).hold w (some target))
        (.written target receipt)
  | completes (receipt : Receipt) (r : CompleteRequest) (item : AuthorizationState) (batch : Batch)
      (store : BatchStore) (found : s.file.stateOf r.stateHash = some item)
      (processing : item.status = .processing) (inFile : s.file.batchOf item.batchId = some batch)
      (member : findStore batch item.storeCode = some store)
      (less : ∀ stateHash, pending stateHash (completed r item s.file) ≤ pending stateHash s.file)
      (fingerprint : r.credentialFingerprint = credentialFingerprint S receipt) :
      Effect S jobs w s (.written (basename r.receiptFile) receipt)
        ({ s with file := completed r item s.file }.hold w none) .settled
  | unlinks (name : String) (receipt : Receipt) :
      Effect S jobs w s (.written name receipt) ((s.put name none).hold w none) .settled

end Calls

section Steps

variable {W : Type} [DecidableEq W] {S : Settings} {jobs : ServiceJobs W} {w : W} {g g' : CallPhase}
  {s s' : ServiceState W} {call : ServiceCall} {choice : ServiceChoice}

omit [DecidableEq W] in
theorem updateFile_effect {β : Type} (s : ServiceState W) (trip : RoundTrip JsError) (writes : Bool)
    {update : Action StateFile JsError β} {Q : Except JsError β → StateFile → Prop} (ends : Ends update s.file Q) :
    ∃ result file, Q result file ∧ (s.updateFile trip update writes).2 = { s with file } ∧
      ∀ b, (s.updateFile trip update writes).1 = .ok b ↔ result = .ok b := by
  refine ⟨(update.outcome s.file).1, (update.outcome s.file).2, ends, ?_, fun b => ?_⟩
  · unfold ServiceState.updateFile
    split <;> rename_i same <;> rw [same]
  · unfold ServiceState.updateFile
    split <;> rename_i same <;> rw [same] <;> simp

theorem Effect.updateFile (g : CallPhase) {file : StateFile} (quiet : Quiet s.file file)
    (less : ∀ stateHash, pending stateHash file ≤ pending stateHash s.file) :
    Effect S jobs w s g { s with file } g := by
  have effect : Effect S jobs w s g { s with file, began := s.began ++ [] } g :=
    .updates g file [] quiet less
  rwa [List.append_nil] at effect

theorem answer_effect (sound : FileSound s.file) (clean : g ≠ .lost)
    (allowed : (serviceProtocol S jobs w).allowed g call) (legal : LeavesNothing s w g call choice) :
    Effect S jobs w s g (s.answer jobs S w call choice).2
      ((serviceProtocol S jobs w).after g call (s.answer jobs S w call choice).1) := by
  have allowed := allowed.resolve_left clean
  show Effect S jobs w s g _ (if g = .lost then .lost else _)
  rw [if_neg clean]
  cases call with
  | now => exact .nothing g
  | getBatchByTokenHash tokenHash now => exact .nothing g
  | loadApplication owner => exact .nothing g
  | queryStoreInfo openKeyId secretKey => exact .nothing g
  | beginState r =>
    obtain ⟨result, file, ⟨quiet, less⟩, after, -⟩ := updateFile_effect s choice.update true
      (show Ends (beginState S.js choice.update r) s.file _ from beginState_ends choice.update r)
    show Effect S jobs w s g { (s.updateFile choice.update _ true).2 with began := _ } g
    rw [after]
    exact .updates g file _ quiet less
  | claimState stateHash claimedAt =>
    obtain ⟨rfl, rfl⟩ := allowed
    obtain ⟨result, file, ⟨quiet, less, claims⟩, after, ok⟩ := updateFile_effect s
      choice.update (written (claimStateIn _ claimedAt) s.file).isSome
      (claimState_ends choice.update (jobs.stateHash S w) claimedAt)
    simp only [ServiceState.answer]
    generalize s.updateFile choice.update (claimState choice.update (jobs.stateHash S w) claimedAt)
      (written (claimStateIn (jobs.stateHash S w) claimedAt) s.file).isSome = answered at after ok ⊢
    obtain ⟨reply, s'⟩ := answered
    obtain rfl : s' = { s with file } := after
    cases reply with
    | error e =>
      simp only [Except.toOption, Option.toList_none, List.map_nil, List.append_nil]
      exact .updateFile .unclaimed quiet less
    | ok claim =>
      obtain ⟨used, item, mem, code⟩ := claims claim ((ok claim).mp rfl)
      have valid : isStoreCode claim.storeCode = true := code ▸ sound.stateCodes item mem
      simp only [CallPhase.next, valid, if_true, Except.toOption, Option.toList_some, List.map_cons,
        List.map_nil]
      exact .claims file quiet less used
  | completeState r =>
    obtain ⟨_, receipt, rfl, rfl, fingerprint⟩ := allowed
    obtain ⟨result, file, ⟨less, cases_⟩, after, ok⟩ := updateFile_effect s
      choice.update (written (completeStateIn r) s.file).isSome
      (completeState_ends choice.update r)
    simp only [ServiceState.answer]
    rcases cases_ with ⟨takes, returns, item, batch, store, found, processing, inFile, member, rfl⟩ |
      ⟨refused, silent, quiet⟩
    · have done : choice.update = .done := by
        rcases legal with legal | legal
        · cases step : choice.update with
          | done => rfl
          | lost e => rw [step] at legal; exact nomatch legal
          | failed e => rw [step] at legal; exact nomatch legal
        · rw [takes] at legal
          exact nomatch legal
      obtain ⟨b, rfl⟩ := returns done
      rw [takes, if_pos rfl]
      dsimp only
      rw [(ok b).mpr rfl, after]
      exact .completes receipt r item batch store found processing inFile member less fingerprint
    · rw [refused, if_neg Bool.false_ne_true, after]
      cases reply : (s.updateFile choice.update (completeState choice.update r)
          (written (completeStateIn r) s.file).isSome).1 with
      | error e => exact .updateFile _ quiet less
      | ok b => exact absurd ((ok b).mp reply) (silent b)
  | failState r =>
    obtain ⟨result, file, ⟨quiet, less⟩, after, -⟩ := updateFile_effect s choice.update true
      (failState_ends choice.update r)
    show Effect S jobs w s g (s.updateFile choice.update _ true).2 g
    rw [after]
    exact .updateFile g quiet less
  | getByToken appId appSecretKey tempToken =>
    rw [allowed]
    exact .exchanges
  | mkdir =>
    cases step : choice.step <;> simp only [ServiceState.answer, ServiceState.takeStep, step] <;>
      exact .nothing g
  | writeFile name receipt =>
    obtain ⟨rfl, own⟩ := allowed
    cases step : choice.step with
    | done =>
      simp only [ServiceState.answer, ServiceState.takeStep, step]
      exact .writes name receipt own
    | lost e => rcases legal with legal | legal <;> rw [step] at legal <;> exact nomatch legal
    | failed e =>
      simp only [ServiceState.answer, ServiceState.takeStep, step]
      exact .nothing _
  | rename source target =>
    obtain ⟨own, receipt, rfl⟩ := allowed
    cases step : choice.step with
    | done =>
      simp only [ServiceState.answer, ServiceState.takeStep, step]
      exact .renames source target receipt own
    | lost e => rw [LeavesNothing, step] at legal; exact nomatch legal
    | failed e => rw [LeavesNothing, step] at legal; exact nomatch legal
  | unlink name =>
    obtain ⟨receipt, rfl⟩ := allowed
    cases step : choice.step with
    | done =>
      simp only [ServiceState.answer, ServiceState.takeStep, step]
      exact .unlinks name receipt
    | lost e => rw [LeavesNothing, step] at legal; exact nomatch legal
    | failed e => rw [LeavesNothing, step] at legal; exact nomatch legal

omit [DecidableEq W] in
theorem countP_claimed (claimed : List (W × String)) (w : W) (stateHash other : String) :
    (claimed ++ [(w, stateHash)]).countP (fun entry => decide (entry.2 = other)) =
      claimed.countP (fun entry => decide (entry.2 = other)) + [stateHash].count other := by
  rw [List.countP_append, List.countP_singleton, List.count_singleton]
  by_cases same : stateHash = other <;> simp [same]

omit [DecidableEq W] in
theorem IsNameOf.ne {name other : String} (own : IsNameOf S jobs w name)
    (apart : ¬IsNameOf S jobs w other) : other ≠ name := fun same => apart (same ▸ own)

omit [DecidableEq W] in
/-- A receipt that awaits review stays where it was when a file of a running call comes or goes. -/
theorem Sound.named_of (sound : Sound S s) (knows : Knows S jobs w g s) (unsettled : g ≠ .settled)
    (elsewhere : ∀ name, ¬IsNameOf S jobs w name → s'.directory name = s.directory name)
    (file : s'.file = s.file) (store : BatchStore) (awaits : Awaits s'.file store) :
    ∃ name receipt, store.receiptFile = some name ∧ s'.directory name = some receipt ∧
      store.credentialFingerprint = some (credentialFingerprint S receipt) := by
  rw [file] at awaits
  obtain ⟨name, receipt, named, there, fingerprint⟩ := sound.named store awaits
  refine ⟨name, receipt, named, ?_, fingerprint⟩
  rw [elsewhere name (knows.fresh unsettled store awaits name named)]
  exact there

omit [DecidableEq W] in
/-- An update of the file that receives no store leaves the stores and their receipts in agreement. -/
theorem Sound.quiet {file : StateFile} (sound : Sound S s) (quiet : Quiet s.file file) :
    (∀ store, Awaits file store → ∃ name receipt, store.receiptFile = some name ∧ s.directory name = some receipt ∧
      store.credentialFingerprint = some (credentialFingerprint S receipt)) ∧
    ∀ name receipt, s.directory name = some receipt →
      (∃ store, Awaits file store ∧ store.receiptFile = some name) ∨ ∃ w, s.held w = some name := by
  refine ⟨fun store awaits => sound.named store ((quiet.awaits sound.file store).mp awaits), fun name receipt there => ?_⟩
  refine (sound.only name receipt there).imp_left ?_
  rintro ⟨store, awaits, named⟩
  exact ⟨store, (quiet.awaits sound.file store).mpr awaits, named⟩

/-- A file that another call holds is still held when a call lets go of its own. -/
theorem Knows.still_held {other : String} (knows : Knows S jobs w g s) (kept : s'.held = s.held)
    (apart : g.file.map (·.1) ≠ some other) (file : Option String) (held : ∃ v, s.held v = some other) :
    ∃ v, (s'.hold w file).held v = some other := by
  obtain ⟨v, held⟩ := held
  have differs : v ≠ w := by
    rintro rfl
    exact apart (knows.held.symm.trans held)
  exact ⟨v, by rw [ServiceState.hold_held_of_ne _ differs, kept, held]⟩

/-- **Each effect keeps the invariant.** -/
theorem Effect.sound (effect : Effect S jobs w s g s' g') (knows : Knows S jobs w g s)
    (sound : Sound S s) : Sound S s' := by
  cases effect with
  | nothing => exact sound
  | updates _ file began quiet less =>
    obtain ⟨named, only⟩ := sound.quiet quiet
    refine ⟨quiet.sound sound.file, named, only, fun stateHash => ?_, sound.once, sound.claims⟩
    · have paid := sound.paid stateHash
      have here := less stateHash
      show s.claimed.countP _ + pending stateHash file ≤ (s.began ++ began).count stateHash
      rw [List.count_append]
      omega
  | claims file quiet less used =>
    obtain ⟨named, only⟩ := sound.quiet quiet
    refine ⟨quiet.sound sound.file, named, only, fun stateHash => ?_, sound.once, fun entry mem => List.mem_append_left _ (sound.claims entry mem)⟩
    · have paid := sound.paid stateHash
      have here := less stateHash
      show (s.claimed ++ _).countP _ + pending stateHash file ≤ s.began.count stateHash
      rw [countP_claimed, List.count_singleton]
      by_cases same : jobs.stateHash S w = stateHash
      · subst same
        rw [beq_self_eq_true, if_pos rfl]
        omega
      · rw [beq_eq_false_iff_ne.mpr same, if_neg Bool.false_ne_true]
        omega
  | exchanges =>
    refine ⟨sound.file, sound.named, sound.only, sound.paid, ?_, fun entry mem => ?_⟩
    · show ((s.exchanged ++ [(w, jobs.stateHash S w)]).map (·.1)).Nodup
      rw [List.map_append]
      refine List.nodup_append.mpr ⟨sound.once, List.nodup_singleton _, fun v mem v' here same => ?_⟩
      rw [same, show v' = w from List.mem_singleton.mp here] at mem
      exact knows.unexchanged (.inr rfl) mem
    · rcases mem_concat.mp mem with mem | mem
      · exact sound.claims entry mem
      · rw [mem]
        exact knows.claimed rfl
  | writes name receipt own =>
    refine ⟨sound.file, sound.named_of knows nofun (fun other apart => ?_) rfl, fun other found there => ?_,
      sound.paid, sound.once, sound.claims⟩
    · exact s.put_directory_of_ne (own.ne apart) _
    · by_cases same : other = name
      · exact .inr ⟨w, by rw [ServiceState.hold_held_self, same]⟩
      · exact (sound.only other found ((s.put_directory_of_ne same _).symm.trans there)).imp_right
          (knows.still_held rfl nofun _)
  | renames source target receipt own =>
    have source_own := (knows.stored source receipt rfl).1
    have directory (other : String) (apart : other ≠ target) (apart' : other ≠ source) :
        ((s.put source none).put target (s.directory source)).directory other = s.directory other := by
      rw [ServiceState.put_directory_of_ne _ apart, ServiceState.put_directory_of_ne _ apart']
    refine ⟨sound.file, sound.named_of knows nofun (fun other apart => ?_) rfl, fun other found there => ?_,
      sound.paid, sound.once, sound.claims⟩
    · exact directory other (own.ne apart) (source_own.ne apart)
    · by_cases same : other = target
      · exact .inr ⟨w, by rw [ServiceState.hold_held_self, same]⟩
      · have apart : other ≠ source := by
          rintro rfl
          have gone : ((s.put other none).put target (s.directory other)).directory other = none := by
            rw [ServiceState.put_directory_of_ne _ same, ServiceState.put_directory_self]
          exact nomatch gone.symm.trans there
        exact (sound.only other found ((directory other same apart).symm.trans there)).imp_right
          (knows.still_held rfl (fun same => apart (Option.some.inj same).symm) _)
  | completes receipt r item batch store found processing inFile member less fingerprint =>
    have awaits := awaits_completed (r := r) sound.file found processing inFile member
    refine ⟨sound_completed sound.file found processing, fun other waits => ?_,
      fun name found there => ?_, fun stateHash => ?_, sound.once, sound.claims⟩
    · rcases (awaits other).mp waits with waits | rfl
      · exact sound.named other waits
      · exact ⟨_, receipt, rfl, (knows.stored _ receipt rfl).2, congrArg some fingerprint⟩
    · rcases sound.only name found there with ⟨other, waits, named⟩ | ⟨v, held⟩
      · exact .inl ⟨other, (awaits other).mpr (.inl waits), named⟩
      · by_cases same : v = w
        · subst same
          refine .inl ⟨receive r store, (awaits _).mpr (.inr rfl), ?_⟩
          exact knows.held.symm.trans held
        · exact .inr ⟨v, (ServiceState.hold_held_of_ne _ same _).trans held⟩
    · exact (Nat.add_le_add_left (less stateHash) _).trans (sound.paid stateHash)
  | unlinks name receipt =>
    have own := (knows.stored name receipt rfl).1
    refine ⟨sound.file, sound.named_of knows nofun (fun other apart => ?_) rfl, fun other found there => ?_,
      sound.paid, sound.once, sound.claims⟩
    · exact s.put_directory_of_ne (own.ne apart) _
    · have apart : other ≠ name := by
        rintro rfl
        exact nomatch (s.put_directory_self other none).symm.trans there
      exact (sound.only other found ((s.put_directory_of_ne apart _).symm.trans there)).imp_right
        (knows.still_held rfl (fun same => apart (Option.some.inj same).symm) _)

theorem Effect.own (effect : Effect S jobs w s g s' g') (knows : Knows S jobs w g s)
    (sound : Sound S s) : Knows S jobs w g' s' := by
  cases effect with
  | nothing => exact knows
  | updates _ file began quiet less =>
    exact ⟨knows.clean, knows.held, knows.stored, fun unsettled store awaits =>
      knows.fresh unsettled store ((quiet.awaits sound.file store).mp awaits), knows.unexchanged,
      knows.claimed⟩
  | claims file quiet less used =>
    exact ⟨nofun, knows.held, nofun, fun _ store awaits =>
      knows.fresh nofun store ((quiet.awaits sound.file store).mp awaits),
      fun _ => knows.unexchanged (.inl rfl), fun _ => List.mem_concat_self⟩
  | exchanges =>
    exact ⟨nofun, knows.held, nofun, fun _ => knows.fresh nofun, nofun, nofun⟩
  | writes name receipt own =>
    refine ⟨nofun, ServiceState.hold_held_self .., fun name' receipt' same => ?_, fun _ => knows.fresh nofun,
      nofun, nofun⟩
    obtain ⟨rfl, rfl⟩ := Prod.mk.inj (Option.some.inj same)
    exact ⟨own, s.put_directory_self ..⟩
  | renames source target receipt own =>
    refine ⟨nofun, ServiceState.hold_held_self .., fun name' receipt' same => ?_, fun _ => knows.fresh nofun,
      nofun, nofun⟩
    obtain ⟨rfl, rfl⟩ := Prod.mk.inj (Option.some.inj same)
    exact ⟨own, (ServiceState.put_directory_self ..).trans (knows.stored source receipt rfl).2⟩
  | completes receipt r item batch store found processing inFile member less fingerprint =>
    exact ⟨nofun, ServiceState.hold_held_self .., nofun, fun unsettled => absurd rfl unsettled, nofun, nofun⟩
  | unlinks name receipt =>
    exact ⟨nofun, ServiceState.hold_held_self .., nofun, fun unsettled => absurd rfl unsettled, nofun, nofun⟩

theorem Effect.other {v : W} {h : CallPhase} (effect : Effect S jobs w s g s' g')
    (knows : Knows S jobs w g s) (sound : Sound S s) (differs : v ≠ w) (knows' : Knows S jobs v h s) :
    Knows S jobs v h s' := by
  -- A file of the other call is none of this one's.
  have stored {s' : ServiceState W}
      (elsewhere : ∀ name, ¬IsNameOf S jobs w name → s'.directory name = s.directory name)
      (name : String) (receipt : Receipt) (file : h.file = some (name, receipt)) :
      IsNameOf S jobs v name ∧ s'.directory name = some receipt := by
    obtain ⟨own, there⟩ := knows'.stored name receipt file
    exact ⟨own, (elsewhere name fun mine => differs (own.unique mine)).trans there⟩
  cases effect with
  | nothing => exact knows'
  | updates _ file began quiet less =>
    exact ⟨knows'.clean, knows'.held, knows'.stored, fun unsettled store awaits =>
      knows'.fresh unsettled store ((quiet.awaits sound.file store).mp awaits), knows'.unexchanged,
      knows'.claimed⟩
  | claims file quiet less used =>
    exact ⟨knows'.clean, knows'.held, knows'.stored, fun unsettled store awaits =>
      knows'.fresh unsettled store ((quiet.awaits sound.file store).mp awaits), knows'.unexchanged,
      fun here => List.mem_append_left _ (knows'.claimed here)⟩
  | exchanges =>
    refine ⟨knows'.clean, knows'.held, knows'.stored, knows'.fresh, fun early mem => ?_, knows'.claimed⟩
    rw [List.map_append] at mem
    rcases mem_concat.mp mem with mem | mem
    · exact knows'.unexchanged early mem
    · exact differs mem
  | writes name receipt own =>
    refine ⟨knows'.clean, (ServiceState.hold_held_of_ne _ differs _).trans knows'.held,
      stored fun other apart => ?_, knows'.fresh, knows'.unexchanged, knows'.claimed⟩
    exact s.put_directory_of_ne (own.ne apart) _
  | renames source target receipt own =>
    refine ⟨knows'.clean, (ServiceState.hold_held_of_ne _ differs _).trans knows'.held,
      stored fun other apart => ?_, knows'.fresh, knows'.unexchanged, knows'.claimed⟩
    refine (ServiceState.put_directory_of_ne _ (own.ne apart) _).trans ?_
    exact s.put_directory_of_ne ((knows.stored source receipt rfl).1.ne apart) _
  | completes receipt r item batch store found processing inFile member less fingerprint =>
    refine ⟨knows'.clean, (ServiceState.hold_held_of_ne _ differs _).trans knows'.held, knows'.stored,
      fun unsettled other waits name named mine => ?_, knows'.unexchanged, knows'.claimed⟩
    rcases (awaits_completed (r := r) sound.file found processing inFile member other).mp waits with
      waits | rfl
    · exact knows'.fresh unsettled other waits name named mine
    · obtain rfl := Option.some.inj named
      exact differs (mine.unique (knows.stored _ receipt rfl).1)
  | unlinks name receipt =>
    refine ⟨knows'.clean, (ServiceState.hold_held_of_ne _ differs _).trans knows'.held,
      stored fun other apart => ?_, knows'.fresh, knows'.unexchanged, knows'.claimed⟩
    exact s.put_directory_of_ne ((knows.stored name receipt rfl).1.ne apart) _

end Steps

/-! ## The programs -/

section Programs

variable {W : Type} {S : Settings} {jobs : ServiceJobs W} {w : W} {g : CallPhase} {α β : Type}

/-- The program makes only calls it may make, and ends as `Q` says unless an answer has broken the
guard. -/
abbrev CallFollows (S : Settings) (jobs : ServiceJobs W) (w : W) (p : ServiceProgram α) (g : CallPhase)
    (Q : Except Thrown α → CallPhase → Prop) : Prop :=
  Follows (serviceProtocol S jobs w) p g (Unless (· = .lost) Q)

theorem forgives_lost : (serviceProtocol S jobs w).Forgives (· = .lost) :=
  ⟨fun _ _ contradicted => .inl contradicted, fun _ _ _ contradicted => if_pos contradicted⟩

variable {call : ServiceCall}

theorem follows_awaiting (allowed : (serviceProtocol S jobs w).allowed g call) (clean : g ≠ .lost) :
    CallFollows S jobs w (awaiting call) g fun r g' => g' = g.next call r ∧ g' ≠ .lost := by
  have performed : Follows (serviceProtocol S jobs w) (.perform call) g (Unless (· = .lost) _) :=
    follows_perform_unless allowed
  refine performed.mono fun r g' known unlost => ?_
  obtain ⟨rfl, -⟩ := known unlost
  exact ⟨if_neg clean, unlost⟩

/-- A call that brings its program no further. -/
inductive Plain : ServiceCall → Prop where
  | now : Plain .now
  | getBatchByTokenHash (tokenHash : String) (now : Instant) : Plain (.getBatchByTokenHash tokenHash now)
  | loadApplication (owner : String) : Plain (.loadApplication owner)
  | beginState (r : BeginRequest) : Plain (.beginState r)
  | failState (r : FailRequest) : Plain (.failState r)
  | queryStoreInfo (openKeyId secretKey : String) : Plain (.queryStoreInfo openKeyId secretKey)
  | mkdir : Plain .mkdir

theorem follows_plain (plain : Plain call) (clean : g ≠ .lost) :
    CallFollows S jobs w (awaiting call) g fun _ g' => g' = g := by
  have allowed : (serviceProtocol S jobs w).allowed g call := by
    refine .inr ?_
    cases plain <;> trivial
  refine (follows_awaiting allowed clean).mono fun r g' known unlost => ?_
  rw [(known unlost).1]
  cases plain <;> rfl

theorem follows_plain_then (plain : Plain call) (clean : g ≠ .lost)
    {f : ServiceReply call → ServiceProgram β} {Q : Except Thrown β → CallPhase → Prop}
    (rest : ∀ reply, CallFollows S jobs w (f reply) g Q) (fails : ∀ e, Q (.error e) g) :
    CallFollows S jobs w (awaiting call >>= f) g Q := by
  refine follows_bind_unless forgives_lost (follows_plain plain clean) ?_ ?_
  · intro reply g' same
    rw [show g' = g from same]
    exact rest reply
  · intro e g' same
    rw [show g' = g from same]
    exact fails e

/-- A call leaves no file behind that no store names. -/
def Tidy : Except Thrown α → CallPhase → Prop := fun _ g => g.file = none

/-- `writeReceipt` ends with the receipt under its own name, or with no file. -/
theorem follows_writeReceipt {receipt : Receipt} :
    CallFollows S jobs w (writeReceipt S (jobs.receiptBytes w) receipt) .exchanged fun r g' => match r with
      | .ok name => g' = .written name receipt ∧
          ∃ now, name = receiptName receipt now (jobs.receiptBytes w)
      | .error _ => g'.file = none := by
  refine follows_plain_then (g := .exchanged) .mkdir nofun (fun _ => ?_) fun _ => rfl
  refine follows_plain_then (g := .exchanged) .now nofun (fun now => ?_) fun _ => rfl
  refine follows_bind_unless forgives_lost
    (follows_awaiting (.inr ⟨rfl, isNameOf_temporaryName receipt now⟩) nofun) ?_ ?_
  · rintro _ _ ⟨rfl, -⟩
    refine follows_bind_unless forgives_lost
      (follows_awaiting (.inr ⟨isNameOf_receiptName receipt now, receipt, rfl⟩) nofun) ?_ ?_
    · rintro _ _ ⟨rfl, -⟩
      exact fun _ => ⟨rfl, now, rfl⟩
    · rintro e _ ⟨rfl, unlost⟩
      exact absurd rfl unlost
  · rintro e _ ⟨rfl, -⟩
    rfl

/-- A receipt is named by a store or gone when its state is dealt with. -/
theorem follows_receiveReceipt {stateHash : String} {receipt : Receipt} (code : isStoreCode receipt.storeCode = true) :
    CallFollows S jobs w (receiveReceipt S (jobs.receiptBytes w) stateHash receipt) .exchanged Tidy := by
  refine follows_bind_unless forgives_lost follows_writeReceipt ?_ fun e g' tidy => tidy
  intro name g' known
  obtain ⟨rfl, now, rfl⟩ := known
  refine follows_tryCatch_unless forgives_lost (follows_awaiting (.inr ⟨_, receipt, rfl,
    basename_receiptPath code, rfl⟩) nofun) ?_ ?_
  · rintro a _ ⟨rfl, -⟩
    rfl
  · rintro e _ ⟨rfl, -⟩
    refine follows_observing_unless forgives_lost (follows_awaiting (.inr ⟨receipt, rfl⟩) nofun) ?_
    rintro r _ ⟨rfl, unlost⟩
    cases r with
    | ok _ => exact fun _ => rfl
    | error e => exact absurd rfl unlost

variable {state tempToken : String}

theorem follows_exchangeToken {claim : Claim} (code : isStoreCode claim.storeCode = true) :
    CallFollows S jobs w (exchangeToken S (jobs.receiptBytes w) state tempToken claim) .claimed Tidy := by
  refine follows_plain_then (g := .claimed) (.loadApplication _) nofun (fun application => ?_) fun _ => rfl
  refine follows_bind_unless forgives_lost (follows_awaiting (.inr rfl) nofun) ?_ ?_
  · rintro exchange _ ⟨rfl, -⟩
    split
    · exact fun _ => rfl
    · split
      · exact fun _ => rfl
      · refine follows_plain_then (g := .exchanged) (.queryStoreInfo _ _) nofun (fun storeInfo => ?_)
          fun _ => rfl
        cases verifiedIdentity S.toLowerCase exchange storeInfo with
        | error e => exact fun _ => rfl
        | ok identity =>
          exact follows_plain_then (g := .exchanged) .now nofun
            (fun completedAt => follows_receiveReceipt code) fun _ => rfl
  · rintro e _ ⟨rfl, -⟩
    rfl

theorem follows_complete (own : S.sha256 state = jobs.stateHash S w) :
    CallFollows S jobs w (complete S (jobs.receiptBytes w) state tempToken) .unclaimed Tidy := by
  unfold complete
  split
  · exact fun _ => rfl
  · split
    · exact fun _ => rfl
    · refine follows_plain_then (g := .unclaimed) .now nofun (fun now => ?_) fun _ => rfl
      refine follows_bind_unless forgives_lost (follows_awaiting (.inr ⟨rfl, own⟩) nofun) ?_ ?_
      · intro claim g' known
        by_cases code : isStoreCode claim.storeCode = true
        · rw [show g' = .claimed from known.1.trans (if_pos code)]
          refine follows_tryCatch_unless forgives_lost (follows_exchangeToken code) (fun _ _ tidy => tidy) ?_
          intro e g' tidy
          have clean : g' = .lost ∨ g' ≠ .lost := em _
          rcases clean with rfl | clean
          · exact follows_of_lost forgives_lost rfl
          · refine follows_plain_then .now clean (fun failedAt => ?_) fun _ => tidy
            refine follows_observing_unless forgives_lost (follows_plain (.failState _) clean) ?_
            intro r g'' same
            rw [show g'' = g' from same]
            split <;> exact fun _ => tidy
        · exact absurd (known.1.trans (if_neg code)) known.2
      · rintro e _ ⟨rfl, -⟩
        rfl

theorem follows_begin {randomState token storeCode : String} :
    CallFollows S jobs w («begin» S randomState token storeCode) .unclaimed Tidy := by
  unfold «begin»
  dsimp only
  split
  · exact fun _ => rfl
  · split
    · exact fun _ => rfl
    · split
      · exact fun _ => rfl
      · refine follows_plain_then (g := .unclaimed) .now nofun (fun startedAt => ?_) fun _ => rfl
        refine follows_plain_then (g := .unclaimed) .now nofun (fun now => ?_) fun _ => rfl
        refine follows_plain_then (g := .unclaimed) (.getBatchByTokenHash _ _) nofun (fun batch => ?_)
          fun _ => rfl
        split
        · exact fun _ => rfl
        · refine follows_plain_then (g := .unclaimed) (.loadApplication _) nofun (fun application => ?_)
            fun _ => rfl
          exact follows_plain_then (g := .unclaimed) (.beginState _) nofun (fun _ _ => rfl) fun _ => rfl

/-- Every call of the service keeps to its protocol and leaves no file behind. -/
theorem follows_calls (S : Settings) (jobs : ServiceJobs W) (w : W) :
    CallFollows S jobs w (jobs.body S w) .unclaimed Tidy := by
  unfold ServiceJobs.body
  split
  · exact follows_bind_unless forgives_lost follows_begin (fun _ _ tidy _ => tidy) fun _ _ tidy => tidy
  · rename_i state tempToken job
    have own : S.sha256 state = jobs.stateHash S w := by rw [ServiceJobs.stateHash, job]
    exact follows_bind_unless forgives_lost (follows_complete own) (fun _ _ tidy _ => tidy)
      fun _ _ tidy => tidy

end Programs

/-! ## The law -/

section Law

variable {W : Type} [DecidableEq W] {S : Settings} {jobs : ServiceJobs W}

def serviceSpec (S : Settings) (jobs : ServiceJobs W) :
    PoolSpec (ServiceState W) W ServiceCall ServiceReply Thrown CallPhase ServiceResult ServiceChoice
      Empty where
  body := jobs.body S
  protocol := serviceProtocol S jobs
  unknowing := .unclaimed
  answer := ServiceState.answer jobs S
  outside _ event := nomatch event

abbrev ServiceRun (W : Type) :=
  Pool (ServiceState W) W ServiceCall ServiceReply Thrown CallPhase ServiceResult

def GoesOn (_ : ServiceState W) (_ : W) : Prop := True

instance (s : ServiceState W) (w : W) : Decidable (GoesOn s w) := .isTrue trivial

/-- The files and the calls after one step of a call. -/
def serviceStep (S : Settings) (jobs : ServiceJobs W) :
    ServiceRun W → CrewAction W ServiceChoice Empty → ServiceRun W :=
  crewStep GoesOn (serviceSpec S jobs)

/-- The file and the directory, and nobody has called yet. -/
def idleService (S : Settings) (jobs : ServiceJobs W) (file : StateFile)
    (directory : String → Option Receipt) : ServiceRun W :=
  .begin (serviceSpec S jobs) (.init file directory)

omit [DecidableEq W] in
def NoCallInProgress (S : Settings) (jobs : ServiceJobs W) (s : ServiceRun W) : Prop :=
  ∀ w, ∃ p g, s.live w = some (p, g) ∧ (p.ended = true ∨ p = jobs.body S w ∧ g = .unclaimed)

/-- The receipts are those that the stores awaiting review name, with the credentials on record, and no
state was exchanged more often than it was begun. -/
structure Agreement (S : Settings) (s : ServiceState W) : Prop where
  named : ∀ store, Awaits s.file store → ∃ name receipt, store.receiptFile = some name ∧
    s.directory name = some receipt ∧
    store.credentialFingerprint = some (credentialFingerprint S receipt)
  only : ∀ name receipt, s.directory name = some receipt →
    ∃ store, Awaits s.file store ∧ store.receiptFile = some name
  once : ∀ stateHash, s.exchanged.countP (fun entry => decide (entry.2 = stateHash)) ≤
    s.began.count stateHash

/-- A file and a directory that agree, and no receipt has a name that is still to be drawn. -/
structure Start (S : Settings) (jobs : ServiceJobs W) (file : StateFile)
    (directory : String → Option Receipt) : Prop where
  sound : FileSound file
  agrees : Agreement S (.init file directory : ServiceState W)
  undrawn : ∀ store, Awaits file store → ∀ name, store.receiptFile = some name →
    ∀ w, ¬IsNameOf S jobs w name

theorem serviceRules (S : Settings) (jobs : ServiceJobs W) :
    CrewRules GoesOn (serviceSpec S jobs) (Sound S) (Knows S jobs)
      (fun _ => Unless (· = .lost) Tidy) LeavesNothing where
  body := follows_calls S jobs
  outside _ event := nomatch event
  shared _ _ _ _ _ sound knows allowed _ legal :=
    (answer_effect sound.file knows.clean allowed legal).sound knows sound
  own _ _ _ _ _ sound knows allowed _ legal :=
    (answer_effect sound.file knows.clean allowed legal).own knows sound
  other _ _ _ _ _ _ _ sound knows allowed _ legal differs knows' :=
    (answer_effect sound.file knows.clean allowed legal).other knows sound differs knows'

omit [DecidableEq W] in
theorem Start.invariant {file : StateFile} {directory : String → Option Receipt}
    (start : Start S jobs file directory) : Sound S (.init file directory : ServiceState W) ∧
      ∀ w, Knows S jobs w .unclaimed (.init file directory) := by
  refine ⟨⟨start.sound, start.agrees.named, fun name receipt there => .inl (start.agrees.only name receipt there),
    fun stateHash => ?_, List.nodup_nil, fun _ mem => absurd mem List.not_mem_nil⟩, fun w => ?_⟩
  · show 0 + pending stateHash file ≤ (file.states.map (·.stateHash)).count stateHash
    rw [Nat.zero_add, List.count, List.countP_map]
    refine List.countP_mono_left fun item _ here => ?_
    exact beq_iff_eq.mpr (of_decide_eq_true (Bool.and_eq_true_iff.mp here).1)
  · exact ⟨nofun, rfl, nofun, fun _ store awaits name named => start.undrawn store awaits name named w,
      fun _ => List.not_mem_nil, nofun⟩

theorem Agreement.of_invariant {s : ServiceRun W} (inv : CrewInvariant (serviceSpec S jobs) (Sound S) (Knows S jobs)
      (fun _ => Unless (· = .lost) Tidy) s) (idle : NoCallInProgress S jobs s) : Agreement S s.shared where
  named := inv.shared.named
  only name receipt there := by
    refine (inv.shared.only name receipt there).resolve_right ?_
    rintro ⟨w, held⟩
    obtain ⟨p, g, live, ended⟩ := idle w
    obtain ⟨knows, follows⟩ := inv.live w p g live
    have tidy : g.file = none := by
      rcases ended with ended | ⟨-, rfl⟩
      · obtain ⟨_, tidy⟩ := follows.of_ended ended
        exact tidy knows.clean
      · rfl
    rw [knows.held, tidy] at held
    exact nomatch held
  once stateHash := by
    have distinct : s.shared.exchanged.Nodup := .of_map _ inv.shared.once
    have paid := inv.shared.paid stateHash
    have within := (distinct.subperm inv.shared.claims).countP_le
      fun entry => decide (entry.2 = stateHash)
    omega

/-- **Receipts and stores that await review agree**, wherever no call is in progress, in every run of the
service in which no completion commits and then reports an error and no step of a receipt leaves a file
behind. -/
theorem receiptAgreement_law {file : StateFile} {directory : String → Option Receipt}
    (start : Start S jobs file directory) {actions : List (CrewAction W ServiceChoice Empty)}
    (legal : Along (serviceStep S jobs) (CrewGuard GoesOn LeavesNothing)
      (idleService S jobs file directory) actions) (pre post : List _) (split : actions = pre ++ post)
    (idle : NoCallInProgress S jobs (run (serviceStep S jobs) (idleService S jobs file directory) pre)) :
    Agreement S (run (serviceStep S jobs) (idleService S jobs file directory) pre).shared := by
  rw [split, along_append] at legal
  have rules := serviceRules S jobs
  obtain ⟨sound, knows⟩ := start.invariant
  exact .of_invariant (crew_invariant rules (.begin rules sound knows) legal.1) idle

end Law

/-! ## Runs -/

def longToken (c : Char) : String := String.ofList (List.replicate 43 c)

/-- A service with a digest that tells three kinds of texts apart. -/
def smallService : Settings where
  js := .ascii
  toLowerCase := CaseBuiltins.ascii.toLowerCase
  sha256 text :=
    if text = longToken 't' then digest '0' else if text = longToken 's' then digest 'a' else digest 'f'
  pid := 1
  receiptDirectory := "r"
  callbackUrl := "u"

def oneAttempt : ServiceJobs (Fin 2) where
  job w := if w = 0 then .begin (longToken 't') "DL5477" else .complete (longToken 's') (longToken 'x')
  randomState _ := longToken 's'
  receiptBytes w := String.ofList (List.replicate 12 (if w = 0 then '0' else '1'))
  receiptBytes_length w := by simp
  receiptBytes_hex w c mem := by
    rw [String.toList_ofList] at mem
    rw [List.eq_of_mem_replicate mem]
    fin_cases w <;> exact .inl rfl
  receiptBytes_injective := by decide

def answered : ServiceChoice where
  now := 5
  application := .ok ⟨"DL", "app", "secret"⟩
  exchange := .ok { appId := "app", state := longToken 's', openKeyId := "key", secretKey := "k"
                    encryptedSecretKey := "e", supplierId := "1" }
  storeInfo := .ok (.obj [("supplierId", .str "1")])

def oneStoreFile : StateFile := run (authorizationStep .ascii) blankState [oneStore]

/-- The attempt, and the steps of its callback up to the update that completes the state. -/
def untilCompletion : List (CrewAction (Fin 2) ServiceChoice Empty) :=
  List.replicate 5 (.advance 0 answered) ++ List.replicate 10 (.advance 1 answered)

/-- The update is written, and then reports an error; the receipt is removed. -/
def lostCompletion : List (CrewAction (Fin 2) ServiceChoice Empty) :=
  untilCompletion ++ .advance 1 { answered with update := .lost { message := "EIO" } } ::
    List.replicate 3 (.advance 1 answered)

def serviceAfter (actions : List (CrewAction (Fin 2) ServiceChoice Empty)) : ServiceRun (Fin 2) :=
  run (serviceStep smallService oneAttempt)
    (idleService smallService oneAttempt oneStoreFile fun _ => none) actions

/-- A call has ended, as far as one can compute. -/
def endedBy (s : ServiceRun (Fin 2)) (w : Fin 2) : Bool := (s.live w).any (·.1.ended)

theorem noCall_of_ended {s : ServiceRun (Fin 2)} (ended : ∀ w, endedBy s w = true) :
    NoCallInProgress smallService oneAttempt s := by
  intro w
  have here := ended w
  unfold endedBy at here
  cases live : s.live w with
  | none => rw [live] at here; exact nomatch here
  | some worker => exact ⟨worker.1, worker.2, rfl, .inl (by rwa [live] at here)⟩

theorem oneStoreFile_start : Start smallService oneAttempt oneStoreFile fun _ => none := by
  have early : ∀ store ∈ oneStoreFile.stores, store.status ≠ .reviewRequired := by decide
  have none_ (store : BatchStore) (awaits : Awaits oneStoreFile store) : False :=
    early store awaits.1 awaits.2
  have sound : FileSound oneStoreFile :=
    ⟨by decide, by decide, fun _ _ => Nat.zero_le 1,
      fun _ _ _ _ _ _ mem => (nomatch mem), fun _ mem => (nomatch mem)⟩
  exact ⟨sound, ⟨fun store awaits => (none_ store awaits).elim, nofun, fun _ => Nat.zero_le _⟩,
    fun store awaits => (none_ store awaits).elim⟩

/-- Without a fault, the attempt ends in agreement. -/
theorem untilCompletion_agrees :
    Agreement smallService (serviceAfter (untilCompletion ++ [.advance 1 answered])).shared := by
  have ⟨legal, ended⟩ : Along (serviceStep smallService oneAttempt) (CrewGuard GoesOn LeavesNothing)
      (idleService smallService oneAttempt oneStoreFile fun _ => none) (untilCompletion ++ [.advance 1 answered]) ∧
        ∀ w, endedBy (serviceAfter (untilCompletion ++ [.advance 1 answered])) w = true := by decide
  exact receiptAgreement_law oneStoreFile_start legal _ [] (List.append_nil _).symm
    (noCall_of_ended ended)

/-- The store awaits review, and its receipt is gone. -/
theorem lostCompletion_disagrees : ¬∀ (S : Settings) (jobs : ServiceJobs (Fin 2)) (file : StateFile)
      (directory : String → Option Receipt) (actions : List (CrewAction (Fin 2) ServiceChoice Empty)),
      Start S jobs file directory →
      NoCallInProgress S jobs (run (serviceStep S jobs) (idleService S jobs file directory) actions) →
      Agreement S (run (serviceStep S jobs) (idleService S jobs file directory) actions).shared := by
  intro all
  have ⟨ended, store, mem, status, gone⟩ : (∀ w, endedBy (serviceAfter lostCompletion) w = true) ∧
      ∃ store ∈ (serviceAfter lostCompletion).shared.file.stores, store.status = .reviewRequired ∧
        store.receiptFile.bind (serviceAfter lostCompletion).shared.directory = none := by decide +kernel
  have agrees : Agreement smallService (serviceAfter lostCompletion).shared :=
    all _ _ _ _ lostCompletion oneStoreFile_start (noCall_of_ended ended)
  obtain ⟨name, receipt, named, there, -⟩ := agrees.named store ⟨mem, status⟩
  rw [named, Option.bind_some, there] at gone
  exact nomatch gone

end FullManagedBi.Authorization.Service
