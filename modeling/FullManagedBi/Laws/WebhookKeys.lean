import FullManagedBi.Webhook.HydrationRun
import FullManagedBi.Webhook.Normalizer

/-!
# The keys of a webhook batch

The normalizer leaves the key of every item of a batch in the lookup of the directive, as the first key or
in the list of all keys (`mem_keys_lookup`), and the hydration runner reads each of them back once
(`count_businessKeys`), as long as its `trim` leaves the key alone. It does so for every identifier that is
not cut (`jsTrim_safeText`).
-/

namespace FullManagedBi.Webhook

open Lib

variable {B : PayloadBuiltins}

/-! ## Trimmed texts -/

theorem jsSlice_of_length {n : Nat} {cs : List Char}
    (short : (cs.map fun c => if 0x10000 ≤ c.toNat then 2 else 1).sum ≤ n) : jsSlice n cs = cs := by
  induction cs generalizing n with
  | nil => simp [jsSlice]
  | cons c cs ih =>
    rw [List.map_cons, List.sum_cons] at short
    simp only [jsSlice]
    rw [if_pos (by omega), ih (by omega)]

theorem jsTrim_safeText {others : List Char} {maximum : Nat} {value : Json} (short : jsLength (text value) ≤ maximum) :
    jsTrim (safeText B others maximum value) = safeText B others maximum value := by
  unfold safeText
  dsimp only
  rw [jsSlice_of_length short]
  split_ifs
  · rfl
  · rw [String.ofList_toList]
    exact jsTrim_jsTrim _
  · rfl

/-! ## Events that are accepted -/

/-- What an accepted event takes from its items. -/
structure IsNormalized (B : PayloadBuiltins) (delivery : WebhookDelivery) (items : List Fields)
    (itemNodes : List (List Fields)) (result : NormalizedEvent) : Prop where
  businessKey : result.normalized.businessKey =
    let keys := if delivery.deliveryScope = .appOnly then [] else itemKeys B delivery.event itemNodes
    let key := keys.head?.getD <| if delivery.deliveryScope = .appOnly then "" else
      baseBusinessKey B delivery.event itemNodes.flatten (productIdentity B itemNodes.flatten)
    if key = "" then none else some key
  storeCode : result.normalized.storeCode = delivery.storeCode
  identifiers : delivery.deliveryScope = .appOnly → result.normalized.identifiers = []
  availableQuota : delivery.deliveryScope = .appOnly → result.normalized.availableQuota = none
  gate : result.closeAuthorizationGate =
    (decide (delivery.deliveryScope ≠ .appOnly) && decide (delivery.event.family = .authorizationChange))
  appOnly : delivery.deliveryScope = .appOnly → result.hydrationDirective = none
  directive : delivery.deliveryScope = .store → ∀ type, delivery.event.hydrationType = some type →
    let keys := itemKeys B delivery.event itemNodes
    let identifiers := productIdentity B itemNodes.flatten
    result.hydrationDirective = some {
      directiveType := type
      capabilityCode := type
      lookup := { lookupFor delivery.event (keys.head?.getD
          (baseBusinessKey B delivery.event itemNodes.flatten identifiers)) identifiers with
        businessKeys := if 1 < keys.length then some keys else none } }
  eventCount : result.normalized.eventCount = items.length

theorem isNormalized_of_ok {stack : Nat} {delivery : WebhookDelivery} {result : NormalizedEvent}
    (accepted : normalizeFullManagedWebhookEvent B stack delivery = .ok result) :
    ∃ items itemNodes, payloadItems B stack delivery.payload = .ok items ∧
      items.mapM (nodes B stack) = .ok itemNodes ∧ IsNormalized B delivery items itemNodes result := by
  unfold normalizeFullManagedWebhookEvent at accepted
  dsimp only at accepted
  rw [ite_eq_right_iff.mpr fun unknown => by rw [if_pos unknown] at accepted; exact nomatch accepted] at accepted
  obtain ⟨items, unpacked, accepted⟩ := bind_eq_ok accepted
  obtain ⟨itemNodes, visited, accepted⟩ := bind_eq_ok accepted
  refine ⟨items, itemNodes, unpacked, visited, ?_⟩
  obtain rfl := Except.ok.inj accepted
  constructor
  · by_cases scope : delivery.deliveryScope = .appOnly <;> simp [scope]
  · rfl
  · intro scope
    simp [scope]
  · intro scope
    simp [scope]
  · simp
  · intro scope
    simp [scope]
  · intro scope type some_
    simp [scope, some_]
  · rfl

theorem length_payloadItems {stack : Nat} {payload : Json} {items : List Fields}
    (unpacked : payloadItems B stack payload = .ok items) : 1 ≤ items.length ∧ items.length ≤ 64 := by
  obtain ⟨current, -, unpacked⟩ := bind_eq_ok unpacked
  have one {value : Json} (single : (do return [← unpack B stack 0 value]) = Except.ok (ε := JsError) items) :
      1 ≤ items.length ∧ items.length ≤ 64 := by
    obtain ⟨item, -, same⟩ := bind_eq_ok single
    obtain rfl := Except.ok.inj same
    simp
  cases current with
  | arr values =>
    dsimp only at unpacked
    split_ifs at unpacked with empty long
    have length := (forall₂_of_mapM unpacked).length_eq
    have some_ := List.length_pos_iff.mpr empty
    omega
  | _ => exact one unpacked

/-! ## Keys -/

def HydrationLookup.keys (lookup : HydrationLookup) : List String :=
  lookup.businessKey.toList ++ lookup.businessKeys.getD []

variable {event : WebhookEvent} {itemNodes : List (List Fields)}

theorem mem_itemKeys {sources : List Fields} (mem : sources ∈ itemNodes)
    (some_ : baseBusinessKey B event sources (productIdentity B sources) ≠ "") :
    baseBusinessKey B event sources (productIdentity B sources) ∈ itemKeys B event itemNodes := by
  unfold itemKeys
  rw [List.mem_eraseDups, List.mem_filter]
  exact ⟨List.mem_map_of_mem mem, decide_eq_true some_⟩

/-- The lookup of a batch has every key of it, unless the event is of a store and there is one key only. -/
theorem mem_keys_lookup {keys : List String} {key other : String} {identifiers : ProductIdentity}
    (mem : key ∈ keys) (some_ : ∀ key ∈ keys, key ≠ "") :
    key ∈ { lookupFor event (keys.head?.getD other) identifiers with
        businessKeys := if 1 < keys.length then some keys else none }.toHydrationLookup.keys ↔
      event.businessType ≠ .store ∨ 1 < keys.length := by
  unfold HydrationLookup.keys lookupFor
  by_cases many : 1 < keys.length
  · simp [many, mem]
  · obtain ⟨only, rfl⟩ : ∃ only, keys = [only] := by
      have := List.length_pos_of_mem mem
      exact List.length_eq_one_iff.mp (by omega)
    obtain rfl := List.mem_singleton.mp mem
    have here := some_ key mem
    by_cases store : event.businessType = .store <;> simp [store, here]

theorem ne_empty_of_mem_itemKeys {key : String} (mem : key ∈ itemKeys B event itemNodes) : key ≠ "" := by
  unfold itemKeys at mem
  rw [List.mem_eraseDups, List.mem_filter] at mem
  exact of_decide_eq_true mem.2

/-- **The runner reads each key of a lookup once**, where `trim` leaves it alone. -/
theorem count_businessKeys {rows : List ClaimedDirective} {row : ClaimedDirective} {key : String}
    (there : row ∈ rows) (mem : key ∈ row.lookup.keys) (some_ : key ≠ "") (trimmed : jsTrim key = key) :
    (businessKeys rows row.directiveType).count key = 1 := by
  unfold businessKeys
  refine List.count_eq_one_of_mem (nodup_eraseDups _) ?_
  rw [List.mem_eraseDups, List.mem_flatMap]
  refine ⟨row, List.mem_filter.mpr ⟨there, decide_eq_true rfl⟩, ?_⟩
  unfold lookupKeys
  refine List.mem_filter.mpr ⟨List.mem_map.mpr ⟨key, ?_, trimmed⟩, decide_eq_true some_⟩
  unfold HydrationLookup.keys at mem
  rcases List.mem_append.mp mem with first | listed
  · rw [Option.mem_toList.mp first]
    exact List.mem_cons_self
  · exact List.mem_cons_of_mem _ listed

/-- **The items of a batch are not lost**: the non-empty key of every item is in the lookup of the directive,
unless the event is of a store and there is one key only; and the runner reads each key of the lookup once
from any rows with the directive, if it does not end in white space, as only an identifier that is cut to
160 code units can. An application's delivery leaves no store, key, identifier, directive or closed gate. -/
theorem items_not_lost (B : PayloadBuiltins) (stack : Nat) (job : WebhookDelivery) (result : NormalizedEvent)
    (accepted : normalizeJob B stack job = .ok result) :
    (job.deliveryScope = .store → ∀ type, job.event.hydrationType = some type →
      ∃ items itemNodes directive, payloadItems B stack job.payload = .ok items ∧
        (1 ≤ items.length ∧ items.length ≤ 64) ∧ items.mapM (nodes B stack) = .ok itemNodes ∧
        result.hydrationDirective = some directive ∧ directive.directiveType = type ∧
        ∀ sources ∈ itemNodes, ∀ key, key = baseBusinessKey B job.event sources (productIdentity B sources) →
          key ≠ "" →
          (key ∈ directive.lookup.keys ↔
            job.event.businessType ≠ .store ∨ 1 < (itemKeys B job.event itemNodes).length) ∧
          (key ∈ directive.lookup.keys → jsTrim key = key → ∀ rows, ∀ row ∈ rows, row.directiveType = type →
            row.lookup = directive.lookup.toHydrationLookup → (businessKeys rows type).count key = 1)) ∧
      (∀ value, jsLength (text value) ≤ 160 → jsTrim (safeIdentifier B value) = safeIdentifier B value) ∧
      (job.deliveryScope = .appOnly →
        result.normalized.storeCode = none ∧ result.normalized.businessKey = none ∧
          result.normalized.identifiers = [] ∧ result.normalized.availableQuota = none ∧
          result.hydrationDirective = none ∧ result.closeAuthorizationGate = false) := by
  obtain ⟨items, itemNodes, unpacked, visited, normal⟩ := isNormalized_of_ok accepted
  refine ⟨fun scope type typed => ?_, fun value short => jsTrim_safeText short, fun scope => ?_⟩
  · refine ⟨items, itemNodes, _, unpacked, length_payloadItems unpacked, visited,
      normal.directive scope type typed, rfl, ?_⟩
    rintro sources mem key rfl some_
    refine ⟨mem_keys_lookup (mem_itemKeys mem some_) fun _ => ne_empty_of_mem_itemKeys, ?_⟩
    rintro listed trimmed rows row there rfl same
    rw [← same] at listed
    exact count_businessKeys there listed some_ trimmed
  · refine ⟨?_, ?_, normal.identifiers scope, normal.availableQuota scope, normal.appOnly scope, ?_⟩
    · rw [normal.storeCode]
      dsimp only
      rw [scope]
      rfl
    · rw [normal.businessKey]
      dsimp only
      rw [scope]
      rfl
    · rw [normal.gate]
      dsimp only
      rw [scope]
      rfl

def orderPairDelivery : WebhookDelivery where
  event := fullManagedWebhookEvents.get ⟨8, by decide⟩
  payload := .arr [.obj [("orderNo", .str "PO-1")], .obj [("orderNo", .str "PO-2")]]
  storeCode := some "DL5477"
  deliveryScope := .store

def orderPairEvent : NormalizedEvent where
  normalized := {
    schemaVersion := 1
    eventCode := "3001435"
    eventPath := "/purchase_order_notice"
    eventFamily := .purchaseOrder
    eventLabel := "采购单"
    businessType := .purchaseOrder
    businessKey := some "PO-1"
    storeCode := some "DL5477"
    deliveryScope := .store
    appScopedOnly := false
    action := "purchase_order"
    status := none
    identifiers := []
    availableQuota := none
    severity := .p2
    eventCount := 2 }
  hydrationDirective := some {
    directiveType := .purchaseOrderReadback
    capabilityCode := .purchaseOrderReadback
    lookup := { businessKey := some "PO-1", businessKeys := some ["PO-1", "PO-2"] } }
  closeAuthorizationGate := false

/-- The second order is in the lookup, and the runner reads it once. -/
theorem items_not_lost_twoOrders :
    ∃ directive, orderPairEvent.hydrationDirective = some directive ∧ "PO-2" ∈ directive.lookup.keys ∧
      ∀ rows, ∀ row ∈ rows, row.directiveType = .purchaseOrderReadback →
        row.lookup = directive.lookup.toHydrationLookup →
        (businessKeys rows .purchaseOrderReadback).count "PO-2" = 1 := by
  have accepted : normalizeJob .ascii 2 orderPairDelivery = .ok orderPairEvent := by decide
  obtain ⟨items, itemNodes, directive, unpacked, -, visited, found, -, kept⟩ :=
    (items_not_lost .ascii 2 orderPairDelivery orderPairEvent accepted).1 rfl .purchaseOrderReadback rfl
  obtain rfl : [[("orderNo", Json.str "PO-1")], [("orderNo", .str "PO-2")]] = items :=
    Except.ok.inj unpacked
  obtain rfl : [[[("orderNo", Json.str "PO-1")]], [[("orderNo", .str "PO-2")]]] = itemNodes :=
    Except.ok.inj visited
  obtain ⟨listed, read⟩ := kept _ (List.mem_cons_of_mem _ List.mem_cons_self) "PO-2" (by decide)
    (by decide)
  have there := listed.mpr (.inl (by decide))
  exact ⟨directive, found, there, read there (by decide)⟩

def quotaEvent : WebhookDelivery where
  event := fullManagedWebhookEvents.get ⟨4, by decide⟩
  payload := .obj [("skuCode", .str "S1")]
  storeCode := some "DL5477"
  deliveryScope := .store

def orderEvent (orderNo : String) : WebhookDelivery where
  event := fullManagedWebhookEvents.get ⟨8, by decide⟩
  payload := .obj [("orderNo", .str orderNo)]
  storeCode := some "DL5477"
  deliveryScope := .store

def cutOrder : String := String.ofList (List.replicate 159 'A' ++ [' ', 'B'])

/-- The key of the order: its first 160 code units, with the space. -/
def cutKey : String := String.ofList (List.replicate 159 'A' ++ [' '])

/-- The event of the store has a key, and its lookup is empty; and the runner does not read the key of the
order. -/
theorem items_lost : (∃ result directive, normalizeJob .ascii 1 quotaEvent = .ok result ∧
      result.normalized.businessKey = some "S1" ∧ result.hydrationDirective = some directive ∧
      directive.lookup = {}) ∧
    ∃ result directive, normalizeJob .ascii 1 (orderEvent cutOrder) = .ok result ∧
      result.hydrationDirective = some directive ∧ directive.lookup.businessKey = some cutKey ∧
      cutKey ∉ businessKeys [⟨1, "DL5477", .purchaseOrderReadback, directive.lookup.toHydrationLookup, 1⟩]
        .purchaseOrderReadback := by
  constructor
  · exact ⟨_, _, rfl, by decide, rfl, by decide⟩
  · exact ⟨_, _, rfl, rfl, by decide +kernel, by decide +kernel⟩

end FullManagedBi.Webhook
