import FullManagedBi.Laws.OrderWindows
import FullManagedBi.OrderManagement.Contracts

/-!
# Only generated bodies are sent

A body passes `assertOrderManagementTransportRequest` exactly if it has the keys and the values of a body that is
generated for a window of at most 30 days and a page from 1 to 100, or a statistics type of the endpoint
(`assertOrderManagementTransportRequest_iff`). The keys of an endpoint are apart (`keys_apart`), so that a body
with the values of the filter, the values that are added and no other key is the generated one
(`same_withAdded_iff`).
-/

namespace FullManagedBi.OrderManagement

open Lib

/-! ## Maps with the same values -/

section Maps

variable {κ α : Type} [DecidableEq κ] {fields m base : OrderedMap κ α} {added : List (κ × α)}

/-- A map has the values of another one if it has its entries, and no other key. -/
theorem same_iff : (∀ key, fields.get? key = m.get? key) ↔
    (∀ entry ∈ m.entries, fields.get? entry.1 = some entry.2) ∧ ∀ key ∈ fields.keys, key ∈ m.keys := by
  constructor
  · intro same
    constructor
    · intro entry mem
      rw [same]
      exact OrderedMap.get?_eq_some_iff.mpr mem
    · intro key mem
      rw [OrderedMap.mem_keys_iff] at mem ⊢
      rwa [← same]
  · rintro ⟨values, keys⟩ key
    cases there : m.get? key with
    | some value => exact values _ (OrderedMap.get?_eq_some_iff.mp there)
    | none =>
      cases found : fields.get? key with
      | none => rfl
      | some value =>
        obtain ⟨other, known⟩ := OrderedMap.mem_keys_iff.mp (keys key (OrderedMap.mem_keys_iff.mpr ⟨value, found⟩))
        exact nomatch known.symm.trans there

def withAdded (base : OrderedMap κ α) (added : List (κ × α)) : OrderedMap κ α :=
  added.foldl (fun m entry => m.set entry.1 entry.2) base

theorem entries_withAdded (apart : (base.keys ++ added.map (·.1)).Nodup) :
    (withAdded base added).entries = base.entries ++ added := by
  induction added generalizing base with
  | nil => exact (List.append_nil _).symm
  | cons entry added ih =>
    have new : entry.1 ∉ base.entries.map (·.1) := by
      intro mem
      exact (List.nodup_append.mp apart).2.2 _ mem _ List.mem_cons_self rfl
    have set : (base.set entry.1 entry.2).entries = base.entries ++ [entry] := if_neg new
    have keys : (base.set entry.1 entry.2).keys = base.keys ++ [entry.1] := by
      unfold OrderedMap.keys
      rw [set, List.map_append, List.map_singleton]
    have apart' : ((base.set entry.1 entry.2).keys ++ added.map (·.1)).Nodup := by
      rw [keys, List.append_assoc]
      exact apart
    have rest := ih apart'
    unfold withAdded at rest ⊢
    rw [List.foldl_cons, rest, set, List.append_assoc, List.singleton_append]

/-- A body is the one with added entries if it has the values of the base, the added ones and no other key. -/
theorem same_withAdded_iff (apart : (base.keys ++ added.map (·.1)).Nodup) :
    (∀ key, fields.get? key = (withAdded base added).get? key) ↔
      (∀ entry ∈ base.entries, fields.get? entry.1 = some entry.2) ∧
        (∀ entry ∈ added, fields.get? entry.1 = some entry.2) ∧
        ∀ key ∈ fields.keys, key ∈ base.keys ++ added.map (·.1) := by
  have keys : (withAdded base added).keys = base.keys ++ added.map (·.1) := by
    unfold OrderedMap.keys
    rw [entries_withAdded apart, List.map_append]
  rw [same_iff, entries_withAdded apart, keys, List.forall_mem_append, and_assoc]

end Maps

/-! ## Windows -/

/-- The window from `first` to `last` has at most 30 days. -/
structure WithinThirtyDays (first last : Int) : Prop where
  fourFirst : FourDigitYear first
  fourLast : FourDigitYear last
  ordered : first ≤ last
  bounded : last - first + 1 ≤ 30

theorem contractDate_eq_ok_iff {value location text : String} :
    contractDate value location = .ok text ↔ ∃ day, parseIsoDate (jsTrim value) = some day ∧ text = jsTrim value := by
  unfold contractDate
  dsimp only
  split
  · next valid =>
    obtain ⟨day, parsed⟩ := Option.isSome_iff_exists.mp valid
    exact ⟨fun same => ⟨day, parsed, (Except.ok.inj same).symm⟩, fun ⟨_, _, same⟩ => congrArg _ same.symm⟩
  · next invalid =>
    exact iff_of_false nofun fun ⟨day, parsed, _⟩ => invalid (Option.isSome_iff_exists.mpr ⟨day, parsed⟩)

/-- **The windows that are accepted** are those of at most 30 days. -/
theorem orderManagementWindow_eq_ok_iff {window bounded : DateWindow} :
    orderManagementWindow window = .ok bounded ↔ ∃ first last, parseIsoDate (jsTrim window.startDate) = some first ∧
      parseIsoDate (jsTrim window.endDate) = some last ∧ WithinThirtyDays first last ∧
      bounded = windowOfDays first last := by
  have days : orderManagementWindowMaxDays = 30 := rfl
  unfold orderManagementWindow
  simp only [bind_eq_ok_iff, refuse_eq_ok, contractDate_eq_ok_iff, days]
  constructor
  · rintro ⟨_, ⟨first, start, rfl⟩, _, ⟨last, end_, rfl⟩, _, ordered, _, -, _, bound, same⟩
    have four := fourDigitYear_of_parse start
    have four' := fourDigitYear_of_parse end_
    rw [start, end_, Option.getD_some, Option.getD_some] at bound
    rw [← toIsoDate_of_parse start, ← toIsoDate_of_parse end_, toIsoDate_lt four' four] at ordered
    refine ⟨first, last, start, end_, ⟨four, four', by omega, by omega⟩, ?_⟩
    rw [← Except.ok.inj same, ← toIsoDate_of_parse start, ← toIsoDate_of_parse end_]
    rfl
  · rintro ⟨first, last, start, end_, valid, rfl⟩
    refine ⟨_, ⟨first, start, rfl⟩, _, ⟨last, end_, rfl⟩, (), ?_, (), by omega, (), ?_, ?_⟩
    · rw [← toIsoDate_of_parse start, ← toIsoDate_of_parse end_, toIsoDate_lt valid.fourLast valid.fourFirst]
      exact valid.ordered.not_gt
    · rw [start, end_, Option.getD_some, Option.getD_some]
      have := valid.bounded
      omega
    · rw [← toIsoDate_of_parse start, ← toIsoDate_of_parse end_]
      rfl

theorem orderManagementWindow_of_days {first last : Int} (valid : WithinThirtyDays first last) :
    orderManagementWindow (windowOfDays first last) = .ok (windowOfDays first last) := by
  have start := parseIsoDate_toIsoDate valid.fourFirst
  have end_ := parseIsoDate_toIsoDate valid.fourLast
  refine orderManagementWindow_eq_ok_iff.mpr ⟨first, last, ?_, ?_, valid, rfl⟩
  · exact (congrArg parseIsoDate (jsTrim_of_parse start)).trans start
  · exact (congrArg parseIsoDate (jsTrim_of_parse end_)).trans end_

/-! ## The bodies of the endpoints -/

theorem findEndpoint_text (code : EndpointCode) : findEndpoint code.text = .endpoint code := by
  cases code <;> decide

variable {code : EndpointCode}

theorem findEndpoint_eq_endpoint_iff {endpointCode : String} :
    findEndpoint endpointCode = .endpoint code ↔ endpointCode = code.text := by
  constructor
  · intro found
    unfold findEndpoint at found
    split at found
    · next other there =>
      obtain rfl := FoundEndpoint.endpoint.inj found
      have same := List.find?_some there
      exact (of_decide_eq_true same).symm
    · split at found <;> exact nomatch found
  · rintro rfl
    exact findEndpoint_text code

def filterKeys (endpoint : Endpoint) : List String :=
  endpoint.bodyTemplate.map (·.1) ++
    match endpoint.windowFields with
    | some fields => [fields.startField, fields.endField]
    | none => []

def addedKeys (endpoint : Endpoint) : List String :=
  match endpoint.paging with
  | some paging => [paging.pageKey, paging.pageSizeKey]
  | none => ["statisticsType"]

/-- **No key of an endpoint is used twice.** -/
theorem keys_apart (code : EndpointCode) : (filterKeys code.endpoint ++ addedKeys code.endpoint).Nodup := by
  cases code <;> decide

/-- A value of a filter: a text, a natural number or the empty array. -/
def FilterValue (value : Json) : Prop := (∃ s, value = .str s) ∨ (∃ n, value = .ofNat n) ∨ value = .arr []

variable {value : Option Json}

theorem sameJsonValue_iff (proper : ∀ v, value = some v → v.Proper) {expected : Json}
    (isFilter : FilterValue expected) : sameJsonValue value (some expected) ↔ value = some expected := by
  constructor
  · intro same
    cases value with
    | none => exact nomatch same
    | some v =>
      have text : jsonChars v = jsonChars expected := Option.some.inj same
      rcases isFilter with ⟨s, rfl⟩ | ⟨n, rfl⟩ | rfl
      · rw [eq_str_of_jsonChars (proper v rfl) text]
      · rw [eq_ofNat_of_jsonChars (proper v rfl) text]
      · rw [eq_nil_of_jsonChars (proper v rfl) text]
  · rintro rfl
    rfl

theorem filterValue_template (code : EndpointCode) : ∀ entry ∈ code.endpoint.bodyTemplate, FilterValue entry.2 := by
  cases code <;> simp [EndpointCode.endpoint, FilterValue]

def filterEntries (endpoint : Endpoint) (window : Option DateWindow) : List (String × Json) :=
  endpoint.bodyTemplate ++
    match endpoint.windowFields, window with
    | some fields, some window => [(fields.startField, .str (window.startDate ++ " 00:00:00")),
        (fields.endField, .str (window.endDate ++ " 23:59:59"))]
    | _, _ => []

/-- The window of an endpoint: one of at most 30 days, where the endpoint has one. -/
def WindowOf (endpoint : Endpoint) (window : Option DateWindow) : Prop :=
  match endpoint.windowFields with
  | some _ => ∃ first last, WithinThirtyDays first last ∧ window = some (windowOfDays first last)
  | none => window = none

variable {endpoint : Endpoint} {window : Option DateWindow}

theorem endpointBody_of_window (post : endpoint.method = "POST") (valid : WindowOf endpoint window) :
    endpointBody endpoint window = .ok (withAdded .empty (filterEntries endpoint window)) := by
  obtain ⟨method, path, pageId, paging, types, template, fields⟩ := endpoint
  dsimp only at post
  subst post
  unfold endpointBody filterEntries
  refine check_ok_iff.mpr ⟨refuse_eq_ok.mpr fun other => other rfl, ?_⟩
  cases fields with
  | none => exact congrArg Except.ok (congrArg (withAdded .empty) (List.append_nil template).symm)
  | some fields =>
    obtain ⟨first, last, within, rfl⟩ := valid
    refine bind_eq_ok_iff.mpr ⟨_, orderManagementWindow_of_days within, ?_⟩
    unfold withAdded
    rw [List.foldl_append]
    rfl

/-- **The filter that is built** for a window has its entries. -/
theorem orderManagementRequestBody_of_window (valid : WindowOf code.endpoint window) :
    orderManagementRequestBody code.text window = .ok (withAdded .empty (filterEntries code.endpoint window)) := by
  have post : code.endpoint.method = "POST" := by cases code <;> rfl
  unfold orderManagementRequestBody
  rw [findEndpoint_text]
  exact endpointBody_of_window post valid

theorem filterEntries_keys (valid : WindowOf code.endpoint window) :
    (filterEntries code.endpoint window).map (·.1) = filterKeys code.endpoint := by
  unfold filterEntries filterKeys
  unfold WindowOf at valid
  rw [List.map_append]
  congr 1
  cases fields : code.endpoint.windowFields with
  | none => rfl
  | some fields' =>
    rw [fields] at valid
    obtain ⟨first, last, -, rfl⟩ := valid
    rfl

inductive Added (endpoint : Endpoint) : List (String × Json) → Prop
  | page (paging : Paging) (page : Nat) : endpoint.paging = some paging → 1 ≤ page → page ≤ orderManagementMaxPages →
      Added endpoint [(paging.pageKey, .ofNat page), (paging.pageSizeKey, paging.pageSize)]
  | statistics (types : List Nat) (type : Nat) : endpoint.paging = none → endpoint.statisticsTypes = some types →
      type ∈ types → Added endpoint [("statisticsType", .ofNat type)]

variable {added : List (String × Json)}

theorem Added.keys (isAdded : Added endpoint added) : added.map (·.1) = addedKeys endpoint := by
  unfold addedKeys
  cases isAdded with
  | page paging page here => rw [here]; rfl
  | statistics types type none => rw [none]; rfl

theorem isPageNumber_iff :
    isPageNumber value = true ↔ ∃ page : Nat, 1 ≤ page ∧ page ≤ orderManagementMaxPages ∧ value = some (.ofNat page) := by
  unfold isPageNumber
  split
  · next n =>
    rw [decide_eq_true_eq]
    constructor
    · rintro ⟨low, high⟩
      refine ⟨n.toNat, by omega, by omega, ?_⟩
      rw [Json.ofNat, Int.toNat_of_nonneg (by omega)]
    · rintro ⟨page, low, high, same⟩
      obtain rfl : n = page := by simpa [Json.ofNat] using same
      exact ⟨by omega, by omega⟩
  · next other =>
    refine iff_of_false Bool.false_ne_true ?_
    rintro ⟨page, -, -, rfl⟩
    exact other _ rfl

theorem includesNumber_iff {types : List Nat} :
    includesNumber types value = true ↔ ∃ type ∈ types, value = some (.ofNat type) := by
  unfold includesNumber
  split
  · next n =>
    rw [List.any_eq_true]
    refine exists_congr fun type => and_congr_right fun _ => ?_
    rw [decide_eq_true_eq, Json.ofNat]
    simp [eq_comm]
  · next other =>
    refine iff_of_false Bool.false_ne_true ?_
    rintro ⟨type, -, rfl⟩
    exact other _ rfl

theorem filterValue_pageSize (paging : Paging) : FilterValue paging.pageSize := by
  unfold Paging.pageSize
  split
  · exact .inl ⟨_, rfl⟩
  · exact .inr (.inl ⟨_, rfl⟩)

variable {fields : OrderedMap String Json}

/-- **What passes the check of what is added.** -/
theorem checkAdded_eq_ok_iff {keys : List String} (proper : ∀ key value, fields.get? key = some value → value.Proper) :
    checkAdded code.endpoint fields = .ok keys ↔ ∃ added, Added code.endpoint added ∧ keys = added.map (·.1) ∧
      ∀ entry ∈ added, fields.get? entry.1 = some entry.2 := by
  have sameSize (paging : Paging) : sameJsonValue (fields.get? paging.pageSizeKey) (some paging.pageSize) ↔
      fields.get? paging.pageSizeKey = some paging.pageSize :=
    sameJsonValue_iff (fun v => proper _ v) (filterValue_pageSize paging)
  unfold checkAdded
  cases paged : code.endpoint.paging with
  | some paging =>
    dsimp only
    rw [check_ok_iff, refuse_eq_ok, not_or, Bool.not_eq_false, not_not, isPageNumber_iff, sameSize]
    constructor
    · rintro ⟨⟨⟨page, low, high, number⟩, size⟩, same⟩
      refine ⟨_, .page paging page paged low high, (Except.ok.inj same).symm, ?_⟩
      simp [number, size]
    · rintro ⟨added, isAdded, rfl, values⟩
      cases isAdded with
      | page paging' page here low high =>
        obtain rfl := Option.mem_unique paged here
        simp only [List.forall_mem_cons] at values
        exact ⟨⟨⟨page, low, high, values.1⟩, values.2.1⟩, rfl⟩
      | statistics types type none => exact nomatch paged.symm.trans none
  | none =>
    cases typed : code.endpoint.statisticsTypes with
    | some types =>
      dsimp only
      rw [check_ok_iff, refuse_eq_ok, Bool.not_eq_false, includesNumber_iff]
      constructor
      · rintro ⟨⟨type, listed, number⟩, same⟩
        refine ⟨_, .statistics types type paged typed listed, (Except.ok.inj same).symm, ?_⟩
        simp [number]
      · rintro ⟨added, isAdded, rfl, values⟩
        cases isAdded with
        | page paging page here => exact nomatch paged.symm.trans here
        | statistics types' type none here listed =>
          obtain rfl := Option.mem_unique typed here
          simp only [List.forall_mem_cons] at values
          exact ⟨⟨type, listed, values.1⟩, rfl⟩
    | none =>
      have some : code.endpoint.paging.isSome ∨ code.endpoint.statisticsTypes.isSome := by cases code <;> decide
      rw [paged, typed] at some
      exact absurd some (by decide)

/-! ## The window of a body -/

theorem isDayText_of_day {day : Int} (four : FourDigitYear day) (time : String) :
    isDayText time (toIsoDate day ++ " " ++ time) = true ∧
      String.ofList ((toIsoDate day ++ " " ++ time).toList.take 10) = toIsoDate day := by
  have length : (toIsoDate day).toList.length = 10 := by
    rw [toList_toIsoDate four]
    rfl
  have chars : (toIsoDate day ++ " " ++ time).toList = (toIsoDate day).toList ++ ' ' :: time.toList := by
    rw [String.toList_append, String.toList_append, List.append_assoc]
    rfl
  have front : (toIsoDate day ++ " " ++ time).toList.take 10 = (toIsoDate day).toList := by
    rw [chars, ← length, List.take_left']
    rfl
  have back : (toIsoDate day ++ " " ++ time).toList.drop 10 = ' ' :: time.toList := by
    rw [chars, ← length, List.drop_left']
    rfl
  have shape : isIsoDateShape (toIsoDate day) = true :=
    isIsoDateShape_of_parse (Option.isSome_iff_exists.mpr ⟨day, parseIsoDate_toIsoDate four⟩)
  unfold isDayText
  rw [front, back, String.ofList_toList]
  exact ⟨by simp [shape], rfl⟩

theorem windowOf_of_endpointWindow (named : endpointWindow endpoint fields = .ok window) : WindowOf endpoint window := by
  unfold endpointWindow at named
  unfold WindowOf
  cases windowed : endpoint.windowFields with
  | none =>
    rw [windowed] at named
    exact (Except.ok.inj named).symm
  | some windowFields =>
    rw [windowed] at named
    dsimp only at named
    cases requested : requestedWindow windowFields fields with
    | error e =>
      rw [requested] at named
      exact nomatch named
    | ok bounded =>
      rw [requested] at named
      unfold requestedWindow at requested
      rw [check_ok_iff] at requested
      obtain ⟨first, last, -, -, within, same⟩ := orderManagementWindow_eq_ok_iff.mp requested.2
      exact ⟨first, last, within, by rw [← same]; exact (Except.ok.inj named).symm⟩

theorem endpointWindow_of_entries (valid : WindowOf endpoint window)
    (values : ∀ entry ∈ filterEntries endpoint window, fields.get? entry.1 = some entry.2) :
    endpointWindow endpoint fields = .ok window := by
  unfold filterEntries at values
  unfold WindowOf at valid
  unfold endpointWindow
  cases windowed : endpoint.windowFields with
  | none =>
    rw [windowed] at valid
    exact congrArg _ valid.symm
  | some windowFields =>
    rw [windowed] at valid values
    obtain ⟨first, last, within, rfl⟩ := valid
    simp only [List.forall_mem_append, List.forall_mem_cons] at values
    obtain ⟨-, start, end_, -⟩ := values
    have spaced (date time : String) : date ++ (" " ++ time) = date ++ " " ++ time := (String.append_assoc ..).symm
    have startText : textOrEmpty (fields.get? windowFields.startField) = toIsoDate first ++ " " ++ "00:00:00" := by
      rw [start, ← spaced]
      rfl
    have endText : textOrEmpty (fields.get? windowFields.endField) = toIsoDate last ++ " " ++ "23:59:59" := by
      rw [end_, ← spaced]
      rfl
    have startDay := isDayText_of_day within.fourFirst "00:00:00"
    have endDay := isDayText_of_day within.fourLast "23:59:59"
    have requested : requestedWindow windowFields fields = .ok (windowOfDays first last) := by
      unfold requestedWindow
      rw [startText, endText]
      refine check_ok_iff.mpr ⟨refuse_eq_ok.mpr (not_not.mpr ⟨startDay.1, endDay.1⟩), ?_⟩
      rw [startDay.2, endDay.2]
      exact orderManagementWindow_of_days within
    dsimp only
    rw [requested]
    rfl

/-! ## The seal -/

theorem filterValue_filterEntries : ∀ entry ∈ filterEntries code.endpoint window, FilterValue entry.2 := by
  intro entry mem
  unfold filterEntries at mem
  rcases List.mem_append.mp mem with template | windowed
  · exact filterValue_template code entry template
  · split at windowed
    · rcases List.mem_cons.mp windowed with rfl | later
      · exact .inl ⟨_, rfl⟩
      · obtain rfl := List.mem_singleton.mp later
        exact .inl ⟨_, rfl⟩
    · exact nomatch windowed

/-- The bodies that are generated for an endpoint: for a window of at most 30 days, where the endpoint has one, and
a page from 1 to 100 at the page size, or a statistics type of the endpoint. -/
inductive Generated (code : EndpointCode) : OrderedMap String Json → Prop
  | page (paging : Paging) (window : Option DateWindow) (page : Nat) (body : OrderedMap String Json) :
      code.endpoint.paging = some paging → WindowOf code.endpoint window → 1 ≤ page → page ≤ orderManagementMaxPages →
      pageRequestBody code.text paging window page = .ok body → Generated code body
  | statistics (types : List Nat) (window : Option DateWindow) (type : Nat) (body : OrderedMap String Json) :
      code.endpoint.paging = none → code.endpoint.statisticsTypes = some types → WindowOf code.endpoint window →
      type ∈ types → statisticsRequestBody code.text window type = .ok body → Generated code body

theorem generated_iff {body : OrderedMap String Json} : Generated code body ↔
    ∃ window added, WindowOf code.endpoint window ∧ Added code.endpoint added ∧
      body = withAdded (withAdded .empty (filterEntries code.endpoint window)) added := by
  constructor
  · intro generated
    cases generated with
    | page paging window page _ paged valid low high built =>
      obtain ⟨base, filter, same⟩ := bind_eq_ok built
      obtain rfl := Except.ok.inj (filter.symm.trans (orderManagementRequestBody_of_window valid))
      exact ⟨window, _, valid, .page paging page paged low high, (Except.ok.inj same).symm⟩
    | statistics types window type _ unpaged typed valid listed built =>
      obtain ⟨base, filter, same⟩ := bind_eq_ok built
      obtain rfl := Except.ok.inj (filter.symm.trans (orderManagementRequestBody_of_window valid))
      exact ⟨window, _, valid, .statistics types type unpaged typed listed, (Except.ok.inj same).symm⟩
  · rintro ⟨window, added, valid, isAdded, rfl⟩
    have filter := orderManagementRequestBody_of_window valid
    cases isAdded with
    | page paging page paged low high =>
      exact .page paging window page _ paged valid low high (bind_eq_ok_iff.mpr ⟨_, filter, rfl⟩)
    | statistics types type unpaged typed listed =>
      exact .statistics types window type _ unpaged typed valid listed (bind_eq_ok_iff.mpr ⟨_, filter, rfl⟩)

theorem filter_apart (valid : WindowOf code.endpoint window) (isAdded : Added code.endpoint added) :
    (withAdded (.empty : OrderedMap String Json) (filterEntries code.endpoint window)).entries =
        filterEntries code.endpoint window ∧
      ((withAdded (.empty : OrderedMap String Json) (filterEntries code.endpoint window)).keys ++
        added.map (·.1)).Nodup := by
  have apart := keys_apart code
  have filter : ((OrderedMap.empty : OrderedMap String Json).keys ++
      (filterEntries code.endpoint window).map (·.1)).Nodup := by
    rw [filterEntries_keys valid]
    exact (List.nodup_append.mp apart).1
  have entries := entries_withAdded filter
  refine ⟨entries, ?_⟩
  unfold OrderedMap.keys
  rw [entries, isAdded.keys]
  change ((filterEntries code.endpoint window).map (·.1) ++ _).Nodup
  rw [filterEntries_keys valid]
  exact apart

/-- An object passes for an endpoint exactly if it has the values of a generated body. -/
theorem assertEndpointRequest_iff (proper : ∀ key value, fields.get? key = some value → value.Proper) :
    assertEndpointRequest code fields = .ok true ↔
      ∃ generated, Generated code generated ∧ ∀ key, fields.get? key = generated.get? key := by
  have value {window : Option DateWindow} {entry : String × Json} (mem : entry ∈ filterEntries code.endpoint window) :
      sameJsonValue (fields.get? entry.1) (some entry.2) ↔ fields.get? entry.1 = some entry.2 :=
    sameJsonValue_iff (fun v => proper _ v) (filterValue_filterEntries entry mem)
  constructor
  · intro passed
    obtain ⟨window, named, passed⟩ := bind_eq_ok passed
    have valid := windowOf_of_endpointWindow named
    obtain ⟨base, filter, passed⟩ := bind_eq_ok passed
    obtain rfl := Except.ok.inj (filter.symm.trans (orderManagementRequestBody_of_window valid))
    obtain ⟨sameValues, passed⟩ := check_ok_iff.mp passed
    obtain ⟨keys, checked, passed⟩ := bind_eq_ok passed
    obtain ⟨noOther, -⟩ := check_ok_iff.mp passed
    rw [refuse_eq_ok] at sameValues noOther
    obtain ⟨added, isAdded, rfl, addedValues⟩ := (checkAdded_eq_ok_iff proper).mp checked
    obtain ⟨entries, apart⟩ := filter_apart valid isAdded
    refine ⟨_, generated_iff.mpr ⟨window, added, valid, isAdded, rfl⟩, (same_withAdded_iff apart).mpr ⟨?_, addedValues, ?_⟩⟩
    · intro entry mem
      refine (value (entries ▸ mem)).mp ?_
      by_contra differ
      exact sameValues ⟨entry, mem, differ⟩
    · intro key mem
      by_contra other
      exact noOther ⟨key, mem, other⟩
  · rintro ⟨generated, isGenerated, same⟩
    obtain ⟨window, added, valid, isAdded, rfl⟩ := generated_iff.mp isGenerated
    obtain ⟨entries, apart⟩ := filter_apart valid isAdded
    obtain ⟨values, addedValues, keys⟩ := (same_withAdded_iff apart).mp same
    rw [entries] at values
    refine bind_eq_ok_iff.mpr ⟨window, endpointWindow_of_entries valid values, ?_⟩
    refine bind_eq_ok_iff.mpr ⟨_, orderManagementRequestBody_of_window valid, ?_⟩
    refine check_ok_iff.mpr ⟨refuse_eq_ok.mpr ?_, ?_⟩
    · rintro ⟨entry, mem, differ⟩
      rw [entries] at mem
      exact differ ((value mem).mpr (values entry mem))
    refine bind_eq_ok_iff.mpr ⟨_, (checkAdded_eq_ok_iff proper).mpr ⟨added, isAdded, rfl, addedValues⟩, ?_⟩
    refine check_ok_iff.mpr ⟨refuse_eq_ok.mpr ?_, rfl⟩
    rintro ⟨key, mem, other⟩
    exact other (keys key mem)

/-- **The transport seal.** A body passes exactly if it is an object with the keys and the values of a body that is
generated for the endpoint: no key is missing, there is no other one, and no value differs. -/
theorem assertOrderManagementTransportRequest_iff (endpointCode : String) (body : RequestBody) :
    assertOrderManagementTransportRequest endpointCode body = .ok true ↔
      ∃ code fields proper, endpointCode = EndpointCode.text code ∧ body = .object fields proper ∧
        ∃ generated, Generated code generated ∧ ∀ key, fields.get? key = generated.get? key := by
  unfold assertOrderManagementTransportRequest
  constructor
  · intro passed
    split at passed
    · exact nomatch passed
    · exact nomatch passed
    · exact nomatch passed
    · next code fields proper found =>
      exact ⟨code, fields, proper, findEndpoint_eq_endpoint_iff.mp found, rfl, (assertEndpointRequest_iff proper).mp passed⟩
  · rintro ⟨code, fields, proper, rfl, rfl, generated⟩
    rw [findEndpoint_text]
    exact (assertEndpointRequest_iff proper).mpr generated

end FullManagedBi.OrderManagement
