import FullManagedBi.Lib.Occurrence
import FullManagedBi.Lib.Run
import FullManagedBi.Lib.Sorting
import FullManagedBi.Warehouse.PurchaseOrders

/-!
# Loading a purchase order once more

The fingerprint of an order does not see in which order its lines come, and the keys of the lines do: the
`n`-th line of an identity is stored under the number `n`. So at one source time a rearranged order meets the
stored lines under other lines' keys:

- `mem_orderLines` — the key of a line is its identity and its place among the lines of that identity;
- `loaded_of_load` — after a load, the current lines are the order's, each stored under its key;
- `insertAll_present` — lines whose keys are stored can be inserted exactly if they are the stored ones;
- **`reload_iff`** — so a reload keeps the current lines exactly if the fingerprint is the same, and the lines
  of each identity come in the same order.
-/

namespace FullManagedBi.Warehouse

open Lib

variable {B : SupplyBuiltins}

/-! ## Keys -/

def serializedIdentity (line : PurchaseOrderLine) : String := stableJson line.identity

def occurrenceKey (B : SupplyBuiltins) (serialized : String) (occurrence : Nat) : String :=
  B.digest.sha256Hex (String.ofList ('{' :: joinComma
    [fieldText ("identity", serialized.toList),
      fieldText ("occurrence", (Json.ofNat occurrence).text.toList)] ++ ['}']))

theorem payloadFingerprint_occurrence (identity : Json) (occurrence : Nat) :
    B.digest.payloadFingerprint (.obj [("identity", identity), ("occurrence", .ofNat occurrence)]) =
      occurrenceKey B (stableJson identity) occurrence := by
  have sorted (a b : List Char) :
      sortFields [("identity", a), ("occurrence", b)] = [("identity", a), ("occurrence", b)] := by
    have le : jsUnits "identity" ≤ jsUnits "occurrence" := by decide
    unfold sortFields
    rw [List.insertionSort_cons, List.insertionSort_cons, List.insertionSort_nil, List.orderedInsert_nil]
    exact List.orderedInsert_cons_of_le _ _ le
  unfold Digest.payloadFingerprint occurrenceKey stableJson
  rw [String.toList_ofList]
  simp only [stableChars, stableFields, sorted, List.map_cons, List.map_nil]
  rfl

theorem keyedLines_eq (counts : String → Nat) (lines : List PurchaseOrderLine) : keyedLines B counts lines =
    (numberedFrom serializedIdentity counts lines).map fun item => (occurrenceKey B item.1.1 item.1.2, item.2) := by
  induction lines generalizing counts with
  | nil => rfl
  | cons line lines ih =>
    unfold keyedLines numberedFrom
    dsimp only
    rw [payloadFingerprint_occurrence, ih, List.map_cons]
    rfl

def orderLines (B : SupplyBuiltins) (order : PurchaseOrder) : List (String × PurchaseOrderLine) :=
  keyedLines B (fun _ => 0) order.lines

theorem mem_orderLines {order : PurchaseOrder} {key : String} {line : PurchaseOrderLine} :
    (key, line) ∈ orderLines B order ↔ ∃ identity n, occurrenceKey B identity n = key ∧
      (classMembers serializedIdentity identity order.lines)[n]? = some line := by
  unfold orderLines
  rw [keyedLines_eq, List.mem_map]
  constructor
  · rintro ⟨⟨⟨identity, n⟩, other⟩, mem, same⟩
    obtain ⟨rfl, rfl⟩ := Prod.mk.inj same
    exact ⟨identity, n, rfl, mem_numbered.mp mem⟩
  · rintro ⟨identity, n, rfl, found⟩
    exact ⟨((identity, n), line), mem_numbered.mpr found, rfl⟩

variable {a b : PurchaseOrderLine}

/-! ## One line -/

section Rows

variable {load : OrderLoad} {rows after : List PurchaseOrderLineRow} {item : String × PurchaseOrderLine}

def newRow (B : SupplyBuiltins) (load : OrderLoad) (item : String × PurchaseOrderLine) :
    PurchaseOrderLineRow where
  sourceLineKey := item.1
  line := item.2
  sourceFetchBatchId := load.fetchBatchId
  payloadFingerprint := lineFingerprint B item.2
  sourceFetchedAt := load.effectiveSourceTime
  isCurrent := true
  retiredAt := none

/-- The rows where those of an observation are current again. -/
def reviveObserved (key : String) (time : Instant) (rows : List PurchaseOrderLineRow) :
    List PurchaseOrderLineRow :=
  rows.map fun row => if row.observes key time then row.revive else row

/-- **What an insert does**: a stored observation is current again if it is of the same line, and any other
line is a new row. -/
theorem insertLine_cases (inserted : insertLine B load rows item = .ok after) :
    (∃ stored, rows.find? (PurchaseOrderLineRow.observes item.1 load.effectiveSourceTime) = some stored ∧
      stored.payloadFingerprint = lineFingerprint B item.2 ∧
      after = reviveObserved item.1 load.effectiveSourceTime rows) ∨
    (rows.find? (PurchaseOrderLineRow.observes item.1 load.effectiveSourceTime) = none ∧
      after = rows ++ [newRow B load item]) := by
  unfold insertLine at inserted
  dsimp only at inserted
  split at inserted
  · next stored found =>
    split at inserted
    · exact nomatch inserted
    · next same =>
      split at inserted
      · exact nomatch inserted
      · exact .inl ⟨stored, found, not_not.mp same, (Except.ok.inj inserted).symm⟩
  · next absent =>
    split at inserted
    · exact nomatch inserted
    · split at inserted
      · exact nomatch inserted
      · split at inserted
        · exact nomatch inserted
        · exact .inr ⟨absent, (Except.ok.inj inserted).symm⟩

variable {key : String} {time : Instant}

theorem observes_iff {row : PurchaseOrderLineRow} :
    row.observes key time = true ↔ row.sourceLineKey = key ∧ row.sourceFetchedAt = time := by
  unfold PurchaseOrderLineRow.observes
  rw [Bool.and_eq_true, decide_eq_true_eq, decide_eq_true_eq]

def PurchaseOrderLineRow.observation (row : PurchaseOrderLineRow) : String × Instant :=
  (row.sourceLineKey, row.sourceFetchedAt)

/-- What the rows are once some lines are loaded: these are the current ones, stored under their keys. -/
structure Loaded (B : SupplyBuiltins) (time : Instant) (done : List (String × PurchaseOrderLine))
    (rows : List PurchaseOrderLineRow) : Prop where
  observations : (rows.map PurchaseOrderLineRow.observation).Nodup
  bounded : ∀ row ∈ rows, row.sourceFetchedAt ≤ time
  current : ∀ row ∈ rows, row.isCurrent = true ↔
    row.sourceFetchedAt = time ∧ row.sourceLineKey ∈ done.map Prod.fst
  stored : ∀ line ∈ done, ∃ row ∈ rows, row.observes line.1 time = true ∧
    row.payloadFingerprint = lineFingerprint B line.2

theorem map_observation_revive (key : String) (time : Instant) (rows : List PurchaseOrderLineRow) :
    (reviveObserved key time rows).map PurchaseOrderLineRow.observation =
      rows.map PurchaseOrderLineRow.observation := by
  unfold reviveObserved
  rw [List.map_map]
  refine List.map_congr_left fun row _ => ?_
  change (if row.observes key time then row.revive else row).observation = row.observation
  split <;> rfl

/-- **One more line is loaded.** -/
theorem Loaded.insert {done : List (String × PurchaseOrderLine)} (before : Loaded B load.effectiveSourceTime done rows)
    (inserted : insertLine B load rows item = .ok after) :
    Loaded B load.effectiveSourceTime (done ++ [item]) after := by
  have keys : (done ++ [item]).map Prod.fst = done.map Prod.fst ++ [item.1] := List.map_append
  rcases insertLine_cases inserted with ⟨stored, found, same, rfl⟩ | ⟨absent, rfl⟩
  · have there := List.mem_of_find?_eq_some found
    have observed := observes_iff.mp (List.find?_some found)
    constructor
    · rw [map_observation_revive]
      exact before.observations
    · intro row mem
      obtain ⟨old, inside, rfl⟩ := List.mem_map.mp mem
      split
      · exact before.bounded old inside
      · exact before.bounded old inside
    · intro row mem
      obtain ⟨old, inside, rfl⟩ := List.mem_map.mp mem
      rw [keys, List.mem_append, List.mem_singleton]
      split
      · next here =>
        obtain ⟨key, time⟩ := observes_iff.mp here
        exact iff_of_true rfl ⟨time, .inr key⟩
      · next elsewhere =>
        rw [before.current old inside]
        refine and_congr_right fun time => (or_iff_left fun key => elsewhere ?_).symm
        exact observes_iff.mpr ⟨key, time⟩
    · intro line mem
      have kept {row : PurchaseOrderLineRow} (inside : row ∈ rows)
          (observes : row.observes line.1 load.effectiveSourceTime = true)
          (print : row.payloadFingerprint = lineFingerprint B line.2) :
          ∃ row ∈ reviveObserved item.1 load.effectiveSourceTime rows,
            row.observes line.1 load.effectiveSourceTime = true ∧
              row.payloadFingerprint = lineFingerprint B line.2 := by
        refine ⟨_, List.mem_map_of_mem inside, ?_⟩
        split
        · exact ⟨observes, print⟩
        · exact ⟨observes, print⟩
      rcases mem_concat.mp mem with old | rfl
      · obtain ⟨row, inside, observes, print⟩ := before.stored line old
        exact kept inside observes print
      · exact kept there (observes_iff.mpr observed) same
  · have other (row : PurchaseOrderLineRow) (mem : row ∈ rows) :
        ¬(row.sourceLineKey = item.1 ∧ row.sourceFetchedAt = load.effectiveSourceTime) := fun both =>
      List.find?_eq_none.mp absent row mem (observes_iff.mpr both)
    constructor
    · refine nodup_map_concat before.observations fun row inside equal => ?_
      exact other row inside (Prod.mk.inj equal)
    · intro row mem
      rcases mem_concat.mp mem with old | new
      · exact before.bounded row old
      · rw [new]
        exact le_refl _
    · intro row mem
      rw [keys, List.mem_append, List.mem_singleton]
      rcases mem_concat.mp mem with old | new
      · rw [before.current row old]
        refine and_congr_right fun time => (or_iff_left fun key => ?_).symm
        exact other row old ⟨key, time⟩
      · rw [new]
        exact iff_of_true rfl ⟨rfl, .inr rfl⟩
    · intro line mem
      rcases mem_concat.mp mem with old | rfl
      · obtain ⟨row, inside, observes, print⟩ := before.stored line old
        exact ⟨row, List.mem_append_left _ inside, observes, print⟩
      · exact ⟨newRow B load line, List.mem_concat_self,
          observes_iff.mpr ⟨rfl, rfl⟩, rfl⟩

/-- **All lines are loaded.** -/
theorem Loaded.insertAll {done items : List (String × PurchaseOrderLine)}
    (before : Loaded B load.effectiveSourceTime done rows)
    (inserted : items.foldlM (insertLine B load) rows = .ok after) :
    Loaded B load.effectiveSourceTime (done ++ items) after := by
  induction items generalizing done rows with
  | nil =>
    obtain rfl := Except.ok.inj inserted
    rw [List.append_nil]
    exact before
  | cons item items ih =>
    rw [List.foldlM_cons] at inserted
    obtain ⟨middle, first, rest⟩ := bind_eq_ok inserted
    have later := ih (before.insert first) rest
    rwa [List.append_assoc, List.singleton_append] at later

theorem retire_static (time : Instant) (row : PurchaseOrderLineRow) :
    (row.retire time).observation = row.observation ∧ (row.retire time).line = row.line ∧
      (row.retire time).payloadFingerprint = row.payloadFingerprint := by
  unfold PurchaseOrderLineRow.retire
  split <;> exact ⟨rfl, rfl, rfl⟩

theorem loaded_retire (observations : (rows.map PurchaseOrderLineRow.observation).Nodup)
    (bounded : ∀ row ∈ rows, row.sourceFetchedAt ≤ time) :
    Loaded B time [] (rows.map (PurchaseOrderLineRow.retire time)) := by
  constructor
  · rw [List.map_map]
    have same : PurchaseOrderLineRow.observation ∘ PurchaseOrderLineRow.retire time =
        PurchaseOrderLineRow.observation := funext fun row => (retire_static time row).1
    rwa [same]
  · intro row mem
    obtain ⟨old, inside, rfl⟩ := List.mem_map.mp mem
    rw [(Prod.mk.inj (retire_static time old).1).2]
    exact bounded old inside
  · intro row mem
    obtain ⟨old, inside, rfl⟩ := List.mem_map.mp mem
    refine iff_of_false ?_ fun both => List.not_mem_nil both.2
    unfold PurchaseOrderLineRow.retire
    split
    · exact Bool.false_ne_true
    · next kept =>
      rw [Bool.and_eq_true, decide_eq_true_eq] at kept
      exact fun current => kept ⟨current, bounded old inside⟩
  · intro line mem
    exact absurd mem List.not_mem_nil

/-- The stored rows are of the line that comes under a key. -/
def Agrees (B : SupplyBuiltins) (time : Instant) (rows : List PurchaseOrderLineRow)
    (item : String × PurchaseOrderLine) : Prop :=
  ∀ row ∈ rows, row.observes item.1 time = true → row.payloadFingerprint = lineFingerprint B item.2

/-- The rows are as after a load at a time: what is current is of that time. -/
structure Settled (time : Instant) (rows : List PurchaseOrderLineRow) : Prop where
  observations : (rows.map PurchaseOrderLineRow.observation).Nodup
  current : ∀ row ∈ rows, row.isCurrent = true → row.sourceFetchedAt = time

theorem eq_of_observes (observations : (rows.map PurchaseOrderLineRow.observation).Nodup)
    {a b : PurchaseOrderLineRow} (memA : a ∈ rows) (memB : b ∈ rows)
    (observesA : a.observes key time = true) (observesB : b.observes key time = true) : a = b := by
  obtain ⟨keyA, timeA⟩ := observes_iff.mp observesA
  obtain ⟨keyB, timeB⟩ := observes_iff.mp observesB
  exact List.inj_on_of_nodup_map observations memA memB
    (Prod.ext (keyA.trans keyB.symm) (timeA.trans timeB.symm))

/-- A line whose observation is stored can be inserted exactly if it is the stored one. -/
theorem insertLine_present (settled : Settled load.effectiveSourceTime rows)
    (present : ∃ row ∈ rows, row.observes item.1 load.effectiveSourceTime = true) :
    insertLine B load rows item = .ok after ↔ Agrees B load.effectiveSourceTime rows item ∧
      after = reviveObserved item.1 load.effectiveSourceTime rows := by
  obtain ⟨row, inside, observes⟩ := present
  have found : rows.find? (PurchaseOrderLineRow.observes item.1 load.effectiveSourceTime) = some row := by
    cases first : rows.find? (PurchaseOrderLineRow.observes item.1 load.effectiveSourceTime) with
    | none => exact absurd observes (List.find?_eq_none.mp first row inside)
    | some other =>
      exact congrArg some (eq_of_observes settled.observations (List.mem_of_find?_eq_some first) inside
        (List.find?_some first) observes)
  have alone : (rows.any fun other => other.isCurrent && decide (other.sourceLineKey = item.1) &&
      !other.observes item.1 load.effectiveSourceTime) = false := by
    rw [List.any_eq_false]
    intro other mem both
    rw [Bool.and_eq_true, Bool.and_eq_true, decide_eq_true_eq, Bool.not_eq_true'] at both
    have seen := observes_iff.mpr ⟨both.1.2, settled.current other mem both.1.1⟩
    exact Bool.false_ne_true (both.2.symm.trans seen)
  have agrees : row.payloadFingerprint = lineFingerprint B item.2 ↔
      Agrees B load.effectiveSourceTime rows item := by
    constructor
    · intro same other mem seen
      rw [eq_of_observes settled.observations mem inside seen observes]
      exact same
    · intro all
      exact all row inside observes
  unfold insertLine
  dsimp only
  rw [found, alone, ← agrees]
  dsimp only
  split
  · next differs => exact iff_of_false nofun fun both => differs both.1
  · next same =>
    rw [if_neg Bool.false_ne_true]
    exact ⟨fun inserted => ⟨not_not.mp same, (Except.ok.inj inserted).symm⟩,
      fun both => congrArg Except.ok both.2.symm⟩

/-- The rows where those of some keys are current again. -/
def reviveKeys (keys : List String) (time : Instant) (rows : List PurchaseOrderLineRow) :
    List PurchaseOrderLineRow :=
  rows.map fun row => if row.sourceFetchedAt = time ∧ row.sourceLineKey ∈ keys then row.revive else row

theorem Settled.revive (settled : Settled time rows) (key : String) : Settled time (reviveObserved key time rows) := by
  constructor
  · rw [map_observation_revive]
    exact settled.observations
  · intro row mem
    obtain ⟨old, inside, rfl⟩ := List.mem_map.mp mem
    split
    · next here => exact fun _ => (observes_iff.mp here).2
    · exact settled.current old inside

theorem mem_reviveObserved {P : PurchaseOrderLineRow → Prop} (same : ∀ row, P row.revive ↔ P row) :
    (∀ row ∈ reviveObserved key time rows, P row) ↔ ∀ row ∈ rows, P row := by
  unfold reviveObserved
  rw [List.forall_mem_map]
  refine forall₂_congr fun row _ => ?_
  split
  · exact same row
  · exact Iff.rfl

theorem reviveKeys_reviveObserved (key : String) (keys : List String) (time : Instant) :
    reviveKeys keys time (reviveObserved key time rows) = reviveKeys (key :: keys) time rows := by
  unfold reviveKeys reviveObserved
  rw [List.map_map]
  refine List.map_congr_left fun row _ => ?_
  rw [Function.comp_apply]
  by_cases here : row.observes key time = true
  · obtain ⟨isKey, isTime⟩ := observes_iff.mp here
    have first : row.sourceFetchedAt = time ∧ row.sourceLineKey ∈ key :: keys :=
      ⟨isTime, isKey ▸ List.mem_cons_self⟩
    rw [if_pos here, if_pos first]
    split <;> rfl
  · have other : row.sourceFetchedAt = time ∧ row.sourceLineKey ∈ key :: keys ↔
        row.sourceFetchedAt = time ∧ row.sourceLineKey ∈ keys := by
      rw [List.mem_cons]
      refine and_congr_right fun isTime => or_iff_right fun isKey => here (observes_iff.mpr ⟨isKey, isTime⟩)
    rw [if_neg here]
    simp only [other]

variable {items : List (String × PurchaseOrderLine)}

/-- **Lines whose observations are stored can be inserted exactly if they are the stored ones**, and are the
current ones then. -/
theorem insertAll_present (settled : Settled load.effectiveSourceTime rows)
    (present : ∀ item ∈ items, ∃ row ∈ rows, row.observes item.1 load.effectiveSourceTime = true) :
    items.foldlM (insertLine B load) rows = .ok after ↔
      (∀ item ∈ items, Agrees B load.effectiveSourceTime rows item) ∧
        after = reviveKeys (items.map Prod.fst) load.effectiveSourceTime rows := by
  induction items generalizing rows with
  | nil =>
    have nothing : reviveKeys [] load.effectiveSourceTime rows = rows := by
      refine (List.map_congr_left fun row _ => ?_).trans (List.map_id rows)
      exact if_neg fun both => List.not_mem_nil both.2
    rw [List.foldlM_nil, List.map_nil, nothing]
    exact ⟨fun done => ⟨fun item mem => absurd mem List.not_mem_nil, (Except.ok.inj done).symm⟩,
      fun both => congrArg Except.ok both.2.symm⟩
  | cons item items ih =>
    have later : ∀ other ∈ items, ∃ row ∈ reviveObserved item.1 load.effectiveSourceTime rows,
        row.observes other.1 load.effectiveSourceTime = true := by
      intro other mem
      obtain ⟨row, inside, observes⟩ := present other (List.mem_cons_of_mem _ mem)
      refine ⟨_, List.mem_map_of_mem inside, ?_⟩
      split
      · exact observes
      · exact observes
    have agrees (other : String × PurchaseOrderLine) :
        Agrees B load.effectiveSourceTime (reviveObserved item.1 load.effectiveSourceTime rows) other ↔
          Agrees B load.effectiveSourceTime rows other := mem_reviveObserved fun _ => Iff.rfl
    have rest := ih (settled.revive item.1) later
    simp only [agrees, reviveKeys_reviveObserved] at rest
    rw [List.foldlM_cons, bind_eq_ok_iff, List.forall_mem_cons, List.map_cons, and_assoc, ← rest]
    constructor
    · rintro ⟨middle, first, done⟩
      obtain ⟨same, rfl⟩ := (insertLine_present settled (present item List.mem_cons_self)).mp first
      exact ⟨same, done⟩
    · rintro ⟨same, done⟩
      exact ⟨_, (insertLine_present settled (present item List.mem_cons_self)).mpr ⟨same, rfl⟩, done⟩

end Rows

/-! ## One order -/

/-- The order may be loaded at a time: the stored one is not newer, and has the fingerprint if it is of that
time. -/
def Admits (tables : OrderTables) (time : Instant) (fingerprint : String) : Prop :=
  ∀ row, tables.order = some row → row.sourceFetchedAt ≤ time ∧
    (row.sourceFetchedAt = time → row.payloadFingerprint = fingerprint)

def Newer (tables : OrderTables) (time : Instant) : Prop :=
  ∃ row, tables.order = some row ∧ time < row.sourceFetchedAt

variable {time : Instant}

theorem newer_iff {tables : OrderTables} :
    (tables.order.any fun row => decide (time < row.sourceFetchedAt)) = true ↔ Newer tables time := by
  rw [Option.any_eq_true]
  simp only [decide_eq_true_eq, Newer]

theorem not_drift_iff {tables : OrderTables} {fingerprint : String} (old : ¬Newer tables time) :
    ¬(tables.order.any fun row =>
      decide (row.sourceFetchedAt = time) && decide (row.payloadFingerprint ≠ fingerprint)) = true ↔
    Admits tables time fingerprint := by
  unfold Admits
  cases stored : tables.order with
  | none => exact iff_of_true Bool.false_ne_true nofun
  | some row =>
    have bound : row.sourceFetchedAt ≤ time := not_lt.mp fun newer => old ⟨row, stored, newer⟩
    rw [Option.any_some, Bool.and_eq_true, decide_eq_true_eq, decide_eq_true_eq, not_and, not_not]
    constructor
    · intro same other is
      obtain rfl := Option.some.inj is
      exact ⟨bound, same⟩
    · intro all
      exact (all row rfl).2

/-- A load at the time of the stored order, or after it, stores the order. -/
theorem upsertOrder_of_admits {tables : OrderTables} {fingerprint : String} (admits : Admits tables time fingerprint) :
    upsertOrder tables.order ⟨fingerprint, time⟩ = ⟨fingerprint, time⟩ := by
  unfold upsertOrder
  cases stored : tables.order with
  | none => rfl
  | some row =>
    obtain ⟨bound, same⟩ := admits row stored
    dsimp only
    split
    · rfl
    · next late =>
      have equal : row.sourceFetchedAt = time := le_antisymm bound (not_lt.mp late)
      obtain ⟨print, fetched⟩ := row
      obtain rfl : print = fingerprint := same equal
      obtain rfl : fetched = time := equal
      rfl

variable {tables after : OrderTables} {load : OrderLoad} {counts : LoadCounts}

/-- **What a load does.** -/
theorem loadOrder_ok_iff : loadOrder B tables load = .ok (after, counts) ↔ checkEvidence load.order = .ok () ∧
      (Newer tables load.effectiveSourceTime ∧ after = tables ∧ counts = ⟨0, 0, 1⟩ ∨
        ¬Newer tables load.effectiveSourceTime ∧
        Admits tables load.effectiveSourceTime (orderFingerprint B load.order) ∧
        ∃ lines, (orderLines B load.order).foldlM (insertLine B load)
            (tables.lines.map (PurchaseOrderLineRow.retire load.effectiveSourceTime)) = .ok lines ∧
          after = ⟨some ⟨orderFingerprint B load.order, load.effectiveSourceTime⟩, lines⟩ ∧
          counts = ⟨load.order.lines.length, tables.lines.countP fun row =>
            row.isCurrent && decide (row.sourceFetchedAt ≤ load.effectiveSourceTime), 0⟩) := by
  unfold loadOrder
  dsimp only
  rw [check_ok_iff]
  refine and_congr_right fun _ => ?_
  by_cases newer : Newer tables load.effectiveSourceTime
  · rw [if_pos (newer_iff.mpr newer)]
    constructor
    · intro done
      obtain ⟨rfl, rfl⟩ := Prod.mk.inj (Except.ok.inj done)
      exact .inl ⟨newer, rfl, rfl⟩
    · rintro (⟨-, rfl, rfl⟩ | ⟨old, -⟩)
      · rfl
      · exact absurd newer old
  · rw [if_neg fun any => newer (newer_iff.mp any), check_ok_iff, refuse_eq_ok, not_drift_iff newer,
      bind_eq_ok_iff]
    constructor
    · rintro ⟨admits, lines, inserted, done⟩
      obtain ⟨rfl, rfl⟩ := Prod.mk.inj (Except.ok.inj done)
      exact .inr ⟨newer, admits, lines, inserted, by rw [upsertOrder_of_admits admits], rfl⟩
    · rintro (⟨isNewer, -⟩ | ⟨-, admits, lines, inserted, rfl, rfl⟩)
      · exact absurd isNewer newer
      · refine ⟨admits, lines, inserted, ?_⟩
        rw [upsertOrder_of_admits admits]
        rfl

/-- What the tables of an order are in every state. -/
structure OrderTables.Sound (tables : OrderTables) : Prop where
  observations : (tables.lines.map PurchaseOrderLineRow.observation).Nodup
  bounded : ∀ row ∈ tables.lines, ∃ order, tables.order = some order ∧
    row.sourceFetchedAt ≤ order.sourceFetchedAt

/-- **The tables after a load that is not passed over.** -/
theorem loaded_of_load (sound : tables.Sound)
    (loaded : loadOrder B tables load = .ok (after, counts)) (taken : counts.staleOrderCount = 0) :
    after.order = some ⟨orderFingerprint B load.order, load.effectiveSourceTime⟩ ∧
      Loaded B load.effectiveSourceTime (orderLines B load.order) after.lines := by
  rcases (loadOrder_ok_iff.mp loaded).2 with ⟨-, -, rfl⟩ | ⟨-, admits, lines, inserted, rfl, -⟩
  · exact absurd taken Nat.one_ne_zero
  refine ⟨rfl, ?_⟩
  have start : Loaded B load.effectiveSourceTime []
      (tables.lines.map (PurchaseOrderLineRow.retire load.effectiveSourceTime)) := by
    refine loaded_retire sound.observations fun row mem => ?_
    obtain ⟨stored, is, bound⟩ := sound.bounded row mem
    exact bound.trans (admits stored is).1
  exact start.insertAll inserted

theorem loadOrder_stale (loaded : loadOrder B tables load = .ok (after, counts))
    (stale : counts.staleOrderCount ≠ 0) : after = tables := by
  rcases (loadOrder_ok_iff.mp loaded).2 with ⟨-, same, -⟩ | ⟨-, -, lines, -, -, rfl⟩
  · exact same
  · exact absurd rfl stale

theorem orderStep_sound (tables : OrderTables) (load : OrderLoad) (sound : tables.Sound) :
    (orderStep B tables load).Sound := by
  unfold orderStep
  split
  · next after counts loaded =>
    by_cases taken : counts.staleOrderCount = 0
    · obtain ⟨order, lines⟩ := loaded_of_load sound loaded taken
      exact ⟨lines.observations, fun row mem => ⟨_, order, lines.bounded row mem⟩⟩
    · rw [loadOrder_stale loaded taken]
      exact sound
  · exact sound

theorem sound_empty : OrderTables.Sound {} := ⟨List.nodup_nil, fun _ mem => absurd mem List.not_mem_nil⟩

theorem run_orderStep_sound (history : List OrderLoad) : (run (orderStep B) {} history).Sound :=
  run_invariant orderStep_sound sound_empty history

/-! ## The same order once more -/

structure Rearranges (reload load : OrderLoad) : Prop where
  order : ∃ lines fetchedAt, reload.order = { load.order with lines := lines, fetchedAt := fetchedAt } ∧
    lines.Perm load.order.lines
  time : reload.effectiveSourceTime = load.effectiveSourceTime

theorem Rearranges.perm {reload load : OrderLoad} (rearranges : Rearranges reload load) :
    reload.order.lines.Perm load.order.lines := by
  obtain ⟨lines, fetchedAt, same, perm⟩ := rearranges.order
  rw [same]
  exact perm

theorem Rearranges.checkEvidence {reload load : OrderLoad} (rearranges : Rearranges reload load)
    (passed : checkEvidence load.order = .ok ()) : checkEvidence reload.order = .ok () := by
  obtain ⟨lines, fetchedAt, same, -⟩ := rearranges.order
  rw [same]
  exact passed

/-- The reload succeeds, and leaves the current lines. -/
def ReloadKeeps (B : SupplyBuiltins) (tables : OrderTables) (reload : OrderLoad) : Prop :=
  ∃ after counts, loadOrder B tables reload = .ok (after, counts) ∧
    after.currentLines.Perm tables.currentLines

/-- The lines of each identity come in the same order, as far as their fingerprints tell. -/
def SameWithinIdentities (B : SupplyBuiltins) (order order' : PurchaseOrder) : Prop :=
  ∀ identity, (classMembers serializedIdentity identity order.lines).map (lineFingerprint B) =
    (classMembers serializedIdentity identity order'.lines).map (lineFingerprint B)

section Reload

variable {load reload : OrderLoad} {rows : List PurchaseOrderLineRow}

variable {order order' : PurchaseOrder}

theorem exists_mem_orderLines (perm : order.lines.Perm order'.lines) {key : String} : key ∈ (orderLines B order).map Prod.fst → key ∈ (orderLines B order').map Prod.fst := by
  intro mem
  obtain ⟨⟨_, line⟩, inside, rfl⟩ := List.mem_map.mp mem
  obtain ⟨identity, n, rfl, found⟩ := mem_orderLines.mp inside
  obtain ⟨other, there⟩ := exists_mem_numbered_perm perm (mem_numbered.mpr found)
  exact List.mem_map.mpr ⟨(_, other), mem_orderLines.mpr ⟨identity, n, rfl, mem_numbered.mp there⟩, rfl⟩

variable {time : Instant}

/-- **The stored lines agree with the rearranged ones exactly if those of each identity come in the same
order.** -/
theorem agrees_iff (perm : order'.lines.Perm order.lines) (loaded : Loaded B time (orderLines B order) rows) :
    (∀ item ∈ orderLines B order', Agrees B time rows item) ↔ SameWithinIdentities B order' order := by
  constructor
  · intro all identity
    have length : (classMembers serializedIdentity identity order'.lines).length =
        (classMembers serializedIdentity identity order.lines).length := (perm.filter _).length_eq
    refine List.ext_getElem (by rw [List.length_map, List.length_map, length]) fun n bound bound' => ?_
    rw [List.getElem_map, List.getElem_map]
    rw [List.length_map] at bound bound'
    have here := mem_orderLines (B := B).mpr ⟨identity, n, rfl, List.getElem?_eq_getElem bound⟩
    have there := mem_orderLines (B := B).mpr ⟨identity, n, rfl, List.getElem?_eq_getElem bound'⟩
    obtain ⟨row, inside, observes, print⟩ := loaded.stored _ there
    exact (all _ here row inside observes).symm.trans print
  · intro same item mem row inside observes
    obtain ⟨identity, n, key, found⟩ := mem_orderLines.mp mem
    have prints := congrArg (·[n]?) (same identity)
    simp only [List.getElem?_map, found, Option.map_some] at prints
    obtain ⟨line, there, print⟩ := Option.map_eq_some_iff.mp prints.symm
    obtain ⟨other, inside', observes', print'⟩ :=
      loaded.stored _ (mem_orderLines.mpr ⟨identity, n, key, there⟩)
    rw [eq_of_observes loaded.observations inside inside' observes observes', print']
    exact print

/-- Retiring the lines and making those of the same keys current again changes no line. -/
theorem currentLines_reload {items : List (String × PurchaseOrderLine)} {keys : List String}
    (loaded : Loaded B time items rows) (same : ∀ key, key ∈ keys ↔ key ∈ items.map Prod.fst) :
    ((reviveKeys keys time (rows.map (PurchaseOrderLineRow.retire time))).filter (·.isCurrent)).map (·.line) =
      (rows.filter (·.isCurrent)).map (·.line) := by
  let reloaded (row : PurchaseOrderLineRow) : PurchaseOrderLineRow :=
    if (row.retire time).sourceFetchedAt = time ∧ (row.retire time).sourceLineKey ∈ keys then
      (row.retire time).revive
    else row.retire time
  have all : reviveKeys keys time (rows.map (PurchaseOrderLineRow.retire time)) = rows.map reloaded := List.map_map
  have line (row : PurchaseOrderLineRow) : (reloaded row).line = row.line := by
    dsimp only [reloaded]
    split
    · exact (retire_static time row).2.1
    · exact (retire_static time row).2.1
  have current (row : PurchaseOrderLineRow) (mem : row ∈ rows) :
      (reloaded row).isCurrent = row.isCurrent := by
    obtain ⟨key, fetched⟩ := Prod.mk.inj (retire_static time row).1
    have isLoaded := (loaded.current row mem).trans (and_congr_right fun _ => (same _).symm)
    dsimp only [reloaded]
    rw [key, fetched]
    split
    · next both => exact (isLoaded.mpr both).symm
    · next neither =>
      have retired : row.isCurrent = false := Bool.eq_false_iff.mpr fun is => neither (isLoaded.mp is)
      unfold PurchaseOrderLineRow.retire
      rw [retired]
      exact retired
  rw [all, List.filter_map, List.map_map]
  have kept : rows.filter ((·.isCurrent) ∘ reloaded) = rows.filter (·.isCurrent) :=
    List.filter_congr fun row mem => current row mem
  rw [kept]
  exact List.map_congr_left fun row _ => line row

theorem agrees_retire {item : String × PurchaseOrderLine} :
    Agrees B time (rows.map (PurchaseOrderLineRow.retire time)) item ↔ Agrees B time rows item := by
  unfold Agrees
  rw [List.forall_mem_map]
  refine forall₂_congr fun row _ => ?_
  obtain ⟨key, fetched⟩ := Prod.mk.inj (retire_static time row).1
  rw [(retire_static time row).2.2, observes_iff, observes_iff, key, fetched]

/-- **The lines of a rearranged order can be inserted exactly if those of each identity come in the same
order**, and then are the current ones. -/
theorem insert_rearranged {order : PurchaseOrder} {after : List PurchaseOrderLineRow}
    (perm : reload.order.lines.Perm order.lines)
    (loaded : Loaded B reload.effectiveSourceTime (orderLines B order) rows) :
    (orderLines B reload.order).foldlM (insertLine B reload)
        (rows.map (PurchaseOrderLineRow.retire reload.effectiveSourceTime)) = .ok after ↔
      SameWithinIdentities B reload.order order ∧ after = reviveKeys ((orderLines B reload.order).map Prod.fst)
        reload.effectiveSourceTime (rows.map (PurchaseOrderLineRow.retire reload.effectiveSourceTime)) := by
  have retired := loaded_retire (B := B) loaded.observations loaded.bounded
  have settled : Settled reload.effectiveSourceTime
      (rows.map (PurchaseOrderLineRow.retire reload.effectiveSourceTime)) :=
    ⟨retired.observations, fun row mem is => ((retired.current row mem).mp is).1⟩
  have present : ∀ item ∈ orderLines B reload.order,
      ∃ row ∈ rows.map (PurchaseOrderLineRow.retire reload.effectiveSourceTime),
        row.observes item.1 reload.effectiveSourceTime = true := by
    intro item mem
    obtain ⟨other, inside, same⟩ :=
      List.mem_map.mp (exists_mem_orderLines perm (List.mem_map_of_mem mem))
    obtain ⟨row, there, observes, -⟩ := loaded.stored other inside
    refine ⟨_, List.mem_map_of_mem there, ?_⟩
    obtain ⟨key, fetched⟩ := Prod.mk.inj (retire_static reload.effectiveSourceTime row).1
    rw [observes_iff, key, fetched, ← same]
    exact observes_iff.mp observes
  rw [insertAll_present settled present]
  simp only [agrees_retire, agrees_iff perm loaded]

theorem admits_rearranged {tables : OrderTables} {order : PurchaseOrder}
    (stored : tables.order = some ⟨orderFingerprint B order, reload.effectiveSourceTime⟩) :
    ¬Newer tables reload.effectiveSourceTime ∧
      (Admits tables reload.effectiveSourceTime (orderFingerprint B reload.order) ↔
        orderFingerprint B reload.order = orderFingerprint B order) := by
  constructor
  · rintro ⟨row, is, newer⟩
    obtain rfl := Option.mem_unique stored is
    exact lt_irrefl _ newer
  · unfold Admits
    rw [stored]
    constructor
    · intro all
      exact ((all _ rfl).2 rfl).symm
    · intro same row is
      obtain rfl := Option.some.inj is
      exact ⟨le_refl _, fun _ => same.symm⟩

theorem conditions_of_reload {tables after : OrderTables} {counts : LoadCounts} (rearranges : Rearranges reload load)
    (order : tables.order = some ⟨orderFingerprint B load.order, reload.effectiveSourceTime⟩)
    (lines : Loaded B reload.effectiveSourceTime (orderLines B load.order) tables.lines)
    (reloaded : loadOrder B tables reload = .ok (after, counts)) :
    orderFingerprint B reload.order = orderFingerprint B load.order ∧
      SameWithinIdentities B reload.order load.order := by
  obtain ⟨current, admits⟩ := admits_rearranged order
  rcases (loadOrder_ok_iff.mp reloaded).2 with ⟨newer, -⟩ | ⟨-, fits, rows, inserted, -⟩
  · exact absurd newer current
  · exact ⟨admits.mp fits, ((insert_rearranged rearranges.perm lines).mp inserted).1⟩

/-- **A reload keeps the current lines exactly if the order has the same fingerprint and the lines of each
identity come in the same order.** -/
theorem reload_iff (B : SupplyBuiltins) (history : List OrderLoad) (load reload : OrderLoad)
    (tables : OrderTables) (counts : LoadCounts)
    (loaded : loadOrder B (run (orderStep B) {} history) load = .ok (tables, counts))
    (taken : counts.staleOrderCount = 0) (rearranges : Rearranges reload load) : ReloadKeeps B tables reload ↔
      orderFingerprint B reload.order = orderFingerprint B load.order ∧
        SameWithinIdentities B reload.order load.order := by
  obtain ⟨order, lines⟩ := loaded_of_load (run_orderStep_sound history) loaded taken
  have evidence := rearranges.checkEvidence (loadOrder_ok_iff.mp loaded).1
  rw [← rearranges.time] at order lines
  constructor
  · rintro ⟨after, counts', reloaded, -⟩
    exact conditions_of_reload rearranges order lines reloaded
  · rintro ⟨same, within⟩
    obtain ⟨current, admits⟩ := admits_rearranged order
    have inserted := (insert_rearranged rearranges.perm lines).mpr ⟨within, rfl⟩
    have reloaded := loadOrder_ok_iff.mpr
      ⟨evidence, .inr ⟨current, admits.mpr same, _, inserted, rfl, rfl⟩⟩
    refine ⟨_, _, reloaded, ?_⟩
    have keys (key : String) : key ∈ (orderLines B reload.order).map Prod.fst ↔
        key ∈ (orderLines B load.order).map Prod.fst :=
      ⟨exists_mem_orderLines rearranges.perm, exists_mem_orderLines rearranges.perm.symm⟩
    exact List.Perm.of_eq (currentLines_reload lines keys)

end Reload

/-! ## Two lines of one identity -/

/-- A digest that tells texts apart by the sum of their characters. -/
def sumOfChars (chars : List Char) : String :=
  String.ofList (List.replicate 64 (hexChar ((chars.map Char.toNat).sum % 16)))

def codePointEngine : SupplyBuiltins where
  digest := ⟨fun text => sumOfChars text.toList, fun _ => isSha256Hex_hexChar (Nat.mod_lt _ (by decide))⟩
  localeCompare := compare
  localeCompare_trans := String.instTransOrd

def quantityLine (skuCode : String) (orderQuantity : Nat) : PurchaseOrderLine where
  skuCode := some skuCode
  skc := none
  supplierCode := none
  supplierSku := none
  variantName := none
  needQuantity := none
  orderQuantity := some orderQuantity
  deliveryQuantity := none
  receiptQuantity := none
  storageQuantity := none
  defectiveQuantity := none
  requestDeliveryQuantity := none
  noRequestDeliveryQuantity := none
  alreadyDeliveryQuantity := none

def orderLoad (fetchBatchId : Nat) (lines : List PurchaseOrderLine) : OrderLoad where
  order :=
    { orderNo := "1", sourceUpdatedAt := some 0, fetchedAt := none, lines := lines, linesComplete := true
      jitRelations := [], jitRelationScopes := [], jitRelationsComplete := false }
  fetchBatchId := fetchBatchId
  sourceFetchedAt := 0

theorem orderLoad_rearranges {first second : Nat} {lines lines' : List PurchaseOrderLine}
    (perm : lines'.Perm lines) : Rearranges (orderLoad second lines') (orderLoad first lines) :=
  ⟨⟨lines', none, rfl, perm⟩, rfl⟩

/-- **Two lines of one identity in the other order are refused.** -/
theorem reload_refused : ∃ tables, loadOrder codePointEngine {}
      (orderLoad 1 [quantityLine "S" 1, quantityLine "S" 2]) = .ok (tables, ⟨2, 0, 0⟩) ∧
    Rearranges (orderLoad 2 [quantityLine "S" 2, quantityLine "S" 1])
      (orderLoad 1 [quantityLine "S" 1, quantityLine "S" 2]) ∧
    ¬ReloadKeeps codePointEngine tables (orderLoad 2 [quantityLine "S" 2, quantityLine "S" 1]) := by
  obtain ⟨⟨tables, _⟩, loaded, rfl⟩ := exists_of_toOption_map (show (loadOrder codePointEngine {}
    (orderLoad 1 [quantityLine "S" 1, quantityLine "S" 2])).toOption.map (·.2) = some ⟨2, 0, 0⟩ by decide +kernel)
  have rearranges : Rearranges (orderLoad 2 [quantityLine "S" 2, quantityLine "S" 1])
      (orderLoad 1 [quantityLine "S" 1, quantityLine "S" 2]) := orderLoad_rearranges (List.Perm.swap _ _ _)
  refine ⟨tables, loaded, rearranges, ?_⟩
  rintro ⟨after, counts, reloaded, -⟩
  obtain ⟨order, lines⟩ := loaded_of_load sound_empty loaded rfl
  have within := (conditions_of_reload rearranges order lines reloaded).2
    (serializedIdentity (quantityLine "S" 1))
  have first : [lineFingerprint codePointEngine (quantityLine "S" 2),
      lineFingerprint codePointEngine (quantityLine "S" 1)] =
        [lineFingerprint codePointEngine (quantityLine "S" 1),
          lineFingerprint codePointEngine (quantityLine "S" 2)] := by
    unfold classMembers at within
    have all (n : Nat) : decide (serializedIdentity (quantityLine "S" n) =
        serializedIdentity (quantityLine "S" 1)) = true := decide_eq_true rfl
    simpa [orderLoad, List.filter_cons, all] using within
  -- The digests are compared as sums of characters, without their texts.
  have sums := congrArg (fun text => text.toList.head?) (List.cons.inj first).1
  unfold lineFingerprint Digest.payloadFingerprint stableJson at sums
  simp only [codePointEngine, sumOfChars, String.toList_ofList] at sums
  exact absurd sums (by decide +kernel)

/-- Two lines of different identities, in the other order. -/
theorem reload_apart : ∃ tables, loadOrder codePointEngine {}
      (orderLoad 1 [quantityLine "S" 1, quantityLine "T" 2]) = .ok (tables, ⟨2, 0, 0⟩) ∧
    (ReloadKeeps codePointEngine tables (orderLoad 2 [quantityLine "T" 2, quantityLine "S" 1]) ↔
      orderFingerprint codePointEngine (orderLoad 2 [quantityLine "T" 2, quantityLine "S" 1]).order =
          orderFingerprint codePointEngine (orderLoad 1 [quantityLine "S" 1, quantityLine "T" 2]).order ∧
        SameWithinIdentities codePointEngine (orderLoad 2 [quantityLine "T" 2, quantityLine "S" 1]).order
          (orderLoad 1 [quantityLine "S" 1, quantityLine "T" 2]).order) := by
  obtain ⟨⟨tables, _⟩, loaded, rfl⟩ := exists_of_toOption_map (show (loadOrder codePointEngine {}
    (orderLoad 1 [quantityLine "S" 1, quantityLine "T" 2])).toOption.map (·.2) = some ⟨2, 0, 0⟩ by decide +kernel)
  have rearranges : Rearranges (orderLoad 2 [quantityLine "T" 2, quantityLine "S" 1])
      (orderLoad 1 [quantityLine "S" 1, quantityLine "T" 2]) := orderLoad_rearranges (List.Perm.swap _ _ _)
  exact ⟨tables, loaded, reload_iff codePointEngine [] _ _ tables ⟨2, 0, 0⟩ loaded rfl rearranges⟩

/-! ## Any loads -/

/-- The tables are still empty, or show one of the loads: its order is the stored one, and its lines are the current ones. -/
def Shows (B : SupplyBuiltins) (history : List OrderLoad) (tables : OrderTables) : Prop :=
  tables = {} ∨ ∃ load ∈ history,
    tables.order = some ⟨orderFingerprint B load.order, load.effectiveSourceTime⟩ ∧
      Loaded B load.effectiveSourceTime (orderLines B load.order) tables.lines

/-- **An order shows one load as a whole**, whatever loads there have been, stale and failing ones among them. -/
theorem shows_run (B : SupplyBuiltins) (history : List OrderLoad) : Shows B history (run (orderStep B) {} history) := by
  induction history using List.reverseRecOn with
  | nil => exact .inl rfl
  | append_singleton history load ih =>
    have before : Shows B (history ++ [load]) (run (orderStep B) {} history) := by
      rcases ih with empty | ⟨other, mem, shown⟩
      · exact .inl empty
      · exact .inr ⟨other, List.mem_append_left _ mem, shown⟩
    rw [run_concat, orderStep]
    split
    · next after counts loaded =>
      by_cases taken : counts.staleOrderCount = 0
      · exact .inr ⟨load, List.mem_concat_self, loaded_of_load (run_orderStep_sound history) loaded taken⟩
      · rw [loadOrder_stale loaded taken]
        exact before
    · exact before

end FullManagedBi.Warehouse
