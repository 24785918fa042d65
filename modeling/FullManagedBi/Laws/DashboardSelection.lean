import FullManagedBi.Lib.Readers
import FullManagedBi.Sales.DashboardProjection

/-!
# The latest snapshot of each SKU of a store

What a snapshot is read as does not depend on its place in the list (`normalizeSnapshot_alike`), so that a list
in another order is read as the same snapshots in that order (`normalizeSnapshots_perm`). The snapshot that is
selected for a SKU of a store is the first of its newest ones (`found_select`), and there is one
(`nodup_latestOf`); without ties it does not depend on the order of the list (`latestOf_perm`).
-/

namespace FullManagedBi.Dashboard

open Lib

/-! ## Reading without the place -/

variable (value : Option Json)

theorem record_alike : ReadAlike (record value) := by
  intro path path' a done
  unfold record at done ⊢
  split at done
  · exact done
  · exact nomatch done

theorem nonEmptyString_alike : ReadAlike (nonEmptyString value) := by
  intro path path' a done
  unfold nonEmptyString at done ⊢
  split at done
  · next text =>
    split at done
    · exact nomatch done
    next full =>
    rw [if_neg full]
    exact done
  · exact nomatch done

theorem nonNegativeInteger_alike : ReadAlike (nonNegativeInteger value) := by
  intro path path' a done
  unfold nonNegativeInteger at done ⊢
  split at done
  · next n =>
    split at done
    · exact nomatch done
    next safe =>
    split at done
    · exact nomatch done
    next positive =>
    rw [if_neg safe, if_neg positive]
    exact done
  · exact nomatch done

theorem statisticsDate_alike : ReadAlike (statisticsDate value) := by
  unfold statisticsDate
  apply (nonEmptyString_alike value).bind
  intro normalized
  apply (ReadAlike.refuse _).bind
  intro _
  apply (ReadAlike.refuse _).bind
  intro _
  exact .pure

theorem fetchedAt_alike (parseDate : String → Option Int) (value : Option Json) :
    ReadAlike (fetchedAt parseDate value) := by
  intro path path' a done
  unfold fetchedAt at done ⊢
  split at done
  · next text =>
    split at done
    · exact nomatch done
    next full =>
    rw [if_neg full]
    split at done
    · exact done
    · exact nomatch done
  · exact nomatch done

/-- **A snapshot is read alike at every place.** -/
theorem normalizeSnapshot_alike (parseDate : String → Option Int) (codes : List String) (raw : Json) :
    ReadAlike (normalizeSnapshot parseDate codes raw) := by
  unfold normalizeSnapshot
  apply ((record_alike _).at_path _).bind
  intro snapshot
  apply ((nonEmptyString_alike _).at_path _).bind
  intro storeCode
  apply ((nonEmptyString_alike _).at_path _).bind
  intro skuCode
  apply (ReadAlike.refuse _).bind
  intro _
  apply ((statisticsDate_alike _).at_path _).bind
  intro statisticsDate
  apply ((fetchedAt_alike parseDate _).at_path _).bind
  intro fetchedAt
  apply ((nonNegativeInteger_alike _).at_path _).bind
  intro salesToday
  apply ((nonNegativeInteger_alike _).at_path _).bind
  intro salesYesterday
  apply ((nonNegativeInteger_alike _).at_path _).bind
  intro sales7Days
  apply ((nonNegativeInteger_alike _).at_path _).bind
  intro sales30Days
  exact .pure

variable {parseDate : String → Option Int} {codes : List String}

variable {rows : List Snapshot}

theorem normalizeSnapshots_perm {raws raws' : List Json} (perm : raws.Perm raws')
    (read : normalizeSnapshots parseDate (.arr raws) codes = .ok rows) :
    ∃ rows', normalizeSnapshots parseDate (.arr raws') codes = .ok rows' ∧ rows.Perm rows' := by
  have alike := normalizeSnapshot_alike parseDate codes
  have mapped := (ReadAlike.mapM_zipIdx alike).mp read
  obtain ⟨rows', mapped', permuted⟩ := mapM_perm perm mapped
  exact ⟨rows', (ReadAlike.mapM_zipIdx alike).mpr mapped', permuted⟩

variable {index : Nat} {row : Snapshot}

theorem storeCode_of_normalizeSnapshot {raw : Json}
    (read : normalizeSnapshot parseDate codes raw index = .ok row) : row.storeCode ∈ codes := by
  unfold normalizeSnapshot at read
  obtain ⟨snapshot, -, read⟩ := bind_eq_ok read
  obtain ⟨storeCode, -, read⟩ := bind_eq_ok read
  obtain ⟨skuCode, -, read⟩ := bind_eq_ok read
  rw [check_ok_iff, refuse_eq_ok, not_not] at read
  obtain ⟨permitted, read⟩ := read
  obtain ⟨date, -, read⟩ := bind_eq_ok read
  obtain ⟨fetched, -, read⟩ := bind_eq_ok read
  obtain ⟨today, -, read⟩ := bind_eq_ok read
  obtain ⟨yesterday, -, read⟩ := bind_eq_ok read
  obtain ⟨week, -, read⟩ := bind_eq_ok read
  obtain ⟨month, -, read⟩ := bind_eq_ok read
  obtain rfl := Except.ok.inj read
  exact permitted

theorem storeCode_of_normalizeSnapshots {snapshots : Json}
    (read : normalizeSnapshots parseDate snapshots codes = .ok rows) (mem : row ∈ rows) : row.storeCode ∈ codes := by
  cases snapshots with
  | arr raws =>
    obtain ⟨⟨raw, index⟩, -, here⟩ := exists_of_mem_mapM read mem
    exact storeCode_of_normalizeSnapshot here
  | _ => exact nomatch read

/-! ## Permissions that are read again -/

/-- The texts of a permission are trimmed and not blank. -/
structure StorePermission.Plain (permission : StorePermission) : Prop where
  storeCode : jsTrim permission.storeCode = permission.storeCode ∧ permission.storeCode ≠ ""
  storeName : jsTrim permission.storeName = permission.storeName ∧ permission.storeName ≠ ""

theorem nonEmptyString_plain {value : Option Json} {path text : String} (read : nonEmptyString value path = .ok text) :
    jsTrim text = text ∧ text ≠ "" := by
  unfold nonEmptyString at read
  split at read
  · split at read
    · exact nomatch read
    next full =>
    obtain rfl := Except.ok.inj read
    exact ⟨jsTrim_jsTrim _, full⟩
  · exact nomatch read

theorem nonEmptyString_of_plain {text path : String} (plain : jsTrim text = text ∧ text ≠ "") :
    nonEmptyString (some (.str text)) path = .ok text := by
  unfold nonEmptyString
  simp only [plain.1, if_neg plain.2]

theorem storeNameOf_plain {value : Option Json} {storeCode path name : String}
    (plain : jsTrim storeCode = storeCode ∧ storeCode ≠ "") (read : storeNameOf value storeCode path = .ok name) :
    jsTrim name = name ∧ name ≠ "" := by
  unfold storeNameOf at read
  split at read
  · exact Except.ok.inj read ▸ plain
  · exact nonEmptyString_plain read

variable {seen : List String} {permission : StorePermission}

theorem normalizePermission_eq_ok {raw : Json} (read : normalizePermission raw index seen = .ok permission) :
    permission.Plain ∧ permission.storeCode ∉ seen := by
  unfold normalizePermission at read
  obtain ⟨fields, -, read⟩ := bind_eq_ok read
  obtain ⟨storeCode, code, read⟩ := bind_eq_ok read
  obtain ⟨storeName, name, read⟩ := bind_eq_ok read
  obtain ⟨text, -, read⟩ := bind_eq_ok read
  obtain ⟨status, -, read⟩ := bind_eq_ok read
  rw [check_ok_iff, refuse_eq_ok] at read
  obtain ⟨unseen, read⟩ := read
  obtain rfl := Except.ok.inj read
  have plain := nonEmptyString_plain code
  exact ⟨⟨plain, storeNameOf_plain plain name⟩, unseen⟩

variable (status : PermissionStatus)

@[simp] theorem permissionStatusOf_text : permissionStatusOf status.text = some status := by
  cases status <;> decide

theorem plain_text : jsTrim status.text = status.text ∧ status.text ≠ "" := by
  cases status <;> decide

theorem normalizePermission_json (plain : permission.Plain) (unseen : permission.storeCode ∉ seen) :
    normalizePermission permission.json index seen = .ok permission := by
  have code : permission.json.field? "storeCode" = some (.str permission.storeCode) := rfl
  have name : permission.json.field? "storeName" = some (.str permission.storeName) := rfl
  have status : permission.json.field? "permissionStatus" = some (.str permission.permissionStatus.text) := rfl
  have nameOf (path : String) : storeNameOf (some (.str permission.storeName)) permission.storeCode path =
      .ok permission.storeName := nonEmptyString_of_plain plain.storeName
  have supported (path : String) : supportedStatus permission.permissionStatus.text path =
      .ok permission.permissionStatus := by
    unfold supportedStatus
    rw [permissionStatusOf_text]
  unfold normalizePermission
  refine bind_eq_ok_iff.mpr ⟨permission.json, rfl, ?_⟩
  refine bind_eq_ok_iff.mpr ⟨permission.storeCode, code ▸ nonEmptyString_of_plain plain.storeCode, ?_⟩
  refine bind_eq_ok_iff.mpr ⟨permission.storeName, name ▸ nameOf _, ?_⟩
  refine bind_eq_ok_iff.mpr ⟨_, status ▸ nonEmptyString_of_plain (plain_text _), ?_⟩
  refine bind_eq_ok_iff.mpr ⟨_, supported _, ?_⟩
  exact check_ok_iff.mpr ⟨refuse_eq_ok.mpr unseen, rfl⟩

variable {permissions : List StorePermission}

theorem normalizePermissionsFrom_eq_ok {raws : List Json} (distinct : seen.Nodup)
    (read : normalizePermissionsFrom index seen raws = .ok permissions) :
    (∀ permission ∈ permissions, permission.Plain) ∧ (seen ++ permissions.map (·.storeCode)).Nodup := by
  induction raws generalizing index seen permissions with
  | nil =>
    obtain rfl := Except.ok.inj read
    exact ⟨nofun, by simpa using distinct⟩
  | cons raw raws ih =>
    rw [normalizePermissionsFrom] at read
    obtain ⟨permission, first, read⟩ := bind_eq_ok read
    obtain ⟨others, rest, same⟩ := bind_eq_ok read
    obtain rfl := Except.ok.inj same
    obtain ⟨plain, unseen⟩ := normalizePermission_eq_ok first
    have distinct' : (seen ++ [permission.storeCode]).Nodup :=
      List.nodup_append.mpr ⟨distinct, List.nodup_singleton _, fun code mem other single same =>
        unseen (List.mem_singleton.mp single ▸ same ▸ mem)⟩
    obtain ⟨plains, apart⟩ := ih distinct' rest
    rw [List.append_assoc] at apart
    exact ⟨List.forall_mem_cons.mpr ⟨plain, plains⟩, apart⟩

theorem normalizePermissionsFrom_json (plain : ∀ permission ∈ permissions, permission.Plain)
    (distinct : (seen ++ permissions.map (·.storeCode)).Nodup) :
    normalizePermissionsFrom index seen (permissions.map StorePermission.json) = .ok permissions := by
  induction permissions generalizing index seen with
  | nil => rfl
  | cons permission permissions ih =>
    obtain ⟨here, rest⟩ := List.forall_mem_cons.mp plain
    have unseen : permission.storeCode ∉ seen := by
      intro mem
      exact (List.nodup_append.mp distinct).2.2 _ mem _ List.mem_cons_self rfl
    have distinct' : (seen ++ [permission.storeCode] ++ permissions.map (·.storeCode)).Nodup := by
      rw [List.append_assoc]
      exact distinct
    rw [List.map_cons, normalizePermissionsFrom]
    refine bind_eq_ok_iff.mpr ⟨permission, normalizePermission_json here unseen, ?_⟩
    exact bind_eq_ok_iff.mpr ⟨permissions, ih rest distinct', rfl⟩

/-- **The permissions that are read are read again as they are.** -/
theorem normalizePermissions_again {storePermissions : Json}
    (read : normalizePermissions storePermissions = .ok permissions) : (permissions.map (·.storeCode)).Nodup ∧
      normalizePermissions (.arr (permissions.map StorePermission.json)) = .ok permissions := by
  unfold normalizePermissions at read
  split at read
  · next raw raws =>
    obtain ⟨plain, distinct⟩ := normalizePermissionsFrom_eq_ok List.nodup_nil read
    have again : normalizePermissionsFrom 0 [] (permissions.map StorePermission.json) = .ok permissions :=
      normalizePermissionsFrom_json plain distinct
    refine ⟨distinct, ?_⟩
    cases permissions with
    | nil =>
      rw [normalizePermissionsFrom] at read
      obtain ⟨permission, -, read⟩ := bind_eq_ok read
      obtain ⟨others, -, same⟩ := bind_eq_ok read
      exact nomatch same
    | cons permission permissions => exact again
  · exact nomatch read

/-! ## Selection -/

/-- The date and the fetch time of a snapshot, in the order in which they decide. -/
def stamp (row : Snapshot) : String ×ₗ String := toLex (row.statisticsDate, row.fetchedAt)

theorem isNewer_iff {candidate current : Snapshot} : isNewer candidate current ↔ stamp current < stamp candidate := by
  unfold isNewer stamp
  rw [Prod.Lex.toLex_lt_toLex, @eq_comm _ candidate.statisticsDate]

def skuKey (row : Snapshot) : String × String := (row.storeCode, row.skuCode)

def found (byStore : OrderedMap String BySku) (key : String × String) : Option Snapshot :=
  (byStore.get? key.1).bind (·.get? key.2)

variable (byStore : OrderedMap String BySku)

theorem found_getD (key : String × String) : ((byStore.get? key.1).getD .empty).get? key.2 = found byStore key := by
  unfold found
  cases byStore.get? key.1 <;> rfl

theorem found_selectSnapshot (row : Snapshot) (key : String × String) : found (selectSnapshot byStore row) key =
      if skuKey row = key then match found byStore key with
        | some current => if stamp current < stamp row then some row else some current
        | none => some row
      else found byStore key := by
  obtain ⟨store, sku⟩ := key
  have before := found_getD byStore (row.storeCode, row.skuCode)
  by_cases sameStore : row.storeCode = store
  · subst sameStore
    have other := found_getD byStore (row.storeCode, sku)
    rw [found, selectSnapshot]
    dsimp only at before other ⊢
    rw [OrderedMap.get?_set, if_pos rfl, Option.bind_some, before]
    by_cases sameSku : row.skuCode = sku
    · subst sameSku
      rw [skuKey, if_pos rfl]
      cases here : found byStore (row.storeCode, row.skuCode) with
      | none => simp only [OrderedMap.get?_set, if_pos]
      | some current =>
        dsimp only
        by_cases newer : isNewer row current
        · rw [if_pos newer, if_pos (isNewer_iff.mp newer), OrderedMap.get?_set, if_pos rfl]
        · rw [if_neg newer, if_neg (isNewer_iff.not.mp newer), before, here]
    · have apart : skuKey row ≠ (row.storeCode, sku) := fun same => sameSku (congrArg Prod.snd same)
      rw [if_neg apart]
      cases found byStore (row.storeCode, row.skuCode) with
      | none => exact (OrderedMap.get?_set.trans (if_neg (Ne.symm sameSku))).trans other
      | some current =>
        dsimp only
        split
        · exact (OrderedMap.get?_set.trans (if_neg (Ne.symm sameSku))).trans other
        · exact other
  · have apart : skuKey row ≠ (store, sku) := fun same => sameStore (congrArg Prod.fst same)
    rw [if_neg apart, found, selectSnapshot]
    dsimp only
    rw [OrderedMap.get?_set, if_neg (Ne.symm sameStore)]
    rfl

/-- **The snapshot that is selected is the first of the newest ones of the SKU.** -/
theorem found_select (rows : List Snapshot) (key : String × String) :
    found (rows.foldl selectSnapshot .empty) key = (rowsOf skuKey rows key).argmax stamp := by
  induction rows using List.reverseRecOn with
  | nil => rfl
  | append_singleton rows row ih =>
    rw [List.foldl_concat, found_selectSnapshot, ih]
    unfold rowsOf
    rw [List.filter_append]
    by_cases same : skuKey row = key
    · rw [if_pos same, List.filter_singleton, decide_eq_true same, cond_true, List.argmax_concat]
      cases List.argmax stamp (rows.filter fun row => decide (skuKey row = key)) <;> rfl
    · rw [if_neg same, List.filter_singleton, decide_eq_false same, cond_false, List.append_nil]

def latestOf (rows : List Snapshot) : List Snapshot := (rows.foldl selectSnapshot .empty).values.flatMap (·.values)

/-- The snapshots are filed under their stores and SKUs. -/
def Filed (byStore : OrderedMap String BySku) : Prop := ∀ key row, found byStore key = some row → skuKey row = key

theorem filed_select (rows : List Snapshot) : Filed (rows.foldl selectSnapshot .empty) := by
  intro key row there
  rw [found_select] at there
  have mem := List.argmax_mem there
  exact of_decide_eq_true (List.mem_filter.mp mem).2

theorem mem_latestOf : row ∈ latestOf rows ↔ (rowsOf skuKey rows (skuKey row)).argmax stamp = some row := by
  have filed := filed_select rows
  unfold latestOf
  rw [← found_select, List.mem_flatMap]
  constructor
  · rintro ⟨bySku, inside, mem⟩
    obtain ⟨store, atStore⟩ := OrderedMap.mem_values_iff.mp inside
    obtain ⟨sku, atSku⟩ := OrderedMap.mem_values_iff.mp mem
    have here : found (rows.foldl selectSnapshot .empty) (store, sku) = some row :=
      Option.bind_eq_some_iff.mpr ⟨bySku, atStore, atSku⟩
    rw [filed _ _ here]
    exact here
  · intro here
    obtain ⟨bySku, atStore, atSku⟩ := Option.bind_eq_some_iff.mp here
    exact ⟨bySku, OrderedMap.mem_values_iff.mpr ⟨_, atStore⟩, OrderedMap.mem_values_iff.mpr ⟨_, atSku⟩⟩

/-- **One snapshot is selected for each SKU of a store.** -/
theorem nodup_latestOf (rows : List Snapshot) : ((latestOf rows).map skuKey).Nodup := by
  have filed := filed_select rows
  unfold latestOf OrderedMap.values
  generalize rows.foldl selectSnapshot .empty = byStore at filed
  have keyOf {store : String} {bySku : BySku} (atStore : (store, bySku) ∈ byStore.entries) {sku : String}
      {row : Snapshot} (atSku : (sku, row) ∈ bySku.entries) : skuKey row = (store, sku) :=
    filed _ _ (Option.bind_eq_some_iff.mpr
      ⟨bySku, OrderedMap.get?_eq_some_iff.mpr atStore, OrderedMap.get?_eq_some_iff.mpr atSku⟩)
  rw [List.map_flatMap, List.flatMap_map, List.nodup_flatMap]
  constructor
  · rintro ⟨store, bySku⟩ atStore
    have keys : (bySku.entries.map (·.2)).map skuKey = bySku.keys.map (store, ·) := by
      unfold OrderedMap.keys
      rw [List.map_map, List.map_map]
      apply List.map_congr_left
      rintro ⟨sku, row⟩ atSku
      exact keyOf atStore atSku
    dsimp only
    rw [keys]
    exact bySku.nodup_keys.map fun a b same => congrArg Prod.snd same
  · have apart : byStore.entries.Pairwise fun first second => first.1 ≠ second.1 := List.pairwise_map.mp byStore.nodup
    refine apart.imp_of_mem ?_
    rintro ⟨store, bySku⟩ ⟨other, bySku'⟩ atStore atOther differ key mem mem'
    obtain ⟨row, inside, rfl⟩ := List.mem_map.mp mem
    obtain ⟨row', inside', same⟩ := List.mem_map.mp mem'
    obtain ⟨⟨sku, kept⟩, atSku, rfl⟩ := List.mem_map.mp inside
    obtain ⟨⟨sku', kept'⟩, atSku', rfl⟩ := List.mem_map.mp inside'
    rw [keyOf atStore atSku, keyOf atOther atSku'] at same
    exact differ (congrArg Prod.fst same).symm

/-- A snapshot that is selected is one of the list, and none of its SKU is newer. -/
theorem newest_of_mem_latestOf {kept : Snapshot} (mem : kept ∈ latestOf rows) :
    kept ∈ rows ∧ ∀ row ∈ rows, skuKey row = skuKey kept → stamp row ≤ stamp kept := by
  have best := mem_latestOf.mp mem
  refine ⟨(List.mem_filter.mp (List.argmax_mem best)).1, ?_⟩
  intro row there same
  exact List.le_of_mem_argmax (List.mem_filter.mpr ⟨there, decide_eq_true same⟩) best

theorem exists_mem_latestOf (mem : row ∈ rows) : ∃ kept ∈ latestOf rows, skuKey kept = skuKey row := by
  have inside : row ∈ rowsOf skuKey rows (skuKey row) := List.mem_filter.mpr ⟨mem, decide_eq_true rfl⟩
  cases best : (rowsOf skuKey rows (skuKey row)).argmax stamp with
  | none => exact absurd (List.argmax_eq_none.mp best) (List.ne_nil_of_mem inside)
  | some kept =>
    have same : skuKey kept = skuKey row := of_decide_eq_true (List.mem_filter.mp (List.argmax_mem best)).2
    refine ⟨kept, mem_latestOf.mpr ?_, same⟩
    rw [same]
    exact best

/-- Two snapshots of a SKU of a store have the same date and fetch time. -/
def Ties (row other : Snapshot) : Prop := skuKey row = skuKey other ∧ stamp row = stamp other

/-- **Without ties the selection does not depend on the order of the snapshots.** -/
theorem latestOf_perm {rows rows' : List Snapshot} (perm : rows.Perm rows')
    (untied : rows.Pairwise fun row other => ¬Ties row other) : (latestOf rows).Perm (latestOf rows') := by
  have apart : ∀ row ∈ rows, ∀ other ∈ rows, Ties row other → row = other := by
    intro row mem other mem' ties
    by_contra differ
    have symmetric : Std.Symm fun row other => ¬Ties row other :=
      ⟨fun _ _ free ties => free ⟨ties.1.symm, ties.2.symm⟩⟩
    exact untied.forall mem mem' differ ties
  rw [List.perm_ext_iff_of_nodup (nodup_latestOf rows).of_map (nodup_latestOf rows').of_map]
  intro row
  rw [mem_latestOf, mem_latestOf]
  have swap {rows rows' : List Snapshot} (perm : rows.Perm rows')
      (apart : ∀ row ∈ rows, ∀ other ∈ rows, Ties row other → row = other)
      (best : (rowsOf skuKey rows (skuKey row)).argmax stamp = some row) :
      (rowsOf skuKey rows' (skuKey row)).argmax stamp = some row := by
    have here := List.argmax_mem best
    have there := (rowsOf_perm perm _).mem_iff.mp here
    cases best' : (rowsOf skuKey rows' (skuKey row)).argmax stamp with
    | none => exact absurd (List.argmax_eq_none.mp best') (List.ne_nil_of_mem there)
    | some other =>
      have mem' := List.argmax_mem best'
      have mem := (rowsOf_perm perm _).mem_iff.mpr mem'
      have same : stamp other = stamp row :=
        le_antisymm (List.le_of_mem_argmax mem best) (List.le_of_mem_argmax there best')
      have equal : other = row := by
        refine apart other (List.mem_filter.mp mem).1 row (List.mem_filter.mp here).1 ⟨?_, same⟩
        exact of_decide_eq_true (List.mem_filter.mp mem').2
      rw [equal]
  constructor
  · exact swap perm apart
  · refine swap perm.symm ?_
    intro row mem other mem'
    exact apart row (perm.mem_iff.mpr mem) other (perm.mem_iff.mpr mem')

end FullManagedBi.Dashboard
