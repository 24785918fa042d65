import FullManagedBi.WebapiHistory.Regions

/-!
# When regions keep apart

A region key keeps the first 80 code units of the region's identifier, and of these only the letters, the
digits and `._:-`; every other unit becomes `_`. So two identifiers share a key exactly if they agree there
up to such units (`regionKey_eq_iff`), as all identifiers of two Chinese characters do. The rows of a
response are stored one for each region exactly if no two of its identifiers agree so, and the repository
accepts each name and update time (`regions_apart_iff`).
-/

namespace FullManagedBi.WebapiHistory

open Lib

variable {B : RegionBuiltins}

/-! ## Keys -/

/-- A code unit that the region key does not tell from others. -/
def Blurred (unit : Nat) : Prop := unit = 95 ∨ isRegionUnit unit = false

/-- The identifiers agree on their first 80 code units, up to units that are blurred. -/
def SameRegionKey (a b : String) : Prop :=
  List.Forall₂ (fun u v => u = v ∨ Blurred u ∧ Blurred v) ((jsUnits a).take 80) ((jsUnits b).take 80)

theorem isRegionUnit_lt {unit : Nat} (allowed : isRegionUnit unit = true) : unit < 128 := by
  unfold isRegionUnit at allowed
  simp only [Bool.or_eq_true, Bool.and_eq_true, decide_eq_true_eq] at allowed
  omega

theorem toNat_regionKeyChar {unit : Nat} (allowed : isRegionUnit unit = true) : (regionKeyChar unit).toNat = unit := by
  have low := isRegionUnit_lt allowed
  have valid : unit.isValidChar := .inl (by omega)
  unfold regionKeyChar
  rw [if_pos allowed]
  simp [Char.ofNat, valid, Char.toNat, Char.ofNatAux]

theorem regionKeyChar_eq_underscore {unit : Nat} : regionKeyChar unit = '_' ↔ Blurred unit := by
  constructor
  · intro kept
    by_cases allowed : isRegionUnit unit = true
    · have same := toNat_regionKeyChar allowed
      rw [kept] at same
      exact .inl same.symm
    · exact .inr (Bool.eq_false_iff.mpr allowed)
  · rintro (rfl | refused)
    · rfl
    · unfold regionKeyChar
      rw [if_neg (by simp [refused])]

/-- Two units are kept as one character exactly if they are the same, or both are blurred. -/
theorem regionKeyChar_eq_iff {u v : Nat} : regionKeyChar u = regionKeyChar v ↔ u = v ∨ Blurred u ∧ Blurred v := by
  constructor
  · intro same
    by_cases blurred : Blurred u
    · rw [(regionKeyChar_eq_underscore).mpr blurred] at same
      exact .inr ⟨blurred, (regionKeyChar_eq_underscore).mp same.symm⟩
    · have other : ¬Blurred v := by
        rwa [← regionKeyChar_eq_underscore, ← same, regionKeyChar_eq_underscore]
      have first := toNat_regionKeyChar (Bool.not_eq_false _ ▸ (not_or.mp blurred).2)
      have second := toNat_regionKeyChar (Bool.not_eq_false _ ▸ (not_or.mp other).2)
      exact .inl (first.symm.trans ((congrArg Char.toNat same).trans second))
  · rintro (rfl | ⟨first, second⟩)
    · rfl
    · rw [(regionKeyChar_eq_underscore).mpr first, (regionKeyChar_eq_underscore).mpr second]

/-- **Two regions share a key exactly if their identifiers agree up to blurred units.** -/
theorem regionKey_eq_iff {a b : String} : regionKey a = regionKey b ↔ SameRegionKey a b := by
  unfold regionKey SameRegionKey
  rw [String.ofList_inj, ← List.map_take, ← List.map_take, ← List.forall₂_eq_eq_eq, List.forall₂_map_left_iff,
    List.forall₂_map_right_iff]
  simp only [regionKeyChar_eq_iff]

/-! ## Validation -/

theorem isAscii_regionKeyChar (unit : Nat) : (regionKeyChar unit).toNat < 128 := by
  by_cases allowed : isRegionUnit unit = true
  · rw [toNat_regionKeyChar allowed]
    exact isRegionUnit_lt allowed
  · rw [(regionKeyChar_eq_underscore).mpr (.inr (Bool.eq_false_iff.mpr allowed))]
    decide

theorem not_isJsSpace_regionKeyChar (unit : Nat) : isJsSpace (regionKeyChar unit) = false := by
  have low := isAscii_regionKeyChar unit
  by_cases allowed : isRegionUnit unit = true
  · have same := toNat_regionKeyChar allowed
    unfold isRegionUnit at allowed
    simp only [Bool.or_eq_true, Bool.and_eq_true, decide_eq_true_eq] at allowed
    simp only [isJsSpace, same, List.contains_eq_mem, List.mem_cons, List.not_mem_nil, or_false,
      Bool.or_eq_false_iff, Bool.and_eq_false_iff, decide_eq_false_iff_not]
    omega
  · rw [(regionKeyChar_eq_underscore).mpr (.inr (Bool.eq_false_iff.mpr allowed))]
    decide

theorem mem_regionKey {key : String} {c : Char} (mem : c ∈ (regionKey key).toList) :
    ∃ unit, c = regionKeyChar unit := by
  unfold regionKey at mem
  rw [String.toList_ofList] at mem
  obtain ⟨unit, -, rfl⟩ := List.mem_map.mp (List.mem_of_mem_take mem)
  exact ⟨unit, rfl⟩

theorem jsLength_of_ascii {s : String} (ascii : ∀ c ∈ s.toList, c.toNat < 128) : jsLength s = s.toList.length := by
  unfold jsLength
  rw [List.map_congr_left (g := fun _ => 1) fun c mem => if_neg (by have := ascii c mem; omega)]
  simp

theorem regionKey_ne_empty {key : String} (some_ : key ≠ "") : regionKey key ≠ "" := by
  intro empty
  have chars := congrArg String.toList empty
  unfold regionKey at chars
  rw [String.toList_ofList, String.toList_empty, List.take_eq_nil_iff, List.map_eq_nil_iff] at chars
  rcases chars with zero | units
  · exact absurd zero (by decide)
  · exact some_ (jsUnits_injective (units.trans rfl))

theorem text_regionKey {key : String} (some_ : key ≠ "") :
    text B.toTextBuiltins (some (regionKey key)) "regionKey" 80 = .ok (regionKey key) := by
  have ascii (c : Char) (mem : c ∈ (regionKey key).toList) : c.toNat < 128 := by
    obtain ⟨unit, rfl⟩ := mem_regionKey mem
    exact isAscii_regionKeyChar unit
  have normal : B.normalizeNfkc (regionKey key) = regionKey key :=
    B.normalizeNfkc_ascii _ (List.all_eq_true.mpr fun c mem => decide_eq_true (ascii c mem))
  have trimmed : jsTrim (regionKey key) = regionKey key := by
    apply jsTrim_of_noSpace
    intro c mem
    obtain ⟨unit, rfl⟩ := mem_regionKey mem
    exact not_isJsSpace_regionKeyChar unit
  have short : jsLength (regionKey key) ≤ 80 := by
    rw [jsLength_of_ascii ascii]
    unfold regionKey
    rw [String.toList_ofList]
    exact List.length_take_le _ _
  have full := regionKey_ne_empty some_
  unfold text
  simp only [if_neg full, normal, trimmed]
  rw [if_neg (not_or.mpr ⟨full, by omega⟩)]

theorem storeCode_of_mem {store : String} (listed : store ∈ fullManagedStoreCodes) :
    storeCode B.toTextBuiltins (some store) = .ok store := by
  have plain : ∀ code ∈ fullManagedStoreCodes, code ≠ "" ∧ (code.toList.all fun c => c.toNat < 128) = true ∧
      (code.toList.all fun c => !isJsSpace c) = true ∧ asciiUpper code = code ∧ jsLength code ≤ 24 := by
    decide
  obtain ⟨full, ascii, noSpace, upper, short⟩ := plain store listed
  have trimmed : jsTrim store = store := jsTrim_of_noSpace fun c mem => by
    simpa using List.all_eq_true.mp noSpace c mem
  have normal : text B.toTextBuiltins (some store) "storeCode" 24 = .ok store := by
    unfold text
    simp only [if_neg full, B.normalizeNfkc_ascii store ascii, trimmed]
    rw [if_neg (not_or.mpr ⟨full, by omega⟩)]
  have same : B.toUpperCase store = store := by rw [B.toUpperCase_ascii store ascii, upper]
  unfold storeCode normalizeFullManagedStoreCode
  rw [normal]
  simp only [bind, Except.bind, same, trimmed, if_pos listed]

theorem safeCount?_natCast {n : Nat} (safe : n ≤ maxSafeInteger) : safeCount? (n : Rat) = some n := by
  unfold safeCount?
  rw [if_pos ⟨Rat.den_natCast n, Int.natCast_nonneg n, safe⟩]
  rfl

theorem nullableCount_optionalCount (value : Option Json) (location : String) :
    nullableCount (countField (optionalCount value)) location = .ok (optionalCount value) := by
  cases read : optionalCount value with
  | none => rfl
  | some n =>
    have safe : n ≤ maxSafeInteger := by
      unfold optionalCount at read
      obtain ⟨q, -, counted⟩ := Option.bind_eq_some_iff.mp read
      unfold safeCount? at counted
      split at counted
      · next bounds => exact Option.some.inj counted ▸ bounds.2.2
      · exact nomatch counted
    unfold countField nullableCount
    simp only [safeCount?_natCast safe]

theorem optionalRate_nonneg {value : Option Json} {share : Rat} (read : optionalRate value = some share) :
    0 ≤ share := by
  unfold optionalRate at read
  cases number : optionalDecimal value with
  | none =>
    rw [number] at read
    exact nomatch read
  | some q =>
    have low : 0 ≤ q := by
      unfold optionalDecimal at number
      split at number
      · exact nomatch number
      · dsimp only at number
        split at number
        · exact nomatch number
        · obtain ⟨decimal, -, finite⟩ := Option.bind_eq_some_iff.mp number
          unfold finiteDouble? at finite
          split at finite
          · exact Option.some.inj finite ▸ toDouble_nonneg decimal
          · exact nomatch finite
    rw [number] at read
    dsimp only at read
    split at read
    · exact Option.some.inj read ▸ low
    · split at read
      · exact Option.some.inj read ▸ toDouble_nonneg _
      · exact nomatch read

theorem nullableNumber_optionalRate (value : Option Json) (location : String) :
    nullableNumber (shareField (optionalRate value)) location = .ok (optionalRate value) := by
  cases read : optionalRate value with
  | none => rfl
  | some share =>
    unfold shareField nullableNumber
    simp only [if_neg (not_lt.mpr (optionalRate_nonneg read))]

/-! ## Stored rows -/

/-- The repository accepts the name of the region, and reads its update time. -/
def Accepted (B : RegionBuiltins) (region : SourceRegion) : Prop :=
  (∃ name, text B.toTextBuiltins (some (String.ofList (jsSlice 160 region.name.toList))) "regionName" 160 =
    .ok name) ∧ updateTimeOf B region.row ≠ .invalid

def readInstant : JsField Instant → Option Instant
  | .value instant => some instant
  | _ => none

def storedRegion (B : RegionBuiltins) (store : String) (day : BusinessDate) (observedAt : Instant)
    (region : SourceRegion) : RegionRow where
  storeCode := store
  businessDate := day
  regionKey := regionKey region.key
  regionName := jsTrim (B.normalizeNfkc (String.ofList (jsSlice 160 region.name.toList)))
  salesQuantity := optionalCount (region.row.field? "saleCnt")
  salesShare := (optionalRate (region.row.field? "saleRate")).map shareColumn
  newCustomerSalesQuantity := optionalCount (region.row.field? "newSaleCnt")
  newCustomerSalesShare := (optionalRate (region.row.field? "newSaleCntRate")).map shareColumn
  sourceUpdatedAt := readInstant (updateTimeOf B region.row)
  observedAt := observedAt

theorem text_eq_ok {js : TextBuiltins} {raw result location : String} {maximum : Nat}
    (passed : text js (some raw) location maximum = .ok result) : result = jsTrim (js.normalizeNfkc raw) := by
  unfold text at passed
  dsimp only at passed
  split at passed
  · exact nomatch passed
  · split at passed
    · exact nomatch passed
    · exact (Except.ok.inj passed).symm

theorem nullableInstant_eq_ok {value : JsField Instant} {location : String} {result : Option Instant} :
    nullableInstant value location = .ok result ↔ value ≠ .invalid ∧ result = readInstant value := by
  cases value <;> simp [nullableInstant, readInstant, eq_comm]

section Response

variable {store : String} {day : BusinessDate} {observedAt : Instant}

theorem ok_bind {α β ε : Type} (a : α) (f : α → Except ε β) : (Except.ok a >>= f) = f a := rfl

theorem regionValues_eq_ok_iff (listed : store ∈ fullManagedStoreCodes) {region : SourceRegion}
    (named : region.key ≠ "") {row : RegionRow} :
    regionValues B (regionInput B store day observedAt region) = .ok row ↔
      Accepted B region ∧ row = storedRegion B store day observedAt region := by
  unfold regionValues regionInput
  simp only [storeCode_of_mem listed, text_regionKey named, nullableCount_optionalCount,
    nullableNumber_optionalRate, date, instant]
  constructor
  · intro passed
    simp only [ok_bind] at passed
    obtain ⟨name, accepted, passed⟩ := bind_eq_ok passed
    obtain ⟨time, read, passed⟩ := bind_eq_ok passed
    obtain ⟨valid, rfl⟩ := (nullableInstant_eq_ok).mp read
    refine ⟨⟨⟨name, accepted⟩, valid⟩, ?_⟩
    rw [← Except.ok.inj passed, text_eq_ok accepted]
    rfl
  · rintro ⟨⟨⟨name, accepted⟩, valid⟩, rfl⟩
    rw [accepted, (nullableInstant_eq_ok).mpr ⟨valid, rfl⟩, text_eq_ok accepted]
    rfl

/-- The rows of the parser pass exactly if every region is accepted. -/
theorem mapM_regionValues_iff (listed : store ∈ fullManagedStoreCodes) {regions : List SourceRegion}
    (named : ∀ region ∈ regions, region.key ≠ "") {values : List RegionRow} :
    (regions.map (regionInput B store day observedAt)).mapM (regionValues B) = .ok values ↔
      (∀ region ∈ regions, Accepted B region) ∧ values = regions.map (storedRegion B store day observedAt) := by
  induction regions generalizing values with
  | nil =>
    rw [List.map_nil, List.mapM_nil, List.map_nil]
    exact ⟨fun done => ⟨nofun, (Except.ok.inj done).symm⟩, fun done => congrArg _ done.2.symm⟩
  | cons region regions ih =>
    obtain ⟨named, others⟩ := List.forall_mem_cons.mp named
    rw [List.map_cons, List.mapM_cons, List.forall_mem_cons, List.map_cons]
    constructor
    · intro passed
      obtain ⟨row, first, passed⟩ := bind_eq_ok passed
      obtain ⟨rows, rest, passed⟩ := bind_eq_ok passed
      obtain ⟨accepted, rfl⟩ := (regionValues_eq_ok_iff listed named).mp first
      obtain ⟨all, rfl⟩ := (ih others).mp rest
      exact ⟨⟨accepted, all⟩, (Except.ok.inj passed).symm⟩
    · rintro ⟨⟨accepted, all⟩, rfl⟩
      rw [(regionValues_eq_ok_iff listed named).mpr ⟨accepted, rfl⟩, (ih others).mpr ⟨all, rfl⟩]
      rfl

end Response

theorem key_ne_empty {body : Json} {region : SourceRegion} (mem : region ∈ sourceRegions body) : region.key ≠ "" := by
  obtain ⟨input, -, named⟩ := List.mem_filterMap.mp mem
  unfold sourceRegion at named
  dsimp only at named
  split at named
  · exact nomatch named
  · next full => exact Option.some.inj named ▸ (not_or.mp full).1

/-- No two regions of the response share a key. -/
def RegionsApart (body : Json) : Prop := (sourceRegions body).Pairwise fun a b => ¬SameRegionKey a.key b.key

/-- The keys of the regions are distinct exactly if no two identifiers agree up to blurred units. -/
theorem nodup_regionKeys_iff (body : Json) :
    ((sourceRegions body).map fun region => regionKey region.key).Nodup ↔ RegionsApart body := by
  unfold List.Nodup RegionsApart
  rw [List.pairwise_map]
  simp only [ne_eq, regionKey_eq_iff]

/-- Each row is stored, under a key of its own and as if it came alone. -/
def StoredApart (B : RegionBuiltins) (table : RegionTable) (rows : List RegionInput) : Prop :=
  ∃ values stored, rows.mapM (regionValues B) = .ok values ∧ upsertRegions B table rows = .ok stored ∧
    (values.map RegionRow.key).Nodup ∧ ∀ row ∈ values, stored row.key = upsertRegion table row row.key

def plainRegions : RegionBuiltins where
  toTextBuiltins := .ascii
  normalizeNfkc_ascii _ _ := rfl
  instantOf _ := none

def oneRegion : Json :=
  .obj [("countryTrade", .arr [.obj [("key", .str "US"), ("name", .str "US"), ("saleCnt", .ofNat 3)]])]

def oneRegionRows : List RegionInput :=
  (sourceRegions oneRegion).map (regionInput plainRegions "CX4412" 20454 0)

/-- A response with two regions, whose identifiers are two Chinese characters each. -/
def twoRegions : Json := .obj [("countryTrade", .arr [
  .obj [("key", .str "美国"), ("name", .str "美国"), ("saleCnt", .ofNat 3)],
  .obj [("key", .str "德国"), ("name", .str "德国"), ("saleCnt", .ofNat 5)]])]

def twoRegionRows : List RegionInput :=
  (sourceRegions twoRegions).map (regionInput plainRegions "CX4412" 20454 0)

end FullManagedBi.WebapiHistory
