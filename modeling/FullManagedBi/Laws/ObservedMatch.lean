import FullManagedBi.ProductIdentity.ObservedMatch

/-!
# What decides a match

The matcher adds weights in doubles, compares the sum with thresholds and counts the types of strong
evidence. What was found decides all of it:

- `roundedScore_total` — the score is the decimal sum of the weights;
- `mem_curatedIds` — the curated pairs are the curated attributes of which the sets share a value;
- `Findings.approved_gates` — every approved path passes the thresholds;
- **`evaluateObservedProductIdentityMatch_law`** — so the matcher blocks where hard attributes conflict, and
  confirms where none does and an approved path holds.
-/

namespace FullManagedBi.ProductIdentity

open Lib

variable {B : IdentityBuiltins}

/-! ## The score -/

def Findings.hundredths (found : Findings) : Nat :=
  (if found.barcodePair.isSome then 60 else 0) + (if found.officialModelMatch then 35 else 0) +
    (if found.brandPair.isSome then 10 else 0) + (if found.categoryPair.isSome then 10 else 0) +
    (if found.supplierPair.isSome then 25 else 0) + 10 * min 2 found.curated.length

def scoreOf (hundredths : Nat) : Rat := min 1 (toDouble (mkRat hundredths 100))

/-- The score before the curated attributes are added, by what was found. -/
def plainTotal (barcode model official brand category supplier : Bool) : Rat :=
  addWhen supplier matchWeights.supplierCode (addWhen category matchWeights.category
    (addWhen brand matchWeights.brand (addWhen model (if official then matchWeights.model else 0)
      (addWhen barcode matchWeights.barcode 0))))

def addTwo (score : Rat) : Rat :=
  doubleAdd (doubleAdd score matchWeights.curatedAttribute) matchWeights.curatedAttribute

theorem plainTotal_exact : ∀ barcode model official brand category supplier : Bool,
    (official = true → model = true) →
    let total := plainTotal barcode model official brand category supplier
    let hundredths := (if barcode then 60 else 0) + (if official then 35 else 0) + (if brand then 10 else 0) +
      (if category then 10 else 0) + (if supplier then 25 else 0)
    roundedScore total = scoreOf hundredths ∧
      roundedScore (doubleAdd total matchWeights.curatedAttribute) = scoreOf (hundredths + 10) ∧
      roundedScore (addTwo total) = scoreOf (hundredths + 20) ∧ doubleAdd (addTwo total) 0 = addTwo total := by
  decide +kernel

theorem foldl_curatedWeight {total : Rat} (settled : doubleAdd total 0 = total) {items : List (AttributePair × Nat)}
    (late : ∀ item ∈ items, 2 ≤ item.2) :
    items.foldl (fun score item => doubleAdd score (curatedWeight item.2)) total = total := by
  induction items with
  | nil => rfl
  | cons item items ih =>
    have weight : curatedWeight item.2 = 0 := if_neg (not_lt.mpr (late item List.mem_cons_self))
    rw [List.foldl_cons, weight, settled]
    exact ih fun other mem => late other (List.mem_cons_of_mem _ mem)

variable {score : Rat} (pairs : List AttributePair)

theorem addCurated_eq (settled : doubleAdd (addTwo score) 0 = addTwo score) :
    addCurated pairs score = match pairs.length with
      | 0 => score
      | 1 => doubleAdd score matchWeights.curatedAttribute
      | _ => addTwo score := by
  match pairs with
  | [] => rfl
  | [_] => rfl
  | _ :: _ :: rest =>
    refine foldl_curatedWeight settled fun item mem => ?_
    exact (List.mem_zipIdx mem).1

theorem Findings.official_model {found : Findings} (official : found.officialModelMatch = true) :
    found.modelPair.isSome = true := by
  unfold Findings.officialModelMatch at official
  split at official
  · rename_i pair same
    rw [same]
    rfl
  · exact nomatch official

/-- **The score is the decimal sum**, in spite of the doubles it is added up in. -/
theorem roundedScore_total (found : Findings) : roundedScore found.total = scoreOf found.hundredths := by
  obtain ⟨none, one, two, settled⟩ := plainTotal_exact found.barcodePair.isSome found.modelPair.isSome
    found.officialModelMatch found.brandPair.isSome found.categoryPair.isSome found.supplierPair.isSome
    Findings.official_model
  have total : found.total = addCurated found.curated (plainTotal found.barcodePair.isSome
      found.modelPair.isSome found.officialModelMatch found.brandPair.isSome found.categoryPair.isSome
      found.supplierPair.isSome) := rfl
  rw [total, addCurated_eq _ settled]
  unfold Findings.hundredths
  match found.curated.length with
  | 0 => exact none
  | 1 => exact one
  | n + 2 =>
    rw [min_eq_left (Nat.le_add_left 2 n)]
    exact two

theorem scoreOf_nonneg (hundredths : Nat) : 0 ≤ scoreOf hundredths :=
  le_min zero_le_one (toDouble_nonneg _)

theorem scoreOf_le_one (hundredths : Nat) : scoreOf hundredths ≤ 1 := min_le_left _ _

theorem le_scoreOf : ∀ hundredths < 161, 95 ≤ hundredths → toDouble (95 / 100) ≤ scoreOf hundredths := by
  decide +kernel

theorem Findings.length_strong (found : Findings) : (strongEvidenceOrder.filter found.strong).length =
    found.barcodePair.isSome.toNat + found.officialModelMatch.toNat + found.brandCategoryMatch.toNat +
      found.curatedGatePassed.toNat := by
  rw [← List.countP_eq_length_filter]
  have bit (p : Bool) : (if p = true then 1 else 0) = p.toNat := by cases p <;> rfl
  simp only [strongEvidenceOrder, List.countP_cons, List.countP_nil, bit]
  change 0 + found.curatedGatePassed.toNat + found.brandCategoryMatch.toNat + found.officialModelMatch.toNat +
    found.barcodePair.isSome.toNat = _
  omega

theorem Findings.approved_gates {found : Findings} (approved : found.approvedAutomaticPath = true) :
    toDouble (95 / 100) ≤ scoreOf found.hundredths ∧ 2 ≤ (strongEvidenceOrder.filter found.strong).length := by
  have few : found.hundredths < 161 := by
    unfold Findings.hundredths
    split_ifs <;> omega
  have both : found.brandCategoryMatch = true → found.brandPair.isSome = true ∧ found.categoryPair.isSome = true :=
    Bool.and_eq_true_iff.mp
  have two : found.curatedGatePassed = true → min 2 found.curated.length = 2 := fun gate =>
    min_eq_left (of_decide_eq_true gate)
  rw [found.length_strong]
  suffices enough : 95 ≤ found.hundredths ∧ 2 ≤ found.barcodePair.isSome.toNat + found.officialModelMatch.toNat +
      found.brandCategoryMatch.toNat + found.curatedGatePassed.toNat from ⟨le_scoreOf _ few enough.1, enough.2⟩
  unfold Findings.approvedAutomaticPath at approved
  unfold Findings.hundredths
  rw [Bool.or_eq_true, Bool.or_eq_true] at approved
  rcases approved with (path | path) | path
  · obtain ⟨barcode, model⟩ := Bool.and_eq_true_iff.mp path
    rw [barcode, model]
    exact ⟨by simp only [↓reduceIte]; omega, by rw [Bool.toNat_true]; omega⟩
  · obtain ⟨path, curated⟩ := Bool.and_eq_true_iff.mp path
    obtain ⟨barcode, brandCategory⟩ := Bool.and_eq_true_iff.mp path
    obtain ⟨brand, category⟩ := both brandCategory
    rw [two curated, barcode, brand, category, brandCategory, curated]
    exact ⟨by simp only [↓reduceIte]; omega, by rw [Bool.toNat_true]; omega⟩
  · obtain ⟨path, curated⟩ := Bool.and_eq_true_iff.mp path
    obtain ⟨path, supplier⟩ := Bool.and_eq_true_iff.mp path
    obtain ⟨model, brandCategory⟩ := Bool.and_eq_true_iff.mp path
    obtain ⟨brand, category⟩ := both brandCategory
    rw [two curated, model, brand, category, supplier, brandCategory, curated]
    exact ⟨by simp only [↓reduceIte]; omega, by rw [Bool.toNat_true]; omega⟩

/-! ## The decision -/

variable {conflicting approved : Bool}

theorem recommend_blocked_iff {strong : Nat} :
    (recommend conflicting approved score strong).1 = .blocked ↔ conflicting = true := by
  unfold recommend
  cases conflicting with
  | true => exact iff_of_true rfl rfl
  | false =>
    rw [if_neg Bool.false_ne_true]
    split_ifs <;> exact iff_of_false nofun nofun

/-- The gates do not change the decision where every approved path passes them. -/
theorem recommend_confirmed_iff {strong : Nat} (gates : approved = true → toDouble (95 / 100) ≤ score ∧ 2 ≤ strong) :
    (recommend conflicting approved score strong).1 = .confirmed ↔ conflicting = false ∧ approved = true := by
  unfold recommend
  cases conflicting with
  | true => exact iff_of_false nofun fun both => nomatch both.1
  | false =>
    rw [if_neg Bool.false_ne_true]
    cases approved with
    | true =>
      rw [if_pos ⟨rfl, gates rfl⟩]
      exact iff_of_true rfl ⟨rfl, rfl⟩
    | false =>
      rw [if_neg fun all => nomatch all.1]
      split_ifs <;> exact iff_of_false nofun fun both => nomatch both.2

/-! ## What two sets share -/

/-- Two members that are there have the same value. -/
def SameValue (source target : Option Member) : Prop :=
  ∃ s t, source = some s ∧ target = some t ∧ s.normalizedValue = t.normalizedValue

/-- The sets share a barcode: one of an eligible standard with a valid check digit. -/
def SharedBarcode (B : IdentityBuiltins) (source target : ObservedSet) : Prop :=
  ∃ s ∈ source.barcodes, ∃ t ∈ target.barcodes,
    (barcodeStandardIsEligible s = true ∧ isValidGtin B s.normalizedValue = true) ∧
    (barcodeStandardIsEligible t = true ∧ isValidGtin B t.normalizedValue = true) ∧
    s.normalizedValue = t.normalizedValue

def SharedOfficialModel (source target : ObservedSet) : Prop :=
  ∃ s t, source.model = some s ∧ target.model = some t ∧ s.normalizedValue = t.normalizedValue ∧
    isOfficialModel s = true ∧ isOfficialModel t = true

def SharedCurated (source target : ObservedSet) (attributeId : AttributeId) : Prop :=
  attributeId.digits ∈ curatedProductAttributeIds ∧ ∃ s ∈ source.coreAttributes, ∃ t ∈ target.coreAttributes,
    memberAttributeId s = some attributeId ∧ memberAttributeId t = some attributeId ∧
      s.normalizedValue = t.normalizedValue

/-- Both sets have values of a type of hard attributes, and not the same. -/
def Conflicting (B : IdentityBuiltins) (source target : ObservedSet) (type : HardType) : Prop :=
  hardValues B source type ≠ [] ∧ hardValues B target type ≠ [] ∧
    distinctValues (hardValues B source type) ≠ distinctValues (hardValues B target type)

theorem exactPair_eq_some {source target : Option Member} {s t : Member} : exactPair source target = some (s, t) ↔
      source = some s ∧ target = some t ∧ s.normalizedValue = t.normalizedValue := by
  unfold exactPair
  split
  · split
    · rename_i apart
      refine iff_of_false nofun fun ⟨sourceIs, targetIs, same⟩ => apart ?_
      rw [Option.some.inj sourceIs, Option.some.inj targetIs, same]
    · rename_i same
      rw [Option.some.injEq, Prod.mk.injEq, Option.some.injEq, Option.some.injEq]
      constructor
      · rintro ⟨rfl, rfl⟩
        exact ⟨rfl, rfl, not_not.mp same⟩
      · rintro ⟨rfl, rfl, -⟩
        exact ⟨rfl, rfl⟩
  · rename_i missing
    exact iff_of_false nofun fun ⟨sourceIs, targetIs, _⟩ => missing _ _ sourceIs targetIs

theorem isSome_exactPair {source target : Option Member} :
    (exactPair source target).isSome = true ↔ SameValue source target := by
  rw [Option.isSome_iff_exists]
  constructor
  · rintro ⟨⟨s, t⟩, paired⟩
    exact ⟨s, t, (exactPair_eq_some).mp paired⟩
  · rintro ⟨s, t, same⟩
    exact ⟨(s, t), (exactPair_eq_some).mpr same⟩

theorem mem_sortMembers {member : Member} {members : List Member} :
    member ∈ sortMembers B members ↔ member ∈ members := List.mem_insertionSort _

theorem mem_eligibleBarcodes {member : Member} {members : List Member} :
    member ∈ eligibleBarcodes B members ↔ member ∈ members ∧
      (barcodeStandardIsEligible member = true ∧ isValidGtin B member.normalizedValue = true) := by
  unfold eligibleBarcodes
  rw [mem_sortMembers, List.mem_filter, Bool.and_eq_true]

variable {source target : ObservedSet}

theorem isSome_matchingBarcodePair :
    (matchingBarcodePair B source.barcodes target.barcodes).isSome = true ↔ SharedBarcode B source target := by
  unfold matchingBarcodePair SharedBarcode
  simp only [List.findSome?_isSome_iff, Option.isSome_map, List.find?_isSome, decide_eq_true_eq,
    mem_eligibleBarcodes]
  constructor
  · rintro ⟨s, ⟨memS, countsS⟩, t, ⟨memT, countsT⟩, same⟩
    exact ⟨s, memS, t, memT, countsS, countsT, same.symm⟩
  · rintro ⟨s, memS, t, memT, countsS, countsT, same⟩
    exact ⟨s, ⟨memS, countsS⟩, t, ⟨memT, countsT⟩, same.symm⟩

theorem officialModelMatch_iff :
    (findings B source target).officialModelMatch = true ↔ SharedOfficialModel source target := by
  have model : (findings B source target).modelPair = exactPair source.model target.model := rfl
  unfold Findings.officialModelMatch SharedOfficialModel
  rw [model]
  cases paired : exactPair source.model target.model with
  | none =>
    refine iff_of_false nofun fun ⟨s, t, sourceIs, targetIs, same, _⟩ => ?_
    rw [(exactPair_eq_some).mpr ⟨sourceIs, targetIs, same⟩] at paired
    exact nomatch paired
  | some pair =>
    obtain ⟨s, t⟩ := pair
    obtain ⟨sourceIs, targetIs, same⟩ := (exactPair_eq_some).mp paired
    rw [Bool.and_eq_true]
    constructor
    · rintro ⟨officialS, officialT⟩
      exact ⟨s, t, sourceIs, targetIs, same, officialS, officialT⟩
    · rintro ⟨s', t', sourceIs', targetIs', -, officialS, officialT⟩
      obtain rfl := Option.mem_unique sourceIs sourceIs'
      obtain rfl := Option.mem_unique targetIs targetIs'
      exact ⟨officialS, officialT⟩

/-! ## Pairs of attributes -/

variable {sources targets : List Member} {pair : AttributePair}

theorem mem_pairLoop (mem : pair ∈ pairLoop sources targets) : pair.source ∈ sources ∧ pair.target ∈ targets ∧
      pairKey pair.target = pairKey pair.source ∧ pair.attributeId = memberAttributeId pair.source := by
  induction sources generalizing targets with
  | nil => exact nomatch mem
  | cons source sources ih =>
    have later {rest : List Member} (sub : ∀ t ∈ rest, t ∈ targets) (mem : pair ∈ pairLoop sources rest) :
        pair.source ∈ source :: sources ∧ pair.target ∈ targets ∧ pairKey pair.target = pairKey pair.source ∧
          pair.attributeId = memberAttributeId pair.source := by
      obtain ⟨inSources, inTargets, rest⟩ := ih mem
      exact ⟨List.mem_cons_of_mem _ inSources, sub _ inTargets, rest⟩
    unfold pairLoop at mem
    split at mem
    · exact later (fun _ => id) mem
    · split at mem
      · exact later (fun _ => id) mem
      · rename_i target found
        rcases List.mem_cons.mp mem with rfl | mem
        · have same := List.find?_some found
          rw [decide_eq_true_eq] at same
          exact ⟨List.mem_cons_self, List.mem_of_find?_eq_some found, same, rfl⟩
        · exact later (fun _ => List.mem_of_mem_erase) mem

theorem exists_pairLoop {s t : Member} {key : String} (memS : s ∈ sources) (memT : t ∈ targets)
    (keyS : pairKey s = some key) (keyT : pairKey t = some key) :
    ∃ pair ∈ pairLoop sources targets, pairKey pair.source = some key := by
  induction sources generalizing targets with
  | nil => exact nomatch memS
  | cons source sources ih =>
    unfold pairLoop
    split
    · rename_i none
      rcases List.mem_cons.mp memS with rfl | memS
      · unfold pairKey at keyS
        rw [none] at keyS
        exact nomatch keyS
      · exact ih memS memT
    · by_cases here : pairKey source = some key
      · have found : (targets.find? fun target => decide (pairKey target = pairKey source)).isSome := by
          rw [List.find?_isSome]
          exact ⟨t, memT, decide_eq_true (keyT.trans here.symm)⟩
        obtain ⟨target, found⟩ := Option.isSome_iff_exists.mp found
        rw [found]
        exact ⟨_, List.mem_cons_self, here⟩
      · have rest : s ∈ sources := by
          rcases List.mem_cons.mp memS with rfl | memS
          · exact absurd keyS here
          · exact memS
        split
        · exact ih rest memT
        · rename_i target found
          have other : t ≠ target := by
            rintro rfl
            have same := List.find?_some found
            rw [decide_eq_true_eq] at same
            exact here (same.symm.trans keyT)
          obtain ⟨pair, mem, same⟩ := ih rest ((List.mem_erase_of_ne other).mpr memT)
          exact ⟨pair, List.mem_cons_of_mem _ mem, same⟩

variable {attributeId : AttributeId}

theorem pairKey_attribute {a b : Member} (named : memberAttributeId a = some attributeId)
    (same : pairKey a = pairKey b) :
    memberAttributeId b = some attributeId ∧ a.normalizedValue = b.normalizedValue := by
  have digits (other : AttributeId) : '\x00' ∉ other.digits.toList := by
    have valid := other.valid
    unfold isAttributeId at valid
    rw [Bool.and_eq_true] at valid
    intro mem
    exact absurd (List.all_eq_true.mp valid.2 _ mem) (by decide)
  unfold pairKey memberFieldKey at same
  rw [named] at same
  cases other : memberAttributeId b with
  | none =>
    rw [other] at same
    cases key : b.sourceValueKey with
    | none =>
      rw [key] at same
      exact nomatch same
    | some text =>
      rw [key] at same
      have chars := congrArg String.toList (Option.some.inj same)
      simp only [String.toList_append, show "ATTRIBUTE:".toList = 'A' :: "TTRIBUTE:".toList by decide,
        show "SOURCE:".toList = 'S' :: "OURCE:".toList by decide, List.cons_append] at chars
      exact absurd (List.cons.inj chars).1 (by decide)
  | some attributeId' =>
    rw [other] at same
    have chars := congrArg String.toList (Option.some.inj same)
    simp only [String.toList_append, List.append_assoc] at chars
    have rest := List.append_cancel_left chars
    obtain ⟨first, second⟩ := append_cons_inj_of_first (digits attributeId) (digits attributeId') rest
    cases attributeId
    cases attributeId'
    obtain rfl := String.toList_inj.mp first
    exact ⟨rfl, String.toList_inj.mp second⟩

theorem pairKey_congr {a b : Member} (namedA : memberAttributeId a = some attributeId)
    (namedB : memberAttributeId b = some attributeId) (same : a.normalizedValue = b.normalizedValue) :
    pairKey a = some ("ATTRIBUTE:" ++ attributeId.digits ++ "\x00" ++ a.normalizedValue) ∧
      pairKey b = some ("ATTRIBUTE:" ++ attributeId.digits ++ "\x00" ++ a.normalizedValue) := by
  unfold pairKey memberFieldKey
  rw [namedA, namedB, same]
  exact ⟨rfl, rfl⟩

theorem mem_pairAttributes : pair ∈ pairAttributes B sources targets ↔
      pair ∈ pairLoop (sortMembers B sources) (sortMembers B targets) := List.mem_insertionSort _

theorem curated_iff : pair.curated = true ↔
    ∃ attributeId, pair.attributeId = some attributeId ∧ attributeId.digits ∈ curatedProductAttributeIds := by
  unfold AttributePair.curated
  split
  · rename_i attributeId named
    rw [List.contains_iff_mem, named]
    constructor
    · exact fun mem => ⟨attributeId, rfl, mem⟩
    · rintro ⟨_, same, mem⟩
      exact Option.some.inj same ▸ mem
  · rename_i unnamed
    refine iff_of_false nofun ?_
    rintro ⟨_, named, -⟩
    rw [unnamed] at named
    exact nomatch named

structure KeepsCurated (pairs kept : List AttributePair) : Prop where
  nodup : (kept.map (·.attributeId)).Nodup
  sound : ∀ pair ∈ kept, pair ∈ pairs ∧ pair.curated = true
  complete : ∀ pair ∈ pairs, pair.curated = true → pair.attributeId ∈ kept.map (·.attributeId)

theorem KeepsCurated.step {pairs kept : List AttributePair} (keeps : KeepsCurated pairs kept) (pair : AttributePair) :
    KeepsCurated (pairs ++ [pair]) (keepCurated kept pair) := by
  have old : ∀ p ∈ kept, p ∈ pairs ++ [pair] ∧ p.curated = true := fun p mem =>
    ⟨List.mem_append_left _ (keeps.sound p mem).1, (keeps.sound p mem).2⟩
  unfold keepCurated
  split
  · rename_i fresh
    rw [Bool.and_eq_true, Bool.not_eq_true', List.any_eq_false] at fresh
    refine ⟨?_, fun p mem => ?_, fun p mem curated => ?_⟩
    · exact nodup_map_concat keeps.nodup fun p there same => fresh.2 p there (decide_eq_true same)
    · rcases mem_concat.mp mem with mem | rfl
      · exact old p mem
      · exact ⟨List.mem_concat_self, fresh.1⟩
    · rw [List.map_append, List.map_singleton]
      rcases mem_concat.mp mem with mem | rfl
      · exact List.mem_append_left _ (keeps.complete p mem curated)
      · exact List.mem_concat_self
  · rename_i known
    refine ⟨keeps.nodup, old, fun p mem curated => ?_⟩
    rcases mem_concat.mp mem with mem | rfl
    · exact keeps.complete p mem curated
    · rw [curated, Bool.true_and, Bool.not_eq_true', Bool.not_eq_false, List.any_eq_true] at known
      obtain ⟨other, there, same⟩ := known
      exact List.mem_map.mpr ⟨other, there, of_decide_eq_true same⟩

theorem keepsCurated : KeepsCurated pairs (curatedPairs pairs) := by
  unfold curatedPairs
  induction pairs using List.reverseRecOn with
  | nil =>
    exact ⟨List.nodup_nil, fun _ mem => absurd mem List.not_mem_nil, fun _ mem _ => absurd mem List.not_mem_nil⟩
  | append_singleton pairs pair ih =>
    rw [List.foldl_append, List.foldl_cons, List.foldl_nil]
    exact ih.step pair

def Findings.curatedIds (found : Findings) : List (Option AttributeId) := found.curated.map (·.attributeId)

/-- **The curated pairs are the curated attributes of which the sets share a value.** -/
theorem mem_curatedIds {attributeId : Option AttributeId} : attributeId ∈ (findings B source target).curatedIds ↔
      ∃ shared, attributeId = some shared ∧ SharedCurated source target shared := by
  obtain ⟨-, sound, complete⟩ := keepsCurated (findings B source target).attributePairs
  constructor
  · intro mem
    obtain ⟨pair, there, rfl⟩ := List.mem_map.mp mem
    obtain ⟨inPairs, curated⟩ := sound pair there
    obtain ⟨shared, named, listed⟩ := (curated_iff).mp curated
    obtain ⟨memS, memT, keys, from_source⟩ := mem_pairLoop (mem_pairAttributes.mp inPairs)
    have source_named : memberAttributeId pair.source = some shared := from_source.symm.trans named
    obtain ⟨target_named, same⟩ := pairKey_attribute source_named keys.symm
    exact ⟨shared, named, listed, pair.source, (mem_sortMembers).mp memS, pair.target, (mem_sortMembers).mp memT,
      source_named, target_named, same⟩
  · rintro ⟨shared, rfl, listed, s, memS, t, memT, namedS, namedT, same⟩
    obtain ⟨keyS, keyT⟩ := pairKey_congr namedS namedT same
    obtain ⟨pair, mem, key⟩ := exists_pairLoop ((mem_sortMembers (B := B)).mpr memS)
      ((mem_sortMembers (B := B)).mpr memT) keyS keyT
    have named : pair.attributeId = some shared := by
      rw [(mem_pairLoop mem).2.2.2]
      exact (pairKey_attribute namedS (keyS.trans key.symm)).1
    have there := complete pair (mem_pairAttributes.mpr mem) (curated_iff.mpr ⟨shared, named, listed⟩)
    rw [named] at there
    exact there

/-- The sets share values of two curated attributes. -/
def SharedTwoCurated (source target : ObservedSet) : Prop :=
  ∃ a b, a ≠ b ∧ SharedCurated source target a ∧ SharedCurated source target b

theorem curatedGatePassed_iff :
    (findings B source target).curatedGatePassed = true ↔ SharedTwoCurated source target := by
  have nodup : (findings B source target).curatedIds.Nodup := (keepsCurated _).nodup
  have length : (findings B source target).curatedIds.length = (findings B source target).curated.length :=
    List.length_map _
  unfold Findings.curatedGatePassed
  rw [decide_eq_true_eq, ← length]
  constructor
  · intro two
    have first := List.getElem_mem (Nat.lt_of_lt_of_le Nat.zero_lt_two two)
    have second := List.getElem_mem (Nat.lt_of_lt_of_le Nat.one_lt_two two)
    obtain ⟨a, nameA, sharedA⟩ := (mem_curatedIds).mp first
    obtain ⟨b, nameB, sharedB⟩ := (mem_curatedIds).mp second
    refine ⟨a, b, fun same => ?_, sharedA, sharedB⟩
    rw [same, ← nameB] at nameA
    exact absurd (nodup.getElem_inj_iff.mp nameA) Nat.zero_ne_one
  · rintro ⟨a, b, apart, sharedA, sharedB⟩
    have memA := (mem_curatedIds (B := B)).mpr ⟨a, rfl, sharedA⟩
    have memB := (mem_curatedIds (B := B)).mpr ⟨b, rfl, sharedB⟩
    match (findings B source target).curatedIds, memA, memB with
    | [], memA, _ => exact nomatch memA
    | [_], memA, memB =>
      have same := (List.mem_singleton.mp memA).trans (List.mem_singleton.mp memB).symm
      exact absurd (Option.some.inj same) apart
    | _ :: _ :: _, _, _ => exact Nat.le_add_left 2 _

/-! ## The law of the decision -/

def SharedBrandCategory (source target : ObservedSet) : Prop :=
  SameValue source.brand target.brand ∧ SameValue source.category target.category

def ApprovedPath (B : IdentityBuiltins) (source target : ObservedSet) : Prop :=
  SharedBarcode B source target ∧ SharedOfficialModel source target ∨
  SharedBarcode B source target ∧ SharedBrandCategory source target ∧ SharedTwoCurated source target ∨
  SharedOfficialModel source target ∧ SharedBrandCategory source target ∧
    SameValue source.supplierCode target.supplierCode ∧ SharedTwoCurated source target

/-- What decides the recommendation, and the bounds of the score. -/
structure DecisionLaw (B : IdentityBuiltins) (source target : ObservedSet) (evaluation : Evaluation) : Prop where
  blocked : evaluation.recommendation = .blocked ↔ ∃ type, Conflicting B source target type
  confirmed : evaluation.recommendation = .confirmed ↔
    (¬ ∃ type, Conflicting B source target type) ∧ ApprovedPath B source target
  nonneg : 0 ≤ evaluation.score
  le_one : evaluation.score ≤ 1

theorem brandCategoryMatch_iff :
    (findings B source target).brandCategoryMatch = true ↔ SharedBrandCategory source target := by
  unfold Findings.brandCategoryMatch SharedBrandCategory
  rw [Bool.and_eq_true]
  exact and_congr isSome_exactPair isSome_exactPair

theorem approvedAutomaticPath_iff :
    (findings B source target).approvedAutomaticPath = true ↔ ApprovedPath B source target := by
  have barcode : (findings B source target).barcodePair.isSome = true ↔ SharedBarcode B source target :=
    isSome_matchingBarcodePair
  have supplier : (findings B source target).supplierPair.isSome = true ↔
      SameValue source.supplierCode target.supplierCode := isSome_exactPair
  unfold Findings.approvedAutomaticPath ApprovedPath
  simp only [Bool.or_eq_true, Bool.and_eq_true, barcode, officialModelMatch_iff, brandCategoryMatch_iff,
    curatedGatePassed_iff, supplier, and_assoc, or_assoc]

/-- A type is in conflict where both sets have values of it, and not the same. -/
theorem isSome_hardConflict {type : HardType} :
    (hardConflict B source target type).isSome = true ↔ Conflicting B source target type := by
  unfold hardConflict Conflicting
  dsimp only
  split
  · rename_i first rest firstTarget restTarget sourceIs targetIs
    rw [sourceIs, targetIs]
    split
    · rename_i same
      exact iff_of_false nofun fun conflict => conflict.2.2 same
    · rename_i apart
      exact iff_of_true rfl ⟨List.cons_ne_nil _ _, List.cons_ne_nil _ _, apart⟩
  · rename_i missing
    refine iff_of_false nofun fun conflict => ?_
    obtain ⟨a, as, sourceIs⟩ := List.exists_cons_of_ne_nil conflict.1
    obtain ⟨b, bs, targetIs⟩ := List.exists_cons_of_ne_nil conflict.2.1
    exact missing a as b bs sourceIs targetIs

theorem hardConflicts_ne_nil :
    (!(hardConflicts B source target).isEmpty) = true ↔ ∃ type, Conflicting B source target type := by
  have all (type : HardType) : type ∈ hardAttributeTypes := by cases type <;> decide
  unfold hardConflicts
  rw [Bool.not_eq_true', Bool.eq_false_iff, Ne, List.isEmpty_iff, List.filterMap_eq_nil_iff]
  simp only [not_forall, ← isSome_hardConflict, Option.isSome_iff_ne_none]
  exact ⟨fun ⟨type, _, conflict⟩ => ⟨type, conflict⟩, fun ⟨type, conflict⟩ => ⟨type, all type, conflict⟩⟩

theorem evaluateSets_law (source target : ObservedSet) :
    DecisionLaw B source target (evaluateSets B source target) where
  blocked := (recommend_blocked_iff).trans hardConflicts_ne_nil
  confirmed := by
    have gates : (findings B source target).approvedAutomaticPath = true →
        toDouble (95 / 100) ≤ roundedScore (findings B source target).total ∧
          2 ≤ (strongEvidenceOrder.filter (findings B source target).strong).length := by
      rw [roundedScore_total]
      exact Findings.approved_gates
    refine (recommend_confirmed_iff gates).trans ?_
    rw [← hardConflicts_ne_nil, approvedAutomaticPath_iff, Bool.not_eq_true]
  nonneg := (scoreOf_nonneg _).trans_eq (roundedScore_total (findings B source target)).symm
  le_one := (roundedScore_total (findings B source target)).trans_le (scoreOf_le_one _)

/-- **The matcher blocks where hard attributes conflict, and confirms where none does and one of the three
approved paths holds**: the other gates change nothing. The score lies between 0 and 1. -/
theorem evaluateObservedProductIdentityMatch_law (B : IdentityBuiltins) (sourceInput targetInput : Given SetInput)
    (source target : ObservedSet) (readSource : normalizeSet B sourceInput "source" = .ok source)
    (readTarget : normalizeSet B targetInput "target" = .ok target) :
    ∃ evaluation, evaluateObservedProductIdentityMatch B sourceInput targetInput = .ok evaluation ∧
      DecisionLaw B source target evaluation := by
  refine ⟨evaluateSets B source target, ?_, evaluateSets_law source target⟩
  unfold evaluateObservedProductIdentityMatch
  rw [readSource, readTarget]
  rfl

/-! ## Two products -/

/-- The builtins on ASCII texts, where texts compare by their code points and are their own hash. -/
def asciiIdentity : IdentityBuiltins where
  toTextBuiltins := .ascii
  localeCompare := compare
  localeCompare_trans := String.instTransOrd
  numericCompare := compare
  sha256 := id

def observation (observationId normalizedValue : String) (standard : StandardInput) : Given MemberInput :=
  .value ⟨some observationId, some normalizedValue, none, standard⟩

/-- A product with a barcode and the official model. -/
def modelInput (setId : String) : Given SetInput := .value {
  setId := some setId
  model := observation "1" "M-100" (.record (some "1000546") none none none none)
  brand := .missing
  category := .missing
  supplierCode := .missing
  barcodes := .value [observation "2" "96385074" (.text "EAN")]
  coreAttributes := .missing
  hardAttributes := .missing }

def modelSet (setId : String) : ObservedSet where
  setId := setId
  model := some ⟨"1", "M-100", none, { attributeId := some ⟨"1000546", by decide⟩ }⟩
  brand := none
  category := none
  supplierCode := none
  barcodes := [⟨"2", "96385074", none, { text := some "EAN" }⟩]
  coreAttributes := []
  hardAttributes := []

/-- Barcode and official model confirm a match. -/
theorem modelInput_confirmed : ∃ evaluation,
    evaluateObservedProductIdentityMatch asciiIdentity (modelInput "7") (modelInput "8") = .ok evaluation ∧
      DecisionLaw asciiIdentity (modelSet "7") (modelSet "8") evaluation :=
  evaluateObservedProductIdentityMatch_law asciiIdentity (modelInput "7") (modelInput "8") (modelSet "7")
    (modelSet "8") (by rfl) (by rfl)

end FullManagedBi.ProductIdentity
