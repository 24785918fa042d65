import FullManagedBi.Lib.Sorting
import FullManagedBi.Laws.ObservedMatch

/-!
# The matcher takes no side

The verdict of the matcher is its recommendation, the score, the types of strong evidence and the
components in conflict. Each depends only on what two sets share:

- `Alike.verdict` — pairs of sets that share the same have the same verdict;
- `alike_exchange`, `alike_rearranged` — exchanged sets share the same, and so do sets whose arrays came in
  another order;
- `RearrangedInput.read` — input in another order is read to sets in another order;
- **`evaluateObservedProductIdentityMatch_symmetric`** — so the verdict is the same.

The values of a hard attribute are compared as sorted by the locale, which can rank different texts as
equal. They have one order as long as an observation has one value.
-/

namespace FullManagedBi.ProductIdentity

open Lib

variable {B : IdentityBuiltins}

/-! ## What the decision depends on -/

/-- The same verdict: recommendation, score, types of strong evidence and conflicting components. -/
structure SameVerdict (a b : Evaluation) : Prop where
  recommendation : a.recommendation = b.recommendation
  score : a.score = b.score
  strong : a.strongEvidenceTypes = b.strongEvidenceTypes
  components : a.hardConflicts.map Evidence.component = b.hardConflicts.map Evidence.component

theorem SameVerdict.trans {a b c : Evaluation} (first : SameVerdict a b) (second : SameVerdict b c) :
    SameVerdict a c :=
  ⟨first.recommendation.trans second.recommendation, first.score.trans second.score,
    first.strong.trans second.strong, first.components.trans second.components⟩

/-- Two pairs of sets share the same. -/
structure Alike (B : IdentityBuiltins) (source target source' target' : ObservedSet) : Prop where
  barcode : SharedBarcode B source target ↔ SharedBarcode B source' target'
  model : SharedOfficialModel source target ↔ SharedOfficialModel source' target'
  brand : SameValue source.brand target.brand ↔ SameValue source'.brand target'.brand
  category : SameValue source.category target.category ↔ SameValue source'.category target'.category
  supplier : SameValue source.supplierCode target.supplierCode ↔
    SameValue source'.supplierCode target'.supplierCode
  curated : ∀ attributeId, SharedCurated source target attributeId ↔ SharedCurated source' target' attributeId
  conflict : ∀ type, Conflicting B source target type ↔ Conflicting B source' target' type

section Alike

variable {source target source' target' : ObservedSet}

theorem length_curatedIds (found : Findings) : found.curatedIds.length = found.curated.length :=
  List.length_map _

theorem Alike.length_curated (alike : Alike B source target source' target') :
    (findings B source target).curated.length = (findings B source' target').curated.length := by
  rw [← length_curatedIds, ← length_curatedIds]
  apply List.Perm.length_eq
  refine (List.perm_ext_iff_of_nodup (keepsCurated _).nodup (keepsCurated _).nodup).mpr fun attributeId => ?_
  refine mem_curatedIds.trans (Iff.trans ?_ mem_curatedIds.symm)
  simp only [alike.curated]

theorem component_of_hardConflict {type : HardType} {conflict : Evidence}
    (found : hardConflict B source target type = some conflict) : conflict.component = type.name := by
  unfold hardConflict at found
  dsimp only at found
  split at found
  · split at found
    · exact nomatch found
    · obtain rfl := Option.some.inj found
      rfl
  · exact nomatch found

theorem hardConflict_component (type : HardType) : (hardConflict B source target type).map Evidence.component =
      if (hardConflict B source target type).isSome then some type.name else none := by
  cases found : hardConflict B source target type with
  | none => rfl
  | some conflict => exact congrArg some (component_of_hardConflict found)

/-- **Pairs that share the same have the same verdict.** -/
theorem Alike.verdict (alike : Alike B source target source' target') :
    SameVerdict (evaluateSets B source target) (evaluateSets B source' target') := by
  have barcode : (findings B source target).barcodePair.isSome =
      (findings B source' target').barcodePair.isSome := by
    apply Bool.eq_iff_iff.mpr
    exact isSome_matchingBarcodePair.trans (alike.barcode.trans isSome_matchingBarcodePair.symm)
  have model : (findings B source target).officialModelMatch =
      (findings B source' target').officialModelMatch := by
    apply Bool.eq_iff_iff.mpr
    exact officialModelMatch_iff.trans (alike.model.trans officialModelMatch_iff.symm)
  have brand : (findings B source target).brandPair.isSome = (findings B source' target').brandPair.isSome := by
    apply Bool.eq_iff_iff.mpr
    exact isSome_exactPair.trans (alike.brand.trans isSome_exactPair.symm)
  have category : (findings B source target).categoryPair.isSome =
      (findings B source' target').categoryPair.isSome := by
    apply Bool.eq_iff_iff.mpr
    exact isSome_exactPair.trans (alike.category.trans isSome_exactPair.symm)
  have supplier : (findings B source target).supplierPair.isSome =
      (findings B source' target').supplierPair.isSome := by
    apply Bool.eq_iff_iff.mpr
    exact isSome_exactPair.trans (alike.supplier.trans isSome_exactPair.symm)
  have gate : (findings B source target).curatedGatePassed =
      (findings B source' target').curatedGatePassed := by
    unfold Findings.curatedGatePassed
    rw [alike.length_curated]
  have brandCategory : (findings B source target).brandCategoryMatch =
      (findings B source' target').brandCategoryMatch := by
    unfold Findings.brandCategoryMatch
    rw [brand, category]
  have score : roundedScore (findings B source target).total =
      roundedScore (findings B source' target').total := by
    rw [roundedScore_total, roundedScore_total]
    unfold Findings.hundredths
    rw [barcode, model, brand, category, supplier, alike.length_curated]
  have strong : (findings B source target).strong = (findings B source' target').strong := by
    funext type
    cases type <;> first | exact barcode | exact model | exact brandCategory | exact gate | rfl
  have approved : (findings B source target).approvedAutomaticPath =
      (findings B source' target').approvedAutomaticPath := by
    unfold Findings.approvedAutomaticPath
    rw [barcode, model, brandCategory, gate, supplier]
  have conflicts : (!(hardConflicts B source target).isEmpty) =
      !(hardConflicts B source' target').isEmpty := by
    refine Bool.eq_iff_iff.mpr (hardConflicts_ne_nil.trans (Iff.trans ?_ hardConflicts_ne_nil.symm))
    simp only [alike.conflict]
  refine ⟨?_, score, congrArg strongEvidenceOrder.filter strong, ?_⟩
  · unfold evaluateSets
    dsimp only
    rw [conflicts, approved, score, strong]
  · have component (type : HardType) : (hardConflict B source target type).map Evidence.component =
        (hardConflict B source' target' type).map Evidence.component := by
      have same : (hardConflict B source target type).isSome = (hardConflict B source' target' type).isSome :=
        Bool.eq_iff_iff.mpr (isSome_hardConflict.trans ((alike.conflict type).trans isSome_hardConflict.symm))
      rw [hardConflict_component, hardConflict_component, same]
    change (hardConflicts B source target).map Evidence.component =
      (hardConflicts B source' target').map Evidence.component
    unfold hardConflicts
    rw [List.map_filterMap, List.map_filterMap]
    exact List.filterMap_congr fun type _ => component type

/-! ## Exchange and rearrangement -/

theorem SameValue.symm_iff {a b : Option Member} : SameValue a b ↔ SameValue b a :=
  ⟨fun ⟨s, t, isS, isT, same⟩ => ⟨t, s, isT, isS, same.symm⟩,
    fun ⟨s, t, isS, isT, same⟩ => ⟨t, s, isT, isS, same.symm⟩⟩

theorem alike_exchange (source target : ObservedSet) : Alike B source target target source where
  barcode := by
    constructor <;>
    · rintro ⟨s, memS, t, memT, countsS, countsT, same⟩
      exact ⟨t, memT, s, memS, countsT, countsS, same.symm⟩
  model := by
    constructor <;>
    · rintro ⟨s, t, isS, isT, same, officialS, officialT⟩
      exact ⟨t, s, isT, isS, same.symm, officialT, officialS⟩
  brand := SameValue.symm_iff
  category := SameValue.symm_iff
  supplier := SameValue.symm_iff
  curated attributeId := by
    constructor <;>
    · rintro ⟨listed, s, memS, t, memT, namedS, namedT, same⟩
      exact ⟨listed, t, memT, s, memS, namedT, namedS, same.symm⟩
  conflict type := by
    constructor <;>
    · rintro ⟨first, second, apart⟩
      exact ⟨second, first, apart.symm⟩

instance stableMemberOrder_trans : Std.TransCmp (stableMemberOrder B) := by
  let order : Ord String := ⟨B.localeCompare⟩
  have trans : Std.TransOrd String := B.localeCompare_trans
  exact inferInstanceAs (Std.TransCmp
    (compareLex (compareOn Member.normalizedValue) (compareOn Member.observationId)))

instance : Std.Total fun left right : Member => (stableMemberOrder B left right).isLE = true :=
  ⟨fun left right => by
    have swapped : (stableMemberOrder B left right).isLE = (stableMemberOrder B right left).isGE :=
      Std.OrientedCmp.isGE_eq_isLE.symm
    rw [swapped]
    generalize stableMemberOrder B right left = order
    cases order <;> decide⟩

instance : IsTrans Member fun left right => (stableMemberOrder B left right).isLE = true :=
  ⟨fun _ _ _ => Std.TransCmp.isLE_trans⟩

def ObservedSet.hardMembers (set : ObservedSet) : List Member := set.category.toList ++ set.hardAttributes

def ObservedSet.OneValuePerObservation (B : IdentityBuiltins) (set : ObservedSet) : Prop :=
  ∀ a ∈ set.hardMembers, ∀ b ∈ set.hardMembers, B.localeCompare a.observationId b.observationId = .eq →
    a.normalizedValue = b.normalizedValue

/-- A set whose arrays came in another order. -/
structure Rearranged (set set' : ObservedSet) : Prop where
  model : set.model = set'.model
  brand : set.brand = set'.brand
  category : set.category = set'.category
  supplierCode : set.supplierCode = set'.supplierCode
  barcodes : set.barcodes.Perm set'.barcodes
  coreAttributes : set.coreAttributes.Perm set'.coreAttributes
  hardAttributes : set.hardAttributes.Perm set'.hardAttributes

/-- **The values of a type do not depend on the order of the hard attributes.** -/
theorem Rearranged.distinctValues {set set' : ObservedSet} (rearranged : Rearranged set set')
    (single : set.OneValuePerObservation B) (type : HardType) :
    distinctValues (hardValues B set type) = distinctValues (hardValues B set' type) := by
  have perm : ((if type = .category then set.category.toList else []) ++
      set.hardAttributes.filter fun member => decide (hardAttributeType B member = some type)).Perm
      ((if type = .category then set'.category.toList else []) ++
        set'.hardAttributes.filter fun member => decide (hardAttributeType B member = some type)) := by
    rw [rearranged.category]
    exact (rearranged.hardAttributes.filter _).append_left _
  have inside {member : Member} (mem : member ∈ (if type = .category then set.category.toList else []) ++
      set.hardAttributes.filter fun member => decide (hardAttributeType B member = some type)) :
      member ∈ set.hardMembers := by
    rcases List.mem_append.mp mem with mem | mem
    · split at mem
      · exact List.mem_append_left _ mem
      · exact nomatch mem
    · exact List.mem_append_right _ (List.mem_filter.mp mem).1
  refine congrArg List.eraseDups (map_insertionSort_congr perm fun a memA b memB le ge => ?_)
  have equal := Std.OrientedCmp.isLE_antisymm le ge
  exact single a (inside memA) b (inside memB) (Ordering.then_eq_eq.mp equal).2

theorem Rearranged.hardValues_nil {set set' : ObservedSet} (rearranged : Rearranged set set')
    (single : set.OneValuePerObservation B) (type : HardType) :
    hardValues B set type = [] ↔ hardValues B set' type = [] := by
  have nil (members : List Member) : ProductIdentity.distinctValues members = [] ↔ members = [] := by
    unfold ProductIdentity.distinctValues
    cases members with
    | nil => exact iff_of_true rfl rfl
    | cons member members =>
      rw [List.map_cons, List.eraseDups_cons]
      exact iff_of_false (List.cons_ne_nil _ _) (List.cons_ne_nil _ _)
  rw [← nil, ← nil, rearranged.distinctValues single type]

theorem alike_rearranged (sources : Rearranged source source') (targets : Rearranged target target')
    (single : source.OneValuePerObservation B) (single' : target.OneValuePerObservation B) :
    Alike B source target source' target' where
  barcode := by
    unfold SharedBarcode
    simp only [sources.barcodes.mem_iff, targets.barcodes.mem_iff]
  model := by
    unfold SharedOfficialModel
    rw [sources.model, targets.model]
  brand := by rw [sources.brand, targets.brand]
  category := by rw [sources.category, targets.category]
  supplier := by rw [sources.supplierCode, targets.supplierCode]
  curated attributeId := by
    unfold SharedCurated
    simp only [sources.coreAttributes.mem_iff, targets.coreAttributes.mem_iff]
  conflict type := by
    unfold Conflicting
    rw [Ne, sources.hardValues_nil single, Ne, targets.hardValues_nil single', sources.distinctValues single,
      targets.distinctValues single']

end Alike

/-! ## Reading the input -/

theorem normalizeObservationId_label (value : Option String) (label label' : String) :
    (normalizeObservationId value label).toOption = (normalizeObservationId value label').toOption := by
  unfold normalizeObservationId
  cases value with
  | none => rfl
  | some text =>
    dsimp only
    by_cases blank : jsTrim text = ""
    · rw [if_pos blank, if_pos blank]
      rfl
    · rw [if_neg blank, if_neg blank]

theorem requiredSetId_label (value : Option String) (label label' : String) :
    (requiredSetId value label).toOption = (requiredSetId value label').toOption := by
  unfold requiredSetId
  cases value with
  | none => rfl
  | some text =>
    dsimp only
    by_cases blank : jsTrim text = ""
    · rw [if_pos blank, if_pos blank]
      rfl
    · rw [if_neg blank, if_neg blank]

theorem toOption_bind {α β : Type} (x : Except JsError α) (f : α → Except JsError β) :
    (x >>= f).toOption = x.toOption.bind fun a => (f a).toOption := by cases x <;> rfl

theorem toOption_eq_some {α : Type} {x : Except JsError α} {a : α} : x.toOption = some a ↔ x = .ok a := by
  cases x with
  | error e => exact iff_of_false nofun nofun
  | ok b =>
    exact ⟨fun same => congrArg Except.ok (Option.some.inj same),
      fun same => congrArg some (Except.ok.inj same)⟩

theorem normalizeObservation_label (value : MemberInput) (label label' : String) :
    (normalizeObservation B value label).toOption = (normalizeObservation B value label').toOption := by
  unfold normalizeObservation
  split
  · rfl
  · rw [toOption_bind, toOption_bind, normalizeObservationId_label value.observationId label label']

theorem normalizeMember_label (value : Given MemberInput) (label label' : String) :
    (normalizeMember B value label).toOption = (normalizeMember B value label').toOption := by
  cases value with
  | missing => rfl
  | invalid => rfl
  | value observation =>
    have same := normalizeObservation_label (B := B) observation label label'
    unfold normalizeMember
    dsimp only
    cases first : normalizeObservation B observation label <;>
      cases second : normalizeObservation B observation label' <;> rw [first, second] at same
    · rfl
    · exact nomatch same
    · exact nomatch same
    · exact congrArg (fun read => (Option.map some read)) same

theorem normalizeItem_label (value : Given MemberInput) (label label' : String) :
    (normalizeItem B value label).toOption = (normalizeItem B value label').toOption := by
  cases value with
  | missing => rfl
  | invalid => rfl
  | value observation => exact normalizeObservation_label observation label label'

def readItem (B : IdentityBuiltins) (value : Given MemberInput) : Option Member :=
  (normalizeItem B value "").toOption

theorem normalizeMembers_eq_some {members : List (Given MemberInput)} {kept : List Member} {label : String} :
    (normalizeMembers B (.value members) label).toOption = some kept ↔ members.map (readItem B) = kept.map some := by
  have loop (start : Nat) (kept : List Member) : ((members.zipIdx start).mapM fun item =>
      normalizeItem B item.1 (label ++ "[" ++ toString item.2 ++ "]")) = .ok kept ↔
        members.map (readItem B) = kept.map some := by
    induction members generalizing start kept with
    | nil =>
      cases kept with
      | nil => exact iff_of_true rfl rfl
      | cons a others => exact iff_of_false (fun same => nomatch Except.ok.inj same) nofun
    | cons member members ih =>
      have here (text : String) (a : Member) :
          normalizeItem B member text = .ok a ↔ readItem B member = some a := by
        unfold readItem
        rw [normalizeItem_label member "" text, toOption_eq_some]
      rw [List.zipIdx_cons, List.mapM_cons, bind_eq_ok_iff, List.map_cons]
      constructor
      · rintro ⟨a, first, rest⟩
        obtain ⟨others, later, result⟩ := bind_eq_ok rest
        obtain rfl := Except.ok.inj result
        rw [List.map_cons, (here _ a).mp first, (ih _ _).mp later]
      · intro same
        cases kept with
        | nil => exact nomatch same
        | cons a others =>
          obtain ⟨head, tail⟩ := List.cons.inj same
          exact ⟨a, (here _ a).mpr head, bind_eq_ok_iff.mpr ⟨others, (ih _ _).mpr tail, rfl⟩⟩
  exact toOption_eq_some.trans (loop 0 kept)

/-- An array of the input in another order. -/
inductive RearrangedArray : Given (List (Given MemberInput)) → Given (List (Given MemberInput)) → Prop where
  | missing : RearrangedArray .missing .missing
  | invalid : RearrangedArray .invalid .invalid
  | value {members members' : List (Given MemberInput)} (perm : members.Perm members') :
    RearrangedArray (.value members) (.value members')

theorem RearrangedArray.refl (array : Given (List (Given MemberInput))) : RearrangedArray array array := by
  cases array with
  | missing => exact .missing
  | invalid => exact .invalid
  | value members => exact .value (List.Perm.refl members)

theorem map_some_filterMap_id {α : Type} {values : List (Option α)}
    (all : ∀ value ∈ values, value.isSome = true) : (values.filterMap id).map some = values := by
  induction values with
  | nil => rfl
  | cons value values ih =>
    obtain ⟨a, rfl⟩ := Option.isSome_iff_exists.mp (all value List.mem_cons_self)
    have rest := ih fun other mem => all other (List.mem_cons_of_mem _ mem)
    rw [List.filterMap_cons_some (f := id) rfl, List.map_cons, rest]

theorem RearrangedArray.read {array array' : Given (List (Given MemberInput))}
    (rearranged : RearrangedArray array array') {kept : List Member} {label : String} (label' : String)
    (read : normalizeMembers B array label = .ok kept) :
    ∃ kept', normalizeMembers B array' label' = .ok kept' ∧ kept.Perm kept' := by
  cases rearranged with
  | missing => exact ⟨kept, by obtain rfl := Except.ok.inj read; rfl, List.Perm.refl kept⟩
  | invalid => exact nomatch read
  | @value members members' perm =>
    have values := normalizeMembers_eq_some.mp (toOption_eq_some.mpr read)
    have moved := perm.map (readItem B)
    rw [values] at moved
    refine ⟨(members'.map (readItem B)).filterMap id,
      toOption_eq_some.mp (normalizeMembers_eq_some.mpr ?_), ?_⟩
    · refine (map_some_filterMap_id fun value mem => ?_).symm
      obtain ⟨member, -, rfl⟩ := List.mem_map.mp (moved.mem_iff.mpr mem)
      rfl
    · have kept_perm := moved.filterMap id
      rwa [List.filterMap_map, Function.id_comp, List.filterMap_some] at kept_perm

/-- A set of the input whose arrays came in another order. -/
structure RearrangedInput (input input' : SetInput) : Prop where
  setId : input.setId = input'.setId
  model : input.model = input'.model
  brand : input.brand = input'.brand
  category : input.category = input'.category
  supplierCode : input.supplierCode = input'.supplierCode
  barcodes : RearrangedArray input.barcodes input'.barcodes
  coreAttributes : RearrangedArray input.coreAttributes input'.coreAttributes
  hardAttributes : RearrangedArray input.hardAttributes input'.hardAttributes

theorem RearrangedInput.refl (input : SetInput) : RearrangedInput input input :=
  ⟨rfl, rfl, rfl, rfl, rfl, .refl _, .refl _, .refl _⟩

/-- **Rearranged input is read to a rearranged set**, under any label. -/
theorem RearrangedInput.read {input input' : SetInput} (rearranged : RearrangedInput input input')
    {set : ObservedSet} {label : String} (label' : String) (read : normalizeSet B (.value input) label = .ok set) :
    ∃ set', normalizeSet B (.value input') label' = .ok set' ∧ Rearranged set set' := by
  have member {value : Given MemberInput} {kept : Option Member} {text text' : String}
      (read : normalizeMember B value text = .ok kept) : normalizeMember B value text' = .ok kept :=
    toOption_eq_some.mp ((normalizeMember_label value text' text).trans (toOption_eq_some.mpr read))
  unfold normalizeSet at read ⊢
  dsimp only at read ⊢
  obtain ⟨setId, readId, read⟩ := bind_eq_ok read
  obtain ⟨model, readModel, read⟩ := bind_eq_ok read
  obtain ⟨brand, readBrand, read⟩ := bind_eq_ok read
  obtain ⟨category, readCategory, read⟩ := bind_eq_ok read
  obtain ⟨supplierCode, readSupplier, read⟩ := bind_eq_ok read
  obtain ⟨barcodes, readBarcodes, read⟩ := bind_eq_ok read
  obtain ⟨coreAttributes, readCore, read⟩ := bind_eq_ok read
  obtain ⟨hardAttributes, readHard, read⟩ := bind_eq_ok read
  obtain rfl := Except.ok.inj read
  obtain ⟨barcodes', readBarcodes', permBarcodes⟩ :=
    rearranged.barcodes.read (label' ++ ".barcodes") readBarcodes
  obtain ⟨coreAttributes', readCore', permCore⟩ :=
    rearranged.coreAttributes.read (label' ++ ".coreAttributes") readCore
  obtain ⟨hardAttributes', readHard', permHard⟩ :=
    rearranged.hardAttributes.read (label' ++ ".hardAttributes") readHard
  have readId' : requiredSetId input.setId label' = .ok setId :=
    toOption_eq_some.mp ((requiredSetId_label _ label' label).trans (toOption_eq_some.mpr readId))
  refine ⟨⟨setId, model, brand, category, supplierCode, barcodes', coreAttributes', hardAttributes'⟩, ?_,
    ⟨rfl, rfl, rfl, rfl, permBarcodes, permCore, permHard⟩⟩
  rw [← rearranged.setId, ← rearranged.model, ← rearranged.brand, ← rearranged.category,
    ← rearranged.supplierCode]
  rw [readId', member readModel, member readBrand, member readCategory, member readSupplier, readBarcodes',
    readCore', readHard']
  rfl

/-- **The matcher is symmetric, and blind to the order of arrays.** -/
theorem evaluateObservedProductIdentityMatch_symmetric (B : IdentityBuiltins)
    (sourceInput targetInput sourceInput' targetInput' : SetInput) (source target : ObservedSet)
    (readSource : normalizeSet B (.value sourceInput) "source" = .ok source)
    (readTarget : normalizeSet B (.value targetInput) "target" = .ok target)
    (singleSource : source.OneValuePerObservation B) (singleTarget : target.OneValuePerObservation B)
    (sources : RearrangedInput sourceInput sourceInput') (targets : RearrangedInput targetInput targetInput') :
    ∃ evaluation exchanged rearranged,
      evaluateObservedProductIdentityMatch B (.value sourceInput) (.value targetInput) = .ok evaluation ∧
      evaluateObservedProductIdentityMatch B (.value targetInput) (.value sourceInput) = .ok exchanged ∧
      evaluateObservedProductIdentityMatch B (.value sourceInput') (.value targetInput') = .ok rearranged ∧
      SameVerdict evaluation exchanged ∧ SameVerdict evaluation rearranged := by
  have run {first second : SetInput} {a b : ObservedSet}
      (readA : normalizeSet B (.value first) "source" = .ok a)
      (readB : normalizeSet B (.value second) "target" = .ok b) :
      evaluateObservedProductIdentityMatch B (.value first) (.value second) = .ok (evaluateSets B a b) := by
    unfold evaluateObservedProductIdentityMatch
    rw [readA, readB]
    rfl
  obtain ⟨source', readSource', movedSource⟩ := sources.read "source" readSource
  obtain ⟨target', readTarget', movedTarget⟩ := targets.read "target" readTarget
  -- the same sets, read in the other places
  obtain ⟨target'', readTarget'', sameTarget⟩ := (RearrangedInput.refl targetInput).read "source" readTarget
  obtain ⟨source'', readSource'', sameSource⟩ := (RearrangedInput.refl sourceInput).read "target" readSource
  refine ⟨_, _, _, run readSource readTarget, run readTarget'' readSource'', run readSource' readTarget',
    ?_, ?_⟩
  · exact (alike_exchange source target).verdict.trans
      (alike_rearranged sameTarget sameSource singleTarget singleSource).verdict
  · exact (alike_rearranged movedSource movedTarget singleSource singleTarget).verdict

/-! ## Two rearranged products -/

def voltage (observationId value : String) : Given MemberInput :=
  observation observationId value (.text "VOLTAGE")

def twoVoltages : SetInput where
  setId := some "1"
  model := .missing
  brand := .missing
  category := .missing
  supplierCode := .missing
  barcodes := .missing
  coreAttributes := .missing
  hardAttributes := .value [voltage "1" "110V", voltage "2" "220V"]

/-- The same product with its voltages in the other order. -/
def turnedVoltages : SetInput :=
  { twoVoltages with hardAttributes := .value [voltage "2" "220V", voltage "1" "110V"] }

def voltageSet : ObservedSet where
  setId := "1"
  model := none
  brand := none
  category := none
  supplierCode := none
  barcodes := []
  coreAttributes := []
  hardAttributes :=
    [⟨"1", "110V", none, { text := some "VOLTAGE" }⟩, ⟨"2", "220V", none, { text := some "VOLTAGE" }⟩]

theorem voltageSet_single : voltageSet.OneValuePerObservation asciiIdentity := by
  have checked : (voltageSet.hardMembers.all fun a => voltageSet.hardMembers.all fun b =>
      !decide (compare a.observationId b.observationId = .eq) ||
        decide (a.normalizedValue = b.normalizedValue)) = true := by decide
  intro a memA b memB equal
  have pair := List.all_eq_true.mp (List.all_eq_true.mp checked a memA) b memB
  rw [Bool.or_eq_true, Bool.not_eq_true', decide_eq_false_iff_not, decide_eq_true_eq] at pair
  exact pair.resolve_left fun other => other equal

/-- The same voltages in another order change nothing. -/
theorem turnedVoltages_symmetric : ∃ evaluation exchanged rearranged,
    evaluateObservedProductIdentityMatch asciiIdentity (.value twoVoltages) (.value twoVoltages) = .ok evaluation ∧
    evaluateObservedProductIdentityMatch asciiIdentity (.value twoVoltages) (.value twoVoltages) = .ok exchanged ∧
    evaluateObservedProductIdentityMatch asciiIdentity (.value turnedVoltages) (.value twoVoltages) = .ok rearranged ∧
    SameVerdict evaluation exchanged ∧ SameVerdict evaluation rearranged := by
  have turned : RearrangedInput twoVoltages turnedVoltages :=
    ⟨rfl, rfl, rfl, rfl, rfl, .missing, .missing, .value (List.Perm.swap _ _ _)⟩
  exact evaluateObservedProductIdentityMatch_symmetric asciiIdentity twoVoltages twoVoltages turnedVoltages
    twoVoltages voltageSet voltageSet (by rfl) (by rfl) voltageSet_single voltageSet_single turned (.refl _)

end FullManagedBi.ProductIdentity
