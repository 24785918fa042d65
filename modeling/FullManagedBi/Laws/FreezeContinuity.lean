import FullManagedBi.Lib.StableText
import FullManagedBi.Webhook.FreezeContinuity

/-!
# A continued freeze

A canonical record is its own canonical record (`validateUnitShowRecord_json`), so that a recorded baseline is verified as
it was captured. The texts of records on lines are read back (`fingerprintSource_inj`), so that equal fingerprints mean
equal records.

**`assertFreezeContinuity_law`**: a later observation is accepted exactly when it lists the required units, and no other,
and each has the canonical record it had.
-/

namespace Lib

/-- The text of an object is read back, whatever follows its last bracket. -/
theorem jsonChars_obj_append_inj {as bs : List (String × Json)} (ha : (Json.obj as).Written) (hb : (Json.obj bs).Written)
    {s t : List Char} (same : jsonChars (.obj as) ++ s = jsonChars (.obj bs) ++ t) : as = bs ∧ s = t := by
  rw [jsonChars_obj, jsonChars_obj, List.cons_append, List.cons_append, List.append_assoc, List.append_assoc] at same
  refine joinComma_append_inj (f := memberText) (.inr rfl) (fun x mem y there s t hs ht equal => ?_)
    (fun x _ => ⟨'"', _, rfl, by decide⟩) (List.cons.inj same).2
  simp only [memberText, List.append_assoc, List.cons_append] at equal
  obtain ⟨name, rest⟩ := prefixFree_jsonString x.1 y.1 _ _ equal
  obtain ⟨value, behind⟩ := jsonChars_append_inj (writtenFields_iff.mp ha x mem) (writtenFields_iff.mp hb y there) hs ht
    (List.cons.inj rest).2
  exact ⟨Prod.ext name value, behind⟩

/-- As many lines are read back from their text, if each item is. -/
theorem PrefixFree.lines_inj {α : Type} {f : α → List Char} (free : PrefixFree f) {as bs : List α}
    (length : as.length = bs.length) (same : ['\n'].intercalate (as.map f) = ['\n'].intercalate (bs.map f)) : as = bs := by
  induction as generalizing bs with
  | nil => exact (List.length_eq_zero_iff.mp length.symm).symm
  | cons a as ih =>
    cases bs with
    | nil => cases length
    | cons b bs =>
      cases as with
      | nil =>
        obtain rfl := List.length_eq_zero_iff.mp (Nat.succ.inj length).symm
        simp only [List.map_cons, List.map_nil, List.intercalate_singleton] at same
        rw [free.injective same]
      | cons next as =>
        cases bs with
        | nil => cases length
        | cons other bs =>
          simp only [List.map_cons, List.intercalate_cons_cons, List.append_assoc] at same
          obtain ⟨rfl, rest⟩ := free a b _ _ same
          rw [ih (Nat.succ.inj length) (by simpa only [List.map_cons] using List.append_cancel_left rest)]

theorem mapM_eq_ok_iff {ε α β : Type} {f : α → Except ε β} {items : List α} {values : List β} :
    items.mapM f = .ok values ↔ List.Forall₂ (fun item value => f item = .ok value) items values := by
  refine ⟨forall₂_of_mapM, fun related => ?_⟩
  induction related with
  | nil => rfl
  | cons here _ ih => rw [List.mapM_cons, here, ih]; rfl

end Lib

namespace FullManagedBi.Webhook

open Lib

/-- What `toLowerCase` does to the words of a canonical record. -/
structure UnitBuiltins.KeepsWords (B : UnitBuiltins) : Prop where
  loaded : B.toLowerCase "loaded" = "loaded"
  inactive : B.toLowerCase "inactive" = "inactive"
  failed : B.toLowerCase "failed" = "failed"

def canonicalUnit (B : UnitBuiltins) (observed : List (String × Json)) (unitName : String) : Except JsError UnitRecord :=
  validateUnitShowRecord B unitName (((Json.obj observed).field? unitName).getD .null)

/-- The recorded snapshot, as `JSON.parse` returns it. -/
def FreezeBaseline.json (snapshot : FreezeBaseline) : Json := .obj [
  ("freezeFingerprint", .str snapshot.freezeFingerprint),
  ("units", .obj (snapshot.units.map fun unit => (unit.id, unit.json)))]

/-- What is hashed. -/
def fingerprintSource (locale : LocaleOrder) (units : List UnitRecord) : String :=
  let sorted := units.insertionSort fun a b => locale.localeCompare a.id b.id ≠ .gt
  String.intercalate "\n" (sorted.map fun unit => String.ofList (jsonChars unit.json))

variable {B : UnitBuiltins} {unitName : String} {record : Json} {unit : UnitRecord}

/-! ## Canonical records -/

/-- What `validateUnitShowRecord` makes sure of. -/
structure UnitRecord.Canonical (unitName : String) (unit : UnitRecord) : Prop where
  id : unit.id = unitName
  trimmed : jsTrim unitName = unitName
  activeState : unit.activeState ∈ allowedInactiveStates
  activeEnter : isDecimalString unit.activeEnterTimestampMonotonic = true ∧
    jsTrim unit.activeEnterTimestampMonotonic = unit.activeEnterTimestampMonotonic
  inactiveEnter : isDecimalString unit.inactiveEnterTimestampMonotonic = true ∧
    jsTrim unit.inactiveEnterTimestampMonotonic = unit.inactiveEnterTimestampMonotonic
  stopped : decimalValue unit.inactiveEnterTimestampMonotonic ≠ 0
  mainPid : unit.mainPid = if isService unitName then some "0" else none
  invocationId : (∃ text, unit.invocationId = some text ∧ isInvocationId text = true ∧ jsTrim text = text) ∨
    (unit.invocationId = none ∧ isService unitName = false)

theorem scalarText_trimmed {value : Option Json} {text : String} (found : scalarText value = some text) :
    jsTrim text = text := by
  unfold scalarText at found
  split at found
  · cases found
  · cases found
  · obtain rfl := Option.some.inj found
    exact jsTrim_jsTrim _

theorem timestampField_ok {upper lower message text : String}
    (read : timestampField record upper lower message = .ok text) : isDecimalString text = true ∧ jsTrim text = text := by
  unfold timestampField at read
  split at read
  · next found =>
    split at read
    · next decimal =>
      obtain rfl := Except.ok.inj read
      exact ⟨decimal, scalarText_trimmed found⟩
    · cases read
  · cases read

theorem parseSafePid_zero {rawPid : Option Json} {pid : String} (read : parseSafePid rawPid true true = .ok pid) :
    pid = "0" := by
  unfold parseSafePid at read
  split at read
  · cases read
  · next text found =>
    simp only [check_ok_iff, refuse_eq_ok] at read
    obtain ⟨-, -, zero, -, done⟩ := read
    have value : decimalValue text = 0 := by simpa using zero
    rw [value] at done
    exact (Except.ok.inj done).symm

theorem unitInvocation_ok {invocationId : Option String} (read : unitInvocation unitName record = .ok invocationId) :
    (∃ text, invocationId = some text ∧ isInvocationId text = true ∧ jsTrim text = text) ∨
      (invocationId = none ∧ isService unitName = false) := by
  unfold unitInvocation at read
  split at read
  · split_ifs at read with invocation service empty
    · exact .inl ⟨_, (Except.ok.inj read).symm, invocation, jsTrim_jsTrim _⟩
    · exact .inr ⟨(Except.ok.inj read).symm, Bool.eq_false_iff.mpr service⟩
  · split_ifs at read with service
    have other : isService unitName = false := Bool.eq_false_iff.mpr service
    split at read
    · exact .inr ⟨(Except.ok.inj read).symm, other⟩
    · next text found =>
      split_ifs at read with empty invocation
      · exact .inr ⟨(Except.ok.inj read).symm, other⟩
      · exact .inl ⟨text, (Except.ok.inj read).symm, invocation, scalarText_trimmed found⟩

theorem validateUnitShowRecord_canonical (valid : validateUnitShowRecord B unitName record = .ok unit) :
    unit.Canonical unitName := by
  unfold validateUnitShowRecord at valid
  simp only [check_ok_iff, refuse_eq_ok, not_not] at valid
  obtain ⟨-, -, id, state, valid⟩ := valid
  obtain ⟨activeEnter, active, valid⟩ := bind_eq_ok valid
  obtain ⟨inactiveEnter, inactive, valid⟩ := bind_eq_ok valid
  rw [check_ok_iff, refuse_eq_ok] at valid
  obtain ⟨stopped, valid⟩ := valid
  have trimmed : jsTrim unitName = unitName := by
    unfold trimmedField at id
    split at id
    · rw [← Option.some.inj id, jsTrim_jsTrim]
    · cases id
  have activeState : B.toLowerCase ((trimmedField record "ActiveState" "activeState").getD "") ∈ allowedInactiveStates := by
    unfold hasState at state
    split at state
    · next found =>
      rw [found]
      exact of_decide_eq_true state
    · cases state
  split_ifs at valid with service
  · obtain ⟨mainPid, pid, valid⟩ := bind_eq_ok valid
    obtain ⟨invocationId, invocation, valid⟩ := bind_eq_ok valid
    obtain rfl := Except.ok.inj valid
    obtain ⟨text, read, rfl⟩ : ∃ text, parseSafePid (unitField record "MainPID" "mainPid") true true = .ok text ∧
        some text = mainPid := by
      cases read : parseSafePid (unitField record "MainPID" "mainPid") true true with
      | error e => simp [read] at pid
      | ok text => exact ⟨text, rfl, by simpa [read] using pid⟩
    exact ⟨rfl, trimmed, activeState, timestampField_ok active, timestampField_ok inactive, stopped,
      by rw [if_pos service, parseSafePid_zero read], unitInvocation_ok invocation⟩
  · obtain ⟨mainPid, pid, valid⟩ := bind_eq_ok valid
    obtain ⟨invocationId, invocation, valid⟩ := bind_eq_ok valid
    obtain rfl := Except.ok.inj valid
    exact ⟨rfl, trimmed, activeState, timestampField_ok active, timestampField_ok inactive, stopped,
      by rw [if_neg service, ← Except.ok.inj pid], unitInvocation_ok invocation⟩

theorem jsTrim_words : jsTrim "loaded" = "loaded" ∧ jsTrim "inactive" = "inactive" ∧ jsTrim "failed" = "failed" := by
  decide

theorem parseSafePid_of_zero : parseSafePid (some (.str "0")) true true = .ok "0" := by decide

section Fields

variable (unit)

@[simp] theorem unitField_json :
    unitField unit.json "LoadState" "loadState" = some (.str "loaded") ∧
    unitField unit.json "Id" "id" = some (.str unit.id) ∧
    unitField unit.json "ActiveState" "activeState" = some (.str unit.activeState) ∧
    unitField unit.json "ActiveEnterTimestampMonotonic" "activeEnterTimestampMonotonic" =
      some (.str unit.activeEnterTimestampMonotonic) ∧
    unitField unit.json "InactiveEnterTimestampMonotonic" "inactiveEnterTimestampMonotonic" =
      some (.str unit.inactiveEnterTimestampMonotonic) ∧
    unitField unit.json "MainPID" "mainPid" = some (.ofOption unit.mainPid) ∧
    unitField unit.json "InvocationID" "invocationId" = some (.ofOption unit.invocationId) := by
  simp [unitField, UnitRecord.json, Json.field?, nullish]

end Fields

/-- **A canonical record is its own canonical record.** -/
theorem validateUnitShowRecord_json (words : B.KeepsWords) (canonical : unit.Canonical unitName) :
    validateUnitShowRecord B unitName unit.json = .ok unit := by
  obtain ⟨load, id, state, enter, leave, pid, invocation⟩ := unitField_json unit
  have lower : jsTrim unit.activeState = unit.activeState ∧ B.toLowerCase unit.activeState = unit.activeState := by
    rcases List.mem_cons.mp canonical.activeState with inactive | other
    · rw [inactive]
      exact ⟨(jsTrim_words).2.1, words.inactive⟩
    · rw [List.mem_singleton.mp other]
      exact ⟨(jsTrim_words).2.2, words.failed⟩
  have loaded : isLoaded B unit.json = true := by
    simp [isLoaded, trimmedField, load, (jsTrim_words).1, words.loaded]
  have named : trimmedField unit.json "Id" "id" = some unitName := by
    simp [trimmedField, id, canonical.id, canonical.trimmed]
  have stands : trimmedField unit.json "ActiveState" "activeState" = some unit.activeState := by
    simp [trimmedField, state, lower.1]
  have inactive : hasState B unit.json allowedInactiveStates = true := by
    simp [hasState, stands, lower.2, canonical.activeState]
  have entered (message : String) : timestampField unit.json "ActiveEnterTimestampMonotonic"
      "activeEnterTimestampMonotonic" message = .ok unit.activeEnterTimestampMonotonic := by
    simp [timestampField, enter, scalarText, Json.text, canonical.activeEnter]
  have left (message : String) : timestampField unit.json "InactiveEnterTimestampMonotonic"
      "inactiveEnterTimestampMonotonic" message = .ok unit.inactiveEnterTimestampMonotonic := by
    simp [timestampField, leave, scalarText, Json.text, canonical.inactiveEnter]
  have invoked : unitInvocation unitName unit.json = .ok unit.invocationId := by
    rcases canonical.invocationId with ⟨text, found, invocationId, trimmed⟩ | ⟨none, other⟩
    · simp [unitInvocation, invocation, found, Json.ofOption, trimmed, invocationId]
    · simp [unitInvocation, invocation, none, Json.ofOption, other, scalarText]
  have plain : isPlainObject unit.json = true := rfl
  have same : { unit with id := unitName } = unit := by rw [← canonical.id]
  unfold validateUnitShowRecord
  simp only [plain, loaded, named, inactive, entered, left, invoked, stands, pid, refuse_eq_ok, bind_eq_ok_iff,
    Except.ok.injEq, exists_eq_left', exists_const, not_true_eq_false, not_false_eq_true, true_and, canonical.stopped,
    ne_eq, Option.getD_some, lower.2]
  have mainPid := canonical.mainPid
  split_ifs at mainPid ⊢ with service
  · rw [mainPid] at same ⊢
    exact (congrArg (fun pid => some <$> pid >>= _) parseSafePid_of_zero).trans (congrArg Except.ok same)
  · rw [mainPid] at same
    exact congrArg Except.ok same

/-! ## Snapshots -/

section Snapshots

variable {fields : List (String × Json)} {snapshot : FreezeBaseline}

theorem captureFreezeBaseline_ok_iff {unitsMap : Json} : captureFreezeBaseline B unitsMap = .ok snapshot ↔
    ∃ fields, unitsMap = .obj fields ∧ (fields.map (·.1)).Perm requiredWebhookUnits ∧
      List.Forall₂ (fun unitName unit => canonicalUnit B fields unitName = .ok unit) requiredWebhookUnits snapshot.units ∧
      snapshot.freezeFingerprint = computeFingerprint B snapshot.units := by
  cases unitsMap with
  | obj fields =>
    have keys : jsSort (fields.map (·.1)) = jsSort requiredWebhookUnits ↔ (fields.map (·.1)).Perm requiredWebhookUnits :=
      ⟨fun same => (perm_jsSort _).symm.trans (same ▸ perm_jsSort _), jsSort_congr⟩
    simp only [captureFreezeBaseline, refuse_eq_ok, ne_eq, not_not, keys, bind_eq_ok_iff, mapM_eq_ok_iff, exists_const,
      Json.obj.injEq, exists_eq_left']
    refine and_congr_right fun _ => ⟨?_, ?_⟩
    · rintro ⟨units, valid, done⟩
      obtain rfl := Except.ok.inj done
      exact ⟨valid, rfl⟩
    · rintro ⟨valid, fingerprint⟩
      refine ⟨snapshot.units, valid, ?_⟩
      rw [← fingerprint]
      rfl
  | _ => simp [captureFreezeBaseline]

theorem canonical_of_related {names : List String} {units : List UnitRecord}
    (valid : List.Forall₂ (fun unitName unit => canonicalUnit B fields unitName = .ok unit) names units) :
    List.Forall₂ UnitRecord.Canonical names units ∧ units.map (·.id) = names := by
  induction valid with
  | nil => exact ⟨.nil, rfl⟩
  | cons here _ ih =>
    have canonical := validateUnitShowRecord_canonical here
    exact ⟨.cons canonical ih.1, by rw [List.map_cons, canonical.id, ih.2]⟩

/-- The records of a snapshot are found in it under their names. -/
theorem field?_units {units : List UnitRecord} (nodup : (units.map (·.id)).Nodup) (mem : unit ∈ units) :
    (Json.obj (units.map fun unit => (unit.id, unit.json))).field? unit.id = some unit.json := by
  induction units with
  | nil => cases mem
  | cons other units ih =>
    obtain ⟨fresh, nodup⟩ := List.nodup_cons.mp nodup
    simp only [Json.field?] at ih ⊢
    rw [List.map_cons, List.find?_cons]
    rcases List.mem_cons.mp mem with rfl | later
    · simp
    · have differs : other.id ≠ unit.id := fun same =>
        fresh (List.mem_map.mpr ⟨unit, later, same.symm⟩)
      rw [decide_eq_false differs]
      exact ih nodup later

/-- **A recorded snapshot is verified as it was captured.** -/
theorem captureFreezeBaseline_json (words : B.KeepsWords) {unitsMap : Json}
    (captured : captureFreezeBaseline B unitsMap = .ok snapshot) :
    captureFreezeBaseline B (.obj (snapshot.units.map fun unit => (unit.id, unit.json))) = .ok snapshot := by
  obtain ⟨fields, -, -, valid, fingerprint⟩ := (captureFreezeBaseline_ok_iff).mp captured
  obtain ⟨canonical, ids⟩ := canonical_of_related valid
  have names : (snapshot.units.map fun unit => (unit.id, unit.json)).map (·.1) = requiredWebhookUnits := by
    rw [List.map_map]
    exact ids
  refine (captureFreezeBaseline_ok_iff).mpr ⟨_, rfl, .of_eq names, ?_, fingerprint⟩
  have nodup : (snapshot.units.map (·.id)).Nodup := ids ▸ by decide
  refine List.forall₂_iff_get.mpr ⟨canonical.length_eq, fun i bound bound' => ?_⟩
  have here := (List.forall₂_iff_get.mp canonical).2 i bound bound'
  rw [canonicalUnit, ← here.id, field?_units nodup (List.get_mem _ _)]
  exact validateUnitShowRecord_json words (here.id ▸ here)

/-! ## Fingerprints -/

theorem UnitRecord.written (unit : UnitRecord) : unit.json.Written := by
  refine writtenFields_iff.mpr fun field mem => ?_
  have ofOption (text : Option String) : (Json.ofOption text).Written := by cases text <;> trivial
  simp only [List.mem_cons, List.not_mem_nil, or_false] at mem
  rcases mem with rfl | rfl | rfl | rfl | rfl | rfl | rfl
  all_goals first | trivial | exact ofOption _

theorem ofOption_injective : Function.Injective Json.ofOption := by
  intro a b same
  cases a <;> cases b <;> simp_all [Json.ofOption]

theorem prefixFree_unitRecord : PrefixFree fun unit : UnitRecord => jsonChars unit.json := by
  intro a b s t same
  obtain ⟨fields, rest⟩ := jsonChars_obj_append_inj a.written b.written same
  simp only [List.cons.injEq, Prod.mk.injEq, Json.str.injEq, true_and, and_true, ofOption_injective.eq_iff] at fields
  obtain ⟨id, state, enter, leave, pid, invocation⟩ := fields
  cases a
  cases b
  simp_all

/-- **Records of the same units with the same fingerprint source are the same.** -/
theorem fingerprintSource_inj {locale : LocaleOrder} {units others : List UnitRecord} (ids : units.map (·.id) = others.map (·.id))
    (nodup : (units.map (·.id)).Nodup) (same : fingerprintSource locale units = fingerprintSource locale others) :
    units = others := by
  have texts := congrArg String.toList same
  simp only [fingerprintSource, String.toList_intercalate, List.map_map, Function.comp_def, String.toList_ofList]
    at texts
  have sorts := prefixFree_unitRecord.lines_inj
    (by simp only [List.length_insertionSort]; simpa using congrArg List.length ids)
    texts
  have perm : units.Perm others := ((List.perm_insertionSort _ _).symm.trans (.of_eq sorts)).trans
    (List.perm_insertionSort _ _)
  have named := eq_of_perm_of_keys (perm.map fun unit => (unit.id, unit)) (by simpa [Function.comp_def] using ids)
    (by simpa [Function.comp_def] using nodup)
  simpa [Function.comp_def] using congrArg (List.map Prod.snd) named

/-! ## Orders -/

theorem field?_perm {fields others : List (String × Json)} (perm : fields.Perm others) (nodup : (fields.map (·.1)).Nodup)
    (key : String) : (Json.obj fields).field? key = (Json.obj others).field? key := by
  simp only [Json.field?]
  induction perm with
  | nil => rfl
  | cons field _ ih =>
    have later := ih (List.nodup_cons.mp nodup).2
    rw [List.find?_cons, List.find?_cons]
    split
    · rfl
    · exact later
  | swap field other rest =>
    have differ : other.1 ≠ field.1 := fun same =>
      (List.nodup_cons.mp nodup).1 (List.mem_map.mpr ⟨field, List.mem_cons_self, same.symm⟩)
    by_cases here : field.1 = key
    · have there : other.1 ≠ key := fun same => differ (same.trans here.symm)
      simp [here, there]
    · simp [List.find?_cons, here]
  | trans first _ ih ih' => rw [ih nodup, ih' ((first.map _).nodup_iff.mp nodup)]

/-- The fields of the records are the same, in any order. -/
def SameFields (record other : Json) : Prop :=
  record = other ∨ ∃ fields others, record = .obj fields ∧ other = .obj others ∧ fields.Perm others ∧
    (fields.map (·.1)).Nodup

theorem SameFields.validate_eq {record other : Json} (same : SameFields record other) :
    validateUnitShowRecord B unitName record = validateUnitShowRecord B unitName other := by
  obtain rfl | ⟨fields, others, rfl, rfl, perm, nodup⟩ := same
  · rfl
  · have equal : unitField (.obj fields) = unitField (.obj others) := by
      funext upper lower
      simp only [unitField, field?_perm perm nodup]
    unfold validateUnitShowRecord isLoaded hasState trimmedField timestampField unitInvocation
    rw [equal]
    rfl

/-- The observations list the same units with the same fields, the units and the fields of each in any order. -/
def SameStates (observed other : List (String × Json)) : Prop :=
  ∃ states, List.Forall₂ (fun a b => a.1 = b.1 ∧ SameFields a.2 b.2) observed states ∧ states.Perm other

theorem canonicalUnit_eq {observed other : List (String × Json)} (same : SameStates observed other)
    (nodup : (observed.map (·.1)).Nodup) :
    (observed.map (·.1)).Perm (other.map (·.1)) ∧ canonicalUnit B observed = canonicalUnit B other := by
  obtain ⟨states, related, perm⟩ := same
  have names : observed.map (·.1) = states.map (·.1) := by
    clear nodup perm
    induction related with
    | nil => rfl
    | cons here _ ih => rw [List.map_cons, List.map_cons, here.1, ih]
  refine ⟨names ▸ perm.map _, funext fun unitName => ?_⟩
  rw [canonicalUnit, canonicalUnit, ← field?_perm perm (names ▸ nodup)]
  clear nodup perm names
  simp only [Json.field?]
  induction related with
  | nil => rfl
  | @cons a b _ _ here _ ih =>
    rw [List.find?_cons, List.find?_cons, here.1]
    by_cases named : b.1 = unitName
    · simpa [named] using here.2.validate_eq
    · simpa [named] using ih

/-- Each required unit has in the later observation the canonical record that it has in the recorded one. -/
def Continued (B : UnitBuiltins) (recorded later : List (String × Json)) : Prop :=
  ∀ unitName ∈ requiredWebhookUnits, ∃ unit, canonicalUnit B recorded unitName = .ok unit ∧
    canonicalUnit B later unitName = .ok unit

theorem assertFreezeContinuity_iff (words : B.KeepsWords) {unitsMap later : Json}
    (captured : captureFreezeBaseline B unitsMap = .ok snapshot) :
    assertFreezeContinuity B snapshot.json later = .ok () ↔
      ∃ current, captureFreezeBaseline B later = .ok current ∧
        current.freezeFingerprint = snapshot.freezeFingerprint := by
  have found : snapshot.json.field? "freezeFingerprint" = some (.str snapshot.freezeFingerprint) ∧
      snapshot.json.field? "units" = some (.obj (snapshot.units.map fun unit => (unit.id, unit.json))) := by
    simp [FreezeBaseline.json, Json.field?]
  simp only [assertFreezeContinuity, found.1, found.2, captureFreezeBaseline_json words captured, refuse_eq_ok,
    ne_eq, not_true_eq_false, not_false_eq_true, true_and, bind_eq_ok_iff, exists_const]
  refine exists_congr fun current => and_congr_right fun _ => ?_
  split_ifs with same
  · exact iff_of_true rfl same
  · exact iff_of_false (fun none => by cases none) same

theorem continued_iff {recorded later : List (String × Json)} {units : List UnitRecord}
    (valid : List.Forall₂ (fun unitName unit => canonicalUnit B recorded unitName = .ok unit) requiredWebhookUnits units) :
    Continued B recorded later ↔
      List.Forall₂ (fun unitName unit => canonicalUnit B later unitName = .ok unit) requiredWebhookUnits units := by
  unfold Continued
  revert valid
  generalize requiredWebhookUnits = names
  intro valid
  induction valid with
  | nil => exact iff_of_true nofun .nil
  | cons here _ ih =>
    rw [List.forall_mem_cons, List.forall₂_cons, ih, here]
    simp

/-- **Freeze continuity.** With a digest that no other text shares with the recorded units, a later observation is
accepted exactly when it lists the required units and no other, each with the canonical record of the recorded
observation. The order of units and of the fields of their records does not matter. -/
theorem assertFreezeContinuity_law (words : B.KeepsWords) {recorded : List (String × Json)}
    (captured : captureFreezeBaseline B (.obj recorded) = .ok snapshot)
    (noCollision : ∀ text, B.digest.sha256Hex text = snapshot.freezeFingerprint →
      text = fingerprintSource B.locale snapshot.units) :
    (∀ later, assertFreezeContinuity B snapshot.json later = .ok () ↔
      ∃ fields, later = .obj fields ∧ (fields.map (·.1)).Perm requiredWebhookUnits ∧ Continued B recorded fields) ∧
    ∀ fields others, SameStates fields others → (fields.map (·.1)).Nodup →
      (assertFreezeContinuity B snapshot.json (.obj fields) = .ok () ↔
        assertFreezeContinuity B snapshot.json (.obj others) = .ok ()) := by
  obtain ⟨fields, same, -, valid, fingerprint⟩ := (captureFreezeBaseline_ok_iff).mp captured
  obtain rfl := Json.obj.inj same
  have accepted (later : Json) : assertFreezeContinuity B snapshot.json later = .ok () ↔
      ∃ fields, later = .obj fields ∧ (fields.map (·.1)).Perm requiredWebhookUnits ∧ Continued B recorded fields := by
    rw [assertFreezeContinuity_iff words captured]
    constructor
    · rintro ⟨current, read, same⟩
      obtain ⟨fields, rfl, units, still, hashed⟩ := (captureFreezeBaseline_ok_iff).mp read
      have source : fingerprintSource B.locale current.units = fingerprintSource B.locale snapshot.units :=
        noCollision _ (hashed.symm.trans same)
      have ids := (canonical_of_related still).2
      have equal : current.units = snapshot.units :=
        fingerprintSource_inj (ids.trans (canonical_of_related valid).2.symm) (ids ▸ by decide) source
      exact ⟨fields, rfl, units, (continued_iff valid).mpr (equal ▸ still)⟩
    · rintro ⟨fields, rfl, units, continued⟩
      exact ⟨snapshot, (captureFreezeBaseline_ok_iff).mpr
        ⟨fields, rfl, units, (continued_iff valid).mp continued, fingerprint⟩, rfl⟩
  refine ⟨accepted, fun fields others same nodup => ?_⟩
  obtain ⟨names, canonical⟩ := canonicalUnit_eq (B := B) same nodup
  simp only [accepted, Json.obj.injEq, exists_eq_left', Continued, canonical]
  exact and_congr_left' ⟨names.symm.trans, names.trans⟩

end Snapshots

/-! ## An observation -/

def frozenState (name kind pid : String) : String × Json := (name, .obj [("LoadState", .str "loaded"), ("Id", .str name),
  ("ActiveState", .str kind), ("ActiveEnterTimestampMonotonic", .str "100"),
  ("InactiveEnterTimestampMonotonic", .str "250"), ("MainPID", .str pid),
  ("InvocationID", .str "0123456789abcdef0123456789abcdef")])

def frozenStates : List (String × Json) := requiredWebhookUnits.map (frozenState · "inactive" "0")

def frozenRecord (name : String) : UnitRecord where
  id := name
  activeState := "inactive"
  activeEnterTimestampMonotonic := "100"
  inactiveEnterTimestampMonotonic := "250"
  mainPid := if isService name then some "0" else none
  invocationId := some "0123456789abcdef0123456789abcdef"

/-- A digest that no other text shares with the source. -/
def digestOfSource (source : String) : Digest where
  sha256Hex text := String.ofList (List.replicate 64 (if text = source then 'a' else 'b'))
  isSha256Hex_sha256Hex text := by split <;> exact isSha256Hex_replicate (by decide)

def frozenSource : String := fingerprintSource ⟨compare, String.instTransOrd⟩ (requiredWebhookUnits.map frozenRecord)

def frozenBuiltins : UnitBuiltins where
  toLowerCase text := String.ofList (text.toList.map Char.toLower)
  locale := ⟨compare, String.instTransOrd⟩
  digest := digestOfSource frozenSource

def frozenSnapshot : FreezeBaseline where
  freezeFingerprint := (digestOfSource frozenSource).sha256Hex frozenSource
  units := requiredWebhookUnits.map frozenRecord

theorem keepsWords_frozen : frozenBuiltins.KeepsWords := ⟨by decide, by decide, by decide⟩

theorem map_frozenStates : frozenStates.map (·.1) = requiredWebhookUnits := rfl

theorem validate_frozen : ∀ unitName ∈ requiredWebhookUnits,
    validateUnitShowRecord frozenBuiltins unitName (frozenState unitName "inactive" "0").2 = .ok (frozenRecord unitName) := by
  simp only [requiredWebhookUnits, List.forall_mem_cons, List.not_mem_nil, false_imp_iff, implies_true, and_true]
  exact ⟨rfl, rfl, rfl, rfl, rfl⟩

theorem field?_frozenStates : ∀ unitName ∈ requiredWebhookUnits,
    (Json.obj frozenStates).field? unitName = some (frozenState unitName "inactive" "0").2 := by
  simp only [requiredWebhookUnits, List.forall_mem_cons, List.not_mem_nil, false_imp_iff, implies_true, and_true]
  exact ⟨rfl, rfl, rfl, rfl, rfl⟩

theorem continued_frozen {later : List (String × Json)} (found : ∀ unitName ∈ requiredWebhookUnits,
    (Json.obj later).field? unitName = some (frozenState unitName "inactive" "0").2) :
    Continued frozenBuiltins frozenStates later := by
  intro unitName mem
  refine ⟨frozenRecord unitName, ?_, ?_⟩
  · rw [canonicalUnit, field?_frozenStates unitName mem]
    exact validate_frozen unitName mem
  · rw [canonicalUnit, found unitName mem]
    exact validate_frozen unitName mem

theorem captured_frozen : captureFreezeBaseline frozenBuiltins (.obj frozenStates) = .ok frozenSnapshot := by
  refine (captureFreezeBaseline_ok_iff).mpr ⟨_, rfl, .of_eq map_frozenStates, ?_, rfl⟩
  refine List.forall₂_map_right_iff.mpr (List.forall₂_same.mpr fun unitName mem => ?_)
  rw [canonicalUnit, field?_frozenStates unitName mem]
  exact validate_frozen unitName mem

theorem eq_frozenSource {text : String}
    (same : (digestOfSource frozenSource).sha256Hex text = (digestOfSource frozenSource).sha256Hex frozenSource) :
    text = frozenSource := by
  by_contra differs
  simp only [digestOfSource, if_neg differs, if_pos] at same
  exact absurd same (by decide)

/-- The units are listed the other way round. -/
theorem assertFreezeContinuity_frozen :
    assertFreezeContinuity frozenBuiltins frozenSnapshot.json (.obj frozenStates.reverse) = .ok () := by
  refine ((assertFreezeContinuity_law keepsWords_frozen captured_frozen fun _ => eq_frozenSource).1 _).mpr
    ⟨_, rfl, ?_, continued_frozen fun unitName mem => ?_⟩
  · rw [List.map_reverse, map_frozenStates]
    exact List.reverse_perm _
  · rw [field?_perm (List.reverse_perm _) (by decide), field?_frozenStates unitName mem]

/-- With a unit beside the required ones the observation is refused, though each required unit has its record. -/
theorem unlisted_unit_refused :
    let unlisted := frozenState "shein-fm-webhook-metrics.service" "active" "71"
    frozenBuiltins.KeepsWords ∧ captureFreezeBaseline frozenBuiltins (.obj frozenStates) = .ok frozenSnapshot ∧
    (∀ text, frozenBuiltins.digest.sha256Hex text = frozenSnapshot.freezeFingerprint →
      text = fingerprintSource frozenBuiltins.locale frozenSnapshot.units) ∧
    Continued frozenBuiltins frozenStates (unlisted :: frozenStates) ∧
    assertFreezeContinuity frozenBuiltins frozenSnapshot.json (.obj (unlisted :: frozenStates)) ≠ .ok () := by
  intro unlisted
  refine ⟨keepsWords_frozen, captured_frozen, fun _ => eq_frozenSource, continued_frozen fun unitName mem => ?_, ?_⟩
  · rw [← field?_frozenStates unitName mem]
    have other : unlisted.1 ≠ unitName := fun same => absurd (same ▸ mem) (by decide)
    simp [Json.field?, other]
  · rw [Ne, assertFreezeContinuity_iff keepsWords_frozen captured_frozen]
    rintro ⟨current, read, -⟩
    obtain ⟨fields, same, units, -⟩ := (captureFreezeBaseline_ok_iff).mp read
    obtain rfl := Json.obj.inj same
    exact absurd units.length_eq (by decide)

end FullManagedBi.Webhook
