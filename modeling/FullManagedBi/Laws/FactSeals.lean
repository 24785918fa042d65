import FullManagedBi.Collection.TypedRow

/-!
# What the digests of a v4 fact cover

`canonicalJson` writes of each object, at every depth, the members named like a field of the object at the top. The
version token of a fact covers what is left of its allow-listed fields by that, and nothing of the nested members with
other names; the payload hash covers the entity and the token, and of the typed columns nothing at all. As each typed
column is a function of what the token covers (`typedColumns_congr`), the payload hash nevertheless tells two facts
with different columns apart. So the digests cover what they seal of two facts exactly when the records do not differ in
dropped members alone (`sealed_iff`).
-/

namespace FullManagedBi.Collection

open Lib

variable {R : RowBuiltins} {pageId : PageId} {fields other : List (String × Json)} {row otherRow : TypedRow}

/-! ## Typed columns -/

variable (keys : List String)

theorem text_project (value : Json) : (value.project keys).text = value.text := by
  have items : ∀ items : List Json, (∀ item ∈ items, (item.project keys).text = item.text) →
      itemTexts (projectItems keys items) = itemTexts items := by
    intro items
    induction items with
    | nil => exact fun _ => rfl
    | cons item items ih =>
      intro each
      have first := each item List.mem_cons_self
      have rest := ih fun x mem => each x (.tail _ mem)
      cases item with
      | null => simp only [projectItems, Json.project, itemTexts, rest]
      | bool b => simp only [projectItems, Json.project, itemTexts, rest]
      | num n => simp only [projectItems, Json.project, itemTexts, rest]
      | str s => simp only [projectItems, Json.project, itemTexts, rest]
      | arr list =>
        simp only [Json.project] at first
        simp only [projectItems, Json.project, itemTexts, rest, first]
      | obj list =>
        simp only [Json.project] at first
        simp only [projectItems, Json.project, itemTexts, rest, first]
  induction value using Json.induction_on_nested with
  | null => rfl
  | bool b => rfl
  | num n => rfl
  | str s => rfl
  | arr list ih => rw [Json.project, Json.text, Json.text, items list ih]
  | obj list ih => rfl

/-- How an array or an object is typed, of which only the text is read. -/
def coerceNested (R : RowBuiltins) (type : ColumnType) (text : String) : Except RowRefusal (Option Json) :=
  match type with
  | .hash =>
    if jsTrim text = "" then .ok none
    else if isKeyText (jsTrim text) then .ok (some (.str (R.sha256Hex "full-managed.v4.entity:" (jsTrim text))))
    else RowBuiltins.invalidValue
  | .text max => RowBuiltins.coerceText max (.str text)
  | .int =>
    match R.number text with
    | some (.int n) => if 0 ≤ n ∧ n ≤ maxSafeInteger then .ok (some (.num (.int n))) else RowBuiltins.invalidValue
    | _ => RowBuiltins.invalidValue
  | .flag =>
    match R.number text with
    | some (.int n) => if n = 0 ∨ n = 1 then .ok (some (.num (.int n))) else RowBuiltins.invalidValue
    | _ => RowBuiltins.invalidValue
  | .numeric =>
    match R.number text with
    | some n => if isNegative n then RowBuiltins.invalidValue else .ok (some (.num n))
    | none => RowBuiltins.invalidValue
  | .instant =>
    match R.dateOfText text with
    | some ms => .ok (some (.str (toIsoTimestamp ms)))
    | none => RowBuiltins.invalidValue
  | .char3 =>
    if isCurrencyCode (R.upper (jsTrim text)) then .ok (some (.str (R.upper (jsTrim text))))
    else RowBuiltins.invalidValue

variable (type : ColumnType)

theorem coerceTypedValue_arr (items : List Json) :
    R.coerceTypedValue type (.arr items) = coerceNested R type (Json.arr items).text := by
  cases type <;> rfl

theorem coerceTypedValue_obj (members : List (String × Json)) :
    R.coerceTypedValue type (.obj members) = coerceNested R type (Json.obj members).text := by
  cases type <;> rfl

/-- **A typed value does not depend on the members of objects.** -/
theorem coerceTypedValue_project (value : Json) :
    R.coerceTypedValue type (value.project keys) = R.coerceTypedValue type value := by
  have text := text_project keys value
  cases value with
  | null => rfl
  | bool b => rfl
  | num n => rfl
  | str s => rfl
  | arr items =>
    rw [Json.project] at text ⊢
    rw [coerceTypedValue_arr, coerceTypedValue_arr, text]
  | obj members =>
    rw [Json.project] at text ⊢
    rw [coerceTypedValue_obj, coerceTypedValue_obj, text]

/-! ## What a text covers -/

def keptPart (fields : List (String × Json)) : Json := (Json.obj fields).project (jsSort (fields.map (·.1)))

theorem canonicalJson_eq (fields : List (String × Json)) : canonicalJson fields = String.ofList (jsonChars (keptPart fields)) :=
  rfl

theorem field?_selectFields (fields : List (String × Json)) (key : String) :
    (Json.obj (selectFields keys fields)).field? key = if key ∈ keys then (Json.obj fields).field? key else none := by
  unfold selectFields
  induction keys with
  | nil => rfl
  | cons first keys ih =>
    simp only [Json.field?] at ih ⊢
    rw [List.filterMap_cons]
    cases found : fields.find? (fun f => decide (f.1 = first)) with
    | none =>
      simp only [Option.map_none]
      rw [ih]
      by_cases here : key = first
      · subst here
        simp [found]
      · simp [here]
    | some field =>
      simp only [Option.map_some]
      rw [List.find?_cons]
      by_cases here : first = key
      · subst here
        simp [found]
      · have elsewhere : key ≠ first := fun same => here same.symm
        simp only [here, decide_false, List.mem_cons, elsewhere, false_or]
        exact ih

theorem field?_projectFields (fields : List (String × Json)) (key : String) :
    (Json.obj (projectFields keys fields)).field? key = ((Json.obj fields).field? key).map (·.project keys) := by
  rw [projectFields_eq]
  simp only [Json.field?]
  rw [List.find?_map, Option.map_map, Option.map_map]
  rfl

theorem field?_keptPart (fields : List (String × Json)) (key : String) :
    (keptPart fields).field? key = ((Json.obj fields).field? key).map (·.project (jsSort (fields.map (·.1)))) := by
  unfold keptPart
  rw [Json.project, field?_selectFields, field?_projectFields]
  split
  · rfl
  · next missing =>
    have none : (Json.obj fields).field? key = none := by
      rw [Json.field?, Option.map_eq_none_iff, List.find?_eq_none]
      intro field mem same
      refine missing ((perm_jsSort _).mem_iff.mpr ?_)
      exact of_decide_eq_true same ▸ List.mem_map_of_mem mem
    rw [none]
    rfl

theorem field?_pickedFields {name : String} (listed : name ∈ fieldAllowlist pageId) (fields : List (String × Json)) :
    (Json.obj (pickedFields pageId fields)).field? name = (Json.obj fields).field? name := by
  unfold pickedFields
  rw [field?_selectFields, if_pos listed]

theorem source_listed {spec : ColumnSpec} (mem : spec ∈ pageId.columns) : spec.source ∈ fieldAllowlist pageId := by
  have listed : ∀ pageId : PageId, (pageId.columns.all fun spec => (fieldAllowlist pageId).contains spec.source) = true := by
    intro pageId
    cases pageId <;> decide
  have here := List.all_eq_true.mp (listed pageId) spec mem
  exact List.contains_iff_mem.mp here

variable {specs : List ColumnSpec}

theorem typedColumns_congr
    (same : ∀ spec ∈ specs, R.coerceTypedValue spec.type (((Json.obj fields).field? spec.source).getD .null) =
      R.coerceTypedValue spec.type (((Json.obj other).field? spec.source).getD .null)) :
    typedColumns R fields specs = typedColumns R other specs := by
  induction specs with
  | nil => rfl
  | cons spec specs ih =>
    rw [typedColumns, typedColumns, same spec List.mem_cons_self, ih fun later mem => same later (.tail _ mem)]

/-- **The typed columns are a function of what the version token covers.** -/
theorem typedColumns_of_keptPart
    (same : keptPart (pickedFields pageId fields) = keptPart (pickedFields pageId other)) :
    typedColumns R fields pageId.columns = typedColumns R other pageId.columns := by
  apply typedColumns_congr
  intro spec mem
  have left := field?_keptPart (pickedFields pageId fields) spec.source
  have right := field?_keptPart (pickedFields pageId other) spec.source
  rw [field?_pickedFields (source_listed mem)] at left right
  have kept := left.symm.trans ((congrArg (·.field? spec.source) same).trans right)
  cases here : (Json.obj fields).field? spec.source with
  | none =>
    rw [here, Option.map_none, eq_comm, Option.map_eq_none_iff] at kept
    rw [kept]
  | some value =>
    rw [here, Option.map_some, eq_comm, Option.map_eq_some_iff] at kept
    obtain ⟨value', there, projected⟩ := kept
    rw [there, Option.getD_some, Option.getD_some, ← coerceTypedValue_project _ spec.type value, ← projected,
      coerceTypedValue_project]

variable {typed : List (String × Json)}

/-- A typed column is one of the specification's, with what its source field was coerced to. -/
theorem mem_typedColumns (done : typedColumns R fields specs = .ok typed) : ∀ field ∈ typed, ∃ spec ∈ specs, ∃ value,
    R.coerceTypedValue spec.type (((Json.obj fields).field? spec.source).getD .null) = .ok (some value) ∧
      field = (spec.column, value) := by
  induction specs generalizing typed with
  | nil =>
    obtain rfl := Except.ok.inj done
    exact nofun
  | cons spec specs ih =>
    obtain ⟨coerced, read, done⟩ := bind_eq_ok done
    obtain ⟨rest, tail, done⟩ := bind_eq_ok done
    obtain rfl := Except.ok.inj done
    intro field mem
    rcases List.mem_append.mp mem with here | later
    · obtain ⟨value, same, rfl⟩ := Option.map_eq_some_iff.mp (Option.mem_toList.mp here)
      exact ⟨spec, List.mem_cons_self, value, same ▸ read, rfl⟩
    · obtain ⟨found, mem, rest⟩ := ih tail field later
      exact ⟨found, .tail _ mem, rest⟩

def sealNames : List String := ["entityKeyHash", "sourceVersionToken", "typed"]

theorem column_not_sealName {spec : ColumnSpec} (mem : spec ∈ pageId.columns) : spec.column ∉ sealNames := by
  have apart : ∀ pageId : PageId, (pageId.columns.all fun spec => !sealNames.contains spec.column) = true := by
    intro pageId
    cases pageId <;> decide
  have here := List.all_eq_true.mp (apart pageId) spec mem
  simpa using here

/-- **The payload hash covers no typed column**: what is left of them is an object without members. -/
theorem payloadText_eq (done : typedColumns R fields pageId.columns = .ok typed) (entityKeyHash token : String) :
    payloadText entityKeyHash token typed = "full-managed.v4.payload:" ++ String.ofList (jsonChars
      (.obj [("entityKeyHash", .str entityKeyHash), ("sourceVersionToken", .str token), ("typed", .obj [])])) := by
  have missing : selectFields sealNames (projectFields sealNames typed) = [] := by
    unfold selectFields
    rw [List.filterMap_eq_nil_iff]
    intro name mem
    rw [Option.map_eq_none_iff, List.find?_eq_none, projectFields_eq]
    intro field there same
    obtain ⟨original, listed, rfl⟩ := List.mem_map.mp there
    obtain ⟨spec, column, value, -, rfl⟩ := mem_typedColumns done original listed
    have named : spec.column = name := of_decide_eq_true same
    exact column_not_sealName column (named ▸ mem)
  have sorted : jsSort sealNames = sealNames := by decide
  unfold payloadText
  rw [canonicalJson_eq, keptPart]
  change _ ++ String.ofList (jsonChars (Json.project (jsSort sealNames) _)) = _
  rw [sorted, Json.project]
  simp only [projectFields, Json.project, missing]
  rfl

/-- The texts of two objects are equal exactly when what is left of them is. -/
theorem canonicalJson_inj (written : (Json.obj fields).Written) (others : (Json.obj other).Written) :
    canonicalJson fields = canonicalJson other ↔ keptPart fields = keptPart other := by
  rw [canonicalJson_eq, canonicalJson_eq, String.ofList_inj, jsonChars_inj]
  · exact written.project _
  · exact others.project _

theorem written_pickedFields (written : (Json.obj fields).Written) (pageId : PageId) :
    (Json.obj (pickedFields pageId fields)).Written := by
  rw [Json.Written, writtenFields_iff] at written ⊢
  exact fun field mem => written field (mem_of_mem_selectFields mem)

/-! ## Facts -/

theorem buildTypedRow_ok (built : buildTypedRow R pageId (.obj fields) = .ok row) :
    ∃ entity typed, entityText pageId fields = .ok entity ∧ typedColumns R fields pageId.columns = .ok typed ∧
      row.typed = typed ∧ row.entityKeyHash = R.digest.sha256Hex ("full-managed.v4.entity:" ++ entity) ∧
      row.sourceVersionToken = R.digest.sha256Hex (versionText pageId fields) ∧
      row.payloadHash = R.digest.sha256Hex (payloadText row.entityKeyHash row.sourceVersionToken row.typed) := by
  obtain ⟨-, -, built⟩ := bind_eq_ok built
  obtain ⟨entity, key, built⟩ := bind_eq_ok built
  obtain ⟨-, -, built⟩ := bind_eq_ok built
  obtain ⟨typed, columns, built⟩ := bind_eq_ok built
  obtain rfl := Except.ok.inj built
  exact ⟨entity, typed, key, columns, rfl, rfl, rfl, rfl⟩

def hashedTexts (pageId : PageId) (fields : List (String × Json)) (row : TypedRow) : List String :=
  ["full-managed.v4.entity:" ++ (entityText pageId fields).toOption.getD "", versionText pageId fields,
    payloadText row.entityKeyHash row.sourceVersionToken row.typed]

def NoCollision (R : RowBuiltins) (texts : List String) : Prop :=
  ∀ text ∈ texts, ∀ other ∈ texts, R.digest.sha256Hex text = R.digest.sha256Hex other → text = other

/-- The digests of two facts cover what they seal: the tokens are equal if and only if the allow-listed fields of the
records are, as data, and the payload hashes if and only if the entity, the token and the typed columns are. -/
structure Covers (pageId : PageId) (fields other : List (String × Json)) (row otherRow : TypedRow) : Prop where
  token : row.sourceVersionToken = otherRow.sourceVersionToken ↔
    (Json.obj (pickedFields pageId fields)).SameData (.obj (pickedFields pageId other))
  payload : row.payloadHash = otherRow.payloadHash ↔
    entityText pageId fields = entityText pageId other ∧ row.sourceVersionToken = otherRow.sourceVersionToken ∧
      row.typed = otherRow.typed

/-- The allow-listed fields of two records differ, but only in members of nested objects whose names are not those of
allow-listed fields of the record. -/
def DifferInDroppedOnly (pageId : PageId) (fields other : List (String × Json)) : Prop :=
  ¬(Json.obj (pickedFields pageId fields)).SameData (.obj (pickedFields pageId other)) ∧
    keptPart (pickedFields pageId fields) = keptPart (pickedFields pageId other)

theorem keptPart_of_sameData (same : (Json.obj fields).SameData (.obj other)) : keptPart fields = keptPart other := by
  -- The same names are sorted.
  have names : ∀ list : List (String × Json),
      (jsSort (list.map (·.1))) = jsSort ((sortByName (sortedFields list)).map (·.1)) := by
    intro list
    apply jsSort_congr
    have perm := (List.perm_insertionSort (fun a b : String × Json => jsUnits a.1 ≤ jsUnits b.1) (sortedFields list)).map
      (·.1)
    refine List.Perm.trans ?_ perm.symm
    rw [sortedFields_eq, List.map_map]
    exact List.Perm.refl _
  have lists : sortByName (sortedFields fields) = sortByName (sortedFields other) := Json.obj.inj (by
    rw [Json.SameData, Json.sorted, Json.sorted] at same
    exact same)
  unfold keptPart
  rw [names fields, lists, ← names other]
  exact same.project_eq _

theorem written_payload (entityKeyHash token : String) :
    (Json.obj [("entityKeyHash", .str entityKeyHash), ("sourceVersionToken", .str token), ("typed", .obj [])]).Written := by
  simp [Json.Written, WrittenFields]

theorem versionText_inj : versionText pageId fields = versionText pageId other ↔
    canonicalJson (pickedFields pageId fields) = canonicalJson (pickedFields pageId other) := by
  unfold versionText
  exact String.append_right_inj _

section Pair

variable (written : (Json.obj fields).Written) (others : (Json.obj other).Written)
  (built : buildTypedRow R pageId (.obj fields) = .ok row)
  (otherBuilt : buildTypedRow R pageId (.obj other) = .ok otherRow)
  (apart : NoCollision R (hashedTexts pageId fields row ++ hashedTexts pageId other otherRow))

include written others built otherBuilt apart

theorem token_eq_iff : row.sourceVersionToken = otherRow.sourceVersionToken ↔
    keptPart (pickedFields pageId fields) = keptPart (pickedFields pageId other) := by
  obtain ⟨-, -, -, -, -, -, token, -⟩ := buildTypedRow_ok built
  obtain ⟨-, -, -, -, -, -, otherToken, -⟩ := buildTypedRow_ok otherBuilt
  rw [← canonicalJson_inj (written_pickedFields written pageId) (written_pickedFields others pageId), token, otherToken]
  constructor
  · intro same
    have texts : versionText pageId fields = versionText pageId other :=
      apart _ (List.mem_append_left _ (.tail _ (.head _))) _ (List.mem_append_right _ (.tail _ (.head _))) same
    exact (versionText_inj).mp texts
  · intro same
    rw [(versionText_inj).mpr same]

/-- **The payload hashes are equal exactly when the entity, the token and the typed columns are.** -/
theorem payload_eq_iff : row.payloadHash = otherRow.payloadHash ↔
    entityText pageId fields = entityText pageId other ∧ row.sourceVersionToken = otherRow.sourceVersionToken ∧
      row.typed = otherRow.typed := by
  have tokens := token_eq_iff written others built otherBuilt apart
  obtain ⟨entity, typed, key, columns, rfl, hash, token, payload⟩ := buildTypedRow_ok built
  obtain ⟨otherEntity, otherTyped, otherKey, otherColumns, rfl, otherHash, otherToken, otherPayload⟩ :=
    buildTypedRow_ok otherBuilt
  constructor
  · intro same
    rw [payload, otherPayload] at same
    have texts : payloadText row.entityKeyHash row.sourceVersionToken row.typed =
        payloadText otherRow.entityKeyHash otherRow.sourceVersionToken otherRow.typed :=
      apart _ (List.mem_append_left _ (.tail _ (.tail _ (.head _)))) _
        (List.mem_append_right _ (.tail _ (.tail _ (.head _)))) same
    rw [payloadText_eq columns, payloadText_eq otherColumns, String.append_right_inj, String.ofList_inj,
      jsonChars_inj (written_payload _ _) (written_payload _ _)] at texts
    simp only [Json.obj.injEq, List.cons.injEq, Prod.mk.injEq, Json.str.injEq, true_and, and_true] at texts
    obtain ⟨hashes, tokensEqual⟩ := texts
    refine ⟨?_, tokensEqual, ?_⟩
    · rw [hash, otherHash] at hashes
      have hashed : ∀ {fields : List (String × Json)} {entity : String}, entityText pageId fields = .ok entity →
          "full-managed.v4.entity:" ++ (entityText pageId fields).toOption.getD "" = "full-managed.v4.entity:" ++ entity :=
        fun key => by rw [key]; rfl
      have entities := apart _ (List.mem_append_left _ (.head _)) _ (List.mem_append_right _ (.head _))
        (by rw [hashed key, hashed otherKey, hashes])
      rw [hashed key, hashed otherKey, String.append_right_inj] at entities
      rw [key, otherKey, entities]
    · exact Except.ok.inj (columns.symm.trans ((typedColumns_of_keptPart (tokens.mp tokensEqual)).trans otherColumns))
  · rintro ⟨entities, tokensEqual, typedEqual⟩
    obtain rfl := Except.ok.inj (key.symm.trans (entities.trans otherKey))
    rw [payload, otherPayload, tokensEqual, typedEqual, hash, otherHash]

/-- **The digests of two facts cover what they seal exactly when the records do not differ in dropped members alone.** -/
theorem covers_iff : Covers pageId fields other row otherRow ↔ ¬DifferInDroppedOnly pageId fields other := by
  have tokens := token_eq_iff written others built otherBuilt apart
  constructor
  · rintro covers ⟨differ, kept⟩
    exact differ (covers.token.mp (tokens.mpr kept))
  · intro notDropped
    refine ⟨tokens.trans ⟨fun kept => ?_, keptPart_of_sameData⟩, payload_eq_iff written others built otherBuilt apart⟩
    by_contra differ
    exact notDropped ⟨differ, kept⟩

end Pair

/-! ## Records -/

variable (R pageId fields) in
/-- The characters of the texts that are hashed, of a record with a row. -/
def hashedChars : List (List Char) :=
  let entity := "full-managed.v4.entity:" ++ (entityText pageId fields).toOption.getD ""
  let version := versionText pageId fields
  [entity.toList, version.toList, "full-managed.v4.payload:".toList ++ jsonChars
    (.obj [("entityKeyHash", .str (R.digest.sha256Hex entity)), ("sourceVersionToken", .str (R.digest.sha256Hex version)),
      ("typed", .obj [])])]

theorem hashedTexts_eq (built : buildTypedRow R pageId (.obj fields) = .ok row) :
    hashedTexts pageId fields row = (hashedChars R pageId fields).map String.ofList := by
  obtain ⟨entity, typed, key, columns, rfl, hash, token, -⟩ := buildTypedRow_ok built
  have hashed : "full-managed.v4.entity:" ++ (entityText pageId fields).toOption.getD "" =
      "full-managed.v4.entity:" ++ entity := by
    rw [key]
    rfl
  unfold hashedTexts hashedChars
  rw [payloadText_eq columns, hash, token, hashed]
  simp only [List.map_cons, List.map_nil, String.ofList_toList, String.ofList_append]

/-- A number below 13 that a text is added up to. -/
def checksum (text : String) : Nat := text.toList.foldl (fun n c => 2 * n + c.toNat) 0 % 13

def smallDigest : Digest where
  sha256Hex text := String.ofList (List.replicate 64 (hexChar (checksum text)))
  isSha256Hex_sha256Hex _ := isSha256Hex_hexChar ((Nat.mod_lt _ (by decide)).trans (show 13 < 16 by decide))

/-- Builtins for records without texts of numbers or dates. -/
def plainRowBuiltins : RowBuiltins where
  digest := smallDigest
  number _ := none
  written_number _ _ := nofun
  upper := asciiUpper
  lower text := String.ofList (text.toList.map Char.toLower)
  dateOfText _ := none
  dateOfNumber _ := none

/-- Compared as lists of characters, as evaluation reads a text in the square of its length. -/
theorem noCollision_ofList {chars : List (List Char)} (apart : ∀ text ∈ chars, ∀ other ∈ chars,
      hexChar (text.foldl (fun n c => 2 * n + c.toNat) 0 % 13) =
        hexChar (other.foldl (fun n c => 2 * n + c.toNat) 0 % 13) → text = other) :
    NoCollision plainRowBuiltins (chars.map String.ofList) := by
  intro text mem other otherMem same
  obtain ⟨text, there, rfl⟩ := List.mem_map.mp mem
  obtain ⟨other, otherThere, rfl⟩ := List.mem_map.mp otherMem
  simp only [plainRowBuiltins, smallDigest, checksum, String.toList_ofList, String.ofList_inj,
    List.replicate_right_inj (Nat.succ_ne_zero 63)] at same
  exact congrArg String.ofList (apart text there other otherThere same)

def returnOrder (quantity : Nat) : List (String × Json) :=
  [("returnOrderNo", .str "R1"), ("skcNameList", .arr [.obj [("quantity", .ofNat quantity)]])]

def stockRecord (orderMode : Nat) : List (String × Json) := [("id", .str "S1"), ("orderMode", .ofNat orderMode)]

variable (R) in
theorem exists_row (pageId : PageId) (fields : List (String × Json))
    (typed : (buildTypedRow R pageId (.obj fields)).toOption.map (fun _ => ()) = some ()) :
    ∃ row, buildTypedRow R pageId (.obj fields) = .ok row := by
  obtain ⟨row, built, -⟩ := exists_of_toOption_map typed
  exact ⟨row, built⟩

/-- The digests of two stock records whose order modes differ cover what they seal. -/
theorem stockRecord_covered : ∃ row otherRow,
    buildTypedRow plainRowBuiltins .stockRecords (.obj (stockRecord 2)) = .ok row ∧
      buildTypedRow plainRowBuiltins .stockRecords (.obj (stockRecord 10)) = .ok otherRow ∧
      Covers .stockRecords (stockRecord 2) (stockRecord 10) row otherRow := by
  have written : ∀ orderMode, (Json.obj (stockRecord orderMode)).Written := by
    intro orderMode
    simp [stockRecord, Json.Written, WrittenFields, Json.ofNat, JsNumber.Written]
  obtain ⟨row, built⟩ := exists_row plainRowBuiltins .stockRecords (stockRecord 2) (by decide)
  obtain ⟨otherRow, otherBuilt⟩ := exists_row plainRowBuiltins .stockRecords (stockRecord 10) (by decide)
  have apart : NoCollision plainRowBuiltins (hashedTexts .stockRecords (stockRecord 2) row ++
      hashedTexts .stockRecords (stockRecord 10) otherRow) := by
    rw [hashedTexts_eq built, hashedTexts_eq otherBuilt, ← List.map_append]
    exact noCollision_ofList (by decide +kernel)
  have kept : jsonChars (keptPart (pickedFields .stockRecords (stockRecord 2))) ≠
      jsonChars (keptPart (pickedFields .stockRecords (stockRecord 10))) := by decide
  exact ⟨row, otherRow, built, otherBuilt, (covers_iff (written 2) (written 10) built otherBuilt apart).mpr
    fun dropped => kept (congrArg jsonChars dropped.2)⟩

/-- **Two return orders with other quantities in their lines have one token.** -/
theorem quantity_not_covered : ¬∀ (R : RowBuiltins) (pageId : PageId) (fields other : List (String × Json))
    (row otherRow : TypedRow), (Json.obj fields).Written → (Json.obj other).Written →
      buildTypedRow R pageId (.obj fields) = .ok row → buildTypedRow R pageId (.obj other) = .ok otherRow →
      NoCollision R (hashedTexts pageId fields row ++ hashedTexts pageId other otherRow) →
      Covers pageId fields other row otherRow := by
  intro all
  have written : ∀ quantity, (Json.obj (returnOrder quantity)).Written := by
    intro quantity
    simp [returnOrder, Json.Written, WrittenFields, WrittenItems, Json.ofNat, JsNumber.Written]
  obtain ⟨row, built⟩ := exists_row plainRowBuiltins .returnOrders (returnOrder 1) (by decide)
  obtain ⟨otherRow, otherBuilt⟩ := exists_row plainRowBuiltins .returnOrders (returnOrder 2)
    (by decide)
  have apart : NoCollision plainRowBuiltins (hashedTexts .returnOrders (returnOrder 1) row ++
      hashedTexts .returnOrders (returnOrder 2) otherRow) := by
    rw [hashedTexts_eq built, hashedTexts_eq otherBuilt, ← List.map_append]
    exact noCollision_ofList (by decide +kernel)
  have covers := all plainRowBuiltins .returnOrders _ _ row otherRow (written 1) (written 2) built otherBuilt apart
  -- What is written of both records is the same text.
  have texts : versionText .returnOrders (returnOrder 1) = versionText .returnOrders (returnOrder 2) := by decide
  obtain ⟨-, -, -, -, -, -, token, -⟩ := buildTypedRow_ok built
  obtain ⟨-, -, -, -, -, -, otherToken, -⟩ := buildTypedRow_ok otherBuilt
  have same := covers.token.mp (by rw [token, otherToken, texts])
  have differ : jsonChars (Json.obj (pickedFields .returnOrders (returnOrder 1))).sorted ≠
      jsonChars (Json.obj (pickedFields .returnOrders (returnOrder 2))).sorted := by decide
  exact differ (congrArg jsonChars same)

end FullManagedBi.Collection
