import FullManagedBi.Collection.FactTables
import FullManagedBi.Laws.FactSeals

/-!
# A page of facts that comes again

A page of rows is stored with its evidence in one transaction. When it comes again, each row has to be the one that is
stored, as its columns give it back; a number with more decimals than its column has is not (`Survives`), and the replay
of the page is refused as a drift (`replays_iff`). A record that comes twice is looked up among the rows stored before
its page, so that on two pages the second one is a replay, and on one page both are inserted and the statement violates
the primary key, unless the record was stored before or is refused (`treatedAlike_iff`).
-/

namespace FullManagedBi.Collection

open Lib

variable {R : RowBuiltins} {pageId : PageId} {row other : TypedRow}

/-! ## Columns -/

/-- Each number of the row in a `numeric` column is the number that the column's text is read as. -/
def Survives (R : RowBuiltins) (row : TypedRow) : Prop :=
  ∀ column scale n, numericScale column = some scale → (Json.obj row.typed).field? column = some (.num n) →
    R.number (fixedText scale (roundUnits scale (JsNumber.decimal n))) = some n

theorem isDigit_decimalDigits (n : Nat) : ∀ c ∈ decimalDigits n, c.isDigit = true :=
  fun _ => digit_of_mem_decimalDigits

theorem isPlainDecimal_fixedText (scale units : Nat) : isPlainDecimal (fixedText scale units) = true := by
  unfold fixedText
  dsimp only
  generalize hd : decimalDigits (units % 10 ^ scale) = decimals
  have decimal : ∀ c ∈ List.replicate (scale - decimals.length) '0' ++ decimals, c.isDigit = true := by
    intro c mem
    rcases List.mem_append.mp mem with zero | digit
    · rw [List.eq_of_mem_replicate zero]
      decide
    · exact digit_of_mem_decimalDigits (hd ▸ digit)
  have some : List.replicate (scale - decimals.length) '0' ++ decimals ≠ [] := by
    intro empty
    have noDecimals := (List.append_eq_nil_iff.mp empty).2
    exact Nat.toDigits_ne_nil (hd.trans noDecimals)
  generalize List.replicate (scale - decimals.length) '0' ++ decimals = tail at decimal some
  obtain ⟨c, rest, whole⟩ : ∃ c rest, decimalDigits (units / 10 ^ scale) = c :: rest :=
    List.exists_cons_of_ne_nil Nat.toDigits_ne_nil
  have digits := isDigit_decimalDigits (units / 10 ^ scale)
  rw [whole] at digits ⊢
  have first : c.isDigit = true := digits c List.mem_cons_self
  have sign : (c :: (rest ++ '.' :: tail)).head? ≠ Option.some '-' := by
    rintro ⟨⟩
    exact absurd first (by decide)
  unfold isPlainDecimal unsigned
  rw [String.toList_ofList, List.cons_append, if_neg sign]
  have dropped : (c :: (rest ++ '.' :: tail)).dropWhile (·.isDigit) = '.' :: tail := by
    rw [← List.cons_append, List.dropWhile_append_of_pos digits]
    rfl
  simp only [dropped, List.head?_cons, Option.any_some, first, Bool.true_and, Bool.and_eq_true, Bool.not_eq_true',
    List.isEmpty_eq_false_iff, List.all_eq_true]
  exact ⟨some, decimal⟩

/-- A value without items or members: of a text, or of a number as the engine writes it, or `null`. -/
def Flat : Json → Prop
  | .num n => n.Written
  | .arr _ | .obj _ => False
  | _ => True

variable {value : Json}

theorem Flat.project_eq (flat : Flat value) (keys : List String) : value.project keys = value := by
  cases value with
  | arr items => exact flat.elim
  | obj fields => exact flat.elim
  | _ => rfl

theorem Flat.written (flat : Flat value) : value.Written := by
  cases value with
  | num n => exact flat
  | arr items => exact flat.elim
  | obj fields => exact flat.elim
  | _ => trivial

variable {column : String}

theorem field?_map {columns : List String} {f : String → Json} (mem : column ∈ columns) :
    (Json.obj (columns.map fun column => (column, f column))).field? column = some (f column) := by
  induction columns with
  | nil => cases mem
  | cons first columns ih =>
    rw [Json.field?, List.map_cons, List.find?_cons]
    by_cases here : first = column
    · subst here
      simp
    · simp only [here, decide_false]
      exact ih ((List.mem_cons.mp mem).resolve_left fun same => here same.symm)

/-- Two records of flat columns have one text exactly when each column has one value. -/
theorem canonicalJson_map_iff {columns : List String} {f g : String → Json} (flatF : ∀ column, Flat (f column))
    (flatG : ∀ column, Flat (g column)) : canonicalJson (columns.map fun column => (column, f column)) =
      canonicalJson (columns.map fun column => (column, g column)) ↔ ∀ column ∈ columns, f column = g column := by
  have written : ∀ {h : String → Json}, (∀ column, Flat (h column)) →
      (Json.obj (columns.map fun column => (column, h column))).Written := by
    intro h flat
    rw [Json.Written, writtenFields_iff]
    intro field mem
    obtain ⟨column, -, rfl⟩ := List.mem_map.mp mem
    exact (flat column).written
  constructor
  · intro same column mem
    have kept := (canonicalJson_inj (written flatF) (written flatG)).mp same
    have left := field?_keptPart (columns.map fun column => (column, f column)) column
    have right := field?_keptPart (columns.map fun column => (column, g column)) column
    rw [field?_map mem, Option.map_some, (flatF column).project_eq] at left
    rw [field?_map mem, Option.map_some, (flatG column).project_eq, ← kept, left] at right
    exact Option.some.inj right
  · intro same
    rw [List.map_congr_left fun column mem => by rw [same column mem]]

theorem toNumber_written (written : value.Written) {n : JsNumber} (read : R.toNumber value = some n) : n.Written := by
  cases value with
  | num m =>
    obtain rfl := Option.some.inj read
    exact written
  | bool b =>
    obtain rfl := Option.some.inj read
    trivial
  | null => exact R.written_number _ n read
  | str s => exact R.written_number _ n read
  | arr items => exact R.written_number _ n read
  | obj fields => exact R.written_number _ n read

/-- What a coercion comes to: a refusal with a code, nothing, a text, or a number. -/
inductive Coerced (R : RowBuiltins) (value : Json) : Except RowRefusal (Option Json) → Prop
  | refused (code : String) : Coerced R value (.error (.refused code))
  | none : Coerced R value (.ok none)
  | text (text : String) : Coerced R value (.ok (some (.str text)))
  | int (n : Int) : Coerced R value (.ok (some (.num (.int n))))
  | number {n : JsNumber} (read : R.toNumber value = some n) : Coerced R value (.ok (some (.num n)))

theorem coerced_coerceTypedValue (type : ColumnType) (value : Json) :
    Coerced R value (R.coerceTypedValue type value) := by
  have number : Coerced R value (R.coerceFlagNumber value) := by
    unfold RowBuiltins.coerceFlagNumber
    split
    · split_ifs <;> constructor
    · constructor
  cases type with
  | hash =>
    simp only [RowBuiltins.coerceTypedValue, RowBuiltins.coerceHash]
    split_ifs <;> constructor
  | text max =>
    simp only [RowBuiltins.coerceTypedValue]
    unfold RowBuiltins.coerceText
    split
    · constructor
    · split_ifs
      · constructor
      · split
        · constructor
        · dsimp only
          split_ifs <;> constructor
  | int =>
    simp only [RowBuiltins.coerceTypedValue, RowBuiltins.coerceInt]
    split_ifs
    · constructor
    · split
      · split_ifs <;> constructor
      · constructor
  | flag =>
    simp only [RowBuiltins.coerceTypedValue, RowBuiltins.coerceFlag]
    split_ifs
    · constructor
    · split
      · constructor
      · split_ifs <;> first | exact number | constructor
      · exact number
  | numeric =>
    simp only [RowBuiltins.coerceTypedValue, RowBuiltins.coerceNumeric]
    split_ifs
    · constructor
    · split
      · next n read => split_ifs <;> first | exact .number read | constructor
      · constructor
  | instant =>
    simp only [RowBuiltins.coerceTypedValue, RowBuiltins.coerceInstant]
    split_ifs
    · constructor
    · split <;> constructor
  | char3 =>
    simp only [RowBuiltins.coerceTypedValue, RowBuiltins.coerceChar3]
    split_ifs <;> constructor

theorem flat_coerceTypedValue {type : ColumnType} {value typed : Json} (written : value.Written)
    (done : R.coerceTypedValue type value = .ok (some typed)) : Flat typed := by
  have coerced := done ▸ coerced_coerceTypedValue (R := R) type value
  cases coerced with
  | text | int => trivial
  | number read => exact toNumber_written written read

variable {fields : List (String × Json)}

theorem written_field? (written : (Json.obj fields).Written) (key : String) :
    (((Json.obj fields).field? key).getD .null).Written := by
  rw [Json.Written, writtenFields_iff] at written
  rw [Json.field?]
  cases found : fields.find? (fun field => decide (field.1 = key)) with
  | none => trivial
  | some field => exact written field (List.mem_of_find?_eq_some found)

theorem flat_typedColumns (written : (Json.obj fields).Written) {specs : List ColumnSpec}
    {typed : List (String × Json)} (done : typedColumns R fields specs = .ok typed) : ∀ field ∈ typed, Flat field.2 := by
  intro field mem
  obtain ⟨spec, -, value, read, rfl⟩ := mem_typedColumns done field mem
  exact flat_coerceTypedValue (written_field? written spec.source) read

def TypedRow.FlatColumns (row : TypedRow) : Prop := ∀ field ∈ row.typed, Flat field.2

theorem flatColumns_of_buildTypedRow {record : Json} (written : record.Written)
    (built : buildTypedRow R pageId record = .ok row) : row.FlatColumns := by
  cases record with
  | obj fields =>
    obtain ⟨entity, typed, -, columns, rfl, -⟩ := buildTypedRow_ok built
    exact flat_typedColumns written columns
  | _ => cases built

theorem flat_field? (flat : row.FlatColumns)
    (found : (Json.obj row.typed).field? column = some value) : Flat value := by
  rw [Json.field?, Option.map_eq_some_iff] at found
  obtain ⟨field, there, rfl⟩ := found
  exact flat field (List.mem_of_find?_eq_some there)

theorem flat_normalizeStoredValue (flat : Flat value) : Flat (normalizeStoredValue R value) := by
  unfold normalizeStoredValue
  split
  · next text =>
    split_ifs
    · cases read : R.number text with
      | none => trivial
      | some n => exact R.written_number text n read
    · trivial
  · exact flat

theorem flat_readColumn (flat : Flat value) (column : String) : Flat (readColumn column value) := by
  unfold readColumn
  split
  · trivial
  · exact flat

theorem mem_comparedColumns (stored : TypedRow)
    (found : (Json.obj row.typed).field? column = some value) : column ∈ comparedColumns stored row := by
  rw [Json.field?, Option.map_eq_some_iff] at found
  obtain ⟨field, there, -⟩ := found
  unfold comparedColumns
  rw [List.mem_eraseDups]
  have name : field.1 = column := of_decide_eq_true (List.find?_some there :)
  exact name ▸ List.mem_map_of_mem (List.mem_append_right _ (List.mem_of_find?_eq_some there))

/-- **A row that is stored is read back as itself exactly when each of its numbers survives its column.** -/
theorem sameTyped_self_iff (flat : row.FlatColumns) : sameTyped R row row = true ↔ Survives R row := by
  have flatStored : ∀ column, Flat ((((Json.obj row.typed).field? column).map fun value =>
      normalizeStoredValue R (readColumn column value)).getD .null) := by
    intro column
    cases found : (Json.obj row.typed).field? column with
    | none => trivial
    | some value => exact flat_normalizeStoredValue (flat_readColumn (flat_field? flat found) column)
  have flatFresh : ∀ column, Flat ((((Json.obj row.typed).field? column).map (normalizeStoredValue R)).getD .null) := by
    intro column
    cases found : (Json.obj row.typed).field? column with
    | none => trivial
    | some value => exact flat_normalizeStoredValue (flat_field? flat found)
  unfold sameTyped normalizeStoredRow normalizeTypedForCompare
  dsimp only
  rw [decide_eq_true_eq, canonicalJson_map_iff flatStored flatFresh]
  constructor
  · intro same column scale n numeric found
    have here := same column (mem_comparedColumns row found)
    have text : readColumn column (.num n) = .str (fixedText scale (roundUnits scale (JsNumber.decimal n))) := by
      unfold readColumn
      rw [numeric]
    rw [found, Option.map_some, Option.map_some, Option.getD_some, Option.getD_some, text] at here
    simp only [normalizeStoredValue, isPlainDecimal_fixedText, if_true] at here
    cases read : R.number (fixedText scale (roundUnits scale (JsNumber.decimal n))) with
    | none =>
      rw [read] at here
      cases here
    | some m =>
      rw [read] at here
      cases here
      rfl
  · intro survives column mem
    cases found : (Json.obj row.typed).field? column with
    | none => rfl
    | some value =>
      rw [Option.map_some, Option.map_some, Option.getD_some, Option.getD_some]
      unfold readColumn
      split
      · next scale n numeric =>
        have read := survives column scale n numeric found
        simp only [normalizeStoredValue, isPlainDecimal_fixedText, if_true, read, Option.map_some, Option.getD_some]
      · rfl

/-! ## Rows of a page -/

/-- A computation that fails only with a code of its own. -/
def Refuses {α : Type} (x : Except RowRefusal α) : Prop := ∀ e, x = .error e → ∃ code, e = .refused code

theorem refuses_ok {α : Type} (a : α) : Refuses (.ok a) := fun _ same => nomatch same

theorem refuses_refused {α : Type} (code : String) : Refuses (.error (.refused code) : Except RowRefusal α) := by
  intro e same
  exact ⟨code, (Except.error.inj same).symm⟩

theorem Refuses.bind {α β : Type} {x : Except RowRefusal α} {f : α → Except RowRefusal β} (first : Refuses x)
    (next : ∀ a, Refuses (f a)) : Refuses (x >>= f) := by
  intro e failed
  rcases bind_error failed with here | ⟨a, -, later⟩
  · exact first e here
  · exact next a e later

theorem refuses_coerceTypedValue (type : ColumnType) (value : Json) : Refuses (R.coerceTypedValue type value) := by
  intro e failed
  have coerced := failed ▸ coerced_coerceTypedValue (R := R) type value
  cases coerced with
  | refused code => exact ⟨code, rfl⟩

theorem refuses_typedColumns (fields : List (String × Json)) (specs : List ColumnSpec) :
    Refuses (typedColumns R fields specs) := by
  induction specs with
  | nil => exact refuses_ok _
  | cons spec specs ih =>
    exact (refuses_coerceTypedValue _ _).bind fun _ => ih.bind fun _ => refuses_ok _

theorem refuses_rejectSensitiveKeys (keys : List String) : Refuses (rejectSensitiveKeys keys) := by
  unfold rejectSensitiveKeys
  split_ifs
  · exact refuses_refused _
  · exact refuses_ok _

theorem refuses_entityText (fields : List (String × Json)) : Refuses (entityText pageId fields) := by
  unfold entityText
  split
  · exact refuses_refused _
  · dsimp only
    split_ifs <;> first | exact refuses_ok _ | exact refuses_refused _

/-- **A record is typed, or refused with a code.** -/
theorem refuses_buildTypedRow (record : Json) : Refuses (buildTypedRow R pageId record) := by
  cases record with
  | obj fields =>
    exact (refuses_rejectSensitiveKeys _).bind fun _ => (refuses_entityText fields).bind fun _ =>
      (refuses_rejectSensitiveKeys _).bind fun _ => (refuses_typedColumns fields _).bind fun _ => refuses_ok _
  | _ => exact refuses_refused _

def typedOf (R : RowBuiltins) (pageId : PageId) (records : List Json) : List TypedRow :=
  records.filterMap fun record => (buildTypedRow R pageId record).toOption

def refusalCode (R : RowBuiltins) (pageId : PageId) (record : Json) : Option String :=
  match buildTypedRow R pageId record with
  | .error (.refused code) => some code
  | _ => none

def refusedOf (R : RowBuiltins) (pageId : PageId) (records : List Json) : List String :=
  records.filterMap (refusalCode R pageId)

variable {B : LedgerBuiltins} {ledger after : Ledger}

def storedVersion (stored : List FactRow) (row : TypedRow) : Option FactRow :=
  stored.reverse.find? fun fact => fact.row.SameVersion row

/-- A row is an exact replay of the stored row of its version, or there is none and the attempt is open. -/
def Fits (B : LedgerBuiltins) (isOpen : Bool) (stored : List FactRow) (row : TypedRow) : Prop :=
  match storedVersion stored row with
  | some fact => fact.row.payloadHash = row.payloadHash ∧ B.sameTyped fact.row row = true
  | none => isOpen = true

/-- **The rows of a page are accepted exactly when each fits, and those without a stored version are inserted.** -/
theorem newRows_ok_iff {isOpen : Bool} {stored : List FactRow} {rows inserted : List TypedRow} :
    newRows B isOpen stored rows = .ok inserted ↔ (∀ row ∈ rows, Fits B isOpen stored row) ∧
      inserted = rows.filter fun row => (storedVersion stored row).isNone := by
  induction rows generalizing inserted with
  | nil =>
    rw [newRows, Except.ok.injEq, List.filter_nil, eq_comm]
    exact (and_iff_right nofun).symm
  | cons row rows ih =>
    have fits : Fits B isOpen stored row = match storedVersion stored row with
      | some fact => fact.row.payloadHash = row.payloadHash ∧ B.sameTyped fact.row row = true
      | none => isOpen = true := rfl
    rw [newRows, List.forall_mem_cons, fits]
    change (match storedVersion stored row with
      | some fact => _
      | none => _) = _ ↔ _
    cases found : storedVersion stored row with
    | some fact =>
      simp only [check_ok_iff, refuse_eq_ok, not_not, ih, List.filter_cons, found, Option.isNone_some, if_false,
        Bool.false_eq_true, and_assoc]
    | none =>
      dsimp only
      rw [check_ok_iff, refuse_eq_ok, not_not, bind_eq_ok_iff]
      simp only [ih, List.filter_cons, found, Option.isNone_none, if_true, pure, Except.pure, Except.ok.injEq]
      constructor
      · rintro ⟨opened, later, ⟨fits, rfl⟩, rfl⟩
        exact ⟨⟨opened, fits⟩, rfl⟩
      · rintro ⟨⟨opened, fits⟩, rfl⟩
        exact ⟨opened, _, ⟨fits, rfl⟩, rfl⟩

theorem storedVersion_append (stored facts : List FactRow) (row : TypedRow) :
    storedVersion (stored ++ facts) row = (storedVersion facts row).or (storedVersion stored row) := by
  unfold storedVersion
  rw [List.reverse_append, List.find?_append]

theorem TypedRow.SameVersion.symm {row other : TypedRow} (same : row.SameVersion other) : other.SameVersion row :=
  ⟨same.1.symm, same.2.symm⟩

theorem TypedRow.SameVersion.trans {row between other : TypedRow} (first : row.SameVersion between)
    (second : between.SameVersion other) : row.SameVersion other :=
  ⟨first.1.trans second.1, first.2.trans second.2⟩

theorem storedVersion_eq_none_iff {stored : List FactRow} {row : TypedRow} :
    storedVersion stored row = none ↔ ∀ fact ∈ stored, ¬fact.row.SameVersion row := by
  unfold storedVersion
  simp [List.find?_eq_none]

theorem storedVersion_congr {row other : TypedRow} (same : row.SameVersion other) (stored : List FactRow) :
    storedVersion stored row = storedVersion stored other := by
  unfold storedVersion
  congr 1
  funext fact
  exact decide_eq_decide.mpr ⟨fun version => version.trans same, fun version => version.trans same.symm⟩

/-! ## Page evidence -/

section Pages

variable {attempt : CollectionAttempt} {page : PageArguments} {content : PageContent}

theorem exactPage_iff {row : PageEvidence} : exactPage page content row = true ↔
    row.pageNumber = page.pageNumber ∧ row.pageSize = page.pageSize ∧
      row.pageRequestFingerprint = page.pageRequestFingerprint ∧ row.responseSchemaHash = page.responseSchemaHash ∧
      row.payloadHash = content.payloadHash ∧ row.rowCount = content.rowCount ∧
      row.rejectedRowCount = content.rejectedRowCount ∧ row.httpStatus = page.httpStatus ∧
      row.fetchStatus = content.fetchStatus := by
  simp only [exactPage, Bool.and_eq_true, decide_eq_true_eq, and_assoc]

def pageRow (B : LedgerBuiltins) (attempt : CollectionAttempt) (page : PageArguments) (content : PageContent)
    (pageEvidenceId : Nat) (observedAt : Int) : PageEvidence where
  pageEvidenceId
  collectionAttemptId := attempt.collectionAttemptId
  pageKey := pageKey B page
  pageNumber := page.pageNumber
  pageSize := page.pageSize
  pageRequestFingerprint := page.pageRequestFingerprint
  responseSchemaHash := page.responseSchemaHash
  payloadHash := content.payloadHash
  rowCount := content.rowCount
  rejectedRowCount := content.rejectedRowCount
  httpStatus := page.httpStatus
  fetchStatus := content.fetchStatus
  observedAt

def Ledger.withPage (ledger : Ledger) (row : PageEvidence) : Ledger :=
  { ledger with pages := ledger.pages ++ [row], nextPageId := ledger.nextPageId + 1 }

theorem insertPage_ok_iff : ledger.insertPage B attempt page content = .ok after ↔
    ∃ observedAt, page.observedAt = some observedAt ∧
      guardPageEvidenceMutation ledger (pageRow B attempt page content ledger.nextPageId observedAt) = .ok () ∧
      checkPageEvidence ledger (pageRow B attempt page content ledger.nextPageId observedAt) = .ok () ∧
      ledger.withPage (pageRow B attempt page content ledger.nextPageId observedAt) = after := by
  unfold Ledger.insertPage
  cases page.observedAt with
  | none => simp [throw, throwThe, MonadExceptOf.throw]
  | some observedAt =>
    simp only [Option.some.injEq, exists_eq_left', check_ok_iff]
    exact and_congr_right fun _ => and_congr_right fun _ => Iff.of_eq (Except.ok.injEq _ _)

theorem storePage_ok_iff {stored : Nat × Bool} : ledger.storePage B attempt page content = .ok (stored, after) ↔
    (∃ row, ledger.pages.find? (fun row => decide (row.pageKey = pageKey B page)) = some row ∧
      exactPage page content row = true ∧ (row.pageEvidenceId, true) = stored ∧ ledger = after) ∨
    (ledger.pages.find? (fun row => decide (row.pageKey = pageKey B page)) = none ∧ attempt.attemptStatus.Open ∧
      ledger.insertPage B attempt page content = .ok after ∧ (ledger.nextPageId, false) = stored) := by
  unfold Ledger.storePage
  cases ledger.pages.find? (fun row => decide (row.pageKey = pageKey B page)) with
  | some row => simp [check_ok_iff, refuse_eq_ok, pure, Except.pure]
  | none =>
    simp only [refuse_eq_ok, not_not, bind_eq_ok_iff, exists_const, pure, Except.pure, Except.ok.injEq, Prod.mk.injEq,
      reduceCtorEq, false_and, exists_false, false_or, true_and]
    refine and_congr_right fun _ => ⟨?_, ?_⟩
    · rintro ⟨inserted, insertion, same, rfl⟩
      exact ⟨insertion, same⟩
    · rintro ⟨insertion, same⟩
      exact ⟨after, insertion, same, rfl⟩

/-- **A page that was stored is found again as it was.** -/
theorem storePage_again {stored : Nat × Bool} (done : ledger.storePage B attempt page content = .ok (stored, after))
    {later : Ledger} (kept : later.pages = after.pages) :
    later.storePage B attempt page content = .ok ((stored.1, true), later) := by
  rcases (storePage_ok_iff).mp done with ⟨row, found, exact, rfl, rfl⟩ | ⟨missing, -, insertion, rfl⟩
  · exact (storePage_ok_iff).mpr (.inl ⟨row, kept ▸ found, exact, rfl, rfl⟩)
  · obtain ⟨observedAt, -, -, -, rfl⟩ := (insertPage_ok_iff).mp insertion
    refine (storePage_ok_iff).mpr (.inl ⟨pageRow B attempt page content ledger.nextPageId observedAt, ?_, ?_, rfl, rfl⟩)
    · rw [kept, Ledger.withPage, List.find?_append, missing]
      simp [pageRow]
    · simp [exactPage_iff, pageRow]

theorem storePage_facts {stored : Nat × Bool} (done : ledger.storePage B attempt page content = .ok (stored, after)) :
    after.facts = ledger.facts ∧ after.attempts = ledger.attempts := by
  rcases (storePage_ok_iff).mp done with ⟨-, -, -, -, rfl⟩ | ⟨-, -, insertion, -⟩
  · exact ⟨rfl, rfl⟩
  · obtain ⟨-, -, -, -, rfl⟩ := (insertPage_ok_iff).mp insertion
    exact ⟨rfl, rfl⟩

end Pages

section Ledger

variable {dates : OrderManagement.DateBuiltins} {readDate : Int → Option String}

theorem typeRows_eq (records : List Json) :
    typeRows (R.ledger dates readDate) pageId records = .ok (typedOf R pageId records, refusedOf R pageId records) := by
  induction records with
  | nil => rfl
  | cons record records ih =>
    have built : (R.ledger dates readDate).buildTypedRow pageId record = buildTypedRow R pageId record := rfl
    rw [typeRows, built, typedOf, refusedOf, List.filterMap_cons, List.filterMap_cons, refusalCode]
    cases outcome : buildTypedRow R pageId record with
    | ok row =>
      simp only [ih, Except.toOption]
      rfl
    | error refusal =>
      obtain ⟨code, rfl⟩ := refuses_buildTypedRow record refusal outcome
      simp only [ih, Except.toOption]
      rfl

/-! ## One page -/

/-- The arguments pass the checks that do not read the ledger. -/
def Admitted (arguments : FactArguments) : Prop :=
  requireStoreCode arguments.page.storeCode = .ok () ∧ requireEndpointCode arguments.page.endpointCode = .ok () ∧
    requireHex64 arguments.page.attemptKey "V4_ATTEMPT_KEY_INVALID" = .ok () ∧
    requireHex64 arguments.page.pageRequestFingerprint "V4_PAGE_REQUEST_FINGERPRINT_INVALID" = .ok () ∧
    requireHex64 arguments.page.responseSchemaHash "V4_RESPONSE_SCHEMA_HASH_INVALID" = .ok () ∧
    arguments.sourcePayloadHash.any (fun hash => !isSha256Hex hash) = false ∧ checkPage arguments.page = .ok () ∧
    checkHttpStatus arguments.page.httpStatus = .ok () ∧ arguments.pageId.endpointCode = arguments.page.endpointCode

/-- What the evidence of a page with these rows says. -/
def pageContent (R : RowBuiltins) (arguments : FactArguments) (rows : List Json) : PageContent where
  payloadHash := arguments.sourcePayloadHash.getD
    (typedPayloadHash R arguments.page.storeCode (typedOf R arguments.pageId rows))
  rowCount := (typedOf R arguments.pageId rows).length
  rejectedRowCount := (refusedOf R arguments.pageId rows).length
  fetchStatus := if 0 < (refusedOf R arguments.pageId rows).length then .partly else .succeeded

/-- The rows that are inserted into the table of a page. -/
def newFacts (arguments : FactArguments) (attempt : CollectionAttempt) (pageEvidenceId : Nat)
    (inserted : List TypedRow) : List FactRow :=
  inserted.map fun row => ⟨arguments.pageId, arguments.page.storeCode, attempt.collectionAttemptId, pageEvidenceId,
    arguments.page.observedAt, row⟩

def unstored (stored : List FactRow) (rows : List TypedRow) : List TypedRow :=
  rows.filter fun row => (storedVersion stored row).isNone

def factsStored (R : RowBuiltins) (arguments : FactArguments) (attempt : CollectionAttempt) (pageEvidenceId : Nat)
    (ledger : Ledger) : List FactRow :=
  newFacts arguments attempt pageEvidenceId (unstored
    (ledger.factsOf arguments.pageId attempt.collectionAttemptId) (typedOf R arguments.pageId arguments.rows))

/-- What is returned of a page with these rows. -/
def pageAnswer (B : LedgerBuiltins) (R : RowBuiltins) (arguments : FactArguments) (pageEvidenceId : Nat)
    (stored : List FactRow) : FactAnswer where
  pageEvidenceId
  pageKey := pageKey B arguments.page
  payloadHash := (pageContent R arguments arguments.rows).payloadHash
  acceptedRowCount := (typedOf R arguments.pageId arguments.rows).length
  rejectedRowCount := (refusedOf R arguments.pageId arguments.rows).length
  insertedRowCount := (unstored stored (typedOf R arguments.pageId arguments.rows)).length
  replayedRowCount := (typedOf R arguments.pageId arguments.rows).length -
    (unstored stored (typedOf R arguments.pageId arguments.rows)).length
  rejectedCodes := (refusedOf R arguments.pageId arguments.rows).eraseDups
  readbackRowCount := stored.length + (unstored stored (typedOf R arguments.pageId arguments.rows)).length

def Ledger.withFacts (ledger : Ledger) (facts : List FactRow) : Ledger := { ledger with facts := ledger.facts ++ facts }

theorem insertFacts_ok_iff {facts : List FactRow} : ledger.insertFacts (R.ledger dates readDate) facts = .ok after ↔
    factRefusal ledger.facts facts = none ∧ ledger.withFacts facts = after := by
  have refusal : (R.ledger dates readDate).factRefusal ledger.facts facts = factRefusal ledger.facts facts := rfl
  unfold Ledger.insertFacts
  rw [refusal]
  cases factRefusal ledger.facts facts with
  | none => simp [Ledger.withFacts]
  | some e => simp

/-- **What accepts a page.** -/
theorem insertTypedFacts_ok_iff {arguments : FactArguments} {reply : FactAnswer} :
    insertTypedFacts (R.ledger dates readDate) arguments ledger = .ok (reply, after) ↔ Admitted arguments ∧
      ∃ attempt pageEvidenceId known paged, ledger.attemptOfPage arguments.page = .ok attempt ∧
        ledger.storePage (R.ledger dates readDate) attempt arguments.page (pageContent R arguments arguments.rows) =
          .ok ((pageEvidenceId, known), paged) ∧
        (∀ row ∈ typedOf R arguments.pageId arguments.rows, Fits (R.ledger dates readDate)
          (decide attempt.attemptStatus.Open) (ledger.factsOf arguments.pageId attempt.collectionAttemptId) row) ∧
        factRefusal paged.facts (factsStored R arguments attempt pageEvidenceId ledger) = none ∧
        paged.withFacts (factsStored R arguments attempt pageEvidenceId ledger) = after ∧
        readbackMatches ((ledger.factsOf arguments.pageId attempt.collectionAttemptId).map (·.row) ++
          unstored (ledger.factsOf arguments.pageId attempt.collectionAttemptId)
            (typedOf R arguments.pageId arguments.rows)) = true ∧
        pageAnswer (R.ledger dates readDate) R arguments pageEvidenceId
          (ledger.factsOf arguments.pageId attempt.collectionAttemptId) = reply := by
  unfold insertTypedFacts Admitted
  simp only [check_ok_iff, refuse_eq_ok, not_not, ne_eq, typeRows_eq, Bool.not_eq_true]
  constructor
  · rintro ⟨store, endpoint, key, fingerprint, schema, payload, page, http, same, rest⟩
    refine ⟨⟨store, endpoint, key, fingerprint, schema, payload, page, http, same⟩, ?_⟩
    obtain ⟨⟨typed, rejected⟩, rows, rest⟩ := bind_eq_ok rest
    obtain ⟨rfl, rfl⟩ := Prod.mk.inj (Except.ok.inj rows)
    obtain ⟨attempt, found, rest⟩ := bind_eq_ok rest
    obtain ⟨⟨⟨id, known⟩, paged⟩, evidence, rest⟩ := bind_eq_ok rest
    obtain ⟨inserted, new, rest⟩ := bind_eq_ok rest
    obtain ⟨fits, rfl⟩ := (newRows_ok_iff).mp new
    obtain ⟨last, insertion, rest⟩ := bind_eq_ok rest
    obtain ⟨accepted, rfl⟩ := (insertFacts_ok_iff).mp insertion
    obtain ⟨readback, rest⟩ := check_ok_iff.mp rest
    rw [refuse_eq_ok, Bool.not_eq_false] at readback
    obtain ⟨rfl, rfl⟩ := Prod.mk.inj (Except.ok.inj rest)
    exact ⟨attempt, id, known, paged, found, evidence, fits, accepted, rfl, readback, rfl⟩
  · rintro ⟨⟨store, endpoint, key, fingerprint, schema, payload, page, http, same⟩, attempt, id, known, paged, found,
      evidence, fits, accepted, rfl, readback, rfl⟩
    refine ⟨store, endpoint, key, fingerprint, schema, payload, page, http, same, ?_⟩
    rw [bind_eq_ok_iff]
    refine ⟨_, rfl, ?_⟩
    rw [bind_eq_ok_iff]
    refine ⟨attempt, found, ?_⟩
    rw [bind_eq_ok_iff]
    refine ⟨((id, known), paged), evidence, ?_⟩
    rw [bind_eq_ok_iff]
    refine ⟨_, (newRows_ok_iff).mpr ⟨fits, rfl⟩, ?_⟩
    rw [bind_eq_ok_iff]
    refine ⟨_, (insertFacts_ok_iff).mpr ⟨accepted, rfl⟩, ?_⟩
    rw [check_ok_iff, refuse_eq_ok, Bool.not_eq_false]
    exact ⟨readback, rfl⟩

/-! ## The same page again -/

theorem attemptOfPage_congr (same : after.attempts = ledger.attempts) (page : PageArguments) :
    after.attemptOfPage page = ledger.attemptOfPage page := by
  unfold Ledger.attemptOfPage Ledger.findAttempt
  rw [same]

section Again

variable {arguments : FactArguments} {attempt : CollectionAttempt} {pageEvidenceId : Nat}

variable (arguments attempt pageEvidenceId) in
theorem factsOf_withFacts {paged : Ledger} (same : paged.facts = ledger.facts) (inserted : List TypedRow) :
    (paged.withFacts (newFacts arguments attempt pageEvidenceId inserted)).factsOf arguments.pageId
        attempt.collectionAttemptId = ledger.factsOf arguments.pageId attempt.collectionAttemptId ++
        newFacts arguments attempt pageEvidenceId inserted := by
  unfold Ledger.factsOf Ledger.withFacts
  dsimp only
  rw [same, List.filter_append]
  congr 1
  rw [List.filter_eq_self]
  intro fact mem
  obtain ⟨row, -, rfl⟩ := List.mem_map.mp mem
  simp

theorem map_row_newFacts (inserted : List TypedRow) :
    (newFacts arguments attempt pageEvidenceId inserted).map (·.row) = inserted := by
  unfold newFacts
  rw [List.map_map]
  exact List.map_id inserted

variable {rows : List TypedRow}

theorem pairwise_of_readbackMatches (matching : readbackMatches rows = true) :
    rows.Pairwise fun row other => ¬row.SameVersion other := of_decide_eq_true matching

/-- Two rows of one version among rows of different versions are the same row. -/
theorem eq_of_sameVersion (apart : rows.Pairwise fun row other => ¬row.SameVersion other)
    (mem : row ∈ rows) (there : other ∈ rows) (same : row.SameVersion other) : row = other := by
  by_contra differ
  have symmetric : Std.Symm fun row other : TypedRow => ¬row.SameVersion other :=
    ⟨fun _ _ distinct same => distinct same.symm⟩
  exact apart.forall mem there differ same

variable (arguments attempt pageEvidenceId) in
theorem storedVersion_newFacts {inserted : List TypedRow}
    (apart : inserted.Pairwise fun row other => ¬row.SameVersion other) (mem : row ∈ inserted) :
    ∃ fact, storedVersion (newFacts arguments attempt pageEvidenceId inserted) row = some fact ∧ fact.row = row := by
  cases found : storedVersion (newFacts arguments attempt pageEvidenceId inserted) row with
  | none =>
    have none := (storedVersion_eq_none_iff).mp found
    exact absurd ⟨rfl, rfl⟩ (none _ (List.mem_map_of_mem mem))
  | some fact =>
    have version : fact.row.SameVersion row := of_decide_eq_true (List.find?_some found :)
    have there := List.mem_reverse.mp (List.mem_of_find?_eq_some found)
    obtain ⟨other, listed, rfl⟩ := List.mem_map.mp there
    exact ⟨_, rfl, eq_of_sameVersion apart listed mem version⟩

variable {stored : List FactRow}

theorem storedVersion_newFacts_of_stored {fact : FactRow} (found : storedVersion stored row = some fact) :
    storedVersion (newFacts arguments attempt pageEvidenceId (unstored stored rows)) row = none := by
  rw [storedVersion_eq_none_iff]
  intro new mem version
  obtain ⟨other, listed, rfl⟩ := List.mem_map.mp mem
  have missing := (List.mem_filter.mp listed).2
  rw [storedVersion_congr version, found] at missing
  exact absurd missing (by simp)

/-- **After a page was stored, its rows fit exactly when the inserted ones are read back as themselves.** -/
theorem fits_again_iff {isOpen : Bool} (fits : ∀ row ∈ rows, Fits B isOpen stored row)
    (apart : (unstored stored rows).Pairwise fun row other => ¬row.SameVersion other) : (∀ row ∈ rows, Fits B isOpen
        (stored ++ newFacts arguments attempt pageEvidenceId (unstored stored rows)) row) ↔
      ∀ row ∈ unstored stored rows, B.sameTyped row row = true := by
  have fits_iff : ∀ (facts : List FactRow) (row : TypedRow), Fits B isOpen facts row ↔
      match storedVersion facts row with
      | some fact => fact.row.payloadHash = row.payloadHash ∧ B.sameTyped fact.row row = true
      | none => isOpen = true := fun _ _ => Iff.rfl
  constructor
  · intro again row mem
    obtain ⟨listed, -⟩ := List.mem_filter.mp mem
    have here := (fits_iff _ _).mp (again row listed)
    obtain ⟨fact, found, own⟩ := storedVersion_newFacts arguments attempt pageEvidenceId apart mem
    rw [storedVersion_append, found, Option.some_or] at here
    exact own ▸ here.2
  · intro same row mem
    rw [fits_iff, storedVersion_append]
    cases found : storedVersion stored row with
    | some fact =>
      rw [storedVersion_newFacts_of_stored found, Option.none_or]
      have here := (fits_iff _ _).mp (fits row mem)
      rw [found] at here
      exact here
    | none =>
      have new : row ∈ unstored stored rows := List.mem_filter.mpr ⟨mem, by rw [found]; rfl⟩
      obtain ⟨fact, there, own⟩ := storedVersion_newFacts arguments attempt pageEvidenceId apart new
      rw [there, Option.some_or]
      exact ⟨congrArg _ own, own ▸ same row new⟩

variable (arguments attempt pageEvidenceId) in
theorem unstored_again (apart : (unstored stored rows).Pairwise fun row other => ¬row.SameVersion other) :
    unstored (stored ++ newFacts arguments attempt pageEvidenceId (unstored stored rows)) rows = [] := by
  unfold unstored
  rw [List.filter_eq_nil_iff]
  intro row mem
  rw [storedVersion_append]
  cases found : storedVersion stored row with
  | some fact => simp
  | none =>
    have new : row ∈ unstored stored rows := List.mem_filter.mpr ⟨mem, by rw [found]; rfl⟩
    obtain ⟨fact, there, -⟩ := storedVersion_newFacts arguments attempt pageEvidenceId apart new
    unfold unstored at there
    rw [there]
    simp

end Again

/-- Calling again with the same arguments succeeds, reports the same counts and payload hash, and adds no row. -/
def Replays (B : LedgerBuiltins) (arguments : FactArguments) (reply : FactAnswer) (after : Ledger) : Prop :=
  ∃ again, insertTypedFacts B arguments after = .ok (again, after) ∧
    again.acceptedRowCount = reply.acceptedRowCount ∧ again.rejectedRowCount = reply.rejectedRowCount ∧
    again.payloadHash = reply.payloadHash

/-- The numbers of each record of the page whose version is not stored for the attempt survive their columns. -/
def NewRowsSurvive (R : RowBuiltins) (arguments : FactArguments) (ledger : Ledger) : Prop :=
  ∀ attempt, ledger.attemptOfPage arguments.page = .ok attempt → ∀ record ∈ arguments.rows, ∀ row,
    buildTypedRow R arguments.pageId record = .ok row →
    (∀ fact ∈ ledger.factsOf arguments.pageId attempt.collectionAttemptId, ¬fact.row.SameVersion row) → Survives R row

theorem mem_typedOf {records : List Json} : row ∈ typedOf R pageId records ↔
    ∃ record ∈ records, buildTypedRow R pageId record = .ok row := by
  unfold typedOf
  rw [List.mem_filterMap]
  refine exists_congr fun record => and_congr_right fun _ => ?_
  cases buildTypedRow R pageId record with
  | ok built => simp [Except.toOption]
  | error e => simp [Except.toOption]

theorem mem_unstored {stored : List FactRow} {rows : List TypedRow} : row ∈ unstored stored rows ↔
    row ∈ rows ∧ ∀ fact ∈ stored, ¬fact.row.SameVersion row := by
  unfold unstored
  rw [List.mem_filter, Option.isNone_iff_eq_none, storedVersion_eq_none_iff]

theorem ledger_sameTyped (row other : TypedRow) :
    (R.ledger dates readDate).sameTyped row other = sameTyped R row other := by
  simp only [RowBuiltins.ledger]

variable {arguments : FactArguments}

/-- **An accepted page is replayed exactly when the numbers of its new rows survive their columns.** -/
theorem replays_iff {reply : FactAnswer} (written : ∀ record ∈ arguments.rows, record.Written)
    (accepted : insertTypedFacts (R.ledger dates readDate) arguments ledger = .ok (reply, after)) :
    Replays (R.ledger dates readDate) arguments reply after ↔ NewRowsSurvive R arguments ledger := by
  obtain ⟨admitted, attempt, id, known, paged, found, evidence, fits, -, rfl, readback, rfl⟩ :=
    (insertTypedFacts_ok_iff).mp accepted
  obtain ⟨facts, attempts⟩ := storePage_facts evidence
  generalize hs : ledger.factsOf arguments.pageId attempt.collectionAttemptId = stored at fits readback
  have apart : (unstored stored (typedOf R arguments.pageId arguments.rows)).Pairwise
      fun row other => ¬row.SameVersion other :=
    (List.pairwise_append.mp (pairwise_of_readbackMatches readback)).2.1
  have added : factsStored R arguments attempt id ledger =
      newFacts arguments attempt id (unstored stored (typedOf R arguments.pageId arguments.rows)) := by
    unfold factsStored
    rw [hs]
  rw [added]
  have later : (paged.withFacts (newFacts arguments attempt id
      (unstored stored (typedOf R arguments.pageId arguments.rows)))).factsOf arguments.pageId
      attempt.collectionAttemptId =
      stored ++ newFacts arguments attempt id (unstored stored (typedOf R arguments.pageId arguments.rows)) := by
    rw [factsOf_withFacts arguments attempt id facts, hs]
  generalize ha : paged.withFacts (newFacts arguments attempt id
    (unstored stored (typedOf R arguments.pageId arguments.rows))) = after at later ⊢
  have foundAgain : after.attemptOfPage arguments.page = .ok attempt := by
    have same : after.attempts = ledger.attempts := by
      rw [← ha]
      exact attempts
    rw [attemptOfPage_congr same]
    exact found
  have again : (∀ row ∈ typedOf R arguments.pageId arguments.rows, Fits (R.ledger dates readDate)
      (decide attempt.attemptStatus.Open) (after.factsOf arguments.pageId attempt.collectionAttemptId) row) ↔
      NewRowsSurvive R arguments ledger := by
    rw [later, fits_again_iff fits apart]
    constructor
    · intro same attempt' found' record mem row built none
      obtain rfl := Except.ok.inj (found.symm.trans found')
      rw [hs] at none
      have new := same row (mem_unstored.mpr ⟨(mem_typedOf).mpr ⟨record, mem, built⟩, none⟩)
      rw [ledger_sameTyped, sameTyped_self_iff (flatColumns_of_buildTypedRow (written record mem) built)] at new
      exact new
    · intro survive row new
      obtain ⟨listed, none⟩ := (mem_unstored).mp new
      obtain ⟨record, mem, built⟩ := (mem_typedOf).mp listed
      rw [ledger_sameTyped, sameTyped_self_iff (flatColumns_of_buildTypedRow (written record mem) built)]
      exact survive attempt found record mem row built (hs ▸ none)
  rw [← again]
  constructor
  · rintro ⟨reply, done, -⟩
    obtain ⟨-, attempt', -, -, -, found', -, fits', -⟩ := (insertTypedFacts_ok_iff).mp done
    obtain rfl := Except.ok.inj (foundAgain.symm.trans found')
    exact fits'
  · intro fits'
    have none : unstored (after.factsOf arguments.pageId attempt.collectionAttemptId)
        (typedOf R arguments.pageId arguments.rows) = [] := by
      rw [later]
      exact unstored_again _ _ _ apart
    have nothing : factsStored R arguments attempt id after = [] := by
      unfold factsStored
      rw [none]
      rfl
    refine ⟨_, (insertTypedFacts_ok_iff).mpr ⟨admitted, attempt, id, true, after, foundAgain,
      storePage_again evidence (by rw [← ha]; rfl), fits', ?_, ?_, ?_, rfl⟩, rfl, rfl, rfl⟩
    · rw [nothing]
      rfl
    · rw [nothing, Ledger.withFacts, List.append_nil]
    · rw [none, List.append_nil, later, List.map_append, map_row_newFacts]
      exact readback

/-! ## A record that comes twice -/

variable {attempt : CollectionAttempt}

theorem findAttempt_of_attemptOfPage {page : PageArguments}
    (found : ledger.attemptOfPage page = .ok attempt) : ledger.findAttempt page.attemptKey = some attempt := by
  unfold Ledger.attemptOfPage at found
  cases here : ledger.findAttempt page.attemptKey with
  | none =>
    rw [here] at found
    cases found
  | some row =>
    rw [here] at found
    obtain ⟨-, found⟩ := check_ok_iff.mp found
    rw [Except.ok.inj found]

/-- The counts of rows of a page fit the columns of its evidence. -/
def CountsFit (R : RowBuiltins) (pageId : PageId) (rows : List Json) : Prop :=
  fitsInteger (some (typedOf R pageId rows).length) = true ∧ fitsInteger (some (refusedOf R pageId rows).length) = true

theorem isSha256Hex_pageContent (admitted : Admitted arguments) (rows : List Json) :
    isSha256Hex (pageContent R arguments rows).payloadHash = true := by
  obtain ⟨-, -, -, -, -, own, -⟩ := admitted
  unfold pageContent
  dsimp only
  cases given : arguments.sourcePayloadHash with
  | none => exact R.digest.isSha256Hex_sha256Hex _
  | some hash =>
    rw [given] at own
    simpa using own

theorem fetchStatus_pageContent (arguments : FactArguments) (rows : List Json) :
    (pageContent R arguments rows).fetchStatus = .succeeded ↔ (pageContent R arguments rows).rejectedRowCount = 0 := by
  unfold pageContent
  dsimp only
  split
  · next some => simp [Nat.ne_of_gt some]
  · next none => simp [Nat.le_zero.mp (not_lt.mp none)]

/-- **The evidence of a new page is stored whatever its rows are**, if their counts fit. -/
theorem storePage_of_counts {stored : Nat × Bool} {rows others : List Json} (admitted : Admitted arguments)
    (fresh : ∀ row ∈ ledger.pages, row.pageKey ≠ pageKey (R.ledger dates readDate) arguments.page)
    (done : ledger.storePage (R.ledger dates readDate) attempt arguments.page (pageContent R arguments rows) =
      .ok (stored, after)) (counts : CountsFit R arguments.pageId others) :
    ∃ later, ledger.storePage (R.ledger dates readDate) attempt arguments.page (pageContent R arguments others) =
      .ok (stored, later) := by
  have hash := isSha256Hex_pageContent (R := R) admitted others
  have status := fetchStatus_pageContent (R := R) arguments others
  rcases (storePage_ok_iff).mp done with ⟨row, found, -⟩ | ⟨missing, isOpen, insertion, rfl⟩
  · exact absurd (of_decide_eq_true (List.find?_some found :)) (fresh row (List.mem_of_find?_eq_some found))
  · obtain ⟨observedAt, observed, guarded, checked, -⟩ := (insertPage_ok_iff).mp insertion
    refine ⟨_, (storePage_ok_iff).mpr (.inr ⟨missing, isOpen, (insertPage_ok_iff).mpr ⟨observedAt, observed, guarded, ?_, rfl⟩,
      rfl⟩)⟩
    simp only [checkPageEvidence, check_ok_iff, refuse_eq_ok, not_not] at checked ⊢
    obtain ⟨-, ⟨key, fingerprint, schema, -⟩, paging, http, -, keys, numbers⟩ := checked
    exact ⟨counts, ⟨key, fingerprint, schema, hash⟩, paging, http, status, keys, numbers⟩

def FactArguments.withRows (arguments : FactArguments) (rows : List Json) : FactArguments := { arguments with rows }

/-- A page with a record twice is accepted, stores what two pages with the record store, and reports their counts
together. -/
def TreatedAlike (B : LedgerBuiltins) (onePage : FactArguments) (ledger : Ledger) (first second : FactAnswer)
    (twoPages : Ledger) : Prop :=
  ∃ reply after, insertTypedFacts B onePage ledger = .ok (reply, after) ∧ after.facts = twoPages.facts ∧
    reply.acceptedRowCount = first.acceptedRowCount + second.acceptedRowCount ∧
    reply.rejectedRowCount = first.rejectedRowCount + second.rejectedRowCount ∧
    reply.insertedRowCount = first.insertedRowCount + second.insertedRowCount ∧
    reply.replayedRowCount = first.replayedRowCount + second.replayedRowCount

/-- The page is new, the counts of its rows fit, and its record is refused or of a version that is stored for the attempt
already. -/
def MayComeTwice (B : LedgerBuiltins) (R : RowBuiltins) (onePage : FactArguments) (ledger : Ledger) (record : Json) :
    Prop :=
  (∀ row ∈ ledger.pages, row.pageKey ≠ pageKey B onePage.page) ∧ CountsFit R onePage.pageId onePage.rows ∧
    ∀ attempt, ledger.attemptOfPage onePage.page = .ok attempt → ∀ row, buildTypedRow R onePage.pageId record = .ok row →
      ∃ fact ∈ ledger.factsOf onePage.pageId attempt.collectionAttemptId, fact.row.SameVersion row

variable (rows others : List Json)

theorem typedOf_append : typedOf R pageId (rows ++ others) = typedOf R pageId rows ++ typedOf R pageId others :=
  List.filterMap_append

theorem refusedOf_append :
    refusedOf R pageId (rows ++ others) = refusedOf R pageId rows ++ refusedOf R pageId others :=
  List.filterMap_append

variable (R pageId) in
theorem typed_or_refused (record : Json) :
    (∃ row, buildTypedRow R pageId record = .ok row ∧ typedOf R pageId [record] = [row] ∧
      refusedOf R pageId [record] = []) ∨
    (∃ code, (∀ row, buildTypedRow R pageId record ≠ .ok row) ∧ typedOf R pageId [record] = [] ∧
      refusedOf R pageId [record] = [code]) := by
  unfold typedOf refusedOf
  simp only [List.filterMap_cons, List.filterMap_nil, refusalCode]
  cases outcome : buildTypedRow R pageId record with
  | ok row => exact .inl ⟨row, rfl, rfl, rfl⟩
  | error refusal =>
    obtain ⟨code, rfl⟩ := refuses_buildTypedRow record refusal outcome
    exact .inr ⟨code, nofun, rfl, rfl⟩

theorem unstored_append (stored : List FactRow) (rows others : List TypedRow) :
    unstored stored (rows ++ others) = unstored stored rows ++ unstored stored others := List.filter_append ..

section Twice

variable {arguments : FactArguments} {next : PageArguments} {payload : Option String} {front back : List Json}
  {record : Json} {first second : FactAnswer} {onePage twoPages : Ledger}

theorem typedOf_twice : typedOf R pageId (front ++ record :: back) =
    typedOf R pageId front ++ (typedOf R pageId [record] ++ typedOf R pageId back) := by
  rw [typedOf_append, ← typedOf_append [record]]
  rfl

theorem refusedOf_twice : refusedOf R pageId (front ++ record :: back) =
    refusedOf R pageId front ++ (refusedOf R pageId [record] ++ refusedOf R pageId back) := by
  rw [refusedOf_append, ← refusedOf_append [record]]
  rfl

/-- The second occurrence adds one to the accepted or to the refused rows. -/
theorem counts_twice : (typedOf R pageId (front ++ record :: back)).length +
    (refusedOf R pageId (front ++ record :: back)).length =
      (typedOf R pageId (front ++ back)).length + (refusedOf R pageId (front ++ back)).length + 1 := by
  rw [typedOf_twice, refusedOf_twice, typedOf_append, refusedOf_append]
  rcases typed_or_refused R pageId record with ⟨row, -, typed, refused⟩ | ⟨code, -, typed, refused⟩
  · rw [typed, refused]
    simp only [List.length_append, List.length_singleton, List.length_nil]
    omega
  · rw [typed, refused]
    simp only [List.length_append, List.length_singleton, List.length_nil]
    omega

/-- The rows of the page that have no stored version, if the version of the record is stored. -/
theorem unstored_twice {stored : List FactRow}
    (known : ∀ row, buildTypedRow R pageId record = .ok row → ∃ fact ∈ stored, fact.row.SameVersion row) :
    unstored stored (typedOf R pageId (front ++ record :: back)) =
      unstored stored (typedOf R pageId (front ++ back)) := by
  have none : unstored stored (typedOf R pageId [record]) = [] := by
    rcases typed_or_refused R pageId record with ⟨row, built, typed, -⟩ | ⟨code, -, typed, -⟩
    · obtain ⟨fact, mem, version⟩ := known row built
      rw [typed]
      refine List.eq_nil_iff_forall_not_mem.mpr fun other there => ?_
      obtain ⟨here, missing⟩ := (mem_unstored).mp there
      obtain rfl := List.mem_singleton.mp here
      exact missing fact mem version
    · rw [typed]
      rfl
  rw [typedOf_twice, unstored_append, unstored_append, none, List.nil_append, typedOf_append, unstored_append]

/-- The typed rows of the page are those without the second occurrence. -/
theorem mem_typedOf_twice (twice : record ∈ front) :
    row ∈ typedOf R pageId (front ++ record :: back) ↔ row ∈ typedOf R pageId (front ++ back) := by
  simp only [mem_typedOf, List.mem_append, List.mem_cons]
  constructor
  · rintro ⟨other, here | rfl | there, built⟩
    · exact ⟨other, .inl here, built⟩
    · exact ⟨other, .inl twice, built⟩
    · exact ⟨other, .inr there, built⟩
  · rintro ⟨other, here | there, built⟩
    · exact ⟨other, .inl here, built⟩
    · exact ⟨other, .inr (.inr there), built⟩

/-- **On a page of its own the second occurrence is a replay**: nothing is inserted. -/
theorem second_page (twice : record ∈ front)
    (one : insertTypedFacts (R.ledger dates readDate) (arguments.withRows (front ++ back)) ledger = .ok (first, onePage))
    (two : insertTypedFacts (R.ledger dates readDate) ⟨arguments.pageId, next, payload, [record]⟩ onePage =
      .ok (second, twoPages)) (sameAttempt : next.attemptKey = arguments.page.attemptKey) :
    twoPages.facts = onePage.facts ∧ second.acceptedRowCount = (typedOf R arguments.pageId [record]).length ∧
      second.rejectedRowCount = (refusedOf R arguments.pageId [record]).length ∧ second.insertedRowCount = 0 ∧
      second.replayedRowCount = (typedOf R arguments.pageId [record]).length := by
  obtain ⟨-, attempt, id, known, paged, found, evidence, -, -, rfl, readback, -⟩ := (insertTypedFacts_ok_iff).mp one
  obtain ⟨-, attempt', id', known', paged', found', evidence', -, -, rfl, -, rfl⟩ := (insertTypedFacts_ok_iff).mp two
  obtain ⟨facts, attempts⟩ := storePage_facts evidence
  obtain ⟨facts', -⟩ := storePage_facts evidence'
  -- Both pages are of one attempt.
  have key := findAttempt_of_attemptOfPage found
  have key' := findAttempt_of_attemptOfPage found'
  unfold Ledger.findAttempt at key key'
  have keys : (paged.withFacts (factsStored R (arguments.withRows (front ++ back)) attempt id ledger)).attempts =
    ledger.attempts := attempts
  rw [sameAttempt, keys] at key'
  obtain rfl := Option.mem_unique key key'
  -- The version of the record is stored by the first page.
  have apart := (List.pairwise_append.mp (pairwise_of_readbackMatches readback)).2.1
  have again := unstored_again (arguments.withRows (front ++ back)) attempt id apart
  rw [← factsOf_withFacts (arguments.withRows (front ++ back)) attempt id facts] at again
  have none : unstored ((paged.withFacts (factsStored R (arguments.withRows (front ++ back)) attempt id ledger)).factsOf
      arguments.pageId attempt.collectionAttemptId) (typedOf R arguments.pageId [record]) = [] := by
    refine List.eq_nil_iff_forall_not_mem.mpr fun row mem => ?_
    obtain ⟨here, missing⟩ := (mem_unstored).mp mem
    obtain ⟨other, listed, built⟩ := (mem_typedOf).mp here
    obtain rfl := List.mem_singleton.mp listed
    have stored : row ∈ typedOf R arguments.pageId (front ++ back) :=
      (mem_typedOf).mpr ⟨other, List.mem_append_left _ twice, built⟩
    exact List.not_mem_nil (again ▸ (mem_unstored).mpr ⟨stored, missing⟩)
  have nothing : factsStored R ⟨arguments.pageId, next, payload, [record]⟩ attempt id'
      (paged.withFacts (factsStored R (arguments.withRows (front ++ back)) attempt id ledger)) = [] := by
    unfold factsStored at none ⊢
    dsimp only
    rw [none]
    rfl
  refine ⟨?_, rfl, rfl, ?_, ?_⟩
  · rw [nothing, Ledger.withFacts, List.append_nil, facts']
  · exact congrArg List.length none
  · change _ - (unstored _ _).length = _
    rw [none]
    rfl

/-- **A record that comes twice on one page is treated as on two pages exactly when the page is new, its counts fit, and
the record is refused or stored before.** -/
theorem treatedAlike_iff (twice : record ∈ front)
    (one : insertTypedFacts (R.ledger dates readDate) (arguments.withRows (front ++ back)) ledger = .ok (first, onePage))
    (two : insertTypedFacts (R.ledger dates readDate) ⟨arguments.pageId, next, payload, [record]⟩ onePage =
      .ok (second, twoPages)) (sameAttempt : next.attemptKey = arguments.page.attemptKey) :
    TreatedAlike (R.ledger dates readDate) (arguments.withRows (front ++ record :: back)) ledger first second twoPages ↔
      MayComeTwice (R.ledger dates readDate) R (arguments.withRows (front ++ record :: back)) ledger record := by
  obtain ⟨facts, accepted, rejected, inserted, replayed⟩ := second_page twice one two sameAttempt
  obtain ⟨admitted, attempt, id, known, paged, found, evidence, fits, refusal, rfl, readback, rfl⟩ :=
    (insertTypedFacts_ok_iff).mp one
  obtain ⟨pagedFacts, -⟩ := storePage_facts evidence
  constructor
  · rintro ⟨reply, after, done, -⟩
    obtain ⟨-, attempt', id', known', paged', found', evidence', -, -, -, readback', -⟩ := (insertTypedFacts_ok_iff).mp done
    obtain rfl := Except.ok.inj (found.symm.trans found')
    -- A stored page cannot be an exact replay of pages with different counts.
    have more : (typedOf R arguments.pageId (front ++ record :: back)).length +
        (refusedOf R arguments.pageId (front ++ record :: back)).length =
        (typedOf R arguments.pageId (front ++ back)).length + (refusedOf R arguments.pageId (front ++ back)).length + 1 :=
      counts_twice
    rcases (storePage_ok_iff).mp evidence' with ⟨row, stored, exact', -⟩ | ⟨missing, -, insertion, -⟩
    · rcases (storePage_ok_iff).mp evidence with ⟨same, stored', exact, -⟩ | ⟨missing, -⟩
      · obtain rfl := Option.mem_unique stored stored'
        obtain ⟨-, -, -, -, -, typedCount, refusedCount, -⟩ := (exactPage_iff).mp exact
        obtain ⟨-, -, -, -, -, typedCount', refusedCount', -⟩ := (exactPage_iff).mp exact'
        have typedSame := typedCount.symm.trans typedCount'
        have refusedSame := refusedCount.symm.trans refusedCount'
        dsimp only [pageContent, FactArguments.withRows] at typedSame refusedSame
        omega
      · exact absurd (stored.symm.trans missing) nofun
    refine ⟨fun row mem same => ?_, ?_, ?_⟩
    · exact List.find?_eq_none.mp missing row mem (decide_eq_true same)
    · obtain ⟨_, -, -, checked, -⟩ := (insertPage_ok_iff).mp insertion
      have counts := (check_ok_iff.mp checked).1
      rwa [refuse_eq_ok, not_not] at counts
    · intro attempt'' found'' row built
      obtain rfl := Except.ok.inj (found.symm.trans found'')
      by_contra absent
      have none : ∀ fact ∈ ledger.factsOf arguments.pageId attempt.collectionAttemptId, ¬fact.row.SameVersion row :=
        fun fact mem version => absent ⟨fact, mem, version⟩
      -- Both occurrences are inserted, so that the read back finds fewer rows.
      have apart := (List.pairwise_append.mp (pairwise_of_readbackMatches readback')).2.1
      have rows : unstored (ledger.factsOf arguments.pageId attempt.collectionAttemptId)
          (typedOf R arguments.pageId (front ++ record :: back)) =
          unstored (ledger.factsOf arguments.pageId attempt.collectionAttemptId) (typedOf R arguments.pageId front) ++
            unstored (ledger.factsOf arguments.pageId attempt.collectionAttemptId)
              (typedOf R arguments.pageId [record] ++ typedOf R arguments.pageId back) := by
        rw [typedOf_twice, unstored_append]
      have distinct := (List.pairwise_append.mp (rows ▸ apart)).2.2
      refine distinct row (mem_unstored.mpr ⟨(mem_typedOf).mpr ⟨record, twice, built⟩, none⟩) row
        (mem_unstored.mpr ⟨List.mem_append_left _ (mem_typedOf.mpr ⟨record, List.mem_singleton_self _, built⟩), none⟩)
        ⟨rfl, rfl⟩
  · rintro ⟨fresh, counts, stored⟩
    obtain ⟨last, evidence'⟩ := storePage_of_counts admitted fresh evidence counts
    obtain ⟨lastFacts, -⟩ := storePage_facts evidence'
    have rows : unstored (ledger.factsOf arguments.pageId attempt.collectionAttemptId)
        (typedOf R arguments.pageId (front ++ record :: back)) =
        unstored (ledger.factsOf arguments.pageId attempt.collectionAttemptId)
          (typedOf R arguments.pageId (front ++ back)) := unstored_twice (stored attempt found)
    have same : factsStored R (arguments.withRows (front ++ record :: back)) attempt id ledger =
        factsStored R (arguments.withRows (front ++ back)) attempt id ledger := by
      unfold factsStored
      exact congrArg _ rows
    have few : (unstored (ledger.factsOf arguments.pageId attempt.collectionAttemptId)
        (typedOf R arguments.pageId (front ++ back))).length ≤ (typedOf R arguments.pageId (front ++ back)).length :=
      List.length_filter_le ..
    have typedCount : (typedOf R arguments.pageId (front ++ record :: back)).length =
        (typedOf R arguments.pageId (front ++ back)).length + (typedOf R arguments.pageId [record]).length := by
      rw [typedOf_twice, typedOf_append]
      simp only [List.length_append]
      omega
    refine ⟨_, _, (insertTypedFacts_ok_iff).mpr ⟨admitted, attempt, id, known, last, found, evidence', ?_, ?_, rfl, ?_,
      rfl⟩, ?_, ?_, ?_, ?_, ?_⟩
    · intro row mem
      exact fits row ((mem_typedOf_twice twice).mp mem)
    · rw [same, lastFacts, ← pagedFacts]
      exact refusal
    · change readbackMatches (_ ++ unstored (ledger.factsOf arguments.pageId attempt.collectionAttemptId)
        (typedOf R arguments.pageId (front ++ record :: back))) = true
      rw [rows]
      exact readback
    · rw [facts, same]
      unfold Ledger.withFacts
      dsimp only
      rw [lastFacts, pagedFacts]
    · change (typedOf R arguments.pageId (front ++ record :: back)).length =
        (typedOf R arguments.pageId (front ++ back)).length + second.acceptedRowCount
      exact accepted ▸ typedCount
    · change (refusedOf R arguments.pageId (front ++ record :: back)).length =
        (refusedOf R arguments.pageId (front ++ back)).length + second.rejectedRowCount
      rw [rejected, refusedOf_twice, refusedOf_append]
      simp only [List.length_append]
      omega
    · change (unstored _ (typedOf R arguments.pageId (front ++ record :: back))).length = _
      rw [inserted]
      exact congrArg List.length rows
    · change (typedOf R arguments.pageId (front ++ record :: back)).length -
          (unstored (ledger.factsOf arguments.pageId attempt.collectionAttemptId)
            (typedOf R arguments.pageId (front ++ record :: back))).length =
        (typedOf R arguments.pageId (front ++ back)).length -
          (unstored (ledger.factsOf arguments.pageId attempt.collectionAttemptId)
            (typedOf R arguments.pageId (front ++ back))).length + second.replayedRowCount
      rw [rows, replayed, typedCount]
      omega

end Twice

/-- **A page that was accepted is replayed exactly when the numbers of its new rows survive their columns, and a record
that comes twice on a page is treated as on two pages of the attempt exactly when the page is new, its counts fit, and the
record is refused or stored before.** -/
theorem insertTypedFacts_replay_law (arguments : FactArguments) (ledger : Ledger)
    (written : ∀ record ∈ arguments.rows, record.Written) :
    (∀ reply after, insertTypedFacts (R.ledger dates readDate) arguments ledger = .ok (reply, after) →
      (Replays (R.ledger dates readDate) arguments reply after ↔ NewRowsSurvive R arguments ledger)) ∧
    ∀ front record back next payload first second onePage twoPages, arguments.rows = front ++ record :: back →
      record ∈ front → next.attemptKey = arguments.page.attemptKey →
      insertTypedFacts (R.ledger dates readDate) (arguments.withRows (front ++ back)) ledger = .ok (first, onePage) →
      insertTypedFacts (R.ledger dates readDate) ⟨arguments.pageId, next, payload, [record]⟩ onePage =
        .ok (second, twoPages) →
      (TreatedAlike (R.ledger dates readDate) arguments ledger first second twoPages ↔
        MayComeTwice (R.ledger dates readDate) R arguments ledger record) := by
  constructor
  · intro reply after accepted
    exact replays_iff written accepted
  · intro front record back next payload first second onePage twoPages rows twice sameAttempt one two
    have same : arguments.withRows (front ++ record :: back) = arguments := by
      unfold FactArguments.withRows
      rw [← rows]
    have alike := treatedAlike_iff twice one two sameAttempt
    rwa [same] at alike

variable {arguments : FactArguments}

/-! ## New pages -/

structure NewPage (R : RowBuiltins) (B : LedgerBuiltins) (arguments : FactArguments) (attempt : CollectionAttempt)
    (ledger : Ledger) : Prop where
  admitted : Admitted arguments
  found : ledger.attemptOfPage arguments.page = .ok attempt
  isOpen : attempt.attemptStatus.Open
  others : ∀ other ∈ ledger.attempts, other.collectionAttemptId = attempt.collectionAttemptId → other.attemptStatus.Open
  key : ∀ row ∈ ledger.pages, row.pageKey ≠ pageKey B arguments.page
  number : ∀ row ∈ ledger.pages, ¬(row.collectionAttemptId = attempt.collectionAttemptId ∧
    row.pageNumber = arguments.page.pageNumber)
  observed : arguments.page.observedAt.isSome = true
  counts : CountsFit R arguments.pageId arguments.rows

variable {attempt : CollectionAttempt}

theorem storePage_new (new : NewPage R (R.ledger dates readDate) arguments attempt ledger) :
    ∃ observedAt, ledger.storePage (R.ledger dates readDate) attempt arguments.page
        (pageContent R arguments arguments.rows) = .ok ((ledger.nextPageId, false), ledger.withPage
      (pageRow (R.ledger dates readDate) attempt arguments.page (pageContent R arguments arguments.rows) ledger.nextPageId
        observedAt)) := by
  obtain ⟨observedAt, observed⟩ := Option.isSome_iff_exists.mp new.observed
  obtain ⟨-, -, -, fingerprint, schema, -, paging, http, -⟩ := new.admitted
  simp only [requireHex64, checkPage, checkHttpStatus, check_ok_iff, refuse_eq_ok, not_not] at fingerprint schema paging http
  refine ⟨observedAt, (storePage_ok_iff).mpr (.inr ⟨List.find?_eq_none.mpr fun row mem same =>
    new.key row mem (of_decide_eq_true same), new.isOpen, (insertPage_ok_iff).mpr ⟨observedAt, observed, ?_, ?_, rfl⟩, rfl⟩)⟩
  · rw [guardPageEvidenceMutation, refuse_eq_ok]
    rintro ⟨other, mem, own, closed⟩
    exact closed (new.others other mem own)
  · simp only [checkPageEvidence, check_ok_iff, refuse_eq_ok, not_not]
    refine ⟨new.counts, ⟨R.digest.isSha256Hex_sha256Hex _, fingerprint, schema, isSha256Hex_pageContent new.admitted _⟩,
      ?_, http, fetchStatus_pageContent arguments arguments.rows, ?_, ?_⟩
    · dsimp only [pageRow]
      omega
    · rintro ⟨other, mem, same⟩
      exact new.key other mem same
    · rintro ⟨other, mem, own, same⟩
      exact new.number other mem ⟨own, same⟩

/-- **A new page of storable rows is accepted.** -/
theorem accepts_new_page (new : NewPage R (R.ledger dates readDate) arguments attempt ledger)
    (fits : ∀ row ∈ typedOf R arguments.pageId arguments.rows, Fits (R.ledger dates readDate)
      (decide attempt.attemptStatus.Open) (ledger.factsOf arguments.pageId attempt.collectionAttemptId) row)
    (storable : factRefusal ledger.facts (factsStored R arguments attempt ledger.nextPageId ledger) = none)
    (apart : readbackMatches ((ledger.factsOf arguments.pageId attempt.collectionAttemptId).map (·.row) ++
      unstored (ledger.factsOf arguments.pageId attempt.collectionAttemptId)
        (typedOf R arguments.pageId arguments.rows)) = true) :
    ∃ reply after row, insertTypedFacts (R.ledger dates readDate) arguments ledger = .ok (reply, after) ∧
      after.facts = ledger.facts ++ factsStored R arguments attempt ledger.nextPageId ledger ∧
      after.attempts = ledger.attempts ∧ after.pages = ledger.pages ++ [row] ∧
      row.pageKey = pageKey (R.ledger dates readDate) arguments.page ∧ row.pageNumber = arguments.page.pageNumber := by
  obtain ⟨observedAt, evidence⟩ := storePage_new new
  exact ⟨_, _, _, (insertTypedFacts_ok_iff).mpr ⟨new.admitted, attempt, _, _, _, new.found, evidence, fits, storable, rfl,
    apart, rfl⟩, rfl, rfl, rfl, rfl, rfl⟩

end Ledger

/-! ## Pages of returns -/

def amountNumber (text : String) : Option JsNumber :=
  if text = "12.5000" then some (.fraction "12.5")
  else if text = "0.1235" then some (.fraction "0.1235")
  else none

theorem written_amount (text : String) (head : '1' :: '2' :: '.' :: ['5'] = text.toList ∨
    '0' :: '.' :: ['1', '2', '3', '5'] = text.toList) : (JsNumber.fraction text).Written := by
  rcases head with chars | chars
  · simp only [JsNumber.Written, PointedText, ← chars]
    exact ⟨⟨⟨'1', _, rfl, .inl rfl⟩, '.', by simp, .inl rfl⟩, by simp [isNumberChar], by simp⟩
  · simp only [JsNumber.Written, PointedText, ← chars]
    exact ⟨⟨⟨'0', _, rfl, .inl rfl⟩, '.', by simp, .inl rfl⟩, by simp [isNumberChar], by simp⟩

def amountBuiltins : RowBuiltins where
  digest := smallDigest
  number := amountNumber
  written_number text n read := by
    unfold amountNumber at read
    split_ifs at read
    · obtain rfl := Option.some.inj read
      exact written_amount _ (.inl (by simp))
    · obtain rfl := Option.some.inj read
      exact written_amount _ (.inr (by simp))
  upper := asciiUpper
  lower := plainRowBuiltins.lower
  dateOfText _ := none
  dateOfNumber _ := none

def amountLedger : LedgerBuiltins :=
  amountBuiltins.ledger ⟨parseIsoDate, fun parsed => parsed⟩ fun day => some (toIsoDate day)

def digits64 (c : Char) : String := String.ofList (List.replicate 64 c)

def returnsPage (pageNumber : Nat) (rows : List Json) : FactArguments where
  pageId := .returnOrders
  page := {
    storeCode := "DL0001"
    endpointCode := "RETURN_ORDERS_PAGE"
    attemptKey := digits64 'a'
    pageNumber
    pageSize := 100
    pageRequestFingerprint := digits64 'b'
    responseSchemaHash := digits64 'c'
    observedAt := some 1786000000000 }
  rows

def returnsAttempt : CollectionAttempt where
  collectionAttemptId := 1
  collectionRunId := 1
  storeCode := "DL0001"
  endpointCode := "RETURN_ORDERS_PAGE"
  attemptKey := digits64 'a'
  requestSchemaHash := digits64 'd'
  requestFingerprint := digits64 'e'
  window := none
  attemptStatus := .running
  expectedRowCount := none
  startedAt := some 1
  createdAt := 1

def returnsLedger : Ledger where
  attempts := [returnsAttempt]
  nextAttemptId := 2

def returned (amount : String) : List (String × Json) :=
  [("returnOrderNo", .str "R1"), ("returnAmount", .num (.fraction amount))]

variable {pageNumber : Nat}

theorem newPage_returns {ledger : Ledger} {rows : List Json}
    (attempts : ledger.attempts = [returnsAttempt]) (small : 1 ≤ pageNumber ∧ pageNumber ≤ 1000)
    (few : rows.length ≤ 1000)
    (key : ∀ row ∈ ledger.pages, row.pageKey ≠ pageKey amountLedger (returnsPage pageNumber rows).page)
    (number : ∀ row ∈ ledger.pages, row.pageNumber ≠ pageNumber) :
    NewPage amountBuiltins amountLedger (returnsPage pageNumber rows) returnsAttempt ledger where
  admitted := by
    unfold Admitted requireStoreCode requireEndpointCode requireHex64 checkPage checkHttpStatus
    simp only [check_ok_iff, refuse_eq_ok, not_not]
    refine ⟨(by decide : isStoreCode "DL0001" = true),
      (by decide : isEndpointCode "RETURN_ORDERS_PAGE" = true), isSha256Hex_replicate (by decide), isSha256Hex_replicate (by decide),
      isSha256Hex_replicate (by decide), rfl, ?_, by simp [returnsPage], rfl⟩
    change ¬(pageNumber < 1 ∨ 1000 < pageNumber) ∧ ¬(100 < 1 ∨ 1000 < 100)
    omega
  found := by
    unfold Ledger.attemptOfPage Ledger.findAttempt
    rw [attempts]
    simp [returnsAttempt, returnsPage, refuse, pure, Except.pure, bind, Except.bind]
  isOpen := .inr rfl
  others := by
    rw [attempts]
    intro other mem same
    rw [List.mem_singleton.mp mem]
    exact .inr rfl
  key := key
  number row mem same := number row mem same.2
  observed := rfl
  counts := by
    have bounds : ∀ {n : Nat}, n ≤ rows.length → fitsInteger (some n) = true := by
      intro n bound
      unfold fitsInteger
      rw [Option.all_some, decide_eq_true_eq]
      omega
    exact ⟨bounds (List.length_filterMap_le ..), bounds (List.length_filterMap_le ..)⟩

/-- The number of a column is read back as itself. -/
def survivesColumn (R : RowBuiltins) (field : String × Json) : Bool :=
  match numericScale field.1, field.2 with
  | some scale, .num n => R.number (fixedText scale (roundUnits scale (JsNumber.decimal n))) = some n
  | _, _ => true

theorem survives_of_all (all : row.typed.all (survivesColumn R) = true) : Survives R row := by
  intro column scale n numeric found
  rw [Json.field?, Option.map_eq_some_iff] at found
  obtain ⟨field, there, value⟩ := found
  have name : field.1 = column := of_decide_eq_true (List.find?_some there :)
  have here := List.all_eq_true.mp all field (List.mem_of_find?_eq_some there)
  unfold survivesColumn at here
  rw [name, numeric, value] at here
  exact of_decide_eq_true here

theorem survives_column (survives : Survives R row) {value : Json} (found : (Json.obj row.typed).field? column = some value) :
    survivesColumn R (column, value) = true := by
  unfold survivesColumn
  split
  · next scale n numeric number =>
    exact decide_eq_true (survives column scale n numeric (number ▸ found))
  · rfl

def returnFact (row : TypedRow) : FactRow := ⟨.returnOrders, "DL0001", 1, 1, some 1786000000000, row⟩

theorem storedVersion_returnFact : storedVersion [returnFact row] row = some (returnFact row) := by
  simp [storedVersion, returnFact, TypedRow.SameVersion]

theorem fits_returnFact (flat : row.FlatColumns) (survives : Survives amountBuiltins row) :
    Fits amountLedger true [returnFact row] row := by
  unfold Fits amountLedger
  rw [storedVersion_returnFact]
  exact ⟨rfl, (ledger_sameTyped row row).trans ((sameTyped_self_iff flat).mpr survives)⟩

def storableReturn (test : List (String × Json) → Bool) (amount : String) : Bool :=
  match buildTypedRow amountBuiltins .returnOrders (.obj (returned amount)) with
  | .ok row => (factRefusal [] [returnFact row]).isNone && test row.typed
  | .error _ => false

theorem typedOf_singleton {record : Json} (built : buildTypedRow R pageId record = .ok row) :
    typedOf R pageId [record] = [row] := by
  unfold typedOf
  rw [List.filterMap_cons, built]
  rfl

/-- A return order that can be stored is accepted as the first page. -/
theorem accepted_return {test : List (String × Json) → Bool} {amount : String} (storable : storableReturn test amount = true) :
    ∃ row reply after page, buildTypedRow amountBuiltins .returnOrders (.obj (returned amount)) = .ok row ∧
      test row.typed = true ∧
      insertTypedFacts amountLedger (returnsPage 1 [.obj (returned amount)]) returnsLedger = .ok (reply, after) ∧
      after.facts = [returnFact row] ∧ after.attempts = [returnsAttempt] ∧ after.pages = [page] ∧
      page.pageKey = pageKey amountLedger (returnsPage 1 []).page ∧ page.pageNumber = 1 := by
  unfold storableReturn at storable
  split at storable
  · next row built =>
    obtain ⟨free, passes⟩ := Bool.and_eq_true_iff.mp storable
    have rows := typedOf_singleton built
    have facts : factsStored amountBuiltins (returnsPage 1 [.obj (returned amount)]) returnsAttempt 1 returnsLedger =
        [returnFact row] := by
      unfold factsStored
      change newFacts _ _ _ (unstored [] (typedOf amountBuiltins .returnOrders [.obj (returned amount)])) = _
      rw [rows]
      rfl
    have new : NewPage amountBuiltins amountLedger (returnsPage 1 [.obj (returned amount)]) returnsAttempt returnsLedger :=
      newPage_returns rfl ⟨le_rfl, by decide⟩ (by simp) nofun nofun
    have apart : readbackMatches (([] : List FactRow).map (·.row) ++
        unstored [] (typedOf amountBuiltins .returnOrders [.obj (returned amount)])) = true := by
      rw [rows]
      rfl
    have refusal : factRefusal returnsLedger.facts (factsStored amountBuiltins (returnsPage 1 [.obj (returned amount)])
        returnsAttempt returnsLedger.nextPageId returnsLedger) = none := by
      rw [show returnsLedger.nextPageId = 1 from rfl, facts]
      exact Option.isNone_iff_eq_none.mp free
    obtain ⟨reply, after, page, done, added, kept, pages, keyed⟩ :=
      accepts_new_page new (fun row mem => rfl) refusal apart
    rw [show returnsLedger.nextPageId = 1 from rfl, facts] at added
    exact ⟨row, reply, after, page, built, passes, done, added, kept, pages, keyed⟩
  · cases storable

theorem written_returned {amount : String} (written : (JsNumber.fraction amount).Written) :
    (Json.obj (returned amount)).Written := by
  simp only [returned, Json.Written, WrittenFields, and_true, true_and]
  exact written

theorem storable_survives : storableReturn (fun typed => typed.all (survivesColumn amountBuiltins)) "12.5" = true := by
  decide +kernel

/-- A page none of whose rows is new is accepted, and stores no row. -/
theorem accepted_stored {ledger : Ledger} {records : List Json} (attempts : ledger.attempts = [returnsAttempt])
    (small : 1 ≤ pageNumber ∧ pageNumber ≤ 1000) (few : records.length ≤ 1000)
    (key : ∀ row ∈ ledger.pages, row.pageKey ≠ pageKey amountLedger (returnsPage pageNumber records).page)
    (number : ∀ row ∈ ledger.pages, row.pageNumber ≠ pageNumber)
    (known : unstored (ledger.factsOf .returnOrders 1) (typedOf amountBuiltins .returnOrders records) = [])
    (fits : ∀ row ∈ typedOf amountBuiltins .returnOrders records,
      Fits amountLedger true (ledger.factsOf .returnOrders 1) row)
    (apart : readbackMatches ((ledger.factsOf .returnOrders 1).map (·.row)) = true) :
    ∃ reply after row, insertTypedFacts amountLedger (returnsPage pageNumber records) ledger = .ok (reply, after) ∧
      after.facts = ledger.facts ∧ after.attempts = [returnsAttempt] ∧ after.pages = ledger.pages ++ [row] ∧
      row.pageKey = pageKey amountLedger (returnsPage pageNumber []).page ∧ row.pageNumber = pageNumber := by
  have none : factsStored amountBuiltins (returnsPage pageNumber records) returnsAttempt ledger.nextPageId ledger = [] := by
    unfold factsStored
    change newFacts _ _ _ (unstored (ledger.factsOf .returnOrders 1) (typedOf amountBuiltins .returnOrders records)) = _
    rw [known]
    rfl
  obtain ⟨reply, after, row, done, facts, kept, added⟩ :=
    accepts_new_page (newPage_returns attempts small few key number) fits
      (by
        rw [none]
        rfl)
      (by
        change readbackMatches (_ ++ unstored (ledger.factsOf .returnOrders 1)
          (typedOf amountBuiltins .returnOrders records)) = true
        rw [known, List.append_nil]
        exact apart)
  rw [none, List.append_nil] at facts
  exact ⟨reply, after, row, done, facts, kept.trans attempts, added⟩

theorem second_apart {pages : List PageEvidence} {page : PageEvidence} (only : pages = [page]) (records : List Json)
    (keyed : page.pageKey = pageKey amountLedger (returnsPage 1 []).page) (numbered : page.pageNumber = 1) :
    (∀ row ∈ pages, row.pageKey ≠ pageKey amountLedger (returnsPage 2 records).page) ∧
      ∀ row ∈ pages, row.pageNumber ≠ 2 := by
  rw [only]
  refine ⟨List.forall_mem_singleton.mpr ?_, List.forall_mem_singleton.mpr (numbered ▸ by decide)⟩
  rw [keyed]
  change pageKey amountLedger (returnsPage 1 []).page ≠ pageKey amountLedger (returnsPage 2 []).page
  decide +kernel

/-- **An amount with five decimals is not replayed, and a return order twice on a page is not treated as on two pages.** -/
theorem pages_not_replayed :
    (¬∀ (R : RowBuiltins) (dates : OrderManagement.DateBuiltins) (readDate : Int → Option String) (arguments : FactArguments)
      (ledger : Ledger), (∀ record ∈ arguments.rows, record.Written) → ∀ reply after,
      insertTypedFacts (R.ledger dates readDate) arguments ledger = .ok (reply, after) →
        Replays (R.ledger dates readDate) arguments reply after) ∧
    ¬∀ (R : RowBuiltins) (dates : OrderManagement.DateBuiltins) (readDate : Int → Option String) (arguments : FactArguments)
      (ledger : Ledger), (∀ record ∈ arguments.rows, record.Written) →
      ∀ front record back next payload first second onePage twoPages, arguments.rows = front ++ record :: back →
        record ∈ front → next.attemptKey = arguments.page.attemptKey →
        insertTypedFacts (R.ledger dates readDate) (arguments.withRows (front ++ back)) ledger = .ok (first, onePage) →
        insertTypedFacts (R.ledger dates readDate) ⟨arguments.pageId, next, payload, [record]⟩ onePage =
          .ok (second, twoPages) → TreatedAlike (R.ledger dates readDate) arguments ledger first second twoPages := by
  have written : (Json.obj (returned "12.5")).Written := written_returned (written_amount _ (.inl (by simp)))
  have found := (newPage_returns (rfl : returnsLedger.attempts = [returnsAttempt])
    (show 1 ≤ 1 ∧ 1 ≤ 1000 from ⟨le_rfl, by decide⟩) (show ([] : List Json).length ≤ 1000 by simp) (fun _ mem => by cases mem)
    fun _ mem => by cases mem).found
  constructor
  · intro all
    have storable : storableReturn (fun typed => ((Json.obj typed).field? "return_amount").any fun value =>
        !survivesColumn amountBuiltins ("return_amount", value)) "0.12345" = true := by decide +kernel
    obtain ⟨row, reply, after, -, built, lost, done, -⟩ := accepted_return storable
    obtain ⟨value, column, lost⟩ := (Option.any_eq_true ..).mp lost
    have fraction : ∀ record ∈ (returnsPage 1 [.obj (returned "0.12345")]).rows, record.Written := by
      refine List.forall_mem_singleton.mpr (written_returned ?_)
      simp only [JsNumber.Written, PointedText]
      exact ⟨⟨⟨'0', _, rfl, .inl rfl⟩, '.', by simp, .inl rfl⟩, by simp [isNumberChar], by simp⟩
    have replayed := all amountBuiltins _ _ _ returnsLedger fraction reply after done
    have survives := (replays_iff fraction done).mp replayed _ found _ List.mem_cons_self row built fun _ mem => by cases mem
    rw [survives_column survives column] at lost
    cases lost
  · intro all
    obtain ⟨row, first, onePage, page, built, survives, one, facts, attempts, pages, keyed, numbered⟩ :=
      accepted_return storable_survives
    have rows := typedOf_singleton built
    have stored : onePage.factsOf .returnOrders 1 = [returnFact row] := by
      unfold Ledger.factsOf
      rw [facts]
      rfl
    obtain ⟨key, number⟩ := second_apart pages [.obj (returned "12.5")] keyed numbered
    obtain ⟨second, twoPages, -, two, -⟩ := accepted_stored attempts ⟨by decide, by decide⟩ (by simp) key number
      (by
        rw [stored, rows, unstored, List.filter_singleton, storedVersion_returnFact]
        rfl)
      (by
        rw [stored, rows]
        exact List.forall_mem_singleton.mpr
          (fits_returnFact (flatColumns_of_buildTypedRow written built) (survives_of_all survives)))
      (by
        rw [stored]
        rfl)
    unfold amountLedger at one two
    have both : ∀ record ∈ (returnsPage 1 [.obj (returned "12.5"), .obj (returned "12.5")]).rows, record.Written :=
      List.forall_mem_cons.mpr ⟨written, List.forall_mem_singleton.mpr written⟩
    have alike := all amountBuiltins _ _ _ returnsLedger both [.obj (returned "12.5")] _ [] (returnsPage 2 []).page none first
      second onePage twoPages rfl List.mem_cons_self rfl one two
    obtain ⟨-, -, known⟩ := (@treatedAlike_iff amountBuiltins returnsLedger _ _ (returnsPage 1 []) _ _ [.obj (returned "12.5")]
      [] _ _ _ _ _ List.mem_cons_self one two rfl).mp alike
    obtain ⟨fact, there, -⟩ := known _ found row built
    cases there

/-- A return order is replayed, and a record that is no object comes twice on a page as on two pages. -/
theorem returns_replayed :
    (∃ reply after, insertTypedFacts amountLedger (returnsPage 1 [.obj (returned "12.5")]) returnsLedger =
        .ok (reply, after) ∧ Replays amountLedger (returnsPage 1 [.obj (returned "12.5")]) reply after) ∧
      ∃ first onePage second twoPages, insertTypedFacts amountLedger (returnsPage 1 [.null]) returnsLedger =
          .ok (first, onePage) ∧ insertTypedFacts amountLedger (returnsPage 2 [.null]) onePage = .ok (second, twoPages) ∧
        TreatedAlike amountLedger (returnsPage 1 [.null, .null]) returnsLedger first second twoPages := by
  constructor
  · obtain ⟨row, reply, after, -, built, survives, done, -⟩ := accepted_return storable_survives
    have written : ∀ record ∈ (returnsPage 1 [.obj (returned "12.5")]).rows, record.Written :=
      List.forall_mem_singleton.mpr (written_returned (written_amount _ (.inl (by simp))))
    refine ⟨reply, after, done, ?_⟩
    unfold amountLedger at done
    refine ((insertTypedFacts_replay_law _ _ written).1 reply after done).mpr ?_
    intro attempt found record mem other builtOther fresh
    obtain rfl := List.mem_singleton.mp mem
    obtain rfl := Except.ok.inj (built.symm.trans builtOther)
    exact survives_of_all survives
  · have empty : typedOf amountBuiltins .returnOrders [.null] = [] := rfl
    have none (ledger : Ledger) : unstored (ledger.factsOf .returnOrders 1) (typedOf amountBuiltins .returnOrders [.null]) = [] :=
      empty ▸ rfl
    obtain ⟨first, onePage, page, one, facts, attempts, pages, keyed, numbered⟩ :=
      accepted_stored (rfl : returnsLedger.attempts = [returnsAttempt]) (show 1 ≤ 1 ∧ 1 ≤ 1000 from ⟨le_rfl, by decide⟩)
        (by simp) (fun _ mem => by cases mem) (fun _ mem => by cases mem) (none _) (by simp [empty]) rfl
    obtain ⟨key, number⟩ := second_apart pages [.null] keyed numbered
    obtain ⟨second, twoPages, -, two, -⟩ := accepted_stored attempts (show 1 ≤ 2 ∧ 2 ≤ 1000 from ⟨by decide, by decide⟩)
      (by simp) key number (none _) (by simp [empty]) (by
        unfold Ledger.factsOf
        rw [facts]
        rfl)
    refine ⟨first, onePage, second, twoPages, one, two, ?_⟩
    unfold amountLedger at one two
    have written : ∀ record ∈ (returnsPage 1 [.null, .null]).rows, record.Written := by
      intro record mem
      obtain rfl : record = .null := by simpa [returnsPage] using mem
      trivial
    have order : (returnsPage 1 [.null, .null]).rows = [.null] ++ .null :: [] := rfl
    have key : (returnsPage 2 []).page.attemptKey = digits64 'a' := rfl
    have law := (insertTypedFacts_replay_law _ returnsLedger written).2 _ _ _ _ _ first second onePage twoPages order
      List.mem_cons_self key one two
    refine law.mpr ⟨(fun _ mem => by cases mem), ⟨rfl, rfl⟩, ?_⟩
    intro attempt found row built
    cases built

end FullManagedBi.Collection
