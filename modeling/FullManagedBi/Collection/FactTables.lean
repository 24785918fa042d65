import FullManagedBi.Collection.TypedRow

/-!
# The fact tables

The seven tables of `0029_v4_order_webapi_facts.sql` keep a typed row in columns of fixed types: an amount is a
`numeric(20, 4)`, a weight a `numeric(20, 6)`, and what has more decimals is rounded as it is stored. A row that is
stored already is compared with the one that a replay builds by `normalizeStoredRow` and `normalizeTypedForCompare`,
after the driver has read its numbers back as texts.
-/

namespace FullManagedBi.Collection

open Lib

/-! ## Decimals -/

/-- The power of ten of an exponent, as a number has it behind its `e`. -/
def exponentOf : List Char → Int
  | '-' :: digits => -(Nat.ofDigitChars 10 digits 0 : Int)
  | '+' :: digits | digits => Nat.ofDigitChars 10 digits 0

/-- The number that a text of digits, with a point or an exponent, stands for. -/
def decimalOf (text : List Char) : Rat :=
  let mantissa := text.takeWhile (· ≠ 'e')
  let exponent := exponentOf (text.drop (mantissa.length + 1))
  let whole := mantissa.takeWhile (· ≠ '.')
  let decimals := mantissa.drop (whole.length + 1)
  mkRat (Nat.ofDigitChars 10 (whole ++ decimals) 0) (10 ^ decimals.length) * 10 ^ exponent

/-- The decimal that the driver sends of a number that is not negative. -/
def JsNumber.decimal : JsNumber → Rat
  | .int n => n
  | .large text | .fraction text => decimalOf text.toList

/-- A number in a column with so many decimals, in units of the last one: of two that are as near the larger one. -/
def roundUnits (scale : Nat) (q : Rat) : Nat := (q * 10 ^ scale + 1 / 2).floor.toNat

/-- The text of a column with so many decimals. -/
def fixedText (scale units : Nat) : String :=
  let decimals := decimalDigits (units % 10 ^ scale)
  String.ofList (decimalDigits (units / 10 ^ scale) ++ '.' :: (List.replicate (scale - decimals.length) '0' ++ decimals))

/-- A text behind its sign, where it has one. -/
def unsigned (text : List Char) : List Char := if text.head? = some '-' then text.tail else text

/-- `/^-?\d+(\.\d+)?$/`. -/
def isPlainDecimal (text : String) : Bool :=
  let body := unsigned text.toList
  body.head?.any (·.isDigit) &&
    match body.dropWhile (·.isDigit) with
    | [] => true
    | '.' :: decimals => !decimals.isEmpty && decimals.all (·.isDigit)
    | _ => false

/-! ## Columns -/

/-- The scale of a `numeric` column. -/
def numericScale (column : String) : Option Nat :=
  if column ∈ ["actual_weight", "volume_weight", "estimated_weight", "final_settlement_weight",
    "converted_final_apportionment"] then some 6
  else if column ∈ ["exemption_amount", "actual_deduction_amount", "changed_estimated_apportionment",
    "difference_deducted_amount", "return_total_amount", "return_amount"] then some 4
  else none

/-- What the driver reads back of a column: of a number in a `numeric` column the text it was rounded to. -/
def readColumn (column : String) (value : Json) : Json :=
  match numericScale column, value with
  | some scale, .num n => .str (fixedText scale (roundUnits scale (JsNumber.decimal n)))
  | _, value => value

/-- `normalizeStoredValue`. A number that is not finite is written as `null`. -/
def normalizeStoredValue (R : RowBuiltins) : Json → Json
  | .str text => if isPlainDecimal text then ((R.number text).map .num).getD .null else .str text
  | value => value

/-- `normalizeStoredRow` of a row. A column that it has no value for is `null`. -/
def normalizeStoredRow (R : RowBuiltins) (columns : List String) (row : TypedRow) : List (String × Json) :=
  columns.map fun column =>
    (column, (((Json.obj row.typed).field? column).map fun value => normalizeStoredValue R (readColumn column value)).getD
      .null)

/-- `normalizeTypedForCompare` of a row. -/
def normalizeTypedForCompare (R : RowBuiltins) (columns : List String) (row : TypedRow) : List (String × Json) :=
  columns.map fun column => (column, (((Json.obj row.typed).field? column).map (normalizeStoredValue R)).getD .null)

/-- The columns of two rows. All other columns of the page are `null` in both, and are left out of the comparison. -/
def comparedColumns (stored row : TypedRow) : List String := ((stored.typed ++ row.typed).map (·.1)).eraseDups

def sameTyped (R : RowBuiltins) (stored row : TypedRow) : Bool :=
  let columns := comparedColumns stored row
  canonicalJson (normalizeStoredRow R columns stored) = canonicalJson (normalizeTypedForCompare R columns row)

/-! ## Constraints -/

/-- An instant that a `timestamptz` is read from: one of a year with four digits, from 1 on. -/
def isStorableInstant (instant : Int) : Bool := -62135596800000 ≤ instant && instant < 253402300800000

/-- Why a parameter of a column is refused: an integer out of range, a text with a character that no text can have, or
an instant out of range. -/
def parameterRefusal (type : ColumnType) (value : Json) : Option JsError :=
  match type, value with
  | .int, .num (.int n) | .flag, .num (.int n) =>
    if 2147483647 < n then some (databaseError "22003" "integer out of range") else none
  | .text _, .str text =>
    if text.toList.contains (Char.ofNat 0) then some (databaseError "22021" "invalid byte sequence") else none
  | .instant, .str text =>
    match text.toList with
    | c :: cs =>
      if c.isDigit && (c :: cs).take 4 ≠ ['0', '0', '0', '0'] then none
      else some (databaseError "22008" "date/time field value out of range")
    | [] => some (databaseError "22007" "invalid input syntax for type timestamp with time zone")
  | _, _ => none

def parametersRefusal (fact : FactRow) : Option JsError :=
  if (fact.observedAt.toList ++ fact.row.sourceUpdatedAt.toList).all isStorableInstant then
    fact.pageId.columns.findSome? fun spec =>
      ((Json.obj fact.row.typed).field? spec.column).bind (parameterRefusal spec.type)
  else some (databaseError "22008" "date/time field value out of range")

/-- A `numeric(20, scale)` column has 20 digits. -/
def overflows (field : String × Json) : Bool :=
  match numericScale field.1, field.2 with
  | some scale, .num n => 10 ^ 20 ≤ roundUnits scale (JsNumber.decimal n)
  | _, _ => false

/-- The facts have the same primary key of the same table. -/
def FactRow.SameKey (fact other : FactRow) : Prop :=
  fact.pageId = other.pageId ∧ fact.sourceAttemptId = other.sourceAttemptId ∧ fact.row.SameVersion other.row

instance (fact other : FactRow) : Decidable (fact.SameKey other) := by
  unfold FactRow.SameKey
  infer_instance

/-- Why a row cannot be inserted into the tables. The checks of texts, hashes, flags and signs hold of every typed row,
and the attempt it cites is the one of its store and endpoint. -/
def rowRefusal (stored : List FactRow) (fact : FactRow) : Option JsError :=
  if fact.row.typed.any overflows then some (databaseError "22003" "numeric field overflow")
  else if fact.observedAt = none then some (violates "23502" "observed_at")
  else if ∃ other ∈ stored, other.SameKey fact then some (violates "23505" "pk_fact_full_webapi_observation")
  else none

/-- Why the rows cannot be inserted one after the other. -/
def insertRefusal (stored : List FactRow) : List FactRow → Option JsError
  | [] => none
  | fact :: facts => (rowRefusal stored fact).or (insertRefusal (stored ++ [fact]) facts)

/-- Why one statement that inserts the rows fails: first its parameters are read, then the rows are inserted. -/
def factRefusal (stored facts : List FactRow) : Option JsError :=
  (facts.findSome? parametersRefusal).or (insertRefusal stored facts)

def RowBuiltins.ledger (R : RowBuiltins) (dates : OrderManagement.DateBuiltins) (readDate : Int → Option String) :
    LedgerBuiltins where
  dates
  digest := R.digest
  readDate
  buildTypedRow := Collection.buildTypedRow R
  pagePayload := typedPayloadHash R
  sameTyped := sameTyped R
  factRefusal

end FullManagedBi.Collection
