import FullManagedBi.WebapiHistory.StoreDaily
import FullManagedBi.Lib.Calendar
import FullManagedBi.Lib.Double
import FullManagedBi.Lib.Json
import FullManagedBi.Lib.Upsert

/-!
# The region rank of a day

`parseRegionRows` (`src/webapi-history/home-contracts.mjs`) reads the rows of a region-rank response, and
`upsertRegions` (`src/webapi-history/repository.mjs`) writes them to `fact.full_home_region_daily` under the
store, the date and the region key. The key is the region's identifier with each code unit outside
`A-Za-z0-9._:-` replaced by `_`, cut to 80 units.
-/

namespace FullManagedBi.WebapiHistory

open Lib

/-- What the region rank uses of the engine: the text builtins, of which the normal form leaves an ASCII text
alone, and the instant a value is read as. -/
structure RegionBuiltins extends TextBuiltins where
  normalizeNfkc_ascii : ∀ s : String, (s.toList.all fun c => c.toNat < 128) → normalizeNfkc s = s
  instantOf : Json → Option Instant

/-! ## Reading values -/

/-- `record`: an object, or an empty one. -/
def record : Option Json → Json
  | some (.obj fields) => .obj fields
  | _ => .obj []

def firstArray (source : Json) (keys : List String) : Option (List Json) :=
  keys.findSome? fun key =>
    match source.field? key with
    | some (.arr items) => some items
    | _ => none

def responseData : Option Json → List Json
  | some (.arr items) => items
  | body =>
    let source := record body
    let data := record (source.field? "data")
    let info := record (source.field? "info")
    (firstArray source ["info", "data"] <|> firstArray data ["info", "list", "records", "rows", "result"] <|>
      firstArray info ["list", "records", "rows", "result", "data"] <|>
      firstArray source ["list", "records", "rows", "result"]).getD []

def digitsValue (digits : List Char) : Nat := digits.foldl (fun n c => n * 10 + digitValue c) 0

/-- What `/^(?:0|[1-9]\d*)(?:\.\d+)?$/` matches, and the decimal it writes. -/
def plainDecimal? (chars : List Char) : Option Rat :=
  let whole := chars.takeWhile (· ≠ '.')
  if whole = [] ∨ ¬whole.all Char.isDigit ∨ (whole.head? = some '0' ∧ whole.length ≠ 1) then none
  else
    match chars.dropWhile (· ≠ '.') with
    | [] => some (digitsValue whole)
    | _ :: digits =>
      if digits = [] ∨ ¬digits.all Char.isDigit then none
      else some (mkRat (digitsValue (whole ++ digits)) (10 ^ digits.length))

/-- `Number` of a decimal, where it is finite. -/
def finiteDouble? (q : Rat) : Option Rat := if toDouble q < 2 ^ 1024 then some (toDouble q) else none

def optionalDecimal (value : Option Json) : Option Rat :=
  match nullish value none with
  | none => none
  | some value =>
    let text := value.text
    if text = "" ∨ text = "-" then none
    else (plainDecimal? (jsTrim (String.ofList (text.toList.filter (· ≠ ',')))).toList).bind finiteDouble?

def optionalCount (value : Option Json) : Option Nat := (optionalDecimal value).bind safeCount?

/-- `optionalRate`: a share, or a percentage. -/
def optionalRate (value : Option Json) : Option Rat :=
  match optionalDecimal value with
  | none => none
  | some number =>
    if number ≤ 1 then some number else if number ≤ 100 then some (toDouble (number / 100)) else none

/-! ## The rows of a response -/

/-- The rows of a region-rank response. -/
def countryTradeRows (body : Json) : List Json :=
  let envelope := record (some body)
  let source := record (nullish (nullish (envelope.field? "info") (envelope.field? "data")) (some envelope))
  match source.field? "countryTrade" with
  | some (.arr rows) => rows
  | other => responseData other

/-- A row of the response that names a region: its identifier, its name, and the row. -/
structure SourceRegion where
  key : String
  name : String
  row : Json

def sourceRegion (input : Json) : Option SourceRegion :=
  let row := record (some input)
  let key := jsTrim <| textOrEmpty <|
    nullish (nullish (row.field? "key") (row.field? "countryCode")) (row.field? "countryName")
  let name := jsTrim <| textOrEmpty <|
    nullish (nullish (row.field? "name") (row.field? "countryName")) (row.field? "key")
  if key = "" ∨ name = "" then none else some { key, name, row }

def sourceRegions (body : Json) : List SourceRegion := (countryTradeRows body).filterMap sourceRegion

/-- What `[A-Za-z0-9._:-]` matches, of a code unit. -/
def isRegionUnit (unit : Nat) : Bool :=
  (48 ≤ unit && unit ≤ 57) || (65 ≤ unit && unit ≤ 90) || (97 ≤ unit && unit ≤ 122) ||
    unit = 46 || unit = 95 || unit = 58 || unit = 45

/-- A code unit of the identifier, as the region key keeps it. -/
def regionKeyChar (unit : Nat) : Char := if isRegionUnit unit then Char.ofNat unit else '_'

/-- `key.replace(/[^A-Za-z0-9._:-]/g, '_').slice(0, 80)`. -/
def regionKey (key : String) : String := String.ofList (((jsUnits key).map regionKeyChar).take 80)

structure RegionInput where
  storeCode : String
  businessDate : BusinessDate
  regionKey : String
  regionName : String
  salesQuantity : Option Nat
  salesShare : Option Rat
  newCustomerSalesQuantity : Option Nat
  newCustomerSalesShare : Option Rat
  observedAt : Instant
  sourceUpdatedAt : JsField Instant
  deriving DecidableEq

/-- `row.updateTime ?? null`, as the repository reads it. -/
def updateTimeOf (B : RegionBuiltins) (row : Json) : JsField Instant :=
  match nullish (row.field? "updateTime") none with
  | none | some (.str "") => .absent
  | some value =>
    match B.instantOf value with
    | some instant => .value instant
    | none => .invalid

def regionInput (B : RegionBuiltins) (store : String) (day : BusinessDate) (observedAt : Instant)
    (region : SourceRegion) : RegionInput where
  storeCode := store
  businessDate := day
  regionKey := regionKey region.key
  regionName := String.ofList (jsSlice 160 region.name.toList)
  salesQuantity := optionalCount (region.row.field? "saleCnt")
  salesShare := optionalRate (region.row.field? "saleRate")
  newCustomerSalesQuantity := optionalCount (region.row.field? "newSaleCnt")
  newCustomerSalesShare := optionalRate (region.row.field? "newSaleCntRate")
  observedAt := observedAt
  sourceUpdatedAt := updateTimeOf B region.row

def parseRegionRows (B : RegionBuiltins) (body : Json) (storeCode businessDate : String) (observedAt : Instant) :
    Except String (List RegionInput) :=
  match normalizeFullManagedStoreCode B.toTextBuiltins storeCode, parseIsoDate (jsTrim businessDate) with
  | none, _ => .error "HOME_STORE_NOT_ALLOWED"
  | _, none => .error "HOME_DATE_INVALID"
  | some store, some day => .ok ((sourceRegions body).map (regionInput B store day observedAt))

/-! ## Storing them -/

/-- The row of `fact.full_home_region_daily`, with its key; `created_at` and `updated_at` are left out. -/
structure RegionRow where
  storeCode : String
  businessDate : BusinessDate
  regionKey : String
  regionName : String
  salesQuantity : Option Nat
  salesShare : Option Rat
  newCustomerSalesQuantity : Option Nat
  newCustomerSalesShare : Option Rat
  sourceUpdatedAt : Option Instant
  observedAt : Instant
  deriving DecidableEq

def RegionRow.key (row : RegionRow) : String × BusinessDate × String :=
  (row.storeCode, row.businessDate, row.regionKey)

/-- A count as `nullableNumber` reads it. -/
def countField : Option Nat → JsField Rat
  | none => .absent
  | some n => .value n

/-- A share as `nullableNumber` reads it. -/
def shareField : Option Rat → JsField Rat
  | none => .absent
  | some q => .value q

/-- A column of type `numeric(12, 8)`: halves are rounded up. -/
def shareColumn (q : Rat) : Rat := mkRat ⌊q * 10 ^ 8 + 1 / 2⌋ (10 ^ 8)

/-- `regionValues`, as the columns take them. -/
def regionValues (B : RegionBuiltins) (row : RegionInput) : Except String RegionRow := do
  let storeCode ← storeCode B.toTextBuiltins (some row.storeCode)
  let businessDate ← date (.value row.businessDate) "businessDate"
  let regionKey ← text B.toTextBuiltins (some row.regionKey) "regionKey" 80
  let regionName ← text B.toTextBuiltins (some row.regionName) "regionName" 160
  let salesQuantity ← nullableCount (countField row.salesQuantity) "salesQuantity"
  let salesShare ← nullableNumber (shareField row.salesShare) "salesShare"
  let newCustomerSalesQuantity ←
    nullableCount (countField row.newCustomerSalesQuantity) "newCustomerSalesQuantity"
  let newCustomerSalesShare ← nullableNumber (shareField row.newCustomerSalesShare) "newCustomerSalesShare"
  let sourceUpdatedAt ← nullableInstant row.sourceUpdatedAt "sourceUpdatedAt"
  let observedAt ← instant (.value row.observedAt) "observedAt"
  return {
    storeCode, businessDate, regionKey, regionName, salesQuantity, salesShare := salesShare.map shareColumn,
    newCustomerSalesQuantity, newCustomerSalesShare := newCustomerSalesShare.map shareColumn,
    sourceUpdatedAt, observedAt }

/-- `ON CONFLICT (store_code, business_date, region_key) DO UPDATE SET ...`. -/
def updateRegionRow (stored incoming : RegionRow) : RegionRow where
  storeCode := stored.storeCode
  businessDate := stored.businessDate
  regionKey := stored.regionKey
  regionName := incoming.regionName
  salesQuantity := coalesce incoming.salesQuantity stored.salesQuantity
  salesShare := coalesce incoming.salesShare stored.salesShare
  newCustomerSalesQuantity := coalesce incoming.newCustomerSalesQuantity stored.newCustomerSalesQuantity
  newCustomerSalesShare := coalesce incoming.newCustomerSalesShare stored.newCustomerSalesShare
  sourceUpdatedAt := greatest incoming.sourceUpdatedAt stored.sourceUpdatedAt
  observedAt := max incoming.observedAt stored.observedAt

abbrev RegionTable := String × BusinessDate × String → Option RegionRow

/-- One `INSERT ... ON CONFLICT DO UPDATE`. -/
def upsertRegion : RegionTable → RegionRow → RegionTable := upsert RegionRow.key updateRegionRow

/-- `upsertRegions`: all rows are validated before the first statement. -/
def upsertRegions (B : RegionBuiltins) (table : RegionTable) (rows : List RegionInput) :
    Except String RegionTable := do
  let values ← rows.mapM (regionValues B)
  return run upsertRegion table values

end FullManagedBi.WebapiHistory
