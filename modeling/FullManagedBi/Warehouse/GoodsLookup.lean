import FullManagedBi.Lib.Js
import FullManagedBi.Lib.OrderedMap

/-!
# The lookup of reporting goods

`buildReportingGoodsLookup` and `resolveReportingGoodsAssignment` of `src/warehouse/dashboard-materializer.mjs`. The rows
are the confirmed assignments with the identifiers of their SKUs, and a row of a product has the same identifiers, under
one of two spellings. Store codes are those of `dim.store`.
-/

namespace FullManagedBi.GoodsLookup

open Lib

/-- The characters of `^[A-Z0-9_-]+$`. -/
def isStoreChar (c : Char) : Bool :=
  ('A' ≤ c && c ≤ 'Z') || ('0' ≤ c && c ≤ '9') || c == '_' || c == '-'

/-- A `store_code` of `dim.store`. -/
structure StoreCode where
  text : String
  given : text ≠ ""
  plain : text.toList.all isStoreChar
  deriving DecidableEq

/-- `normalize('NFKC')`, which leaves ASCII texts alone. -/
structure NormalizeBuiltin where
  normalizeNfkc : String → String
  ascii : ∀ s : String, (s.toList.all fun c => c.toNat < 128) → normalizeNfkc s = s

/-- The indexes of a lookup, the finest first. -/
inductive Identifier where
  | sku
  | skc
  | spu
  | supplierCode
  | supplierSku
  deriving DecidableEq

/-- The order in which the indexes are asked. -/
def Identifier.all : List Identifier := [.sku, .skc, .spu, .supplierCode, .supplierSku]

structure GoodsAssignment where
  standardGoodsCode : String
  standardGoodsName : String
  modelNormalized : Option String
  namingRule : String
  confidenceBand : String
  sourcePlanHash : String
  deriving DecidableEq

structure AssignmentRow where
  store_code : StoreCode
  platform_sku_id : Option String := none
  platform_skc_id : Option String := none
  platform_spu_id : Option String := none
  supplier_code : Option String := none
  supplier_sku : Option String := none
  standard_goods_code : String
  display_name : String
  model_normalized : Option String := none
  naming_rule : String
  confidence_band : String
  source_plan_hash : String
  deriving DecidableEq

def AssignmentRow.assignment (row : AssignmentRow) : GoodsAssignment where
  standardGoodsCode := row.standard_goods_code
  standardGoodsName := row.display_name
  modelNormalized := row.model_normalized
  namingRule := row.naming_rule
  confidenceBand := row.confidence_band
  sourcePlanHash := row.source_plan_hash

/-- The identifier of a row that an index registers. -/
def AssignmentRow.value (row : AssignmentRow) : Identifier → Option String
  | .sku => row.platform_sku_id
  | .skc => row.platform_skc_id
  | .spu => row.platform_spu_id
  | .supplierCode => row.supplier_code
  | .supplierSku => row.supplier_sku

structure ProductRow where
  storeCode : Option StoreCode := none
  store_code : Option StoreCode := none
  platformSkuId : Option String := none
  platform_sku_id : Option String := none
  platformSkcId : Option String := none
  platform_skc_id : Option String := none
  platformSpuId : Option String := none
  platform_spu_id : Option String := none
  supplierCode : Option String := none
  supplier_code : Option String := none
  supplierSku : Option String := none
  supplier_sku : Option String := none
  deriving DecidableEq

/-- `row.storeCode ?? row.store_code`. -/
def ProductRow.store (row : ProductRow) : Option StoreCode := row.storeCode <|> row.store_code

/-- The value that an index is asked for. -/
def ProductRow.value (row : ProductRow) : Identifier → Option String
  | .sku => row.platformSkuId <|> row.platform_sku_id
  | .skc => row.platformSkcId <|> row.platform_skc_id
  | .spu => row.platformSpuId <|> row.platform_spu_id
  | .supplierCode => row.supplierCode <|> row.supplier_code
  | .supplierSku => row.supplierSku <|> row.supplier_sku

/-- `String(value ?? '').normalize('NFKC').trim()`. -/
def normalized (B : NormalizeBuiltin) (value : Option String) : String :=
  jsTrim (B.normalizeNfkc (value.getD ""))

def storeIdentifierKey (B : NormalizeBuiltin) (storeCode : Option StoreCode) (value : Option String) :
    Option String :=
  let normalizedStore := normalized B (storeCode.map (·.text))
  let normalizedValue := normalized B value
  if normalizedStore ≠ "" ∧ normalizedValue ≠ "" then some (normalizedStore ++ "\x1f" ++ normalizedValue) else none

/-- A map from keys to assignments, and to `null` where the assignments of a key disagree. -/
abbrev GoodsIndex := OrderedMap String (Option GoodsAssignment)

def registerUniqueReportingAssignment (index : GoodsIndex) (key : Option String) (assignment : GoodsAssignment) :
    GoodsIndex :=
  match key with
  | none => index
  | some key => match index.get? key with
    | none => index.set key (some assignment)
    | some current =>
      if current.map (·.standardGoodsCode) ≠ some assignment.standardGoodsCode then index.set key none else index

structure Lookup where
  sku : GoodsIndex := .empty
  skc : GoodsIndex := .empty
  spu : GoodsIndex := .empty
  supplierCode : GoodsIndex := .empty
  supplierSku : GoodsIndex := .empty

def Lookup.index (lookup : Lookup) : Identifier → GoodsIndex
  | .sku => lookup.sku
  | .skc => lookup.skc
  | .spu => lookup.spu
  | .supplierCode => lookup.supplierCode
  | .supplierSku => lookup.supplierSku

def Lookup.register (B : NormalizeBuiltin) (lookup : Lookup) (row : AssignmentRow) : Lookup :=
  let register (index : GoodsIndex) (value : Option String) :=
    registerUniqueReportingAssignment index (storeIdentifierKey B (some row.store_code) value) row.assignment
  { sku := register lookup.sku row.platform_sku_id
    skc := register lookup.skc row.platform_skc_id
    spu := register lookup.spu row.platform_spu_id
    supplierCode := register lookup.supplierCode row.supplier_code
    supplierSku := register lookup.supplierSku row.supplier_sku }

def buildReportingGoodsLookup (B : NormalizeBuiltin) (rows : List AssignmentRow) : Lookup :=
  rows.foldl (Lookup.register B) {}

def candidate (B : NormalizeBuiltin) (lookup : Lookup) (row : ProductRow) (identifier : Identifier) :
    Option GoodsAssignment :=
  match storeIdentifierKey B row.store (row.value identifier) with
  | none => none
  | some key => ((lookup.index identifier).get? key).join

def resolveReportingGoodsAssignment (B : NormalizeBuiltin) (lookup : Lookup) (row : ProductRow) :
    Option GoodsAssignment :=
  Identifier.all.findSome? (candidate B lookup row)

end FullManagedBi.GoodsLookup
