import FullManagedBi.Lib.Json

/-!
# Observed identity sets

`src/domain/observed-product-identity.mjs`, first half: what is observed of a product is an
`ObservedSet` of members, and `normalizeSet` reads one from the input or refuses it.
-/

namespace FullManagedBi.ProductIdentity

open Lib

/-- The builtins of JavaScript that the matcher calls: `localeCompare` in the locale of the process, which
is a consistent comparison, the numeric one of `'en'`, and the hash. -/
structure IdentityBuiltins extends TextBuiltins where
  localeCompare : String → String → Ordering
  localeCompare_trans : Std.TransCmp localeCompare
  numericCompare : String → String → Ordering
  sha256 : String → String

/-- A value of the input: missing, of the wrong type, or given. -/
inductive Given (α : Type) where
  | missing
  | invalid
  | value (a : α)

/-- `standard` of an observation: missing, an object, or anything else. A field of the object is missing
where it is `null` or `undefined`. -/
inductive StandardInput where
  | missing
  | record (attributeId name standard type field : Option String)
  | text (value : String)

/-- An observation of the input. `observationId` is missing where it is no text and no number. -/
structure MemberInput where
  observationId : Option String
  normalizedValue : Option String
  sourceValueKey : Option String
  standard : StandardInput

/-- The observations of a product in the input. `setId` is missing where it is no text and no number. -/
structure SetInput where
  setId : Option String
  model : Given MemberInput
  brand : Given MemberInput
  category : Given MemberInput
  supplierCode : Given MemberInput
  barcodes : Given (List (Given MemberInput))
  coreAttributes : Given (List (Given MemberInput))
  hardAttributes : Given (List (Given MemberInput))

/-- `ATTRIBUTE_ID_PATTERN` matches. -/
def isAttributeId (text : String) : Bool :=
  decide (1 ≤ text.toList.length) && decide (text.toList.length ≤ 32) && text.toList.all Char.isDigit

/-- The identifier of an attribute: 1 to 32 digits. -/
structure AttributeId where
  digits : String
  valid : isAttributeId digits = true
  deriving DecidableEq

/-- `standard` of a member. -/
structure Standard where
  text : Option String := none
  attributeId : Option AttributeId := none
  type : Option String := none
  deriving DecidableEq

structure Member where
  observationId : String
  normalizedValue : String
  sourceValueKey : Option String
  standard : Standard
  deriving DecidableEq

structure ObservedSet where
  setId : String
  model : Option Member
  brand : Option Member
  category : Option Member
  supplierCode : Option Member
  barcodes : List Member
  coreAttributes : List Member
  hardAttributes : List Member

/-- `throw new TypeError(message)`. -/
def typeError (message : String) : JsError := { message }

def requiredSetId (value : Option String) (label : String) : Except JsError String :=
  match value with
  | none => .error (typeError (label ++ ".setId is required."))
  | some text =>
    if jsTrim text = "" then .error (typeError (label ++ ".setId is required.")) else .ok (jsTrim text)

def normalizeObservationId (value : Option String) (label : String) : Except JsError String :=
  match value with
  | none => .error (typeError (label ++ ".observationId is required."))
  | some text =>
    if jsTrim text = "" then .error (typeError (label ++ ".observationId is required."))
    else .ok (jsTrim text)

def optionalText (B : IdentityBuiltins) (value : Option String) : Option String :=
  match value with
  | none => none
  | some text =>
    let result := jsTrim (B.normalizeNfkc text)
    if result = "" then none else some result

/-- `attributeId` of a standard. -/
def normalizedAttributeId (B : IdentityBuiltins) (value : Option String) :
    Except JsError (Option AttributeId) :=
  match value with
  | none => .ok none
  | some raw =>
    match optionalText B (some raw) with
    | none => .error (typeError "standard.attributeId must be a 1-32 digit identifier.")
    | some text =>
      if valid : isAttributeId text = true then .ok (some ⟨text, valid⟩)
      else .error (typeError "standard.attributeId must be a 1-32 digit identifier.")

def normalizedStandard (B : IdentityBuiltins) : StandardInput → Except JsError Standard
  | .missing => .ok {}
  | .record attributeId name standard type field => do
    let attributeId ← normalizedAttributeId B attributeId
    return {
      text := (optionalText B (name.or standard)).map B.toUpperCase
      attributeId
      type := (optionalText B (type.or field)).map B.toUpperCase }
  | .text value => .ok { text := (optionalText B (some value)).map B.toUpperCase }

/-- `normalizeMember` of an object. -/
def normalizeObservation (B : IdentityBuiltins) (value : MemberInput) (label : String) :
    Except JsError Member :=
  match optionalText B value.normalizedValue with
  | none => .error (typeError (label ++ ".normalizedValue is required."))
  | some normalizedValue => do
    let observationId ← normalizeObservationId value.observationId label
    let standard ← normalizedStandard B value.standard
    return {
      observationId
      normalizedValue
      sourceValueKey := optionalText B value.sourceValueKey
      standard }

def normalizeMember (B : IdentityBuiltins) (value : Given MemberInput) (label : String) :
    Except JsError (Option Member) :=
  match value with
  | .missing => .ok none
  | .invalid => .error (typeError (label ++ " must be an observation object."))
  | .value observation => (normalizeObservation B observation label).map some

/-- A member of an array, where a missing one is read as an object later, which throws. -/
def normalizeItem (B : IdentityBuiltins) (value : Given MemberInput) (label : String) :
    Except JsError Member :=
  match value with
  | .missing => .error (typeError "Cannot read properties of null")
  | .invalid => .error (typeError (label ++ " must be an observation object."))
  | .value observation => normalizeObservation B observation label

def normalizeMembers (B : IdentityBuiltins) (value : Given (List (Given MemberInput))) (label : String) :
    Except JsError (List Member) :=
  match value with
  | .missing => .ok []
  | .invalid => .error (typeError (label ++ " must be an array."))
  | .value members => members.zipIdx.mapM fun item =>
    normalizeItem B item.1 (label ++ "[" ++ toString item.2 ++ "]")

def normalizeSet (B : IdentityBuiltins) (value : Given SetInput) (label : String) :
    Except JsError ObservedSet :=
  match value with
  | .missing => .error (typeError (label ++ " must be an observed identity set."))
  | .invalid => .error (typeError (label ++ " must be an observed identity set."))
  | .value set => do
    let setId ← requiredSetId set.setId label
    let model ← normalizeMember B set.model (label ++ ".model")
    let brand ← normalizeMember B set.brand (label ++ ".brand")
    let category ← normalizeMember B set.category (label ++ ".category")
    let supplierCode ← normalizeMember B set.supplierCode (label ++ ".supplierCode")
    let barcodes ← normalizeMembers B set.barcodes (label ++ ".barcodes")
    let coreAttributes ← normalizeMembers B set.coreAttributes (label ++ ".coreAttributes")
    let hardAttributes ← normalizeMembers B set.hardAttributes (label ++ ".hardAttributes")
    return { setId, model, brand, category, supplierCode, barcodes, coreAttributes, hardAttributes }

end FullManagedBi.ProductIdentity
