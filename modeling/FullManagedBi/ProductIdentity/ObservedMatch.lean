import FullManagedBi.Lib.Double
import FullManagedBi.ProductIdentity.ObservedSet

/-!
# The matcher of observed products

`src/domain/observed-product-identity.mjs`, second half: `evaluateObservedProductIdentityMatch` compares
what is observed of two products and recommends whether they are one. The score is a sum of doubles, as
the program adds it up, rounded to six decimals.
-/

namespace FullManagedBi.ProductIdentity

open Lib

/-! ## Weights and names -/

/-- `MATCH_WEIGHTS`. -/
structure MatchWeights where
  barcode : Rat
  model : Rat
  supplierCode : Rat
  brand : Rat
  category : Rat
  curatedAttribute : Rat

/-- `MATCH_WEIGHTS`, as the literals are read. -/
def matchWeights : MatchWeights where
  barcode := toDouble (6 / 10)
  model := toDouble (35 / 100)
  supplierCode := toDouble (25 / 100)
  brand := toDouble (1 / 10)
  category := toDouble (1 / 10)
  curatedAttribute := toDouble (1 / 10)

/-- `OFFICIAL_MODEL_ATTRIBUTE_ID`. -/
def officialModelAttributeId : String := "1000546"

/-- `CURATED_PRODUCT_ATTRIBUTE_IDS`. -/
def curatedProductAttributeIds : List String :=
  ["147", "160", "1000463", "1000572", "1000616", "1000838", "1001207", "1001466", "1001607", "1001755",
    "1002322", "1002323"]

inductive HardType where
  | category
  | voltage
  | plug
  | capacity
  | dimensions
  deriving DecidableEq

def HardType.name : HardType → String
  | .category => "CATEGORY"
  | .voltage => "VOLTAGE"
  | .plug => "PLUG"
  | .capacity => "CAPACITY"
  | .dimensions => "DIMENSIONS"

/-- `HARD_ATTRIBUTE_TYPES`. -/
def hardAttributeTypes : List HardType := [.category, .voltage, .plug, .capacity, .dimensions]

inductive EvidenceType where
  | barcode
  | model
  | brandCategory
  | supplierCode
  | curatedAttributes
  | coreAttributes
  | hardConflict
  deriving DecidableEq

/-- `EVIDENCE_TYPE_ORDER.get(type) ?? 99`. -/
def EvidenceType.order : EvidenceType → Nat
  | .barcode => 0
  | .model => 1
  | .brandCategory => 2
  | .supplierCode => 3
  | .curatedAttributes => 4
  | .coreAttributes => 5
  | .hardConflict => 99

/-- `STRONG_EVIDENCE_ORDER`. -/
def strongEvidenceOrder : List EvidenceType := [.barcode, .model, .brandCategory, .curatedAttributes]

structure Evidence where
  sourceObservationId : String
  targetObservationId : String
  type : EvidenceType
  component : String
  isStrong : Bool
  weight : Rat
  normalizedValueFingerprint : String
  deriving DecidableEq

inductive Recommendation where
  | reviewRequired
  | blocked
  | confirmed
  | proposed
  deriving DecidableEq

structure Evaluation where
  recommendation : Recommendation
  score : Rat
  strongEvidenceTypes : List EvidenceType
  matchedEvidence : List Evidence
  hardConflicts : List Evidence
  reason : String
  deriving DecidableEq

/-! ## Comparing members -/

def normalizedPairFingerprint (B : IdentityBuiltins) (sourceValues targetValues : List String) : String :=
  let array (values : List String) := joinComma ((jsSort values).map jsonString)
  B.sha256 (String.ofList ("\x7b\"source\":[".toList ++ array sourceValues ++ "],\"target\":[".toList ++
    array targetValues ++ "]\x7d".toList))

/-- `stableMemberOrder(left, right)`. -/
def stableMemberOrder (B : IdentityBuiltins) (left right : Member) : Ordering :=
  (B.localeCompare left.normalizedValue right.normalizedValue).then
    (B.localeCompare left.observationId right.observationId)

/-- `members.sort(stableMemberOrder)`. -/
def sortMembers (B : IdentityBuiltins) (members : List Member) : List Member :=
  members.insertionSort fun left right => (stableMemberOrder B left right).isLE = true

def exactPair (source target : Option Member) : Option (Member × Member) :=
  match source, target with
  | some source, some target =>
    if source.normalizedValue ≠ target.normalizedValue then none else some (source, target)
  | _, _ => none

def isOfficialModel (member : Member) : Bool :=
  decide (member.standard.attributeId.map AttributeId.digits = some officialModelAttributeId)

def barcodeStandardIsEligible (member : Member) : Bool :=
  let standard := member.standard.text.or member.standard.type
  decide (standard = some "EAN") || decide (standard = some "UPC")

/-- The weighted sum of the digits in front of the check digit, from the right. -/
def payloadTotal (reversed : List Char) : Nat :=
  (reversed.zipIdx.map fun item => (item.1.toNat - 48) * (if item.2 % 2 = 0 then 3 else 1)).sum

def isValidGtin (B : IdentityBuiltins) (value : String) : Bool :=
  let candidate := (jsTrim (B.normalizeNfkc value)).toList
  if !([8, 12, 13, 14].contains candidate.length) || !candidate.all Char.isDigit then false
  else
    match candidate.reverse with
    | [] => false
    | checkDigit :: payload => decide ((payloadTotal payload + (checkDigit.toNat - 48)) % 10 = 0)

/-- The barcodes that count, in their order. -/
def eligibleBarcodes (B : IdentityBuiltins) (members : List Member) : List Member :=
  sortMembers B (members.filter fun member =>
    barcodeStandardIsEligible member && isValidGtin B member.normalizedValue)

def matchingBarcodePair (B : IdentityBuiltins) (sourceMembers targetMembers : List Member) :
    Option (Member × Member) :=
  let target := eligibleBarcodes B targetMembers
  (eligibleBarcodes B sourceMembers).findSome? fun sourceMember =>
    (target.find? fun member => decide (member.normalizedValue = sourceMember.normalizedValue)).map
      (sourceMember, ·)

def safeEvidence (B : IdentityBuiltins) (pair : Member × Member) (type : EvidenceType) (component : String)
    (isStrong : Bool) (weight : Rat) : Evidence where
  sourceObservationId := pair.1.observationId
  targetObservationId := pair.2.observationId
  type := type
  component := component
  isStrong := isStrong
  weight := weight
  normalizedValueFingerprint := B.sha256 pair.1.normalizedValue

/-! ## Attributes -/

/-- A text behind a word, in any case. -/
def dropWord (word text : List Char) : Option (List Char) :=
  if (text.take word.length).map Char.toLower = word then some (text.drop word.length) else none

/-- A text behind `[.:]`. -/
def dropSeparator (text : List Char) : Option (List Char) :=
  if text.head? = some '.' ∨ text.head? = some ':' then some (text.drop 1) else none

/-- The digits `LEGACY_ATTRIBUTE_SOURCE_KEY_PATTERN` finds. -/
def legacyAttributeId (key : String) : Option AttributeId := do
  let rest ← dropWord "product".toList key.toList
  let rest ← dropSeparator rest
  let rest ← dropWord "attribute".toList rest
  let rest ← dropSeparator rest
  let digits := rest.takeWhile Char.isDigit
  let behind := rest.drop digits.length
  if matched : isAttributeId (String.ofList digits) = true ∧
      (behind = [] ∨ behind.head? = some '.' ∨ behind.head? = some ':') then
    some ⟨String.ofList digits, matched.1⟩
  else none

def memberAttributeId (member : Member) : Option AttributeId :=
  match member.standard.attributeId with
  | some attributeId => some attributeId
  | none => member.sourceValueKey.bind legacyAttributeId

def memberFieldKey (member : Member) : Option String :=
  match memberAttributeId member with
  | some attributeId => some ("ATTRIBUTE:" ++ attributeId.digits)
  | none => member.sourceValueKey.map ("SOURCE:" ++ ·)

def pairKey (member : Member) : Option String :=
  (memberFieldKey member).map fun fieldKey => fieldKey ++ "\x00" ++ member.normalizedValue

/-- A pair of attributes with the same value. -/
structure AttributePair where
  source : Member
  target : Member
  attributeId : Option AttributeId
  fieldKey : String
  deriving DecidableEq

/-- The loop of `pairAttributes`: each source takes the first target of its key that is left. -/
def pairLoop : List Member → List Member → List AttributePair
  | [], _ => []
  | source :: sources, targets =>
    match memberFieldKey source with
    | none => pairLoop sources targets
    | some fieldKey =>
      match targets.find? fun target => decide (pairKey target = pairKey source) with
      | none => pairLoop sources targets
      | some target =>
        { source, target, attributeId := memberAttributeId source, fieldKey } ::
          pairLoop sources (targets.erase target)

def pairOrder (B : IdentityBuiltins) (left right : AttributePair) : Ordering :=
  let field (pair : AttributePair) := (pair.attributeId.map AttributeId.digits).getD pair.fieldKey
  (B.numericCompare (field left) (field right)).then
    ((stableMemberOrder B left.source right.source).then (stableMemberOrder B left.target right.target))

def pairAttributes (B : IdentityBuiltins) (sourceMembers targetMembers : List Member) : List AttributePair :=
  (pairLoop (sortMembers B sourceMembers) (sortMembers B targetMembers)).insertionSort fun left right =>
    (pairOrder B left right).isLE = true

/-- `CURATED_PRODUCT_ATTRIBUTE_ID_SET.has(pair.attributeId)`. -/
def AttributePair.curated (pair : AttributePair) : Bool :=
  match pair.attributeId with
  | some attributeId => curatedProductAttributeIds.contains attributeId.digits
  | none => false

/-- One round of the loop that fills `curatedPairsByAttributeId`. -/
def keepCurated (kept : List AttributePair) (pair : AttributePair) : List AttributePair :=
  if pair.curated && !kept.any fun other => decide (other.attributeId = pair.attributeId) then kept ++ [pair]
  else kept

/-- `curatedPairsByAttributeId`: the first pair of each attribute. -/
def curatedPairs (pairs : List AttributePair) : List AttributePair := pairs.foldl keepCurated []

/-! ## Hard conflicts -/

/-- The tokens of a text: `split(/[^A-Z0-9]+/).filter(Boolean)`. -/
def upperTokens (text : String) : List String :=
  ((text.toList.splitOnP fun c => !(c.isUpper || c.isDigit)).filter (· ≠ [])).map String.ofList

def hardTypeOf (token : String) : Option HardType :=
  hardAttributeTypes.find? fun type => decide (type.name = token)

def hardAttributeType (B : IdentityBuiltins) (member : Member) : Option HardType :=
  [member.standard.type, member.standard.text, member.sourceValueKey].findSome? fun candidate =>
    candidate.bind fun text => (upperTokens (B.toUpperCase (B.normalizeNfkc text))).findSome? hardTypeOf

/-- `hardValuesByType(set).get(type)`. -/
def hardValues (B : IdentityBuiltins) (set : ObservedSet) (type : HardType) : List Member :=
  sortMembers B ((if type = .category then set.category.toList else []) ++
    set.hardAttributes.filter fun member => decide (hardAttributeType B member = some type))

def distinctValues (members : List Member) : List String := (members.map Member.normalizedValue).eraseDups

def hardConflict (B : IdentityBuiltins) (sourceSet targetSet : ObservedSet) (type : HardType) :
    Option Evidence :=
  let sourceMembers := hardValues B sourceSet type
  let targetMembers := hardValues B targetSet type
  match sourceMembers, targetMembers with
  | firstSource :: _, firstTarget :: _ =>
    let sourceValues := distinctValues sourceMembers
    let targetValues := distinctValues targetMembers
    if sourceValues = targetValues then none
    else
      let source := (sourceMembers.find? fun member => !targetValues.contains member.normalizedValue).getD
        firstSource
      let target := (targetMembers.find? fun member => !sourceValues.contains member.normalizedValue).getD
        firstTarget
      some {
        sourceObservationId := source.observationId
        targetObservationId := target.observationId
        type := .hardConflict
        component := type.name
        isStrong := false
        weight := 0
        normalizedValueFingerprint := normalizedPairFingerprint B sourceValues targetValues }
  | _, _ => none

def hardConflicts (B : IdentityBuiltins) (sourceSet targetSet : ObservedSet) : List Evidence :=
  hardAttributeTypes.filterMap (hardConflict B sourceSet targetSet)

/-! ## The evaluation -/

/-- `evidenceOrder(left, right)`. -/
def evidenceOrder (B : IdentityBuiltins) (left right : Evidence) : Ordering :=
  (compare left.type.order right.type.order).then
    ((B.numericCompare left.component right.component).then
      ((B.localeCompare left.sourceObservationId right.sourceObservationId).then
        (B.localeCompare left.targetObservationId right.targetObservationId)))

def roundedScore (value : Rat) : Rat := min 1 (fixed 6 value)

/-- What was found in common: what the decision depends on, beside the conflicts. -/
structure Findings where
  barcodePair : Option (Member × Member)
  modelPair : Option (Member × Member)
  brandPair : Option (Member × Member)
  categoryPair : Option (Member × Member)
  supplierPair : Option (Member × Member)
  attributePairs : List AttributePair

def Findings.officialModelMatch (found : Findings) : Bool :=
  match found.modelPair with
  | some pair => isOfficialModel pair.1 && isOfficialModel pair.2
  | none => false

def Findings.brandCategoryMatch (found : Findings) : Bool :=
  found.brandPair.isSome && found.categoryPair.isSome

/-- `curatedPairs`. -/
def Findings.curated (found : Findings) : List AttributePair := curatedPairs found.attributePairs

def Findings.curatedGatePassed (found : Findings) : Bool := decide (2 ≤ found.curated.length)

def Findings.modelWeight (found : Findings) : Rat :=
  if found.officialModelMatch then matchWeights.model else 0

/-- The weight of a curated pair by its place. -/
def curatedWeight (index : Nat) : Rat := if index < 2 then matchWeights.curatedAttribute else 0

/-- `if (pair) score += weight`. -/
def addWhen (found : Bool) (weight score : Rat) : Rat := if found then doubleAdd score weight else score

def addCurated (pairs : List AttributePair) (score : Rat) : Rat :=
  pairs.zipIdx.foldl (fun score item => doubleAdd score (curatedWeight item.2)) score

def Findings.total (found : Findings) : Rat :=
  let score := addWhen found.barcodePair.isSome matchWeights.barcode 0
  let score := addWhen found.modelPair.isSome found.modelWeight score
  let score := addWhen found.brandPair.isSome matchWeights.brand score
  let score := addWhen found.categoryPair.isSome matchWeights.category score
  let score := addWhen found.supplierPair.isSome matchWeights.supplierCode score
  addCurated found.curated score

/-- `strongEvidence`. -/
def Findings.strong (found : Findings) : EvidenceType → Bool
  | .barcode => found.barcodePair.isSome
  | .model => found.officialModelMatch
  | .brandCategory => found.brandCategoryMatch
  | .curatedAttributes => found.curatedGatePassed
  | _ => false

def Findings.evidence (B : IdentityBuiltins) (found : Findings) : List Evidence :=
  found.barcodePair.toList.map (safeEvidence B · .barcode "GTIN" true matchWeights.barcode) ++
  found.modelPair.toList.map (safeEvidence B · .model
    (if found.officialModelMatch then "ATTRIBUTE:" ++ officialModelAttributeId else "UNVERIFIED_SOURCE")
    found.officialModelMatch found.modelWeight) ++
  found.brandPair.toList.map
    (safeEvidence B · .brandCategory "BRAND" found.brandCategoryMatch matchWeights.brand) ++
  found.categoryPair.toList.map
    (safeEvidence B · .brandCategory "CATEGORY" found.brandCategoryMatch matchWeights.category) ++
  found.supplierPair.toList.map
    (safeEvidence B · .supplierCode "SUPPLIER_CODE" false matchWeights.supplierCode) ++
  (found.curated.zipIdx.map fun item => safeEvidence B (item.1.source, item.1.target) .curatedAttributes
    ("ATTRIBUTE:" ++ (item.1.attributeId.map AttributeId.digits).getD "") found.curatedGatePassed
    (curatedWeight item.2)) ++
  ((found.attributePairs.filter fun pair => !pair.curated).map fun pair =>
    safeEvidence B (pair.source, pair.target) .coreAttributes
      (match pair.attributeId with
        | some attributeId => "ATTRIBUTE:" ++ attributeId.digits
        | none => "UNCLASSIFIED") false 0)

def Findings.approvedAutomaticPath (found : Findings) : Bool :=
  (found.barcodePair.isSome && found.officialModelMatch) ||
  (found.barcodePair.isSome && found.brandCategoryMatch && found.curatedGatePassed) ||
  (found.officialModelMatch && found.brandCategoryMatch && found.supplierPair.isSome &&
    found.curatedGatePassed)

def findings (B : IdentityBuiltins) (source target : ObservedSet) : Findings where
  barcodePair := matchingBarcodePair B source.barcodes target.barcodes
  modelPair := exactPair source.model target.model
  brandPair := exactPair source.brand target.brand
  categoryPair := exactPair source.category target.category
  supplierPair := exactPair source.supplierCode target.supplierCode
  attributePairs := pairAttributes B source.coreAttributes target.coreAttributes

/-- The recommendation and its reason. -/
def recommend (conflicting approved : Bool) (score : Rat) (strong : Nat) : Recommendation × String :=
  if conflicting then (.blocked, "A hard observed product-identity attribute conflicts.")
  else if approved ∧ toDouble (95 / 100) ≤ score ∧ 2 ≤ strong then
    (.confirmed, "An approved automatic observed-identity path passed.")
  else if toDouble (75 / 100) ≤ score ∧ score < toDouble (95 / 100) then
    (.proposed, "Evidence reached the review proposal band.")
  else if toDouble (95 / 100) ≤ score then
    (.reviewRequired, "Score is high but no approved automatic observed-identity path passed.")
  else (.reviewRequired, "Evidence is below the review proposal threshold.")

/-- `evaluateObservedProductIdentityMatch`, of two sets that are normalized. -/
def evaluateSets (B : IdentityBuiltins) (source target : ObservedSet) : Evaluation :=
  let found := findings B source target
  let conflicts := hardConflicts B source target
  let score := roundedScore found.total
  let strongEvidenceTypes := strongEvidenceOrder.filter found.strong
  let recommended := recommend (!conflicts.isEmpty) found.approvedAutomaticPath score strongEvidenceTypes.length
  { recommendation := recommended.1
    score
    strongEvidenceTypes
    matchedEvidence := (found.evidence B).insertionSort fun left right =>
      (evidenceOrder B left right).isLE = true
    hardConflicts := conflicts
    reason := recommended.2 }

def evaluateObservedProductIdentityMatch (B : IdentityBuiltins) (sourceInput targetInput : Given SetInput) :
    Except JsError Evaluation := do
  let source ← normalizeSet B sourceInput "source"
  let target ← normalizeSet B targetInput "target"
  return evaluateSets B source target

end FullManagedBi.ProductIdentity
