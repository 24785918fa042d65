import FullManagedBi.Lib.Js

/-!
# JSON values and their canonical text

A `Json` is what `JSON.parse` returns: the fields of an object are a list, in which no key is twice.
`canonicalJson` is the text of `src/backfill/canonical.mjs`, in which the fields are sorted by key, so
that two values that differ only in the order of fields have the same text. Only integers have such a
text.
-/

namespace Lib

/-- A finite number: an integer whose text is its digits, an integer whose text has an exponent, or
a number that is no integer. -/
inductive JsNumber where
  | int (n : Int)
  | large (text : String)
  | fraction (text : String)
  deriving DecidableEq

inductive Json where
  | null
  | bool (b : Bool)
  | num (n : JsNumber)
  | str (s : String)
  | arr (items : List Json)
  | obj (fields : List (String × Json))

def Json.ofNat (n : Nat) : Json := .num (.int n)

def Json.ofOption : Option String → Json
  | some s => .str s
  | none => .null

def Json.field? (key : String) : Json → Option Json
  | .obj fields => (fields.find? (·.1 = key)).map (·.2)
  | _ => none

def hexChar (n : Nat) : Char := if n < 10 then Char.ofNat (48 + n) else Char.ofNat (87 + n)

def escapeChar (c : Char) : List Char :=
  if c = '"' then ['\\', '"']
  else if c = '\\' then ['\\', '\\']
  else if c.toNat = 8 then ['\\', 'b']
  else if c.toNat = 9 then ['\\', 't']
  else if c.toNat = 10 then ['\\', 'n']
  else if c.toNat = 12 then ['\\', 'f']
  else if c.toNat = 13 then ['\\', 'r']
  else if c.toNat < 32 then ['\\', 'u', '0', '0', hexChar (c.toNat / 16), hexChar (c.toNat % 16)]
  else [c]

def jsonString (s : String) : List Char := '"' :: s.toList.flatMap escapeChar ++ ['"']

def decimalDigits (n : Nat) : List Char := Nat.toDigits 10 n

def intText : Int → List Char
  | .ofNat n => decimalDigits n
  | .negSucc n => '-' :: decimalDigits (n + 1)

def JsNumber.canonical : JsNumber → Option (List Char)
  | .int n => some (intText n)
  | .large text => some text.toList
  | .fraction _ => none

def joinComma (texts : List (List Char)) : List Char := List.intercalate [','] texts

def sortFields (fields : List (String × List Char)) : List (String × List Char) :=
  fields.insertionSort fun a b => jsUnits a.1 ≤ jsUnits b.1

def fieldText (field : String × List Char) : List Char := jsonString field.1 ++ ':' :: field.2

mutual
def canonicalChars : Json → Option (List Char)
  | .null => some "null".toList
  | .bool b => some (if b then "true".toList else "false".toList)
  | .num n => n.canonical
  | .str s => some (jsonString s)
  | .arr items => (canonicalItems items).map fun texts => '[' :: joinComma texts ++ [']']
  | .obj fields => (canonicalFields fields).map fun texts =>
    '{' :: joinComma ((sortFields texts).map fieldText) ++ ['}']
def canonicalItems : List Json → Option (List (List Char))
  | [] => some []
  | item :: items =>
    match canonicalChars item, canonicalItems items with
    | some text, some texts => some (text :: texts)
    | _, _ => none
/-- The keys of an object with the texts of their values. -/
def canonicalFields : List (String × Json) → Option (List (String × List Char))
  | [] => some []
  | (key, value) :: fields =>
    match canonicalChars value, canonicalFields fields with
    | some text, some texts => some ((key, text) :: texts)
    | _, _ => none
end

/-- `canonicalJson`, which throws at a number that is no integer. -/
def canonicalJson (value : Json) : Except JsError String :=
  match canonicalChars value with
  | some chars => .ok (String.ofList chars)
  | none => .error { message := "canonical JSON only encodes integers; use decimal strings" }

/-! ## Conversions -/

def JsNumber.text : JsNumber → String
  | .int n => String.ofList (intText n)
  | .large text => text
  | .fraction text => text

mutual
def stableChars : Json → List Char
  | .null => "null".toList
  | .bool b => if b then "true".toList else "false".toList
  | .num n => n.text.toList
  | .str s => jsonString s
  | .arr items => '[' :: joinComma (stableItems items) ++ [']']
  | .obj fields => '{' :: joinComma ((sortFields (stableFields fields)).map fieldText) ++ ['}']
def stableItems : List Json → List (List Char)
  | [] => []
  | item :: items => stableChars item :: stableItems items
/-- The keys of an object with the texts of their values. -/
def stableFields : List (String × Json) → List (String × List Char)
  | [] => []
  | (key, value) :: fields => (key, stableChars value) :: stableFields fields
end

/-- `stableJson`: `JSON.stringify` with the fields of each object sorted by key. -/
def stableJson (value : Json) : String := String.ofList (stableChars value)

mutual
def Json.text : Json → String
  | .null => "null"
  | .bool b => if b then "true" else "false"
  | .num n => n.text
  | .str s => s
  | .arr items => String.intercalate "," (itemTexts items)
  | .obj _ => "[object Object]"
/-- The texts `join` puts between commas, where `null` is empty. -/
def itemTexts : List Json → List String
  | [] => []
  | .null :: items => "" :: itemTexts items
  | item :: items => item.text :: itemTexts items
end

/-- `a ?? b`, of values that may be `undefined`. -/
def nullish (a b : Option Json) : Option Json :=
  match a with
  | none | some .null => b
  | some value => some value

def textOrEmpty (value : Option Json) : String :=
  match nullish value none with
  | some value => value.text
  | none => ""

def truthy : Option Json → Bool
  | none | some .null => false
  | some (.bool b) => b
  | some (.num n) => n ≠ .int 0
  | some (.str s) => s ≠ ""
  | some (.arr _) | some (.obj _) => true

/-- `===` of the values of two different objects: arrays and objects are never the same. -/
def strictEq : Option Json → Option Json → Bool
  | none, none => true
  | some .null, some .null => true
  | some (.bool a), some (.bool b) => a = b
  | some (.num a), some (.num b) => a = b
  | some (.str a), some (.str b) => a = b
  | _, _ => false

/-- A digest, of which only its form is known. -/
structure Digest where
  sha256Hex : String → String
  isSha256Hex_sha256Hex : ∀ text, isSha256Hex (sha256Hex text) = true

theorem isSha256Hex_replicate {c : Char} (digit : (c.isDigit || (decide ('a' ≤ c) && decide (c ≤ 'f'))) = true) :
    isSha256Hex (String.ofList (List.replicate 64 c)) = true := by
  unfold isSha256Hex
  rw [String.toList_ofList, List.length_replicate, List.all_replicate]
  exact digit

theorem isSha256Hex_hexChar {n : Nat} (small : n < 16) :
    isSha256Hex (String.ofList (List.replicate 64 (hexChar n))) = true := by
  have digits : ∀ n < 16, ((hexChar n).isDigit || (decide ('a' ≤ hexChar n) && decide (hexChar n ≤ 'f'))) = true := by
    decide
  exact isSha256Hex_replicate (digits n small)

/-- `payloadFingerprint` of `src/openapi/paginated-fetch.mjs`. -/
def Digest.payloadFingerprint (H : Digest) (value : Json) : String := H.sha256Hex (stableJson value)

def Digest.canonicalHash (H : Digest) (value : Json) : Except JsError String :=
  (canonicalJson value).map H.sha256Hex

end Lib
