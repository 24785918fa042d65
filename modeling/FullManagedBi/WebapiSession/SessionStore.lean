import FullManagedBi.Lib.Js

/-!
# The stored WebAPI session

`normalizeWebApiSessionBundle` (`src/webapi-session/encrypted-session-store.mjs`): what a stored session
has to be, and the form in which it is kept. A `Cookie` is what the program passes around under that name:
a cookie of a stored session, one that was just parsed, and one that is normalized.
-/

namespace FullManagedBi.WebapiSession

open Lib

/-- A point in time, in milliseconds. -/
abbrev Instant := Int

/-- A number, as `Number` returns it. -/
inductive JsFloat where
  | nan
  | infinity (positive : Bool)
  | finite (value : Rat)
  deriving DecidableEq

/-- The builtins of JavaScript that the session code calls. -/
structure SessionBuiltins where
  toUpperCase : String → String
  toLowerCase : String → String
  toUpperCase_ascii : ∀ s : String, (s.toList.all fun c => c.toNat < 128) → toUpperCase s = asciiUpper s
  toLowerCase_ascii : ∀ s : String, (s.toList.all fun c => c.toNat < 128) →
    toLowerCase s = String.ofList (s.toList.map Char.toLower)
  toLowerCase_trim : ∀ s, toLowerCase (jsTrim s) = jsTrim (toLowerCase s)
  toLowerCase_toLowerCase : ∀ s, toLowerCase (toLowerCase s) = toLowerCase s
  toLowerCase_mem : ∀ s : String, ∀ c ∈ s.toList, c.toNat < 128 → c.toLower ∈ (toLowerCase s).toList
  toNumber : String → JsFloat
  parseDate : String → Option Rat
  add : Rat → Rat → Rat
  perThousand : Rat → Rat

/-- The values of `sameSite`. -/
inductive SameSite where
  | strict
  | lax
  | none
  deriving DecidableEq

/-- A cookie. `expires` is missing where it is `null`, `order` where it is no safe integer. -/
structure Cookie where
  name : String
  value : String
  domain : String
  path : String
  expires : Option JsFloat := .none
  httpOnly : Bool := false
  secure : Bool := true
  sameSite : Option SameSite := .none
  hostOnly : Bool := false
  order : Option Int := .none
  deriving DecidableEq

/-- The error of `fail`. -/
def refused (code : String) : JsError :=
  { code := some code, message := "encrypted WebAPI session refused: " ++ code }

/-- `FULL_MANAGED_STORE_CODES`. -/
def fullManagedStoreCodes : List String :=
  ["CX4412", "XL2801", "QY8886", "DX0571", "NM7397", "LQ7173", "TS8263", "DL5477", "FY4021", "GJ8989",
    "QH8028", "JY8060", "ZL3133", "MZ2406", "YJ8177", "RH0099", "WY9025", "RH2848", "CX2816", "YJ4042",
    "NM4977", "NM8787", "NM8831", "NM7418", "DX2420"]

def normalizeFullManagedStoreCode (B : SessionBuiltins) (value : String) : Option String :=
  let storeCode := B.toUpperCase (jsTrim value)
  if storeCode ∈ fullManagedStoreCodes then some storeCode else none

def canonicalStoreCode (B : SessionBuiltins) (value : String) : Except JsError String :=
  match normalizeFullManagedStoreCode B (B.toUpperCase (jsTrim value)) with
  | some canonical => .ok canonical
  | none => .error (refused "WEBAPI_SESSION_STORE_NOT_ALLOWED")

/-- `text.replace(/^\./, '')`. -/
def dropDot (text : String) : String :=
  match text.toList with
  | '.' :: rest => String.ofList rest
  | _ => text

/-- `text.endsWith('.' + domain)`. -/
def endsWithDot (text domain : String) : Bool := decide (('.' :: domain.toList) <:+ text.toList)

def sessionDomain : String := "geiwohuo.com"

def allowedCookieDomain (B : SessionBuiltins) (value : String) : Bool :=
  let normalized := dropDot (B.toLowerCase (jsTrim value))
  decide (normalized = sessionDomain) || endsWithDot normalized sessionDomain

/-- What `/[\u0000-\u0020\u007f()<>@,;:\\"/\[\]?={}]/` matches. -/
def isCookieSeparator (c : Char) : Bool :=
  decide (c.toNat ≤ 0x20) || decide (c.toNat = 0x7f) ||
    ['(', ')', '<', '>', '@', ',', ';', ':', '\\', '"', '/', '[', ']', '?', '=', '{', '}'].contains c

/-- `MAX_COOKIE_COUNT`. -/
def maxCookieCount : Nat := 512

/-- `MAX_COOKIE_VALUE_BYTES`. -/
def maxCookieValueBytes : Nat := 16 * 1024

/-- The expiry that is kept: a positive one. -/
def normalizedExpires (expires : Option JsFloat) : Except JsError (Option JsFloat) :=
  match expires with
  | some (.finite seconds) => .ok (if 0 < seconds then some (.finite seconds) else none)
  | some (.infinity true) => .error (refused "WEBAPI_SESSION_COOKIE_INVALID")
  | _ => .ok none

def startsWithSlash (path : String) : Bool := path.toList.head? = some '/'

def startsWithDot (domain : String) : Bool := domain.toList.head? = some '.'

def normalizedCookie (B : SessionBuiltins) (input : Cookie) (index : Nat) : Except JsError Cookie := do
  let domain := B.toLowerCase (jsTrim input.domain)
  refuse (input.name = "" ∨ 256 < jsLength input.name ∨ input.name.toList.any isCookieSeparator)
    (refused "WEBAPI_SESSION_COOKIE_INVALID")
  refuse (maxCookieValueBytes < input.value.utf8ByteSize) (refused "WEBAPI_SESSION_COOKIE_INVALID")
  refuse (allowedCookieDomain B domain = false ∨ startsWithSlash input.path = false)
    (refused "WEBAPI_SESSION_COOKIE_SCOPE_INVALID")
  let expires ← normalizedExpires input.expires
  return { input with
    domain, expires
    hostOnly := input.hostOnly || !startsWithDot domain
    order := some (input.order.getD index) }

/-- A session, as it is stored or about to be: `cookies` is missing where it is no array, and a timestamp
where it cannot be read. -/
structure SessionBundle where
  storeCode : String
  origin : String
  userAgent : String
  createdAt : Option Instant
  updatedAt : Option Instant
  identityProvenAt : Option Instant
  lastVerifiedAt : Option (Option Instant) := none
  cookies : Option (List Cookie)
  deriving DecidableEq

/-- `HOME_WEBAPI_ORIGIN`. -/
def homeWebapiOrigin : String := "https://sso.geiwohuo.com"

def isoTimestamp (value : Option Instant) (code : String) : Except JsError (Option Instant) :=
  match value with
  | some instant => .ok (some instant)
  | none => .error (refused code)

/-- `cookies.map(normalizedCookie)`. -/
def normalizedCookies (B : SessionBuiltins) (cookies : List Cookie) : Except JsError (List Cookie) :=
  cookies.zipIdx.mapM fun item => normalizedCookie B item.1 item.2

def expectedCode (B : SessionBuiltins) (storeCode expectedStoreCode : String) : Except JsError String :=
  if expectedStoreCode = "" then .ok storeCode else canonicalStoreCode B expectedStoreCode

def verifiedTimestamp : Option (Option Instant) → Except JsError (Option (Option Instant))
  | none => .ok none
  | some verified => (isoTimestamp verified "WEBAPI_SESSION_LAST_VERIFIED_INVALID").map some

def normalizeWebApiSessionBundle (B : SessionBuiltins) (input : SessionBundle)
    (expectedStoreCode : String) : Except JsError SessionBundle := do
  let storeCode ← canonicalStoreCode B input.storeCode
  let expected ← expectedCode B storeCode expectedStoreCode
  refuse (storeCode ≠ expected) (refused "WEBAPI_SESSION_STORE_MISMATCH")
  refuse (input.origin ≠ homeWebapiOrigin) (refused "WEBAPI_SESSION_ORIGIN_INVALID")
  let userAgent := jsTrim input.userAgent
  refuse (userAgent = "" ∨ 1024 < jsLength userAgent ∨
      userAgent.toList.any (fun c => c = '\r' || c = '\n'))
    (refused "WEBAPI_SESSION_USER_AGENT_INVALID")
  let given := input.cookies.getD []
  refuse (input.cookies = none ∨ maxCookieCount < given.length)
    (refused "WEBAPI_SESSION_COOKIE_SET_INVALID")
  let cookies ← normalizedCookies B given
  refuse (cookies = []) (refused "WEBAPI_SESSION_COOKIE_SET_EMPTY")
  let createdAt ← isoTimestamp input.createdAt "WEBAPI_SESSION_CREATED_AT_INVALID"
  let updatedAt ← isoTimestamp input.updatedAt "WEBAPI_SESSION_UPDATED_AT_INVALID"
  let identityProvenAt ← isoTimestamp input.identityProvenAt "WEBAPI_SESSION_IDENTITY_PROOF_INVALID"
  let lastVerifiedAt ← verifiedTimestamp input.lastVerifiedAt
  return {
    storeCode
    origin := homeWebapiOrigin
    userAgent
    createdAt
    updatedAt
    identityProvenAt
    lastVerifiedAt
    cookies := some cookies }

def asciiBuiltins : SessionBuiltins where
  toUpperCase := asciiUpper
  toLowerCase s := String.ofList (s.toList.map Char.toLower)
  toUpperCase_ascii := TextBuiltins.ascii.toUpperCase_ascii
  toLowerCase_ascii _ _ := rfl
  toLowerCase_trim := jsTrim_ofList_map isJsSpace_toLower
  toLowerCase_toLowerCase s := by
    rw [String.toList_ofList, List.map_map]
    exact congrArg String.ofList (List.map_congr_left fun c _ => toLower_toLower c)
  toLowerCase_mem s c mem _ := by
    rw [String.toList_ofList]
    exact List.mem_map_of_mem mem
  toNumber text := if text = "3600" then .finite 3600 else .nan
  parseDate text := if text = "Thu, 01 Jan 1970 00:00:01 GMT" then some 1000 else none
  add a b := a + b
  perThousand a := a / 1000

end FullManagedBi.WebapiSession
