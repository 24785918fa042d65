import FullManagedBi.Lib.OrderedMap
import FullManagedBi.WebapiSession.SessionStore

/-!
# The cookie jar

`src/webapi-session/cookie-jar.mjs`: `Set-Cookie` headers are split (`splitSetCookieHeader`), parsed
(`parseSetCookie`) and merged into a stored session (`mergeSetCookieHeaders`), and the cookies of a session
are sent with a request (`cookieHeaderForUrl`).
-/

namespace FullManagedBi.WebapiSession

open Lib

/-- `MAX_SET_COOKIE_HEADERS`. -/
def maxSetCookieHeaders : Nat := 128

/-- A URL, as `URL` shows it: its host name is in ASCII and in lower case, and its path starts with a
slash. -/
structure Url where
  protocol : String
  hostname : String
  pathname : String
  hostname_canonical : ∀ c ∈ hostname.toList, c.toNat < 128 ∧ c.isUpper = false ∧ isJsSpace c = false
  pathname_slash : startsWithSlash pathname = true

def homeUrl : Url where
  protocol := "https:"
  hostname := "sso.geiwohuo.com"
  pathname := "/sbn/index"
  hostname_canonical := by
    have canonical : ("sso.geiwohuo.com".toList.all fun c =>
        decide (c.toNat < 128) && !c.isUpper && !isJsSpace c) = true := by decide
    intro c mem
    simpa [and_assoc] using List.all_eq_true.mp canonical c mem
  pathname_slash := by decide

/-! ## Domains and paths -/

/-- `text.replace(/\.$/, '')`. -/
def dropFinalDot (text : String) : String :=
  match text.toList.reverse with
  | '.' :: rest => String.ofList rest.reverse
  | _ => text

def canonicalHost (B : SessionBuiltins) (value : String) : String :=
  dropFinalDot (B.toLowerCase (jsTrim value))

def cookieDomain (B : SessionBuiltins) (cookie : Cookie) : String :=
  dropDot (canonicalHost B cookie.domain)

def domainMatches (B : SessionBuiltins) (cookie : Cookie) (host : String) : Bool :=
  let domain := cookieDomain B cookie
  if domain = "" then false
  else if cookie.hostOnly then decide (host = domain)
  else decide (host = domain) || endsWithDot host domain

/-- `value || '/'`. -/
def pathOrRoot (path : String) : String := if path = "" then "/" else path

def pathMatches (cookiePath requestPath : String) : Bool :=
  let candidate := (pathOrRoot cookiePath).toList
  if candidate = ['/'] then true
  else if !decide (candidate <+: requestPath.toList) then false
  else decide (candidate.getLast? = some '/') || decide (requestPath.toList.length = candidate.length) ||
    decide (requestPath.toList[candidate.length]? = some '/')

def cookieExpired (cookie : Cookie) (nowSeconds : Rat) : Bool :=
  match cookie.expires with
  | some (.finite expires) => decide (0 < expires) && decide (expires ≤ nowSeconds)
  | _ => false

/-- The character that ends the parts of a key. -/
def nul : Char := Char.ofNat 0

def cookieKey (B : SessionBuiltins) (cookie : Cookie) : String :=
  String.ofList (cookie.name.toList ++ nul :: (canonicalHost B cookie.domain).toList ++
    nul :: (pathOrRoot cookie.path).toList)

def defaultCookiePath (requestPath : String) : String :=
  let pathname := pathOrRoot requestPath
  if startsWithSlash pathname = false ∨ pathname = "/" then "/"
  else
    let folder := (pathname.toList.reverse.dropWhile (· ≠ '/')).drop 1
    if folder = [] then "/" else String.ofList folder.reverse

/-! ## Splitting a combined header -/

/-- `/^\s*[^=;,\s]+\s*=/` matches the start of a text. -/
def startsCookie (text : List Char) : Bool :=
  let named := text.dropWhile isJsSpace
  let rest := named.dropWhile fun c => !(c = '=' || c = ';' || c = ',' || isJsSpace c)
  decide (rest.length < named.length) && decide ((rest.dropWhile isJsSpace).head? = some '=')

/-- `text.slice(index, index + 8).toLowerCase() === 'expires='`, for the text from `index` on. -/
def startsExpires (B : SessionBuiltins) (text : List Char) : Bool :=
  decide (B.toLowerCase (String.ofList (text.take 8)) = "expires=")

/-- The loop of `splitSetCookieHeader`: `piece` is what was read since `start`, in reverse. -/
def splitLoop (B : SessionBuiltins) (inExpires : Bool) (piece : List Char) : List Char → List String
  | [] => [jsTrim (String.ofList piece.reverse)]
  | c :: rest =>
    let inExpires := if c = ';' then false else inExpires || startsExpires B (c :: rest)
    if c = ',' ∧ inExpires = false ∧ startsCookie rest then
      jsTrim (String.ofList piece.reverse) :: splitLoop B inExpires [] rest
    else splitLoop B inExpires (c :: piece) rest

def splitSetCookieHeader (B : SessionBuiltins) (value : String) : List String :=
  if value = "" then [] else (splitLoop B false [] value.toList).filter (· ≠ "")

/-! ## Parsing one header -/

/-- An attribute of a header: its key in lower case, and its value. -/
structure Attribute where
  key : String
  value : String
  deriving DecidableEq

/-- The attribute in a part of a header, unless the part is blank. -/
def attributeOf (B : SessionBuiltins) (part : List Char) : Option Attribute :=
  let text := (jsTrim (String.ofList part)).toList
  if text = [] then none
  else
    let key := text.takeWhile (· ≠ '=')
    some ⟨B.toLowerCase (jsTrim (String.ofList key)), jsTrim (String.ofList (text.drop (key.length + 1)))⟩

def cookiePair (part : List Char) : Option (String × String) :=
  let first := (jsTrim (String.ofList part)).toList
  let name := first.takeWhile (· ≠ '=')
  if name.length = first.length ∨ name = [] then none
  else if jsTrim (String.ofList name) = "" then none
  else some (jsTrim (String.ofList name), String.ofList (first.drop (name.length + 1)))

/-- What `parseSetCookie` keeps while it reads, and what it returns. -/
structure Parsed where
  cookie : Cookie
  remove : Bool := false
  deriving DecidableEq

/-- The value of `samesite`. -/
def sameSiteOf (B : SessionBuiltins) (value : String) : Option SameSite :=
  let sameSite := B.toLowerCase value
  if sameSite = "strict" then some .strict
  else if sameSite = "lax" then some .lax
  else if sameSite = "none" then some .none
  else none

def attributeDomain (B : SessionBuiltins) (url : Url) (value : String) : Option String :=
  let domain := dropDot (canonicalHost B value)
  if domain = "" then none
  else if url.hostname = domain ∨ endsWithDot url.hostname domain = true then
    some (if startsWithDot value then String.ofList ('.' :: domain.toList) else domain)
  else none

/-- One round of the loop of `parseSetCookie`. -/
def applyAttribute (B : SessionBuiltins) (url : Url) (nowSeconds : Rat) (parsed : Parsed)
    (attr : Attribute) : Option Parsed :=
  let candidate := parsed.cookie
  if attr.key = "domain" then
    (attributeDomain B url attr.value).map fun domain =>
      { parsed with cookie := { candidate with domain, hostOnly := false } }
  else if attr.key = "path" then
    some { parsed with
      cookie := { candidate with path := if startsWithSlash attr.value then attr.value else "/" } }
  else if attr.key = "max-age" then
    match B.toNumber attr.value with
    | .finite seconds =>
      some {
        cookie := { candidate with expires := some (.finite (B.add nowSeconds seconds)) }
        remove := parsed.remove || decide (seconds ≤ 0) }
    | _ => some parsed
  else if attr.key = "expires" ∧ candidate.expires = none then
    match B.parseDate attr.value with
    | some milliseconds =>
      let expires := B.perThousand milliseconds
      some {
        cookie := { candidate with expires := some (.finite expires) }
        remove := parsed.remove || decide (expires ≤ nowSeconds) }
    | none => some parsed
  else if attr.key = "secure" then some { parsed with cookie := { candidate with secure := true } }
  else if attr.key = "httponly" then some { parsed with cookie := { candidate with httpOnly := true } }
  else if attr.key = "samesite" then
    some { parsed with cookie := { candidate with sameSite := sameSiteOf B attr.value } }
  else some parsed

/-- The cookie of a header, before its attributes are read. -/
def candidateCookie (url : Url) (name value : String) : Cookie where
  name := name
  value := value
  domain := url.hostname
  path := defaultCookiePath url.pathname
  secure := false
  hostOnly := true

def firstPart (value : String) : List Char := (value.toList.splitOn ';').headD []

/-- The attributes of a header, in their order. -/
def attributesOf (B : SessionBuiltins) (value : String) : List Attribute :=
  (value.toList.splitOn ';').tail.filterMap (attributeOf B)

def parseSetCookie (B : SessionBuiltins) (value : String) (url : Url) (nowSeconds : Rat) :
    Option Parsed :=
  match cookiePair (firstPart value) with
  | none => none
  | some (name, cookieValue) =>
    (attributesOf B value).foldlM (applyAttribute B url nowSeconds)
      { cookie := candidateCookie url name cookieValue }

/-! ## Sending and merging -/

/-- `now.valueOf() / 1000`. -/
def secondsOf (B : SessionBuiltins) (now : Instant) : Rat := B.perThousand now

/-- The cookies a request to a URL is sent with, in the order of the header. -/
def cookiesForUrl (B : SessionBuiltins) (bundle : SessionBundle) (url : Url) (now : Instant) :
    Except JsError (List Cookie) := do
  let normalized ← normalizeWebApiSessionBundle B bundle bundle.storeCode
  let sent := (normalized.cookies.getD []).filter fun cookie =>
    !cookieExpired cookie (secondsOf B now) && domainMatches B cookie (canonicalHost B url.hostname) &&
      pathMatches cookie.path (pathOrRoot url.pathname) &&
      (!cookie.secure || decide (url.protocol = "https:"))
  return sent.insertionSort fun left right =>
    jsLength right.path < jsLength left.path ∨
      jsLength right.path = jsLength left.path ∧ left.order.getD 0 ≤ right.order.getD 0

def cookieHeaderForUrl (B : SessionBuiltins) (bundle : SessionBundle) (url : Url) (now : Instant) :
    Except JsError String := do
  let sent ← cookiesForUrl B bundle url now
  return String.intercalate "; " (sent.map fun cookie => cookie.name ++ "=" ++ cookie.value)

/-- One round of the loop of `mergeSetCookieHeaders`. -/
def mergeSetCookie (B : SessionBuiltins) (url : Url) (nowSeconds : Rat) (jar : OrderedMap String Cookie)
    (value : String) : OrderedMap String Cookie :=
  match parseSetCookie B value url nowSeconds with
  | none => jar
  | some parsed =>
    let key := cookieKey B parsed.cookie
    if parsed.remove then jar.delete key
    else
      let order := match jar.get? key with
        | some old => old.order.getD jar.size
        | none => jar.size
      jar.set key { parsed.cookie with order := some order }

def jarOf (B : SessionBuiltins) (cookies : List Cookie) (nowSeconds : Rat) : OrderedMap String Cookie :=
  .ofEntries ((cookies.filter fun cookie => !cookieExpired cookie nowSeconds).map fun cookie =>
    (cookieKey B cookie, cookie))

def mergeSetCookieHeaders (B : SessionBuiltins) (bundle : SessionBundle) (url : Url)
    (values : List String) (now : Instant) : Except JsError SessionBundle := do
  let normalized ← normalizeWebApiSessionBundle B bundle bundle.storeCode
  let nowSeconds := secondsOf B now
  let jar := (values.take maxSetCookieHeaders).foldl (mergeSetCookie B url nowSeconds)
    (jarOf B (normalized.cookies.getD []) nowSeconds)
  normalizeWebApiSessionBundle B
    { normalized with updatedAt := some now, cookies := some jar.values } normalized.storeCode

end FullManagedBi.WebapiSession
