import FullManagedBi.Laws.CookieLifetime
import FullManagedBi.Laws.CookieJar

/-!
# A cookie that was set is sent again

A cookie passes through four functions that each read its domain: it is parsed, keyed, normalized and
matched. `normalizedCookie` takes a domain without a leading dot for the domain of one host, also where the
header named it in a `Domain` attribute. So:

- `domainMatches_stored` — which stored cookies match the host that set them (`Reaches`);
- **`setThenSend_iff`** — a cookie that was set goes with the next request for the same URL exactly where it
  is kept, its path covers the request and it reaches the host, or another cookie says the same;
- `undotted_dropped` — `Domain=geiwohuo.com` from a host below it is never sent.
-/

namespace FullManagedBi.WebapiSession

open Lib

section Sending

variable {B : SessionBuiltins} {url : Url} {nowSeconds : Rat}

/-! ## The domain a header sets -/

/-- The domain of a cookie that was parsed for a URL: the host itself, or a domain the host belongs to,
written as the header has it. -/
def DomainFor (url : Url) (domain : String × Bool) : Prop :=
  domain = (url.hostname, true) ∨ domain.2 = false ∧ ∃ named, named ≠ "" ∧
    (url.hostname = named ∨ endsWithDot url.hostname named = true) ∧
    (domain.1 = named ∨ domain.1 = String.ofList ('.' :: named.toList))

theorem attributeDomain_for {value domain : String} (named : attributeDomain B url value = some domain) :
    DomainFor url (domain, false) := by
  unfold attributeDomain at named
  dsimp only at named
  split at named
  · exact nomatch named
  · rename_i nonEmpty
    split at named
    · rename_i belongs
      refine .inr ⟨rfl, _, nonEmpty, belongs, ?_⟩
      obtain rfl := Option.some.inj named
      split
      · exact .inr rfl
      · exact .inl rfl
    · exact nomatch named

variable {domain after : String × Bool}

theorem domainStep_for {attr : Attribute} (given : DomainFor url domain)
    (step : domainStep B url (some domain) attr = some after) : DomainFor url after := by
  unfold domainStep at step
  split at step
  · rw [Option.bind_some] at step
    obtain ⟨named, result, rfl⟩ := Option.map_eq_some_iff.mp step
    exact attributeDomain_for result
  · exact Option.some.inj step ▸ given

theorem foldl_domainStep_for {attrs : List Attribute} (given : DomainFor url domain)
    (run : attrs.foldl (domainStep B url) (some domain) = some after) : DomainFor url after := by
  induction attrs generalizing domain with
  | nil => exact Option.some.inj run ▸ given
  | cons attr attrs ih =>
    rw [List.foldl_cons] at run
    cases step : domainStep B url (some domain) attr with
    | none =>
      rw [step, foldl_domainStep_none] at run
      exact nomatch run
    | some next =>
      rw [step] at run
      exact ih (domainStep_for given step) run

theorem parseSetCookie_for {value : String} {parsed : Parsed}
    (accepted : parseSetCookie B value url nowSeconds = some parsed) :
    DomainFor url (parsed.cookie.domain, parsed.cookie.hostOnly) := by
  rw [parseSetCookie_eq] at accepted
  obtain ⟨pair, -, accepted⟩ := Option.bind_eq_some_iff.mp accepted
  obtain ⟨domain, settled, rfl⟩ := Option.map_eq_some_iff.mp accepted
  exact foldl_domainStep_for (.inl rfl) settled

/-! ## Hosts of the family -/

/-- The host belongs to the host family of the sessions. -/
def HostFamily (url : Url) : Prop :=
  url.hostname = sessionDomain ∨ endsWithDot url.hostname sessionDomain = true

/-- A text of host characters that does not end in a dot. -/
structure HostText (text : List Char) : Prop where
  plain : ∀ c ∈ text, c.toNat < 128 ∧ c.isUpper = false ∧ isJsSpace c = false
  last : text.getLast? ≠ some '.'

theorem HostFamily.suffix (family : HostFamily url) : sessionDomain.toList <:+ url.hostname.toList := by
  rcases family with same | below
  · rw [same]
  · exact (List.suffix_cons _ _).trans (of_decide_eq_true below)

theorem HostFamily.hostText (family : HostFamily url) : HostText url.hostname.toList := by
  refine ⟨url.hostname_canonical, ?_⟩
  obtain ⟨front, whole⟩ := family.suffix
  rw [← whole, List.getLast?_append, show sessionDomain.toList.getLast? = some 'm' from by decide]
  exact nofun

theorem HostText.suffix {text tail : List Char} (host : HostText text) (suffix : tail <:+ text)
    (nonEmpty : tail ≠ []) : HostText tail := by
  refine ⟨fun c mem => host.plain c (suffix.subset mem), ?_⟩
  obtain ⟨front, rfl⟩ := suffix
  have last := host.last
  rwa [List.getLast?_append_of_ne_nil _ nonEmpty] at last

theorem HostText.dotted {text : List Char} (host : HostText text) (nonEmpty : text ≠ []) : HostText ('.' :: text) := by
  refine ⟨fun c mem => ?_, ?_⟩
  · rcases List.mem_cons.mp mem with rfl | later
    · decide
    · exact host.plain c later
  · rw [← List.singleton_append, List.getLast?_append_of_ne_nil _ nonEmpty]
    exact host.last

theorem HostText.lower_trim {text : String} (host : HostText text.toList) : B.toLowerCase (jsTrim text) = text := by
  have ascii : (text.toList.all fun c => decide (c.toNat < 128)) = true :=
    List.all_eq_true.mpr fun c mem => decide_eq_true (host.plain c mem).1
  rw [jsTrim_of_noSpace fun c mem => (host.plain c mem).2.2, B.toLowerCase_ascii text ascii]
  have same : text.toList.map Char.toLower = text.toList.map id := List.map_congr_left fun c mem => by
    have lower := (host.plain c mem).2.1
    unfold Char.isUpper at lower
    unfold Char.toLower
    exact dif_neg (of_decide_eq_false lower)
  rw [same, List.map_id, String.ofList_toList]

theorem HostText.canonicalHost {text : String} (host : HostText text.toList) : canonicalHost B text = text := by
  unfold WebapiSession.canonicalHost
  rw [host.lower_trim]
  unfold dropFinalDot
  split
  · rename_i rest whole
    refine absurd ?_ host.last
    rw [List.getLast?_eq_head?_reverse, whole]
    rfl
  · rfl

/-! ## Which cookies reach the host -/

/-- A cookie of a host reaches it when it is sent again: its domain starts with a dot, and it was not set for
the host alone; or its domain is the host. -/
def Reaches (B : SessionBuiltins) (url : Url) (cookie : Cookie) : Prop :=
  cookie.hostOnly = false ∧ startsWithDot (storedDomain B cookie) = true ∨
    url.hostname = cookieDomain B cookie

/-- A domain that a host of the family belongs to is a text of the host. -/
theorem suffix_of_belongs {host named : String} (belongs : host = named ∨ endsWithDot host named = true) :
    named.toList <:+ host.toList := by
  rcases belongs with rfl | below
  · exact List.suffix_refl _
  · exact (List.suffix_cons _ _).trans (of_decide_eq_true below)

/-- The domain of a cookie that was set for a domain with a dot is one the host belongs to. -/
theorem belongs_of_dot (family : HostFamily url) {domain : String} (origin : DomainFor url (domain, false))
    (dot : startsWithDot (B.toLowerCase (jsTrim domain)) = true) :
    dropDot (canonicalHost B domain) ≠ "" ∧ (url.hostname = dropDot (canonicalHost B domain) ∨
      endsWithDot url.hostname (dropDot (canonicalHost B domain)) = true) := by
  obtain same | ⟨-, named, nonEmpty, belongs, shape⟩ := origin
  · exact nomatch (Prod.mk.inj same).2
  have nonNil : named.toList ≠ [] := fun none => nonEmpty (String.toList_inj.mp none)
  have hostText := family.hostText.suffix (suffix_of_belongs belongs) nonNil
  dsimp only at shape
  rcases shape with rfl | rfl
  · rw [hostText.lower_trim] at dot
    have whole := toList_of_dot dot
    rw [hostText.canonicalHost]
    constructor
    · intro none
      rw [none] at whole
      exact hostText.last (by rw [whole]; rfl)
    · refine .inr (decide_eq_true ?_)
      rw [← whole]
      exact suffix_of_belongs belongs
  · have dotted : HostText (String.ofList ('.' :: named.toList)).toList := by
      rw [String.toList_ofList]
      exact hostText.dotted nonNil
    have drop : dropDot (String.ofList ('.' :: named.toList)) = named := by
      unfold dropDot
      rw [String.toList_ofList]
      exact String.ofList_toList
    rw [dotted.canonicalHost, drop]
    exact ⟨nonEmpty, belongs⟩

variable {cookie : Cookie}

/-- **A stored cookie matches the host that set it where it reaches it.** -/
theorem domainMatches_stored (family : HostFamily url) (index : Nat)
    (origin : DomainFor url (cookie.domain, cookie.hostOnly)) :
    domainMatches B (stored B cookie index) (canonicalHost B url.hostname) = true ↔ Reaches B url cookie := by
  have domain : cookieDomain B (stored B cookie index) = cookieDomain B cookie :=
    congrArg dropDot (canonicalHost_stored cookie index)
  have nonEmpty : url.hostname ≠ "" := by
    intro none
    obtain ⟨front, whole⟩ := family.suffix
    rw [none] at whole
    exact List.append_ne_nil_of_right_ne_nil front (by decide) whole
  unfold domainMatches
  dsimp only
  rw [domain, family.hostText.canonicalHost]
  by_cases dotted : cookie.hostOnly = false ∧ startsWithDot (storedDomain B cookie) = true
  · have belongs : cookieDomain B cookie ≠ "" ∧ (url.hostname = cookieDomain B cookie ∨
        endsWithDot url.hostname (cookieDomain B cookie) = true) :=
      belongs_of_dot family (dotted.1 ▸ origin) (dotted).2
    have hostOnly : (stored B cookie index).hostOnly = false := by
      change (cookie.hostOnly || !startsWithDot (storedDomain B cookie)) = false
      rw [(dotted).1, (dotted).2]
      rfl
    rw [hostOnly, if_neg belongs.1, if_neg Bool.false_ne_true, Bool.or_eq_true, decide_eq_true_eq]
    exact iff_of_true belongs.2 (.inl dotted)
  · have hostOnly : (stored B cookie index).hostOnly = true := by
      change (cookie.hostOnly || !startsWithDot (storedDomain B cookie)) = true
      cases only : cookie.hostOnly with
      | true => rfl
      | false =>
        rw [Bool.false_or, Bool.not_eq_true', Bool.eq_false_iff]
        exact fun dot => dotted ⟨only, dot⟩
    rw [hostOnly, if_pos rfl]
    unfold Reaches
    rw [or_iff_right dotted]
    split
    · rename_i none
      rw [none]
      exact iff_of_false Bool.false_ne_true nonEmpty
    · exact decide_eq_true_iff

/-! ## What is sent -/

def Sendable (B : SessionBuiltins) (url : Url) (nowSeconds : Rat) (cookie : Cookie) : Prop :=
  (!cookieExpired cookie nowSeconds && domainMatches B cookie (canonicalHost B url.hostname) &&
    pathMatches cookie.path (pathOrRoot url.pathname) &&
    (!cookie.secure || decide (url.protocol = "https:"))) = true

instance (cookie : Cookie) : Decidable (Sendable B url nowSeconds cookie) := inferInstanceAs (Decidable (_ = true))

/-- A request is sent with a name and its value. -/
def Sends (B : SessionBuiltins) (bundle : SessionBundle) (url : Url) (now : Instant) (name value : String) :
    Prop :=
  ∃ sent, cookiesForUrl B bundle url now = .ok sent ∧ ∃ cookie ∈ sent, cookie.name = name ∧ cookie.value = value

theorem cookieExpired_stored (cookie : Cookie) (index : Nat) :
    cookieExpired (stored B cookie index) nowSeconds = cookieExpired cookie nowSeconds := by
  change cookieExpired { cookie with expires := storedExpires cookie.expires } nowSeconds = _
  unfold cookieExpired storedExpires
  dsimp only
  rcases cookie.expires with _ | (_ | positive | seconds)
  · rfl
  · rfl
  · rfl
  · by_cases positive : 0 < seconds
    · simp [positive]
    · simp [positive]

/-- The cookie that was set goes with a request where its path covers the request and it reaches the host. -/
theorem sendable_stored (https : url.protocol = "https:") (family : HostFamily url) (index : Nat)
    (origin : DomainFor url (cookie.domain, cookie.hostOnly)) (unexpired : cookieExpired cookie nowSeconds = false) :
    Sendable B url nowSeconds (stored B cookie index) ↔
      pathMatches cookie.path url.pathname = true ∧ Reaches B url cookie := by
  have pathname : pathOrRoot url.pathname = url.pathname := by
    refine if_neg fun none => ?_
    have slash := url.pathname_slash
    rw [none] at slash
    exact absurd slash (by decide)
  unfold Sendable
  rw [cookieExpired_stored, unexpired, https, pathname, decide_eq_true rfl, Bool.or_true, Bool.and_true,
    Bool.not_false, Bool.true_and, Bool.and_eq_true, domainMatches_stored family index origin]
  exact and_comm

variable {cookies : List Cookie}

theorem mem_of_jarOf {key : String} (found : (jarOf B cookies nowSeconds).get? key = some cookie) : cookie ∈ cookies := by
  unfold jarOf at found
  rw [OrderedMap.get?_ofEntries] at found
  obtain ⟨entry, last, rfl⟩ := Option.map_eq_some_iff.mp found
  obtain ⟨kept, mem, rfl⟩ := List.mem_map.mp (List.mem_filter.mp (List.mem_of_getLast? last)).1
  exact (List.mem_filter.mp mem).1

theorem mergeSetCookieHeaders_ok_iff {bundle normalized merged : SessionBundle} {values : List String} {now : Instant}
    (valid : normalizeWebApiSessionBundle B bundle bundle.storeCode = .ok normalized)
    (has : bundle.cookies = some cookies) : mergeSetCookieHeaders B bundle url values now = .ok merged ↔
      (mergedJar B url (secondsOf B now) cookies values).values.length ≤ maxCookieCount ∧
      (mergedJar B url (secondsOf B now) cookies values).values ≠ [] ∧
      (∀ cookie ∈ (mergedJar B url (secondsOf B now) cookies values).values, ValidCookie B cookie) ∧
      merged = { normalized with
        updatedAt := some now
        cookies := some (storedCookies B (mergedJar B url (secondsOf B now) cookies values).values) } := by
  obtain ⟨settled, given, has', kept, -, -⟩ := normalizeWebApiSessionBundle_settled valid
  obtain rfl := Option.mem_unique has has'
  have jar : (normalized.cookies.getD []) = storedCookies B cookies := by rw [kept]; rfl
  have again : Settled { normalized with
      updatedAt := some now
      cookies := some (mergedJar B url (secondsOf B now) cookies values).values } :=
    ⟨settled.storeCode, settled.origin, settled.userAgent, settled.createdAt, nofun,
      settled.identityProvenAt, settled.lastVerifiedAt⟩
  rw [← normalizeWebApiSessionBundle_iff again rfl]
  unfold mergeSetCookieHeaders
  rw [valid]
  dsimp only [bind, Except.bind]
  rw [jar]
  rfl

theorem length_storedCookies (cookies : List Cookie) : (storedCookies B cookies).length = cookies.length := by
  unfold storedCookies
  rw [List.length_map, List.length_zipIdx]

theorem sends_iff {bundle : SessionBundle} {later : Instant} {name value : String}
    (settled : Settled bundle) (kept : bundle.cookies = some (storedCookies B cookies))
    (few : cookies.length ≤ maxCookieCount) (nonEmpty : cookies ≠ [])
    (valid : ∀ cookie ∈ cookies, ValidCookie B cookie) :
    Sends B bundle url later name value ↔ ∃ cookie ∈ storedCookies B cookies,
      Sendable B url (secondsOf B later) cookie ∧ cookie.name = name ∧ cookie.value = value := by
  have normalized : normalizeWebApiSessionBundle B bundle bundle.storeCode = .ok bundle := by
    refine (normalizeWebApiSessionBundle_iff settled kept).mpr ⟨?_, ?_, ?_, ?_⟩
    · rwa [length_storedCookies]
    · rwa [← List.length_pos_iff, length_storedCookies, List.length_pos_iff]
    · intro cookie mem
      obtain ⟨given, there, index, rfl⟩ := mem_storedCookies mem
      exact (valid given there).stored index
    · rw [storedCookies_storedCookies, ← kept]
  unfold Sends cookiesForUrl
  rw [normalized]
  dsimp only [bind, Except.bind, pure, Except.pure]
  rw [kept, Option.getD_some]
  constructor
  · rintro ⟨sent, result, cookie, mem, same⟩
    rw [← Except.ok.inj result, List.mem_insertionSort, List.mem_filter] at mem
    exact ⟨cookie, mem.1, mem.2, same⟩
  · rintro ⟨cookie, mem, sendable, same⟩
    refine ⟨_, rfl, cookie, ?_, same⟩
    rw [List.mem_insertionSort, List.mem_filter]
    exact ⟨mem, sendable⟩

def liveJar (B : SessionBuiltins) (bundle : SessionBundle) (now : Instant) : OrderedMap String Cookie :=
  jarOf B (storedCookies B (bundle.cookies.getD [])) (secondsOf B now)

/-- There is room for a cookie: it replaces one, or the session is not full. -/
def Room (B : SessionBuiltins) (bundle : SessionBundle) (now : Instant) (cookie : Cookie) : Prop :=
  cookieKey B cookie ∈ (liveJar B bundle now).keys ∨ (liveJar B bundle now).size < maxCookieCount

/-- Another cookie of the session goes with the request that has the same name and the same value. -/
def Twin (B : SessionBuiltins) (bundle : SessionBundle) (url : Url) (now later : Instant) (cookie : Cookie) :
    Prop :=
  ∃ key ≠ cookieKey B cookie, ∃ other, (liveJar B bundle now).get? key = some other ∧
    Sendable B url (secondsOf B later) other ∧ other.name = cookie.name ∧ other.value = cookie.value

def jarWith (B : SessionBuiltins) (bundle : SessionBundle) (now : Instant) (cookie : Cookie) (order : Int) :
    OrderedMap String Cookie :=
  (liveJar B bundle now).set (cookieKey B cookie) { cookie with order := some order }

variable {bundle : SessionBundle} {cookies : List Cookie} {cookie : Cookie} {now later : Instant} {order : Int}

theorem mergedJar_set {value : String} (has : bundle.cookies = some cookies)
    (parsed : parseSetCookie B value url (secondsOf B now) = some ⟨cookie, false⟩) :
    ∃ order, mergedJar B url (secondsOf B now) cookies [value] = jarWith B bundle now cookie order := by
  unfold jarWith liveJar
  rw [has, Option.getD_some]
  have one : 1 ≤ maxSetCookieHeaders := by decide
  unfold mergedJar
  rw [List.take_of_length_le (show [value].length ≤ maxSetCookieHeaders from one), List.foldl_cons,
    List.foldl_nil]
  unfold mergeSetCookie
  rw [parsed]
  dsimp only
  rw [if_neg Bool.false_ne_true]
  exact ⟨_, rfl⟩

/-- The jar then holds the cookie, and what it held under other keys. -/
theorem mem_jarWith {x : Cookie} : x ∈ (jarWith B bundle now cookie order).values ↔
    x = { cookie with order := some order } ∨
      ∃ key ≠ cookieKey B cookie, (liveJar B bundle now).get? key = some x := by
  unfold jarWith
  rw [OrderedMap.mem_values_iff]
  constructor
  · rintro ⟨key, found⟩
    rw [OrderedMap.get?_set] at found
    split at found
    · exact .inl (Option.some.inj found).symm
    · rename_i apart
      exact .inr ⟨key, apart, found⟩
  · rintro (rfl | ⟨key, apart, found⟩)
    · exact ⟨_, OrderedMap.get?_set.trans (if_pos rfl)⟩
    · exact ⟨key, OrderedMap.get?_set.trans ((if_neg apart).trans found)⟩

theorem liveJar_stored (has : bundle.cookies = some cookies) (given : ∀ cookie ∈ cookies, ValidCookie B cookie)
    {key : String} {x : Cookie} (found : (liveJar B bundle now).get? key = some x) :
    ValidCookie B x ∧ ∀ index, stored B x index = x := by
  unfold liveJar at found
  rw [has] at found
  obtain ⟨from_cookie, mem, index, rfl⟩ := mem_storedCookies (mem_of_jarOf found)
  exact ⟨(given from_cookie mem).stored index, stored_stored _ _⟩

theorem size_liveJar (has : bundle.cookies = some cookies) (few : cookies.length ≤ maxCookieCount) :
    (liveJar B bundle now).size ≤ maxCookieCount := by
  unfold liveJar jarOf
  rw [has, Option.getD_some]
  refine (OrderedMap.size_ofEntries_le _).trans ?_
  rw [List.length_map]
  refine (List.length_filter_le _ _).trans ?_
  rwa [length_storedCookies]

theorem jarWith_few (has : bundle.cookies = some cookies) (few : cookies.length ≤ maxCookieCount) :
    (jarWith B bundle now cookie order).values.length ≤ maxCookieCount ↔ Room B bundle now cookie := by
  have size : (jarWith B bundle now cookie order).values.length = (jarWith B bundle now cookie order).size :=
    List.length_map _
  have start : (liveJar B bundle now).size ≤ maxCookieCount := size_liveJar has few
  unfold Room
  rw [size]
  unfold jarWith
  rw [OrderedMap.size_set]
  split
  · rename_i there
    exact iff_of_true start (.inl there)
  · rename_i absent
    rw [or_iff_right absent]
    exact Nat.lt_iff_add_one_le.symm

theorem jarWith_valid (has : bundle.cookies = some cookies) (given : ∀ cookie ∈ cookies, ValidCookie B cookie) :
    (∀ x ∈ (jarWith B bundle now cookie order).values, ValidCookie B x) ↔ ValidCookie B cookie := by
  constructor
  · intro all
    obtain ⟨name, bytes, scope, expires⟩ := all _ (mem_jarWith.mpr (.inl rfl))
    exact ⟨name, bytes, scope, expires⟩
  · rintro ⟨name, bytes, scope, expires⟩ x mem
    rcases (mem_jarWith).mp mem with rfl | ⟨key, -, found⟩
    · exact ⟨name, bytes, scope, expires⟩
    · exact (liveJar_stored has given found).1

/-- What goes with the request is the cookie, where it is covered and reaches the host, or another one. -/
theorem jarWith_sends (https : url.protocol = "https:") (family : HostFamily url)
    (origin : DomainFor url (cookie.domain, cookie.hostOnly))
    (unexpired : cookieExpired cookie (secondsOf B later) = false) (has : bundle.cookies = some cookies)
    (given : ∀ cookie ∈ cookies, ValidCookie B cookie) :
    (∃ x ∈ storedCookies B (jarWith B bundle now cookie order).values,
      Sendable B url (secondsOf B later) x ∧ x.name = cookie.name ∧ x.value = cookie.value) ↔
      pathMatches cookie.path url.pathname = true ∧ Reaches B url cookie ∨
        Twin B bundle url now later cookie := by
  have own (index : Nat) :
      Sendable B url (secondsOf B later) (stored B { cookie with order := some order } index) ↔
        pathMatches cookie.path url.pathname = true ∧ Reaches B url cookie :=
    sendable_stored https family index origin unexpired
  constructor
  · rintro ⟨kept, mem, sendable, same⟩
    obtain ⟨x, there, index, rfl⟩ := mem_storedCookies mem
    rcases (mem_jarWith).mp there with rfl | ⟨key, apart, found⟩
    · exact .inl ((own index).mp sendable)
    · rw [(liveJar_stored has given found).2 index] at sendable same
      exact .inr ⟨key, apart, x, found, sendable, same⟩
  · rintro (covers | ⟨key, apart, x, found, sendable, same⟩)
    · obtain ⟨index, mem⟩ := exists_mem_storedCookies (B := B) (mem_jarWith.mpr (.inl rfl))
      exact ⟨_, mem, (own index).mpr covers, rfl, rfl⟩
    · obtain ⟨index, mem⟩ := exists_mem_storedCookies (B := B) (mem_jarWith.mpr (.inr ⟨key, apart, found⟩))
      rw [(liveJar_stored has given found).2 index] at mem
      exact ⟨x, mem, sendable, same⟩

/-- **A cookie that was set is sent again** exactly where it can be stored, there is room for it, and its
path covers the request and it reaches the host; unless another cookie sends the same name and value. -/
theorem setThenSend_iff (B : SessionBuiltins) (bundle normalized : SessionBundle) (url : Url)
    (value : String) (cookie : Cookie) (now later : Instant) (https : url.protocol = "https:")
    (family : HostFamily url) (valid : normalizeWebApiSessionBundle B bundle bundle.storeCode = .ok normalized)
    (parsed : parseSetCookie B value url (secondsOf B now) = some ⟨cookie, false⟩)
    (unexpired : cookieExpired cookie (secondsOf B later) = false) :
    (∃ merged, mergeSetCookieHeaders B bundle url [value] now = .ok merged ∧
        Sends B merged url later cookie.name cookie.value) ↔
      ValidCookie B cookie ∧ Room B bundle now cookie ∧
        (pathMatches cookie.path url.pathname = true ∧ Reaches B url cookie ∨
          Twin B bundle url now later cookie) := by
  obtain ⟨settled, cookies, has, -, few, given⟩ := normalizeWebApiSessionBundle_settled valid
  obtain ⟨order, jar⟩ := mergedJar_set has parsed
  have nonEmpty : (jarWith B bundle now cookie order).values ≠ [] :=
    List.ne_nil_of_mem (mem_jarWith.mpr (.inl rfl))
  have merge (merged : SessionBundle) :
      mergeSetCookieHeaders B bundle url [value] now = .ok merged ↔
        (jarWith B bundle now cookie order).values.length ≤ maxCookieCount ∧
        (jarWith B bundle now cookie order).values ≠ [] ∧
        (∀ x ∈ (jarWith B bundle now cookie order).values, ValidCookie B x) ∧
        merged = { normalized with
          updatedAt := some now
          cookies := some (storedCookies B (jarWith B bundle now cookie order).values) } := by
    rw [← jar]
    exact mergeSetCookieHeaders_ok_iff valid has
  have request {merged : SessionBundle} (result : merged = { normalized with
      updatedAt := some now
      cookies := some (storedCookies B (jarWith B bundle now cookie order).values) })
      (room : (jarWith B bundle now cookie order).values.length ≤ maxCookieCount)
      (all : ∀ x ∈ (jarWith B bundle now cookie order).values, ValidCookie B x) :
      Sends B merged url later cookie.name cookie.value ↔
        pathMatches cookie.path url.pathname = true ∧ Reaches B url cookie ∨
          Twin B bundle url now later cookie := by
    rw [← jarWith_sends https family (parseSetCookie_for parsed) unexpired has given]
    subst result
    exact sends_iff ⟨settled.storeCode, settled.origin, settled.userAgent, settled.createdAt, nofun,
      settled.identityProvenAt, settled.lastVerifiedAt⟩ rfl room nonEmpty all
  have sound : (∀ x ∈ (jarWith B bundle now cookie order).values, ValidCookie B x) ↔ ValidCookie B cookie :=
    jarWith_valid has given
  have roomy : (jarWith B bundle now cookie order).values.length ≤ maxCookieCount ↔
      Room B bundle now cookie := jarWith_few has few
  rw [← sound, ← roomy]
  constructor
  · rintro ⟨merged, ok, sends⟩
    obtain ⟨room, -, all, result⟩ := (merge merged).mp ok
    exact ⟨all, room, (request result room all).mp sends⟩
  · rintro ⟨all, room, sends⟩
    exact ⟨_, (merge _).mpr ⟨room, nonEmpty, all, rfl⟩, (request rfl room all).mpr sends⟩

end Sending

/-! ## Two headers -/

/-- The token that rotates, as a header sets it for a domain of the host. -/
def newToken (domain : String) : Cookie where
  name := "token"
  value := "new"
  domain := domain
  path := "/"
  secure := false

theorem newToken_valid {domain : String} (scope : allowedCookieDomain asciiBuiltins
    (storedDomain asciiBuiltins (newToken domain)) = true) : ValidCookie asciiBuiltins (newToken domain) where
  name := show ¬ (("token" : String) = "" ∨ 256 < jsLength "token" ∨ "token".toList.any isCookieSeparator) by
    decide
  value := show ¬ maxCookieValueBytes < "new".utf8ByteSize by decide
  scope := not_or.mpr ⟨by rw [scope]; exact nofun, show startsWithSlash "/" ≠ false by decide⟩
  expires := nofun

theorem homeUrl_family : HostFamily homeUrl := .inr (by decide)

/-- The token is sent when its domain is set with a dot. -/
theorem dotted_sent : ∃ merged, mergeSetCookieHeaders asciiBuiltins (exportedSession oldToken) homeUrl
    ["token=new; Domain=.geiwohuo.com; Path=/"] 100000 = .ok merged ∧
      Sends asciiBuiltins merged homeUrl 100000 "token" "new" := by
  refine (setThenSend_iff asciiBuiltins (exportedSession oldToken)
    { exportedSession oldToken with cookies := some [{ oldToken with order := some 0 }] } homeUrl
    "token=new; Domain=.geiwohuo.com; Path=/" (newToken ".geiwohuo.com") 100000 100000 rfl homeUrl_family
    ?_ ?_ ?_).mpr ⟨newToken_valid ?_, .inl ?_, .inl ⟨?_, .inl ⟨?_, ?_⟩⟩⟩
  all_goals decide

/-- Without the dot the token is kept for the host of its domain only, and the old one is sent. -/
theorem undotted_dropped : ∃ merged, mergeSetCookieHeaders asciiBuiltins (exportedSession oldToken) homeUrl
    ["token=new; Domain=geiwohuo.com; Path=/"] 100000 = .ok merged ∧
      parseSetCookie asciiBuiltins "token=new; Domain=geiwohuo.com; Path=/" homeUrl 100 =
        some ⟨newToken "geiwohuo.com", false⟩ ∧
      ValidCookie asciiBuiltins (newToken "geiwohuo.com") ∧ pathMatches "/" homeUrl.pathname = true ∧
      cookieHeaderForUrl asciiBuiltins merged homeUrl 100000 = .ok "token=old" ∧
      ¬ Sends asciiBuiltins merged homeUrl 100000 "token" "new" := by
  have sent : cookiesForUrl asciiBuiltins { exportedSession oldToken with
      updatedAt := some 100000
      cookies := some [{ oldToken with order := some 0 },
        { newToken "geiwohuo.com" with hostOnly := true, order := some 1 }] } homeUrl 100000 =
      .ok [{ oldToken with order := some 0 }] := by decide
  refine ⟨{ exportedSession oldToken with
    updatedAt := some 100000
    cookies := some [{ oldToken with order := some 0 },
      { newToken "geiwohuo.com" with hostOnly := true, order := some 1 }] }, ?_, ?_,
    newToken_valid (by decide), ?_, ?_, ?_⟩
  · decide
  · decide
  · decide
  · decide
  · rintro ⟨cookies, ok, cookie, mem, -, value⟩
    obtain rfl := Except.ok.inj (sent.symm.trans ok)
    obtain rfl := List.mem_singleton.mp mem
    exact absurd value (by decide)

end FullManagedBi.WebapiSession
