import FullManagedBi.WebapiSession.CookieJar

/-!
# What a stored session has to be

`normalizeWebApiSessionBundle` either refuses a session or keeps it in one form: it succeeds exactly where
everything but the cookies is settled and every cookie can be stored (`normalizeWebApiSessionBundle_iff`),
and what it keeps stays as it is when it is normalized again (`storedCookies_storedCookies`).
-/

namespace FullManagedBi.WebapiSession

open Lib

section Bundle

variable {B : SessionBuiltins}

/-! ## Cookies -/

def storedDomain (B : SessionBuiltins) (cookie : Cookie) : String := B.toLowerCase (jsTrim cookie.domain)

structure ValidCookie (B : SessionBuiltins) (cookie : Cookie) : Prop where
  name : ¬ (cookie.name = "" ∨ 256 < jsLength cookie.name ∨ cookie.name.toList.any isCookieSeparator)
  value : ¬ maxCookieValueBytes < cookie.value.utf8ByteSize
  scope : ¬ (allowedCookieDomain B (storedDomain B cookie) = false ∨ startsWithSlash cookie.path = false)
  expires : cookie.expires ≠ some (.infinity true)

def storedExpires : Option JsFloat → Option JsFloat
  | some (.finite seconds) => if 0 < seconds then some (.finite seconds) else none
  | _ => none

def stored (B : SessionBuiltins) (cookie : Cookie) (index : Nat) : Cookie :=
  { cookie with
    domain := storedDomain B cookie
    expires := storedExpires cookie.expires
    hostOnly := cookie.hostOnly || !startsWithDot (storedDomain B cookie)
    order := some (cookie.order.getD index) }

theorem normalizedExpires_ok_iff {expires kept : Option JsFloat} :
    normalizedExpires expires = .ok kept ↔ expires ≠ some (.infinity true) ∧ kept = storedExpires expires := by
  unfold normalizedExpires storedExpires
  split <;> simp_all [eq_comm]

theorem normalizedCookie_ok_iff {cookie kept : Cookie} {index : Nat} :
    normalizedCookie B cookie index = .ok kept ↔ ValidCookie B cookie ∧ kept = stored B cookie index := by
  unfold normalizedCookie
  dsimp only
  simp only [check_ok_iff, refuse_eq_ok]
  rw [bind_eq_ok_iff]
  constructor
  · rintro ⟨name, value, scope, expires, ends, result⟩
    obtain ⟨finite, rfl⟩ := normalizedExpires_ok_iff.mp ends
    obtain rfl := Except.ok.inj result
    exact ⟨⟨name, value, scope, finite⟩, rfl⟩
  · rintro ⟨valid, rfl⟩
    exact ⟨valid.name, valid.value, valid.scope, _, normalizedExpires_ok_iff.mpr ⟨valid.expires, rfl⟩, rfl⟩

theorem storedDomain_stored (cookie : Cookie) (index : Nat) :
    storedDomain B (stored B cookie index) = storedDomain B cookie := by
  change B.toLowerCase (jsTrim (B.toLowerCase (jsTrim cookie.domain))) = B.toLowerCase (jsTrim cookie.domain)
  rw [← B.toLowerCase_trim, jsTrim_jsTrim, B.toLowerCase_toLowerCase]

theorem storedExpires_storedExpires (expires : Option JsFloat) :
    storedExpires (storedExpires expires) = storedExpires expires := by
  rcases expires with _ | (_ | positive | seconds)
  · rfl
  · rfl
  · rfl
  · unfold storedExpires
    by_cases positive : 0 < seconds
    · simp [positive]
    · simp [positive]

theorem stored_stored (cookie : Cookie) (index other : Nat) :
    stored B (stored B cookie index) other = stored B cookie index := by
  change ({ stored B cookie index with
    domain := storedDomain B (stored B cookie index)
    expires := storedExpires (storedExpires cookie.expires)
    hostOnly := (cookie.hostOnly || !startsWithDot (storedDomain B cookie)) ||
      !startsWithDot (storedDomain B (stored B cookie index))
    order := some (cookie.order.getD index) } : Cookie) = _
  rw [storedDomain_stored, storedExpires_storedExpires, Bool.or_assoc, Bool.or_self]
  rfl

theorem ValidCookie.stored {cookie : Cookie} (valid : ValidCookie B cookie) (index : Nat) :
    ValidCookie B (stored B cookie index) := by
  refine ⟨valid.name, valid.value, ?_, ?_⟩
  · rw [storedDomain_stored]
    exact valid.scope
  · intro infinite
    have kept : storedExpires cookie.expires = some (.infinity true) := infinite
    unfold storedExpires at kept
    split at kept
    · split at kept <;> exact nomatch kept
    · exact nomatch kept

def storedCookies (B : SessionBuiltins) (cookies : List Cookie) : List Cookie :=
  cookies.zipIdx.map fun item => stored B item.1 item.2

theorem normalizedCookies_ok_iff {cookies kept : List Cookie} : normalizedCookies B cookies = .ok kept ↔
      (∀ cookie ∈ cookies, ValidCookie B cookie) ∧ kept = storedCookies B cookies := by
  unfold normalizedCookies storedCookies
  rw [mapM_ok_iff (f := fun item : Cookie × Nat => normalizedCookie B item.1 item.2)
    (P := fun item => ValidCookie B item.1) (g := fun item => stored B item.1 item.2)
    fun item value => normalizedCookie_ok_iff]
  have firsts : (∀ item ∈ cookies.zipIdx, ValidCookie B item.1) ↔
      ∀ cookie ∈ cookies.zipIdx.map Prod.fst, ValidCookie B cookie := List.forall_mem_map.symm
  rw [firsts, List.zipIdx_map_fst]

theorem mem_storedCookies {cookies : List Cookie} {kept : Cookie} (mem : kept ∈ storedCookies B cookies) :
    ∃ cookie ∈ cookies, ∃ index, kept = stored B cookie index := by
  obtain ⟨⟨cookie, index⟩, there, rfl⟩ := List.mem_map.mp mem
  refine ⟨cookie, ?_, index, rfl⟩
  rw [← List.zipIdx_map_fst 0 cookies]
  exact List.mem_map_of_mem there

theorem exists_mem_storedCookies {cookies : List Cookie} {cookie : Cookie} (mem : cookie ∈ cookies) :
    ∃ index, stored B cookie index ∈ storedCookies B cookies := by
  rw [← List.zipIdx_map_fst 0 cookies] at mem
  obtain ⟨⟨_, index⟩, there, rfl⟩ := List.mem_map.mp mem
  exact ⟨index, List.mem_map_of_mem there⟩

/-- What does not look at domain, expiry and order sees the cookies as they were. -/
theorem map_storedCookies {α : Type} {f g : Cookie → α}
    (same : ∀ cookie index, f (stored B cookie index) = g cookie) (cookies : List Cookie) :
    (storedCookies B cookies).map f = cookies.map g := by
  unfold storedCookies
  rw [List.map_map]
  conv_rhs => rw [← List.zipIdx_map_fst 0 cookies, List.map_map]
  exact List.map_congr_left fun item _ => same item.1 item.2

theorem storedCookies_storedCookies (cookies : List Cookie) :
    storedCookies B (storedCookies B cookies) = storedCookies B cookies := by
  have kept : ∀ cookie ∈ storedCookies B cookies, ∀ index, stored B cookie index = cookie := by
    intro cookie mem index
    obtain ⟨from_cookie, -, other, rfl⟩ := mem_storedCookies mem
    exact stored_stored _ _ _
  generalize storedCookies B cookies = kept_cookies at kept
  unfold storedCookies
  conv_rhs => rw [← List.zipIdx_map_fst 0 kept_cookies]
  refine List.map_congr_left fun item mem => kept item.1 ?_ item.2
  rw [← List.zipIdx_map_fst 0 kept_cookies]
  exact List.mem_map_of_mem mem

/-! ## Sessions -/

/-- Everything but the cookies of a session is in the form in which it is stored. -/
structure Settled (bundle : SessionBundle) : Prop where
  storeCode : bundle.storeCode ∈ fullManagedStoreCodes
  origin : bundle.origin = homeWebapiOrigin
  userAgent : jsTrim bundle.userAgent = bundle.userAgent ∧ ¬ (bundle.userAgent = "" ∨
    1024 < jsLength bundle.userAgent ∨ bundle.userAgent.toList.any (fun c => c = '\r' || c = '\n'))
  createdAt : bundle.createdAt ≠ none
  updatedAt : bundle.updatedAt ≠ none
  identityProvenAt : bundle.identityProvenAt ≠ none
  lastVerifiedAt : bundle.lastVerifiedAt ≠ some none

theorem canonicalStoreCode_of_mem {code : String} (mem : code ∈ fullManagedStoreCodes) :
    canonicalStoreCode B code = .ok code := by
  have plain : (fullManagedStoreCodes.all fun code => (code.toList.all fun c => decide (c.toNat < 128)) &&
      decide (asciiUpper code = code) && decide (jsTrim code = code)) = true := by decide
  have shape := List.all_eq_true.mp plain code mem
  simp only [Bool.and_eq_true, decide_eq_true_eq] at shape
  obtain ⟨⟨ascii, upper⟩, trimmed⟩ := shape
  unfold canonicalStoreCode normalizeFullManagedStoreCode
  rw [trimmed, B.toUpperCase_ascii code ascii, upper, trimmed, B.toUpperCase_ascii code ascii, upper]
  simp only [mem, if_true]

theorem canonicalStoreCode_mem {value code : String} (canonical : canonicalStoreCode B value = .ok code) :
    code ∈ fullManagedStoreCodes := by
  unfold canonicalStoreCode normalizeFullManagedStoreCode at canonical
  dsimp only at canonical
  split at canonical
  · rename_i found
    obtain rfl := Except.ok.inj canonical
    split at found
    · rename_i mem
      exact Option.some.inj found ▸ mem
    · exact nomatch found
  · exact nomatch canonical

theorem isoTimestamp_ok_iff {value kept : Option Instant} {code : String} :
    isoTimestamp value code = .ok kept ↔ value ≠ none ∧ kept = value := by
  cases value with
  | none => exact iff_of_false nofun fun both => both.1 rfl
  | some instant =>
    exact ⟨fun same => ⟨nofun, (Except.ok.inj same).symm⟩, fun both => congrArg _ both.2.symm⟩

theorem verifiedTimestamp_ok_iff {value kept : Option (Option Instant)} :
    verifiedTimestamp value = .ok kept ↔ value ≠ some none ∧ kept = value := by
  rcases value with _ | _ | instant
  · exact ⟨fun same => ⟨nofun, (Except.ok.inj same).symm⟩, fun both => congrArg Except.ok both.2.symm⟩
  · exact iff_of_false nofun fun both => both.1 rfl
  · exact ⟨fun same => ⟨nofun, (Except.ok.inj same).symm⟩, fun both => congrArg Except.ok both.2.symm⟩

theorem normalizeWebApiSessionBundle_settled {input bundle : SessionBundle} {expected : String}
    (normalized : normalizeWebApiSessionBundle B input expected = .ok bundle) :
    Settled bundle ∧ ∃ cookies, input.cookies = some cookies ∧
      bundle.cookies = some (storedCookies B cookies) ∧ cookies.length ≤ maxCookieCount ∧
        ∀ cookie ∈ cookies, ValidCookie B cookie := by
  unfold normalizeWebApiSessionBundle at normalized
  obtain ⟨storeCode, canonical, normalized⟩ := bind_eq_ok normalized
  obtain ⟨_, -, normalized⟩ := bind_eq_ok normalized
  dsimp only at normalized
  simp only [check_ok_iff, refuse_eq_ok] at normalized
  obtain ⟨-, -, userAgent, given, normalized⟩ := normalized
  obtain ⟨cookies, kept, normalized⟩ := bind_eq_ok normalized
  obtain ⟨-, normalized⟩ := check_ok_iff.mp normalized
  obtain ⟨createdAt, created, normalized⟩ := bind_eq_ok normalized
  obtain ⟨updatedAt, updated, normalized⟩ := bind_eq_ok normalized
  obtain ⟨identityProvenAt, proven, normalized⟩ := bind_eq_ok normalized
  obtain ⟨lastVerifiedAt, verified, normalized⟩ := bind_eq_ok normalized
  obtain rfl := Except.ok.inj normalized
  obtain ⟨isCreated, rfl⟩ := isoTimestamp_ok_iff.mp created
  obtain ⟨isUpdated, rfl⟩ := isoTimestamp_ok_iff.mp updated
  obtain ⟨isProven, rfl⟩ := isoTimestamp_ok_iff.mp proven
  obtain ⟨valid, rfl⟩ := normalizedCookies_ok_iff.mp kept
  obtain ⟨isVerified, rfl⟩ := verifiedTimestamp_ok_iff.mp verified
  obtain ⟨cookies, has⟩ := Option.ne_none_iff_exists'.mp fun missing => given (.inl missing)
  rw [has] at given valid ⊢
  exact ⟨⟨canonicalStoreCode_mem canonical, rfl, ⟨jsTrim_jsTrim _, userAgent⟩, isCreated, isUpdated,
    isProven, isVerified⟩, cookies, rfl, rfl, not_lt.mp fun many => given (.inr many), valid⟩

theorem normalizeWebApiSessionBundle_iff {bundle kept : SessionBundle} {cookies : List Cookie}
    (settled : Settled bundle) (has : bundle.cookies = some cookies) :
    normalizeWebApiSessionBundle B bundle bundle.storeCode = .ok kept ↔
      cookies.length ≤ maxCookieCount ∧ cookies ≠ [] ∧ (∀ cookie ∈ cookies, ValidCookie B cookie) ∧
        kept = { bundle with cookies := some (storedCookies B cookies) } := by
  have code := canonicalStoreCode_of_mem (B := B) settled.storeCode
  have expected : expectedCode B bundle.storeCode bundle.storeCode = .ok bundle.storeCode := by
    unfold expectedCode
    split
    · rfl
    · exact code
  have empty : storedCookies B cookies = [] ↔ cookies = [] := by
    unfold storedCookies
    rw [List.map_eq_nil_iff, List.zipIdx_eq_nil_iff]
  unfold normalizeWebApiSessionBundle
  rw [has]
  constructor
  · intro normalized
    obtain ⟨storeCode, canonical, normalized⟩ := bind_eq_ok normalized
    obtain rfl := Except.ok.inj (code.symm.trans canonical)
    obtain ⟨_, -, normalized⟩ := bind_eq_ok normalized
    dsimp only at normalized
    simp only [check_ok_iff, refuse_eq_ok] at normalized
    obtain ⟨-, -, -, given, normalized⟩ := normalized
    obtain ⟨_, all, normalized⟩ := bind_eq_ok normalized
    obtain ⟨valid, rfl⟩ := normalizedCookies_ok_iff.mp all
    obtain ⟨nonEmpty, normalized⟩ := check_ok_iff.mp normalized
    obtain ⟨_, created, normalized⟩ := bind_eq_ok normalized
    obtain ⟨_, updated, normalized⟩ := bind_eq_ok normalized
    obtain ⟨_, proven, normalized⟩ := bind_eq_ok normalized
    obtain ⟨_, verified, normalized⟩ := bind_eq_ok normalized
    obtain ⟨-, rfl⟩ := isoTimestamp_ok_iff.mp created
    obtain ⟨-, rfl⟩ := isoTimestamp_ok_iff.mp updated
    obtain ⟨-, rfl⟩ := isoTimestamp_ok_iff.mp proven
    obtain ⟨-, rfl⟩ := verifiedTimestamp_ok_iff.mp verified
    refine ⟨not_lt.mp fun many => given (.inr many), fun none => refuse_eq_ok.mp nonEmpty (empty.mpr none),
      valid, ?_⟩
    rw [← Except.ok.inj normalized, ← settled.origin, settled.userAgent.1]
    rfl
  · rintro ⟨few, nonEmpty, valid, rfl⟩
    refine bind_eq_ok_iff.mpr ⟨_, code, bind_eq_ok_iff.mpr ⟨_, expected, ?_⟩⟩
    dsimp only
    simp only [check_ok_iff, refuse_eq_ok]
    refine ⟨not_not.mpr rfl, not_not.mpr settled.origin, ?_, ?_, ?_⟩
    · rw [settled.userAgent.1]
      exact settled.userAgent.2
    · exact not_or.mpr ⟨(fun none => by cases none), not_lt.mpr few⟩
    · refine bind_eq_ok_iff.mpr ⟨_, normalizedCookies_ok_iff.mpr ⟨valid, rfl⟩, ?_⟩
      refine check_ok_iff.mpr ⟨refuse_eq_ok.mpr fun none => nonEmpty (empty.mp none), ?_⟩
      refine bind_eq_ok_iff.mpr ⟨_, isoTimestamp_ok_iff.mpr ⟨settled.createdAt, rfl⟩, ?_⟩
      refine bind_eq_ok_iff.mpr ⟨_, isoTimestamp_ok_iff.mpr ⟨settled.updatedAt, rfl⟩, ?_⟩
      refine bind_eq_ok_iff.mpr ⟨_, isoTimestamp_ok_iff.mpr ⟨settled.identityProvenAt, rfl⟩, ?_⟩
      refine bind_eq_ok_iff.mpr ⟨_, verifiedTimestamp_ok_iff.mpr ⟨settled.lastVerifiedAt, rfl⟩, ?_⟩
      rw [← settled.origin, settled.userAgent.1]
      rfl

end Bundle

end FullManagedBi.WebapiSession
