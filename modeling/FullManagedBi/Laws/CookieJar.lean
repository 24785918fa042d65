import FullManagedBi.Laws.SessionStore

/-!
# A cookie is there once

The jar of a session is a map by `cookieKey`, and what it holds is what was written last (`Holds`): the
cookies of the session, then what the headers set and remove. The key has the domain as it is written, with
its leading dot; two cookies that differ in that dot only are one cookie for every request
(`cookieDomain`). So:

- **`mergeSetCookieHeaders_single`** — after headers were merged no cookie is there twice, exactly where
  none survives in both spellings of its domain;
- `rotatedHost_twice` — a cookie that a browser exported with a dot and the host sets without a `Domain`
  is sent with the old value and the new one.
-/

namespace FullManagedBi.WebapiSession

open Lib

section Jar

variable {B : SessionBuiltins} {url : Url} {nowSeconds : Rat}

/-! ## What is written to the jar -/

/-- What is written to the jar, in its order: the cookies of the session that are not expired, then what
the headers set and remove. -/
def writes (B : SessionBuiltins) (url : Url) (nowSeconds : Rat) (cookies : List Cookie)
    (values : List String) : List Parsed :=
  ((storedCookies B cookies).filter fun cookie => !cookieExpired cookie nowSeconds).map (⟨·, false⟩) ++
    (values.take maxSetCookieHeaders).filterMap (parseSetCookie B · url nowSeconds)

def lastWrite (B : SessionBuiltins) (log : List Parsed) (key : String) : Option Cookie :=
  match (log.filter fun write => cookieKey B write.cookie = key).getLast? with
  | some write => if write.remove then none else some write.cookie
  | none => none

/-- A cookie that is written, and neither replaced nor removed by a later write of its key. -/
def Survives (B : SessionBuiltins) (log : List Parsed) (cookie : Cookie) : Prop :=
  lastWrite B log (cookieKey B cookie) = some cookie

def unordered (cookie : Cookie) : Cookie := { cookie with order := none }

def Holds (B : SessionBuiltins) (jar : OrderedMap String Cookie) (log : List Parsed) : Prop :=
  ∀ key, (jar.get? key).map unordered = (lastWrite B log key).map unordered

theorem lastWrite_append (log : List Parsed) (write : Parsed) (key : String) : lastWrite B (log ++ [write]) key =
      if key = cookieKey B write.cookie then if write.remove then none else some write.cookie
      else lastWrite B log key := by
  unfold lastWrite
  rw [List.filter_append]
  by_cases here : cookieKey B write.cookie = key
  · rw [List.filter_cons_of_pos (by simpa using here), List.filter_nil, List.getLast?_concat,
      if_pos here.symm]
  · rw [List.filter_cons_of_neg (by simpa using here), List.filter_nil, List.append_nil,
      if_neg fun same => here same.symm]

variable {log : List Parsed} {key : String}

theorem lastWrite_key {cookie : Cookie} (last : lastWrite B log key = some cookie) : cookieKey B cookie = key := by
  unfold lastWrite at last
  split at last
  · rename_i write found
    split at last
    · exact nomatch last
    · have mem := List.mem_of_getLast? found
      rw [List.mem_filter, decide_eq_true_eq] at mem
      exact Option.some.inj last ▸ mem.2
  · exact nomatch last

variable {jar : OrderedMap String Cookie}

theorem holds_mergeSetCookie (holds : Holds B jar log) (value : String) :
    Holds B (mergeSetCookie B url nowSeconds jar value) (log ++ (parseSetCookie B value url nowSeconds).toList) := by
  intro key
  unfold mergeSetCookie
  cases parseSetCookie B value url nowSeconds with
  | none =>
    rw [Option.toList_none, List.append_nil]
    exact holds key
  | some write =>
    rw [Option.toList_some, lastWrite_append]
    dsimp only
    cases write.remove with
    | true =>
      rw [if_pos rfl, OrderedMap.get?_delete]
      split
      · rfl
      · exact holds key
    | false =>
      rw [if_neg Bool.false_ne_true, OrderedMap.get?_set]
      split
      · rfl
      · exact holds key

theorem holds_foldl (holds : Holds B jar log) (values : List String) : Holds B (values.foldl (mergeSetCookie B url nowSeconds) jar)
      (log ++ values.filterMap (parseSetCookie B · url nowSeconds)) := by
  induction values generalizing jar log with
  | nil =>
    rw [List.filterMap_nil, List.append_nil]
    exact holds
  | cons value values ih =>
    have step : Holds B (values.foldl (mergeSetCookie B url nowSeconds)
        (mergeSetCookie B url nowSeconds jar value)) _ := ih (holds_mergeSetCookie holds value)
    rw [List.append_assoc] at step
    rw [List.foldl_cons, List.filterMap_cons]
    cases parsed : parseSetCookie B value url nowSeconds <;> rw [parsed] at step <;> exact step

theorem holds_jarOf (cookies : List Cookie) : Holds B (jarOf B cookies nowSeconds)
    ((cookies.filter fun cookie => !cookieExpired cookie nowSeconds).map (⟨·, false⟩)) := by
  intro key
  unfold jarOf lastWrite
  generalize cookies.filter (fun cookie => !cookieExpired cookie nowSeconds) = live
  rw [OrderedMap.get?_ofEntries, List.filter_map, List.filter_map, List.getLast?_map, List.getLast?_map]
  have same : ((fun entry : String × Cookie => decide (entry.1 = key)) ∘ fun cookie => (cookieKey B cookie, cookie)) =
      (fun write : Parsed => decide (cookieKey B write.cookie = key)) ∘ (⟨·, false⟩) := rfl
  rw [same]
  cases (live.filter _).getLast? <;> rfl

def mergedJar (B : SessionBuiltins) (url : Url) (nowSeconds : Rat) (cookies : List Cookie)
    (values : List String) : OrderedMap String Cookie :=
  (values.take maxSetCookieHeaders).foldl (mergeSetCookie B url nowSeconds)
    (jarOf B (storedCookies B cookies) nowSeconds)

theorem holds_mergedJar (cookies : List Cookie) (values : List String) :
    Holds B (mergedJar B url nowSeconds cookies values) (writes B url nowSeconds cookies values) :=
  holds_foldl (holds_jarOf _) _

/-- What the jar finds was written last, up to its place in the order. -/
theorem Holds.get? (holds : Holds B jar log) {cookie : Cookie} (found : jar.get? key = some cookie) :
    ∃ written, lastWrite B log key = some written ∧ unordered cookie = unordered written := by
  have same := holds key
  rw [found, Option.map_some, eq_comm, Option.map_eq_some_iff] at same
  obtain ⟨written, last, same⟩ := same
  exact ⟨written, last, same.symm⟩

theorem Holds.lastWrite (holds : Holds B jar log) {written : Cookie} (last : lastWrite B log key = some written) :
    ∃ cookie, jar.get? key = some cookie ∧ unordered cookie = unordered written := by
  have same := holds key
  rw [last, Option.map_some, Option.map_eq_some_iff] at same
  exact same

/-! ## The identity of a cookie -/

/-- What makes two cookies one cookie: their name, their path, and their domain without a leading dot. -/
def identity (B : SessionBuiltins) (cookie : Cookie) : String × String × String :=
  (cookie.name, cookie.path, cookieDomain B cookie)

/-- The domain of a cookie is written with a leading dot. -/
def Dotted (B : SessionBuiltins) (cookie : Cookie) : Prop :=
  startsWithDot (canonicalHost B cookie.domain) = true

instance (cookie : Cookie) : Decidable (Dotted B cookie) := inferInstanceAs (Decidable (_ = true))

theorem canonicalHost_stored (cookie : Cookie) (index : Nat) :
    canonicalHost B (stored B cookie index).domain = canonicalHost B cookie.domain :=
  congrArg dropFinalDot (storedDomain_stored cookie index)

theorem identity_stored (cookie : Cookie) (index : Nat) : identity B (stored B cookie index) = identity B cookie := by
  unfold identity cookieDomain
  rw [canonicalHost_stored]
  rfl

theorem dropDot_of_plain {text : String} (plain : startsWithDot text = false) : dropDot text = text := by
  unfold dropDot
  split
  · rename_i rest whole
    unfold startsWithDot at plain
    rw [whole] at plain
    exact nomatch plain
  · rfl

theorem toList_of_dot {text : String} (dot : startsWithDot text = true) :
    text.toList = '.' :: (dropDot text).toList := by
  unfold startsWithDot at dot
  unfold dropDot
  split
  · rename_i rest whole
    rw [whole, String.toList_ofList]
  · rename_i plain
    cases whole : text.toList with
    | nil =>
      rw [whole] at dot
      exact nomatch dot
    | cons c rest =>
      rw [whole, decide_eq_true_eq] at dot
      exact absurd (Option.some.inj dot ▸ whole) (plain rest)

theorem eq_of_dropDot {a b : String} (same : dropDot a = dropDot b)
    (dots : startsWithDot a = true ↔ startsWithDot b = true) : a = b := by
  by_cases dot : startsWithDot a = true
  · rw [← String.toList_inj, toList_of_dot dot, toList_of_dot (dots.mp dot), same]
  · rw [← dropDot_of_plain (Bool.eq_false_iff.mpr dot), same]
    exact dropDot_of_plain (Bool.eq_false_iff.mpr fun other => dot (dots.mpr other))

/-- Cookies with one identity have one key where their domains are written in one way. -/
theorem cookieKey_congr {a b : Cookie} (same : identity B a = identity B b)
    (dots : Dotted B a ↔ Dotted B b) : cookieKey B a = cookieKey B b := by
  have name : a.name = b.name := congrArg Prod.fst same
  have path : a.path = b.path := congrArg (·.2.1) same
  have domain : canonicalHost B a.domain = canonicalHost B b.domain :=
    eq_of_dropDot (congrArg (·.2.2) same) dots
  unfold cookieKey
  rw [name, path, domain]

/-- Two cookies survive that are one cookie, with the domain written with a dot and without. -/
def SpelledTwice (B : SessionBuiltins) (log : List Parsed) : Prop :=
  ∃ a b, Survives B log a ∧ Survives B log b ∧ identity B a = identity B b ∧ Dotted B a ∧ ¬ Dotted B b

/-- No cookie is there twice, neither in a session nor in what is sent with a request. -/
structure SingleCookies (B : SessionBuiltins) (bundle : SessionBundle) : Prop where
  kept : ((bundle.cookies.getD []).map (identity B)).Nodup
  sent : ∀ url now sent, cookiesForUrl B bundle url now = .ok sent → (sent.map (identity B)).Nodup

theorem identity_unordered {a b : Cookie} (same : unordered a = unordered b) : identity B a = identity B b :=
  show identity B (unordered a) = identity B (unordered b) from congrArg (identity B) same

/-- The jar holds no cookie twice, exactly where no cookie survives in two spellings. -/
theorem Holds.nodup_iff (holds : Holds B jar log) : (jar.values.map (identity B)).Nodup ↔ ¬ SpelledTwice B log := by
  rw [OrderedMap.nodup_map_values_iff]
  constructor
  · rintro apart ⟨a, b, first, second, same, dotted, plain⟩
    obtain ⟨keptA, foundA, sameA⟩ := holds.lastWrite first
    obtain ⟨keptB, foundB, sameB⟩ := holds.lastWrite second
    have keys := apart _ _ _ _ foundA foundB
      ((identity_unordered sameA).trans (same.trans (identity_unordered sameB).symm))
    have one : a = b := Option.mem_unique first (keys ▸ second)
    exact plain (one ▸ dotted)
  · intro once key other a b foundA foundB same
    obtain ⟨writtenA, first, sameA⟩ := holds.get? foundA
    obtain ⟨writtenB, second, sameB⟩ := holds.get? foundB
    obtain rfl := lastWrite_key first
    obtain rfl := lastWrite_key second
    have identities : identity B writtenA = identity B writtenB :=
      (identity_unordered sameA).symm.trans (same.trans (identity_unordered sameB))
    refine cookieKey_congr identities ⟨fun dotted => ?_, fun dotted => ?_⟩
    · by_contra plain
      exact once ⟨_, _, first, second, identities, dotted, plain⟩
    · by_contra plain
      exact once ⟨_, _, second, first, identities.symm, dotted, plain⟩

theorem mergeSetCookieHeaders_ok {bundle merged : SessionBundle} {values : List String} {now : Instant}
    (ok : mergeSetCookieHeaders B bundle url values now = .ok merged) :
    ∃ cookies, bundle.cookies = some cookies ∧ (∀ cookie ∈ cookies, ValidCookie B cookie) ∧
      Settled merged ∧ merged.cookies =
        some (storedCookies B (mergedJar B url (secondsOf B now) cookies values).values) := by
  unfold mergeSetCookieHeaders at ok
  obtain ⟨normalized, first, again⟩ := bind_eq_ok ok
  obtain ⟨-, cookies, has, kept, -, valid⟩ := normalizeWebApiSessionBundle_settled first
  obtain ⟨settled, values', has', kept', -, -⟩ := normalizeWebApiSessionBundle_settled again
  rw [kept, Option.getD_some] at has'
  obtain rfl := Option.some.inj has'
  exact ⟨cookies, has, valid, settled, kept'⟩

theorem cookiesForUrl_sublist {bundle : SessionBundle} {now : Instant} {sent : List Cookie}
    (ok : cookiesForUrl B bundle url now = .ok sent) :
    ∃ some_sent, sent.Perm some_sent ∧ some_sent.Sublist (storedCookies B (bundle.cookies.getD [])) := by
  unfold cookiesForUrl at ok
  obtain ⟨normalized, first, result⟩ := bind_eq_ok ok
  obtain ⟨-, cookies, has, kept, -, -⟩ := normalizeWebApiSessionBundle_settled first
  obtain rfl := Except.ok.inj result
  rw [kept, has]
  exact ⟨_, List.perm_insertionSort _ _, List.filter_sublist⟩

/-- **After headers were merged no cookie is there twice**, exactly where no cookie survives with its
domain written both with a leading dot and without. -/
theorem mergeSetCookieHeaders_single (B : SessionBuiltins) (bundle : SessionBundle) (url : Url)
    (values : List String) (now : Instant) (merged : SessionBundle)
    (ok : mergeSetCookieHeaders B bundle url values now = .ok merged) : SingleCookies B merged ↔
      ¬ SpelledTwice B (writes B url (secondsOf B now) (bundle.cookies.getD []) values) := by
  obtain ⟨cookies, has, -, -, kept⟩ := mergeSetCookieHeaders_ok ok
  have identities (given : List Cookie) :
      (storedCookies B given).map (identity B) = given.map (identity B) :=
    map_storedCookies identity_stored given
  have kept_iff : ((merged.cookies.getD []).map (identity B)).Nodup ↔
      ¬ SpelledTwice B (writes B url (secondsOf B now) (bundle.cookies.getD []) values) := by
    rw [kept, has, Option.getD_some, Option.getD_some, identities]
    exact (holds_mergedJar cookies values).nodup_iff
  rw [← kept_iff]
  refine ⟨SingleCookies.kept, fun nodup => ⟨nodup, fun url' later sent request => ?_⟩⟩
  obtain ⟨part, perm, sublist⟩ := cookiesForUrl_sublist request
  refine (perm.map _).nodup_iff.mpr ((sublist.map _).nodup ?_)
  rw [identities]
  exact nodup

/-- No cookie survives in two spellings where every domain is written with a dot. -/
theorem not_spelledTwice (dotted : ∀ write ∈ log, Dotted B write.cookie) : ¬ SpelledTwice B log := by
  rintro ⟨a, b, -, second, -, -, plain⟩
  unfold Survives lastWrite at second
  split at second
  · rename_i write found
    split at second
    · exact nomatch second
    · obtain rfl := Option.some.inj second
      exact plain (dotted write (List.mem_filter.mp (List.mem_of_getLast? found)).1)
  · exact nomatch second

end Jar

/-! ## Two sessions -/

def exportedSession (cookie : Cookie) : SessionBundle where
  storeCode := "CX4412"
  origin := homeWebapiOrigin
  userAgent := "Mozilla/5.0"
  createdAt := some 0
  updatedAt := some 0
  identityProvenAt := some 0
  cookies := some [cookie]

/-- A cookie of the host family, before it is rotated. -/
def oldToken : Cookie where
  name := "token"
  value := "old"
  domain := ".geiwohuo.com"
  path := "/"

/-- A cookie of one host, before it is rotated. -/
def oldHostToken : Cookie := { oldToken with domain := ".sso.geiwohuo.com" }


/-- A cookie that is rotated under its domain is there once. -/
theorem single_rotated : SingleCookies asciiBuiltins { exportedSession oldToken with
    updatedAt := some 100000
    cookies := some [{ oldToken with value := "new", secure := false, order := some 0 }] } := by
  refine (mergeSetCookieHeaders_single asciiBuiltins (exportedSession oldToken) homeUrl
    ["token=new; Domain=.geiwohuo.com; Path=/"] 100000 _ ?_).mpr (not_spelledTwice ?_)
  · decide +kernel
  · decide

/-- A cookie that is rotated under its host, after it was exported with a dot, is there twice, and both
values are sent. -/
theorem rotatedHost_twice : ∃ merged,
    mergeSetCookieHeaders asciiBuiltins (exportedSession oldHostToken) homeUrl ["token=new; Path=/"] 100000 =
      .ok merged ∧
    cookieHeaderForUrl asciiBuiltins merged homeUrl 100000 = .ok "token=old; token=new" ∧
    ¬ SingleCookies asciiBuiltins merged := by
  refine ⟨{ exportedSession oldHostToken with
    updatedAt := some 100000
    cookies := some [{ oldHostToken with order := some 0 }, { oldHostToken with
      value := "new"
      domain := "sso.geiwohuo.com"
      secure := false
      hostOnly := true
      order := some 1 }] }, ?_, ?_, fun single => ?_⟩
  · decide
  · decide
  · exact absurd single.kept (by decide)

end FullManagedBi.WebapiSession
