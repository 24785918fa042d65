import FullManagedBi.WebapiSession.CookieJar

/-!
# The lifetime of a cookie

The attributes of a `Set-Cookie` header may come in any order, and a valid `Max-Age` decides the lifetime
whatever `Expires` says (`LifetimeLaw`):

- **`lifetimeLaw_iff`** — a header with distinct attributes keeps this exactly where it does not set a
  positive `Max-Age` beside an `Expires` that has passed;
- `pastExpires_overrules` — a passed `Expires` in front of a positive `Max-Age` removes the cookie.

What an attribute does is taken apart into what it does to the domain, to the lifetime, and to the rest.
Only the lifetime is changed by two keys.
-/

namespace FullManagedBi.WebapiSession

open Lib

section Lifetime

variable {B : SessionBuiltins} {url : Url} {nowSeconds : Rat}

/-! ## What an attribute changes -/

/-- The domain and whether the cookie is for one host, after an attribute. -/
def domainStep (B : SessionBuiltins) (url : Url) (domain : Option (String × Bool)) (attr : Attribute) :
    Option (String × Bool) :=
  if attr.key = "domain" then domain.bind fun _ => (attributeDomain B url attr.value).map (·, false)
  else domain

/-- The expiry and the removal, after an attribute. -/
def lifetimeStep (B : SessionBuiltins) (nowSeconds : Rat) (life : Option JsFloat × Bool)
    (attr : Attribute) : Option JsFloat × Bool :=
  if attr.key = "max-age" then
    match B.toNumber attr.value with
    | .finite seconds =>
      (some (.finite (B.add nowSeconds seconds)), life.2 || decide (seconds ≤ 0))
    | _ => life
  else if attr.key = "expires" ∧ life.1 = none then
    match B.parseDate attr.value with
    | some milliseconds =>
      (some (.finite (B.perThousand milliseconds)),
        life.2 || decide (B.perThousand milliseconds ≤ nowSeconds))
    | none => life
  else life

/-- Path, `Secure`, `HttpOnly` and `SameSite`, after an attribute. -/
def plainStep (B : SessionBuiltins) (cookie : Cookie) (attr : Attribute) : Cookie :=
  if attr.key = "path" then
    { cookie with path := if startsWithSlash attr.value then attr.value else "/" }
  else if attr.key = "secure" then { cookie with secure := true }
  else if attr.key = "httponly" then { cookie with httpOnly := true }
  else if attr.key = "samesite" then { cookie with sameSite := sameSiteOf B attr.value }
  else cookie

/-- What is parsed, put together from its parts. -/
def assemble (plain : Cookie) (life : Option JsFloat × Bool) (domain : String × Bool) : Parsed where
  cookie := { plain with domain := domain.1, hostOnly := domain.2, expires := life.1 }
  remove := life.2

theorem applyAttribute_assemble (plain : Cookie) (life : Option JsFloat × Bool) (domain : String × Bool)
    (attr : Attribute) : applyAttribute B url nowSeconds (assemble plain life domain) attr =
      (domainStep B url (some domain) attr).map
        (assemble (plainStep B plain attr) (lifetimeStep B nowSeconds life attr)) := by
  unfold applyAttribute domainStep lifetimeStep plainStep
  by_cases isDomain : attr.key = "domain"
  · simp only [isDomain]
    cases attributeDomain B url attr.value <;> rfl
  · by_cases isPath : attr.key = "path"
    · simp [isPath, assemble]
    · by_cases isMaxAge : attr.key = "max-age"
      · simp [isMaxAge]
        cases B.toNumber attr.value <;> rfl
      · by_cases isExpires : attr.key = "expires"
        · by_cases unset : life.1 = none
          · simp [isExpires, unset, assemble]
            cases B.parseDate attr.value <;> simp [unset]
          · simp [isExpires, unset, assemble]
        · simp only [isDomain, isPath, isMaxAge, isExpires, if_false, false_and]
          split
          · rfl
          · split
            · rfl
            · split <;> rfl

theorem foldl_domainStep_none {attrs : List Attribute} : attrs.foldl (domainStep B url) none = none := by
  induction attrs with
  | nil => rfl
  | cons attr attrs ih =>
    rw [List.foldl_cons]
    unfold domainStep
    rw [Option.bind_none, ite_self]
    exact ih

theorem foldlM_assemble (attrs : List Attribute) (plain : Cookie) (life : Option JsFloat × Bool)
    (domain : String × Bool) : attrs.foldlM (applyAttribute B url nowSeconds) (assemble plain life domain) =
      (attrs.foldl (domainStep B url) (some domain)).map
        (assemble (attrs.foldl (plainStep B) plain) (attrs.foldl (lifetimeStep B nowSeconds) life)) := by
  induction attrs generalizing plain life domain with
  | nil => rfl
  | cons attr attrs ih =>
    rw [List.foldlM_cons, applyAttribute_assemble, List.foldl_cons, List.foldl_cons, List.foldl_cons]
    cases step : domainStep B url (some domain) attr with
    | some domain' => exact ih _ _ _
    | none =>
      rw [foldl_domainStep_none]
      rfl

/-! ## The order of attributes -/

variable {attrs attrs' : List Attribute}

/-- Two attributes of a list with distinct keys are the same or have different keys. -/
theorem eq_or_key_ne (distinct : (attrs.map (·.key)).Nodup) {a b : Attribute} (mem : a ∈ attrs)
    (mem' : b ∈ attrs) : a = b ∨ a.key ≠ b.key := by
  by_cases same : a.key = b.key
  · exact .inl (List.inj_on_of_nodup_map distinct mem mem' same)
  · exact .inr same

theorem domainStep_perm (perm : attrs.Perm attrs') (distinct : (attrs.map (·.key)).Nodup)
    (domain : Option (String × Bool)) :
    attrs.foldl (domainStep B url) domain = attrs'.foldl (domainStep B url) domain := by
  refine perm.foldl_eq' (fun a mem b mem' domain => ?_) domain
  rcases eq_or_key_ne distinct mem mem' with rfl | apart
  · rfl
  · unfold domainStep
    by_cases first : a.key = "domain"
    · have second : b.key ≠ "domain" := fun same => apart (first.trans same.symm)
      rw [if_pos first, if_neg second, if_neg second, if_pos first]
    · rw [if_neg first, if_neg first]

theorem plainStep_perm (perm : attrs.Perm attrs') (distinct : (attrs.map (·.key)).Nodup)
    (plain : Cookie) : attrs.foldl (plainStep B) plain = attrs'.foldl (plainStep B) plain := by
  refine perm.foldl_eq' (fun a mem b mem' plain => ?_) plain
  rcases eq_or_key_ne distinct mem mem' with rfl | apart
  · rfl
  · unfold plainStep
    split_ifs <;> simp_all

/-- The number of seconds a valid `Max-Age` gives. -/
def maxAgeOf (B : SessionBuiltins) (attr : Attribute) : Option Rat :=
  if attr.key = "max-age" then
    match B.toNumber attr.value with
    | .finite seconds => some seconds
    | _ => none
  else none

def expiresOf (B : SessionBuiltins) (attr : Attribute) : Option Rat :=
  if attr.key = "expires" then (B.parseDate attr.value).map B.perThousand else none

theorem lifetimeStep_eq (life : Option JsFloat × Bool) (attr : Attribute) : lifetimeStep B nowSeconds life attr =
      match maxAgeOf B attr with
      | some seconds => (some (.finite (B.add nowSeconds seconds)), life.2 || decide (seconds ≤ 0))
      | none => match life.1, expiresOf B attr with
        | none, some expires => (some (.finite expires), life.2 || decide (expires ≤ nowSeconds))
        | _, _ => life := by
  obtain ⟨expiry, removal⟩ := life
  unfold lifetimeStep maxAgeOf expiresOf
  by_cases isMaxAge : attr.key = "max-age"
  · have notExpires : attr.key ≠ "expires" := by rw [isMaxAge]; decide
    simp only [isMaxAge, if_true]
    cases B.toNumber attr.value <;> cases expiry <;> simp
  · simp only [isMaxAge, if_false]
    by_cases isExpires : attr.key = "expires"
    · cases expiry with
      | none => cases B.parseDate attr.value <;> simp [isExpires]
      | some _ => simp
    · cases expiry <;> simp [isExpires]

/-- The lifetime that attributes with distinct keys give: `Max-Age` first, `Expires` where there is no
valid one. -/
def lifetimeOf (B : SessionBuiltins) (nowSeconds : Rat) (attrs : List Attribute) :
    Option JsFloat × Bool :=
  match attrs.findSome? (maxAgeOf B), attrs.findSome? (expiresOf B) with
  | some seconds, _ => (some (.finite (B.add nowSeconds seconds)), decide (seconds ≤ 0))
  | none, some expires => (some (.finite expires), decide (expires ≤ nowSeconds))
  | none, none => (none, false)

variable {attr : Attribute}

theorem maxAgeOf_key {seconds : Rat} (valid : maxAgeOf B attr = some seconds) : attr.key = "max-age" := by
  unfold maxAgeOf at valid
  by_contra other
  rw [if_neg other] at valid
  exact nomatch valid

theorem expiresOf_key {expires : Rat} (valid : expiresOf B attr = some expires) : attr.key = "expires" := by
  unfold expiresOf at valid
  by_contra other
  rw [if_neg other] at valid
  exact nomatch valid

variable {f : Attribute → Option Rat} {key : String}

/-- No attribute of a list gives a value that the first attribute with its key would have given. -/
theorem findSome?_none (keyed : ∀ attr value, f attr = some value → attr.key = key)
    (has : attr.key = key) (distinct : ((attr :: attrs).map (·.key)).Nodup) : attrs.findSome? f = none := by
  rw [List.findSome?_eq_none_iff]
  intro other mem
  cases value : f other with
  | none => rfl
  | some _ =>
    rw [List.map_cons, List.nodup_cons] at distinct
    exact absurd (List.mem_map.mpr ⟨other, mem, (keyed _ _ value).trans has.symm⟩) distinct.1

theorem foldl_lifetimeStep_set (expiry : JsFloat) (removal : Bool) (distinct : (attrs.map (·.key)).Nodup) :
    attrs.foldl (lifetimeStep B nowSeconds) (some expiry, removal) = match attrs.findSome? (maxAgeOf B) with
      | some seconds => (some (.finite (B.add nowSeconds seconds)), removal || decide (seconds ≤ 0))
      | none => (some expiry, removal) := by
  induction attrs generalizing expiry removal with
  | nil => rfl
  | cons attr attrs ih =>
    have rest := (List.nodup_cons.mp distinct).2
    rw [List.foldl_cons, List.findSome?_cons, lifetimeStep_eq]
    cases valid : maxAgeOf B attr with
    | some seconds =>
      simp only
      rw [ih _ _ rest, findSome?_none (fun _ _ => maxAgeOf_key) (maxAgeOf_key valid) distinct]
    | none => exact ih _ _ rest

/-- The lifetime after all attributes, where no passed `Expires` stands beside a positive `Max-Age`. -/
theorem foldl_lifetimeStep (distinct : (attrs.map (·.key)).Nodup)
    (agrees : ∀ seconds expires, attrs.findSome? (maxAgeOf B) = some seconds →
      attrs.findSome? (expiresOf B) = some expires → expires ≤ nowSeconds → seconds ≤ 0) :
    attrs.foldl (lifetimeStep B nowSeconds) (none, false) = lifetimeOf B nowSeconds attrs := by
  induction attrs with
  | nil => rfl
  | cons attr attrs ih =>
    have rest := (List.nodup_cons.mp distinct).2
    unfold lifetimeOf
    rw [List.findSome?_cons, List.findSome?_cons] at agrees ⊢
    rw [List.foldl_cons, lifetimeStep_eq]
    cases age : maxAgeOf B attr with
    | some seconds =>
      simp only [Bool.false_or]
      rw [foldl_lifetimeStep_set _ _ rest,
        findSome?_none (fun _ _ => maxAgeOf_key) (maxAgeOf_key age) distinct]
    | none =>
      rw [age] at agrees
      cases expiry : expiresOf B attr with
      | none =>
        rw [expiry] at agrees
        exact ih rest agrees
      | some expires =>
        rw [expiry] at agrees
        simp only [Bool.false_or]
        rw [foldl_lifetimeStep_set _ _ rest]
        cases later : attrs.findSome? (maxAgeOf B) with
        | none => rfl
        | some seconds =>
          rw [later] at agrees
          have bound := agrees seconds expires rfl rfl
          by_cases passed : expires ≤ nowSeconds
          · simp [passed, bound passed]
          · simp [passed]

/-- The value that attributes with distinct keys give is given by one of them. -/
theorem findSome?_eq_iff (keyed : ∀ attr value, f attr = some value → attr.key = key)
    (distinct : (attrs.map (·.key)).Nodup) {value : Rat} : attrs.findSome? f = some value ↔ ∃ attr ∈ attrs, f attr = some value := by
  constructor
  · exact List.exists_of_findSome?_eq_some
  · rintro ⟨attr, mem, given⟩
    have found : (attrs.findSome? f).isSome := by
      rw [List.findSome?_isSome_iff]
      exact ⟨attr, mem, by rw [given]; rfl⟩
    obtain ⟨other, result⟩ := Option.isSome_iff_exists.mp found
    obtain ⟨attr', mem', given'⟩ := List.exists_of_findSome?_eq_some result
    have same : attr' = attr := List.inj_on_of_nodup_map distinct mem' mem
      ((keyed _ _ given').trans (keyed _ _ given).symm)
    rw [result, ← given', same, given]

theorem findSome?_perm (keyed : ∀ attr value, f attr = some value → attr.key = key)
    (perm : attrs.Perm attrs') (distinct : (attrs.map (·.key)).Nodup) : attrs.findSome? f = attrs'.findSome? f := by
  have distinct' : (attrs'.map (·.key)).Nodup := (perm.map _).nodup_iff.mp distinct
  apply Option.ext
  intro value
  rw [findSome?_eq_iff keyed distinct, findSome?_eq_iff keyed distinct']
  simp only [perm.mem_iff]

/-! ## The law -/

/-- A header with the same attributes in another order. -/
def Permuted (value value' : String) : Prop :=
  firstPart value' = firstPart value ∧
    ((value'.toList.splitOn ';').tail).Perm (value.toList.splitOn ';').tail

/-- What the order of attributes and `Expires` may not change. -/
structure LifetimeLaw (B : SessionBuiltins) (url : Url) (nowSeconds : Rat) (value : String) : Prop where
  permuted : ∀ value', Permuted value value' →
    parseSetCookie B value' url nowSeconds = parseSetCookie B value url nowSeconds
  maxAge : ∀ attr ∈ attributesOf B value, ∀ seconds, maxAgeOf B attr = some seconds →
    ∀ parsed, parseSetCookie B value url nowSeconds = some parsed →
      parsed.cookie.expires = some (.finite (B.add nowSeconds seconds)) ∧
        (parsed.remove = true ↔ seconds ≤ 0)

/-- A header that is accepted: it has a name, and the host belongs to the domains it names. -/
def Accepted (B : SessionBuiltins) (url : Url) (value : String) : Prop :=
  (cookiePair (firstPart value)).isSome = true ∧
    ∀ attr ∈ attributesOf B value, attr.key = "domain" → (attributeDomain B url attr.value).isSome = true

/-- A header that is accepted sets a positive `Max-Age` beside an `Expires` that has passed. -/
def Overruled (B : SessionBuiltins) (url : Url) (nowSeconds : Rat) (value : String) : Prop :=
  Accepted B url value ∧
    ∃ age ∈ attributesOf B value, ∃ expiry ∈ attributesOf B value, ∃ seconds expires,
      maxAgeOf B age = some seconds ∧ expiresOf B expiry = some expires ∧ 0 < seconds ∧
        expires ≤ nowSeconds

theorem parseSetCookie_eq (value : String) :
    parseSetCookie B value url nowSeconds = (cookiePair (firstPart value)).bind fun pair =>
      ((attributesOf B value).foldl (domainStep B url) (some (url.hostname, true))).map
        (assemble ((attributesOf B value).foldl (plainStep B) (candidateCookie url pair.1 pair.2))
          ((attributesOf B value).foldl (lifetimeStep B nowSeconds) (none, false))) := by
  unfold parseSetCookie
  cases cookiePair (firstPart value) with
  | none => rfl
  | some pair =>
    exact foldlM_assemble (attributesOf B value) (candidateCookie url pair.1 pair.2) (none, false)
      (url.hostname, true)

theorem attributesOf_perm {value value' : String} (permuted : Permuted value value') :
    (attributesOf B value').Perm (attributesOf B value) := permuted.2.filterMap _

/-- The domain of a header is settled where the host belongs to every domain it names. -/
theorem isSome_foldl_domainStep (domain : String × Bool) :
    (attrs.foldl (domainStep B url) (some domain)).isSome = true ↔
      ∀ attr ∈ attrs, attr.key = "domain" → (attributeDomain B url attr.value).isSome = true := by
  induction attrs generalizing domain with
  | nil => simp
  | cons attr attrs ih =>
    rw [List.foldl_cons, List.forall_mem_cons]
    by_cases isDomain : attr.key = "domain"
    · have step : domainStep B url (some domain) attr =
          (attributeDomain B url attr.value).map (·, false) := if_pos isDomain
      rw [step, imp_iff_right isDomain]
      cases attributeDomain B url attr.value with
      | none =>
        rw [Option.map_none, foldl_domainStep_none]
        exact iff_of_false nofun fun both => (nomatch both.1)
      | some named => exact (ih (named, false)).trans (and_iff_right rfl).symm
    · have step : domainStep B url (some domain) attr = some domain := if_neg isDomain
      rw [step]
      exact (ih domain).trans (and_iff_right fun same => absurd same isDomain).symm

theorem not_mem_of_mem_splitOn {c : Char} {text part : List Char} (mem : part ∈ text.splitOn c) : c ∉ part := by
  induction text generalizing part with
  | nil =>
    rw [List.splitOn_nil, List.mem_singleton] at mem
    rw [mem]
    exact List.not_mem_nil
  | cons d text ih =>
    rw [List.splitOn_cons_eq_if_modifyHead] at mem
    split at mem
    · rcases List.mem_cons.mp mem with rfl | later
      · exact List.not_mem_nil
      · exact ih later
    · rename_i apart
      cases parts : text.splitOn c with
      | nil => exact absurd parts (List.splitOn_ne_nil c text)
      | cons first rest =>
        rw [parts] at mem ih
        rcases List.mem_cons.mp mem with rfl | later
        · rw [List.mem_cons, not_or]
          exact ⟨fun same => apart (beq_iff_eq.mpr same.symm), ih List.mem_cons_self⟩
        · exact ih (List.mem_cons_of_mem _ later)

theorem exists_permuted {value : String} {parts : List (List Char)}
    (perm : parts.Perm (value.toList.splitOn ';').tail) : ∃ value', Permuted value value' ∧
      attributesOf B value' = parts.filterMap (attributeOf B) := by
  cases whole : value.toList.splitOn ';' with
  | nil => exact absurd whole (List.splitOn_ne_nil _ _)
  | cons first rest =>
    rw [whole, List.tail_cons] at perm
    have free : ∀ part ∈ first :: parts, ';' ∉ part := by
      intro part mem
      have inside : part ∈ value.toList.splitOn ';' := by
        rw [whole]
        exact (perm.cons first).mem_iff.mp mem
      exact not_mem_of_mem_splitOn inside
    have split : (String.ofList ([';'].intercalate (first :: parts))).toList.splitOn ';' =
        first :: parts := by
      rw [String.toList_ofList]
      exact List.splitOn_intercalate ';' free (List.cons_ne_nil _ _)
    refine ⟨String.ofList ([';'].intercalate (first :: parts)), ⟨?_, ?_⟩, ?_⟩
    · unfold firstPart
      rw [split, whole]
      rfl
    · rw [split, whole]
      exact perm
    · unfold attributesOf
      rw [split, List.tail_cons]

/-- A passed `Expires` in front of a positive `Max-Age` removes the cookie. -/
theorem foldl_lifetimeStep_overruled {age expiry : Attribute} {seconds expires : Rat}
    (distinct : ((expiry :: age :: attrs).map (·.key)).Nodup) (isAge : maxAgeOf B age = some seconds)
    (isExpiry : expiresOf B expiry = some expires) (passed : expires ≤ nowSeconds) :
    ((expiry :: age :: attrs).foldl (lifetimeStep B nowSeconds) (none, false)).2 = true := by
  have noAge : maxAgeOf B expiry = none := by
    cases valid : maxAgeOf B expiry with
    | none => rfl
    | some _ =>
      have key := (maxAgeOf_key valid).symm.trans (expiresOf_key isExpiry)
      exact absurd key (by decide)
  rw [List.foldl_cons, lifetimeStep_eq, noAge, isExpiry]
  simp only
  rw [foldl_lifetimeStep_set _ _ (List.nodup_cons.mp distinct).2, List.findSome?_cons, isAge]
  simp [passed]

/-- **The lifetime of a cookie does not depend on the order of the attributes, and `Max-Age` decides
it**, exactly where no positive `Max-Age` stands beside an `Expires` that has passed. -/
theorem lifetimeLaw_iff (B : SessionBuiltins) (url : Url) (nowSeconds : Rat) (value : String)
    (distinct : ((attributesOf B value).map (·.key)).Nodup) :
    LifetimeLaw B url nowSeconds value ↔ ¬ Overruled B url nowSeconds value := by
  constructor
  · rintro law ⟨⟨named, domains⟩, age, memAge, expiry, memExpiry, seconds, expires, isAge, isExpiry,
      positive, passed⟩
    obtain ⟨agePart, inAge, agePart_eq⟩ := List.mem_filterMap.mp memAge
    obtain ⟨expiryPart, inExpiry, expiryPart_eq⟩ := List.mem_filterMap.mp memExpiry
    have apart : agePart ≠ expiryPart := by
      rintro rfl
      have same := Option.mem_unique agePart_eq expiryPart_eq
      have key := (maxAgeOf_key isAge).symm.trans (same ▸ expiresOf_key isExpiry)
      exact absurd key (by decide)
    -- `Expires` first, then `Max-Age`, then the rest
    have front := (List.perm_cons_erase inExpiry).trans
      ((List.perm_cons_erase ((List.mem_erase_of_ne apart).mpr inAge)).cons expiryPart)
    obtain ⟨value', permuted, attributes⟩ := exists_permuted front.symm
    rw [List.filterMap_cons_some expiryPart_eq, List.filterMap_cons_some agePart_eq] at attributes
    have perm := attributesOf_perm (B := B) permuted
    have distinct' : ((attributesOf B value').map (·.key)).Nodup :=
      (perm.map _).nodup_iff.mpr distinct
    obtain ⟨pair, named⟩ := Option.isSome_iff_exists.mp named
    have settled :
        ((attributesOf B value).foldl (domainStep B url) (some (url.hostname, true))).isSome = true :=
      (isSome_foldl_domainStep (url.hostname, true)).mpr domains
    rw [← domainStep_perm perm distinct'] at settled
    obtain ⟨domain, settled⟩ := Option.isSome_iff_exists.mp settled
    have result : parseSetCookie B value' url nowSeconds = _ := parseSetCookie_eq value'
    rw [permuted.1, named, Option.bind_some, settled, Option.map_some] at result
    have decided := (law.maxAge age memAge seconds isAge _ ((law.permuted value' permuted).symm.trans result)).2
    have removed := foldl_lifetimeStep_overruled (attributes ▸ distinct') isAge isExpiry passed
    rw [← attributes] at removed
    exact absurd (decided.mp removed) (not_le.mpr positive)
  · intro straight
    have agrees (accepted : Accepted B url value) (seconds expires : Rat)
        (isAge : (attributesOf B value).findSome? (maxAgeOf B) = some seconds)
        (isExpiry : (attributesOf B value).findSome? (expiresOf B) = some expires)
        (passed : expires ≤ nowSeconds) : seconds ≤ 0 := by
      obtain ⟨age, memAge, isAge⟩ := List.exists_of_findSome?_eq_some isAge
      obtain ⟨expiry, memExpiry, isExpiry⟩ := List.exists_of_findSome?_eq_some isExpiry
      by_contra positive
      exact straight ⟨accepted, age, memAge, expiry, memExpiry, seconds, expires, isAge, isExpiry,
        not_le.mp positive, passed⟩
    have closed {value' : String} (permuted : Permuted value value') (accepted : Accepted B url value) :
        (attributesOf B value').foldl (lifetimeStep B nowSeconds) (none, false) =
          lifetimeOf B nowSeconds (attributesOf B value) := by
      have perm := attributesOf_perm (B := B) permuted
      have distinct' : ((attributesOf B value').map (·.key)).Nodup :=
        (perm.map _).nodup_iff.mpr distinct
      have ages := findSome?_perm (fun _ _ => maxAgeOf_key (B := B)) perm distinct'
      have expiries := findSome?_perm (fun _ _ => expiresOf_key (B := B)) perm distinct'
      rw [foldl_lifetimeStep distinct' (by rw [ages, expiries]; exact agrees accepted)]
      unfold lifetimeOf
      rw [ages, expiries]
    have same : Permuted value value := ⟨rfl, .refl _⟩
    constructor
    · intro value' permuted
      have perm := attributesOf_perm (B := B) permuted
      have distinct' : ((attributesOf B value').map (·.key)).Nodup :=
        (perm.map _).nodup_iff.mpr distinct
      rw [parseSetCookie_eq, parseSetCookie_eq, permuted.1, domainStep_perm perm distinct']
      cases named : cookiePair (firstPart value) with
      | none => rfl
      | some pair =>
        rw [Option.bind_some, Option.bind_some, plainStep_perm perm distinct']
        cases settled : (attributesOf B value).foldl (domainStep B url) (some (url.hostname, true)) with
        | none => rfl
        | some domain =>
          have accepted : Accepted B url value := by
            refine ⟨by rw [named]; rfl, (isSome_foldl_domainStep (url.hostname, true)).mp ?_⟩
            rw [settled]
            rfl
          rw [closed permuted accepted, closed same accepted]
    · intro age memAge seconds isAge parsed result
      rw [parseSetCookie_eq] at result
      obtain ⟨pair, named, result⟩ := Option.bind_eq_some_iff.mp result
      obtain ⟨domain, settled, rfl⟩ := Option.map_eq_some_iff.mp result
      have accepted : Accepted B url value := by
        refine ⟨by rw [named]; rfl, (isSome_foldl_domainStep (url.hostname, true)).mp ?_⟩
        rw [settled]
        rfl
      have found := (findSome?_eq_iff (fun _ _ => maxAgeOf_key) distinct).mpr ⟨age, memAge, isAge⟩
      rw [closed same accepted]
      unfold lifetimeOf
      rw [found]
      exact ⟨rfl, decide_eq_true_iff⟩

end Lifetime

/-! ## Two headers -/

/-- A header whose cookie lives for an hour. -/
theorem lifetimeLaw_maxAge : LifetimeLaw asciiBuiltins homeUrl 100 "a=1; Max-Age=3600; Path=/" := by
  refine (lifetimeLaw_iff asciiBuiltins homeUrl 100 "a=1; Max-Age=3600; Path=/" (by decide)).mpr ?_
  have unset : ∀ attr ∈ attributesOf asciiBuiltins "a=1; Max-Age=3600; Path=/",
      expiresOf asciiBuiltins attr = none := by decide
  rintro ⟨-, _, -, expiry, mem, _, expires, -, isExpiry, -⟩
  exact nomatch (unset expiry mem).symm.trans isExpiry

/-- A passed `Expires` in front of a `Max-Age` of an hour removes the cookie. -/
theorem pastExpires_overrules : ¬ LifetimeLaw asciiBuiltins homeUrl 100
    "a=1; Expires=Thu, 01 Jan 1970 00:00:01 GMT; Max-Age=3600" := by
  intro law
  have age : maxAgeOf asciiBuiltins ⟨"max-age", "3600"⟩ = some 3600 := by decide
  have there : (⟨"max-age", "3600"⟩ : Attribute) ∈ attributesOf asciiBuiltins
      "a=1; Expires=Thu, 01 Jan 1970 00:00:01 GMT; Max-Age=3600" := by decide
  have removed : ∃ parsed, parseSetCookie asciiBuiltins
      "a=1; Expires=Thu, 01 Jan 1970 00:00:01 GMT; Max-Age=3600" homeUrl 100 = some parsed ∧
        parsed.remove = true := by
    refine ⟨(parseSetCookie asciiBuiltins
      "a=1; Expires=Thu, 01 Jan 1970 00:00:01 GMT; Max-Age=3600" homeUrl 100).getD
        ⟨candidateCookie homeUrl "" "", false⟩, ?_, ?_⟩ <;> decide +kernel
  obtain ⟨parsed, result, remove⟩ := removed
  have positive := (law.maxAge _ there 3600 age parsed result).2.mp remove
  exact absurd positive (by norm_num)

end FullManagedBi.WebapiSession
