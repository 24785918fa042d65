import FullManagedBi.Laws.CookieJar
import FullManagedBi.Lib.Run
import FullManagedBi.WebapiSession.HttpSession

/-!
# Cookies that a session keeps

Where each update can be applied when its turn comes (`Applicable`), no promise of the queue is rejected, and the bundle has
the effect of the updates that are through, in their order (`Chained`, `chained_step`).

**`httpSession_law`**: then each response is answered by its status and its body, and `close` writes a bundle with the effect
of all cookies that were received before. `mergeFailure_lost`: one response whose cookies cannot be merged hides its status,
loses the cookies of the others and makes `close` fail.
-/

namespace FullManagedBi.WebapiSession

open Lib HttpSession

variable {B : SessionBuiltins} {kind : SessionKind} {canonical : String} {initial : SessionBundle}
  {s : HttpSession} {events : List SessionEvent}

/-- The second bundle is the first one with the updates, each applied at some time. -/
inductive Effect (B : SessionBuiltins) (canonical : String) (initial : SessionBundle) : List Update → SessionBundle → Prop
  | nil : Effect B canonical initial [] initial
  | snoc {updates : List Update} {middle bundle : SessionBundle} (update : Update) (clock : Instant × Instant) :
    Effect B canonical initial updates middle → update.apply B canonical middle clock = .ok bundle →
    Effect B canonical initial (updates ++ [update]) bundle

/-- An update whose turn comes can be applied. -/
def Applicable (B : SessionBuiltins) (canonical : String) (s : HttpSession) : SessionEvent → Prop
  | .drain clock => ∀ update, s.queue[s.settled.length]? = some update →
    ∃ bundle, update.apply B canonical s.bundle clock = .ok bundle
  | _ => True

/-- What the updates of this much of the queue lead to. -/
def Written (B : SessionBuiltins) (canonical : String) (initial : SessionBundle) (updates : List Update)
    (result : Except JsError (Option SessionBundle)) : Prop :=
  updates = [] ∧ result = .ok none ∨ ∃ bundle, result = .ok (some bundle) ∧ Effect B canonical initial updates bundle

/-- What is known of a call. -/
def Exchange.Answered (kind : SessionKind) : Exchange → Prop
  | .verifying endpointCode response body _ => kind.answer endpointCode response = .ok body
  | .done (some response) answer => ∃ endpointCode, answer = kind.answer endpointCode response
  | _ => True

structure Chained (B : SessionBuiltins) (kind : SessionKind) (canonical : String) (initial : SessionBundle)
    (s : HttpSession) : Prop where
  settled : ∀ error ∈ s.settled, error = none
  behind : s.settled.length ≤ s.queue.length
  effect : Effect B canonical initial (s.queue.take s.settled.length) s.bundle
  dirty : s.dirty = decide (s.settled ≠ [])
  closed : s.closed = s.closing.isSome
  answered : ∀ exchange ∈ s.exchanges, exchange.Answered kind
  written : ∀ result, s.closeResult = some result → ∃ n m, s.closing = some n ∧ n ≤ m ∧ m ≤ s.queue.length ∧
    Written B canonical initial (s.queue.take m) result

theorem Chained.getLast (chained : Chained B kind canonical initial s) (n : Nat) :
    (s.settled.take n).getLast?.join = none := by
  cases last : (s.settled.take n).getLast? with
  | none => rfl
  | some error => exact chained.settled error (List.mem_of_mem_take (List.mem_of_getLast? last))

theorem Chained.through (chained : Chained B kind canonical initial s) {n : Nat} {error : Option JsError}
    (through : s.through n = some error) : error = none ∧ n ≤ s.settled.length := by
  unfold HttpSession.through at through
  split at through
  · cases through
  · next reached => exact ⟨(Option.some.inj through).symm.trans (chained.getLast n), Nat.le_of_not_lt reached⟩

/-! ## Steps -/

theorem Chained.queued (chained : Chained B kind canonical initial s) (more : List Update) {exchanges : List Exchange}
    (answered : ∀ exchange ∈ exchanges, exchange.Answered kind) :
    Chained B kind canonical initial { s with queue := s.queue ++ more, exchanges } where
  settled := chained.settled
  behind := by
    rw [List.length_append]
    exact chained.behind.trans (Nat.le_add_right _ _)
  effect := by
    rw [List.take_append_of_le_length chained.behind]
    exact chained.effect
  dirty := chained.dirty
  closed := chained.closed
  answered
  written result known := by
    obtain ⟨n, m, closing, le, bound, written⟩ := chained.written result known
    refine ⟨n, m, closing, le, ?_, ?_⟩
    · rw [List.length_append]
      exact bound.trans (Nat.le_add_right _ _)
    · rw [List.take_append_of_le_length bound]
      exact written

theorem Chained.exchanged (chained : Chained B kind canonical initial s) {exchanges : List Exchange}
    (answered : ∀ exchange ∈ exchanges, exchange.Answered kind) :
    Chained B kind canonical initial { s with exchanges } := by
  have same := chained.queued [] answered
  rwa [List.append_nil] at same

theorem Chained.set (chained : Chained B kind canonical initial s) (i : Nat) {exchange : Exchange}
    (answered : exchange.Answered kind) : ∀ other ∈ s.exchanges.set i exchange, other.Answered kind := by
  intro other mem
  rcases List.mem_or_eq_of_mem_set mem with old | rfl
  · exact chained.answered other old
  · exact answered

theorem Chained.drain (chained : Chained B kind canonical initial s) (clock : Instant × Instant)
    (applicable : Applicable B canonical s (.drain clock)) :
    Chained B kind canonical initial (s.drain B canonical clock) := by
  unfold HttpSession.drain
  have last : s.settled.getLast?.join = none := by
    have all := chained.getLast s.settled.length
    rwa [List.take_length] at all
  rw [last]
  cases next : s.queue[s.settled.length]? with
  | none => exact chained
  | some update =>
    obtain ⟨bundle, applied⟩ := applicable update next
    have bound := (List.getElem?_eq_some_iff.mp next).1
    simp only [applied]
    exact
      { settled := fun error mem => by
          rcases mem_concat.mp mem with old | new
          · exact chained.settled error old
          · exact new
        behind := by
          rw [List.length_append]
          exact bound
        effect := by
          rw [List.length_append, List.length_singleton, List.take_add_one, next]
          exact chained.effect.snoc update clock applied
        dirty := by simp
        closed := chained.closed
        answered := chained.answered
        written := chained.written }

theorem Chained.goOn (chained : Chained B kind canonical initial s) (i : Nat) :
    Chained B kind canonical initial (s.goOn kind i) := by
  unfold HttpSession.goOn
  split
  · next endpointCode response updates found =>
    split
    · exact chained
    · next e through => cases (chained.through through).1
    · split
      · next e answer => exact chained.exchanged (chained.set i ⟨endpointCode, answer.symm⟩)
      · next body answer => exact chained.queued [.verified] (chained.set i answer)
  · next endpointCode response body updates found =>
    split
    · exact chained
    · next e through => cases (chained.through through).1
    · have answer : kind.answer endpointCode response = .ok body := chained.answered _ (List.mem_of_getElem? found)
      exact chained.exchanged (chained.set i ⟨endpointCode, answer.symm⟩)
  · exact chained

theorem answered_start (endpointCode : String) (body : Json) (now : Instant) :
    (s.start B kind endpointCode body now).Answered kind := by
  unfold HttpSession.start
  repeat' split
  all_goals trivial

theorem chained_step (s : HttpSession) (event : SessionEvent) (chained : Chained B kind canonical initial s)
    (applicable : Applicable B canonical s event) : Chained B kind canonical initial (s.step B kind canonical event) := by
  cases event with
  | request endpointCode body now =>
    refine chained.exchanged fun exchange mem => ?_
    rcases mem_concat.mp mem with old | new
    · exact chained.answered exchange old
    · exact new ▸ answered_start endpointCode body now
  | respond i response =>
    simp only [HttpSession.step]
    split
    · exact chained.exchanged (chained.set i trivial)
    · split
      · exact chained.exchanged (chained.set i trivial)
      · exact chained.queued _ (chained.set i trivial)
    · exact chained
  | drain clock => exact chained.drain clock applicable
  | goOn i => exact chained.goOn i
  | close =>
    simp only [HttpSession.step]
    split
    · exact chained
    · next isOpen =>
      have unwritten : ∀ result, s.closeResult ≠ some result := fun result known => by
        obtain ⟨n, -, closing, -⟩ := chained.written result known
        rw [chained.closed, closing] at isOpen
        exact isOpen rfl
      exact ⟨chained.settled, chained.behind, chained.effect, chained.dirty, rfl, chained.answered,
        fun result known => absurd known (unwritten result)⟩
  | write =>
    simp only [HttpSession.step]
    split
    · next updates closing unwritten =>
      split
      · exact chained
      · next e through => cases (chained.through through).1
      · next through =>
        have reached := (chained.through through).2
        refine ⟨chained.settled, chained.behind, chained.effect, chained.dirty, chained.closed, chained.answered,
          fun result known => ⟨updates, s.settled.length, closing, reached, chained.behind, ?_⟩⟩
        obtain rfl := Option.some.inj known
        by_cases nothing : s.settled = []
        · exact .inl ⟨by rw [nothing]; rfl, by simp [chained.dirty, nothing]⟩
        · exact .inr ⟨s.bundle, by simp [chained.dirty, nothing], chained.effect⟩
    · exact chained

/-! ## Runs -/

theorem chained_opened (bundle : SessionBundle) : Chained B kind canonical bundle { bundle } where
  settled error mem := by cases mem
  behind := le_rfl
  effect := .nil
  dirty := rfl
  closed := rfl
  answered exchange mem := by cases mem
  written result known := by cases known

theorem chained_run (bundle : SessionBundle)
    (applicable : Along (HttpSession.step B kind canonical) (Applicable B canonical) { bundle } events) :
    Chained B kind canonical bundle (run (HttpSession.step B kind canonical) { bundle } events) :=
  run_invariant_along chained_step (chained_opened bundle) applicable

def HttpSession.receives (s : HttpSession) : SessionEvent → List (List String)
  | .respond i (some response) =>
    match s.exchanges[i]? with
    | some (.fetching _ _) => if response.setCookies = [] then [] else [response.setCookies]
    | _ => []
  | _ => []

/-- The cookies received in a run, in the order of receipt. -/
def received (B : SessionBuiltins) (kind : SessionKind) (canonical : String) : HttpSession → List SessionEvent →
    List (List String)
  | _, [] => []
  | s, event :: events => s.receives event ++ received B kind canonical (s.step B kind canonical event) events

def Update.cookies? : Update → Option (List String)
  | .merge _ values => some values
  | .verified => none

variable (B kind canonical) in
theorem queue_step (s : HttpSession) (event : SessionEvent) : ∃ more,
    (s.step B kind canonical event).queue = s.queue ++ more ∧ more.filterMap Update.cookies? = s.receives event := by
  have kept {next : HttpSession} (same : next.queue = s.queue) : ∃ more, next.queue = s.queue ++ more ∧
      more.filterMap Update.cookies? = [] := ⟨[], by rw [same, List.append_nil], rfl⟩
  cases event with
  | request endpointCode body now => exact kept rfl
  | respond i response =>
    cases response with
    | none =>
      simp only [HttpSession.step]
      split
      · exact kept rfl
      · next same => cases same
      · exact kept rfl
    | some response =>
      simp only [HttpSession.step, HttpSession.receives]
      cases s.exchanges[i]? with
      | none => exact kept rfl
      | some exchange =>
        cases exchange with
        | fetching endpointCode url =>
          by_cases blank : response.setCookies = []
          · simp only [if_pos blank]
            exact kept rfl
          · simp only [if_neg blank]
            exact ⟨[.merge url response.setCookies], rfl, rfl⟩
        | _ => exact kept rfl
  | drain clock =>
    refine kept ?_
    simp only [HttpSession.step, HttpSession.drain]
    repeat' split
    all_goals rfl
  | goOn i =>
    simp only [HttpSession.step, HttpSession.goOn, HttpSession.receives]
    repeat' split
    all_goals first | exact kept rfl | exact ⟨[.verified], rfl, rfl⟩
  | close =>
    refine kept ?_
    simp only [HttpSession.step]
    split <;> rfl
  | write =>
    refine kept ?_
    simp only [HttpSession.step]
    repeat' split
    all_goals rfl

variable (B kind canonical) in
theorem queue_run (s : HttpSession) (events : List SessionEvent) : ∃ more,
    (run (HttpSession.step B kind canonical) s events).queue = s.queue ++ more ∧
      more.filterMap Update.cookies? = received B kind canonical s events := by
  induction events generalizing s with
  | nil => exact ⟨[], (List.append_nil _).symm, rfl⟩
  | cons event events ih =>
    obtain ⟨first, here, cookies⟩ := queue_step B kind canonical s event
    obtain ⟨later, there, others⟩ := ih (s.step B kind canonical event)
    refine ⟨first ++ later, by rw [run_cons, there, here, List.append_assoc], ?_⟩
    rw [List.filterMap_append, cookies, others, received]

variable (B kind canonical) in
theorem closing_step (s : HttpSession) (event : SessionEvent) : (s.step B kind canonical event).closing = s.closing ∨
      event = .close ∧ (s.step B kind canonical event).closing = some s.queue.length := by
  cases event with
  | close =>
    simp only [HttpSession.step]
    split
    · exact .inl rfl
    · exact .inr ⟨trivial, rfl⟩
  | request endpointCode body now => exact .inl rfl
  | _ =>
    left
    simp only [HttpSession.step, HttpSession.drain, HttpSession.goOn]
    repeat' split
    all_goals rfl

/-- What `close` awaits was queued when it was called. -/
theorem closing_run (bundle : SessionBundle) {n : Nat} (events : List SessionEvent)
    (closing : (run (HttpSession.step B kind canonical) { bundle } events).closing = some n) :
    ∃ before after, events = before ++ .close :: after ∧
      n = (run (HttpSession.step B kind canonical) { bundle } before).queue.length := by
  induction events using List.reverseRecOn with
  | nil => cases closing
  | append_singleton events event ih =>
    rw [run_concat] at closing
    rcases closing_step B kind canonical _ event with same | ⟨rfl, here⟩
    · obtain ⟨before, after, rfl, length⟩ := ih (same.symm.trans closing)
      exact ⟨before, after ++ [event], by simp, length⟩
    · exact ⟨events, [], rfl, Option.mem_unique closing here⟩

theorem answer_expired {response : HttpResponse} (expired : response.status ∈ expiredStatuses) (endpointCode : String) :
    kind.answer endpointCode response = .error (kind.error "AUTH_EXPIRED") := by
  simp [SessionKind.answer, refuse, expired, bind, Except.bind]

/-- **The cookies of a session**, in every run in which each update can be applied when its turn comes: each response is
answered by its status and its body, with the code of an expired session where its status is one of these; and `close`
does not fail, and writes the bundle that was read with the effect of all cookies received before it was called, in the
order of receipt (and of what was received meanwhile). -/
theorem httpSession_law (B : SessionBuiltins) (kind : SessionKind) (canonical : String) (bundle : SessionBundle)
    (events : List SessionEvent)
    (applicable : Along (HttpSession.step B kind canonical) (Applicable B canonical) { bundle } events) :
    let s := run (HttpSession.step B kind canonical) { bundle } events
    (∀ (i : Nat) (response : HttpResponse) (answer : Except JsError Json), s.exchanges[i]? =
        some (.done (some response) answer) →
      (∃ endpointCode, answer = kind.answer endpointCode response) ∧
        (response.status ∈ expiredStatuses → answer = .error (kind.error "AUTH_EXPIRED"))) ∧
    ∀ result, s.closeResult = some result → ∃ before after queued meanwhile,
      events = before ++ .close :: after ∧
      queued.filterMap Update.cookies? = received B kind canonical { bundle } before ∧
      Written B canonical bundle (queued ++ meanwhile) result := by
  intro s
  have chained := chained_run bundle applicable
  refine ⟨fun i response answer found => ?_, fun result known => ?_⟩
  · obtain ⟨endpointCode, answered⟩ := chained.answered _ (List.mem_of_getElem? found)
    exact ⟨⟨endpointCode, answered⟩, fun expired => answered.trans (answer_expired expired endpointCode)⟩
  · obtain ⟨n, m, closing, le, -, written⟩ := chained.written result known
    obtain ⟨before, after, rfl, rfl⟩ := closing_run bundle events closing
    obtain ⟨queued, first, cookies⟩ := queue_run B kind canonical { bundle } before
    obtain ⟨later, whole, -⟩ := queue_run B kind canonical
      (run (HttpSession.step B kind canonical) { bundle } before) (.close :: after)
    refine ⟨before, after, queued, later.take (m - queued.length), rfl, cookies, ?_⟩
    rw [List.nil_append] at first
    rw [run_append, whole, first] at written
    rw [first] at le
    rwa [List.take_append, List.take_of_length_le le] at written

/-! ## Two responses -/

def homeKind : SessionKind := fullHomeKind (fun _ => some homeUrl) (fun _ _ => .ok .null) 1000

def rotation : HttpResponse := ⟨200, ["token=new; Domain=.geiwohuo.com; Path=/"], some "\x7b\x7d"⟩

def rotationRun : List SessionEvent :=
  [.request "UPDATE_TIME" .null 100000, .respond 0 (some rotation), .drain (100000, 100000), .close, .write]

theorem applicable_rotation : Along (HttpSession.step asciiBuiltins homeKind "CX4412")
    (Applicable asciiBuiltins "CX4412") { bundle := exportedSession oldToken } rotationRun := by
  refine ⟨trivial, trivial, fun update next => ⟨{ exportedSession oldToken with
    updatedAt := some 100000
    cookies := some [{ oldToken with value := "new", secure := false, order := some 0 }] }, ?_⟩, trivial, trivial, trivial⟩
  obtain rfl : Update.merge homeUrl rotation.setCookies = update := Option.some.inj next
  decide +kernel

theorem httpSession_rotation : ∃ result,
    (run (HttpSession.step asciiBuiltins homeKind "CX4412") { bundle := exportedSession oldToken } rotationRun).closeResult =
      some result ∧ ∃ before after queued meanwhile,
        rotationRun = before ++ .close :: after ∧
        queued.filterMap Update.cookies? =
          received asciiBuiltins homeKind "CX4412" { bundle := exportedSession oldToken } before ∧
        Written asciiBuiltins "CX4412" (exportedSession oldToken) (queued ++ meanwhile) result := by
  have closed : (run (HttpSession.step asciiBuiltins homeKind "CX4412") { bundle := exportedSession oldToken }
    rotationRun).closeResult.isSome = true := by decide +kernel
  obtain ⟨result, known⟩ := Option.isSome_iff_exists.mp closed
  have law := httpSession_law asciiBuiltins homeKind "CX4412" (exportedSession oldToken) rotationRun applicable_rotation
  exact ⟨result, known, law.2 result known⟩

def Exchange.errorCode? : Exchange → Option String
  | .done _ (.error e) => e.code
  | _ => none

def badName : HttpResponse := ⟨401, ["to(ken=1; Path=/"], none⟩

/-- The first response has a cookie with an invalid name and the status 401. Its call fails with the code of the cookie, and
so do the call that receives a rotation after it, and `close`, which writes nothing. -/
theorem mergeFailure_lost :
    let s := run (HttpSession.step asciiBuiltins homeKind "CX4412") { bundle := exportedSession oldToken }
      [.request "UPDATE_TIME" .null 100000, .request "UPDATE_TIME" .null 100000, .respond 0 (some badName),
        .drain (100000, 100000), .goOn 0, .respond 1 (some rotation), .drain (100000, 100000), .goOn 1, .close, .write]
    s.exchanges.map Exchange.errorCode? =
        [some "WEBAPI_SESSION_COOKIE_INVALID", some "WEBAPI_SESSION_COOKIE_INVALID"] ∧
      s.closeResult = some (.error (refused "WEBAPI_SESSION_COOKIE_INVALID")) ∧
      (homeKind.error "AUTH_EXPIRED").code ≠ some "WEBAPI_SESSION_COOKIE_INVALID" ∧
      (mergeSetCookieHeaders asciiBuiltins s.bundle homeUrl rotation.setCookies 100000).isOk := by
  decide +kernel

end FullManagedBi.WebapiSession
