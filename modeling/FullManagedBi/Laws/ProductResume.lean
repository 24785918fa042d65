import FullManagedBi.Laws.FetchAudit
import FullManagedBi.WebapiHistory.HistoryRun
import FullManagedBi.Lib.Run

/-!
# When a skipped product date is complete

A later run skips a product date as soon as one of its pages was audited `SUCCEEDED`. The date is
complete when some walk over its pages reached the last page that may hold sales. The two agree
exactly as far as walks do not break off after a success: `NoBreakAfterSuccess` is that condition on
the replies of a walk, and `productResume_complete` is the result over every sequence of runs.

The invariant is `ResumeInv`: a `SUCCEEDED` row of a product date means a complete walk in the trace,
and so did every date skipped so far when it was skipped.
-/

namespace FullManagedBi.WebapiHistory

open Lib

/-! ## Complete dates -/

/-- The events of a walk that read, stored and audited the pages from a page number on. -/
def pageEvents (day : ProductDate) : Nat → List ProductPage → List SyncEvent
  | _, [] => []
  | pageNum, page :: rest =>
    .productsUpserted day.storeCode day.businessDate pageNum page :: .fetched day.site none ::
      pageEvents day (pageNum + 1) rest

/-- **A complete date**: one walk fetched and stored its pages from the first to one that cannot be
followed by a page with sales. -/
def CompleteDate (trace : List SyncEvent) (storeCode : String) (businessDate : BusinessDate) : Prop :=
  ∃ day : ProductDate, day.storeCode = storeCode ∧ day.businessDate = businessDate ∧
    ∃ pre pages last post, trace = pre ++ pageEvents day 1 (pages ++ [last]) ++ post ∧
      ¬ last.MayContinue (pages.length + 1)

theorem CompleteDate.mono {trace trace' : List SyncEvent} {storeCode : String}
    {businessDate : BusinessDate} (h : CompleteDate trace storeCode businessDate)
    (grows : trace <+: trace') : CompleteDate trace' storeCode businessDate := by
  obtain ⟨day, store, date, pre, pages, last, post, rfl, ended⟩ := h
  obtain ⟨more, rfl⟩ := grows
  exact ⟨day, store, date, pre, pages, last, post ++ more, (List.append_assoc ..), ended⟩

theorem pageEvents_concat (day : ProductDate) (pageNum : Nat) (pages : List ProductPage) (last : ProductPage) :
    pageEvents day pageNum (pages ++ [last]) = pageEvents day pageNum pages ++
      [.productsUpserted day.storeCode day.businessDate (pageNum + pages.length) last,
        .fetched day.site none] := by
  induction pages generalizing pageNum with
  | nil => rfl
  | cons page pages ih =>
    rw [List.cons_append, pageEvents, ih, pageEvents, List.length_cons,
      show pageNum + 1 + pages.length = pageNum + (pages.length + 1) by omega]
    rfl

def NoSkip (events : List SyncEvent) : Prop :=
  ∀ storeCode businessDate, SyncEvent.productSkipped storeCode businessDate ∉ events

theorem NoSkip.append {events events' : List SyncEvent} (h : NoSkip events) (h' : NoSkip events') :
    NoSkip (events ++ events') := by
  intro store date mem
  exact (List.mem_append.mp mem).elim (h store date) (h' store date)

theorem noSkip_pageEvents (day : ProductDate) (pageNum : Nat) (pages : List ProductPage) :
    NoSkip (pageEvents day pageNum pages) := by
  induction pages generalizing pageNum with
  | nil => exact fun _ _ => List.not_mem_nil
  | cons page pages ih =>
    intro store date mem
    simp only [pageEvents, List.mem_cons, reduceCtorEq, false_or] at mem
    exact ih (pageNum + 1) store date mem

theorem noSkip_closingEvent {π : Type} (site : FetchSite) (r : Except Thrown (FetchResult π)) :
    NoSkip (closingEvent site r) := by
  cases r <;> intro store date mem <;> simp [closingEvent] at mem

/-! ## The invariant -/

/-- **The resume invariant**: a success of a product date means a complete walk, and every skipped
date was complete when it was skipped. -/
structure ResumeInv (s : SyncState) : Prop where
  audits : ∀ row ∈ s.fetchAudits, row.fetchKey.endpointCode = .productDiagnoseList →
    row.resultStatus = .succeeded →
      CompleteDate s.trace row.fetchKey.storeCode row.fetchKey.requestedStartDate
  skips : ∀ pre storeCode businessDate post,
    s.trace = pre ++ .productSkipped storeCode businessDate :: post →
      CompleteDate pre storeCode businessDate

/-- The trace grows and the invariant is kept. -/
structure Resumes (s s' : SyncState) : Prop where
  grows : s.trace <+: s'.trace
  keeps : ResumeInv s → ResumeInv s'

instance : Std.Refl Resumes := ⟨fun _ => ⟨List.prefix_rfl, id⟩⟩

instance : IsTrans SyncState Resumes :=
  ⟨fun _ _ _ h h' => ⟨h.grows.trans h'.grows, h'.keeps ∘ h.keeps⟩⟩

/-- A skip in a trace that grew by `events` was there before, or is among them. -/
theorem skip_of_append {trace events pre post : List SyncEvent} {e : SyncEvent}
    (h : trace ++ events = pre ++ e :: post) (mem : e ∉ events) : ∃ post', trace = pre ++ e :: post' := by
  rcases List.append_eq_append_iff.mp h with ⟨more, rfl, eq⟩ | ⟨more, rfl, eq⟩
  · exact absurd (by rw [eq]; exact List.mem_append_right _ List.mem_cons_self) mem
  · cases more with
    | nil =>
      rw [List.nil_append] at eq
      exact absurd (by rw [← eq]; exact List.mem_cons_self) mem
    | cons first rest =>
      rw [List.cons_append, List.cons.injEq] at eq
      obtain ⟨rfl, -⟩ := eq
      exact ⟨rest, rfl⟩

/-- Events without a skip, and rows whose success means a complete date, keep the invariant. -/
theorem resumes_of_grow {s s' : SyncState} {events : List SyncEvent} {added : List FetchAudit}
    (trace : s'.trace = s.trace ++ events) (noSkip : NoSkip events) (audits : s'.fetchAudits = s.fetchAudits ++ added)
    (complete : ∀ row ∈ added, row.fetchKey.endpointCode = .productDiagnoseList →
      row.resultStatus = .succeeded → CompleteDate s'.trace row.fetchKey.storeCode row.fetchKey.requestedStartDate) :
    Resumes s s' := by
  have grows : s.trace <+: s'.trace := ⟨events, trace.symm⟩
  refine ⟨grows, fun inv => ⟨fun row mem product success => ?_, fun pre store date post split => ?_⟩⟩
  · rw [audits] at mem
    rcases List.mem_append.mp mem with old | new
    · exact (inv.audits row old product success).mono grows
    · exact complete row new product success
  · rw [trace] at split
    obtain ⟨post', split'⟩ := skip_of_append split (noSkip store date)
    exact inv.skips pre store date post' split'

/-! ## Fetches of the other endpoints -/

def Quiet {α : Type} (m : Sync α) : Prop := Respects (fun s s' => s' = s) m

instance : Std.Refl fun s s' : SyncState => s' = s := ⟨fun _ => rfl⟩

instance : IsTrans SyncState fun s s' : SyncState => s' = s := ⟨fun _ _ _ h h' => h'.trans h⟩

theorem quiet_handled {β π : Type} {accepted : β → Nat} {payload : β → π} (body : β) :
    Quiet (handled accepted payload body) := Respects.pure

section Fetch

variable {β π : Type} {js : TextBuiltins} {site : FetchSite} {key : FetchKey} {reply : Reply β}
  {handle : β → Sync (Handled π)}

theorem quietFetch_ends (quiet : ∀ body, Quiet (handle body)) (s : SyncState) :
    Ends (requestAndAudit js site key reply handle) s fun r s' =>
      s'.trace = s.trace ++ closingEvent site r ∧ AuditsGrow key True s s' := by
  have handles : Ends (MonadExcept.ofExcept reply.body >>= handle) s fun _ s₁ => s₁ = s :=
    Respects.bind Respects.ofExcept quiet s
  refine (requestAndAudit_ends (K := fun _ trace => trace = s.trace)
    (handles.mono fun r s₁ eq => ⟨by rw [eq], by rw [eq]⟩)).mono ?_
  rintro r s' ⟨inner, mid, rfl, -, trace, added, audits, rows⟩
  exact ⟨trace, added, audits, fun row mem => ⟨(rows row mem).1, fun _ => trivial⟩⟩

theorem quietFetch_resumes (quiet : ∀ body, Quiet (handle body)) (other : key.endpointCode ≠ .productDiagnoseList) :
    Respects Resumes (requestAndAudit js site key reply handle) := by
  intro s
  refine (quietFetch_ends quiet s).mono ?_
  rintro r s' ⟨trace, added, audits, rows⟩
  refine resumes_of_grow trace (noSkip_closingEvent site r) audits fun row mem product _ => ?_
  exact absurd ((rows row mem).1 ▸ product) other

end Fetch

/-! ## One page -/

/-- What transport, parser and `upsertProducts` make of the reply to a page request. -/
def ProductReply.stored (reply : ProductReply) (day : ProductDate) : Option ProductPage :=
  match reply.body with
  | .error _ => none
  | .ok body =>
    match parseProductDiagnosePage body day.storeCode day.businessDate reply.observedAt with
    | .error _ => none
    | .ok page => if page.rows = [] ∨ reply.upserted.throws = none then some page else none

/-- The page is stored and its audit returns: the fetch ends with `ok: true`. -/
def ProductReply.Returns (reply : ProductReply) (day : ProductDate) (page : ProductPage) : Prop :=
  reply.stored day = some page ∧ reply.audited.throws = none

/-- The reply leaves a `SUCCEEDED` row: the page is stored without a rejected row, and its audit
commits. -/
def ProductReply.AuditedSucceeded (reply : ProductReply) (day : ProductDate) : Prop :=
  ∃ page, reply.stored day = some page ∧ page.rejectedRowCount = 0 ∧ reply.audited.commits = true

/-- Nothing but stored pages is among the events. -/
def OnlyUpserts (events : List SyncEvent) : Prop :=
  ∀ e ∈ events, ∃ store date pageNum page, e = .productsUpserted store date pageNum page

theorem OnlyUpserts.noSkip {events : List SyncEvent} (h : OnlyUpserts events) : NoSkip events := by
  intro store date mem
  obtain ⟨_, _, _, _, eq⟩ := h _ mem
  exact nomatch eq

theorem handleProductPage_ends (day : ProductDate) (reply : ProductReply) (pageNum : Nat) (s : SyncState) :
    Ends (MonadExcept.ofExcept reply.body >>= handleProductPage day reply pageNum) s fun r s₁ =>
      s₁.fetchAudits = s.fetchAudits ∧
        match r with
        | .ok out => reply.stored day = some out.payload ∧
            out.rejected = out.payload.rejectedRowCount ∧
            s₁.trace = s.trace ++ [.productsUpserted day.storeCode day.businessDate pageNum out.payload]
        | .error _ => reply.stored day = none ∧
            ∃ events, OnlyUpserts events ∧ s₁.trace = s.trace ++ events := by
  have nothing : ∃ events, OnlyUpserts events ∧ s.trace = s.trace ++ events :=
    ⟨[], fun _ mem => absurd mem List.not_mem_nil, (List.append_nil _).symm⟩
  rw [ends_bind, ends_ofExcept]
  unfold ProductReply.stored handleProductPage
  cases reply.body with
  | error e => exact ⟨rfl, rfl, nothing⟩
  | ok body =>
    rw [post_ok, ends_bind, ends_ofExcept]
    simp only
    cases parseProductDiagnosePage body day.storeCode day.businessDate reply.observedAt with
    | error e => exact ⟨rfl, rfl, nothing⟩
    | ok page =>
      rw [post_ok, ends_bind]
      unfold upsertProducts
      by_cases empty : page.rows = []
      · simp only [empty, true_or, ↓reduceIte]
        exact ⟨rfl, rfl, rfl, rfl⟩
      · simp only [empty, false_or]
        cases reply.upserted with
        | done => exact ⟨rfl, rfl, rfl, rfl⟩
        | lost e =>
          refine ends_bind.mpr ⟨rfl, rfl, _, fun e mem => ?_, rfl⟩
          exact ⟨_, _, _, _, List.mem_singleton.mp mem⟩
        | failed e => exact ⟨rfl, rfl, nothing⟩

/-- **What the fetch of one page does**: it returns the page exactly when the reply does, and leaves a
success only when the reply does. -/
theorem syncProductPage_ends (js : TextBuiltins) (day : ProductDate) (reply : ProductReply)
    (pageNum : Nat) (s : SyncState) : Ends (syncProductPage js day reply pageNum) s fun r s' =>
      (∃ added, s'.fetchAudits = s.fetchAudits ++ added ∧ ∀ row ∈ added,
        row.fetchKey.storeCode = day.storeCode ∧
          row.fetchKey.requestedStartDate = day.businessDate ∧
          (row.resultStatus = .succeeded → reply.AuditedSucceeded day)) ∧
      match r with
      | .ok (.done _ _ _ page) => reply.Returns day page ∧
          s'.trace = s.trace ++ pageEvents day pageNum [page]
      | _ => (∀ page, ¬ reply.Returns day page) ∧
          ∃ events, NoSkip events ∧ s'.trace = s.trace ++ events := by
  refine (requestAndAudit_ends (K := fun r trace => match r with
    | .ok out => reply.stored day = some out.payload ∧
        out.rejected = out.payload.rejectedRowCount ∧
        trace = s.trace ++ [.productsUpserted day.storeCode day.businessDate pageNum out.payload]
    | .error _ => reply.stored day = none ∧
        ∃ events, OnlyUpserts events ∧ trace = s.trace ++ events)
    (handleProductPage_ends day reply pageNum s)).mono ?_
  rintro r s' ⟨inner, mid, known, ends, trace, added, audits, rows⟩
  refine ⟨⟨added, audits, fun row mem => ?_⟩, ?_⟩
  · obtain ⟨key, success⟩ := rows row mem
    refine ⟨by rw [key], by rw [key], fun status => ?_⟩
    obtain ⟨out, rfl, rejected, committed⟩ := success status
    exact ⟨out.payload, known.1, known.2.1 ▸ rejected, committed⟩
  · -- a fetch that does not return the output means a reply that does not return a page
    have broken : (∀ out, inner = .ok out → reply.audited.throws ≠ none) →
        (∀ page, ¬ reply.Returns day page) ∧
          ∃ events, NoSkip events ∧ s'.trace = s.trace ++ events := by
      intro broke
      cases inner with
      | error e =>
        obtain ⟨unstored, events, upserts, rfl⟩ := known
        exact ⟨fun page returns => (nomatch unstored.symm.trans returns.1),
          events ++ closingEvent day.site r, upserts.noSkip.append (noSkip_closingEvent _ r),
          by rw [trace, List.append_assoc]⟩
      | ok out =>
        obtain ⟨-, -, rfl⟩ := known
        refine ⟨fun page returns => broke out rfl returns.2, _ :: closingEvent day.site r,
          fun store date mem => ?_, by rw [trace, List.append_assoc]; rfl⟩
        rcases List.mem_cons.mp mem with eq | mem
        · exact nomatch eq
        · exact noSkip_closingEvent _ r store date mem
    match r with
    | .ok (.done accepted rejected total page) =>
      obtain ⟨none, out, rfl, -, -, rfl⟩ := ends
      obtain ⟨stored, -, rfl⟩ := known
      exact ⟨⟨stored, none⟩, by rw [trace, List.append_assoc]; rfl⟩
    | .ok (.failed code) => exact broken ends
    | .error e => exact broken ends

/-! ## The walk over the pages of a date -/

/-- The first `n` pages each return a page that may be followed by one with sales. -/
def Continue (day : ProductDate) (replies : Nat → ProductReply) (n : Nat) : Prop :=
  ∀ p, 1 ≤ p → p ≤ n → ∃ page, (replies p).Returns day page ∧ page.MayContinue p

/-- **A walk does not break off after a success**: where a page does not return after pages that may
continue, neither it nor they left a `SUCCEEDED` row, and no walk with a success reaches the last page
a request can be built for. -/
structure NoBreakAfterSuccess (day : ProductDate) (replies : Nat → ProductReply) : Prop where
  page : ∀ n, n < productPageLimit → Continue day replies n →
    (∀ page, ¬ (replies (n + 1)).Returns day page) →
    ∀ p, 1 ≤ p → p ≤ n + 1 → ¬ (replies p).AuditedSucceeded day
  limit : Continue day replies productPageLimit →
    ∀ p, 1 ≤ p → p ≤ productPageLimit → ¬ (replies p).AuditedSucceeded day

/-- The rows a walk added to the audit table: they are of its day, and a success among them was left
by one of the first `n` replies. -/
def WalkAudits (day : ProductDate) (replies : Nat → ProductReply) (n : Nat) (s s' : SyncState) :
    Prop :=
  ∃ added, s'.fetchAudits = s.fetchAudits ++ added ∧ ∀ row ∈ added,
    row.fetchKey.storeCode = day.storeCode ∧ row.fetchKey.requestedStartDate = day.businessDate ∧
      (row.resultStatus = .succeeded → ∃ p, 1 ≤ p ∧ p ≤ n ∧ (replies p).AuditedSucceeded day)

/-- Where a walk stands: it read the pages `read`, each of which may continue. -/
structure Walk (day : ProductDate) (replies : Nat → ProductReply) (s s' : SyncState)
    (read : List ProductPage) : Prop where
  trace : s'.trace = s.trace ++ pageEvents day 1 read
  audits : WalkAudits day replies read.length s s'
  continues : Continue day replies read.length

/-- How a walk ends: it completed the date, or it added no success and skipped nothing. -/
def WalkEnd (day : ProductDate) (replies : Nat → ProductReply) (s : SyncState) :
    Except Thrown ProductDateResult → SyncState → Prop
  | .ok (.done ..), s' =>
    (∃ pages last, s'.trace = s.trace ++ pageEvents day 1 (pages ++ [last]) ∧
      ¬ last.MayContinue (pages.length + 1)) ∧ ∃ n, WalkAudits day replies n s s'
  | _, s' => (∃ events, NoSkip events ∧ s'.trace = s.trace ++ events) ∧ WalkAudits day replies 0 s s'

variable {day : ProductDate} {replies : Nat → ProductReply}

/-- Rows none of which is a success of the first `n` replies are rows without a success. -/
theorem WalkAudits.of_none {n : Nat} {s s' : SyncState} (h : WalkAudits day replies n s s')
    (none : ∀ p, 1 ≤ p → p ≤ n → ¬ (replies p).AuditedSucceeded day) : WalkAudits day replies 0 s s' := by
  obtain ⟨added, audits, rows⟩ := h
  refine ⟨added, audits, fun row mem => ⟨(rows row mem).1, (rows row mem).2.1, fun success => ?_⟩⟩
  obtain ⟨p, pos, le, left⟩ := (rows row mem).2.2 success
  exact absurd left (none p pos le)

theorem WalkAudits.next {n : Nat} {s s₁ s' : SyncState} (h : WalkAudits day replies n s s₁)
    (page : ∃ added, s'.fetchAudits = s₁.fetchAudits ++ added ∧ ∀ row ∈ added,
      row.fetchKey.storeCode = day.storeCode ∧ row.fetchKey.requestedStartDate = day.businessDate ∧
        (row.resultStatus = .succeeded → (replies (n + 1)).AuditedSucceeded day)) :
    WalkAudits day replies (n + 1) s s' := by
  obtain ⟨added, audits, rows⟩ := h
  obtain ⟨added', audits', rows'⟩ := page
  refine ⟨added ++ added', by rw [audits', audits, List.append_assoc], fun row mem => ?_⟩
  rcases List.mem_append.mp mem with old | new
  · obtain ⟨store, date, success⟩ := rows row old
    refine ⟨store, date, fun status => ?_⟩
    obtain ⟨p, pos, le, left⟩ := success status
    exact ⟨p, pos, by omega, left⟩
  · obtain ⟨store, date, success⟩ := rows' row new
    exact ⟨store, date, fun status => ⟨n + 1, by omega, le_rfl, success status⟩⟩

variable {s : SyncState}

/-- **The loop of a walk**, by induction on the pages the request builder still admits. -/
theorem syncProductPages_ends {js : TextBuiltins} (unbroken : NoBreakAfterSuccess day replies)
    (pagesLeft : Nat) (totals : ProductTotals) (read : List ProductPage) (s₁ : SyncState)
    (walk : Walk day replies s s₁ read) (left : pagesLeft + read.length = productPageLimit) :
    Ends (syncProductPages js day replies pagesLeft (read.length + 1) totals) s₁ (WalkEnd day replies s) := by
  induction pagesLeft generalizing totals read s₁ with
  | zero =>
    have all : read.length = productPageLimit := by omega
    refine ⟨⟨_, noSkip_pageEvents day 1 read, walk.trace⟩, walk.audits.of_none fun p pos le => ?_⟩
    exact unbroken.limit (all ▸ walk.continues) p pos (all ▸ le)
  | succ pagesLeft ih =>
    rw [syncProductPages, ends_bind]
    refine (syncProductPage_ends js day (replies (read.length + 1)) (read.length + 1) s₁).mono ?_
    rintro r s₂ ⟨page, result⟩
    have audits := walk.audits.next page
    -- the page did not return: by the condition, no page of the walk left a success
    have broken : (∀ page, ¬ (replies (read.length + 1)).Returns day page) →
        (∃ events, NoSkip events ∧ s₂.trace = s₁.trace ++ events) →
        (∃ events, NoSkip events ∧ s₂.trace = s.trace ++ events) ∧
          WalkAudits day replies 0 s s₂ := by
      rintro fails ⟨events, noSkip, trace⟩
      refine ⟨⟨_, (noSkip_pageEvents day 1 read).append noSkip, ?_⟩, audits.of_none ?_⟩
      · rw [trace, walk.trace, List.append_assoc]
      · exact unbroken.page read.length (by omega) walk.continues fails
    match r with
    | .error e => exact broken result.1 result.2
    | .ok (.failed code) => exact broken result.1 result.2
    | .ok (.done accepted rejected total page) =>
      obtain ⟨returns, trace⟩ := result
      have trace' : s₂.trace = s.trace ++ pageEvents day 1 (read ++ [page]) := by
        rw [trace, walk.trace, pageEvents_concat, List.append_assoc, Nat.add_comm 1 read.length]
        rfl
      rw [post_ok]
      dsimp only
      by_cases more : page.MayContinue (read.length + 1)
      · rw [if_pos more]
        have next : Walk day replies s s₂ (read ++ [page]) := by
          refine ⟨trace', by rw [List.length_append]; exact audits, fun p pos le => ?_⟩
          rw [List.length_append, List.length_singleton] at le
          rcases Nat.lt_or_ge read.length p with gt | le'
          · obtain rfl : p = read.length + 1 := by omega
            exact ⟨page, returns, more⟩
          · exact walk.continues p pos le'
        have := ih ⟨totals.accepted + accepted, totals.rejected + rejected,
          totals.sourceRows + page.sourceRowCount⟩ (read ++ [page]) s₂ next
          (by rw [List.length_append, List.length_singleton]; omega)
        rwa [List.length_append, List.length_singleton] at this
      · rw [if_neg more]
        exact ⟨⟨read, page, trace', more⟩, _, audits⟩

/-- A walk keeps the invariant, and a date it is done with is complete. -/
theorem syncProductDate_ends {js : TextBuiltins} (unbroken : NoBreakAfterSuccess day replies) (s : SyncState) :
    Ends (syncProductDate js day replies) s fun r s' => Resumes s s' ∧
      (∀ a b c d e, r = .ok (.done a b c d e) → CompleteDate s'.trace day.storeCode day.businessDate) := by
  have start : Walk day replies s s [] :=
    ⟨(List.append_nil _).symm,
      ⟨[], (List.append_nil _).symm, fun _ mem => absurd mem List.not_mem_nil⟩,
      fun p pos le => by rw [List.length_nil] at le; omega⟩
  refine (syncProductPages_ends unbroken productPageLimit {} [] s start (Nat.add_zero _)).mono ?_
  intro r s' ends
  have unfinished : (∃ events, NoSkip events ∧ s'.trace = s.trace ++ events) →
      WalkAudits day replies 0 s s' → Resumes s s' := by
    rintro ⟨events, noSkip, trace⟩ ⟨added, audits, rows⟩
    refine resumes_of_grow trace noSkip audits fun row mem _ success => ?_
    obtain ⟨p, pos, le, -⟩ := (rows row mem).2.2 success
    omega
  match r with
  | .error e => exact ⟨unfinished ends.1 ends.2, nofun⟩
  | .ok (.failed ..) => exact ⟨unfinished ends.1 ends.2, nofun⟩
  | .ok (.done ..) =>
    obtain ⟨⟨pages, last, trace, ended⟩, n, added, audits, rows⟩ := ends
    have complete : CompleteDate s'.trace day.storeCode day.businessDate :=
      ⟨day, rfl, rfl, s.trace, pages, last, [], by rw [trace, List.append_nil], ended⟩
    refine ⟨resumes_of_grow trace (noSkip_pageEvents _ _ _) audits fun row mem _ _ => ?_,
      fun _ _ _ _ _ _ => complete⟩
    obtain ⟨store, date, -⟩ := rows row mem
    rwa [store, date]

/-! ## The other parts of a store sync -/

theorem syncRealtimeDay_resumes (js : TextBuiltins) (env : AttemptEnv) (storeCode : String)
    (businessDate : BusinessDate) : Respects Resumes (syncRealtimeDay js env storeCode businessDate) := by
  refine .bind (quietFetch_resumes quiet_handled nofun) fun anchorResult => ?_
  cases anchorResult with
  | failed code => exact .pure
  | done _ _ _ anchor =>
    dsimp only
    split
    · exact .pure
    · exact .bind (quietFetch_resumes quiet_handled nofun) fun _ =>
        .bind (quietFetch_resumes quiet_handled nofun) fun _ => .pure

theorem resolveDataAnchor_resumes (js : TextBuiltins) (env : AttemptEnv) (storeCode : String)
    (requestedEndDate : BusinessDate) : Respects Resumes (resolveDataAnchor js env storeCode requestedEndDate) := by
  refine .bind (quietFetch_resumes quiet_handled nofun) fun result => ?_
  cases result with
  | failed code => exact .throw
  | done => exact .pure

variable (cx : WindowContext)

theorem syncStoreDaily_resumes : Respects Resumes (syncStoreDaily cx) :=
  quietFetch_resumes quiet_handled nofun

theorem searchShopPages_resumes (pagesLeft pageNum sourceRows : Nat) :
    Respects Resumes (searchShopPages cx pagesLeft pageNum sourceRows) := by
  induction pagesLeft generalizing pageNum sourceRows with
  | zero => exact .throw
  | succ pagesLeft ih =>
    refine .bind (quietFetch_resumes (fun _ => .pure) nofun) fun page => ?_
    cases page with
    | failed code => exact .pure
    | done _ _ _ body =>
      dsimp only
      split
      · exact .pure
      · split
        · exact ih _ _
        · exact .pure

theorem syncShopDaily_resumes (storeDaily : FetchResult StoreDailyPayload) :
    Respects Resumes (syncShopDaily cx storeDaily) := by
  cases storeDaily with
  | failed code => exact .pure
  | done _ _ _ payload =>
    unfold syncShopDaily
    dsimp only
    split
    · exact .pure
    · refine .bind (quietFetch_resumes (fun status => .bind .ofExcept fun _ => .pure) nofun)
        fun shopModel => ?_
      cases shopModel with
      | failed code => dsimp only; split <;> exact .pure
      | done =>
        refine .bind (searchShopPages_resumes cx _ _ _) fun pages => ?_
        cases pages with
        | failed code => exact .pure
        | done => exact .bind .ofExcept fun _ => .pure

theorem syncDatedMetric_resumes {π : Type} {floor : Option BusinessDate}
    {unsupported : List BusinessDate} {rows : Nat → Nat}
    {fetch : BusinessDate → Sync (FetchResult π)} (businessDate : BusinessDate) (daily : DatedDaily)
    (completed : List BusinessDate) (fetches : Respects Resumes (fetch businessDate)) : Respects Resumes
      (syncDatedMetric floor unsupported rows fetch businessDate daily completed) := by
  unfold syncDatedMetric
  split
  · exact .pure
  · split
    · exact .pure
    · refine .bind fetches fun result => ?_
      cases result <;> exact .pure

theorem promiseAll_resumes {α β : Type} {first : Sync α} {second : Sync β} {later : Bool}
    (h : Respects Resumes first) (h' : Respects Resumes second) :
    Respects Resumes (promiseAll first second later) := by
  refine .bind (.observing h) fun settledFirst => .bind (.observing h') fun settledSecond => ?_
  cases settledFirst <;> cases settledSecond
  · exact .throw
  · exact .throw
  · exact .throw
  · exact .pure

/-- The trade and region of a date leave the completed product dates as they are. -/
theorem syncMetricDate_ends (days : MetricDays) (businessDate : BusinessDate) (s : SyncState) :
    Ends (syncMetricDate cx days businessDate) s (Post (fun next s' => Resumes s s' ∧
        next.sets.completedProductDates = days.sets.completedProductDates) fun _ s' => Resumes s s') := by
  have fetches : Respects Resumes (promiseAll
      (syncTradeDate cx days.sets businessDate days.tradeDaily days.sets.completedTradeDates)
      (syncRegionDate cx days.sets businessDate days.regionDaily days.sets.completedRegionDates)
      (cx.env.regionThrowsFirst cx.window businessDate)) :=
    promiseAll_resumes
      (syncDatedMetric_resumes _ _ _ (quietFetch_resumes quiet_handled nofun))
      (syncDatedMetric_resumes _ _ _ (quietFetch_resumes quiet_handled nofun))
  exact Ends.bind (fetches.after (Std.Refl.refl s)) fun both s' resumes => ⟨resumes, rfl⟩

/-- The product dates held for completed are complete. -/
def AllComplete (storeCode : String) (dates : List BusinessDate) (s : SyncState) : Prop :=
  ∀ date ∈ dates, CompleteDate s.trace storeCode date

variable {storeCode : String}

theorem AllComplete.mono {dates : List BusinessDate} {s s' : SyncState}
    (h : AllComplete storeCode dates s) (resumes : Resumes s s') : AllComplete storeCode dates s' :=
  fun date mem => (h date mem).mono resumes.grows

theorem resumes_skip {businessDate : BusinessDate} (complete : CompleteDate s.trace storeCode businessDate) :
    Resumes s { s with trace := s.trace ++ [.productSkipped storeCode businessDate] } := by
  refine ⟨List.prefix_append .., fun inv => ⟨fun row mem product success => ?_, ?_⟩⟩
  · exact (inv.audits row mem product success).mono (List.prefix_append ..)
  · intro pre store date post split
    rcases List.append_eq_append_iff.mp split with ⟨more, rfl, eq⟩ | ⟨more, eq, eq'⟩
    · cases more with
      | nil =>
        rw [List.nil_append, List.cons.injEq, SyncEvent.productSkipped.injEq] at eq
        obtain ⟨⟨rfl, rfl⟩, -⟩ := eq
        rwa [List.append_nil]
      | cons first rest =>
        have := congrArg List.length eq
        simp only [List.length_cons, List.length_append, List.length_nil] at this
        omega
    · cases more with
      | nil =>
        rw [List.nil_append, List.cons.injEq, SyncEvent.productSkipped.injEq] at eq'
        obtain ⟨⟨rfl, rfl⟩, -⟩ := eq'
        rwa [eq, List.append_nil] at complete
      | cons first rest =>
        rw [List.cons_append, List.cons.injEq] at eq'
        obtain ⟨rfl, -⟩ := eq'
        exact inv.skips pre store date rest eq

theorem syncProductWindowDate_ends {cx : WindowContext} {businessDate : BusinessDate}
    (unbroken : ∀ day, NoBreakAfterSuccess day (cx.env.product cx.window businessDate))
    (before : ProductWindow × List BusinessDate) (s : SyncState) (complete : AllComplete cx.storeCode before.2 s) :
    Ends (syncProductWindowDate cx before businessDate) s (Post
      (fun next s' => Resumes s s' ∧ AllComplete cx.storeCode next.2 s') fun _ s' => Resumes s s') := by
  obtain ⟨daily, completed⟩ := before
  unfold syncProductWindowDate
  dsimp only at complete ⊢
  by_cases mem : businessDate ∈ completed
  · rw [if_pos mem]
    have skipped := resumes_skip (complete businessDate mem)
    exact ends_bind.mpr ⟨skipped, complete.mono skipped⟩
  · rw [if_neg mem]
    refine ends_bind.mpr ((syncProductDate_ends (unbroken _) s).mono ?_)
    rintro r s' ⟨resumes, walked⟩
    match r with
    | .error e => exact resumes
    | .ok (.failed ..) => exact ⟨resumes, complete.mono resumes⟩
    | .ok (.done ..) =>
      refine ⟨resumes, fun date listed => ?_⟩
      rcases List.mem_cons.mp listed with rfl | old
      · exact walked _ _ _ _ _ rfl
      · exact complete.mono resumes date old

/-- Every walk the environment may answer does not break off after a success. -/
structure AttemptEnv.Unbroken (env : AttemptEnv) : Prop where
  product : ∀ window businessDate day, NoBreakAfterSuccess day (env.product window businessDate)
  currentProduct : ∀ day, NoBreakAfterSuccess day env.currentProduct

theorem syncStoreWindow_ends (unbroken : cx.env.Unbroken) (includeProducts : Bool) (sets : DateSets)
    (s : SyncState) (complete : AllComplete cx.storeCode sets.completedProductDates s) :
    Ends (syncStoreWindow cx includeProducts sets) s (Post
      (fun next s' => Resumes s s' ∧ AllComplete cx.storeCode next.2.completedProductDates s')
      fun _ s' => Resumes s s') := by
  refine Ends.bind ((syncStoreDaily_resumes cx).after (Std.Refl.refl s)) fun storeDaily s₁ h₁ => ?_
  refine Ends.bind ((syncShopDaily_resumes cx storeDaily).after h₁) fun shopDaily s₂ h₂ => ?_
  refine Ends.bind (ends_foldlM (J := fun days s' => Resumes s s' ∧
    days.sets.completedProductDates = sets.completedProductDates) ?_ ⟨h₂, rfl⟩) ?_
  · rintro date - days s₃ ⟨h₃, same⟩
    refine ((syncMetricDate_ends cx days date s₃).after h₃).mono ?_
    rintro (e | next) s₄ h₄
    · exact h₄
    · exact ⟨h₄.1, h₄.2.trans same⟩
  rintro days s₃ ⟨h₃, same⟩
  have complete₃ : AllComplete cx.storeCode days.sets.completedProductDates s₃ :=
    same ▸ complete.mono h₃
  split
  · refine Ends.bind (ends_foldlM (J := fun (before : ProductWindow × List BusinessDate) s' =>
      Resumes s s' ∧ AllComplete cx.storeCode before.2 s') ?_ ⟨h₃, complete₃⟩)
      fun ⟨productDaily, completed⟩ s₄ h₄ => h₄
    rintro date - before s₄ ⟨h₄, complete₄⟩
    exact (syncProductWindowDate_ends (unbroken.product cx.window date) before s₄ complete₄).after h₄
  · exact ⟨h₃, complete₃⟩

theorem complete_of_successful (inv : ResumeInv s) (startDate endDate : BusinessDate) {date : BusinessDate}
    (h : date ∈ successfulDailyDates s storeCode .productDiagnoseList startDate endDate) :
    CompleteDate s.trace storeCode date := by
  rw [successfulDailyDates, List.mem_eraseDups, List.mem_map] at h
  obtain ⟨row, mem, rfl⟩ := h
  rw [List.mem_filter, dailyAudits, List.mem_filter, decide_eq_true_eq, decide_eq_true_eq] at mem
  obtain ⟨⟨stored, rfl, product, -⟩, success⟩ := mem
  exact inv.audits row stored product success

theorem readDateSets_ends {input : SyncInput} {env : AttemptEnv} {range : Window} (inv : ResumeInv s) :
    Ends (readDateSets input env storeCode range) s (Post
      (fun sets s' => Resumes s s' ∧ AllComplete storeCode sets.completedProductDates s')
      fun _ s' => Resumes s s') := by
  refine Ends.bind (Respects.ofExcept.after (Std.Refl.refl s)) fun _ s₁ h₁ => ?_
  refine ends_bind.mpr ⟨h₁, fun date mem => ?_⟩
  refine complete_of_successful (h₁.keeps inv) range.startDate range.endDate ?_
  dsimp only at mem
  split at mem
  · split at mem
    · exact List.mem_of_mem_filter mem
    · exact mem
  · exact absurd mem List.not_mem_nil

/-! ## Attempts, stores and runs -/

section Run

variable {js : TextBuiltins} {input : SyncInput}

variable {env : AttemptEnv} {s : SyncState}

theorem syncSettledWindows_ends (unbroken : env.Unbroken) (storeCode : String) (inv : ResumeInv s) :
    Ends (syncSettledWindows js input env storeCode) s fun _ s' => Resumes s s' := by
  unfold syncSettledWindows
  split
  · rename_i first last _ _
    refine Ends.bind ((resolveDataAnchor_resumes js env storeCode last.endDate).after
      (Std.Refl.refl s)) fun dataAnchor s₁ h₁ => ?_
    split
    · exact h₁
    · refine Ends.bind ((readDateSets_ends (h₁.keeps inv)).after h₁) fun sets s₂ h₂ => ?_
      refine Ends.bind (ends_foldlM (J := fun before s' => Resumes s s' ∧
        AllComplete storeCode before.2.completedProductDates s') ?_ h₂) fun _ _ h => h.1
      rintro window - before s₃ ⟨h₃, complete⟩
      exact Ends.bind ((syncStoreWindow_ends ⟨js, env, storeCode, window, dataAnchor⟩
        unbroken input.includeProducts before.2 s₃ complete).after h₃) fun _ _ h => h
  · exact Std.Refl.refl s

theorem syncCurrentDay_resumes (unbroken : env.Unbroken) (storeCode : String) (storeResults : List HistoryRow) :
    Respects Resumes (syncCurrentDay js input env storeCode storeResults) := by
  unfold syncCurrentDay
  split
  · exact .pure
  · refine .bind (syncRealtimeDay_resumes js env storeCode _) fun realtime => ?_
    dsimp only
    split
    · refine .bind (fun s => ?_) fun day => .pure
      exact (syncProductDate_ends (unbroken.currentProduct _) s).mono fun _ _ h => h.1
    · exact .pure

theorem syncStoreAttempt_ends (unbroken : env.Unbroken) (storeCode : String) (inv : ResumeInv s) :
    Ends (syncStoreAttempt js input env storeCode) s fun _ s' => Resumes s s' := by
  refine Ends.bind (Respects.ofExcept.after (Std.Refl.refl s)) fun _ s₁ h₁ => ?_
  refine Ends.bind (Q := fun _ s₂ => Resumes s s₂)
    ((syncSettledWindows_ends unbroken storeCode (h₁.keeps inv)).mono ?_) fun settled s₂ h₂ => ?_
  · rintro (e | settled) s₂ h₂ <;> exact IsTrans.trans s s₁ s₂ h₁ h₂
  · cases settled with
    | error row => exact h₂
    | ok storeResults =>
      exact Ends.bind ((syncCurrentDay_resumes unbroken storeCode storeResults).after h₂)
        fun _ _ h => h

theorem syncStoreFrom_resumes {env : Nat → AttemptEnv} (unbroken : ∀ n, (env n).Unbroken)
    (storeCode : String) (retriesLeft retryCount : Nat) (inv : ResumeInv s) :
    Resumes s (syncStoreFrom js input env storeCode retriesLeft retryCount s).1 := by
  induction retriesLeft generalizing retryCount s with
  | zero => exact syncStoreAttempt_ends (unbroken retryCount) storeCode inv
  | succ left ih =>
    have attempt : Ends (syncStoreAttempt js input (env retryCount) storeCode) s
        fun _ s' => Resumes s s' := syncStoreAttempt_ends (unbroken retryCount) storeCode inv
    unfold syncStoreFrom
    dsimp only
    split
    · exact IsTrans.trans _ _ _ attempt (ih (retryCount + 1) (attempt.keeps inv))
    · exact attempt

theorem syncStores_resumes {env : Nat → Nat → AttemptEnv} (unbroken : ∀ n m, (env n m).Unbroken)
    (storeCodes : List String) (position : Nat) (inv : ResumeInv s) :
    Resumes s (syncStores js input env storeCodes position s).1 := by
  induction storeCodes generalizing position s with
  | nil => exact Std.Refl.refl s
  | cons store rest ih =>
    have first : Resumes s (syncStoreFrom js input (env position) (js.toUpperCase (jsTrim store))
        input.retryCdpCount 0 s).1 := syncStoreFrom_resumes (unbroken position) _ _ 0 inv
    exact IsTrans.trans _ _ _ first (ih (position + 1) (first.keeps inv))

/-- No walk of the run breaks off after a success. -/
def HistoryRun.Unbroken (r : HistoryRun) : Prop := ∀ position retryCount, (r.env position retryCount).Unbroken

theorem historyStep_keeps {r : HistoryRun} (unbroken : r.Unbroken) (inv : ResumeInv s) : ResumeInv (historyStep js s r) := by
  unfold historyStep runFullHomeHistorySync
  split
  · exact inv
  · exact (syncStores_resumes unbroken r.input.storeCodes 0 inv).keeps inv

end Run

def ResumeComplete (trace : List SyncEvent) : Prop :=
  ∀ pre storeCode businessDate post,
    trace = pre ++ .productSkipped storeCode businessDate :: post →
      CompleteDate pre storeCode businessDate

/-- **Product resume is complete over every sequence of runs whose walks do not break off after a
success.** -/
theorem productResume_complete (js : TextBuiltins) (runs : List HistoryRun) (unbroken : ∀ r ∈ runs, r.Unbroken) :
    ResumeComplete (run (historyStep js) .empty runs).trace := by
  have start : ResumeInv .empty :=
    ⟨fun row mem => absurd mem List.not_mem_nil, fun pre store date post split => by
      have := congrArg List.length split
      simp [SyncState.empty] at this⟩
  have guarded : Along (historyStep js) (fun _ r => r.Unbroken) .empty runs :=
    (along_iff_split _ _).mpr fun pre r post split =>
      unbroken r (by rw [split]; exact List.mem_append_right _ List.mem_cons_self)
  exact (run_invariant_along (fun _ _ inv unbroken => historyStep_keeps unbroken inv) start
    guarded).skips

def replyOf {β : Type} (body : β) : Reply β := { observedAt := 0, body := .ok body }

/-- An environment of one business date, with sales and without shop rows, whose product pages are
given. -/
def oneDateEnv (product : Nat → ProductReply) : AttemptEnv where
  session := .ok ()
  anchor := replyOf { dataAnchorDate := 20001 }
  reads := .ok ()
  metricFloors := ⟨none, none⟩
  storeDaily _ := replyOf [{ businessDate := 20000, salesQuantity := some 900 }]
  shopModel _ := replyOf true
  shopSearch _ _ := replyOf ⟨0, some 0⟩
  shopRows _ := .ok 0
  trade _ _ := replyOf ()
  region _ _ := replyOf 0
  regionThrowsFirst _ _ := false
  product _ _ := product
  realtimeAnchor := replyOf ⟨20002, 12⟩
  realtimeCurve := replyOf 0
  realtimeSummary := replyOf 0
  currentProduct := product

def oneDateRun (product : Nat → ProductReply) : HistoryRun where
  input := { storeCodes := ["DX0571"], startDate := 20000, endDate := 20000, today := 20002 }
  env _ _ := oneDateEnv product

/-- A product page of `rows` equal rows, out of `count`. -/
def productPageReply (count rows : Nat) : ProductReply where
  toReply := replyOf
    { count := some count, data := List.replicate rows { spu := some "v1", c1dSaleCnt := some 3 } }

/-- One page holds the date's only product: the second run skips a complete date. -/
theorem productResume_complete_one_page : .productSkipped "DX0571" 20000 ∈ (run (historyStep .ascii) .empty
        [oneDateRun fun _ => productPageReply 1 1, oneDateRun fun _ => productPageReply 1 1]).trace ∧
    ResumeComplete (run (historyStep .ascii) .empty
      [oneDateRun fun _ => productPageReply 1 1, oneDateRun fun _ => productPageReply 1 1]).trace := by
  have walk : ∀ day, NoBreakAfterSuccess day fun _ => productPageReply 1 1 := by
    intro day
    have stored : ∃ page, (productPageReply 1 1).Returns day page ∧ ¬ page.MayContinue 1 :=
      ⟨_, ⟨rfl, rfl⟩, fun more => absurd more.1 (show ¬ 1 * productPageSize < 1 by decide)⟩
    obtain ⟨page, returns, ended⟩ := stored
    have stops : ∀ n, 1 ≤ n → ¬ Continue day (fun _ => productPageReply 1 1) n := by
      intro n pos goes
      obtain ⟨other, returns', more⟩ := goes 1 le_rfl pos
      obtain rfl := Option.mem_unique returns.1 returns'.1
      exact ended more
    refine ⟨fun n _ goes fails => ?_, fun goes => absurd goes (stops _ (by decide))⟩
    exact absurd returns (fails page)
  refine ⟨by decide +kernel, productResume_complete .ascii _ fun r mem => ?_⟩
  have same : r = oneDateRun fun _ => productPageReply 1 1 := by
    simpa only [List.mem_cons, List.not_mem_nil, or_false, or_self] using mem
  rw [same]
  exact fun _ _ => ⟨fun _ _ => walk, walk⟩

theorem not_completeDate {trace : List SyncEvent} {storeCode : String} {businessDate : BusinessDate}
    (h : ∀ e ∈ trace, ∀ store date n page, e = .productsUpserted store date n page →
      page.MayContinue n) : ¬ CompleteDate trace storeCode businessDate := by
  rintro ⟨day, -, -, pre, pages, last, post, rfl, ended⟩
  refine ended (h _ ?_ day.storeCode day.businessDate (pages.length + 1) last rfl)
  rw [pageEvents_concat, Nat.add_comm 1]
  simp only [List.append_assoc, List.mem_append, List.mem_cons, true_or, or_true]

/-- The first of two pages is stored, the second fails. -/
def secondPageFails (pageNum : Nat) : ProductReply :=
  if pageNum = 1 then productPageReply 250 200
  else { toReply := { observedAt := 0, body := .error ⟨some "HOME_FETCH_FAILED"⟩ } }

/-- **A date is skipped with a page missing**: the first run audits page one of two and fails at page
two; the second run skips the date. -/
theorem productResume_page_missing : ¬ ResumeComplete (run (historyStep .ascii) .empty
      [oneDateRun secondPageFails, oneDateRun secondPageFails]).trace := by
  intro h
  have skipped : (run (historyStep .ascii) .empty
      [oneDateRun secondPageFails, oneDateRun secondPageFails]).trace =
        (run (historyStep .ascii) .empty
          [oneDateRun secondPageFails, oneDateRun secondPageFails]).trace.dropLast ++
        .productSkipped "DX0571" 20000 :: [] := by decide +kernel
  refine not_completeDate ?_ (h _ _ _ _ skipped)
  have mayContinue : (run (historyStep .ascii) .empty
      [oneDateRun secondPageFails, oneDateRun secondPageFails]).trace.all (fun e =>
        match e with
        | .productsUpserted _ _ n page => decide (page.MayContinue n)
        | _ => true) = true := by decide +kernel
  rintro e mem store date n page rfl
  exact of_decide_eq_true (List.all_eq_true.mp mayContinue _ (List.mem_of_mem_dropLast mem))

end FullManagedBi.WebapiHistory
