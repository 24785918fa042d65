import FullManagedBi.OpenApi.FinanceReports

/-!
# The loops of a finance window

Where the loop over the cursors of a report ends is a relation (`Ends`) with one outcome for each loop (`ends_unique`,
`exists_ends`). It returns the rows of a chain of answers: each request after the first one carries the cursor of the
answer before it, and the answer without a cursor is the last one (`CursorChain`). Likewise the list of reports is what
is on its pages from the first one on (`ReportChain`).
-/

namespace FullManagedBi.OpenApi

open Lib

variable {ρ δ α β : Type} {total : Option Nat} {kind : CursorKind β} {loop : CursorLoop β}

/-! ## Where a loop ends -/

inductive Ends (total : Option Nat) (kind : CursorKind β) : CursorLoop β → Except JsError (List β) → Prop
  | fails {loop e} (round : kindRound total kind loop = .error e) : Ends total kind loop (.error e)
  | done {loop rows} (round : kindRound total kind loop = .ok (.done rows)) : Ends total kind loop (.ok rows)
  | next {loop after outcome} (round : kindRound total kind loop = .ok (.next after))
      (rest : Ends total kind after outcome) : Ends total kind loop outcome

theorem ends_unique {left right : Except JsError (List β)} (h : Ends total kind loop left)
    (k : Ends total kind loop right) : left = right := by
  induction h with
  | fails round =>
    cases k with
    | fails other => exact congrArg _ (Except.error.inj (round.symm.trans other))
    | done other => exact nomatch round.symm.trans other
    | next other => exact nomatch round.symm.trans other
  | done round =>
    cases k with
    | fails other => exact nomatch round.symm.trans other
    | done other => exact congrArg _ (CursorRound.done.inj (Except.ok.inj (round.symm.trans other)))
    | next other => exact nomatch round.symm.trans other
  | next round _ ih =>
    cases k with
    | fails other => exact nomatch round.symm.trans other
    | done other => exact nomatch round.symm.trans other
    | next other rest =>
      have same := CursorRound.next.inj (Except.ok.inj (round.symm.trans other))
      exact ih (same ▸ rest)

/-- What a round of the loop comes to with this answer. -/
structure NextRound (kind : CursorKind β) (loop : CursorLoop β) (page : DetailPage β) (after : CursorLoop β) : Prop where
  answer : kind.answer (loop.asked ++ [loop.query]) = .ok page
  within : loop.rows.length + page.rows.length ≤ kind.limit
  some_rows : page.rows ≠ []
  cursor : page.nextQuery ≠ none
  after_eq : after =
    ⟨loop.rows ++ page.rows, loop.received + page.rows.length, loop.asked ++ [loop.query], page.nextQuery⟩

theorem cursorRound_eq_next {after : CursorLoop β} :
    cursorRound kind loop = .ok (.next after) ↔ ∃ page, NextRound kind loop page after := by
  constructor
  · intro round
    obtain ⟨page, answer, round⟩ := bind_eq_ok round
    obtain ⟨within, round⟩ := check_ok_iff.mp round
    rw [refuse_eq_ok, not_lt, List.length_append] at within
    split at round
    · obtain ⟨_, round⟩ := check_ok_iff.mp round
      exact nomatch round
    · next cursor here =>
      obtain ⟨some, round⟩ := check_ok_iff.mp round
      rw [refuse_eq_ok, List.length_eq_zero_iff] at some
      refine ⟨page, answer, within, some, by simp [here], ?_⟩
      rw [here]
      exact (CursorRound.next.inj (Except.ok.inj round)).symm
  · rintro ⟨page, answer, within, some, cursor, rfl⟩
    obtain ⟨query, here⟩ := Option.ne_none_iff_exists'.mp cursor
    simp [cursorRound, answer, bind, Except.bind, pure, Except.pure, refuse, not_lt.mpr within, here, some]

variable {rows : List β}

theorem cursorRound_eq_done : cursorRound kind loop = .ok (.done rows) ↔ ∃ page,
      kind.answer (loop.asked ++ [loop.query]) = .ok page ∧ loop.rows.length + page.rows.length ≤ kind.limit ∧
        page.nextQuery = none ∧ loop.received + page.rows.length = page.count ∧ rows = loop.rows ++ page.rows := by
  constructor
  · intro round
    obtain ⟨page, answer, round⟩ := bind_eq_ok round
    obtain ⟨within, round⟩ := check_ok_iff.mp round
    rw [refuse_eq_ok, not_lt, List.length_append] at within
    split at round
    · next final =>
      obtain ⟨counted, round⟩ := check_ok_iff.mp round
      rw [refuse_eq_ok, not_not] at counted
      exact ⟨page, answer, within, final, counted, (CursorRound.done.inj (Except.ok.inj round)).symm⟩
    · obtain ⟨_, round⟩ := check_ok_iff.mp round
      exact nomatch round
  · rintro ⟨page, answer, within, final, counted, rfl⟩
    simp [cursorRound, answer, bind, Except.bind, pure, Except.pure, refuse, not_lt.mpr within, final, counted]

theorem kindRound_next {after : CursorLoop β} (round : kindRound total kind loop = .ok (.next after)) :
    loop.rows.length < after.rows.length ∧ after.rows.length ≤ kind.limit := by
  unfold kindRound at round
  split at round
  · exact nomatch round
  · obtain ⟨page, next⟩ := cursorRound_eq_next.mp round
    have filled := List.length_pos_iff.mpr next.some_rows
    have within := next.within
    rw [next.after_eq]
    simp only [List.length_append]
    omega

/-! ## What a loop reads -/

def pageRows (pages : List (DetailPage β)) : List β := pages.flatMap DetailPage.rows

/-- The queries of the requests that these answers, and one more, are to: none, and then the cursor of each answer. -/
def queriesOf (query : Option String) (front : List (DetailPage β)) : List (Option String) :=
  query :: front.map DetailPage.nextQuery

/-- The answers in the loop: each but the last one has a cursor, and rows; the last one has no cursor, and the number of
the rows. -/
structure CursorChain (kind : CursorKind β) (loop : CursorLoop β) (front : List (DetailPage β)) (last : DetailPage β) :
    Prop where
  answers : ∀ k page, (front ++ [last])[k]? = some page →
    kind.answer (loop.asked ++ (queriesOf loop.query front).take (k + 1)) = .ok page
  cursor : ∀ page ∈ front, page.nextQuery ≠ none ∧ page.rows ≠ []
  final : last.nextQuery = none
  counted : loop.received + (pageRows (front ++ [last])).length = last.count
  within : loop.rows.length + (pageRows (front ++ [last])).length ≤ kind.limit

@[simp] theorem pageRows_cons (page : DetailPage β) (pages : List (DetailPage β)) :
    pageRows (page :: pages) = page.rows ++ pageRows pages := rfl

theorem cursorChain_nil {last : DetailPage β} : CursorChain kind loop [] last ↔
    kind.answer (loop.asked ++ [loop.query]) = .ok last ∧ loop.rows.length + last.rows.length ≤ kind.limit ∧
      last.nextQuery = none ∧ loop.received + last.rows.length = last.count := by
  constructor
  · intro chain
    have counted := chain.counted
    have within := chain.within
    simp only [List.nil_append, pageRows, List.flatMap_singleton] at counted within
    exact ⟨chain.answers 0 last rfl, within, chain.final, counted⟩
  · rintro ⟨answer, within, final, counted⟩
    refine ⟨?_, nofun, final, ?_, ?_⟩
    · intro k page there
      rw [List.nil_append, List.getElem?_singleton] at there
      split at there
      · next zero =>
        obtain rfl := Option.some.inj there
        subst zero
        exact answer
      · exact nomatch there
    · simpa [pageRows] using counted
    · simpa [pageRows] using within

variable {front : List (DetailPage β)}

theorem cursorChain_cons {page last : DetailPage β} : CursorChain kind loop (page :: front) last ↔
      ∃ after, NextRound kind loop page after ∧ CursorChain kind after front last := by
  constructor
  · intro chain
    have cursor := chain.cursor page List.mem_cons_self
    have counted := chain.counted
    have within := chain.within
    simp only [List.cons_append, pageRows_cons, List.length_append] at counted within
    refine ⟨_, ⟨chain.answers 0 page rfl, by omega, cursor.2, cursor.1, rfl⟩, ?_, ?_, chain.final, ?_, ?_⟩
    · intro k other there
      have answer := chain.answers (k + 1) other there
      simpa [queriesOf] using answer
    · intro other mem
      exact chain.cursor other (List.mem_cons_of_mem page mem)
    · change loop.received + page.rows.length + _ = _
      omega
    · rw [List.length_append]
      omega
  · rintro ⟨_, ⟨answer, within, some, cursor, rfl⟩, chain⟩
    have counted := chain.counted
    have bounded := chain.within
    simp only [List.length_append] at counted bounded
    refine ⟨?_, ?_, chain.final, ?_, ?_⟩
    · intro k other there
      cases k with
      | zero =>
        obtain rfl := Option.some.inj there
        simpa [queriesOf] using answer
      | succ k =>
        have later := chain.answers k other there
        simpa [queriesOf] using later
    · exact List.forall_mem_cons.mpr ⟨⟨cursor, some⟩, chain.cursor⟩
    · simp only [List.cons_append, pageRows_cons, List.length_append]
      omega
    · simp only [List.cons_append, pageRows_cons, List.length_append]
      omega

/-- A loop that asks returns the rows of a chain of answers, and each chain of answers is returned. -/
theorem ends_ok_iff (asks : total ≠ some 0) : Ends total kind loop (.ok rows) ↔
      ∃ front last, CursorChain kind loop front last ∧ rows = loop.rows ++ pageRows (front ++ [last]) := by
  have rounds : ∀ loop, kindRound total kind loop = cursorRound kind loop := fun loop => if_neg asks
  constructor
  · intro h
    generalize shape : Except.ok rows = outcome at h
    induction h with
    | fails round => exact nomatch shape
    | @done loop other round =>
      obtain rfl := Except.ok.inj shape
      rw [rounds, cursorRound_eq_done] at round
      obtain ⟨last, answer, within, final, counted, same⟩ := round
      refine ⟨[], last, cursorChain_nil.mpr ⟨answer, within, final, counted⟩, ?_⟩
      simpa [pageRows] using same
    | @next loop after outcome round rest ih =>
      rw [rounds, cursorRound_eq_next] at round
      obtain ⟨page, next⟩ := round
      obtain ⟨front, last, chain, same⟩ := ih shape
      refine ⟨page :: front, last, cursorChain_cons.mpr ⟨after, next, chain⟩, ?_⟩
      rw [same, next.after_eq, List.cons_append, pageRows_cons, List.append_assoc]
  · rintro ⟨front, last, chain, rfl⟩
    induction front generalizing loop with
    | nil =>
      obtain ⟨answer, within, final, counted⟩ := cursorChain_nil.mp chain
      apply Ends.done
      rw [rounds, cursorRound_eq_done]
      exact ⟨last, answer, within, final, counted, by simp [pageRows]⟩
    | cons page front ih =>
      obtain ⟨after, next, rest⟩ := cursorChain_cons.mp chain
      have later := ih rest
      rw [next.after_eq, List.append_assoc] at later
      rw [List.cons_append, pageRows_cons, ← next.after_eq] at *
      exact .next (by rw [rounds]; exact cursorRound_eq_next.mpr ⟨page, next⟩) later

theorem ends_zero {outcome : Except JsError (List β)} : Ends (some 0) kind loop outcome ↔ outcome = .ok [] := by
  have round : kindRound (some 0) kind loop = .ok (.done []) := if_pos rfl
  constructor
  · intro h
    exact ends_unique h (.done round)
  · rintro rfl
    exact .done round

/-- What is fetched for a report: nothing where the total is zero, and else the rows of a chain of answers. -/
def Fetched (total : Option Nat) (kind : CursorKind β) (rows : List β) : Prop :=
  if total = some 0 then rows = []
  else ∃ front last, CursorChain kind {} front last ∧ rows = pageRows (front ++ [last])

theorem ends_ok_iff_fetched : Ends total kind {} (.ok rows) ↔ Fetched total kind rows := by
  unfold Fetched
  split
  · next zero =>
    rw [zero, ends_zero]
    exact ⟨Except.ok.inj, congrArg _⟩
  · next asks => exact ends_ok_iff asks

/-! ## Answers that depend on the cursor alone -/

/-- Each answer depends on the last request alone. -/
def CursorKind.Stateless (kind : CursorKind β) : Prop :=
  ∃ answer : Option String → Except JsError (DetailPage β), ∀ asked query, kind.answer (asked ++ [query]) = answer query

theorem getElem?_queriesOf {query : Option String} {k : Nat} :
    (queriesOf query front)[k + 1]? = front[k]?.map DetailPage.nextQuery := by
  simp [queriesOf]

/-- Where each answer depends on the cursor alone, no cursor is asked twice: what follows the second request would be
what followed the first one, and the chain would not end. -/
theorem queries_nodup {last : DetailPage β} (stateless : kind.Stateless)
    (chain : CursorChain kind {} front last) : (queriesOf none front).Nodup := by
  obtain ⟨answer, same⟩ := stateless
  have answers : ∀ (k : Nat) query page, (queriesOf none front)[k]? = some query → (front ++ [last])[k]? = some page →
      answer query = .ok page := by
    intro k query page asked there
    have answered := chain.answers k page there
    rwa [List.take_add_one, asked, Option.toList_some, ← List.append_assoc, same] at answered
  have inside : ∀ (k : Nat) page, front[k]? = some page → (front ++ [last])[k]? = some page := by
    intro k page there
    rw [List.getElem?_append_left (List.getElem?_eq_some_iff.mp there).1, there]
  -- Two requests with one cursor, the second one `rest` answers ahead of the last one.
  have apart : ∀ rest i j query, i < j → j + rest = front.length → (queriesOf none front)[i]? = some query →
      (queriesOf none front)[j]? ≠ some query := by
    intro rest
    induction rest with
    | zero =>
      intro i j query less ends_ first second
      obtain ⟨page, here⟩ : ∃ page, front[i]? = some page := ⟨_, List.getElem?_eq_getElem (by omega)⟩
      have there : (front ++ [last])[j]? = some last := by
        rw [List.getElem?_append_right (by omega)]
        simp [show j - front.length = 0 by omega]
      have equal := (answers i query page first (inside i page here)).symm.trans (answers j query last second there)
      apply (chain.cursor page (List.mem_of_getElem? here)).1
      rw [Except.ok.inj equal]
      exact chain.final
    | succ rest ih =>
      intro i j query less ends_ first second
      obtain ⟨page, here⟩ : ∃ page, front[i]? = some page := ⟨_, List.getElem?_eq_getElem (by omega)⟩
      obtain ⟨other, there⟩ : ∃ other, front[j]? = some other := ⟨_, List.getElem?_eq_getElem (by omega)⟩
      have equal := (answers i query page first (inside i page here)).symm.trans
        (answers j query other second (inside j other there))
      apply ih (i + 1) (j + 1) page.nextQuery (by omega) (by omega)
      · rw [getElem?_queriesOf, here, Option.map_some]
      · rw [getElem?_queriesOf, there, Option.map_some, Except.ok.inj equal]
  rw [List.nodup_iff_getElem?_ne_getElem?]
  intro i j less bounded
  have length : (queriesOf none front).length = front.length + 1 := by simp [queriesOf]
  obtain ⟨query, first⟩ : ∃ query, (queriesOf none front)[i]? = some query :=
    ⟨_, List.getElem?_eq_getElem (by omega)⟩
  intro equal
  exact apart (front.length - j) i j query less (by omega) first (equal.symm.trans first)

/-! ## The list of reports -/

variable {R : FinanceReaders ρ δ α} {client : FinanceClient} {options : FinanceOptions} {rounds page : Nat}
  {before reports : List (FinanceReport ρ)}

/-- The answer to the request for a page of the list. -/
def reportPage (R : FinanceReaders ρ δ α) (client : FinanceClient) (options : FinanceOptions) (page : Nat) :
    Except JsError (FinanceReportPage ρ) :=
  client.reportList page >>= fun data => mapFinanceReportListResponse R data page options.reportPageSize

def pageReports (pages : List (FinanceReportPage ρ)) : List (FinanceReport ρ) :=
  pages.flatMap FinanceReportPage.reports

/-- The pages of the list from a page on, behind a number of reports: each but the last one has reports, and counts
more reports than there are up to it. -/
structure ReportChain (R : FinanceReaders ρ δ α) (client : FinanceClient) (options : FinanceOptions) (page before : Nat)
    (front : List (FinanceReportPage ρ)) (last : FinanceReportPage ρ) : Prop where
  answers : ∀ k answer, (front ++ [last])[k]? = some answer → reportPage R client options (page + k) = .ok answer
  more : ∀ k answer, front[k]? = some answer → answer.reports ≠ [] ∧
    before + (pageReports (front.take (k + 1))).length < answer.count
  whole : last.count ≤ before + (pageReports (front ++ [last])).length
  within : before + (pageReports (front ++ [last])).length ≤ options.maxReports

@[simp] theorem pageReports_cons (answer : FinanceReportPage ρ) (pages : List (FinanceReportPage ρ)) :
    pageReports (answer :: pages) = answer.reports ++ pageReports pages := rfl

theorem reportChain_nil {count : Nat} {last : FinanceReportPage ρ} : ReportChain R client options page count [] last ↔
    reportPage R client options page = .ok last ∧ count + last.reports.length ≤ options.maxReports ∧
      last.count ≤ count + last.reports.length := by
  constructor
  · intro chain
    have whole := chain.whole
    have within := chain.within
    simp only [List.nil_append, pageReports, List.flatMap_singleton] at whole within
    exact ⟨chain.answers 0 last rfl, within, whole⟩
  · rintro ⟨answer, within, whole⟩
    refine ⟨?_, nofun, ?_, ?_⟩
    · intro k other there
      rw [List.nil_append, List.getElem?_singleton] at there
      split at there
      · next zero =>
        obtain rfl := Option.some.inj there
        subst zero
        exact answer
      · exact nomatch there
    · simpa [pageReports] using whole
    · simpa [pageReports] using within

theorem reportChain_cons {count : Nat} {answer last : FinanceReportPage ρ} {front : List (FinanceReportPage ρ)} :
    ReportChain R client options page count (answer :: front) last ↔
      (reportPage R client options page = .ok answer ∧ answer.reports ≠ [] ∧
        count + answer.reports.length < answer.count) ∧
      ReportChain R client options (page + 1) (count + answer.reports.length) front last := by
  constructor
  · intro chain
    have whole := chain.whole
    have within := chain.within
    have first := chain.more 0 answer rfl
    simp only [List.cons_append, pageReports_cons, List.length_append] at whole within
    refine ⟨⟨chain.answers 0 answer rfl, first.1, by simpa [pageReports] using first.2⟩, ?_, ?_, by omega, by omega⟩
    · intro k other there
      have later := chain.answers (k + 1) other there
      rwa [← Nat.add_assoc, Nat.add_right_comm] at later
    · intro k other there
      have later := chain.more (k + 1) other there
      simpa [Nat.add_assoc] using later
  · rintro ⟨⟨here, some, more⟩, chain⟩
    have whole := chain.whole
    have within := chain.within
    refine ⟨?_, ?_, ?_, ?_⟩
    · intro k other there
      cases k with
      | zero =>
        obtain rfl := Option.some.inj there
        exact here
      | succ k =>
        have later := chain.answers k other there
        rwa [Nat.add_right_comm, Nat.add_assoc] at later
    · intro k other there
      cases k with
      | zero =>
        obtain rfl := Option.some.inj there
        exact ⟨some, by simpa [pageReports] using more⟩
      | succ k =>
        have later := chain.more k other there
        simpa [Nat.add_assoc] using later
    · simp only [List.cons_append, pageReports_cons, List.length_append]
      omega
    · simp only [List.cons_append, pageReports_cons, List.length_append]
      omega

theorem listReports_succ : listReports R client options (rounds + 1) page before =
    match reportPage R client options page with
    | .error e => some (.error e)
    | .ok mapped =>
      if options.maxReports < (before ++ mapped.reports).length then
        some (financeError "FINANCE_REPORT_LIMIT" "finance report limit exceeded")
      else if mapped.count ≤ (before ++ mapped.reports).length then some (.ok (before ++ mapped.reports))
      else if mapped.reports.length = 0 then
        some (financeError "PAGINATION_EMPTY_GAP" "finance report pagination stopped early")
      else listReports R client options rounds (page + 1) (before ++ mapped.reports) := rfl

/-- The loop ends: a page that is not the last one has reports, and there are at most `maxReports`. -/
theorem exists_listReports (le : before.length ≤ options.maxReports)
    (enough : options.maxReports < before.length + rounds) :
    ∃ outcome, listReports R client options rounds page before = some outcome := by
  induction rounds generalizing page before with
  | zero => omega
  | succ rounds ih =>
    rw [listReports_succ]
    split
    · exact ⟨_, rfl⟩
    · next mapped _ =>
      split
      · exact ⟨_, rfl⟩
      · next inside =>
        split
        · exact ⟨_, rfl⟩
        · split
          · exact ⟨_, rfl⟩
          · next some =>
            rw [List.length_append] at inside
            apply ih
            · rw [List.length_append]
              omega
            · rw [List.length_append]
              omega

/-- The chains from a page on: the page is the last one, or there are more pages behind it. -/
theorem exists_reportChain_iff {mapped : FinanceReportPage ρ} (here : reportPage R client options page = .ok mapped) :
    (∃ front last, ReportChain R client options page before.length front last ∧
      reports = before ++ pageReports (front ++ [last])) ↔
    (before ++ mapped.reports).length ≤ options.maxReports ∧
      ((mapped.count ≤ (before ++ mapped.reports).length ∧ reports = before ++ mapped.reports) ∨
      ((before ++ mapped.reports).length < mapped.count ∧ mapped.reports ≠ [] ∧ ∃ front last,
        ReportChain R client options (page + 1) (before ++ mapped.reports).length front last ∧
        reports = (before ++ mapped.reports) ++ pageReports (front ++ [last]))) := by
  rw [List.length_append]
  constructor
  · rintro ⟨front, last, chain, rfl⟩
    cases front with
    | nil =>
      obtain ⟨answer, within, whole⟩ := reportChain_nil.mp chain
      obtain rfl := Except.ok.inj (here.symm.trans answer)
      exact ⟨within, .inl ⟨whole, by simp [pageReports]⟩⟩
    | cons answer front =>
      obtain ⟨⟨answered, some, more⟩, rest⟩ := reportChain_cons.mp chain
      obtain rfl := Except.ok.inj (here.symm.trans answered)
      have within := rest.within
      exact ⟨by omega, .inr ⟨more, some, front, last, rest, by simp⟩⟩
  · rintro ⟨within, ⟨whole, rfl⟩ | ⟨more, some, front, last, rest, rfl⟩⟩
    · exact ⟨[], mapped, reportChain_nil.mpr ⟨here, within, whole⟩, by simp [pageReports]⟩
    · exact ⟨mapped :: front, last, reportChain_cons.mpr ⟨⟨here, some, more⟩, rest⟩, by simp⟩

theorem listReports_ok_iff {outcome : Except JsError (List (FinanceReport ρ))}
    (h : listReports R client options rounds page before = some outcome) :
    outcome = .ok reports ↔ ∃ front last, ReportChain R client options page before.length front last ∧
      reports = before ++ pageReports (front ++ [last]) := by
  induction rounds generalizing page before with
  | zero => exact nomatch h
  | succ rounds ih =>
    rw [listReports_succ] at h
    split at h
    · next e failed =>
      obtain rfl := Option.some.inj h
      refine iff_of_false nofun ?_
      rintro ⟨front, last, chain, -⟩
      cases front with
      | nil => exact nomatch failed.symm.trans (reportChain_nil.mp chain).1
      | cons answer front => exact nomatch failed.symm.trans (reportChain_cons.mp chain).1.1
    · next mapped here =>
      rw [exists_reportChain_iff here]
      split at h
      · next exceeded =>
        obtain rfl := Option.some.inj h
        exact iff_of_false nofun fun chain => absurd chain.1 (not_le.mpr exceeded)
      · next inside =>
        rw [and_iff_right (not_lt.mp inside)]
        split at h
        · next whole =>
          obtain rfl := Option.some.inj h
          constructor
          · intro same
            exact .inl ⟨whole, (Except.ok.inj same).symm⟩
          · rintro (⟨-, same⟩ | ⟨more, -⟩)
            · exact congrArg _ same.symm
            · omega
        · next open_ =>
          have more : (before ++ mapped.reports).length < mapped.count := not_le.mp open_
          split at h
          · next gap =>
            obtain rfl := Option.some.inj h
            refine iff_of_false nofun ?_
            rintro (⟨whole, -⟩ | ⟨-, some, -⟩)
            · exact open_ whole
            · exact some (List.length_eq_zero_iff.mp gap)
          · next filled =>
            rw [List.length_eq_zero_iff] at filled
            simp only [ih h, open_, more, filled, ne_eq, not_false_eq_true, true_and, false_and, false_or]

end FullManagedBi.OpenApi
