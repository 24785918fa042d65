import FullManagedBi.Laws.TransportSeal
import FullManagedBi.OrderManagement.SessionSync

/-!
# What the gate of a page lets through

`fetchPageRows` takes the rows of consecutive pages, from the first one on, and keeps the total of the first
(`fetchPagesFrom_walks`). What passes `storePageGates` is therefore exactly as many records as the first page
advertises, each of which makes a row, and no two of the rows have the same id. A list that is served in order passes,
whatever a later page reports as its total: all of the list, what remains of it, or the page. The first page has to
report all of the list, and the list must not need more than the pages that may be asked for.
-/

namespace FullManagedBi.OrderManagement

open Lib

variable {source : PageSource} {code : EndpointCode} {paging : Paging} {window : Option DateWindow}

/-! ## Answers -/

def pageAnswer (source : PageSource) (code : EndpointCode) (paging : Paging) (window : Option DateWindow)
    (page : Nat) : Option (Int × List Json) :=
  match pageRequestBody code.text paging window page with
  | .error _ => none
  | .ok body =>
    match source.fetch body with
    | .error _ => none
    | .ok response =>
      match orderManagementResponseReader paging response with
      | (some total, some rows) => some (total, rows)
      | _ => none

variable {page : Nat} {body : OrderedMap String Json} {state next : FetchState} {more : Bool}

/-- **A page is a failure, or it is taken.** -/
theorem fetchPage_cases (asked : pageRequestBody code.text paging window page = .ok body)
    (done : fetchPage source paging page body state = .ok (next, more)) :
    (∃ failure, next = state.fail failure ∧ more = false) ∨
      ∃ total rows, pageAnswer source code paging window page = some (total, rows) ∧ next = state.take total rows := by
  unfold pageAnswer
  unfold fetchPage at done
  rw [asked]
  dsimp only
  cases fetched : source.fetch body with
  | error error =>
    rw [fetched] at done
    obtain ⟨rfl, rfl⟩ := Prod.mk.inj (Except.ok.inj done)
    exact .inl ⟨_, rfl, rfl⟩
  | ok response =>
    rw [fetched] at done
    dsimp only at done ⊢
    rcases read : orderManagementResponseReader paging response with ⟨_ | total, _ | rows⟩
    all_goals rw [read] at done
    · obtain ⟨rfl, rfl⟩ := Prod.mk.inj (Except.ok.inj done)
      exact .inl ⟨_, rfl, rfl⟩
    · obtain ⟨rfl, rfl⟩ := Prod.mk.inj (Except.ok.inj done)
      exact .inl ⟨_, rfl, rfl⟩
    · obtain ⟨rfl, rfl⟩ := Prod.mk.inj (Except.ok.inj done)
      exact .inl ⟨_, rfl, rfl⟩
    · obtain ⟨-, done⟩ := check_ok_iff.mp done
      split at done
      · obtain ⟨rfl, -⟩ := Prod.mk.inj (Except.ok.inj done)
        exact .inr ⟨total, rows, rfl, rfl⟩
      · obtain ⟨rfl, rfl⟩ := Prod.mk.inj (Except.ok.inj done)
        exact .inl ⟨_, rfl, rfl⟩

theorem fetchPage_of_answer {total : Int} {rows : List Json}
    (asked : pageRequestBody code.text paging window page = .ok body)
    (answered : pageAnswer source code paging window page = some (total, rows))
    (hook : source.onPage page rows = .ok ()) (accepted : acceptsTotal paging state.total page total rows = true) :
    fetchPage source paging page body state =
      .ok (state.take total rows, decide (paging.defaultPageSize ≤ rows.length)) := by
  unfold pageAnswer at answered
  unfold fetchPage
  rw [asked] at answered
  dsimp only at answered
  cases fetched : source.fetch body with
  | error error =>
    rw [fetched] at answered
    exact nomatch answered
  | ok response =>
    rw [fetched] at answered
    dsimp only at answered ⊢
    rcases read : orderManagementResponseReader paging response with ⟨_ | total', _ | rows'⟩
    all_goals rw [read] at answered
    · exact nomatch answered
    · exact nomatch answered
    · exact nomatch answered
    · obtain ⟨rfl, rfl⟩ := Prod.mk.inj (Option.some.inj answered)
      dsimp only
      rw [hook, accepted]
      rfl

/-! ## Walks -/

/-- The walk has taken these answers, from a page on. -/
structure Walked (source : PageSource) (code : EndpointCode) (paging : Paging) (window : Option DateWindow) (page : Nat)
    (state final : FetchState) (answers : List (Int × List Json)) : Prop where
  answered : ∀ i (bound : i < answers.length), pageAnswer source code paging window (page + i) = some answers[i]
  rows : final.rows = state.rows ++ answers.flatMap (·.2)
  pagesFetched : final.pagesFetched = state.pagesFetched + answers.length
  total : final.total = state.total.or (answers.head?.map (·.1))

theorem Walked.stop (page : Nat) (state : FetchState) : Walked source code paging window page state state [] where
  answered := nofun
  rows := (List.append_nil _).symm
  pagesFetched := rfl
  total := (Option.or_none).symm

theorem Walked.failed (page : Nat) (state : FetchState) (failure : String) :
    Walked source code paging window page state (state.fail failure) [] where
  answered := nofun
  rows := (List.append_nil _).symm
  pagesFetched := rfl
  total := (Option.or_none).symm

theorem Walked.cons {total : Int} {rows : List Json} {final : FetchState} {answers : List (Int × List Json)}
    (here : pageAnswer source code paging window page = some (total, rows))
    (later : Walked source code paging window (page + 1) (state.take total rows) final answers) :
    Walked source code paging window page state final ((total, rows) :: answers) where
  answered := by
    intro i bound
    cases i with
    | zero => exact here
    | succ i =>
      rw [List.getElem_cons_succ, ← later.answered i (Nat.lt_of_succ_lt_succ bound), Nat.add_right_comm]
      rfl
  rows := by rw [later.rows, FetchState.take, List.flatMap_cons, List.append_assoc]
  pagesFetched := by
    rw [later.pagesFetched, FetchState.take, List.length_cons]
    dsimp only
    omega
  total := by
    rw [later.total, FetchState.take]
    cases state.total <;> rfl

/-- **The loop takes the rows of consecutive pages.** -/
theorem fetchPagesFrom_walks {pages : Nat} {final : FetchState}
    (done : fetchPagesFrom source code paging window pages page state = .ok final) :
    ∃ answers, Walked source code paging window page state final answers := by
  induction pages generalizing page state with
  | zero =>
    obtain rfl := Except.ok.inj done
    exact ⟨[], Walked.stop page state⟩
  | succ pages ih =>
    obtain ⟨body, asked, done⟩ := bind_eq_ok done
    obtain ⟨⟨next, more⟩, fetched, done⟩ := bind_eq_ok done
    rcases fetchPage_cases asked fetched with ⟨failure, rfl, rfl⟩ | ⟨total, rows, answered, rfl⟩
    · obtain rfl := Except.ok.inj done
      exact ⟨[], Walked.failed page state failure⟩
    · cases more with
      | false =>
        obtain rfl := Except.ok.inj done
        exact ⟨_, Walked.cons answered (Walked.stop _ _)⟩
      | true =>
        obtain ⟨answers, walked⟩ := ih done
        exact ⟨_, Walked.cons answered walked⟩

variable {fetched : Fetched}

/-- What `fetchPageRows` returns comes from consecutive pages, the first one first. -/
theorem fetchPageRows_walks {maxPages : Nat} (done : fetchPageRows source code paging window maxPages = .ok fetched) :
    ∃ answers : List (Int × List Json), answers.length = fetched.pagesFetched ∧
      (∀ i (bound : i < answers.length), pageAnswer source code paging window (i + 1) = some answers[i]) ∧
      fetched.rows = answers.flatMap (·.2) ∧ fetched.total = answers.head?.map (·.1) := by
  obtain ⟨-, done⟩ := check_ok_iff.mp done
  obtain ⟨state, walk, done⟩ := bind_eq_ok done
  obtain ⟨answers, walked⟩ := fetchPagesFrom_walks walk
  have same : fetched.rows = state.rows ∧ fetched.total = state.total ∧ fetched.pagesFetched = state.pagesFetched := by
    dsimp only at done
    split at done
    all_goals
      obtain rfl := Except.ok.inj done
      exact ⟨rfl, rfl, rfl⟩
  refine ⟨answers, ?_, ?_, ?_, ?_⟩
  · rw [same.2.2, walked.pagesFetched]
    exact (Nat.zero_add _).symm
  · intro i bound
    rw [Nat.add_comm]
    exact walked.answered i bound
  · rw [same.1, walked.rows]
    rfl
  · rw [same.2.1, walked.total]
    rfl

/-! ## Rows -/

variable {maker : RowMaker} {pageId : PageId} {storeCode : String}

theorem id_of_valid {isDate : Json → Bool} {row : Json} (valid : validateOrderManagementRow isDate pageId row = []) :
    ∃ id, row.field? "id" = some (.str id) := by
  cases row with
  | obj fields =>
    unfold validateOrderManagementRow at valid
    simp only [List.append_eq_nil_iff] at valid
    have named : isNonEmptyText ((Json.obj fields).field? "id") = true := by
      by_contra other
      rw [if_neg other] at valid
      exact absurd valid (by simp)
    unfold isNonEmptyText at named
    split at named
    · next text here => exact ⟨text, here⟩
    · exact nomatch named
  | null => exact nomatch valid
  | bool b => exact nomatch valid
  | num n => exact nomatch valid
  | str text => exact nomatch valid
  | arr items => exact nomatch valid

theorem id_of_buildRow {record row : Json} (done : buildRow maker pageId storeCode record = .ok (some row)) :
    ∃ id, row.field? "id" = some (.str id) := by
  obtain ⟨built, -, done⟩ := bind_eq_ok done
  cases built with
  | none => exact nomatch Except.ok.inj done
  | some built =>
    dsimp only at done
    split at done
    · next valid =>
      obtain rfl := Option.some.inj (Except.ok.inj done)
      exact id_of_valid valid
    · exact nomatch done

def MakesRows (maker : RowMaker) (pageId : PageId) (storeCode : String) : List Json → List Json → Prop :=
  List.Forall₂ fun record row => buildRow maker pageId storeCode record = .ok (some row)

variable {built : Built}

theorem makesRows_of_kept {records : List Json}
    (done : buildRowsForPage maker pageId storeCode records = .ok built) (kept : built.dropped = 0) :
    MakesRows maker pageId storeCode records built.rows := by
  obtain ⟨rows, mapped, made⟩ := bind_eq_ok done
  obtain rfl := Except.ok.inj made
  have all_kept : ∀ row ∈ rows, row ≠ none := by simpa using kept
  have pairs := forall₂_of_mapM mapped
  clear mapped done made kept
  induction pairs with
  | nil => exact .nil
  | @cons record row records rows here _ ih =>
    obtain ⟨some_row, later⟩ := List.forall_mem_cons.mp all_kept
    cases row with
    | none => exact absurd rfl some_row
    | some row => exact .cons here (ih later)

variable {records rows : List Json}

theorem buildRowsForPage_of_makes (makes : MakesRows maker pageId storeCode records rows) :
    buildRowsForPage maker pageId storeCode records = .ok { rows := rows, dropped := 0 } := by
  have mapped : records.mapM (buildRow maker pageId storeCode) = .ok (rows.map some) := by
    induction makes with
    | nil => rfl
    | cons here _ ih =>
      rw [List.mapM_cons, here, ih]
      rfl
  unfold buildRowsForPage
  rw [mapped]
  show Except.ok _ = _
  rw [List.filterMap_map, List.countP_map]
  simp [Function.comp_def]

theorem rowIds_of_makes (makes : MakesRows maker pageId storeCode records rows) :
    rows.map (·.field? "id") = (rowIds rows).map fun id => some (.str id) := by
  induction makes with
  | nil => rfl
  | cons here _ ih =>
    obtain ⟨id, found⟩ := id_of_buildRow here
    have first : ∀ later, rowIds (_ :: later) = id :: rowIds later := fun later => by
      unfold rowIds
      rw [List.filterMap_cons, found]
      rfl
    rw [List.map_cons, first, List.map_cons, found, ih]

/-! ## The gate -/

theorem storePageGates_ok_iff : (storePageGates fetched built).ok = true ↔
    (fetched.total = some (fetched.rows.length : Int) ∧ built.rows.length = fetched.rows.length) ∧
      (0 < fetched.pagesFetched ∧ fetched.failures = []) ∧ (rowIds built.rows).Nodup ∧
      built.dropped = 0 ∧ (fetched.total = some 0 ∨ 0 < built.rows.length) := by
  have nodup : (rowIds built.rows).dedup.length = (rowIds built.rows).length ↔ (rowIds built.rows).Nodup := by
    rw [← List.dedup_eq_self]
    exact ⟨fun same => (List.dedup_sublist _).eq_of_length same, congrArg List.length⟩
  unfold storePageGates
  rw [decide_eq_true_iff, nodup]

theorem storePageGates_sound {maxPages : Nat} (fetch : fetchPageRows source code paging window maxPages = .ok fetched)
    (build : buildRowsForPage maker pageId storeCode fetched.rows = .ok built)
    (passed : (storePageGates fetched built).ok = true) : (∃ answers : List (Int × List Json),
      (∀ i (bound : i < answers.length), pageAnswer source code paging window (i + 1) = some answers[i]) ∧
      fetched.rows = answers.flatMap (·.2) ∧ answers.head?.map (·.1) = some (fetched.rows.length : Int)) ∧
    MakesRows maker pageId storeCode fetched.rows built.rows ∧
    ∃ ids : List String, built.rows.map (·.field? "id") = ids.map (fun id => some (.str id)) ∧ ids.Nodup := by
  obtain ⟨⟨total, -⟩, -, distinct, kept, -⟩ := storePageGates_ok_iff.mp passed
  obtain ⟨answers, -, answered, rows, first⟩ := fetchPageRows_walks fetch
  have makes := makesRows_of_kept build kept
  exact ⟨⟨answers, answered, rows, first ▸ total⟩, makes, rowIds built.rows, rowIds_of_makes makes, distinct⟩

/-! ## A list that is served in order -/

def pageOf (size : Nat) (list : List Json) (page : Nat) : List Json := (list.drop ((page - 1) * size)).take size

/-- The platform serves a list in order. The first page reports its length, a later one the length, what remains, or
how many records it has itself. -/
structure Serves (source : PageSource) (code : EndpointCode) (paging : Paging) (window : Option DateWindow)
    (maxPages : Nat) (list : List Json) (totals : Nat → Int) : Prop where
  answered : ∀ page, 1 ≤ page → page ≤ maxPages →
    pageAnswer source code paging window page = some (totals page, pageOf paging.defaultPageSize list page)
  first : totals 1 = list.length
  later : ∀ page, 1 < page → page ≤ maxPages → totals page = list.length ∨
    totals page = (list.length - (page - 1) * paging.defaultPageSize : Nat) ∨
      totals page = (pageOf paging.defaultPageSize list page).length
  hook : ∀ page, 1 ≤ page → page ≤ maxPages →
    source.onPage page (pageOf paging.defaultPageSize list page) = .ok ()

/-- The walk has taken the first pages of the list, all of them full. -/
structure Collected (size : Nat) (list : List Json) (pages : Nat) (state : FetchState) : Prop where
  full : pages * size ≤ list.length
  rows : state.rows = list.take (pages * size)
  pagesFetched : state.pagesFetched = pages
  failures : state.failures = []
  total : state.total = if pages = 0 then none else some (list.length : Int)

variable {maxPages pages : Nat} {list : List Json} {totals : Nat → Int}

theorem Serves.accepts (serves : Serves source code paging window maxPages list totals)
    (collected : Collected paging.defaultPageSize list pages state) (inside : pages < maxPages) :
    acceptsTotal paging state.total (pages + 1) (totals (pages + 1))
      (pageOf paging.defaultPageSize list (pages + 1)) = true := by
  unfold acceptsTotal
  rw [collected.total]
  split
  · rfl
  · next known here =>
    have some_page : pages ≠ 0 := by
      rintro rfl
      exact nomatch here
    rw [if_neg some_page] at here
    obtain rfl := Option.some.inj here
    have full := collected.full
    rw [Nat.add_sub_cancel, List.contains_iff_mem]
    rcases serves.later (pages + 1) (by omega) (by omega) with all | remaining | own
    · exact all ▸ List.mem_cons_self
    · rw [Nat.add_sub_cancel] at remaining
      have same : totals (pages + 1) = max ((list.length : Int) - (pages : Nat) * paging.defaultPageSize) 0 := by
        rw [remaining]
        push_cast [full]
        omega
      rw [same]
      exact List.mem_cons_of_mem _ List.mem_cons_self
    · rw [own]
      exact List.mem_cons_of_mem _ (List.mem_cons_of_mem _ (List.mem_singleton_self _))

theorem Collected.take (serves : Serves source code paging window maxPages list totals)
    (collected : Collected paging.defaultPageSize list pages state) :
    (state.take (totals (pages + 1)) (pageOf paging.defaultPageSize list (pages + 1))).rows =
        list.take ((pages + 1) * paging.defaultPageSize) ∧
      (state.take (totals (pages + 1)) (pageOf paging.defaultPageSize list (pages + 1))).total =
        some (list.length : Int) := by
  unfold FetchState.take pageOf
  rw [collected.rows, collected.total, Nat.add_sub_cancel, Nat.succ_mul, List.take_add]
  refine ⟨rfl, ?_⟩
  split
  · next none =>
    rw [none, Nat.zero_add, serves.first]
    rfl
  · rfl

/-- **The walk collects the list.** -/
theorem fetchPagesFrom_collects (serves : Serves source code paging window maxPages list totals) (left : Nat)
    (collected : Collected paging.defaultPageSize list pages state) (inside : pages + left ≤ maxPages) :
    ∃ final, fetchPagesFrom source code paging window left (pages + 1) state = .ok final ∧
      final.rows = list.take ((pages + left) * paging.defaultPageSize) ∧ final.failures = [] ∧
      (0 < pages + left → 0 < final.pagesFetched ∧ final.total = some (list.length : Int)) := by
  induction left generalizing pages state with
  | zero =>
    refine ⟨state, rfl, collected.rows, collected.failures, ?_⟩
    intro positive
    rw [Nat.add_zero] at positive
    rw [collected.pagesFetched, collected.total, if_neg positive.ne']
    exact ⟨positive, rfl⟩
  | succ left ih =>
    have answered := serves.answered (pages + 1) (by omega) (by omega)
    obtain ⟨body, asked⟩ : ∃ body, pageRequestBody code.text paging window (pages + 1) = .ok body := by
      unfold pageAnswer at answered
      split at answered
      · exact nomatch answered
      · next body asked => exact ⟨body, asked⟩
    have page := fetchPage_of_answer asked answered (serves.hook (pages + 1) (by omega) (by omega))
      (serves.accepts collected (by omega))
    obtain ⟨rows, total⟩ := collected.take serves
    have size : (pageOf paging.defaultPageSize list (pages + 1)).length =
        min paging.defaultPageSize (list.length - pages * paging.defaultPageSize) := by
      unfold pageOf
      rw [List.length_take, List.length_drop, Nat.add_sub_cancel]
    have whole : (pages + 1) * paging.defaultPageSize = pages * paging.defaultPageSize + paging.defaultPageSize :=
      Nat.succ_mul ..
    have bound := collected.full
    rw [fetchPagesFrom, asked]
    by_cases full : paging.defaultPageSize ≤ (pageOf paging.defaultPageSize list (pages + 1)).length
    · have next : Collected paging.defaultPageSize list (pages + 1)
          (state.take (totals (pages + 1)) (pageOf paging.defaultPageSize list (pages + 1))) :=
        { full := by omega
          rows := rows
          pagesFetched := congrArg (· + 1) collected.pagesFetched
          failures := collected.failures
          total := total }
      obtain ⟨final, done, all⟩ := ih next (by omega)
      refine ⟨final, ?_, ?_⟩
      · show (fetchPage source paging (pages + 1) body state >>= _) = _
        rw [page, decide_eq_true full]
        exact done
      · rw [← Nat.add_assoc, Nat.add_right_comm]
        exact all
    · refine ⟨state.take (totals (pages + 1)) (pageOf paging.defaultPageSize list (pages + 1)), ?_, ?_,
        collected.failures, fun _ => ⟨Nat.succ_pos _, total⟩⟩
      · show (fetchPage source paging (pages + 1) body state >>= _) = _
        rw [page, decide_eq_false full]
        rfl
      · have more : (pages + 1) * paging.defaultPageSize ≤ (pages + (left + 1)) * paging.defaultPageSize :=
          Nat.mul_le_mul_right _ (by omega)
        rw [rows, List.take_of_length_le (by omega), List.take_of_length_le (by omega)]

theorem window_of_answer {answer : Int × List Json}
    (answered : pageAnswer source code paging window page = some answer) :
    ¬(code.endpoint.windowFields.isSome = true ∧ window.isNone = true) := by
  rintro ⟨fields, absent⟩
  obtain rfl := Option.isNone_iff_eq_none.mp absent
  obtain ⟨fields, here⟩ := Option.isSome_iff_exists.mp fields
  have post : code.endpoint.method = "POST" := by cases code <;> rfl
  have refused : pageRequestBody code.text paging none page =
      .error (contractError "ORDER_MANAGEMENT_WINDOW_REQUIRED") := by
    unfold pageRequestBody orderManagementRequestBody endpointBody
    rw [findEndpoint_text]
    dsimp only
    rw [here, refuse, if_neg (not_not_intro post)]
    rfl
  unfold pageAnswer at answered
  rw [refused] at answered
  exact nomatch answered

/-- **A list that is served in order is fetched as it is.** -/
theorem fetchPageRows_collects (serves : Serves source code paging window maxPages list totals)
    (some_page : 0 < maxPages) (fits : list.length ≤ maxPages * paging.defaultPageSize) :
    ∃ fetched, fetchPageRows source code paging window maxPages = .ok fetched ∧ fetched.rows = list ∧
      fetched.failures = [] ∧ 0 < fetched.pagesFetched ∧ fetched.total = some (list.length : Int) := by
  have start : Collected paging.defaultPageSize list 0 {} :=
    { full := by rw [Nat.zero_mul]; exact Nat.zero_le _
      rows := by rw [Nat.zero_mul]; rfl
      pagesFetched := rfl
      failures := rfl
      total := rfl }
  obtain ⟨final, walk, rows, failures, all⟩ := fetchPagesFrom_collects serves maxPages start (by omega)
  rw [Nat.zero_add] at rows all walk
  rw [List.take_of_length_le fits] at rows
  obtain ⟨fetched, total⟩ := all some_page
  have reached : final.reachedTotal = true := by
    unfold Fetched.reachedTotal
    rw [total, rows]
    exact decide_eq_true (le_refl _)
  refine ⟨final.toFetched, ?_, rows, failures, fetched, total⟩
  unfold fetchPageRows
  rw [refuse, if_neg (window_of_answer (serves.answered 1 le_rfl some_page)), walk]
  show (if _ then _ else _) = _
  rw [if_neg]
  · rfl
  · rintro (none | ⟨-, short⟩)
    · exact absurd none fetched.ne'
    · exact absurd reached (short ▸ Bool.false_ne_true)

def exceptionsPaging : Paging where
  pageKey := "page"
  pageSizeKey := "perPage"
  defaultPageSize := 50
  pageSizeValue := none
  totalPath := ["info", "meta", "count"]
  rowsPath := ["info", "data"]

def exceptionsResponse (total : Nat) (rows : List Json) : Json :=
  .obj [("body", .obj [("info", .obj [("meta", .obj [("count", .ofNat total)]), ("data", .arr rows)])])]

/-- A platform that serves the exceptions of a list in order, with the total that is given for each page. -/
def listSource (total : Nat → Nat) (list : List Json) : PageSource where
  fetch body :=
    match body.get? "page" with
    | some (.num (.int page)) => .ok (some (exceptionsResponse (total page.toNat) (pageOf 50 list page.toNat)))
    | _ => .error {}
  platformMessageDigest := id
  onPage _ _ := .ok ()

theorem pageAnswer_listSource {total : Nat → Nat} {list : List Json} {page : Nat} (safe : total page ≤ maxSafeInteger) :
    pageAnswer (listSource total list) .exceptionsPage exceptionsPaging none page =
      some ((total page : Int), pageOf 50 list page) := by
  have asked : pageRequestBody EndpointCode.exceptionsPage.text exceptionsPaging none page =
      .ok ((OrderedMap.empty.set "page" (.ofNat page)).set "perPage" (.ofNat 50)) := by
    unfold pageRequestBody orderManagementRequestBody
    rw [findEndpoint_text]
    rfl
  have fetched : (listSource total list).fetch ((OrderedMap.empty.set "page" (.ofNat page)).set "perPage" (.ofNat 50)) =
      .ok (some (exceptionsResponse (total page) (pageOf 50 list page))) := by
    unfold listSource
    dsimp only
    rw [OrderedMap.get?_set, if_neg (by decide), OrderedMap.get?_set, if_pos rfl]
    rfl
  have read : orderManagementResponseReader exceptionsPaging
      (some (exceptionsResponse (total page) (pageOf 50 list page))) =
        (some (total page : Int), some (pageOf 50 list page)) := by
    have count : readTotal (some (Json.ofNat (total page))) = some (total page : Int) := if_pos safe
    exact Prod.ext count rfl
  unfold pageAnswer
  rw [asked]
  dsimp only
  rw [fetched]
  dsimp only
  rw [read]

def exceptionRecords (count : Nat) : List Json :=
  (List.range count).map fun n => .obj [("workorderNo", .ofNat n)]

/-- The builder of the exceptions of a store, without instants. -/
def exceptionMaker : RowMaker where
  allowlist := "id" :: "workorderNo" :: exceptionFacts
  build := buildExceptionRow (fun _ => .null) "QTMZdsy3688" "2026-08-08T06:00:00.000Z"
  isDate _ := true

end FullManagedBi.OrderManagement
