import FullManagedBi.OpenApi.PaginatedFetch

/-!
# Completeness of a sequence of pages

What a sequence returns is what the server answered on consecutive pages from the start page, of which the last one
is short (`pageLoop_reads`), and a list that a server gives out page by page comes back whole (`pageLoop_serves`):
the loop keeps that the items are the list up to the page (`Taken`). Both are about one round first
(`pageRound_reads`, `pageRound_serves`).
-/

namespace FullManagedBi.OpenApi

open Lib

variable {ρ α : Type} {H : Digest} {options : PageOptions ρ α} {pageSize maxItems : Nat} {state : PageState α}
  {page : Nat}

/-! ## What is read -/

def Answers (options : PageOptions ρ α) (page : Nat) (items : List α) : Prop :=
  ∃ response, options.fetchPage page = .ok response ∧ options.getItems response page = .ok (some items)

/-- What a round comes to that read these items. -/
def Round.Reads (pageSize page : Nat) (before : List α) (items : List α) : Round α → Prop
  | .next state => items.length = pageSize ∧ state.items = before ++ items
  | .done sequence => items.length < pageSize ∧ sequence.items = before ++ items ∧ sequence.terminalPage = page

theorem requireItems_eq_ok {value : Option (List α)} {items : List α} :
    requireItems value page = .ok items ↔ value = some items := by
  cases value with
  | none => exact iff_of_false nofun nofun
  | some others => simp [requireItems]

theorem closeRound_reads {round : Round α} {before items : List α} (le : items.length ≤ pageSize)
    (same : state.items = before ++ items) (done : closeRound pageSize state page items.length = .ok round) :
    round.Reads pageSize page before items := by
  unfold closeRound at done
  split at done
  · next short =>
    split at done
    · exact nomatch done
    · obtain rfl := Except.ok.inj done
      exact ⟨short, same, rfl⟩
  · next full =>
    obtain rfl := Except.ok.inj done
    exact ⟨le_antisymm le (not_lt.mp full), same⟩

theorem pageRound_reads {round : Round α} (done : pageRound H options pageSize maxItems state page = .ok round) :
    ∃ items, Answers options page items ∧ round.Reads pageSize page state.items items := by
  obtain ⟨response, fetched, done⟩ := bind_eq_ok done
  obtain ⟨value, read, done⟩ := bind_eq_ok done
  obtain ⟨items, required, done⟩ := bind_eq_ok done
  obtain ⟨inside, done⟩ := check_ok_iff.mp done
  obtain ⟨observed, _, done⟩ := bind_eq_ok done
  obtain ⟨count, _, done⟩ := bind_eq_ok done
  obtain ⟨seen, _, done⟩ := bind_eq_ok done
  obtain ⟨_, done⟩ := check_ok_iff.mp done
  rw [requireItems_eq_ok] at required
  rw [refuse_eq_ok, not_lt] at inside
  exact ⟨items, ⟨response, fetched, required ▸ read⟩, closeRound_reads inside rfl done⟩

/-- What a run read: the pages, all of them full but the last one. -/
structure SequenceRead (options : PageOptions ρ α) (pageSize page : Nat) (before : List α) (requests : List Nat)
    (sequence : PageSequence α) (front : List (List α)) (last : List α) : Prop where
  asked : requests.length = front.length + 1
  answers : ∀ i items, (front ++ [last])[i]? = some items → Answers options (page + i) items
  full : ∀ items ∈ front, items.length = pageSize
  short : last.length < pageSize
  items_eq : sequence.items = before ++ (front ++ [last]).flatten
  terminalPage_eq : sequence.terminalPage = page + front.length

/-- The loop asks for consecutive pages, for no more than the rounds it has. -/
theorem pageLoop_requests {rounds : Nat} : ∃ count ≤ rounds,
    (pageLoop H options pageSize maxItems rounds page state).1 = List.range' page count := by
  induction rounds generalizing page state with
  | zero => exact ⟨0, le_rfl, rfl⟩
  | succ rounds ih =>
    rw [pageLoop]
    cases pageRound H options pageSize maxItems state page with
    | error e => exact ⟨1, by omega, rfl⟩
    | ok round =>
      cases round with
      | done sequence => exact ⟨1, by omega, rfl⟩
      | next after =>
        have later : ∃ count ≤ rounds, (pageLoop H options pageSize maxItems rounds (page + 1) after).1 =
            List.range' (page + 1) count := ih
        obtain ⟨count, le, same⟩ := later
        refine ⟨count + 1, by omega, ?_⟩
        rw [List.range'_succ]
        exact congrArg (page :: ·) same

theorem pageLoop_reads {rounds : Nat} {sequence : PageSequence α}
    (done : (pageLoop H options pageSize maxItems rounds page state).2 = .ok sequence) :
    ∃ front last, SequenceRead options pageSize page state.items
      (pageLoop H options pageSize maxItems rounds page state).1 sequence front last := by
  induction rounds generalizing page state with
  | zero => exact nomatch done
  | succ rounds ih =>
    rw [pageLoop] at done ⊢
    cases result : pageRound H options pageSize maxItems state page with
    | error e =>
      rw [result] at done
      exact nomatch done
    | ok round =>
      obtain ⟨items, answer, reads⟩ := pageRound_reads result
      rw [result] at done
      cases round with
      | done other =>
        obtain rfl := Except.ok.inj done
        obtain ⟨short, same, terminal⟩ := reads
        refine ⟨[], items, rfl, ?_, nofun, short, ?_, terminal⟩
        · intro i others there
          rw [List.nil_append, List.getElem?_singleton] at there
          split at there
          · next zero =>
            obtain rfl := Option.some.inj there
            exact zero ▸ answer
          · exact nomatch there
        · simpa using same
      | next after =>
        obtain ⟨full, same⟩ := reads
        obtain ⟨front, last, read⟩ := ih done
        refine ⟨items :: front, last, ?_, ?_, ?_, read.short, ?_, ?_⟩
        · have asked := read.asked
          simp only [List.length_cons]
          omega
        · intro i others there
          cases i with
          | zero => exact Option.some.inj there ▸ answer
          | succ i =>
            have later := read.answers i others there
            rwa [Nat.add_right_comm] at later
        · exact List.forall_mem_cons.mpr ⟨full, read.full⟩
        · rw [read.items_eq, same, List.append_assoc]
          rfl
        · rw [read.terminalPage_eq, List.length_cons]
          omega

/-! ## A list given out page by page -/

def pageOf (pageSize : Nat) (list : List α) (offset : Nat) : List α := (list.drop (offset * pageSize)).take pageSize

def pageFingerprint (H : Digest) (options : PageOptions ρ α) (pageSize : Nat) (list : List α) (offset : Nat) : String :=
  H.payloadFingerprint (.arr ((pageOf pageSize list offset).map options.fingerprintItem))

/-- The server gives out a list page by page, with no count or the same count, not above the length, on each page, and
the pages of the list differ in their fingerprints. -/
structure ServesList (H : Digest) (options : PageOptions ρ α) (pageSize startPage : Nat) (list : List α)
    (count : Nat) : Prop where
  answers : ∀ offset, ∃ response, options.fetchPage (startPage + offset) = .ok response ∧
    options.getItems response (startPage + offset) = .ok (some (pageOf pageSize list offset)) ∧
    (options.getAdvertisedCount response (startPage + offset) = .ok none ∨
      options.getAdvertisedCount response (startPage + offset) = .ok (some (some count)))
  count_le : count ≤ list.length
  distinct : ∀ i j, i < j → pageOf pageSize list j ≠ [] →
    pageFingerprint H options pageSize list i ≠ pageFingerprint H options pageSize list j

/-- The state of the loop ahead of a page: the list up to the page is read. -/
structure Taken (H : Digest) (options : PageOptions ρ α) (pageSize : Nat) (list : List α) (count offset : Nat)
    (state : PageState α) : Prop where
  inside : offset * pageSize ≤ list.length
  items_eq : state.items = list.take (offset * pageSize)
  count_eq : state.advertisedCount = none ∨ state.advertisedCount = some count
  seen : ∀ fingerprint ∈ state.seenPageFingerprints.keys, ∃ i < offset,
    fingerprint = pageFingerprint H options pageSize list i

variable {startPage count offset : Nat} {list : List α}

variable (pageSize offset list) in
theorem length_pageOf : (pageOf pageSize list offset).length = min pageSize (list.length - offset * pageSize) := by
  simp [pageOf]

theorem take_append_pageOf : list.take (offset * pageSize) ++ pageOf pageSize list offset =
    list.take ((offset + 1) * pageSize) := by
  rw [pageOf, Nat.succ_mul, ← List.take_add]

variable (page) in
theorem observeCount_serves {observed : Option (Option Int)} {before : Option Nat}
    (known : before = none ∨ before = some count) (answer : observed = none ∨ observed = some (some (count : Int))) :
    ∃ after, observeCount before observed page = .ok after ∧ (after = none ∨ after = some count) := by
  rcases answer with rfl | rfl
  · exact ⟨before, rfl, known⟩
  · refine ⟨some count, ?_, .inr rfl⟩
    rcases known with rfl | rfl
    · simp [observeCount]
    · simp [observeCount]

variable (page) in
theorem noteFingerprint_serves (distinct : ∀ i j, i < j → pageOf pageSize list j ≠ [] →
      pageFingerprint H options pageSize list i ≠ pageFingerprint H options pageSize list j)
    (taken : Taken H options pageSize list count offset state) :
    ∃ seen, noteFingerprint state.seenPageFingerprints (pageOf pageSize list offset)
        (pageFingerprint H options pageSize list offset) page = .ok seen ∧
      ∀ fingerprint ∈ seen.keys, ∃ i < offset + 1, fingerprint = pageFingerprint H options pageSize list i := by
  have earlier : ∀ fingerprint ∈ state.seenPageFingerprints.keys, ∃ i < offset + 1,
      fingerprint = pageFingerprint H options pageSize list i := by
    intro fingerprint mem
    obtain ⟨i, below, same⟩ := taken.seen fingerprint mem
    exact ⟨i, Nat.lt_succ_of_lt below, same⟩
  unfold noteFingerprint
  split
  · exact ⟨_, rfl, earlier⟩
  · next some =>
    rw [List.length_eq_zero_iff] at some
    cases found : state.seenPageFingerprints.get? (pageFingerprint H options pageSize list offset) with
    | some old =>
      obtain ⟨i, below, same⟩ := taken.seen _ (OrderedMap.mem_keys_iff.mpr ⟨old, found⟩)
      exact absurd same.symm (distinct i offset below some)
    | none =>
      refine ⟨_, rfl, ?_⟩
      intro fingerprint mem
      rw [OrderedMap.mem_keys_iff] at mem
      simp only [OrderedMap.get?_set] at mem
      split at mem
      · next here => exact ⟨offset, Nat.lt_succ_self _, here⟩
      · exact earlier fingerprint (OrderedMap.mem_keys_iff.mpr mem)

/-- A round for a page of the list: a full page is taken, and a short one ends the list. -/
theorem pageRound_serves (serves : ServesList H options pageSize startPage list count) (budget : list.length ≤ maxItems)
    (taken : Taken H options pageSize list count offset state) :
    (∃ after, pageRound H options pageSize maxItems state (startPage + offset) = .ok (.next after) ∧
      Taken H options pageSize list count (offset + 1) after) ∨
    ∃ sequence, pageRound H options pageSize maxItems state (startPage + offset) = .ok (.done sequence) ∧
      sequence.items = list := by
  obtain ⟨response, fetched, read, counted⟩ := serves.answers offset
  obtain ⟨observed, countRead, answer⟩ : ∃ observed,
      options.getAdvertisedCount response (startPage + offset) = .ok observed ∧
        (observed = none ∨ observed = some (some (count : Int))) := by
    rcases counted with absent | same
    · exact ⟨none, absent, .inl rfl⟩
    · exact ⟨_, same, .inr rfl⟩
  obtain ⟨advertisedCount, countKept, known⟩ := observeCount_serves (startPage + offset) taken.count_eq answer
  obtain ⟨seen, noted, seenKept⟩ := noteFingerprint_serves (startPage + offset) serves.distinct taken
  have inside := taken.inside
  have length := length_pageOf pageSize offset list
  have overflow : ¬ pageSize < (pageOf pageSize list offset).length := by omega
  have items_eq : state.items ++ pageOf pageSize list offset = list.take ((offset + 1) * pageSize) := by
    rw [taken.items_eq, take_append_pageOf]
  have within : ¬ maxItems < (state.items ++ pageOf pageSize list offset).length := by
    rw [items_eq, List.length_take]
    omega
  have round : pageRound H options pageSize maxItems state (startPage + offset) = closeRound pageSize
      ⟨state.items ++ pageOf pageSize list offset, state.pages ++ [⟨startPage + offset, pageSize,
        (pageOf pageSize list offset).length, pageFingerprint H options pageSize list offset⟩], seen,
        advertisedCount⟩ (startPage + offset) (pageOf pageSize list offset).length := by
    simp only [pageFingerprint] at noted ⊢
    simp only [pageRound, fetched, read, countRead, requireItems, bind, Except.bind, refuse, if_neg overflow,
      countKept, noted, if_neg within]
  rw [Nat.succ_mul] at items_eq
  rw [round, closeRound]
  by_cases short : (pageOf pageSize list offset).length < pageSize
  · right
    have whole : state.items ++ pageOf pageSize list offset = list := by
      rw [items_eq]
      exact List.take_of_length_le (by omega)
    have enough : ¬ ∃ total ∈ advertisedCount, (state.items ++ pageOf pageSize list offset).length < total := by
      rintro ⟨total, there, less⟩
      rw [whole] at less
      have bound := serves.count_le
      rcases known with rfl | rfl
      · exact nomatch there
      · obtain rfl := Option.some.inj there
        omega
    rw [if_pos short, if_neg enough]
    exact ⟨_, rfl, whole⟩
  · left
    rw [if_neg short]
    refine ⟨_, rfl, ?_, ?_, known, seenKept⟩
    · rw [Nat.succ_mul]
      omega
    · rw [Nat.succ_mul]
      exact items_eq

theorem pageLoop_serves (serves : ServesList H options pageSize startPage list count) (budget : list.length ≤ maxItems)
    {rounds : Nat} (taken : Taken H options pageSize list count offset state)
    (enough : list.length < (offset + rounds) * pageSize) :
    ∃ sequence, (pageLoop H options pageSize maxItems rounds (startPage + offset) state).2 = .ok sequence ∧
      sequence.items = list := by
  induction rounds generalizing offset state with
  | zero =>
    have inside := taken.inside
    rw [Nat.add_zero] at enough
    omega
  | succ rounds ih =>
    rw [pageLoop]
    rcases pageRound_serves serves budget taken with ⟨after, round, next⟩ | ⟨sequence, round, whole⟩
    · rw [round]
      rw [← Nat.add_assoc, Nat.add_right_comm] at enough
      exact ih next enough
    · rw [round]
      exact ⟨sequence, rfl, whole⟩

/-! ## The sequence -/

/-- **Completeness of a sequence of pages.** With valid options, a run asks for consecutive pages from the start
page, for at most `maxPages`; what it returns are the items of these pages in order, of which the last one and only
the last one is short. A server that gives out a list page by page gets its list back whole, where there are pages
and items enough. Without valid options no page is asked for. -/
theorem fetchPageSequence_law (H : Digest) (options : PageOptions ρ α) :
    (∀ e, checkPageOptions options = .error e → fetchPageSequence H options = ([], .error e)) ∧
    ∀ pageSize startPage maxPages maxItems,
      checkPageOptions options = .ok (pageSize, startPage, maxPages, maxItems) →
      (∃ requested ≤ maxPages, (fetchPageSequence H options).1 = List.range' startPage requested) ∧
      (∀ sequence, (fetchPageSequence H options).2 = .ok sequence → ∃ front last,
        SequenceRead options pageSize startPage [] (fetchPageSequence H options).1 sequence front last) ∧
      ∀ list count, ServesList H options pageSize startPage list count → list.length < maxPages * pageSize →
        list.length ≤ maxItems →
          ∃ sequence, (fetchPageSequence H options).2 = .ok sequence ∧ sequence.items = list := by
  constructor
  · intro e refused
    rw [fetchPageSequence, refused]
  · intro pageSize startPage maxPages maxItems checked
    have run : fetchPageSequence H options = pageLoop H options pageSize maxItems maxPages startPage {} := by
      rw [fetchPageSequence, checked]
    rw [run]
    refine ⟨pageLoop_requests, fun sequence done => pageLoop_reads done, ?_⟩
    intro list count serves enough budget
    have taken : Taken H options pageSize list count 0 {} := ⟨by simp, by simp, .inl rfl, nofun⟩
    exact pageLoop_serves serves budget taken (by rwa [Nat.zero_add])

/-! ## A list of three items -/

/-- A digest that tells texts of five characters from others. -/
def lengthDigest : Digest where
  sha256Hex text := String.ofList (List.replicate 64 (if text.length = 5 then 'a' else 'b'))
  isSha256Hex_sha256Hex text := by
    split
    · exact isSha256Hex_replicate (by decide)
    · exact isSha256Hex_replicate (by decide)

def threeItems : PageOptions (List Nat) Nat where
  fetchPage page := .ok (pageOf 2 [1, 2, 3] (page - 1))
  getItems response _ := .ok (some response)
  getAdvertisedCount _ _ := .ok (some (some 3))
  pageSize := some 2
  fingerprintItem := Json.ofNat

theorem threeItems_serves : ServesList lengthDigest threeItems 2 1 [1, 2, 3] 3 where
  answers offset := by
    refine ⟨pageOf 2 [1, 2, 3] offset, ?_, rfl, .inr rfl⟩
    change Except.ok (pageOf 2 [1, 2, 3] (1 + offset - 1)) = _
    rw [Nat.add_sub_cancel_left]
  count_le := le_rfl
  distinct := by
    intro i j less some
    have short : j < 2 := by
      by_contra far
      apply some
      rw [pageOf, List.drop_of_length_le, List.take_nil]
      change 3 ≤ j * 2
      omega
    obtain rfl : j = 1 := by omega
    obtain rfl : i = 0 := by omega
    decide

theorem threeItems_fetched : ∃ sequence, (fetchPageSequence lengthDigest threeItems).2 = .ok sequence ∧
    sequence.items = [1, 2, 3] :=
  ((fetchPageSequence_law lengthDigest threeItems).2 2 1 10000 1000000 (by decide)).2.2 [1, 2, 3] 3
    threeItems_serves (by decide) (by decide)

end FullManagedBi.OpenApi
