import FullManagedBi.Lib.Tiling
import FullManagedBi.OrderManagement.Windows

/-!
# The window splitters agree

The loop that two of the splitters share tiles the days (`cutForwards_tiles`), and the third, which reads
each end back from its text, takes the same steps (`historyLoop_eq`), because every end is a day between
two calendar dates.
-/

namespace FullManagedBi.OrderManagement

open Lib

variable {D : DateBuiltins} {maximumDays last : Int}

def halfOpen (range : Int × Int) : Int × Int := (range.1, range.2 + 1)

/-! ## One loop -/

/-- The loop ends within as many rounds as there are days, and its windows tile them. -/
theorem cutForwards_tiles (positive : 1 ≤ maximumDays) {rounds : Nat} {cursor : Int}
    (order : cursor ≤ last + 1) (enough : last + 1 - cursor ≤ rounds) : ∃ ranges : List (Int × Int),
      cutForwards maximumDays last rounds cursor = some (ranges.map fun range => windowOfDays range.1 range.2) ∧
      Tiles cursor (last + 1) (ranges.map halfOpen) ∧
      ∀ range ∈ ranges, range.2 - range.1 + 1 ≤ maximumDays := by
  induction rounds generalizing cursor with
  | zero =>
    have done : cursor = last + 1 := by omega
    refine ⟨[], ?_, done, by simp⟩
    unfold cutForwards
    rw [if_neg (by omega), List.map_nil]
  | succ rounds ih =>
    unfold cutForwards
    by_cases more : cursor ≤ last
    · obtain ⟨ranges, cut, tiles, spans⟩ := @ih (min (cursor + maximumDays - 1) last + 1) (by omega)
        (by omega)
      refine ⟨(cursor, min (cursor + maximumDays - 1) last) :: ranges, ?_, ?_, ?_⟩
      · simp only [more, if_true, cut, Option.map_some, List.map_cons]
      · rw [List.map_cons, tiles_cons]
        refine ⟨rfl, ?_, tiles⟩
        simp only [halfOpen]
        omega
      · intro range mem
        rcases List.mem_cons.mp mem with rfl | later
        · dsimp only
          omega
        · exact spans range later
    · have done : cursor = last + 1 := by omega
      refine ⟨[], ?_, done, by simp⟩
      rw [if_neg more, List.map_nil]

theorem cutForwards_mono {rounds : Nat} {cursor : Int} {windows : List DateWindow}
    (ended : cutForwards maximumDays last rounds cursor = some windows) (more : Nat) :
    cutForwards maximumDays last (rounds + more) cursor = some windows := by
  induction rounds generalizing cursor windows with
  | zero =>
    unfold cutForwards at ended ⊢
    split_ifs at ended ⊢ with running
    exact ended
  | succ rounds ih =>
    unfold cutForwards at ended ⊢
    split_ifs at ended ⊢ with running
    · obtain ⟨rest, cut, rfl⟩ := Option.map_eq_some_iff.mp ended
      rw [Nat.succ_add]
      simp only
      rw [ih cut, Option.map_some]
    · exact ended

/-- The loop that reads each end back takes the same steps between two calendar dates. -/
theorem historyLoop_eq (positive : 1 ≤ maximumDays) (four : FourDigitYear last) {rounds : Nat}
    {cursor : Int} (fourCursor : cursor ≤ last → FourDigitYear cursor) :
    historyLoop D maximumDays last rounds cursor = cutForwards maximumDays last rounds cursor := by
  induction rounds generalizing cursor with
  | zero =>
    unfold historyLoop cutForwards
    rfl
  | succ rounds ih =>
    unfold historyLoop cutForwards
    by_cases more : cursor ≤ last
    · have inside : FourDigitYear (min (cursor + maximumDays - 1) last) :=
        (fourCursor more).between four (by omega) (by omega)
      have readBack := D.epochDays_iso (parseIsoDate_toIsoDate inside)
      have next := @ih (min (cursor + maximumDays - 1) last + 1) fun le =>
        inside.between four (by omega) le
      simp only [more, if_true, readBack, next]
      rfl
    · rw [if_neg more, if_neg more]

/-! ## Valid requests -/

theorem isJsSpace_digit {c : Char} (digit : c.isDigit) : isJsSpace c = false := by
  have range : 48 ≤ c.toNat ∧ c.toNat ≤ 57 := by
    simpa [Char.isDigit, UInt32.le_iff_toNat_le] using digit
  have digits : ∀ k < 10, isJsSpace (Char.ofNat (48 + k)) = false := by decide
  have here := digits (c.toNat - 48) (by omega)
  rwa [Nat.add_sub_cancel' range.1, Char.ofNat_toNat] at here

theorem jsTrim_of_parse {text : String} {day : Int} (parsed : parseIsoDate text = some day) : jsTrim text = text := by
  unfold parseIsoDate at parsed
  split at parsed
  · rename_i y₁ y₂ y₃ y₄ m₁ m₂ d₁ d₂ chars
    simp only at parsed
    split_ifs at parsed with digits
    have first : isJsSpace y₁ = false :=
      isJsSpace_digit (List.all_eq_true.mp digits y₁ List.mem_cons_self)
    have last : isJsSpace d₂ = false := isJsSpace_digit (List.all_eq_true.mp digits d₂ (by simp))
    apply String.toList_inj.mp
    unfold jsTrim
    rw [chars]
    simp [first, last]
  · exact nomatch parsed

/-- The windows are the dates from `startDate` to `endDate`, cut into windows of at most `maximumDays`
days. -/
structure SplitsRange (startDate endDate : String) (maximumDays : Int) (windows : List DateWindow) :
    Prop where
  first : windows.head?.map (·.startDate) = some startDate
  last : windows.getLast?.map (·.endDate) = some endDate
  adjacent : windows.IsChain fun window next => ∃ day,
    parseIsoDate window.endDate = some day ∧ parseIsoDate next.startDate = some (day + 1)
  span : ∀ window ∈ windows, ∃ first last, parseIsoDate window.startDate = some first ∧
    parseIsoDate window.endDate = some last ∧ 1 ≤ last - first + 1 ∧ last - first + 1 ≤ maximumDays

theorem splitsRange_of_tiles {startDate endDate : String} {first last : Int}
    {ranges : List (Int × Int)} (start : parseIsoDate startDate = some first)
    (end_ : parseIsoDate endDate = some last) (order : first ≤ last)
    (tiles : Tiles first (last + 1) (ranges.map halfOpen))
    (spans : ∀ range ∈ ranges, range.2 - range.1 + 1 ≤ maximumDays) :
    SplitsRange startDate endDate maximumDays (ranges.map fun range => windowOfDays range.1 range.2) := by
  have inside {range : Int × Int} (mem : range ∈ ranges) :
      first ≤ range.1 ∧ range.1 ≤ range.2 ∧ range.2 ≤ last := by
    have := tiles.mem (List.mem_map_of_mem mem)
    simp only [halfOpen] at this
    omega
  have fourFirst := fourDigitYear_of_parse start
  have fourLast := fourDigitYear_of_parse end_
  have reads {day : Int} (after : first ≤ day) (before : day ≤ last) :
      parseIsoDate (toIsoDate day) = some day :=
    parseIsoDate_toIsoDate (fourFirst.between fourLast after before)
  constructor
  · have head := tiles.head? (by omega)
    rw [List.head?_map, Option.map_map] at head
    obtain ⟨range, found, same⟩ := Option.map_eq_some_iff.mp head
    rw [List.head?_map, Option.map_map, found, ← toIsoDate_of_parse start, ← same]
    rfl
  · have tail := tiles.getLast? (by omega)
    rw [List.getLast?_map, Option.map_map] at tail
    obtain ⟨range, found, same⟩ := Option.map_eq_some_iff.mp tail
    have ends : range.2 = last := add_right_cancel same
    rw [List.getLast?_map, Option.map_map, found, ← toIsoDate_of_parse end_, ← ends]
    rfl
  · have chain := tiles.isChain
    rw [List.isChain_map] at chain
    rw [List.isChain_map]
    refine chain.imp_of_mem_imp fun range next mem memNext starts => ?_
    have here := inside mem
    have later := inside memNext
    have starts : next.1 = range.2 + 1 := starts
    refine ⟨range.2, reads (by omega) (by omega), ?_⟩
    rw [← starts]
    exact reads (by omega) (by omega)
  · intro window mem
    obtain ⟨range, there, rfl⟩ := List.mem_map.mp mem
    have := inside there
    exact ⟨range.1, range.2, reads this.1 (by omega), reads (by omega) this.2.2, by omega,
      spans range there⟩

/-- **The three splitters return the same windows, which tile the range**, in as many rounds as the range
has days. -/
theorem windowSplitters_agree (D : DateBuiltins) (request : WindowRequest) {first last : Int}
    (start : parseIsoDate request.startDate = some first)
    (end_ : parseIsoDate request.endDate = some last) (order : first ≤ last)
    (positive : 1 ≤ request.maximumDays) (bounded : request.maximumDays ≤ 30) :
    ∃ windows, SplitsRange request.startDate request.endDate request.maximumDays windows ∧
      ∀ rounds : Nat, last - first + 1 ≤ rounds →
        expectedWindows D rounds request = .ok (some windows) ∧
          buildBackfillWindows D rounds request = .ok (some windows) ∧
          historyWindows D rounds request = .ok (some windows) := by
  have days : last + 1 - first ≤ ((last - first + 1).toNat : Int) := by omega
  obtain ⟨ranges, cut, tiles, spans⟩ := cutForwards_tiles positive (by omega) days
  refine ⟨_, splitsRange_of_tiles start end_ order tiles spans, ?_⟩
  intro rounds enough
  have cut : cutForwards request.maximumDays last rounds first =
      some (ranges.map fun range => windowOfDays range.1 range.2) := by
    have more := cutForwards_mono cut (rounds - (last - first + 1).toNat)
    rwa [Nat.add_sub_cancel' (by omega)] at more
  have inRange : ¬(request.maximumDays < 1 ∨ 30 < request.maximumDays) := by omega
  have startDay := D.epochDays_iso start
  have endDay := D.epochDays_iso end_
  have startText : parseStrictIsoDate request.startDate = some request.startDate := by
    simp [parseStrictIsoDate, jsTrim_of_parse start, start]
  have endText : parseStrictIsoDate request.endDate = some request.endDate := by
    simp [parseStrictIsoDate, jsTrim_of_parse end_, end_]
  refine ⟨?_, ?_, ?_⟩
  · unfold expectedWindows
    simp only [inRange, if_false, startDay, endDay, Int.not_lt.mpr order, cut]
  · unfold buildBackfillWindows
    simp only [orderManagementWindowMaxDays, inRange, if_false, startText, endText, startDay, endDay,
      Int.not_lt.mpr order, cut]
  · have fourFirst := fourDigitYear_of_parse start
    have fourLast := fourDigitYear_of_parse end_
    have texts : ¬request.endDate < request.startDate := by
      rw [← toIsoDate_of_parse start, ← toIsoDate_of_parse end_, toIsoDate_lt fourLast fourFirst]
      omega
    have inHistory : ¬(request.maximumDays < 1 ∨ 90 < request.maximumDays) := by omega
    have loop : historyLoop D request.maximumDays last rounds first =
        cutForwards request.maximumDays last rounds first :=
      historyLoop_eq positive fourLast fun _ => fourFirst
    unfold historyWindows isoDate
    simp only [jsTrim_of_parse start, jsTrim_of_parse end_, start, end_, Option.isSome_some, if_true,
      bind, Except.bind, texts, inHistory, if_false, startDay, endDay, loop, cut]
    rfl

/-- A year and a month, in windows of 30 days. -/
theorem windowSplitters_agree_leapYear :
    ∃ windows, SplitsRange "2024-01-01" "2025-01-31" 30 windows ∧ ∀ rounds : Nat, 397 ≤ rounds →
      expectedWindows ⟨parseIsoDate, id⟩ rounds ⟨"2024-01-01", "2025-01-31", 30⟩ = .ok (some windows) ∧
        buildBackfillWindows ⟨parseIsoDate, id⟩ rounds ⟨"2024-01-01", "2025-01-31", 30⟩ = .ok (some windows) ∧
        historyWindows ⟨parseIsoDate, id⟩ rounds ⟨"2024-01-01", "2025-01-31", 30⟩ = .ok (some windows) := by
  obtain ⟨windows, splits, agree⟩ := windowSplitters_agree ⟨parseIsoDate, id⟩
    ⟨"2024-01-01", "2025-01-31", 30⟩ (show parseIsoDate "2024-01-01" = some 19723 by decide)
    (show parseIsoDate "2025-01-31" = some 20119 by decide) (by decide) (by decide) (by decide)
  exact ⟨windows, splits, fun rounds enough => agree rounds (by omega)⟩

end FullManagedBi.OrderManagement
