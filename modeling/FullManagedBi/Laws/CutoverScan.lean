import FullManagedBi.Webhook.CutoverScan

/-!
# What the scans of a cutover yield

The rows of a range are strictly ordered by their keys, in the database and in the code (`rangeRows_pairwise`,
`comparePrimaryKeys_of_dbCompare`). The query behind the last row of a page answers with what the page has left
(`rangeRows_behind`), so the pages of a scan make up the rows of its range, whatever the batch size (`scanPages_eq`). A
digest frames the hashes of these rows, and tells them apart.
-/

namespace FullManagedBi.Cutover

open Lib

variable {ρ π ε : Type} {collation : LocaleOrder} {d : Definition} {table : TableContent ρ d} {options : ScanOptions}

/-! ## The order of keys -/

variable (collation) in
theorem dbCompare_eq_lt {left right : RowKey} (gates : left.gateKey = right.gateKey) :
    dbCompare collation left right = .lt ↔ left.id < right.id := by
  have same : gateCompare collation left right = .eq := by
    unfold gateCompare
    rw [gates]
    exact Std.ReflCmp.compare_self
  unfold dbCompare compareLex compareOn
  rw [same, Ordering.then_eq]
  exact Std.compare_eq_lt

variable {left right : TableRow ρ}

theorem eq_of_dbCompare (hereL : left ∈ table.rows) (hereR : right ∈ table.rows)
    (same : dbCompare collation left.key right.key = .eq) : left = right := by
  have ids : left.key.id = right.key.id := by
    unfold dbCompare at same
    rw [compareLex_eq_eq] at same
    exact Std.LawfulEqCmp.eq_of_compare same.1
  have keys : left.key = right.key := by
    have gates := (table.gates left hereL).trans (table.gates right hereR).symm
    cases hl : left.key
    cases hr : right.key
    simp_all
  exact List.inj_on_of_nodup_map table.unique hereL hereR keys

theorem comparePrimaryKeys_of_dbCompare (hereL : left ∈ table.rows) (hereR : right ∈ table.rows)
    (lt : dbCompare collation left.key right.key = .lt) : comparePrimaryKeys left.key right.key = .lt := by
  have ids := (dbCompare_eq_lt collation ((table.gates left hereL).trans (table.gates right hereR).symm)).mp lt
  unfold comparePrimaryKeys
  rw [Std.compare_eq_lt.mpr ids]
  rfl

instance : IsTrans (TableRow ρ) (rowLe collation) :=
  ⟨fun _ _ _ first second => Ordering.isLE_iff_ne_gt.mp (Std.TransCmp.isLE_trans
    (Ordering.isLE_iff_ne_gt.mpr first) (Ordering.isLE_iff_ne_gt.mpr second))⟩

instance : Std.Total (rowLe (ρ := ρ) collation) where
  total left right := by
    have turned : dbCompare collation left.key right.key = (dbCompare collation right.key left.key).swap :=
      Std.OrientedCmp.eq_swap
    unfold rowLe
    rw [turned]
    cases dbCompare collation right.key left.key with
    | gt => exact .inl nofun
    | lt => exact .inr nofun
    | eq => exact .inr nofun

theorem rowLe_antisymm (hereL : left ∈ table.rows) (hereR : right ∈ table.rows)
    (le : rowLe collation left right) (ge : rowLe collation right left) : left = right := by
  have turned : dbCompare collation left.key right.key = (dbCompare collation right.key left.key).swap :=
    Std.OrientedCmp.eq_swap
  unfold rowLe at le ge
  have same : dbCompare collation left.key right.key = .eq → left = right := eq_of_dbCompare hereL hereR
  refine same ?_
  cases there : dbCompare collation right.key left.key with
  | gt => exact absurd there ge
  | lt => exact absurd (by rw [turned, there]; rfl) le
  | eq => rw [turned, there]; rfl

/-! ## The rows of a range -/

theorem mem_rangeRows {row : TableRow ρ} :
    row ∈ rangeRows collation table options ↔ row ∈ table.rows ∧ inRange collation d options row.key = true := by
  rw [rangeRows, List.mem_insertionSort, List.mem_filter]

variable (collation table options) in
theorem rangeRows_pairwise :
    (rangeRows collation table options).Pairwise fun left right => dbCompare collation left.key right.key = .lt := by
  have sorted : (rangeRows collation table options).Pairwise (rowLe collation) := List.pairwise_insertionSort _ _
  have nodup : (rangeRows collation table options).Nodup :=
    (List.perm_insertionSort _ _).nodup_iff.mpr (table.unique.of_map.filter _)
  refine (sorted.and nodup).imp_of_mem fun {left right} hereL hereR both => ?_
  cases order : dbCompare collation left.key right.key with
  | lt => rfl
  | gt => exact absurd order both.1
  | eq => exact absurd (eq_of_dbCompare (mem_rangeRows.mp hereL).1 (mem_rangeRows.mp hereR).1 order) both.2

theorem inRange_cursor_iff {last row : TableRow ρ} (hereL : last ∈ rangeRows collation table options)
    (here : row ∈ table.rows) : inRange collation d { options with cursor := some last.key } row.key = true ↔
      inRange collation d options row.key = true ∧ dbCompare collation last.key row.key = .lt := by
  obtain ⟨there, inside⟩ := mem_rangeRows.mp hereL
  have behind := dbCompare_eq_lt collation ((table.gates last there).trans (table.gates row here).symm)
  constructor
  · intro later
    refine ⟨inRange_of_cursor inside later, ?_⟩
    unfold inRange at later
    cases shape : d.identityColumn with
    | some column =>
      rw [shape] at later
      exact behind.mpr (by simpa using (Bool.and_eq_true_iff.mp later).1)
    | none =>
      rw [shape] at later
      simpa using later
  · rintro ⟨range, lt⟩
    unfold inRange at range ⊢
    cases shape : d.identityColumn with
    | some column =>
      simp only [shape, Bool.and_eq_true] at range ⊢
      exact ⟨by simpa using behind.mp lt, range.2⟩
    | none => simpa using lt

/-- **The query behind a page answers with the rest.** -/
theorem rangeRows_behind {limit : Nat} {last : TableRow ρ}
    (end_ : (queryRows collation table options limit).getLast? = some last) :
    rangeRows collation table { options with cursor := some last.key } =
      (rangeRows collation table options).drop limit := by
  have mem : last ∈ rangeRows collation table options := List.mem_of_mem_take (List.mem_of_getLast? end_)
  have rest := filter_behind_last (r := fun left right : TableRow ρ => dbCompare collation left.key right.key = .lt)
    (fun row lt => by
      have self : dbCompare collation row.key row.key = .eq := Std.ReflCmp.compare_self
      rw [self] at lt
      cases lt)
    (fun _ _ _ => Std.TransCmp.lt_trans) (rangeRows_pairwise collation table options) end_
  rw [← rest, rangeRows, rangeRows, filter_insertionSort, List.filter_filter]
  · congr 1
    refine List.filter_congr fun row here => ?_
    rw [Bool.eq_iff_iff, inRange_cursor_iff mem here, Bool.and_eq_true, decide_eq_true_iff, and_comm]
  · intro left hereL right hereR
    exact rowLe_antisymm (List.mem_filter.mp hereL).1 (List.mem_filter.mp hereR).1

/-! ## Scans -/

theorem yieldRows_eq {message : String} {yield : TableRow ρ → Except JsError ε} {previous : Option RowKey}
    {rows : List (TableRow ρ)} (sorted : rows.Pairwise fun left right => comparePrimaryKeys left.key right.key = .lt)
    (behind : ∀ before, previous = some before → ∀ row ∈ rows, comparePrimaryKeys before row.key = .lt) :
    yieldRows d message yield previous rows = rows.mapM yield := by
  induction rows generalizing previous with
  | nil => rfl
  | cons row rows ih =>
    obtain ⟨first, sorted⟩ := List.pairwise_cons.mp sorted
    have ordered : ¬∃ before, previous = some before ∧ comparePrimaryKeys before row.key ≠ .lt := by
      rintro ⟨before, eq, wrong⟩
      exact wrong (behind before eq row List.mem_cons_self)
    have rest : yieldRows d message yield (some row.key) rows = rows.mapM yield := by
      refine ih sorted ?_
      rintro before eq other mem
      obtain rfl := Option.some.inj eq
      exact first other mem
    rw [yieldRows, refuse, if_neg ordered, rest, List.mapM_cons]
    rfl

/-- **A scan yields the rows of its range**, whatever the batch size. -/
theorem scanPages_eq {limit : Nat} (pos : 0 < limit) (message oversized : String)
    (yield : TableRow ρ → Except JsError ε) (options : ScanOptions) (previous : Option RowKey)
    (behind : ∀ before, previous = some before →
      ∀ row ∈ rangeRows collation table options, comparePrimaryKeys before row.key = .lt) :
    scanPages collation table limit message oversized yield options previous =
      (rangeRows collation table options).mapM yield := by
  have ordered : (rangeRows collation table options).Pairwise
      fun left right => comparePrimaryKeys left.key right.key = .lt :=
    (rangeRows_pairwise collation table options).imp_of_mem fun hereL hereR lt =>
      comparePrimaryKeys_of_dbCompare (mem_rangeRows.mp hereL).1 (mem_rangeRows.mp hereR).1 lt
  have yielded : yieldRows d message yield previous (queryRows collation table options limit) =
      (queryRows collation table options limit).mapM yield :=
    yieldRows_eq (ordered.sublist (List.take_sublist _ _)) fun before eq row mem =>
      behind before eq row (List.mem_of_mem_take mem)
  have bounded : ¬limit < (queryRows collation table options limit).length := by
    rw [queryRows, List.length_take]
    omega
  have parts : (rangeRows collation table options).mapM yield =
      (queryRows collation table options limit).mapM yield >>= fun entries =>
        ((rangeRows collation table options).drop limit).mapM yield >>= fun rest => pure (entries ++ rest) := by
    conv_lhs => rw [← List.take_append_drop limit (rangeRows collation table options), List.mapM_append]
    rfl
  rw [scanPages, refuse, if_neg bounded, yielded, parts]
  cases (queryRows collation table options limit).mapM yield with
  | error e => rfl
  | ok entries =>
    change (if _ then _ else _ : Except JsError (List ε)) =
      ((rangeRows collation table options).drop limit).mapM yield >>= fun rest => pure (entries ++ rest)
    by_cases short : (queryRows collation table options limit).length < limit
    · have none : (rangeRows collation table options).drop limit = [] := by
        rw [queryRows, List.length_take] at short
        exact List.drop_eq_nil_of_le (by omega)
      rw [if_pos short, none, List.mapM_nil]
      change _ = Except.ok (entries ++ [])
      rw [List.append_nil]
      rfl
    · rw [if_neg short]
      rw [queryRows, List.length_take] at short
      obtain ⟨last, end_⟩ := exists_getLast?_take (rangeRows collation table options) pos (by omega)
      have end_ : (queryRows collation table options limit).getLast? = some last := end_
      split
      case h_1 none =>
        rw [none] at end_
        cases end_
      case h_2 last' end' =>
        obtain rfl := Option.mem_unique end' end_
        have rest := rangeRows_behind end'
        have shorter := length_rangeRows_lt table end'
        rw [scanPages_eq pos message oversized yield { options with cursor := some last'.key } (some last'.key), rest]
        rintro before eq row mem
        obtain rfl := Option.some.inj eq
        have there := mem_rangeRows.mp (List.mem_of_mem_take (List.mem_of_getLast? end'))
        have range := mem_rangeRows.mp mem
        exact comparePrimaryKeys_of_dbCompare there.1 range.1
          ((inRange_cursor_iff (mem_rangeRows.mpr there) range.1).mp range.2).2
termination_by (rangeRows collation table options).length

variable (E : PgEndpoint ρ π)

theorem scanRows_eq (table : TableContent ρ d) (options : ScanOptions) (projection : Projection) :
    scanRows E table options projection =
      .ok ((rangeRows E.database.collation table options).map (E.database.project projection)) := by
  rw [scanRows, scanPages_eq E.batchSize_pos _ _ _ _ _ fun _ none => by cases none]
  exact List.mapM_pure

theorem digestEntry_eq (D : Database ρ π) (d : Definition) (row : TableRow ρ) :
    digestEntry D d row = .ok (rowEntry D d row) := by
  have hash := D.digest.isSha256Hex_sha256Hex
  have fine : ¬(!isSha256Hex (rowEntry D d row).keyHash || !isSha256Hex (rowEntry D d row).fullHash ||
      !(rowEntry D d row).immutableHash.all isSha256Hex) = true := by
    cases receipt : d.receipt <;> simp [rowEntry, receipt, hash]
  unfold digestEntry
  dsimp only
  rw [refuse, if_neg fine]
  rfl

theorem scanDigestEntries_eq (table : TableContent ρ d) (options : ScanOptions) : scanDigestEntries E table options =
      .ok ((rangeRows E.database.collation table options).map (rowEntry E.database d)) := by
  rw [scanDigestEntries, scanPages_eq E.digestBatchSize_pos _ _ _ _ _ (fun _ none => by cases none), funext (digestEntry_eq E.database d)]
  exact List.mapM_pure

/-! ## Digests -/

def digestOf (D : Database ρ π) (d : Definition) (rows : List (TableRow ρ)) : TableDigest where
  rowCount := toString rows.length
  fullDigest := hashFrames D.digest (rows.map fun row => D.digest.sha256Hex (D.fullJson row))
  keyDigest := hashFrames D.digest (rows.map fun row => D.digest.sha256Hex (D.keyJson row.key))
  maxId := if d.identityColumn.isSome then rows.getLast?.map (toString ·.key.id) else none
  immutableDigest :=
    if d.receipt then some (hashFrames D.digest (rows.map fun row => D.digest.sha256Hex (D.immutableJson row)))
    else none

/-- **The digest of a table is that of the rows of its range.** -/
theorem digestTable_eq (table : TableContent ρ d) (options : ScanOptions) : digestTable E table options =
      .ok (digestOf E.database d (rangeRows E.database.collation table options)) := by
  generalize listed : rangeRows E.database.collation table options = rows
  have hashes (receipt : d.receipt = true) : (rows.map (rowEntry E.database d)).mapM immutableHashOf =
      .ok (rows.map fun row => E.database.digest.sha256Hex (E.database.immutableJson row)) := by
    rw [List.mapM_map]
    have each : (immutableHashOf ∘ rowEntry E.database d : TableRow ρ → Except JsError String) =
        fun row => pure (E.database.digest.sha256Hex (E.database.immutableJson row)) := by
      funext row
      simp [immutableHashOf, rowEntry, receipt]
      rfl
    rw [each]
    exact List.mapM_pure
  rw [digestTable, scanDigestEntries_eq, listed]
  cases receipt : d.receipt with
  | true =>
    change (((rows.map (rowEntry E.database d)).mapM immutableHashOf).map some >>= _) = _
    rw [hashes receipt]
    simp [digestOf, receipt, rowEntry, Except.map, Function.comp_def, List.getLast?_map]
  | false =>
    simp [digestOf, receipt, rowEntry, Function.comp_def, List.getLast?_map]

/-- What is hashed for the full digest of rows: the texts of the rows, and their hashes in frames. -/
def hashedTexts (D : Database ρ π) (rows : List (TableRow ρ)) : List String :=
  String.ofList (frames (rows.map fun row => (D.digest.sha256Hex (D.fullJson row)).toList)) :: rows.map D.fullJson

/-- Different texts of the list have different hashes. -/
def NoCollision (H : Digest) (texts : List String) : Prop :=
  ∀ a ∈ texts, ∀ b ∈ texts, H.sha256Hex a = H.sha256Hex b → a = b

theorem eq_of_map_eq {α β : Type} {f : α → β} {as bs : List α} (same : as.map f = bs.map f)
    (inj : ∀ a ∈ as, ∀ b ∈ bs, f a = f b → a = b) : as = bs := by
  induction as generalizing bs with
  | nil => exact (List.map_eq_nil_iff.mp same.symm).symm
  | cons a as ih =>
    cases bs with
    | nil => cases same
    | cons b bs =>
      obtain ⟨first, rest⟩ := List.cons.inj same
      rw [inj a List.mem_cons_self b List.mem_cons_self first, ih rest fun a hereA b hereB =>
        inj a (List.mem_cons_of_mem _ hereA) b (List.mem_cons_of_mem _ hereB)]

/-- **A full digest tells rows apart.** -/
theorem fullDigest_inj {D : Database ρ π} {rows others : List (TableRow ρ)}
    (apart : NoCollision D.digest (hashedTexts D rows ++ hashedTexts D others))
    (same : (digestOf D d rows).fullDigest = (digestOf D d others).fullDigest) : rows = others := by
  unfold digestOf hashFrames at same
  simp only [List.map_map] at same
  have framed := apart _ (List.mem_append_left _ List.mem_cons_self) _ (List.mem_append_right _ List.mem_cons_self) same
  have hashes := frames_injective (String.ofList_inj.mp framed)
  have member {row : TableRow ρ} (mem : row ∈ rows) : D.fullJson row ∈ hashedTexts D rows ++ hashedTexts D others :=
    List.mem_append_left _ (List.mem_cons_of_mem _ (List.mem_map_of_mem mem))
  have member' {row : TableRow ρ} (mem : row ∈ others) :
      D.fullJson row ∈ hashedTexts D rows ++ hashedTexts D others :=
    List.mem_append_right _ (List.mem_cons_of_mem _ (List.mem_map_of_mem mem))
  refine eq_of_map_eq hashes fun row hereL other hereR eq => ?_
  exact D.fullJson_injective (apart _ (member hereL) _ (member' hereR) (String.toList_inj.mp eq))

theorem rangeRows_congr {other : TableContent ρ d}
    (same : ∀ row, inRange collation d options row.key = true → (row ∈ table.rows ↔ row ∈ other.rows)) :
    rangeRows collation table options = rangeRows collation other options := by
  have members (row : TableRow ρ) :
      row ∈ rangeRows collation table options ↔ row ∈ rangeRows collation other options := by
    rw [mem_rangeRows, mem_rangeRows]
    exact and_congr_left fun range => same row range
  have irrefl (row : TableRow ρ) : dbCompare collation row.key row.key ≠ .lt := by
    have self : dbCompare collation row.key row.key = .eq := Std.ReflCmp.compare_self
    rw [self]
    exact nofun
  have nodup (content : TableContent ρ d) : (rangeRows collation content options).Nodup := by
    refine List.Pairwise.imp ?_ (rangeRows_pairwise collation content options)
    rintro left right lt rfl
    exact irrefl left lt
  refine ((List.perm_ext_iff_of_nodup (nodup table) (nodup other)).mpr members).eq_of_pairwise
    (fun left right _ _ lt gt => ?_) (rangeRows_pairwise collation table options)
    (rangeRows_pairwise collation other options)
  exact absurd (Std.TransCmp.lt_trans lt gt) (irrefl left)

end FullManagedBi.Cutover
