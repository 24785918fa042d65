import FullManagedBi.Lib.Frames
import FullManagedBi.Lib.Json
import FullManagedBi.Lib.Keyset
import FullManagedBi.Lib.Sorting

/-!
# The scans of a cutover

`scanDigestEntries`, `scanRows` and `digestTable` of `scripts/fnos_webhook_cutover.mjs`. The tables are read in a frozen
transaction, so that a table is a list of rows. A row has its key and whatever else; the key has one column, or the two of
a gate, whose `gate_key` a check of `db/migrations/0005_webhook_runtime.sql` keeps to one text. The database answers a
query with the rows of its range in the order of their keys, up to its limit. Bounds and ids are numbers.
-/

namespace FullManagedBi.Cutover

open Lib

/-! ## Tables -/

/-- What the scans read of a table's definition. -/
structure Definition where
  key : String
  primaryKey : List String
  identityColumn : Option String
  receipt : Bool := false
  deriving DecidableEq

def TABLES : List Definition :=
  [{ key := "receipt", primaryKey := ["receipt_id"], identityColumn := some "receipt_id", receipt := true },
    { key := "heartbeat", primaryKey := ["webhook_runtime_heartbeat_id"],
      identityColumn := some "webhook_runtime_heartbeat_id" },
    { key := "job", primaryKey := ["job_id"], identityColumn := some "job_id" },
    { key := "event", primaryKey := ["operational_event_id"], identityColumn := some "operational_event_id" },
    { key := "directive", primaryKey := ["hydration_directive_id"], identityColumn := some "hydration_directive_id" },
    { key := "subscription", primaryKey := ["webhook_subscription_state_id"],
      identityColumn := some "webhook_subscription_state_id" },
    { key := "gate", primaryKey := ["store_id", "gate_key"], identityColumn := none }]

/-- A key: an id, and the `gate_key` where the table has one. -/
structure RowKey where
  id : Int
  gateKey : String := ""
  deriving DecidableEq

/-- A row: its key, and the other columns. -/
structure TableRow (ρ : Type) where
  key : RowKey
  rest : ρ
  deriving DecidableEq

/-- The `gate_key` of a table's rows. -/
def Definition.gateKey (d : Definition) : String := if d.identityColumn.isSome then "" else "AUTHORIZATION"

structure TableContent (ρ : Type) (d : Definition) where
  rows : List (TableRow ρ)
  gates : ∀ row ∈ rows, row.key.gateKey = d.gateKey
  unique : (rows.map (·.key)).Nodup

/-- `projection`. -/
inductive Projection where
  | full
  | receiptMutable
  deriving DecidableEq

/-- The database, and what it makes of a row: the order of texts, the texts of `jsonb`, the columns of a projection. -/
structure Database (ρ π : Type) where
  collation : LocaleOrder
  digest : Digest
  keyJson : RowKey → String
  fullJson : TableRow ρ → String
  fullJson_injective : Function.Injective fullJson
  immutableJson : TableRow ρ → String
  project : Projection → TableRow ρ → π

variable {ρ π ε : Type}

/-! ## Keys -/

/-- The order of the `gate_key` in the database. -/
def gateCompare (collation : LocaleOrder) (left right : RowKey) : Ordering :=
  collation.localeCompare left.gateKey right.gateKey

instance (collation : LocaleOrder) : Std.TransCmp (gateCompare collation) where
  eq_swap := collation.localeCompare_trans.eq_swap
  isLE_trans := collation.localeCompare_trans.isLE_trans

/-- The order of keys in the database. -/
def dbCompare (collation : LocaleOrder) : RowKey → RowKey → Ordering :=
  compareLex (compareOn RowKey.id) (gateCompare collation)

instance (collation : LocaleOrder) : Std.TransCmp (dbCompare collation) :=
  inferInstanceAs (Std.TransCmp (compareLex (compareOn RowKey.id) (gateCompare collation)))

/-- `compareScalar` of texts. -/
def compareText (left right : String) : Ordering :=
  if jsUnits left < jsUnits right then .lt else if jsUnits right < jsUnits left then .gt else .eq

def comparePrimaryKeys (left right : RowKey) : Ordering :=
  (compare left.id right.id).then (compareText left.gateKey right.gateKey)

/-! ## Queries -/

structure ScanOptions where
  cursor : Option RowKey := none
  minExclusive : Option Int := none
  maxInclusive : Option Int := none
  deriving DecidableEq

/-- `buildRangeClause`: the cursor takes the place of the lower bound, and the bounds are those of an identity column. -/
def inRange (collation : LocaleOrder) (d : Definition) (options : ScanOptions) (key : RowKey) : Bool :=
  match d.identityColumn with
  | some _ =>
    (options.cursor.map (·.id) <|> options.minExclusive).all (fun lower => decide (lower < key.id)) &&
      options.maxInclusive.all fun upper => decide (key.id ≤ upper)
  | none => options.cursor.all fun cursor => dbCompare collation cursor key == .lt

def rowLe (collation : LocaleOrder) (left right : TableRow ρ) : Prop := dbCompare collation left.key right.key ≠ .gt

instance (collation : LocaleOrder) : DecidableRel (rowLe (ρ := ρ) collation) := fun _ _ =>
  inferInstanceAs (Decidable (_ ≠ _))

def rangeRows (collation : LocaleOrder) {d : Definition} (table : TableContent ρ d) (options : ScanOptions) :
    List (TableRow ρ) :=
  (table.rows.filter fun row => inRange collation d options row.key).insertionSort (rowLe collation)

def queryRows (collation : LocaleOrder) {d : Definition} (table : TableContent ρ d) (options : ScanOptions)
    (limit : Nat) : List (TableRow ρ) :=
  (rangeRows collation table options).take limit

/-! ## Scans -/

theorem inRange_of_cursor {collation : LocaleOrder} {d : Definition} {options : ScanOptions} {last key : RowKey}
    (here : inRange collation d options last = true)
    (later : inRange collation d { options with cursor := some last } key = true) :
    inRange collation d options key = true := by
  unfold inRange at here later ⊢
  cases shape : d.identityColumn with
  | some column =>
    simp only [shape, Bool.and_eq_true] at here later ⊢
    refine ⟨?_, later.2⟩
    have behind : last.id < key.id := by simpa using later.1
    cases lower : (options.cursor.map (·.id) <|> options.minExclusive) with
    | none => rfl
    | some lower_ =>
      rw [lower] at here
      have above : lower_ < last.id := by simpa using here.1
      simpa using lt_trans above behind
  | none =>
    simp only [shape] at here later ⊢
    have behind : dbCompare collation last key = .lt := by simpa using later
    cases cursor : options.cursor with
    | none => rfl
    | some first =>
      rw [cursor] at here
      have above : dbCompare collation first last = .lt := by simpa using here
      simpa using Std.TransCmp.lt_trans above behind

theorem not_inRange_cursor (collation : LocaleOrder) (d : Definition) (options : ScanOptions) (key : RowKey) :
    inRange collation d { options with cursor := some key } key = false := by
  unfold inRange
  cases d.identityColumn with
  | some column => simp
  | none => simp [Std.ReflCmp.compare_self]

/-- A query behind the last row of a page has fewer rows than the page's. -/
theorem length_rangeRows_lt {collation : LocaleOrder} {d : Definition} (table : TableContent ρ d)
    {options : ScanOptions} {limit : Nat} {last : TableRow ρ}
    (end_ : (queryRows collation table options limit).getLast? = some last) :
    (rangeRows collation table { options with cursor := some last.key }).length <
      (rangeRows collation table options).length := by
  have mem : last ∈ rangeRows collation table options := List.mem_of_mem_take (List.mem_of_getLast? end_)
  unfold rangeRows at mem ⊢
  rw [List.mem_insertionSort, List.mem_filter] at mem
  rw [List.length_insertionSort, List.length_insertionSort]
  have narrower : table.rows.filter (fun row => inRange collation d { options with cursor := some last.key } row.key) =
      (table.rows.filter fun row => inRange collation d options row.key).filter
        fun row => inRange collation d { options with cursor := some last.key } row.key := by
    rw [List.filter_filter]
    refine List.filter_congr fun row _ => ?_
    cases later : inRange collation d { options with cursor := some last.key } row.key with
    | false => rfl
    | true => rw [inRange_of_cursor mem.2 later]; rfl
  rw [narrower]
  refine List.length_filter_lt_length_iff_exists.mpr ⟨last, List.mem_filter.mpr mem, ?_⟩
  simp [not_inRange_cursor]

/-- The loop over the rows of a page. `previous` is the key before them. -/
def yieldRows (d : Definition) (message : String) (yield : TableRow ρ → Except JsError ε) :
    Option RowKey → List (TableRow ρ) → Except JsError (List ε)
  | _, [] => .ok []
  | previous, row :: rows => do
    refuse (∃ before, previous = some before ∧ comparePrimaryKeys before row.key ≠ .lt)
      { code := some "PRIMARY_KEY_ORDER_INVALID", message := message ++ " was not strictly ordered for " ++ d.key }
    let first ← yield row
    let rest ← yieldRows d message yield (some row.key) rows
    pure (first :: rest)

def scanPages (collation : LocaleOrder) {d : Definition} (table : TableContent ρ d) (limit : Nat)
    (message oversized : String) (yield : TableRow ρ → Except JsError ε) (options : ScanOptions)
    (previous : Option RowKey) : Except JsError (List ε) := do
  let page := queryRows collation table options limit
  refuse (limit < page.length) { code := some "BATCH_BOUND_EXCEEDED", message := oversized }
  let entries ← yieldRows d message yield previous page
  if page.length < limit then pure entries
  else match _end : page.getLast? with
    | none => pure entries
    | some last =>
      let rest ← scanPages collation table limit message oversized yield { options with cursor := some last.key }
        (some last.key)
      pure (entries ++ rest)
termination_by (rangeRows collation table options).length
decreasing_by exact length_rangeRows_lt table _end

/-- `PgEndpoint`: its database and its batch sizes, which `parseBatchSize` keeps from being zero. -/
structure PgEndpoint (ρ π : Type) where
  database : Database ρ π
  batchSize : Nat
  digestBatchSize : Nat
  batchSize_pos : 0 < batchSize
  digestBatchSize_pos : 0 < digestBatchSize

/-- What `scanDigestEntries` yields. -/
structure DigestEntry (π : Type) where
  key : RowKey
  keyHash : String
  fullHash : String
  immutableHash : Option String
  mutable_ : Option π
  deriving DecidableEq

def rowEntry (D : Database ρ π) (d : Definition) (row : TableRow ρ) : DigestEntry π where
  key := row.key
  keyHash := D.digest.sha256Hex (D.keyJson row.key)
  fullHash := D.digest.sha256Hex (D.fullJson row)
  immutableHash := if d.receipt then some (D.digest.sha256Hex (D.immutableJson row)) else none
  mutable_ := if d.receipt then some (D.project .receiptMutable row) else none

def digestEntry (D : Database ρ π) (d : Definition) (row : TableRow ρ) : Except JsError (DigestEntry π) := do
  let entry := rowEntry D d row
  refuse (!isSha256Hex entry.keyHash || !isSha256Hex entry.fullHash || !entry.immutableHash.all isSha256Hex)
    { code := some "ROW_HASH_INVALID", message := "database returned an invalid row hash for " ++ d.key }
  pure entry

def scanDigestEntries (E : PgEndpoint ρ π) {d : Definition} (table : TableContent ρ d) (options : ScanOptions) :
    Except JsError (List (DigestEntry π)) :=
  scanPages E.database.collation table E.digestBatchSize "digest scan" "database returned an oversized digest batch"
    (digestEntry E.database d) options none

def scanRows (E : PgEndpoint ρ π) {d : Definition} (table : TableContent ρ d) (options : ScanOptions)
    (projection : Projection := .full) : Except JsError (List π) :=
  scanPages E.database.collation table E.batchSize "data scan" "database returned an oversized data batch"
    (fun row => .ok (E.database.project projection row)) options none

/-- The result of `digestTable`. -/
structure TableDigest where
  rowCount : String
  fullDigest : String
  keyDigest : String
  maxId : Option String
  immutableDigest : Option String
  deriving DecidableEq

def hashFrames (H : Digest) (bodies : List String) : String :=
  H.sha256Hex (String.ofList (frames (bodies.map (·.toList))))

def immutableHashOf (entry : DigestEntry π) : Except JsError String :=
  match entry.immutableHash with
  | some hash => .ok hash
  | none => .error { code := some "IMMUTABLE_HASH_MISSING", message := "receipt immutable hash is missing" }

def digestTable (E : PgEndpoint ρ π) {d : Definition} (table : TableContent ρ d) (range : ScanOptions) :
    Except JsError TableDigest := do
  let entries ← scanDigestEntries E table range
  let immutable ← if d.receipt then (entries.mapM immutableHashOf).map some else pure none
  pure
    { rowCount := toString entries.length
      fullDigest := hashFrames E.database.digest (entries.map (·.fullHash))
      keyDigest := hashFrames E.database.digest (entries.map (·.keyHash))
      maxId := if d.identityColumn.isSome then entries.getLast?.map (toString ·.key.id) else none
      immutableDigest := immutable.map (hashFrames E.database.digest) }

end FullManagedBi.Cutover
