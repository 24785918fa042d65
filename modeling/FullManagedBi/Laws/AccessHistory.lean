import FullManagedBi.Access.Repository
import FullManagedBi.Lib.Run

/-!
# The history of employees and stores

The validity of an assignment is the interval from its `valid_from` up to its `valid_to`. The unique
indexes keep the current assignments apart (`AssignmentTable.Sound`), and a repeated call finds what it
wrote (`Recorded`). The intervals of ended rows are compared with nothing, so the history stays free of
overlaps exactly as long as no assignment starts before the end of one that is already ended:
**`assignmentHistory_iff`**.
-/

namespace FullManagedBi.Access

open Lib

variable {B : AccessBuiltins} {D : Directory} {table after : AssignmentTable}

/-! ## What the table records -/

def Assignment.At (t : Instant) (row : Assignment) : Prop :=
  row.validFrom ≤ t ∧ ∀ validTo ∈ row.validTo, t < validTo

/-- Two assignments that may not be valid together: of one store, and of one employee or both `PRIMARY`. -/
def Assignment.SameScope (row other : Assignment) : Prop :=
  row.storeId = other.storeId ∧ (row.employeePrincipalId = other.employeePrincipalId ∨
    row.assignmentRole = .primary ∧ other.assignmentRole = .primary)

/-- No two assignments of one scope are valid at one instant. -/
def AssignmentTable.Disjoint (table : AssignmentTable) : Prop :=
  ∀ row ∈ table.rows, ∀ other ∈ table.rows,
    row.employeeStoreAssignmentId ≠ other.employeeStoreAssignmentId → row.SameScope other →
      ∀ t, ¬(row.At t ∧ other.At t)

/-- What the constraints of the table keep. -/
structure AssignmentTable.Sound (table : AssignmentTable) : Prop where
  ids : (table.rows.map (·.employeeStoreAssignmentId)).Nodup
  idsBelow : ∀ row ∈ table.rows, row.employeeStoreAssignmentId < table.nextId
  keys : (table.rows.map fun row => (row.storeId, row.assignmentKey)).Nodup
  fits : ∀ row ∈ table.rows, row.ValidityFits
  employee : ∀ row ∈ table.rows, ∀ other ∈ table.rows, row.Current → other.Current →
    row.storeId = other.storeId → row.employeePrincipalId = other.employeePrincipalId → row = other
  primary : ∀ row ∈ table.rows, ∀ other ∈ table.rows, row.Current → other.Current →
    row.storeId = other.storeId → row.assignmentRole = .primary → other.assignmentRole = .primary →
      row = other

theorem AssignmentTable.Sound.empty : AssignmentTable.Sound {} where
  ids := List.nodup_nil
  idsBelow _ mem := nomatch mem
  keys := List.nodup_nil
  fits _ mem := nomatch mem
  employee _ mem := nomatch mem
  primary _ mem := nomatch mem

variable {row : Assignment}

theorem AssignmentTable.Sound.current (sound : table.Sound) (mem : row ∈ table.rows)
    (active : row.assignmentStatus = .active) : row.Current := by
  have fits := sound.fits row mem
  unfold Assignment.ValidityFits at fits
  rw [active] at fits
  exact ⟨active, fits.1⟩

theorem AssignmentTable.Sound.ended (sound : table.Sound) (mem : row ∈ table.rows)
    (past : ¬row.Current) : row.assignmentStatus = .ended ∧ ∃ validTo, row.validTo = some validTo := by
  cases status : row.assignmentStatus with
  | active => exact absurd (sound.current mem status) past
  | ended =>
    have fits := sound.fits row mem
    unfold Assignment.ValidityFits at fits
    rw [status] at fits
    obtain ⟨⟨validTo, there, -⟩, -⟩ := fits
    exact ⟨rfl, validTo, there⟩

theorem AssignmentTable.Sound.find? (sound : table.Sound) (mem : row ∈ table.rows) {storeId : Nat}
    {key : String} (keyed : row.HasKey storeId key) : table.rows.find? (·.HasKey storeId key) = some row := by
  have some_ : (table.rows.find? (·.HasKey storeId key)).isSome :=
    List.find?_isSome.mpr ⟨row, mem, decide_eq_true keyed⟩
  obtain ⟨other, found⟩ := Option.isSome_iff_exists.mp some_
  have keyed' : other.HasKey storeId key := by simpa using List.find?_some found
  rw [found, List.inj_on_of_nodup_map sound.keys (List.mem_of_find?_eq_some found) mem
    (Prod.ext (keyed'.1.trans keyed.1.symm) (keyed'.2.trans keyed.2.symm))]

/-! ## The two statements -/

section Statements

variable {p : Assignment → Bool} {at_ : Instant} {by_ : Option Nat} {reason : String}

variable {row : Assignment}

theorem ending_fits : (row.ending at_ by_ reason).ValidityFits ↔ row.validFrom ≤ at_ := by
  simp [Assignment.ValidityFits, Assignment.ending]

theorem not_current_ending : ¬(row.ending at_ by_ reason).Current := by
  rintro ⟨status, -⟩
  exact nomatch status

theorem endWhere_ok : table.endWhere p at_ by_ reason = .ok after ↔
      (∀ row ∈ table.rows, p row → row.validFrom ≤ at_) ∧
        { table with rows := updateWhere p (·.ending at_ by_ reason) table.rows } = after := by
  simp only [AssignmentTable.endWhere, check_ok_iff, refuse_eq_ok, ending_fits, not_exists, not_and,
    not_not, pure, Except.pure, Except.ok.injEq]

theorem insert_ok : table.insert row = .ok after ↔
      (∀ other ∈ table.rows, ¬other.HasKey row.storeId row.assignmentKey) ∧
      (∀ other ∈ table.rows, other.Current → other.storeId = row.storeId →
        other.employeePrincipalId ≠ row.employeePrincipalId) ∧
      (row.assignmentRole = .primary → ∀ other ∈ table.rows, other.Current →
        other.storeId = row.storeId → other.assignmentRole ≠ .primary) ∧
      { rows := table.rows ++ [row], nextId := table.nextId + 1 } = after := by
  simp only [AssignmentTable.insert, check_ok_iff, refuse_eq_ok, not_exists, not_and, pure, Except.pure,
    Except.ok.injEq, ne_eq]

/-- A row after an `UPDATE` that ends rows is the old one, or what ending made of it. -/
theorem mem_ending (mem : row ∈ updateWhere p (·.ending at_ by_ reason) table.rows) :
    ∃ old ∈ table.rows, (p old = true ∧ row = old.ending at_ by_ reason) ∨ (p old = false ∧ row = old) := by
  obtain ⟨old, there, rfl⟩ := mem_updateWhere.mp mem
  refine ⟨old, there, ?_⟩
  cases reached : p old with
  | true => exact .inl ⟨rfl, rfl⟩
  | false => exact .inr ⟨rfl, rfl⟩

theorem AssignmentTable.Sound.endWhere (sound : table.Sound)
    (done : table.endWhere p at_ by_ reason = .ok after) : after.Sound := by
  obtain ⟨fits, rfl⟩ := (endWhere_ok).mp done
  -- A row that is still current was not ended.
  have still {row : Assignment} (mem : row ∈ updateWhere p (·.ending at_ by_ reason) table.rows)
      (current : row.Current) : row ∈ table.rows := by
    obtain ⟨old, there, ⟨-, rfl⟩ | ⟨-, rfl⟩⟩ := mem_ending mem
    · exact absurd current not_current_ending
    · exact there
  have column {κ : Type} (key : Assignment → κ)
      (same : ∀ row, key (row.ending at_ by_ reason) = key row) :
      (updateWhere p (·.ending at_ by_ reason) table.rows).map key = table.rows.map key :=
    map_updateWhere same
  constructor
  · exact (column (·.employeeStoreAssignmentId) fun _ => rfl).symm ▸ sound.ids
  · intro row mem
    obtain ⟨old, there, ⟨-, rfl⟩ | ⟨-, rfl⟩⟩ := mem_ending mem
    · exact sound.idsBelow old there
    · exact sound.idsBelow row there
  · exact (column (fun row => (row.storeId, row.assignmentKey)) fun _ => rfl).symm ▸ sound.keys
  · intro row mem
    obtain ⟨old, there, ⟨reached, rfl⟩ | ⟨-, rfl⟩⟩ := mem_ending mem
    · exact (ending_fits).mpr (fits old there reached)
    · exact sound.fits row there
  · intro row mem other mem' current current'
    exact sound.employee row (still mem current) other (still mem' current') current current'
  · intro row mem other mem' current current'
    exact sound.primary row (still mem current) other (still mem' current') current current'

theorem AssignmentTable.Sound.insert (sound : table.Sound)
    (id : row.employeeStoreAssignmentId = table.nextId) (fits : row.ValidityFits)
    (done : table.insert row = .ok after) : after.Sound := by
  obtain ⟨freshKey, freshEmployee, freshPrimary, rfl⟩ := (insert_ok).mp done
  constructor
  · refine nodup_map_concat sound.ids fun other mem => ?_
    rw [id]
    exact (sound.idsBelow other mem).ne
  · refine forall_mem_concat (fun other mem => (sound.idsBelow other mem).trans (Nat.lt_succ_self _)) ?_
    rw [id]
    exact Nat.lt_succ_self _
  · refine nodup_map_concat sound.keys fun other mem same => ?_
    exact freshKey other mem ⟨congrArg Prod.fst same, congrArg Prod.snd same⟩
  · exact forall_mem_concat sound.fits fits
  · refine forall_mem_concat (fun r mem => forall_mem_concat (sound.employee r mem) ?_) (forall_mem_concat ?_ fun _ _ _ _ => rfl)
    · intro current _ store employee
      exact absurd employee (freshEmployee r mem current store)
    · intro r mem _ current store employee
      exact absurd employee.symm (freshEmployee r mem current store.symm)
  · refine forall_mem_concat (fun r mem => forall_mem_concat (sound.primary r mem) ?_) (forall_mem_concat ?_ fun _ _ _ _ _ => rfl)
    · intro current _ store role role'
      exact absurd role (freshPrimary role' r mem current store)
    · intro r mem _ current store role role'
      exact absurd role' (freshPrimary role r mem current store.symm)

end Statements

/-! ## What a call does -/

/-- A request creates a row: its key is new, and what it replaces started no later than it. -/
def AssignRequest.Creates (request : AssignRequest) (table : AssignmentTable) : Prop :=
  (∀ row ∈ table.rows, ¬row.HasKey request.storeId request.payload.assignmentKey) ∧
    ∀ row ∈ table.rows, row.Current → request.Concerns row → row.validFrom ≤ request.payload.validFrom

instance (request : AssignRequest) (table : AssignmentTable) : Decidable (request.Creates table) := by
  unfold AssignRequest.Creates
  infer_instance

def AssignRequest.replaces (request : AssignRequest) (row : Assignment) : Bool :=
  decide (row.Current ∧ request.Concerns row)

def AssignRequest.replaced (request : AssignRequest) : String :=
  "Replaced by assignment " ++ request.payload.assignmentKey ++ ": " ++ request.payload.reason

def AssignRequest.creation (B : AccessBuiltins) (request : AssignRequest) (table : AssignmentTable) :
    AssignmentTable where
  rows := updateWhere request.replaces
    (·.ending request.payload.validFrom request.actorId request.replaced) table.rows ++
      [request.row B table.nextId]
  nextId := table.nextId + 1

theorem no_key_iff {storeId : Nat} {key : String} :
    table.rows.find? (·.HasKey storeId key) = none ↔ ∀ row ∈ table.rows, ¬row.HasKey storeId key := by
  simp only [List.find?_eq_none, decide_eq_true_eq]

variable {request : AssignRequest}

/-- A request of a new key creates its row, or what it replaces started later and it throws. -/
theorem creation_ok (fresh : ∀ row ∈ table.rows, ¬row.HasKey request.storeId request.payload.assignmentKey) :
    (∃ ended, table.endWhere request.replaces request.payload.validFrom request.actorId
        request.replaced = .ok ended ∧ ended.insert (request.row B table.nextId) = .ok after) ↔
      request.Creates table ∧ request.creation B table = after := by
  simp only [endWhere_ok]
  -- What is still current after the replacement is none of the request's concern.
  have apart {row : Assignment} (mem : row ∈ updateWhere request.replaces
      (·.ending request.payload.validFrom request.actorId request.replaced) table.rows)
      (current : row.Current) : ¬request.Concerns row := by
    obtain ⟨old, -, ⟨-, rfl⟩ | ⟨kept, rfl⟩⟩ := mem_ending mem
    · exact absurd current not_current_ending
    · intro concerns
      exact absurd ⟨current, concerns⟩ (of_decide_eq_false kept)
  constructor
  · rintro ⟨ended, ⟨fits, rfl⟩, inserted⟩
    obtain ⟨-, -, -, rfl⟩ := (insert_ok).mp inserted
    refine ⟨⟨fresh, fun row mem current concerns => ?_⟩, rfl⟩
    exact fits row mem (decide_eq_true ⟨current, concerns⟩)
  · rintro ⟨⟨-, fits⟩, rfl⟩
    refine ⟨_, ⟨fun row mem reached => ?_, rfl⟩, (insert_ok).mpr ⟨?_, ?_, ?_, rfl⟩⟩
    · obtain ⟨current, concerns⟩ := of_decide_eq_true reached
      exact fits row mem current concerns
    · intro row mem
      obtain ⟨old, there, ⟨-, rfl⟩ | ⟨-, rfl⟩⟩ := mem_ending mem
      · exact fresh old there
      · exact fresh row there
    · intro row mem current store employee
      exact apart mem current ⟨store, .inl employee⟩
    · intro role row mem current store role'
      exact apart mem current ⟨store, .inr ⟨role, role'⟩⟩

theorem answered_ok {Answer : Type} {outcome : Except JsError (Answer × AssignmentTable)} :
    outcome.map (·.2) = .ok after ↔ ∃ answer, outcome = .ok (answer, after) := by
  cases outcome with
  | error e => simp [Except.map]
  | ok result =>
    simp only [Except.map, Except.ok.injEq]
    exact ⟨fun same => ⟨result.1, Prod.ext rfl same⟩, fun ⟨_, same⟩ => congrArg Prod.snd same⟩

/-- **A request that is committed found its row, or created it.** -/
theorem assign_ok {input : AssignInput} : (AccessCall.assign input).commit B D table = .ok after ↔
      ∃ request, resolveAssign B D input = .ok request ∧
        ((∃ row, table.rows.find? (·.HasKey request.storeId request.payload.assignmentKey) = some row ∧
            row.payloadFingerprint = identityFingerprint B request.payload ∧ table = after) ∨
          request.Creates table ∧ request.creation B table = after) := by
  simp only [AccessCall.commit, answered_ok, assignEmployeeToStore, bind_eq_ok_iff]
  rw [exists_comm]
  refine exists_congr fun request => ?_
  rw [exists_and_left]
  refine and_congr_right fun _ => ?_
  cases found : table.rows.find? (·.HasKey request.storeId request.payload.assignmentKey) with
  | some row =>
    simp only [check_ok_iff, refuse_eq_ok, not_not, pure, Except.pure, Except.ok.injEq, Prod.mk.injEq]
    have old : ¬request.Creates table := by
      intro creates
      cases (no_key_iff.mpr creates.1).symm.trans found
    constructor
    · rintro ⟨answer, same, -, kept⟩
      exact .inl ⟨row, rfl, same, kept⟩
    · rintro (⟨other, here, same, kept⟩ | ⟨creates, -⟩)
      · obtain rfl := Option.some.inj here
        exact ⟨_, same, rfl, kept⟩
      · exact absurd creates old
  | none =>
    simp only [bind_eq_ok_iff, pure, Except.pure, Except.ok.injEq, Prod.mk.injEq]
    refine Iff.trans ⟨?_, ?_⟩ ((creation_ok (no_key_iff.mp found)).trans ⟨.inr, ?_⟩)
    · rintro ⟨_, ended, closed, _, inserted, -, rfl⟩
      exact ⟨ended, closed, inserted⟩
    · rintro ⟨ended, closed, inserted⟩
      exact ⟨_, ended, closed, after, inserted, rfl, rfl⟩
    · rintro (⟨_, here, -⟩ | creates)
      · cases here
      · exact creates

/-- The row an `endEmployeeStoreAssignment` ends. -/
def EndRequest.ends (request : EndRequest) (row other : Assignment) : Bool :=
  decide (other.storeId = request.storeId ∧
    other.employeeStoreAssignmentId = row.employeeStoreAssignmentId ∧ other.assignmentStatus = .active)

/-- The row was ended with the values of the request. -/
def EndRequest.Done (request : EndRequest) (row : Assignment) : Prop :=
  row.assignmentStatus = .ended ∧ row.validTo = some request.endedAt ∧
    row.endedByPrincipalId = request.actorId ∧ row.endedReason = some request.endedReason

/-- **An end that is committed found its row ended the same way, or ends it.** -/
theorem end_ok {input : EndInput} : (AccessCall.end_ input).commit B D table = .ok after ↔
      ∃ request, resolveEnd B D input = .ok request ∧
        ∃ row, table.rows.find? (·.HasKey request.storeId request.assignmentKey) = some row ∧
          (request.Done row ∧ table = after ∨
            row.assignmentStatus = .active ∧ rowCount (request.ends row) table.rows = 1 ∧
              table.endWhere (request.ends row) request.endedAt request.actorId request.endedReason = .ok after) := by
  simp only [AccessCall.commit, answered_ok, endEmployeeStoreAssignment, bind_eq_ok_iff]
  rw [exists_comm]
  refine exists_congr fun request => ?_
  rw [exists_and_left]
  refine and_congr_right fun _ => ?_
  cases found : table.rows.find? (·.HasKey request.storeId request.assignmentKey) with
  | none => simp [throw, throwThe, MonadExceptOf.throw]
  | some row =>
    simp only [Option.some.injEq, exists_eq_left', EndRequest.Done]
    cases row.assignmentStatus with
    | ended =>
      simp only [check_ok_iff, refuse_eq_ok, not_not, pure, Except.pure, Except.ok.injEq, Prod.mk.injEq,
        true_and, reduceCtorEq, false_and, or_false]
      constructor
      · rintro ⟨_, same, -, kept⟩
        exact ⟨same, kept⟩
      · rintro ⟨same, kept⟩
        exact ⟨_, same, rfl, kept⟩
    | active =>
      simp only [bind_eq_ok_iff, refuse_eq_ok, not_not, pure, Except.pure, Except.ok.injEq,
        Prod.mk.injEq, ne_eq, reduceCtorEq, false_and, false_or, true_and]
      constructor
      · rintro ⟨_, _, ended, _, once, -, rfl⟩
        exact ⟨once, ended⟩
      · rintro ⟨once, ended⟩
        exact ⟨_, after, ended, (), once, rfl, rfl⟩

theorem row_fits {id : Nat} : (request.row B id).ValidityFits := by
  unfold Assignment.ValidityFits
  exact ⟨rfl, rfl, rfl⟩

theorem accessStep_sound (table : AssignmentTable) (call : AccessCall) (sound : table.Sound) :
    (accessStep B D table call).Sound := by
  unfold accessStep
  split
  · rename_i after done
    cases call with
    | assign input =>
      obtain ⟨request, -, ⟨_, -, -, rfl⟩ | ⟨creates, rfl⟩⟩ := (assign_ok).mp done
      · exact sound
      · obtain ⟨ended, closed, inserted⟩ := (creation_ok (B := B) creates.1).mpr ⟨creates, rfl⟩
        have next : ended.nextId = table.nextId := by
          obtain ⟨-, rfl⟩ := (endWhere_ok).mp closed
          rfl
        exact (sound.endWhere closed).insert next.symm row_fits inserted
    | end_ input =>
      obtain ⟨request, -, row, -, ⟨-, rfl⟩ | ⟨-, -, ended⟩⟩ := (end_ok).mp done
      · exact sound
      · exact sound.endWhere ended
  · exact sound

/-! ## Validity -/

section Validity

variable {request : AssignRequest}

/-- An ended assignment of the request's concern whose validity reaches beyond the request's start. -/
def AssignRequest.Overlaps (request : AssignRequest) (row : Assignment) : Prop :=
  request.Concerns row ∧
    ∃ validTo ∈ row.validTo, row.validFrom < validTo ∧ request.payload.validFrom < validTo

theorem row_sameScope {id : Nat} {row : Assignment} : (request.row B id).SameScope row ↔ request.Concerns row := by
  simp only [Assignment.SameScope, AssignRequest.row, AssignRequest.Concerns, eq_comm]

theorem Assignment.SameScope.symm {row other : Assignment} (same : row.SameScope other) : other.SameScope row :=
  ⟨same.1.symm, same.2.imp Eq.symm And.symm⟩

theorem AssignmentTable.Disjoint.ending (disjoint : table.Disjoint) {p : Assignment → Bool} {at_ : Instant}
    {by_ : Option Nat} {reason : String} (current : ∀ row ∈ table.rows, p row → row.validTo = none) :
    AssignmentTable.Disjoint { table with rows := updateWhere p (·.ending at_ by_ reason) table.rows } := by
  intro row mem other mem' differ scope t both
  -- A row and the one it was: of the same id and scope, and valid no longer.
  have was {row : Assignment} (mem : row ∈ updateWhere p (·.ending at_ by_ reason) table.rows) :
      ∃ old ∈ table.rows, old.employeeStoreAssignmentId = row.employeeStoreAssignmentId ∧
        (∀ other, old.SameScope other ↔ row.SameScope other) ∧ (row.At t → old.At t) := by
    obtain ⟨old, there, ⟨reached, rfl⟩ | ⟨-, rfl⟩⟩ := mem_ending mem
    · refine ⟨old, there, rfl, fun _ => Iff.rfl, fun valid => ⟨valid.1, ?_⟩⟩
      rw [current old there reached]
      exact fun _ none => nomatch none
    · exact ⟨row, there, rfl, fun _ => Iff.rfl, id⟩
  obtain ⟨old, there, id, scopes, valid⟩ := was mem
  obtain ⟨old', there', id', scopes', valid'⟩ := was mem'
  refine disjoint old there old' there' (id ▸ id' ▸ differ) ?_ t ⟨valid both.1, valid' both.2⟩
  exact ((scopes' old).mpr ((scopes other).mpr scope).symm).symm

/-- **A new assignment keeps the history free of overlaps exactly if it starts clear** of what has
ended. -/
theorem creation_disjoint_iff (sound : table.Sound) (disjoint : table.Disjoint) :
    (request.creation B table).Disjoint ↔ ∀ row ∈ table.rows, ¬request.Overlaps row := by
  have new : request.row B table.nextId ∈ (request.creation B table).rows :=
    List.mem_concat_self
  constructor
  · rintro after row mem ⟨concerns, validTo, there, some_, late⟩
    have kept : row ∈ (request.creation B table).rows := by
      refine List.mem_append_left _ (mem_updateWhere_of_not mem (decide_eq_false fun current => ?_))
      rw [(current).1.2] at there
      exact nomatch there
    -- Both are valid at the later of the two starts.
    refine after _ new row kept ?_ (row_sameScope.mpr concerns)
      (max row.validFrom request.payload.validFrom) ⟨⟨le_max_right .., ?_⟩, le_max_left .., ?_⟩
    · exact (sound.idsBelow row mem).ne'
    · exact fun _ none => nomatch none
    · intro other here
      obtain rfl : validTo = other := Option.mem_unique there here
      exact max_lt some_ late
  · intro clear
    have old : AssignmentTable.Disjoint
        { table with
          rows := updateWhere request.replaces
            (·.ending request.payload.validFrom request.actorId request.replaced) table.rows } :=
      disjoint.ending fun row _ reached => (of_decide_eq_true reached).1.2
    have apart {t : Instant} {row : Assignment} (mem : row ∈ updateWhere request.replaces
        (·.ending request.payload.validFrom request.actorId request.replaced) table.rows)
        (concerns : request.Concerns row) (before : request.payload.validFrom ≤ t) : ¬row.At t := by
      intro valid
      obtain ⟨was, there, ⟨-, rfl⟩ | ⟨kept, rfl⟩⟩ := mem_ending mem
      · exact absurd (valid.2 _ rfl) (not_lt.mpr before)
      · have past : ¬row.Current := fun current => of_decide_eq_false kept ⟨current, concerns⟩
        obtain ⟨-, validTo, ends⟩ := sound.ended there past
        have later := valid.2 validTo ends
        exact clear row there ⟨concerns, validTo, ends, valid.1.trans_lt later, before.trans_lt later⟩
    intro row mem other mem' differ scope t both
    rcases List.mem_append.mp mem with there | here <;>
      rcases List.mem_append.mp mem' with there' | here'
    · exact old row there other there' differ scope t both
    · rw [List.mem_singleton.mp here'] at scope both
      exact apart there (row_sameScope.mp scope.symm) both.2.1 both.1
    · rw [List.mem_singleton.mp here] at scope both
      exact apart there' (row_sameScope.mp scope) both.1.1 both.2
    · rw [List.mem_singleton.mp here, List.mem_singleton.mp here'] at differ
      exact differ rfl

/-- A new assignment starts no earlier than the end of any ended one of its concern. -/
def StartsClear (B : AccessBuiltins) (D : Directory) (table : AssignmentTable) : AccessCall → Prop
  | .assign input => ∀ request, resolveAssign B D input = .ok request → request.Creates table →
      ∀ row ∈ table.rows, ¬request.Overlaps row
  | .end_ _ => True

/-- A call keeps the history free of overlaps exactly if it starts clear. -/
theorem accessStep_disjoint_iff (table : AssignmentTable) (call : AccessCall) (sound : table.Sound)
    (disjoint : table.Disjoint) : (accessStep B D table call).Disjoint ↔ StartsClear B D table call := by
  cases call with
  | assign input =>
    by_cases done : ∃ request, resolveAssign B D input = .ok request ∧ request.Creates table
    · obtain ⟨request, resolved, creates⟩ := done
      have committed : (AccessCall.assign input).commit B D table = .ok (request.creation B table) :=
        (assign_ok).mpr ⟨request, resolved, .inr ⟨creates, rfl⟩⟩
      have step : accessStep B D table (.assign input) = request.creation B table := by
        simp only [accessStep, committed]
      rw [step, creation_disjoint_iff sound disjoint]
      constructor
      · intro clear other resolved' _
        obtain rfl := Except.ok.inj (resolved.symm.trans resolved')
        exact clear
      · exact fun clear => clear request resolved creates
    · have step : accessStep B D table (.assign input) = table := by
        unfold accessStep
        split
        · rename_i after committed
          obtain ⟨request, resolved, ⟨_, -, -, rfl⟩ | ⟨creates, -⟩⟩ := (assign_ok).mp committed
          · rfl
          · exact absurd ⟨request, resolved, creates⟩ done
        · rfl
      rw [step]
      exact ⟨fun _ request resolved creates => absurd ⟨request, resolved, creates⟩ done, fun _ => disjoint⟩
  | end_ input =>
    refine ⟨fun _ => trivial, fun _ => ?_⟩
    unfold accessStep
    split
    · rename_i after committed
      obtain ⟨request, -, row, -, ⟨-, rfl⟩ | ⟨-, -, ended⟩⟩ := (end_ok).mp committed
      · exact disjoint
      · obtain ⟨-, rfl⟩ := (endWhere_ok).mp ended
        exact disjoint.ending fun other mem reached => (sound.current mem (of_decide_eq_true reached).2.2).2
    · exact disjoint

end Validity

/-! ## Repetition -/

/-- A row before a call and the same row after it: as it was, or ended while it was active. -/
def Assignment.Evolves (row later : Assignment) : Prop :=
  later = row ∨ row.assignmentStatus = .active ∧
    ∃ at_ by_ reason, later = row.ending at_ by_ reason

/-- **What an accepted call leaves behind**: an assignment its row with its fingerprint, an end its row
with the values it was ended with. -/
def Recorded (B : AccessBuiltins) (D : Directory) (table : AssignmentTable) : AccessCall → Prop
  | .assign input => ∃ request, resolveAssign B D input = .ok request ∧
      ∃ row ∈ table.rows, row.HasKey request.storeId request.payload.assignmentKey ∧
        row.payloadFingerprint = identityFingerprint B request.payload
  | .end_ input => ∃ request, resolveEnd B D input = .ok request ∧
      ∃ row ∈ table.rows, row.HasKey request.storeId request.assignmentKey ∧ request.Done row

theorem accessStep_evolves (table : AssignmentTable) (call : AccessCall) {row : Assignment}
    (mem : row ∈ table.rows) : ∃ later ∈ (accessStep B D table call).rows, row.Evolves later := by
  have ending {p : Assignment → Bool} {at_ : Instant} {by_ : Option Nat} {reason : String}
      (active : ∀ row ∈ table.rows, p row → row.assignmentStatus = .active) :
      ∃ later ∈ updateWhere p (·.ending at_ by_ reason) table.rows, row.Evolves later := by
    cases reached : p row with
    | true =>
      exact ⟨_, mem_updateWhere_of_pos mem reached, .inr ⟨active row mem reached, at_, by_, reason, rfl⟩⟩
    | false => exact ⟨row, mem_updateWhere_of_not mem reached, .inl rfl⟩
  unfold accessStep
  split
  · rename_i after committed
    cases call with
    | assign input =>
      obtain ⟨request, -, ⟨_, -, -, rfl⟩ | ⟨-, rfl⟩⟩ := (assign_ok).mp committed
      · exact ⟨row, mem, .inl rfl⟩
      · have active (row : Assignment) (_ : row ∈ table.rows) (reached : request.replaces row) :
            row.assignmentStatus = .active := (of_decide_eq_true reached).1.1
        obtain ⟨later, there, evolves⟩ := ending active
        exact ⟨later, List.mem_append_left _ there, evolves⟩
    | end_ input =>
      obtain ⟨request, -, found, -, ⟨-, rfl⟩ | ⟨-, -, ended⟩⟩ := (end_ok).mp committed
      · exact ⟨row, mem, .inl rfl⟩
      · obtain ⟨-, rfl⟩ := (endWhere_ok).mp ended
        exact ending fun other _ reached => (of_decide_eq_true reached).2.2
  · exact ⟨row, mem, .inl rfl⟩

variable {call : AccessCall}

theorem Recorded.step (recorded : Recorded B D table call) (other : AccessCall) : Recorded B D (accessStep B D table other) call := by
  cases call with
  | assign input =>
    obtain ⟨request, resolved, row, mem, keyed, same⟩ := recorded
    obtain ⟨later, there, rfl | ⟨-, at_, by_, reason, rfl⟩⟩ := accessStep_evolves table other mem
    · exact ⟨request, resolved, later, there, keyed, same⟩
    · exact ⟨request, resolved, _, there, keyed, same⟩
  | end_ input =>
    obtain ⟨request, resolved, row, mem, keyed, done⟩ := recorded
    obtain ⟨later, there, rfl | ⟨active, -⟩⟩ := accessStep_evolves table other mem
    · exact ⟨request, resolved, later, there, keyed, done⟩
    · exact nomatch done.1.symm.trans active

theorem Recorded.of_commit (committed : call.commit B D table = .ok after) : Recorded B D after call := by
  cases call with
  | assign input =>
    obtain ⟨request, resolved, ⟨row, found, same, rfl⟩ | ⟨-, rfl⟩⟩ := (assign_ok).mp committed
    · have keyed : row.HasKey request.storeId request.payload.assignmentKey := by
        simpa using List.find?_some found
      exact ⟨request, resolved, row, List.mem_of_find?_eq_some found, keyed, same⟩
    · exact ⟨request, resolved, _, List.mem_concat_self, ⟨rfl, rfl⟩, rfl⟩
  | end_ input =>
    obtain ⟨request, resolved, row, found, outcome⟩ := (end_ok).mp committed
    have mem := List.mem_of_find?_eq_some found
    have keyed : row.HasKey request.storeId request.assignmentKey := by simpa using List.find?_some found
    obtain ⟨done, rfl⟩ | ⟨active, -, ended⟩ := outcome
    · exact ⟨request, resolved, row, mem, keyed, done⟩
    · obtain ⟨-, rfl⟩ := (endWhere_ok).mp ended
      have reached : request.ends row row = true := decide_eq_true ⟨keyed.1, rfl, active⟩
      exact ⟨request, resolved, _, mem_updateWhere_of_pos mem reached, keyed, rfl, rfl, rfl, rfl⟩

theorem Recorded.repeat_ (sound : table.Sound) (recorded : Recorded B D table call) :
    call.commit B D table = .ok table := by
  cases call with
  | assign input =>
    obtain ⟨request, resolved, row, mem, keyed, same⟩ := recorded
    exact (assign_ok).mpr ⟨request, resolved, .inl ⟨row, sound.find? mem keyed, same, rfl⟩⟩
  | end_ input =>
    obtain ⟨request, resolved, row, mem, keyed, done⟩ := recorded
    exact (end_ok).mpr ⟨request, resolved, row, sound.find? mem keyed, .inl ⟨done, rfl⟩⟩

/-! ## Runs -/

variable (calls : List AccessCall)

theorem run_accessStep_sound : (run (accessStep B D) {} calls).Sound :=
  run_invariant accessStep_sound .empty calls

theorem repeat_commit {pre mid : List AccessCall}
    (committed : call.commit B D (run (accessStep B D) {} pre) = .ok after) :
    call.commit B D (run (accessStep B D) {} (pre ++ call :: mid)) =
      .ok (run (accessStep B D) {} (pre ++ call :: mid)) := by
  have first : accessStep B D (run (accessStep B D) {} pre) call = after := by
    simp only [accessStep, committed]
  have afterSound : after.Sound := first ▸ accessStep_sound _ call (run_accessStep_sound pre)
  rw [run_append, run_cons, first]
  have kept := run_invariant (I := fun table => table.Sound ∧ Recorded B D table call)
    (fun table other both => ⟨accessStep_sound table other both.1, both.2.step other⟩)
    ⟨afterSound, Recorded.of_commit committed⟩ mid
  exact kept.2.repeat_ kept.1

/-- What the history of the assignments is to be after a list of calls: per store one active `PRIMARY`
assignment and one active assignment of an employee, no overlaps, and no effect of a repetition. -/
structure HistoryLaw (B : AccessBuiltins) (D : Directory) (calls : List AccessCall) : Prop where
  onePrimary : ∀ row ∈ (run (accessStep B D) {} calls).rows, ∀ other ∈ (run (accessStep B D) {} calls).rows,
    row.assignmentStatus = .active → other.assignmentStatus = .active → row.storeId = other.storeId →
      row.assignmentRole = .primary → other.assignmentRole = .primary → row = other
  onePerEmployee : ∀ row ∈ (run (accessStep B D) {} calls).rows,
    ∀ other ∈ (run (accessStep B D) {} calls).rows,
      row.assignmentStatus = .active → other.assignmentStatus = .active → row.storeId = other.storeId →
        row.employeePrincipalId = other.employeePrincipalId → row = other
  disjoint : (run (accessStep B D) {} calls).Disjoint
  repeated : ∀ pre call mid, calls = pre ++ call :: mid →
    ∀ after, call.commit B D (run (accessStep B D) {} pre) = .ok after →
      accessStep B D (run (accessStep B D) {} calls) call = run (accessStep B D) {} calls

theorem historyLaw_iff : HistoryLaw B D calls ↔ (run (accessStep B D) {} calls).Disjoint := by
  have sound := run_accessStep_sound (B := B) (D := D) calls
  refine ⟨HistoryLaw.disjoint, fun disjoint => ⟨?_, ?_, disjoint, ?_⟩⟩
  · intro row mem other mem' active active'
    exact sound.primary row mem other mem' (sound.current mem active) (sound.current mem' active')
  · intro row mem other mem' active active'
    exact sound.employee row mem other mem' (sound.current mem active) (sound.current mem' active')
  · rintro pre call mid rfl after committed
    rw [accessStep, repeat_commit committed]

/-- **The history of the assignments is lawful after every call exactly if each new assignment starts
clear of the ended ones of its concern.** -/
theorem assignmentHistory_iff (B : AccessBuiltins) (D : Directory) (calls : List AccessCall) :
    (∀ pre post, calls = pre ++ post → HistoryLaw B D pre) ↔ Along (accessStep B D) (StartsClear B D) {} calls := by
  have start : AssignmentTable.Disjoint {} := fun _ mem => nomatch mem
  have step (table : AssignmentTable) (call : AccessCall) (_ : call ∈ calls) := accessStep_disjoint_iff (B := B) (D := D) table call
  rw [along_iff_reaches accessStep_sound step .empty start]
  simp only [historyLaw_iff]

/-! ## A handover that overlaps -/

def asciiAccess : AccessBuiltins where
  text := .ascii
  digest := ⟨fun _ => String.ofList (List.replicate 64 'a'), fun _ => isSha256Hex_replicate (by decide)⟩

def twoEmployees : Directory where
  stores := [⟨1, "S1", true⟩]
  principals := [⟨1, "ann", true⟩, ⟨2, "bob", true⟩]

def primaryInput (principalKey assignmentKey : String) (validFrom : Instant) : AssignInput where
  storeCode := some "S1"
  principalKey := some principalKey
  assignmentKey := some assignmentKey
  assignmentRole := some "PRIMARY"
  reason := some "handover"
  validFrom := some validFrom

/-- The first owner's assignment is ended for a day to come, and the second's starts before it. -/
def handover : List AccessCall :=
  [.assign (primaryInput "ann" "A1" 0),
    .end_ { storeCode := some "S1", assignmentKey := some "A1", endedAt := some 10
            endedReason := some "leaves" },
    .assign (primaryInput "bob" "A2" 5)]

/-- Both own the store at instant 5. -/
theorem handover_overlaps : ¬HistoryLaw asciiAccess twoEmployees handover := by
  intro law
  have both : ∃ row ∈ (run (accessStep asciiAccess twoEmployees) {} handover).rows,
      ∃ other ∈ (run (accessStep asciiAccess twoEmployees) {} handover).rows,
        row.employeeStoreAssignmentId ≠ other.employeeStoreAssignmentId ∧ row.storeId = other.storeId ∧
        (row.assignmentRole = .primary ∧ other.assignmentRole = .primary) ∧
        (row.validFrom = 0 ∧ row.validTo = some 10) ∧ other.validFrom = 5 ∧ other.validTo = none := by
    decide
  obtain ⟨row, mem, other, mem', differ, store, roles, ⟨start, ends⟩, start', open_⟩ := both
  refine law.disjoint row mem other mem' differ ⟨store, .inr roles⟩ 5 ⟨⟨?_, ?_⟩, ?_, ?_⟩
  · rw [start]
    decide
  · intro validTo there
    obtain rfl : 10 = validTo := Option.mem_unique ends there
    decide
  · rw [start']
  · intro validTo there
    exact nomatch open_.symm.trans there

/-! ## What has been recorded -/

theorem Assignment.Evolves.trans {row mid later : Assignment} (first : row.Evolves mid) (second : mid.Evolves later) :
    row.Evolves later := by
  rcases first with rfl | ⟨active, at_, by_, reason, rfl⟩
  · exact second
  · rcases second with rfl | ⟨again, -⟩
    · exact .inr ⟨active, at_, by_, reason, rfl⟩
    · cases again

/-- **The history is kept.** An assignment that has been made stays, alone under its id and with all it was made with, after
whatever calls come later; it is ended at most once, and an ended one does not change. -/
theorem assignment_kept (B : AccessBuiltins) (D : Directory) (calls later : List AccessCall) (row : Assignment)
    (made : row ∈ (run (accessStep B D) {} calls).rows) :
    ∃ now ∈ (run (accessStep B D) {} (calls ++ later)).rows, row.Evolves now ∧
      ∀ other ∈ (run (accessStep B D) {} (calls ++ later)).rows,
        other.employeeStoreAssignmentId = row.employeeStoreAssignmentId → other = now := by
  obtain ⟨now, there, evolves⟩ : ∃ now ∈ (run (accessStep B D) {} (calls ++ later)).rows, row.Evolves now := by
    rw [run_append]
    refine run_invariant (I := fun table : AssignmentTable => ∃ now ∈ table.rows, row.Evolves now) ?_
      ⟨row, made, .inl rfl⟩ later
    rintro table call ⟨mid, there, evolves⟩
    obtain ⟨now, mem, next⟩ := accessStep_evolves table call there
    exact ⟨now, mem, evolves.trans next⟩
  refine ⟨now, there, evolves, fun other mem same => ?_⟩
  have id : now.employeeStoreAssignmentId = row.employeeStoreAssignmentId := by
    rcases evolves with rfl | ⟨-, at_, by_, reason, rfl⟩ <;> rfl
  exact List.inj_on_of_nodup_map (run_accessStep_sound (calls ++ later)).ids mem there (same.trans id.symm)

theorem assignment_kept_handover :
    ∃ row ∈ (run (accessStep asciiAccess twoEmployees) {} (handover.take 1)).rows,
      ∃ now ∈ (run (accessStep asciiAccess twoEmployees) {} handover).rows, row.Evolves now ∧
        ∀ other ∈ (run (accessStep asciiAccess twoEmployees) {} handover).rows,
          other.employeeStoreAssignmentId = row.employeeStoreAssignmentId → other = now := by
  obtain ⟨row, made⟩ := List.exists_mem_of_ne_nil
    (run (accessStep asciiAccess twoEmployees) {} (handover.take 1)).rows (by decide)
  exact ⟨row, made, assignment_kept asciiAccess twoEmployees (handover.take 1) (handover.drop 1) row made⟩

end FullManagedBi.Access
