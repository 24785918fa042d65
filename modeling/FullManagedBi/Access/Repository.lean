import FullManagedBi.Lib.Calendar
import FullManagedBi.Lib.Json
import FullManagedBi.Lib.Table

/-!
# Employees and their stores

`assignEmployeeToStore` and `endEmployeeStoreAssignment` (`src/warehouse/access-repository.mjs`) write
`ops.employee_store_assignment` (migration `0004_product_identity_and_access.sql`), the temporal record
of who answers for a store. Both take their instants from the caller. Each is one transaction under a
lock of the store, so it is one step for everybody else.
-/

namespace FullManagedBi.Access

open Lib

/-- A point in time, in milliseconds. -/
abbrev Instant := Int

/-! ## Rows -/

/-- `ASSIGNMENT_ROLES`. -/
inductive AssignmentRole where
  | primary
  | support
  | viewer
  deriving DecidableEq

def AssignmentRole.text : AssignmentRole → String
  | .primary => "PRIMARY"
  | .support => "SUPPORT"
  | .viewer => "VIEWER"

/-- `ASSIGNMENT_ROLES.has(…)`. -/
def AssignmentRole.ofText (text : String) : Option AssignmentRole :=
  [AssignmentRole.primary, .support, .viewer].find? (·.text = text)

/-- `assignment_status`. -/
inductive AssignmentStatus where
  | active
  | ended
  deriving DecidableEq

/-- A row of `ops.employee_store_assignment`. -/
structure Assignment where
  employeeStoreAssignmentId : Nat
  storeId : Nat
  employeePrincipalId : Nat
  assignmentKey : String
  assignmentRole : AssignmentRole
  assignmentStatus : AssignmentStatus := .active
  assignedByPrincipalId : Option Nat
  endedByPrincipalId : Option Nat := none
  reason : String
  endedReason : Option String := none
  payloadFingerprint : String
  validFrom : Instant
  validTo : Option Instant := none
  deriving DecidableEq

/-- The table, and its next identity. -/
structure AssignmentTable where
  rows : List Assignment := []
  nextId : Nat := 1
  deriving DecidableEq

/-- A row of `dim.store`. -/
structure Store where
  storeId : Nat
  storeCode : String
  isActive : Bool
  deriving DecidableEq

/-- A row of `ops.employee_principal`, as far as the two functions read it. -/
structure Principal where
  employeePrincipalId : Nat
  principalKey : String
  isActive : Bool
  deriving DecidableEq

structure Directory where
  stores : List Store
  principals : List Principal

/-- What the functions take from the engine. -/
structure AccessBuiltins where
  text : TextBuiltins
  digest : Digest

variable (B : AccessBuiltins) (D : Directory)

/-! ## Arguments -/

def requiredText (value : Option String) (label : String) : Except JsError String :=
  let result := jsTrim (value.getD "")
  if result = "" then .error { message := label ++ " is required." } else .ok result

def normalizedStoreCode (value : Option String) : Except JsError String := do
  let result := B.text.toUpperCase (← requiredText value "storeCode")
  refuse (¬(result ≠ "" ∧ result.toList.all fun c => c.isUpper || c.isDigit || c == '_' || c == '-'))
    { message := "storeCode is invalid." }
  return result

/-- `normalizedInstant`: nothing stands for a value that is no timestamp. -/
def normalizedInstant (value : Option Instant) (label : String) : Except JsError Instant :=
  match value with
  | some instant => .ok instant
  | none => .error { message := label ++ " must be a valid timestamp." }

/-- `input.key ? requiredText(input.key, label) : null`. -/
def optionalText (value : Option String) (label : String) : Except JsError (Option String) :=
  match value with
  | none => .ok none
  | some "" => .ok none
  | some text => (requiredText (some text) label).map some

def requireStore (storeCode : String) : Except JsError Nat :=
  match D.stores.find? (fun store => store.storeCode = storeCode ∧ store.isActive) with
  | some store => .ok store.storeId
  | none => .error { message := "Active store " ++ storeCode ++ " was not found." }

def requirePrincipal (principalKey : String) : Except JsError Nat :=
  match D.principals.find? (fun principal =>
      principal.principalKey = principalKey ∧ principal.isActive) with
  | some principal => .ok principal.employeePrincipalId
  | none =>
    .error { message := "Employee principal " ++ principalKey ++ " was not found or is disabled." }

/-- The actor of a call, where one is named. -/
def requireActor : Option String → Except JsError (Option Nat)
  | none => .ok none
  | some principalKey => (requirePrincipal D principalKey).map some

/-! ## Fingerprints -/

/-- The value `identityFingerprint` is taken of. -/
structure AssignmentPayload where
  storeCode : String
  principalKey : String
  assignmentKey : String
  assignmentRole : AssignmentRole
  assignedByPrincipalKey : Option String
  reason : String
  validFrom : Instant
  deriving DecidableEq

/-- `JSON.stringify` of a text or `null`. -/
def jsonNullable : Option String → List Char
  | some text => jsonString text
  | none => "null".toList

/-- `stableIdentityJson`: the fields in the order of their names. -/
def stableIdentityJson (payload : AssignmentPayload) : String :=
  let fields : List (String × Option String) :=
    [("assignedByPrincipalKey", payload.assignedByPrincipalKey),
      ("assignmentKey", some payload.assignmentKey),
      ("assignmentRole", some payload.assignmentRole.text),
      ("principalKey", some payload.principalKey), ("reason", some payload.reason),
      ("storeCode", some payload.storeCode), ("validFrom", some (toIsoInstant payload.validFrom))]
  String.ofList ('{' :: joinComma (fields.map fun field => fieldText (field.1, jsonNullable field.2)) ++
    ['}'])

def identityFingerprint (payload : AssignmentPayload) : String :=
  B.digest.sha256Hex (stableIdentityJson payload)

/-! ## assignEmployeeToStore -/

/-- The arguments of `assignEmployeeToStore`. -/
structure AssignInput where
  storeCode : Option String
  principalKey : Option String
  assignmentKey : Option String
  assignmentRole : Option String
  assignedByPrincipalKey : Option String := none
  reason : Option String
  validFrom : Option Instant
  deriving DecidableEq

/-- The checks of `assignEmployeeToStore` before its transaction. -/
def readAssignInput (input : AssignInput) : Except JsError AssignmentPayload := do
  let storeCode ← normalizedStoreCode B input.storeCode
  let principalKey ← requiredText input.principalKey "principalKey"
  let assignmentKey ← requiredText input.assignmentKey "assignmentKey"
  let role := B.text.toUpperCase (← requiredText input.assignmentRole "assignmentRole")
  let assignedByPrincipalKey ← optionalText input.assignedByPrincipalKey "assignedByPrincipalKey"
  let reason ← requiredText input.reason "reason"
  let validFrom ← normalizedInstant input.validFrom "validFrom"
  match AssignmentRole.ofText role with
  | none => throw { message := "assignmentRole is invalid." }
  | some assignmentRole =>
    return { storeCode, principalKey, assignmentKey, assignmentRole, assignedByPrincipalKey, reason
             validFrom }

/-- An assignment whose store and principals have been found. -/
structure AssignRequest where
  payload : AssignmentPayload
  storeId : Nat
  principalId : Nat
  actorId : Option Nat
  deriving DecidableEq

/-- The checks and the lookups of `assignEmployeeToStore`. -/
def resolveAssign (input : AssignInput) : Except JsError AssignRequest := do
  let payload ← readAssignInput B input
  let storeId ← requireStore D payload.storeCode
  let principalId ← requirePrincipal D payload.principalKey
  let actorId ← requireActor D payload.assignedByPrincipalKey
  return { payload, storeId, principalId, actorId }

/-- `store_id = $1 AND assignment_key = $2`. -/
def Assignment.HasKey (storeId : Nat) (assignmentKey : String) (row : Assignment) : Prop :=
  row.storeId = storeId ∧ row.assignmentKey = assignmentKey

instance (storeId : Nat) (assignmentKey : String) (row : Assignment) :
    Decidable (row.HasKey storeId assignmentKey) := by
  unfold Assignment.HasKey
  infer_instance

/-- `assignment_status = 'ACTIVE' AND valid_to IS NULL`. -/
def Assignment.Current (row : Assignment) : Prop := row.assignmentStatus = .active ∧ row.validTo = none

instance (row : Assignment) : Decidable row.Current := by
  unfold Assignment.Current
  infer_instance

/-- The rows of the store that answer for the same as the request: those of its employee, and the
`PRIMARY` ones where it is `PRIMARY` itself. -/
def AssignRequest.Concerns (request : AssignRequest) (row : Assignment) : Prop :=
  row.storeId = request.storeId ∧
    (row.employeePrincipalId = request.principalId ∨
      request.payload.assignmentRole = .primary ∧ row.assignmentRole = .primary)

instance (request : AssignRequest) (row : Assignment) : Decidable (request.Concerns row) := by
  unfold AssignRequest.Concerns
  infer_instance

/-- `ck_ops_employee_store_assignment_validity`. -/
def Assignment.ValidityFits (row : Assignment) : Prop :=
  match row.assignmentStatus with
  | .active => row.validTo = none ∧ row.endedByPrincipalId = none ∧ row.endedReason = none
  | .ended => (∃ validTo ∈ row.validTo, row.validFrom ≤ validTo) ∧ row.endedReason ≠ none

instance (row : Assignment) : Decidable row.ValidityFits := by
  unfold Assignment.ValidityFits
  split <;> infer_instance

def violates (errcode name : String) : JsError :=
  ⟨some errcode, "violates constraint \"" ++ name ++ "\""⟩

def Assignment.ending (row : Assignment) (at_ : Instant) (by_ : Option Nat) (reason : String) :
    Assignment :=
  { row with
    assignmentStatus := .ended, validTo := some at_, endedByPrincipalId := by_
    endedReason := some reason }

/-- `UPDATE ops.employee_store_assignment`, under its check. -/
def AssignmentTable.endWhere (table : AssignmentTable) (p : Assignment → Bool) (at_ : Instant)
    (by_ : Option Nat) (reason : String) : Except JsError AssignmentTable := do
  refuse (∃ row ∈ table.rows, p row ∧ ¬(row.ending at_ by_ reason).ValidityFits)
    (violates "23514" "ck_ops_employee_store_assignment_validity")
  return { table with rows := updateWhere p (·.ending at_ by_ reason) table.rows }

/-- `INSERT INTO ops.employee_store_assignment`, under its unique keys. -/
def AssignmentTable.insert (table : AssignmentTable) (row : Assignment) :
    Except JsError AssignmentTable := do
  refuse (∃ other ∈ table.rows, other.HasKey row.storeId row.assignmentKey)
    (violates "23505" "uq_ops_employee_store_assignment_store_key")
  refuse (∃ other ∈ table.rows, other.Current ∧ other.storeId = row.storeId ∧
      other.employeePrincipalId = row.employeePrincipalId)
    (violates "23505" "uq_ops_employee_store_assignment_current_employee")
  refuse (row.assignmentRole = .primary ∧ ∃ other ∈ table.rows, other.Current ∧
      other.storeId = row.storeId ∧ other.assignmentRole = .primary)
    (violates "23505" "uq_ops_employee_store_assignment_current_primary")
  return { rows := table.rows ++ [row], nextId := table.nextId + 1 }

def AssignRequest.row (request : AssignRequest) (id : Nat) : Assignment where
  employeeStoreAssignmentId := id
  storeId := request.storeId
  employeePrincipalId := request.principalId
  assignmentKey := request.payload.assignmentKey
  assignmentRole := request.payload.assignmentRole
  assignedByPrincipalId := request.actorId
  reason := request.payload.reason
  payloadFingerprint := identityFingerprint B request.payload
  validFrom := request.payload.validFrom

/-- What `assignEmployeeToStore` returns. -/
structure AssignAnswer where
  employeeStoreAssignmentId : Nat
  created : Bool
  endedAssignmentCount : Nat
  deriving DecidableEq

def assignEmployeeToStore (input : AssignInput) (table : AssignmentTable) :
    Except JsError (AssignAnswer × AssignmentTable) := do
  let request ← resolveAssign B D input
  let key := request.payload.assignmentKey
  match table.rows.find? (·.HasKey request.storeId key) with
  | some retry =>
    refuse (retry.payloadFingerprint ≠ identityFingerprint B request.payload)
      { message := "Employee-store assignment key was retried with drifted payload." }
    return (⟨retry.employeeStoreAssignmentId, false, 0⟩, table)
  | none =>
    let replaced := fun row : Assignment => decide (row.Current ∧ request.Concerns row)
    let ended ← table.endWhere replaced request.payload.validFrom request.actorId
      ("Replaced by assignment " ++ key ++ ": " ++ request.payload.reason)
    let after ← ended.insert (request.row B table.nextId)
    return (⟨table.nextId, true, rowCount replaced table.rows⟩, after)

/-! ## endEmployeeStoreAssignment -/

/-- The arguments of `endEmployeeStoreAssignment`. -/
structure EndInput where
  storeCode : Option String
  assignmentKey : Option String
  endedAt : Option Instant
  endedReason : Option String
  endedByPrincipalKey : Option String := none
  deriving DecidableEq

structure EndRequest where
  storeCode : String
  storeId : Nat
  assignmentKey : String
  endedAt : Instant
  endedReason : String
  actorId : Option Nat
  deriving DecidableEq

/-- The checks and the lookups of `endEmployeeStoreAssignment`. -/
def resolveEnd (input : EndInput) : Except JsError EndRequest := do
  let storeCode ← normalizedStoreCode B input.storeCode
  let assignmentKey ← requiredText input.assignmentKey "assignmentKey"
  let endedAt ← normalizedInstant input.endedAt "endedAt"
  let endedReason ← requiredText input.endedReason "endedReason"
  let endedByPrincipalKey ← optionalText input.endedByPrincipalKey "endedByPrincipalKey"
  let storeId ← requireStore D storeCode
  let actorId ← requireActor D endedByPrincipalKey
  return { storeCode, storeId, assignmentKey, endedAt, endedReason, actorId }

/-- What `endEmployeeStoreAssignment` returns. -/
structure EndAnswer where
  employeeStoreAssignmentId : Nat
  ended : Bool
  deriving DecidableEq

def endEmployeeStoreAssignment (input : EndInput) (table : AssignmentTable) :
    Except JsError (EndAnswer × AssignmentTable) := do
  let request ← resolveEnd B D input
  match table.rows.find? (·.HasKey request.storeId request.assignmentKey) with
  | none =>
    throw { message := "Employee-store assignment " ++ request.assignmentKey ++ " was not found in " ++
      request.storeCode ++ "." }
  | some row =>
    match row.assignmentStatus with
    | .ended =>
      refuse (¬(row.validTo = some request.endedAt ∧ row.endedByPrincipalId = request.actorId ∧
          row.endedReason = some request.endedReason))
        { message := "Ended employee-store assignment was retried with drifted payload." }
      return (⟨row.employeeStoreAssignmentId, false⟩, table)
    | .active =>
      let ended := fun other : Assignment => decide (other.storeId = request.storeId ∧
        other.employeeStoreAssignmentId = row.employeeStoreAssignmentId ∧
        other.assignmentStatus = .active)
      let after ← table.endWhere ended request.endedAt request.actorId request.endedReason
      refuse (rowCount ended table.rows ≠ 1)
        { message := "Employee-store assignment could not be ended." }
      return (⟨row.employeeStoreAssignmentId, true⟩, after)

/-! ## Calls -/

/-- A call of one of the two functions. -/
inductive AccessCall where
  | assign (input : AssignInput)
  | end_ (input : EndInput)
  deriving DecidableEq

def AccessCall.commit : AccessCall → AssignmentTable → Except JsError AssignmentTable
  | .assign input, table => (assignEmployeeToStore B D input table).map (·.2)
  | .end_ input, table => (endEmployeeStoreAssignment B D input table).map (·.2)

/-- The table after a call: one that throws is rolled back. -/
def accessStep (table : AssignmentTable) (call : AccessCall) : AssignmentTable :=
  match call.commit B D table with
  | .ok after => after
  | .error _ => table

end FullManagedBi.Access
