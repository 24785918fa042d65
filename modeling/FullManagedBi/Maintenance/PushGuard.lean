import FullManagedBi.Lib.Js

/-!
# The guard of a push

`evaluatePushUpdates` of `scripts/lib/version_management.mjs`: what a push may do to `main`, to release and archive tags
and to branches. What `git` answers about commits is a parameter, and each question may fail.
-/

namespace FullManagedBi.Maintenance

open Lib

/-! ## Refs -/

/-- `ZERO_OID_PATTERN`. -/
def isZeroOid (oid : String) : Bool :=
  decide (40 ≤ oid.toList.length ∧ oid.toList.length ≤ 64) && oid.toList.all (· = '0')

def behindStart (start : String) (text : String) : Option (List Char) :=
  if start.toList.isPrefixOf text.toList then some (text.toList.drop start.toList.length) else none

/-- `\d{4}\.\d{2}\.\d{2}(?:\.\d+)?`. -/
def isReleaseName (name : List Char) : Bool :=
  let date := name.take 10
  let number := name.drop 10
  decide (date.length = 10) &&
    (date.zipIdx.all fun part => if part.2 = 4 ∨ part.2 = 7 then part.1 = '.' else part.1.isDigit) &&
    match number with
    | [] => true
    | point :: digits => decide (point = '.') && !digits.isEmpty && digits.all Char.isDigit

def isReleaseTagRef (ref : String) : Bool := ((behindStart "refs/tags/" ref).map isReleaseName).getD false

def isArchiveTagRef (ref : String) : Bool := (behindStart "refs/tags/archive/" ref).isSome

def mainRef : String := "refs/heads/main"

def isBranchRef (ref : String) : Bool := (behindStart "refs/heads/" ref).isSome && decide (ref ≠ mainRef)

/-! ## Updates -/

/-- An update of a ref, as the hook reads it. -/
structure RefUpdate where
  localRef : String
  localOid : String
  remoteRef : String
  remoteOid : String
  deriving DecidableEq

def RefUpdate.deletes (update : RefUpdate) : Bool := isZeroOid update.localOid

def RefUpdate.replaces (update : RefUpdate) : Bool := !isZeroOid update.remoteOid

/-- What `git` answers about commits. -/
structure Git where
  isAncestor : String → String → Except JsError Bool
  resolveCommit : String → Except JsError String

/-- `issue`. -/
structure PushIssue where
  code : String
  ref : String
  message : String
  deriving DecidableEq

/-- What `evaluatePushUpdates` returns. -/
structure PushResult where
  ok : Bool
  projectedMainOid : Option String
  issues : List PushIssue
  deriving DecidableEq

/-- `value || null`, of an object id. -/
def presentOid (oid : Option String) : Option String := oid.filter (· ≠ "")

/-- The main line after the push, with what is wrong with the first update that names it. -/
def projectMain (git : Git) (updates : List RefUpdate) (remoteMainOid : Option String) :
    Except JsError (Option String × List PushIssue) := do
  match updates.find? fun update => update.remoteRef = mainRef with
  | none => return (presentOid remoteMainOid, [])
  | some update =>
    if update.deletes then
      return (presentOid remoteMainOid, [⟨"MAIN_DELETE_FORBIDDEN", update.remoteRef, "main may not be deleted"⟩])
    let projected ← git.resolveCommit update.localOid
    match presentOid remoteMainOid with
    | none => return (some projected, [])
    | some remote =>
      if isZeroOid remote then return (some projected, [])
      let forward ← git.isAncestor remote projected
      return (some projected, if forward then [] else
        [⟨"MAIN_NON_FAST_FORWARD_FORBIDDEN", update.remoteRef, "main must move by fast-forward"⟩])

def releaseIssues (git : Git) (projectedMainOid : Option String) (update : RefUpdate) : Except JsError (List PushIssue) := do
  if !isReleaseTagRef update.remoteRef then return []
  if update.deletes then
    return [⟨"RELEASE_TAG_DELETE_FORBIDDEN", update.remoteRef, "release tags are immutable"⟩]
  match presentOid projectedMainOid with
  | none =>
    return [⟨"MAIN_REF_REQUIRED", update.remoteRef, "remote main is required before a release tag can be pushed"⟩]
  | some main =>
    let releaseCommit ← git.resolveCommit update.localOid
    let reachable ← git.isAncestor releaseCommit main
    return if reachable then [] else
      [⟨"RELEASE_NOT_ON_MAIN", update.remoteRef, "release tag target must already be reachable from main"⟩]

def archiveIssues (update : RefUpdate) : List PushIssue :=
  if isArchiveTagRef update.remoteRef ∧ update.deletes then
    [⟨"ARCHIVE_TAG_DELETE_FORBIDDEN", update.remoteRef, "archive tags are immutable audit anchors"⟩]
  else []

def branchIssues (git : Git) (projectedMainOid : Option String) (archivedOids : List String) (update : RefUpdate) :
    Except JsError (List PushIssue) := do
  if !(isBranchRef update.remoteRef && update.deletes && update.replaces) then return []
  match presentOid projectedMainOid with
  | none =>
    return [⟨"MAIN_REF_REQUIRED", update.remoteRef, "remote main is required before a branch can be deleted"⟩]
  | some main =>
    let merged ← git.isAncestor update.remoteOid main
    return if merged ∨ update.remoteOid ∈ archivedOids then [] else
      [⟨"UNMERGED_BRANCH_DELETE_FORBIDDEN", update.remoteRef,
        "branch tip is neither merged into main nor preserved by a remote archive tag"⟩]

/-- What is wrong with an update, other than with `main`. -/
def updateIssues (git : Git) (projectedMainOid : Option String) (archivedOids : List String) (update : RefUpdate) :
    Except JsError (List PushIssue) := do
  let release ← releaseIssues git projectedMainOid update
  let branch ← branchIssues git projectedMainOid archivedOids update
  return release ++ archiveIssues update ++ branch

def evaluatePushUpdates (git : Git) (updates : List RefUpdate) (remoteMainOid : Option String)
    (archivedOids : List String) : Except JsError PushResult := do
  let (projectedMainOid, mainIssues) ← projectMain git updates remoteMainOid
  let others ← updates.mapM (updateIssues git projectedMainOid archivedOids)
  let issues := mainIssues ++ others.flatten
  return { ok := issues.isEmpty, projectedMainOid, issues }

end FullManagedBi.Maintenance
