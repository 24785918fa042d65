import FullManagedBi.Maintenance.PushGuard

/-!
# What a push that passes the guard does

**`evaluatePushUpdates_ok`**: the first update that names `main` moves it forward, no release tag is deleted and each
that is pushed is on `main`, no archive tag is deleted, and a branch that is deleted is on `main` or in the archive.

The guard does not ask where a tag was before, and an update that names `main` again is not looked at
(`pushUpdates_unguarded`).
-/

namespace FullManagedBi.Maintenance

open Lib

variable {git : Git} {updates : List RefUpdate} {remoteMainOid projectedMainOid : Option String}
  {archivedOids : List String} {update : RefUpdate}

/-! ## Each kind of ref -/

def MovesForward (git : Git) (remoteMainOid : Option String) (update : RefUpdate) (commit : String) : Prop :=
  update.deletes = false ∧ git.resolveCommit update.localOid = .ok commit ∧
    ∀ remote, presentOid remoteMainOid = some remote → isZeroOid remote = false → git.isAncestor remote commit = .ok true

/-- Nothing is wrong with the first update of `main` where it moves it forward. -/
theorem projectMain_free (projected : projectMain git updates remoteMainOid = .ok (projectedMainOid, [])) :
    match updates.find? fun update => update.remoteRef = mainRef with
    | none => projectedMainOid = presentOid remoteMainOid
    | some update => ∃ commit, projectedMainOid = some commit ∧ MovesForward git remoteMainOid update commit := by
  unfold projectMain at projected
  cases found : updates.find? fun update => update.remoteRef = mainRef with
  | none =>
    rw [found] at projected
    exact (Prod.mk.inj (Except.ok.inj projected)).1.symm
  | some update =>
    rw [found] at projected
    dsimp only at projected ⊢
    split at projected
    · next deleted => cases projected
    · next kept =>
      obtain ⟨commit, resolved, projected⟩ := bind_eq_ok projected
      split at projected
      · next absent =>
        obtain ⟨rfl, -⟩ := Prod.mk.inj (Except.ok.inj projected)
        refine ⟨commit, rfl, Bool.eq_false_iff.mpr kept, resolved, fun remote present => ?_⟩
        rw [absent] at present
        cases present
      · next remote present =>
        split at projected
        · next zero =>
          obtain ⟨rfl, -⟩ := Prod.mk.inj (Except.ok.inj projected)
          refine ⟨commit, rfl, Bool.eq_false_iff.mpr kept, resolved, fun other same there => ?_⟩
          obtain rfl := Option.mem_unique present same
          rw [zero] at there
          cases there
        · next there =>
          obtain ⟨forward, asked, projected⟩ := bind_eq_ok projected
          obtain ⟨rfl, free⟩ := Prod.mk.inj (Except.ok.inj projected)
          refine ⟨commit, rfl, Bool.eq_false_iff.mpr kept, resolved, fun other same _ => ?_⟩
          obtain rfl := Option.mem_unique present same
          cases forward with
          | true => exact asked
          | false => cases free

theorem presentOid_eq_some {oid : Option String} {text : String} (present : presentOid oid = some text) :
    oid = some text := (Option.filter_eq_some_iff.mp present).1

/-- Nothing is wrong with a release tag that is not deleted and is on the main line. -/
theorem releaseIssues_free (free : releaseIssues git projectedMainOid update = .ok [])
    (release : isReleaseTagRef update.remoteRef = true) :
    update.deletes = false ∧ ∃ main commit, projectedMainOid = some main ∧
      git.resolveCommit update.localOid = .ok commit ∧ git.isAncestor commit main = .ok true := by
  unfold releaseIssues at free
  rw [release, Bool.not_true, if_neg Bool.false_ne_true] at free
  split at free
  · cases free
  · next kept =>
    refine ⟨Bool.eq_false_iff.mpr kept, ?_⟩
    split at free
    · cases free
    · next main present =>
      obtain ⟨commit, resolved, free⟩ := bind_eq_ok free
      obtain ⟨reachable, asked, free⟩ := bind_eq_ok free
      refine ⟨main, commit, presentOid_eq_some present, resolved, ?_⟩
      cases reachable with
      | true => exact asked
      | false => cases free

theorem archiveIssues_free (free : archiveIssues update = []) (archive : isArchiveTagRef update.remoteRef = true) :
    update.deletes = false := by
  unfold archiveIssues at free
  split at free
  · cases free
  · next kept => exact Bool.eq_false_iff.mpr fun deleted => kept ⟨archive, deleted⟩

/-- Nothing is wrong with a deleted branch that is on the main line or in the archive. -/
theorem branchIssues_free (free : branchIssues git projectedMainOid archivedOids update = .ok [])
    (branch : isBranchRef update.remoteRef = true) (deleted : update.deletes = true) (there : update.replaces = true) :
    ∃ main, projectedMainOid = some main ∧
      (git.isAncestor update.remoteOid main = .ok true ∨ update.remoteOid ∈ archivedOids) := by
  unfold branchIssues at free
  rw [branch, deleted, there, Bool.and_true, Bool.and_true, Bool.not_true, if_neg Bool.false_ne_true] at free
  split at free
  · cases free
  · next main present =>
    obtain ⟨merged, asked, free⟩ := bind_eq_ok free
    refine ⟨main, presentOid_eq_some present, ?_⟩
    split at free
    · next kept =>
      rcases kept with reached | archived
      · left
        rw [asked, reached]
      · exact .inr archived
    · cases free

/-! ## The push -/

theorem evaluatePushUpdates_free {result : PushResult}
    (done : evaluatePushUpdates git updates remoteMainOid archivedOids = .ok result) (ok : result.ok = true) :
    projectMain git updates remoteMainOid = .ok (result.projectedMainOid, []) ∧
      ∀ update ∈ updates, updateIssues git result.projectedMainOid archivedOids update = .ok [] := by
  unfold evaluatePushUpdates at done
  obtain ⟨⟨projected, mainIssues⟩, main, done⟩ := bind_eq_ok done
  obtain ⟨others, each, done⟩ := bind_eq_ok done
  obtain rfl := Except.ok.inj done
  have none : mainIssues ++ others.flatten = [] := List.isEmpty_iff.mp ok
  obtain ⟨rfl, flat⟩ := List.append_eq_nil_iff.mp none
  refine ⟨main, fun update mem => ?_⟩
  obtain ⟨issues, there, found⟩ := exists_ok_of_mapM each mem
  rwa [List.flatten_eq_nil_iff.mp flat issues there] at found

theorem updateIssues_free (free : updateIssues git projectedMainOid archivedOids update = .ok []) :
    releaseIssues git projectedMainOid update = .ok [] ∧ archiveIssues update = [] ∧
      branchIssues git projectedMainOid archivedOids update = .ok [] := by
  unfold updateIssues at free
  obtain ⟨release, asRelease, free⟩ := bind_eq_ok free
  obtain ⟨branch, asBranch, free⟩ := bind_eq_ok free
  obtain ⟨front, rfl⟩ := List.append_eq_nil_iff.mp (Except.ok.inj free)
  obtain ⟨rfl, archive⟩ := List.append_eq_nil_iff.mp front
  exact ⟨asRelease, archive, asBranch⟩

/-- **A push that passes the guard** moves `main` forward with the first update that names it, deletes no release tag
and pushes those only that are on `main`, deletes no archive tag, and deletes those branches only that are on `main` or in
the archive. -/
theorem evaluatePushUpdates_ok {result : PushResult}
    (done : evaluatePushUpdates git updates remoteMainOid archivedOids = .ok result) (ok : result.ok = true) :
    (∀ update, updates.find? (fun update => update.remoteRef = mainRef) = some update →
      ∃ commit, result.projectedMainOid = some commit ∧ MovesForward git remoteMainOid update commit) ∧
    (∀ update ∈ updates, isReleaseTagRef update.remoteRef = true → update.deletes = false ∧
      ∃ main commit, result.projectedMainOid = some main ∧ git.resolveCommit update.localOid = .ok commit ∧
        git.isAncestor commit main = .ok true) ∧
    (∀ update ∈ updates, isArchiveTagRef update.remoteRef = true → update.deletes = false) ∧
    ∀ update ∈ updates, isBranchRef update.remoteRef = true → update.deletes = true → update.replaces = true →
      ∃ main, result.projectedMainOid = some main ∧
        (git.isAncestor update.remoteOid main = .ok true ∨ update.remoteOid ∈ archivedOids) := by
  obtain ⟨main, others⟩ := evaluatePushUpdates_free done ok
  refine ⟨fun update found => ?_, fun update mem release => ?_, fun update mem archive => ?_,
    fun update mem branch deleted there => ?_⟩
  · have projected := projectMain_free main
    rw [found] at projected
    exact projected
  · exact releaseIssues_free (updateIssues_free (others update mem)).1 release
  · exact archiveIssues_free (updateIssues_free (others update mem)).2.1 archive
  · exact branchIssues_free (updateIssues_free (others update mem)).2.2 branch deleted there

/-! ## What is not asked -/

/-- Every update that names `main` moves it forward. -/
def KeepsMain (git : Git) (updates : List RefUpdate) (remoteMainOid : Option String) : Prop :=
  ∀ update ∈ updates, update.remoteRef = mainRef → ∃ commit, MovesForward git remoteMainOid update commit

/-- No tag of a kind is deleted, and none that is there is moved to another commit. -/
def KeepsTags (git : Git) (isTag : String → Bool) (updates : List RefUpdate) : Prop :=
  ∀ update ∈ updates, isTag update.remoteRef = true → update.deletes = false ∧
    (update.replaces = true → git.resolveCommit update.localOid = git.resolveCommit update.remoteOid)

/-- No branch is deleted whose tip is not on the main line. -/
def KeepsBranches (git : Git) (updates : List RefUpdate) (projectedMainOid : Option String) : Prop :=
  ∀ update ∈ updates, isBranchRef update.remoteRef = true → update.deletes = true → update.replaces = true →
    ∃ main, projectedMainOid = some main ∧ git.isAncestor update.remoteOid main = .ok true

def sampleOid (digit : Char) : String := String.ofList (List.replicate 40 digit)

def sampleGit : Git where
  isAncestor ancestor descendant :=
    .ok (decide (ancestor = descendant ∨ ancestor = sampleOid '1' ∧ descendant = sampleOid '2'))
  resolveCommit oid := .ok oid

/-- The main line is moved forward and deleted, two tags are moved, and an archived branch is deleted. -/
def samplePush : List RefUpdate := [
  ⟨mainRef, sampleOid '2', mainRef, sampleOid '1'⟩,
  ⟨"(delete)", sampleOid '0', mainRef, sampleOid '1'⟩,
  ⟨"refs/tags/2026.08.09", sampleOid '2', "refs/tags/2026.08.09", sampleOid '1'⟩,
  ⟨"refs/tags/archive/old-ui", sampleOid '2', "refs/tags/archive/old-ui", sampleOid '1'⟩,
  ⟨"(delete)", sampleOid '0', "refs/heads/topic", sampleOid '4'⟩]

def sampleResult : PushResult := ⟨true, some (sampleOid '2'), []⟩

theorem sample_passes : evaluatePushUpdates sampleGit samplePush (some (sampleOid '1')) [sampleOid '4'] = .ok sampleResult := by
  decide

/-- **A push passes that deletes `main` with a second update, moves tags and deletes a branch that is archived only.** -/
theorem pushUpdates_unguarded :
    evaluatePushUpdates sampleGit samplePush (some (sampleOid '1')) [sampleOid '4'] = .ok sampleResult ∧
      ¬KeepsMain sampleGit samplePush (some (sampleOid '1')) ∧ ¬KeepsTags sampleGit isReleaseTagRef samplePush ∧
      ¬KeepsTags sampleGit isArchiveTagRef samplePush ∧
      ¬KeepsBranches sampleGit samplePush sampleResult.projectedMainOid := by
  refine ⟨sample_passes, ?_, ?_, ?_, ?_⟩
  · intro kept
    obtain ⟨commit, deleted, -⟩ := kept samplePush[1] (by simp [samplePush]) rfl
    exact absurd deleted (by decide)
  · intro kept
    have same := (kept samplePush[2] (by simp [samplePush]) (by decide)).2 (by decide)
    exact absurd (Except.ok.inj same) (by decide)
  · intro kept
    have same := (kept samplePush[3] (by simp [samplePush]) (by decide)).2 (by decide)
    exact absurd (Except.ok.inj same) (by decide)
  · intro kept
    obtain ⟨main, projected, merged⟩ :=
      kept samplePush[4] (by simp [samplePush]) (by decide) (by decide) (by decide)
    obtain rfl := Option.some.inj projected
    exact absurd (Except.ok.inj merged) (by decide)

/-- The guard lets the main line be moved forward. -/
theorem forward_pushed : ∃ commit, MovesForward sampleGit (some (sampleOid '1')) (samplePush[0]) commit := by
  obtain ⟨main, -⟩ := evaluatePushUpdates_ok sample_passes rfl
  obtain ⟨commit, -, forward⟩ := main samplePush[0] rfl
  exact ⟨commit, forward⟩

end FullManagedBi.Maintenance
