import FullManagedBi.Authorization.LockedFiles

/-!
# No update of the state file or of the configuration is lost

A waiter that judges a lock stale renames away, a step later, whatever lies at the lock's path by then.
As long as that is never the lock of a process that is still running, each lock has one holder, the state
is what the committed mutations make of the state they started from, in the order of their writes, and so
is the configuration: **`lockedFiles_law`**.
-/

namespace FullManagedBi.Authorization

open Lib

variable {J M Config : Type} {jobs : SiteJobs J M Config}

/-! ## What a job knows -/

/-- How far a job has come with the configuration, while it holds its lock. -/
inductive ConfigPhase (Config : Type) where
  | unread
  | read (config : Config)
  | written

/-- What a job has learned. `lost` says that an answer has contradicted it. -/
structure JobKnowledge (M Config : Type) where
  fileLock : Option Nat := none
  directory : Bool := false
  signed : Option LockOwner := none
  state : Option StateFile := none
  config : ConfigPhase Config := .unread
  backup : Option Config := none
  committed : List M := []
  lost : Bool := false

namespace JobKnowledge

variable (g : JobKnowledge M Config)

def holds : LockPath → Bool
  | .state => g.fileLock.isSome
  | .config => g.directory

def take (ino : Nat) : LockPath → JobKnowledge M Config
  | .state => { g with fileLock := some ino }
  | .config => { g with directory := true, signed := none }

def drop : LockPath → JobKnowledge M Config
  | .state => { g with fileLock := none, state := none }
  | .config => { g with directory := false, signed := none, backup := none }

/-- An answer that may contradict what the job knows. -/
def expect (holds : Prop) [Decidable holds] : JobKnowledge M Config :=
  if holds then g else { g with lost := true }

def write : JobKnowledge M Config :=
  match g.config with
  | .read _ => { g with config := .written }
  | _ => g

def restore : JobKnowledge M Config :=
  match g.config, g.backup with
  | .written, some backup => { g with config := .read backup }
  | _, _ => g

@[simp] theorem take_lost (ino : Nat) (lock : LockPath) : (g.take ino lock).lost = g.lost := by
  cases lock <;> rfl

@[simp] theorem drop_lost (lock : LockPath) : (g.drop lock).lost = g.lost := by
  cases lock <;> rfl

@[simp] theorem write_lost : g.write.lost = g.lost := by
  unfold write
  split <;> rfl

@[simp] theorem restore_lost : g.restore.lost = g.lost := by
  unfold restore
  split <;> rfl

theorem expect_lost_of_not {holds : Prop} [Decidable holds] (false_ : ¬holds) : (g.expect holds).lost = true := by
  rw [expect, if_neg false_]

theorem expect_lost {holds : Prop} [Decidable holds] (lost : g.lost = true) : (g.expect holds).lost = true := by
  unfold expect
  split
  · exact lost
  · rfl

def after : (call : SiteCall M Config) → Except JsError (SiteReply call) → JobKnowledge M Config
  | .create lock, .ok ino => g.take ino lock
  | .lstat .state, .ok metadata => g.expect (∀ ino ∈ g.fileLock, metadata.ino = ino)
  | .lstat .state, .error _ => g.expect (g.fileLock = none)
  | .writeOwner .config owner, .ok _ => { g with signed := some owner }
  | .writeOwner .config _, .error _ => g.expect (g.directory = false)
  | .readLockOwner .config, .ok owner =>
    g.expect (g.directory = true → ∀ own ∈ g.signed, owner = some own)
  | .rename lock, .ok _ => if g.holds lock then g.drop lock else g
  | .rename lock, .error _ => g.expect (g.holds lock = false)
  | .unlink lock, .ok _ => if g.holds lock then g.drop lock else g
  | .unlink lock, .error _ => g.expect (g.holds lock = false)
  | .readState, .ok state => if g.holds .state then { g with state := some state } else g
  | .writeState mutation _, .ok _ => { g with committed := mutation :: g.committed, state := none }
  | .readConfig, .ok config => if g.holds .config then { g with config := .read config } else g
  | .createBackup, .ok config => if g.holds .config then { g with backup := some config } else g
  | .atomicWrite _, .ok _ => g.write
  | .restoreBackup _, .ok _ => g.restore
  | .create _, .error _ => g
  | .lstat .config, .error _ => g
  | .receipt _, .error _ => g
  -- The other calls do not fail.
  | _, .error _ => { g with lost := true }
  | _, .ok _ => g

end JobKnowledge

/-- What a job may do: it writes what it has read under the lock, changed as its work says; it gives up
only what it holds; and it undoes a directory only where an answer has contradicted it. -/
def siteProtocol (jobs : SiteJobs J M Config) (job : J) :
    Protocol (SiteCall M Config) SiteReply JsError (JobKnowledge M Config) where
  allowed g call := g.lost = true ∨
    match call with
    | .create lock => g.holds lock = false ∧ (lock = .config → g.config = .unread ∧ g.backup = none)
    | .writeOwner .config _ => g.directory = true ∧ g.signed = none
    | .unlink lock => g.holds lock = true
    | .unlinkOwner _ => False
    | .rmdir _ => False
    | .writeState mutation state => g.holds .state = true ∧
        ∃ read, g.state = some read ∧ written (jobs.operation mutation) read = some state
    | .readConfig => g.config = .unread
    | .createBackup => ∃ read, g.config = .read read
    | .atomicWrite config => g.holds .config = true ∧ ∃ read work, g.config = .read read ∧
        jobs.work job = .finalization work ∧ work.update read = .ok config
    | .restoreBackup config =>
      g.holds .config = true ∧ g.config = .written ∧ g.backup = some config
    | _ => True
  after g := g.after

/-! ## The invariant -/

def Alive (jobs : SiteJobs J M Config) (s : Site J M Config) (job : J) : Prop :=
  s.ended (jobs.pid job) = false

instance (s : Site J M Config) (job : J) : Decidable (Alive jobs s job) :=
  inferInstanceAs (Decidable (_ = _))

/-- What a mutation makes of the state, whether it is written or refused. -/
def SiteJobs.mutated (jobs : SiteJobs J M Config) (mutation : M) (state : StateFile) : StateFile :=
  (written (jobs.operation mutation) state).getD state

def SiteJobs.updated (jobs : SiteJobs J M Config) (job : J) (config : Config) : Config :=
  match jobs.work job with
  | .mutation _ => config
  | .finalization work => (work.update config).toOption.getD config

/-- The state after these mutations, one after another. -/
def SiteJobs.replayState (jobs : SiteJobs J M Config) (state : StateFile) (committed : List (J × M)) :
    StateFile :=
  committed.foldl (fun state entry => jobs.mutated entry.2 state) state

/-- The configuration after these finalizations, one after another. -/
def SiteJobs.replayConfig (jobs : SiteJobs J M Config) (config : Config) (applied : List J) : Config :=
  applied.foldl (fun config job => jobs.updated job config) config

theorem SiteJobs.replayState_concat (state : StateFile) (committed : List (J × M)) (entry : J × M) :
    jobs.replayState state (committed ++ [entry]) = jobs.mutated entry.2 (jobs.replayState state committed) :=
  List.foldl_concat ..

theorem SiteJobs.replayConfig_concat (config : Config) (applied : List J) (job : J) :
    jobs.replayConfig config (applied ++ [job]) = jobs.updated job (jobs.replayConfig config applied) :=
  List.foldl_concat ..

/-- The two files are what the writes recorded, one after another, make of what they were at first. -/
structure Replayed (jobs : SiteJobs J M Config) (first : Site J M Config) (s : Site J M Config) : Prop where
  state : s.state = jobs.replayState first.state s.committed
  config : s.config = jobs.replayConfig first.config s.applied

/-- What the entry of a lock it holds tells a job. -/
def JobKnowledge.Matches (g : JobKnowledge M Config) (entry : LockEntry J) : LockPath → Prop
  | .state => g.fileLock = some entry.ino
  | .config => entry.owner = g.signed

/-- What a job knows of the configuration while it holds the lock directory. -/
def JobKnowledge.KnowsConfig (jobs : SiteJobs J M Config) (first : Site J M Config) (job : J)
    (g : JobKnowledge M Config) (s : Site J M Config) : Prop :=
  match g.config with
  | .unread => g.backup = none
  | .read config => s.config = config ∧ ∀ backup ∈ g.backup, backup = config
  | .written => ∃ before, s.applied = before ++ [job] ∧
      ∀ backup ∈ g.backup, jobs.replayConfig first.config before = backup

/-- What a job knows: the locks it holds are its own and the files have not changed since it read them,
while its process runs; and what it has written is on record. -/
structure JobKnows (jobs : SiteJobs J M Config) (first : Site J M Config) (job : J)
    (g : JobKnowledge M Config) (s : Site J M Config) : Prop where
  clean : g.lost = false
  held : Alive jobs s job → ∀ lock, g.holds lock = true →
    ∃ entry, s.locks lock = some entry ∧ entry.createdBy = job ∧ g.Matches entry lock
  state : Alive jobs s job → ∀ state, g.state = some state → g.holds .state = true ∧ s.state = state
  config : Alive jobs s job → g.holds .config = true → g.KnowsConfig jobs first job s
  committed : ∀ mutation ∈ g.committed, (job, mutation) ∈ s.committed
  applied : g.config = .written → job ∈ s.applied

/-- What is renamed away is nothing, the job's own lock, or that of a process that has ended. -/
def RenamesEnded (jobs : SiteJobs J M Config) (s : Site J M Config) (_ : J) (g : JobKnowledge M Config) :
    SiteCall M Config → SiteChoice → Prop
  | .rename lock, _ => g.holds lock = false →
      ∀ entry ∈ s.locks lock, s.ended (jobs.pid entry.createdBy) = true
  | _, _ => True

instance (jobs : SiteJobs J M Config) (s : Site J M Config) (job : J) (g : JobKnowledge M Config)
    (call : SiteCall M Config) (choice : SiteChoice) : Decidable (RenamesEnded jobs s job g call choice) := by
  unfold RenamesEnded
  split <;> infer_instance

section Steps

variable [DecidableEq J] {first s : Site J M Config} {job : J} {g : JobKnowledge M Config} {call : SiteCall M Config}
  {choice : SiteChoice}

/-- **What a call can do to the locks**: it changes the entry of one, of its own or of a process that has
ended, to nothing or to one of its own. -/
theorem answer_locks (knows : JobKnows jobs first job g s) (acts : Alive jobs s job)
    (allowed : (siteProtocol jobs job).allowed g call) (guarded : RenamesEnded jobs s job g call choice) :
    (s.answer job call choice).2.locks = s.locks ∨ ∃ lock entry,
      (s.answer job call choice).2.locks = Function.update s.locks lock entry ∧
      (∀ old, s.locks lock = some old → old.createdBy = job ∨ s.ended (jobs.pid old.createdBy) = true) ∧
      ∀ new, entry = some new → new.createdBy = job := by
  have legal := allowed.resolve_left (by rw [knows.clean]; exact Bool.false_ne_true)
  -- The entry of a lock the job holds is its own.
  have own {lock : LockPath} (held : g.holds lock = true) (old : LockEntry J)
      (there : s.locks lock = some old) : old.createdBy = job ∨ s.ended (jobs.pid old.createdBy) = true := by
    obtain ⟨entry, here, by_, -⟩ := knows.held acts lock held
    obtain rfl := Option.mem_unique there here
    exact .inl by_
  cases call with
  | create lock =>
    cases there : s.locks lock with
    | some entry => exact .inl (by simp only [Site.answer, there])
    | none =>
      refine .inr ⟨lock, _, by simp only [Site.answer, there]; rfl, fun old here => ?_, fun new same => ?_⟩
      · exact nomatch there.symm.trans here
      · obtain rfl := Option.some.inj same
        rfl
  | writeOwner lock owner =>
    cases there : s.locks lock with
    | none =>
      refine .inl ?_
      cases lock <;> simp only [Site.answer, there]
    | some entry =>
      cases lock with
      | state =>
        by_cases mine : entry.createdBy = job
        · refine .inr ⟨.state, _, by simp only [Site.answer, there, if_pos mine]; rfl, fun old here => ?_,
            fun new same => ?_⟩
          · obtain rfl := Option.mem_unique there here
            exact .inl mine
          · obtain rfl := Option.some.inj same
            exact mine
        · exact .inl (by simp only [Site.answer, there, if_neg mine])
      | config =>
        cases signed : entry.owner with
        | some other => exact .inl (by simp only [Site.answer, there, signed])
        | none =>
          refine .inr ⟨.config, _, by simp only [Site.answer, there, signed]; rfl, own legal.1,
            fun new same => ?_⟩
          obtain rfl := Option.some.inj same
          obtain ⟨own, here, by_, -⟩ := knows.held acts .config legal.1
          obtain rfl := Option.mem_unique there here
          exact by_
  | rename lock =>
    cases there : s.locks lock with
    | none => exact .inl (by simp only [Site.answer, there])
    | some entry =>
      refine .inr ⟨lock, none, by simp only [Site.answer, there]; rfl, fun old here => ?_,
        fun _ same => nomatch same⟩
      cases held : g.holds lock with
      | true => exact own held old here
      | false => exact .inr (guarded held old here)
  | unlink lock =>
    cases there : s.locks lock with
    | none => exact .inl (by simp only [Site.answer, there])
    | some entry =>
      exact .inr ⟨lock, none, by simp only [Site.answer, there]; rfl, own legal, fun _ same => nomatch same⟩
  | unlinkOwner lock => exact absurd legal id
  | rmdir lock => exact absurd legal id
  | lstat lock =>
    refine .inl ?_
    cases there : s.locks lock <;> simp only [Site.answer, there]
  | _ => exact .inl rfl

/-- The two files and their records are the same. -/
structure SameFiles (s s' : Site J M Config) : Prop where
  state : s'.state = s.state
  config : s'.config = s.config
  committed : s'.committed = s.committed
  applied : s'.applied = s.applied

omit [DecidableEq J] in
theorem SameFiles.put (s : Site J M Config) (lock : LockPath) (entry : Option (LockEntry J)) :
    SameFiles s (s.put lock entry) := ⟨rfl, rfl, rfl, rfl⟩

/-- **What a call can do to the files**: it writes one of them, or none. -/
theorem answer_files (s : Site J M Config) (job : J) (call : SiteCall M Config) (choice : SiteChoice) :
    SameFiles s (s.answer job call choice).2 ∨
      (∃ mutation state, call = .writeState mutation state) ∨
      (∃ config, call = .atomicWrite config) ∨ ∃ config, call = .restoreBackup config := by
  have same : SameFiles s s := ⟨rfl, rfl, rfl, rfl⟩
  cases call with
  | writeState mutation state => exact .inr (.inl ⟨mutation, state, rfl⟩)
  | atomicWrite config => exact .inr (.inr (.inl ⟨config, rfl⟩))
  | restoreBackup config => exact .inr (.inr (.inr ⟨config, rfl⟩))
  | discardMoved => exact .inl ⟨rfl, rfl, rfl, rfl⟩
  | writeOwner lock owner =>
    refine .inl ?_
    cases lock with
    | state =>
      simp only [Site.answer]
      split
      · split
        · exact .put ..
        · exact same
      · exact same
    | config =>
      simp only [Site.answer]
      split
      · split
        · exact same
        · exact .put ..
      · exact same
  | create lock =>
    refine .inl ?_
    simp only [Site.answer]
    split
    · exact same
    · exact .put ..
  | rename lock =>
    refine .inl ?_
    simp only [Site.answer]
    split
    · exact ⟨rfl, rfl, rfl, rfl⟩
    · exact same
  | unlink lock =>
    refine .inl ?_
    simp only [Site.answer]
    split
    · exact .put ..
    · exact same
  | unlinkOwner lock =>
    refine .inl ?_
    simp only [Site.answer]
    split
    · exact .put ..
    · exact same
  | rmdir lock =>
    refine .inl ?_
    simp only [Site.answer]
    split
    · split
      · exact .put ..
      · exact same
    · exact same
  | lstat lock =>
    refine .inl ?_
    simp only [Site.answer]
    split
    · exact same
    · exact same
  | _ => exact .inl same

theorem answer_ended (s : Site J M Config) (job : J) (call : SiteCall M Config) (choice : SiteChoice) :
    (s.answer job call choice).2.ended = s.ended := by
  cases call with
  | writeOwner lock owner =>
    cases lock <;> simp only [Site.answer] <;> split <;> first | rfl | (split <;> rfl)
  | rmdir lock =>
    simp only [Site.answer]
    split <;> first | rfl | (split <;> rfl)
  | create lock => simp only [Site.answer]; split <;> rfl
  | rename lock => simp only [Site.answer]; split <;> rfl
  | unlink lock => simp only [Site.answer]; split <;> rfl
  | unlinkOwner lock => simp only [Site.answer]; split <;> rfl
  | lstat lock => simp only [Site.answer]; split <;> rfl
  | _ => rfl

theorem Replayed.answer (replayed : Replayed jobs first s) (knows : JobKnows jobs first job g s)
    (acts : Alive jobs s job) (allowed : (siteProtocol jobs job).allowed g call) :
    Replayed jobs first (s.answer job call choice).2 := by
  have legal := allowed.resolve_left (by rw [knows.clean]; exact Bool.false_ne_true)
  obtain same | ⟨mutation, state, rfl⟩ | ⟨config, rfl⟩ | ⟨config, rfl⟩ := answer_files s job call choice
  · refine ⟨?_, ?_⟩
    · rw [same.state, same.committed]
      exact replayed.state
    · rw [same.config, same.applied]
      exact replayed.config
  · obtain ⟨-, read, known, made⟩ := legal
    refine ⟨?_, replayed.config⟩
    show state = jobs.replayState first.state (s.committed ++ [(job, mutation)])
    have before := (knows.state acts read known).2
    rw [SiteJobs.replayState_concat, ← replayed.state, before]
    simp only [SiteJobs.mutated, made, Option.getD_some]
  · obtain ⟨held, read, work, phase, does, made⟩ := legal
    refine ⟨replayed.state, ?_⟩
    show config = jobs.replayConfig first.config (s.applied ++ [job])
    have before := knows.config acts held
    simp only [JobKnowledge.KnowsConfig, phase] at before
    rw [SiteJobs.replayConfig_concat, ← replayed.config, before.1]
    simp only [SiteJobs.updated, does, made, Except.toOption, Option.getD_some]
  · obtain ⟨held, phase, copied⟩ := legal
    refine ⟨replayed.state, ?_⟩
    show config = jobs.replayConfig first.config (s.applied.reverse.erase job).reverse
    have before := knows.config acts held
    simp only [JobKnowledge.KnowsConfig, phase] at before
    obtain ⟨earlier, applied, backup⟩ := before
    rw [applied, List.reverse_append, List.reverse_singleton, List.singleton_append, List.erase_cons_head,
      List.reverse_reverse]
    exact (backup config copied).symm

variable {g' : JobKnowledge M Config} {lock : LockPath}

omit [DecidableEq J] in
theorem JobKnows.apart {job' : J} (knows : JobKnows jobs first job g s)
    (knows' : JobKnows jobs first job' g' s) (acts : Alive jobs s job) (acts' : Alive jobs s job')
    (held : g.holds lock = true) (held' : g'.holds lock = true) : job = job' := by
  obtain ⟨entry, here, by_, -⟩ := knows.held acts lock held
  obtain ⟨entry', here', by_', -⟩ := knows'.held acts' lock held'
  obtain rfl := Option.mem_unique here here'
  exact by_.symm.trans by_'

theorem JobKnows.other {job' : J} (knows' : JobKnows jobs first job' g' s)
    (knows : JobKnows jobs first job g s) (acts : Alive jobs s job) (allowed : (siteProtocol jobs job).allowed g call)
    (guarded : RenamesEnded jobs s job g call choice) (differs : job' ≠ job) : JobKnows jobs first job' g' (s.answer job call choice).2 := by
  have legal := allowed.resolve_left (by rw [knows.clean]; exact Bool.false_ne_true)
  have alive : Alive jobs (s.answer job call choice).2 job' ↔ Alive jobs s job' := by
    rw [Alive, answer_ended]
    exact Iff.rfl
  have held (acts' : Alive jobs s job') (lock : LockPath) (holds : g'.holds lock = true) :
      ∃ entry, (s.answer job call choice).2.locks lock = some entry ∧ entry.createdBy = job' ∧
        g'.Matches entry lock := by
    obtain ⟨entry, here, by_, matches_⟩ := knows'.held acts' lock holds
    obtain same | ⟨other, new, same, old, -⟩ := answer_locks knows acts allowed guarded
    · exact ⟨entry, by rwa [same], by_, matches_⟩
    · refine ⟨entry, ?_, by_, matches_⟩
      rw [same, Function.update_of_ne, here]
      -- The lock that is changed is not one this job holds.
      rintro rfl
      obtain own | ended := old entry here
      · exact differs (by_.symm.trans own)
      · rw [by_, show s.ended (jobs.pid job') = false from acts'] at ended
        exact nomatch ended
  obtain same | ⟨mutation, state, rfl⟩ | ⟨config, rfl⟩ | ⟨config, rfl⟩ := answer_files s job call choice
  · refine ⟨knows'.clean, fun acts' => held (alive.mp acts'), fun acts' state known => ?_,
      fun acts' holds => ?_, fun mutation mem => ?_, fun phase => ?_⟩
    · rw [same.state]
      exact knows'.state (alive.mp acts') state known
    · have before := knows'.config (alive.mp acts') holds
      unfold JobKnowledge.KnowsConfig at before ⊢
      rwa [same.config, same.applied]
    · rw [same.committed]
      exact knows'.committed mutation mem
    · rw [same.applied]
      exact knows'.applied phase
  · refine ⟨knows'.clean, fun acts' => held (alive.mp acts'), fun acts' known there => ?_,
      knows'.config, fun other mem => ?_, knows'.applied⟩
    · have holds := (knows'.state acts' known there).1
      exact absurd (knows'.apart knows acts' acts holds legal.1) differs
    · exact List.mem_append_left _ (knows'.committed other mem)
  · refine ⟨knows'.clean, fun acts' => held (alive.mp acts'), knows'.state, fun acts' holds => ?_,
      knows'.committed, fun phase => ?_⟩
    · exact absurd (knows'.apart knows acts' acts holds legal.1) differs
    · exact List.mem_append_left _ (knows'.applied phase)
  · refine ⟨knows'.clean, fun acts' => held (alive.mp acts'), knows'.state, fun acts' holds => ?_,
      knows'.committed, fun phase => ?_⟩
    · exact absurd (knows'.apart knows acts' acts holds legal.1) differs
    · show job' ∈ (s.applied.reverse.erase job).reverse
      rw [List.mem_reverse, List.mem_erase_of_ne differs, List.mem_reverse]
      exact knows'.applied phase

omit [DecidableEq J] in
theorem JobKnowledge.expect_eq (g : JobKnowledge M Config) {holds : Prop} [Decidable holds] (true_ : holds) : g.expect holds = g :=
  if_pos true_

omit [DecidableEq J] in
theorem JobKnows.held_put (knows : JobKnows jobs first job g s) {lock other : LockPath}
    (entry : Option (LockEntry J)) (differs : other ≠ lock) (acts : Alive jobs s job)
    (held : g.holds other = true) : ∃ found, (s.put lock entry).locks other = some found ∧
      found.createdBy = job ∧ g.Matches found other := by
  rw [s.put_locks_of_ne differs]
  exact knows.held acts other held

omit [DecidableEq J] in
theorem JobKnows.create (knows : JobKnows jobs first job g s) {ino : Nat}
    (unheld : g.holds lock = false) (fresh : lock = .config → g.config = .unread ∧ g.backup = none) :
    JobKnows jobs first job (g.take ino lock) (s.put lock (some { ino, mtimeMs := s.now, createdBy := job })) := by
  have new : (s.put lock (some { ino, mtimeMs := s.now, createdBy := job })).locks lock =
      some { ino, mtimeMs := s.now, createdBy := job } := s.put_locks_self ..
  cases lock with
  | state =>
    refine ⟨knows.clean, fun acts lock held => ?_, fun acts state known => ?_, knows.config,
      knows.committed, knows.applied⟩
    · cases lock with
      | state => exact ⟨_, new, rfl, rfl⟩
      | config => exact knows.held_put _ (by decide) acts held
    · exact ⟨rfl, (knows.state acts state known).2⟩
  | config =>
    obtain ⟨phase, backup⟩ := fresh rfl
    refine ⟨knows.clean, fun acts lock held => ?_, knows.state, fun acts held => ?_, knows.committed,
      knows.applied⟩
    · cases lock with
      | state => exact knows.held_put _ (by decide) acts held
      | config => exact ⟨_, new, rfl, rfl⟩
    · show (g.take ino .config).KnowsConfig jobs first job _
      unfold JobKnowledge.KnowsConfig
      simp only [JobKnowledge.take, phase]
      exact backup

omit [DecidableEq J] in
theorem JobKnows.remove (knows : JobKnows jobs first job g s) (lock : LockPath) :
    JobKnows jobs first job (if g.holds lock then g.drop lock else g) (s.put lock none) := by
  cases held : g.holds lock with
  | false =>
    refine ⟨knows.clean, fun acts lock' held' => knows.held_put none ?_ acts held', knows.state, knows.config,
      knows.committed, knows.applied⟩
    rintro rfl
    exact Bool.false_ne_true (held.symm.trans held')
  | true =>
    cases lock with
    | state =>
      refine ⟨knows.clean, fun acts lock' held' => ?_, fun _ _ none => (nomatch none), knows.config,
        knows.committed, knows.applied⟩
      cases lock' with
      | state => exact nomatch held'
      | config => exact knows.held_put none (by decide) acts held'
    | config =>
      refine ⟨knows.clean, fun acts lock' held' => ?_, knows.state, fun _ none => (nomatch none),
        knows.committed, knows.applied⟩
      cases lock' with
      | state => exact knows.held_put none (by decide) acts held'
      | config => exact nomatch held'

omit [DecidableEq J] in
theorem JobKnows.sign (knows : JobKnows jobs first job g s) {entry : LockEntry J}
    {owner : LockOwner} (there : s.locks lock = some entry) (mine : entry.createdBy = job) :
    JobKnows jobs first job (if lock = .config then { g with signed := some owner } else g)
      (s.put lock (some (entry.sign owner s.now))) := by
  have new : (s.put lock (some (entry.sign owner s.now))).locks lock = some (entry.sign owner s.now) :=
    s.put_locks_self ..
  cases lock with
  | state =>
    refine ⟨knows.clean, fun acts lock held => ?_, knows.state, knows.config, knows.committed,
      knows.applied⟩
    cases lock with
    | state =>
      obtain ⟨old, here, -, matches_⟩ := knows.held acts .state held
      obtain rfl := Option.mem_unique there here
      exact ⟨_, new, mine, matches_⟩
    | config => exact knows.held_put _ (by decide) acts held
  | config =>
    refine ⟨knows.clean, fun acts lock held => ?_, knows.state, knows.config, knows.committed,
      knows.applied⟩
    cases lock with
    | state => exact knows.held_put _ (by decide) acts held
    | config => exact ⟨_, new, mine, rfl⟩

theorem JobKnows.own_file (knows : JobKnows jobs first job g s) (replayed : Replayed jobs first s)
    (acts : Alive jobs s job) (allowed : (siteProtocol jobs job).allowed g call)
    (file : (∃ mutation state, call = .writeState mutation state) ∨ call = .readState ∨
      call = .readConfig ∨ call = .createBackup ∨ (∃ config, call = .atomicWrite config) ∨
      ∃ config, call = .restoreBackup config) :
    JobKnows jobs first job (g.after call (s.answer job call choice).1) (s.answer job call choice).2 := by
  have legal := allowed.resolve_left (by rw [knows.clean]; exact Bool.false_ne_true)
  obtain ⟨mutation, state, rfl⟩ | rfl | rfl | rfl | ⟨config, rfl⟩ | ⟨config, rfl⟩ := file
  · refine ⟨knows.clean, knows.held, fun _ _ none => (nomatch none), knows.config, fun other mem => ?_,
      knows.applied⟩
    rcases List.mem_cons.mp mem with rfl | mem
    · exact List.mem_concat_self
    · exact List.mem_append_left _ (knows.committed other mem)
  · show JobKnows jobs first job (if g.holds .state then { g with state := some s.state } else g) s
    split
    · rename_i holds
      refine ⟨knows.clean, knows.held, fun _ state same => ⟨holds, ?_⟩, knows.config, knows.committed,
        knows.applied⟩
      exact Option.some.inj same
    · exact knows
  · show JobKnows jobs first job (if g.holds .config then { g with config := .read s.config } else g) s
    split
    · rename_i holds
      refine ⟨knows.clean, knows.held, knows.state, fun acts _ => ?_, knows.committed,
        fun phase => nomatch phase⟩
      have before := knows.config acts holds
      rw [JobKnowledge.KnowsConfig, show g.config = .unread from legal] at before
      refine ⟨rfl, fun backup mem => ?_⟩
      rw [show g.backup = none from before] at mem
      exact nomatch mem
    · exact knows
  · show JobKnows jobs first job (if g.holds .config then { g with backup := some s.config } else g) s
    split
    · rename_i holds
      obtain ⟨read, phase⟩ := legal
      refine ⟨knows.clean, knows.held, knows.state, fun acts _ => ?_, knows.committed, knows.applied⟩
      have before := knows.config acts holds
      simp only [JobKnowledge.KnowsConfig, phase] at before ⊢
      refine ⟨before.1, fun backup mem => ?_⟩
      rw [← Option.some.inj mem]
      exact before.1
    · exact knows
  · obtain ⟨holds, read, work, phase, -, -⟩ := legal
    have before := knows.config acts holds
    simp only [JobKnowledge.KnowsConfig, phase] at before
    have after : g.write = { g with config := .written } := by
      simp only [JobKnowledge.write, phase]
    show JobKnows jobs first job g.write { s with config, applied := s.applied ++ [job] }
    rw [after]
    refine ⟨knows.clean, knows.held, knows.state, fun _ _ => ⟨s.applied, rfl, fun backup mem => ?_⟩,
      knows.committed, fun _ => List.mem_concat_self⟩
    rw [before.2 backup mem, ← replayed.config]
    exact before.1
  · obtain ⟨holds, phase, copied⟩ := legal
    have after : g.restore = { g with config := .read config } := by
      simp only [JobKnowledge.restore, phase, copied]
    show JobKnows jobs first job g.restore
      { s with config, applied := (s.applied.reverse.erase job).reverse }
    rw [after]
    refine ⟨knows.clean, knows.held, knows.state, fun _ _ => ⟨rfl, fun backup mem => ?_⟩, knows.committed,
      fun none => nomatch none⟩
    exact Option.mem_unique mem copied

theorem JobKnows.own (knows : JobKnows jobs first job g s) (replayed : Replayed jobs first s)
    (acts : Alive jobs s job) (allowed : (siteProtocol jobs job).allowed g call) :
    JobKnows jobs first job (g.after call (s.answer job call choice).1) (s.answer job call choice).2 := by
  have legal := allowed.resolve_left (by rw [knows.clean]; exact Bool.false_ne_true)
  -- A lock the job holds is there.
  have there {lock : LockPath} (gone : s.locks lock = none) : g.holds lock = false := by
    rw [Bool.eq_false_iff]
    intro held
    obtain ⟨entry, here, -⟩ := knows.held acts lock held
    exact nomatch gone.symm.trans here
  cases call with
  | writeState mutation state => exact knows.own_file replayed acts allowed (.inl ⟨_, _, rfl⟩)
  | readState => exact knows.own_file replayed acts allowed (.inr (.inl rfl))
  | readConfig => exact knows.own_file replayed acts allowed (.inr (.inr (.inl rfl)))
  | createBackup => exact knows.own_file replayed acts allowed (.inr (.inr (.inr (.inl rfl))))
  | atomicWrite config =>
    exact knows.own_file replayed acts allowed (.inr (.inr (.inr (.inr (.inl ⟨_, rfl⟩)))))
  | restoreBackup config =>
    exact knows.own_file replayed acts allowed (.inr (.inr (.inr (.inr (.inr ⟨_, rfl⟩)))))
  | create lock =>
    cases free : s.locks lock with
    | some entry =>
      simp only [Site.answer, free]
      exact knows
    | none =>
      simp only [Site.answer, free]
      exact knows.create legal.1 legal.2
  | writeOwner lock owner =>
    cases lock with
    | state =>
      cases here : s.locks .state with
      | none =>
        simp only [Site.answer, here]
        exact knows
      | some entry =>
        simp only [Site.answer, here]
        split
        · rename_i mine
          exact knows.sign here mine
        · exact knows
    | config =>
      obtain ⟨entry, here, mine, unsigned⟩ := knows.held acts .config legal.1
      have free : entry.owner = none := unsigned.trans legal.2
      simp only [Site.answer, here, free]
      exact knows.sign here mine
  | readLockOwner lock =>
    cases lock with
    | state => exact knows
    | config =>
      show JobKnows jobs first job (g.expect _) s
      rw [JobKnowledge.expect_eq]
      · exact knows
      · intro held own signed
        obtain ⟨entry, here, -, matches_⟩ := knows.held acts .config held
        rw [here]
        exact matches_.trans signed
  | lstat lock =>
    cases lock with
    | config =>
      cases here : s.locks .config <;> simp only [Site.answer, here]
      · exact knows
      · exact knows
    | state =>
      cases here : s.locks .state with
      | none =>
        simp only [Site.answer, here]
        show JobKnows jobs first job (g.expect _) s
        rw [JobKnowledge.expect_eq]
        · exact knows
        · exact Option.isSome_eq_false_iff.mp (there here) |> Option.isNone_iff_eq_none.mp
      | some entry =>
        simp only [Site.answer, here]
        show JobKnows jobs first job (g.expect _) s
        rw [JobKnowledge.expect_eq]
        · exact knows
        · intro ino known
          obtain ⟨own, here', -, matches_⟩ := knows.held acts .state (Option.isSome_iff_exists.mpr ⟨ino, known⟩)
          obtain rfl := Option.mem_unique here here'
          exact Option.mem_unique matches_ known
  | rename lock =>
    cases here : s.locks lock with
    | none =>
      simp only [Site.answer, here]
      show JobKnows jobs first job (g.expect _) s
      rw [g.expect_eq (there here)]
      exact knows
    | some entry =>
      simp only [Site.answer, here]
      have removed := knows.remove lock
      exact ⟨removed.clean, removed.held, removed.state, removed.config, removed.committed, removed.applied⟩
  | unlink lock =>
    cases here : s.locks lock with
    | none =>
      simp only [Site.answer, here]
      show JobKnows jobs first job (g.expect _) s
      rw [g.expect_eq (there here)]
      exact knows
    | some entry =>
      simp only [Site.answer, here]
      exact knows.remove lock
  | unlinkOwner lock => exact absurd legal id
  | rmdir lock => exact absurd legal id
  | discardMoved =>
    exact ⟨knows.clean, knows.held, knows.state, knows.config, knows.committed, knows.applied⟩
  | receipt stage =>
    cases outcome : choice.outcome with
    | ok _ =>
      simp only [Site.answer, outcome]
      exact knows
    | error e =>
      simp only [Site.answer, outcome]
      exact knows
  | _ => exact knows

end Steps

/-! ## The programs -/

section Programs

variable {job : J} {g : JobKnowledge M Config} {α β : Type}

/-- What holds of an outcome, unless an answer has contradicted the job. -/
def OrLost (R : Except JsError α → JobKnowledge M Config → Prop) :
    Except JsError α → JobKnowledge M Config → Prop :=
  fun r g => g.lost = false → R r g

theorem JobKnowledge.after_lost (lost : g.lost = true) (call : SiteCall M Config)
    (r : Except JsError (SiteReply call)) : (g.after call r).lost = true := by
  unfold JobKnowledge.after
  split
  all_goals first
    | exact lost
    | rfl
    | exact g.expect_lost lost
    | (split <;> first | exact lost | (rw [drop_lost]; exact lost))
    | simp only [take_lost, write_lost, restore_lost, lost]

/-- The program makes only calls its job may make, and ends as `R` says unless an answer has contradicted
the job. -/
abbrev JobFollows (jobs : SiteJobs J M Config) (job : J) (p : SiteProgram M Config α)
    (g : JobKnowledge M Config) (R : Except JsError α → JobKnowledge M Config → Prop) : Prop :=
  Follows (siteProtocol jobs job) p g (OrLost R)

theorem follows_lost {p : SiteProgram M Config α} (lost : g.lost = true)
    {R : Except JsError α → JobKnowledge M Config → Prop} : JobFollows jobs job p g R := by
  induction p generalizing g with
  | done a => exact fun clean => Bool.noConfusion (lost.symm.trans clean)
  | fail e => exact fun clean => Bool.noConfusion (lost.symm.trans clean)
  | call c next ih => exact ⟨.inl lost, fun r => ih r (g.after_lost lost c r)⟩

section Then

variable {p : SiteProgram M Config α} {Q : Except JsError α → JobKnowledge M Config → Prop}
  {R : Except JsError β → JobKnowledge M Config → Prop}

theorem follows_then {f : α → SiteProgram M Config β} (first : JobFollows jobs job p g Q)
    (rest : ∀ a g', Q (.ok a) g' → JobFollows jobs job (f a) g' R)
    (fails : ∀ e g', Q (.error e) g' → R (.error e) g') : JobFollows jobs job (p >>= f) g R := by
  refine follows_bind.mpr (first.mono fun r g' known => ?_)
  cases r with
  | error e => exact fun clean => fails e g' (known clean)
  | ok a =>
    cases lost : g'.lost with
    | true => exact follows_lost lost
    | false => exact rest a g' (known lost)

theorem follows_observing_then {f : Except JsError α → SiteProgram M Config β} (first : JobFollows jobs job p g Q)
    (rest : ∀ r g', Q r g' → JobFollows jobs job (f r) g' R) : JobFollows jobs job (observing p >>= f) g R := by
  refine follows_bind.mpr (follows_observing.mpr (first.mono fun r g' known => ?_))
  cases lost : g'.lost with
  | true => exact follows_lost lost
  | false => exact rest r g' (known lost)

end Then

variable {call : SiteCall M Config}

theorem follows_awaiting (allowed : (siteProtocol jobs job).allowed g call) :
    JobFollows jobs job (awaiting call) g fun r g' => g' = g.after call r ∧ g'.lost = false :=
  follows_perform.mpr ⟨allowed, fun _ clean => ⟨rfl, clean⟩⟩

/-- A call that does not fail and tells nothing of the locks and the files. -/
inductive SiteCall.Plain : SiteCall M Config → Prop where
  | dateNow : Plain .dateNow
  | randomNonce : Plain .randomNonce
  | sleep : Plain .sleep
  | processIsAlive (pid : Int) : Plain (.processIsAlive pid)
  | signFile (owner : LockOwner) : Plain (.writeOwner .state owner)
  | readMovedOwner : Plain .readMovedOwner
  | discardMoved : Plain .discardMoved

theorem follows_plain (plain : call.Plain) :
    JobFollows jobs job (awaiting call) g fun r g' => (∃ reply, r = .ok reply) ∧ g' = g := by
  have allowed : (siteProtocol jobs job).allowed g call := by
    refine .inr ?_
    cases plain <;> trivial
  refine (follows_awaiting allowed).mono fun r g' known clean => ?_
  obtain ⟨after, clean⟩ := known clean
  rw [after] at clean ⊢
  cases r with
  | ok reply => exact ⟨⟨reply, rfl⟩, by cases plain <;> rfl⟩
  | error e => cases plain <;> exact Bool.noConfusion (show true = false from clean)

theorem follows_plain_then (plain : call.Plain) {f : SiteReply call → SiteProgram M Config β}
    {R : Except JsError β → JobKnowledge M Config → Prop} (rest : ∀ reply, JobFollows jobs job (f reply) g R) :
    JobFollows jobs job (awaiting call >>= f) g R := by
  refine follows_then (follows_plain plain) ?_ ?_
  · rintro reply g' ⟨-, rfl⟩
    exact rest reply
  · rintro e g' ⟨⟨_, failed⟩, -⟩
    exact nomatch failed

theorem follows_rename {lock : LockPath} (unheld : g.holds lock = false) :
    JobFollows jobs job (awaiting (.rename lock)) g fun _ g' => g' = g := by
  refine (follows_awaiting (.inr trivial)).mono fun r g' known clean => ?_
  rw [(known clean).1]
  cases r with
  | ok _ => exact if_neg (by rw [unheld]; exact Bool.false_ne_true)
  | error e => exact g.expect_eq unheld

/-! ### The lock file -/

variable {pid : Int}

theorem follows_acquireFileLock {deadline : Instant} (patience : Nat) (free : g.fileLock = none) :
    JobFollows jobs job (acquireFileLock pid deadline patience) g
      (Post (fun ino g' => g' = g.take ino .state) fun _ g' => g' = g) := by
  have unheld : g.holds .state = false := by
    show g.fileLock.isSome = false
    rw [free]
    rfl
  induction patience with
  | zero => exact fun _ => rfl
  | succ patience ih =>
    refine follows_observing_then (follows_awaiting (.inr ⟨unheld, fun none => nomatch none⟩)) ?_
    rintro (error | ino) g' ⟨after, -⟩
    · rw [after]
      show JobFollows jobs job (if error.code ≠ some "EEXIST" then _ else _) g _
      split
      · exact fun _ => rfl
      · refine follows_observing_then (follows_awaiting (.inr trivial)) ?_
        rintro (inspectError | metadata) g' ⟨after, -⟩
        · rw [after, show g.after (.lstat .state) (.error inspectError) = g from g.expect_eq free]
          show JobFollows jobs job (if inspectError.code = some "ENOENT" then _ else _) g _
          split
          · exact ih
          · exact fun _ => rfl
        · rw [after, show g.after (.lstat .state) (.ok metadata) = g from g.expect_eq (by simp [free])]
          refine follows_plain_then .dateNow fun now => ?_
          split
          · have reclaim : JobFollows jobs job
                (do awaiting (.rename .state); awaiting .discardMoved) g fun _ g' => g' = g := by
              refine follows_then (follows_rename unheld) ?_ fun e g' same => same
              rintro _ g' same
              rw [same]
              exact (follows_plain .discardMoved).mono fun r g' known clean => (known clean).2
            refine follows_observing_then reclaim ?_
            rintro (staleError | _) g' same
            · rw [same]
              show JobFollows jobs job (if _ then _ else _) g _
              split
              · exact ih
              · exact fun _ => rfl
            · rw [same]
              exact ih
          · refine follows_plain_then .dateNow fun now' => ?_
            split
            · exact fun _ => rfl
            · exact follows_plain_then .sleep fun _ => ih
    · rw [after]
      refine follows_plain_then .dateNow fun now => follows_plain_then (.signFile _) fun _ => ?_
      exact fun _ => rfl

theorem follows_releaseFileLock {ino : Nat} (held : g.fileLock = some ino) :
    JobFollows jobs job (releaseFileLock ino) g fun r g' => r = .ok () ∧ g' = g.drop .state := by
  have holds : g.holds .state = true := by
    show g.fileLock.isSome = true
    rw [held]
    rfl
  have contradicted {α : Type} {p : SiteProgram M Config α} {R} {holds : Prop} [Decidable holds]
      (false_ : ¬holds) : JobFollows jobs job p (g.expect holds) R :=
    follows_lost (g.expect_lost_of_not false_)
  refine follows_observing_then (follows_awaiting (.inr trivial)) ?_
  rintro (error | metadata) g' ⟨after, -⟩
  · rw [after]
    refine contradicted ?_
    rw [held]
    exact fun none => nomatch none
  · rw [after]
    by_cases same : ∀ own ∈ g.fileLock, metadata.ino = own
    · rw [show g.after (.lstat .state) (.ok metadata) = g from g.expect_eq same]
      show JobFollows jobs job (if metadata.ino = ino then _ else _) g _
      rw [if_pos (same ino held)]
      refine (follows_awaiting (.inr holds)).mono fun r g' known clean => ?_
      obtain ⟨after, clean⟩ := known clean
      rw [after] at clean ⊢
      cases r with
      | ok _ => exact ⟨rfl, if_pos holds⟩
      | error e =>
        have lost : (g.after (.unlink .state) (.error e)).lost = true :=
          g.expect_lost_of_not (by rw [holds]; exact fun same => nomatch same)
        exact Bool.noConfusion (lost.symm.trans clean)
    · exact contradicted same

def JobKnowledge.commit (g : JobKnowledge M Config) (mutation : M) : JobKnowledge M Config :=
  { g with committed := mutation :: g.committed }

theorem drop_held (free : g.fileLock = none) (blank : g.state = none) (ino : Option Nat) (state : Option StateFile) :
    ({ g with fileLock := ino, state } : JobKnowledge M Config).drop .state = g := by
  cases g
  simp only at free blank
  rw [free, blank]
  rfl

/-- What a mutation leaves under the lock file: written where it succeeds, and maybe where it fails. -/
def Mutated (g : JobKnowledge M Config) (mutation : M) (ino : Nat) :
    Except JsError Unit → JobKnowledge M Config → Prop :=
  fun r g' => g'.fileLock = some ino ∧
    Post (fun _ g' => g'.drop .state = g.commit mutation)
      (fun _ g' => g'.drop .state = g ∨ g'.drop .state = g.commit mutation) r g'

theorem follows_underFileLock (mutation : M) (free : g.fileLock = none) (blank : g.state = none) (ino : Nat) :
    JobFollows jobs job (do
      match jobs.operation mutation (← awaiting .readState) with
      | .ok (_, state) => awaiting (.writeState mutation state)
      | .error refusal =>
        match refusal.persist with
        | some state => awaiting (.writeState mutation state)
        | none => pure ()
        throw refusal.error) (g.take ino .state) (Mutated g mutation ino) := by
  have wrote (state read : StateFile) (made : written (jobs.operation mutation) read = some state) :
      JobFollows jobs job (awaiting (.writeState mutation state))
        { g with fileLock := some ino, state := some read }
        fun r g' => r = .ok () ∧ g'.fileLock = some ino ∧ g'.drop .state = g.commit mutation := by
    have allowed : (siteProtocol jobs job).allowed { g with fileLock := some ino, state := some read }
        (.writeState mutation state) := .inr ⟨rfl, read, rfl, made⟩
    refine (follows_awaiting allowed).mono fun r g' known clean => ?_
    obtain ⟨after, clean⟩ := known clean
    rw [after] at clean ⊢
    cases r with
    | ok _ => exact ⟨rfl, rfl, drop_held (g := g.commit mutation) free blank (some ino) none⟩
    | error e => exact Bool.noConfusion (show true = false from clean)
  have unwritten (read : StateFile) : ({ g with fileLock := some ino, state := some read } :
      JobKnowledge M Config).drop .state = g := drop_held free blank (some ino) (some read)
  refine follows_then (follows_awaiting (.inr trivial)) ?_ ?_
  · rintro read g₁ ⟨after, -⟩
    rw [show g₁ = { g with fileLock := some ino, state := some read } from after]
    cases outcome : jobs.operation mutation read with
    | ok result =>
      obtain ⟨_, state⟩ := result
      refine (wrote state read ?_).mono fun r g' known clean => ?_
      · simp only [written, outcome]
      · obtain ⟨rfl, held, done⟩ := known clean
        exact ⟨held, done⟩
    | error refusal =>
      cases persist : refusal.persist with
      | none =>
        simp only [persist]
        exact fun _ => ⟨rfl, .inl (unwritten read)⟩
      | some state =>
        simp only [persist]
        refine follows_then (wrote state read ?_) ?_ ?_
        · simp only [written, outcome, persist]
        · rintro _ g' ⟨-, held, done⟩
          exact fun _ => ⟨held, .inr done⟩
        · rintro e g' ⟨none, -⟩
          exact nomatch none
  · rintro e g₁ ⟨after, clean⟩
    rw [after] at clean
    exact Bool.noConfusion (show true = false from clean)

variable {patience : Nat}

/-- A mutation that succeeds has been written, and one that fails may have been. -/
theorem follows_mutateLocked (mutation : M) (free : g.fileLock = none) (blank : g.state = none) :
    JobFollows jobs job (mutateLocked pid patience jobs.operation mutation) g
      (Post (fun _ g' => g' = g.commit mutation) fun _ g' => g' = g ∨ g' = g.commit mutation) := by
  refine follows_plain_then .dateNow fun now => ?_
  refine follows_then (follows_acquireFileLock patience free) ?_ fun e g' same => .inl same
  intro ino g₁ same
  rw [show g₁ = g.take ino .state from same]
  refine follows_observing_then (follows_underFileLock mutation free blank ino) ?_
  rintro outcome g₂ ⟨held, done⟩
  refine follows_then (follows_releaseFileLock held) ?_ ?_
  · rintro _ g₃ ⟨-, dropped⟩
    rw [dropped]
    cases outcome with
    | ok _ => exact fun _ => done
    | error e => exact fun _ => done
  · rintro e g₃ ⟨failed, -⟩
    exact nomatch failed

/-! ### The lock directory -/

theorem follows_reapStaleLock (unheld : g.directory = false) :
    JobFollows jobs job reapStaleLock g fun _ g' => g' = g := by
  refine follows_observing_then (follows_awaiting (.inr trivial)) ?_
  rintro (error | metadata) g' ⟨after, -⟩
  · rw [after]
    show JobFollows jobs job (if error.code = some "ENOENT" then _ else _) g _
    split
    · exact fun _ => rfl
    · exact fun _ => rfl
  · rw [show g' = g from after]
    refine follows_then (follows_awaiting (.inr trivial)) ?_ ?_
    · rintro owner g' ⟨after, -⟩
      rw [after, show g.after (.readLockOwner .config) (.ok owner) = g from
        g.expect_eq fun held => Bool.noConfusion (unheld.symm.trans held)]
      refine follows_plain_then .dateNow fun now => ?_
      have probed : JobFollows jobs job (ownerExited owner) g fun _ g' => g' = g := by
        cases owner with
        | none => exact fun _ => rfl
        | some owner => exact follows_plain_then (.processIsAlive _) fun _ _ => rfl
      refine follows_then probed ?_ ?_
      · intro exited g' same
        rw [show g' = g from same]
        split
        · exact fun _ => rfl
        · refine follows_observing_then (follows_rename unheld) ?_
          rintro (error | _) g' same
          · rw [same]
            show JobFollows jobs job (if _ then _ else _) g _
            split
            · exact fun _ => rfl
            · exact fun _ => rfl
          · rw [same]
            exact follows_plain_then .discardMoved fun _ _ => rfl
      · exact fun _ _ same => same
    · rintro e g' ⟨after, clean⟩
      rw [after] at clean
      exact Bool.noConfusion (show true = false from clean)

def JobKnowledge.signedBy (g : JobKnowledge M Config) (owner : LockOwner) : JobKnowledge M Config :=
  { g with directory := true, signed := some owner }

theorem follows_acquireFinalizationLock {deadline : Instant} (patience : Nat)
    (unheld : g.directory = false) (unread : g.config = .unread) (blank : g.backup = none) :
    JobFollows jobs job (acquireFinalizationLock pid deadline patience) g
      (Post (fun owner g' => g' = g.signedBy owner) fun _ g' => g' = g) := by
  induction patience with
  | zero => exact fun _ => rfl
  | succ patience ih =>
    refine follows_plain_then .randomNonce fun nonce => ?_
    refine follows_observing_then (follows_awaiting (.inr ⟨unheld, fun _ => ⟨unread, blank⟩⟩)) ?_
    rintro (error | ino) g' ⟨after, -⟩
    · rw [after]
      show JobFollows jobs job (if error.code ≠ some "EEXIST" then _ else _) g _
      split
      · exact fun _ => rfl
      · refine follows_then (follows_reapStaleLock unheld) ?_ fun e g' same => same
        intro reaped g' same
        rw [show g' = g from same]
        cases reaped with
        | true => exact ih
        | false =>
          refine follows_plain_then .dateNow fun now => ?_
          show JobFollows jobs job (if _ then _ else _) g _
          split
          · exact fun _ => rfl
          · exact follows_plain_then .sleep fun _ => ih
    · rw [show g' = g.take ino .config from after]
      refine follows_plain_then .dateNow fun now => ?_
      have own : JobFollows jobs job (createLockOwner { pid, nonce, createdAt := now }) (g.take ino .config)
          fun r g' => r = .ok () ∧ g' = g.signedBy { pid, nonce, createdAt := now } := by
        refine follows_observing_then (follows_awaiting (.inr ⟨rfl, rfl⟩)) ?_
        rintro (e | _) g' ⟨after, clean⟩
        · refine follows_lost (after ▸ JobKnowledge.expect_lost_of_not _ ?_)
          exact fun none => nomatch none
        · exact fun _ => ⟨rfl, after⟩
      refine follows_then own ?_ ?_
      · rintro _ g' ⟨-, signed⟩
        exact fun _ => signed
      · rintro e g' ⟨none, -⟩
        exact nomatch none

variable {owner : LockOwner}

theorem follows_releaseFinalizationLock (held : g.directory = true) (signed : g.signed = some owner) :
    JobFollows jobs job (releaseFinalizationLock owner) g fun _ g' => g' = g.drop .config := by
  refine follows_then (follows_awaiting (.inr trivial)) ?_ ?_
  · rintro read g' ⟨after, clean⟩
    by_cases same : g.directory = true → ∀ own ∈ g.signed, read = some own
    · rw [after, show g.after (.readLockOwner .config) (.ok read) = g from g.expect_eq same]
      rw [same held owner signed, if_neg (not_not.mpr ⟨owner, rfl, rfl, rfl⟩)]
      refine follows_observing_then (follows_awaiting (.inr trivial)) ?_
      rintro (e | _) g' ⟨after, -⟩
      · refine follows_lost (after ▸ g.expect_lost_of_not ?_)
        rw [show g.holds .config = true from held]
        exact fun none => nomatch none
      · rw [after, show g.after (.rename .config) (.ok _) = g.drop .config from if_pos held]
        refine follows_plain_then .readMovedOwner fun moved => ?_
        split
        · exact fun _ => rfl
        · exact (follows_plain .discardMoved).mono fun r g' known clean => (known clean).2
    · exact follows_lost (after ▸ g.expect_lost_of_not same)
  · rintro e g' ⟨after, clean⟩
    rw [after] at clean
    exact Bool.noConfusion (show true = false from clean)

/-! ### Finalizations -/

/-- The job is in its critical section of the configuration, outside that of the state. -/
structure JobKnowledge.Inside (g : JobKnowledge M Config) (owner : LockOwner) : Prop where
  directory : g.directory = true
  signed : g.signed = some owner
  free : g.fileLock = none
  blank : g.state = none

/-- What the `try` block leaves: it has written both files where it comes to its end, and the configuration
where it says so. -/
structure Tried (work : FinalizationWork M Config) (owner : LockOwner)
    (progress : FinalizationProgress Config) (g : JobKnowledge M Config) : Prop where
  inside : g.Inside owner
  complete : progress.error = none → work.approve ∈ g.committed ∧ g.config = .written
  written : progress.configWritten = true → ∀ backup, progress.backup = some backup →
    g.config = .written ∧ g.backup = some backup

theorem follows_receipt {stage : ReceiptStage} :
    JobFollows jobs job (awaiting (.receipt stage)) g fun _ g' => g' = g := by
  refine (follows_awaiting (.inr trivial)).mono fun r g' known clean => ?_
  rw [(known clean).1]
  cases r <;> rfl

variable {work : FinalizationWork M Config}

theorem follows_finalizationTry {config updated : Config}
    (does : jobs.work job = .finalization work) (inside : g.Inside owner)
    (phase : g.config = .read config) (made : work.update config = .ok updated) :
    JobFollows jobs job (finalizationTry pid patience jobs.operation work updated) g fun r g' =>
      ∃ progress, r = .ok progress ∧ Tried work owner progress g' := by
  refine follows_observing_then (follows_awaiting (.inr ⟨config, phase⟩)) ?_
  rintro (e | backup) g₁ ⟨after, clean⟩
  · rw [after] at clean
    exact Bool.noConfusion (show true = false from clean)
  · rw [show g₁ = { g with backup := some backup } from after.trans (if_pos inside.directory)]
    have allowed : (siteProtocol jobs job).allowed { g with backup := some backup } (.atomicWrite updated) :=
      .inr ⟨inside.directory, config, work, phase, does, made⟩
    refine follows_observing_then (follows_awaiting allowed) ?_
    rintro (e | _) g₂ ⟨after, clean⟩
    · rw [after] at clean
      exact Bool.noConfusion (show true = false from clean)
    · have written : g₂ = { g with backup := some backup, config := .written } := by
        rw [after]
        show JobKnowledge.write _ = _
        simp only [JobKnowledge.write, phase]
      rw [written]
      refine follows_observing_then (follows_mutateLocked work.approve inside.free inside.blank) ?_
      rintro (e | _) g₃ done
      · refine fun _ => ⟨_, rfl, ?_⟩
        obtain rfl | rfl : g₃ = _ ∨ g₃ = _ := done
        · exact ⟨⟨inside.directory, inside.signed, inside.free, inside.blank⟩, fun none => (nomatch none),
            fun _ other same => ⟨rfl, same⟩⟩
        · exact ⟨⟨inside.directory, inside.signed, inside.free, inside.blank⟩, fun none => (nomatch none),
            fun _ other same => ⟨rfl, same⟩⟩
      · rw [show g₃ = _ from done]
        refine follows_observing_then follows_receipt ?_
        rintro (e | _) g₄ same
        · rw [show g₄ = _ from same]
          exact fun _ => ⟨_, rfl, ⟨inside.directory, inside.signed, inside.free, inside.blank⟩,
            fun none => (nomatch none), fun _ other same => ⟨rfl, same⟩⟩
        · rw [show g₄ = _ from same]
          exact fun _ => ⟨_, rfl, ⟨inside.directory, inside.signed, inside.free, inside.blank⟩,
            fun _ => ⟨List.mem_cons_self, rfl⟩, fun _ other same => ⟨rfl, same⟩⟩

theorem follows_finalizationCatch {progress : FinalizationProgress Config} (tried : Tried work owner progress g) :
    JobFollows jobs job (finalizationCatch pid patience jobs.operation work progress) g fun r g' =>
      g'.Inside owner ∧ ∀ a, r ≠ .ok a := by
  -- The approval is taken back.
  have approval : JobFollows jobs job
      (takeBackApproval pid patience jobs.operation work progress.approvalCommitted) g fun r g' =>
        (∃ outcome, r = .ok outcome) ∧ (g' = g ∨ g' = g.commit work.rollback) := by
    cases progress.approvalCommitted with
    | false => exact fun _ => ⟨⟨_, rfl⟩, .inl rfl⟩
    | true =>
      refine follows_observing.mpr ((follows_mutateLocked work.rollback tried.inside.free
        tried.inside.blank).mono fun r g' known clean => ⟨⟨r, rfl⟩, ?_⟩)
      cases r with
      | error e => exact known clean
      | ok _ => exact .inr (known clean)
  refine follows_then approval ?_ ?_
  · rintro approved g₁ ⟨-, same⟩
    have inside : g₁.Inside owner := by
      rcases same with rfl | rfl
      · exact tried.inside
      · exact ⟨tried.inside.directory, tried.inside.signed, tried.inside.free, tried.inside.blank⟩
    have written : progress.configWritten = true → ∀ backup, progress.backup = some backup →
        g₁.config = .written ∧ g₁.backup = some backup := by
      rcases same with rfl | rfl
      · exact tried.written
      · exact tried.written
    -- The configuration is written back.
    have config : JobFollows jobs job (writeBackConfig progress.configWritten progress.backup) g₁
        fun r g' => (∃ outcome, r = .ok outcome) ∧ g'.Inside owner := by
      unfold writeBackConfig
      split
      · rename_i backup wrote copied
        obtain ⟨phase, kept⟩ := written wrote backup copied
        have allowed : (siteProtocol jobs job).allowed g₁ (.restoreBackup backup) :=
          .inr ⟨inside.directory, phase, kept⟩
        refine follows_observing.mpr ((follows_awaiting allowed).mono
          fun r g' known clean => ⟨⟨r, rfl⟩, ?_⟩)
        obtain ⟨after, clean⟩ := known clean
        rw [after] at clean ⊢
        cases r with
        | error e => exact Bool.noConfusion (show true = false from clean)
        | ok _ =>
          show (g₁.restore).Inside owner
          simp only [JobKnowledge.restore, phase, kept]
          exact ⟨inside.directory, inside.signed, inside.free, inside.blank⟩
      · exact fun _ => ⟨⟨_, rfl⟩, inside⟩
    refine follows_then config ?_ ?_
    · rintro restored g₂ ⟨-, inside⟩
      refine follows_observing_then follows_receipt ?_
      rintro received g₃ same
      rw [show g₃ = g₂ from same]
      split
      · exact fun _ => ⟨inside, fun _ none => nomatch none⟩
      · exact fun _ => ⟨inside, fun _ none => nomatch none⟩
    · rintro e g₂ ⟨⟨_, none⟩, -⟩
      exact nomatch none
  · rintro e g₁ ⟨⟨_, none⟩, -⟩
    exact nomatch none

/-- What a job that reports success has done: its mutation is written, or its approval and its
configuration are. -/
def JobDone (jobs : SiteJobs J M Config) (job : J) (g : JobKnowledge M Config) : Prop :=
  match jobs.work job with
  | .mutation mutation => mutation ∈ g.committed
  | .finalization work => work.approve ∈ g.committed ∧ g.config = .written

def JobEnd (jobs : SiteJobs J M Config) (job : J) : Except JsError Unit → JobKnowledge M Config → Prop :=
  OrLost (Post (fun _ g => JobDone jobs job g) fun _ _ => True)

/-- A finalization under its lock stays there, and has written both files where it succeeds. -/
theorem follows_underDirectory (does : jobs.work job = .finalization work) (inside : g.Inside owner)
    (unread : g.config = .unread) : JobFollows jobs job (do
      awaiting (.receipt .select)
      let updated ← .ofExcept (work.update (← awaiting .readConfig))
      awaiting (.receipt .verify)
      awaiting (.receipt .isolate)
      let progress ← finalizationTry pid patience jobs.operation work updated
      match progress.error with
      | none => return ()
      | some _ => finalizationCatch pid patience jobs.operation work progress) g fun r g' =>
        g'.Inside owner ∧ ∀ a, r = .ok a → work.approve ∈ g'.committed ∧ g'.config = .written := by
  have failing {g : JobKnowledge M Config} (inside : g.Inside owner) (e : JsError) :
      g.Inside owner ∧ ∀ a, (.error e : Except JsError Unit) = .ok a →
        work.approve ∈ g.committed ∧ g.config = .written := ⟨inside, fun _ none => nomatch none⟩
  refine follows_then follows_receipt ?_ fun e g' same => same ▸ failing inside e
  intro _ g' same
  rw [show g' = g from same]
  refine follows_then (follows_awaiting (.inr unread)) ?_ ?_
  · rintro config g₁ ⟨after, -⟩
    rw [show g₁ = { g with config := .read config } from after.trans (if_pos inside.directory)]
    have inside₁ : JobKnowledge.Inside { g with config := .read config } owner :=
      ⟨inside.directory, inside.signed, inside.free, inside.blank⟩
    cases made : work.update config with
    | error e => exact fun _ => failing inside₁ e
    | ok updated =>
      show JobFollows jobs job (awaiting (.receipt .verify) >>= _) _ _
      refine follows_then follows_receipt ?_ fun e g' same => same ▸ failing inside₁ e
      intro _ g' same
      rw [show g' = _ from same]
      refine follows_then follows_receipt ?_ fun e g' same => same ▸ failing inside₁ e
      intro _ g' same
      rw [show g' = _ from same]
      refine follows_then (follows_finalizationTry does inside₁ rfl made) ?_ ?_
      · rintro progress g₂ ⟨_, here, tried⟩
        obtain rfl := Except.ok.inj here
        cases ended : progress.error with
        | none => exact fun _ => ⟨tried.inside, fun _ _ => tried.complete ended⟩
        | some e =>
          refine (follows_finalizationCatch tried).mono fun r g' known clean => ?_
          exact ⟨(known clean).1, fun a same => absurd same ((known clean).2 a)⟩
      · rintro e g₂ ⟨_, none, -⟩
        exact nomatch none
  · rintro e g₁ ⟨after, clean⟩
    rw [after] at clean
    exact Bool.noConfusion (show true = false from clean)

/-- Every job keeps to what it may do, and has done its work where it reports success. -/
theorem follows_jobs (jobs : SiteJobs J M Config) (job : J) :
    Follows (siteProtocol jobs job) (jobs.body job) {} (JobEnd jobs job) := by
  unfold SiteJobs.body JobEnd JobDone
  cases does : jobs.work job with
  | mutation mutation =>
    refine (follows_mutateLocked mutation rfl rfl).mono fun r g' known clean => ?_
    cases r with
    | error e => trivial
    | ok _ =>
      rw [show g' = _ from known clean]
      exact List.mem_cons_self
  | finalization work =>
    refine follows_plain_then .dateNow fun now => ?_
    refine follows_then (follows_acquireFinalizationLock _ rfl rfl rfl) ?_ fun e g' _ => trivial
    intro owner g₁ same
    rw [show g₁ = _ from same]
    refine follows_observing_then (follows_underDirectory does ⟨rfl, rfl, rfl, rfl⟩ rfl) ?_
    rintro (e | _) g₂ ⟨inside, done⟩
    · refine follows_observing_then (follows_releaseFinalizationLock inside.directory inside.signed) ?_
      exact fun _ _ _ _ => trivial
    · refine follows_then (follows_releaseFinalizationLock inside.directory inside.signed) ?_ ?_
      · intro _ g₃ dropped
        rw [show g₃ = _ from dropped]
        exact fun _ => done () rfl
      · exact fun _ _ _ => trivial

end Programs

/-! ## The law -/

section Law

variable [DecidableEq J] {first : Site J M Config}

def siteSpec (jobs : SiteJobs J M Config) :
    PoolSpec (Site J M Config) J (SiteCall M Config) SiteReply JsError (JobKnowledge M Config) Unit SiteChoice
      SiteEvent where
  body := jobs.body
  protocol := siteProtocol jobs
  unknowing := {}
  answer := Site.answer
  outside := Site.event

abbrev SiteRun (J M Config : Type) :=
  Pool (Site J M Config) J (SiteCall M Config) SiteReply JsError (JobKnowledge M Config) Unit

/-- The site after one step: a call of a job, or an event. -/
def siteStep (jobs : SiteJobs J M Config) :
    SiteRun J M Config → CrewAction J SiteChoice SiteEvent → SiteRun J M Config :=
  crewStep (Alive jobs) (siteSpec jobs)

/-- A running job is in the critical section of a lock: it has created the lock and not yet given it up. -/
def InSection (jobs : SiteJobs J M Config) (s : SiteRun J M Config) (lock : LockPath) (job : J) : Prop :=
  Alive jobs s.shared job ∧ ∃ p g, s.live job = some (p, g) ∧ g.holds lock = true

/-- What a job that reports success has left in the files. -/
def Effective (jobs : SiteJobs J M Config) (s : Site J M Config) (job : J) : Prop :=
  match jobs.work job with
  | .mutation mutation => (job, mutation) ∈ s.committed
  | .finalization work => (job, work.approve) ∈ s.committed ∧ job ∈ s.applied

/-- What the locks promise at every moment: one job in each critical section, and two files that are the
writes on record, one after another, among them those of every job that has reported success. -/
structure SiteLaw (jobs : SiteJobs J M Config) (first : Site J M Config) (s : SiteRun J M Config) : Prop where
  exclusive : ∀ lock job job', InSection jobs s lock job → InSection jobs s lock job' → job = job'
  replayed : Replayed jobs first s.shared
  effective : ∀ job g, s.live job = some (.done (), g) → Effective jobs s.shared job

/-- What each call keeps, where a rename moves what a process that has ended left. -/
theorem siteRules (jobs : SiteJobs J M Config) (first : Site J M Config) :
    CrewRules (Alive jobs) (siteSpec jobs) (Replayed jobs first) (JobKnows jobs first) (JobEnd jobs)
      (RenamesEnded jobs) where
  body := follows_jobs jobs
  outside s event replayed := by
    refine ⟨?_, fun job g knows => ?_⟩
    · cases event <;> exact ⟨replayed.state, replayed.config⟩
    · cases event with
      | tick ms => exact ⟨knows.clean, knows.held, knows.state, knows.config, knows.committed, knows.applied⟩
      | exit pid =>
        have before (acts : Alive jobs (s.event (.exit pid)) job) : Alive jobs s job := by
          by_cases same : jobs.pid job = pid
          · have ended : Function.update s.ended pid true (jobs.pid job) = false := acts
            rw [same, Function.update_self] at ended
            exact nomatch ended
          · have ended : Function.update s.ended pid true (jobs.pid job) = false := acts
            rwa [Function.update_of_ne same] at ended
        exact ⟨knows.clean, fun acts => knows.held (before acts), fun acts => knows.state (before acts),
          fun acts => knows.config (before acts), knows.committed, knows.applied⟩
  shared _ _ _ _ _ replayed knows allowed acts _ := replayed.answer knows acts allowed
  own _ _ _ _ _ replayed knows allowed acts _ := knows.own replayed acts allowed
  other _ _ _ _ _ _ _ _ knows allowed acts guarded differs knows' :=
    knows'.other knows acts allowed guarded differs

theorem SiteLaw.of_invariant {s : SiteRun J M Config}
    (inv : CrewInvariant (siteSpec jobs) (Replayed jobs first) (JobKnows jobs first) (JobEnd jobs) s) :
    SiteLaw jobs first s where
  exclusive lock job job' inside inside' := by
    obtain ⟨acts, p, g, live, held⟩ := inside
    obtain ⟨acts', p', g', live', held'⟩ := inside'
    exact (inv.live job p g live).1.apart (inv.live job' p' g' live').1 acts acts' held held'
  replayed := inv.shared
  effective job g live := by
    obtain ⟨knows, done⟩ := inv.live job _ g live
    have effect : JobDone jobs job g := done knows.clean
    unfold JobDone at effect
    unfold Effective
    cases does : jobs.work job with
    | mutation mutation =>
      simp only [does] at effect ⊢
      exact knows.committed _ effect
    | finalization work =>
      simp only [does] at effect ⊢
      exact ⟨knows.committed _ effect.1, knows.applied effect.2⟩

/-- **No update is lost**: in every run in which whoever renames a lock away moves what a process that has
ended left there, each critical section has one job in it, and the files hold the effect of every
mutation and every finalization that has reported success. -/
theorem lockedFiles_law (jobs : SiteJobs J M Config) (state : StateFile) (config : Config) (now : Instant)
    {actions : List (CrewAction J SiteChoice SiteEvent)}
    (renames : Along (siteStep jobs) (CrewGuard (Alive jobs) (RenamesEnded jobs))
      (.begin (siteSpec jobs) { now, state, config }) actions) (pre post : List _) (split : actions = pre ++ post) :
    SiteLaw jobs { now, state, config } (run (siteStep jobs) (.begin (siteSpec jobs) { now, state, config }) pre) := by
  rw [split, along_append] at renames
  refine .of_invariant (crew_invariant (siteRules jobs _) (.begin (siteRules jobs _) ⟨rfl, rfl⟩ ?_) renames.1)
  intro job
  refine ⟨rfl, fun _ lock held => ?_, fun _ _ none => (nomatch none), fun _ none => (nomatch none),
    fun _ none => (nomatch none), fun none => nomatch none⟩
  cases lock <;> exact nomatch held

end Law

/-! ## Runs -/

/-- A mutation that notes a state of the store `S1`. -/
def noteState (hash : String) : Operation Unit := fun s =>
  .ok ((), { s with
    states := s.states ++ [{ stateHash := hash, batchId := "B", storeCode := "S1", createdAt := 0
                             expiresAt := 1 }] })

def threeJobs : SiteJobs (Fin 3) String Nat where
  pid job := job.val
  patience _ := 3
  work job := .mutation (String.ofList (List.replicate (job.val + 1) 'a'))
  operation := noteState

def emptySite : Site (Fin 3) String Nat := { now := 0, state := blankState, config := 0 }

/-- The job makes so many calls; a lock it creates gets its number as inode. -/
def jobCalls (job : Fin 3) (n : Nat) : List (CrewAction (Fin 3) SiteChoice SiteEvent) :=
  List.replicate n (.advance job { ino := job.val })

/-- The first process ends while it holds the lock file. The two others find it stale; the second renames
it away and creates its own, which the third renames away. Then both read the state before either writes
it. -/
def renameRace : List (CrewAction (Fin 3) SiteChoice SiteEvent) :=
  jobCalls 0 2 ++ [.outside (.exit 0), .outside (.tick 30001)] ++ jobCalls 1 4 ++ jobCalls 2 4 ++
    jobCalls 1 5 ++ jobCalls 2 5 ++ jobCalls 1 1 ++ jobCalls 2 1 ++ jobCalls 1 2 ++ jobCalls 2 3

/-- The second process has reported success, and its state is gone. -/
theorem renameRace_loses :
    ¬SiteLaw threeJobs emptySite (run (siteStep threeJobs) (.begin (siteSpec threeJobs) emptySite) renameRace) := by
  intro law
  have lost : (run (siteStep threeJobs) (.begin (siteSpec threeJobs) emptySite) renameRace).shared.state ≠
      threeJobs.replayState emptySite.state
        (run (siteStep threeJobs) (.begin (siteSpec threeJobs) emptySite) renameRace).shared.committed := by
    decide
  exact lost law.replayed.state

/-- The same, but the third process looks at the lock only when the second has given it up. -/
def orderlyRun : List (CrewAction (Fin 3) SiteChoice SiteEvent) :=
  jobCalls 0 2 ++ [.outside (.exit 0), .outside (.tick 30001)] ++ jobCalls 1 13 ++ jobCalls 2 8

theorem orderlyRun_law : SiteLaw threeJobs emptySite
      (run (siteStep threeJobs) (.begin (siteSpec threeJobs) emptySite) orderlyRun) := by
  have renames : Along (siteStep threeJobs) (CrewGuard (Alive threeJobs) (RenamesEnded threeJobs))
      (.begin (siteSpec threeJobs) emptySite) orderlyRun := by decide
  exact lockedFiles_law threeJobs blankState 0 0 renames orderlyRun [] (List.append_nil _).symm

end FullManagedBi.Authorization
