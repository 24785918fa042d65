import FullManagedBi.WebapiExperiment.ProfileLock

/-!
# Who holds the locks of the WebAPI experiment

A use holds the lock files it was told it created and has not removed. A lock file is reclaimed in four
steps: the claimant reads it, probes its owner, removes whatever is there by then, and creates its own.
Everything the locks promise holds exactly as long as what is removed by then is still the file of a
process that has ended: **`profileLock_iff`**.
-/

namespace FullManagedBi.WebapiExperiment

open Lib

variable {B : CaseBuiltins} {roster : List String}

/-! ## What a use knows -/

/-- What a use has learned: the lock files it created and has not removed, and whether it has found one
of them gone. -/
structure LockKnowledge where
  held : List String := []
  lost : Bool := false

def LockKnowledge.after (g : LockKnowledge) (pid : Int) :
    (call : LockCall) → Except LockError (LockReply call) → LockKnowledge
  | .writeFileExclusive path _, .ok _ => { g with held := path :: g.held }
  | .readFile path, .ok record => { g with lost := g.lost || decide (path ∈ g.held ∧ record.ownerPid ≠ pid) }
  | .readFile path, .error _ => { g with lost := g.lost || decide (path ∈ g.held) }
  | .remove path, .ok _ => { g with held := g.held.erase path }
  | .remove path, .error _ => { g with lost := g.lost || decide (path ∈ g.held) }
  | .writeFileExclusive _ _, .error _ => g
  | .mkdir _, _ => g
  | .isProcessAlive _, _ => g
  | .clock, _ => g

def lockProtocol (use : LockUse) : Protocol LockCall LockReply LockError LockKnowledge where
  allowed _
    | .writeFileExclusive _ record => record.ownerPid = use.manager.pid
    | _ => True
  after g := g.after use.manager.pid

/-- How the uses run: nothing else happens than that a process ends, and nobody probes it wrongly. -/
def lockSpec (B : CaseBuiltins) (roster : List String) :
    PoolSpec LockDirectory LockUse LockCall LockReply LockError LockKnowledge Bool Int Int where
  body := LockUse.body B roster
  protocol := lockProtocol
  unknowing := {}
  answer := LockDirectory.answer
  outside s pid := { s with ended := Function.update s.ended pid true }

def Running (s : LockDirectory) (use : LockUse) : Prop := s.ended use.manager.pid = false

instance (s : LockDirectory) (use : LockUse) : Decidable (Running s use) :=
  inferInstanceAs (Decidable (_ = _))

abbrev Locks := Pool LockDirectory LockUse LockCall LockReply LockError LockKnowledge Bool

/-- A use makes its next call, or a process ends. -/
abbrev LockAction := CrewAction LockUse Int Int

def lockStep (B : CaseBuiltins) (roster : List String) : Locks → LockAction → Locks :=
  crewStep Running (lockSpec B roster)

def noLocks (B : CaseBuiltins) (roster : List String) : Locks :=
  .begin (lockSpec B roster) ⟨fun _ => none, fun _ => false⟩

/-! ## The programs -/

section Programs

variable {use : LockUse} {g : LockKnowledge}

/-- From `g` on, the use has come to hold these lock files, unless it has found one of its own gone. -/
def LockKnowledge.Holds (g : LockKnowledge) (held : List String) (g' : LockKnowledge) : Prop :=
  g'.lost = false → g.lost = false ∧ g'.held = held

theorem LockKnowledge.Holds.same : g.Holds g.held g := fun clean => ⟨clean, rfl⟩

theorem follows_settled {call : LockCall}
    {Q : Except LockError (Except LockError (LockReply call)) → LockKnowledge → Prop} :
    Follows (lockProtocol use) (observing (await call)) g Q ↔
      (lockProtocol use).allowed g call ∧ ∀ r, Q (.ok r) (g.after use.manager.pid call r) :=
  follows_observing.trans follows_perform

theorem follows_isProvablyStale {record : Option LockRecord} {pid : Int}
    {Q : Except LockError Bool → LockKnowledge → Prop}
    (settled : ∀ stale, (∀ r, record = some r → r.ownerPid = pid → stale = false) → Q (.ok stale) g) :
    Follows (lockProtocol use) (isProvablyStale record pid) g Q := by
  cases record with
  | none => exact settled false fun _ _ _ => rfl
  | some record =>
    simp only [isProvablyStale]
    split
    · exact settled false fun _ _ _ => rfl
    · split
      · exact settled false fun _ _ _ => rfl
      · rename_i other
        refine follows_bind.mpr (follows_settled.mpr ⟨trivial, fun r => ?_⟩)
        cases r with
        | ok alive =>
          refine settled (!alive) fun r same own => ?_
          obtain rfl := Option.some.inj same
          exact absurd own other
        | error e => exact settled false fun _ _ _ => rfl

/-- A read of a lock file leaves what is held, and one of an own file finds it. -/
theorem after_readFile (use : LockUse) (g : LockKnowledge) (path : String) (r : Except LockError LockRecord) :
    (g.after use.manager.pid (.readFile path) r).held = g.held ∧
      ((g.after use.manager.pid (.readFile path) r).lost = false → g.lost = false ∧
        (path ∈ g.held → ∃ record, r = .ok record ∧ record.ownerPid = use.manager.pid)) := by
  cases r with
  | error e =>
    refine ⟨rfl, fun clean => ?_⟩
    obtain ⟨before, foreign⟩ := Bool.or_eq_false_iff.mp clean
    exact ⟨before, fun held => absurd held (of_decide_eq_false foreign)⟩
  | ok record =>
    refine ⟨rfl, fun clean => ?_⟩
    obtain ⟨before, own⟩ := Bool.or_eq_false_iff.mp clean
    refine ⟨before, fun held => ⟨record, rfl, ?_⟩⟩
    exact not_not.mp fun differs => of_decide_eq_false own ⟨held, differs⟩

/-- Reclaiming removes none of the use's own files, unless it has found one of them gone. -/
theorem follows_reclaim {path : String} {record : LockRecord} (signed : record.ownerPid = use.manager.pid)
    (foreign : g.lost = false → path ∉ g.held) {Q : Except LockError (Except LockError Unit) → LockKnowledge → Prop}
    (created : ∀ g', g.Holds (path :: g.held) g' → Q (.ok (.ok ())) g')
    (failed : ∀ e g', g.Holds g.held g' → Q (.ok (.error e)) g') : Follows (lockProtocol use)
      (observing (do await (.remove path); await (.writeFileExclusive path record))) g Q := by
  refine follows_observing.mpr (follows_bind.mpr (follows_perform.mpr ⟨trivial, fun removed => ?_⟩))
  cases removed with
  | error e => exact failed e _ fun clean => ⟨(Bool.or_eq_false_iff.mp clean).1, rfl⟩
  | ok _ =>
    refine follows_perform.mpr ⟨signed, fun written => ?_⟩
    cases written with
    | error e => exact failed e _ fun clean => ⟨clean, List.erase_of_not_mem (foreign clean)⟩
    | ok _ =>
      refine created _ fun clean => ⟨clean, ?_⟩
      show path :: g.held.erase path = path :: g.held
      rw [List.erase_of_not_mem (foreign clean)]

/-- A claim that is granted holds its file, and one that is refused leaves what was held. -/
theorem follows_claim {name storeCode heldCode : String} {Q : Except LockError String → LockKnowledge → Prop}
    (granted : ∀ g', g.Holds (use.manager.joinLockPath name :: g.held) g' → Q (.ok (use.manager.joinLockPath name)) g')
    (refused : ∀ e g', g.Holds g.held g' → Q (.error e) g') :
    Follows (lockProtocol use) (use.manager.claim name storeCode heldCode) g Q := by
  unfold LockManager.claim
  generalize use.manager.joinLockPath name = path at granted ⊢
  refine follows_bind.mpr (follows_perform.mpr ⟨trivial, fun now => ?_⟩)
  cases now with
  | error e => exact refused e g .same
  | ok now =>
    refine follows_bind.mpr (follows_settled.mpr ⟨rfl, fun written => ?_⟩)
    cases written with
    | ok _ => exact granted _ fun clean => ⟨clean, rfl⟩
    | error e =>
      cases e with
      | enoent => exact refused _ g .same
      | refused code storeCode => exact refused _ g .same
      | eexist =>
        refine follows_bind.mpr (follows_settled.mpr ⟨trivial, fun read => ?_⟩)
        obtain ⟨held, found⟩ := after_readFile use g path read
        show Follows (lockProtocol use) _ (g.after use.manager.pid (.readFile path) read) _
        generalize g.after use.manager.pid (.readFile path) read = g₁ at held found ⊢
        refine follows_bind.mpr (follows_isProvablyStale fun stale own => ?_)
        cases stale with
        | false => exact refused _ g₁ fun clean => ⟨(found clean).1, held⟩
        | true =>
          have foreign (clean : g₁.lost = false) : path ∉ g₁.held := by
            intro mine
            obtain ⟨record, rfl, signed⟩ := (found clean).2 (held ▸ mine)
            exact nomatch own record rfl signed
          have later {held' : List String} {g' : LockKnowledge} (holds : g₁.Holds held' g') :
              g.Holds held' g' := fun clean =>
            ⟨(found (holds clean).1).1, (holds clean).2⟩
          refine follows_bind.mpr (follows_reclaim rfl foreign (fun g' holds => ?_) fun e g' holds => ?_)
          · exact granted g' (held ▸ later holds)
          · exact refused _ g' (held ▸ later holds)

theorem follows_releaseOwned {path : String} {Q : Except LockError Bool → LockKnowledge → Prop}
    (settled : ∀ released g', (g'.lost = false →
      g.lost = false ∧ (path ∈ g.held → g'.held = g.held.erase path)) → Q (.ok released) g') :
    Follows (lockProtocol use) (use.manager.releaseOwned path) g Q := by
  refine follows_bind.mpr (follows_settled.mpr ⟨trivial, fun read => ?_⟩)
  have found := (after_readFile use g path read).2
  cases read with
  | error e =>
    refine settled false _ fun clean => ⟨(found clean).1, fun held => ?_⟩
    obtain ⟨record, same, -⟩ := (found clean).2 held
    exact nomatch same
  | ok record =>
    show Follows _ (if record.ownerPid ≠ use.manager.pid then _ else _) _ _
    split
    · rename_i other
      refine settled false _ fun clean => ⟨(found clean).1, fun held => ?_⟩
      obtain ⟨own, same, signed⟩ := (found clean).2 held
      obtain rfl := Except.ok.inj same
      exact absurd signed other
    · refine follows_bind.mpr (follows_settled.mpr ⟨trivial, fun removed => ?_⟩)
      cases removed with
      | ok _ => exact settled true _ fun clean => ⟨(found clean).1, fun _ => rfl⟩
      | error e =>
        refine settled false _ fun clean => ?_
        obtain ⟨before, foreign⟩ := Bool.or_eq_false_iff.mp clean
        exact ⟨(found before).1, fun held => absurd held (of_decide_eq_false foreign)⟩

/-- A use whose acquisition fails holds nothing, unless it has found one of its own files gone. -/
theorem follows_body : Follows (lockProtocol use) (use.body B roster) {}
    (Post (fun _ _ => True) fun _ g' => LockKnowledge.Holds {} [] g') := by
  unfold LockUse.body createExperimentLockManager
  split
  · exact .same
  · refine follows_bind.mpr (follows_bind.mpr ?_)
    unfold LockManager.acquire
    extract_lets canonical
    split
    · exact .same
    · refine follows_bind.mpr (follows_perform.mpr ⟨trivial, fun made => ?_⟩)
      cases made with
      | error e => exact .same
      | ok _ =>
        refine follows_bind.mpr (follows_claim (fun g₁ globally => ?_) fun e g₁ none => none)
        refine follows_bind.mpr (follows_observing.mpr (follows_claim (fun g₂ both => ?_) fun e g₂ one => ?_))
        · refine follows_bind.mpr (follows_releaseOwned fun _ g₃ _ => ?_)
          exact follows_bind.mpr (follows_releaseOwned fun _ g₄ _ => trivial)
        · refine follows_bind.mpr (follows_releaseOwned fun _ g₃ released clean => ⟨rfl, ?_⟩)
          obtain ⟨clean₂, kept⟩ := released clean
          obtain ⟨clean₁, held₂⟩ := one clean₂
          obtain ⟨-, held₁⟩ := globally clean₁
          rw [held₁] at held₂
          rw [kept (held₂ ▸ List.mem_singleton_self _), held₂]
          exact List.erase_cons_head _ _

end Programs

/-! ## The invariant -/

/-- The record of a lock file names the process that created it. -/
def Signed (s : LockDirectory) : Prop :=
  ∀ path file, s.files path = some file → file.record.ownerPid = file.createdBy.manager.pid

/-- What a use holds is what it created: all of it, and nothing else while its process runs. -/
structure Knows (use : LockUse) (g : LockKnowledge) (s : LockDirectory) : Prop where
  nodup : g.held.Nodup
  clean : g.lost = false
  created : ∀ path file, s.files path = some file → file.createdBy = use → path ∈ g.held
  held : Running s use → ∀ path ∈ g.held, ∃ file, s.files path = some file ∧ file.createdBy = use

/-- What a reclaim removes is nothing, or the file of a process that has ended. -/
def ReclaimsEnded (s : LockDirectory) (_ : LockUse) (g : LockKnowledge) : LockCall → Int → Prop
  | .remove path, _ => path ∉ g.held → ∀ file, s.files path = some file → s.ended file.record.ownerPid = true
  | _, _ => True

section Steps

variable {s : LockDirectory} {use : LockUse} {g : LockKnowledge}

/-- **What a call can do to the lock files**: create one where none is, remove one, or nothing. -/
theorem answer_cases (s : LockDirectory) (use : LockUse) (call : LockCall) (now : Int) :
    (∃ path record, call = .writeFileExclusive path record ∧ s.files path = none ∧
      (s.answer use call now).2 = s.put path (some ⟨record, use⟩)) ∨
    (∃ path file, call = .remove path ∧ s.files path = some file ∧
      (s.answer use call now).2 = s.put path none) ∨
    (s.answer use call now).2 = s := by
  cases call with
  | mkdir directory => exact .inr (.inr rfl)
  | isProcessAlive pid => exact .inr (.inr rfl)
  | clock => exact .inr (.inr rfl)
  | readFile path =>
    refine .inr (.inr ?_)
    cases there : s.files path <;> simp only [LockDirectory.answer, there]
  | writeFileExclusive path record =>
    cases there : s.files path with
    | none => exact .inl ⟨path, record, rfl, there, by simp only [LockDirectory.answer, there]⟩
    | some file => exact .inr (.inr (by simp only [LockDirectory.answer, there]))
  | remove path =>
    cases there : s.files path with
    | some file => exact .inr (.inl ⟨path, file, rfl, there, by simp only [LockDirectory.answer, there]⟩)
    | none => exact .inr (.inr (by simp only [LockDirectory.answer, there]))

theorem Signed.answer (signed : Signed s) {call : LockCall} {now : Int}
    (allowed : (lockProtocol use).allowed g call) : Signed (s.answer use call now).2 := by
  obtain ⟨path, record, rfl, -, after⟩ | ⟨path, -, rfl, -, after⟩ | after := answer_cases s use call now
  · rw [after]
    intro other file here
    by_cases same : other = path
    · rw [same, s.put_files_self] at here
      obtain rfl := Option.some.inj here
      exact allowed
    · rw [s.put_files_of_ne same] at here
      exact signed other file here
  · rw [after]
    intro other file here
    by_cases same : other = path
    · rw [same, s.put_files_self] at here
      exact nomatch here
    · rw [s.put_files_of_ne same] at here
      exact signed other file here
  · rwa [after]

theorem Knows.other {use' : LockUse} {g' : LockKnowledge} (knows : Knows use g s) (signed : Signed s)
    (acts : Running s use) {call : LockCall} {now : Int} (guarded : ReclaimsEnded s use g call now)
    (differs : use' ≠ use) (knows' : Knows use' g' s) : Knows use' g' (s.answer use call now).2 := by
  obtain ⟨path, record, rfl, free, after⟩ | ⟨path, file, rfl, there, after⟩ | after :=
    answer_cases s use call now
  · rw [after]
    refine ⟨knows'.nodup, knows'.clean, fun other file here by_ => ?_, fun running other mem => ?_⟩
    · by_cases same : other = path
      · rw [same, s.put_files_self] at here
        obtain rfl := Option.some.inj here
        exact absurd by_.symm differs
      · rw [s.put_files_of_ne same] at here
        exact knows'.created other file here by_
    · obtain ⟨file, here, by_⟩ := knows'.held running other mem
      have same : other ≠ path := by
        rintro rfl
        exact nomatch free.symm.trans here
      exact ⟨file, by rwa [s.put_files_of_ne same], by_⟩
  · rw [after]
    refine ⟨knows'.nodup, knows'.clean, fun other file' here by_ => ?_, fun running other mem => ?_⟩
    · by_cases same : other = path
      · rw [same, s.put_files_self] at here
        exact nomatch here
      · rw [s.put_files_of_ne same] at here
        exact knows'.created other file' here by_
    · obtain ⟨file', here, by_⟩ := knows'.held running other mem
      have same : other ≠ path := by
        -- What is removed is held by the use that removes it, or its process has ended.
        rintro rfl
        obtain rfl := Option.mem_unique there here
        by_cases mine : other ∈ g.held
        · obtain ⟨own, there', own_⟩ := knows.held acts other mine
          obtain rfl := Option.mem_unique there there'
          exact differs (by_.symm.trans own_)
        · have ended := guarded mine file there
          rw [signed other file there, by_, show s.ended use'.manager.pid = false from running] at ended
          exact nomatch ended
      exact ⟨file', by rwa [s.put_files_of_ne same], by_⟩
  · rwa [after]

theorem Knows.own (knows : Knows use g s) (signed : Signed s) (acts : Running s use) (call : LockCall)
    (now : Int) : Knows use (g.after use.manager.pid call (s.answer use call now).1) (s.answer use call now).2 := by
  have missing {path : String} (there : s.files path = none) : path ∉ g.held := by
    intro mine
    obtain ⟨own, here, -⟩ := knows.held acts path mine
    cases there.symm.trans here
  cases call with
  | mkdir directory => exact knows
  | isProcessAlive pid => exact knows
  | clock => exact knows
  | readFile path =>
    cases there : s.files path with
    | some file =>
      simp only [LockDirectory.answer, there]
      refine ⟨knows.nodup, ?_, knows.created, knows.held⟩
      show (g.lost || decide (path ∈ g.held ∧ file.record.ownerPid ≠ use.manager.pid)) = false
      rw [knows.clean, Bool.false_or, decide_eq_false_iff_not]
      rintro ⟨mine, differs⟩
      obtain ⟨own, here, by_⟩ := knows.held acts path mine
      obtain rfl := Option.mem_unique there here
      exact differs ((signed path file there).trans (by rw [by_]))
    | none =>
      simp only [LockDirectory.answer, there]
      refine ⟨knows.nodup, ?_, knows.created, knows.held⟩
      show (g.lost || decide (path ∈ g.held)) = false
      rw [knows.clean, Bool.false_or, decide_eq_false (missing there)]
  | writeFileExclusive path record =>
    cases there : s.files path with
    | some file =>
      simp only [LockDirectory.answer, there]
      exact knows
    | none =>
      simp only [LockDirectory.answer, there]
      refine ⟨List.nodup_cons.mpr ⟨missing there, knows.nodup⟩, knows.clean, ?_, ?_⟩
      · intro other file here by_
        by_cases same : other = path
        · exact same ▸ List.mem_cons_self
        · rw [s.put_files_of_ne same] at here
          exact List.mem_cons_of_mem _ (knows.created other file here by_)
      · intro running other mem
        by_cases same : other = path
        · exact ⟨⟨record, use⟩, by rw [same, s.put_files_self], rfl⟩
        · rw [s.put_files_of_ne same]
          exact knows.held acts other ((List.mem_cons.mp mem).resolve_left same)
  | remove path =>
    cases there : s.files path with
    | some file =>
      simp only [LockDirectory.answer, there]
      refine ⟨knows.nodup.erase path, knows.clean, ?_, ?_⟩
      · intro other file' here by_
        by_cases same : other = path
        · rw [same, s.put_files_self] at here
          exact nomatch here
        · rw [s.put_files_of_ne same] at here
          exact (List.mem_erase_of_ne same).mpr (knows.created other file' here by_)
      · intro running other mem
        obtain ⟨differs, mine⟩ := knows.nodup.mem_erase_iff.mp mem
        rw [s.put_files_of_ne differs]
        exact knows.held acts other mine
    | none =>
      simp only [LockDirectory.answer, there]
      refine ⟨knows.nodup, ?_, knows.created, knows.held⟩
      show (g.lost || decide (path ∈ g.held)) = false
      rw [knows.clean, Bool.false_or, decide_eq_false (missing there)]

end Steps

/-- How the end of a use relates to what it knows: a failed acquisition leaves it holding nothing. -/
def LockEnd (_ : LockUse) : Except LockError Bool → LockKnowledge → Prop :=
  Post (fun _ _ => True) fun _ g => LockKnowledge.Holds {} [] g

/-- What each call keeps, where a reclaim removes what a process that has ended left. -/
theorem lockRules : CrewRules Running (lockSpec B roster) Signed Knows LockEnd ReclaimsEnded where
  body _ := follows_body
  outside s pid signed := by
    refine ⟨signed, fun use g knows => ⟨knows.nodup, knows.clean, knows.created, fun running => ?_⟩⟩
    refine knows.held ?_
    by_cases same : use.manager.pid = pid
    · have ended : Function.update s.ended pid true use.manager.pid = false := running
      rw [same, Function.update_self] at ended
      exact nomatch ended
    · have ended : Function.update s.ended pid true use.manager.pid = false := running
      rwa [Function.update_of_ne same] at ended
  shared _ _ _ _ _ signed _ allowed _ _ := signed.answer allowed
  own _ _ c _ now signed knows _ acts _ := knows.own signed acts c now
  other _ _ _ _ _ _ _ signed knows _ acts guarded differs knows' :=
    knows.other signed acts guarded differs knows'

/-! ## The law -/

/-- The use has been told that it created the lock file, has not removed it, and its process runs. -/
def HoldsLock (s : Locks) (use : LockUse) (path : String) : Prop :=
  Running s.shared use ∧ ∃ p g, s.live use = some (p, g) ∧ path ∈ g.held

/-- What the locks promise at every moment: one holder of each, and no file of a use whose acquisition
failed. -/
structure LockLaw (s : Locks) : Prop where
  exclusive : ∀ use use' path, HoldsLock s use path → HoldsLock s use' path → use = use'
  refused : ∀ use e g, s.live use = some (.fail e, g) →
    ∀ path file, s.shared.files path = some file → file.createdBy ≠ use

/-- What the locks promise of every step: a use deletes its own lock file, or that of a process that has
ended. -/
def SparesOthers (B : CaseBuiltins) (roster : List String) (s : Locks) (a : LockAction) : Prop :=
  ∀ path file, s.shared.files path = some file → (lockStep B roster s a).shared.files path ≠ some file →
    (∃ now, a = .advance file.createdBy now) ∨ s.shared.ended file.record.ownerPid = true

/-- The state of the uses every moment of a run has. -/
abbrev LocksSound (B : CaseBuiltins) (roster : List String) (s : Locks) : Prop :=
  CrewInvariant (lockSpec B roster) Signed Knows LockEnd s

theorem noLocks_sound : LocksSound B roster (noLocks B roster) :=
  .begin lockRules (fun _ _ there => nomatch there) fun _ =>
    ⟨List.nodup_nil, rfl, fun _ _ there => (nomatch there), fun _ _ mem => (nomatch mem)⟩

theorem LockLaw.of_sound {s : Locks} (sound : LocksSound B roster s) : LockLaw s where
  exclusive use use' path holds holds' := by
    obtain ⟨running, p, g, live, mine⟩ := holds
    obtain ⟨running', p', g', live', mine'⟩ := holds'
    obtain ⟨file, there, by_⟩ := (sound.live use p g live).1.held running path mine
    obtain ⟨file', there', by_'⟩ := (sound.live use' p' g' live').1.held running' path mine'
    obtain rfl := Option.mem_unique there there'
    exact by_.symm.trans by_'
  refused use e g live path file there by_ := by
    obtain ⟨knows, failed⟩ := sound.live use _ g live
    have mine := knows.created path file there by_
    rw [(failed knows.clean).2] at mine
    exact nomatch mine

theorem lockStep_files (B : CaseBuiltins) (roster : List String) (s : Locks) (a : LockAction) :
    (lockStep B roster s a).shared.files = s.shared.files ∨
      ∃ use now c next g, a = .advance use now ∧ Running s.shared use ∧
        s.live use = some (.call c next, g) ∧
        (lockStep B roster s a).shared = (s.shared.answer use c now).2 := by
  cases a with
  | outside pid => exact .inl rfl
  | advance use now =>
    simp only [lockStep, crewStep]
    split
    · rename_i acts
      cases live : s.live use with
      | none => exact .inl (by simp only [poolStep, live])
      | some state =>
        obtain ⟨_ | _ | ⟨c, next⟩, g⟩ := state
        · exact .inl (by simp only [poolStep, live])
        · exact .inl (by simp only [poolStep, live])
        · exact .inr ⟨use, now, c, next, g, rfl, acts, live, by simp only [poolStep, live]; rfl⟩
    · exact .inl rfl

/-- **A step spares the lock files of others exactly if it reclaims what a process that has ended
left.** -/
theorem sparesOthers_iff (s : Locks) (a : LockAction) (sound : LocksSound B roster s) :
    CrewGuard Running ReclaimsEnded s a ↔ SparesOthers B roster s a := by
  constructor
  · intro guarded path file there gone
    obtain same | ⟨use, now, c, next, g, rfl, acts, live, after⟩ := lockStep_files B roster s a
    · rw [same] at gone
      exact absurd there gone
    · have knows := (sound.live use _ g live).1
      have legal := guarded acts
      simp only [PoolGuard, live] at legal
      rw [after] at gone
      obtain ⟨other, record, rfl, free, put⟩ | ⟨other, file', rfl, there', put⟩ | put :=
        answer_cases s.shared use c now
      · have differs : path ≠ other := by
          rintro rfl
          exact nomatch free.symm.trans there
        rw [put, s.shared.put_files_of_ne differs] at gone
        exact absurd there gone
      · by_cases same : path = other
        · subst same
          by_cases mine : path ∈ g.held
          · obtain ⟨own, here, by_⟩ := knows.held acts path mine
            obtain rfl := Option.mem_unique there here
            exact .inl ⟨now, by rw [by_]⟩
          · exact .inr (legal mine file there)
        · rw [put, s.shared.put_files_of_ne same] at gone
          exact absurd there gone
      · rw [put] at gone
        exact absurd there gone
  · intro spares
    cases a with
    | outside pid => trivial
    | advance use now =>
      intro acts
      cases live : s.live use with
      | none => simp only [PoolGuard, live]
      | some state =>
        obtain ⟨_ | _ | ⟨c, next⟩, g⟩ := state
        · simp only [PoolGuard, live]
        · simp only [PoolGuard, live]
        · simp only [PoolGuard, live]
          cases c with
          | remove path =>
            intro foreign file there
            have after : (lockStep B roster s (.advance use now)).shared = s.shared.put path none := by
              simp only [lockStep, crewStep, if_pos acts, poolStep, live]
              simp only [lockSpec, LockDirectory.answer, there]
            obtain ⟨_, same⟩ | ended := spares path file there (by
              rw [after, s.shared.put_files_self]
              exact fun none => nomatch none)
            · have by_ : file.createdBy = use := (CrewAction.advance.inj same).1.symm
              exact absurd ((sound.live use _ g live).1.created path file there by_) foreign
            · exact ended
          | _ => trivial

/-- **Everything the locks promise holds throughout a run exactly if whoever reclaims a lock removes
nothing but what a process that has ended left there.** -/
theorem profileLock_iff (B : CaseBuiltins) (roster : List String) (actions : List LockAction) :
    ((∀ pre post, actions = pre ++ post → LockLaw (run (lockStep B roster) (noLocks B roster) pre)) ∧
      ∀ pre a post, actions = pre ++ a :: post →
        SparesOthers B roster (run (lockStep B roster) (noLocks B roster) pre) a) ↔
      Along (lockStep B roster) (CrewGuard Running ReclaimsEnded) (noLocks B roster) actions := by
  rw [← along_iff_split]
  constructor
  · rintro ⟨-, spares⟩
    refine along_of_invariant (I := LocksSound B roster) (fun s a sound spares => ?_)
      (fun s a sound => (sparesOthers_iff s a sound).mpr) noLocks_sound spares
    exact crewStep_invariant lockRules s a sound ((sparesOthers_iff s a sound).mpr spares)
  · intro guarded
    refine ⟨fun pre post split => ?_, ?_⟩
    · rw [split, along_append] at guarded
      exact .of_sound (crew_invariant lockRules noLocks_sound guarded.1)
    · exact along_of_invariant (I := LocksSound B roster) (crewStep_invariant lockRules)
        (fun s a sound => (sparesOthers_iff s a sound).mp) noLocks_sound guarded

/-! ## Two claimants of one stale lock -/

/-- A use of the locks for the store `S1` by a process. -/
def storeUse (pid : Int) : LockUse := ⟨⟨pid, "/locks"⟩, some "S1", 0⟩

def calls (pid : Int) (n : Nat) : List LockAction := List.replicate n (.advance (storeUse pid) 0)

/-- Process 1 ends with the global lock in its hands. Processes 2 and 3 both read and probe it; 2 reclaims
it, and then 3 removes what 2 has created. -/
def reclaimRace : List LockAction :=
  calls 1 3 ++ [.outside 1] ++ calls 2 5 ++ calls 3 5 ++ calls 2 2 ++ calls 3 2

/-- Then both hold the global lock. -/
theorem reclaimRace_shares : ¬LockLaw (run (lockStep .ascii ["S1"]) (noLocks .ascii ["S1"]) reclaimRace) := by
  intro law
  have holds (pid : Int) (two : pid = 2 ∨ pid = 3) :
      HoldsLock (run (lockStep .ascii ["S1"]) (noLocks .ascii ["S1"]) reclaimRace) (storeUse pid)
        "/locks/webapi-experiment.global.lock" := by
    have state : (run (lockStep .ascii ["S1"]) (noLocks .ascii ["S1"]) reclaimRace).shared.ended pid = false ∧
        ((run (lockStep .ascii ["S1"]) (noLocks .ascii ["S1"]) reclaimRace).live (storeUse pid)).map
          (·.2.held) = some ["/locks/webapi-experiment.global.lock"] := by
      rcases two with rfl | rfl
      · decide
      · decide
    obtain ⟨⟨p, g⟩, live, held⟩ := Option.map_eq_some_iff.mp state.2
    exact ⟨state.1, p, g, live, held ▸ List.mem_singleton_self _⟩
  have same := law.exclusive _ _ _ (holds 2 (.inl rfl)) (holds 3 (.inr rfl))
  exact absurd same (by decide)

end FullManagedBi.WebapiExperiment
