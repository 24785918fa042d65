import FullManagedBi.Server.FileCache

/-!
# What the cache of dashboard files returns

A signature of a path stands for one of its versions, and an entry never holds less than its signature says: its content
has been read at or after the version the signature is of (`SinceSignature`). A promise in the cache has not settled
(`EntrySound`). Both are kept by every step (`sound_step`), whichever load settles first. What a load returns is read off
along the run (`loadCachedJson_coherent`): a load never returns what stood in the file before a replacement it has seen,
and it fails only with the file itself, or with a read that had failed when it began and was not over.
-/

namespace FullManagedBi.Server

open Lib FileCacheState

variable {J V : Type*} {D : DashboardFiles J V} {s : FileCacheState V}

/-! ## Keys -/

theorem cacheKey_inj {namespace_ other : CacheNamespace} {file path : String}
    (same : cacheKey namespace_ file = cacheKey other path) : namespace_ = other ∧ file = path := by
  have texts := congrArg String.toList same
  simp only [cacheKey, String.toList_append] at texts
  cases namespace_ <;> cases other <;>
    simp_all [CacheNamespace.text, String.ext_iff]

/-! ## Versions -/

/-- The signature is that of a version from the `n`-th on. -/
def SignatureSince (versions : List FileVersion) (n : Nat) (signature : String) : Prop :=
  signature ∈ (versions.drop n).map (·.signature)

/-- The value is that of a version from the `n`-th on. -/
def ValueSince (D : DashboardFiles J V) (namespace_ : CacheNamespace) (versions : List FileVersion) (n : Nat)
    (value : V) : Prop :=
  ∃ version ∈ versions.drop n, D.value namespace_ version.content = some value

/-- The content has been read no earlier than the signature. -/
def SinceSignature (versions : List FileVersion) (signature content : String) : Prop :=
  ∀ n, SignatureSince versions n signature → ∃ version ∈ versions.drop n, version.content = content

variable {versions : List FileVersion}

theorem mem_drop_append {version w : FileVersion} {n : Nat}
    (mem : w ∈ (versions ++ [version]).drop n) : w ∈ versions.drop n ∨ w = version := by
  rw [List.drop_append, List.mem_append] at mem
  exact mem.imp_right fun last => List.mem_singleton.mp (List.mem_of_mem_drop last)

theorem drop_subset_append (versions : List FileVersion) (version : FileVersion) (n : Nat) :
    versions.drop n ⊆ (versions ++ [version]).drop n := by
  intro w mem
  rw [List.drop_append]
  exact List.mem_append_left _ mem

variable {version : FileVersion}

theorem getLast_mem_drop {n : Nat} (last : versions.getLast? = some version)
    (h : n < versions.length) : version ∈ versions.drop n := by
  have some_ : (versions.drop n).getLast? = some version := by
    rw [List.getLast?_drop, if_neg (by omega), last]
  exact List.mem_of_getLast? some_

variable {signature : String}

theorem signatureSince_append {n : Nat} (fresh : version.signature ∉ versions.map (·.signature))
    (seen : signature ∈ versions.map (·.signature)) :
    SignatureSince (versions ++ [version]) n signature ↔ SignatureSince versions n signature := by
  constructor
  · intro since
    obtain ⟨w, mem, rfl⟩ := List.mem_map.mp since
    obtain earlier | rfl := mem_drop_append mem
    · exact List.mem_map_of_mem earlier
    · exact absurd seen fresh
  · intro since
    obtain ⟨w, mem, rfl⟩ := List.mem_map.mp since
    exact List.mem_map_of_mem (drop_subset_append versions version n mem)

theorem SinceSignature.append {signature content : String} (fresh : version.signature ∉ versions.map (·.signature))
    (seen : signature ∈ versions.map (·.signature)) (since : SinceSignature versions signature content) :
    SinceSignature (versions ++ [version]) signature content := by
  intro n later
  obtain ⟨w, mem, rfl⟩ := since n ((signatureSince_append fresh seen).mp later)
  exact ⟨w, drop_subset_append versions version n mem, rfl⟩

theorem SinceSignature.of_getLast (signature : String) (last : versions.getLast? = some version) : SinceSignature versions signature version.content := by
  intro n since
  obtain ⟨w, mem, -⟩ := List.mem_map.mp since
  have h : n < versions.length := by
    have := List.length_pos_of_mem mem
    rw [List.length_drop] at this
    omega
  exact ⟨version, getLast_mem_drop last h, rfl⟩

/-! ## The moves of a load -/

/-- A step of a load: the phase it goes to, and the entry of its key behind it. -/
inductive Move (D : DashboardFiles J V) (s : FileCacheState V) (load : Nat) (l : CachedLoad V) :
    LoadPhase V → Option (CacheEntry V) → Prop
  | unstated (called : l.phase = .called) : Move D s load l .failed (s.cache (cacheKey l.namespace_ l.file))
  | stated (called : l.phase = .called) (version : FileVersion)
      (last : (s.versions l.file).getLast? = some version) :
      Move D s load l (.stated version.signature) (s.cache (cacheKey l.namespace_ l.file))
  | hit (signature : String) (stated : l.phase = .stated signature) (value : V)
      (entry : s.cache (cacheKey l.namespace_ l.file) = some (.value signature value)) :
      Move D s load l (.returned value) (s.cache (cacheKey l.namespace_ l.file))
  | join (signature : String) (stated : l.phase = .stated signature) (other : Nat)
      (entry : s.cache (cacheKey l.namespace_ l.file) = some (.promise signature other)) :
      Move D s load l (.waiting other) (s.cache (cacheKey l.namespace_ l.file))
  | reads (signature : String) (stated : l.phase = .stated signature) :
      Move D s load l (.reading signature) (some (.promise signature load))
  | unread (signature : String) (reading : l.phase = .reading signature) :
      Move D s load l (.read signature none) (s.cache (cacheKey l.namespace_ l.file))
  | read (signature : String) (reading : l.phase = .reading signature) (version : FileVersion)
      (last : (s.versions l.file).getLast? = some version) :
      Move D s load l (.read signature (some version.content)) (s.cache (cacheKey l.namespace_ l.file))
  | done (signature content : String) (reading : l.phase = .read signature (some content)) (value : V)
      (normal : D.value l.namespace_ content = some value) :
      Move D s load l (.returned value) (some (.value signature value))
  | fails (signature : String) (content : Option String) (reading : l.phase = .read signature content)
      (unusable : content.bind (D.value l.namespace_) = none) (entry : Option (CacheEntry V))
      (kept : entry = none ∨ entry = s.cache (cacheKey l.namespace_ l.file))
      (other : ∀ signature, entry ≠ some (.promise signature load)) :
      Move D s load l .failed entry

def moved (s : FileCacheState V) (load : Nat) (l : CachedLoad V) (phase : LoadPhase V)
    (entry : Option (CacheEntry V)) : FileCacheState V :=
  (s.setEntry (cacheKey l.namespace_ l.file) entry).setPhase load phase

theorem moved_same (s : FileCacheState V) (load : Nat) (l : CachedLoad V) (phase : LoadPhase V) :
    moved s load l phase (s.cache (cacheKey l.namespace_ l.file)) = s.setPhase load phase := by
  simp [moved, setEntry, Function.update_eq_self]

/-- **What a step does**: a file is replaced, a load begins, a load moves, or nothing happens. A step fails only where
its event says so, or where there is no file. -/
inductive Stepped (D : DashboardFiles J V) (s : FileCacheState V) : FileCacheEvent → FileCacheState V → Prop
  | same (e : FileCacheEvent) : Stepped D s e s
  | replaced (file : String) (version : FileVersion) : Stepped D s (.replace file version)
      { s with versions := Function.update s.versions file (s.versions file ++ [version]) }
  | begun (request : LoadRequest) : Stepped D s (.load request) (s.begin_ D request)
  | moves (e : FileCacheEvent) (load : Nat) (l : CachedLoad V) (found : s.loads[load]? = some l)
      (phase : LoadPhase V) (entry : Option (CacheEntry V)) (move : Move D s load l phase entry)
      (unread : (∃ signature, phase = .read signature none) ∨ (l.phase = .called ∧ phase = .failed) →
        e = .stat load true ∨ e = .read load true ∨ (s.versions l.file).getLast? = none) :
      Stepped D s e (moved s load l phase entry)

variable {load : Nat} {l : CachedLoad V}

theorem stepped_stat (found : s.loads[load]? = some l) (called : l.phase = .called) (fails : Bool) : Stepped D s (.stat load fails) (s.stat load l fails) := by
  have fails_ {e : FileCacheEvent} (why : e = .stat load true ∨ (s.versions l.file).getLast? = none) :
      Stepped D s e (s.setPhase load .failed) := by
    rw [← moved_same s load l]
    exact .moves e load l found _ _ (.unstated called) fun _ => why.imp_right .inr
  unfold FileCacheState.stat
  cases last : (s.versions l.file).getLast? with
  | none => exact fails_ (.inr last)
  | some version =>
    cases fails with
    | true => exact fails_ (.inl rfl)
    | false =>
      dsimp only
      rw [← moved_same s load l]
      refine .moves _ load l found _ _ (.stated called version last) ?_
      rintro (⟨_, h⟩ | ⟨-, h⟩) <;> cases h

theorem stepped_resume (found : s.loads[load]? = some l) (stated : l.phase = .stated signature) : Stepped D s (.resume load) (s.resume load l signature) := by
  have settles {phase : LoadPhase V} {entry : Option (CacheEntry V)} (move : Move D s load l phase entry)
      (reads : ∀ signature, phase ≠ .read signature none) :
      Stepped D s (.resume load) (moved s load l phase entry) := by
    refine .moves _ load l found _ _ move ?_
    rintro (⟨signature, h⟩ | ⟨h, -⟩)
    · exact absurd h (reads signature)
    · rw [stated] at h
      cases h
  have begins := settles (.reads signature stated) fun _ h => by cases h
  unfold FileCacheState.resume
  dsimp only
  split
  case h_1 seen value entry =>
    split
    case isTrue h =>
      rw [← moved_same s load l]
      exact settles (.hit signature stated value (h.2 ▸ entry)) fun _ h => by cases h
    case isFalse => exact begins
  case h_2 seen other entry =>
    split
    case isTrue h =>
      rw [← moved_same s load l]
      exact settles (.join signature stated other (h ▸ entry)) fun _ h => by cases h
    case isFalse => exact begins
  case h_3 => exact begins

theorem stepped_read (found : s.loads[load]? = some l) (reading : l.phase = .reading signature)
    (fails : Bool) : Stepped D s (.read load fails) (s.read load l signature fails) := by
  unfold FileCacheState.read
  rw [← moved_same s load l]
  cases fails with
  | true => exact .moves _ load l found _ _ (.unread signature reading) fun _ => .inr (.inl rfl)
  | false =>
    rw [if_neg Bool.false_ne_true]
    cases last : (s.versions l.file).getLast? with
    | none => exact .moves _ load l found _ _ (.unread signature reading) fun _ => .inr (.inr last)
    | some version =>
      refine .moves _ load l found _ _ (.read signature reading version last) ?_
      rintro (⟨_, h⟩ | ⟨-, h⟩) <;> cases h

theorem isOwnPromise_iff {entry : Option (CacheEntry V)} :
    isOwnPromise load entry = true ↔ ∃ signature, entry = some (.promise signature load) := by
  rcases entry with - | ⟨_ | ⟨signature, other⟩⟩
  · simp [isOwnPromise]
  · simp [isOwnPromise]
  · simp [isOwnPromise, eq_comm]

theorem stepped_settle {content : Option String} (found : s.loads[load]? = some l)
    (reading : l.phase = .read signature content) :
    Stepped D s (.settle load) (s.settle D load l signature content) := by
  have settles {phase : LoadPhase V} {entry : Option (CacheEntry V)} (move : Move D s load l phase entry)
      (reads : ∀ signature, phase ≠ .read signature none) :
      Stepped D s (.settle load) (moved s load l phase entry) := by
    refine .moves _ load l found _ _ move ?_
    rintro (⟨signature, h⟩ | ⟨h, -⟩)
    · exact absurd h (reads signature)
    · rw [reading] at h
      cases h
  unfold FileCacheState.settle
  dsimp only
  split
  case h_1 value normal =>
    obtain ⟨text, rfl, normal⟩ := Option.bind_eq_some_iff.mp normal
    exact settles (.done signature text reading value normal) fun _ h => by cases h
  case h_2 unusable =>
    split
    case isTrue =>
      exact settles (.fails signature content reading unusable none (.inl rfl) fun _ h => by cases h)
        fun _ h => by cases h
    case isFalse foreign =>
      rw [← moved_same s load l]
      refine settles (.fails signature content reading unusable _ (.inr rfl) fun signature own => foreign ?_)
        fun _ h => by cases h
      exact isOwnPromise_iff.mpr ⟨signature, own⟩

theorem step_stepped (D : DashboardFiles J V) (s : FileCacheState V) (e : FileCacheEvent) :
    Stepped D s e (step D s e) := by
  cases e with
  | replace file version => exact .replaced file version
  | load request => exact .begun request
  | stat load fails =>
    dsimp only [step]
    split
    case h_1 l found =>
      split
      case h_1 called => exact stepped_stat found called fails
      case h_2 => exact .same _
    case h_2 => exact .same _
  | resume load =>
    dsimp only [step]
    split
    case h_1 l found =>
      split
      case h_1 signature stated => exact stepped_resume found stated
      case h_2 => exact .same _
    case h_2 => exact .same _
  | read load fails =>
    dsimp only [step]
    split
    case h_1 l found =>
      split
      case h_1 signature reading => exact stepped_read found reading fails
      case h_2 => exact .same _
    case h_2 => exact .same _
  | settle load =>
    dsimp only [step]
    split
    case h_1 l found =>
      split
      case h_1 signature content reading => exact stepped_settle found reading
      case h_2 => exact .same _
    case h_2 => exact .same _

/-! ## What the cache and the loads know -/

/-- The promise of the load has not settled; it is of this signature. -/
def Pending (signature : String) (phase : LoadPhase V) : Prop :=
  phase = .reading signature ∨ ∃ content, phase = .read signature content

/-- The load has a promise of its own, or is over. -/
def Promised (phase : LoadPhase V) : Prop := (∃ signature, Pending signature phase) ∨ phase.settled.isSome

def PhaseSound (s : FileCacheState V) (l : CachedLoad V) : LoadPhase V → Prop
  | .stated signature | .reading signature => signature ∈ (s.versions l.file).map (·.signature)
  | .read signature content => signature ∈ (s.versions l.file).map (·.signature) ∧
      ∀ text, content = some text → SinceSignature (s.versions l.file) signature text
  | .waiting other => ∃ o, s.loads[other]? = some o ∧ o.file = l.file ∧ o.namespace_ = l.namespace_ ∧
      Promised o.phase
  | _ => True

def EntrySound (D : DashboardFiles J V) (s : FileCacheState V) (namespace_ : CacheNamespace) (file : String) :
    CacheEntry V → Prop
  | .value signature value => signature ∈ (s.versions file).map (·.signature) ∧
      ∀ n, SignatureSince (s.versions file) n signature → ValueSince D namespace_ (s.versions file) n value
  | .promise signature load => ∃ o, s.loads[load]? = some o ∧ o.file = file ∧ o.namespace_ = namespace_ ∧
      Pending signature o.phase

structure Sound (D : DashboardFiles J V) (s : FileCacheState V) : Prop where
  phases : ∀ (load : Nat) (l : CachedLoad V), s.loads[load]? = some l → PhaseSound s l l.phase
  entries : ∀ (namespace_ : CacheNamespace) (file : String) (entry : CacheEntry V),
    s.cache (cacheKey namespace_ file) = some entry → EntrySound D s namespace_ file entry

theorem Pending.promised {phase : LoadPhase V} (pending : Pending signature phase) :
    Promised phase := .inl ⟨signature, pending⟩

/-- The loads go on: each keeps its file, and its promise. -/
def LoadsKept (s t : FileCacheState V) : Prop :=
  ∀ (load : Nat) (o : CachedLoad V), s.loads[load]? = some o → ∃ o', t.loads[load]? = some o' ∧ o'.file = o.file ∧
    o'.namespace_ = o.namespace_ ∧ (Promised o.phase → Promised o'.phase)

theorem PhaseSound.kept {t : FileCacheState V} {l l' : CachedLoad V} {phase : LoadPhase V} (kept : LoadsKept s t)
    (versions : t.versions = s.versions) (file : l'.file = l.file) (name : l'.namespace_ = l.namespace_)
    (sound : PhaseSound s l phase) : PhaseSound t l' phase := by
  cases phase with
  | waiting other =>
    obtain ⟨o, found, sameFile, sameName, promised⟩ := sound
    obtain ⟨o', found', file', name', promised'⟩ := kept other o found
    exact ⟨o', found', by rw [file', sameFile, file], by rw [name', sameName, name], promised' promised⟩
  | stated signature | reading signature | read signature content =>
    simpa only [PhaseSound, versions, file] using sound
  | _ => trivial

/-! ### A file is replaced -/

theorem sound_replaced {file : String}
    (fresh : version.signature ∉ (s.versions file).map (·.signature)) (sound : Sound D s) :
    Sound D { s with versions := Function.update s.versions file (s.versions file ++ [version]) } := by
  have seen {path signature : String} (mem : signature ∈ (s.versions path).map (·.signature)) :
      signature ∈ (Function.update s.versions file (s.versions file ++ [version]) path).map (·.signature) := by
    by_cases same : path = file
    · subst same
      rw [Function.update_self, List.map_append]
      exact List.mem_append_left _ mem
    · rwa [Function.update_of_ne same]
  have later {path signature text : String} (mem : signature ∈ (s.versions path).map (·.signature))
      (since : SinceSignature (s.versions path) signature text) :
      SinceSignature (Function.update s.versions file (s.versions file ++ [version]) path) signature text := by
    by_cases same : path = file
    · subst same
      rw [Function.update_self]
      exact since.append fresh mem
    · rwa [Function.update_of_ne same]
  constructor
  · intro load l found
    have before := sound.phases load l found
    generalize l.phase = phase at before ⊢
    cases phase with
    | stated signature => exact seen before
    | reading signature => exact seen before
    | read signature content => exact ⟨seen before.1, fun text some_ => later before.1 (before.2 text some_)⟩
    | waiting other => exact before
    | _ => trivial
  · intro namespace_ path entry found
    have before := sound.entries namespace_ path entry found
    cases entry with
    | promise signature load => exact before
    | value signature value =>
      refine ⟨seen before.1, ?_⟩
      by_cases same : path = file
      · subst same
        simp only [Function.update_self]
        intro n since
        obtain ⟨w, mem, normal⟩ := before.2 n ((signatureSince_append fresh before.1).mp since)
        exact ⟨w, drop_subset_append _ version n mem, normal⟩
      · simpa only [Function.update_of_ne same] using before.2

/-! ### A load begins -/

theorem found_append {loads : List (CachedLoad V)} {l o : CachedLoad V}
    (found : (loads ++ [l])[load]? = some o) : loads[load]? = some o ∨ o = l := by
  by_cases bound : load < loads.length
  · rw [List.getElem?_append_left bound] at found
    exact .inl found
  · rw [List.getElem?_append_right (by omega)] at found
    exact .inr (List.mem_singleton.mp (List.mem_of_getElem? found))

theorem loadsKept_append (s : FileCacheState V) (l : CachedLoad V) :
    LoadsKept s { s with loads := s.loads ++ [l] } := by
  intro load o found
  refine ⟨o, ?_, rfl, rfl, id⟩
  have bound : load < s.loads.length := (List.getElem?_eq_some_iff.mp found).1
  simpa only [List.getElem?_append_left bound] using found

theorem begin_loads (s : FileCacheState V) (D : DashboardFiles J V) (request : LoadRequest) :
    ∃ l, s.begin_ D request = { s with loads := s.loads ++ [l] } ∧ (l.phase = .called ∨ l.phase = .failed) := by
  unfold FileCacheState.begin_
  cases D.selectedFile request with
  | ok file => exact ⟨_, rfl, .inl rfl⟩
  | error e => exact ⟨_, rfl, .inr rfl⟩

theorem sound_begun (request : LoadRequest) (sound : Sound D s) : Sound D (s.begin_ D request) := by
  obtain ⟨l, eq, start⟩ := begin_loads s D request
  rw [eq]
  have kept := loadsKept_append s l
  constructor
  · intro load o found
    obtain earlier | rfl := found_append found
    · exact (sound.phases load o earlier).kept kept rfl rfl rfl
    · obtain called | failed := start
      · simp only [called, PhaseSound]
      · simp only [failed, PhaseSound]
  · intro namespace_ file entry found
    have before := sound.entries namespace_ file entry found
    cases entry with
    | value signature value => exact before
    | promise signature load =>
      obtain ⟨o, mem, same⟩ := before
      have bound : load < s.loads.length := (List.getElem?_eq_some_iff.mp mem).1
      exact ⟨o, by simpa only [List.getElem?_append_left bound] using mem, same⟩

/-! ### A load moves -/

section Moves

variable {load : Nat} {l : CachedLoad V} {phase : LoadPhase V} {entry : Option (CacheEntry V)}

theorem moved_loads_self (found : s.loads[load]? = some l) :
    (moved s load l phase entry).loads[load]? = some { l with phase } := by
  simp [moved, setPhase, setEntry, found]

theorem moved_loads_of_ne {other : Nat} (h : load ≠ other) :
    (moved s load l phase entry).loads[other]? = s.loads[other]? := by
  simp [moved, setPhase, setEntry, h]

theorem moved_cache_self : (moved s load l phase entry).cache (cacheKey l.namespace_ l.file) = entry := by
  simp [moved, setPhase, setEntry]

theorem moved_cache_of_ne {key : String} (h : key ≠ cacheKey l.namespace_ l.file) :
    (moved s load l phase entry).cache key = s.cache key := by
  simp [moved, setPhase, setEntry, h]

theorem Move.promised (move : Move D s load l phase entry) (before : Promised l.phase) : Promised phase := by
  cases move with
  | unstated called | hit _ called | join _ called | reads _ called | stated called =>
    rw [called] at before
    obtain ⟨_, h | ⟨_, h⟩⟩ | h := before <;> cases h
  | unread signature | read signature => exact Pending.promised (.inr ⟨_, rfl⟩)
  | done | fails => exact .inr rfl

theorem loadsKept_moved (found : s.loads[load]? = some l) (move : Move D s load l phase entry) :
    LoadsKept s (moved s load l phase entry) := by
  intro other o mem
  by_cases same : load = other
  · subst same
    obtain rfl : l = o := Option.mem_unique found mem
    exact ⟨_, moved_loads_self found, rfl, rfl, move.promised⟩
  · exact ⟨o, (moved_loads_of_ne same).trans mem, rfl, rfl, id⟩

theorem Move.phaseSound (found : s.loads[load]? = some l) (move : Move D s load l phase entry)
    (sound : Sound D s) : PhaseSound s l phase := by
  have before := sound.phases load l found
  cases move with
  | unstated | hit | done | fails => trivial
  | stated called version last => exact List.mem_map_of_mem (List.mem_of_getLast? last)
  | join signature stated other held =>
    obtain ⟨o, mem, file, name, pending⟩ := sound.entries _ _ _ held
    exact ⟨o, mem, file, name, pending.promised⟩
  | reads signature stated =>
    rw [stated] at before
    exact before
  | unread signature reading =>
    rw [reading] at before
    exact ⟨before, fun text h => by cases h⟩
  | read signature reading version last =>
    rw [reading] at before
    refine ⟨before, fun text h => ?_⟩
    obtain rfl := Option.some.inj h
    exact SinceSignature.of_getLast signature last

theorem EntrySound.moved {namespace_ : CacheNamespace} {file : String} {held : CacheEntry V}
    (found : s.loads[load]? = some l) (sound : EntrySound D s namespace_ file held)
    (own : ∀ signature, held = .promise signature load → Pending signature l.phase → Pending signature phase) :
    EntrySound D (moved s load l phase entry) namespace_ file held := by
  cases held with
  | value signature value => exact sound
  | promise signature other =>
    obtain ⟨o, mem, sameFile, sameName, pending⟩ := sound
    by_cases same : load = other
    · subst same
      obtain rfl : l = o := Option.mem_unique found mem
      exact ⟨_, moved_loads_self found, sameFile, sameName, own signature rfl pending⟩
    · exact ⟨o, (moved_loads_of_ne same).trans mem, sameFile, sameName, pending⟩

theorem Move.entrySound {held : CacheEntry V} (found : s.loads[load]? = some l)
    (move : Move D s load l phase entry) (sound : Sound D s) (some_ : entry = some held) :
    EntrySound D (moved s load l phase entry) l.namespace_ l.file held := by
  have kept (h : s.cache (cacheKey l.namespace_ l.file) = some held)
      (own : ∀ signature, held = .promise signature load → Pending signature l.phase → Pending signature phase) :=
    show EntrySound D (moved s load l phase entry) l.namespace_ l.file held from
      EntrySound.moved found (sound.entries _ _ held h) own
  cases move with
  | unstated called | stated called | hit _ called | join _ called =>
    refine kept some_ fun signature _ pending => ?_
    rw [called] at pending
    obtain h | ⟨_, h⟩ := pending <;> cases h
  | reads signature stated =>
    obtain rfl := Option.some.inj some_
    exact ⟨_, moved_loads_self found, rfl, rfl, .inl rfl⟩
  | unread signature reading | read signature reading =>
    refine kept some_ fun other _ pending => ?_
    rw [reading] at pending
    obtain h | ⟨_, h⟩ := pending
    · cases h
      exact .inr ⟨_, rfl⟩
    · cases h
  | done signature content reading value normal =>
    obtain rfl := Option.some.inj some_
    have before := sound.phases load l found
    rw [reading] at before
    refine ⟨before.1, fun n since => ?_⟩
    obtain ⟨version, mem, rfl⟩ := before.2 content rfl n since
    exact ⟨version, mem, normal⟩
  | fails signature content reading unusable _ same other =>
    obtain rfl | same := same
    · cases some_
    · refine kept (same ▸ some_) fun signature own _ => ?_
      exact absurd (some_.trans (congrArg some own)) (other signature)

theorem sound_moved (found : s.loads[load]? = some l) (move : Move D s load l phase entry) (sound : Sound D s) :
    Sound D (moved s load l phase entry) := by
  have kept := loadsKept_moved found move
  constructor
  · intro other o mem
    by_cases same : load = other
    · subst same
      obtain rfl := Option.mem_unique (moved_loads_self found) mem
      exact (move.phaseSound found sound).kept kept rfl rfl rfl
    · rw [moved_loads_of_ne same] at mem
      exact (sound.phases other o mem).kept kept rfl rfl rfl
  · intro namespace_ file held mem
    by_cases same : cacheKey namespace_ file = cacheKey l.namespace_ l.file
    · obtain ⟨rfl, rfl⟩ := cacheKey_inj same
      exact move.entrySound found sound (moved_cache_self.symm.trans mem)
    · rw [moved_cache_of_ne same] at mem
      have before := sound.entries _ _ held mem
      refine EntrySound.moved found before fun signature own _ => ?_
      subst own
      obtain ⟨o, there, rfl, rfl, -⟩ := before
      obtain rfl : l = o := Option.mem_unique found there
      exact absurd rfl same

end Moves

/-- **Every step keeps the cache sound.** -/
theorem sound_step (sound : Sound D s) (e : FileCacheEvent) (fresh : FreshSignature s e) : Sound D (step D s e) := by
  have stepped := step_stepped D s e
  generalize step D s e = t at stepped
  cases stepped with
  | same => exact sound
  | replaced file version => exact sound_replaced fresh sound
  | begun request => exact sound_begun request sound
  | moves _ load l found phase entry move => exact sound_moved found move sound

theorem sound_initial : Sound D ({} : FileCacheState V) :=
  ⟨fun load l found => by simp at found, fun namespace_ file entry found => by cases found⟩

/-! ## What a load returns -/

/-- What the load knows, and what it returns, is of a version from the `n`-th on. -/
def PhaseSince (D : DashboardFiles J V) (versions : List FileVersion) (namespace_ : CacheNamespace) (n : Nat) :
    LoadPhase V → Prop
  | .stated signature | .reading signature | .read signature _ => SignatureSince versions n signature
  | .returned value => ValueSince D namespace_ versions n value
  | _ => True

variable {namespace_ : CacheNamespace} {phase : LoadPhase V}

theorem PhaseSince.mono {versions later : List FileVersion} {n : Nat}
    (subset : versions.drop n ⊆ later.drop n) (since : PhaseSince D versions namespace_ n phase) : PhaseSince D later namespace_ n phase := by
  cases phase with
  | stated signature | reading signature | read signature content => exact List.map_subset _ subset since
  | returned value =>
    obtain ⟨version, mem, normal⟩ := since
    exact ⟨version, subset mem, normal⟩
  | _ => trivial

theorem Pending.since {versions : List FileVersion} {n : Nat} {signature : String}
    (pending : Pending signature phase) (since : SignatureSince versions n signature) :
    PhaseSince D versions namespace_ n phase := by
  obtain rfl | ⟨content, rfl⟩ := pending <;> exact since

variable {l : CachedLoad V} {entry : Option (CacheEntry V)}

theorem Move.since {load n : Nat} (found : s.loads[load]? = some l)
    (move : Move D s load l phase entry) (sound : Sound D s) (there : n < (s.versions l.file).length)
    (before : PhaseSince D (s.versions l.file) l.namespace_ n l.phase) :
    PhaseSince D (s.versions l.file) l.namespace_ n phase := by
  have known := sound.phases load l found
  cases move with
  | unstated | join | fails => trivial
  | stated called version last => exact List.mem_map_of_mem (getLast_mem_drop last there)
  | hit signature stated value held =>
    rw [stated] at before
    exact (sound.entries _ _ _ held).2 n before
  | reads signature at_ | unread signature at_ | read signature at_ =>
    rw [at_] at before
    exact before
  | done signature content reading value normal =>
    rw [reading] at before known
    obtain ⟨version, mem, rfl⟩ := known.2 content rfl n before
    exact ⟨version, mem, normal⟩

/-- A load of the file that knows of the `n`-th version, and so does the load it waits for. -/
structure LoadSince (D : DashboardFiles J V) (s : FileCacheState V) (load : Nat) (file : String)
    (namespace_ : CacheNamespace) (n : Nat) : Prop where
  there : n < (s.versions file).length
  own : ∃ l, s.loads[load]? = some l ∧ l.file = file ∧ l.namespace_ = namespace_ ∧
    PhaseSince D (s.versions file) namespace_ n l.phase ∧
    ∀ other, l.phase = .waiting other →
      ∃ o, s.loads[other]? = some o ∧ PhaseSince D (s.versions file) namespace_ n o.phase

variable {file : String}

theorem loadSince_step {load n : Nat} (sound : Sound D s)
    (since : LoadSince D s load file namespace_ n) (e : FileCacheEvent) :
    LoadSince D (step D s e) load file namespace_ n := by
  have stepped := step_stepped D s e
  generalize step D s e = t at stepped
  obtain ⟨there, l, found, rfl, rfl, knows, waits⟩ := since
  cases stepped with
  | same => exact ⟨there, l, found, rfl, rfl, knows, waits⟩
  | replaced path version =>
    have grown : (s.versions l.file).length ≤
        (Function.update s.versions path (s.versions path ++ [version]) l.file).length ∧
        (s.versions l.file).drop n ⊆
          (Function.update s.versions path (s.versions path ++ [version]) l.file).drop n := by
      by_cases same : l.file = path
      · rw [← same, Function.update_self, List.length_append]
        exact ⟨Nat.le_add_right _ _, drop_subset_append _ version n⟩
      · rw [Function.update_of_ne same]
        exact ⟨Nat.le_refl _, List.Subset.refl _⟩
    refine ⟨by dsimp only; omega, l, found, rfl, rfl, knows.mono grown.2, fun other waiting => ?_⟩
    obtain ⟨o, mem, oknows⟩ := waits other waiting
    exact ⟨o, mem, oknows.mono grown.2⟩
  | begun request =>
    obtain ⟨fresh, eq, -⟩ := begin_loads s D request
    rw [eq]
    have still {other : Nat} {o : CachedLoad V} (mem : s.loads[other]? = some o) :
        (s.loads ++ [fresh])[other]? = some o := by
      rwa [List.getElem?_append_left (List.getElem?_eq_some_iff.mp mem).1]
    refine ⟨there, l, still found, rfl, rfl, knows, fun other waiting => ?_⟩
    obtain ⟨o, mem, oknows⟩ := waits other waiting
    exact ⟨o, still mem, oknows⟩
  | moves _ mover m there_ phase entry move =>
    by_cases own : mover = load
    · subst own
      obtain rfl : m = l := Option.mem_unique there_ found
      have next := move.since found sound there knows
      refine ⟨there, _, moved_loads_self found, rfl, rfl, next, ?_⟩
      rintro other rfl
      -- It has begun to wait: the entry it waits for has the signature it knows.
      cases move with
      | join signature stated _ held =>
        obtain ⟨o, mem, -, -, pending⟩ := sound.entries _ _ _ held
        have apart : mover ≠ other := by
          rintro rfl
          obtain rfl := Option.mem_unique found mem
          rw [stated] at pending
          obtain h | ⟨_, h⟩ := pending <;> cases h
        rw [stated] at knows
        exact ⟨o, (moved_loads_of_ne apart).trans mem, pending.since knows⟩
    · refine ⟨there, l, (moved_loads_of_ne own).trans found, rfl, rfl, knows, fun other waiting => ?_⟩
      obtain ⟨o, mem, oknows⟩ := waits other waiting
      by_cases it : mover = other
      · subst it
        obtain rfl : m = o := Option.mem_unique there_ mem
        have known := sound.phases load l found
        rw [waiting] at known
        obtain ⟨o', mem', file, name, -⟩ := known
        obtain rfl : m = o' := Option.mem_unique there_ mem'
        have next := move.since there_ sound (by rwa [file]) (by rwa [file, name])
        rw [file, name] at next
        exact ⟨_, moved_loads_self there_, next⟩
      · exact ⟨o, (moved_loads_of_ne it).trans mem, oknows⟩

/-- What such a load returns is the content of a version from the `n`-th on. -/
theorem LoadSince.outcome {load n : Nat} {value : V} (since : LoadSince D s load file namespace_ n)
    (returns : s.outcome load = some (some value)) : ValueSince D namespace_ (s.versions file) n value := by
  have of_settled {phase : LoadPhase V} (settled : phase.settled = some (some value))
      (knows : PhaseSince D (s.versions file) namespace_ n phase) :
      ValueSince D namespace_ (s.versions file) n value := by
    cases phase <;> simp only [LoadPhase.settled, Option.some.injEq, reduceCtorEq] at settled
    subst settled
    exact knows
  obtain ⟨-, l, found, rfl, rfl, knows, waits⟩ := since
  have at_ : s.phase load = some l.phase := by rw [FileCacheState.phase, found, Option.map_some]
  unfold FileCacheState.outcome at returns
  rw [at_] at returns
  split at returns
  case h_1 other waiting =>
    obtain ⟨o, mem, oknows⟩ := waits other (Option.some.inj waiting)
    rw [FileCacheState.phase, mem, Option.map_some, Option.bind_some] at returns
    exact of_settled returns oknows
  case h_2 => exact of_settled (Option.some.inj ‹_› ▸ returns) knows
  case h_3 => cases returns

/-! ## When a load fails -/

/-- The load has read nothing that it can return, and is not over. -/
def FailingRead (D : DashboardFiles J V) (s : FileCacheState V) (load : Nat) : Prop :=
  ∃ l, s.loads[load]? = some l ∧ ∃ signature content, l.phase = .read signature content ∧
    content.bind (D.value l.namespace_) = none

/-- The file can be read. What of its loads has failed, or reads what fails, is among `bad`, and so is what the load
waits for in vain. -/
structure Recovering (D : DashboardFiles J V) (bad : Nat → Prop) (s : FileCacheState V) (load : Nat) (file : String)
    (namespace_ : CacheNamespace) : Prop where
  readable : ∃ version, (s.versions file).getLast? = some version ∧ (D.value namespace_ version.content).isSome
  reads : ∀ (other : Nat) (o : CachedLoad V), s.loads[other]? = some o → o.file = file → o.namespace_ = namespace_ →
    FailingRead D s other → bad other
  own : ∃ l, s.loads[load]? = some l ∧ l.file = file ∧ l.namespace_ = namespace_ ∧ l.phase ≠ .failed ∧
    ∀ other, l.phase = .waiting other → bad other ∨ s.phase other ≠ some .failed

variable {bad : Nat → Prop} {load : Nat}

/-- Where the file can be read, a load fails only with what it has read, and reads nothing that fails. -/
theorem Move.readable (move : Move D s load l phase entry) (found : s.loads[load]? = some l)
    (reads : FailingRead D s load → bad load) (readable : ∃ version, (s.versions l.file).getLast? = some version ∧
      (D.value l.namespace_ version.content).isSome)
    (read : ¬((∃ signature, phase = .read signature none) ∨ (l.phase = .called ∧ phase = .failed))) :
    (phase = .failed → bad load) ∧
    (∀ signature content, phase = .read signature content → content.bind (D.value l.namespace_) ≠ none) := by
  constructor
  · rintro rfl
    cases move with
    | unstated called => exact absurd (.inr ⟨called, rfl⟩) read
    | fails signature content reading unusable => exact reads ⟨l, found, signature, content, reading, unusable⟩
  · rintro signature content rfl unusable
    cases move with
    | unread => exact read (.inl ⟨signature, rfl⟩)
    | read _ reading version last =>
      obtain ⟨w, last', normal⟩ := readable
      obtain rfl := Option.mem_unique last last'
      rw [Option.bind_some] at unusable
      rw [unusable] at normal
      cases normal

theorem phase_eq (found : s.loads[load]? = some l) : s.phase load = some l.phase := by
  rw [FileCacheState.phase, found, Option.map_some]

theorem FailingRead.of_phase {t : FileCacheState V} (same : t.loads[load]? = s.loads[load]?)
    (failing : FailingRead D t load) : FailingRead D s load := by
  obtain ⟨l, found, reads⟩ := failing
  exact ⟨l, same ▸ found, reads⟩

theorem recovering_replaced {file path : String} {version : FileVersion}
    (recovering : Recovering D bad s load file namespace_)
    (normal : path = file → (D.value namespace_ version.content).isSome) :
    Recovering D bad { s with versions := Function.update s.versions path (s.versions path ++ [version]) } load file
      namespace_ := by
  refine ⟨?_, recovering.reads, recovering.own⟩
  by_cases same : path = file
  · subst same
    exact ⟨version, by simp, normal rfl⟩
  · simpa only [Function.update_of_ne (Ne.symm same)] using recovering.readable

theorem recovering_begun (sound : Sound D s) (recovering : Recovering D bad s load file namespace_)
    (request : LoadRequest) : Recovering D bad (s.begin_ D request) load file namespace_ := by
  obtain ⟨fresh, eq, start⟩ := begin_loads s D request
  rw [eq]
  have still {other : Nat} (bound : other < s.loads.length) :
      (s.loads ++ [fresh])[other]? = s.loads[other]? := List.getElem?_append_left bound
  obtain ⟨readable, reads, l, found, sameFile, sameName, phase, waits⟩ := recovering
  refine ⟨readable, fun other o mem file name failing => ?_, l, ?_, sameFile, sameName, phase, ?_⟩
  · by_cases bound : other < s.loads.length
    · exact reads other o ((still bound).symm.trans mem) file name (failing.of_phase (still bound))
    · obtain ⟨o', mem', signature, content, reading, -⟩ := failing
      rw [List.getElem?_append_right (by omega)] at mem'
      obtain rfl := List.mem_singleton.mp (List.mem_of_getElem? mem')
      rw [reading] at start
      obtain h | h := start <;> cases h
  · exact (still (List.getElem?_eq_some_iff.mp found).1).trans found
  · intro other waiting
    have known := sound.phases load l found
    rw [waiting] at known
    obtain ⟨o, mem, -⟩ := known
    refine (waits other waiting).imp_right fun alive failed => alive ?_
    unfold FileCacheState.phase at failed ⊢
    rwa [still (List.getElem?_eq_some_iff.mp mem).1] at failed

theorem recovering_moved {load mover : Nat} {m : CachedLoad V} (sound : Sound D s)
    (recovering : Recovering D bad s load file namespace_) (good : ¬bad load)
    (there : s.loads[mover]? = some m) (move : Move D s mover m phase entry) (read : m.file = file →
      ¬((∃ signature, phase = .read signature none) ∨ (m.phase = .called ∧ phase = .failed))) :
    Recovering D bad (moved s mover m phase entry) load file namespace_ := by
  obtain ⟨readable, reads, l, found, rfl, rfl, alive, waits⟩ := recovering
  have moves (sameFile : m.file = l.file) (sameName : m.namespace_ = l.namespace_) :=
    move.readable there (reads mover m there sameFile sameName) (by rwa [sameFile, sameName]) (read sameFile)
  refine ⟨readable, ?_, ?_⟩
  · rintro other o mem file name ⟨o', mem', signature, content, reading, unusable⟩
    obtain rfl : o = o' := Option.mem_unique mem mem'
    by_cases it : mover = other
    · subst it
      obtain rfl := Option.mem_unique (moved_loads_self there) mem
      exact absurd unusable ((moves file name).2 signature content reading)
    · rw [moved_loads_of_ne it] at mem
      exact reads other o mem file name ⟨o, mem, signature, content, reading, unusable⟩
  by_cases own : mover = load
  · subst own
    obtain rfl : m = l := Option.mem_unique there found
    refine ⟨_, moved_loads_self found, rfl, rfl, fun failed => good ((moves rfl rfl).1 failed), ?_⟩
    rintro other rfl
    cases move with
    | join signature stated _ held =>
      obtain ⟨o, mem, -, -, pending⟩ := sound.entries _ _ _ held
      have apart : mover ≠ other := by
        rintro rfl
        obtain rfl := Option.mem_unique found mem
        rw [stated] at pending
        obtain h | ⟨_, h⟩ := pending <;> cases h
      refine .inr fun failed => ?_
      rw [phase_eq ((moved_loads_of_ne apart).trans mem)] at failed
      rw [Option.some.inj failed] at pending
      obtain h | ⟨_, h⟩ := pending <;> cases h
  · refine ⟨l, (moved_loads_of_ne own).trans found, rfl, rfl, alive, fun other waiting => ?_⟩
    have known := sound.phases load l found
    rw [waiting] at known
    obtain ⟨o, mem, file, name, -⟩ := known
    by_cases it : mover = other
    · subst it
      obtain rfl : m = o := Option.mem_unique there mem
      by_cases failed : phase = .failed
      · exact .inl ((moves file name).1 failed)
      · rw [phase_eq (moved_loads_self there)]
        exact .inr fun h => failed (Option.some.inj h)
    · refine (waits other waiting).imp_right fun still => ?_
      unfold FileCacheState.phase at still ⊢
      rwa [moved_loads_of_ne it]

theorem recovering_step (sound : Sound D s) (recovering : Recovering D bad s load file namespace_)
    (good : ¬bad load) (e : FileCacheEvent) (readable : Readable D namespace_ file s e) :
    Recovering D bad (step D s e) load file namespace_ := by
  have stepped := step_stepped D s e
  generalize step D s e = t at stepped
  cases stepped with
  | same => exact recovering
  | replaced path version => exact recovering_replaced recovering readable
  | begun request => exact recovering_begun sound recovering request
  | moves _ mover m there phase entry move unread =>
    refine recovering_moved sound recovering good there move fun same failing => ?_
    obtain ⟨version, last, -⟩ := recovering.readable
    obtain rfl | rfl | missing := unread failing
    · exact Bool.noConfusion (readable ⟨m, there, same⟩)
    · exact Bool.noConfusion (readable ⟨m, there, same⟩)
    · rw [same, last] at missing
      cases missing

theorem Recovering.outcome (recovering : Recovering D bad s load file namespace_)
    (fails : s.outcome load = some none) : ∃ other, s.phase load = some (.waiting other) ∧ bad other := by
  have of_settled {phase : LoadPhase V} (settled : phase.settled = some none) : phase = .failed := by
    cases phase <;> simp only [LoadPhase.settled, Option.some.injEq, reduceCtorEq] at settled
    rfl
  obtain ⟨-, -, l, found, -, -, alive, waits⟩ := recovering
  unfold FileCacheState.outcome at fails
  rw [phase_eq found] at fails ⊢
  split at fails
  case h_1 other waiting =>
    have waiting := Option.some.inj waiting
    refine ⟨other, congrArg some waiting, (waits other waiting).resolve_right fun still => still ?_⟩
    obtain ⟨phase, at_, settled⟩ := Option.bind_eq_some_iff.mp fails
    rw [at_, of_settled settled]
  case h_2 => exact absurd (of_settled (Option.some.inj ‹_› ▸ fails)) alive
  case h_3 => cases fails

/-! ## Whole runs -/

variable {es : List FileCacheEvent}

theorem sound_run (sound : Sound D s) (fresh : Along (step D) FreshSignature s es) : Sound D (run (step D) s es) :=
  run_invariant_along (I := Sound D) (fun _ e sound fresh => sound_step sound e fresh) sound fresh

/-- A load that has begun with the file at its `n`-th version or later. -/
theorem loadSince_run {load n : Nat} (sound : Sound D s)
    (since : LoadSince D s load file namespace_ n) (fresh : Along (step D) FreshSignature s es) : LoadSince D (run (step D) s es) load file namespace_ n := by
  have both := run_invariant_along (I := fun s => Sound D s ∧ LoadSince D s load file namespace_ n)
    (fun s e ⟨sound, since⟩ fresh => ⟨sound_step sound e fresh, loadSince_step sound since e⟩) ⟨sound, since⟩ fresh
  exact both.2

theorem recovering_run (good : ¬bad load) (sound : Sound D s) (recovering : Recovering D bad s load file namespace_)
    (fresh : Along (step D) FreshSignature s es) (readable : Along (step D) (Readable D namespace_ file) s es) :
    Recovering D bad (run (step D) s es) load file namespace_ := by
  induction es generalizing s with
  | nil => exact recovering
  | cons e es ih =>
    exact ih (sound_step sound e fresh.1) (recovering_step sound recovering good e readable.1) fresh.2 readable.2

variable {request : LoadRequest}

theorem step_load (selects : D.selectedFile request = .ok file) : step D s (.load request) =
      { s with loads := s.loads ++ [⟨file, request.namespace_, request.forceRefresh, .called⟩] } := by
  simp only [step, begin_, selects]

theorem loadSince_begin {n : Nat} (selects : D.selectedFile request = .ok file)
    (there : n < (s.versions file).length) :
    LoadSince D (step D s (.load request)) s.loads.length file request.namespace_ n := by
  rw [step_load selects]
  refine ⟨there, _, List.getElem?_concat_length, rfl, rfl, trivial, ?_⟩
  intro other h
  cases h

theorem recovering_begin {version : FileVersion} (selects : D.selectedFile request = .ok file)
    (last : (s.versions file).getLast? = some version) (normal : (D.value request.namespace_ version.content).isSome) :
    Recovering D (FailingRead D s) (step D s (.load request)) s.loads.length file request.namespace_ := by
  rw [step_load selects]
  refine ⟨⟨version, last, normal⟩, ?_, _, List.getElem?_concat_length, rfl, rfl, nofun, nofun⟩
  rintro other o mem - - ⟨o', mem', signature, content, reading, unusable⟩
  obtain earlier | rfl := found_append mem'
  · exact ⟨o', earlier, signature, content, reading, unusable⟩
  · cases reading

/-- **The cache is coherent.** Loads, failures and replacements with new signatures take their steps in any order. A load
that begins when the file has its `n`-th version returns no content older than that; a promise in the cache has not
settled, so a load that has failed is in no entry; and where the file can be read from the beginning of the load on, the
load fails only with a promise that had failed to read by then, and had not settled. -/
theorem loadCachedJson_coherent (D : DashboardFiles J V) (pre post : List FileCacheEvent) (request : LoadRequest)
    (file : String) (selects : D.selectedFile request = .ok file)
    (fresh : Along (step D) FreshSignature {} (pre ++ .load request :: post)) :
    let before := run (step D) {} pre
    let load := before.loads.length
    let after := run (step D) {} (pre ++ .load request :: post)
    (∀ n < (before.versions file).length, ∀ value, after.outcome load = some (some value) →
      ∃ version ∈ (after.versions file).drop n, D.value request.namespace_ version.content = some value) ∧
    (∀ namespace_ path signature other,
      after.cache (cacheKey namespace_ path) = some (.promise signature other) →
      after.outcome other = none ∧ ∃ phase, after.phase other = some phase ∧ Pending signature phase) ∧
    (∀ version, (before.versions file).getLast? = some version →
      (D.value request.namespace_ version.content).isSome →
      Along (step D) (Readable D request.namespace_ file) (step D before (.load request)) post →
      after.outcome load = some none →
      ∃ other, after.phase load = some (.waiting other) ∧ FailingRead D before other) := by
  intro before load after
  have fresh := (along_append _ _ _).mp fresh
  have earlier : Sound D before := sound_run sound_initial fresh.1
  have begun : Sound D (step D before (.load request)) := sound_step earlier _ fresh.2.1
  have split : after = run (step D) (step D before (.load request)) post := by
    simp only [after, before, run_append, run_cons]
  have sound : Sound D after := split ▸ sound_run begun fresh.2.2
  refine ⟨fun n there value returns => ?_, fun namespace_ path signature other held => ?_, ?_⟩
  · have since : LoadSince D after load file request.namespace_ n :=
      split ▸ loadSince_run begun (loadSince_begin selects there) fresh.2.2
    exact since.outcome returns
  · obtain ⟨o, mem, -, -, pending⟩ := sound.entries _ _ _ held
    refine ⟨?_, o.phase, phase_eq mem, pending⟩
    unfold FileCacheState.outcome
    rw [phase_eq mem]
    obtain reading | ⟨content, reading⟩ := pending <;> rw [reading] <;> rfl
  · intro version last normal readable fails
    have good : ¬FailingRead D before load := by
      rintro ⟨l, mem, -⟩
      rw [List.getElem?_eq_none (Nat.le_refl _)] at mem
      cases mem
    have recovering : Recovering D (FailingRead D before) after load file request.namespace_ :=
      split ▸ recovering_run good begun (recovering_begin selects last normal) fresh.2.2 readable
    exact recovering.outcome fails

/-- Files that hold a text, which is not empty. -/
def textFiles : DashboardFiles String String where
  case := .ascii
  defaultFile := "dashboard.json"
  parse := some
  normalize _ text := if text = "" then none else some text

def versionOf (ino content : String) : FileVersion := ⟨⟨"1", ino, "9", "5", "5"⟩, content⟩

/-- A load of the old file reads it, and settles behind the load of the new one. -/
theorem slow_reader_returned :
    let pre := [.replace "data.json" (versionOf "7" "old"), .load ⟨.dashboard, some "data.json", "production", false⟩,
      .stat 0 false, .resume 0, .read 0 false, .replace "data.json" (versionOf "8" "new")]
    let post := [.stat 1 false, .resume 1, .read 1 false, .settle 1, .settle 0]
    let request := ⟨.dashboard, some "data.json", "production", false⟩
    let after := run (step textFiles) {} (pre ++ .load request :: post)
    after.outcome 0 = some (some "old") ∧ after.outcome 1 = some (some "new") ∧
      ∃ version ∈ (after.versions "data.json").drop 1, textFiles.value .dashboard version.content = some "new" := by
  intro pre post request after
  have returns : after.outcome 1 = some (some "new") := by decide
  refine ⟨by decide, returns, ?_⟩
  have coherent := loadCachedJson_coherent textFiles pre post request "data.json" rfl
    (by simp [pre, post, Along, FreshSignature, step, FileVersion.signature]; decide)
  exact coherent.1 1 (by decide) "new" returns

end FullManagedBi.Server
