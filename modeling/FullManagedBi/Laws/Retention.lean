import FullManagedBi.Maintenance.Retention

/-!
# What local retention gives up

The kept, the given up and the skipped files are the files of the directory, a file that is not a managed dump
is skipped, and a managed dump is kept where there is one (`retention_keeps`). The rule of the last dump applies
only where the slots of the policy reach no dump at all, so the newest dump is given up where no slot reaches it
and one reaches another dump (`newest_dump_given_up`).

The argument is about the map `keep`. Its dumps have their names (`Kept.Holds`), and a slot reaches each of them
(`keptOf_holds`); the first dump of a family that a slot reaches is in it (`mem_keptOf_of_first`).
-/

namespace FullManagedBi.Maintenance

open Lib

/-! ## The map of the kept dumps -/

def Kept.Holds (P : ManagedFile → Prop) (keep : Kept) : Prop :=
  ∀ name kept, keep.get? name = some kept → kept.dump.file.name = name ∧ P kept.dump

variable {P : ManagedFile → Prop} {keep : Kept} {dump : ManagedFile} {dumps : List ManagedFile} {name reason : String}

@[simp] theorem mem_keys_put : name ∈ (keep.put dump reason).keys ↔ name = dump.file.name ∨ name ∈ keep.keys := by
  rw [OrderedMap.mem_keys_iff, OrderedMap.mem_keys_iff]
  unfold Kept.put
  simp only [OrderedMap.get?_set]
  by_cases here : name = dump.file.name
  · simp [here]
  · simp [here]

@[simp] theorem mem_keys_putNew :
    name ∈ (keep.putNew dump reason).keys ↔ name = dump.file.name ∨ name ∈ keep.keys := by
  unfold Kept.putNew
  split
  · next present =>
    constructor
    · exact Or.inr
    · rintro (rfl | mem)
      · exact present
      · exact mem
  · exact mem_keys_put

theorem Kept.Holds.put (holds : keep.Holds P) (of : P dump) : (keep.put dump reason).Holds P := by
  intro name kept found
  unfold Kept.put at found
  rw [OrderedMap.get?_set] at found
  split at found
  · next here =>
    obtain rfl := Option.some.inj found
    exact ⟨here.symm, of⟩
  · exact holds name kept found

theorem Kept.Holds.putNew (holds : keep.Holds P) (of : P dump) : (keep.putNew dump reason).Holds P := by
  unfold Kept.putNew
  split
  · exact holds
  · exact holds.put of

theorem Kept.holds_empty : Kept.Holds P .empty := by
  intro name kept found
  exact nomatch found

variable {step : Kept → ManagedFile → Kept}

theorem Kept.Holds.foldl (each : ∀ keep dump, keep.Holds P → P dump → (step keep dump).Holds P)
    (holds : keep.Holds P) (all : ∀ dump ∈ dumps, P dump) : (dumps.foldl step keep).Holds P := by
  induction dumps generalizing keep with
  | nil => exact holds
  | cons dump dumps ih =>
    exact ih (each keep dump holds (all dump List.mem_cons_self)) fun other mem =>
      all other (List.mem_cons_of_mem _ mem)

theorem mem_keys_foldl (each : ∀ keep dump, name ∈ (step keep dump).keys ↔ name = dump.file.name ∨ name ∈ keep.keys) :
    name ∈ (dumps.foldl step keep).keys ↔ name ∈ keep.keys ∨ ∃ dump ∈ dumps, name = dump.file.name := by
  induction dumps generalizing keep with
  | nil => simp
  | cons dump dumps ih =>
    rw [List.foldl_cons, ih, each]
    simp only [List.mem_cons, exists_eq_or_imp]
    constructor
    · rintro ((here | before) | later)
      · exact .inr (.inl here)
      · exact .inl before
      · exact .inr (.inr later)
    · rintro (before | here | later)
      · exact .inl (.inr before)
      · exact .inl (.inl here)
      · exact .inr later

/-! ## The weekly loop -/

def weekOf (dump : ManagedFile) : String := (shanghaiIsoWeekKey dump.file.modifiedAt).toOption.getD ""

variable {recentWeeks : List String} {state final : WeeklyState}

/-- The loop returns where the time of every dump is a date, and is one round after the other. -/
theorem foldlM_weekly (done : dumps.foldlM (fun state dump => do
      let week ← shanghaiIsoWeekKey dump.file.modifiedAt
      return weeklyStep recentWeeks state dump week) state = .ok final) :
    (∀ dump ∈ dumps, shanghaiIsoWeekKey dump.file.modifiedAt = .ok (weekOf dump)) ∧
      final = dumps.foldl (fun state dump => weeklyStep recentWeeks state dump (weekOf dump)) state := by
  induction dumps generalizing state with
  | nil => exact ⟨nofun, (Except.ok.inj done).symm⟩
  | cons dump dumps ih =>
    rw [List.foldlM_cons] at done
    obtain ⟨next, round, rest⟩ := bind_eq_ok done
    obtain ⟨week, key, stepped⟩ := bind_eq_ok round
    obtain rfl := Except.ok.inj stepped
    have week_eq : weekOf dump = week := by
      rw [weekOf, key]
      rfl
    obtain ⟨readable, rfl⟩ := ih rest
    rw [List.foldl_cons, week_eq]
    refine ⟨List.forall_mem_cons.mpr ⟨?_, readable⟩, rfl⟩
    rw [week_eq]
    exact key

variable {week : String}

theorem weeklyStep_keys (mem : name ∈ state.keep.keys) :
    name ∈ (weeklyStep recentWeeks state dump week).keep.keys := by
  unfold weeklyStep
  split
  · exact mem
  · exact mem_keys_putNew.mpr (.inr mem)

theorem weeklyStep_holds (holds : state.keep.Holds P) (of : week ∈ recentWeeks → P dump) :
    (weeklyStep recentWeeks state dump week).keep.Holds P := by
  unfold weeklyStep
  split
  · exact holds
  · next taken =>
    push Not at taken
    exact holds.putNew (of taken.1)

def weeklyRounds (recentWeeks : List String) (state : WeeklyState) (dumps : List ManagedFile) : WeeklyState :=
  dumps.foldl (fun state dump => weeklyStep recentWeeks state dump (weekOf dump)) state

theorem weeklyRounds_keys (mem : name ∈ state.keep.keys) :
    name ∈ (weeklyRounds recentWeeks state dumps).keep.keys := by
  induction dumps generalizing state with
  | nil => exact mem
  | cons dump dumps ih => exact ih (weeklyStep_keys mem)

theorem weeklyRounds_holds (holds : state.keep.Holds P) (all : ∀ dump ∈ dumps, weekOf dump ∈ recentWeeks → P dump) :
    (weeklyRounds recentWeeks state dumps).keep.Holds P := by
  induction dumps generalizing state with
  | nil => exact holds
  | cons dump dumps ih =>
    exact ih (weeklyStep_holds holds (all dump List.mem_cons_self)) fun other mem =>
      all other (List.mem_cons_of_mem _ mem)

theorem weeklyRounds_of_old (old : ∀ dump ∈ dumps, weekOf dump ∉ recentWeeks) :
    weeklyRounds recentWeeks state dumps = state := by
  induction dumps with
  | nil => rfl
  | cons dump dumps ih =>
    have skipped : weeklyStep recentWeeks state dump (weekOf dump) = state :=
      if_pos (.inl (old dump List.mem_cons_self))
    change weeklyRounds recentWeeks (weeklyStep recentWeeks state dump (weekOf dump)) dumps = state
    rw [skipped]
    exact ih fun other mem => old other (List.mem_cons_of_mem _ mem)

variable {before after : List ManagedFile}

theorem mem_weeklyRounds_of_first (old : ∀ other ∈ before, weekOf other ∉ recentWeeks)
    (recent : weekOf dump ∈ recentWeeks) :
    dump.file.name ∈ (weeklyRounds recentWeeks ⟨[], keep⟩ (before ++ dump :: after)).keep.keys := by
  have first : weeklyRounds recentWeeks ⟨[], keep⟩ (before ++ dump :: after) =
      weeklyRounds recentWeeks (weeklyStep recentWeeks ⟨[], keep⟩ dump (weekOf dump)) after := by
    change List.foldl _ _ _ = _
    rw [List.foldl_append]
    change weeklyRounds recentWeeks (weeklyRounds recentWeeks ⟨[], keep⟩ before) (dump :: after) = _
    rw [weeklyRounds_of_old old]
    rfl
  rw [first]
  apply weeklyRounds_keys
  have taken : ¬ (weekOf dump ∉ recentWeeks ∨ weekOf dump ∈ ([] : List String)) := by simp [recent]
  rw [weeklyStep, if_neg taken]
  exact mem_keys_putNew.mpr (.inl rfl)

/-! ## The slots of the policy -/

/-- A slot of the policy reaches a dump: its family has slots, or its week is one of the recent ones. -/
def RetentionPolicy.Reaches (policy : RetentionPolicy) (now : Int) (dump : ManagedFile) : Prop :=
  (dump.IsDaily ∧ ∃ slots, policy.retainDaily = some slots ∧ 0 < slots) ∨
  (dump.IsWeeklySource ∧ ∃ slots, policy.retainWeekly = some slots ∧ ∃ offset : Nat, offset < slots ∧
    ∃ week, shanghaiIsoWeekKey ((now - offset * 604800000 : Int) : Rat) = .ok week ∧
      shanghaiIsoWeekKey dump.file.modifiedAt = .ok week) ∨
  (dump.IsDeploy ∧ ∃ slots, policy.retainDeploy = some slots ∧ 0 < slots)

/-- The same, for checked numbers of slots and known weeks. -/
def Reaches (daily deploy : Nat) (weeks : List String) (dump : ManagedFile) : Prop :=
  (dump.IsDaily ∧ 0 < daily) ∨ (dump.IsWeeklySource ∧ weekOf dump ∈ weeks) ∨ (dump.IsDeploy ∧ 0 < deploy)

def keptOf (daily deploy : Nat) (weeks : List String) (ordered : List ManagedFile) : Kept :=
  ((ordered.filter (·.IsDeploy)).take deploy).foldl (fun keep dump => Kept.putNew keep dump "recent-deploy")
    (weeklyRounds weeks ⟨[], ((ordered.filter (·.IsDaily)).take daily).foldl
      (fun keep dump => Kept.put keep dump "recent-daily") .empty⟩ (ordered.filter (·.IsWeeklySource))).keep

variable {daily deploy : Nat} {weeks : List String} {ordered : List ManagedFile}

theorem keptOf_holds :
    (keptOf daily deploy weeks ordered).Holds fun dump => dump ∈ ordered ∧ Reaches daily deploy weeks dump := by
  have slot {count : Nat} {family : ManagedFile → Bool} {dump : ManagedFile}
      (mem : dump ∈ (ordered.filter family).take count) : dump ∈ ordered ∧ family dump ∧ 0 < count := by
    have positive : 0 < count := by
      rcases Nat.eq_zero_or_pos count with rfl | positive
      · exact nomatch mem
      · exact positive
    have filtered := List.mem_filter.mp (List.mem_of_mem_take mem)
    exact ⟨filtered.1, filtered.2, positive⟩
  apply Kept.Holds.foldl
  · intro keep dump holds
    exact holds.putNew
  · apply weeklyRounds_holds
    · apply Kept.Holds.foldl
      · intro keep dump holds
        exact holds.put
      · exact Kept.holds_empty
      · intro dump mem
        obtain ⟨there, family, positive⟩ := slot mem
        exact ⟨there, .inl ⟨of_decide_eq_true family, positive⟩⟩
    · intro dump mem recent
      obtain ⟨there, family⟩ := List.mem_filter.mp mem
      exact ⟨there, .inr (.inl ⟨of_decide_eq_true family, recent⟩)⟩
  · intro dump mem
    obtain ⟨there, family, positive⟩ := slot mem
    exact ⟨there, .inr (.inr ⟨of_decide_eq_true family, positive⟩)⟩

theorem mem_keptOf_of_weekly (split : ordered.filter (·.IsWeeklySource) = before ++ dump :: after)
    (old : ∀ other ∈ before, weekOf other ∉ weeks) (recent : weekOf dump ∈ weeks) :
    dump.file.name ∈ (keptOf daily deploy weeks ordered).keys := by
  unfold keptOf
  rw [mem_keys_foldl fun _ _ => mem_keys_putNew, split]
  exact .inl (mem_weeklyRounds_of_first old recent)

variable {rest : List ManagedFile}

theorem mem_keptOf_of_first (reached : (ordered.filter (·.IsDaily) = dump :: rest ∧ 0 < daily) ∨
      (ordered.filter (·.IsDeploy) = dump :: rest ∧ 0 < deploy)) :
    dump.file.name ∈ (keptOf daily deploy weeks ordered).keys := by
  have first {count : Nat} (positive : 0 < count) : dump ∈ (dump :: rest).take count := by
    obtain ⟨count, rfl⟩ := Nat.exists_eq_succ_of_ne_zero positive.ne'
    exact List.mem_cons_self
  unfold keptOf
  rw [mem_keys_foldl fun _ _ => mem_keys_putNew]
  rcases reached with ⟨split, positive⟩ | ⟨split, positive⟩
  · left
    apply weeklyRounds_keys
    rw [mem_keys_foldl fun _ _ => mem_keys_put, split]
    exact .inr ⟨dump, first positive, rfl⟩
  · right
    rw [split]
    exact ⟨dump, first positive, rfl⟩

theorem mem_keptOf_of_newest (reached : Reaches daily deploy weeks dump) :
    dump.file.name ∈ (keptOf daily deploy weeks (dump :: rest)).keys := by
  rcases reached with ⟨family, positive⟩ | ⟨family, recent⟩ | ⟨family, positive⟩
  · exact mem_keptOf_of_first (.inl ⟨List.filter_cons_of_pos (decide_eq_true family), positive⟩)
  · have split : (dump :: rest).filter (·.IsWeeklySource) = [] ++ dump :: rest.filter (·.IsWeeklySource) :=
      List.filter_cons_of_pos (decide_eq_true family)
    exact mem_keptOf_of_weekly split nofun recent
  · exact mem_keptOf_of_first (.inr ⟨List.filter_cons_of_pos (decide_eq_true family), positive⟩)

theorem exists_mem_keptOf (mem : dump ∈ ordered) (reached : Reaches daily deploy weeks dump) :
    ∃ name, name ∈ (keptOf daily deploy weeks ordered).keys := by
  have nonempty (family : ManagedFile → Bool) (of : family dump) :
      ∃ first rest, ordered.filter family = first :: rest :=
    List.exists_cons_of_ne_nil (List.ne_nil_of_mem (List.mem_filter.mpr ⟨mem, of⟩))
  rcases reached with ⟨family, positive⟩ | ⟨family, recent⟩ | ⟨family, positive⟩
  · obtain ⟨first, rest, split⟩ := nonempty (·.IsDaily) (decide_eq_true family)
    exact ⟨_, mem_keptOf_of_first (.inl ⟨split, positive⟩)⟩
  · have there : dump ∈ ordered.filter (·.IsWeeklySource) := List.mem_filter.mpr ⟨mem, decide_eq_true family⟩
    have some : ((ordered.filter (·.IsWeeklySource)).find? fun other => weekOf other ∈ weeks).isSome :=
      List.find?_isSome.mpr ⟨dump, there, decide_eq_true recent⟩
    obtain ⟨first, found⟩ := Option.isSome_iff_exists.mp some
    obtain ⟨now, before, after, split, old⟩ := List.find?_eq_some_iff_append.mp found
    refine ⟨_, mem_keptOf_of_weekly split ?_ (of_decide_eq_true now)⟩
    intro other otherMem
    simpa using old other otherMem
  · obtain ⟨first, rest, split⟩ := nonempty (·.IsDeploy) (decide_eq_true family)
    exact ⟨_, mem_keptOf_of_first (.inr ⟨split, positive⟩)⟩

/-! ## The order of the dumps -/

instance (L : LocaleOrder) : IsTrans ManagedFile (ManagedFile.Le L) where
  trans a b c := by
    rintro (newer | ⟨same, text⟩) (newer' | ⟨same', text'⟩)
    · exact .inl (newer'.trans newer)
    · exact .inl (same' ▸ newer)
    · exact .inl (same ▸ newer')
    · exact .inr ⟨same'.trans same, L.not_gt_trans text text'⟩

instance (L : LocaleOrder) : Std.Total (ManagedFile.Le L) where
  total a b := by
    rcases lt_trichotomy a.file.modifiedAt b.file.modifiedAt with newer | same | newer
    · exact .inr (.inl newer)
    · exact (L.not_gt_total a.file.name b.file.name).imp (fun text => .inr ⟨same.symm, text⟩)
        fun text => .inr ⟨same, text⟩
    · exact .inl (.inl newer)

variable {L : LocaleOrder} {entries : List BackupFile} {policy : RetentionPolicy} {now : Int}
  {selection : RetentionSelection}

theorem mem_orderedDumps : dump ∈ orderedDumps L entries ↔ dump.file ∈ entries ∧ managedFile? dump.file = some dump := by
  unfold orderedDumps
  rw [List.mem_insertionSort, List.mem_filterMap]
  constructor
  · rintro ⟨entry, mem, managed⟩
    have same : dump.file = entry := by
      unfold managedFile? at managed
      split at managed
      · exact congrArg ManagedFile.file (Option.some.inj managed).symm
      · exact nomatch managed
    rw [same]
    exact ⟨mem, managed⟩
  · rintro ⟨mem, managed⟩
    exact ⟨dump.file, mem, managed⟩

theorem perm_files_orderedDumps :
    ((orderedDumps L entries).map (·.file)).Perm (entries.filter fun entry => (managedFile? entry).isSome) := by
  have files : (entries.filterMap managedFile?).map (·.file) =
      entries.filter fun entry => (managedFile? entry).isSome := by
    induction entries with
    | nil => rfl
    | cons entry entries ih =>
      cases managed : managedFile? entry with
      | none => simp [managed, ih]
      | some dump =>
        have here : dump ∈ orderedDumps L [entry] := by simp [orderedDumps, managed]
        have same : dump.file = entry := List.mem_singleton.mp (mem_orderedDumps.mp here).1
        simp [managed, ih, same]
  rw [← files]
  exact (List.perm_insertionSort _ _).map _

variable {newest : ManagedFile}

theorem newest_of_head (head : (orderedDumps L entries).head? = some newest)
    (mem : dump ∈ orderedDumps L entries) : dump.file.modifiedAt ≤ newest.file.modifiedAt := by
  have sorted : (orderedDumps L entries).Pairwise (ManagedFile.Le L) := List.pairwise_insertionSort _ _
  cases ordered : orderedDumps L entries with
  | nil => simp [ordered] at head
  | cons first rest =>
    rw [ordered] at head sorted mem
    obtain rfl := Option.some.inj head
    rcases List.mem_cons.mp mem with rfl | later
    · exact le_rfl
    · rcases List.rel_of_pairwise_cons sorted later with newer | ⟨same, -⟩
      · exact newer.le
      · exact same.le

/-! ## A selection -/

theorem requireRetention_eq_ok {value : Option Int} {count : Nat}
    (checked : requireRetention name value = .ok count) : value = some (count : Int) := by
  unfold requireRetention at checked
  split at checked
  · split at checked
    · exact nomatch checked
    · next n inside =>
      obtain rfl := Except.ok.inj checked
      rw [Int.toNat_of_nonneg (by omega)]
  · exact nomatch checked

theorem mem_recentWeekKeys {count : Nat} (keys : recentWeekKeys count now = .ok weeks) :
    week ∈ weeks ↔ ∃ offset : Nat, (offset : Int) < count ∧
      shanghaiIsoWeekKey ((now - offset * 604800000 : Int) : Rat) = .ok week := by
  obtain ⟨all, mapped, same⟩ := bind_eq_ok keys
  obtain rfl := Except.ok.inj same
  rw [List.mem_eraseDups]
  constructor
  · intro mem
    obtain ⟨offset, inRange, key⟩ := exists_of_mem_mapM mapped mem
    exact ⟨offset, Int.ofNat_lt.mpr (List.mem_range.mp inRange), key⟩
  · rintro ⟨offset, below, key⟩
    obtain ⟨other, mem, key'⟩ := exists_ok_of_mapM mapped (List.mem_range.mpr (Int.ofNat_lt.mp below))
    obtain rfl := Except.ok.inj (key.symm.trans key')
    exact mem

/-- What a selection is, for the checked policy. -/
structure Selected (L : LocaleOrder) (entries : List BackupFile) (policy : RetentionPolicy) (now : Int)
    (selection : RetentionSelection) (daily deploy : Nat) (weeks : List String) : Prop where
  reaches : ∀ dump ∈ orderedDumps L entries, policy.Reaches now dump ↔ Reaches daily deploy weeks dump
  selection_eq : selection = selectionOf (orderedDumps L entries) (skippedFiles entries) weeks
    (keepLast (orderedDumps L entries) (keptOf daily deploy weeks (orderedDumps L entries)))

theorem selected_of_ok (done : selectBackupsForLocalRetention L entries policy now = .ok selection) :
    ∃ daily deploy weeks, Selected L entries policy now selection daily deploy weeks := by
  obtain ⟨daily, dailyChecked, done⟩ := bind_eq_ok done
  obtain ⟨weekly, weeklyChecked, done⟩ := bind_eq_ok done
  obtain ⟨deploy, deployChecked, done⟩ := bind_eq_ok done
  obtain ⟨weeks, keys, done⟩ := bind_eq_ok done
  obtain ⟨state, looped, done⟩ := bind_eq_ok done
  obtain rfl := Except.ok.inj done
  obtain ⟨readable, rfl⟩ := foldlM_weekly looped
  refine ⟨daily, deploy, weeks, ?_, rfl⟩
  intro dump mem
  unfold RetentionPolicy.Reaches Reaches
  rw [requireRetention_eq_ok dailyChecked, requireRetention_eq_ok weeklyChecked,
    requireRetention_eq_ok deployChecked]
  simp only [Option.some.injEq, exists_eq_left', Int.natCast_pos]
  refine or_congr_right (or_congr_left (and_congr_right fun family => ?_))
  have key := readable dump (List.mem_filter.mpr ⟨mem, decide_eq_true family⟩)
  rw [mem_recentWeekKeys keys, key]
  simp [eq_comm]

theorem mem_keys_keepLast : name ∈ (keepLast (newest :: rest) keep).keys ↔
      name ∈ keep.keys ∨ (∀ other, other ∉ keep.keys) ∧ name = newest.file.name := by
  have empty_iff : keep.size = 0 ↔ ∀ other, other ∉ keep.keys := by
    rw [← List.eq_nil_iff_forall_not_mem]
    exact List.length_eq_zero_iff.trans List.map_eq_nil_iff.symm
  unfold keepLast
  dsimp only
  split
  · next none =>
    have nothing := empty_iff.mp none
    simp [nothing]
  · next some =>
    rw [empty_iff] at some
    simp [some]

theorem keepLast_holds (holds : keep.Holds P) (all : ∀ dump ∈ dumps, P dump) : (keepLast dumps keep).Holds P := by
  unfold keepLast
  split
  · next newest rest =>
    split
    · exact holds.put (all newest List.mem_cons_self)
    · exact holds
  · exact holds

theorem perm_values (names : (ordered.map (·.file.name)).Nodup) (holds : keep.Holds (· ∈ ordered)) :
    (keep.values.map (·.dump)).Perm (ordered.filter (·.file.name ∈ keep.keys)) := by
  have apart : (keep.values.map (·.dump)).Nodup := by
    rw [OrderedMap.nodup_map_values_iff]
    intro key other a b first second same
    rw [← (holds key a first).1, ← (holds other b second).1, same]
  rw [List.perm_ext_iff_of_nodup apart ((List.Nodup.of_map _ names).filter _)]
  intro dump
  rw [List.mem_map, List.mem_filter, decide_eq_true_eq]
  constructor
  · rintro ⟨kept, mem, rfl⟩
    obtain ⟨key, found⟩ := OrderedMap.mem_values_iff.mp mem
    obtain ⟨named, there⟩ := holds key kept found
    rw [named]
    exact ⟨there, OrderedMap.mem_keys_iff.mpr ⟨kept, found⟩⟩
  · rintro ⟨there, key⟩
    obtain ⟨kept, found⟩ := OrderedMap.mem_keys_iff.mp key
    obtain ⟨named, there'⟩ := holds _ kept found
    exact ⟨kept, OrderedMap.mem_values_iff.mpr ⟨_, found⟩, List.inj_on_of_nodup_map names there' there named⟩

/-- The kept, the given up and the skipped files are the files. -/
def RetentionSelection.Partitions (selection : RetentionSelection) (entries : List BackupFile) : Prop :=
  (selection.keep.map (·.dump.file) ++ selection.candidates.map (·.dump.file) ++
    selection.skipped.map (·.file)).Perm entries

theorem selectionOf_partitions (names : ((orderedDumps L entries).map (·.file.name)).Nodup)
    (holds : keep.Holds (· ∈ orderedDumps L entries)) :
    (selectionOf (orderedDumps L entries) (skippedFiles entries) weeks keep).Partitions entries := by
  have keptFiles := (perm_values names holds).map (·.file)
  rw [List.map_map] at keptFiles
  have givenUp : (selectionOf (orderedDumps L entries) (skippedFiles entries) weeks keep).candidates.map
      (·.dump.file) = ((orderedDumps L entries).filter fun dump => !decide (dump.file.name ∈ keep.keys)).map
        (·.file) := by
    simp [selectionOf]
  have skippedOnes : (selectionOf (orderedDumps L entries) (skippedFiles entries) weeks keep).skipped.map (·.file) =
      entries.filter fun entry => !(managedFile? entry).isSome := by
    simp only [selectionOf, skippedFiles, List.map_map, Option.not_isSome]
    exact List.map_id _
  have dumpFiles := ((List.filter_append_perm (fun dump => decide (dump.file.name ∈ keep.keys))
    (orderedDumps L entries)).map (·.file)).trans perm_files_orderedDumps
  rw [List.map_append] at dumpFiles
  unfold RetentionSelection.Partitions
  rw [givenUp, skippedOnes]
  refine ((keptFiles.append_right _).trans dumpFiles).append_right _ |>.trans ?_
  exact List.filter_append_perm _ _

theorem nodup_names (distinct : (entries.map (·.name)).Nodup) :
    ((orderedDumps L entries).map (·.file.name)).Nodup := by
  have files : ((orderedDumps L entries).map (·.file)).Perm _ := perm_files_orderedDumps
  have perm := files.map (·.name)
  rw [List.map_map] at perm
  exact perm.nodup_iff.mpr (distinct.sublist (List.filter_sublist.map _))

theorem mem_candidates {skipped : List SkippedFile} :
    dump ∈ (selectionOf ordered skipped weeks keep).candidates.map (·.dump) ↔
      dump ∈ ordered ∧ dump.file.name ∉ keep.keys := by
  simp [selectionOf]

/-- What is kept after the rule of the last dump. -/
abbrev finallyKept (L : LocaleOrder) (entries : List BackupFile) (daily deploy : Nat) (weeks : List String) : Kept :=
  keepLast (orderedDumps L entries) (keptOf daily deploy weeks (orderedDumps L entries))

theorem finallyKept_holds : (finallyKept L entries daily deploy weeks).Holds (· ∈ orderedDumps L entries) := by
  apply keepLast_holds
  · intro name kept found
    obtain ⟨named, there, -⟩ := keptOf_holds name kept found
    exact ⟨named, there⟩
  · intro dump mem
    exact mem

theorem exists_finallyKept (mem : dump ∈ orderedDumps L entries) :
    ∃ name, name ∈ (finallyKept L entries daily deploy weeks).keys := by
  obtain ⟨newest, rest, split⟩ := List.exists_cons_of_ne_nil (List.ne_nil_of_mem mem)
  unfold finallyKept
  rw [split]
  by_cases none : ∀ other, other ∉ (keptOf daily deploy weeks (newest :: rest)).keys
  · exact ⟨_, mem_keys_keepLast.mpr (.inr ⟨none, rfl⟩)⟩
  · push Not at none
    obtain ⟨name, key⟩ := none
    exact ⟨name, mem_keys_keepLast.mpr (.inl key)⟩

theorem mem_finallyKept_newest (names : ((orderedDumps L entries).map (·.file.name)).Nodup)
    (split : orderedDumps L entries = newest :: rest) :
    newest.file.name ∈ (finallyKept L entries daily deploy weeks).keys ↔ Reaches daily deploy weeks newest ∨
      ¬ ∃ dump ∈ orderedDumps L entries, Reaches daily deploy weeks dump := by
  unfold finallyKept
  rw [split] at names ⊢
  have reached_iff : newest.file.name ∈ (keptOf daily deploy weeks (newest :: rest)).keys ↔
      Reaches daily deploy weeks newest := by
    constructor
    · intro key
      obtain ⟨kept, found⟩ := OrderedMap.mem_keys_iff.mp key
      obtain ⟨named, there, reached⟩ := keptOf_holds _ kept found
      rwa [List.inj_on_of_nodup_map names there List.mem_cons_self named] at reached
    · exact mem_keptOf_of_newest
  have some_iff : (∃ name, name ∈ (keptOf daily deploy weeks (newest :: rest)).keys) ↔
      ∃ dump ∈ newest :: rest, Reaches daily deploy weeks dump := by
    constructor
    · rintro ⟨name, key⟩
      obtain ⟨kept, found⟩ := OrderedMap.mem_keys_iff.mp key
      exact ⟨kept.dump, (keptOf_holds _ kept found).2⟩
    · rintro ⟨dump, there, reached⟩
      exact exists_mem_keptOf there reached
  rw [mem_keys_keepLast, reached_iff, ← some_iff, not_exists, and_iff_left rfl]

/-- **What local retention keeps.** The kept, the given up and the skipped files are the files of the
directory, only a managed dump is given up, and some managed dump is kept where there is one. The newest dump is
given up exactly where no slot of the policy reaches it and a slot reaches another one. -/
theorem retention_keeps (done : selectBackupsForLocalRetention L entries policy now = .ok selection)
    (distinct : (entries.map (·.name)).Nodup) : selection.Partitions entries ∧
      (∀ candidate ∈ selection.candidates, candidate.dump.file ∈ entries ∧
        managedFile? candidate.dump.file = some candidate.dump) ∧
      (∀ entry ∈ entries, (managedFile? entry).isSome → ∃ kept ∈ selection.keep, kept.dump.file ∈ entries ∧
        managedFile? kept.dump.file = some kept.dump) ∧
      ∀ newest, (orderedDumps L entries).head? = some newest →
        (∀ dump ∈ orderedDumps L entries, dump.file.modifiedAt ≤ newest.file.modifiedAt) ∧
        (newest ∈ selection.candidates.map (·.dump) ↔
          ¬ policy.Reaches now newest ∧ ∃ dump ∈ orderedDumps L entries, policy.Reaches now dump) := by
  obtain ⟨daily, deploy, weeks, reaches, rfl⟩ := selected_of_ok done
  have names := nodup_names (L := L) distinct
  refine ⟨selectionOf_partitions names finallyKept_holds, ?_, ?_, ?_⟩
  · intro candidate mem
    exact mem_orderedDumps.mp (mem_candidates.mp (List.mem_map_of_mem mem)).1
  · intro entry mem managed
    have there : entry ∈ (orderedDumps L entries).map (·.file) :=
      perm_files_orderedDumps.mem_iff.mpr (List.mem_filter.mpr ⟨mem, managed⟩)
    obtain ⟨dump, dumpMem, -⟩ := List.mem_map.mp there
    obtain ⟨name, key⟩ : ∃ name, name ∈ (finallyKept L entries daily deploy weeks).keys :=
      exists_finallyKept dumpMem
    obtain ⟨last, found⟩ := OrderedMap.mem_keys_iff.mp key
    exact ⟨last, OrderedMap.mem_values_iff.mpr ⟨name, found⟩,
      mem_orderedDumps.mp (finallyKept_holds name last found).2⟩
  · intro newest head
    refine ⟨fun dump mem => newest_of_head head mem, ?_⟩
    obtain ⟨rest, split⟩ := List.head?_eq_some_iff.mp head
    have newestMem : newest ∈ orderedDumps L entries := split ▸ List.mem_cons_self
    have some_iff : (∃ dump ∈ orderedDumps L entries, policy.Reaches now dump) ↔
        ∃ dump ∈ orderedDumps L entries, Reaches daily deploy weeks dump :=
      exists_congr fun dump => and_congr_right fun there => reaches dump there
    rw [mem_candidates, and_iff_right newestMem, mem_finallyKept_newest names split, not_or, not_not, some_iff,
      reaches newest newestMem]

def codePointOrder : LocaleOrder := ⟨compare, String.instTransOrd⟩

/-- A scheduled dump, a dump made a week before it, ahead of a release, and another file. -/
def sparseBackups : List BackupFile :=
  [⟨"shein-fm-20260108T000000Z.dump", "/backups/shein-fm-20260108T000000Z.dump", 7, 1209600000⟩,
    ⟨"pre-release.dump", "/backups/pre-release.dump", 5, 604800000⟩,
    ⟨"notes.txt", "/backups/notes.txt", 3, 0⟩]

/-- What the slots of production select from them, six weeks later. -/
def sparseSelection : RetentionSelection where
  keep := [⟨⟨⟨"pre-release.dump", "/backups/pre-release.dump", 5, 604800000⟩, .preDeploy⟩, "recent-deploy"⟩]
  candidates := [⟨⟨⟨"shein-fm-20260108T000000Z.dump", "/backups/shein-fm-20260108T000000Z.dump", 7, 1209600000⟩,
    .scheduled⟩, "expired-local-retention"⟩]
  skipped := [⟨⟨"notes.txt", "/backups/notes.txt", 3, 0⟩, "not-a-database-backup"⟩]
  recentWeeks := ["1970-W09", "1970-W08"]

theorem select_sparseBackups :
    selectBackupsForLocalRetention codePointOrder sparseBackups {} 4838400000 = .ok sparseSelection := by
  decide +kernel

/-- The law for the sparse backups. -/
theorem retention_keeps_sparse : sparseSelection.Partitions sparseBackups :=
  (retention_keeps select_sparseBackups (by decide)).1

/-- **The newest dump can be given up.** With the slots of production, an older dump made ahead of a release is
kept, and the newest dump is a candidate. -/
theorem newest_dump_given_up : ¬ ∀ L entries policy now selection,
    selectBackupsForLocalRetention L entries policy now = .ok selection →
      selection.Partitions entries ∧
      (∀ candidate ∈ selection.candidates, (managedFile? candidate.dump.file).isSome) ∧
      ∀ newest, (orderedDumps L entries).head? = some newest → newest ∉ selection.candidates.map (·.dump) := by
  intro claimed
  have safe := (claimed _ _ _ _ _ select_sparseBackups).2.2
  have head : (orderedDumps codePointOrder sparseBackups).head? = some ⟨⟨"shein-fm-20260108T000000Z.dump",
      "/backups/shein-fm-20260108T000000Z.dump", 7, 1209600000⟩, .scheduled⟩ := by
    decide
  exact safe _ head (List.mem_singleton_self _)

end FullManagedBi.Maintenance
