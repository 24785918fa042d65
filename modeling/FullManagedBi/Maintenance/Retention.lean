import FullManagedBi.Lib.Calendar
import FullManagedBi.Lib.Js
import FullManagedBi.Lib.OrderedMap
import FullManagedBi.Lib.Pattern
import FullManagedBi.Lib.Sorting

/-!
# Which database dumps local retention keeps

`shanghaiIsoWeekKey`, `classifyBackupName` and `selectBackupsForLocalRetention` of
`scripts/lib/full_managed_maintenance.mjs`. A time is a number of milliseconds; the time of a file may have a
fractional part.
-/

namespace FullManagedBi.Maintenance

open Lib

/-! ## Weeks -/

/-- `TimeClip`: the milliseconds of `new Date(time)`, where it is a date. -/
def timeClip (time : Rat) : Option Int :=
  if |time| ≤ 8640000000000000 then some (time.num.tdiv time.den) else none

/-- The day of `Date.UTC(year, 0, 1)`, where it is a date: a year below 100 is one of the twentieth century. -/
def utcYearStart (year : Int) : Option Int :=
  let day := daysFromCivil ⟨if 0 ≤ year ∧ year ≤ 99 then 1900 + year else year, 1, 1⟩
  if |day| ≤ 100000000 then some day else none

/-- `String(week).padStart(2, '0')`. -/
def padWeek (week : String) : String := if week.length < 2 then "0" ++ week else week

def weekOfThursday (thursday : Int) : String :=
  let isoYear := (civilFromDays thursday).year
  let week := match utcYearStart isoYear with
    | some yearStart => toString (-((-(thursday - yearStart + 1)) / 7))
    | none => "NaN"
  toString isoYear ++ "-W" ++ padWeek week

def shanghaiIsoWeekKey (instant : Rat) : Except JsError String :=
  match timeClip instant with
  | none => .error ⟨some "INSTANT_INVALID", "invalid instant"⟩
  | some date =>
    match timeClip (date + 28800000) with
    | none => .ok "NaN-WNaN"
    | some shifted =>
      let day := shifted / 86400000
      let weekday := if (day + 4) % 7 = 0 then 7 else (day + 4) % 7
      let thursday := day + 4 - weekday
      .ok (if |thursday| ≤ 100000000 then weekOfThursday thursday else "NaN-WNaN")

/-! ## Names -/

/-- `variant` of a database dump. -/
inductive BackupVariant where
  | scheduled
  | daily
  | weekly
  | deploy
  | preDeploy
  deriving DecidableEq

/-- `{ kind, variant }`: what is not a database dump is `unmanaged`. -/
inductive BackupKind where
  | database (variant : BackupVariant)
  | other
  deriving DecidableEq

/-- `^` and `$`: no character is behind, or ahead. -/
def anchored (P : Pattern) : Pattern := .seq (.notBehind fun _ => true) (.seq P (.notAhead fun _ => true))

def exactly (text : String) : Pattern := .word (fun a b => a == b) text.toList

/-- `\d{8}T\d{6}Z\.dump`. -/
def stampedDump : Pattern :=
  .seq (.times Char.isDigit 8 (some 8))
    (.seq (exactly "T") (.seq (.times Char.isDigit 6 (some 6)) (exactly "Z.dump")))

/-- `^shein-fm-\d{8}T\d{6}Z\.dump$`. -/
def scheduledName : Pattern := anchored (.seq (exactly "shein-fm-") stampedDump)

/-- `^shein-fm-(daily|weekly|deploy)-\d{8}T\d{6}Z\.dump$`. -/
def variantName : Pattern :=
  anchored (.seq (exactly "shein-fm-")
    (.seq (.alt (exactly "daily") (.alt (exactly "weekly") (exactly "deploy")))
      (.seq (exactly "-") stampedDump)))

/-- `^pre-[A-Za-z0-9._-]+\.dump$`. -/
def preDeployName : Pattern :=
  anchored (.seq (exactly "pre-")
    (.seq (.times (fun c => c.isAlphanum || c == '.' || c == '_' || c == '-') 1 none) (exactly ".dump")))

def classifyBackupName (name : String) : BackupKind :=
  let raw := name.toList
  if scheduledName.test raw then .database .scheduled
  else if variantName.test raw then
    .database (if "-deploy-".toList <:+: raw then .deploy
      else if "-weekly-".toList <:+: raw then .weekly
      else .daily)
  else if preDeployName.test raw then .database .preDeploy
  else .other

/-! ## Selection -/

structure BackupFile where
  name : String
  absolute : String
  bytes : Nat
  modifiedAt : Rat
  deriving DecidableEq

/-- `{ ...entry, variant }`: a database dump. -/
structure ManagedFile where
  file : BackupFile
  variant : BackupVariant
  deriving DecidableEq

/-- `{ ...entry, reason }` of a database dump. -/
structure RetainedFile where
  dump : ManagedFile
  reason : String
  deriving DecidableEq

/-- `{ ...entry, reason }` of another file. -/
structure SkippedFile where
  file : BackupFile
  reason : String
  deriving DecidableEq

/-- `{ retainDaily, retainWeekly, retainDeploy }`: a value that is not a safe integer is `none`. -/
structure RetentionPolicy where
  retainDaily : Option Int := some 0
  retainWeekly : Option Int := some 2
  retainDeploy : Option Int := some 1

/-- What `selectBackupsForLocalRetention` returns. -/
structure RetentionSelection where
  keep : List RetainedFile
  candidates : List RetainedFile
  skipped : List SkippedFile
  recentWeeks : List String
  deriving DecidableEq

/-- The check of one value of the policy. -/
def requireRetention (name : String) (value : Option Int) : Except JsError Nat :=
  match value with
  | some n =>
    if n < 0 ∨ 52 < n then .error ⟨some "RETENTION_INVALID", name ++ " must be an integer from 0 to 52"⟩
    else .ok n.toNat
  | none => .error ⟨some "RETENTION_INVALID", name ++ " must be an integer from 0 to 52"⟩

def managedFile? (entry : BackupFile) : Option ManagedFile :=
  match classifyBackupName entry.name with
  | .database variant => some ⟨entry, variant⟩
  | .other => none

/-- `skipped`. -/
def skippedFiles (entries : List BackupFile) : List SkippedFile :=
  (entries.filter fun entry => (managedFile? entry).isNone).map (⟨·, "not-a-database-backup"⟩)

/-- The dump does not come behind the other one: the newest comes first. -/
def ManagedFile.Le (L : LocaleOrder) (left right : ManagedFile) : Prop :=
  right.file.modifiedAt < left.file.modifiedAt ∨
    right.file.modifiedAt = left.file.modifiedAt ∧ L.localeCompare left.file.name right.file.name ≠ .gt

instance (L : LocaleOrder) : DecidableRel (ManagedFile.Le L) := fun _ _ => inferInstanceAs (Decidable (_ ∨ _))

/-- `ordered`. -/
def orderedDumps (L : LocaleOrder) (entries : List BackupFile) : List ManagedFile :=
  (entries.filterMap managedFile?).insertionSort (ManagedFile.Le L)

/-- `daily`. -/
def ManagedFile.IsDaily (dump : ManagedFile) : Prop := dump.variant ∈ [BackupVariant.daily, .scheduled]

/-- `weeklySources`. -/
def ManagedFile.IsWeeklySource (dump : ManagedFile) : Prop :=
  dump.variant ∈ [BackupVariant.weekly, .daily, .scheduled]

/-- `deploy`. -/
def ManagedFile.IsDeploy (dump : ManagedFile) : Prop := dump.variant ∈ [BackupVariant.deploy, .preDeploy]

instance : DecidablePred ManagedFile.IsDaily := fun _ => inferInstanceAs (Decidable (_ ∈ _))
instance : DecidablePred ManagedFile.IsWeeklySource := fun _ => inferInstanceAs (Decidable (_ ∈ _))
instance : DecidablePred ManagedFile.IsDeploy := fun _ => inferInstanceAs (Decidable (_ ∈ _))

abbrev Kept := OrderedMap String RetainedFile

/-- `keep.set(entry.name, { ...entry, reason })`. -/
def Kept.put (keep : Kept) (dump : ManagedFile) (reason : String) : Kept :=
  keep.set dump.file.name ⟨dump, reason⟩

/-- `if (!keep.has(entry.name)) keep.set(entry.name, { ...entry, reason })`. -/
def Kept.putNew (keep : Kept) (dump : ManagedFile) (reason : String) : Kept :=
  if dump.file.name ∈ keep.keys then keep else keep.put dump reason

/-- The weeks that have their dump, and the kept dumps. -/
structure WeeklyState where
  weekly : List String
  keep : Kept

/-- A round of the loop over `weeklySources`, for a dump of a week. -/
def weeklyStep (recentWeeks : List String) (state : WeeklyState) (dump : ManagedFile) (week : String) :
    WeeklyState :=
  if week ∉ recentWeeks ∨ week ∈ state.weekly then state
  else ⟨state.weekly ++ [week], Kept.putNew state.keep dump ("weekly-" ++ week)⟩

/-- The loop over `weeklySources`. -/
def keepWeekly (recentWeeks : List String) (keep : Kept) (weeklySources : List ManagedFile) :
    Except JsError WeeklyState :=
  weeklySources.foldlM (fun state dump => do
    let week ← shanghaiIsoWeekKey dump.file.modifiedAt
    return weeklyStep recentWeeks state dump week) ⟨[], keep⟩

/-- `recentWeeks`. -/
def recentWeekKeys (retainWeekly : Nat) (now : Int) : Except JsError (List String) := do
  let weeks ← (List.range retainWeekly).mapM fun (offset : Nat) =>
    shanghaiIsoWeekKey ((now - offset * 604800000 : Int) : Rat)
  return weeks.eraseDups

/-- The rule of the last dump: nothing else is kept. -/
def keepLast (ordered : List ManagedFile) (keep : Kept) : Kept :=
  match ordered with
  | newest :: _ => if keep.size = 0 then keep.put newest "last-recoverable-backup" else keep
  | [] => keep

def selectionOf (ordered : List ManagedFile) (skipped : List SkippedFile) (recentWeeks : List String) (keep : Kept) :
    RetentionSelection where
  keep := keep.values
  candidates := (ordered.filter (·.file.name ∉ keep.keys)).map (⟨·, "expired-local-retention"⟩)
  skipped := skipped
  recentWeeks := recentWeeks

def selectBackupsForLocalRetention (L : LocaleOrder) (entries : List BackupFile) (policy : RetentionPolicy)
    (now : Int) : Except JsError RetentionSelection := do
  let retainDaily ← requireRetention "retainDaily" policy.retainDaily
  let retainWeekly ← requireRetention "retainWeekly" policy.retainWeekly
  let retainDeploy ← requireRetention "retainDeploy" policy.retainDeploy
  let ordered := orderedDumps L entries
  let daily := ordered.filter (·.IsDaily)
  let weeklySources := ordered.filter (·.IsWeeklySource)
  let deploy := ordered.filter (·.IsDeploy)
  let keepDaily := (daily.take retainDaily).foldl (fun keep dump => Kept.put keep dump "recent-daily") .empty
  let recentWeeks ← recentWeekKeys retainWeekly now
  let weekly ← keepWeekly recentWeeks keepDaily weeklySources
  let keep := (deploy.take retainDeploy).foldl (fun keep dump => Kept.putNew keep dump "recent-deploy") weekly.keep
  return selectionOf ordered (skippedFiles entries) recentWeeks (keepLast ordered keep)

end FullManagedBi.Maintenance
