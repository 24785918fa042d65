import Mathlib

/-!
# Calendar days and their ISO texts

A day is the number of days since 1970-01-01. `civilFromDays` and `daysFromCivil` convert between days
and civil dates of the proleptic Gregorian calendar; both count years from March, so that the leap day
is the last of its year.

`toIsoDate` is `toISOString().slice(0, 10)` and `parseIsoDate` accepts a `YYYY-MM-DD` text that
`toIsoDate` gives back. They are inverse to each other on the days of the years 0 to 9999
(`parseIsoDate_toIsoDate`, `toIsoDate_of_parse`), where the order of the texts is the order of the days
(`toIsoDate_lt`). Outside these years the text is not a date.
-/

namespace Lib

/-- A date of the Gregorian calendar. -/
structure CivilDate where
  year : Int
  month : Int
  day : Int
  deriving DecidableEq

def CivilDate.marchYear (date : CivilDate) : Int :=
  if date.month ≤ 2 then date.year - 1 else date.year

def CivilDate.marchMonth (date : CivilDate) : Int := (date.month + 9) % 12

def daysFromCivil (date : CivilDate) : Int :=
  let yearOfEra := date.marchYear % 400
  let dayOfYear := (153 * date.marchMonth + 2) / 5 + date.day - 1
  let dayOfEra := yearOfEra * 365 + yearOfEra / 4 - yearOfEra / 100 + dayOfYear
  date.marchYear / 400 * 146097 + dayOfEra - 719468

/-- The century of a day of its era, counted from March: the last one is a day longer. -/
def centuryOfEra (dayOfEra : Int) : Int := min 3 (dayOfEra / 36524)

def dayOfCentury (dayOfEra : Int) : Int := dayOfEra - 36524 * centuryOfEra dayOfEra

def yearOfFour (dayOfEra : Int) : Int := min 3 (dayOfCentury dayOfEra % 1461 / 365)

def yearOfEra (dayOfEra : Int) : Int :=
  100 * centuryOfEra dayOfEra + 4 * (dayOfCentury dayOfEra / 1461) + yearOfFour dayOfEra

def dayOfYear (dayOfEra : Int) : Int :=
  dayOfCentury dayOfEra % 1461 - 365 * yearOfFour dayOfEra

def dayOfEra (day : Int) : Int := (day + 719468) % 146097

def monthOfDay (day : Int) : Int := (5 * dayOfYear (dayOfEra day) + 2) / 153

def yearOfDay (day : Int) : Int := yearOfEra (dayOfEra day) + (day + 719468) / 146097 * 400

def dayOfMonth (day : Int) : Int := dayOfYear (dayOfEra day) - (153 * monthOfDay day + 2) / 5 + 1

def civilFromDays (day : Int) : CivilDate :=
  if monthOfDay day < 10 then ⟨yearOfDay day, monthOfDay day + 3, dayOfMonth day⟩
  else ⟨yearOfDay day + 1, monthOfDay day - 9, dayOfMonth day⟩

/-! ## Texts -/

def digitChar (n : Nat) : Char := Char.ofNat (48 + n % 10)

def digitValue (c : Char) : Nat := c.toNat - 48

def pad2 (n : Nat) : List Char := [digitChar (n / 10), digitChar n]

def pad4 (n : Nat) : List Char := pad2 (n / 100) ++ pad2 n

/-- The year of an ISO text: four digits, and a sign and six digits outside the years 0 to 9999. -/
def isoYear (year : Int) : List Char :=
  if 0 ≤ year ∧ year ≤ 9999 then pad4 year.toNat
  else (if 0 ≤ year then '+' else '-') :: (pad2 (year.natAbs / 10000) ++ pad4 year.natAbs)

/-- `toISOString().slice(0, 10)` of the first instant of a day. -/
def toIsoDate (day : Int) : String :=
  let date := civilFromDays day
  String.ofList <| List.take 10 <|
    isoYear date.year ++ '-' :: pad2 date.month.toNat ++ '-' :: pad2 date.day.toNat

def isoDay (day : Int) : List Char :=
  let date := civilFromDays day
  isoYear date.year ++ '-' :: pad2 date.month.toNat ++ '-' :: pad2 date.day.toNat

def pad3 (n : Nat) : List Char := digitChar (n / 100) :: pad2 n

/-- `toISOString` of an instant in milliseconds. -/
def toIsoInstant (instant : Int) : String :=
  let ms := (instant % 86400000).toNat
  toIsoDate (instant / 86400000) ++ String.ofList ('T' :: pad2 (ms / 3600000) ++ ':' ::
    pad2 (ms / 60000 % 60) ++ ':' :: pad2 (ms / 1000 % 60) ++ '.' :: pad3 (ms % 1000) ++ ['Z'])

/-- The time of day of an ISO text, of an instant in milliseconds. -/
def isoTime (instant : Int) : List Char :=
  let ms := (instant % 86400000).toNat
  'T' :: pad2 (ms / 3600000) ++ ':' :: pad2 (ms / 60000 % 60) ++ ':' :: pad2 (ms / 1000 % 60) ++
    '.' :: pad3 (ms % 1000) ++ ['Z']

/-- `toISOString` of an instant in milliseconds, in any year. -/
def toIsoTimestamp (instant : Int) : String := String.ofList (isoDay (instant / 86400000) ++ isoTime instant)

def isIsoDateShape (text : String) : Bool :=
  match text.toList with
  | [y₁, y₂, y₃, y₄, '-', m₁, m₂, '-', d₁, d₂] =>
    [y₁, y₂, y₃, y₄, m₁, m₂, d₁, d₂].all (·.isDigit)
  | _ => false

/-- The day a text names: `/^\d{4}-\d{2}-\d{2}$/` matches it, and `new Date` of it is an instant
whose ISO text is the same. -/
def parseIsoDate (text : String) : Option Int :=
  match text.toList with
  | [y₁, y₂, y₃, y₄, '-', m₁, m₂, '-', d₁, d₂] =>
    if [y₁, y₂, y₃, y₄, m₁, m₂, d₁, d₂].all (·.isDigit) then
      let year := digitValue y₁ * 1000 + digitValue y₂ * 100 + digitValue y₃ * 10 + digitValue y₄
      let month := digitValue m₁ * 10 + digitValue m₂
      let day := digitValue d₁ * 10 + digitValue d₂
      let parsed := daysFromCivil ⟨year, month, day⟩
      if 1 ≤ month ∧ month ≤ 12 ∧ 1 ≤ day ∧ day ≤ 31 ∧ toIsoDate parsed = text then some parsed
      else none
    else none
  | _ => none

def FourDigitYear (day : Int) : Prop :=
  0 ≤ (civilFromDays day).year ∧ (civilFromDays day).year ≤ 9999

instance (day : Int) : Decidable (FourDigitYear day) := inferInstanceAs (Decidable (_ ∧ _))

/-! ## Days and civil dates -/

section Era

variable {d e : Int}

theorem yearOfEra_bounds (low : 0 ≤ d) (high : d < 146097) : 0 ≤ yearOfEra d ∧ yearOfEra d < 400 := by
  unfold yearOfEra yearOfFour dayOfCentury centuryOfEra
  omega

theorem dayOfYear_bounds (_low : 0 ≤ d) (_high : d < 146097) : 0 ≤ dayOfYear d ∧ dayOfYear d ≤ 365 := by
  unfold dayOfYear yearOfFour dayOfCentury centuryOfEra
  omega

theorem dayOfEra_eq (low : 0 ≤ d) (high : d < 146097) :
    yearOfEra d * 365 + yearOfEra d / 4 - yearOfEra d / 100 + dayOfYear d = d := by
  unfold dayOfYear yearOfEra
  have quads : dayOfCentury d / 1461 < 25 := by
    unfold dayOfCentury centuryOfEra
    omega
  have centuries : 0 ≤ dayOfCentury d := by
    unfold dayOfCentury centuryOfEra
    omega
  have within : 0 ≤ yearOfFour d ∧ yearOfFour d ≤ 3 := by
    unfold yearOfFour
    omega
  have split : d = 36524 * centuryOfEra d + dayOfCentury d := by
    unfold dayOfCentury
    omega
  generalize dayOfCentury d = c at *
  generalize yearOfFour d = y at *
  generalize centuryOfEra d = n at *
  omega

theorem yearOfEra_mono (low : 0 ≤ d) (le : d ≤ e) (high : e < 146097) : yearOfEra d ≤ yearOfEra e := by
  have first := dayOfEra_eq low (by omega)
  have second := dayOfEra_eq (d := e) (by omega) high
  have boundsFirst := dayOfYear_bounds low (by omega)
  have boundsSecond := dayOfYear_bounds (d := e) (by omega) high
  unfold yearOfEra yearOfFour dayOfCentury centuryOfEra
  omega

end Era

section Day

variable (day : Int)

theorem dayOfEra_bounds : 0 ≤ dayOfEra day ∧ dayOfEra day < 146097 := by
  unfold dayOfEra
  omega

theorem monthOfDay_bounds : 0 ≤ monthOfDay day ∧ monthOfDay day ≤ 11 := by
  have bounds := dayOfYear_bounds (dayOfEra_bounds day).1 (dayOfEra_bounds day).2
  unfold monthOfDay
  omega

theorem dayOfMonth_bounds : 1 ≤ dayOfMonth day ∧ dayOfMonth day ≤ 31 := by
  have bounds := dayOfYear_bounds (dayOfEra_bounds day).1 (dayOfEra_bounds day).2
  unfold dayOfMonth monthOfDay
  omega

@[simp] theorem marchYear_civilFromDays : (civilFromDays day).marchYear = yearOfDay day := by
  have bounds := monthOfDay_bounds day
  unfold civilFromDays CivilDate.marchYear
  split_ifs <;> simp only at * <;> omega

@[simp] theorem marchMonth_civilFromDays : (civilFromDays day).marchMonth = monthOfDay day := by
  have bounds := monthOfDay_bounds day
  unfold civilFromDays CivilDate.marchMonth
  split_ifs <;> simp only <;> omega

@[simp] theorem day_civilFromDays : (civilFromDays day).day = dayOfMonth day := by
  unfold civilFromDays
  split_ifs <;> rfl

theorem month_civilFromDays : 1 ≤ (civilFromDays day).month ∧ (civilFromDays day).month ≤ 12 := by
  have bounds := monthOfDay_bounds day
  unfold civilFromDays
  split_ifs <;> simp only <;> omega

@[simp] theorem daysFromCivil_civilFromDays : daysFromCivil (civilFromDays day) = day := by
  have era := dayOfEra_bounds day
  have years := yearOfEra_bounds era.1 era.2
  have split := dayOfEra_eq era.1 era.2
  have whole : dayOfEra day + 146097 * ((day + 719468) / 146097) = day + 719468 :=
    Int.emod_add_mul_ediv _ _
  simp only [daysFromCivil, marchYear_civilFromDays, marchMonth_civilFromDays, day_civilFromDays,
    dayOfMonth, yearOfDay]
  rw [Int.add_mul_emod_self_right, Int.add_mul_ediv_right _ _ (by decide : (400 : Int) ≠ 0),
    Int.emod_eq_of_lt years.1 years.2, Int.ediv_eq_zero_of_lt years.1 years.2]
  omega

end Day

variable {a b : Int}

theorem civilFromDays_lt (lt : a < b) : (civilFromDays a).year < (civilFromDays b).year ∨
      (civilFromDays a).year = (civilFromDays b).year ∧
        ((civilFromDays a).month < (civilFromDays b).month ∨
          (civilFromDays a).month = (civilFromDays b).month ∧
            (civilFromDays a).day < (civilFromDays b).day) := by
  have earlier : yearOfDay a < yearOfDay b ∨ yearOfDay a = yearOfDay b ∧
      dayOfYear (dayOfEra a) < dayOfYear (dayOfEra b) := by
    have eraA := dayOfEra_bounds a
    have eraB := dayOfEra_bounds b
    have yearsA := yearOfEra_bounds eraA.1 eraA.2
    have yearsB := yearOfEra_bounds eraB.1 eraB.2
    have splitA := dayOfEra_eq eraA.1 eraA.2
    have splitB := dayOfEra_eq eraB.1 eraB.2
    unfold yearOfDay
    by_cases same : (a + 719468) / 146097 = (b + 719468) / 146097
    · have inner : dayOfEra a < dayOfEra b := by
        unfold dayOfEra
        omega
      have mono := yearOfEra_mono eraA.1 inner.le eraB.2
      rcases mono.lt_or_eq with less | equal
      · omega
      · refine .inr ⟨by omega, ?_⟩
        rw [equal] at splitA
        omega
    · omega
  have monthsA := monthOfDay_bounds a
  have monthsB := monthOfDay_bounds b
  have later : yearOfDay a < yearOfDay b ∨ yearOfDay a = yearOfDay b ∧
      (monthOfDay a < monthOfDay b ∨
        monthOfDay a = monthOfDay b ∧ dayOfMonth a < dayOfMonth b) := by
    rcases earlier with less | ⟨same, less⟩
    · exact .inl less
    · refine .inr ⟨same, ?_⟩
      unfold dayOfMonth monthOfDay
      omega
  unfold civilFromDays
  split_ifs <;> simp only <;> omega

/-! ## Days and texts -/

theorem isDigit_digitChar (n : Nat) : (digitChar n).isDigit = true := by
  have digit : ∀ k < 10, (Char.ofNat (48 + k)).isDigit = true := by decide
  exact digit _ (Nat.mod_lt n (by decide))

@[simp] theorem digitValue_digitChar (n : Nat) : digitValue (digitChar n) = n % 10 := by
  have value : ∀ k < 10, (Char.ofNat (48 + k)).toNat - 48 = k := by decide
  exact value _ (Nat.mod_lt n (by decide))

variable {m n : Nat}

theorem digitChar_lt : digitChar m < digitChar n ↔ m % 10 < n % 10 := by
  have order : ∀ j < 10, ∀ k < 10, (Char.ofNat (48 + j) < Char.ofNat (48 + k) ↔ j < k) := by decide
  exact order _ (Nat.mod_lt m (by decide)) _ (Nat.mod_lt n (by decide))

theorem digitChar_inj : digitChar m = digitChar n ↔ m % 10 = n % 10 := by
  constructor
  · intro same
    have := congrArg digitValue same
    rwa [digitValue_digitChar, digitValue_digitChar] at this
  · intro same
    unfold digitChar
    rw [same]

variable {day : Int}

theorem toList_toIsoDate (four : FourDigitYear day) : (toIsoDate day).toList = pad4 (civilFromDays day).year.toNat ++
      '-' :: pad2 (civilFromDays day).month.toNat ++ '-' :: pad2 (civilFromDays day).day.toNat := by
  have year : 0 ≤ (civilFromDays day).year ∧ (civilFromDays day).year ≤ 9999 := four
  unfold toIsoDate isoYear
  simp only [String.toList_ofList]
  rw [if_pos year]
  rfl

theorem parseIsoDate_toIsoDate (four : FourDigitYear day) : parseIsoDate (toIsoDate day) = some day := by
  have months := month_civilFromDays day
  have days := dayOfMonth_bounds day
  rw [← day_civilFromDays] at days
  have years : 0 ≤ (civilFromDays day).year ∧ (civilFromDays day).year ≤ 9999 := four
  have named := daysFromCivil_civilFromDays day
  have text := toList_toIsoDate four
  obtain ⟨⟨year, month, dayNumber⟩, date⟩ : ∃ date, civilFromDays day = date := ⟨_, rfl⟩
  rw [date] at months days years named text
  simp only at months days years text
  have yearValue : ((year.toNat / 100 / 10 % 10 * 1000 + year.toNat / 100 % 10 * 100 +
      year.toNat / 10 % 10 * 10 + year.toNat % 10 : Nat) : Int) = year := by omega
  have monthValue : ((month.toNat / 10 % 10 * 10 + month.toNat % 10 : Nat) : Int) = month := by omega
  have dayValue : ((dayNumber.toNat / 10 % 10 * 10 + dayNumber.toNat % 10 : Nat) : Int) =
      dayNumber := by omega
  unfold parseIsoDate
  rw [text]
  simp only [pad4, pad2, List.cons_append, List.nil_append, List.all_cons, isDigit_digitChar,
    List.all_nil, Bool.and_self, if_true, digitValue_digitChar]
  rw [yearValue, monthValue, dayValue, named, if_pos]
  refine ⟨?_, ?_, ?_, ?_, rfl⟩ <;> omega

variable {text : String}

theorem toIsoDate_of_parse (parsed : parseIsoDate text = some day) : toIsoDate day = text := by
  unfold parseIsoDate at parsed
  split at parsed
  · simp only at parsed
    split_ifs at parsed with digits range
    obtain rfl := Option.some.inj parsed
    exact range.2.2.2.2
  · exact nomatch parsed

theorem fourDigitYear_of_parse (parsed : parseIsoDate text = some day) : FourDigitYear day := by
  have same := toIsoDate_of_parse parsed
  by_contra other
  unfold parseIsoDate at parsed
  split at parsed
  · rename_i y₁ y₂ y₃ y₄ m₁ m₂ d₁ d₂ chars
    simp only at parsed
    split_ifs at parsed with digits
    have first : y₁.isDigit = true := List.all_eq_true.mp digits y₁ List.mem_cons_self
    rw [← same] at chars
    -- Outside these years the text starts with a sign.
    have sign : ¬(0 ≤ (civilFromDays day).year ∧ (civilFromDays day).year ≤ 9999) := other
    unfold toIsoDate isoYear at chars
    simp only [String.toList_ofList] at chars
    rw [if_neg sign] at chars
    simp only [List.cons_append, List.take_succ_cons] at chars
    have head := (List.cons.inj chars).1
    split_ifs at head <;> subst head <;> exact absurd first (by decide)
  · exact nomatch parsed

theorem isIsoDateShape_of_parse (parsed : (parseIsoDate text).isSome) : isIsoDateShape text = true := by
  unfold parseIsoDate at parsed
  unfold isIsoDateShape
  split at parsed
  · split at parsed
    · assumption
    · exact nomatch parsed
  · exact nomatch parsed

variable {s t : List Char}

theorem pad2_append_lt (hm : m < 100) (hn : n < 100) : pad2 m ++ s < pad2 n ++ t ↔ m < n ∨ m = n ∧ s < t := by
  simp only [pad2, List.cons_append, List.nil_append, List.cons_lt_cons_iff, digitChar_lt,
    digitChar_inj]
  by_cases less : s < t <;> simp only [less, and_true, and_false, or_false] <;> omega

theorem pad4_append_lt (hm : m < 10000) (hn : n < 10000) : pad4 m ++ s < pad4 n ++ t ↔ m < n ∨ m = n ∧ s < t := by
  have low (k : Nat) : pad2 k = pad2 (k % 100) := by
    simp only [pad2, List.cons.injEq, digitChar_inj, and_true]
    omega
  unfold pad4
  rw [low m, low n, List.append_assoc, List.append_assoc, pad2_append_lt (by omega) (by omega),
    pad2_append_lt (by omega) (by omega)]
  by_cases less : s < t <;> simp only [less, and_true, and_false, or_false] <;> omega

theorem FourDigitYear.between {a b day : Int} (fourA : FourDigitYear a) (fourB : FourDigitYear b)
    (after : a ≤ day) (before : day ≤ b) : FourDigitYear day := by
  have low : (civilFromDays a).year ≤ (civilFromDays day).year := by
    rcases after.eq_or_lt with rfl | lt
    · exact le_rfl
    · have := civilFromDays_lt lt
      omega
  have high : (civilFromDays day).year ≤ (civilFromDays b).year := by
    rcases before.eq_or_lt with rfl | lt
    · exact le_rfl
    · have := civilFromDays_lt lt
      omega
  exact ⟨fourA.1.trans low, high.trans fourB.2⟩

/-- The order of ISO texts is the order of the days, and then that of what follows. -/
theorem isoDay_append_lt (fourA : FourDigitYear a) (fourB : FourDigitYear b) :
    isoDay a ++ s < isoDay b ++ t ↔ a < b ∨ a = b ∧ s < t := by
  have monthA := month_civilFromDays a
  have monthB := month_civilFromDays b
  have dayA := dayOfMonth_bounds a
  have dayB := dayOfMonth_bounds b
  rw [← day_civilFromDays] at dayA dayB
  have yearA : 0 ≤ (civilFromDays a).year ∧ (civilFromDays a).year ≤ 9999 := fourA
  have yearB : 0 ≤ (civilFromDays b).year ∧ (civilFromDays b).year ≤ 9999 := fourB
  unfold isoDay isoYear
  dsimp only
  rw [if_pos yearA, if_pos yearB]
  simp only [List.append_assoc, List.cons_append]
  rw [pad4_append_lt (by omega) (by omega), List.cons_lt_cons_iff, pad2_append_lt (by omega) (by omega),
    List.cons_lt_cons_iff, pad2_append_lt (by omega) (by omega)]
  simp only [lt_irrefl, true_and, false_or]
  rcases lt_trichotomy a b with before | rfl | after
  · have dates := civilFromDays_lt before
    have apart : a ≠ b := before.ne
    by_cases less : s < t <;> simp only [less, before, true_or, and_true, and_false, or_false, iff_true] <;> omega
  · simp
  · have dates := civilFromDays_lt after
    have apart : a ≠ b := after.ne'
    have late : ¬a < b := after.not_gt
    by_cases less : s < t <;> simp only [less, apart, late, or_false, and_true, and_false, iff_false] <;>
      omega

theorem toIsoDate_lt (fourA : FourDigitYear a) (fourB : FourDigitYear b) : toIsoDate a < toIsoDate b ↔ a < b := by
  have text {day : Int} (four : FourDigitYear day) : (toIsoDate day).toList = isoDay day ++ [] := by
    unfold isoDay isoYear
    dsimp only
    rw [toList_toIsoDate four, List.append_nil]
    exact congrArg (· ++ _ ++ _) (if_pos four).symm
  rw [String.lt_iff_toList_lt, text fourA, text fourB, isoDay_append_lt fourA fourB]
  simp

theorem pad3_append_lt (hm : m < 1000) (hn : n < 1000) : pad3 m ++ s < pad3 n ++ t ↔ m < n ∨ m = n ∧ s < t := by
  have low (k : Nat) : pad2 k = pad2 (k % 100) := by
    simp only [pad2, List.cons.injEq, digitChar_inj, and_true]
    omega
  unfold pad3
  rw [low m, low n, List.cons_append, List.cons_append, List.cons_lt_cons_iff,
    pad2_append_lt (by omega) (by omega), digitChar_lt, digitChar_inj]
  by_cases less : s < t <;> simp only [less, and_true, and_false, or_false] <;> omega

/-- The order of ISO texts of instants is the order of the instants. -/
theorem toIsoTimestamp_lt (fourA : FourDigitYear (a / 86400000))
    (fourB : FourDigitYear (b / 86400000)) : toIsoTimestamp a < toIsoTimestamp b ↔ a < b := by
  have timeA : (a % 86400000).toNat < 86400000 := by omega
  have timeB : (b % 86400000).toNat < 86400000 := by omega
  have times : isoTime a < isoTime b ↔ (a % 86400000).toNat < (b % 86400000).toNat := by
    unfold isoTime
    dsimp only
    generalize (a % 86400000).toNat = x at *
    generalize (b % 86400000).toNat = y at *
    simp only [List.cons_append, List.append_assoc, List.cons_lt_cons_iff, lt_irrefl, true_and, false_or]
    rw [pad2_append_lt (by omega) (by omega), List.cons_lt_cons_iff, pad2_append_lt (by omega) (by omega),
      List.cons_lt_cons_iff, pad2_append_lt (by omega) (by omega), List.cons_lt_cons_iff,
      pad3_append_lt (by omega) (by omega)]
    simp only [lt_irrefl, true_and, false_or, and_false, or_false]
    omega
  unfold toIsoTimestamp
  rw [String.lt_iff_toList_lt, String.toList_ofList, String.toList_ofList, isoDay_append_lt fourA fourB, times]
  omega

end Lib
