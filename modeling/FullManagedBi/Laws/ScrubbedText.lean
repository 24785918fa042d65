import FullManagedBi.OrderManagement.RowContract

/-!
# The check of a scrubbed text

The collector scrubs a text and then cuts it; the contract checks what is left of it. A cut can make personal data
out of a text that has none: a landline number with a separator may lose the digit that made it too long
(`SplitLandline`), and a word with an address at its start may lose what follows the address (`SplitAddress`).
Nothing else can (`found_cut_iff`): the other patterns look at nothing behind what they match, or match no more than
`LONG_DIGITS_PATTERN` does. Facts and details pass the check exactly when no value of theirs is cut so.
-/

namespace FullManagedBi.OrderManagement

open Lib

variable {front rest middle : List Char}

/-! ## What the patterns match -/

theorem matches_oneOf {p : Char → Bool} : (oneOf p).Matches front middle rest ↔ ∃ c, middle = [c] ∧ p c = true := by
  unfold oneOf
  rw [matches_times]
  constructor
  · rintro ⟨all, low, high⟩
    obtain ⟨c, rfl⟩ := List.length_eq_one_iff.mp (Nat.le_antisymm (high 1 rfl) low)
    exact ⟨c, rfl, all c (List.mem_singleton_self c)⟩
  · rintro ⟨c, rfl, inside⟩
    refine ⟨fun d mem => List.mem_singleton.mp mem ▸ inside, Nat.le_refl 1, ?_⟩
    rintro bound same
    exact (Option.some.inj same).le

def Digits (text : List Char) : Prop := ∀ c ∈ text, c.isDigit = true

theorem matches_longDigits : longDigitsPattern.Matches front middle rest ↔ Digits middle ∧ 11 ≤ middle.length := by
  unfold longDigitsPattern
  rw [matches_times]
  exact ⟨fun fits => ⟨fits.1, fits.2.1⟩, fun fits => ⟨fits.1, fits.2, nofun⟩⟩

theorem longDigits_of_digits (front : List Char) {digits : List Char} (all : Digits digits) (long : 11 ≤ digits.length)
    (rest : List Char) : longDigitsPattern.test (front ++ digits ++ rest) = true :=
  Pattern.test_iff.mpr ⟨front, digits, rest, rfl, (matches_longDigits).mpr ⟨all, long⟩⟩

theorem longDigits_of_phone {text : List Char} (phone : phonePattern.test text = true) :
    longDigitsPattern.test text = true := by
  obtain ⟨front, middle, rest, rfl, matched⟩ := Pattern.test_iff.mp phone
  unfold phonePattern phoneNumber at matched
  obtain ⟨none, number, rfl, behind, matched⟩ := matches_seq.mp matched
  obtain ⟨rfl, -⟩ := matches_notBehind.mp behind
  obtain ⟨digits, none, rfl, number, ahead⟩ := matches_seq.mp matched
  obtain ⟨rfl, -⟩ := matches_notAhead.mp ahead
  obtain ⟨one, second, rfl, first, number⟩ := matches_seq.mp number
  obtain ⟨one, rfl, isOne⟩ := (matches_oneOf).mp first
  obtain ⟨two, others, rfl, second, nine⟩ := matches_seq.mp number
  obtain ⟨two, rfl, isTwo⟩ := (matches_oneOf).mp second
  obtain ⟨all, nine, -⟩ := matches_times.mp nine
  have digits : Digits (one :: two :: others) := by
    intro c mem
    rcases List.mem_cons.mp mem with rfl | mem
    · rw [of_decide_eq_true isOne]
      rfl
    rcases List.mem_cons.mp mem with rfl | mem
    · simp only [Bool.and_eq_true, decide_eq_true_eq] at isTwo
      have zero : ('0' : Char) ≤ '3' := by decide
      simp only [Char.isDigit, Bool.and_eq_true, decide_eq_true_eq]
      exact ⟨zero.trans isTwo.1, isTwo.2⟩
    · exact all c mem
  have long : 11 ≤ (one :: two :: others).length := by
    rw [List.length_cons, List.length_cons]
    omega
  simpa using longDigits_of_digits front digits long rest

/-- A landline number: zero, an area code, a separator or none, and a number. -/
structure Landline (middle area separator number : List Char) : Prop where
  split : middle = '0' :: area ++ separator ++ number
  inArea : Digits area
  areaLength : 2 ≤ area.length ∧ area.length ≤ 3
  inSeparator : ∀ c ∈ separator, isSeparator c = true
  separatorLength : separator.length ≤ 1
  inNumber : Digits number
  numberLength : 7 ≤ number.length ∧ number.length ≤ 8

theorem matches_landlineNumber : landlineNumber.Matches front middle rest ↔
    ∃ area separator number, Landline middle area separator number := by
  unfold landlineNumber
  constructor
  · intro matched
    obtain ⟨zero, others, rfl, first, matched⟩ := matches_seq.mp matched
    obtain ⟨zero, rfl, isZero⟩ := (matches_oneOf).mp first
    obtain ⟨area, others, rfl, inArea, matched⟩ := matches_seq.mp matched
    obtain ⟨separator, number, rfl, between, inNumber⟩ := matches_seq.mp matched
    obtain ⟨area_digits, area_low, area_high⟩ := matches_times.mp inArea
    obtain ⟨separators, -, one⟩ := matches_times.mp between
    obtain ⟨number_digits, number_low, number_high⟩ := matches_times.mp inNumber
    refine ⟨area, separator, number, ?_, area_digits, ⟨area_low, area_high 3 rfl⟩, separators, one 1 rfl,
      number_digits, number_low, number_high 8 rfl⟩
    rw [of_decide_eq_true isZero]
    simp
  · rintro ⟨area, separator, number, landline⟩
    rw [landline.split, List.append_assoc]
    refine matches_seq.mpr ⟨['0'], area ++ (separator ++ number), rfl, (matches_oneOf).mpr ⟨'0', rfl, rfl⟩, ?_⟩
    refine matches_seq.mpr ⟨area, separator ++ number, rfl, ?_, matches_seq.mpr ⟨separator, number, rfl, ?_, ?_⟩⟩
    · refine matches_times.mpr ⟨landline.inArea, landline.areaLength.1, ?_⟩
      rintro bound same
      obtain rfl := Option.some.inj same
      exact landline.areaLength.2
    · refine matches_times.mpr ⟨landline.inSeparator, Nat.zero_le _, ?_⟩
      rintro bound same
      obtain rfl := Option.some.inj same
      exact landline.separatorLength
    · refine matches_times.mpr ⟨landline.inNumber, landline.numberLength.1, ?_⟩
      rintro bound same
      obtain rfl := Option.some.inj same
      exact landline.numberLength.2

theorem matches_landline : landlinePattern.Matches front middle rest ↔
    holds Char.isDigit front.getLast? = false ∧ (∃ area separator number, Landline middle area separator number) ∧
      holds Char.isDigit rest.head? = false := by
  unfold landlinePattern
  constructor
  · intro matched
    obtain ⟨none, number, rfl, behind, matched⟩ := matches_seq.mp matched
    obtain ⟨rfl, before⟩ := matches_notBehind.mp behind
    obtain ⟨number, none, rfl, number_matched, ahead⟩ := matches_seq.mp matched
    obtain ⟨rfl, after⟩ := matches_notAhead.mp ahead
    refine ⟨before, ?_, after⟩
    rw [List.nil_append, List.append_nil]
    exact (matches_landlineNumber).mp number_matched
  · rintro ⟨before, landline, after⟩
    refine matches_seq.mpr ⟨[], middle, rfl, matches_notBehind.mpr ⟨rfl, before⟩, ?_⟩
    refine matches_seq.mpr ⟨middle, [], (List.append_nil _).symm, (matches_landlineNumber).mpr landline, ?_⟩
    exact matches_notAhead.mpr ⟨rfl, after⟩

structure Address (middle mailbox domain label : List Char) : Prop where
  split : middle = mailbox ++ '@' :: domain ++ '.' :: label
  inMailbox : ∀ c ∈ mailbox, isMailboxChar c = true
  mailboxLength : 1 ≤ mailbox.length
  inDomain : ∀ c ∈ domain, isDomainChar c = true
  domainLength : 1 ≤ domain.length
  inLabel : ∀ c ∈ label, c.isAlpha = true
  labelLength : 2 ≤ label.length

theorem matches_emailAddress : emailAddress.Matches front middle rest ↔
    ∃ mailbox domain label, Address middle mailbox domain label := by
  unfold emailAddress
  constructor
  · intro matched
    obtain ⟨mailbox, others, rfl, inMailbox, matched⟩ := matches_seq.mp matched
    obtain ⟨ampersat, others, rfl, first, matched⟩ := matches_seq.mp matched
    obtain ⟨ampersat, rfl, isAmpersat⟩ := (matches_oneOf).mp first
    obtain ⟨domain, others, rfl, inDomain, matched⟩ := matches_seq.mp matched
    obtain ⟨dot, label, rfl, second, inLabel⟩ := matches_seq.mp matched
    obtain ⟨dot, rfl, isDot⟩ := (matches_oneOf).mp second
    obtain ⟨mailbox_chars, mailbox_low, -⟩ := matches_times.mp inMailbox
    obtain ⟨domain_chars, domain_low, -⟩ := matches_times.mp inDomain
    obtain ⟨letters, label_low, -⟩ := matches_times.mp inLabel
    refine ⟨mailbox, domain, label, ?_, mailbox_chars, mailbox_low, domain_chars, domain_low, letters, label_low⟩
    rw [of_decide_eq_true isAmpersat, of_decide_eq_true isDot]
    simp
  · rintro ⟨mailbox, domain, label, address⟩
    rw [address.split, List.append_assoc]
    refine matches_seq.mpr ⟨mailbox, _, rfl, matches_times.mpr ⟨address.inMailbox, address.mailboxLength, nofun⟩, ?_⟩
    refine matches_seq.mpr ⟨['@'], domain ++ '.' :: label, rfl, (matches_oneOf).mpr ⟨'@', rfl, rfl⟩, ?_⟩
    refine matches_seq.mpr ⟨domain, '.' :: label, rfl,
      matches_times.mpr ⟨address.inDomain, address.domainLength, nofun⟩, ?_⟩
    refine matches_seq.mpr ⟨['.'], label, rfl, (matches_oneOf).mpr ⟨'.', rfl, rfl⟩, ?_⟩
    exact matches_times.mpr ⟨address.inLabel, address.labelLength, nofun⟩

theorem matches_email : emailPattern.Matches front middle rest ↔
    holds isWordChar front.getLast? ≠ holds isWordChar middle.head? ∧
      (∃ mailbox domain label, Address middle mailbox domain label) ∧ holds isWordChar rest.head? = false := by
  have some_head : ∀ {mailbox domain label : List Char}, Address middle mailbox domain label →
      (middle ++ rest).head? = middle.head? := by
    intro mailbox domain label address
    have positive := address.mailboxLength
    rw [address.split]
    cases mailbox with
    | nil => exact nomatch positive
    | cons c mailbox => rfl
  have letter_last : ∀ {mailbox domain label : List Char}, Address middle mailbox domain label →
      holds isWordChar (front ++ middle).getLast? = true := by
    intro mailbox domain label address
    obtain ⟨start, c, rfl⟩ : ∃ start c, label = start ++ [c] := by
      rcases List.eq_nil_or_concat label with rfl | ⟨start, c, rfl⟩
      · exact nomatch address.labelLength
      · exact ⟨start, c, List.concat_eq_append ..⟩
    have letter := address.inLabel c (List.mem_append_right _ (List.mem_singleton_self c))
    have split : front ++ middle = (front ++ mailbox ++ '@' :: domain ++ '.' :: start) ++ [c] := by
      rw [address.split]
      simp
    rw [split, List.getLast?_concat]
    simp [holds, isWordChar, Char.isAlphanum, letter]
  unfold emailPattern
  constructor
  · intro matched
    obtain ⟨none, others, rfl, start, matched⟩ := matches_seq.mp matched
    obtain ⟨rfl, before⟩ := matches_boundary.mp start
    obtain ⟨middle, none, rfl, address, stop⟩ := matches_seq.mp matched
    obtain ⟨rfl, after⟩ := matches_boundary.mp stop
    obtain ⟨mailbox, domain, label, address⟩ := (matches_emailAddress).mp address
    rw [List.nil_append, List.append_nil] at *
    rw [some_head address] at before
    rw [letter_last address] at after
    exact ⟨before, ⟨mailbox, domain, label, address⟩, by simpa using after.symm⟩
  · rintro ⟨before, ⟨mailbox, domain, label, address⟩, after⟩
    refine matches_seq.mpr ⟨[], middle, rfl, matches_boundary.mpr ⟨rfl, ?_⟩, ?_⟩
    · rw [some_head address]
      exact before
    refine matches_seq.mpr ⟨middle, [], (List.append_nil _).symm, ?_, matches_boundary.mpr ⟨rfl, ?_⟩⟩
    · exact (matches_emailAddress).mpr ⟨mailbox, domain, label, address⟩
    · rw [List.append_nil, letter_last address, after]
      decide

/-! ## Cuts -/

/-- What a cut leaves behind the characters it keeps: nothing, or half of a character of two code units. -/
def Stump (c : Char) (stump : List Char) : Prop := stump = [] ∨ 0x10000 ≤ c.toNat ∧ stump = ['\uFFFD']

/-- **What a pattern finds in a cut text it finds in the text, unless it finds it at the very end of the cut and looks
at what is behind.** -/
theorem test_cut {P : Pattern} {c : Char} {stump : List Char} (cut : Stump c stump)
    (some_char : 0 < P.least) (unused : P.uses '\uFFFD' = false)
    (wide : 0x10000 ≤ c.toNat → P.Alike (some '\uFFFD') (some c)) (found : P.test (front ++ stump) = true) :
    P.test (front ++ c :: rest) = true ∨ stump = [] ∧ ¬P.Alike none (some c) ∧
      ∃ lead middle, front = lead ++ middle ∧ P.Matches lead middle [] := by
  obtain ⟨lead, middle, behind, split, matched⟩ := Pattern.test_iff.mp found
  rcases cut with rfl | ⟨isWide, rfl⟩
  · rw [List.append_nil] at split
    cases behind with
    | nil =>
      rw [List.append_nil] at split
      by_cases alike : P.Alike none (some c)
      · left
        exact Pattern.test_iff.mpr ⟨lead, middle, c :: rest, by rw [split], Pattern.matches_behind matched alike⟩
      · exact .inr ⟨rfl, alike, lead, middle, split, matched⟩
    | cons d behind =>
      left
      refine Pattern.test_iff.mpr ⟨lead, middle, d :: behind ++ c :: rest, ?_, ?_⟩
      · rw [split, List.append_assoc]
      · exact Pattern.matches_behind matched (Pattern.Alike.refl P (some d))
  · left
    rcases List.eq_nil_or_concat behind with rfl | ⟨behind, d, rfl⟩
    · -- the last character of a match is one of the pattern's own
      rcases List.eq_nil_or_concat middle with rfl | ⟨middle, d, rfl⟩
      · exact absurd (some_char.trans_le (Pattern.least_le_length matched)) (Nat.lt_irrefl 0)
      · rw [List.concat_eq_append, List.append_nil, ← List.append_assoc] at split
        obtain ⟨-, last⟩ := List.append_inj' split rfl
        obtain rfl := List.singleton_inj.mp last
        have used := Pattern.uses_of_mem matched (by simp : '\uFFFD' ∈ middle.concat '\uFFFD')
        rw [unused] at used
        exact nomatch used
    · rw [List.concat_eq_append, ← List.append_assoc] at split
      obtain ⟨split, last⟩ := List.append_inj' split rfl
      obtain rfl := List.singleton_inj.mp last
      obtain rfl := List.append_cancel_right split
      refine Pattern.test_iff.mpr ⟨lead, middle, behind ++ c :: rest, by rw [List.append_assoc _ behind], ?_⟩
      apply Pattern.matches_behind matched
      cases behind with
      | nil => exact wide isWide
      | cons d behind => exact Pattern.Alike.refl P (some d)

/-- A pattern without assertions finds in a cut text only what it finds in the text. -/
theorem test_cut_of_plain {P : Pattern} (plain : P.Plain) {c : Char} {stump : List Char} (cut : Stump c stump)
    (some_char : 0 < P.least) (unused : P.uses '\uFFFD' = false) (found : P.test (front ++ stump) = true) :
    P.test (front ++ c :: rest) = true := by
  rcases test_cut cut some_char unused (fun _ => plain.alike _ _) found with whole | ⟨-, differ, -⟩
  · exact whole
  · exact absurd (plain.alike _ _) differ

/-- The cut takes the digit behind a landline number that has a separator. -/
def SplitLandline (front rest : List Char) : Prop :=
  ∃ lead middle area separator number, front = lead ++ middle ∧ holds Char.isDigit lead.getLast? = false ∧
    Landline middle area [separator] number ∧ holds Char.isDigit rest.head? = true

/-- The cut takes the word character behind what starts like a mail address. -/
def SplitAddress (front rest : List Char) : Prop :=
  ∃ lead middle mailbox domain label, front = lead ++ middle ∧
    holds isWordChar lead.getLast? ≠ holds isWordChar middle.head? ∧ Address middle mailbox domain label ∧
    holds isWordChar rest.head? = true

theorem hasPersonalData_iff {text : List Char} : hasPersonalData (String.ofList text) = true ↔
    longDigitsPattern.test text = true ∨ landlinePattern.test text = true ∨ emailPattern.test text = true ∨
      sensitiveTextPattern.test text = true := by
  unfold hasPersonalData containsNumericPii containsSensitiveText
  rw [String.toList_ofList]
  simp only [Bool.or_eq_true]
  constructor
  · rintro ((phone | long) | ((phone | landline) | email) | sensitive)
    · exact .inl (longDigits_of_phone phone)
    · exact .inl long
    · exact .inl (longDigits_of_phone phone)
    · exact .inr (.inl landline)
    · exact .inr (.inr (.inl email))
    · exact .inr (.inr (.inr sensitive))
  · rintro (long | landline | email | sensitive)
    · exact .inl (.inr long)
    · exact .inr (.inl (.inl (.inr landline)))
    · exact .inr (.inl (.inr email))
    · exact .inr (.inr sensitive)

/-- A character of two code units is no digit and no word character. -/
theorem wide_char {c : Char} (wide : 0x10000 ≤ c.toNat) : c.isDigit = false ∧ isWordChar c = false := by
  have large : ∀ d : Char, d.toNat < 0x10000 → ¬c ≤ d := by
    intro d small le
    have : c.toNat ≤ d.toNat := le
    omega
  have not_digit : c.isDigit = false := by
    simp only [Char.isDigit, Bool.and_eq_false_iff, decide_eq_false_iff_not]
    exact .inr (large '9' (by decide))
  have not_upper : c.isUpper = false := by
    rw [Char.isUpper, decide_eq_false_iff_not]
    exact fun both => large 'Z' (by decide) both.2
  have not_lower : c.isLower = false := by
    simp only [Char.isLower, Bool.and_eq_false_iff, decide_eq_false_iff_not]
    exact .inr (large 'z' (by decide))
  have not_underscore : c ≠ '_' := by
    rintro rfl
    exact absurd wide (by decide)
  simp [isWordChar, Char.isAlphanum, Char.isAlpha, not_digit, not_upper, not_lower, not_underscore]

theorem plain_longDigits : longDigitsPattern.Plain := trivial

theorem plain_sensitiveText : sensitiveTextPattern.Plain := by
  unfold sensitiveTextPattern anyOf textPattern
  simp [Pattern.Plain, Pattern.plain_word]

variable {c : Char} {stump : List Char}

/-- A landline number at the end of a cut. Without a separator, the digit behind it makes eleven of them. -/
theorem landline_cut (short : ¬longDigitsPattern.test (front ++ c :: rest) = true)
    (absent : ¬landlinePattern.test (front ++ c :: rest) = true) (cut : Stump c stump)
    (found : landlinePattern.test (front ++ stump) = true) : stump = [] ∧ SplitLandline front (c :: rest) := by
  have wide : 0x10000 ≤ c.toNat → landlinePattern.Alike (some '\uFFFD') (some c) := fun isWide =>
    ⟨trivial, ⟨trivial, trivial, trivial, trivial⟩, (wide_char isWide).1.symm⟩
  rcases test_cut cut (by decide) (by decide) wide found with whole | ⟨rfl, differ, lead, middle, rfl, matched⟩
  · exact absurd whole absent
  refine ⟨rfl, ?_⟩
  obtain ⟨before, ⟨area, separator, number, landline⟩, -⟩ := (matches_landline).mp matched
  have digit : c.isDigit = true := by
    by_contra other
    exact differ ⟨trivial, ⟨trivial, trivial, trivial, trivial⟩, (Bool.not_eq_true _ ▸ other).symm⟩
  cases separator with
  | nil =>
    exfalso
    apply short
    have all : Digits (middle ++ [c]) := by
      rw [landline.split]
      intro d mem
      simp only [List.append_nil, List.mem_append, List.mem_cons, List.not_mem_nil, or_false] at mem
      rcases mem with ((rfl | inArea) | inNumber) | rfl
      · rfl
      · exact landline.inArea d inArea
      · exact landline.inNumber d inNumber
      · exact digit
    have long : 11 ≤ (middle ++ [c]).length := by
      rw [landline.split]
      have area_low := landline.areaLength.1
      have number_low := landline.numberLength.1
      simp only [List.append_nil, List.length_append, List.length_cons, List.length_nil]
      omega
    simpa using longDigits_of_digits lead all long rest
  | cons s more =>
    have one := landline.separatorLength
    rw [List.length_cons] at one
    obtain rfl := List.eq_nil_of_length_eq_zero (by omega : more.length = 0)
    exact ⟨lead, middle, area, s, number, rfl, before, landline, digit⟩

theorem email_cut (absent : ¬emailPattern.test (front ++ c :: rest) = true) (cut : Stump c stump)
    (found : emailPattern.test (front ++ stump) = true) : stump = [] ∧ SplitAddress front (c :: rest) := by
  have wide : 0x10000 ≤ c.toNat → emailPattern.Alike (some '\uFFFD') (some c) := fun isWide =>
    ⟨(wide_char isWide).2.symm, ⟨trivial, trivial, trivial, trivial, trivial⟩, (wide_char isWide).2.symm⟩
  rcases test_cut cut (by decide) (by decide) wide found with whole | ⟨rfl, differ, lead, middle, rfl, matched⟩
  · exact absurd whole absent
  refine ⟨rfl, ?_⟩
  obtain ⟨before, ⟨mailbox, domain, label, address⟩, -⟩ := (matches_email).mp matched
  have word : isWordChar c = true := by
    by_contra other
    have not_word : false = isWordChar c := (Bool.not_eq_true _ ▸ other).symm
    exact differ ⟨not_word, ⟨trivial, trivial, trivial, trivial, trivial⟩, not_word⟩
  exact ⟨lead, middle, mailbox, domain, label, rfl, before, address, word⟩

/-- **What a cut does to a text without personal data**: the check finds some exactly when the cut takes what is
behind a landline number or behind the start of a mail address. -/
theorem found_cut_iff (clean : hasPersonalData (String.ofList (front ++ c :: rest)) = false) (cut : Stump c stump) :
    hasPersonalData (String.ofList (front ++ stump)) = true ↔
      stump = [] ∧ (SplitLandline front (c :: rest) ∨ SplitAddress front (c :: rest)) := by
  rw [← Bool.not_eq_true, hasPersonalData_iff] at clean
  simp only [not_or] at clean
  obtain ⟨no_long, no_landline, no_email, no_sensitive⟩ := clean
  rw [hasPersonalData_iff]
  constructor
  · rintro (long | landline | email | sensitive)
    · exact absurd (test_cut_of_plain plain_longDigits cut (by decide) (by decide) long) no_long
    · obtain ⟨none, split⟩ := landline_cut no_long no_landline cut landline
      exact ⟨none, .inl split⟩
    · obtain ⟨none, split⟩ := email_cut no_email cut email
      exact ⟨none, .inr split⟩
    · exact absurd (test_cut_of_plain plain_sensitiveText cut (by decide) (by decide) sensitive) no_sensitive
  · rintro ⟨rfl, split⟩
    rw [List.append_nil]
    rcases split with ⟨lead, middle, area, s, number, rfl, before, landline, -⟩ |
      ⟨lead, middle, mailbox, domain, label, rfl, before, address, -⟩
    · right
      left
      exact Pattern.test_iff.mpr ⟨lead, middle, [], (List.append_nil _).symm,
        (matches_landline).mpr ⟨before, ⟨area, [s], number, landline⟩, rfl⟩⟩
    · right
      right
      left
      exact Pattern.test_iff.mpr ⟨lead, middle, [], (List.append_nil _).symm,
        (matches_email).mpr ⟨before, ⟨mailbox, domain, label, address⟩, rfl⟩⟩

/-! ## Entries -/

/-- The scrubbed text of the value has no personal data, and the cut makes some out of it. -/
def CutApart (maximum : Nat) (value : Option Json) : Prop :=
  hasPersonalData (jsTrim (textOrEmpty value)) = false ∧
    ∃ front rest, (jsTrim (textOrEmpty value)).toList = front ++ rest ∧ codeUnits front = maximum ∧
      (SplitLandline front rest ∨ SplitAddress front rest)

variable {value : Option Json} {text : String}

theorem scrubPiiText_eq_some_iff : scrubPiiText value = some text ↔
    text ≠ "" ∧ hasPersonalData text = false ∧ text = jsTrim (textOrEmpty value) := by
  unfold scrubPiiText
  dsimp only
  constructor
  · intro scrubbed
    split at scrubbed
    · exact nomatch scrubbed
    · next some_text =>
      split at scrubbed
      · exact nomatch scrubbed
      · next clean =>
        obtain rfl := Option.some.inj scrubbed
        exact ⟨some_text, Bool.not_eq_true _ ▸ clean, rfl⟩
  · rintro ⟨some_text, clean, rfl⟩
    rw [if_neg some_text, clean, if_neg Bool.false_ne_true]

theorem rest_of_split (split : SplitLandline front rest ∨ SplitAddress front rest) : ∃ c after, rest = c :: after := by
  cases rest with
  | cons c after => exact ⟨c, after, rfl⟩
  | nil =>
    rcases split with ⟨_, _, _, _, _, _, _, _, digit⟩ | ⟨_, _, _, _, _, _, _, _, word⟩
    · exact nomatch digit
    · exact nomatch word

variable {maximum : Nat}

theorem sliceText_found_iff (scrubbed : scrubPiiText value = some text) :
    hasPersonalData (sliceText maximum text) = true ↔ CutApart maximum value := by
  obtain ⟨-, clean, rfl⟩ := (scrubPiiText_eq_some_iff).mp scrubbed
  unfold sliceText CutApart
  constructor
  · intro found
    refine ⟨clean, ?_⟩
    rcases jsSlice_cases maximum (jsTrim (textOrEmpty value)).toList with whole | ⟨front, c, rest, split, cut⟩
    · rw [whole, String.ofList_toList, clean] at found
      exact nomatch found
    · rw [← String.ofList_toList (s := jsTrim (textOrEmpty value)), split] at clean
      rcases cut with ⟨units, cut⟩ | ⟨wide, cut⟩
      · rw [cut, ← List.append_nil front] at found
        exact ⟨front, c :: rest, split, units, ((found_cut_iff clean (.inl rfl)).mp found).2⟩
      · rw [cut] at found
        exact nomatch ((found_cut_iff clean (.inr ⟨wide, rfl⟩)).mp found).1
  · rintro ⟨-, front, rest, split, rfl, parts⟩
    obtain ⟨c, after, rfl⟩ := rest_of_split parts
    rw [← String.ofList_toList (s := jsTrim (textOrEmpty value)), split] at clean
    rw [split, jsSlice_append, ← List.append_nil front]
    exact (found_cut_iff clean (.inl rfl)).mpr ⟨rfl, parts⟩

theorem CutApart.scrubbed (apart : CutApart maximum value) : ∃ text, scrubPiiText value = some text := by
  obtain ⟨clean, front, rest, split, -, parts⟩ := apart
  refine ⟨_, (scrubPiiText_eq_some_iff).mpr ⟨?_, clean, rfl⟩⟩
  intro none
  obtain ⟨c, after, rfl⟩ := rest_of_split parts
  rw [none] at split
  exact nomatch (List.append_eq_nil_iff.mp split.symm).2

/-- What was built for a value (an entry, or none) passes the check exactly when the condition holds. -/
def PassesWhen (pageId : PageId) (kind : String) (built : Option Json) (condition : Prop) : Prop :=
  match built with
  | none => condition
  | some entry => ∀ index, entryError pageId kind index entry = none ↔ condition

variable {pageId : PageId} {name normalized : String}

theorem name_ne_empty (allowed : assertAllowlistedFieldName pageId name = .ok normalized) : name ≠ "" := by
  rintro rfl
  cases pageId <;> exact nomatch allowed

theorem entryError_text (allowed : assertAllowlistedFieldName pageId name = .ok normalized) (text : String)
    (kind : String) (index : Nat) :
    entryError pageId kind index (entryJson name (.str text)) = none ↔ ¬hasPersonalData text = true := by
  have value : (entryJson name (.str text)).field? "value" = some (.str text) := rfl
  show (if name = "" then _ else _) = none ↔ _
  rw [if_neg (name_ne_empty allowed), allowed]
  dsimp only
  rw [value]
  dsimp only
  split
  · next found => exact iff_of_false (Option.some_ne_none _) (not_not_intro found)
  · next clean => exact iff_of_true rfl clean

theorem entryError_num (allowed : assertAllowlistedFieldName pageId name = .ok normalized) (n : JsNumber)
    (kind : String) (index : Nat) : entryError pageId kind index (entryJson name (.num n)) = none := by
  have value : (entryJson name (.num n)).field? "value" = some (.num n) := rfl
  show (if name = "" then _ else _) = none
  rw [if_neg (name_ne_empty allowed), allowed]
  dsimp only
  rw [value]

theorem textEntry_eq_ok (allowed : assertAllowlistedFieldName pageId name = .ok normalized)
    (scrubbed : scrubPiiText value = some text) :
    textEntry maximum pageId name value = .ok (some (entryJson name (.str (sliceText maximum text)))) := by
  unfold textEntry
  rw [allowed, scrubbed]
  rfl

theorem textEntry_passes {built : Option Json}
    (done : textEntry maximum pageId name value = .ok built) (kind : String) :
    PassesWhen pageId kind built (¬CutApart maximum value) := by
  obtain ⟨normalized, allowed, built_eq⟩ := bind_eq_ok done
  obtain rfl := Except.ok.inj built_eq
  cases scrubbed : scrubPiiText value with
  | none =>
    intro apart
    obtain ⟨text, kept⟩ := apart.scrubbed
    exact nomatch (scrubbed).symm.trans kept
  | some text =>
    intro index
    rw [entryError_text allowed, sliceText_found_iff scrubbed]

theorem detail_passes {built : Option Json} (done : detail pageId name value = .ok built)
    (kind : String) : PassesWhen pageId kind built ((∃ n, value = some (.num n)) ∨ ¬CutApart 256 value) := by
  obtain ⟨normalized, allowed, done⟩ := bind_eq_ok done
  have text : ∀ {json : Json}, textEntry 256 pageId name (some json) = .ok built → (∀ n, json ≠ .num n) →
      PassesWhen pageId kind built ((∃ n, some json = some (.num n)) ∨ ¬CutApart 256 (some json)) := by
    intro json done other
    have none : ¬∃ n, some json = some (Json.num n) := fun ⟨n, same⟩ => other n (Option.some.inj same)
    rw [or_iff_right none]
    exact textEntry_passes done kind
  have absent : textOrEmpty value = "" → ¬CutApart 256 value := by
    intro empty apart
    obtain ⟨text, kept⟩ := apart.scrubbed
    obtain ⟨some_text, -, rfl⟩ := (scrubPiiText_eq_some_iff).mp kept
    rw [empty] at some_text
    exact some_text rfl
  cases value with
  | none =>
    obtain rfl := Except.ok.inj done
    exact .inr (absent rfl)
  | some json =>
    cases json with
    | null =>
      obtain rfl := Except.ok.inj done
      exact .inr (absent rfl)
    | num n =>
      obtain rfl := Except.ok.inj done
      exact fun index => iff_of_true (entryError_num allowed n kind index) (.inl ⟨n, rfl⟩)
    | str s => exact text done nofun
    | bool b => exact text done nofun
    | arr items => exact text done nofun
    | obj fields => exact text done nofun

/-- The entries of a row, built one by one, pass the check when each condition holds. -/
theorem validateEntryArray_built {α : Type} {build : α → Except JsError (Option Json)} {condition : α → Prop}
    {kind : String} (each : ∀ item built, build item = .ok built → PassesWhen pageId kind built (condition item))
    {items : List α} {built : List (Option Json)} (done : items.mapM build = .ok built) :
    validateEntryArray pageId (some (.arr (built.filterMap id))) kind = [] ↔ ∀ item ∈ items, condition item := by
  have all : validateEntryArray pageId (some (.arr (built.filterMap id))) kind = [] ↔
      ∀ pair ∈ (built.filterMap id).zipIdx, entryError pageId kind pair.2 pair.1 = none := List.filterMap_eq_nil_iff
  rw [all]
  constructor
  · intro pass item mem
    obtain ⟨one, there, made⟩ := exists_ok_of_mapM done mem
    have passes := each item one made
    cases one with
    | none => exact passes
    | some entry =>
      have kept : entry ∈ built.filterMap id := List.mem_filterMap.mpr ⟨some entry, there, rfl⟩
      obtain ⟨index, bound, here⟩ := List.mem_iff_getElem.mp kept
      have pair : (entry, index) ∈ (built.filterMap id).zipIdx :=
        List.mem_zipIdx_iff_getElem?.mpr (by rw [List.getElem?_eq_getElem bound, here])
      exact (passes index).mp (pass _ pair)
  · rintro holds ⟨entry, index⟩ pair
    obtain ⟨one, there, same⟩ := List.mem_filterMap.mp (List.fst_mem_of_mem_zipIdx pair)
    obtain rfl : one = some entry := same
    obtain ⟨item, mem, made⟩ := exists_of_mem_mapM done there
    exact (each item (some entry) made index).mpr (holds item mem)

/-- A landline number behind 245 letters: 256 code units. -/
def longFront : List Char :=
  List.replicate 245 'x' ++ ['0', '1', '0', '-', '1', '2', '3', '4', '5', '6', '7']

/-- The same with two digits more: no landline number. -/
def longText : String := String.ofList (longFront ++ ['8', '9'])

theorem longText_clean : hasPersonalData longText = false := by
  rw [← Bool.not_eq_true, longText, hasPersonalData_iff]
  decide +kernel

theorem longText_landline : Landline ['0', '1', '0', '-', '1', '2', '3', '4', '5', '6', '7'] ['1', '0'] ['-']
    ['1', '2', '3', '4', '5', '6', '7'] where
  split := rfl
  inArea := by simp [Digits]
  areaLength := by decide
  inSeparator := by simp [isSeparator]
  separatorLength := by decide
  inNumber := by simp [Digits]
  numberLength := by decide

theorem allowed_orderNo : assertAllowlistedFieldName .deliveryNotes "orderNo" = .ok "orderNo" := by
  decide

/-- A value that is short enough, and its entry. -/
def orderNumber : List (String × Option Json) := [("orderNo", some (.str "PO 0571-8888"))]

def orderNumberEntry : List (Option Json) := [some (entryJson "orderNo" (.str "PO 0571-8888"))]

end FullManagedBi.OrderManagement
