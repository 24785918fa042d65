import FullManagedBi.Laws.CookieLifetime

/-!
# Splitting a combined header

`splitSetCookieHeader` reads a combined header from the left with one flag, which `expires=` raises and a
semicolon lowers: a comma splits where the flag is lowered and a cookie starts behind it. Within a
well-formed value nothing is split (`WellFormed.reads`); at the comma between two values the flag decides
(`splitLoop_boundary`). So:

- **`splitSetCookieHeader_combined`** — a combined header is split into its values, exactly where no value
  but the last ends in an `Expires` attribute;
- `lost_behind_date` — a value behind a date becomes a part of the date.
-/

namespace FullManagedBi.WebapiSession

open Lib

section Splitting

variable {B : SessionBuiltins}

/-! ## Well-formed values -/

/-- A part of a header names `Expires` somewhere. -/
def NamesExpires (B : SessionBuiltins) (part : List Char) : Prop :=
  ∃ word : List Char, word.length = 8 ∧ word <:+: part ∧ B.toLowerCase (String.ofList word) = "expires="

/-- An `Expires` attribute: its name, in any case, and its date. -/
def IsExpires (B : SessionBuiltins) (part : List Char) : Prop :=
  ∃ lead key date : List Char, part = lead ++ (key ++ date) ∧ (∀ c ∈ lead, isJsSpace c = true) ∧
    key.length = 8 ∧ B.toLowerCase (String.ofList key) = "expires="

/-- A `Set-Cookie` value: a name with its value, and attributes, of which `Expires` alone has commas. -/
structure WellFormed (B : SessionBuiltins) (value : String) : Prop where
  trimmed : jsTrim value = value
  named : ∃ name text, firstPart value = name ++ '=' :: text ∧ name ≠ [] ∧
    ∀ c ∈ name, ¬ (c = '=' ∨ c = ';' ∨ c = ',' ∨ isJsSpace c = true)
  pair : ',' ∉ firstPart value
  attributes : ∀ part ∈ (value.toList.splitOn ';').tail, ',' ∉ part ∨ IsExpires B part

/-- What stands behind the last semicolon of a value. -/
def lastPart (value : String) : List Char := (value.toList.splitOn ';').getLastD []

/-! ## Reading a part -/

/-- A word with a character that no letter is lowered to does not say `expires=`. -/
theorem not_expires_of_mem {word : List Char} {c : Char} (mem : c ∈ word) (plain : c = ',' ∨ c = ' ') :
    B.toLowerCase (String.ofList word) ≠ "expires=" := by
  intro same
  have ascii : c.toNat < 128 := by rcases plain with rfl | rfl <;> decide
  have there := B.toLowerCase_mem (String.ofList word) c (by rwa [String.toList_ofList]) ascii
  rw [same] at there
  rcases plain with rfl | rfl <;> exact absurd there (by decide)

/-- `Expires` starts a text that goes on with a comma, where it starts in front of the comma. -/
theorem startsExpires_comma (text more : List Char) : startsExpires B (text ++ ',' :: more) = true ↔
      ∃ word : List Char, word.length = 8 ∧ word <+: text ∧ B.toLowerCase (String.ofList word) = "expires=" := by
  unfold startsExpires
  rw [decide_eq_true_eq]
  constructor
  · intro same
    by_cases long : 8 ≤ text.length
    · rw [List.take_append_of_le_length long] at same
      exact ⟨text.take 8, List.length_take_of_le long, List.take_prefix 8 text, same⟩
    · refine absurd same (not_expires_of_mem ?_ (.inl rfl))
      rw [List.take_append]
      refine List.mem_append_right _ ?_
      obtain ⟨n, left⟩ : ∃ n, 8 - text.length = n + 1 := ⟨7 - text.length, by omega⟩
      rw [left, List.take_succ_cons]
      exact List.mem_cons_self
  · rintro ⟨word, length, ⟨more', rfl⟩, same⟩
    rw [List.append_assoc, List.take_append_of_le_length (le_of_eq length.symm), ← length, List.take_length]
    exact same

theorem namesExpires_cons (c : Char) (part more : List Char) :
    NamesExpires B (c :: part) ↔ startsExpires B (c :: part ++ ',' :: more) = true ∨ NamesExpires B part := by
  rw [startsExpires_comma]
  unfold NamesExpires
  simp only [List.infix_cons_iff]
  constructor
  · rintro ⟨word, length, starts | later, same⟩
    · exact .inl ⟨word, length, starts, same⟩
    · exact .inr ⟨word, length, later, same⟩
  · rintro (⟨word, length, starts, same⟩ | ⟨word, length, later, same⟩)
    · exact ⟨word, length, .inl starts, same⟩
    · exact ⟨word, length, .inr later, same⟩

theorem splitLoop_other {c : Char} (other : c ≠ ',') (flag : Bool) (piece rest : List Char) :
    splitLoop B flag piece (c :: rest) =
      splitLoop B (if c = ';' then false else flag || startsExpires B (c :: rest)) (c :: piece) rest := by
  rw [splitLoop]
  exact if_neg fun both => other both.1

/-- What is read that is no semicolon while the flag is raised, or raises it. -/
theorem splitLoop_held {c : Char} (other : c ≠ ';') {flag : Bool} (piece rest : List Char)
    (held : (flag || startsExpires B (c :: rest)) = true) :
    splitLoop B flag piece (c :: rest) = splitLoop B true (c :: piece) rest := by
  rw [splitLoop, if_neg other, held]
  exact if_neg fun both => Bool.noConfusion both.2.1

/-- Reading a part without commas splits nothing, and raises the flag where the part names `Expires`. -/
theorem splitLoop_plain {part : List Char} (comma : ',' ∉ part) (semicolon : ';' ∉ part) (flag : Bool)
    (piece rest : List Char) :
    ∃ flag', splitLoop B flag piece (part ++ rest) = splitLoop B flag' (part.reverse ++ piece) rest ∧
      ∀ more, rest = ',' :: more → (flag' = true ↔ flag = true ∨ NamesExpires B part) := by
  induction part generalizing flag piece with
  | nil =>
    refine ⟨flag, rfl, fun _ _ => (or_iff_left ?_).symm⟩
    rintro ⟨word, length, inside, -⟩
    rw [List.infix_nil.mp inside] at length
    exact nomatch length
  | cons c part ih =>
    rw [List.mem_cons, not_or] at comma semicolon
    obtain ⟨flag', run, raised⟩ := ih comma.2 semicolon.2 (flag || startsExpires B (c :: part ++ rest))
      (c :: piece)
    refine ⟨flag', ?_, ?_⟩
    · rw [List.cons_append, splitLoop_other fun same => comma.1 same.symm,
        if_neg fun same => semicolon.1 same.symm, List.reverse_cons, List.append_assoc]
      exact run
    · rintro more rfl
      rw [raised more rfl, Bool.or_eq_true, namesExpires_cons c part more, or_assoc]

theorem splitLoop_raised {text : List Char} (semicolon : ';' ∉ text) (piece rest : List Char) :
    splitLoop B true piece (text ++ rest) = splitLoop B true (text.reverse ++ piece) rest := by
  induction text generalizing piece with
  | nil => rfl
  | cons c text ih =>
    rw [List.mem_cons, not_or] at semicolon
    rw [List.cons_append, splitLoop_held (fun same => semicolon.1 same.symm) _ _ (Bool.true_or _),
      ih semicolon.2, List.reverse_cons, List.append_assoc]
    rfl

theorem splitLoop_semicolon (flag : Bool) (piece rest : List Char) :
    splitLoop B flag piece (';' :: rest) = splitLoop B false (';' :: piece) rest := by
  rw [splitLoop_other (by decide), if_pos rfl]

/-- Reading a text splits nothing, and raises a lowered flag in front of a comma where `names` says so. -/
def Reads (B : SessionBuiltins) (text : List Char) (names : Prop) : Prop :=
  ∀ flag piece rest, ∃ flag',
    splitLoop B flag piece (text ++ rest) = splitLoop B flag' (text.reverse ++ piece) rest ∧
      ∀ more, rest = ',' :: more → flag = false → (flag' = true ↔ names)

theorem reads_part {part : List Char} (good : ',' ∉ part ∨ IsExpires B part) (semicolon : ';' ∉ part) :
    Reads B part (NamesExpires B part) := by
  intro flag piece rest
  rcases good with comma | ⟨lead, key, date, rfl, space, length, named⟩
  · obtain ⟨flag', run, raised⟩ := splitLoop_plain (B := B) comma semicolon flag piece rest
    refine ⟨flag', run, fun more same lowered => (raised more same).trans ?_⟩
    rw [lowered]
    exact or_iff_right Bool.false_ne_true
  · have names : NamesExpires B (lead ++ (key ++ date)) :=
      ⟨key, length, ⟨lead, date, List.append_assoc ..⟩, named⟩
    refine ⟨true, ?_, fun _ _ _ => iff_of_true rfl names⟩
    rw [List.mem_append, not_or] at semicolon
    have comma : ',' ∉ lead := fun mem => absurd (space ',' mem) (by decide)
    obtain ⟨flag', run, -⟩ := splitLoop_plain (B := B) comma semicolon.1 flag piece (key ++ date ++ rest)
    rw [List.append_assoc, run]
    -- the first letter of the name raises the flag
    cases key with
    | nil => exact nomatch length
    | cons c key =>
      have starts : startsExpires B (c :: (key ++ date ++ rest)) = true := by
        have front : (c :: (key ++ date ++ rest)).take 8 = c :: key := by
          rw [← length, List.append_assoc, ← List.cons_append, List.take_left']
          rfl
        unfold startsExpires
        rw [front]
        exact decide_eq_true named
      have other : c ≠ ';' ∧ ';' ∉ key ++ date := by
        have free := semicolon.2
        rw [List.cons_append, List.mem_cons, not_or] at free
        exact ⟨fun same => free.1 same.symm, free.2⟩
      have held : (flag' || startsExpires B (c :: (key ++ date ++ rest))) = true := by
        rw [starts, Bool.or_true]
      rw [List.cons_append, List.cons_append, splitLoop_held other.1 _ _ held, splitLoop_raised other.2]
      simp only [List.reverse_append, List.reverse_cons, List.append_assoc, List.cons_append, List.nil_append]

theorem reads_parts {first : List Char} {later : List (List Char)}
    (good : ∀ part ∈ first :: later, ',' ∉ part ∨ IsExpires B part) (semicolon : ∀ part ∈ first :: later, ';' ∉ part) :
    Reads B (first ++ later.flatMap (';' :: ·)) (NamesExpires B ((first :: later).getLastD [])) := by
  induction later generalizing first with
  | nil =>
    rw [List.flatMap_nil, List.append_nil]
    exact reads_part (good first List.mem_cons_self) (semicolon first List.mem_cons_self)
  | cons next later ih =>
    intro flag piece rest
    obtain ⟨flag₁, run₁, -⟩ := reads_part (good first List.mem_cons_self) (semicolon first List.mem_cons_self)
      flag piece (';' :: (next ++ later.flatMap (';' :: ·)) ++ rest)
    obtain ⟨flag₂, run₂, raised⟩ := ih (fun part mem => good part (List.mem_cons_of_mem _ mem))
      (fun part mem => semicolon part (List.mem_cons_of_mem _ mem)) false (';' :: (first.reverse ++ piece)) rest
    refine ⟨flag₂, ?_, fun more same _ => raised more same rfl⟩
    rw [List.flatMap_cons, List.append_assoc]
    rw [List.cons_append] at run₁
    rw [List.cons_append, List.cons_append, run₁, splitLoop_semicolon, run₂]
    simp only [List.reverse_append, List.reverse_cons, List.append_assoc, List.cons_append,
      List.nil_append]

/-- Texts that are joined: the first, and each other one behind the separator. -/
theorem intercalate_cons {α : Type} (separator first : List α) (later : List (List α)) :
    separator.intercalate (first :: later) = first ++ later.flatMap (separator ++ ·) := by
  induction later generalizing first with
  | nil => rw [List.intercalate_singleton, List.flatMap_nil, List.append_nil]
  | cons next later ih =>
    rw [List.intercalate_cons_cons, ih, List.flatMap_cons]
    simp only [List.append_assoc]

variable {value : String}

theorem WellFormed.reads (well : WellFormed B value) : Reads B value.toList (NamesExpires B (lastPart value)) := by
  have whole : [';'].intercalate (value.toList.splitOn ';') = value.toList := List.intercalate_splitOn ';'
  have free : ∀ part ∈ value.toList.splitOn ';', ';' ∉ part := fun part => not_mem_of_mem_splitOn
  have pair := well.pair
  have attributes := well.attributes
  unfold firstPart at pair
  unfold lastPart
  cases parts : value.toList.splitOn ';' with
  | nil => exact absurd parts (List.splitOn_ne_nil _ _)
  | cons first later =>
    rw [parts] at whole free pair attributes
    rw [intercalate_cons] at whole
    rw [← whole]
    exact reads_parts (List.forall_mem_cons.mpr ⟨.inl pair, attributes⟩) free

/-! ## Reading several values -/

/-- A value that ends in an `Expires` attribute: behind its last semicolon `Expires` is named. -/
def EndsInExpires (B : SessionBuiltins) (value : String) : Prop := NamesExpires B (lastPart value)

/-- The values behind the first one, as they are joined. -/
def behind (values : List String) : List Char := values.flatMap fun value => ',' :: ' ' :: value.toList

theorem WellFormed.front (well : WellFormed B value) : ∃ name more,
    value.toList = name ++ '=' :: more ∧ name ≠ [] ∧
      ∀ c ∈ name, ¬ (c = '=' ∨ c = ';' ∨ c = ',' ∨ isJsSpace c = true) := by
  obtain ⟨name, text, first, nonEmpty, plain⟩ := well.named
  have whole : [';'].intercalate (value.toList.splitOn ';') = value.toList := List.intercalate_splitOn ';'
  unfold firstPart at first
  cases parts : value.toList.splitOn ';' with
  | nil => exact absurd parts (List.splitOn_ne_nil _ _)
  | cons part later =>
    rw [parts] at whole first
    rw [intercalate_cons, show part = name ++ '=' :: text from first, List.append_assoc] at whole
    exact ⟨name, _, whole.symm, nonEmpty, plain⟩

theorem WellFormed.startsCookie (well : WellFormed B value) (rest : List Char) :
    startsCookie (' ' :: (value.toList ++ rest)) = true := by
  obtain ⟨name, more, whole, nonEmpty, plain⟩ := well.front
  rw [whole, List.append_assoc, List.cons_append]
  have named : (' ' :: (name ++ '=' :: (more ++ rest))).dropWhile isJsSpace = name ++ '=' :: (more ++ rest) := by
    rw [List.dropWhile_cons_of_pos (by decide)]
    cases name with
    | nil => exact absurd rfl nonEmpty
    | cons c name =>
      exact List.dropWhile_cons_of_neg fun space => plain c List.mem_cons_self (.inr (.inr (.inr space)))
  have dropped : (name ++ '=' :: (more ++ rest)).dropWhile
      (fun c => !(c = '=' || c = ';' || c = ',' || isJsSpace c)) = '=' :: (more ++ rest) := by
    rw [List.dropWhile_append_of_pos]
    · rfl
    · intro c mem
      have letter := plain c mem
      simp only [not_or] at letter
      simp [letter]
  unfold WebapiSession.startsCookie
  simp only [named, dropped]
  rw [Bool.and_eq_true, decide_eq_true_eq, decide_eq_true_eq]
  constructor
  · rw [List.length_append]
    have := List.length_pos_iff.mpr nonEmpty
    omega
  · rfl

theorem WellFormed.nonEmpty (well : WellFormed B value) : value ≠ "" := by
  rintro rfl
  obtain ⟨name, more, whole, -⟩ := well.front
  exact List.append_ne_nil_of_right_ne_nil name (List.cons_ne_nil '=' more) whole.symm

/-- The comma in front of a value splits where the flag is lowered. -/
theorem splitLoop_boundary (well : WellFormed B value) (flag : Bool) (piece rest : List Char) :
    splitLoop B flag piece (',' :: ' ' :: (value.toList ++ rest)) =
      if flag = true then splitLoop B true (' ' :: ',' :: piece) (value.toList ++ rest)
      else jsTrim (String.ofList piece.reverse) :: splitLoop B false [' '] (value.toList ++ rest) := by
  have quiet {c : Char} (plain : c = ',' ∨ c = ' ') (more : List Char) : startsExpires B (c :: more) = false := by
    unfold startsExpires
    exact decide_eq_false (not_expires_of_mem List.mem_cons_self plain)
  have space (flag : Bool) (piece : List Char) : splitLoop B flag piece (' ' :: (value.toList ++ rest)) =
      splitLoop B flag (' ' :: piece) (value.toList ++ rest) := by
    rw [splitLoop_other (by decide), if_neg (by decide), quiet (.inr rfl), Bool.or_false]
  cases flag with
  | true => rw [splitLoop_held (by decide) _ _ rfl, space, if_pos rfl]
  | false =>
    have lowered : (if ',' = ';' then false
        else false || startsExpires B (',' :: ' ' :: (value.toList ++ rest))) = false := by
      rw [if_neg (by decide), quiet (.inl rfl), Bool.false_or]
    rw [splitLoop, lowered, if_pos ⟨rfl, rfl, well.startsCookie rest⟩, space, if_neg Bool.false_ne_true]

theorem jsTrim_space (text : String) : jsTrim (String.ofList (' ' :: text.toList)) = jsTrim text := by
  unfold jsTrim
  rw [String.toList_ofList, List.dropWhile_cons_of_pos (by decide)]

variable {values : List String}

/-- Where no value but the last ends in `Expires`, each comma in front of a value splits. -/
theorem splitLoop_values (well : ∀ v ∈ value :: values, WellFormed B v)
    (ends : ∀ v ∈ (value :: values).dropLast, ¬ EndsInExpires B v) (piece : List Char) :
    splitLoop B false piece (value.toList ++ behind values) =
      jsTrim (String.ofList (piece.reverse ++ value.toList)) :: values := by
  induction values generalizing value piece with
  | nil =>
    obtain ⟨flag, run, -⟩ := (well value List.mem_cons_self).reads false piece []
    rw [behind, List.flatMap_nil, run, splitLoop, List.reverse_append, List.reverse_reverse]
  | cons next values ih =>
    have later : ∀ v ∈ next :: values, WellFormed B v := fun v mem => well v (List.mem_cons_of_mem _ mem)
    have trimmed : jsTrim (String.ofList ([' '].reverse ++ next.toList)) = next :=
      (jsTrim_space next).trans (later next List.mem_cons_self).trimmed
    obtain ⟨flag, run, raised⟩ := (well value List.mem_cons_self).reads false piece (behind (next :: values))
    have lowered : flag ≠ true := fun up =>
      ends value List.mem_cons_self ((raised _ rfl rfl).mp up)
    rw [run]
    unfold behind
    rw [List.flatMap_cons, List.cons_append, List.cons_append, splitLoop_boundary (later next List.mem_cons_self),
      if_neg lowered]
    have rest := ih later (fun v mem => ends v (List.mem_cons_of_mem _ mem)) [' ']
    rw [trimmed] at rest
    rw [← rest, List.reverse_append, List.reverse_reverse]
    rfl

theorem length_splitLoop_le (well : ∀ v ∈ value :: values, WellFormed B v) (flag : Bool) (piece : List Char) :
    (splitLoop B flag piece (value.toList ++ behind values)).length ≤ values.length + 1 := by
  induction values generalizing value flag piece with
  | nil =>
    obtain ⟨flag', run, -⟩ := (well value List.mem_cons_self).reads flag piece []
    rw [behind, List.flatMap_nil, run, splitLoop]
    exact le_rfl
  | cons next values ih =>
    have later : ∀ v ∈ next :: values, WellFormed B v := fun v mem => well v (List.mem_cons_of_mem _ mem)
    obtain ⟨flag', run, -⟩ := (well value List.mem_cons_self).reads flag piece (behind (next :: values))
    rw [run]
    unfold behind
    rw [List.flatMap_cons, List.cons_append, List.cons_append, splitLoop_boundary (later next List.mem_cons_self)]
    split
    · exact (ih later true _).trans (Nat.le_succ _)
    · exact Nat.succ_le_succ (ih later false _)

/-- Where a value that is not the last ends in `Expires`, there are fewer pieces than values. -/
theorem length_splitLoop_lt (well : ∀ v ∈ value :: values, WellFormed B v) {bad : String}
    (mem : bad ∈ (value :: values).dropLast) (ends : EndsInExpires B bad) (piece : List Char) :
    (splitLoop B false piece (value.toList ++ behind values)).length < values.length + 1 := by
  induction values generalizing value piece with
  | nil => exact nomatch mem
  | cons next values ih =>
    have later : ∀ v ∈ next :: values, WellFormed B v := fun v mem => well v (List.mem_cons_of_mem _ mem)
    obtain ⟨flag, run, raised⟩ := (well value List.mem_cons_self).reads false piece (behind (next :: values))
    rw [run]
    unfold behind
    rw [List.flatMap_cons, List.cons_append, List.cons_append, splitLoop_boundary (later next List.mem_cons_self)]
    split
    · exact Nat.lt_succ_of_le (length_splitLoop_le later true _)
    · rename_i lowered
      rw [List.dropLast_cons_cons] at mem
      rcases List.mem_cons.mp mem with rfl | mem
      · exact absurd ((raised _ rfl rfl).mpr ends) lowered
      · exact Nat.succ_lt_succ (ih later mem _)

def combined (values : List String) : String := String.intercalate ", " values

theorem toList_combined (value : String) (values : List String) :
    (combined (value :: values)).toList = value.toList ++ behind values := by
  unfold combined behind
  rw [String.toList_intercalate, List.map_cons, intercalate_cons, List.flatMap_map]
  rfl

/-- **A combined header is split into its values**, exactly where no value but the last ends in an
`Expires` attribute. -/
theorem splitSetCookieHeader_combined (B : SessionBuiltins) (values : List String)
    (well : ∀ value ∈ values, WellFormed B value) : splitSetCookieHeader B (combined values) = values ↔
      ∀ value ∈ values.dropLast, ¬ EndsInExpires B value := by
  cases values with
  | nil => exact iff_of_true rfl nofun
  | cons value values =>
    have first := well value List.mem_cons_self
    have full : combined (value :: values) ≠ "" := by
      intro none
      have whole := toList_combined value values
      rw [none] at whole
      have empty : value.toList = [] := (List.append_eq_nil_iff.mp whole.symm).1
      exact first.nonEmpty (String.toList_inj.mp empty)
    unfold splitSetCookieHeader
    rw [if_neg full, toList_combined]
    constructor
    · intro same bad mem ends
      have fewer := length_splitLoop_lt well mem ends []
      have kept := List.length_filter_le (· ≠ "") (splitLoop B false [] (value.toList ++ behind values))
      rw [same, List.length_cons] at kept
      omega
    · intro ends
      rw [splitLoop_values well ends [], List.reverse_nil, List.nil_append, String.ofList_toList, first.trimmed]
      exact List.filter_eq_self.mpr fun v mem => decide_eq_true (well v mem).nonEmpty

end Splitting

/-! ## Two headers -/

/-- A value with the date of a past century and what follows it. -/
def dated (later : String) : String := "a=1; Expires=Thu, 01 Jan 1970 00:00:01 GMT" ++ later

theorem expires_part : IsExpires asciiBuiltins " Expires=Thu, 01 Jan 1970 00:00:01 GMT".toList :=
  ⟨[' '], "Expires=".toList, "Thu, 01 Jan 1970 00:00:01 GMT".toList, by decide,
    List.forall_mem_singleton.mpr (by decide), by decide, by decide⟩

theorem dated_wellFormed {later : String} (first : firstPart (dated later) = ['a', '=', '1'])
    (trimmed : jsTrim (dated later) = dated later) (parts : ∀ part ∈ ((dated later).toList.splitOn ';').tail,
      part = " Expires=Thu, 01 Jan 1970 00:00:01 GMT".toList ∨ ',' ∉ part) :
    WellFormed asciiBuiltins (dated later) where
  trimmed := trimmed
  named := ⟨['a'], ['1'], first, List.cons_ne_nil _ _, List.forall_mem_singleton.mpr (by decide)⟩
  pair := by
    rw [first]
    decide
  attributes part mem := by
    rcases parts part mem with rfl | comma
    · exact .inr expires_part
    · exact .inl comma

theorem plain_wellFormed : WellFormed asciiBuiltins "b=2" where
  trimmed := by decide
  named := ⟨['b'], ['2'], by decide, List.cons_ne_nil _ _, List.forall_mem_singleton.mpr (by decide)⟩
  pair := by decide
  attributes part mem := .inl fun _ => nomatch mem

/-- With an attribute behind `Expires` the values are told apart. -/
theorem split_dated : splitSetCookieHeader asciiBuiltins (combined [dated "; Path=/", "b=2"]) =
    [dated "; Path=/", "b=2"] := by
  refine (splitSetCookieHeader_combined asciiBuiltins [dated "; Path=/", "b=2"] ?_).mpr ?_
  · refine List.forall_mem_cons.mpr ⟨dated_wellFormed ?_ ?_ ?_, List.forall_mem_singleton.mpr plain_wellFormed⟩
    all_goals decide
  · refine List.forall_mem_singleton.mpr ?_
    rintro ⟨word, length, inside, named⟩
    rw [show lastPart (dated "; Path=/") = " Path=/".toList by decide] at inside
    have short := inside.length_le
    rw [length] at short
    exact absurd short (by decide)

/-- Behind a date the second value is lost in the first. -/
theorem lost_behind_date : (∀ value ∈ [dated "", "b=2"], WellFormed asciiBuiltins value) ∧
    splitSetCookieHeader asciiBuiltins (combined [dated "", "b=2"]) ≠ [dated "", "b=2"] := by
  refine ⟨List.forall_mem_cons.mpr ⟨dated_wellFormed ?_ ?_ ?_, List.forall_mem_singleton.mpr plain_wellFormed⟩, ?_⟩
  all_goals decide

end FullManagedBi.WebapiSession
