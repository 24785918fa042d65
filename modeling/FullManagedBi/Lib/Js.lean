import Mathlib

/-!
# Values a JavaScript program reads

What a validator sees of one field before it converts it, and the string builtins. Those that depend on
the Unicode tables are a parameter (`TextBuiltins`): a result that quantifies over it holds for the
engine's own.
-/

namespace Lib

/-- A field as a validator reads it: `null`, `undefined` or the empty text; a value that converts;
or one that does not (`NaN`, an invalid `Date`, a text that names no calendar day). -/
inductive JsField (α : Type) where
  | absent
  | value (a : α)
  | invalid
  deriving DecidableEq

def maxSafeInteger : Nat := 9007199254740991

/-- `Number.isSafeInteger` of a finite number that is not negative. -/
def safeCount? (q : Rat) : Option Nat :=
  if q.den = 1 ∧ 0 ≤ q.num ∧ q.num.toNat ≤ maxSafeInteger then some q.num.toNat else none

/-- A thrown `Error`: its `code`, where it has one, and its `message`. -/
structure JsError where
  code : Option String := none
  message : String
  deriving DecidableEq

variable {ε α β : Type}

theorem bind_eq_ok {x : Except ε α} {f : α → Except ε β} {b : β} (h : (x >>= f) = .ok b) : ∃ a, x = .ok a ∧ f a = .ok b := by
  cases x with
  | error e => exact nomatch h
  | ok a => exact ⟨a, rfl, h⟩

theorem bind_eq_ok_iff {x : Except ε α} {f : α → Except ε β} {b : β} :
    (x >>= f) = .ok b ↔ ∃ a, x = .ok a ∧ f a = .ok b := by
  constructor
  · exact bind_eq_ok
  · rintro ⟨a, rfl, h⟩
    exact h

theorem bind_error {x : Except ε α} {f : α → Except ε β} {e : ε} (failed : (x >>= f) = .error e) :
    x = .error e ∨ ∃ a, x = .ok a ∧ f a = .error e := by
  cases x with
  | error e' => exact .inl (congrArg _ (Except.error.inj failed))
  | ok a => exact .inr ⟨a, rfl, failed⟩

def refuse (p : Prop) [Decidable p] (e : JsError) : Except JsError Unit := if p then .error e else .ok ()

theorem check_ok_iff {ε α : Type} {x : Except ε Unit} {f : Unit → Except ε α} {b : α} :
    (x >>= f) = .ok b ↔ x = .ok () ∧ f () = .ok b := by
  rw [bind_eq_ok_iff]
  exact ⟨fun ⟨(), passed, rest⟩ => ⟨passed, rest⟩, fun ⟨passed, rest⟩ => ⟨(), passed, rest⟩⟩

@[simp] theorem refuse_eq_ok {p : Prop} [Decidable p] {e : JsError} {u : Unit} : refuse p e = .ok u ↔ ¬p := by
  unfold refuse
  split <;> simp [*]

/-- A run that is evaluated up to a part of its result. -/
theorem exists_of_toOption_map {x : Except ε α} {part : α → β} {b : β} (evaluated : x.toOption.map part = some b) :
    ∃ a, x = .ok a ∧ part a = b := by
  cases x with
  | ok a => exact ⟨a, rfl, Option.some.inj evaluated⟩
  | error e => cases evaluated

theorem forall₂_of_mapM {f : α → Except ε β} {items : List α} {values : List β}
    (mapped : items.mapM f = .ok values) : List.Forall₂ (fun item value => f item = .ok value) items values := by
  induction items generalizing values with
  | nil =>
    obtain rfl := Except.ok.inj mapped
    exact .nil
  | cons item items ih =>
    rw [List.mapM_cons] at mapped
    obtain ⟨value, here, rest⟩ := bind_eq_ok mapped
    obtain ⟨later, mappedLater, same⟩ := bind_eq_ok rest
    obtain rfl := Except.ok.inj same
    exact .cons here (ih mappedLater)

theorem forall₂_of_mapM_zipIdx {f : α × Nat → Except ε β} {R : α → β → Prop}
    (each : ∀ item index value, f (item, index) = .ok value → R item value) {items : List α}
    {values : List β} (mapped : items.zipIdx.mapM f = .ok values) : List.Forall₂ R items values := by
  have pairs := forall₂_of_mapM mapped
  rw [← List.zipIdx_map_fst 0 items, List.forall₂_map_left_iff]
  exact pairs.imp fun entry value done => each entry.1 entry.2 value done

theorem exists_of_forall₂ {R : α → β → Prop} {items : List α} {values : List β} (pairs : List.Forall₂ R items values) :
    (∀ value ∈ values, ∃ item ∈ items, R item value) ∧ ∀ item ∈ items, ∃ value ∈ values, R item value := by
  induction pairs with
  | nil => exact ⟨nofun, nofun⟩
  | cons here _ ih =>
    simp only [List.forall_mem_cons, List.exists_mem_cons_iff]
    exact ⟨⟨.inl here, fun value mem => .inr (ih.1 value mem)⟩, .inl here, fun item mem => .inr (ih.2 item mem)⟩

theorem exists_of_mem_mapM {f : α → Except ε β} {items : List α} {values : List β}
    (mapped : items.mapM f = .ok values) {value : β} (mem : value ∈ values) : ∃ item ∈ items, f item = .ok value :=
  (exists_of_forall₂ (forall₂_of_mapM mapped)).1 value mem

theorem exists_ok_of_mapM {f : α → Except ε β} {items : List α} {values : List β}
    (mapped : items.mapM f = .ok values) {item : α} (mem : item ∈ items) : ∃ value ∈ values, f item = .ok value :=
  (exists_of_forall₂ (forall₂_of_mapM mapped)).2 item mem

theorem exists_error_of_mapM {f : α → Except ε β} {items : List α} {e : ε}
    (failed : items.mapM f = .error e) : ∃ item ∈ items, f item = .error e := by
  induction items with
  | nil => exact nomatch failed
  | cons item items ih =>
    rw [List.mapM_cons] at failed
    rcases bind_error failed with first | ⟨value, -, failed⟩
    · exact ⟨item, List.mem_cons_self, first⟩
    rcases bind_error failed with later | ⟨values, -, failed⟩
    · obtain ⟨other, there, same⟩ := ih later
      exact ⟨other, List.mem_cons_of_mem _ there, same⟩
    · exact nomatch failed

/-- `map` of a function that throws unless a condition holds, and then returns a value. -/
theorem mapM_ok_iff {f : α → Except ε β} {P : α → Prop} {g : α → β}
    (each : ∀ item value, f item = .ok value ↔ P item ∧ value = g item) {items : List α}
    {values : List β} : items.mapM f = .ok values ↔ (∀ item ∈ items, P item) ∧ values = items.map g := by
  induction items generalizing values with
  | nil =>
    rw [List.mapM_nil, List.map_nil]
    exact ⟨fun done => ⟨nofun, (Except.ok.inj done).symm⟩, fun done => congrArg _ done.2.symm⟩
  | cons item items ih =>
    rw [List.mapM_cons, bind_eq_ok_iff, List.forall_mem_cons, List.map_cons]
    constructor
    · rintro ⟨value, first, rest⟩
      obtain ⟨others, later, result⟩ := bind_eq_ok rest
      obtain ⟨holds, rfl⟩ := (each _ _).mp first
      obtain ⟨all, rfl⟩ := ih.mp later
      exact ⟨⟨holds, all⟩, (Except.ok.inj result).symm⟩
    · rintro ⟨⟨holds, all⟩, rfl⟩
      exact ⟨g item, (each _ _).mpr ⟨holds, rfl⟩,
        bind_eq_ok_iff.mpr ⟨items.map g, ih.mpr ⟨all, rfl⟩, rfl⟩⟩

theorem forM_eq_ok_iff {ε α : Type} {f : α → Except ε Unit} {items : List α} {u : Unit} :
    items.forM f = .ok u ↔ ∀ item ∈ items, f item = .ok () := by
  induction items with
  | nil => exact iff_of_true rfl nofun
  | cons item items ih =>
    rw [List.forall_mem_cons, ← ih]
    exact check_ok_iff

theorem append_cons_inj_of_first {α : Type} {x : α} {a a' b b' : List α} (ha : x ∉ a) (ha' : x ∉ a')
    (same : a ++ x :: b = a' ++ x :: b') : a = a' ∧ b = b' := by
  induction a generalizing a' with
  | nil =>
    cases a' with
    | nil => exact ⟨rfl, (List.cons.inj same).2⟩
    | cons y a' => exact absurd (List.cons.inj same).1 (List.ne_of_not_mem_cons ha')
  | cons y a ih =>
    cases a' with
    | nil => exact absurd (List.cons.inj same).1.symm (List.ne_of_not_mem_cons ha)
    | cons z a' =>
      obtain ⟨rfl, rest⟩ := List.cons.inj same
      obtain ⟨rfl, rfl⟩ := ih (List.not_mem_of_not_mem_cons ha) (List.not_mem_of_not_mem_cons ha') rest
      exact ⟨rfl, rfl⟩

/-- `Number.isSafeInteger(value) ? value : 0`, of a natural number or nothing. -/
def safeOrZero : Option Nat → Nat
  | some n => if n ≤ maxSafeInteger then n else 0
  | none => 0

/-- The length of a JavaScript string: its UTF-16 code units. -/
def jsLength (s : String) : Nat :=
  (s.toList.map fun c => if 0x10000 ≤ c.toNat then 2 else 1).sum

/-- The first `n` code units of a text, as they are written out: half of a surrogate pair becomes the
replacement character. -/
def jsSlice : Nat → List Char → List Char
  | _, [] => []
  | n, c :: cs =>
    let units := if 0x10000 ≤ c.toNat then 2 else 1
    if units ≤ n then c :: jsSlice (n - units) cs
    else if n = 0 then []
    else ['\uFFFD']

def codeUnits (text : List Char) : Nat := (text.map fun c => if 0x10000 ≤ c.toNat then 2 else 1).sum

variable (c : Char)

theorem codeUnits_cons (text : List Char) :
    codeUnits (c :: text) = (if 0x10000 ≤ c.toNat then 2 else 1) + codeUnits text := List.sum_cons

theorem jsSlice_append (front rest : List Char) : jsSlice (codeUnits front) (front ++ rest) = front := by
  induction front with
  | nil =>
    cases rest with
    | nil => rfl
    | cons c rest =>
      have zero : codeUnits [] = 0 := rfl
      rw [List.nil_append, jsSlice, zero, if_neg, if_pos rfl]
      show ¬(if 0x10000 ≤ c.toNat then 2 else 1) ≤ 0
      split <;> omega
  | cons c front ih =>
    rw [List.cons_append, jsSlice, codeUnits_cons, if_pos (Nat.le_add_right ..), Nat.add_sub_cancel_left, ih]

/-- The cuts: none, one between two characters, and one through a character of two code units. -/
theorem jsSlice_cases (n : Nat) (text : List Char) : jsSlice n text = text ∨
    ∃ front c rest, text = front ++ c :: rest ∧ (codeUnits front = n ∧ jsSlice n text = front ∨
      0x10000 ≤ c.toNat ∧ jsSlice n text = front ++ ['\uFFFD']) := by
  induction text generalizing n with
  | nil =>
    left
    rw [jsSlice]
  | cons c text ih =>
    rw [jsSlice]
    by_cases fits : (if 0x10000 ≤ c.toNat then 2 else 1) ≤ n
    · rw [if_pos fits]
      rcases ih (n - if 0x10000 ≤ c.toNat then 2 else 1) with whole | ⟨front, d, rest, rfl, cut⟩
      · left
        rw [whole]
      · right
        refine ⟨c :: front, d, rest, rfl, ?_⟩
        rcases cut with ⟨units, cut⟩ | ⟨wide, cut⟩
        · left
          rw [cut, codeUnits_cons, units]
          exact ⟨Nat.add_sub_of_le fits, rfl⟩
        · right
          rw [cut]
          exact ⟨wide, rfl⟩
    · right
      refine ⟨[], c, text, rfl, ?_⟩
      rw [if_neg fits]
      by_cases zero : n = 0
      · rw [if_pos zero]
        exact .inl ⟨zero.symm, rfl⟩
      · rw [if_neg zero]
        refine .inr ⟨?_, rfl⟩
        by_contra narrow
        rw [if_neg narrow] at fits
        omega

/-- The white space and line terminators `trim` removes. -/
def isJsSpace (c : Char) : Bool :=
  (9 ≤ c.toNat && c.toNat ≤ 13) || (0x2000 ≤ c.toNat && c.toNat ≤ 0x200A) ||
    [0x20, 0xA0, 0x1680, 0x2028, 0x2029, 0x202F, 0x205F, 0x3000, 0xFEFF].contains c.toNat

def jsTrim (s : String) : String :=
  String.ofList ((s.toList.dropWhile isJsSpace).reverse.dropWhile isJsSpace).reverse

theorem dropWhile_dropWhile {α : Type} (p : α → Bool) (xs : List α) :
    (xs.dropWhile p).dropWhile p = xs.dropWhile p := by
  induction xs with
  | nil => rfl
  | cons x xs ih =>
    rw [List.dropWhile_cons]
    split
    · exact ih
    · next stays => rw [List.dropWhile_cons, if_neg stays]

theorem dropWhile_reverse_dropWhile {α : Type} {p : α → Bool} {xs : List α} (start : xs.dropWhile p = xs) :
    (xs.reverse.dropWhile p).reverse.dropWhile p = (xs.reverse.dropWhile p).reverse := by
  cases xs with
  | nil => rfl
  | cons x xs =>
    have stays : p x = false := by
      rw [List.dropWhile_cons] at start
      split at start
      · next drops =>
        have shorter := congrArg List.length start
        have := (List.dropWhile_sublist (l := xs) p).length_le
        rw [List.length_cons] at shorter
        omega
      · next stays => exact Bool.eq_false_iff.mpr stays
    rw [List.reverse_cons, List.dropWhile_append]
    split
    · have single : [x].dropWhile p = [x] := by rw [List.dropWhile_cons, stays, if_neg Bool.false_ne_true]
      rw [single, List.reverse_singleton, single]
    · rw [List.reverse_append, List.reverse_singleton, List.singleton_append, List.dropWhile_cons, stays,
        if_neg Bool.false_ne_true]

theorem jsTrim_jsTrim (s : String) : jsTrim (jsTrim s) = jsTrim s := by
  have start := dropWhile_reverse_dropWhile (dropWhile_dropWhile isJsSpace s.toList)
  unfold jsTrim
  rw [String.toList_ofList, start, List.reverse_reverse, dropWhile_dropWhile]

theorem jsTrim_of_noSpace {s : String} (none : ∀ c ∈ s.toList, isJsSpace c = false) : jsTrim s = s := by
  have kept {cs : List Char} (none : ∀ c ∈ cs, isJsSpace c = false) : cs.dropWhile isJsSpace = cs := by
    cases cs with
    | nil => rfl
    | cons c cs => rw [List.dropWhile_cons, none c List.mem_cons_self, if_neg Bool.false_ne_true]
  unfold jsTrim
  rw [kept none, kept fun c mem => none c (List.mem_reverse.mp mem), List.reverse_reverse,
    String.ofList_toList]

/-- What `/^[0-9a-f]{64}$/` matches: a SHA-256 digest in hexadecimal. -/
def isSha256Hex (s : String) : Bool :=
  decide (s.toList.length = 64) && s.toList.all fun c => c.isDigit || (decide ('a' ≤ c) && decide (c ≤ 'f'))

def asciiUpper (s : String) : String := String.ofList (s.toList.map Char.toUpper)

/-- The string builtins whose result depends on the Unicode tables, with what they do to a text
outside the tables' reach. -/
structure TextBuiltins where
  normalizeNfkc : String → String
  toUpperCase : String → String
  toUpperCase_ascii : ∀ s : String, (s.toList.all fun c => c.toNat < 128) → toUpperCase s = asciiUpper s

def TextBuiltins.ascii : TextBuiltins := ⟨id, asciiUpper, fun _ _ => rfl⟩

/-- The case builtins of the engine, which leave white space alone. -/
structure CaseBuiltins where
  toUpperCase : String → String
  toLowerCase : String → String
  toUpperCase_trim : ∀ s, toUpperCase (jsTrim s) = jsTrim (toUpperCase s)
  toLowerCase_trim : ∀ s, toLowerCase (jsTrim s) = jsTrim (toLowerCase s)

/-- The texts differ in the case of their letters only. -/
def CaseBuiltins.SameLetters (B : CaseBuiltins) (a b : String) : Prop :=
  B.toUpperCase a = B.toUpperCase b ∧ B.toLowerCase a = B.toLowerCase b

theorem jsTrim_ofList_map {f : Char → Char} (same : ∀ c, isJsSpace (f c) = isJsSpace c) (s : String) :
    String.ofList ((jsTrim s).toList.map f) = jsTrim (String.ofList (s.toList.map f)) := by
  have dropped (cs : List Char) :
      (cs.map f).dropWhile isJsSpace = (cs.dropWhile isJsSpace).map f := by
    induction cs with
    | nil => rfl
    | cons c cs ih =>
      simp only [List.map_cons, List.dropWhile_cons, same]
      split
      · exact ih
      · rfl
  unfold jsTrim
  simp only [String.toList_ofList, dropped, ← List.map_reverse]

/-- Letters are neither white space before nor after a change of case. -/
theorem isJsSpace_case {f : Char → Char} (low : Nat)
    (letters : ∀ k < 26, isJsSpace (f (Char.ofNat (low + k))) = isJsSpace (Char.ofNat (low + k)))
    (others : ∀ c : Char, ¬(low ≤ c.toNat ∧ c.toNat < low + 26) → f c = c) (c : Char) :
    isJsSpace (f c) = isJsSpace c := by
  by_cases letter : low ≤ c.toNat ∧ c.toNat < low + 26
  · have here := letters (c.toNat - low) (by omega)
    rwa [Nat.add_sub_cancel' letter.1, Char.ofNat_toNat] at here
  · rw [others c letter]

theorem isJsSpace_toUpper : isJsSpace c.toUpper = isJsSpace c := by
  apply isJsSpace_case 97 (by decide)
  intro d other
  unfold Char.toUpper
  exact dif_neg fun letter => other ⟨letter.1, by have := letter.2; exact Nat.lt_succ_of_le this⟩

theorem isJsSpace_toLower : isJsSpace c.toLower = isJsSpace c := by
  apply isJsSpace_case 65 (by decide)
  intro d other
  unfold Char.toLower
  exact dif_neg fun letter => other ⟨letter.1, by have := letter.2; exact Nat.lt_succ_of_le this⟩

theorem toLower_toLower : c.toLower.toLower = c.toLower := by
  have others {d : Char} (other : ¬ (65 ≤ d.toNat ∧ d.toNat < 91)) : d.toLower = d := by
    unfold Char.toLower
    refine dif_neg fun letter => other ⟨letter.1, ?_⟩
    have := letter.2
    exact Nat.lt_succ_of_le this
  by_cases letter : 65 ≤ c.toNat ∧ c.toNat < 91
  · have letters : ∀ k < 26, (Char.ofNat (65 + k)).toLower.toLower = (Char.ofNat (65 + k)).toLower := by
      decide
    have here := letters (c.toNat - 65) (by omega)
    rwa [Nat.add_sub_cancel' letter.1, Char.ofNat_toNat] at here
  · rw [others letter, others letter]

def CaseBuiltins.ascii : CaseBuiltins where
  toUpperCase := asciiUpper
  toLowerCase s := String.ofList (s.toList.map Char.toLower)
  toUpperCase_trim := jsTrim_ofList_map isJsSpace_toUpper
  toLowerCase_trim := jsTrim_ofList_map isJsSpace_toLower

/-! ## The default order of texts -/

def charUnits (c : Char) : List Nat :=
  if c.toNat < 0x10000 then [c.toNat]
  else [0xD800 + (c.toNat - 0x10000) / 0x400, 0xDC00 + (c.toNat - 0x10000) % 0x400]

/-- The code units of a text, by which `sort` and `<` compare texts. -/
def jsUnits (s : String) : List Nat := s.toList.flatMap charUnits

theorem toNat_range : c.toNat < 0xD800 ∨ 0xDFFF < c.toNat ∧ c.toNat < 0x110000 := c.valid

theorem charUnits_append_inj {c d : Char} {s t : List Nat}
    (same : charUnits c ++ s = charUnits d ++ t) : c = d ∧ s = t := by
  have rangeC := toNat_range c
  have rangeD := toNat_range d
  have equal : c.toNat = d.toNat ∧ s = t := by
    unfold charUnits at same
    split_ifs at same with lowC lowD lowD
    · exact List.cons.inj same
    · have first := (List.cons.inj same).1
      omega
    · have first := (List.cons.inj same).1
      omega
    · obtain ⟨first, rest⟩ := List.cons.inj same
      obtain ⟨second, rest⟩ := List.cons.inj rest
      exact ⟨by omega, rest⟩
  exact ⟨Char.toNat_inj.mp equal.1, equal.2⟩

theorem jsUnits_injective : Function.Injective jsUnits := by
  have lists (cs ds : List Char) (same : cs.flatMap charUnits = ds.flatMap charUnits) : cs = ds := by
    induction cs generalizing ds with
    | nil =>
      cases ds with
      | nil => rfl
      | cons d ds =>
        rw [List.flatMap_cons] at same
        unfold charUnits at same
        split_ifs at same <;> exact nomatch same
    | cons c cs ih =>
      cases ds with
      | nil =>
        rw [List.flatMap_cons] at same
        unfold charUnits at same
        split_ifs at same <;> exact nomatch same
      | cons d ds =>
        obtain ⟨rfl, rest⟩ := charUnits_append_inj same
        rw [ih ds rest]
  intro s t same
  exact String.toList_inj.mp (lists _ _ same)

def jsSort (texts : List String) : List String :=
  texts.insertionSort fun a b => jsUnits a ≤ jsUnits b

instance : IsTrans String fun a b => jsUnits a ≤ jsUnits b := ⟨fun _ _ _ => le_trans⟩

instance : Std.Total fun a b : String => jsUnits a ≤ jsUnits b := ⟨fun _ _ => le_total _ _⟩

instance : Std.Antisymm fun a b : String => jsUnits a ≤ jsUnits b :=
  ⟨fun _ _ le ge => jsUnits_injective (le_antisymm le ge)⟩

theorem perm_jsSort (texts : List String) : (jsSort texts).Perm texts :=
  List.perm_insertionSort _ _

theorem jsSort_congr {texts others : List String} (perm : texts.Perm others) : jsSort texts = jsSort others :=
  ((perm_jsSort texts).trans (perm.trans (perm_jsSort others).symm)).eq_of_pairwise'
    (List.pairwise_insertionSort _ _) (List.pairwise_insertionSort _ _)

/-- `new Map(entries).get(key)`: the last entry of the key. -/
def mapGet {α : Type} (entries : List (String × α)) (key : String) : Option α :=
  (entries.reverse.find? (·.1 = key)).map (·.2)

theorem mapGet_append {α : Type} (entries : List (String × α)) (key other : String) (value : α) :
    mapGet (entries ++ [(key, value)]) other = if key = other then some value else mapGet entries other := by
  unfold mapGet
  rw [List.reverse_append, List.reverse_singleton, List.singleton_append, List.find?_cons]
  by_cases same : key = other
  · simp [same]
  · simp [same]

theorem mem_of_mapGet {α : Type} {entries : List (String × α)} {key : String} {value : α}
    (found : mapGet entries key = some value) : (key, value) ∈ entries := by
  unfold mapGet at found
  obtain ⟨⟨key', value'⟩, there, rfl⟩ := Option.map_eq_some_iff.mp found
  have same := List.find?_some there
  rw [decide_eq_true_eq] at same
  exact same ▸ List.mem_reverse.mp (List.mem_of_find?_eq_some there)

theorem isSome_mapGet {α : Type} {entries : List (String × α)} {key : String} {value : α}
    (mem : (key, value) ∈ entries) : (mapGet entries key).isSome := by
  unfold mapGet
  rw [Option.isSome_map]
  exact List.find?_isSome.mpr ⟨_, List.mem_reverse.mpr mem, decide_eq_true rfl⟩

section Concat

variable {κ : Type} {xs : List α} {x y : α}

theorem mem_concat : y ∈ xs ++ [x] ↔ y ∈ xs ∨ y = x := by
  rw [List.mem_append, List.mem_singleton]

theorem forall_mem_concat {P : α → Prop} (old : ∀ y ∈ xs, P y) (new : P x) : ∀ y ∈ xs ++ [x], P y :=
  List.forall_mem_append.mpr ⟨old, List.forall_mem_singleton.mpr new⟩

theorem nodup_map_concat {key : α → κ} (once : (xs.map key).Nodup) (fresh : ∀ y ∈ xs, key y ≠ key x) :
    ((xs ++ [x]).map key).Nodup := by
  rw [List.map_append, List.map_singleton, List.nodup_append]
  refine ⟨once, List.nodup_singleton _, fun k mem k' here => ?_⟩
  obtain ⟨y, there, rfl⟩ := List.mem_map.mp mem
  rw [List.mem_singleton.mp here]
  exact fresh y there

end Concat

theorem nodup_eraseDups {α : Type} [BEq α] [LawfulBEq α] (xs : List α) : xs.eraseDups.Nodup := by
  induction hn : xs.length using Nat.strong_induction_on generalizing xs with
  | _ n ih =>
    cases xs with
    | nil => exact List.nodup_nil
    | cons x xs =>
      rw [List.eraseDups_cons, List.nodup_cons, List.mem_eraseDups, List.mem_filter]
      refine ⟨fun mem => by simp at mem, ih _ ?_ _ rfl⟩
      have := List.length_filter_le (fun b => !b == x) xs
      rw [List.length_cons] at hn
      omega

end Lib
