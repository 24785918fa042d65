import FullManagedBi.Lib.Json

/-!
# Texts that can be read back

An encoding is prefix-free if what it writes can be read off the front of any text, so that a value and what
follows it are known from the text. Strings are written so (`prefixFree_jsonString`), and so are records of
such values and arrays of them (`PrefixFree.array`). A prefix-free encoding is injective.
-/

namespace Lib

variable {α β : Type} {f : α → List Char} {g : β → List Char}

/-- What the encoding writes can be read off the front of a text. -/
def PrefixFree (f : α → List Char) : Prop := ∀ a b s t, f a ++ s = f b ++ t → a = b ∧ s = t

namespace PrefixFree

theorem injective (free : PrefixFree f) : Function.Injective f := by
  intro a b same
  exact (free a b [] [] (congrArg (· ++ []) same)).1

theorem before (free : PrefixFree f) (front : List Char) : PrefixFree fun a => front ++ f a := by
  intro a b s t same
  rw [List.append_assoc, List.append_assoc, List.append_right_inj] at same
  exact free a b s t same

theorem behind (free : PrefixFree f) (back : List Char) : PrefixFree fun a => f a ++ back := by
  intro a b s t same
  rw [List.append_assoc, List.append_assoc] at same
  obtain ⟨rfl, rest⟩ := free a b _ _ same
  exact ⟨rfl, List.append_cancel_left rest⟩

theorem pair (first : PrefixFree f) (second : PrefixFree g) : PrefixFree fun p : α × β => f p.1 ++ g p.2 := by
  rintro ⟨a, b⟩ ⟨a', b'⟩ s t same
  rw [List.append_assoc, List.append_assoc] at same
  obtain ⟨rfl, rest⟩ := first a a' _ _ same
  obtain ⟨rfl, rfl⟩ := second b b' _ _ rest
  exact ⟨rfl, rfl⟩

theorem comap (free : PrefixFree f) {read : β → α} (injective : Function.Injective read) :
    PrefixFree fun b => f (read b) := by
  intro a b s t same
  obtain ⟨here, rest⟩ := free _ _ s t same
  exact ⟨injective here, rest⟩

/-- A value or `null`, if no value is written with an `n` in front. -/
theorem orNull (free : PrefixFree f) (other : ∀ a s, (f a ++ s).head? ≠ some 'n') : PrefixFree fun value : Option α =>
      match value with
      | some a => f a
      | none => "null".toList := by
  rintro (_ | a) (_ | b) s t same
  · exact ⟨rfl, List.append_cancel_left same⟩
  · exact absurd (congrArg List.head? same).symm (other b t)
  · exact absurd (congrArg List.head? same) (other a s)
  · obtain ⟨rfl, rest⟩ := free a b s t same
    exact ⟨rfl, rest⟩

end PrefixFree

/-! ## Strings -/

def hexValue (c : Char) : Nat := if c.toNat < 97 then c.toNat - 48 else c.toNat - 87

def readEscaped : List Char → Option (Char × List Char)
  | '\\' :: '"' :: rest => some ('"', rest)
  | '\\' :: '\\' :: rest => some ('\\', rest)
  | '\\' :: 'b' :: rest => some (Char.ofNat 8, rest)
  | '\\' :: 't' :: rest => some (Char.ofNat 9, rest)
  | '\\' :: 'n' :: rest => some (Char.ofNat 10, rest)
  | '\\' :: 'f' :: rest => some (Char.ofNat 12, rest)
  | '\\' :: 'r' :: rest => some (Char.ofNat 13, rest)
  | '\\' :: 'u' :: '0' :: '0' :: high :: low :: rest => some (Char.ofNat (16 * hexValue high + hexValue low), rest)
  | c :: rest => some (c, rest)
  | [] => none

theorem eq_ofNat_of_toNat {c : Char} {n : Nat} (same : c.toNat = n) : c = Char.ofNat n := by
  rw [← same, Char.ofNat_toNat]

theorem readEscaped_escapeChar (c : Char) (rest : List Char) : readEscaped (escapeChar c ++ rest) = some (c, rest) := by
  unfold escapeChar
  split_ifs with quote slash b t n f r control
  · rw [quote]; rfl
  · rw [slash]; rfl
  · rw [eq_ofNat_of_toNat b]; rfl
  · rw [eq_ofNat_of_toNat t]; rfl
  · rw [eq_ofNat_of_toNat n]; rfl
  · rw [eq_ofNat_of_toNat f]; rfl
  · rw [eq_ofNat_of_toNat r]; rfl
  · have digits : ∀ k < 32, Char.ofNat (16 * hexValue (hexChar (k / 16)) + hexValue (hexChar (k % 16))) =
        Char.ofNat k := by decide
    simp only [List.cons_append, List.nil_append, readEscaped]
    rw [digits _ control, Char.ofNat_toNat]
  · rw [List.singleton_append]
    unfold readEscaped
    split <;> simp_all

theorem head?_escapeChar (c : Char) (rest : List Char) : (escapeChar c ++ rest).head? ≠ some '"' := by
  unfold escapeChar
  split_ifs with quote <;> simp [quote]

theorem prefixFree_escapeChar : PrefixFree escapeChar := by
  intro c d s t same
  have read := congrArg readEscaped same
  rw [readEscaped_escapeChar, readEscaped_escapeChar] at read
  exact Prod.mk.inj (Option.some.inj read)

/-- The characters of a string up to its closing quote are read back. -/
theorem escaped_append_inj {cs ds s t : List Char}
    (same : cs.flatMap escapeChar ++ '"' :: s = ds.flatMap escapeChar ++ '"' :: t) : cs = ds ∧ s = t := by
  induction cs generalizing ds with
  | nil =>
    cases ds with
    | nil => exact ⟨rfl, (List.cons.inj same).2⟩
    | cons d ds =>
      rw [List.flatMap_cons, List.append_assoc] at same
      exact absurd (congrArg List.head? same).symm (head?_escapeChar d _)
  | cons c cs ih =>
    cases ds with
    | nil =>
      rw [List.flatMap_cons, List.append_assoc] at same
      exact absurd (congrArg List.head? same) (head?_escapeChar c _)
    | cons d ds =>
      rw [List.flatMap_cons, List.flatMap_cons, List.append_assoc, List.append_assoc] at same
      obtain ⟨rfl, rest⟩ := prefixFree_escapeChar c d _ _ same
      obtain ⟨rfl, rfl⟩ := ih rest
      exact ⟨rfl, rfl⟩

/-- **A string is read back from its JSON text.** -/
theorem prefixFree_jsonString : PrefixFree jsonString := by
  intro a b s t same
  unfold jsonString at same
  simp only [List.cons_append, List.append_assoc, List.cons.injEq, true_and] at same
  obtain ⟨chars, rest⟩ := escaped_append_inj same
  exact ⟨String.toList_inj.mp chars, rest⟩

/-! ## Arrays -/

/-- The items after the first, and the end of the array. -/
def arrayRest (f : α → List Char) (items : List α) : List Char :=
  items.flatMap (fun item => ',' :: f item) ++ [']']

theorem joinComma_cons (f : α → List Char) (item : α) (items : List α) :
    joinComma ((item :: items).map f) ++ [']'] = f item ++ arrayRest f items := by
  induction items generalizing item with
  | nil => simp [joinComma, arrayRest]
  | cons next items ih =>
    have rest := ih next
    unfold joinComma arrayRest at *
    rw [List.map_cons, List.map_cons, List.intercalate_cons_cons, ← List.map_cons, List.append_assoc,
      List.append_assoc, rest]
    simp

theorem arrayRest_append_inj (free : PrefixFree f) {as bs : List α} {s t : List Char}
    (same : arrayRest f as ++ s = arrayRest f bs ++ t) : as = bs ∧ s = t := by
  induction as generalizing bs with
  | nil =>
    cases bs with
    | nil => exact ⟨rfl, (List.cons.inj same).2⟩
    | cons b bs => exact absurd (congrArg List.head? same) (by simp [arrayRest])
  | cons a as ih =>
    cases bs with
    | nil => exact absurd (congrArg List.head? same) (by simp [arrayRest])
    | cons b bs =>
      have split (c : α) (cs : List α) : arrayRest f (c :: cs) = ',' :: (f c ++ arrayRest f cs) := by
        simp [arrayRest]
      rw [split, split, List.cons_append, List.cons_append, List.append_assoc, List.append_assoc] at same
      obtain ⟨rfl, rest⟩ := free a b _ _ (List.cons.inj same).2
      obtain ⟨rfl, rfl⟩ := ih rest
      exact ⟨rfl, rfl⟩

def arrayText (f : α → List Char) (items : List α) : List Char := '[' :: joinComma (items.map f) ++ [']']

theorem arrayText_cons (f : α → List Char) (item : α) (items : List α) :
    arrayText f (item :: items) = '[' :: (f item ++ arrayRest f items) := by
  unfold arrayText
  rw [List.cons_append, joinComma_cons]

/-- **An array is read back from its text**, if no item is written with a `]` in front. -/
theorem PrefixFree.array (free : PrefixFree f) (other : ∀ a s, (f a ++ s).head? ≠ some ']') :
    PrefixFree (arrayText f) := by
  rintro (_ | ⟨a, as⟩) (_ | ⟨b, bs⟩) s t same
  · exact ⟨rfl, (List.cons.inj (List.cons.inj same).2).2⟩
  · rw [arrayText_cons, List.cons_append, List.append_assoc] at same
    exact absurd (congrArg List.head? (List.cons.inj same).2).symm (other b _)
  · rw [arrayText_cons, List.cons_append, List.append_assoc] at same
    exact absurd (congrArg List.head? (List.cons.inj same).2) (other a _)
  · rw [arrayText_cons, arrayText_cons, List.cons_append, List.cons_append, List.append_assoc,
      List.append_assoc] at same
    obtain ⟨rfl, rest⟩ := free a b _ _ (List.cons.inj same).2
    obtain ⟨rfl, rfl⟩ := arrayRest_append_inj free rest
    exact ⟨rfl, rfl⟩

/-! ## Values -/

mutual
def jsonChars : Json → List Char
  | .null => "null".toList
  | .bool b => if b then "true".toList else "false".toList
  | .num n => n.text.toList
  | .str s => jsonString s
  | .arr items => '[' :: joinComma (jsonItems items) ++ [']']
  | .obj fields => '{' :: joinComma ((jsonFields fields).map fieldText) ++ ['}']
def jsonItems : List Json → List (List Char)
  | [] => []
  | item :: items => jsonChars item :: jsonItems items
/-- The keys of an object with the texts of their values. -/
def jsonFields : List (String × Json) → List (String × List Char)
  | [] => []
  | (key, value) :: fields => (key, jsonChars value) :: jsonFields fields
end

/-- The text of a number that is not written in digits alone: it starts with a digit or a sign, and has a point or
an exponent. -/
def PointedText (text : String) : Prop :=
  (∃ c rest, text.toList = c :: rest ∧ (c.isDigit ∨ c = '-')) ∧ ∃ c ∈ text.toList, c = '.' ∨ c = 'e'

/-- The texts of the number are those of such a number. -/
def JsNumber.Proper : JsNumber → Prop
  | .int _ => True
  | .large text | .fraction text => PointedText text

mutual
def Json.Proper : Json → Prop
  | .num n => n.Proper
  | .arr items => ProperItems items
  | .obj fields => ProperFields fields
  | _ => True
def ProperItems : List Json → Prop
  | [] => True
  | item :: items => item.Proper ∧ ProperItems items
def ProperFields : List (String × Json) → Prop
  | [] => True
  | field :: fields => field.2.Proper ∧ ProperFields fields
end

theorem digit_of_mem_decimalDigits {n : Nat} {c : Char} (mem : c ∈ decimalDigits n) : c.isDigit :=
  Nat.isDigit_of_mem_toDigits (by decide) (by decide) mem

theorem decimalDigits_injective : Function.Injective decimalDigits := by
  intro m n same
  have read := congrArg (Nat.ofDigitChars 10 · 0) same
  unfold decimalDigits at read
  rwa [Nat.ofDigitChars_ten_toDigits, Nat.ofDigitChars_ten_toDigits] at read

/-- An integer is written in digits, behind a sign where it is negative. -/
theorem intText_head (n : Int) : ∃ c rest, intText n = c :: rest ∧ (c.isDigit ∨ c = '-') := by
  cases n with
  | ofNat n =>
    obtain ⟨c, rest, same⟩ : ∃ c rest, decimalDigits n = c :: rest := List.exists_cons_of_ne_nil Nat.toDigits_ne_nil
    have mem : c ∈ decimalDigits n := same ▸ List.mem_cons_self
    exact ⟨c, rest, same, .inl (digit_of_mem_decimalDigits mem)⟩
  | negSucc n => exact ⟨'-', _, rfl, .inr rfl⟩

theorem JsNumber.text_head {n : JsNumber} (proper : n.Proper) :
    ∃ c rest, n.text.toList = c :: rest ∧ (c.isDigit ∨ c = '-') := by
  cases n with
  | int n =>
    unfold JsNumber.text
    rw [String.toList_ofList]
    exact intText_head n
  | large text => exact proper.1
  | fraction text => exact proper.1

def startsAs : Json → Char → Prop
  | .null, c => c = 'n'
  | .bool _, c => c = 't' ∨ c = 'f'
  | .num _, c => c.isDigit ∨ c = '-'
  | .str _, c => c = '"'
  | .arr _, c => c = '['
  | .obj _, c => c = '{'

theorem jsonChars_head {value : Json} (proper : value.Proper) :
    ∃ c rest, jsonChars value = c :: rest ∧ startsAs value c := by
  cases value with
  | null => exact ⟨_, _, rfl, rfl⟩
  | bool b =>
    cases b with
    | false => exact ⟨'f', "alse".toList, rfl, .inr rfl⟩
    | true => exact ⟨'t', "rue".toList, rfl, .inl rfl⟩
  | num n => exact JsNumber.text_head proper
  | str s => exact ⟨_, _, rfl, rfl⟩
  | arr items => exact ⟨_, _, rfl, rfl⟩
  | obj fields => exact ⟨_, _, rfl, rfl⟩

theorem eq_str_of_jsonChars {value : Json} (proper : value.Proper) {s : String}
    (same : jsonChars value = jsonChars (.str s)) : value = .str s := by
  obtain ⟨c, rest, text, starts⟩ := jsonChars_head proper
  have quote : c = '"' := (List.cons.inj (text.symm.trans same)).1
  subst quote
  cases value with
  | str t => rw [prefixFree_jsonString.injective same]
  | bool b => exact absurd starts (by simp [startsAs])
  | _ => exact absurd starts (by simp [startsAs])

theorem eq_ofNat_of_jsonChars {value : Json} (proper : value.Proper) {n : Nat}
    (same : jsonChars value = jsonChars (.ofNat n)) : value = .ofNat n := by
  have digits : jsonChars (.ofNat n) = decimalDigits n := by
    change (JsNumber.text (.int n)).toList = _
    unfold JsNumber.text
    rw [String.toList_ofList]
    rfl
  rw [digits] at same
  obtain ⟨c, rest, text, starts⟩ := jsonChars_head proper
  have digit : c.isDigit := digit_of_mem_decimalDigits (same ▸ text ▸ List.mem_cons_self)
  have pointed {text : String} (pointed : PointedText text) : text.toList ≠ decimalDigits n := by
    intro written
    obtain ⟨-, d, mem, point⟩ := pointed
    have isDigit := digit_of_mem_decimalDigits (written ▸ mem)
    rcases point with rfl | rfl <;> exact absurd isDigit (by decide)
  cases value with
  | num m =>
    cases m with
    | int m =>
      change (JsNumber.text (.int m)).toList = _ at same
      unfold JsNumber.text at same
      rw [String.toList_ofList] at same
      cases m with
      | ofNat m => rw [decimalDigits_injective same]; rfl
      | negSucc m =>
        have sign : '-' ∈ decimalDigits n := same ▸ List.mem_cons_self
        exact absurd (digit_of_mem_decimalDigits sign) (by decide)
    | large text => exact absurd same (pointed proper)
    | fraction text => exact absurd same (pointed proper)
  | bool b =>
    rcases starts with rfl | rfl <;> exact absurd digit (by decide)
  | _ =>
    rw [startsAs] at starts
    subst starts
    exact absurd digit (by decide)

theorem eq_nil_of_jsonChars {value : Json} (proper : value.Proper) (same : jsonChars value = jsonChars (.arr [])) :
    value = .arr [] := by
  obtain ⟨c, rest, text, starts⟩ := jsonChars_head proper
  have bracket : c = '[' := (List.cons.inj (text.symm.trans same)).1
  subst bracket
  cases value with
  | arr items =>
    cases items with
    | nil => rfl
    | cons item items =>
      obtain ⟨d, more, first, -⟩ := jsonChars_head (proper.1 : item.Proper)
      have inner : joinComma (jsonItems (item :: items)) = [] :=
        List.append_cancel_right (List.cons.inj same).2
      rw [jsonItems, joinComma, first] at inner
      cases items <;> simp [jsonItems, List.intercalate] at inner
  | bool b => exact absurd starts (by simp [startsAs])
  | _ => exact absurd starts (by simp [startsAs])

end Lib
