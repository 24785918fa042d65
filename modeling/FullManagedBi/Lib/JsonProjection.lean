import FullManagedBi.Lib.JsonText

/-!
# JSON texts with a list of names

A value that `JSON.parse` can return (`Json.Written`) is read back from its text, up to what closes it
(`jsonChars_append_inj`), so that different values have different texts (`jsonChars_injective`). With a list of names,
`JSON.stringify` writes of each object, at every depth, the members with these names only, in the order of the list:
what is left of a value is its `project`ion. The order of members is lost by it (`project_sorted`), as is each member with
another name.
-/

namespace Lib

variable {α : Type}

/-! ## Texts with a list of items -/

/-- A text that follows a value: it is empty, or begins with a comma or a closing bracket. -/
def Closed (text : List Char) : Prop := ∀ c ∈ text.head?, c = ',' ∨ c = ']' ∨ c = '}'

theorem closed_nil : Closed [] := nofun

theorem closed_cons {c : Char} (closing : c = ',' ∨ c = ']' ∨ c = '}') (text : List Char) : Closed (c :: text) := by
  rintro d ⟨⟩
  exact closing

theorem joinComma_cons_cons (text next : List Char) (texts : List (List Char)) :
    joinComma (text :: next :: texts) = text ++ ',' :: joinComma (next :: texts) := by
  simp [joinComma, List.intercalate]

theorem joinComma_singleton (text : List Char) : joinComma [text] = text := by simp [joinComma, List.intercalate]

/-- A list of items is read back from its text up to the closing bracket, if each item is. -/
theorem joinComma_append_inj {f : α → List Char} {bracket : Char} (closing : bracket = ']' ∨ bracket = '}')
    {as bs : List α} {s t : List Char}
    (read : ∀ a ∈ as, ∀ b ∈ bs, ∀ s t, Closed s → Closed t → f a ++ s = f b ++ t → a = b ∧ s = t)
    (other : ∀ a, a ∈ as ∨ a ∈ bs → ∃ c rest, f a = c :: rest ∧ c ≠ bracket)
    (same : joinComma (as.map f) ++ bracket :: s = joinComma (bs.map f) ++ bracket :: t) : as = bs ∧ s = t := by
  have comma : bracket ≠ ',' := by rcases closing with rfl | rfl <;> decide
  have closed : ∀ text, Closed (bracket :: text) := fun text => closed_cons (.inr closing) text
  -- The text of the items begins with a character of the first item.
  have begins : ∀ a (items : List α), a ∈ as ∨ a ∈ bs → ∀ text : List Char,
      ∃ c rest, joinComma ((a :: items).map f) ++ text = c :: rest ∧ c ≠ bracket := by
    intro a items mem text
    obtain ⟨c, rest, written, differs⟩ := other a mem
    cases items with
    | nil => exact ⟨c, rest ++ text, by simp [joinComma_singleton, written], differs⟩
    | cons next items =>
      exact ⟨c, _, by rw [List.map_cons, List.map_cons, joinComma_cons_cons, written, List.cons_append, List.cons_append],
        differs⟩
  induction as generalizing bs with
  | nil =>
    cases bs with
    | nil => exact ⟨rfl, (List.cons.inj same).2⟩
    | cons b bs =>
      obtain ⟨c, rest, written, differs⟩ := begins b bs (.inr List.mem_cons_self) (bracket :: t)
      rw [written] at same
      exact absurd (List.cons.inj same).1.symm differs
  | cons a as ih =>
    cases bs with
    | nil =>
      obtain ⟨c, rest, written, differs⟩ := begins a as (.inl List.mem_cons_self) (bracket :: s)
      rw [written] at same
      exact absurd (List.cons.inj same).1 differs
    | cons b bs =>
      have first := read a List.mem_cons_self b List.mem_cons_self
      cases as with
      | nil =>
        cases bs with
        | nil =>
          simp only [List.map_cons, List.map_nil, joinComma_singleton] at same
          obtain ⟨rfl, rest⟩ := first _ _ (closed s) (closed t) same
          exact ⟨rfl, (List.cons.inj rest).2⟩
        | cons next bs =>
          simp only [List.map_cons, List.map_nil, joinComma_singleton, joinComma_cons_cons, List.append_assoc,
            List.cons_append] at same
          obtain ⟨-, rest⟩ := first _ _ (closed s) (closed_cons (.inl rfl) _) same
          exact absurd (List.cons.inj rest).1 comma
      | cons item as =>
        cases bs with
        | nil =>
          simp only [List.map_cons, List.map_nil, joinComma_singleton, joinComma_cons_cons, List.append_assoc,
            List.cons_append] at same
          obtain ⟨-, rest⟩ := first _ _ (closed_cons (.inl rfl) _) (closed t) same
          exact absurd (List.cons.inj rest).1.symm comma
        | cons next bs =>
          rw [List.map_cons, List.map_cons, joinComma_cons_cons, List.map_cons, List.map_cons, joinComma_cons_cons,
            List.append_assoc, List.append_assoc, List.cons_append, List.cons_append] at same
          obtain ⟨rfl, rest⟩ := first _ _ (closed_cons (.inl rfl) _) (closed_cons (.inl rfl) _) same
          obtain ⟨tail, behind⟩ := ih (fun x mem y there => read x (List.mem_cons_of_mem _ mem) y (List.mem_cons_of_mem _ there))
            (fun x mem => other x (mem.imp (List.mem_cons_of_mem _) (List.mem_cons_of_mem _)))
            (by simpa only [List.map_cons] using (List.cons.inj rest).2)
            (fun x items mem => begins x items (mem.imp (List.mem_cons_of_mem _) (List.mem_cons_of_mem _)))
          exact ⟨by rw [tail], behind⟩

/-! ## Numbers -/

def isNumberChar (c : Char) : Bool := c.isDigit || c = '-' || c = '+' || c = '.' || c = 'e'

/-- The number is one that the engine writes so: `large` with an exponent and its sign, `fraction` with a point or a
negative exponent. -/
def JsNumber.Written : JsNumber → Prop
  | .int _ => True
  | .large text => PointedText text ∧ (∀ c ∈ text.toList, isNumberChar c = true) ∧ '+' ∈ text.toList
  | .fraction text => PointedText text ∧ (∀ c ∈ text.toList, isNumberChar c = true) ∧ '+' ∉ text.toList

theorem isNumberChar_intText {n : Int} {c : Char} (mem : c ∈ intText n) : c.isDigit ∨ c = '-' := by
  cases n with
  | ofNat n => exact .inl (digit_of_mem_decimalDigits mem)
  | negSucc n =>
    rcases List.mem_cons.mp mem with rfl | digits
    · exact .inr rfl
    · exact .inl (digit_of_mem_decimalDigits digits)

theorem JsNumber.Written.proper {n : JsNumber} (written : n.Written) : n.Proper := by
  cases n with
  | int n => trivial
  | large text => exact written.1
  | fraction text => exact written.1

theorem JsNumber.text_chars {n : JsNumber} (written : n.Written) {c : Char} (mem : c ∈ n.text.toList) :
    isNumberChar c = true := by
  cases n with
  | int n =>
    rw [JsNumber.text, String.toList_ofList] at mem
    rcases isNumberChar_intText mem with digit | rfl
    · simp [isNumberChar, digit]
    · decide
  | large text => exact written.2.1 c mem
  | fraction text => exact written.2.1 c mem

theorem intText_injective : Function.Injective intText := by
  intro m n same
  have sign : ∀ k : Nat, '-' ∉ decimalDigits k := by
    intro k mem
    exact absurd (digit_of_mem_decimalDigits mem) (by decide)
  cases m with
  | ofNat m =>
    cases n with
    | ofNat n => rw [decimalDigits_injective same]
    | negSucc n =>
      have chars : decimalDigits m = '-' :: decimalDigits (n + 1) := same
      exact absurd (chars ▸ List.mem_cons_self) (sign m)
  | negSucc m =>
    cases n with
    | ofNat n =>
      have chars : decimalDigits n = '-' :: decimalDigits (m + 1) := same.symm
      exact absurd (chars ▸ List.mem_cons_self) (sign n)
    | negSucc n =>
      have digits := decimalDigits_injective (List.cons.inj same).2
      rw [Nat.succ.inj digits]

theorem not_pointed_intText {n : Int} {text : String} (pointed : PointedText text) : text.toList ≠ intText n := by
  intro same
  obtain ⟨-, c, mem, point⟩ := pointed
  rcases isNumberChar_intText (same ▸ mem) with digit | rfl
  · rcases point with rfl | rfl
    · exact absurd digit (by decide)
    · exact absurd digit (by decide)
  · exact absurd point (by decide)

theorem JsNumber.text_inj {m n : JsNumber} (hm : m.Written) (hn : n.Written) (same : m.text = n.text) : m = n := by
  have chars := congrArg String.toList same
  cases m with
  | int m =>
    cases n with
    | int n =>
      rw [JsNumber.text, JsNumber.text, String.toList_ofList, String.toList_ofList] at chars
      rw [intText_injective chars]
    | large text =>
      rw [JsNumber.text, String.toList_ofList] at chars
      exact absurd chars.symm (not_pointed_intText hn.1)
    | fraction text =>
      rw [JsNumber.text, String.toList_ofList] at chars
      exact absurd chars.symm (not_pointed_intText hn.1)
  | large text =>
    cases n with
    | int n =>
      rw [JsNumber.text.eq_1, String.toList_ofList] at chars
      exact absurd chars (not_pointed_intText hm.1)
    | large other => exact congrArg _ same
    | fraction other =>
      have equal : text = other := same
      exact absurd (equal ▸ hm.2.2) hn.2.2
  | fraction text =>
    cases n with
    | int n =>
      rw [JsNumber.text.eq_1, String.toList_ofList] at chars
      exact absurd chars (not_pointed_intText hm.1)
    | large other =>
      have equal : other = text := same.symm
      exact absurd (equal ▸ hn.2.2) hm.2.2
    | fraction other => exact congrArg _ same

theorem append_inj_of_class {p : Char → Bool} {x y s t : List Char} (hx : ∀ c ∈ x, p c = true) (hy : ∀ c ∈ y, p c = true)
    (hs : ∀ c ∈ s.head?, p c = false) (ht : ∀ c ∈ t.head?, p c = false) (same : x ++ s = y ++ t) : x = y ∧ s = t := by
  have front : ∀ {z r : List Char}, (∀ c ∈ z, p c = true) → (∀ c ∈ r.head?, p c = false) → (z ++ r).takeWhile p = z := by
    intro z r inside outside
    rw [List.takeWhile_append_of_pos inside]
    cases r with
    | nil => simp
    | cons c r => simp [outside c rfl]
  have equal : x = y := by rw [← front hx hs, same, front hy ht]
  subst equal
  exact ⟨rfl, List.append_cancel_left same⟩

theorem Closed.not_number {text : List Char} (closed : Closed text) : ∀ c ∈ text.head?, isNumberChar c = false := by
  intro c first
  rcases closed c first with rfl | rfl | rfl
  · decide
  · decide
  · decide

/-! ## Values -/

mutual
/-- The value is one that `JSON.parse` can return. -/
def Json.Written : Json → Prop
  | .num n => n.Written
  | .arr items => WrittenItems items
  | .obj fields => WrittenFields fields
  | _ => True
def WrittenItems : List Json → Prop
  | [] => True
  | item :: items => item.Written ∧ WrittenItems items
def WrittenFields : List (String × Json) → Prop
  | [] => True
  | field :: fields => field.2.Written ∧ WrittenFields fields
end

theorem writtenItems_iff {items : List Json} : WrittenItems items ↔ ∀ item ∈ items, item.Written := by
  induction items with
  | nil => exact iff_of_true trivial nofun
  | cons item items ih => rw [WrittenItems, ih, List.forall_mem_cons]

theorem writtenFields_iff {fields : List (String × Json)} : WrittenFields fields ↔ ∀ field ∈ fields, field.2.Written := by
  induction fields with
  | nil => exact iff_of_true trivial nofun
  | cons field fields ih => rw [WrittenFields, ih, List.forall_mem_cons]

theorem jsonItems_eq (items : List Json) : jsonItems items = items.map jsonChars := by
  induction items with
  | nil => rfl
  | cons item items ih => rw [jsonItems, ih, List.map_cons]

variable (fields : List (String × Json))

theorem jsonFields_eq : jsonFields fields = fields.map fun field => (field.1, jsonChars field.2) := by
  induction fields with
  | nil => rfl
  | cons field fields ih => rw [jsonFields, ih, List.map_cons]

def memberText (field : String × Json) : List Char := jsonString field.1 ++ ':' :: jsonChars field.2

theorem jsonChars_arr (items : List Json) : jsonChars (.arr items) = '[' :: joinComma (items.map jsonChars) ++ [']'] := by
  rw [jsonChars, jsonItems_eq]

theorem jsonChars_obj : jsonChars (.obj fields) = '\x7b' :: joinComma (fields.map memberText) ++ ['\x7d'] := by
  rw [jsonChars, jsonFields_eq, List.map_map]
  rfl

/-- A statement holds of each value if it holds of an array whose items it holds of, and of an object whose members it
holds of. -/
theorem Json.induction_on_nested {p : Json → Prop} (null : p .null) (bool : ∀ b, p (.bool b)) (num : ∀ n, p (.num n))
    (str : ∀ s, p (.str s)) (arr : ∀ items, (∀ item ∈ items, p item) → p (.arr items))
    (obj : ∀ fields, (∀ field ∈ fields, p field.2) → p (.obj fields)) (value : Json) : p value :=
  value.rec (motive_1 := p) (motive_2 := fun items => ∀ item ∈ items, p item)
    (motive_3 := fun fields => ∀ field ∈ fields, p field.2) (motive_4 := fun field => p field.2)
    null bool num str arr obj nofun (fun _ _ first rest => List.forall_mem_cons.mpr ⟨first, rest⟩)
    nofun (fun _ _ first rest => List.forall_mem_cons.mpr ⟨first, rest⟩) fun _ _ second => second

variable {value : Json}

theorem Json.Written.proper (written : value.Written) : value.Proper := by
  have items : ∀ items : List Json, (∀ item ∈ items, item.Proper) → ProperItems items := by
    intro items
    induction items with
    | nil => exact fun _ => trivial
    | cons item items ih => exact fun each => ⟨each item List.mem_cons_self, ih fun x mem => each x (.tail _ mem)⟩
  have fields : ∀ fields : List (String × Json), (∀ field ∈ fields, field.2.Proper) → ProperFields fields := by
    intro fields
    induction fields with
    | nil => exact fun _ => trivial
    | cons field fields ih => exact fun each => ⟨each field List.mem_cons_self, ih fun x mem => each x (.tail _ mem)⟩
  induction value using Json.induction_on_nested with
  | null => trivial
  | bool b => trivial
  | num n => exact JsNumber.Written.proper written
  | str s => trivial
  | arr list ih => exact items list fun item mem => ih item mem (writtenItems_iff.mp written item mem)
  | obj list ih => exact fields list fun field mem => ih field mem (writtenFields_iff.mp written field mem)

def Json.kind : Json → Nat
  | .null => 0
  | .bool _ => 1
  | .num _ => 2
  | .str _ => 3
  | .arr _ => 4
  | .obj _ => 5

/-- The kind of a value that is written with this character in front. -/
def kindOfHead (c : Char) : Nat :=
  if c = 'n' then 0 else if c = 't' ∨ c = 'f' then 1 else if c = '"' then 3 else if c = '[' then 4
  else if c = '\x7b' then 5 else 2

theorem startsAs_kind {c : Char} (starts : startsAs value c) : value.kind = kindOfHead c := by
  cases value with
  | null => exact starts ▸ rfl
  | bool b => rcases starts with rfl | rfl <;> rfl
  | num n =>
    have other : ∀ d : Char, d.isDigit = false → d ≠ '-' → c ≠ d := by
      rintro d letter sign rfl
      rcases starts with digit | rfl
      · rw [letter] at digit
        exact absurd digit (by decide)
      · exact sign rfl
    unfold kindOfHead
    rw [if_neg (other 'n' (by decide) (by decide)),
      if_neg (not_or.mpr ⟨other 't' (by decide) (by decide), other 'f' (by decide) (by decide)⟩),
      if_neg (other '"' (by decide) (by decide)), if_neg (other '[' (by decide) (by decide)),
      if_neg (other '\x7b' (by decide) (by decide))]
    rfl
  | str s => exact starts ▸ rfl
  | arr items => exact starts ▸ rfl
  | obj fields => exact starts ▸ rfl

theorem startsAs_closing {c : Char} (starts : startsAs value c) : c ≠ ']' ∧ c ≠ '}' := by
  cases value with
  | null => exact starts ▸ by decide
  | bool b => rcases starts with rfl | rfl <;> decide
  | num n =>
    rcases starts with digit | rfl
    · exact ⟨fun same => absurd (same ▸ digit) (by decide), fun same => absurd (same ▸ digit) (by decide)⟩
    · decide
  | str s => exact starts ▸ by decide
  | arr items => exact starts ▸ by decide
  | obj fields => exact starts ▸ by decide

theorem kind_eq_of_jsonChars {a b : Json} (ha : a.Written) (hb : b.Written) {s t : List Char}
    (same : jsonChars a ++ s = jsonChars b ++ t) : a.kind = b.kind := by
  obtain ⟨c, rest, text, starts⟩ := jsonChars_head ha.proper
  obtain ⟨d, more, other, begins⟩ := jsonChars_head hb.proper
  rw [text, other] at same
  rw [startsAs_kind starts, startsAs_kind begins, (List.cons.inj same).1]

/-- **A value is read back from its text**, up to what closes it. -/
theorem jsonChars_append_inj {a : Json} : ∀ {b : Json}, a.Written → b.Written → ∀ {s t : List Char}, Closed s → Closed t →
    jsonChars a ++ s = jsonChars b ++ t → a = b ∧ s = t := by
  induction a using Json.induction_on_nested with
  | null =>
    intro b ha hb s t hs ht same
    have kind := kind_eq_of_jsonChars ha hb same
    cases b with
    | null => exact ⟨rfl, List.append_cancel_left same⟩
    | _ => cases kind
  | bool x =>
    intro b ha hb s t hs ht same
    have kind := kind_eq_of_jsonChars ha hb same
    cases b with
    | bool y =>
      cases x with
      | true =>
        cases y with
        | true => exact ⟨rfl, List.append_cancel_left same⟩
        | false => exact absurd (List.cons.inj same).1 (by decide)
      | false =>
        cases y with
        | true => exact absurd (List.cons.inj same).1 (by decide)
        | false => exact ⟨rfl, List.append_cancel_left same⟩
    | _ => cases kind
  | num m =>
    intro b ha hb s t hs ht same
    have kind := kind_eq_of_jsonChars ha hb same
    cases b with
    | num n =>
      obtain ⟨text, rest⟩ := append_inj_of_class (fun _ => JsNumber.text_chars ha) (fun _ => JsNumber.text_chars hb)
        hs.not_number ht.not_number same
      rw [JsNumber.text_inj ha hb (String.toList_inj.mp text)]
      exact ⟨rfl, rest⟩
    | _ => cases kind
  | str x =>
    intro b ha hb s t hs ht same
    have kind := kind_eq_of_jsonChars ha hb same
    cases b with
    | str y =>
      obtain ⟨rfl, rest⟩ := prefixFree_jsonString x y s t same
      exact ⟨rfl, rest⟩
    | _ => cases kind
  | arr as ih =>
    intro b ha hb s t hs ht same
    have kind := kind_eq_of_jsonChars ha hb same
    cases b with
    | arr bs =>
      have writtenA := (writtenItems_iff).mp ha
      have writtenB := (writtenItems_iff).mp hb
      rw [jsonChars_arr, jsonChars_arr, List.cons_append, List.cons_append, List.append_assoc, List.append_assoc] at same
      obtain ⟨rfl, rest⟩ := joinComma_append_inj (.inl rfl)
        (fun x mem y there s t hs ht => ih x mem (writtenA x mem) (writtenB y there) hs ht)
        (fun x mem => by
          obtain ⟨c, rest, text, starts⟩ := jsonChars_head (mem.elim (writtenA x) (writtenB x)).proper
          exact ⟨c, rest, text, (startsAs_closing starts).1⟩) (List.cons.inj same).2
      exact ⟨rfl, rest⟩
    | _ => cases kind
  | obj as ih =>
    intro b ha hb s t hs ht same
    have kind := kind_eq_of_jsonChars ha hb same
    cases b with
    | obj bs =>
      have writtenA := (writtenFields_iff).mp ha
      have writtenB := (writtenFields_iff).mp hb
      rw [jsonChars_obj, jsonChars_obj, List.cons_append, List.cons_append, List.append_assoc, List.append_assoc] at same
      obtain ⟨rfl, rest⟩ := joinComma_append_inj (f := memberText) (.inr rfl)
        (fun x mem y there s t hs ht equal => by
          -- The name is read off first, then the value behind the colon.
          have parts : jsonString x.1 ++ (':' :: jsonChars x.2 ++ s) = jsonString y.1 ++ (':' :: jsonChars y.2 ++ t) := by
            simpa only [memberText, List.append_assoc] using equal
          obtain ⟨name, rest⟩ := prefixFree_jsonString x.1 y.1 _ _ parts
          obtain ⟨value, behind⟩ := ih x mem (writtenA x mem) (writtenB y there) hs ht (List.cons.inj rest).2
          exact ⟨Prod.ext name value, behind⟩)
        (fun x mem => ⟨'"', _, rfl, by decide⟩) (List.cons.inj same).2
      exact ⟨rfl, rest⟩
    | _ => cases kind

/-- **Different values have different texts.** -/
theorem jsonChars_inj {a b : Json} (ha : a.Written) (hb : b.Written) : jsonChars a = jsonChars b ↔ a = b := by
  constructor
  · intro same
    have texts : jsonChars a ++ [] = jsonChars b ++ [] := by rw [same]
    exact (jsonChars_append_inj ha hb closed_nil closed_nil texts).1
  · rintro rfl
    rfl

/-! ## What a list of names leaves -/

/-- The members with the names, in the order of the names. -/
def selectFields (keys : List String) (fields : List (String × Json)) : List (String × Json) :=
  keys.filterMap fun key => (fields.find? (·.1 = key)).map fun field => (key, field.2)

mutual
/-- What `JSON.stringify(value, keys)` writes of a value: of each object in it the members with these names. -/
def Json.project (keys : List String) : Json → Json
  | .arr items => .arr (projectItems keys items)
  | .obj fields => .obj (selectFields keys (projectFields keys fields))
  | value => value
def projectItems (keys : List String) : List Json → List Json
  | [] => []
  | item :: items => item.project keys :: projectItems keys items
def projectFields (keys : List String) : List (String × Json) → List (String × Json)
  | [] => []
  | (key, value) :: fields => (key, value.project keys) :: projectFields keys fields
end

def sortByName (fields : List (String × Json)) : List (String × Json) :=
  fields.insertionSort fun a b => jsUnits a.1 ≤ jsUnits b.1

mutual
def Json.sorted : Json → Json
  | .arr items => .arr (sortedItems items)
  | .obj fields => .obj (sortByName (sortedFields fields))
  | value => value
def sortedItems : List Json → List Json
  | [] => []
  | item :: items => item.sorted :: sortedItems items
def sortedFields : List (String × Json) → List (String × Json)
  | [] => []
  | (key, value) :: fields => (key, value.sorted) :: sortedFields fields
end

/-- The values are equal as data: they differ at most in the order of the members of objects. -/
def Json.SameData (a b : Json) : Prop := a.sorted = b.sorted

variable (keys : List String)

theorem projectItems_eq (items : List Json) : projectItems keys items = items.map (·.project keys) := by
  induction items with
  | nil => rfl
  | cons item items ih => rw [projectItems, ih, List.map_cons]

variable (fields : List (String × Json))

theorem projectFields_eq : projectFields keys fields = fields.map fun field => (field.1, field.2.project keys) := by
  induction fields with
  | nil => rfl
  | cons field fields ih => rw [projectFields, ih, List.map_cons]

theorem sortedItems_eq (items : List Json) : sortedItems items = items.map Json.sorted := by
  induction items with
  | nil => rfl
  | cons item items ih => rw [sortedItems, ih, List.map_cons]

theorem sortedFields_eq : sortedFields fields = fields.map fun field => (field.1, field.2.sorted) := by
  induction fields with
  | nil => rfl
  | cons field fields ih => rw [sortedFields, ih, List.map_cons]

/-- A member that is put in its place is found by its name before others with this name. -/
theorem find?_orderedInsert (key : String) (field : String × Json) (fields : List (String × Json)) :
    (fields.orderedInsert (fun a b => jsUnits a.1 ≤ jsUnits b.1) field).find? (fun f => decide (f.1 = key)) =
      (field :: fields).find? fun f => decide (f.1 = key) := by
  induction fields with
  | nil => rfl
  | cons other fields ih =>
    rw [List.orderedInsert_cons]
    split
    · rfl
    · next before =>
      -- A member that stays in front has a smaller name.
      have differs : other.1 ≠ field.1 := fun same => before (same ▸ le_refl _)
      rw [List.find?_cons, ih]
      by_cases here : other.1 = key
      · have elsewhere : field.1 ≠ key := fun same => differs (here.trans same.symm)
        simp [here, elsewhere]
      · simp [List.find?_cons, here]

theorem find?_sortByName (key : String) (fields : List (String × Json)) :
    (sortByName fields).find? (fun f => decide (f.1 = key)) = fields.find? fun f => decide (f.1 = key) := by
  unfold sortByName
  induction fields with
  | nil => rfl
  | cons field fields ih => rw [List.insertionSort_cons, find?_orderedInsert, List.find?_cons, List.find?_cons, ih]

theorem selectFields_map_snd (f : Json → Json) (fields : List (String × Json)) :
    selectFields keys (fields.map fun field => (field.1, f field.2)) =
      (selectFields keys fields).map fun field => (field.1, f field.2) := by
  unfold selectFields
  rw [List.map_filterMap]
  congr 1
  funext key
  rw [List.find?_map]
  cases found : fields.find? ((fun field => decide (field.1 = key)) ∘ fun field => (field.1, f field.2)) with
  | none =>
    have plain : fields.find? (fun field => decide (field.1 = key)) = none := found
    rw [plain]
    rfl
  | some field =>
    have plain : fields.find? (fun field => decide (field.1 = key)) = some field := found
    rw [plain]
    rfl

theorem selectFields_sortByName : selectFields keys (sortByName fields) = selectFields keys fields := by
  unfold selectFields
  congr 1
  funext key
  rw [find?_sortByName]

/-- **The order of members does not matter for what is left.** -/
theorem Json.project_sorted (value : Json) : value.sorted.project keys = value.project keys := by
  induction value using Json.induction_on_nested with
  | null => rfl
  | bool b => rfl
  | num n => rfl
  | str s => rfl
  | arr items ih =>
    rw [Json.sorted, Json.project, Json.project, projectItems_eq, projectItems_eq, sortedItems_eq, List.map_map]
    congr 1
    exact List.map_congr_left ih
  | obj fields ih =>
    rw [Json.sorted, Json.project, Json.project, projectFields_eq, projectFields_eq, selectFields_map_snd,
      selectFields_map_snd, selectFields_sortByName, sortedFields_eq, ← selectFields_map_snd, ← selectFields_map_snd,
      List.map_map]
    congr 2
    refine List.map_congr_left fun field mem => ?_
    rw [Function.comp_apply, ih field mem]

theorem Json.SameData.project_eq {a b : Json} (same : a.SameData b) (keys : List String) :
    a.project keys = b.project keys := by
  rw [← project_sorted keys a, same, project_sorted]

theorem mem_of_mem_selectFields {keys : List String} {fields : List (String × Json)} {field : String × Json}
    (mem : field ∈ selectFields keys fields) : field ∈ fields := by
  obtain ⟨key, -, found⟩ := List.mem_filterMap.mp mem
  obtain ⟨original, there, rfl⟩ := Option.map_eq_some_iff.mp found
  have name : original.1 = key := of_decide_eq_true (List.find?_some there :)
  exact name ▸ List.mem_of_find?_eq_some there

/-- What is left of a value that `JSON.parse` can return is such a value. -/
theorem Json.Written.project {value : Json} (written : value.Written) (keys : List String) :
    (value.project keys).Written := by
  induction value using Json.induction_on_nested with
  | null => trivial
  | bool b => trivial
  | num n => exact written
  | str s => trivial
  | arr items ih =>
    rw [Json.project, projectItems_eq, Json.Written, writtenItems_iff]
    intro item mem
    obtain ⟨original, there, rfl⟩ := List.mem_map.mp mem
    exact ih original there (writtenItems_iff.mp written original there)
  | obj fields ih =>
    rw [Json.project, projectFields_eq, Json.Written, writtenFields_iff]
    intro field mem
    obtain ⟨original, there, rfl⟩ := List.mem_map.mp (mem_of_mem_selectFields mem)
    exact ih original there (writtenFields_iff.mp written original there)

end Lib
