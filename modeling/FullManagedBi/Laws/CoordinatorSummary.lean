import FullManagedBi.Coordinator.Summary
import FullManagedBi.Lib.JsonScan

/-!
# The summary is the last document

A stage may print what it likes before its summary. The search tries the opening braces from the last one on. Those
behind the first brace of the document begin no JSON text (`parseJson_nested_eq_none`), so that it comes to that first
brace, before it comes to what was printed earlier (`extractLastJsonDocument_eq`).
-/

namespace FullManagedBi.Coordinator

open Lib

/-! ## Searches -/

theorem lastIndexUpTo_of_mem {text : List Char} {c : Char} {index position : Nat} (there : text[index]? = some c)
    (bound : index ≤ position) :
    ∃ found, lastIndexUpTo text c position = some found ∧ index ≤ found ∧ found ≤ position ∧ text[found]? = some c := by
  induction position with
  | zero =>
    obtain rfl : index = 0 := Nat.le_zero.mp bound
    exact ⟨0, by rw [lastIndexUpTo, if_pos there], le_rfl, le_rfl, there⟩
  | succ position ih =>
    rw [lastIndexUpTo]
    by_cases here : text[position + 1]? = some c
    · exact ⟨position + 1, by rw [if_pos here], bound, le_rfl, here⟩
    · have below : index ≤ position := by
        rcases Nat.lt_or_ge position index with above | below
        · obtain rfl : index = position + 1 := by omega
          exact absurd there here
        · exact below
      obtain ⟨found, last, behind, upTo, at_⟩ := ih below
      exact ⟨found, by rw [if_neg here, last], behind, upTo.trans (Nat.le_succ _), at_⟩

theorem searchDocument_unique {parse : List Char → Option Json} {text : List Char} {rounds more : Nat}
    {place : Option Nat} {first second : Option Json} (one : searchDocument parse text rounds place = some first)
    (other : searchDocument parse text more place = some second) : first = second := by
  induction rounds generalizing more place with
  | zero =>
    cases place with
    | none =>
      cases more <;> exact (Option.some.inj one).symm.trans (Option.some.inj other)
    | some index => cases one
  | succ rounds ih =>
    cases place with
    | none =>
      cases more <;> exact (Option.some.inj one).symm.trans (Option.some.inj other)
    | some index =>
      cases more with
      | zero => cases other
      | succ more =>
        rw [searchDocument] at one other
        cases parsed : parse (text.drop index) with
        | some document =>
          rw [parsed] at one other
          exact (Option.some.inj one).symm.trans (Option.some.inj other)
        | none =>
          rw [parsed] at one other
          exact ih one other

theorem Extracts.unique {numberOf : List Char → JsNumber} {value : Option String} {first second : Option Json}
    (one : Extracts numberOf value first) (other : Extracts numberOf value second) : first = second := by
  obtain ⟨rounds, one⟩ := one
  obtain ⟨more, other⟩ := other
  unfold extractLastJsonDocument at one other
  exact searchDocument_unique one other

section Document

variable {numberOf : List Char → JsNumber} {before document : List Char} {fields : List (String × Json)}

/-- From a brace of the document the search comes to its first one, by induction on the brace's place. -/
theorem searchDocument_document (object : IsObjectText numberOf document fields) {index : Nat}
    (behind : before.length ≤ index) (brace : (before ++ document)[index]? = some '\x7b') :
    ∃ rounds, searchDocument (parseJson numberOf) (before ++ document) rounds (some index) =
      some (some (.obj fields)) := by
  induction index using Nat.strong_induction_on with
  | _ index ih =>
    rcases Nat.eq_or_lt_of_le behind with rfl | later
    · refine ⟨1, ?_⟩
      rw [searchDocument, List.drop_left, object.parses]
    · -- The braces behind the first one begin no document.
      have place : document[index - before.length]? = some '\x7b' := by
        rwa [List.getElem?_append_right behind] at brace
      obtain ⟨bound, here⟩ := List.getElem?_eq_some_iff.mp place
      have dropped : (before ++ document).drop index = '\x7b' :: document.drop (index - before.length + 1) := by
        rw [List.drop_append, List.drop_eq_nil_of_le behind, List.nil_append, List.drop_eq_getElem_cons bound, here]
      have split : document = document.take (index - before.length) ++ '\x7b' :: document.drop (index - before.length + 1) := by
        rw [← here, ← List.drop_eq_getElem_cons bound, List.take_append_drop]
      have nested : document.take (index - before.length) ≠ [] := by
        rw [Ne, List.take_eq_nil_iff]
        rintro (zero | rfl)
        · omega
        · exact nomatch bound
      have refused := parseJson_nested_eq_none object split nested
      have first : (before ++ document)[before.length]? = some '\x7b' := by
        rw [List.getElem?_append_right le_rfl, Nat.sub_self, ← List.head?_eq_getElem?]
        exact object.opens
      obtain ⟨found, last, behindFound, upTo, at_⟩ :=
        lastIndexUpTo_of_mem first (show before.length ≤ ((index : Int) - 1).toNat by omega)
      obtain ⟨rounds, searched⟩ := ih found (by omega) behindFound at_
      refine ⟨rounds + 1, ?_⟩
      rw [searchDocument, dropped, refused]
      change searchDocument _ _ rounds (lastIndexUpTo _ _ _) = _
      rw [last]
      exact searched

/-- The text up to the document's last brace is what is left of a text that ends in white space. -/
theorem jsTrim_document (before : List Char) {spaces : List Char} (object : IsObjectText numberOf document fields)
    (blank : ∀ c ∈ spaces, isJsSpace c = true) :
    ∃ front, (jsTrim (String.ofList (before ++ document ++ spaces))).toList = front ++ document := by
  have opened : (document ++ spaces).dropWhile isJsSpace = document ++ spaces := by
    obtain ⟨rest, rfl⟩ := List.head?_eq_some_iff.mp object.opens
    rfl
  have kept : ∃ front, (before ++ document ++ spaces).dropWhile isJsSpace = front ++ document ++ spaces := by
    rw [List.append_assoc, List.dropWhile_append]
    split
    · exact ⟨[], opened⟩
    · exact ⟨_, (List.append_assoc ..).symm⟩
  obtain ⟨front, kept⟩ := kept
  have closed : (document.reverse ++ front.reverse).dropWhile isJsSpace = document.reverse ++ front.reverse := by
    obtain ⟨rest, rfl⟩ := List.getLast?_eq_some_iff.mp object.closes
    rw [List.reverse_append, List.reverse_singleton]
    rfl
  refine ⟨front, ?_⟩
  unfold jsTrim
  rw [String.toList_ofList, String.toList_ofList, kept, List.reverse_append, List.dropWhile_append_of_pos
    fun c mem => blank c (List.mem_reverse.mp mem), List.reverse_append, closed, List.reverse_append, List.reverse_reverse,
    List.reverse_reverse]

/-- **The summary is the document at the end of what was printed**: it is returned, and nothing else is, whatever was
printed before it and whatever white space behind it. -/
theorem extractLastJsonDocument_eq (before document spaces : List Char)
    (object : IsObjectText numberOf document fields) (blank : ∀ c ∈ spaces, isJsSpace c = true)
    (summary : Option Json) :
    Extracts numberOf (some (String.ofList (before ++ document ++ spaces))) summary ↔ summary = some (.obj fields) := by
  have found : Extracts numberOf (some (String.ofList (before ++ document ++ spaces))) (some (.obj fields)) := by
    obtain ⟨front, trimmed⟩ := jsTrim_document before object blank
    have first : (front ++ document)[front.length]? = some '\x7b' := by
      rw [List.getElem?_append_right le_rfl, Nat.sub_self, ← List.head?_eq_getElem?]
      exact object.opens
    obtain ⟨last, isLast, behind, -, at_⟩ :=
      lastIndexUpTo_of_mem first (show front.length ≤ ((front ++ document).length : Int).toNat by
        rw [Int.toNat_natCast, List.length_append]
        exact Nat.le_add_right ..)
    obtain ⟨rounds, searched⟩ := searchDocument_document object behind at_
    refine ⟨rounds, ?_⟩
    unfold extractLastJsonDocument lastIndexOf
    rw [Option.getD_some, trimmed]
    dsimp only
    rw [isLast]
    exact searched
  exact ⟨fun extracted => extracted.unique found, fun same => same ▸ found⟩

end Document

/-- A document with a brace in a string and an object in it. -/
def bracedDocument : List Char :=
  ['\x7b', '"', 'a', '"', ':', '"', '\x7b', '"', ',', ' ', '"', 'b', '"', ':', '\x7b', '"', 'c', '"', ':', 't', 'r', 'u', 'e',
    '\x7d', '\x7d']

/-- The whole document is returned, and not the object in it. -/
theorem extracts_bracedDocument :
    Extracts (fun _ => .int 0) (some (String.ofList (['o', 'k', '\x7b', '\n'] ++ bracedDocument ++ ['\n'])))
      (some (.obj [("a", .str "\x7b"), ("b", .obj [("c", .bool true)])])) :=
  (extractLastJsonDocument_eq _ _ _ ⟨rfl, rfl, rfl⟩ (List.all_eq_true.mp rfl) _).mpr rfl

end FullManagedBi.Coordinator
