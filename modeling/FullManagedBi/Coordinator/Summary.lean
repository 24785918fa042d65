import FullManagedBi.Lib.JsonReader

/-!
# The summary a stage prints

`extractLastJsonDocument` of `scripts/run_full_managed_business_coordinator.mjs`: the last JSON document of what a stage
printed. Positions are those of characters.

`lastIndexOf` with a position below zero looks at position zero, so that a search that has come to a brace at the very
start, which begins no document, looks at it again: the search is a function of the rounds it may take.
-/

namespace FullManagedBi.Coordinator

open Lib

def lastIndexUpTo (text : List Char) (c : Char) : Nat → Option Nat
  | 0 => if text[0]? = some c then some 0 else none
  | position + 1 => if text[position + 1]? = some c then some (position + 1) else lastIndexUpTo text c position

/-- `text.lastIndexOf(c, position)`. -/
def lastIndexOf (text : List Char) (c : Char) (position : Int) : Option Nat := lastIndexUpTo text c position.toNat

/-- The search for the document from a brace on, in a number of rounds: `none` where it is still going on. -/
def searchDocument (parse : List Char → Option Json) (text : List Char) : Nat → Option Nat → Option (Option Json)
  | _, none => some none
  | 0, some _ => none
  | rounds + 1, some index =>
    match parse (text.drop index) with
    | some document => some (some document)
    | none => searchDocument parse text rounds (lastIndexOf text '\x7b' ((index : Int) - 1))

/-- `extractLastJsonDocument`, of a text or nothing. -/
def extractLastJsonDocument (numberOf : List Char → JsNumber) (rounds : Nat) (value : Option String) :
    Option (Option Json) :=
  let text := (jsTrim (value.getD "")).toList
  searchDocument (parseJson numberOf) text rounds (lastIndexOf text '\x7b' text.length)

/-- The call returns the document, or `null`. -/
def Extracts (numberOf : List Char → JsNumber) (value : Option String) (document : Option Json) : Prop :=
  ∃ rounds, extractLastJsonDocument numberOf rounds value = some document

end FullManagedBi.Coordinator
