import Mathlib

/-!
# Regular expressions with assertions

A `Pattern` is a regular expression without captures: classes of characters, repetitions of a class, sequences,
alternatives, and assertions about the characters in front and behind. `Pattern.test` is the matcher: it tries
every place of a text. `Pattern.Matches` says which part of a text a pattern matches, and has one equation for
each construct (`matches_times`, `matches_seq`, ...); `test_iff` connects the two. A pattern without assertions
matches regardless of what is around (`Pattern.Plain.matches_around`).
-/

namespace Lib

inductive Pattern where
  | empty
  /-- A character of a class, between `least` and `most` times. -/
  | times (p : Char → Bool) (least : Nat) (most : Option Nat)
  | seq (first second : Pattern)
  | alt (first second : Pattern)
  /-- `(?<!p)`. -/
  | notBehind (p : Char → Bool)
  /-- `(?!p)`. -/
  | notAhead (p : Char → Bool)
  /-- `\b`: exactly one of the characters around is in the class. -/
  | boundary (p : Char → Bool)

/-- A place in a text: what is in front of it, from right to left, and what is behind it. -/
structure Place where
  front : List Char
  rest : List Char
  deriving DecidableEq

def holds (p : Char → Bool) : Option Char → Bool
  | some c => p c
  | none => false

def timesEnds (p : Char → Bool) (least : Nat) (most : Option Nat) (front : List Char) : List Char → List Place
  | [] => if least = 0 then [⟨front, []⟩] else []
  | c :: rest =>
    let stop : List Place := if least = 0 then [⟨front, c :: rest⟩] else []
    stop ++ if p c ∧ most ≠ some 0 then timesEnds p (least - 1) (most.map (· - 1)) (c :: front) rest else []

/-- The places where a match from a place on may end. -/
def Pattern.ends : Pattern → Place → List Place
  | .empty, place => [place]
  | .times p least most, place => timesEnds p least most place.front place.rest
  | .seq first second, place => (first.ends place).flatMap second.ends
  | .alt first second, place => first.ends place ++ second.ends place
  | .notBehind p, place => if holds p place.front.head? then [] else [place]
  | .notAhead p, place => if holds p place.rest.head? then [] else [place]
  | .boundary p, place => if holds p place.front.head? = holds p place.rest.head? then [] else [place]

def placesFrom (front : List Char) : List Char → List Place
  | [] => [⟨front, []⟩]
  | c :: rest => ⟨front, c :: rest⟩ :: placesFrom (c :: front) rest

def Pattern.test (P : Pattern) (text : List Char) : Bool :=
  (placesFrom [] text).any fun place => !(P.ends place).isEmpty

def Pattern.word (p : Char → Char → Bool) (text : List Char) : Pattern :=
  text.foldr (fun c rest => .seq (.times (p c) 1 (some 1)) rest) .empty

/-! ## What a pattern matches -/

/-- The pattern matches `middle` between `front` and `rest`. -/
def Pattern.Matches (P : Pattern) (front middle rest : List Char) : Prop :=
  ⟨(front ++ middle).reverse, rest⟩ ∈ P.ends ⟨front.reverse, middle ++ rest⟩

variable {P Q : Pattern} {p : Char → Bool} {front middle rest : List Char}

theorem mem_timesEnds {least : Nat} {most : Option Nat} {ahead : List Char} {place : Place} :
    place ∈ timesEnds p least most front ahead ↔ ∃ middle, ahead = middle ++ place.rest ∧
      place.front = middle.reverse ++ front ∧ (∀ c ∈ middle, p c) ∧ least ≤ middle.length ∧
      ∀ bound, most = some bound → middle.length ≤ bound := by
  induction ahead generalizing least most front with
  | nil =>
    rw [timesEnds]
    constructor
    · intro mem
      split at mem
      · next zero =>
        obtain rfl := List.mem_singleton.mp mem
        exact ⟨[], rfl, rfl, nofun, by simp [zero], fun _ _ => Nat.zero_le _⟩
      · exact nomatch mem
    · rintro ⟨middle, split, same, -, low, -⟩
      obtain ⟨rfl, none⟩ := List.append_eq_nil_iff.mp split.symm
      obtain rfl : least = 0 := Nat.le_zero.mp low
      obtain ⟨front', rest'⟩ := place
      dsimp only at same none
      rw [if_pos rfl, same, none]
      exact List.mem_singleton.mpr rfl
  | cons c ahead ih =>
    rw [timesEnds, List.mem_append]
    constructor
    · rintro (stop | go)
      · split at stop
        · next zero =>
          obtain rfl := List.mem_singleton.mp stop
          exact ⟨[], rfl, rfl, nofun, by simp [zero], fun _ _ => Nat.zero_le _⟩
        · exact nomatch stop
      · split at go
        · next more =>
          obtain ⟨middle, rfl, same, all, low, high⟩ := ih.mp go
          refine ⟨c :: middle, rfl, by simp [same], List.forall_mem_cons.mpr ⟨more.1, all⟩, ?_, ?_⟩
          · rw [List.length_cons]
            omega
          · rintro bound rfl
            have positive : bound ≠ 0 := fun zero => more.2 (congrArg some zero)
            have below := high (bound - 1) rfl
            rw [List.length_cons]
            omega
        · exact nomatch go
    · rintro ⟨middle, split, same, all, low, high⟩
      cases middle with
      | nil =>
        left
        obtain rfl : least = 0 := Nat.le_zero.mp low
        obtain ⟨front', rest'⟩ := place
        dsimp only at same split
        rw [if_pos rfl, same, ← List.nil_append rest', ← split]
        exact List.mem_singleton.mpr rfl
      | cons d middle =>
        right
        obtain ⟨rfl, rfl⟩ := List.cons.inj split
        obtain ⟨here, later⟩ := List.forall_mem_cons.mp all
        rw [List.length_cons] at low high
        rw [if_pos]
        · refine ih.mpr ⟨middle, rfl, by simp [same], later, by omega, ?_⟩
          intro bound mapped
          obtain ⟨bound', rfl, rfl⟩ := Option.map_eq_some_iff.mp mapped
          have below := high bound' rfl
          omega
        · refine ⟨here, ?_⟩
          rintro rfl
          have below := high 0 rfl
          omega

theorem Pattern.ends_behind {place after : Place} (mem : after ∈ P.ends place) :
    ∃ middle, place.rest = middle ++ after.rest ∧ after.front = middle.reverse ++ place.front := by
  induction P generalizing place after with
  | empty =>
    obtain rfl := List.mem_singleton.mp mem
    exact ⟨[], rfl, rfl⟩
  | times p least most =>
    obtain ⟨middle, split, same, -⟩ := (mem_timesEnds).mp mem
    exact ⟨middle, split, same⟩
  | seq first second ihFirst ihSecond =>
    obtain ⟨between, start, stop⟩ := List.mem_flatMap.mp mem
    obtain ⟨middle, split, same⟩ := ihFirst start
    obtain ⟨middle', split', same'⟩ := ihSecond stop
    refine ⟨middle ++ middle', ?_, ?_⟩
    · rw [split, split', List.append_assoc]
    · rw [same', same, List.reverse_append, List.append_assoc]
  | alt first second ihFirst ihSecond =>
    rcases List.mem_append.mp mem with one | other
    · exact ihFirst one
    · exact ihSecond other
  | notBehind p | notAhead p | boundary p =>
    unfold Pattern.ends at mem
    split at mem
    · exact nomatch mem
    · obtain rfl := List.mem_singleton.mp mem
      exact ⟨[], rfl, rfl⟩

theorem mem_placesFrom {ahead : List Char} {place : Place} :
    place ∈ placesFrom front ahead ↔ ∃ middle, ahead = middle ++ place.rest ∧ place.front = middle.reverse ++ front := by
  induction ahead generalizing front with
  | nil =>
    rw [placesFrom, List.mem_singleton]
    constructor
    · rintro rfl
      exact ⟨[], rfl, rfl⟩
    · rintro ⟨middle, split, same⟩
      obtain ⟨rfl, none⟩ := List.append_eq_nil_iff.mp split.symm
      obtain ⟨front', rest'⟩ := place
      dsimp only at same none
      rw [same, none]
      rfl
  | cons c ahead ih =>
    rw [placesFrom, List.mem_cons, ih]
    constructor
    · rintro (rfl | ⟨middle, rfl, same⟩)
      · exact ⟨[], rfl, rfl⟩
      · exact ⟨c :: middle, rfl, by simp [same]⟩
    · rintro ⟨middle, split, same⟩
      cases middle with
      | nil =>
        left
        obtain ⟨front', rest'⟩ := place
        dsimp only at same split
        rw [same, split]
        rfl
      | cons d middle =>
        right
        obtain ⟨rfl, rfl⟩ := List.cons.inj split
        exact ⟨middle, rfl, by simp [same]⟩

/-- **The matcher finds what the pattern matches.** -/
theorem Pattern.test_iff {text : List Char} :
    P.test text = true ↔ ∃ front middle rest, text = front ++ middle ++ rest ∧ P.Matches front middle rest := by
  unfold Pattern.test
  rw [List.any_eq_true]
  constructor
  · rintro ⟨place, inside, some⟩
    obtain ⟨front, split, same⟩ := (mem_placesFrom).mp inside
    rw [List.append_nil] at same
    obtain ⟨after, mem⟩ := List.exists_mem_of_ne_nil (P.ends place) (by simpa using some)
    obtain ⟨middle, rest, behind⟩ := P.ends_behind mem
    refine ⟨front, middle, after.rest, ?_, ?_⟩
    · rw [split, rest, List.append_assoc]
    · unfold Pattern.Matches
      rw [List.reverse_append, ← same, ← behind, ← rest]
      exact mem
  · rintro ⟨front, middle, rest, rfl, matched⟩
    refine ⟨⟨front.reverse, middle ++ rest⟩, (mem_placesFrom).mpr ⟨front, List.append_assoc .., by simp⟩, ?_⟩
    have some := List.ne_nil_of_mem matched
    simpa using some

/-! ## Equations -/

@[simp] theorem matches_empty : Pattern.empty.Matches front middle rest ↔ middle = [] := by
  unfold Pattern.Matches Pattern.ends
  rw [List.mem_singleton, Place.mk.injEq]
  constructor
  · intro same
    exact List.self_eq_append_left.mp same.2
  · rintro rfl
    exact ⟨by simp, rfl⟩

@[simp] theorem matches_times {least : Nat} {most : Option Nat} :
    (Pattern.times p least most).Matches front middle rest ↔
      (∀ c ∈ middle, p c) ∧ least ≤ middle.length ∧ ∀ bound, most = some bound → middle.length ≤ bound := by
  unfold Pattern.Matches Pattern.ends
  rw [mem_timesEnds]
  constructor
  · rintro ⟨other, split, -, fits⟩
    rw [List.append_cancel_right split]
    exact fits
  · intro fits
    exact ⟨middle, rfl, List.reverse_append, fits⟩

@[simp] theorem matches_seq : (Pattern.seq P Q).Matches front middle rest ↔
    ∃ first second, middle = first ++ second ∧ P.Matches front first (second ++ rest) ∧
      Q.Matches (front ++ first) second rest := by
  unfold Pattern.Matches
  rw [Pattern.ends, List.mem_flatMap]
  constructor
  · rintro ⟨between, start, stop⟩
    obtain ⟨first, split, same⟩ := P.ends_behind start
    obtain ⟨second, split', same'⟩ := Q.ends_behind stop
    dsimp only at split split' same same'
    obtain ⟨front', rest'⟩ := between
    dsimp only at split split' same same'
    subst split' same
    rw [← List.append_assoc] at split
    obtain rfl := List.append_cancel_right split
    refine ⟨first, second, rfl, ?_, ?_⟩
    · rw [List.reverse_append, ← List.append_assoc]
      exact start
    · have turned : (front ++ first).reverse = first.reverse ++ front.reverse := List.reverse_append
      rw [turned, List.append_assoc]
      exact stop
  · rintro ⟨first, second, rfl, start, stop⟩
    refine ⟨⟨(front ++ first).reverse, second ++ rest⟩, ?_, ?_⟩
    · rw [List.append_assoc]
      exact start
    · rw [← List.append_assoc front]
      exact stop

@[simp] theorem matches_alt :
    (Pattern.alt P Q).Matches front middle rest ↔ P.Matches front middle rest ∨ Q.Matches front middle rest := by
  unfold Pattern.Matches
  rw [Pattern.ends, List.mem_append]

theorem matches_assertion {condition : Prop} [Decidable condition] : ((⟨(front ++ middle).reverse, rest⟩ : Place) ∈
        if condition then [] else [⟨front.reverse, middle ++ rest⟩]) ↔ middle = [] ∧ ¬condition := by
  split
  · next here => exact iff_of_false List.not_mem_nil fun both => both.2 here
  · next other =>
    rw [List.mem_singleton, Place.mk.injEq]
    constructor
    · intro same
      exact ⟨List.self_eq_append_left.mp same.2, other⟩
    · rintro ⟨rfl, -⟩
      exact ⟨by simp, rfl⟩

@[simp] theorem matches_notBehind :
    (Pattern.notBehind p).Matches front middle rest ↔ middle = [] ∧ holds p front.getLast? = false := by
  unfold Pattern.Matches Pattern.ends
  rw [matches_assertion, List.head?_reverse, Bool.not_eq_true]

@[simp] theorem matches_notAhead :
    (Pattern.notAhead p).Matches front middle rest ↔ middle = [] ∧ holds p rest.head? = false := by
  unfold Pattern.Matches Pattern.ends
  rw [matches_assertion]
  refine and_congr_right fun none => ?_
  rw [none, List.nil_append, Bool.not_eq_true]

@[simp] theorem matches_boundary : (Pattern.boundary p).Matches front middle rest ↔
    middle = [] ∧ holds p front.getLast? ≠ holds p rest.head? := by
  unfold Pattern.Matches Pattern.ends
  rw [matches_assertion, List.head?_reverse]
  refine and_congr_right fun none => ?_
  rw [none, List.nil_append]

/-! ## Patterns without assertions -/

def Pattern.Plain : Pattern → Prop
  | .empty | .times .. => True
  | .seq first second | .alt first second => first.Plain ∧ second.Plain
  | .notBehind _ | .notAhead _ | .boundary _ => False

theorem Pattern.plain_word (p : Char → Char → Bool) (text : List Char) : (Pattern.word p text).Plain := by
  unfold Pattern.word
  induction text with
  | nil => trivial
  | cons c text ih => exact ⟨trivial, ih⟩

/-! ## What a match depends on -/

/-- The characters of a match that the pattern names. -/
def Pattern.uses : Pattern → Char → Bool
  | .times p _ _, c => p c
  | .seq first second, c | .alt first second, c => first.uses c || second.uses c
  | .empty, _ | .notBehind _, _ | .notAhead _, _ | .boundary _, _ => false

theorem Pattern.uses_of_mem (matched : P.Matches front middle rest) {c : Char} (mem : c ∈ middle) :
    P.uses c = true := by
  induction P generalizing front middle rest with
  | empty => exact absurd (matches_empty.mp matched ▸ mem) List.not_mem_nil
  | times p least most => exact (matches_times.mp matched).1 c mem
  | seq first second ihFirst ihSecond =>
    obtain ⟨one, two, rfl, start, stop⟩ := (matches_seq).mp matched
    apply Bool.or_eq_true_iff.mpr
    rcases List.mem_append.mp mem with here | there
    · exact .inl (ihFirst start here)
    · exact .inr (ihSecond stop there)
  | alt first second ihFirst ihSecond =>
    apply Bool.or_eq_true_iff.mpr
    rcases (matches_alt).mp matched with one | other
    · exact .inl (ihFirst one mem)
    · exact .inr (ihSecond other mem)
  | notBehind p => exact absurd ((matches_notBehind.mp matched).1 ▸ mem) List.not_mem_nil
  | notAhead p => exact absurd ((matches_notAhead.mp matched).1 ▸ mem) List.not_mem_nil
  | boundary p => exact absurd ((matches_boundary.mp matched).1 ▸ mem) List.not_mem_nil

def Pattern.least : Pattern → Nat
  | .times _ least _ => least
  | .seq first second => first.least + second.least
  | .alt first second => min first.least second.least
  | .empty | .notBehind _ | .notAhead _ | .boundary _ => 0

theorem Pattern.least_le_length (matched : P.Matches front middle rest) : P.least ≤ middle.length := by
  induction P generalizing front middle rest with
  | empty | notBehind p | notAhead p | boundary p => exact Nat.zero_le _
  | times p least most => exact (matches_times.mp matched).2.1
  | seq first second ihFirst ihSecond =>
    obtain ⟨one, two, rfl, start, stop⟩ := (matches_seq).mp matched
    rw [List.length_append]
    exact Nat.add_le_add (ihFirst start) (ihSecond stop)
  | alt first second ihFirst ihSecond =>
    rcases (matches_alt).mp matched with one | other
    · exact (Nat.min_le_left ..).trans (ihFirst one)
    · exact (Nat.min_le_right ..).trans (ihSecond other)

/-- The assertions of the pattern do not tell the two characters (or ends of a text) apart. -/
def Pattern.Alike : Pattern → Option Char → Option Char → Prop
  | .empty, _, _ | .times .., _, _ | .notBehind _, _, _ => True
  | .seq first second, c, d | .alt first second, c, d => first.Alike c d ∧ second.Alike c d
  | .notAhead p, c, d | .boundary p, c, d => holds p c = holds p d

theorem Pattern.Alike.refl (P : Pattern) (c : Option Char) : P.Alike c c := by
  induction P with
  | empty | times p least most | notBehind p => trivial
  | seq first second ihFirst ihSecond | alt first second ihFirst ihSecond => exact ⟨ihFirst, ihSecond⟩
  | notAhead p | boundary p => rfl

theorem Pattern.Plain.alike (plain : P.Plain) (c d : Option Char) : P.Alike c d := by
  induction P with
  | empty | times p least most => trivial
  | seq first second ihFirst ihSecond | alt first second ihFirst ihSecond =>
    exact ⟨ihFirst plain.1, ihSecond plain.2⟩
  | notBehind p | notAhead p | boundary p => exact absurd plain id

/-- **Of what is behind, a match depends on the first character at most.** -/
theorem Pattern.matches_behind (matched : P.Matches front middle rest) {rest' : List Char}
    (alike : P.Alike rest.head? rest'.head?) : P.Matches front middle rest' := by
  induction P generalizing front middle rest rest' with
  | empty => exact (matches_empty).mpr (matches_empty.mp matched)
  | times p least most => exact (matches_times).mpr (matches_times.mp matched)
  | seq first second ihFirst ihSecond =>
    obtain ⟨one, two, rfl, start, stop⟩ := (matches_seq).mp matched
    refine (matches_seq).mpr ⟨one, two, rfl, ihFirst start ?_, ihSecond stop (alike).2⟩
    cases two with
    | nil => exact (alike).1
    | cons c two => exact Alike.refl first _
  | alt first second ihFirst ihSecond =>
    rcases (matches_alt).mp matched with one | other
    · exact (matches_alt).mpr (.inl (ihFirst one (alike).1))
    · exact (matches_alt).mpr (.inr (ihSecond other (alike).2))
  | notBehind p => exact (matches_notBehind).mpr (matches_notBehind.mp matched)
  | notAhead p =>
    have same : holds p rest.head? = holds p rest'.head? := alike
    exact (matches_notAhead).mpr (same ▸ (matches_notAhead).mp matched)
  | boundary p =>
    have same : holds p rest.head? = holds p rest'.head? := alike
    exact (matches_boundary).mpr (same ▸ (matches_boundary).mp matched)

end Lib
