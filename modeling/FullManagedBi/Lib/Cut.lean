import Mathlib

/-!
# The first occurrence of a pattern

`cutAt pattern text` cuts a text around the first occurrence of a pattern. What it cuts off at the front is known
where the first element of the pattern is not in front of it (`cutAt_append_of_not_mem`), and where the pattern is not
in it and cannot overlap itself (`cutAt_append_of_free`). The texts that are cut may be bytes: `utf8` are the
bytes of a text, where an ASCII byte stands for its own character only (`mem_of_mem_utf8`).
-/

namespace Lib

variable {β : Type} [DecidableEq β] {pattern text front rest : List β}

/-- What is before the first occurrence of a pattern, and what is behind it. -/
def cutAt (pattern : List β) : List β → Option (List β × List β)
  | [] => if pattern = [] then some ([], []) else none
  | b :: rest =>
    if pattern.isPrefixOf (b :: rest) then some ([], (b :: rest).drop pattern.length)
    else (cutAt pattern rest).map fun cut => (b :: cut.1, cut.2)

theorem cutAt_cons_of_not_isPrefix {b : β} (not_here : ¬ pattern <+: b :: rest) :
    cutAt pattern (b :: rest) = (cutAt pattern rest).map fun cut => (b :: cut.1, cut.2) := by
  rw [cutAt, if_neg (by rwa [List.isPrefixOf_iff_prefix])]

theorem cutAt_pattern (rest : List β) : cutAt pattern (pattern ++ rest) = some ([], rest) := by
  cases whole : pattern ++ rest with
  | nil =>
    obtain ⟨rfl, rfl⟩ := List.append_eq_nil_iff.mp whole
    rfl
  | cons b tail =>
    have here : pattern.isPrefixOf (b :: tail) = true := by
      rw [← whole, List.isPrefixOf_iff_prefix]
      exact List.prefix_append pattern rest
    rw [cutAt, if_pos here, ← whole, List.drop_left]

theorem cutAt_append_of_not_mem {c : β} {tail : List β} (free : c ∉ front) :
    cutAt (c :: tail) (front ++ rest) = (cutAt (c :: tail) rest).map fun cut => (front ++ cut.1, cut.2) := by
  induction front with
  | nil => simp
  | cons b front ih =>
    have apart : ¬ c :: tail <+: b :: (front ++ rest) := by
      intro here
      exact free (List.mem_cons.mpr (.inl (List.cons_prefix_cons.mp here).1))
    rw [List.cons_append, cutAt_cons_of_not_isPrefix apart, ih (List.not_mem_of_not_mem_cons free), Option.map_map]
    rfl

/-- A pattern whose first element occurs in it once is found behind a text that it does not occur in: what begins in the
text and ends behind it would have the first element once more. -/
theorem cutAt_append_of_free {c : β} {tail : List β} (once : c ∉ tail) (free : ¬ c :: tail <:+: front)
    (rest : List β) : cutAt (c :: tail) (front ++ (c :: tail ++ rest)) = some (front, rest) := by
  induction front with
  | nil => exact cutAt_pattern rest
  | cons b front ih =>
    have apart : ¬ c :: tail <+: b :: (front ++ (c :: tail ++ rest)) := by
      intro here
      rcases Nat.lt_or_ge front.length tail.length with short | long
      · -- The element behind the text is in the pattern, behind its first element.
        obtain ⟨rfl, inside⟩ := List.cons_prefix_cons.mp here
        have both : front ++ [c] <+: front ++ (c :: tail ++ rest) := by simp
        have earlier := List.prefix_of_prefix_length_le both inside (by simpa using short)
        exact once (earlier.subset (by simp))
      · apply free
        have both : b :: front <+: b :: (front ++ (c :: tail ++ rest)) := by simp
        exact (List.prefix_of_prefix_length_le here both (by simpa using long)).isInfix
    rw [List.cons_append, cutAt_cons_of_not_isPrefix apart, ih, Option.map_some]
    intro inside
    exact free (inside.trans (List.suffix_cons b front).isInfix)

/-! ## The bytes of a text -/

def utf8 (text : List Char) : List UInt8 := text.flatMap String.utf8EncodeChar

@[simp] theorem utf8_nil : utf8 [] = [] := rfl

@[simp] theorem utf8_cons (c : Char) (text : List Char) : utf8 (c :: text) = String.utf8EncodeChar c ++ utf8 text := rfl

@[simp] theorem utf8_append (left right : List Char) : utf8 (left ++ right) = utf8 left ++ utf8 right :=
  List.flatMap_append

theorem utf8_ne_nil {text : List Char} (given : text ≠ []) : utf8 text ≠ [] := by
  obtain ⟨c, rest, rfl⟩ := List.exists_cons_of_ne_nil given
  rw [utf8_cons]
  exact List.append_ne_nil_of_left_ne_nil String.utf8EncodeChar_ne_nil _

theorem eq_of_mem_utf8EncodeChar {c : Char} {b : UInt8} (ascii : b.toNat < 128) (mem : b ∈ String.utf8EncodeChar c) :
    c.toNat = b.toNat := by
  have small : ∀ n, n < 256 → (UInt8.ofNat n).toNat = n := by
    intro n less
    rw [UInt8.toNat_ofNat', Nat.mod_eq_of_lt less]
  have high : ∀ n, 128 ≤ n → n < 256 → b ≠ UInt8.ofNat n := by
    intro n le less same
    rw [same, small n less] at ascii
    omega
  unfold String.utf8EncodeChar at mem
  dsimp only at mem
  split at mem
  · next single =>
    rw [List.mem_singleton] at mem
    rw [mem, small _ (by omega)]
    rfl
  · exfalso
    -- Each byte of a longer code has its highest bit set.
    split at mem
    · simp only [List.mem_cons, List.not_mem_nil, or_false] at mem
      rcases mem with here | here
      · exact high _ (by omega) (by omega) here
      · exact high _ (by omega) (by omega) here
    · split at mem
      · simp only [List.mem_cons, List.not_mem_nil, or_false] at mem
        rcases mem with here | here | here
        · exact high _ (by omega) (by omega) here
        · exact high _ (by omega) (by omega) here
        · exact high _ (by omega) (by omega) here
      · simp only [List.mem_cons, List.not_mem_nil, or_false] at mem
        rcases mem with here | here | here | here
        · exact high _ (by omega) (by omega) here
        · exact high _ (by omega) (by omega) here
        · exact high _ (by omega) (by omega) here
        · exact high _ (by omega) (by omega) here

theorem mem_of_mem_utf8 {c : Char} {text : List Char} {b : UInt8} (ascii : b.toNat < 128) (same : c.toNat = b.toNat)
    (mem : b ∈ utf8 text) : c ∈ text := by
  obtain ⟨d, there, inside⟩ := List.mem_flatMap.mp mem
  have equal : d.toNat = c.toNat := (eq_of_mem_utf8EncodeChar ascii inside).trans same.symm
  rwa [← Char.toNat_inj.mp equal]

end Lib
