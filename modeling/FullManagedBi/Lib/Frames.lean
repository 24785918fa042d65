import FullManagedBi.Lib.JsonText

/-!
# Framed texts

A frame is a text behind the number of its bytes. Texts in frames, one after the other, can be told apart
(`frames_injective`), whatever they hold: the number ends with the first colon, and says where the text ends.
-/

namespace Lib

def byteLength (text : List Char) : Nat := (text.map Char.utf8Size).sum

@[simp] theorem byteLength_cons (c : Char) (text : List Char) :
    byteLength (c :: text) = c.utf8Size + byteLength text := by simp [byteLength]

@[simp] theorem byteLength_nil : byteLength [] = 0 := rfl

theorem append_inj_of_byteLength {text other rest rest' : List Char} (size : byteLength text = byteLength other)
    (same : text ++ rest = other ++ rest') : text = other ∧ rest = rest' := by
  induction text generalizing other with
  | nil =>
    cases other with
    | nil => exact ⟨rfl, same⟩
    | cons c other =>
      have := Char.utf8Size_pos c
      simp only [byteLength_nil, byteLength_cons] at size
      omega
  | cons c text ih =>
    cases other with
    | nil =>
      have := Char.utf8Size_pos c
      simp only [byteLength_nil, byteLength_cons] at size
      omega
    | cons d other =>
      obtain ⟨rfl, later⟩ := List.cons.inj same
      simp only [byteLength_cons] at size
      obtain ⟨rfl, rest⟩ := ih (by omega) later
      exact ⟨rfl, rest⟩

def frame (body : List Char) : List Char := decimalDigits (byteLength body) ++ ':' :: body

def frames (bodies : List (List Char)) : List Char := (bodies.map frame).flatten

@[simp] theorem frames_nil : frames [] = [] := rfl

@[simp] theorem frames_cons (body : List Char) (bodies : List (List Char)) :
    frames (body :: bodies) = frame body ++ frames bodies := rfl

theorem colon_not_mem_decimalDigits (n : Nat) : ':' ∉ decimalDigits n := fun mem =>
  absurd (digit_of_mem_decimalDigits mem) (by decide)

theorem frame_append_inj {body other rest rest' : List Char} (same : frame body ++ rest = frame other ++ rest') :
    body = other ∧ rest = rest' := by
  unfold frame at same
  rw [List.append_assoc, List.append_assoc, List.cons_append, List.cons_append] at same
  obtain ⟨digits, same⟩ :=
    append_cons_inj_of_first (colon_not_mem_decimalDigits _) (colon_not_mem_decimalDigits _) same
  exact append_inj_of_byteLength (decimalDigits_injective digits) same

theorem frame_append_ne_nil (body rest : List Char) : frame body ++ rest ≠ [] := by
  unfold frame
  simp

/-- **Framed texts can be told apart.** -/
theorem frames_injective : Function.Injective frames := by
  intro bodies others same
  induction bodies generalizing others with
  | nil =>
    cases others with
    | nil => rfl
    | cons other others => exact absurd same.symm (frame_append_ne_nil other _)
  | cons body bodies ih =>
    cases others with
    | nil => exact absurd same (frame_append_ne_nil body _)
    | cons other others =>
      rw [frames_cons, frames_cons] at same
      obtain ⟨rfl, rest⟩ := frame_append_inj same
      rw [ih rest]

end Lib
