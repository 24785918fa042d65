import FullManagedBi.Lib.Js

/-!
# Readers that do not see the place

What is read does not depend on the place in the document, which only the errors name (`ReadAlike`), nor is the order
of what is read anything but the order of the items (`mapM_perm`).
-/

namespace Lib

/-! ## Reading without the place -/

/-- What is read does not depend on where it is read; what is thrown may. -/
def ReadAlike {ι α : Type} (read : ι → Except JsError α) : Prop := ∀ i j a, read i = .ok a → read j = .ok a

namespace ReadAlike

variable {ι α β : Type} {read : ι → Except JsError α} {next : α → ι → Except JsError β}

theorem bind (first : ReadAlike read) (rest : ∀ a, ReadAlike (next a)) : ReadAlike fun i => read i >>= (next · i) := by
  intro i j b done
  obtain ⟨a, here, later⟩ := bind_eq_ok done
  exact bind_eq_ok_iff.mpr ⟨a, first i j a here, rest a i j b later⟩

theorem pure {a : α} : ReadAlike fun _ : ι => (Pure.pure a : Except JsError α) := fun _ _ _ done => done

theorem refuse {p : Prop} [Decidable p] (error : ι → JsError) : ReadAlike fun i => Lib.refuse p (error i) := by
  intro i j u passed
  rw [refuse_eq_ok] at passed ⊢
  exact passed

theorem at_path {read : String → Except JsError α} (free : ReadAlike read) (path : ι → String) :
    ReadAlike fun i => read (path i) := fun i j a done => free (path i) (path j) a done

theorem mapM_zipIdx {read : α → Nat → Except JsError β} (free : ∀ a, ReadAlike (read a)) {items : List α}
    {start : Nat} {values : List β} : (items.zipIdx start).mapM (fun (item, index) => read item index) = .ok values ↔
      items.mapM (read · 0) = .ok values := by
  induction items generalizing start values with
  | nil => rfl
  | cons item items ih =>
    rw [List.zipIdx_cons, List.mapM_cons, List.mapM_cons, bind_eq_ok_iff, bind_eq_ok_iff]
    have here (value : β) : read item start = .ok value ↔ read item 0 = .ok value :=
      ⟨free item start 0 value, free item 0 start value⟩
    have later (rest : List β) :
        (items.zipIdx (start + 1)).mapM (fun (item, index) => read item index) = .ok rest ↔
          items.mapM (read · 0) = .ok rest := ih
    simp only [bind_eq_ok_iff, here, later]

end ReadAlike

theorem mapM_perm {α β : Type} {read : α → Except JsError β} {items items' : List α} (perm : items.Perm items')
    {values : List β} (done : items.mapM read = .ok values) :
    ∃ values', items'.mapM read = .ok values' ∧ values.Perm values' := by
  induction perm generalizing values with
  | nil => exact ⟨values, done, .refl _⟩
  | cons item _ ih =>
    rw [List.mapM_cons] at done
    obtain ⟨value, here, later⟩ := bind_eq_ok done
    obtain ⟨rest, mapped, same⟩ := bind_eq_ok later
    obtain rfl := Except.ok.inj same
    obtain ⟨rest', mapped', permuted⟩ := ih mapped
    refine ⟨value :: rest', ?_, permuted.cons value⟩
    rw [List.mapM_cons]
    exact bind_eq_ok_iff.mpr ⟨value, here, bind_eq_ok_iff.mpr ⟨rest', mapped', rfl⟩⟩
  | swap item other items =>
    simp only [List.mapM_cons] at done
    obtain ⟨value, here, later⟩ := bind_eq_ok done
    obtain ⟨rest, mapped, same⟩ := bind_eq_ok later
    obtain ⟨value', there, later'⟩ := bind_eq_ok mapped
    obtain ⟨rest', mapped', same'⟩ := bind_eq_ok later'
    obtain rfl := Except.ok.inj same'
    obtain rfl := Except.ok.inj same
    refine ⟨value' :: value :: rest', ?_, .swap ..⟩
    simp only [List.mapM_cons]
    exact bind_eq_ok_iff.mpr ⟨value', there, bind_eq_ok_iff.mpr ⟨value :: rest',
      bind_eq_ok_iff.mpr ⟨value, here, bind_eq_ok_iff.mpr ⟨rest', mapped', rfl⟩⟩, rfl⟩⟩
  | trans _ _ ih ih' =>
    obtain ⟨middle, mapped, permuted⟩ := ih done
    obtain ⟨last, mapped', permuted'⟩ := ih' mapped
    exact ⟨last, mapped', permuted.trans permuted'⟩

end Lib
