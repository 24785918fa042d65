import Mathlib

/-!
# Numbers of double precision

A number of JavaScript is the rational number it stands for. `toDouble` is the number next to a rational
number, of two that are as near the one with the even significand; a literal is read by it, and a sum is
rounded by it. Numbers whose exponent is out of range are left out. Integers up to `2 ^ 53` are not rounded
(`toDouble_natCast`), and larger numbers are not rounded below that (`le_toDouble`).
-/

namespace Lib

def twoPow (e : Int) : Rat := if 0 ≤ e then 2 ^ e.toNat else mkRat 1 (2 ^ (-e).toNat)

/-- The exponent of the power of two below a positive number. -/
def binade (q : Rat) : Int :=
  let e := (Nat.log2 q.num.toNat : Int) - Nat.log2 q.den
  if twoPow e ≤ q then e else e - 1

/-- The integer next to a number, of two that are as near the even one. -/
def roundHalfEven (q : Rat) : Int :=
  let low := q.floor
  let rest := q - low
  if rest < 1 / 2 then low
  else if 1 / 2 < rest then low + 1
  else if low % 2 = 0 then low else low + 1

/-- The number of double precision next to a number that is not negative. -/
def toDouble (q : Rat) : Rat :=
  if q ≤ 0 then 0
  else
    let unit := twoPow (binade q - 52)
    roundHalfEven (q / unit) * unit

def doubleAdd (left right : Rat) : Rat := toDouble (left + right)

/-- `Number(value.toFixed(digits))`: of two decimals that are as near the larger one. -/
def fixed (digits : Nat) (value : Rat) : Rat :=
  toDouble (mkRat ((value * 10 ^ digits + 1 / 2).floor) (10 ^ digits))

theorem twoPow_nonneg (e : Int) : 0 ≤ twoPow e := by
  unfold twoPow
  split
  · positivity
  · rw [Rat.mkRat_eq_div]
    positivity

theorem toDouble_nonneg (q : Rat) : 0 ≤ toDouble q := by
  unfold toDouble
  split
  · exact le_rfl
  · rename_i positive
    have unit := twoPow_nonneg (binade q - 52)
    have low : 0 ≤ (q / twoPow (binade q - 52)).floor :=
      Rat.le_floor_iff.mpr (div_nonneg (not_le.mp positive).le unit)
    have rounded : 0 ≤ roundHalfEven (q / twoPow (binade q - 52)) := by
      unfold roundHalfEven
      dsimp only
      split_ifs <;> omega
    exact mul_nonneg (Int.cast_nonneg rounded) unit

/-- Tenths do not add up to tenths, and rounding to six decimals brings them back. -/
example : doubleAdd (toDouble (1 / 10)) (toDouble (2 / 10)) ≠ toDouble (3 / 10) ∧
    fixed 6 (doubleAdd (toDouble (1 / 10)) (toDouble (2 / 10))) = toDouble (3 / 10) := by decide +kernel

/-! ## Integers -/

theorem twoPow_eq (e : Int) : twoPow e = (2 : Rat) ^ e := by
  unfold twoPow
  split
  · next nonneg =>
    obtain ⟨n, rfl⟩ := Int.eq_ofNat_of_zero_le nonneg
    simp
  · next negative =>
    obtain ⟨n, rfl⟩ := Int.exists_eq_neg_ofNat (le_of_not_ge negative)
    rw [Rat.mkRat_eq_div]
    simp

theorem twoPow_log2_bounds {q : Rat} (positive : 0 < q) :
    twoPow ((Nat.log2 q.num.toNat : Int) - Nat.log2 q.den - 1) < q ∧
      q < twoPow ((Nat.log2 q.num.toNat : Int) - Nat.log2 q.den + 1) := by
  obtain ⟨n, num⟩ := Int.eq_ofNat_of_zero_le (Rat.num_nonneg.mpr positive.le)
  have num_ne : n ≠ 0 := by
    rintro rfl
    have := Rat.num_pos.mpr positive
    omega
  have q_eq : q = (n : Rat) / q.den := by
    conv_lhs => rw [← Rat.num_div_den q]
    rw [num]
    rfl
  have toNat : q.num.toNat = n := by rw [num]; rfl
  rw [toNat, twoPow_eq, twoPow_eq]
  have numLow : (2 : Rat) ^ (n.log2 : Int) ≤ n := by exact_mod_cast Nat.log2_self_le num_ne
  have numHigh : (n : Rat) < 2 ^ ((n.log2 : Int) + 1) := by exact_mod_cast Nat.lt_log2_self
  have denLow : (2 : Rat) ^ (q.den.log2 : Int) ≤ q.den := by exact_mod_cast Nat.log2_self_le q.den_nz
  have denHigh : (q.den : Rat) < 2 ^ ((q.den.log2 : Int) + 1) := by exact_mod_cast Nat.lt_log2_self
  have den_pos : (0 : Rat) < q.den := by exact_mod_cast q.den_pos
  generalize q.den = den at *
  constructor
  · rw [q_eq, lt_div_iff₀ den_pos]
    calc (2 : Rat) ^ ((n.log2 : Int) - den.log2 - 1) * den
        < 2 ^ ((n.log2 : Int) - den.log2 - 1) * 2 ^ ((den.log2 : Int) + 1) :=
          mul_lt_mul_of_pos_left denHigh (by positivity)
      _ = 2 ^ (n.log2 : Int) := by
          rw [← zpow_add₀ two_ne_zero]
          congr 1
          ring
      _ ≤ n := numLow
  · rw [q_eq, div_lt_iff₀ den_pos]
    calc (n : Rat) < 2 ^ ((n.log2 : Int) + 1) := numHigh
      _ = 2 ^ ((n.log2 : Int) - den.log2 + 1) * 2 ^ (den.log2 : Int) := by
          rw [← zpow_add₀ two_ne_zero]
          congr 1
          ring
      _ ≤ 2 ^ ((n.log2 : Int) - den.log2 + 1) * den :=
          mul_le_mul_of_nonneg_left denLow (by positivity)

theorem binade_bounds {q : Rat} (positive : 0 < q) : twoPow (binade q) ≤ q ∧ q < twoPow (binade q + 1) := by
  obtain ⟨low, high⟩ := twoPow_log2_bounds positive
  unfold binade
  dsimp only
  split
  · next le => exact ⟨le, high⟩
  · next above =>
    rw [sub_add_cancel]
    exact ⟨low.le, not_le.mp above⟩

theorem le_roundHalfEven {q : Rat} {n : Int} (le : (n : Rat) ≤ q) : n ≤ roundHalfEven q := by
  have low : n ≤ q.floor := Rat.le_floor_iff.mpr le
  unfold roundHalfEven
  dsimp only
  split_ifs <;> omega

@[simp] theorem roundHalfEven_intCast (n : Int) : roundHalfEven n = n := by
  simp [roundHalfEven]

theorem toDouble_natCast {n : Nat} (le : n ≤ 2 ^ 53) : toDouble n = n := by
  unfold toDouble
  split
  · next zero =>
    have none : n = 0 := by simpa using zero
    simp [none]
  · next some =>
    have positive : (0 : Rat) < n := not_le.mp some
    have below : (n : Rat) ≤ 2 ^ (53 : Int) := by exact_mod_cast le
    have low := (binade_bounds positive).1
    rw [twoPow_eq] at low
    have exponent : binade n ≤ 53 := (zpow_le_zpow_iff_right₀ one_lt_two).mp (low.trans below)
    have unit : twoPow (binade n - 52) ≠ 0 := by
      rw [twoPow_eq]
      positivity
    obtain ⟨significand, same⟩ : ∃ significand : Int, (n : Rat) / twoPow (binade n - 52) = significand := by
      rw [twoPow_eq]
      rcases exponent.lt_or_eq with less | last
      · obtain ⟨m, shift⟩ := Int.eq_ofNat_of_zero_le (show 0 ≤ 52 - binade n by omega)
        refine ⟨n * 2 ^ m, ?_⟩
        rw [← neg_sub, shift, zpow_neg, div_inv_eq_mul]
        norm_num
      · rw [last] at low ⊢
        refine ⟨2 ^ 52, ?_⟩
        rw [le_antisymm below low]
        norm_num
    dsimp only
    rw [same, roundHalfEven_intCast, ← same, div_mul_cancel₀ _ unit]

theorem le_toDouble {q : Rat} (le : 2 ^ 53 ≤ q) : 2 ^ 53 ≤ toDouble q := by
  have positive : 0 < q := lt_of_lt_of_le (by positivity) le
  obtain ⟨low, high⟩ := binade_bounds positive
  have exponent : 53 ≤ binade q := by
    by_contra below
    have small : twoPow (binade q + 1) ≤ 2 ^ 53 := by
      rw [twoPow_eq]
      calc (2 : Rat) ^ (binade q + 1) ≤ 2 ^ (53 : Int) := zpow_le_zpow_right₀ one_le_two (by omega)
        _ = 2 ^ 53 := by norm_num
    exact absurd le (not_le.mpr (lt_of_lt_of_le high small))
  have unit : 0 < twoPow (binade q - 52) := by
    rw [twoPow_eq]
    positivity
  have significand : ((2 ^ 52 : Int) : Rat) ≤ q / twoPow (binade q - 52) := by
    rw [le_div_iff₀ unit]
    refine le_trans (le_of_eq ?_) low
    rw [twoPow_eq, twoPow_eq, zpow_sub₀ two_ne_zero]
    norm_num
    field_simp
  have rounded := le_roundHalfEven significand
  rw [toDouble, if_neg (not_le.mpr positive)]
  dsimp only
  calc (2 : Rat) ^ 53 ≤ ((2 ^ 52 : Int) : Rat) * twoPow (binade q - 52) := by
        rw [twoPow_eq]
        have : (2 : Rat) ^ (1 : Int) ≤ 2 ^ (binade q - 52) := zpow_le_zpow_right₀ one_le_two (by omega)
        norm_num at this ⊢
        linarith
    _ ≤ (roundHalfEven (q / twoPow (binade q - 52)) : Rat) * twoPow (binade q - 52) :=
        mul_le_mul_of_nonneg_right (by exact_mod_cast rounded) unit.le

end Lib
