import Mathlib.Algebra.Order.Floor.Ring
import Mathlib.Data.Int.Log
import Mathlib.Data.Rat.Floor
import Mathlib.Tactic.Linarith
import Mathlib.Tactic.NormNum
import Mathlib.Tactic.Positivity

/-! The results of single precision operations: the exact result rounded to the nearest `float`. -/

namespace Library.FloatRounding

variable {q : ℚ}

/-- Ties go to the even number. -/
def roundEven (q : ℚ) : ℤ :=
  if q - ⌊q⌋ < 1 / 2 ∨ q - ⌊q⌋ = 1 / 2 ∧ ⌊q⌋ % 2 = 0 then ⌊q⌋ else ⌊q⌋ + 1

/-- The unit of the last of 24 binary digits, which does not get smaller below the normal range. -/
def ulp (q : ℚ) : ℚ := 2 ^ max (Int.log 2 |q| - 23) (-149)

/-- Numbers beyond the largest `float` are not rounded to infinity. -/
def roundFloat (q : ℚ) : ℚ := roundEven (q / ulp q) * ulp q

lemma abs_roundEven_sub_le : |(roundEven q : ℚ) - q| ≤ 1 / 2 := by
  have hlow := Int.floor_le q
  have hhigh := Int.lt_floor_add_one q
  rw [roundEven, abs_le]
  split_ifs with hdown
  · rcases hdown with hless | ⟨htie, -⟩ <;> constructor <;> linarith
  · have hhalf : 1 / 2 ≤ q - ⌊q⌋ := not_lt.mp fun hless => hdown (Or.inl hless)
    push_cast
    constructor <;> linarith

lemma roundEven_nonneg (h : 0 ≤ q) : 0 ≤ roundEven q := by
  have hfloor : 0 ≤ ⌊q⌋ := Int.floor_nonneg.mpr h
  rw [roundEven]
  split_ifs
  · exact hfloor
  · exact hfloor.trans (Int.le_add_one le_rfl)

lemma ulp_pos : 0 < ulp q := zpow_pos two_pos _

lemma abs_roundFloat_sub_le : |roundFloat q - q| ≤ ulp q / 2 := by
  have hscale : roundFloat q - q = (roundEven (q / ulp q) - q / ulp q) * ulp q := by
    rw [roundFloat, sub_mul, div_mul_cancel₀ _ ulp_pos.ne']
  have herror := mul_le_mul_of_nonneg_right (abs_roundEven_sub_le (q := q / ulp q)) (ulp_pos (q := q)).le
  rw [hscale, abs_mul, abs_of_pos (ulp_pos (q := q))]
  linarith

lemma roundFloat_nonneg (h : 0 ≤ q) : 0 ≤ roundFloat q :=
  mul_nonneg (Int.cast_nonneg (roundEven_nonneg (div_nonneg h ulp_pos.le))) ulp_pos.le

lemma roundFloat_zero : roundFloat 0 = 0 := by decide +kernel

/-- In the normal range the unit of the last digit is at most 2⁻²³ of the number. -/
lemma ulp_le (h : 2 ^ (-126 : ℤ) ≤ |q|) : ulp q ≤ |q| / 2 ^ 23 := by
  have hpos : 0 < |q| := (zpow_pos two_pos _).trans_le h
  have hlog : (-126 : ℤ) ≤ Int.log 2 |q| := (Int.zpow_le_iff_le_log (by decide) hpos).mp (by exact_mod_cast h)
  rw [ulp, max_eq_left (by omega), zpow_sub₀ two_ne_zero]
  exact div_le_div_of_nonneg_right (by exact_mod_cast Int.zpow_log_le_self (by decide) hpos) (by positivity)

lemma abs_roundFloat_sub_le_of_normal (h : 2 ^ (-126 : ℤ) ≤ |q|) : |roundFloat q - q| ≤ |q| / 2 ^ 24 := by
  have hulp := ulp_le h
  have herror := abs_roundFloat_sub_le (q := q)
  linarith

lemma ulp_le_add_one : ulp q ≤ |q| + 1 := by
  rcases eq_or_ne q 0 with rfl | hne
  · decide +kernel
  have hpos : 0 < |q| := abs_pos.mpr hne
  have hpower : (2 : ℚ) ^ Int.log 2 |q| ≤ |q| := by exact_mod_cast Int.zpow_log_le_self (by decide) hpos
  rw [ulp]
  rcases max_choice (Int.log 2 |q| - 23) (-149) with hmax | hmax
  · have hless : (2 : ℚ) ^ (Int.log 2 |q| - 23) ≤ 2 ^ Int.log 2 |q| := zpow_le_zpow_right₀ one_le_two (by omega)
    rw [hmax]
    linarith
  · have hone : (2 : ℚ) ^ (-149 : ℤ) ≤ 1 := zpow_le_one_of_nonpos₀ one_le_two (by decide)
    rw [hmax]
    linarith

lemma roundFloat_le (h : 0 ≤ q) : roundFloat q ≤ q + (q + 1) / 2 := by
  have herror := (abs_le.mp (abs_roundFloat_sub_le (q := q))).2
  have hulp := ulp_le_add_one (q := q)
  rw [abs_of_nonneg h] at hulp
  linarith

end Library.FloatRounding
