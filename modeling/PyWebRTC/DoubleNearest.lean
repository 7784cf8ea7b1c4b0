import Mathlib.Algebra.Order.Field.Power
import Mathlib.Data.Int.Log
import Mathlib.Data.Rat.Floor
import Mathlib.Tactic.FieldSimp
import Mathlib.Tactic.NormNum
import Mathlib.Tactic.Positivity
import PyWebRTC.DoubleRounding

/-!
Rounding to binary64 on the rational line. A ratio is rounded by its value
alone, and by at most half a unit in the last place of its binade; whatever lies
within a relative distance of 2^-54 of a number rounds to that number.
-/

namespace PyWebRTC.DoubleNearest

open DoubleRounding

set_option autoImplicit false

def size (number : Double) : ℚ := number.mantissa * 2 ^ number.exponent

theorem zpow_eq_ratio {base : ℚ} (nonzero : base ≠ 0) (exponent : Int) :
    base ^ exponent = base ^ exponent.toNat / base ^ (-exponent).toNat := by
  have total : exponent = (exponent.toNat : Int) - (-exponent).toNat := by omega
  conv_lhs => rw [total, zpow_sub₀ nonzero, zpow_natCast, zpow_natCast]

theorem size_eq_ratio (number : Double) :
    size number = (magnitude number).1 / (magnitude number).2 := by
  rw [size, zpow_eq_ratio (by norm_num), magnitude]
  push_cast
  ring

theorem size_nonneg (number : Double) : 0 ≤ size number := by
  unfold size
  positivity

theorem scaled_ratio (p q : Nat) (exponent : Int) :
    ((scaled p q exponent).1 : ℚ) / (scaled p q exponent).2 = p / q / 2 ^ exponent := by
  rw [zpow_eq_ratio (by norm_num), scaled]
  push_cast
  field_simp

theorem scaled_snd_pos {q : Nat} (p : Nat) (positive : 0 < q) (exponent : Int) :
    0 < (scaled p q exponent).2 :=
  Nat.mul_pos positive (Nat.two_pow_pos _)

/-- The guess from the bit lengths is the binary logarithm of the ratio. -/
theorem leading_exponent_eq_log {p q : Nat} (pPositive : 0 < p) (qPositive : 0 < q) :
    leadingExponent p q = Int.log 2 (p / q : ℚ) := by
  obtain ⟨low, high⟩ := scaled_leading_exponent pPositive qPositive
  have ratio := scaled_ratio p q (leadingExponent p q)
  have denominator : (0 : ℚ) < (scaled p q (leadingExponent p q)).2 := by
    exact_mod_cast scaled_snd_pos p qPositive _
  have positive : (0 : ℚ) < p / q := by positivity
  have unit : (0 : ℚ) < 2 ^ leadingExponent p q := by positivity
  have lower : (2 : ℚ) ^ leadingExponent p q ≤ p / q := by
    rw [← one_le_div₀ unit, ← ratio, one_le_div₀ denominator]
    exact_mod_cast low
  have upper : (p / q : ℚ) < 2 ^ (leadingExponent p q + 1) := by
    rw [zpow_add_one₀ (by norm_num), mul_comm, ← div_lt_iff₀ unit, ← ratio,
      div_lt_iff₀ denominator]
    exact_mod_cast high
  have atLeast := (Int.zpow_le_iff_le_log one_lt_two positive).mp (by exact_mod_cast lower)
  have atMost := (Int.lt_zpow_iff_log_lt one_lt_two positive).mp (by exact_mod_cast upper)
  omega

/-! ## The nearest integer -/

theorem divide_half_even_error {denominator : Nat} (positive : 0 < denominator)
    (numerator : Nat) :
    |(divideHalfEven numerator denominator : ℚ) - numerator / denominator| ≤ 1 / 2 := by
  have split : ((denominator * (numerator / denominator) + numerator % denominator : Nat) : ℚ) =
      numerator := by rw [Nat.div_add_mod]
  have remainder : numerator % denominator < denominator := Nat.mod_lt _ positive
  have positiveRat : (0 : ℚ) < denominator := by exact_mod_cast positive
  have value : (numerator : ℚ) / denominator =
      (numerator / denominator : Nat) + (numerator % denominator : Nat) / denominator := by
    rw [← split]
    push_cast
    field_simp
  rw [value]
  unfold divideHalfEven
  dsimp only
  split_ifs with low
  · have half : 2 * (numerator % denominator) ≤ denominator := by omega
    have halfRat : (2 : ℚ) * (numerator % denominator : Nat) ≤ denominator := by
      exact_mod_cast half
    rw [sub_add_cancel_left, abs_neg, abs_of_nonneg (by positivity), div_le_div_iff₀ positiveRat
      two_pos]
    linarith
  · have half : denominator ≤ 2 * (numerator % denominator) := by omega
    have halfRat : (denominator : ℚ) ≤ 2 * (numerator % denominator : Nat) := by
      exact_mod_cast half
    have small : ((numerator % denominator : Nat) : ℚ) / denominator ≤ 1 := by
      rw [div_le_one positiveRat]
      exact_mod_cast remainder.le
    have large : (1 : ℚ) / 2 ≤ (numerator % denominator : Nat) / denominator := by
      rw [div_le_div_iff₀ two_pos positiveRat]
      linarith
    push_cast
    rw [abs_le]
    constructor <;> linarith

theorem divide_half_even_eq {numerator denominator nearest : Nat} (positive : 0 < denominator)
    (near : |(numerator : ℚ) / denominator - nearest| < 1 / 2) :
    divideHalfEven numerator denominator = nearest := by
  have error := divide_half_even_error positive numerator
  have close : |(divideHalfEven numerator denominator : ℚ) - nearest| < 1 := by
    calc |(divideHalfEven numerator denominator : ℚ) - nearest|
        ≤ |(divideHalfEven numerator denominator : ℚ) - numerator / denominator| +
          |(numerator : ℚ) / denominator - nearest| := abs_sub_le _ _ _
      _ < 1 := by linarith
  have integers : |(divideHalfEven numerator denominator : Int) - nearest| < 1 := by
    exact_mod_cast close
  rw [Int.abs_lt_one_iff] at integers
  omega

/-- The mantissa is the ratio in units of the last place, rounded. -/
theorem rounded_mantissa_error {p q : Nat} (qPositive : 0 < q) :
    |(roundedMantissa p q : ℚ) - p / q / 2 ^ roundingExponent p q| ≤ 1 / 2 := by
  rw [← scaled_ratio]
  exact divide_half_even_error (scaled_snd_pos p qPositive _) _

theorem rounded_mantissa_eq {p q nearest : Nat} (qPositive : 0 < q)
    (near : |(p : ℚ) / q / 2 ^ roundingExponent p q - nearest| < 1 / 2) :
    roundedMantissa p q = nearest := by
  rw [← scaled_ratio] at near
  exact divide_half_even_eq (scaled_snd_pos p qPositive _) near

/-! ## Ratios close to a number -/

def withSign (negative : Bool) (number : Double) : Double := { number with negative := negative }

theorem of_parts_with_sign (negative : Bool) (number : Double) :
    ofParts negative number.mantissa number.exponent = some (withSign negative number) :=
  dif_pos ⟨number.mantissa_lt, number.exponent_ge, number.exponent_le, number.normalized⟩

theorem log_eq {ratio : ℚ} {exponent : Int} (low : 2 ^ exponent ≤ ratio)
    (high : ratio < 2 ^ (exponent + 1)) : Int.log 2 ratio = exponent := by
  have positive : 0 < ratio := lt_of_lt_of_le (by positivity) low
  have atLeast := (Int.zpow_le_iff_le_log one_lt_two positive).mp (by exact_mod_cast low)
  have atMost := (Int.lt_zpow_iff_log_lt one_lt_two positive).mp (by exact_mod_cast high)
  omega

theorem rounding_exponent_eq {p q : Nat} (pPositive : 0 < p) (qPositive : 0 < q) :
    roundingExponent p q = max (-1074) (Int.log 2 (p / q : ℚ) - 52) := by
  rw [roundingExponent, leading_exponent_eq_log pPositive qPositive]

theorem near_in_units {ratio : ℚ} {number : Double}
    (near : 2 ^ 54 * |ratio - size number| < size number) :
    2 ^ 54 * |ratio / 2 ^ number.exponent - number.mantissa| < number.mantissa := by
  have unit : (0 : ℚ) < 2 ^ number.exponent := by positivity
  have distance : |ratio - size number| =
      |ratio / 2 ^ number.exponent - number.mantissa| * 2 ^ number.exponent := by
    rw [← abs_of_pos unit, ← abs_mul, abs_of_pos unit, sub_mul, div_mul_cancel₀ _ unit.ne', size]
  rw [distance, size, ← mul_assoc] at near
  exact lt_of_mul_lt_mul_right near unit.le

/-- Where the unit in the last place is that of the number, so is the mantissa. -/
theorem round_ratio_of_exponent {number : Double} {p q : Nat} (pPositive : 0 < p)
    (qPositive : 0 < q) (negative : Bool)
    (near : 2 ^ 54 * |(p / q : ℚ) - size number| < size number)
    (exponent : roundingExponent p q = number.exponent) :
    roundRatio negative p q = some (withSign negative number) := by
  have inUnits := near_in_units near
  have bounded : (number.mantissa : ℚ) < 2 ^ 53 := by exact_mod_cast number.mantissa_lt
  have mantissa : roundedMantissa p q = number.mantissa := by
    apply rounded_mantissa_eq qPositive
    rw [exponent]
    linarith
  have small : number.mantissa ≠ 2 ^ 53 := number.mantissa_lt.ne
  rw [roundRatio, if_neg pPositive.ne', mantissa, if_neg small, exponent, of_parts_with_sign]

/-- Just below a power of two the units are half as large, and rounding carries. -/
theorem round_ratio_of_carry {number : Double} {p q : Nat} (pPositive : 0 < p)
    (qPositive : 0 < q) (negative : Bool)
    (near : 2 ^ 54 * |(p / q : ℚ) - size number| < size number)
    (power : number.mantissa = 2 ^ 52) (exponent : roundingExponent p q = number.exponent - 1) :
    roundRatio negative p q = some (withSign negative number) := by
  have inUnits := near_in_units near
  have halved : (p / q : ℚ) / 2 ^ (number.exponent - 1) = 2 * (p / q / 2 ^ number.exponent) := by
    rw [zpow_sub_one₀ two_ne_zero, div_mul_eq_div_div_swap, div_inv_eq_mul, mul_comm, div_eq_mul_inv]
    ring
  have mantissa : roundedMantissa p q = 2 ^ 53 := by
    apply rounded_mantissa_eq qPositive
    rw [power] at inUnits
    have scaledDistance : |2 * ((p / q : ℚ) / 2 ^ number.exponent) - (2 ^ 53 : Nat)| =
        2 * |(p / q : ℚ) / 2 ^ number.exponent - (2 ^ 52 : Nat)| := by
      rw [← abs_two, ← abs_mul, abs_two, mul_sub]
      norm_num
    rw [exponent, halved, scaledDistance]
    push_cast at inUnits ⊢
    linarith
  rw [roundRatio, if_neg pPositive.ne', if_pos mantissa, exponent, sub_add_cancel, ← power,
    of_parts_with_sign]

/-- Within a relative distance of 2^-54 a number is the nearest one. -/
theorem round_ratio_of_near {number : Double} {p q : Nat} (qPositive : 0 < q) (negative : Bool)
    (near : 2 ^ 54 * |(p / q : ℚ) - size number| < size number) :
    roundRatio negative p q = some (withSign negative number) := by
  have inUnits := near_in_units near
  obtain ⟨below, above⟩ := abs_lt.mp ((lt_div_iff₀' (by norm_num)).mpr inUnits)
  have bounded : (number.mantissa : ℚ) ≤ 2 ^ 53 - 1 := by
    have integer : number.mantissa + 1 ≤ 2 ^ 53 := number.mantissa_lt
    have rational : ((number.mantissa + 1 : Nat) : ℚ) ≤ (2 ^ 53 : Nat) := by exact_mod_cast integer
    push_cast at rational
    linarith
  have unit : (0 : ℚ) < 2 ^ number.exponent := by positivity
  have pPositive : 0 < p := by
    rcases Nat.eq_zero_or_pos p with rfl | positive
    · have nonneg := size_nonneg number
      rw [Nat.cast_zero, zero_div, zero_sub, abs_neg, abs_of_nonneg nonneg] at near
      linarith
    · exact positive
  have high : (p / q : ℚ) < 2 ^ (number.exponent + 52 + 1) := by
    rw [add_assoc, zpow_add₀ two_ne_zero, mul_comm, ← div_lt_iff₀ unit]
    norm_num
    linarith
  rcases le_or_gt (2 ^ (number.exponent + 52)) (p / q : ℚ) with normal | low
  · apply round_ratio_of_exponent pPositive qPositive negative near
    rw [rounding_exponent_eq pPositive qPositive, log_eq normal high]
    have := number.exponent_ge
    omega
  · have atMost := (Int.lt_zpow_iff_log_lt one_lt_two
      (show (0 : ℚ) < p / q by positivity)).mp (by exact_mod_cast low)
    by_cases least : number.exponent = -1074
    · apply round_ratio_of_exponent pPositive qPositive negative near
      rw [rounding_exponent_eq pPositive qPositive]
      omega
    · have leadingBit : 2 ^ 52 ≤ number.mantissa := by
        by_contra small
        exact least (number.normalized (Nat.lt_of_not_le small))
      rw [zpow_add₀ two_ne_zero, mul_comm, ← div_lt_iff₀ unit] at low
      norm_num at low
      have power : number.mantissa = 2 ^ 52 := by
        have close : (number.mantissa : ℚ) < (2 ^ 52 + 1 : Nat) := by
          push_cast
          linarith
        have close : number.mantissa < 2 ^ 52 + 1 := by exact_mod_cast close
        omega
      have lower : (2 : ℚ) ^ (number.exponent + 51) ≤ p / q := by
        rw [zpow_add₀ two_ne_zero, mul_comm, ← le_div_iff₀ unit]
        rw [power] at below
        norm_num at below ⊢
        linarith
      apply round_ratio_of_carry pPositive qPositive negative near power
      have atLeast := (Int.zpow_le_iff_le_log one_lt_two
        (show (0 : ℚ) < p / q by positivity)).mp (by exact_mod_cast lower)
      have := number.exponent_ge
      rw [rounding_exponent_eq pPositive qPositive]
      omega

end PyWebRTC.DoubleNearest
