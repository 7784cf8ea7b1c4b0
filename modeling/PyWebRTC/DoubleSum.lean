import PyWebRTC.DoubleNearest

/-!
Sums of binary64 numbers that are not negative. One rounding is off by at most
half a unit in the last place of any binade above the ratio, and a number added
over and over drifts by at most that much at each addition.
-/

namespace PyWebRTC.DoubleSum

open DoubleRounding DoubleNearest

set_option autoImplicit false

/-! ## One rounding -/

theorem size_zero (negative : Bool) : size (zero negative) = 0 := by
  simp [size, zero]

theorem of_parts_spec {negative : Bool} {mantissa : Nat} {exponent : Int} {number : Double}
    (made : ofParts negative mantissa exponent = some number) :
    number.negative = negative ∧ size number = mantissa * 2 ^ exponent := by
  unfold ofParts at made
  split at made
  · obtain rfl := Option.some.inj made
    exact ⟨rfl, rfl⟩
  · contradiction

/-- The carry into the next binade does not change the value. -/
theorem size_of_round_ratio {negative : Bool} {p q : Nat} {number : Double} (positive : 0 < p)
    (rounded : roundRatio negative p q = some number) :
    number.negative = negative ∧
      size number = roundedMantissa p q * 2 ^ roundingExponent p q := by
  rw [roundRatio, if_neg positive.ne'] at rounded
  split at rounded
  · next carry =>
      obtain ⟨sign, value⟩ := of_parts_spec rounded
      refine ⟨sign, ?_⟩
      rw [value, carry, zpow_add_one₀ two_ne_zero]
      push_cast
      ring
  · exact of_parts_spec rounded

theorem rounding_exponent_le {p q : Nat} {power : Int} (pPositive : 0 < p) (qPositive : 0 < q)
    (low : -1021 ≤ power) (bounded : (p / q : ℚ) < 2 ^ power) :
    roundingExponent p q ≤ power - 53 := by
  have below := (Int.lt_zpow_iff_log_lt one_lt_two
    (show (0 : ℚ) < p / q by positivity)).mp (by exact_mod_cast bounded)
  rw [rounding_exponent_eq pPositive qPositive]
  omega

theorem round_ratio_close {p q : Nat} (qPositive : 0 < q) (negative : Bool) (power : Int)
    (low : -1021 ≤ power) (high : power ≤ 1023) (bounded : (p / q : ℚ) < 2 ^ power) :
    ∃ number, roundRatio negative p q = some number ∧ number.negative = negative ∧
      |size number - p / q| ≤ 2 ^ (power - 54) := by
  rcases Nat.eq_zero_or_pos p with rfl | pPositive
  · refine ⟨zero negative, rfl, rfl, ?_⟩
    rw [size_zero, Nat.cast_zero, zero_div, sub_zero, abs_zero]
    positivity
  have exponent := rounding_exponent_le pPositive qPositive low bounded
  have finite : roundRatio negative p q ≠ none := by
    rw [Ne, round_ratio_none_iff pPositive qPositive]
    split <;> omega
  obtain ⟨number, rounded⟩ := Option.ne_none_iff_exists'.mp finite
  obtain ⟨sign, value⟩ := size_of_round_ratio pPositive rounded
  refine ⟨number, rounded, sign, ?_⟩
  have unit : (0 : ℚ) < 2 ^ roundingExponent p q := by positivity
  have error := rounded_mantissa_error (p := p) qPositive
  calc |size number - p / q|
      = |(roundedMantissa p q : ℚ) - p / q / 2 ^ roundingExponent p q| *
          2 ^ roundingExponent p q := by
        rw [← abs_of_pos unit, ← abs_mul, abs_of_pos unit, sub_mul, div_mul_cancel₀ _ unit.ne',
          value]
    _ ≤ 1 / 2 * 2 ^ roundingExponent p q := mul_le_mul_of_nonneg_right error unit.le
    _ ≤ 1 / 2 * 2 ^ (power - 53) :=
        mul_le_mul_of_nonneg_left (zpow_le_zpow_right₀ one_le_two exponent) (by norm_num)
    _ = 2 ^ (power - 54) := by
        rw [show power - 53 = power - 54 + 1 by ring, zpow_add_one₀ two_ne_zero]
        ring

/-! ## Addition -/

/-- The sum of two numbers that are not negative, rounded. -/
def add (first second : Double) : Option Double :=
  roundRatio false
    ((magnitude first).1 * (magnitude second).2 + (magnitude second).1 * (magnitude first).2)
    ((magnitude first).2 * (magnitude second).2)

theorem magnitude_snd_pos (number : Double) : 0 < (magnitude number).2 := Nat.two_pow_pos _

theorem add_close (first second : Double) {power : Int} (low : -1021 ≤ power)
    (high : power ≤ 1023) (bounded : size first + size second < 2 ^ power) :
    ∃ sum, add first second = some sum ∧ sum.negative = false ∧
      |size sum - (size first + size second)| ≤ 2 ^ (power - 54) := by
  have firstPositive : ((magnitude first).2 : ℚ) ≠ 0 := by
    exact_mod_cast (magnitude_snd_pos first).ne'
  have secondPositive : ((magnitude second).2 : ℚ) ≠ 0 := by
    exact_mod_cast (magnitude_snd_pos second).ne'
  have exact : (((magnitude first).1 * (magnitude second).2 +
      (magnitude second).1 * (magnitude first).2 : Nat) : ℚ) /
        ((magnitude first).2 * (magnitude second).2 : Nat) = size first + size second := by
    rw [size_eq_ratio, size_eq_ratio]
    push_cast
    field_simp
  rw [← exact] at bounded ⊢
  exact round_ratio_close (Nat.mul_pos (magnitude_snd_pos first) (magnitude_snd_pos second)) false
    power low high bounded

/-- What `sum += term` gives after so many times, from zero. -/
def repeatedSum (term : Double) : Nat → Option Double
  | 0 => some (zero false)
  | count + 1 => (repeatedSum term count).bind fun sum => add sum term

/-- The drift of a sum that stays below a power of two. -/
theorem repeated_sum_close {term : Double} {exact slack : ℚ} (power : Int) (count : Nat)
    (nonneg : 0 ≤ exact) (close : |size term - exact| ≤ slack) (low : -1021 ≤ power)
    (high : power ≤ 1023) (room : count * (exact + (slack + 2 ^ (power - 54))) < 2 ^ power) :
    ∃ sum, repeatedSum term count = some sum ∧
      |size sum - count * exact| ≤ count * (slack + 2 ^ (power - 54)) := by
  have unit : (0 : ℚ) < 2 ^ (power - 54) := by positivity
  have slackNonneg : 0 ≤ slack := (abs_nonneg _).trans close
  induction count with
  | zero => exact ⟨zero false, rfl, by simp [size_zero]⟩
  | succ count ih =>
      push_cast at room ⊢
      obtain ⟨sum, made, drift⟩ := ih (by linarith)
      obtain ⟨sumLow, sumHigh⟩ := abs_le.mp drift
      obtain ⟨termLow, termHigh⟩ := abs_le.mp close
      obtain ⟨next, added, -, error⟩ := add_close sum term low high
        (by linarith)
      obtain ⟨errorLow, errorHigh⟩ := abs_le.mp error
      refine ⟨next, by rw [repeatedSum, made, Option.bind_some, added], ?_⟩
      rw [abs_le]
      constructor <;> linarith

end PyWebRTC.DoubleSum
