import Mathlib.Algebra.Order.Floor.Semifield
import Mathlib.Data.List.DropRight
import Mathlib.Data.List.TakeWhile
import Mathlib.Data.Nat.Cast.Field
import PyWebRTC.DoubleNearest
import PyWebRTC.JsonText
import PyWebRTC.PicojsonParse
import PyWebRTC.PicojsonSerialize

/-!
# Numbers through text and back

`to_str` writes an integral number below 2^53 with all its digits and any other
number with seventeen significant ones. `strtod` gives the same number back, the
sign of zero included.
-/

namespace PyWebRTC.PicojsonNumber

open DoubleNearest DoubleRounding PicojsonParse PicojsonSerialize
open JsonText (decimalDigits mem_decimal_digits)

set_option autoImplicit false

/-! ## Seventeen digits -/

theorem ceil_ratio {p q : Nat} (pPositive : 0 < p) : ⌈(q / p : ℚ)⌉₊ = (q + p - 1) / p := by
  have positive : (0 : ℚ) < p := by exact_mod_cast pPositive
  apply le_antisymm
  · rw [Nat.ceil_le, div_le_iff₀ positive]
    have above : q ≤ (q + p - 1) / p * p := by
      have split := Nat.div_add_mod (q + p - 1) p
      have remainder := Nat.mod_lt (q + p - 1) pPositive
      rw [Nat.mul_comm] at split
      omega
    exact_mod_cast above
  · apply Nat.le_of_lt_succ
    rw [Nat.div_lt_iff_lt_mul pPositive]
    have below : (q : ℚ) ≤ ⌈(q / p : ℚ)⌉₊ * p := (div_le_iff₀ positive).mp (Nat.le_ceil _)
    have below : q ≤ ⌈(q / p : ℚ)⌉₊ * p := by exact_mod_cast below
    rw [Nat.succ_mul]
    omega

theorem decimal_exponent_eq_log {p q : Nat} (pPositive : 0 < p) (qPositive : 0 < q) :
    decimalExponent p q = Int.log 10 (p / q : ℚ) := by
  have positive : (0 : ℚ) < q := by exact_mod_cast qPositive
  unfold decimalExponent
  split_ifs with atLeastOne
  · have one_le : (1 : ℚ) ≤ p / q := (one_le_div₀ positive).mpr (by exact_mod_cast atLeastOne)
    rw [Int.log_of_one_le_right 10 one_le, Nat.floor_div_eq_div]
  · have le_one : (p / q : ℚ) ≤ 1 := (div_le_one₀ positive).mpr (by
      exact_mod_cast (Nat.le_of_not_le atLeastOne))
    rw [Int.log_of_right_le_one 10 le_one, inv_div, ceil_ratio pPositive]

def roundedDigits (p q : Nat) (exponent : Int) : Nat :=
  divideHalfEven (p * 10 ^ (16 - exponent).toNat) (q * 10 ^ (exponent - 16).toNat)

theorem rounded_digits_error {p q : Nat} (qPositive : 0 < q) (exponent : Int) :
    |(roundedDigits p q exponent : ℚ) - p / q / 10 ^ (exponent - 16)| ≤ 1 / 2 := by
  have ratio : ((p * 10 ^ (16 - exponent).toNat : Nat) : ℚ) / (q * 10 ^ (exponent - 16).toNat : Nat) =
      p / q / 10 ^ (exponent - 16) := by
    rw [zpow_eq_ratio (by norm_num) (exponent - 16), show 16 - exponent = -(exponent - 16) by ring]
    push_cast
    field_simp
  rw [← ratio]
  exact divide_half_even_error (by positivity) _

theorem rounded_digits_bounds {p q : Nat} {exponent : Int} (qPositive : 0 < q)
    (low : (10 : ℚ) ^ exponent ≤ p / q) (high : (p / q : ℚ) < 10 ^ (exponent + 1)) :
    10 ^ 16 ≤ roundedDigits p q exponent ∧ roundedDigits p q exponent ≤ 10 ^ 17 := by
  have unit : (0 : ℚ) < 10 ^ (exponent - 16) := by positivity
  obtain ⟨below, above⟩ := abs_le.mp (rounded_digits_error (p := p) qPositive exponent)
  have lowUnits : (10 : ℚ) ^ 16 ≤ p / q / 10 ^ (exponent - 16) := by
    rw [le_div_iff₀ unit, ← zpow_natCast, ← zpow_add₀ (by norm_num)]
    simpa using low
  have highUnits : (p / q / 10 ^ (exponent - 16) : ℚ) < 10 ^ 17 := by
    rw [div_lt_iff₀ unit, ← zpow_natCast, ← zpow_add₀ (by norm_num)]
    rwa [show ((17 : Nat) : Int) + (exponent - 16) = exponent + 1 by push_cast; ring]
  constructor
  · have rational : ((10 ^ 16 : Nat) : ℚ) < (roundedDigits p q exponent + 1 : Nat) := by
      push_cast
      linarith
    have integer : 10 ^ 16 < roundedDigits p q exponent + 1 := by exact_mod_cast rational
    omega
  · have rational : (roundedDigits p q exponent : ℚ) < (10 ^ 17 + 1 : Nat) := by
      push_cast
      linarith
    have integer : roundedDigits p q exponent < 10 ^ 17 + 1 := by exact_mod_cast rational
    omega

/-- Half a unit of the seventeenth digit, relative to the ratio. -/
theorem rounded_digits_close {p q : Nat} {exponent : Int} (qPositive : 0 < q)
    (low : (10 : ℚ) ^ exponent ≤ p / q) :
    2 * 10 ^ 16 * |(roundedDigits p q exponent : ℚ) * 10 ^ (exponent - 16) - p / q| ≤
      (p / q : ℚ) := by
  have unit : (0 : ℚ) < 10 ^ (exponent - 16) := by positivity
  have error := rounded_digits_error (p := p) qPositive exponent
  have distance : |(roundedDigits p q exponent : ℚ) * 10 ^ (exponent - 16) - p / q| =
      |(roundedDigits p q exponent : ℚ) - p / q / 10 ^ (exponent - 16)| * 10 ^ (exponent - 16) := by
    rw [← abs_of_pos unit, ← abs_mul, abs_of_pos unit, sub_mul, div_mul_cancel₀ _ unit.ne']
  have lowest : (10 : ℚ) ^ 16 * 10 ^ (exponent - 16) = 10 ^ exponent := by
    rw [← zpow_natCast, ← zpow_add₀ (by norm_num)]
    norm_num
  calc 2 * 10 ^ 16 * |(roundedDigits p q exponent : ℚ) * 10 ^ (exponent - 16) - p / q|
      = 2 * |(roundedDigits p q exponent : ℚ) - p / q / 10 ^ (exponent - 16)| *
          (10 ^ 16 * 10 ^ (exponent - 16)) := by rw [distance]; ring
    _ ≤ 1 * (10 ^ 16 * 10 ^ (exponent - 16)) := by
        apply mul_le_mul_of_nonneg_right _ (by positivity)
        linarith
    _ ≤ p / q := by rw [one_mul, lowest]; exact low

/-- Seventeen digits, which make up the ratio up to half a unit of the last. -/
theorem significand_spec {p q : Nat} (pPositive : 0 < p) (qPositive : 0 < q) :
    10 ^ 16 ≤ (significand17 p q).1 ∧ (significand17 p q).1 < 10 ^ 17 ∧
      2 * 10 ^ 16 * |((significand17 p q).1 : ℚ) * 10 ^ ((significand17 p q).2 - 16) - p / q| ≤
        (p / q : ℚ) := by
  have positive : (0 : ℚ) < p / q := by positivity
  have low := Int.zpow_log_le_self (b := 10) (by decide) positive
  have high := Int.lt_zpow_succ_log_self (b := 10) (by decide) (p / q : ℚ)
  rw [← decimal_exponent_eq_log pPositive qPositive] at low high
  push_cast at low high
  obtain ⟨atLeast, atMost⟩ := rounded_digits_bounds qPositive low high
  have close := rounded_digits_close qPositive low
  have unfolded : significand17 p q = if roundedDigits p q (decimalExponent p q) = 10 ^ 17 then
      (10 ^ 16, decimalExponent p q + 1)
    else (roundedDigits p q (decimalExponent p q), decimalExponent p q) := rfl
  rw [unfolded]
  split_ifs with carry
  · have same : ((10 ^ 16 : Nat) : ℚ) * 10 ^ (decimalExponent p q + 1 - 16) =
        roundedDigits p q (decimalExponent p q) * 10 ^ (decimalExponent p q - 16) := by
      rw [carry, add_sub_right_comm, zpow_add_one₀ (by norm_num)]
      push_cast
      ring
    rw [same]
    exact ⟨le_refl _, by norm_num, close⟩
  · exact ⟨atLeast, by omega, close⟩

/-! ## Zeros at the end of a fraction -/

theorem strip_trailing_zeros_append (digits : List Char) :
    ∃ zeros, digits = stripTrailingZeros digits ++ List.replicate zeros '0' := by
  have zeros : digits.reverse.takeWhile (· = '0') =
      List.replicate (digits.reverse.takeWhile (· = '0')).length '0' := by
    rw [List.eq_replicate_iff]
    exact ⟨rfl, fun c member => by simpa using List.mem_takeWhile_imp member⟩
  refine ⟨(digits.reverse.takeWhile (· = '0')).length, ?_⟩
  rw [← List.reverse_inj, List.reverse_append, stripTrailingZeros, List.reverse_reverse,
    List.reverse_replicate, ← zeros, List.takeWhile_append_dropWhile]

theorem strip_trailing_zeros_value (whole fraction : List Char) (exponent : Int) :
    (Nat.ofDigitChars 10 (whole ++ stripTrailingZeros fraction) 0 : ℚ) *
        10 ^ (exponent - (stripTrailingZeros fraction).length) =
      Nat.ofDigitChars 10 (whole ++ fraction) 0 * 10 ^ (exponent - fraction.length) := by
  obtain ⟨zeros, split⟩ := strip_trailing_zeros_append fraction
  generalize stripTrailingZeros fraction = kept at split ⊢
  subst split
  have shifted : Nat.ofDigitChars 10 (whole ++ (kept ++ List.replicate zeros '0')) 0 =
      10 ^ zeros * Nat.ofDigitChars 10 (whole ++ kept) 0 := by
    rw [← List.append_assoc, Nat.ofDigitChars_append, Nat.ofDigitChars_replicate_zero]
  have unit : (10 : ℚ) ^ zeros * 10 ^ (exponent - (kept.length + zeros : Nat)) =
      10 ^ (exponent - kept.length) := by
    rw [← zpow_natCast, ← zpow_add₀ (by norm_num)]
    congr 1
    push_cast
    ring
  rw [shifted, List.length_append, List.length_replicate, ← unit]
  push_cast
  ring

/-! ## Reading -/

def signText (negative : Bool) : List Char := if negative then ['-'] else []

theorem split_sign_text {text : List Char} (negative : Bool)
    (digit : ∀ c ∈ text.head?, c.isDigit = true) :
    splitSign (signText negative ++ text) = (negative, text) := by
  cases negative with
  | true => rfl
  | false =>
      rw [signText, if_neg (by decide), List.nil_append]
      unfold splitSign
      split
      case h_1 => exact absurd (digit '-' rfl) (by decide)
      case h_2 => exact absurd (digit '+' rfl) (by decide)
      case h_3 => rfl

theorem take_digits {digits tail : List Char} (isDigits : ∀ c ∈ digits, c.isDigit = true)
    (ends : ∀ c ∈ tail.head?, c.isDigit = false) :
    (digits ++ tail).takeWhile Char.isDigit = digits ∧
      (digits ++ tail).dropWhile Char.isDigit = tail := by
  rw [List.takeWhile_append_of_pos isDigits, List.dropWhile_append_of_pos isDigits]
  cases tail with
  | nil => simp
  | cons c rest => simp [ends c rfl]

theorem strtod_with_fraction {whole fraction tail : List Char} (negative : Bool)
    (nonempty : whole ≠ []) (wholeDigits : ∀ c ∈ whole, c.isDigit = true)
    (fractionDigits : ∀ c ∈ fraction, c.isDigit = true)
    (ends : ∀ c ∈ tail.head?, c.isDigit = false ∧ c ≠ '.') :
    strtod (signText negative ++ (withFraction whole fraction ++ tail)) =
      (scaleByTen negative (Nat.ofDigitChars 10 (whole ++ stripTrailingZeros fraction) 0)
        ((exponentPart tail).1 - (stripTrailingZeros fraction).length), (exponentPart tail).2) := by
  have keptDigits : ∀ c ∈ stripTrailingZeros fraction, c.isDigit = true := by
    obtain ⟨zeros, split⟩ := strip_trailing_zeros_append fraction
    intro c member
    exact fractionDigits c (by rw [split]; exact List.mem_append_left _ member)
  have starts (rest : List Char) : ∀ c ∈ (whole ++ rest).head?, c.isDigit = true := by
    obtain ⟨first, others, rfl⟩ := List.exists_cons_of_ne_nil nonempty
    intro c first
    exact wholeDigits c (by simp_all)
  unfold withFraction
  cases kept : stripTrailingZeros fraction with
  | nil =>
      obtain ⟨taken, dropped⟩ := take_digits wholeDigits fun c first => (ends c first).1
      have noPoint : ∀ rest, tail ≠ '.' :: rest := by
        rintro rest rfl
        exact (ends '.' rfl).2 rfl
      simp only [strtod, split_sign_text negative (starts tail), taken, dropped]
      rw [if_neg (by simp [nonempty])]
  | cons first others =>
      rw [kept] at keptDigits
      obtain ⟨taken, dropped⟩ :=
        @take_digits whole ('.' :: (first :: others ++ tail)) wholeDigits (by simp)
      obtain ⟨takenFraction, droppedFraction⟩ := take_digits keptDigits fun c first => (ends c first).1
      rw [List.append_assoc, List.cons_append]
      simp only [strtod, split_sign_text negative (starts _), taken, dropped, takenFraction,
        droppedFraction]
      rw [if_neg (by simp)]

theorem scale_by_ten_of_near {digits : Nat} {exponent : Int} {number : Double} (negative : Bool)
    (near : 2 ^ 54 * |(digits : ℚ) * 10 ^ exponent - size number| < size number) :
    scaleByTen negative digits exponent = some (withSign negative number) := by
  have ratio : ((digits * 10 ^ exponent.toNat : Nat) : ℚ) / (10 ^ (-exponent).toNat : Nat) =
      digits * 10 ^ exponent := by
    rw [zpow_eq_ratio (by norm_num) exponent]
    push_cast
    ring
  rw [← ratio] at near
  exact round_ratio_of_near (Nat.pow_pos (by decide)) negative near

/-- The exponent of `%g`: a sign and at least two digits. -/
theorem exponent_part_text (exponent : Int) (zeros : Nat) :
    exponentPart ('e' :: (if exponent < 0 then '-' else '+') ::
      (List.replicate zeros '0' ++ Nat.toDigits 10 exponent.natAbs)) = (exponent, []) := by
  have isDigits : ∀ c ∈ List.replicate zeros '0' ++ Nat.toDigits 10 exponent.natAbs,
      c.isDigit = true := by
    intro c member
    obtain zero | digit := List.mem_append.mp member
    · rw [List.eq_of_mem_replicate zero]
      rfl
    · exact Nat.isDigit_of_mem_toDigits (by decide) (by decide) digit
  have split (mark : Char) (rest : List Char) (isSign : mark = '-' ∨ mark = '+') :
      splitSign (mark :: rest) = (decide (mark = '-'), rest) := by
    rcases isSign with rfl | rfl
    · rfl
    · rfl
  have nonempty : List.replicate zeros '0' ++ Nat.toDigits 10 exponent.natAbs ≠ [] := by
    simp [Nat.toDigits_ne_nil]
  have isSign : (if exponent < 0 then '-' else '+') = '-' ∨
      (if exponent < 0 then '-' else '+') = '+' := by
    split_ifs <;> simp
  simp only [exponentPart, split _ _ isSign, List.takeWhile_eq_self_iff.mpr isDigits,
    List.dropWhile_eq_nil_iff.mpr isDigits]
  rw [if_pos ⟨.inl trivial, nonempty⟩, Nat.ofDigitChars_append, Nat.ofDigitChars_replicate_zero,
    Nat.mul_zero, Nat.ofDigitChars_ten_toDigits]
  by_cases below : exponent < 0
  · simp only [if_pos below, decide_true, if_true, Prod.mk.injEq, and_true]
    omega
  · simp only [if_neg below, Prod.mk.injEq, and_true]
    rw [if_neg (by decide)]
    omega

/-! ## Writing and reading -/

theorem to_digits_is_digit {n : Nat} {c : Char} (member : c ∈ Nat.toDigits 10 n) :
    c.isDigit = true :=
  Nat.isDigit_of_mem_toDigits (by decide) (by decide) member

theorem eq_zero_of_size {number : Double} (none : size number = 0) :
    number = DoubleRounding.zero number.negative := by
  have unit : (2 : ℚ) ^ number.exponent ≠ 0 := by positivity
  have mantissa : number.mantissa = 0 := by
    exact_mod_cast (mul_eq_zero.mp none).resolve_right unit
  have exponent : number.exponent = -1074 := number.normalized (by rw [mantissa]; decide)
  cases number
  subst mantissa exponent
  rfl

/-- A text of a value close to a number is read as the number. -/
theorem strtod_near {number : Double} {whole fraction tail : List Char} (nonempty : whole ≠ [])
    (wholeDigits : ∀ c ∈ whole, c.isDigit = true)
    (fractionDigits : ∀ c ∈ fraction, c.isDigit = true)
    (ends : ∀ c ∈ tail.head?, c.isDigit = false ∧ c ≠ '.')
    (near : 2 ^ 54 * |(Nat.ofDigitChars 10 (whole ++ fraction) 0 : ℚ) *
      10 ^ ((exponentPart tail).1 - fraction.length) - size number| < size number) :
    strtod (signText number.negative ++ (withFraction whole fraction ++ tail)) =
      (some number, (exponentPart tail).2) := by
  rw [strtod_with_fraction number.negative nonempty wholeDigits fractionDigits ends]
  rw [← strip_trailing_zeros_value] at near
  rw [scale_by_ten_of_near number.negative near]
  rfl

theorem strtod_format_integer {number : Double} (integral : isIntegral number = true) :
    strtod (formatInteger number) = (some number, []) := by
  have value : size number = truncatedMagnitude number := by
    have whole : (magnitude number).2 ∣ (magnitude number).1 :=
      Nat.dvd_of_mod_eq_zero (by simpa [isIntegral] using integral)
    have positive : ((magnitude number).2 : ℚ) ≠ 0 := by simp [magnitude]
    rw [size_eq_ratio, truncatedMagnitude, Nat.cast_div whole positive]
  rcases (size_nonneg number).eq_or_lt with none | positive
  · have noDigits : truncatedMagnitude number = 0 := by
      exact_mod_cast value.symm.trans none.symm
    rw [formatInteger, noDigits, eq_zero_of_size none.symm]
    cases number.negative
    · rfl
    · rfl
  · have near : 2 ^ 54 * |(Nat.ofDigitChars 10 (Nat.toDigits 10 (truncatedMagnitude number) ++ []) 0 : ℚ) *
        10 ^ ((0 : Int) - (0 : Nat)) - size number| < size number := by
      rw [List.append_nil, Nat.ofDigitChars_ten_toDigits, ← value]
      simpa using positive
    have read := @strtod_near number _ [] [] Nat.toDigits_ne_nil (fun _ => to_digits_is_digit)
      (by simp) (by simp) near
    rwa [List.append_nil] at read

/-! ## Seventeen digits at their places -/

/-- The digits of `%.17g`, at their places, are close enough to the number. -/
theorem significand_near {number : Double} (positive : 0 < size number) :
    2 ^ 54 * |((significand17 (magnitude number).1 (magnitude number).2).1 : ℚ) *
        10 ^ ((significand17 (magnitude number).1 (magnitude number).2).2 - 16) - size number| <
      size number := by
  have denominator : 0 < (magnitude number).2 := Nat.two_pow_pos _
  have numerator : 0 < (magnitude number).1 := by
    rw [Nat.pos_iff_ne_zero]
    intro none
    rw [size_eq_ratio, none, Nat.cast_zero, zero_div] at positive
    exact lt_irrefl _ positive
  have close := (significand_spec numerator denominator).2.2
  rw [← size_eq_ratio] at close
  have nonneg := abs_nonneg (((significand17 (magnitude number).1 (magnitude number).2).1 : ℚ) *
    10 ^ ((significand17 (magnitude number).1 (magnitude number).2).2 - 16) - size number)
  rcases nonneg.eq_or_lt with same | apart
  · rwa [← same, mul_zero]
  · linarith

theorem length_seventeen {significand : Nat} (atLeast : 10 ^ 16 ≤ significand)
    (below : significand < 10 ^ 17) : (Nat.toDigits 10 significand).length = 17 := by
  have atMost : (Nat.toDigits 10 significand).length ≤ 17 :=
    (Nat.length_toDigits_le_iff (by decide) (by decide)).mpr below
  have notLess : ¬(Nat.toDigits 10 significand).length ≤ 16 := by
    rw [Nat.length_toDigits_le_iff (by decide) (by decide)]
    exact Nat.not_lt.mpr atLeast
  omega

section Seventeen

variable {number : Double} {significand : Nat} {exponent : Int}
  (length : (Nat.toDigits 10 significand).length = 17)
  (near : 2 ^ 54 * |(significand : ℚ) * 10 ^ (exponent - 16) - size number| < size number)

include length near

theorem strtod_scientific :
    strtod (signText number.negative ++
      (withFraction ((Nat.toDigits 10 significand).take 1) ((Nat.toDigits 10 significand).drop 1) ++
        'e' :: (if exponent < 0 then '-' else '+') ::
          (List.replicate (2 - (Nat.toDigits 10 exponent.natAbs).length) '0' ++
            Nat.toDigits 10 exponent.natAbs))) = (some number, []) := by
  have power := exponent_part_text exponent (2 - (Nat.toDigits 10 exponent.natAbs).length)
  rw [strtod_near, power]
  · simp [Nat.toDigits_ne_nil]
  · exact fun c member => to_digits_is_digit (List.mem_of_mem_take member)
  · exact fun c member => to_digits_is_digit (List.mem_of_mem_drop member)
  · simp
  · rwa [power, List.take_append_drop, Nat.ofDigitChars_ten_toDigits, List.length_drop, length]

theorem strtod_small (below : exponent < 0) :
    strtod (signText number.negative ++
      withFraction ['0'] (List.replicate (-exponent - 1).toNat '0' ++
        Nat.toDigits 10 significand)) = (some number, []) := by
  have digits : Nat.ofDigitChars 10 (['0'] ++ (List.replicate (-exponent - 1).toNat '0' ++
      Nat.toDigits 10 significand)) 0 = significand := by
    rw [← List.append_assoc, ← List.replicate_one, ← List.replicate_add, Nat.ofDigitChars_append,
      Nat.ofDigitChars_replicate_zero, Nat.mul_zero, Nat.ofDigitChars_ten_toDigits]
  have read := @strtod_near number ['0']
    (List.replicate (-exponent - 1).toNat '0' ++ Nat.toDigits 10 significand) []
    (List.cons_ne_nil _ _) (by simp) (fun c member => ?_) (by simp) ?_
  · rwa [List.append_nil] at read
  · obtain zero | digit := List.mem_append.mp member
    · rw [List.eq_of_mem_replicate zero]
      rfl
    · exact to_digits_is_digit digit
  · rw [digits, List.length_append, List.length_replicate, length]
    have place : (exponentPart []).1 - (((-exponent - 1).toNat + 17 : Nat) : Int) =
        exponent - 16 := by
      change (0 : Int) - _ = _
      omega
    rwa [place]

theorem strtod_plain (atLeast : 0 ≤ exponent) (below : exponent < 17) :
    strtod (signText number.negative ++
      withFraction ((Nat.toDigits 10 significand).take (exponent.toNat + 1))
        ((Nat.toDigits 10 significand).drop (exponent.toNat + 1))) = (some number, []) := by
  have read := @strtod_near number ((Nat.toDigits 10 significand).take (exponent.toNat + 1))
    ((Nat.toDigits 10 significand).drop (exponent.toNat + 1)) [] (by simp [Nat.toDigits_ne_nil])
    (fun c member => to_digits_is_digit (List.mem_of_mem_take member))
    (fun c member => to_digits_is_digit (List.mem_of_mem_drop member)) (by simp) ?_
  · rwa [List.append_nil] at read
  · rw [List.take_append_drop, Nat.ofDigitChars_ten_toDigits, List.length_drop, length]
    have place : (exponentPart []).1 - ((17 - (exponent.toNat + 1) : Nat) : Int) =
        exponent - 16 := by
      change (0 : Int) - _ = _
      omega
    rwa [place]

end Seventeen

theorem strtod_format_general {number : Double} (positive : 0 < size number) :
    strtod (formatGeneral number) = (some number, []) := by
  have near := significand_near positive
  have denominator : 0 < (magnitude number).2 := Nat.two_pow_pos _
  have numerator : 0 < (magnitude number).1 := by
    rw [size_eq_ratio, div_pos_iff_of_pos_right (by exact_mod_cast denominator)] at positive
    exact_mod_cast positive
  obtain ⟨atLeast, below, -⟩ := significand_spec numerator denominator
  have length := length_seventeen atLeast below
  unfold formatGeneral
  generalize significand17 (magnitude number).1 (magnitude number).2 = spelled at near length ⊢
  obtain ⟨significand, exponent⟩ := spelled
  have sign : (if number.negative then ['-'] else []) = signText number.negative := rfl
  dsimp only at near length ⊢
  rw [sign]
  by_cases scientific : exponent < -4 ∨ 17 ≤ exponent
  · rw [if_pos scientific]
    simpa using strtod_scientific length near
  rw [if_neg scientific]
  by_cases small : exponent < 0
  · rw [if_pos small]
    exact strtod_small length near small
  · rw [if_neg small]
    exact strtod_plain length near (by omega) (by omega)

/-- A number is read back from the text it is written as. -/
theorem strtod_format_number (number : Double) : strtod (formatNumber number) = (some number, []) := by
  unfold formatNumber
  split_ifs with integer
  · exact strtod_format_integer integer.2
  · apply strtod_format_general
    rw [(size_nonneg number).lt_iff_ne']
    intro none
    apply integer
    rw [eq_zero_of_size none]
    simp only [truncatedMagnitude, isIntegral, magnitude, DoubleRounding.zero, Nat.zero_mul,
      Nat.zero_div, Nat.zero_mod, decide_true, and_true]
    decide

/-! ## The start of a number -/

def StartsWithDigits (text : List Char) : Prop :=
  ∃ negative first rest, text = signText negative ++ first :: rest ∧ first.isDigit = true

theorem starts_with_fraction {negative : Bool} {whole fraction tail : List Char}
    (nonempty : whole ≠ []) (wholeDigits : ∀ c ∈ whole, c.isDigit = true) :
    StartsWithDigits (signText negative ++ (withFraction whole fraction ++ tail)) := by
  obtain ⟨first, others, rfl⟩ := List.exists_cons_of_ne_nil nonempty
  have digit := wholeDigits first (by simp)
  unfold withFraction
  split
  case h_1 => exact ⟨negative, first, _, rfl, digit⟩
  case h_2 => exact ⟨negative, first, _, rfl, digit⟩

theorem starts_format_general (number : Double) : StartsWithDigits (formatGeneral number) := by
  have sign : (if number.negative then ['-'] else []) = signText number.negative := rfl
  unfold formatGeneral
  generalize significand17 (magnitude number).1 (magnitude number).2 = spelled
  obtain ⟨significand, exponent⟩ := spelled
  dsimp only
  rw [sign]
  have taken {count : Nat} {tail : List Char} : StartsWithDigits (signText number.negative ++
      (withFraction ((Nat.toDigits 10 significand).take (count + 1))
        ((Nat.toDigits 10 significand).drop (count + 1)) ++ tail)) :=
    starts_with_fraction (by simp [Nat.toDigits_ne_nil])
      fun c member => to_digits_is_digit (List.mem_of_mem_take member)
  split
  case isTrue => simpa using @taken 0 _
  case isFalse =>
    split
    case isTrue =>
      rw [← List.append_nil (withFraction _ _)]
      exact starts_with_fraction (List.cons_ne_nil _ _) (by simp)
    case isFalse =>
      rw [← List.append_nil (withFraction _ _)]
      exact taken

theorem format_number_cons (number : Double) :
    ∃ first rest, formatNumber number = first :: rest ∧ first ∈ '-' :: decimalDigits := by
  have starts : StartsWithDigits (formatNumber number) := by
    unfold formatNumber
    split
    case isTrue =>
      obtain ⟨first, others, spelled⟩ := List.exists_cons_of_ne_nil
        (@Nat.toDigits_ne_nil (truncatedMagnitude number) 10)
      refine ⟨number.negative, first, others, ?_, to_digits_is_digit (by rw [spelled]; simp)⟩
      rw [formatInteger, spelled]
      rfl
    case isFalse => exact starts_format_general number
  obtain ⟨negative, first, rest, split, digit⟩ := starts
  cases negative with
  | true => exact ⟨'-', first :: rest, split, List.mem_cons_self⟩
  | false => exact ⟨first, rest, split, List.mem_cons_of_mem '-' (mem_decimal_digits digit)⟩

end PyWebRTC.PicojsonNumber
