import Mathlib.Data.Nat.Log
import Mathlib.Tactic.Linarith
import Mathlib.Tactic.Ring
import Mathlib.Tactic.SplitIfs

/-!
Finite binary64 numbers and correct rounding of ratios to them. A number is a
sign, a mantissa below 2^53 and an exponent; the mantissa has its leading bit
unless the exponent is the least one, so each number has one form. Rounding is
to nearest, ties to the even mantissa, and fails where it would be infinite.
-/

namespace PyWebRTC.DoubleRounding

set_option autoImplicit false

/-- `±mantissa * 2 ^ exponent`. -/
structure Double where
  negative : Bool
  mantissa : Nat
  exponent : Int
  mantissa_lt : mantissa < 2 ^ 53
  exponent_ge : -1074 ≤ exponent
  exponent_le : exponent ≤ 971
  normalized : mantissa < 2 ^ 52 → exponent = -1074
  deriving DecidableEq

def zero (negative : Bool) : Double where
  negative := negative
  mantissa := 0
  exponent := -1074
  mantissa_lt := by decide
  exponent_ge := by decide
  exponent_le := by decide
  normalized := fun _ => rfl

/-- Numerator and denominator of `p / (q * 2 ^ exponent)`. -/
def scaled (p q : Nat) (exponent : Int) : Nat × Nat :=
  (p * 2 ^ (-exponent).toNat, q * 2 ^ exponent.toNat)

/-- The exponent of the leading binary digit of `p / q`, guessed from the bit
lengths and corrected downward by at most one. -/
def leadingExponent (p q : Nat) : Int :=
  let guess : Int := (p.log2 : Int) - q.log2
  if (scaled p q guess).2 ≤ (scaled p q guess).1 then guess else guess - 1

def divideHalfEven (numerator denominator : Nat) : Nat :=
  let quotient := numerator / denominator
  let twice := 2 * (numerator % denominator)
  if twice < denominator ∨ (twice = denominator ∧ quotient % 2 = 0) then quotient
  else quotient + 1

def ofParts (negative : Bool) (mantissa : Nat) (exponent : Int) : Option Double :=
  if fits : mantissa < 2 ^ 53 ∧ -1074 ≤ exponent ∧ exponent ≤ 971 ∧
      (mantissa < 2 ^ 52 → exponent = -1074) then
    some ⟨negative, mantissa, exponent, fits.1, fits.2.1, fits.2.2.1, fits.2.2.2⟩
  else none

def roundingExponent (p q : Nat) : Int := max (-1074) (leadingExponent p q - 52)

def roundedMantissa (p q : Nat) : Nat :=
  divideHalfEven (scaled p q (roundingExponent p q)).1 (scaled p q (roundingExponent p q)).2

/-- `±p / q`, rounded; `none` stands for an infinite result. -/
def roundRatio (negative : Bool) (p q : Nat) : Option Double :=
  if p = 0 then some (zero negative)
  else if roundedMantissa p q = 2 ^ 53 then
    ofParts negative (2 ^ 52) (roundingExponent p q + 1)
  else ofParts negative (roundedMantissa p q) (roundingExponent p q)

def magnitude (number : Double) : Nat × Nat :=
  (number.mantissa * 2 ^ number.exponent.toNat, 2 ^ (-number.exponent).toNat)

def isIntegral (number : Double) : Bool := (magnitude number).1 % (magnitude number).2 = 0

def truncatedMagnitude (number : Double) : Nat := (magnitude number).1 / (magnitude number).2

def truncate (number : Double) : Int :=
  if number.negative then -(truncatedMagnitude number : Int) else truncatedMagnitude number

theorem divide_half_even_one (numerator : Nat) : divideHalfEven numerator 1 = numerator := by
  simp [divideHalfEven, Nat.mod_one]

theorem scaled_leading_exponent {p q : Nat} (pPositive : 0 < p) (qPositive : 0 < q) :
    (scaled p q (leadingExponent p q)).2 ≤ (scaled p q (leadingExponent p q)).1 ∧
      (scaled p q (leadingExponent p q)).1 < 2 * (scaled p q (leadingExponent p q)).2 := by
  have pLow : 2 ^ p.log2 ≤ p := Nat.log2_self_le pPositive.ne'
  have pHigh : p < 2 ^ (p.log2 + 1) := Nat.lt_log2_self
  have qLow : 2 ^ q.log2 ≤ q := Nat.log2_self_le qPositive.ne'
  have qHigh : q < 2 ^ (q.log2 + 1) := Nat.lt_log2_self
  rcases Nat.le_total q.log2 p.log2 with order | order
  · obtain ⟨d, log⟩ := Nat.exists_eq_add_of_le order
    have width : 0 < 2 ^ d := Nat.two_pow_pos d
    have upper : q * 2 ^ d < 2 * p := by
      rw [log, pow_add] at pLow
      rw [pow_succ] at qHigh
      nlinarith
    have lower : p < 2 * (q * 2 ^ d) := by
      rw [log, Nat.add_right_comm, pow_add, pow_succ] at pHigh
      nlinarith
    have guess : (p.log2 : Int) - q.log2 = d := by omega
    unfold leadingExponent
    rw [guess]
    dsimp only
    split_ifs with fits
    · refine ⟨fits, ?_⟩
      simpa [scaled] using lower
    · simp only [scaled, Int.toNat_neg_natCast, pow_zero, Nat.mul_one, Int.toNat_natCast,
        not_le] at fits
      cases d with
      | zero =>
          rw [pow_zero, Nat.mul_one] at upper fits
          simp [scaled]
          omega
      | succ d =>
          have exponent : ((d + 1 : Nat) : Int) - 1 = d := by omega
          rw [exponent]
          simp only [scaled, Int.toNat_neg_natCast, pow_zero, Nat.mul_one, Int.toNat_natCast]
          rw [pow_succ, ← Nat.mul_assoc] at upper fits
          omega
  · obtain ⟨d, log⟩ := Nat.exists_eq_add_of_le order
    have width : 0 < 2 ^ d := Nat.two_pow_pos d
    have upper : q < 2 * (p * 2 ^ d) := by
      rw [log, Nat.add_right_comm, pow_add, pow_succ] at qHigh
      nlinarith
    have lower : p * 2 ^ d < 2 * q := by
      rw [log, pow_add] at qLow
      rw [pow_succ] at pHigh
      nlinarith
    have guess : (p.log2 : Int) - q.log2 = -(d : Int) := by omega
    unfold leadingExponent
    rw [guess]
    dsimp only
    split_ifs with fits
    · refine ⟨fits, ?_⟩
      simpa [scaled] using lower
    · have exponent : -(d : Int) - 1 = -((d + 1 : Nat) : Int) := by omega
      rw [exponent]
      simp only [scaled, Int.neg_neg, Int.toNat_natCast, Int.toNat_neg_natCast, pow_zero,
        Nat.mul_one, not_le] at fits ⊢
      rw [pow_succ, ← Nat.mul_assoc]
      omega

theorem scaled_lt_of_le {p q factor lift slack : Nat} {exponent target : Int}
    (bounded : (scaled p q exponent).1 < factor * (scaled p q exponent).2)
    (close : exponent + lift ≤ target + slack) :
    2 ^ lift * (scaled p q target).1 < factor * 2 ^ slack * (scaled p q target).2 := by
  simp only [scaled] at bounded ⊢
  have exponents : exponent.toNat + (-target).toNat + lift ≤
      (-exponent).toNat + target.toNat + slack := by omega
  have powers : 2 ^ exponent.toNat * 2 ^ (-target).toNat * 2 ^ lift ≤
      2 ^ (-exponent).toNat * 2 ^ target.toNat * 2 ^ slack := by
    simpa only [← pow_add] using Nat.pow_le_pow_right (by decide) exponents
  have cancelled : 2 ^ (-exponent).toNat * (2 ^ lift * (p * 2 ^ (-target).toNat)) <
      2 ^ (-exponent).toNat * (factor * 2 ^ slack * (q * 2 ^ target.toNat)) := by
    calc
      _ = p * 2 ^ (-exponent).toNat * (2 ^ (-target).toNat * 2 ^ lift) := by ring
      _ < factor * (q * 2 ^ exponent.toNat) * (2 ^ (-target).toNat * 2 ^ lift) :=
        Nat.mul_lt_mul_of_pos_right bounded
          (Nat.mul_pos (Nat.two_pow_pos _) (Nat.two_pow_pos _))
      _ = factor * q * (2 ^ exponent.toNat * 2 ^ (-target).toNat * 2 ^ lift) := by ring
      _ ≤ factor * q * (2 ^ (-exponent).toNat * 2 ^ target.toNat * 2 ^ slack) :=
        Nat.mul_le_mul_left _ powers
      _ = _ := by ring
  exact Nat.lt_of_mul_lt_mul_left cancelled

theorem rounded_mantissa_le {p q : Nat} (pPositive : 0 < p) (qPositive : 0 < q) :
    roundedMantissa p q ≤ 2 ^ 53 := by
  have leading := (scaled_leading_exponent pPositive qPositive).2
  have close : leadingExponent p q + (0 : Nat) ≤ roundingExponent p q + (52 : Nat) := by
    unfold roundingExponent
    omega
  have bounded := scaled_lt_of_le leading close
  have quotient : (scaled p q (roundingExponent p q)).1 / (scaled p q (roundingExponent p q)).2 <
      2 ^ 53 := by
    apply Nat.div_lt_of_lt_mul
    rw [Nat.mul_comm]
    simpa only [← pow_succ', pow_zero, Nat.one_mul] using bounded
  unfold roundedMantissa divideHalfEven
  dsimp only
  split_ifs <;> omega

/-- Above the least exponent the mantissa has its leading bit. -/
theorem le_rounded_mantissa {p q : Nat} (pPositive : 0 < p) (qPositive : 0 < q)
    (normal : roundingExponent p q ≠ -1074) : 2 ^ 52 ≤ roundedMantissa p q := by
  have leading := (scaled_leading_exponent pPositive qPositive).1
  have close : roundingExponent p q + (52 : Nat) ≤ leadingExponent p q + (0 : Nat) := by
    unfold roundingExponent at normal ⊢
    omega
  have unbounded : ¬(scaled p q (roundingExponent p q)).1 <
      2 ^ 52 * (scaled p q (roundingExponent p q)).2 := by
    intro bounded
    have small := scaled_lt_of_le bounded close
    omega
  have positive : 0 < (scaled p q (roundingExponent p q)).2 :=
    Nat.mul_pos qPositive (Nat.two_pow_pos _)
  have quotient := (Nat.le_div_iff_mul_le positive).mpr (Nat.le_of_not_lt unbounded)
  unfold roundedMantissa divideHalfEven
  dsimp only
  split_ifs <;> omega

/-- Rounding fails by overflow of the exponent and in no other way. -/
theorem round_ratio_none_iff {p q : Nat} (pPositive : 0 < p) (qPositive : 0 < q)
    (negative : Bool) :
    roundRatio negative p q = none ↔
      971 < roundingExponent p q + if roundedMantissa p q = 2 ^ 53 then 1 else 0 := by
  have least : -1074 ≤ roundingExponent p q := le_max_left _ _
  have upper := rounded_mantissa_le pPositive qPositive
  have lower := le_rounded_mantissa pPositive qPositive
  unfold roundRatio
  rw [if_neg pPositive.ne']
  split_ifs with carry <;> simp only [ofParts, dite_eq_right_iff, reduceCtorEq, imp_false] <;> omega

/-! ## Naturals below 2^53 are exact -/

theorem leading_exponent_natural {n : Nat} (positive : 0 < n) :
    leadingExponent n 1 = n.log2 := by
  have low : 2 ^ n.log2 ≤ n := Nat.log2_self_le positive.ne'
  have one : Nat.log2 1 = 0 := by decide
  simp [leadingExponent, scaled, one, low]

theorem round_natural (negative : Bool) {n : Nat} (bounded : n < 2 ^ 53) :
    ∃ number, roundRatio negative n 1 = some number ∧ number.negative = negative ∧
      truncatedMagnitude number = n ∧ isIntegral number = true := by
  rcases Nat.eq_zero_or_pos n with rfl | positive
  · exact ⟨zero negative, rfl, rfl,
      by simp only [truncatedMagnitude, magnitude, zero, Nat.zero_mul, Nat.zero_div],
      by simp only [isIntegral, magnitude, zero, Nat.zero_mul, Nat.zero_mod, decide_true]⟩
  have low : 2 ^ n.log2 ≤ n := Nat.log2_self_le positive.ne'
  have high : n < 2 ^ (n.log2 + 1) := Nat.lt_log2_self
  have small : n.log2 ≤ 52 := by
    have := (Nat.log2_lt positive.ne').mpr bounded
    omega
  obtain ⟨shift, total⟩ := Nat.exists_eq_add_of_le small
  have exponent : roundingExponent n 1 = -(shift : Int) := by
    rw [roundingExponent, leading_exponent_natural positive]
    omega
  have mantissa : roundedMantissa n 1 = n * 2 ^ shift := by
    simp [roundedMantissa, exponent, scaled, divide_half_even_one]
  have mantissaLow : 2 ^ 52 ≤ n * 2 ^ shift := by
    rw [total, pow_add]
    exact Nat.mul_le_mul_right _ low
  have mantissaHigh : n * 2 ^ shift < 2 ^ 53 := by
    calc
      n * 2 ^ shift < 2 ^ (n.log2 + 1) * 2 ^ shift :=
        Nat.mul_lt_mul_of_pos_right high (Nat.two_pow_pos _)
      _ = 2 ^ 53 := by rw [← pow_add]; congr 1; omega
  have fits : n * 2 ^ shift < 2 ^ 53 ∧ -1074 ≤ -(shift : Int) ∧ -(shift : Int) ≤ 971 ∧
      (n * 2 ^ shift < 2 ^ 52 → -(shift : Int) = -1074) := by omega
  refine ⟨⟨negative, n * 2 ^ shift, -(shift : Int), fits.1, fits.2.1, fits.2.2.1, fits.2.2.2⟩,
    ?_, rfl, ?_, ?_⟩
  · unfold roundRatio
    rw [if_neg positive.ne', if_neg (by omega), mantissa, exponent, ofParts, dif_pos fits]
  · simp [truncatedMagnitude, magnitude]
  · simp [isIntegral, magnitude]

/-! ## Conversions between `int` and `double` -/

abbrev CInt := { value : Int // -2 ^ 31 ≤ value ∧ value < 2 ^ 31 }

theorem round_int (n : CInt) :
    ∃ number, roundRatio (decide (n.val < 0)) n.val.natAbs 1 = some number ∧
      truncate number = n.val ∧ isIntegral number = true ∧
      number.negative = decide (n.val < 0) := by
  have bounds := n.property
  obtain ⟨number, rounded, sign, magnitude, integral⟩ :=
    round_natural (decide (n.val < 0)) (show n.val.natAbs < 2 ^ 53 by omega)
  refine ⟨number, rounded, ?_, integral, sign⟩
  rw [truncate, sign, magnitude]
  split_ifs with below
  · have below := of_decide_eq_true below
    omega
  · have above : ¬n.val < 0 := fun negative => below (decide_eq_true negative)
    omega

def CInt.toDouble (n : CInt) : Double :=
  (roundRatio (decide (n.val < 0)) n.val.natAbs 1).get (by
    obtain ⟨number, rounded, -⟩ := round_int n
    simp [rounded])

theorem round_to_double (n : CInt) :
    roundRatio (decide (n.val < 0)) n.val.natAbs 1 = some n.toDouble := by
  simp [CInt.toDouble]

theorem to_double_spec (n : CInt) :
    truncate n.toDouble = n.val ∧ isIntegral n.toDouble = true ∧
      n.toDouble.negative = decide (n.val < 0) := by
  obtain ⟨number, rounded, spec⟩ := round_int n
  have same := (round_to_double n).symm.trans rounded
  rwa [Option.some.inj same]

/-- `static_cast<int>` of a `double`; undefined where the integer part is no
`int`. -/
def CInt.ofDouble (number : Double) : Option CInt :=
  if fits : -2 ^ 31 ≤ truncate number ∧ truncate number < 2 ^ 31 then
    some ⟨truncate number, fits⟩
  else none

theorem of_double_to_double (n : CInt) : CInt.ofDouble n.toDouble = some n := by
  simp only [CInt.ofDouble, (to_double_spec n).1]
  rw [dif_pos n.property]

end PyWebRTC.DoubleRounding
