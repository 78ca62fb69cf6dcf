/-
Module: DjangoPyturso.Foundations.BinaryFloat
Layer: Foundations
Purpose: Binary floating-point formats by their exact values: the numbers of a format, a number nearest to a rational,
  how close it is in the normal range, and the ratio in lowest terms a number stands for.
Imports: Mathlib (rational numbers, integer logarithm, rounding)
Trusted boundary: none
Main exports: Format, Number, Nearest, nearest_close, nearest_zero, Number.ratio, ratio_power
Open obligations: none
-/
import Mathlib.Data.Int.Log
import Mathlib.Algebra.Order.Round
import Mathlib.Algebra.Order.Archimedean.Basic
import Mathlib.Data.Rat.Floor
import Mathlib.Data.Rat.Lemmas
import Mathlib.Data.Nat.Prime.Basic
import Mathlib.Tactic.Linarith
import Mathlib.Tactic.Positivity
import Mathlib.Tactic.Ring
import Mathlib.Tactic.NormNum

namespace BinaryFloat

/-- A format: the binary digits of a mantissa and the range of the exponent. -/
structure Format where
  precision : Nat
  least : Int
  greatest : Int
  precise : 0 < precision
  ordered : least ≤ greatest
deriving DecidableEq, Repr

/-- A finite number of the format. Zero has a sign. -/
structure Number (f : Format) where
  negative : Bool
  mantissa : Nat
  exponent : Int
  digits : mantissa < 2 ^ f.precision
  low : f.least ≤ exponent
  high : exponent ≤ f.greatest
deriving DecidableEq, Repr

variable {f : Format}

/-- The absolute value. -/
def Number.magnitude (r : Number f) : Rat := r.mantissa * 2 ^ r.exponent

/-- The exact value. -/
def Number.value (r : Number f) : Rat := if r.negative then -r.magnitude else r.magnitude

/-- No number of the format is closer to `x`. -/
def Nearest (x : Rat) (r : Number f) : Prop := ∀ other : Number f, |r.value - x| ≤ |other.value - x|

/-! ### How close the nearest number is -/

/-- Zero, in the format. -/
def Number.zero (f : Format) : Number f where
  negative := false
  mantissa := 0
  exponent := f.least
  digits := Nat.two_pow_pos _
  low := le_refl _
  high := f.ordered

/-- The number of a format nearest to zero is zero, of either sign. -/
theorem nearest_zero {r : Number f} (nearest : Nearest 0 r) : r.value = 0 := by
  have close := nearest (.zero f)
  simpa [Number.value, Number.zero, Number.magnitude] using close

/-- A whole number of at most `2 ^ precision` units is a number of the format, if there is room for the carry. -/
theorem number_of_units (negative : Bool) {m : Nat} {q : Int} (few : m ≤ 2 ^ f.precision) (low : f.least ≤ q)
    (high : q + 1 ≤ f.greatest) :
    ∃ r : Number f, r.negative = negative ∧ r.magnitude = m * 2 ^ q := by
  rcases Nat.lt_or_eq_of_le few with fewer | rfl
  · exact ⟨⟨negative, m, q, fewer, low, by omega⟩, rfl, rfl⟩
  · have half : 2 ^ (f.precision - 1) < 2 ^ f.precision := Nat.pow_lt_pow_right (by decide) (by have := f.precise; omega)
    refine ⟨⟨negative, 2 ^ (f.precision - 1), q + 1, half, by omega, high⟩, rfl, ?_⟩
    have precise : f.precision = f.precision - 1 + 1 := by
      have := f.precise
      omega
    unfold Number.magnitude
    dsimp only
    rw [zpow_add_one₀ (by norm_num)]
    nth_rewrite 2 [precise]
    push_cast
    ring

/-- A positive rational in the normal range has a number of the format within half a unit. -/
theorem exists_close (negative : Bool) {a : Rat} (low : 2 ^ (f.least + f.precision - 1) ≤ a)
    (high : a < 2 ^ (f.greatest + f.precision - 1)) :
    ∃ r : Number f, r.negative = negative ∧ |r.magnitude - a| * 2 ^ f.precision ≤ a := by
  have pos : 0 < a := lt_of_lt_of_le (zpow_pos (by norm_num) _) low
  have floor : (2 : Rat) ^ Int.log 2 a ≤ a := Int.zpow_log_le_self (by decide) pos
  have ceiling : a < (2 : Rat) ^ (Int.log 2 a + 1) := Int.lt_zpow_succ_log_self (by decide) a
  have enough : f.least + f.precision - 1 < Int.log 2 a + 1 :=
    (zpow_lt_zpow_iff_right₀ (by norm_num : (1 : Rat) < 2)).mp (lt_of_le_of_lt low ceiling)
  have bounded : Int.log 2 a < f.greatest + f.precision - 1 :=
    (zpow_lt_zpow_iff_right₀ (by norm_num : (1 : Rat) < 2)).mp (lt_of_le_of_lt floor high)
  generalize Int.log 2 a = e at floor ceiling enough bounded
  obtain ⟨q, unit⟩ : ∃ q, q + f.precision = e + 1 := ⟨e + 1 - f.precision, by omega⟩
  have scale : (0 : Rat) < 2 ^ q := zpow_pos (by norm_num) q
  have grown : (2 : Rat) ^ q * 2 ^ f.precision = 2 * 2 ^ e := by
    rw [← zpow_natCast, ← zpow_add₀ (by norm_num), unit, zpow_add_one₀ (by norm_num), mul_comm]
  have units : a / 2 ^ q * 2 ^ q = a := div_mul_cancel₀ _ scale.ne'
  have few : a / 2 ^ q < 2 ^ f.precision := by
    rw [div_lt_iff₀ scale, mul_comm, grown, mul_comm, ← zpow_add_one₀ (by norm_num)]
    exact ceiling
  obtain ⟨far, near⟩ := abs_le.mp (abs_sub_round (a / 2 ^ q))
  have sign : 0 < a / 2 ^ q := div_pos pos scale
  have whole : 0 ≤ round (a / (2 : Rat) ^ q) := by
    by_contra below
    have : (round (a / (2 : Rat) ^ q) : Rat) ≤ -1 := by exact_mod_cast Int.le_sub_one_of_lt (Int.lt_of_not_ge below)
    linarith
  obtain ⟨m, rounds⟩ := Int.eq_ofNat_of_zero_le whole
  rw [rounds, Int.cast_natCast] at far near
  have most : m ≤ 2 ^ f.precision := by
    by_contra more
    have : (2 : Rat) ^ f.precision + 1 ≤ m := by exact_mod_cast Nat.lt_of_not_le more
    linarith
  obtain ⟨r, same, magnitude⟩ := number_of_units negative most (by omega : f.least ≤ q) (by omega)
  refine ⟨r, same, ?_⟩
  have error : |(m : Rat) * 2 ^ q - a| ≤ 1 / 2 * 2 ^ q := by
    rw [abs_le]
    constructor <;> nlinarith
  calc |r.magnitude - a| * 2 ^ f.precision
      = |(m : Rat) * 2 ^ q - a| * 2 ^ f.precision := by rw [magnitude]
    _ ≤ 1 / 2 * 2 ^ q * 2 ^ f.precision := mul_le_mul_of_nonneg_right error (by positivity)
    _ = 2 ^ e := by
        rw [mul_assoc, grown]
        ring
    _ ≤ a := floor

/-- In the normal range, the relative error of a nearest number is at most that of the mantissa's last digit, halved. -/
theorem nearest_close {x : Rat} {r : Number f} (nearest : Nearest x r)
    (low : 2 ^ (f.least + f.precision - 1) ≤ |x|) (high : |x| < 2 ^ (f.greatest + f.precision - 1)) :
    |r.value - x| * 2 ^ f.precision ≤ |x| := by
  obtain ⟨other, sign, close⟩ := exists_close (decide (x < 0)) low high
  have apart : |other.value - x| = |other.magnitude - (|x|)| := by
    unfold Number.value
    rw [sign]
    by_cases negative : x < 0
    · rw [decide_eq_true negative, if_pos rfl, abs_of_neg negative, ← abs_neg]
      congr 1
      ring
    · rw [decide_eq_false negative, if_neg Bool.false_ne_true, abs_of_nonneg (le_of_not_gt negative)]
  calc |r.value - x| * 2 ^ f.precision
      ≤ |other.value - x| * 2 ^ f.precision := mul_le_mul_of_nonneg_right (nearest other) (by positivity)
    _ = |other.magnitude - (|x|)| * 2 ^ f.precision := by rw [apart]
    _ ≤ |x| := close

/-! ### The ratio of a number -/

/-- Numerator and denominator of the absolute value, in lowest terms. -/
def Number.ratio (r : Number f) : Nat × Nat := (r.magnitude.num.natAbs, r.magnitude.den)

theorem magnitude_nonneg (r : Number f) : 0 ≤ r.magnitude := by
  exact mul_nonneg (Nat.cast_nonneg _) (zpow_nonneg (by norm_num) _)

/-- The denominator is a power of two. -/
theorem ratio_power (r : Number f) : ∃ k, r.ratio.2 = 2 ^ k := by
  unfold Number.ratio
  suffices divides : ∃ k, r.magnitude.den ∣ 2 ^ k by
    obtain ⟨k, divides⟩ := divides
    obtain ⟨j, -, power⟩ := (Nat.dvd_prime_pow Nat.prime_two).mp divides
    exact ⟨j, power⟩
  unfold Number.magnitude
  rcases Int.le_total 0 r.exponent with up | down
  · obtain ⟨k, power⟩ := Int.eq_ofNat_of_zero_le up
    refine ⟨0, ?_⟩
    have whole : (r.mantissa : Rat) * 2 ^ r.exponent = ((r.mantissa * 2 ^ k : Nat) : Rat) := by
      rw [power]
      push_cast
      rw [zpow_natCast]
    rw [whole, Rat.den_natCast]
    exact Nat.dvd_refl 1
  · obtain ⟨k, power⟩ := Int.eq_ofNat_of_zero_le (Int.neg_nonneg_of_nonpos down)
    refine ⟨k, ?_⟩
    have divided : (r.mantissa : Rat) * 2 ^ r.exponent = Rat.divInt r.mantissa (2 ^ k : Nat) := by
      rw [Rat.divInt_eq_div, ← neg_neg r.exponent, power, zpow_neg, zpow_natCast]
      push_cast
      rfl
    rw [divided]
    exact_mod_cast Rat.den_dvd r.mantissa (2 ^ k : Nat)

/-- The quotient of the two integers is the magnitude, whether the exponent is negative or not. -/
theorem ratio_value (r : Number f) : (r.ratio.1 : Rat) / r.ratio.2 = r.magnitude := by
  have sign : 0 ≤ r.magnitude.num := Rat.num_nonneg.mpr (magnitude_nonneg r)
  unfold Number.ratio
  dsimp only
  rw [← Int.cast_natCast r.magnitude.num.natAbs, Int.natAbs_of_nonneg sign]
  exact Rat.num_div_den r.magnitude

end BinaryFloat
