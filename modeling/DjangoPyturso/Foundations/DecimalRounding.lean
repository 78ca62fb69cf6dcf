/-
Module: DjangoPyturso.Foundations.DecimalRounding
Layer: Foundations
Purpose: Rounding of decimal numbers half to even: to a place, and to a number of significant digits. A number so close
  to one with few digits that the error is less than half of the last digit kept rounds to that one.
Imports: Mathlib (rational numbers, tactics)
Trusted boundary: none
Main exports: halfEven, digitCount, roundDigits, halfEven_of_close, halfEven_mul, roundDigits_close
Open obligations: none
-/
import Mathlib.Data.Rat.Cast.Order
import Mathlib.Algebra.Order.Field.Power
import Mathlib.Tactic.Linarith
import Mathlib.Tactic.Positivity
import Mathlib.Tactic.Ring
import Mathlib.Tactic.FieldSimp

namespace DecimalRounding

/-- `n / d`, rounded half to even. -/
def halfEven (n d : Nat) : Nat :=
  if 2 * (n % d) < d then n / d
  else if d < 2 * (n % d) then n / d + 1
  else if n / d % 2 = 0 then n / d
  else n / d + 1

/-- The number of decimal digits; zero has one. -/
def digitCount (n : Nat) : Nat := (Nat.toDigits 10 n).length

/-- Round `c * 10 ^ e` to at most `p` digits. A carry that adds a digit adds a zero, which goes to the exponent. -/
def roundDigits (p c : Nat) (e : Int) : Nat × Int :=
  let extra := digitCount c - p
  if extra = 0 then (c, e)
  else
    let r := halfEven c (10 ^ extra)
    if p < digitCount r then (r / 10, e + extra + 1) else (r, e + extra)

/-! ### Digits -/

theorem digitCount_le {n k : Nat} (pos : 0 < k) : digitCount n ≤ k ↔ n < 10 ^ k :=
  Nat.length_toDigits_le_iff (by decide) pos

theorem digitCount_pos (n : Nat) : 0 < digitCount n := Nat.length_toDigits_pos

/-- A number lies below the power of ten that has one digit more. -/
theorem lt_pow_digitCount (n : Nat) : n < 10 ^ digitCount n :=
  (digitCount_le (digitCount_pos n)).mp (Nat.le_refl _)

/-- A number with more than `k` digits reaches the power of ten with `k` zeros. -/
theorem pow_le_of_digitCount {n k : Nat} (pos : 0 < k) (many : k < digitCount n) : 10 ^ k ≤ n := by
  by_contra few
  have := (digitCount_le pos).mpr (Nat.lt_of_not_le few)
  omega

/-- A number reaches the power of ten with as many digits. -/
theorem pow_pred_le {n : Nat} (nonzero : n ≠ 0) : 10 ^ (digitCount n - 1) ≤ n := by
  rcases Nat.eq_zero_or_pos (digitCount n - 1) with one | more
  · rw [one]
    omega
  · exact pow_le_of_digitCount more (by omega)

/-! ### To a place -/

/-- Less than half away from `q`, the quotient rounds to `q`. -/
theorem halfEven_of_close {n d q : Nat} (below : 2 * q * d < 2 * n + d) (above : 2 * n < 2 * q * d + d) :
    halfEven n d = q := by
  have pos : 0 < d := by
    rcases Nat.eq_zero_or_pos d with rfl | pos
    · simp at below above
    · exact pos
  have split := Nat.div_add_mod n d
  have small := Nat.mod_lt n pos
  unfold halfEven
  generalize n / d = t at split ⊢
  generalize n % d = r at split small ⊢
  subst split
  -- the quotient is at most one below `q`
  have least : t ≤ q := by
    by_contra more
    have : (q + 1) * d ≤ t * d := Nat.mul_le_mul_right d (by omega)
    nlinarith
  have greatest : q ≤ t + 1 := by
    by_contra more
    have : (t + 2) * d ≤ q * d := Nat.mul_le_mul_right d (by omega)
    nlinarith
  rcases Nat.lt_or_ge t q with less | equal
  · obtain rfl : q = t + 1 := by omega
    have high : d < 2 * r := by nlinarith
    rw [if_neg (by omega), if_pos high]
  · obtain rfl : q = t := by omega
    have low : 2 * r < d := by nlinarith
    rw [if_pos low]

/-- A whole quotient rounds to itself. -/
theorem halfEven_mul {d : Nat} (q : Nat) (pos : 0 < d) : halfEven (q * d) d = q :=
  halfEven_of_close (by nlinarith) (by nlinarith)

/-! ### To a number of digits -/

/-- The same number with a smaller exponent. -/
theorem at_scale (n : Nat) {e s : Int} (low : s ≤ e) :
    (n : Rat) * 10 ^ e = ((n * 10 ^ (e - s).toNat : Nat) : Rat) * 10 ^ s := by
  have split : e = ((e - s).toNat : Int) + s := by omega
  push_cast
  rw [mul_assoc, ← zpow_natCast, ← zpow_add₀ (by norm_num), ← split]

/-- The error at a scale, without the scale. -/
theorem close_at {A M : Rat} {s : Int} {p : Nat}
    (close : |A * 10 ^ s - M * 10 ^ s| * (2 * 10 ^ p) < M * 10 ^ s) : |A - M| * (2 * 10 ^ p) < M := by
  have scale : (0 : Rat) < 10 ^ s := zpow_pos (by norm_num) s
  rw [← sub_mul, abs_mul, abs_of_pos scale, mul_right_comm] at close
  exact lt_of_mul_lt_mul_right close scale.le

/-- A number of at most `p` digits that close to one of at most `p` digits is that one. -/
theorem eq_of_close {p c m : Nat} {e k : Int} (few : c < 10 ^ p) (fewer : m < 10 ^ p)
    (close : |(c : Rat) * 10 ^ e - m * 10 ^ k| * (2 * 10 ^ p) < m * 10 ^ k) :
    (c : Rat) * 10 ^ e = m * 10 ^ k := by
  have few' : (c : Rat) < 10 ^ p := by exact_mod_cast few
  have fewer' : (m : Rat) < 10 ^ p := by exact_mod_cast fewer
  have one : (1 : Rat) ≤ 10 ^ p := one_le_pow₀ (by norm_num)
  rw [at_scale c (min_le_left e k), at_scale m (min_le_right e k)] at close ⊢
  have scaled := close_at close
  have lowest : (min e k = e ∧ c * 10 ^ (e - min e k).toNat = c) ∨
      (min e k = k ∧ m * 10 ^ (k - min e k).toNat = m) := by
    rcases min_choice e k with lower | lower
    · exact .inl ⟨lower, by simp [lower]⟩
    · exact .inr ⟨lower, by simp [lower]⟩
  generalize c * 10 ^ (e - min e k).toNat = A at scaled lowest ⊢
  generalize m * 10 ^ (k - min e k).toNat = M at scaled lowest ⊢
  by_contra differ
  have apart : (1 : Rat) ≤ |(A : Rat) - M| := by
    have unequal : (A : Int) - M ≠ 0 := by
      intro equal
      have : A = M := by omega
      exact differ (by rw [this])
    exact_mod_cast Int.one_le_abs unequal
  have large : (2 * 10 ^ p : Rat) < M := by nlinarith
  rcases lowest with ⟨-, rfl⟩ | ⟨-, rfl⟩
  · have below : (M : Rat) - A ≤ |(A : Rat) - M| := by
      rw [abs_sub_comm]
      exact le_abs_self _
    nlinarith
  · linarith

/-- A number of few digits that close to one of `p` digits before the point has no digit after the point. -/
theorem place_nonneg {p m : Nat} {a : Rat} {j : Int} (fewer : m < 10 ^ p) (large : 10 ^ p ≤ 10 * a)
    (close : |a - m * 10 ^ j| * (2 * 10 ^ p) < m * 10 ^ j) : 0 ≤ j := by
  by_contra negative
  have one : (1 : Rat) ≤ 10 ^ p := one_le_pow₀ (by norm_num)
  have fewer' : (m : Rat) + 1 ≤ 10 ^ p := by exact_mod_cast fewer
  have tenth : (10 : Rat) ^ j ≤ 10 ^ (-1 : Int) := zpow_le_zpow_right₀ (by norm_num) (by omega)
  rw [zpow_neg_one] at tenth
  have low : 10 * ((m : Rat) * 10 ^ j) ≤ 10 ^ p - 1 := by
    have : (0 : Rat) ≤ m := by positivity
    nlinarith
  have gap : a - m * 10 ^ j ≤ |a - m * 10 ^ j| := le_abs_self _
  nlinarith

/-- A whole number that close to one below `10 ^ p` is at most `10 ^ p`, and less than half away. -/
theorem whole_close {p n : Nat} {a : Rat} (small : a < 10 ^ p) (close : |a - n| * (2 * 10 ^ p) < n) :
    n ≤ 10 ^ p ∧ |a - n| < 1 / 2 := by
  have one : (1 : Rat) ≤ 10 ^ p := one_le_pow₀ (by norm_num)
  have gap : (n : Rat) - a ≤ |a - n| := by
    rw [abs_sub_comm]
    exact le_abs_self _
  have bounded : n ≤ 10 ^ p := by
    by_contra more
    have more' : (10 : Rat) ^ p + 1 ≤ n := by exact_mod_cast Nat.lt_of_not_le more
    nlinarith
  refine ⟨bounded, ?_⟩
  have bounded' : (n : Rat) ≤ 10 ^ p := by exact_mod_cast bounded
  nlinarith

/-- A fraction closer than one half to an integer is rounded to it, so that no tie has to be broken. -/
theorem halfEven_of_abs {n d q : Nat} (pos : 0 < d) (close : |(n : Rat) / d - q| < 1 / 2) : halfEven n d = q := by
  have pos' : (0 : Rat) < d := by exact_mod_cast pos
  have whole : (n : Rat) / d * d = n := div_mul_cancel₀ _ pos'.ne'
  obtain ⟨low, high⟩ := abs_lt.mp close
  apply halfEven_of_close
  · have : (2 * q * d : Rat) < 2 * n + d := by nlinarith
    exact_mod_cast this
  · have : (2 * n : Rat) < 2 * q * d + d := by nlinarith
    exact_mod_cast this

/-- Rounding to `p` digits finds the number of at most `p` digits that is closer than half of its last digit. -/
theorem roundDigits_close {p c m : Nat} {e k : Int} (pos : 0 < p) (fewer : m < 10 ^ p)
    (close : |(c : Rat) * 10 ^ e - m * 10 ^ k| * (2 * 10 ^ p) < m * 10 ^ k) :
    ((roundDigits p c e).1 : Rat) * 10 ^ (roundDigits p c e).2 = m * 10 ^ k := by
  unfold roundDigits
  dsimp only
  by_cases short : digitCount c ≤ p
  · rw [if_pos (by omega)]
    exact eq_of_close ((digitCount_le pos).mp short) fewer close
  · rw [if_neg (by omega)]
    obtain ⟨extra, many⟩ : ∃ extra, digitCount c = p + extra := ⟨digitCount c - p, by omega⟩
    have cut : digitCount c - p = extra := by omega
    rw [cut]
    have power : (0 : Rat) < 10 ^ extra := by positivity
    -- the digits that stay, and the other number at their place
    have kept : (c : Rat) * 10 ^ e = c / (10 ^ extra : Nat) * 10 ^ (e + extra) := by
      rw [zpow_add₀ (by norm_num), zpow_natCast]
      push_cast
      field_simp
    have other : (m : Rat) * 10 ^ k = m * 10 ^ (k - (e + extra)) * 10 ^ (e + extra) := by
      rw [mul_assoc, ← zpow_add₀ (by norm_num), sub_add_cancel]
    rw [kept, other] at close
    have scaled := close_at close
    have large : (10 : Rat) ^ p ≤ 10 * (c / (10 ^ extra : Nat)) := by
      have least : (10 : Rat) ^ (p + extra - 1) ≤ c := by
        rw [← many]
        exact_mod_cast pow_pred_le fun zero => by
          rw [zero] at many
          have one : digitCount 0 = 1 := rfl
          omega
      have grown : (10 : Rat) ^ p * 10 ^ extra = 10 * 10 ^ (p + extra - 1) := by
        rw [← pow_add, ← pow_succ']
        congr 1
        omega
      push_cast
      rw [mul_div_assoc', le_div_iff₀ power]
      linarith
    have small : (c : Rat) / (10 ^ extra : Nat) < 10 ^ p := by
      have most : (c : Rat) < 10 ^ (p + extra) := by
        have := lt_pow_digitCount c
        rw [many] at this
        exact_mod_cast this
      push_cast
      rw [div_lt_iff₀ power, ← pow_add]
      exact most
    obtain ⟨j, place⟩ := Int.eq_ofNat_of_zero_le (place_nonneg fewer large scaled)
    rw [place] at scaled
    have whole : (m : Rat) * 10 ^ (j : Int) = ((m * 10 ^ j : Nat) : Rat) := by
      push_cast
      rw [zpow_natCast]
    rw [whole] at scaled
    obtain ⟨bounded, near⟩ := whole_close small scaled
    rw [halfEven_of_abs (by positivity) near, other, place, whole]
    generalize m * 10 ^ j = n at bounded ⊢
    split
    · next carry =>
        have full : n = 10 ^ p := Nat.le_antisymm bounded (pow_le_of_digitCount pos carry)
        have shorter : n / 10 * 10 = n := by
          rw [full]
          exact Nat.div_mul_cancel (dvd_pow_self 10 (by omega))
        have shorter' : ((n / 10 : Nat) : Rat) * 10 = n := by exact_mod_cast shorter
        rw [zpow_add_one₀ (by norm_num), ← shorter']
        ring
    · rfl

end DecimalRounding
