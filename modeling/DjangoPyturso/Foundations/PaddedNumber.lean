/-
Module: DjangoPyturso.Foundations.PaddedNumber
Layer: Foundations
Purpose: Numbers written with a fixed count of decimal digits. In the order of code points such numbers stand in the
  order of their values, and fields of the same length are compared one after another.
Imports: Mathlib (powers, lists)
Trusted boundary: none
Main exports: padded, ofDigitChars_padded, Sooner, sooner_append, sooner_padded
Open obligations: none
-/
import Mathlib.Algebra.Group.Nat.Defs
import Mathlib.Data.List.Lex
import Mathlib.Tactic.Common

namespace PaddedNumber

/-! ### Digits -/

/-- The last `width` decimal digits of a number. -/
def padded : Nat → Nat → List Char
  | 0, _ => []
  | width + 1, n => padded width (n / 10) ++ [Nat.digitChar (n % 10)]

@[simp] theorem length_padded (width n : Nat) : (padded width n).length = width := by
  induction width generalizing n with
  | zero => rfl
  | succ width ih => rw [padded, List.length_append, ih, List.length_singleton]

theorem isDigit_of_mem_padded {width n : Nat} {c : Char} (mem : c ∈ padded width n) : c.isDigit = true := by
  induction width generalizing n with
  | zero => cases mem
  | succ width ih =>
      rcases List.mem_append.mp mem with front | last
      · exact ih front
      · rw [List.mem_singleton.mp last, Nat.isDigit_digitChar]
        exact decide_eq_true (Nat.mod_lt _ (by decide))

/-- The digits spell the number. -/
theorem ofDigitChars_padded {width n : Nat} (fits : n < 10 ^ width) : Nat.ofDigitChars 10 (padded width n) 0 = n := by
  induction width generalizing n with
  | zero =>
      rw [Nat.pow_zero, Nat.lt_one_iff] at fits
      rw [fits]
      rfl
  | succ width ih =>
      have front : n / 10 < 10 ^ width := Nat.div_lt_of_lt_mul (by rwa [Nat.pow_succ'] at fits)
      have digit := Nat.toNat_digitChar_of_lt_ten (Nat.mod_lt n (show 0 < 10 by decide))
      rw [padded, Nat.ofDigitChars_append, ih front, Nat.ofDigitChars_cons, Nat.ofDigitChars_nil, digit]
      have zero : '0'.toNat = 48 := rfl
      omega

/-- Numbers that fit into a field are told apart by their digits. -/
theorem padded_inj {width m n : Nat} (first : m < 10 ^ width) (second : n < 10 ^ width) :
    padded width m = padded width n ↔ m = n := by
  constructor
  · intro same
    rw [← ofDigitChars_padded first, ← ofDigitChars_padded second, same]
  · rintro rfl
    rfl

/-! ### Order -/

/-- One text stands before another in the order of code points. -/
def Sooner (s t : List Char) : Prop := List.Lex (fun a b => a.toNat < b.toNat) s t

theorem not_sooner_self (s : List Char) : ¬Sooner s s := List.lex_irrefl (fun c => Nat.lt_irrefl c.toNat) s

/-- Texts are compared by their first characters, and by what follows only where these are the same. -/
theorem sooner_cons {a b : Char} {s t : List Char} :
    Sooner (a :: s) (b :: t) ↔ a.toNat < b.toNat ∨ a = b ∧ Sooner s t :=
  List.cons_lex_cons_iff

/-- The empty text comes before every other. -/
theorem nil_sooner {t : List Char} : Sooner [] t ↔ t ≠ [] := by
  cases t with
  | nil => simp [not_sooner_self]
  | cons c t => exact ⟨fun _ => List.cons_ne_nil _ _, fun _ => .nil⟩

theorem not_sooner_nil {s : List Char} : ¬Sooner s [] := List.not_lex_nil

/-- Of texts that start with fields of one length, the fields are compared first. -/
theorem sooner_append {a b : List Char} (same : a.length = b.length) (s t : List Char) :
    Sooner (a ++ s) (b ++ t) ↔ Sooner a b ∨ a = b ∧ Sooner s t := by
  induction a generalizing b with
  | nil =>
      obtain rfl := List.eq_nil_of_length_eq_zero same.symm
      simp [not_sooner_self]
  | cons c a ih =>
      cases b with
      | nil => cases same
      | cons d b =>
          rw [List.cons_append, List.cons_append, sooner_cons, sooner_cons, ih (Nat.succ.inj same), List.cons.injEq]
          tauto

/-- Digits are ordered as the numbers they stand for. -/
theorem sooner_digit {m n : Nat} (first : m < 10) (second : n < 10) :
    Sooner [Nat.digitChar m] [Nat.digitChar n] ↔ m < n := by
  rw [sooner_cons, Nat.toNat_digitChar_of_lt_ten first, Nat.toNat_digitChar_of_lt_ten second]
  simp [not_sooner_self]

/-- Numbers with the same count of digits stand in the order of their values. -/
theorem sooner_padded {width m n : Nat} (first : m < 10 ^ width) (second : n < 10 ^ width) :
    Sooner (padded width m) (padded width n) ↔ m < n := by
  induction width generalizing m n with
  | zero =>
      rw [Nat.pow_zero, Nat.lt_one_iff] at first second
      rw [first, second]
      simp [padded, not_sooner_self]
  | succ width ih =>
      have front : m / 10 < 10 ^ width := Nat.div_lt_of_lt_mul (by rwa [Nat.pow_succ'] at first)
      have front' : n / 10 < 10 ^ width := Nat.div_lt_of_lt_mul (by rwa [Nat.pow_succ'] at second)
      have digit := Nat.mod_lt m (show 0 < 10 by decide)
      have digit' := Nat.mod_lt n (show 0 < 10 by decide)
      rw [padded, padded, sooner_append (by simp), ih front front', padded_inj front front', sooner_digit digit digit']
      omega

end PaddedNumber
