/-
Module: DjangoPyturso.Proofs.DecimalRoundTrip
Layer: Proofs
Purpose: A decimal that was saved is read back. `str` and the constructor of a decimal are inverse, and so is the way
  through a float, for a value of at most fifteen digits.
Imports: DjangoPyturso.Model.DecimalField, DjangoPyturso.Proofs.SchemaDefaults
Trusted boundary: none
Main exports: decimalOfText_strDecimal, createDecimalFromFloat_nearest, quantize_exact, KeptAs, Carried,
  decimal_round_trip
Open obligations: none
-/
import DjangoPyturso.Model.DecimalField
import DjangoPyturso.Proofs.SchemaDefaults
import Mathlib.Tactic.NormNum

namespace DjangoPyturso

open BinaryFloat DecimalRounding SqlText

/-- The number a decimal denotes. -/
def Decimal.number : Decimal → Option Rat
  | .finite negative coefficient exponent => some (signed negative ((coefficient : Rat) * 10 ^ exponent))
  | .infinity _ | .nan _ _ _ => none

/-! ### Through a text -/

/-- The characters of a printed number. -/
def printed (c : Char) : Bool := c.isDigit || c ∈ ['-', '+', '.', 'e', 'E']

theorem printed_plain {c : Char} (ok : printed c = true) : isSpace c = false ∧ c ≠ '_' ∧ asciiDigit c = c := by
  simp only [printed, Bool.or_eq_true, decide_eq_true_eq, List.mem_cons, List.not_mem_nil, or_false] at ok
  rcases ok with digit | rfl | rfl | rfl | rfl | rfl
  · have range : 48 ≤ c.toNat ∧ c.toNat ≤ 57 := by
      simpa [Char.isDigit, UInt32.le_iff_toNat_le] using digit
    have each : ∀ n < 58, 48 ≤ n → isSpaceCode n = false ∧ asciiDigit (Char.ofNat n) = Char.ofNat n := by decide
    obtain ⟨space, same⟩ := each c.toNat (by omega) range.1
    rw [Char.ofNat_toNat] at same
    exact ⟨space, isDigit_ne digit (by decide), same⟩
  all_goals decide

theorem stripNumeral_printed {t : Text} (all : t.all printed = true) : stripNumeral t = t := by
  have plain : ∀ c ∈ t, isSpace c = false ∧ c ≠ '_' ∧ asciiDigit c = c := fun c mem =>
    printed_plain (List.all_eq_true.mp all c mem)
  unfold stripNumeral
  rw [stripSpace_solid fun c mem => (plain c mem).1,
    List.filter_eq_self.mpr fun c mem => decide_eq_true (plain c mem).2.1,
    List.map_congr_left fun c mem => (plain c mem).2.2, List.map_id']

theorem printed_digits {digits : Text} (all : digits.all Char.isDigit = true) : digits.all printed = true := by
  apply List.all_eq_true.mpr
  intro c mem
  simp [printed, List.all_eq_true.mp all c mem]

theorem printed_exponentText (letter : Char) (isLetter : printed letter = true) (exponent : Int) :
    (exponentText letter exponent).all printed = true := by
  unfold exponentText
  rw [List.all_cons, List.all_cons, isLetter, printed_digits (toDigits_all _), Bool.and_true, Bool.true_and]
  split <;> decide

theorem readFinite_parts (negative : Bool) (whole fraction tail : Text) {exponent : Int}
    (nonempty : whole ≠ []) (wholeDigits : whole.all Char.isDigit = true)
    (fractionDigits : fraction.all Char.isDigit = true) (ends : EndsDigits tail)
    (tailExponent : readExponent tail = some exponent) :
    readFinite (signText negative ++ (whole ++ (fractionText fraction ++ tail))) =
      some (.finite negative (natOf (whole ++ fraction)) (exponent - (fraction.length : Int))) := by
  obtain ⟨d, digits, rfl⟩ := List.exists_cons_of_ne_nil nonempty
  have digit : d.isDigit = true := by
    simp only [List.all_cons, Bool.and_eq_true] at wholeDigits
    exact wholeDigits.1
  have parts := takeWhile_digits wholeDigits (endsDigits_fraction fraction ends)
  have sign : readSign (signText negative ++ (d :: digits ++ (fractionText fraction ++ tail))) =
      (negative, d :: digits ++ (fractionText fraction ++ tail)) :=
    readSign_signText negative (isDigit_ne digit rfl) (isDigit_ne digit rfl)
  simp only [readFinite, sign, parts.1, parts.2, readFraction_fractionText fractionDigits ends, tailExponent]
  simp

/-- The digits around the point, where `str` puts it, are the digits of the coefficient. -/
theorem decimalDigits_exact {digits : Text} (nonempty : digits ≠ []) (dotplace exponent : Int)
    (place : dotplace = exponent + digits.length ∧ exponent ≤ 0 ∨ dotplace = 1) :
    natOf ((decimalDigits digits dotplace).1 ++ (decimalDigits digits dotplace).2) = natOf digits ∧
      exponent + digits.length - dotplace - ((decimalDigits digits dotplace).2.length : Int) = exponent := by
  have some : 0 < digits.length := List.length_pos_iff.mpr nonempty
  unfold decimalDigits
  split
  · next left =>
      constructor
      · have zeros := natOf_zeros ((-dotplace).toNat + 1) digits
        rwa [List.replicate_succ] at zeros
      · simp only [List.length_append, List.length_replicate]
        omega
  · split
    · next positive right =>
        have full : (dotplace - digits.length).toNat = 0 := by omega
        constructor
        · simp [full]
        · simp only [List.length_nil]
          omega
    · next positive inside =>
        constructor
        · rw [List.take_append_drop]
        · simp only [List.length_drop]
          omega

/-- The constructor reads what `str` prints. -/
theorem decimalOfText_strDecimal (capitals negative : Bool) (coefficient : Nat) (exponent : Int) :
    decimalOfText (strDecimal capitals (.finite negative coefficient exponent)) =
      .ok (.finite negative coefficient exponent) := by
  unfold strDecimal
  dsimp only
  obtain ⟨dotplace, isPlace⟩ : ∃ place, (if exponent ≤ 0 ∧ exponent + ↑(Nat.toDigits 10 coefficient).length > -6 then
    exponent + ↑(Nat.toDigits 10 coefficient).length else 1) = place := ⟨_, rfl⟩
  have place : dotplace = exponent + (Nat.toDigits 10 coefficient).length ∧ exponent ≤ 0 ∨ dotplace = 1 := by
    rw [← isPlace]
    split
    · next small => exact .inl ⟨rfl, small.1⟩
    · exact .inr rfl
  rw [isPlace]
  obtain ⟨nonempty, whole, fraction⟩ :=
    decimalDigits_all Nat.toDigits_ne_nil (toDigits_all coefficient) dotplace
  have letter : (if capitals = true then 'E' else 'e') = 'e' ∨ (if capitals = true then 'E' else 'e') = 'E' := by
    cases capitals
    · exact .inl rfl
    · exact .inr rfl
  obtain ⟨ends, tail⟩ := readExponent_tail letter (exponent + (Nat.toDigits 10 coefficient).length) dotplace
  obtain ⟨sameDigits, sameExponent⟩ := decimalDigits_exact Nat.toDigits_ne_nil dotplace exponent place
  have all : (signText negative ++ ((decimalDigits (Nat.toDigits 10 coefficient) dotplace).1 ++
      (fractionText (decimalDigits (Nat.toDigits 10 coefficient) dotplace).2 ++
        if exponent + ↑(Nat.toDigits 10 coefficient).length = dotplace then []
        else exponentText (if capitals = true then 'E' else 'e')
          (exponent + ↑(Nat.toDigits 10 coefficient).length - dotplace)))).all printed = true := by
    rw [List.all_append, List.all_append, List.all_append, printed_digits whole]
    have sign : (signText negative).all printed = true := by cases negative <;> rfl
    have point : (fractionText (decimalDigits (Nat.toDigits 10 coefficient) dotplace).2).all printed = true := by
      unfold fractionText
      split
      · rfl
      · rw [List.all_cons, printed_digits fraction]
        rfl
    rw [sign, point, Bool.true_and, Bool.true_and, Bool.true_and]
    split
    · rfl
    · apply printed_exponentText
      cases capitals <;> decide
  unfold decimalOfText
  rw [stripNumeral_printed all, readFinite_parts negative _ _ _ nonempty whole fraction ends tail, sameDigits,
    sameExponent, natOf_toDigits]

/-! ### Through a float -/

theorem decimalOfFloat_parts (r : Number double) : ∃ coefficient exponent,
    decimalOfFloat (.finite r) = .finite r.negative coefficient exponent ∧
      (coefficient : Rat) * 10 ^ exponent = r.magnitude := by
  obtain ⟨k, power⟩ := ratio_power r
  refine ⟨_, _, rfl, ?_⟩
  rw [← ratio_value r, power, Nat.log2_two_pow]
  have ten : (10 : Rat) ^ (-(k : Int)) = 1 / (5 ^ k * 2 ^ k) := by
    rw [zpow_neg, zpow_natCast, ← mul_pow, one_div]
    norm_num
  rw [ten]
  push_cast
  field_simp

/-- At most `digits` significant digits. -/
def FewDigits (digits : Nat) (x : Rat) : Prop := ∃ m : Nat, ∃ k : Int, m < 10 ^ digits ∧ |x| = m * 10 ^ k

/-- Zero, or in the normal range of double precision. -/
def Normal (x : Rat) : Prop := x = 0 ∨ 2 ^ (-1022 : Int) ≤ |x| ∧ |x| < 2 ^ (1023 : Int)

theorem value_signed (r : Number double) : r.value = signed r.negative r.magnitude := rfl

theorem abs_value (r : Number double) : |r.value| = r.magnitude := by
  rw [value_signed]
  cases r.negative
  · exact abs_of_nonneg (magnitude_nonneg r)
  · exact (abs_neg _).trans (abs_of_nonneg (magnitude_nonneg r))

/-- A number closer to `x` than zero has the sign of `x`. -/
theorem signed_of_close {x : Rat} {r : Number double} (close : |r.value - x| < |x|) :
    signed r.negative |x| = x := by
  have nonneg := magnitude_nonneg r
  rw [value_signed] at close
  rcases le_total 0 x with up | down
  · rw [abs_of_nonneg up] at close ⊢
    cases sign : r.negative with
    | false => rfl
    | true =>
        rw [sign] at close
        change |-r.magnitude - x| < x at close
        have := (abs_lt.mp close).1
        linarith
  · rw [abs_of_nonpos down] at close ⊢
    cases sign : r.negative with
    | true => exact neg_neg x
    | false =>
        rw [sign] at close
        change |r.magnitude - x| < -x at close
        have := (abs_lt.mp close).2
        linarith

/-- From the nearest float, fifteen digits give the number back. -/
theorem createDecimalFromFloat_nearest {x : Rat} {r : Number double} (few : FewDigits 15 x) (normal : Normal x)
    (nearest : Nearest x r) :
    ∃ coefficient exponent, createDecimalFromFloat 15 (.finite r) = .finite r.negative coefficient exponent ∧
      (coefficient : Rat) * 10 ^ exponent = |x| ∧ signed r.negative |x| = x := by
  obtain ⟨c, e, exact, value⟩ := decimalOfFloat_parts r
  refine ⟨(roundDigits 15 c e).1, (roundDigits 15 c e).2, ?_, ?_⟩
  · rw [createDecimalFromFloat, exact]
    rfl
  rcases normal with rfl | ⟨low, high⟩
  · have zero : c = 0 := by
      rw [← abs_value, nearest_zero nearest, abs_zero] at value
      rcases mul_eq_zero.mp value with zero | impossible
      · exact_mod_cast zero
      · exact absurd impossible (zpow_ne_zero _ (by norm_num))
    subst zero
    have same : roundDigits 15 0 e = (0, e) := rfl
    rw [same]
    cases r.negative <;> simp [signed]
  · have close := nearest_close nearest low high
    obtain ⟨m, k, fewer, parts⟩ := few
    have positive : 0 < |x| := lt_of_lt_of_le (zpow_pos (by norm_num) _) low
    have nearby : |r.value - x| * (2 * 10 ^ 15) < |x| := by
      have nonneg := abs_nonneg (r.value - x)
      have precise : (2 * 10 ^ 15 : Rat) < 2 ^ double.precision := by norm_num [double]
      rcases nonneg.eq_or_lt with zero | apart
      · rw [← zero, zero_mul]
        exact positive
      · exact lt_of_lt_of_le (mul_lt_mul_of_pos_left precise apart) close
    constructor
    · have sizes : |(c : Rat) * 10 ^ e - m * 10 ^ k| ≤ |r.value - x| := by
        rw [value, ← abs_value, ← parts]
        exact abs_abs_sub_abs_le _ _
      rw [parts] at nearby ⊢
      apply roundDigits_close (by decide) fewer
      exact lt_of_le_of_lt (mul_le_mul_of_nonneg_right sizes (by norm_num)) nearby
    · apply signed_of_close
      have := abs_nonneg (r.value - x)
      linarith

/-- A number with few enough digits and places is only written with the exponent asked for. -/
theorem quantize_exact {prec : Nat} {q : Int} {negative : Bool} {c M : Nat} {e : Int} (pos : 0 < prec)
    (place : -(prec : Int) ≤ q) (few : M < 10 ^ prec) (value : (c : Rat) * 10 ^ e = M * 10 ^ q) :
    (Decimal.finite negative c e).quantize prec q = .ok (.finite negative M q) := by
  have digits : ¬(c ≠ 0 ∧ (prec : Int) < digitCount c + e - q) := by
    rintro ⟨nonzero, many⟩
    have some := digitCount_pos c
    have least : (10 : Rat) ^ ((digitCount c : Int) - 1) ≤ c := by
      have whole : (digitCount c : Int) - 1 = ((digitCount c - 1 : Nat) : Int) := by omega
      rw [whole, zpow_natCast]
      exact_mod_cast pow_pred_le nonzero
    have most : (c : Rat) * 10 ^ e < 10 ^ (prec + q) := by
      rw [value, zpow_add₀ (by norm_num), zpow_natCast]
      have : (M : Rat) < 10 ^ prec := by exact_mod_cast few
      exact mul_lt_mul_of_pos_right this (zpow_pos (by norm_num) _)
    have least' : (10 : Rat) ^ ((digitCount c : Int) - 1 + e) < 10 ^ (prec + q) := by
      rw [zpow_add₀ (by norm_num)]
      exact lt_of_le_of_lt (mul_le_mul_of_nonneg_right least (zpow_nonneg (by norm_num) _)) most
    have := (zpow_lt_zpow_iff_right₀ (by norm_num : (1 : Rat) < 10)).mp least'
    omega
  have rescaled : rescale c e q = M := by
    unfold rescale
    split
    · next wide =>
        rw [at_scale c wide] at value
        have same := mul_right_cancel₀ (zpow_ne_zero q (by norm_num : (10 : Rat) ≠ 0)) value
        exact_mod_cast same
    · next narrow =>
        rw [at_scale M (Int.le_of_not_le narrow)] at value
        have same := mul_right_cancel₀ (zpow_ne_zero e (by norm_num : (10 : Rat) ≠ 0)) value
        have whole : c = M * 10 ^ (q - e).toNat := by exact_mod_cast same
        rw [whole, halfEven_mul M (by positivity)]
  unfold Decimal.quantize
  dsimp only
  rw [rescaled, if_neg (by omega), if_neg digits, if_neg (Nat.not_lt.mpr ((digitCount_le pos).mpr few))]

/-! ### The round trip -/

/-- What a column may return for a text that denotes a number: the text, or the number as an integer, or the float
    nearest to it. -/
inductive KeptAs (t : Text) : NumericValue → Prop where
  | text : KeptAs t (.text t)
  | int {n : Int} (denotes : readLiteral t = some (.number n)) : KeptAs t (.int n)
  | float {x : Rat} {r : Number double} (denotes : readLiteral t = some (.number x)) (nearest : Nearest x r) :
      KeptAs t (.float (.finite r))

theorem decimalOfInt_number (n : Int) : (decimalOfInt n).number = some (n : Rat) := by
  unfold decimalOfInt Decimal.number
  dsimp only
  rw [zpow_zero, mul_one]
  congr 1
  by_cases negative : n < 0
  · have abs : n = -(n.natAbs : Int) := by omega
    rw [decide_eq_true negative, ← Int.cast_natCast]
    change -((n.natAbs : Int) : Rat) = n
    rw [← Int.cast_neg, ← abs]
  · have abs : n = (n.natAbs : Int) := by omega
    rw [decide_eq_false negative, ← Int.cast_natCast]
    change ((n.natAbs : Int) : Rat) = n
    rw [← abs]

/-- The number has no more digits and places than the field. -/
def DecimalField.Admits (field : DecimalField) (x : Rat) : Prop :=
  ∃ digits places M : Nat, field.maxDigits = some digits ∧ field.decimalPlaces = some places ∧ 0 < digits ∧
    places ≤ digits ∧ M < 10 ^ digits ∧ |x| = M * 10 ^ (-(places : Int))

/-- The number is one of the expression. -/
def DecimalExpression.Admits (x : Rat) : DecimalExpression → Prop
  | .col none => False
  | .col (some field) => field.Admits x
  | .other => True

/-- What a converter gives back that converts everything but floats as `convertPlain` does. -/
theorem convert_kept {capitals negative : Bool} {coefficient : Nat} {exponent : Int} {x : Rat} {stored : NumericValue}
    (convert : NumericValue → Except DecimalError (Option Decimal))
    (number : (Decimal.finite negative coefficient exponent).number = some x)
    (kept : KeptAs (strDecimal capitals (.finite negative coefficient exponent)) stored)
    (texts : ∀ t, convert (.text t) = convertPlain (.text t)) (ints : ∀ n, convert (.int n) = convertPlain (.int n))
    (floats : ∀ r : Number double, stored = .float (.finite r) → Nearest x r →
      ∃ d, convert (.float (.finite r)) = .ok (some d) ∧ d.number = some x) :
    ∃ d, convert stored = .ok (some d) ∧ d.number = some x ∧
      ∀ t, stored = .text t → d = .finite negative coefficient exponent := by
  have denoted : readLiteral (strDecimal capitals (.finite negative coefficient exponent)) = some (.number x) := by
    rw [readLiteral_strDecimal, ← Option.some.inj number]
  cases kept with
  | text =>
      refine ⟨_, ?_, number, fun _ _ => rfl⟩
      rw [texts, convertPlain, decimalOfText_strDecimal]
      rfl
  | @int n denotes =>
      refine ⟨decimalOfInt n, by rw [ints, convertPlain], ?_, fun t impossible => nomatch impossible⟩
      obtain rfl : x = n := Value.number.inj (Option.some.inj (denoted.symm.trans denotes))
      exact decimalOfInt_number n
  | @float y r denotes nearest =>
      obtain rfl : x = y := Value.number.inj (Option.some.inj (denoted.symm.trans denotes))
      obtain ⟨d, converts, value⟩ := floats r rfl nearest
      exact ⟨d, converts, value, fun t impossible => nomatch impossible⟩

/-- A decimal that is saved and read back is the same number, if it has no more digits and places than its column. Where
    the database keeps a float, fifteen digits and the normal range are the limit. A text is the same decimal. -/
theorem decimal_round_trip (capitals negative : Bool) (coefficient : Nat) (exponent : Int) {x : Rat}
    {expression : DecimalExpression} {text : Text} {stored : NumericValue}
    (number : (Decimal.finite negative coefficient exponent).number = some x)
    (admitted : expression.Admits x)
    (saved : adaptDecimalfieldValue capitals (some (.finite negative coefficient exponent)) = some text)
    (kept : KeptAs text stored)
    (carried : ∀ r, stored = .float r → FewDigits 15 x ∧ Normal x) :
    ∃ convert d, getDecimalfieldConverter expression = .ok convert ∧ convert stored = .ok (some d) ∧
      d.number = some x ∧ ∀ t, stored = .text t → d = .finite negative coefficient exponent := by
  obtain rfl : strDecimal capitals (.finite negative coefficient exponent) = text := Option.some.inj saved
  rcases expression with (_ | field) | _
  · exact admitted.elim
  · obtain ⟨digits, places, M, maxDigits, decimalPlaces, pos, fewPlaces, fewDigits, written⟩ := admitted
    have precision : field.prec = digits := by rw [DecimalField.prec, maxDigits, Option.getD_some]
    obtain ⟨d, converts, value⟩ := convert_kept (columnConverter field places) number kept
      (fun _ => rfl) (fun _ => rfl) fun r isFloat nearest => by
        obtain ⟨few, normal⟩ := carried _ isFloat
        obtain ⟨c, e, created, same, sign⟩ := createDecimalFromFloat_nearest few normal nearest
        refine ⟨.finite r.negative M (-(places : Int)), ?_, ?_⟩
        · rw [columnConverter, created, precision, quantize_exact pos (by omega) fewDigits (same.trans written)]
          rfl
        · rw [Decimal.number, ← written, sign]
    refine ⟨columnConverter field places, d, ?_, converts, value⟩
    rw [getDecimalfieldConverter, decimalPlaces]
  · obtain ⟨d, converts, value⟩ := convert_kept expressionConverter number kept
      (fun _ => rfl) (fun _ => rfl) fun r isFloat nearest => by
        obtain ⟨few, normal⟩ := carried _ isFloat
        obtain ⟨c, e, created, same, sign⟩ := createDecimalFromFloat_nearest few normal nearest
        refine ⟨.finite r.negative c e, ?_, ?_⟩
        · rw [expressionConverter, created]
        · rw [Decimal.number, same, sign]
    exact ⟨expressionConverter, d, rfl, converts, value⟩

/-- `12.5`, as a float. -/
def twelveAndHalf : Number double where
  negative := false
  mantissa := 25
  exponent := -1
  digits := by decide
  low := by decide
  high := by decide

/-- `Decimal("12.50")` in a column of eight digits and two places, which the database keeps as a float. -/
theorem decimal_round_trip_float :
    ∃ convert d, getDecimalfieldConverter (.col (some ⟨some 8, some 2⟩)) = .ok convert ∧
      convert (.float (.finite twelveAndHalf)) = .ok (some d) ∧ d.number = some (25 / 2) ∧
      ∀ t, NumericValue.float (.finite twelveAndHalf) = .text t → d = .finite false 1250 (-2) := by
  have number : (Decimal.finite false 1250 (-2)).number = some (25 / 2) := by
    norm_num [Decimal.number, signed]
  have value : twelveAndHalf.value = 25 / 2 := by
    norm_num [twelveAndHalf, Number.value, Number.magnitude]
  have denotes : readLiteral (strDecimal true (.finite false 1250 (-2))) = some (.number (25 / 2)) := by
    rw [readLiteral_strDecimal]
    norm_num [signed]
  have nearest : Nearest (25 / 2) twelveAndHalf := by
    intro other
    rw [value, sub_self, abs_zero]
    exact abs_nonneg _
  have size : |(25 / 2 : Rat)| = 25 / 2 := by norm_num
  have carried : FewDigits 15 (25 / 2) ∧ Normal (25 / 2) := by
    refine ⟨⟨125, -1, by decide, by norm_num⟩, .inr ?_⟩
    rw [size]
    constructor
    · exact (zpow_le_one_of_nonpos₀ (by norm_num) (by decide)).trans (by norm_num)
    · exact lt_of_lt_of_le (by norm_num : (25 / 2 : Rat) < 2 ^ (4 : Int)) (zpow_le_zpow_right₀ (by norm_num) (by decide))
  exact decimal_round_trip true false 1250 (-2) number
    ⟨8, 2, 1250, rfl, rfl, by decide, by decide, by decide, by norm_num⟩ rfl (.float denotes nearest) fun _ _ => carried

end DjangoPyturso
