/-
Module: DjangoPyturso.Proofs.PatternMeaning
Layer: Proofs
Purpose: What the pattern lookups find: no character of a value is a wildcard, so a value is found exactly where it
  stands, up to ASCII case, and an expression is found where its value is.
Imports: DjangoPyturso.Model.PatternLookups
Trusted boundary: none
Main exports: PatternLookup.Finds, valueLookup_iff, expressionLookup_iff, lookups_find
Open obligations: none
-/
import DjangoPyturso.Model.PatternLookups

namespace DjangoPyturso

open LikePattern SqlText

/-- Where a lookup wants the value to stand in the subject. -/
def PatternLookup.Finds (lookup : PatternLookup) (value subject : Text) : Prop :=
  match lookup with
  | .iexact => value = subject
  | .contains | .icontains => value <:+: subject
  | .startswith | .istartswith => value <+: subject
  | .endswith | .iendswith => value <:+ subject

theorem prepForLikeQuery_eq (value : Text) : prepForLikeQuery value = escaped likeDialect.escape value :=
  replaced_escapes likeDialect.notAny likeDialect.notOne value

theorem value_patternEsc (value : Text) : patternEsc.value value = escaped likeDialect.escape value :=
  replaced_escapes likeDialect.notAny likeDialect.notOne value

section

variable {value subject : Text}

theorem matches_exactly :
    matchesLike likeDialect (escaped likeDialect.escape value) subject = true ↔
      identifierKey value = identifierKey subject := by
  rw [← List.append_nil (escaped likeDialect.escape value), matchesLike_escaped]
  constructor
  · rintro ⟨found, rest, rfl, folds, ends⟩
    rw [matchesLike_nil.mp ends, List.append_nil]
    exact folds.symm
  · exact fun same => ⟨subject, [], (List.append_nil _).symm, same.symm, rfl⟩

theorem matches_leading :
    matchesLike likeDialect (escaped likeDialect.escape value ++ ['%']) subject = true ↔
      identifierKey value <+: identifierKey subject := by
  rw [matchesLike_escaped]
  constructor
  · rintro ⟨found, rest, rfl, folds, _⟩
    rw [identifierKey, identifierKey, List.map_append]
    exact folds ▸ List.prefix_append _ _
  · rintro ⟨tail, whole⟩
    obtain ⟨found, rest, rfl, folds, _⟩ := List.map_eq_append_iff.mp whole.symm
    exact ⟨found, rest, rfl, folds, matchesLike_percent.mpr ⟨rest, [], (List.append_nil _).symm, rfl⟩⟩

theorem matches_suffix :
    matchesLike likeDialect ('%' :: escaped likeDialect.escape value) subject = true ↔
      identifierKey value <:+ identifierKey subject := by
  rw [matchesLike_percent]
  constructor
  · rintro ⟨skipped, rest, rfl, matched⟩
    rw [matches_exactly.mp matched, identifierKey, identifierKey, List.map_append]
    exact List.suffix_append _ _
  · rintro ⟨front, whole⟩
    obtain ⟨skipped, rest, rfl, _, folds⟩ := List.map_eq_append_iff.mp whole.symm
    exact ⟨skipped, rest, rfl, matches_exactly.mpr folds.symm⟩

theorem matches_infix :
    matchesLike likeDialect ('%' :: (escaped likeDialect.escape value ++ ['%'])) subject = true ↔
      identifierKey value <:+: identifierKey subject := by
  rw [matchesLike_percent]
  constructor
  · rintro ⟨skipped, rest, rfl, matched⟩
    rw [show identifierKey (skipped ++ rest) = identifierKey skipped ++ identifierKey rest from List.map_append]
    exact (matches_leading.mp matched).isInfix.trans (List.suffix_append _ _).isInfix
  · rintro ⟨front, back, whole⟩
    rw [List.append_assoc] at whole
    obtain ⟨skipped, rest, rfl, _, folds⟩ := List.map_eq_append_iff.mp whole.symm
    exact ⟨skipped, rest, rfl, matches_leading.mpr ⟨back, folds.symm⟩⟩

end

/-! ### Upper case -/

/-- `toUpper` moves the lower case letters, and no other character. -/
theorem toUpper_cases (c : Char) :
    c.toUpper = c ∨ (97 ≤ c.toNat ∧ c.toNat ≤ 122 ∧ c.toUpper.toNat = c.toNat - 32) := by
  unfold Char.toUpper
  split
  · next lower =>
      have low : 97 ≤ c.val.toNat := lower.1
      have high : c.val.toNat ≤ 122 := lower.2
      refine .inr ⟨low, high, ?_⟩
      change (c.val + ('A'.val - 'a'.val)).toNat = c.val.toNat - 32
      rw [UInt32.toNat_add, show ('A'.val - 'a'.val).toNat = 4294967264 by decide]
      omega
  · exact .inl rfl

/-- `toLower` moves the upper case letters, and no other character. -/
theorem toLower_cases (c : Char) :
    (65 ≤ c.toNat ∧ c.toNat ≤ 90 ∧ c.toLower.toNat = c.toNat + 32) ∨
      (¬(65 ≤ c.toNat ∧ c.toNat ≤ 90) ∧ c.toLower = c) := by
  unfold Char.toLower
  split
  · next upper =>
      have low : 65 ≤ c.val.toNat := upper.1
      have high : c.val.toNat ≤ 90 := upper.2
      refine .inl ⟨low, high, ?_⟩
      change (c.val + ('a'.val - 'A'.val)).toNat = c.val.toNat + 32
      rw [UInt32.toNat_add, show ('a'.val - 'A'.val).toNat = 32 by decide]
      omega
  · next other => exact .inr ⟨other, rfl⟩

/-- The upper case of a letter folds to the same letter. -/
theorem toLower_toUpper (c : Char) : c.toUpper.toLower = c.toLower := by
  rcases toUpper_cases c with same | ⟨low, high, raised⟩
  · rw [same]
  · rcases toLower_cases c.toUpper with ⟨_, _, lowered⟩ | ⟨outside, _⟩
    · rcases toLower_cases c with ⟨_, _, _⟩ | ⟨_, kept⟩
      · omega
      · rw [kept]
        apply Char.toNat_inj.mp
        omega
    · omega

theorem identifierKey_toUpper (value : Text) : identifierKey (value.map Char.toUpper) = identifierKey value := by
  rw [identifierKey, identifierKey, List.map_map]
  exact List.map_congr_left fun c _ => toLower_toUpper c

/-- The special characters of a pattern are no letters. -/
theorem toUpper_eq_iff {c special : Char} (noLetter : special.toNat < 65 ∨ 90 < special.toNat ∧ special.toNat < 97) :
    c.toUpper = special ↔ c = special := by
  rcases toUpper_cases c with same | ⟨low, high, raised⟩
  · rw [same]
  · constructor
    · rintro rfl
      omega
    · rintro rfl
      omega

/-- Raising an escaped text escapes the raised text. -/
theorem map_toUpper_escaped (value : Text) :
    (escaped likeDialect.escape value).map Char.toUpper = escaped likeDialect.escape (value.map Char.toUpper) := by
  rw [escaped, escaped, List.map_flatMap, List.flatMap_map]
  refine List.flatMap_congr fun c _ => ?_
  have special : (c.toUpper = likeDialect.escape ∨ c.toUpper = '%' ∨ c.toUpper = '_') ↔
      (c = likeDialect.escape ∨ c = '%' ∨ c = '_') := by
    rw [toUpper_eq_iff (by decide), toUpper_eq_iff (by decide), toUpper_eq_iff (by decide)]
  by_cases holds : c = likeDialect.escape ∨ c = '%' ∨ c = '_'
  · rw [if_pos holds, if_pos (special.mpr holds)]
    rfl
  · rw [if_neg holds, if_neg fun raised => holds (special.mp raised)]
    rfl

/-! ### The lookups -/

/-- A lookup of a value finds it where it stands, up to ASCII case. -/
theorem valueLookup_iff (lookup : PatternLookup) (value subject : Text) :
    valueLookup lookup value subject = true ↔ lookup.Finds (identifierKey value) (identifierKey subject) := by
  rw [valueLookup, prepForLikeQuery_eq]
  cases lookup with
  | iexact => exact matches_exactly
  | contains | icontains => exact matches_infix
  | startswith | istartswith => exact matches_leading
  | endswith | iendswith => exact matches_suffix

/-- A lookup of an expression finds its value where it stands, up to ASCII case. -/
theorem expressionLookup_iff (lookup : PatternLookup) (value subject : Text) (found : Bool)
    (supported : expressionLookup lookup value subject = some found) :
    found = true ↔ lookup.Finds (identifierKey value) (identifierKey subject) := by
  unfold expressionLookup at supported
  cases lookup with
  | iexact => cases supported
  | contains =>
      obtain rfl := Option.some.inj supported
      simp only [PatternSql.value, value_patternEsc, List.singleton_append]
      exact matches_infix
  | icontains =>
      obtain rfl := Option.some.inj supported
      simp only [PatternSql.value, value_patternEsc, List.singleton_append, map_toUpper_escaped]
      rw [← identifierKey_toUpper value]
      exact matches_infix
  | startswith =>
      obtain rfl := Option.some.inj supported
      simp only [PatternSql.value, value_patternEsc]
      exact matches_leading
  | istartswith =>
      obtain rfl := Option.some.inj supported
      simp only [PatternSql.value, value_patternEsc, map_toUpper_escaped]
      rw [← identifierKey_toUpper value]
      exact matches_leading
  | endswith =>
      obtain rfl := Option.some.inj supported
      simp only [PatternSql.value, value_patternEsc, List.singleton_append]
      exact matches_suffix
  | iendswith =>
      obtain rfl := Option.some.inj supported
      simp only [PatternSql.value, value_patternEsc, List.singleton_append, map_toUpper_escaped]
      rw [← identifierKey_toUpper value]
      exact matches_suffix

/-- No character of a value or of an expression's value is a wildcard: both kinds of lookup find it exactly where it
    stands, up to ASCII case, so they agree wherever there is a pattern operator for the lookup. -/
theorem lookups_find (lookup : PatternLookup) (value subject : Text) :
    (valueLookup lookup value subject = true ↔ lookup.Finds (identifierKey value) (identifierKey subject)) ∧
    (lookup = .iexact ∨ expressionLookup lookup value subject = some (valueLookup lookup value subject)) := by
  refine ⟨valueLookup_iff lookup value subject, ?_⟩
  cases supported : expressionLookup lookup value subject with
  | none =>
      left
      cases lookup with
      | iexact => rfl
      | contains | icontains | startswith | istartswith | endswith | iendswith => cases supported
  | some found =>
      right
      rw [Bool.eq_iff_iff.mpr ((expressionLookup_iff lookup value subject found supported).trans
        (valueLookup_iff lookup value subject).symm)]

end DjangoPyturso
