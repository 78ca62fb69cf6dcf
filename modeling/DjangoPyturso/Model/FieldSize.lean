/-
Module: DjangoPyturso.Model.FieldSize
Layer: Model
Purpose: `get_field_size`: the length that a `char` or `varchar` type declares, and the texts that declare one.
Imports: DjangoPyturso.Foundations.SqlRegions, Mathlib lists
Trusted boundary: human-reviewed translation of introspection.py:49 and 65-68. White space and decimal digits are those
  of Unicode 15. Left out: the interpreter's limit on the digits of `int`.
Main exports: getFieldSize, DeclaresLength, getFieldSize_eq_some
Open obligations: none
-/
import DjangoPyturso.Foundations.SqlRegions
import Mathlib.Data.List.TakeWhile

namespace DjangoPyturso

open SqlText

/-- The code points that Unicode counts as white space. -/
def isSpaceCode (n : Nat) : Bool :=
  (9 ≤ n && n ≤ 13) || (28 ≤ n && n ≤ 32) || (0x2000 ≤ n && n ≤ 0x200A) ||
    [0x85, 0xA0, 0x1680, 0x2028, 0x2029, 0x202F, 0x205F, 0x3000].contains n

/-- `\s` of a regular expression: the white space of Unicode. -/
def isSpace (c : Char) : Bool := isSpaceCode c.toNat

/-- The zeros of the decimal digits of Unicode. The other nine digits follow each. -/
def decimalZeros : List Nat :=
  [0x30, 0x660, 0x6F0, 0x7C0, 0x966, 0x9E6, 0xA66, 0xAE6, 0xB66, 0xBE6, 0xC66, 0xCE6, 0xD66, 0xDE6, 0xE50, 0xED0,
    0xF20, 0x1040, 0x1090, 0x17E0, 0x1810, 0x1946, 0x19D0, 0x1A80, 0x1A90, 0x1B50, 0x1BB0, 0x1C40, 0x1C50, 0xA620,
    0xA8D0, 0xA900, 0xA9D0, 0xA9F0, 0xAA50, 0xABF0, 0xFF10, 0x104A0, 0x10D30, 0x11066, 0x110F0, 0x11136, 0x111D0,
    0x112F0, 0x11450, 0x114D0, 0x11650, 0x116C0, 0x11730, 0x118E0, 0x11950, 0x11C50, 0x11D50, 0x11DA0, 0x11F50,
    0x16A60, 0x16AC0, 0x16B50, 0x1D7CE, 0x1D7D8, 0x1D7E2, 0x1D7EC, 0x1D7F6, 0x1E140, 0x1E2F0, 0x1E4F0, 0x1E950,
    0x1FBF0]

/-- The value of a decimal digit of any script. -/
def decimalValue (c : Char) : Option Nat :=
  (decimalZeros.find? fun start => start ≤ c.toNat && c.toNat < start + 10).map (c.toNat - ·)

/-- `\d` of a regular expression: a decimal digit of any script. -/
def isDecimal (c : Char) : Bool := (decimalValue c).isSome

/-- `int` of decimal digits, most significant first. -/
def decimalNumber (digits : Text) : Nat := digits.foldl (fun n c => 10 * n + (decimalValue c).getD 0) 0

/-- A text after its leading white space, where the pattern goes on. -/
def skipSpace (t : Text) : Text := t.dropWhile isSpace

/-- `t.strip()`: no white space on either side. -/
def stripSpace (t : Text) : Text := (skipSpace (skipSpace t).reverse).reverse

/-- `text` after `word`, if it starts with it in any ASCII case. -/
def afterWord (word : Text) (t : Text) : Option Text :=
  if (t.take word.length).map Char.toLower = word then some (t.drop word.length) else none

/-- The text after `(?:var)?char`, if it starts so. -/
def afterCharType (t : Text) : Option Text :=
  match afterWord "var".toList t with
  | some rest => afterWord "char".toList rest
  | none => afterWord "char".toList t

/-- `get_field_size`: the length in the type of a column, by the pattern `^\s*(?:var)?char\s*\(\s*(\d+)\s*\)\s*$` in any
    case. -/
def getFieldSize (name : Text) : Option Nat :=
  match (afterCharType (skipSpace name)).map skipSpace with
  | some ('(' :: rest) =>
      let digits := (skipSpace rest).takeWhile isDecimal
      match skipSpace ((skipSpace rest).dropWhile isDecimal) with
      | ')' :: after => if digits ≠ [] ∧ skipSpace after = [] then some (decimalNumber digits) else none
      | _ => none
  | _ => none

/-! ### The texts that declare a length -/

/-- White space only, also none at all. -/
def Blank (t : Text) : Prop := ∀ c ∈ t, isSpace c = true

/-- `char` or `varchar` in any ASCII case, the types that declare a length. -/
def CharType (word : Text) : Prop := word.map Char.toLower = "char".toList ∨ word.map Char.toLower = "varchar".toList

/-- The decimal digits of a number, with white space around them. -/
def NumeralText (t : Text) (n : Nat) : Prop :=
  ∃ before digits after, t = before ++ digits ++ after ∧ Blank before ∧ Blank after ∧ digits ≠ [] ∧
    (∀ c ∈ digits, isDecimal c = true) ∧ decimalNumber digits = n

/-- `char` or `varchar`, with white space around it. -/
def CharTypeText (t : Text) : Prop :=
  ∃ before word after, t = before ++ word ++ after ∧ Blank before ∧ Blank after ∧ CharType word

/-- The whole text is `char` or `varchar` with one argument. -/
def DeclaresLength (t : Text) (n : Nat) : Prop :=
  ∃ type number after, t = type ++ '(' :: number ++ ')' :: after ∧ CharTypeText type ∧ NumeralText number n ∧ Blank after

/-- Blanks in front of a text are skipped, as the pattern of the introspection begins with `\s*`. -/
theorem skipSpace_blank {before : Text} (blank : Blank before) (rest : Text) :
    skipSpace (before ++ rest) = skipSpace rest := List.dropWhile_append_of_pos blank

/-- Skipping stops at the first character that is no blank. -/
theorem skipSpace_cons {c : Char} (solid : isSpace c = false) (rest : Text) : skipSpace (c :: rest) = c :: rest :=
  List.dropWhile_cons_of_neg (by simp [solid])

/-- Where there are no blanks, nothing is skipped. -/
theorem skipSpace_solid {t : Text} (solid : ∀ c ∈ t, isSpace c = false) : skipSpace t = t := by
  rcases t with _ | ⟨c, t⟩
  · rfl
  · exact skipSpace_cons (solid c List.mem_cons_self) t

/-- Where there are no blanks, nothing is stripped from either end. -/
theorem stripSpace_solid {t : Text} (solid : ∀ c ∈ t, isSpace c = false) : stripSpace t = t := by
  unfold stripSpace
  rw [skipSpace_solid solid, skipSpace_solid fun c mem => solid c (List.mem_reverse.mp mem), List.reverse_reverse]

/-- Skipping leaves nothing exactly of a text of blanks, which is how the end of the pattern is read. -/
theorem skipSpace_eq_nil {t : Text} : skipSpace t = [] ↔ Blank t := by
  rw [skipSpace, List.dropWhile_eq_nil_iff, Blank]

/-- The leading white space, and the text after it. -/
theorem skipSpace_split (t : Text) : ∃ before, t = before ++ skipSpace t ∧ Blank before := by
  refine ⟨t.takeWhile isSpace, (List.takeWhile_append_dropWhile ..).symm, fun c mem => ?_⟩
  exact List.all_eq_true.mp List.all_takeWhile c mem

/-- No digit is white space, so digits end where white space begins. -/
theorem isDecimal_solid {c : Char} (digit : isDecimal c = true) : isSpace c = false := by
  have apart : ∀ start ∈ decimalZeros, ∀ k < 10, isSpaceCode (start + k) = false := by decide
  simp only [isDecimal, decimalValue, Option.isSome_map] at digit
  obtain ⟨start, found⟩ := Option.isSome_iff_exists.mp digit
  have bounds := List.find?_some found
  simp only [Bool.and_eq_true, decide_eq_true_eq] at bounds
  have offset : start + (c.toNat - start) = c.toNat := by omega
  rw [isSpace, ← offset]
  exact apart start (List.mem_of_find?_eq_some found) _ (by omega)

/-- A word is found at the start of a text exactly if the text starts with it in some case of letters. -/
theorem afterWord_eq_some {word t rest : Text} :
    afterWord word t = some rest ↔ ∃ start, t = start ++ rest ∧ start.map Char.toLower = word := by
  unfold afterWord
  constructor
  · intro found
    split at found
    · next same =>
        rw [Option.some.injEq] at found
        exact ⟨t.take word.length, by rw [← found, List.take_append_drop], same⟩
    · exact nomatch found
  · rintro ⟨start, rfl, rfl⟩
    rw [List.length_map, List.take_left' rfl, List.drop_left' rfl, if_pos rfl]

/-- What is skipped before the size is the name of a character type. -/
theorem afterCharType_some {t rest : Text} (found : afterCharType t = some rest) :
    ∃ word, t = word ++ rest ∧ CharType word := by
  unfold afterCharType at found
  split at found
  · next middle first =>
      obtain ⟨head, rfl, isVar⟩ := afterWord_eq_some.mp first
      obtain ⟨tail, rfl, isChar⟩ := afterWord_eq_some.mp found
      refine ⟨head ++ tail, by rw [List.append_assoc], .inr ?_⟩
      rw [List.map_append, isVar, isChar]
      rfl
  · obtain ⟨word, same, isChar⟩ := afterWord_eq_some.mp found
    exact ⟨word, same, .inl isChar⟩

/-- White space has no lower case, so it is the same in any case of a text. -/
theorem toLower_space {c : Char} (space : isSpace c = true) : c.toLower = c := by
  have solid : ∀ n < 91, 65 ≤ n → isSpaceCode n = false := by decide
  unfold Char.toLower
  split
  · next upper =>
      have low : 65 ≤ c.toNat := UInt32.le_iff_toNat_le.mp upper.1
      have high : c.toNat ≤ 90 := UInt32.le_iff_toNat_le.mp upper.2
      rw [isSpace, solid c.toNat (by omega) low] at space
      exact nomatch space
  · rfl

/-- A type name does not start with white space. -/
theorem CharType.cons {word : Text} (type : CharType word) : ∃ c cs, word = c :: cs ∧ isSpace c = false := by
  cases word with
  | nil => exact absurd type (by simp [CharType])
  | cons c cs =>
      refine ⟨c, cs, rfl, Bool.eq_false_iff.mpr fun space => ?_⟩
      have lower : c.toLower = 'c' ∨ c.toLower = 'v' := by
        cases type with
        | inl isChar => exact .inl (List.cons.inj isChar).1
        | inr isVarchar => exact .inr (List.cons.inj isVarchar).1
      rw [toLower_space space] at lower
      cases lower with
      | inl here => exact absurd (here ▸ space) (by decide)
      | inr here => exact absurd (here ▸ space) (by decide)

/-- Behind the name of a character type, the rest is read, whatever it is. -/
theorem afterCharType_append {word : Text} (type : CharType word) (rest : Text) :
    afterCharType (word ++ rest) = some rest := by
  unfold afterCharType
  cases type with
  | inl isChar =>
      have long : word.length = 4 := by simpa using congrArg List.length isChar
      have noVar : afterWord "var".toList (word ++ rest) = none := by
        have start : ((word ++ rest).take 3).map Char.toLower = "cha".toList := by
          rw [List.take_append_of_le_length (by omega), List.map_take, isChar]
          rfl
        simp only [afterWord]
        rw [if_neg (fun same => by
          have clash := start.symm.trans same
          exact absurd clash (by decide))]
      rw [noVar]
      exact afterWord_eq_some.mpr ⟨word, rfl, isChar⟩
  | inr isVarchar =>
      have split : word ++ rest = word.take 3 ++ (word.drop 3 ++ rest) := by
        rw [← List.append_assoc, List.take_append_drop]
      have first : afterWord "var".toList (word ++ rest) = some (word.drop 3 ++ rest) := by
        refine afterWord_eq_some.mpr ⟨word.take 3, split, ?_⟩
        rw [List.map_take, isVarchar]
        rfl
      rw [first]
      refine afterWord_eq_some.mpr ⟨word.drop 3, rfl, ?_⟩
      rw [List.map_drop, isVarchar]
      rfl

/-- The pattern matches exactly the texts that declare a length. -/
theorem getFieldSize_eq_some {t : Text} {n : Nat} : getFieldSize t = some n ↔ DeclaresLength t n := by
  constructor
  · intro found
    unfold getFieldSize at found
    split at found
    · next rest opened =>
        obtain ⟨afterType, typed, atParen⟩ := Option.map_eq_some_iff.mp opened
        obtain ⟨word, same, type⟩ := afterCharType_some typed
        obtain ⟨before, start, blankBefore⟩ := skipSpace_split t
        obtain ⟨middle, startMiddle, blankMiddle⟩ := skipSpace_split afterType
        obtain ⟨inside, startInside, blankInside⟩ := skipSpace_split rest
        simp only at found
        split at found
        · next after closed =>
            obtain ⟨ending, startEnding, blankEnding⟩ := skipSpace_split ((skipSpace rest).dropWhile isDecimal)
            split at found
            · next fits =>
                refine ⟨before ++ word ++ middle, inside ++ (skipSpace rest).takeWhile isDecimal ++ ending, after, ?_,
                  ⟨before, word, middle, rfl, blankBefore, blankMiddle, type⟩,
                  ⟨inside, _, ending, rfl, blankInside, blankEnding, fits.1, ?_, Option.some.inj found⟩,
                  skipSpace_eq_nil.mp fits.2⟩
                · have digits := List.takeWhile_append_dropWhile (p := isDecimal) (l := skipSpace rest)
                  rw [startEnding, closed] at digits
                  have tail : rest = inside ++ ((skipSpace rest).takeWhile isDecimal ++ (ending ++ ')' :: after)) := by
                    rw [digits]
                    exact startInside
                  generalize (skipSpace rest).takeWhile isDecimal = numeral at tail ⊢
                  rw [start, same, startMiddle, atParen, tail]
                  simp
                · intro c mem
                  exact List.all_eq_true.mp List.all_takeWhile c mem
            · exact nomatch found
        · exact nomatch found
    · exact nomatch found
  · rintro ⟨_, _, after, rfl, ⟨before, word, middle, rfl, blankBefore, blankMiddle, type⟩,
      ⟨inside, digits, ending, rfl, blankInside, blankEnding, some_digit, decimal, rfl⟩, blankAfter⟩
    obtain ⟨c, cs, shape, solid⟩ := type.cons
    obtain ⟨d, ds, digitsShape⟩ := List.exists_cons_of_ne_nil some_digit
    have dSolid : isSpace d = false := isDecimal_solid (decimal d (by rw [digitsShape]; exact List.mem_cons_self))
    have whole : before ++ word ++ middle ++ '(' :: (inside ++ digits ++ ending) ++ ')' :: after =
        before ++ (word ++ (middle ++ '(' :: (inside ++ (digits ++ (ending ++ ')' :: after))))) := by simp
    have atWord : ∀ rest, skipSpace (before ++ (word ++ rest)) = word ++ rest := by
      intro rest
      rw [skipSpace_blank blankBefore, shape, List.cons_append, skipSpace_cons solid]
    have atParen : ∀ rest, skipSpace (middle ++ '(' :: rest) = '(' :: rest := by
      intro rest
      rw [skipSpace_blank blankMiddle, skipSpace_cons (by decide)]
    have atDigits : ∀ rest, skipSpace (inside ++ (digits ++ rest)) = digits ++ rest := by
      intro rest
      rw [skipSpace_blank blankInside, digitsShape, List.cons_append, skipSpace_cons dSolid]
    have atEnd : skipSpace (ending ++ ')' :: after) = ')' :: after := by
      rw [skipSpace_blank blankEnding, skipSpace_cons (by decide)]
    have stops : (ending ++ ')' :: after).takeWhile isDecimal = [] := by
      cases ending with
      | nil => rfl
      | cons e es =>
          rw [List.cons_append, List.takeWhile_cons_of_neg]
          intro digit
          have blank := blankEnding e List.mem_cons_self
          rw [isDecimal_solid digit] at blank
          exact nomatch blank
    have taken : (digits ++ (ending ++ ')' :: after)).takeWhile isDecimal = digits := by
      rw [List.takeWhile_append_of_pos decimal, stops, List.append_nil]
    have dropped : (digits ++ (ending ++ ')' :: after)).dropWhile isDecimal = ending ++ ')' :: after := by
      have parts := List.takeWhile_append_dropWhile (p := isDecimal) (l := ending ++ ')' :: after)
      rw [stops, List.nil_append] at parts
      rw [List.dropWhile_append_of_pos decimal, parts]
    rw [whole, getFieldSize, atWord, afterCharType_append type, Option.map_some, atParen]
    simp only [atDigits, taken, dropped, atEnd]
    rw [if_pos ⟨some_digit, skipSpace_eq_nil.mpr blankAfter⟩]

end DjangoPyturso
