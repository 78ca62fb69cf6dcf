/-
Module: DjangoPyturso.Foundations.SqlLiteral
Layer: Foundations
Purpose: The literals of SQL and the values they denote: `NULL`, decimal numbers with an optional sign,
  fraction and exponent, string literals with doubled quotes, and blob literals of hexadecimal pairs.
  `readLiteral` reads a whole text as one literal.
Imports: DjangoPyturso.Foundations.SqlRegions
Trusted boundary: none
Main exports: Value, readLiteral, quoted, quoteText, blobText, readLiteral_head,
  readLiteral_quoteText, readLiteral_blobText, readLiteral_number
Open obligations: none
-/
import DjangoPyturso.Foundations.SqlRegions

namespace SqlText

/-- What a literal denotes. -/
inductive Value where
  | null
  | number (q : Rat)
  | text (t : Text)
  | blob (bytes : List UInt8)
deriving DecidableEq, Repr

/-! ### Reading a literal -/

/-- A string literal after its opening quote, through the end of the text. -/
def stringBody : Text → Option Text
  | [] => none
  | c :: rest =>
      if c ≠ '\x27' then (stringBody rest).map (c :: ·)
      else
        match rest with
        | [] => some []
        | d :: rest => if d = '\x27' then (stringBody rest).map ('\x27' :: ·) else none

/-- The value of a hexadecimal digit. -/
def hexValue (c : Char) : Option Nat :=
  if c.isDigit then some (c.toNat - '0'.toNat)
  else if 'a' ≤ c ∧ c ≤ 'f' then some (c.toNat - 'a'.toNat + 10)
  else if 'A' ≤ c ∧ c ≤ 'F' then some (c.toNat - 'A'.toNat + 10)
  else none

/-- A blob literal after its opening quote, through the end of the text. -/
def blobBody : Text → Option (List UInt8)
  | ['\x27'] => some []
  | high :: low :: rest =>
      match hexValue high, hexValue low, blobBody rest with
      | some h, some l, some bytes => some (UInt8.ofNat (16 * h + l) :: bytes)
      | _, _, _ => none
  | _ => none

/-- An optional sign: whether it is a minus, and the text after it. -/
def readSign : Text → Bool × Text
  | '-' :: t => (true, t)
  | '+' :: t => (false, t)
  | t => (false, t)

/-- The negative of a number, if there is a minus. -/
def signed {α : Type} [Neg α] (negative : Bool) (n : α) : α := if negative then -n else n

/-- The number a sequence of digits denotes. -/
def natOf (digits : Text) : Nat := Nat.ofDigitChars 10 digits 0

/-- The exponent at the end of a number. -/
def readExponent : Text → Option Int
  | [] => some 0
  | c :: t =>
      if (c = 'e' ∨ c = 'E') ∧ (readSign t).2 ≠ [] ∧ (readSign t).2.all Char.isDigit = true then
        some (signed (readSign t).1 (natOf (readSign t).2 : Int))
      else none

/-- The fraction of a number and the text after it. -/
def readFraction : Text → Text × Text
  | '.' :: t => (t.takeWhile Char.isDigit, t.dropWhile Char.isDigit)
  | t => ([], t)

/-- A number: an optional sign, digits with an optional point, an optional exponent. -/
def readNumber (t : Text) : Option Rat :=
  let unsigned := (readSign t).2
  let whole := unsigned.takeWhile Char.isDigit
  let fraction := readFraction (unsigned.dropWhile Char.isDigit)
  if whole ++ fraction.1 = [] then none
  else (readExponent fraction.2).map fun exponent =>
    signed (readSign t).1
      ((natOf (whole ++ fraction.1) : Rat) * 10 ^ (exponent - (fraction.1.length : Int)))

/-- Read a text as one literal. -/
def readLiteral (t : Text) : Option Value :=
  if t = ['N', 'U', 'L', 'L'] then some .null
  else
    match t with
    | '\x27' :: rest => (stringBody rest).map .text
    | 'X' :: '\x27' :: rest => (blobBody rest).map .blob
    | t => (readNumber t).map .number

/-- A literal is not empty, and no literal starts with a percent sign. -/
theorem readLiteral_head {t : Text} (literal : (readLiteral t).isSome = true) :
    ∃ c rest, t = c :: rest ∧ c ≠ '%' := by
  cases t with
  | nil => exact absurd literal (by decide)
  | cons c rest =>
      refine ⟨c, rest, rfl, ?_⟩
      rintro rfl
      simp [readLiteral, readNumber, readSign, readFraction] at literal

/-! ### Writing literals -/

/-- Double each quote. -/
def doubled (quote : Char) : Text → Text
  | [] => []
  | c :: rest => if c = quote then c :: c :: doubled quote rest else c :: doubled quote rest

/-- Put a text between quotes, with the quotes in it doubled. -/
def quoted (quote : Char) (t : Text) : Text := quote :: (doubled quote t ++ [quote])

/-- The string literal of a text. -/
def quoteText (t : Text) : Text := quoted '\x27' t

/-- A doubled text ends at the first quote after it that is single. -/
theorem untilQuote_quoted (quote : Char) (t : Text) {rest : Text} (single : rest.head? ≠ some quote) :
    untilQuote quote (doubled quote t ++ quote :: rest) = (doubled quote t ++ [quote], rest) := by
  induction t with
  | nil =>
      cases rest with
      | nil => rfl
      | cons d rest =>
          have ne : d ≠ quote := by simpa using single
          simp [doubled, untilQuote, ne]
  | cons c t ih =>
      by_cases isQuote : c = quote
      · subst isQuote
        simp [doubled, untilQuote, ih]
      · cases tail : doubled quote t ++ quote :: rest with
        | nil => simp at tail
        | cons d after =>
            rw [tail] at ih
            simp [doubled, untilQuote, isQuote, tail, ih]

/-- A character that is no quote belongs to the text. -/
theorem stringBody_of_ne {c : Char} (ne : c ≠ '\x27') (rest : Text) :
    stringBody (c :: rest) = (stringBody rest).map (c :: ·) := by
  rw [stringBody.eq_def]
  exact if_pos ne

/-- A text with doubled quotes and one quote behind it is read back as the text. -/
theorem stringBody_doubled (t : Text) : stringBody (doubled '\x27' t ++ ['\x27']) = some t := by
  induction t with
  | nil => rfl
  | cons c rest ih =>
      by_cases quote : c = '\x27'
      · subst quote
        simp [doubled, stringBody, ih]
      · rw [doubled, if_neg quote, List.cons_append, stringBody_of_ne quote, ih]
        rfl

/-- Every text is read back from its literal. -/
theorem readLiteral_quoteText (t : Text) : readLiteral (quoteText t) = some (.text t) := by
  simp [readLiteral, quoteText, quoted, stringBody_doubled]

/-- The two lower-case hexadecimal digits of a byte. -/
def byteDigits (b : UInt8) : Text := [Nat.digitChar (b.toNat / 16), Nat.digitChar (b.toNat % 16)]

/-- The blob literal of a sequence of bytes. -/
def blobText (bytes : List UInt8) : Text :=
  'X' :: '\x27' :: (bytes.flatMap byteDigits ++ ['\x27'])

/-- A hexadecimal digit is read back as the number it stands for. -/
theorem hexValue_digitChar {n : Nat} (digit : n < 16) : hexValue (Nat.digitChar n) = some n := by
  revert n
  decide

/-- The two digits of a byte are read back as the byte. -/
theorem blobBody_byteDigits (b : UInt8) (rest : Text) :
    blobBody (byteDigits b ++ rest) = (blobBody rest).map (b :: ·) := by
  have small := b.toNat_lt
  have high : hexValue (Nat.digitChar (b.toNat / 16)) = some (b.toNat / 16) :=
    hexValue_digitChar (by omega)
  have low : hexValue (Nat.digitChar (b.toNat % 16)) = some (b.toNat % 16) :=
    hexValue_digitChar (by omega)
  have whole : UInt8.ofNat (16 * (b.toNat / 16) + b.toNat % 16) = b := by
    rw [Nat.div_add_mod]
    exact UInt8.ofNat_toNat
  simp only [byteDigits, List.cons_append, List.nil_append, blobBody, high, low]
  cases blobBody rest with
  | none => rfl
  | some bytes => simp only [whole, Option.map_some]

/-- Every blob is read back from its literal. -/
theorem readLiteral_blobText (bytes : List UInt8) :
    readLiteral (blobText bytes) = some (.blob bytes) := by
  have body : blobBody (bytes.flatMap byteDigits ++ ['\x27']) = some bytes := by
    induction bytes with
    | nil => rfl
    | cons b bytes ih =>
        rw [List.flatMap_cons, List.append_assoc, blobBody_byteDigits, ih]
        rfl
  simp [readLiteral, blobText, body]

/-! ### Writing numbers -/

/-- The sign of a number that is not printed with a plus. -/
def signText (negative : Bool) : Text := if negative then ['-'] else []

/-- The exponent of a number, with its sign. -/
def exponentText (letter : Char) (exponent : Int) : Text :=
  letter :: (if exponent < 0 then '-' else '+') :: Nat.toDigits 10 exponent.natAbs

theorem toDigits_all (n : Nat) : (Nat.toDigits 10 n).all Char.isDigit = true := by
  apply List.all_eq_true.mpr
  intro c mem
  exact Nat.isDigit_of_mem_toDigits (by decide) (by decide) mem

/-- A number is read back from its decimal digits. -/
theorem natOf_toDigits (n : Nat) : natOf (Nat.toDigits 10 n) = n :=
  Nat.ofDigitChars_toDigits (by decide) (by decide)

/-- A sign is read back before a text that has none itself. -/
theorem readSign_signText (negative : Bool) {c : Char} {t : Text} (minus : c ≠ '-') (plus : c ≠ '+') :
    readSign (signText negative ++ c :: t) = (negative, c :: t) := by
  cases negative with
  | true => rfl
  | false =>
      simp only [signText, Bool.false_eq_true, if_false, List.nil_append]
      unfold readSign
      split <;> simp_all

/-- An exponent is read back with either letter and either sign. -/
theorem readExponent_exponentText {letter : Char} (isLetter : letter = 'e' ∨ letter = 'E')
    (exponent : Int) : readExponent (exponentText letter exponent) = some exponent := by
  have sign : readSign ((if exponent < 0 then '-' else '+') :: Nat.toDigits 10 exponent.natAbs) =
      (decide (exponent < 0), Nat.toDigits 10 exponent.natAbs) := by
    by_cases negative : exponent < 0
    · rw [if_pos negative, decide_eq_true negative]
      rfl
    · rw [if_neg negative, decide_eq_false negative]
      rfl
  have value : signed (decide (exponent < 0)) (exponent.natAbs : Int) = exponent := by
    by_cases negative : exponent < 0
    · rw [decide_eq_true negative]
      change -(exponent.natAbs : Int) = exponent
      omega
    · rw [decide_eq_false negative]
      change (exponent.natAbs : Int) = exponent
      omega
  unfold exponentText readExponent
  dsimp only
  rw [sign, if_pos ⟨isLetter, Nat.toDigits_ne_nil, toDigits_all _⟩, natOf_toDigits, value]

/-- The fraction of a number behind its point, which is left out before an empty fraction. -/
def fractionText (fraction : Text) : Text := if fraction = [] then [] else '.' :: fraction

/-- A text that starts neither with a digit nor with a point. -/
def EndsDigits (t : Text) : Prop := ∀ c rest, t = c :: rest → c.isDigit = false ∧ c ≠ '.'

/-- Digits are read up to the first character that is none. -/
theorem takeWhile_digits {digits tail : Text} (all : digits.all Char.isDigit = true)
    (ends : ∀ c rest, tail = c :: rest → c.isDigit = false) :
    (digits ++ tail).takeWhile Char.isDigit = digits ∧
      (digits ++ tail).dropWhile Char.isDigit = tail := by
  have each : ∀ c ∈ digits, c.isDigit = true := List.all_eq_true.mp all
  rw [List.takeWhile_append_of_pos each, List.dropWhile_append_of_pos each]
  cases tail with
  | nil => simp
  | cons c rest => simp [ends c rest rfl]

/-- The digits behind the point are read back, if there are any. -/
theorem readFraction_fractionText {fraction tail : Text} (all : fraction.all Char.isDigit = true)
    (ends : EndsDigits tail) : readFraction (fractionText fraction ++ tail) = (fraction, tail) := by
  by_cases empty : fraction = []
  · subst empty
    simp only [fractionText, if_true, List.nil_append]
    unfold readFraction
    split
    · exact absurd rfl (ends _ _ rfl).2
    · rfl
  · have digits := takeWhile_digits all fun c rest eq => (ends c rest eq).1
    simp only [fractionText, empty, if_false, List.cons_append, readFraction, digits.1, digits.2]

/-- A point or an exponent ends the digits before it. -/
theorem endsDigits_fraction (fraction : Text) {tail : Text} (ends : EndsDigits tail) :
    ∀ c rest, fractionText fraction ++ tail = c :: rest → c.isDigit = false := by
  intro c rest eq
  by_cases empty : fraction = []
  · simp only [fractionText, empty, if_true, List.nil_append] at eq
    exact (ends c rest eq).1
  · simp only [fractionText, empty, if_false, List.cons_append, List.cons.injEq] at eq
    rw [← eq.1]
    decide

theorem isDigit_ne {c d : Char} (digit : c.isDigit = true) (other : d.isDigit = false) : c ≠ d := by
  rintro rfl
  simp [digit] at other

/-- The literal of a number, from its parts. -/
theorem readLiteral_number (negative : Bool) (whole fraction tail : Text) {exponent : Int}
    (nonempty : whole ≠ []) (wholeDigits : whole.all Char.isDigit = true)
    (fractionDigits : fraction.all Char.isDigit = true) (ends : EndsDigits tail)
    (tailExponent : readExponent tail = some exponent) :
    readLiteral (signText negative ++ (whole ++ (fractionText fraction ++ tail))) =
      some (.number (signed negative
        ((natOf (whole ++ fraction) : Rat) * 10 ^ (exponent - (fraction.length : Int))))) := by
  obtain ⟨d, digits, rfl⟩ := List.exists_cons_of_ne_nil nonempty
  have digit : d.isDigit = true := by
    simp only [List.all_cons, Bool.and_eq_true] at wholeDigits
    exact wholeDigits.1
  have parts := takeWhile_digits wholeDigits (endsDigits_fraction fraction ends)
  have sign : readSign (signText negative ++ (d :: digits ++ (fractionText fraction ++ tail))) =
      (negative, d :: digits ++ (fractionText fraction ++ tail)) :=
    readSign_signText negative (isDigit_ne digit rfl) (isDigit_ne digit rfl)
  have number : readNumber (signText negative ++ (d :: digits ++ (fractionText fraction ++ tail))) =
      some (signed negative
        ((natOf (d :: digits ++ fraction) : Rat) * 10 ^ (exponent - (fraction.length : Int)))) := by
    simp only [readNumber, sign, parts.1, parts.2, readFraction_fractionText fractionDigits ends,
      tailExponent]
    simp
  rw [← Option.map_some, ← number]
  generalize whole : d :: digits ++ (fractionText fraction ++ tail) = t
  have head : t.head? = some d := by
    rw [← whole]
    rfl
  unfold readLiteral
  cases negative with
  | true => simp [signText]
  | false =>
      have quote : d ≠ '\x27' := isDigit_ne digit rfl
      have hex : d ≠ 'X' := isDigit_ne digit rfl
      have null : d ≠ 'N' := isDigit_ne digit rfl
      obtain ⟨rest, rfl⟩ := List.head?_eq_some_iff.mp head
      simp only [signText, Bool.false_eq_true, if_false, List.nil_append, List.cons.injEq, null, false_and]
      split <;> simp_all

/-- The literal of a natural number. -/
theorem readLiteral_toDigits (n : Nat) :
    readLiteral (Nat.toDigits 10 n) = some (.number (n : Rat)) := by
  have literal := readLiteral_number false (Nat.toDigits 10 n) [] [] Nat.toDigits_ne_nil (toDigits_all n) rfl
    (fun _ _ impossible => nomatch impossible) rfl
  simpa [signText, fractionText, signed, natOf_toDigits] using literal

end SqlText
