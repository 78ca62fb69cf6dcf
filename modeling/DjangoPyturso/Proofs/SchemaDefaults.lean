/-
Module: DjangoPyturso.Proofs.SchemaDefaults
Layer: Proofs
Purpose: Schema defaults on their way to the driver. The copy statement of a table remake passes through
  placeholder conversion, which reads it piece by piece: names and glue stay as they are, and a literal is
  converted on its own. A default survives unless it is text with a `%%` or a decimal without a value.
Imports: Mathlib, DjangoPyturso.Model.TableRemake, DjangoPyturso.Proofs.Recognition
Trusted boundary: none
Main exports: Passes, passes_quoteValue, copyStatement_passes, DefaultValue.denotes, storable,
  survives_iff_storable, DefaultsSurvive, copyStatement_defaults
Open obligations: none
-/
import Mathlib
import DjangoPyturso.Model.TableRemake
import DjangoPyturso.Proofs.Recognition

namespace DjangoPyturso

open TextScan
open SqlText

/-! ### Pieces of a statement -/

/-- The characters that follow names and literals in a statement. -/
def separator (c : Char) : Bool := c == ',' || c == ')' || c == ' ' || c == '.'

/-- Text that starts with a separator, or no text. -/
def Separated (rest : Text) : Prop := ∀ c, rest.head? = some c → separator c = true

theorem Separated.ne {rest : Text} (separated : Separated rest) {quote : Char}
    (other : separator quote = false) : rest.head? ≠ some quote := by
  intro head
  rw [separated _ head] at other
  exact Bool.noConfusion other

theorem separated_append {x : Text} (starts : x.head?.any separator = true) (rest : Text) :
    Separated (x ++ rest) := by
  cases x with
  | nil => exact Bool.noConfusion starts
  | cons c x =>
      intro d head
      obtain rfl := Option.some.inj head
      exact starts

/-- Before `rest`, the reader passes over `x` and emits `x'`; it is back in code unless the text ends. -/
def PassesBefore (x x' rest : Text) : Prop :=
  ∃ es mode, (reader false).Reaches .sql (x ++ rest) es mode rest ∧
    es.flatMap (·.tokens) = x'.map .char ∧ (rest ≠ [] → mode = .sql)

/-- Before a separator, the reader passes over `x` and emits `x'`. -/
def Passes (x x' : Text) : Prop := ∀ rest, Separated rest → PassesBefore x x' rest

theorem PassesBefore.append {x x' y y' rest : Text} (first : PassesBefore x x' (y ++ rest))
    (second : PassesBefore y y' rest) : PassesBefore (x ++ y) (x' ++ y') rest := by
  obtain ⟨es, mode, reaches, tokens, back⟩ := first
  obtain ⟨es', mode', reaches', tokens', back'⟩ := second
  rw [PassesBefore, List.append_assoc]
  by_cases ended : y ++ rest = []
  · obtain ⟨rfl, rfl⟩ := List.append_eq_nil_iff.mp ended
    have nothing : y' = [] := by
      cases reaches'
      simpa using tokens'
    exact ⟨es, mode, reaches, by simp [tokens, nothing], fun impossible => absurd rfl impossible⟩
  · obtain rfl := back ended
    exact ⟨es ++ es', mode', reaches.trans reaches', by simp [tokens, tokens'], back'⟩

/-- A piece on its own is read as the characters the reader emits. -/
theorem Passes.readTokens_eq {x x' : Text} (passes : Passes x x') :
    readTokens false .sql x = x'.map .char := by
  obtain ⟨es, mode, reaches, tokens, _⟩ := passes [] (fun _ impossible => nomatch impossible)
  have reading := readTokens_of_reaches reaches
  rwa [List.append_nil, tokens, readTokens_nil, List.append_nil] at reading

theorem Passes.converted {x x' : Text} (passes : Passes x x') : converted x = x' := by
  rw [DjangoPyturso.converted, ← reader_tokens, passes.readTokens_eq, sqlText_map_char]

/-! ### Glue and numbers -/

/-- A character that neither opens a region nor starts a placeholder, whatever follows it. -/
def plainChar (c : Char) : Bool :=
  c != '-' && c != '/' && c != '\x27' && c != '\x22' && c != '\x60' && c != '[' && c != '%'

/-- Text of plain characters and single minus signs. -/
def calm : Text → Bool
  | [] => true
  | c :: rest =>
      (plainChar c || (c == '-' && rest.head?.any fun d => d != '-')) && calm rest

theorem calm_append {x y : Text} (first : calm x = true) (second : calm y = true) :
    calm (x ++ y) = true := by
  induction x with
  | nil => exact second
  | cons c x ih =>
      simp only [calm, Bool.and_eq_true] at first
      simp only [List.cons_append, calm, Bool.and_eq_true]
      refine ⟨?_, ih first.2⟩
      cases x with
      | nil => simpa using Or.inl first.1
      | cons d x => exact first.1

theorem calm_of_all {x : Text} (all : x.all plainChar = true) : calm x = true := by
  induction x with
  | nil => rfl
  | cons c x ih =>
      simp only [List.all_cons, Bool.and_eq_true] at all
      simp [calm, all.1, ih all.2]

/-- One calm character is a round of its own. -/
theorem readRound_calm {c : Char} {rest : Text}
    (quiet : plainChar c = true ∨ (c = '-' ∧ rest.head? ≠ some '-')) :
    ∃ native, readRound false .sql c rest = (⟨[.char c], native⟩, .sql, rest) := by
  have closed : opens (c :: rest) = none ∧ c ≠ '%' := by
    rcases quiet with plain | ⟨rfl, next⟩
    · simp only [plainChar, Bool.and_eq_true, bne_iff_ne, ne_eq] at plain
      obtain ⟨⟨⟨⟨⟨⟨minus, slash⟩, literal⟩, quote⟩, tick⟩, bracket⟩, percent⟩ := plain
      exact ⟨opens_eq_none (fun h => minus h.1) (fun h => slash h.1) literal quote tick bracket, percent⟩
    · exact ⟨opens_eq_none (fun h => next h.2) (by simp) (by decide) (by decide) (by decide) (by decide),
        by decide⟩
  refine ⟨isNative c, ?_⟩
  simp [readRound, closed.1, codeToken, closed.2, untilOpener_append]

/-- The reader passes over calm text without changing it. -/
theorem passesBefore_calm {x : Text} (quiet : calm x = true) (rest : Text) : PassesBefore x x rest := by
  have reached : ∃ es, (reader false).Reaches .sql (x ++ rest) es .sql rest ∧
      es.flatMap (·.tokens) = x.map .char := by
    induction x with
    | nil => exact ⟨[], .refl _ _, rfl⟩
    | cons c x ih =>
        simp only [calm, Bool.and_eq_true, Bool.or_eq_true, beq_iff_eq] at quiet
        obtain ⟨es, reaches, tokens⟩ := ih quiet.2
        have here : plainChar c = true ∨ (c = '-' ∧ (x ++ rest).head? ≠ some '-') := by
          refine quiet.1.imp_right fun minus => ⟨minus.1, ?_⟩
          cases x with
          | nil => simp at minus
          | cons d x => simpa using minus.2
        obtain ⟨native, round⟩ := readRound_calm here
        exact ⟨_, .round (congrArg Except.ok round) reaches, by simp [tokens]⟩
  obtain ⟨es, reaches, tokens⟩ := reached
  exact ⟨es, .sql, reaches, tokens, fun _ => rfl⟩

theorem passes_calm {x : Text} (quiet : calm x = true) : Passes x x :=
  fun rest _ => passesBefore_calm quiet rest

/-! ### Quoted text -/

/-- The reader passes over a quoted text, collapsing `%%` in a literal. -/
theorem passesBefore_quoted {quote : Char} (mode : Mode) (opened : ∀ t, opens (quote :: t) =
      some ([quote], mode, t)) (spanEq : ∀ t, span mode t = untilQuote quote t) (t : Text) {rest : Text}
    (single : rest.head? ≠ some quote) :
    PassesBefore (quoted quote t) (quote :: quotedText mode (doubled quote t ++ [quote])) rest := by
  have split := untilQuote_quoted quote t single
  obtain ⟨es, mode', reaches, tokens, _, back⟩ :=
    readsSpan false (opens_mode_ne_sql (opened [])) (doubled quote t ++ quote :: rest)
  rw [spanEq, split] at reaches tokens back
  have opening : (reader false).round .sql quote (doubled quote t ++ quote :: rest) =
      .ok (.text [quote], mode, doubled quote t ++ quote :: rest) := by
    change Except.ok (readRound _ _ _ _) = _
    rw [readRound]
    simp only [opened]
  refine ⟨.text [quote] :: es, mode', ?_, ?_, back⟩
  · rw [quoted, List.cons_append, List.append_assoc]
    exact .round opening reaches
  · rw [List.flatMap_cons, tokens]
    rfl

/-- Doubling quotes and collapsing percent signs do not meet. -/
theorem collapse_doubled {quote : Char} (notPercent : quote ≠ '%') (t : Text) :
    collapse (doubled quote t ++ [quote]) = doubled quote (collapse t) ++ [quote] := by
  have head : ∀ u : Text, (doubled quote u ++ [quote]).head? = some '%' ↔ u.head? = some '%' := by
    intro u
    cases u with
    | nil => simp [doubled, notPercent]
    | cons c u => by_cases isQuote : c = quote <;> simp [doubled, isQuote]
  induction t using scan_induction with
  | nil => simp [doubled, collapse]
  | cons c rest ih =>
      by_cases pair : c = '%' ∧ rest.head? = some '%'
      · obtain ⟨rfl, percent⟩ := pair
        obtain ⟨rest, rfl⟩ := List.head?_eq_some_iff.mp percent
        have tail := ih rest (by simp)
        simp [doubled, collapse, Ne.symm notPercent, tail]
      · have tail := ih rest (Nat.le_refl _)
        by_cases isQuote : c = quote
        · subst isQuote
          rw [collapse_cons (t := rest) (by simp [notPercent])]
          simp only [doubled, if_true, List.cons_append]
          rw [collapse_cons (by simp [notPercent]), collapse_cons (by simp [notPercent]), tail]
        · rw [collapse_cons pair]
          simp only [doubled, isQuote, if_false, List.cons_append]
          rw [collapse_cons (by rw [head]; exact pair), tail]

theorem passes_quoteText (t : Text) : Passes (quoteText t) (quoteText (collapse t)) := by
  intro rest separated
  have passes := passesBefore_quoted .literal (fun _ => rfl) (fun _ => rfl) t (separated.ne (by decide))
  rw [quotedText, collapse_doubled (by decide)] at passes
  exact passes

theorem passes_quotedName (name : Text) : Passes (quoted '\x22' name) (quoted '\x22' name) := by
  intro rest separated
  exact passesBefore_quoted (.identifier '\x22') (fun _ => rfl) (fun _ => rfl) name
    (separated.ne (by decide))

/-! ### The literals of defaults -/

theorem plainChar_of_isDigit {c : Char} (digit : c.isDigit = true) : plainChar c = true := by
  have ne : ∀ d : Char, d.isDigit = false → c ≠ d := fun d other => isDigit_ne digit other
  simp [plainChar, ne '-' rfl, ne '/' rfl, ne '\x27' rfl, ne '\x22' rfl, ne '\x60' rfl, ne '[' rfl,
    ne '%' rfl]

theorem calm_digits {digits : Text} (all : digits.all Char.isDigit = true) : calm digits = true := by
  apply calm_of_all
  rw [List.all_eq_true] at all ⊢
  exact fun c mem => plainChar_of_isDigit (all c mem)

theorem calm_cons {c : Char} (plain : plainChar c = true) {x : Text} (quiet : calm x = true) :
    calm (c :: x) = true := by
  rw [calm, plain, quiet]
  rfl

/-- A minus sign before calm text that starts with another character. -/
theorem calm_minus {x : Text} (quiet : calm x = true) (next : ∃ c rest, x = c :: rest ∧ c ≠ '-') :
    calm ('-' :: x) = true := by
  obtain ⟨c, rest, rfl, minus⟩ := next
  rw [calm, quiet, Bool.and_true]
  simp [minus]

theorem calm_signText (negative : Bool) {x : Text} (quiet : calm x = true)
    (next : ∃ c rest, x = c :: rest ∧ c ≠ '-') : calm (signText negative ++ x) = true := by
  cases negative with
  | false => exact quiet
  | true => exact calm_minus quiet next

theorem digits_cons {digits : Text} (nonempty : digits ≠ []) (all : digits.all Char.isDigit = true)
    (rest : Text) : ∃ c t, digits ++ rest = c :: t ∧ c ≠ '-' := by
  obtain ⟨c, digits, rfl⟩ := List.exists_cons_of_ne_nil nonempty
  simp only [List.all_cons, Bool.and_eq_true] at all
  exact ⟨c, digits ++ rest, rfl, isDigit_ne all.1 rfl⟩

theorem calm_strInt (n : Int) : calm (strInt n) = true := by
  have next := digits_cons Nat.toDigits_ne_nil (toDigits_all n.natAbs) []
  rw [List.append_nil] at next
  exact calm_signText _ (calm_digits (toDigits_all _)) next

theorem calm_fractionText {fraction : Text} (all : fraction.all Char.isDigit = true) :
    calm (fractionText fraction) = true := by
  unfold fractionText
  split
  · rfl
  · simp [calm, plainChar, calm_digits all]

theorem calm_exponentText (letter : Char) (plain : plainChar letter = true) (exponent : Int) :
    calm (exponentText letter exponent) = true := by
  have next := digits_cons Nat.toDigits_ne_nil (toDigits_all exponent.natAbs) []
  rw [List.append_nil] at next
  have digits := calm_digits (toDigits_all exponent.natAbs)
  apply calm_cons plain
  split
  · exact calm_minus digits next
  · exact calm_cons (by decide) digits

/-- The digits around the point of a decimal are digits, and one stands before it. -/
theorem decimalDigits_all {digits : Text} (nonempty : digits ≠ []) (all : digits.all Char.isDigit = true)
    (dotplace : Int) :
    (decimalDigits digits dotplace).1 ≠ [] ∧ (decimalDigits digits dotplace).1.all Char.isDigit = true ∧
      (decimalDigits digits dotplace).2.all Char.isDigit = true := by
  have each := List.all_eq_true.mp all
  unfold decimalDigits
  split
  · refine ⟨by simp, rfl, ?_⟩
    rw [List.all_append, all, Bool.and_true, List.all_replicate]
    simp
  · split
    · refine ⟨by simp [nonempty], ?_, rfl⟩
      rw [List.all_append, all, Bool.true_and, List.all_replicate]
      simp
    · next positive shorter =>
        have some : 0 < dotplace.toNat := by omega
        refine ⟨?_, ?_, ?_⟩
        · intro empty
          rcases List.take_eq_nil_iff.mp empty with zero | zero
          · omega
          · exact nonempty zero
        · exact List.all_eq_true.mpr fun c mem => each c (List.mem_of_mem_take mem)
        · exact List.all_eq_true.mpr fun c mem => each c (List.mem_of_mem_drop mem)

theorem calm_strDecimal (capitals : Bool) (d : Decimal) : calm (strDecimal capitals d) = true := by
  cases d with
  | infinity negative =>
      exact calm_signText negative (by decide) ⟨'I', _, rfl, by decide⟩
  | nan negative signaling payload =>
      have name : ∀ payload : Text, payload.all Char.isDigit = true →
          calm (signText negative ++ ((if signaling then "sNaN".toList else "NaN".toList) ++ payload)) =
            true := by
        intro payload all
        have letters : calm (if signaling then "sNaN".toList else "NaN".toList) = true := by
          cases signaling <;> decide
        apply calm_signText _ (calm_append letters (calm_digits all))
        cases signaling
        · exact ⟨'N', _, rfl, by decide⟩
        · exact ⟨'s', _, rfl, by decide⟩
      cases payload with
      | none => exact name [] rfl
      | some n => exact name _ (toDigits_all n)
  | finite negative coefficient exponent =>
      unfold strDecimal
      dsimp only
      generalize (if exponent ≤ 0 ∧ exponent + ↑(Nat.toDigits 10 coefficient).length > -6 then
        exponent + ↑(Nat.toDigits 10 coefficient).length else 1) = dotplace
      obtain ⟨nonempty, whole, fraction⟩ :=
        decimalDigits_all Nat.toDigits_ne_nil (toDigits_all coefficient) dotplace
      apply calm_signText
      · refine calm_append (calm_digits whole) (calm_append (calm_fractionText fraction) ?_)
        split
        · rfl
        · cases capitals
          · exact calm_exponentText _ (by decide) _
          · exact calm_exponentText _ (by decide) _
      · exact digits_cons nonempty whole _

/-- A float has no literal that denotes it exactly. -/
def DefaultValue.isFloat : DefaultValue → Bool
  | .float _ => true
  | _ => false

theorem collapse_eq_self {t : Text} (plain : '%' ∉ t) : collapse t = t := by
  induction t with
  | nil => rfl
  | cons c t ih =>
      simp only [List.mem_cons, not_or] at plain
      rw [collapse_cons (fun pair => plain.1 pair.1.symm), ih plain.2]

theorem doubled_eq_self {quote : Char} {t : Text} (plain : quote ∉ t) : doubled quote t = t := by
  induction t with
  | nil => rfl
  | cons c t ih =>
      simp only [List.mem_cons, not_or] at plain
      rw [doubled, if_neg (Ne.symm plain.1), ih plain.2]

theorem digitChar_plain {n : Nat} (digit : n < 16) : plainChar (Nat.digitChar n) = true := by
  revert n
  decide

theorem blobText_eq (bytes : List UInt8) :
    blobText bytes = ['X'] ++ quoteText (bytes.flatMap byteDigits) ∧
      collapse (bytes.flatMap byteDigits) = bytes.flatMap byteDigits := by
  have plain : ∀ c ∈ bytes.flatMap byteDigits, plainChar c = true := by
    intro c mem
    obtain ⟨b, _, digit⟩ := List.mem_flatMap.mp mem
    have small := b.toNat_lt
    simp only [byteDigits, List.mem_cons, List.not_mem_nil, or_false] at digit
    rcases digit with rfl | rfl
    · exact digitChar_plain (by omega)
    · exact digitChar_plain (by omega)
  have quote : '\x27' ∉ bytes.flatMap byteDigits := fun mem => absurd (plain _ mem) (by decide)
  have percent : '%' ∉ bytes.flatMap byteDigits := fun mem => absurd (plain _ mem) (by decide)
  refine ⟨?_, collapse_eq_self percent⟩
  rw [quoteText, quoted, doubled_eq_self quote]
  rfl

/-- What becomes of the literal of a default: text loses half of each `%%`. -/
def reachedValue : DefaultValue → DefaultValue
  | .str t => .str (collapse t)
  | .temporal iso => .temporal (collapse iso)
  | value => value

/-- The literals of defaults are converted on their own. -/
theorem passes_quoteValue (capitals : Bool) {value : DefaultValue} (exact : value.isFloat = false)
    {literal : Text} (quotes : quoteValue capitals value = .ok literal) :
    ∃ reached, quoteValue capitals (reachedValue value) = .ok reached ∧ Passes literal reached := by
  cases value with
  | float repr => simp [DefaultValue.isFloat] at exact
  | other typeName => simp [quoteValue] at quotes
  | str t | temporal t =>
      obtain rfl := Except.ok.inj quotes
      exact ⟨_, rfl, passes_quoteText t⟩
  | none =>
      obtain rfl := Except.ok.inj quotes
      exact ⟨_, rfl, passes_calm (by decide)⟩
  | bool b =>
      obtain rfl := Except.ok.inj quotes
      exact ⟨_, rfl, passes_calm (by cases b <;> decide)⟩
  | int n =>
      obtain rfl := Except.ok.inj quotes
      exact ⟨_, rfl, passes_calm (calm_strInt n)⟩
  | decimal d =>
      obtain rfl := Except.ok.inj quotes
      exact ⟨_, rfl, passes_calm (calm_strDecimal capitals d)⟩
  | bytes b =>
      obtain rfl := Except.ok.inj quotes
      refine ⟨_, rfl, ?_⟩
      obtain ⟨eq, unchanged⟩ := blobText_eq b
      have body := passes_quoteText (b.flatMap byteDigits)
      rw [unchanged] at body
      rw [eq]
      exact fun rest separated => (passesBefore_calm (by decide) _).append (body rest separated)

/-! ### What the literals denote -/

/-- The SQL value of a default. Special decimals have none; a float is not looked at. -/
def DefaultValue.denotes : DefaultValue → Option Value
  | .none => some .null
  | .bool b => some (.number (if b then 1 else 0))
  | .int n => some (.number n)
  | .decimal (.finite negative coefficient exponent) =>
      some (.number (signed negative ((coefficient : Rat) * 10 ^ exponent)))
  | .bytes b => some (.blob b)
  | .temporal iso => some (.text iso)
  | .str t => some (.text t)
  | .decimal _ | .float _ | .other _ => Option.none

theorem readLiteral_strInt (n : Int) : readLiteral (strInt n) = some (.number n) := by
  have literal := readLiteral_number (decide (n < 0)) (Nat.toDigits 10 n.natAbs) [] []
    Nat.toDigits_ne_nil (toDigits_all _) rfl (fun _ _ impossible => nomatch impossible) rfl
  have value : signed (decide (n < 0)) (n.natAbs : Rat) = (n : Rat) := by
    by_cases negative : n < 0
    · have abs : n = -(n.natAbs : Int) := by omega
      simp only [signed, negative, decide_true, if_true]
      rw [← Rat.intCast_natCast, ← Rat.intCast_neg, ← abs]
    · have abs : n = (n.natAbs : Int) := by omega
      simp only [signed, negative, decide_false, Bool.false_eq_true, if_false]
      rw [← Rat.intCast_natCast, ← abs]
  have parts : strInt n = signText (decide (n < 0)) ++ (Nat.toDigits 10 n.natAbs ++ (fractionText [] ++ [])) := by
    rw [fractionText, if_pos rfl, List.append_nil, List.append_nil]
    rfl
  rw [parts, literal, List.append_nil, natOf_toDigits]
  change some (Value.number (signed (decide (n < 0)) ((n.natAbs : Rat) * 10 ^ (0 : Int)))) = _
  rw [Rat.zpow_zero, Rat.mul_one, value]

theorem natOf_zeros (n : Nat) (digits : Text) : natOf (List.replicate n '0' ++ digits) = natOf digits := by
  simp [natOf, Nat.ofDigitChars_append]

theorem natOf_append_zeros (n : Nat) (digits : Text) :
    natOf (digits ++ List.replicate n '0') = 10 ^ n * natOf digits := by
  simp [natOf, Nat.ofDigitChars_append]

/-- The digits around the point denote the coefficient, shifted by what the exponent makes up for. -/
theorem decimalDigits_value {digits : Text} (dotplace exponent : Int) :
    ((natOf ((decimalDigits digits dotplace).1 ++ (decimalDigits digits dotplace).2) : Nat) : Rat) *
        10 ^ (exponent + digits.length - dotplace - ((decimalDigits digits dotplace).2.length : Int)) =
      (natOf digits : Rat) * 10 ^ exponent := by
  unfold decimalDigits
  split
  · next left =>
      have zeros : natOf (['0'] ++ (List.replicate (-dotplace).toNat '0' ++ digits)) = natOf digits := by
        have more := natOf_zeros ((-dotplace).toNat + 1) digits
        rwa [List.replicate_succ] at more
      have power : exponent + digits.length - dotplace -
          ((List.replicate (-dotplace).toNat '0' ++ digits).length : Int) = exponent := by
        simp only [List.length_append, List.length_replicate]
        omega
      rw [zeros, power]
  · split
    · next positive right =>
        have power : exponent + digits.length - dotplace - (([] : Text).length : Int) =
            exponent - ((dotplace - digits.length).toNat : Int) := by
          simp only [List.length_nil]
          omega
        have split : exponent =
            ((dotplace - digits.length).toNat : Int) + (exponent - ((dotplace - digits.length).toNat : Int)) := by
          omega
        have shifted : (10 : Rat) ^ exponent = 10 ^ (dotplace - digits.length).toNat *
            10 ^ (exponent - ((dotplace - digits.length).toNat : Int)) := by
          rw [← Rat.zpow_natCast, ← Rat.zpow_add (by decide), ← split]
        rw [power, List.append_nil, natOf_append_zeros, shifted, Rat.natCast_mul, Rat.natCast_pow,
          Rat.mul_comm (_ ^ _) _, Rat.mul_assoc]
        rfl
    · next positive inside =>
        have power : exponent + digits.length - dotplace - ((digits.drop dotplace.toNat).length : Int) =
            exponent := by
          simp only [List.length_drop]
          omega
        rw [power, List.take_append_drop]

/-- The exponent `str` prints, or leaves out if the point is in place. -/
theorem readExponent_tail {letter : Char} (isLetter : letter = 'e' ∨ letter = 'E') (left place : Int) :
    EndsDigits (if left = place then [] else exponentText letter (left - place)) ∧
      readExponent (if left = place then [] else exponentText letter (left - place)) =
        some (left - place) := by
  by_cases inPlace : left = place
  · subst inPlace
    rw [if_pos rfl, Int.sub_self]
    constructor
    · intro c rest impossible
      exact nomatch impossible
    · rfl
  · rw [if_neg inPlace]
    refine ⟨?_, readExponent_exponentText isLetter _⟩
    intro c rest eq
    simp only [exponentText, List.cons.injEq] at eq
    rw [← eq.1]
    rcases isLetter with rfl | rfl <;> decide

theorem readLiteral_strDecimal (capitals negative : Bool) (coefficient : Nat) (exponent : Int) :
    readLiteral (strDecimal capitals (.finite negative coefficient exponent)) =
      some (.number (signed negative ((coefficient : Rat) * 10 ^ exponent))) := by
  unfold strDecimal
  dsimp only
  generalize (if exponent ≤ 0 ∧ exponent + ↑(Nat.toDigits 10 coefficient).length > -6 then
    exponent + ↑(Nat.toDigits 10 coefficient).length else 1) = dotplace
  obtain ⟨nonempty, whole, fraction⟩ :=
    decimalDigits_all Nat.toDigits_ne_nil (toDigits_all coefficient) dotplace
  have letter : (if capitals = true then 'E' else 'e') = 'e' ∨ (if capitals = true then 'E' else 'e') = 'E' := by
    cases capitals
    · exact .inl rfl
    · exact .inr rfl
  obtain ⟨ends, tail⟩ := readExponent_tail letter (exponent + (Nat.toDigits 10 coefficient).length) dotplace
  rw [readLiteral_number negative _ _ _ nonempty whole fraction ends tail, decimalDigits_value,
    natOf_toDigits]

/-- `quote_value` prints a literal of the value, if the value has one. -/
theorem quoteValue_denotes (capitals : Bool) {value : DefaultValue} {literal : Text} {denoted : Value}
    (denotes : value.denotes = some denoted) (quotes : quoteValue capitals value = .ok literal) :
    readLiteral literal = some denoted := by
  rw [← denotes]
  cases value with
  | none =>
      obtain rfl := Except.ok.inj quotes
      rfl
  | bool b =>
      obtain rfl := Except.ok.inj quotes
      cases b
      · exact readLiteral_toDigits 0
      · exact readLiteral_toDigits 1
  | int n =>
      obtain rfl := Except.ok.inj quotes
      exact readLiteral_strInt n
  | decimal d =>
      obtain rfl := Except.ok.inj quotes
      cases d with
      | finite negative coefficient exponent =>
          exact readLiteral_strDecimal capitals negative coefficient exponent
      | infinity | nan => simp [DefaultValue.denotes] at denotes
  | bytes b =>
      obtain rfl := Except.ok.inj quotes
      exact readLiteral_blobText b
  | temporal t | str t =>
      obtain rfl := Except.ok.inj quotes
      exact readLiteral_quoteText t
  | float repr => simp [DefaultValue.denotes] at denotes
  | other typeName => simp [DefaultValue.denotes] at denotes

/-! ### Which defaults survive -/

/-- Two percent signs next to each other. -/
def doublePercent : Text → Bool
  | [] => false
  | c :: rest => (c == '%' && rest.head? == some '%') || doublePercent rest

theorem collapse_length_le (t : Text) : (collapse t).length ≤ t.length := by
  induction t using scan_induction with
  | nil => exact Nat.le_refl _
  | cons c rest ih =>
      by_cases pair : c = '%' ∧ rest.head? = some '%'
      · obtain ⟨rfl, percent⟩ := pair
        obtain ⟨rest, rfl⟩ := List.head?_eq_some_iff.mp percent
        have tail := ih rest (by simp)
        simp only [collapse, and_self, if_true, List.length_cons]
        omega
      · rw [collapse_cons pair]
        exact Nat.succ_le_succ (ih rest (Nat.le_refl _))

/-- Collapsing changes exactly the texts with two percent signs next to each other. -/
theorem collapse_eq_self_iff (t : Text) : collapse t = t ↔ doublePercent t = false := by
  induction t with
  | nil => simp [collapse, doublePercent]
  | cons c rest ih =>
      by_cases pair : c = '%' ∧ rest.head? = some '%'
      · obtain ⟨rfl, percent⟩ := pair
        obtain ⟨rest, rfl⟩ := List.head?_eq_some_iff.mp percent
        have shorter := collapse_length_le rest
        constructor
        · intro same
          have lengths := congrArg List.length same
          simp only [collapse, and_self, if_true, List.length_cons] at lengths
          omega
        · intro plain
          simp [doublePercent] at plain
      · have apart : (c == '%' && rest.head? == some '%') = false := by
          rw [Bool.eq_false_iff]
          simpa using pair
        rw [collapse_cons pair, doublePercent, apart, Bool.false_or, ← ih]
        simp

/-- Text without `%%`, and anything else but a special decimal. -/
def storable : DefaultValue → Bool
  | .str t | .temporal t => !doublePercent t
  | .decimal (.infinity _) | .decimal (.nan _ _ _) => false
  | _ => true

/-- The literal `quote_value` prints for a default reaches the driver as a single literal of the same
    value. -/
def Survives (capitals : Bool) (value : DefaultValue) : Prop :=
  ∀ literal, quoteValue capitals value = .ok literal →
    ∃ denoted, value.denotes = some denoted ∧ readLiteral (converted literal) = some denoted

theorem survives_iff_storable (capitals : Bool) {value : DefaultValue} (exact : value.isFloat = false)
    (accepted : ∃ literal, quoteValue capitals value = .ok literal) :
    Survives capitals value ↔ storable value = true := by
  obtain ⟨literal, quotes⟩ := accepted
  obtain ⟨reached, quotesReached, passes⟩ := passes_quoteValue capitals exact quotes
  have only : Survives capitals value ↔
      ∃ denoted, value.denotes = some denoted ∧ readLiteral reached = some denoted := by
    rw [← passes.converted]
    constructor
    · intro survives
      exact survives literal quotes
    · intro denotes other quotesOther
      obtain rfl := Except.ok.inj (quotes.symm.trans quotesOther)
      exact denotes
  rw [only]
  have unchanged : reachedValue value = value → (∃ denoted, value.denotes = some denoted) →
      ∃ denoted, value.denotes = some denoted ∧ readLiteral reached = some denoted := by
    rintro same ⟨denoted, denotes⟩
    rw [same] at quotesReached
    exact ⟨denoted, denotes, quoteValue_denotes capitals denotes quotesReached⟩
  cases value with
  | none | bool | int | bytes => simpa [storable] using unchanged rfl ⟨_, rfl⟩
  | float repr => simp [DefaultValue.isFloat] at exact
  | other typeName => simp [quoteValue] at quotes
  | decimal d =>
      cases d with
      | finite => simpa [storable] using unchanged rfl ⟨_, rfl⟩
      | infinity | nan => simp [storable, DefaultValue.denotes]
  | str t | temporal t =>
      obtain rfl := Except.ok.inj quotesReached
      simp only [DefaultValue.denotes, Option.some.injEq, exists_eq_left', readLiteral_quoteText,
        Value.text.injEq, collapse_eq_self_iff, storable, Bool.not_eq_true']

/-! ### The copy statement -/

theorem Passes.after_calm {x y y' : Text} (quiet : calm x = true) (second : Passes y y') :
    Passes (x ++ y) (x ++ y') :=
  fun rest after => (passesBefore_calm quiet _).append (second rest after)

/-- A piece, glue that starts with a separator, and what follows it. -/
theorem Passes.glue {x x' y y' : Text} (first : Passes x x') (glue : Text) (second : Passes y y')
    (starts : glue.head?.any separator = true := by decide) (quiet : calm glue = true := by decide) :
    Passes (x ++ (glue ++ y)) (x' ++ (glue ++ y')) := by
  intro rest after
  have piece := first (glue ++ (y ++ rest)) (separated_append starts _)
  rw [← List.append_assoc] at piece
  exact piece.append (second.after_calm quiet rest after)

theorem passes_quotedPath (names : List Text) : Passes (quotedPath names) (quotedPath names) := by
  induction names with
  | nil => exact passes_calm rfl
  | cons name names ih =>
      cases names with
      | nil => exact passes_quotedName name
      | cons next names =>
          exact (passes_quotedName name).glue ['.'] ih

theorem passes_quoteName (name : SchemaName) : Passes (quoteName name.text) (quoteName name.text) := by
  unfold quoteName
  split
  · next before =>
      obtain ⟨names, path⟩ := name.quotedBefore before
      rw [path]
      exact passes_quotedPath names
  · exact passes_quotedName name.text

/-- The name of the replacement table does not start with a quote. -/
theorem passes_replacementTable (table : SchemaName) :
    Passes (quoteName (replacementTable table)) (quoteName (replacementTable table)) := by
  have fresh : ¬((replacementTable table).head? = some '\x22' ∧
      (replacementTable table).getLast? = some '\x22') := by
    intro both
    have first : (replacementTable table).head? = some 'n' := rfl
    rw [first] at both
    exact absurd both.1 (by decide)
  rw [quoteName, if_neg fresh]
  exact passes_quotedName _

theorem passes_joinComma {α : Type} {f f' : α → Text} {entries : List α}
    (each : ∀ entry ∈ entries, Passes (f entry) (f' entry)) :
    Passes (joinComma (entries.map f)) (joinComma (entries.map f')) := by
  induction entries with
  | nil => exact passes_calm rfl
  | cons entry entries ih =>
      have head := each entry List.mem_cons_self
      have tail := ih fun later mem => each later (List.mem_cons_of_mem _ mem)
      cases entries with
      | nil => exact head
      | cons next entries =>
          exact head.glue _ tail

/-- The literals of a source are converted on their own. -/
theorem passes_source {source : Source Text}
    (literals : ∀ literal ∈ source.value?, Passes literal (converted literal)) :
    Passes source.sql (source.map converted).sql := by
  cases source with
  | column name => exact passes_quoteName name
  | default literal => exact literals literal rfl
  | coalesce name literal =>
      have close := (literals literal rfl).glue [')'] (passes_calm (x := []) rfl)
      exact ((passes_quoteName name).glue _ close).after_calm (by decide)

/-- The copied columns with the literals that reach the driver. -/
def reachedSources (prepared : List (SchemaName × Source Text)) : List (SchemaName × Source Text) :=
  prepared.map fun entry => (entry.1, entry.2.map converted)

theorem copyStatement_passes (table : SchemaName) {prepared : List (SchemaName × Source Text)}
    (literals : ∀ entry ∈ prepared, ∀ literal ∈ entry.2.value?, Passes literal (converted literal)) :
    Passes (copyStatement table prepared) (copyStatement table (reachedSources prepared)) := by
  have columnsEq : ((reachedSources prepared).map fun entry => quoteName entry.1.text) =
      prepared.map fun entry => quoteName entry.1.text := by
    rw [reachedSources, List.map_map]
    rfl
  have sourcesEq : ((reachedSources prepared).map fun entry => entry.2.sql) =
      prepared.map fun entry => (entry.2.map converted).sql := by
    rw [reachedSources, List.map_map]
    rfl
  have columns := passes_joinComma fun (entry : SchemaName × Source Text) (_ : entry ∈ prepared) =>
    passes_quoteName entry.1
  have sources := passes_joinComma fun entry mem => passes_source (literals entry mem)
  have select := sources.glue " FROM ".toList (passes_quoteName table)
  have target := columns.glue ") SELECT ".toList select
  have insert := (passes_replacementTable table).glue " (".toList target
  have whole := insert.after_calm (x := "INSERT INTO ".toList) (by decide)
  unfold copyStatement
  rw [columnsEq, sourcesEq]
  exact whole

/-- Text that passes is handed to the driver as it passes, with no parameters. -/
theorem Passes.executes {V : Type} {x x' : Text} (passes : Passes x x') :
    executeBindings x (.sequence ([] : List V)) = .ok (x', .values []) := by
  obtain ⟨b, converts, tokens, _⟩ := convertPlaceholders_none x
  rw [← reader_tokens, passes.readTokens_eq] at tokens
  have names : b.requiredNames = [] := requiredNames_positional converts
  have count : b.positionalCount = 0 := by
    rw [QueryBindings.positionalCount, positionalCount, tokens]
    exact List.count_eq_zero.mpr fun mem => by simp at mem
  have text : b.query = x' := by rw [QueryBindings.query, tokens, sqlText_map_char]
  have accepts : b.prepareParams (.sequence ([] : List V)) = .ok (.values []) := by
    simp [QueryBindings.prepareParams, names, count, Parameters.isMapping, Parameters.items,
      Parameters.bound]
  have run : convertPlaceholders x (Parameters.sequence ([] : List V)).paramNames = .ok b := converts
  rw [executeBindings, run]
  change (b.prepareParams _ >>= fun values => pure (b.query, values)) = _
  rw [accepts, text]
  rfl

/-! ### Defaults on their way to the driver -/

/-- What the copy of the rows promises: the statement reaches the driver with nothing but its literals
    converted, and each converted literal denotes its default. -/
structure DefaultsSurvive (capitals : Bool) (table : SchemaName)
    (mapping : List (SchemaName × Source DefaultValue)) (prepared : List (SchemaName × Source Text)) :
    Prop where
  statement : executeBindings (copyStatement table prepared) (.sequence ([] : List Value)) =
    .ok (copyStatement table (reachedSources prepared), .values [])
  literals : ∀ entry ∈ mapping, ∀ value ∈ entry.2.value?, Survives capitals value

theorem Source.mapM_values {α β : Type} {f : α → Except String β} {source : Source α}
    {prepared : Source β} (mapped : source.mapM f = .ok prepared) :
    (∀ value ∈ source.value?, ∃ literal, f value = .ok literal) ∧
      ∀ literal ∈ prepared.value?, ∃ value ∈ source.value?, f value = .ok literal := by
  cases source with
  | column name =>
      obtain rfl := Except.ok.inj mapped
      simp [Source.value?]
  | default value | coalesce name value =>
      cases prints : f value with
      | error e => simp [Source.mapM, prints, Except.map] at mapped
      | ok literal =>
          simp only [Source.mapM, prints, Except.map, Except.ok.injEq] at mapped
          subst mapped
          simp [Source.value?, prints]

/-- The literals of prepared sources are those `quote_value` prints for the defaults. -/
theorem prepareSources_literals {capitals : Bool} {mapping : List (SchemaName × Source DefaultValue)}
    {prepared : List (SchemaName × Source Text)} (prepares : prepareSources capitals mapping = .ok prepared) :
    (∀ entry ∈ mapping, ∀ value ∈ entry.2.value?, ∃ literal, quoteValue capitals value = .ok literal) ∧
      ∀ entry ∈ prepared, ∀ literal ∈ entry.2.value?,
        ∃ source ∈ mapping, ∃ value ∈ source.2.value?, quoteValue capitals value = .ok literal := by
  induction mapping generalizing prepared with
  | nil =>
      obtain rfl := Except.ok.inj prepares
      simp
  | cons entry mapping ih =>
      obtain ⟨column, source⟩ := entry
      rw [prepareSources] at prepares
      cases here : source.mapM (prepareDefault capitals) with
      | error e => simp [here] at prepares
      | ok first =>
          cases later : prepareSources capitals mapping with
          | error e => simp [here, later, Except.map] at prepares
          | ok rest =>
              simp only [here, later, Except.map, Except.ok.injEq] at prepares
              subst prepares
              obtain ⟨accepted, printed⟩ := Source.mapM_values here
              obtain ⟨acceptedLater, printedLater⟩ := ih later
              constructor
              · intro entry mem
                rcases List.mem_cons.mp mem with rfl | mem
                · exact accepted
                · exact acceptedLater entry mem
              · intro entry mem literal holds
                rcases List.mem_cons.mp mem with rfl | mem
                · obtain ⟨value, default, prints⟩ := printed literal holds
                  exact ⟨_, List.mem_cons_self, value, default, prints⟩
                · obtain ⟨source, sourceMem, value, default, prints⟩ := printedLater entry mem literal holds
                  exact ⟨source, List.mem_cons_of_mem _ sourceMem, value, default, prints⟩

/-- The defaults of a table remake survive exactly if none is text with two percent signs next to each
    other or a decimal without a value. -/
theorem copyStatement_defaults {capitals : Bool} (table : SchemaName)
    {mapping : List (SchemaName × Source DefaultValue)} {prepared : List (SchemaName × Source Text)}
    (exact : ∀ entry ∈ mapping, ∀ value ∈ entry.2.value?, value.isFloat = false)
    (prepares : prepareSources capitals mapping = .ok prepared) :
    DefaultsSurvive capitals table mapping prepared ↔
      ∀ entry ∈ mapping, ∀ value ∈ entry.2.value?, storable value = true := by
  obtain ⟨accepted, printed⟩ := prepareSources_literals prepares
  have each : ∀ entry ∈ mapping, ∀ value ∈ entry.2.value?,
      (Survives capitals value ↔ storable value = true) := fun entry mem value holds =>
    survives_iff_storable capitals (exact entry mem value holds) (accepted entry mem value holds)
  have passes : ∀ entry ∈ prepared, ∀ literal ∈ entry.2.value?, Passes literal (converted literal) := by
    intro entry mem literal holds
    obtain ⟨source, sourceMem, value, default, prints⟩ := printed entry mem literal holds
    obtain ⟨reached, _, passes⟩ := passes_quoteValue capitals (exact source sourceMem value default) prints
    rwa [passes.converted]
  constructor
  · intro survive entry mem value holds
    exact (each entry mem value holds).mp (survive.literals entry mem value holds)
  · intro plain
    refine ⟨(copyStatement_passes table passes).executes, fun entry mem value holds => ?_⟩
    exact (each entry mem value holds).mpr (plain entry mem value holds)

/-- The name `t`, which is not quoted. -/
def plainName : SchemaName := ⟨['t'], fun both => absurd both.1 (by decide)⟩

theorem copyStatement_defaults_percent :
    DefaultsSurvive true plainName [(plainName, .coalesce plainName (.str "it's 50% %s".toList))]
      [(plainName, .coalesce plainName "'it''s 50% %s'".toList)] :=
  (copyStatement_defaults plainName (by simp [Source.value?, DefaultValue.isFloat]) rfl).mpr
    (by simp [Source.value?]; decide)

/-- The default `100%%` is stored as `100%`. -/
theorem copyStatement_defaults_fails :
    prepareSources true [(plainName, .default (.str "100%%".toList))] =
        .ok [(plainName, .default "'100%%'".toList)] ∧
      executeBindings (copyStatement plainName [(plainName, .default "'100%%'".toList)])
          (.sequence ([] : List Value)) =
        .ok ("INSERT INTO \"new__t\" (\"t\") SELECT '100%' FROM \"t\"".toList, .values []) ∧
      ¬DefaultsSurvive true plainName [(plainName, .default (.str "100%%".toList))]
        [(plainName, .default "'100%%'".toList)] := by
  refine ⟨rfl, rfl, ?_⟩
  intro survive
  obtain ⟨denoted, denotes, reads⟩ := survive.literals _ List.mem_cons_self _ rfl _ rfl
  obtain rfl := Option.some.inj denotes
  exact absurd reads (by decide)

end DjangoPyturso
