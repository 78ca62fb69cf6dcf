/-
Module: DjangoPyturso.Proofs.InspectedTypes
Layer: Proofs
Purpose: What introspection reports of the table of a model: for every column its name, its length, whether it may be
  NULL, its collation, and the type of its field, up to the types that share a column type.
Imports: DjangoPyturso.Model.FieldTypes, DjangoPyturso.Proofs.ColumnDeclarations, DjangoPyturso.Proofs.CommentInsertion
Trusted boundary: human-stated account of the tokens of a declared type and of the rows of the pragma
Main exports: InternalType.inspected, fieldTypeOf_dataTypes, SpellsType, Tests, ModelTable, StoredModel, Inspected,
  description_inspected
Open obligations: none
-/
import DjangoPyturso.Model.FieldTypes
import DjangoPyturso.Proofs.ColumnDeclarations
import DjangoPyturso.Proofs.CommentInsertion

namespace DjangoPyturso

open SqlText

/-! ### Field types -/

/-- The type that is reported of a field; types that share a column type come back as one of them. A column of an
    integer type that alone is the primary key is taken for an automatic field, whether it is one or not. -/
def InternalType.inspected (primaryKey : Bool) : InternalType → InternalType
  | .autoField | .bigAutoField | .smallAutoField | .integerField => if primaryKey then .autoField else .integerField
  | .bigIntegerField | .durationField => if primaryKey then .autoField else .bigIntegerField
  | .smallIntegerField => if primaryKey then .autoField else .smallIntegerField
  | .fileField | .filePathField | .slugField | .ipAddressField | .genericIPAddressField | .uuidField => .charField
  | type => type

/-- `str.lower`, on the characters of ASCII. -/
def LowersAscii (lower : Text → Text) : Prop := ∀ t, (∀ c ∈ t, c.toNat < 128) → lower t = t.map Char.toLower

/-- The engine reports a declared type with its argument or without. -/
def ReportsType (declared reported : Text) : Prop := reported = declared ∨ reported = declared.takeWhile (· ≠ '(')

theorem withLength_cut {type : Text} (plain : '(' ∉ type) (length : Text) :
    (withLength type length).takeWhile (· ≠ '(') = type := by
  have all : ∀ c ∈ type, decide (c ≠ '(') = true := fun c mem => decide_eq_true fun same => plain (same ▸ mem)
  rw [withLength, List.takeWhile_append_of_pos all, List.takeWhile_cons_of_neg (by decide), List.append_nil]

/-- The length that the type of a field declares. -/
def declaredLength (maxLength : Option Nat) : InternalType → Option Nat
  | .charField | .fileField | .filePathField | .slugField => maxLength
  | .ipAddressField => some 15
  | .genericIPAddressField => some 39
  | .uuidField => some 32
  | _ => none

/-- The `max_length` of a field is the argument of its type, or does not matter. -/
theorem dataTypes_some (n : Nat) (type : InternalType) :
    (dataTypes (some n) type = dataTypes none type ∧ declaredLength (some n) type = declaredLength none type) ∨
    (dataTypes (some n) type = withLength "varchar".toList (Nat.toDigits 10 n) ∧
      declaredLength (some n) type = some n ∧ (dataTypes none type).takeWhile (· ≠ '(') = "varchar".toList) := by
  cases type with
  | charField | fileField | filePathField | slugField => exact .inr ⟨rfl, rfl, rfl⟩
  | _ => exact .inl ⟨rfl, rfl⟩

/-- The argument of a declared type does not matter for its name. -/
theorem dataTypes_cut (maxLength : Option Nat) (type : InternalType) :
    (dataTypes maxLength type).takeWhile (· ≠ '(') = (dataTypes none type).takeWhile (· ≠ '(') := by
  cases maxLength with
  | none => rfl
  | some n =>
      rcases dataTypes_some n type with ⟨same, -⟩ | ⟨varchar, -, name⟩
      · rw [same]
      · rw [varchar, withLength_cut (by decide), name]

/-- The characters of a declared type are those of ASCII. -/
def Ascii (t : Text) : Prop := ∀ c ∈ t, c.toNat < 128

theorem withLength_ascii {type length : Text} (first : Ascii type) (second : Ascii length) :
    Ascii (withLength type length) := by
  intro c mem
  rcases List.mem_append.mp mem with front | back
  · exact first c front
  · rcases List.mem_cons.mp back with rfl | inside
    · decide
    · rcases List.mem_append.mp inside with digits | last
      · exact second c digits
      · rw [List.mem_singleton.mp last]
        decide

theorem toDigits_ascii (n : Nat) : Ascii (Nat.toDigits 10 n) := by
  intro c mem
  have digit := Nat.isDigit_of_mem_toDigits (by decide) (by decide) mem
  have range : 48 ≤ c.toNat ∧ c.toNat ≤ 57 := by
    simpa [Char.isDigit, UInt32.le_iff_toNat_le] using digit
  omega

theorem dataTypes_ascii (maxLength : Option Nat) (type : InternalType) : Ascii (dataTypes maxLength type) := by
  have checked : ∀ type, (dataTypes none type).all (fun c => decide (c.toNat < 128)) = true := by
    intro type
    cases type <;> rfl
  have constant : ∀ type, Ascii (dataTypes none type) := by
    intro type c mem
    exact of_decide_eq_true (List.all_eq_true.mp (checked type) c mem)
  cases maxLength with
  | none => exact constant type
  | some n =>
      rcases dataTypes_some n type with ⟨same, -⟩ | ⟨varchar, -⟩
      · rw [same]
        exact constant type
      · rw [varchar]
        exact withLength_ascii (constant .charField) (toDigits_ascii n)

theorem toLower_paren (c : Char) : c.toLower = '(' ↔ c = '(' := by
  constructor
  · intro same
    have upper : ∀ n < 91, 65 ≤ n → (Char.ofNat n).toLower ≠ '(' := by decide
    by_cases letter : 65 ≤ c.toNat ∧ c.toNat ≤ 90
    · have other := upper c.toNat (by omega) letter.1
      rw [Char.ofNat_toNat] at other
      exact absurd same other
    · unfold Char.toLower at same
      split at same
      · next is => exact absurd ⟨UInt32.le_iff_toNat_le.mp is.1, UInt32.le_iff_toNat_le.mp is.2⟩ letter
      · exact same
  · rintro rfl
    rfl

theorem cut_toLower (t : Text) :
    (t.map Char.toLower).takeWhile (· ≠ '(') = (t.takeWhile (· ≠ '(')).map Char.toLower := by
  rw [List.takeWhile_map]
  congr 2
  funext c
  simp [toLower_paren]

theorem ReportsType.cut {declared reported : Text} (reports : ReportsType declared reported) :
    reported.takeWhile (· ≠ '(') = declared.takeWhile (· ≠ '(') := by
  rcases reports with rfl | rfl
  · rfl
  · rw [List.takeWhile_takeWhile]
    simp

theorem ReportsType.ascii {declared reported : Text} (reports : ReportsType declared reported)
    (ascii : Ascii declared) : Ascii reported := by
  rcases reports with rfl | rfl
  · exact ascii
  · exact fun c mem => ascii c ((List.takeWhile_sublist _).subset mem)

/-- The type that is looked up for the column of a field. -/
theorem fieldTypeOf_dataTypes {lower : Text → Text} (lowers : LowersAscii lower) {maxLength : Option Nat}
    {type : InternalType} {reported : Text} (reports : ReportsType (dataTypes maxLength type) reported) :
    fieldTypeOf lower reported = if type = .jsonField then .textField else type.inspected false := by
  have name : declaredName lower reported =
      stripSpace (((dataTypes none type).takeWhile (· ≠ '(')).map Char.toLower) := by
    unfold declaredName
    rw [lowers _ (reports.ascii (dataTypes_ascii _ _)), cut_toLower, reports.cut, dataTypes_cut]
  unfold fieldTypeOf
  rw [name]
  cases type <;> rfl

theorem getFieldType_dataTypes {lower : Text → Text} (lowers : LowersAscii lower) {maxLength : Option Nat}
    {type : InternalType} {info : FieldInfo} (reports : ReportsType (dataTypes maxLength type) info.typeCode)
    (json : info.hasJsonConstraint = decide (type = .jsonField)) :
    getFieldType lower info = type.inspected info.pk := by
  unfold getFieldType
  rw [fieldTypeOf_dataTypes lowers reports, json]
  cases info.pk <;> cases type <;> rfl

/-- The reported type of a field is the one that the features promise. -/
theorem inspected_promised {type promised : InternalType} (promises : introspectedFieldTypes type = some promised) :
    type.inspected (dataTypesSuffix type).isSome = promised := by
  cases type <;> cases promises <;> rfl

/-! ### Lengths -/

theorem decimalValue_digit {c : Char} (digit : c.isDigit = true) : decimalValue c = some (c.toNat - '0'.toNat) := by
  have range : 48 ≤ c.toNat ∧ c.toNat ≤ 57 := by
    simpa [Char.isDigit, UInt32.le_iff_toNat_le] using digit
  have each : ∀ n < 58, 48 ≤ n → decimalValue (Char.ofNat n) = some (n - '0'.toNat) := by decide
  have value := each c.toNat (by omega) range.1
  rwa [Char.ofNat_toNat] at value

/-- The decimal digits of ASCII are read alike. -/
theorem decimalNumber_digits {digits : Text} (all : digits.all Char.isDigit = true) :
    decimalNumber digits = natOf digits := by
  have fold : ∀ (digits : Text) (start : Nat), digits.all Char.isDigit = true →
      digits.foldl (fun n c => 10 * n + (decimalValue c).getD 0) start = Nat.ofDigitChars 10 digits start := by
    intro digits
    induction digits with
    | nil => exact fun _ _ => Nat.ofDigitChars_nil.symm
    | cons c digits ih =>
        intro start all
        rw [List.all_cons, Bool.and_eq_true] at all
        rw [List.foldl_cons, decimalValue_digit all.1, Option.getD_some, Nat.ofDigitChars_cons]
        exact ih _ all.2
  exact fold digits 0 all

theorem numeralText_toDigits (n : Nat) : NumeralText (Nat.toDigits 10 n) n := by
  have digits := toDigits_all n
  refine ⟨[], Nat.toDigits 10 n, [], by simp, nofun, nofun, Nat.toDigits_ne_nil, fun c mem => ?_, ?_⟩
  · rw [isDecimal, decimalValue_digit (List.all_eq_true.mp digits c mem)]
    rfl
  · rw [decimalNumber_digits digits, natOf_toDigits]

theorem getFieldSize_varchar (n : Nat) : getFieldSize (withLength "varchar".toList (Nat.toDigits 10 n)) = some n := by
  apply getFieldSize_eq_some.mpr
  exact ⟨"varchar".toList, Nat.toDigits 10 n, [], rfl, ⟨[], "varchar".toList, [], rfl, nofun, nofun, .inr rfl⟩,
    numeralText_toDigits n, nofun⟩

/-- The declared type tells the length. -/
theorem getFieldSize_dataTypes (maxLength : Option Nat) (type : InternalType) :
    getFieldSize (dataTypes maxLength type) = declaredLength maxLength type := by
  have constant : ∀ type, getFieldSize (dataTypes none type) = declaredLength none type := by
    intro type
    cases type <;> decide
  cases maxLength with
  | none => exact constant type
  | some n =>
      rcases dataTypes_some n type with ⟨same, length⟩ | ⟨varchar, length, -⟩
      · rw [same, length]
        exact constant type
      · rw [varchar, length]
        exact getFieldSize_varchar n

/-! ### The tokens of a declared type -/

/-- How a lexer may split a declared type: into words, or into a word with an argument in parentheses. -/
inductive SpellsType : Text → List SqlToken → Prop where
  | word {t : SqlToken} : '(' ∉ t.value → unquoteIdentifier t.value = t.value → SpellsType t.value [t]
  | words {t u : SqlToken} : '(' ∉ t.value → unquoteIdentifier t.value = t.value → '(' ∉ u.value →
      u.isMark '(' = false → SpellsType (t.value ++ ' ' :: u.value) [t, u]
  | argument {t number : SqlToken} : unquoteIdentifier t.value = t.value →
      SpellsType (withLength t.value number.value) [t, mark '(', number, mark ')']

theorem getFieldSize_plain {t : Text} (plain : '(' ∉ t) : getFieldSize t = none := by
  cases found : getFieldSize t with
  | none => rfl
  | some n =>
      obtain ⟨type, number, after, rfl, -⟩ := getFieldSize_eq_some.mp found
      simp at plain

/-- The tokens of a definition declare the length that the declared type tells. -/
theorem getFieldSize_declaredType {declared : Text} {type options : List SqlToken} (spells : SpellsType declared type)
    (closed : ∀ t ∈ options.head?, t.isMark '(' = false) (name : SqlToken) :
    getFieldSize (declaredType (name :: (type ++ options))) = getFieldSize declared := by
  cases spells with
  | @word t plain same =>
      cases options with
      | nil => simp [declaredType, same]
      | cons u options =>
          have other := closed u rfl
          simp [declaredType, same, other]
  | @words t u plain same plain' other =>
      rw [getFieldSize_plain (t := t.value ++ ' ' :: u.value) (by simp [plain, plain'])]
      have first : declaredType (name :: ([t, u] ++ options)) = t.value := by
        simp [declaredType, same, other]
      rw [first, getFieldSize_plain plain]
  | @argument t number same =>
      have whole : declaredType (name :: ([t, mark '(', number, mark ')'] ++ options)) =
          withLength t.value number.value := by
        have opens : (mark '(').isMark '(' = true := by decide
        simp [declaredType, same, withLength, opens]
        simp [mark]
      rw [whole]

/-! ### The lengths and collations of distinct columns -/

theorem get?_sizes_other {items : List TableItem} {key : Text} (other : ∀ c ∈ columnsOf items, c.column ≠ key) :
    ((items.map TableItem.tokens).foldl columnSize .empty).get? key = none := by
  induction items using List.reverseRecOn with
  | nil => rfl
  | append_singleton items item ih =>
      rw [columnsOf_concat] at other
      have before := ih fun c mem => other c (List.mem_append_left _ mem)
      rw [List.map_append, List.foldl_append, List.map_singleton, List.foldl_cons, List.foldl_nil, get?_columnSize]
      cases column : item.column? with
      | none => exact before
      | some c =>
          have apart := other c (List.mem_append_right _ (by rw [column]; exact List.mem_cons_self))
          rw [Option.bind_some]
          cases getFieldSize (declaredType (c.name :: c.body)) with
          | none => exact before
          | some n =>
              simp only [Option.map_some, if_neg (Ne.symm apart)]
              exact before

/-- Where no two columns have one name, each has the length of its own definition. -/
theorem get?_sizes_own {items : List TableItem} (distinct : ((columnsOf items).map ColumnDefinition.column).Nodup)
    {c : ColumnDefinition} (mem : c ∈ columnsOf items) :
    ((items.map TableItem.tokens).foldl columnSize .empty).get? c.column =
      getFieldSize (declaredType (c.name :: c.body)) := by
  induction items using List.reverseRecOn with
  | nil => cases mem
  | append_singleton items item ih =>
      rw [columnsOf_concat] at distinct mem
      rw [List.map_append, List.foldl_append, List.map_singleton, List.foldl_cons, List.foldl_nil, get?_columnSize]
      cases column : item.column? with
      | none =>
          rw [column, Option.toList_none, List.append_nil] at distinct mem
          exact ih distinct mem
      | some d =>
          rw [column, Option.toList_some] at distinct mem
          rw [List.map_append, List.map_singleton, List.nodup_append'] at distinct
          have apart : ∀ e ∈ columnsOf items, e.column ≠ d.column := fun e inside same =>
            distinct.2.2 (List.mem_map_of_mem inside) (List.mem_singleton.mpr same)
          rw [Option.bind_some]
          rcases List.mem_append.mp mem with before | last
          · cases getFieldSize (declaredType (d.name :: d.body)) with
            | none => exact ih distinct.1 before
            | some n =>
                simp only [Option.map_some, if_neg (apart c before)]
                exact ih distinct.1 before
          · obtain rfl := List.mem_singleton.mp last
            cases getFieldSize (declaredType (c.name :: c.body)) with
            | none => exact get?_sizes_other apart
            | some n => simp only [Option.map_some, if_true]

/-- Where no two columns have one name, each has the collation of its own definition. -/
theorem get?_collations_own {items : List TableItem} (distinct : ((columnsOf items).map ColumnDefinition.column).Nodup)
    {c : ColumnDefinition} (mem : c ∈ columnsOf items) :
    ((items.map TableItem.tokens).foldl collationsAfter .empty).get? c.column = some c.collation := by
  obtain ⟨before, after, split⟩ := List.append_of_mem mem
  refine (get?_collations ..).mpr ⟨c, ⟨before, after, split, rfl, fun d later same => ?_⟩, rfl⟩
  rw [split, List.map_append, List.map_cons, List.nodup_append', List.nodup_cons] at distinct
  have called : d.column = c.column := same
  exact distinct.2.1.1 (called ▸ List.mem_map_of_mem later)

/-! ### The columns that are tested for JSON -/

/-- The names that some tokens test for JSON; no other token is the name of the function. -/
inductive Tests (casefold : Text → Text) : List SqlToken → List Text → Prop where
  | nil : Tests casefold [] []
  | other {t : SqlToken} {rest : List SqlToken} {names : List Text} : casefold t.value ≠ "json_valid".toList →
      Tests casefold rest names → Tests casefold (t :: rest) names
  | test {function reference : SqlToken} {rest : List SqlToken} {names : List Text} :
      casefold function.value = "json_valid".toList → reference.isReference = true → Tests casefold rest names →
      Tests casefold (function :: mark '(' :: reference :: mark ')' :: rest)
        (unquoteIdentifier reference.value :: names)

section

variable {casefold : Text → Text} {byName : Dictionary Text Text}

theorem Tests.append {first second : List SqlToken} {names others : List Text} (tests : Tests casefold first names)
    (later : Tests casefold second others) : Tests casefold (first ++ second) (names ++ others) := by
  induction tests with
  | nil => exact later
  | other not _ ih => exact .other not ih
  | test is reference _ ih => exact .test is reference ih

/-- A token that does not open a call is passed over. -/
theorem jsonTested_skip {t : SqlToken} {tokens : List SqlToken} {column : Text}
    (free : casefold t.value ≠ "json_valid".toList ∨ ∀ u ∈ tokens.head?, u.isMark '(' = false) :
    JsonTested casefold byName (t :: tokens) column ↔ JsonTested casefold byName tokens column := by
  rw [jsonTested_cons, or_iff_right]
  rintro ⟨opening, identifier, closing, ⟨rest, rfl⟩, test⟩
  cases free with
  | inl not => exact not test.function
  | inr closed => exact absurd (closed opening rfl) (by rw [test.opens]; decide)

/-- No punctuation is the name of the function. -/
theorem LowersAscii.mark (folds : LowersAscii casefold) {c : Char} (ascii : c.toNat < 128) :
    casefold (mark c).value ≠ "json_valid".toList := by
  intro same
  have lower : casefold [c] = [c].map Char.toLower := folds [c] (by simpa using ascii)
  cases congrArg List.length (lower.symm.trans same)

/-- Four tokens in a row test a column exactly when it has a name that is tested. -/
theorem Tests.tested (folds : LowersAscii casefold) {tokens : List SqlToken} {names : List Text}
    (tests : Tests casefold tokens names) (column : Text) :
    JsonTested casefold byName tokens column ↔
      ∃ name ∈ names, byName.get? (identifierKey name) = some column ∧ column ≠ [] := by
  induction tests with
  | nil => simp [not_jsonTested_short]
  | other not _ ih => rw [jsonTested_skip (.inl not), ih]
  | @test function reference rest names is refers _ ih =>
      have opening := folds.mark (c := '(') (by decide)
      have closing := folds.mark (c := ')') (by decide)
      have closed : ∀ u ∈ (mark ')' :: rest).head?, u.isMark '(' = false := by
        rintro u ⟨⟩
        decide
      have front : JsonTest casefold byName column function (mark '(') reference (mark ')') ↔
          byName.get? (identifierKey (unquoteIdentifier reference.value)) = some column ∧ column ≠ [] :=
        ⟨fun test => ⟨test.named, test.nonempty⟩, fun named => ⟨is, by decide, by decide, refers, named.1, named.2⟩⟩
      rw [jsonTested_cons, tested_front, front, jsonTested_skip (.inl opening), jsonTested_skip (.inr closed),
        jsonTested_skip (.inl closing), ih, List.exists_mem_cons_iff]

end

/-! ### The table of a model -/

/-- The field of a model, as the schema editor declares its column. -/
structure ModelColumn where
  column : Text
  type : InternalType
  maxLength : Option Nat := none
  null : Bool := false
  primaryKey : Bool := false
  collation : Option Text := none
deriving DecidableEq, Repr

namespace ModelColumn

/-- The declared type of a column. -/
def declared (m : ModelColumn) : Text := dataTypes m.maxLength m.type

/-- The definition of the column in CREATE TABLE: the name, the type, then the options. The column of a `JSONField`, and
    no other, is tested with `JSON_VALID`. -/
structure WrittenAs (casefold : Text → Text) (m : ModelColumn) (c : ColumnDefinition) : Prop where
  named : c.column = m.column
  typed : ∃ type options, c.body = type ++ options ∧ SpellsType m.declared type ∧
    ∀ t ∈ options.head?, t.isMark '(' = false
  collated : c.collation = m.collation
  tests : Tests casefold (c.name :: c.body) (if m.type = .jsonField then [m.column] else [])

/-- The row of the column in the pragma. -/
structure ReportedAs (m : ModelColumn) (row : TableColumn) : Prop where
  named : row.name = m.column
  typed : ReportsType m.declared row.dataType
  null : row.notNull = !m.null
  key : (row.pk != 0) = m.primaryKey
  shown : row.visible = true

end ModelColumn

/-- The columns of a model: they have names, and no two names differ by the case of letters of ASCII only. -/
structure ModelTable where
  columns : List ModelColumn
  nonempty : columns ≠ []
  named : ∀ m ∈ columns, m.column ≠ []
  distinct : (columns.map fun m => identifierKey m.column).Nodup

/-- Whether several columns make up the primary key. -/
def ModelTable.composite (model : ModelTable) : Bool := 1 < (model.columns.filter ModelColumn.primaryKey).length

/-- The table of a model in the database: its stored SQL, which holds no comments, and the rows of the pragma. -/
structure StoredModel (parse : Text → List (List SqlToken)) (casefold : Text → Text) (model : ModelTable)
    (schema : TableSchema) where
  sql : Text
  nonempty : sql ≠ []
  stored : schema.sql = some sql
  statement : List SqlToken
  later : List (List SqlToken)
  parsed : parse sql = statement :: later
  uncommented : ∀ t ∈ statement, t.isComment = false
  table : TableStream TableItem
  tokens : visibleTokens statement = table.tokens TableItem.tokens
  definitions : List.Forall₂ (ModelColumn.WrittenAs casefold) model.columns (columnsOf table.definitions)
  constraints : ∀ c, .constraint c ∈ table.definitions → Tests casefold (c.keyword :: c.body) []
  header : Tests casefold table.header []
  trailer : Tests casefold table.trailer []
  rows : List.Forall₂ ModelColumn.ReportedAs model.columns schema.columns

/-- What is reported of a column. The features of the backend promise a type for a field that is automatic exactly if it
    is the primary key; a `BigIntegerField` that is the primary key comes back as an `AutoField` all the same. -/
structure Inspected (lower : Text → Text) (composite : Bool) (m : ModelColumn) (info : FieldInfo) : Prop where
  name : info.name = m.column
  size : info.displaySize = declaredLength m.maxLength m.type
  null : info.nullOk = m.null
  collation : info.collation = m.collation
  key : info.pk = (m.primaryKey && !composite)
  type : getFieldType lower info = m.type.inspected info.pk
  promised : ∀ promised, introspectedFieldTypes m.type = some promised → info.pk = (dataTypesSuffix m.type).isSome →
    getFieldType lower info = promised

/-! ### Lists that correspond -/

section

variable {α β γ : Type} {R : α → β → Prop} {xs : List α} {ys : List β}

theorem exists_of_forall₂ (all : List.Forall₂ R xs ys) {x : α} (mem : x ∈ xs) : ∃ y ∈ ys, R x y := by
  induction all with
  | nil => cases mem
  | @cons a b xs ys here _ ih =>
      rcases List.mem_cons.mp mem with rfl | later
      · exact ⟨b, List.mem_cons_self, here⟩
      · obtain ⟨y, inside, related⟩ := ih later
        exact ⟨y, List.mem_cons_of_mem _ inside, related⟩

theorem map_eq_of_forall₂ {f : α → γ} {g : β → γ} (same : ∀ x y, R x y → f x = g y) (all : List.Forall₂ R xs ys) :
    xs.map f = ys.map g := by
  induction all with
  | nil => rfl
  | cons here _ ih => rw [List.map_cons, List.map_cons, same _ _ here, ih]

end

/-! ### Its JSON columns -/

section

variable {parse : Text → List (List SqlToken)} {casefold : Text → Text} {model : ModelTable} {schema : TableSchema}

theorem tests_separated (folds : LowersAscii casefold) {items : List TableItem} {names : TableItem → List Text}
    (each : ∀ item ∈ items, Tests casefold item.tokens (names item)) :
    Tests casefold (separated (items.map TableItem.tokens)) (items.flatMap names) := by
  induction items with
  | nil => exact .nil
  | cons item items ih =>
      have first := each item List.mem_cons_self
      have later := ih fun item mem => each item (List.mem_cons_of_mem _ mem)
      cases items with
      | nil => simpa [separated] using first
      | cons next items => exact first.append (.other (folds.mark (by decide)) later)

/-- The names that are tested in an item of the table of a model. -/
def ModelTable.testedIn (model : ModelTable) (item : TableItem) : List Text :=
  match item.column? with
  | none => []
  | some c => if ∃ m ∈ model.columns, m.column = c.column ∧ m.type = .jsonField then [c.column] else []

theorem ModelTable.same_column (model : ModelTable) {m n : ModelColumn} (first : m ∈ model.columns)
    (second : n ∈ model.columns) (same : identifierKey m.column = identifierKey n.column) : m = n :=
  List.inj_on_of_nodup_map model.distinct first second same

/-- The names that the statement tests are those of the JSON columns. -/
theorem StoredModel.tests (stored : StoredModel parse casefold model schema) (folds : LowersAscii casefold) :
    ∃ names, Tests casefold (stored.table.tokens TableItem.tokens) names ∧
      ∀ name, name ∈ names ↔ ∃ m ∈ model.columns, m.type = .jsonField ∧ m.column = name := by
  have each : ∀ item ∈ stored.table.definitions, Tests casefold item.tokens (model.testedIn item) := by
    intro item mem
    cases item with
    | constraint c => exact stored.constraints c mem
    | column c =>
        have inside : c ∈ columnsOf stored.table.definitions := List.mem_filterMap.mpr ⟨_, mem, rfl⟩
        obtain ⟨m, own, written⟩ := exists_of_forall₂ stored.definitions.flip inside
        have only : (∃ n ∈ model.columns, n.column = c.column ∧ n.type = .jsonField) ↔ m.type = .jsonField := by
          constructor
          · rintro ⟨n, other, called, json⟩
            have same := model.same_column own other (by rw [called, ← written.named])
            rwa [same]
          · exact fun json => ⟨m, own, written.named.symm, json⟩
        have tested : model.testedIn (.column c) = if m.type = .jsonField then [m.column] else [] := by
          rw [← written.named]
          exact if_congr only rfl rfl
        rw [tested]
        exact written.tests
  have inner := tests_separated folds each
  have body := inner.append (Tests.other (folds.mark (c := ')') (by decide)) stored.trailer)
  refine ⟨_, stored.header.append (.other (folds.mark (c := '(') (by decide)) body), fun name => ?_⟩
  simp only [List.nil_append, List.append_nil, List.mem_flatMap]
  constructor
  · rintro ⟨item, mem, tested⟩
    cases item with
    | constraint c => cases tested
    | column c =>
        simp only [ModelTable.testedIn, TableItem.column?] at tested
        split at tested
        · next json =>
            obtain ⟨m, own, called, is⟩ := json
            exact ⟨m, own, is, called.trans (List.mem_singleton.mp tested).symm⟩
        · cases tested
  · rintro ⟨m, own, json, rfl⟩
    obtain ⟨c, inside, written⟩ := exists_of_forall₂ stored.definitions own
    obtain ⟨item, mem, is⟩ := List.mem_filterMap.mp inside
    refine ⟨item, mem, ?_⟩
    simp only [ModelTable.testedIn, is]
    rw [if_pos ⟨m, own, written.named.symm, json⟩, written.named]
    exact List.mem_singleton_self _

/-- The columns with a JSON constraint are the JSON columns. -/
theorem StoredModel.mem_json (stored : StoredModel parse casefold model schema) (folds : LowersAscii casefold)
    {m : ModelColumn} (own : m ∈ model.columns) :
    m.column ∈ getJsonColumns parse casefold schema.sql (schema.columns.map TableColumn.name) ↔
      m.type = .jsonField := by
  have names : schema.columns.map TableColumn.name = model.columns.map ModelColumn.column :=
    (map_eq_of_forall₂ (R := ModelColumn.ReportedAs) (fun _ _ reported => reported.named.symm) stored.rows).symm
  have spelled : ∀ n ∈ model.columns, (columnsByName (schema.columns.map TableColumn.name)).get?
      (identifierKey n.column) = some n.column := by
    intro n mem
    rw [names]
    refine (Dictionary.get?_ofList ?_).mpr ?_
    · simpa [List.map_map, Function.comp_def] using model.distinct
    · exact List.mem_map.mpr ⟨n.column, List.mem_map_of_mem mem, rfl⟩
  obtain ⟨tested, tests, exactly⟩ := stored.tests folds
  rw [stored.stored, getJsonColumns_eq stored.nonempty stored.parsed, stored.tokens, mem_jsonLoop, tests.tested folds]
  simp only [Finset.notMem_empty, false_or]
  constructor
  · rintro ⟨name, mem, found, -⟩
    obtain ⟨n, other, json, rfl⟩ := (exactly name).mp mem
    rw [spelled n other, Option.some.injEq] at found
    rwa [model.same_column own other (by rw [found])]
  · exact fun json => ⟨m.column, (exactly _).mpr ⟨m, own, json, rfl⟩, spelled m own, model.named m own⟩

/-! ### Its lengths and collations -/

theorem StoredModel.nodup_columns (stored : StoredModel parse casefold model schema) :
    ((columnsOf stored.table.definitions).map ColumnDefinition.column).Nodup := by
  have same : model.columns.map ModelColumn.column = (columnsOf stored.table.definitions).map ColumnDefinition.column :=
    map_eq_of_forall₂ (R := ModelColumn.WrittenAs casefold) (fun _ _ written => written.named.symm) stored.definitions
  have distinct := model.distinct
  have composed : model.columns.map (fun m => identifierKey m.column) =
      (model.columns.map ModelColumn.column).map identifierKey := by rw [List.map_map]; rfl
  rw [composed, same] at distinct
  exact distinct.of_map

theorem StoredModel.significant (stored : StoredModel parse casefold model schema) :
    stored.statement.filter SqlToken.isSignificant = stored.table.tokens TableItem.tokens := by
  rw [← stored.tokens]
  refine List.filter_congr fun t mem => ?_
  rw [SqlToken.isSignificant, stored.uncommented t mem, Bool.not_false, Bool.and_true]

/-- Every column has the collation and the length that it was declared with. -/
theorem StoredModel.declares (stored : StoredModel parse casefold model schema) {m : ModelColumn}
    (own : m ∈ model.columns) :
    (getColumnCollations parse schema.sql).get? m.column = some m.collation ∧
      (getColumnSizes parse schema.sql).get? m.column = declaredLength m.maxLength m.type := by
  obtain ⟨c, inside, written⟩ := exists_of_forall₂ stored.definitions own
  obtain ⟨char, chars, text⟩ := List.exists_cons_of_ne_nil stored.nonempty
  have parsed : parse (char :: chars) = stored.statement :: stored.later := text ▸ stored.parsed
  have proper : ∀ item ∈ stored.table.definitions.map TableItem.tokens, ItemTokens item := by
    intro item mem
    obtain ⟨d, -, rfl⟩ := List.mem_map.mp mem
    exact d.itemTokens
  have collations : getColumnCollations parse schema.sql =
      (stored.table.definitions.map TableItem.tokens).foldl collationsAfter .empty := by
    simp only [getColumnCollations, stored.stored, text, parsed, stored.significant, TableStream.afterOpening_tokens,
      Option.getD_some]
    exact collationLoop_items proper stored.table.trailer .empty
  have sizes : getColumnSizes parse schema.sql =
      (stored.table.definitions.map TableItem.tokens).foldl columnSize .empty := by
    simp only [getColumnSizes, stored.stored, text, parsed, stored.significant, TableStream.afterOpening_tokens,
      Option.getD_some]
    exact sizeLoop_items proper stored.table.trailer .empty
  obtain ⟨type, options, body, spells, closed⟩ := written.typed
  rw [collations, sizes, ← written.named]
  refine ⟨?_, ?_⟩
  · rw [get?_collations_own stored.nodup_columns inside, written.collated]
  · rw [get?_sizes_own stored.nodup_columns inside, body, getFieldSize_declaredType spells closed]
    exact getFieldSize_dataTypes _ _

/-! ### Its description -/

/-- The length that the reported type tells is the one that the definition tells, if any. -/
theorem ReportsType.size {m : ModelColumn} {reported : Text} (reports : ReportsType m.declared reported) :
    (declaredLength m.maxLength m.type).or (getFieldSize reported) = declaredLength m.maxLength m.type := by
  have whole : getFieldSize m.declared = declaredLength m.maxLength m.type := getFieldSize_dataTypes _ _
  rcases reports with rfl | rfl
  · rw [whole, Option.or_self]
  · have plain : '(' ∉ m.declared.takeWhile (· ≠ '(') := by
      intro mem
      simpa using List.mem_takeWhile_imp mem
    rw [getFieldSize_plain plain, Option.or_none]

theorem markPrimaryKey_eq (description : List FieldInfo) :
    markPrimaryKey description =
      description.map fun info => { info with pk := info.pk && !decide (1 < (description.filter (·.pk)).length) } := by
  unfold markPrimaryKey
  split
  · next several => simp [several]
  · next single => simp [single]

/-- The description of one column. -/
theorem StoredModel.describes (stored : StoredModel parse casefold model schema) {lower : Text → Text}
    (lowers : LowersAscii lower) (folds : LowersAscii casefold) {m : ModelColumn} {row : TableColumn}
    (own : m ∈ model.columns) (reported : m.ReportedAs row) {info : FieldInfo}
    (described : describeColumn (getColumnCollations parse schema.sql) (getColumnSizes parse schema.sql)
      (getJsonColumns parse casefold schema.sql (schema.columns.map TableColumn.name)) row = info) (composite : Bool) :
    Inspected lower composite m { info with pk := info.pk && !composite } := by
  obtain ⟨collated, sized⟩ := stored.declares own
  have type : getFieldType lower { info with pk := info.pk && !composite } =
      m.type.inspected (info.pk && !composite) := by
    have typed : ReportsType (dataTypes m.maxLength m.type) info.typeCode := by
      rw [← described]
      exact reported.typed
    refine getFieldType_dataTypes lowers typed ?_
    rw [← described]
    simp only [describeColumn, reported.named, stored.mem_json folds own]
  constructor
  case name => rw [← described]; exact reported.named
  case size =>
    rw [← described]
    simp only [describeColumn, reported.named, sized]
    exact reported.typed.size
  case null =>
    rw [← described]
    simp only [describeColumn, reported.null, Bool.not_not]
  case collation =>
    rw [← described]
    simp only [describeColumn, reported.named, collated, Option.join_some]
  case key =>
    rw [← described]
    simp only [describeColumn, reported.key]
  case type => exact type
  case promised =>
    intro promised promises key
    rw [type, ← inspected_promised promises]
    exact congrArg (InternalType.inspected · m.type) key

/-- Introspection reports the table of a model as the model has it: for every column its name, its length, whether it
    may be NULL, its collation and whether it alone is the primary key; and the type of the field up to the types that
    share a column type, as the features of the backend promise. -/
theorem description_inspected {lower : Text → Text} (lowers : LowersAscii lower) (folds : LowersAscii casefold)
    (stored : StoredModel parse casefold model schema) (table : Text) (V : Type) :
    ∃ infos, getTableDescription (V := V) parse casefold schema table = .ok infos ∧
      List.Forall₂ (Inspected lower model.composite) model.columns infos := by
  have rows : schema.columns.filter TableColumn.visible = schema.columns := by
    refine List.filter_eq_self.mpr fun row mem => ?_
    obtain ⟨m, -, reported⟩ := exists_of_forall₂ stored.rows.flip mem
    exact reported.shown
  have some_row : schema.columns.isEmpty = false := by
    refine Bool.eq_false_iff.mpr fun empty => model.nonempty ?_
    rw [← List.length_eq_zero_iff, stored.rows.length_eq, List.isEmpty_iff.mp empty, List.length_nil]
  unfold getTableDescription
  rw [some_row, if_neg Bool.false_ne_true, rows]
  refine ⟨_, rfl, ?_⟩
  generalize described : describeColumn (getColumnCollations parse schema.sql) (getColumnSizes parse schema.sql)
    (getJsonColumns parse casefold schema.sql (schema.columns.map TableColumn.name)) = describe
  have keys : (schema.columns.map describe).map FieldInfo.pk = model.columns.map ModelColumn.primaryKey := by
    rw [List.map_map, ← described]
    exact (map_eq_of_forall₂ (R := ModelColumn.ReportedAs) (fun _ _ reported => reported.key.symm) stored.rows).symm
  have composite : decide (1 < ((schema.columns.map describe).filter (·.pk)).length) = model.composite := by
    have counted := congrArg (List.countP id) keys
    rw [List.countP_map, List.countP_map, List.countP_map] at counted
    rw [ModelTable.composite, ← List.countP_eq_length_filter, ← List.countP_eq_length_filter, List.countP_map]
    exact congrArg (fun n => decide (1 < n)) counted
  rw [markPrimaryKey_eq, composite, List.map_map, List.forall₂_map_right_iff]
  have both := (List.forall₂_and_left _ _).mpr ⟨fun _ mem => mem, stored.rows⟩
  exact both.imp fun m row ⟨own, reported⟩ =>
    stored.describes lowers folds own reported (congrFun described row) model.composite

end

/-! ### A table -/

/-- An identifier in double quotes. -/
def symbolToken (name : String) : SqlToken := ⟨.symbol, name.toList, name.toList.map Char.toUpper⟩

/-- `id = AutoField(primary_key=True)`, `name = CharField(max_length=10, null=True)` with a collation, and
    `data = JSONField()`. -/
def articleModel : ModelTable where
  columns := [{ column := "id".toList, type := .autoField, primaryKey := true },
    { column := "name".toList, type := .charField, maxLength := some 10, null := true,
      collation := some "nocase".toList },
    { column := "data".toList, type := .jsonField }]
  nonempty := by decide
  named := by decide
  distinct := by decide

/-- `"id" integer NOT NULL PRIMARY KEY AUTOINCREMENT`. -/
def idDefinition : ColumnDefinition where
  name := symbolToken "\"id\""
  plain := by decide
  free := by decide
  body := [nameToken "integer"] ++
    [keywordToken "NOT NULL", keywordToken "PRIMARY", keywordToken "KEY", keywordToken "AUTOINCREMENT"]
  balanced := rfl

/-- `"name" varchar(10) COLLATE nocase NULL`. -/
def nameDefinition : ColumnDefinition where
  name := symbolToken "\"name\""
  plain := by decide
  free := by decide
  body := [nameToken "varchar", mark '(', nameToken "10", mark ')'] ++
    [keywordToken "COLLATE", nameToken "nocase", keywordToken "NULL"]
  balanced := rfl

/-- `"data" text NOT NULL CHECK ((JSON_VALID("data") OR "data" IS NULL))`. -/
def dataDefinition : ColumnDefinition where
  name := symbolToken "\"data\""
  plain := by decide
  free := by decide
  body := [nameToken "text"] ++ [keywordToken "NOT NULL", keywordToken "CHECK", mark '(', mark '(',
    nameToken "JSON_VALID", mark '(', symbolToken "\"data\"", mark ')', keywordToken "OR", symbolToken "\"data\"",
    keywordToken "IS", keywordToken "NULL", mark ')', mark ')']
  balanced := rfl

/-- The table of the model. -/
def articleTable : TableStream TableItem where
  header := createTable
  closed := createTable_closed
  definitions := [.column idDefinition, .column nameDefinition, .column dataDefinition]
  trailer := []

/-- The rows of the pragma; the engine reports no argument of a type. -/
def articleSchema : TableSchema where
  sql := some "sql".toList
  columns := [⟨"id".toList, "integer".toList, true, none, 1, 0⟩,
    ⟨"name".toList, "varchar".toList, false, none, 0, 0⟩, ⟨"data".toList, "text".toList, true, none, 0, 0⟩]
  indexes := []

/-- `str.lower`, of ASCII. -/
def lowerAscii (t : Text) : Text := t.map Char.toLower

/-- Tokens none of which is the name of the function. -/
theorem tests_free {tokens : List SqlToken} (free : ∀ t ∈ tokens, lowerAscii t.value ≠ "json_valid".toList) :
    Tests lowerAscii tokens [] := by
  induction tokens with
  | nil => exact .nil
  | cons t tokens ih =>
      exact .other (free t List.mem_cons_self) (ih fun u mem => free u (List.mem_cons_of_mem _ mem))

/-- The table of the model is stored. -/
def articleStored : StoredModel (fun _ => [articleTable.tokens TableItem.tokens]) lowerAscii articleModel articleSchema where
  sql := "sql".toList
  nonempty := by decide
  stored := rfl
  statement := articleTable.tokens TableItem.tokens
  later := []
  parsed := rfl
  uncommented := by decide
  table := articleTable
  tokens := by decide
  definitions := by
    have integer : SpellsType (dataTypes none .autoField) [nameToken "integer"] :=
      .word (t := nameToken "integer") (by decide) (by decide)
    have varchar : SpellsType (dataTypes (some 10) .charField)
        [nameToken "varchar", mark '(', nameToken "10", mark ')'] := by
      have spelled : dataTypes (some 10) .charField = withLength "varchar".toList "10".toList := by decide
      rw [spelled]
      have same : unquoteIdentifier (nameToken "varchar").value = (nameToken "varchar").value := by decide
      have spells : SpellsType (withLength (nameToken "varchar").value (nameToken "10").value) _ := .argument same
      exact spells
    have text : SpellsType (dataTypes none .jsonField) [nameToken "text"] :=
      .word (t := nameToken "text") (by decide) (by decide)
    have front : Tests lowerAscii (dataDefinition.name :: dataDefinition.body.take 5) [] := tests_free (by decide)
    have behind : Tests lowerAscii (dataDefinition.body.drop 9) [] := tests_free (by decide)
    refine .cons ?_ (.cons ?_ (.cons ?_ .nil))
    · exact ⟨by decide, ⟨_, _, rfl, integer, by decide⟩, by decide, tests_free (by decide)⟩
    · exact ⟨by decide, ⟨_, _, rfl, varchar, by decide⟩, by decide, tests_free (by decide)⟩
    · exact ⟨by decide, ⟨_, _, rfl, text, by decide⟩, by decide,
        front.append (.test (by decide) (by decide) behind)⟩
  constraints := by
    intro c mem
    simp [articleTable] at mem
  header := tests_free (by decide)
  trailer := .nil
  rows := by
    refine .cons ?_ (.cons ?_ (.cons ?_ .nil))
    · exact ⟨rfl, .inl rfl, rfl, rfl, rfl⟩
    · exact ⟨rfl, .inr (by decide), rfl, rfl, rfl⟩
    · exact ⟨rfl, .inl rfl, rfl, rfl, rfl⟩

theorem description_inspected_article :
    ∃ infos, getTableDescription (V := Nat) (fun _ => [articleTable.tokens TableItem.tokens]) lowerAscii articleSchema
        "t".toList = .ok infos ∧
      List.Forall₂ (Inspected lowerAscii false) articleModel.columns infos :=
  description_inspected (fun _ _ => rfl) (fun _ _ => rfl) articleStored "t".toList Nat

end DjangoPyturso
