/-
Module: DjangoPyturso.Proofs.CheckReading
Layer: Proofs
Purpose: The words of an expression. They stand inside the parentheses of their CHECK; where each is taken as it is meant,
  the columns taken are those the expression refers to; and where no two tokens name one column, no other words yield the
  same columns.
Imports: DjangoPyturso.Spec.CheckExpression, DjangoPyturso.Proofs.CheckTaking
Trusted boundary: none
Main exports: CheckExpr.references_words, CheckExpr.enclosed, ReadsAsMeant.taken, readsAsMeant_of_mem
Open obligations: none
-/
import DjangoPyturso.Spec.CheckExpression
import DjangoPyturso.Proofs.CheckTaking

namespace DjangoPyturso

open SqlText

variable {byName : Dictionary Text Text}

/-! ### The references among the words -/

/-- The column that a word of an expression refers to. -/
def ReadToken.refers (byName : Dictionary Text Text) (w : ReadToken) : List Text :=
  if w.isColumn then (byName.get? (nameKey w.token)).toList else []

/-- Words that are no columns refer to none. -/
theorem refers_otherWords (words : List ExprWord) : (otherWords words).flatMap (ReadToken.refers byName) = [] := by
  rw [List.flatMap_eq_nil_iff]
  intro w mem
  obtain ⟨word, _, rfl⟩ := List.mem_map.mp mem
  rfl

/-- Parentheses add no references. -/
theorem refers_groupOf (words : List ReadToken) :
    (groupOf words).flatMap (ReadToken.refers byName) = words.flatMap (ReadToken.refers byName) := by
  rw [groupOf, List.flatMap_cons, List.flatMap_append]
  exact List.append_nil _

/-- The size of a type refers to no column. -/
theorem refers_typeSize (size : Option (ExprWord × List ExprWord)) :
    (typeSize size).flatMap (ReadToken.refers byName) = [] := by
  cases size with
  | none => rfl
  | some size => rw [typeSize, List.flatMap_append, refers_otherWords, refers_groupOf, refers_otherWords, List.append_nil]

/-- The references of an expression, word for word. -/
theorem CheckExpr.references_words (e : CheckExpr) :
    e.references byName = e.words.flatMap (ReadToken.refers byName) := by
  induction e with
  | column table name =>
      cases table with
      | none => exact (List.append_nil _).symm
      | some table => exact (List.append_nil _).symm
  | literal w => exact (refers_otherWords [w]).symm
  | unary operators e ih =>
      rw [words, List.flatMap_append, refers_otherWords, List.nil_append]
      exact ih
  | binary left operator more right ihLeft ihRight =>
      rw [words, List.flatMap_append, List.flatMap_append, refers_otherWords, List.nil_append, ← ihLeft, ← ihRight]
      rfl
  | suffix e operator more ih =>
      rw [words, List.flatMap_append, refers_otherWords, List.append_nil]
      exact ih
  | collate e keyword name ih =>
      rw [words, List.flatMap_append, refers_otherWords, List.append_nil]
      exact ih
  | parens e ih =>
      rw [words, refers_groupOf]
      exact ih
  | emptyParens => rfl
  | call function arguments ih =>
      rw [words, List.flatMap_append, refers_otherWords, refers_groupOf, List.nil_append]
      exact ih
  | callEmpty function => rfl
  | cast keyword e word type size ih =>
      rw [words, List.flatMap_append, refers_otherWords, refers_groupOf, List.flatMap_append, List.flatMap_append,
        refers_otherWords, refers_typeSize, List.nil_append, List.append_nil, List.append_nil]
      exact ih
  | caseOf keyword parts ending ih =>
      rw [words, List.flatMap_append, List.flatMap_append, refers_otherWords, refers_otherWords, List.nil_append,
        List.append_nil]
      exact ih

/-! ### Words stay inside the parentheses of their CHECK -/

theorem Place.behind_append (p : Place) (tokens more : List SqlToken) :
    p.behind (tokens ++ more) = (p.behind tokens).behind more := List.foldl_append

theorem Place.behind_depth (p : Place) (tokens : List SqlToken) :
    (p.behind tokens).depth = tokens.foldl (depthAfter SqlToken.bracket) p.depth := by
  induction tokens generalizing p with
  | nil => rfl
  | cons t tokens ih => exact (ih _).trans (by rw [Place.next_depth]; rfl)

/-- Tokens stand inside the parentheses if the first part does, and the second from where the first ends. -/
theorem Place.within_append {p : Place} {tokens more : List SqlToken} :
    p.Within (tokens ++ more) ↔ p.Within tokens ∧ (p.behind tokens).Within more := by
  induction tokens generalizing p with
  | nil => exact ⟨fun within => ⟨trivial, within⟩, fun within => within.2⟩
  | cons t tokens ih =>
      constructor
      · rintro ⟨free, inside, later⟩
        obtain ⟨first, second⟩ := ih.mp later
        exact ⟨⟨free, inside, first⟩, second⟩
      · rintro ⟨⟨free, inside, first⟩, second⟩
        exact ⟨free, inside, ih.mpr ⟨first, second⟩⟩

/-- Wherever they stand inside the parentheses of a CHECK, the tokens stay inside, and end at the depth they start. -/
def Enclosed (tokens : List SqlToken) : Prop :=
  ∀ (p : Place) (level : Nat), p.check = some level → level < p.depth →
    p.Within tokens ∧ (p.behind tokens).check = some level ∧ (p.behind tokens).depth = p.depth

theorem enclosed_nil : Enclosed [] := fun _ _ check _ => ⟨trivial, check, rfl⟩

/-- Two parts that stay inside the parentheses stay inside together. -/
theorem Enclosed.append {tokens more : List SqlToken} (first : Enclosed tokens) (second : Enclosed more) :
    Enclosed (tokens ++ more) := by
  intro p level check deep
  obtain ⟨within, sameCheck, sameDepth⟩ := first p level check deep
  obtain ⟨withinMore, lastCheck, lastDepth⟩ := second _ level sameCheck (by rw [sameDepth]; exact deep)
  rw [Place.behind_append]
  exact ⟨Place.within_append.mpr ⟨within, withinMore⟩, lastCheck, lastDepth.trans sameDepth⟩

/-- A token that is no CHECK and leaves the place inside the parentheses. -/
theorem Place.next_deeper {p : Place} {level : Nat} (check : p.check = some level) {t : SqlToken}
    (free : t.isWord "CHECK" = false) (deep : level < depthAfter SqlToken.bracket p.depth t) :
    p.inside t = true ∧ (p.next t).check = some level := by
  refine ⟨?_, (Place.next_check free).trans check⟩
  rw [Place.inside_eq check, Place.next_depth, bne_iff_ne]
  exact Nat.ne_of_lt deep

/-- A token that is no parenthesis stays at its depth. -/
theorem enclosed_word {t : SqlToken} (free : t.isWord "CHECK" = false)
    (flat : t.bracket = .plain ∨ t.bracket = .separator) : Enclosed [t] := by
  intro p level check deep
  have same : depthAfter SqlToken.bracket p.depth t = p.depth := by
    cases flat with
    | inl plain => rw [depthAfter, plain]
    | inr separator => rw [depthAfter, separator]
  obtain ⟨inside, next⟩ := Place.next_deeper check free (by rw [same]; exact deep)
  exact ⟨⟨free, inside, trivial⟩, next, (Place.next_depth p t).trans same⟩

/-- A group goes one deeper and comes back. -/
theorem enclosed_group {words : List ReadToken} (inner : Enclosed (words.map ReadToken.token)) :
    Enclosed ((groupOf words).map ReadToken.token) := by
  intro p level check deep
  have opens : depthAfter SqlToken.bracket p.depth (mark '(') = p.depth + 1 := rfl
  obtain ⟨inside, opened⟩ := Place.next_deeper check (show (mark '(').isWord "CHECK" = false from rfl)
    (by rw [opens]; exact Nat.lt_succ_of_lt deep)
  have depth : (p.next (mark '(')).depth = p.depth + 1 := (Place.next_depth p _).trans opens
  obtain ⟨within, sameCheck, sameDepth⟩ := inner _ level opened (by rw [depth]; exact Nat.lt_succ_of_lt deep)
  have closes : depthAfter SqlToken.bracket ((p.next (mark '(')).behind (words.map ReadToken.token)).depth (mark ')') =
      p.depth := by
    rw [sameDepth, depth]
    rfl
  obtain ⟨insideLast, closed⟩ := Place.next_deeper sameCheck (show (mark ')').isWord "CHECK" = false from rfl)
    (by rw [closes]; exact deep)
  rw [groupOf, List.map_cons, List.map_append]
  refine ⟨⟨rfl, inside, Place.within_append.mpr ⟨within, rfl, insideLast, trivial⟩⟩, ?_⟩
  change ((p.next (mark '(')).behind (words.map ReadToken.token ++ [mark ')'])).check = _ ∧
    ((p.next (mark '(')).behind (words.map ReadToken.token ++ [mark ')'])).depth = _
  rw [Place.behind_append]
  exact ⟨closed, (Place.next_depth _ _).trans closes⟩

theorem enclosed_append_map {words more : List ReadToken} (first : Enclosed (words.map ReadToken.token))
    (second : Enclosed (more.map ReadToken.token)) : Enclosed ((words ++ more).map ReadToken.token) := by
  rw [List.map_append]
  exact first.append second

theorem enclosed_otherWords (words : List ExprWord) : Enclosed ((otherWords words).map ReadToken.token) := by
  induction words with
  | nil => exact enclosed_nil
  | cons w words ih => exact Enclosed.append (enclosed_word w.notCheck w.flat) ih

theorem enclosed_typeSize (size : Option (ExprWord × List ExprWord)) :
    Enclosed ((typeSize size).map ReadToken.token) := by
  cases size with
  | none => exact enclosed_nil
  | some size => exact enclosed_append_map (enclosed_otherWords _) (enclosed_group (enclosed_otherWords _))

/-- The tokens of an expression stay inside the parentheses of its CHECK. -/
theorem CheckExpr.enclosed (e : CheckExpr) : Enclosed e.tokens := by
  unfold tokens
  induction e with
  | column table name =>
      cases table with
      | none => exact enclosed_word name.notCheck name.flat
      | some table =>
          have qualifier : Enclosed [table.token] := enclosed_word table.notCheck table.flat
          have dot : Enclosed [mark '.'] := enclosed_word rfl (.inl rfl)
          exact qualifier.append (dot.append (enclosed_word name.notCheck name.flat))
  | literal w => exact enclosed_otherWords [w]
  | unary operators e ih => exact enclosed_append_map (enclosed_otherWords operators) ih
  | binary left operator more right ihLeft ihRight =>
      exact enclosed_append_map ihLeft (enclosed_append_map (enclosed_otherWords _) ihRight)
  | suffix e operator more ih => exact enclosed_append_map ih (enclosed_otherWords _)
  | collate e keyword name ih => exact enclosed_append_map ih (enclosed_otherWords _)
  | parens e ih => exact enclosed_group ih
  | emptyParens => exact enclosed_group enclosed_nil
  | call function arguments ih => exact enclosed_append_map (enclosed_otherWords [function]) (enclosed_group ih)
  | callEmpty function => exact enclosed_append_map (enclosed_otherWords [function]) (enclosed_group enclosed_nil)
  | cast keyword e word type size ih =>
      have inner := enclosed_append_map ih (enclosed_append_map (enclosed_otherWords (word :: type)) (enclosed_typeSize size))
      exact enclosed_append_map (enclosed_otherWords [keyword]) (enclosed_group inner)
  | caseOf keyword parts ending ih =>
      exact enclosed_append_map (enclosed_otherWords [keyword]) (enclosed_append_map ih (enclosed_otherWords [ending]))

/-! ### Taken and named -/

/-- The columns named by two parts are named one part after the other. -/
theorem namedInside_append (p : Place) (tokens more : List SqlToken) :
    namedInside byName p (tokens ++ more) = namedInside byName p tokens ++ namedInside byName (p.behind tokens) more := by
  induction tokens generalizing p with
  | nil => rfl
  | cons t tokens ih =>
      rw [List.cons_append, namedInside, namedInside, ih, List.append_assoc]
      rfl

/-- A token that is taken for a column names it inside parentheses. -/
theorem taken_subset_named {p : Place} {tokens after : List SqlToken} :
    takenColumns byName p tokens after ⊆ namedInside byName p tokens := by
  induction tokens generalizing p with
  | nil => exact List.nil_subset _
  | cons t tokens ih =>
      rw [takenColumns_cons, namedInside]
      refine List.append_subset.mpr ⟨?_, List.subset_append_of_subset_right _ ih⟩
      refine List.subset_append_of_subset_left _ ?_
      cases inside : p.inside t with
      | false => rw [Place.taken_outside inside]; exact List.nil_subset _
      | true =>
          rw [Place.taken, if_pos rfl]
          split
          · exact List.Subset.refl _
          · exact List.nil_subset _

/-- An expression refers to columns that its words name. -/
theorem refers_subset_named {p : Place} {words : List ReadToken} (within : p.Within (words.map ReadToken.token)) :
    words.flatMap (ReadToken.refers byName) ⊆ namedInside byName p (words.map ReadToken.token) := by
  induction words generalizing p with
  | nil => exact List.nil_subset _
  | cons w words ih =>
      obtain ⟨_, inside, later⟩ := within
      rw [List.flatMap_cons, List.map_cons, namedInside, inside, if_pos rfl, ReadToken.refers]
      refine List.append_subset.mpr ⟨List.subset_append_of_subset_left _ ?_, List.subset_append_of_subset_right _ (ih later)⟩
      split
      · exact List.Subset.refl _
      · exact List.nil_subset _

/-! ### Words read as they are meant -/

/-- A word that is taken as it is meant adds the column that it refers to. -/
theorem Place.taken_eq {p : Place} {w : ReadToken} {after : List SqlToken}
    (meant : p.takes byName w.token after = (w.isColumn && (byName.get? (nameKey w.token)).isSome)) :
    p.taken byName w.token after = w.refers byName := by
  rw [Place.taken, ReadToken.refers, meant]
  cases byName.get? (nameKey w.token) with
  | none => simp
  | some column => simp

/-- Where every word is taken as it is meant, the columns taken are the columns referred to. -/
theorem ReadsAsMeant.taken {p : Place} {words : List ReadToken} {after : List SqlToken}
    (meant : ReadsAsMeant byName p words after) :
    takenColumns byName p (words.map ReadToken.token) after = words.flatMap (ReadToken.refers byName) := by
  induction words generalizing p with
  | nil => rfl
  | cons w words ih => rw [List.map_cons, takenColumns_cons, List.flatMap_cons, Place.taken_eq meant.1, ih meant.2]

/-- Where no two tokens name one column, the columns taken are the columns referred to only if every word is taken as it
    is meant. -/
theorem readsAsMeant_of_mem {p : Place} {words : List ReadToken} {after : List SqlToken}
    (within : p.Within (words.map ReadToken.token))
    (once : (namedInside byName p (words.map ReadToken.token)).Nodup)
    (same : ∀ column, column ∈ takenColumns byName p (words.map ReadToken.token) after ↔
      column ∈ words.flatMap (ReadToken.refers byName)) : ReadsAsMeant byName p words after := by
  induction words generalizing p with
  | nil => trivial
  | cons w words ih =>
      obtain ⟨_, inside, later⟩ := within
      rw [List.map_cons, namedInside, inside, if_pos rfl, List.nodup_append] at once
      obtain ⟨_, onceLater, apart⟩ := once
      rw [List.map_cons, takenColumns_cons, List.flatMap_cons] at same
      -- a column that the first word names is not among those of the others
      have own : ∀ column, byName.get? (nameKey w.token) = some column →
          column ∉ takenColumns byName (p.next w.token) (words.map ReadToken.token) after ∧
            column ∉ words.flatMap (ReadToken.refers byName) := by
        intro column named
        have alone : column ∉ namedInside byName (p.next w.token) (words.map ReadToken.token) := fun mem =>
          apart column (by rw [named]; exact List.mem_singleton_self column) column mem rfl
        exact ⟨fun mem => alone (taken_subset_named mem), fun mem => alone (refers_subset_named later mem)⟩
      have first : p.takes byName w.token (words.map ReadToken.token ++ after) =
          (w.isColumn && (byName.get? (nameKey w.token)).isSome) := by
        cases named : byName.get? (nameKey w.token) with
        | none => simp [Place.takes, named]
        | some column =>
            have both := same column
            rw [List.mem_append, List.mem_append, or_iff_left (own column named).1, or_iff_left (own column named).2,
              Place.taken, ReadToken.refers, named] at both
            rw [Option.isSome_some, Bool.and_true, Bool.eq_iff_iff]
            simpa using both
      refine ⟨first, ih later onceLater fun column => ?_⟩
      have both := same column
      rw [Place.taken_eq first, List.mem_append, List.mem_append] at both
      have apartFrom : column ∈ w.refers byName →
          column ∉ takenColumns byName (p.next w.token) (words.map ReadToken.token) after ∧
            column ∉ words.flatMap (ReadToken.refers byName) := by
        intro mem
        refine own column ?_
        rw [ReadToken.refers] at mem
        split at mem
        · exact Option.mem_toList.mp mem
        · cases mem
      constructor
      · intro mem
        exact (both.mp (.inr mem)).resolve_left fun refers => (apartFrom refers).1 mem
      · intro mem
        exact (both.mpr (.inr mem)).resolve_left fun refers => (apartFrom refers).2 mem

end DjangoPyturso
