/-
Module: DjangoPyturso.Proofs.DeferredFlush
Layer: Proofs
Purpose: Each deferred statement of a session is executed once, in order, unless it is taken back. The end of the
  session hands over its own text. The end of `_remake_table` converts its placeholders first, which leaves the text
  as it is exactly where code and literals hold no `%%` and code holds no `%s`.
Imports: DjangoPyturso.Model.DeferredSql, DjangoPyturso.Proofs.SchemaDefaults, DjangoPyturso.Proofs.EditorLifecycle
Trusted boundary: none
Main exports: fate, survivors, OwnText, converted_eq_self_iff, runSteps_outlook, ddlSession_flushes
Open obligations: none
-/
import DjangoPyturso.Model.DeferredSql
import DjangoPyturso.Proofs.SchemaDefaults
import DjangoPyturso.Proofs.EditorLifecycle
import DjangoPyturso.Proofs.ExecutemanyAgreement

namespace DjangoPyturso

open Effect SqlText TextScan

/-! ### Texts that conversion leaves alone -/

/-- Conversion reads the text as it is: there is no `%%` in code or literals, and no `%s` in code. -/
def OwnText (t : Text) : Prop :=
  ∀ r ∈ regions t, (r.kind = .code ∨ r.kind = .literal → doublePercent r.text = false) ∧
    (r.kind = .code → placeholderCount r.text = 0)

theorem positionalCode_length_le (t : Text) : (positionalCode t).length ≤ t.length := by
  induction t using scan_induction with
  | nil => exact Nat.le_refl _
  | cons c rest ih =>
      rcases codeToken_false_cases c rest with
        ⟨after, rfl, rfl, _⟩ | ⟨after, rfl, rfl, _⟩ | ⟨pair, placeholder, _⟩
      · have tail := ih after (by simp)
        simp only [positionalCode, and_self, if_true, List.length_cons]
        omega
      · have tail := ih after (by simp)
        simp [positionalCode]
        omega
      · rw [(positionalCode_char pair placeholder).1]
        exact Nat.succ_le_succ (ih rest (Nat.le_refl _))

/-- Code stays as it is exactly where there is neither `%%` nor `%s`. -/
theorem positionalCode_eq_self_iff (t : Text) :
    positionalCode t = t ↔ doublePercent t = false ∧ placeholderCount t = 0 := by
  induction t with
  | nil => simp [positionalCode, doublePercent, placeholderCount]
  | cons c rest ih =>
      rcases codeToken_false_cases c rest with
        ⟨after, rfl, rfl, _⟩ | ⟨after, rfl, rfl, _⟩ | ⟨pair, placeholder, _⟩
      · have shorter := positionalCode_length_le after
        constructor
        · intro same
          have lengths := congrArg List.length same
          simp only [positionalCode, and_self, if_true, List.length_cons] at lengths
          omega
        · intro plain
          simp [doublePercent] at plain
      · constructor
        · intro same
          simp [positionalCode] at same
        · intro plain
          simp [placeholderCount] at plain
      · have apart : (c == '%' && rest.head? == some '%') = false := by
          rw [Bool.eq_false_iff]
          simpa using pair
        rw [(positionalCode_char pair placeholder).1, (positionalCode_char pair placeholder).2, doublePercent, apart,
          Bool.false_or, ← ih]
        simp

theorem convertedRegion_length_le (r : Region) : (convertedRegion r).length ≤ r.text.length := by
  unfold convertedRegion
  split
  · exact positionalCode_length_le r.text
  · exact collapse_length_le r.text
  · exact Nat.le_refl _

theorem convertedRegion_eq_self_iff (r : Region) :
    convertedRegion r = r.text ↔ (r.kind = .code ∨ r.kind = .literal → doublePercent r.text = false) ∧
      (r.kind = .code → placeholderCount r.text = 0) := by
  unfold convertedRegion
  cases kind : r.kind with
  | code => simp [positionalCode_eq_self_iff]
  | literal => simp [collapse_eq_self_iff]
  | lineComment | blockComment | identifier => simp

/-- Texts that do not get longer agree together only if each agrees. -/
theorem flatMap_eq_iff {rs : List Region} (shorter : ∀ r ∈ rs, (convertedRegion r).length ≤ r.text.length) :
    rs.flatMap convertedRegion = rs.flatMap (·.text) ↔ ∀ r ∈ rs, convertedRegion r = r.text := by
  induction rs with
  | nil => simp
  | cons r rs ih =>
      have tail := ih fun other member => shorter other (List.mem_cons_of_mem _ member)
      have tailShorter : (rs.flatMap convertedRegion).length ≤ (rs.flatMap (·.text)).length := by
        rw [List.length_flatMap, List.length_flatMap]
        exact List.sum_le_sum fun other member => shorter other (List.mem_cons_of_mem _ member)
      have headShorter := shorter r (List.mem_cons_self ..)
      rw [List.flatMap_cons, List.flatMap_cons, List.forall_mem_cons, ← tail]
      constructor
      · intro same
        have lengths := congrArg List.length same
        rw [List.length_append, List.length_append] at lengths
        exact List.append_inj same (by omega)
      · rintro ⟨head, rest⟩
        rw [head, rest]

theorem converted_eq_self_iff (t : Text) : converted t = t ↔ OwnText t := by
  have whole : converted t = t ↔ (regions t).flatMap convertedRegion = (regions t).flatMap (·.text) := by
    rw [regions_flatten, converted, sqlText_regionReading]
  rw [whole, flatMap_eq_iff fun r _ => convertedRegion_length_le r]
  exact forall₂_congr fun r _ => convertedRegion_eq_self_iff r

/-- What `execute(sql)` hands to the driver, if it does. -/
theorem handedOver_noParams {V : Type} {sql : Text} {handed : Text × Option (Bound V)}
    (hands : handedOver sql noParams = .ok handed) : handed.1 = converted sql := by
  obtain ⟨b, converts, tokens, _⟩ := convertPlaceholders_none sql
  have text : b.query = converted sql := by
    rw [QueryBindings.query, tokens, converted]
  change ((convertPlaceholders sql none).bind fun bindings =>
    (bindings.prepareParams (.sequence [])).bind fun values => pure (bindings.query, values)).map _ = _ at hands
  rw [converts] at hands
  change ((b.prepareParams (.sequence [])).bind fun values => pure (b.query, values)).map _ = _ at hands
  cases prepared : b.prepareParams (.sequence []) with
  | error e =>
      rw [prepared] at hands
      cases hands
  | ok values =>
      rw [prepared] at hands
      cases hands
      exact text

/-- Text without placeholders is handed over. -/
theorem handedOver_of_plain {V : Type} {sql : Text} (plain : ∀ r ∈ codeRegions sql, placeholderCount r.text = 0) :
    handedOver (V := V) sql noParams = .ok (converted sql, some (.values [])) := by
  obtain ⟨b, converts, tokens, _⟩ := convertPlaceholders_none sql
  have text : b.query = converted sql := by
    rw [QueryBindings.query, tokens, converted]
  have count : b.positionalCount = 0 := by
    rw [QueryBindings.positionalCount, tokens, positionalCount_regionReading, List.sum_eq_zero_iff]
    intro n member
    obtain ⟨r, mem, rfl⟩ := List.mem_map.mp member
    exact plain r mem
  have supplies : Supplies b (Parameters.sequence ([] : List V)) := by
    unfold Supplies
    rw [count]
    exact ⟨Nat.le_refl 0, fun _ => rfl⟩
  have accepts := (prepareParams_sequence converts rfl).1 supplies
  change ((convertPlaceholders sql none).bind fun bindings =>
    (bindings.prepareParams (.sequence [])).bind fun values => pure (bindings.query, values)).map _ = _
  rw [converts]
  change ((b.prepareParams (.sequence [])).bind fun values => pure (b.query, values)).map _ = _
  rw [accepts, text]
  rfl

/-! ### What becomes of a deferred statement -/

section

variable {P V W : Type} (ops : StatementOps P)

/-- What becomes of a pending statement: it is taken back, or executed by `_remake_table` (`true`) or at the end of the
    session (`false`), as it has been renamed by then. -/
def fate (sql : Deferred P) : List (SchemaStep P V) → Option (Deferred P × Bool)
  | [] => some (sql, false)
  | .flush :: _ => some (sql, true)
  | .deleteModel table :: later => if sql.refers (ops.referencesTable table) then none else fate sql later
  | .dropColumn table column :: later =>
      if sql.refers (ops.referencesColumn table column) then none else fate sql later
  | .renameTable old new :: later => fate (sql.rename (ops.renameTableReferences old new)) later
  | .renameColumn table old new :: later => fate (sql.rename (ops.renameColumnReferences table old new)) later
  | .execute _ _ :: later | .defer _ :: later => fate sql later

/-- The statements of a session that are not taken back, in the order in which they are deferred. -/
def survivors : List (SchemaStep P V) → List (Deferred P × Bool)
  | [] => []
  | .defer sqls :: later => sqls.filterMap (fun sql => fate ops sql later) ++ survivors later
  | .execute _ _ :: later | .deleteModel _ :: later | .dropColumn _ _ :: later | .renameTable _ _ :: later
  | .renameColumn _ _ _ :: later | .flush :: later => survivors later

/-- The execution of a deferred statement with its own text. -/
def ownExecution (sql : Deferred P × Bool) : Execution P := ⟨some sql.1, sql.1.sql ops⟩

/-- The execution of a deferred statement, as it is. -/
def execution (sql : Deferred P × Bool) : Execution P :=
  ⟨some sql.1, if sql.2 then converted (sql.1.sql ops) else sql.1.sql ops⟩

/-- The executions of deferred statements. -/
def deferredExecutions (log : List (Execution P)) : List (Execution P) := log.filter (·.deferred.isSome)

/-- The deferred statements that have been executed, and those that will be. -/
def outlook (steps : List (SchemaStep P V)) (log : List (Execution P)) (pending : List (Deferred P)) :
    List (Execution P) :=
  deferredExecutions log ++
    (pending.filterMap (fun sql => fate ops sql steps) ++ survivors ops steps).map (execution ops)

/-- Taking statements back one by one leaves the others. -/
theorem discard_eq_filter [DecidableEq P] (test : P → Bool) (deferred : List (Deferred P)) :
    Deferred.discard test deferred = deferred.filter fun sql => !sql.refers test := by
  have passes : ∀ todo kept : List (Deferred P), (∀ sql ∈ kept, sql.refers test = false) →
      todo.foldl (fun remaining sql => if sql.refers test then remaining.erase sql else remaining) (kept ++ todo) =
        kept ++ todo.filter fun sql => !sql.refers test := by
    intro todo
    induction todo with
    | nil => exact fun kept _ => rfl
    | cons sql todo ih =>
        intro kept unrelated
        rw [List.foldl_cons]
        cases refers : sql.refers test with
        | true =>
            have absent : sql ∉ kept := fun member => by
              rw [unrelated sql member] at refers
              cases refers
            rw [if_pos rfl, List.erase_append_right _ absent, List.erase_cons_head, ih kept unrelated,
              List.filter_cons_of_neg (by rw [refers]; exact Bool.noConfusion)]
        | false =>
            have split : kept ++ sql :: todo = (kept ++ [sql]) ++ todo := by
              rw [List.append_assoc]
              rfl
            rw [if_neg Bool.false_ne_true, split, ih (kept ++ [sql]), List.append_assoc,
              List.filter_cons_of_pos (by rw [refers]; rfl)]
            · rfl
            · intro other member
              rcases List.mem_append.mp member with member | member
              · exact unrelated other member
              · rw [List.mem_singleton.mp member]
                exact refers
  exact passes deferred [] fun _ member => nomatch member

/-! ### The steps of a session -/

variable (c : EditorConnection W (Text × Option (Bound V)))

/-- A call beside the statements of the editor leaves the log alone. -/
theorem unlogged_log {α : Type} (x : Effect W Raised α) (d : Ddl P W) :
    wp (unlogged x) (fun _ d' => d'.2 = d.2) (fun _ d' => d'.2 = d.2) d := by
  unfold unlogged
  rw [wp_zoom]
  exact wp_of_forall (fun _ _ => rfl) (fun _ _ => rfl)

/-- A statement that is executed is logged with the text that is handed over. -/
theorem executeDdl_log {deferred : Option (Deferred P)} {sql : Text} {params : Option (Parameters V)} (d : Ddl P W) :
    wp (executeDdl c deferred sql params)
      (fun _ d' => ∃ handed, handedOver sql params = .ok handed ∧ d'.2 = d.2 ++ [⟨deferred, handed.1⟩])
      (fun _ _ => True) d := by
  unfold executeDdl
  cases hands : handedOver sql params with
  | error e => trivial
  | ok handed =>
      dsimp only
      rw [wp_bind, wp_modify]
      apply wp_mono (unlogged_log (c.execute handed) _)
      · exact fun _ d' same => ⟨handed, rfl, same⟩
      · exact fun _ _ _ => trivial

theorem deferredExecutions_append (log more : List (Execution P)) :
    deferredExecutions (log ++ more) = deferredExecutions log ++ deferredExecutions more := List.filter_append ..

/-- The loop at the end of `_remake_table` executes all pending statements, converted. -/
theorem executeDeferred_log (pending : List (Deferred P)) (d : Ddl P W) :
    wp (executeDeferred ops c pending)
      (fun _ d' => deferredExecutions d'.2 =
        deferredExecutions d.2 ++ pending.map fun sql => execution ops (sql, true))
      (fun _ _ => True) d := by
  induction pending generalizing d with
  | nil => exact (List.append_nil _).symm
  | cons sql later ih =>
      unfold executeDeferred
      rw [wp_bind]
      apply wp_mono (executeDdl_log c d)
      · rintro _ d₁ ⟨handed, hands, log⟩
        apply wp_mono (ih d₁)
        · intro _ d₂ logged
          rw [logged, log, deferredExecutions_append, handedOver_noParams hands, List.append_assoc]
          rfl
        · exact fun _ _ _ => trivial
      · exact fun _ _ _ => trivial

/-- The pending statements that a test spares go on. -/
theorem filterMap_discard [DecidableEq P] {β : Type} (test : P → Bool) (next : Deferred P → Option β) (pending : List (Deferred P)) :
    (Deferred.discard test pending).filterMap next =
      pending.filterMap fun sql => if sql.refers test then none else next sql := by
  rw [discard_eq_filter, List.filterMap_filter]
  congr 1
  funext sql
  cases sql.refers test with
  | true => rfl
  | false => rfl

/-! ### The beginning of a session -/

namespace SchemaEditor

/-- The log and the pending statements of an editor. -/
def At (log : List (Execution P)) (pending : List (Deferred P)) (e : SchemaEditor (Ddl P W) (Deferred P)) : Prop :=
  e.connection.2 = log ∧ e.deferredSql = pending

variable {log : List (Execution P)} {pending : List (Deferred P)}

theorem onConnection_at {α : Type} (x : Effect W Raised α) :
    Keeps (At log pending) (onConnection (unlogged x) : Effect (SchemaEditor (Ddl P W) (Deferred P)) Raised α) := by
  rintro e ⟨rfl, rfl⟩
  unfold onConnection
  rw [wp_zoom]
  apply wp_mono (unlogged_log x e.connection)
  · exact fun _ _ same => ⟨same, rfl⟩
  · exact fun _ _ same => ⟨same, rfl⟩

theorem setForeignKeyState_at (enabled : Bool) : Keeps (At log pending) (setForeignKeyState (ddlConnection ops c) enabled) :=
  setForeignKeyState_keeps (onConnection_at c.readForeignKeys) (onConnection_at (c.writeForeignKeys enabled))

theorem restoreForeignKeyState_at : Keeps (At log pending) (restoreForeignKeyState (ddlConnection ops c)) := by
  apply Keeps.get
  intro e holds
  cases e.originalForeignKeys with
  | none => exact holds
  | some original =>
      dsimp only
      have sets : Keeps (At log pending) (setForeignKeyState (ddlConnection ops c) (original != 0)) :=
        setForeignKeyState_at ops c _
      have disposes : ∀ error, Keeps (At log pending)
          (onConnection (ddlConnection ops c).forceClose >>= fun _ => Effect.raise (α := Unit) error) :=
        fun error => (onConnection_at c.forceClose).bind fun _ => Keeps.raise error
      apply (Keeps.tryExcept sets disposes).tryFinally _ e holds
      exact Keeps.modify fun _ holds => holds

theorem restoreTransactionMode_at : Keeps (At log pending) (restoreTransactionMode (ddlConnection ops c)) := by
  apply Keeps.modify
  rintro e ⟨rfl, rfl⟩
  cases e.originalTransactionMode with
  | none => exact ⟨rfl, rfl⟩
  | some mode => exact ⟨rfl, rfl⟩

theorem refuseTransaction_at : Keeps (At log pending) (refuseTransaction (ddlConnection ops c)) := by
  apply Keeps.get
  intro e holds
  apply wp_ite
  · intro _
    refine Keeps.bind (onConnection_at c.getAutocommit) (fun autocommit => Keeps.get ?_) e holds
    intro e' holds'
    exact wp_ite (fun _ => holds') (fun _ => holds')
  · exact fun _ => holds

theorem readOriginal_at : Keeps (At log pending) (readOriginal (ddlConnection ops c)) := by
  refine Keeps.bind (Keeps.tryExcept (foreignKeyState_keeps (onConnection_at c.readForeignKeys)) fun error => ?_)
    fun original => Keeps.modify fun _ holds => holds
  exact (onConnection_at c.forceClose).bind fun _ => Keeps.raise error

/-- `undoEnter` always raises. -/
theorem undoEnter_raises (primary : Raised) {Q : Unit → SchemaEditor (Ddl P W) (Deferred P) → Prop}
    (e : SchemaEditor (Ddl P W) (Deferred P)) :
    wp (undoEnter (ddlConnection ops c) primary) Q (fun _ _ => True) e := by
  unfold undoEnter
  rw [wp_bind]
  exact wp_of_forall (fun _ _ => trivial) (fun _ _ => trivial)

/-- A session starts without deferred statements. -/
theorem enterConnected_at {e : SchemaEditor (Ddl P W) (Deferred P)} (holds : At log pending e) :
    wp (enterConnected (ddlConnection ops c)) (fun _ => At log []) (fun _ _ => True) e := by
  unfold enterConnected
  rw [wp_bind]
  apply wp_mono (refuseTransaction_at ops c e holds)
  · intro _ e₁ holds₁
    rw [wp_bind]
    apply wp_mono (readOriginal_at ops c e₁ holds₁)
    · intro _ e₂ holds₂
      rw [wp_tryExcept]
      unfold prepare
      rw [wp_bind]
      apply wp_mono (putForeignKeysAside_keeps (onConnection_at c.readForeignKeys)
        (onConnection_at (c.writeForeignKeys false)) e₂ holds₂)
      · intro _ e₃ holds₃
        rw [wp_bind]
        unfold putModeAside
        rw [wp_modify]
        have aside : At log pending (if (ddlConnection ops c).transactionMode e₃.connection = .concurrent then
            { e₃ with
              originalTransactionMode := some .concurrent
              connection := (ddlConnection ops c).setTransactionMode .immediate e₃.connection }
          else e₃) := by
          split
          · exact holds₃
          · exact holds₃
        generalize (if (ddlConnection ops c).transactionMode e₃.connection = .concurrent then _ else e₃) = e₄ at aside
        unfold baseEnter
        rw [wp_bind, wp_modify, wp_bind, wp_get]
        have emptied : At log [] { e₄ with deferredSql := [] } := ⟨aside.1, rfl⟩
        apply wp_ite
        · intro _
          apply wp_mono (onConnection_at c.enterBlock _ emptied)
          · exact fun _ _ holds' => holds'
          · exact fun _ _ _ => undoEnter_raises ops c _ _
        · exact fun _ => emptied
      · exact fun _ _ _ => undoEnter_raises ops c _ _
    · exact fun _ _ _ => trivial
  · exact fun _ _ _ => trivial

end SchemaEditor

/-! ### The end of a session -/

namespace SchemaEditor

/-- All pending statements are executed with their own text. -/
theorem executeAll_log (pending : List (Deferred P)) (e : SchemaEditor (Ddl P W) (Deferred P)) :
    wp (executeAll (ddlConnection ops c) pending)
      (fun _ e' => deferredExecutions e'.connection.2 =
        deferredExecutions e.connection.2 ++ pending.map (fun sql => execution ops (sql, false)) ∧
        e'.deferredSql = e.deferredSql) (fun _ _ => True) e := by
  induction pending generalizing e with
  | nil => exact ⟨(List.append_nil _).symm, rfl⟩
  | cons sql later ih =>
      unfold executeAll onConnection
      rw [wp_bind, wp_zoom]
      change wp (executeDdl c (some sql) (sql.sql ops) none) _ _ _
      apply wp_mono (executeDdl_log c e.connection)
      · rintro _ d ⟨handed, hands, log⟩
        apply wp_mono (ih { e with connection := d })
        · rintro _ e' ⟨logged, same⟩
          refine ⟨?_, same⟩
          cases hands
          rw [logged, log, deferredExecutions_append, List.append_assoc]
          rfl
        · exact fun _ _ _ => trivial
      · exact fun _ _ _ => trivial

/-- The flush of `_exit_schema` executes what is pending. -/
theorem flush_log (e : SchemaEditor (Ddl P W) (Deferred P)) :
    wp (flush (ddlConnection ops c))
      (fun _ e' => deferredExecutions e'.connection.2 =
        deferredExecutions e.connection.2 ++ e.deferredSql.map (fun sql => execution ops (sql, false)) ∧
        e'.deferredSql = []) (fun _ _ => True) e := by
  unfold flush
  rw [wp_bind, wp_get, wp_bind, wp_modify, wp_bind]
  apply wp_mono (executeAll_log ops c e.deferredSql _)
  · rintro _ e₁ ⟨logged, emptied⟩
    apply wp_mono (onConnection_at c.checkConstraints e₁ ⟨rfl, rfl⟩)
    · rintro _ e₂ ⟨log, pending⟩
      rw [log, pending]
      exact ⟨logged, emptied⟩
    · exact fun _ _ _ => trivial
  · exact fun _ _ _ => trivial

/-- After the flush, the base class has nothing left to execute. -/
theorem baseExit_at {log : List (Execution P)} (raised : Option Raised) {e : SchemaEditor (Ddl P W) (Deferred P)}
    (holds : At log [] e) : wp (baseExit (ddlConnection ops c) raised) (fun _ => At log []) (fun _ => At log []) e := by
  have nothing : (if raised.isNone then e.deferredSql else []) = [] := by
    rw [holds.2, ite_self]
  unfold baseExit
  rw [wp_bind, wp_get, nothing, wp_bind]
  unfold executeAll
  rw [wp_pure, wp_bind, wp_get]
  apply wp_ite
  · exact fun _ => onConnection_at (c.exitBlock raised.isSome) e holds
  · exact fun _ => holds

/-- A session that ends without an error has executed what was pending at the end of its body. -/
theorem exitSchema_log (e : SchemaEditor (Ddl P W) (Deferred P)) :
    wp (exitSchema (ddlConnection ops c) none)
      (fun _ e' => deferredExecutions e'.connection.2 =
        deferredExecutions e.connection.2 ++ e.deferredSql.map (fun sql => execution ops (sql, false)))
      (fun _ _ => True) e := by
  unfold exitSchema schemaError
  rw [wp_bind, Option.isNone_none, if_pos rfl, wp_attempt]
  apply wp_mono (flush_log ops c e)
  · rintro _ e₁ ⟨logged, emptied⟩
    have pending : At e₁.connection.2 [] e₁ := ⟨rfl, emptied⟩
    have exits := baseExit_at ops c (none <|> none) pending
    have restores : ∀ exit e₂, At e₁.connection.2 [] e₂ → wp (restoreForeignKeyState (ddlConnection ops c))
        (fun _ e' => wp (raiseIf (exit <|> none)) (fun _ e'' => deferredExecutions e''.connection.2 =
          deferredExecutions e.connection.2 ++ e.deferredSql.map (fun sql => execution ops (sql, false)))
          (fun _ _ => True) e') (fun _ _ => True) e₂ := by
      intro exit e₂ holds
      apply wp_mono (restoreForeignKeyState_at ops c e₂ holds)
      · intro _ e₃ holds₃
        cases exit with
        | none =>
            change deferredExecutions e₃.connection.2 = _
            rw [holds₃.1, logged]
        | some error => trivial
      · exact fun _ _ _ => trivial
    rw [wp_bind, wp_attempt]
    apply wp_mono exits
    · intro _ e₂ holds
      rw [wp_bind, wp_tryExcept]
      apply wp_mono (restores none e₂ holds)
      · exact fun _ _ returned => returned
      · exact fun _ _ _ => trivial
    · intro error e₂ holds
      rw [wp_bind, wp_tryExcept]
      apply wp_mono (restores (some error) e₂ holds)
      · exact fun _ _ returned => returned
      · exact fun _ _ _ => trivial
  · intro error e₁ _
    -- The error of the flush is raised at the end.
    have raises : ∀ (x : Effect (SchemaEditor (Ddl P W) (Deferred P)) Raised Unit) (exit : Option Raised) e₂,
        wp (x >>= fun _ => raiseIf (exit <|> some error)) (fun _ e'' => deferredExecutions e''.connection.2 =
          deferredExecutions e.connection.2 ++ e.deferredSql.map (fun sql => execution ops (sql, false)))
          (fun _ _ => True) e₂ := by
      intro x exit e₂
      rw [wp_bind]
      apply wp_of_forall
      · intro _ e₃
        cases exit with
        | none => trivial
        | some error => trivial
      · exact fun _ _ => trivial
    rw [wp_bind, wp_attempt]
    apply wp_of_forall
    · exact fun _ e₂ => raises _ none e₂
    · exact fun error e₂ => raises _ (some error) e₂

theorem leave_log (e : SchemaEditor (Ddl P W) (Deferred P)) :
    wp (leave (ddlConnection ops c) none)
      (fun _ e' => deferredExecutions e'.connection.2 =
        deferredExecutions e.connection.2 ++ e.deferredSql.map (fun sql => execution ops (sql, false)))
      (fun _ _ => True) e := by
  unfold leave exit
  rw [wp_bind, wp_tryFinally]
  apply wp_mono (exitSchema_log ops c e)
  · intro _ e₁ logged
    apply wp_mono (restoreTransactionMode_at ops c e₁ ⟨rfl, rfl⟩)
    · intro _ e₂ holds
      change deferredExecutions e₂.connection.2 = _
      rw [holds.1, logged]
    · exact fun _ _ _ => trivial
  · exact fun _ _ _ => wp_of_forall (fun _ _ => trivial) (fun _ _ => trivial)

end SchemaEditor

/-! ### The body of a session -/

variable [DecidableEq P]

/-- A step changes neither what has been executed nor what will be. -/
theorem runStep_outlook (step : SchemaStep P V) (later : List (SchemaStep P V))
    (e : Ddl P W × List (Deferred P)) :
    wp (runStep ops c step) (fun _ e' => outlook ops later e'.1.2 e'.2 = outlook ops (step :: later) e.1.2 e.2)
      (fun _ _ => True) e := by
  -- A statement of the editor itself, before the deferred statements are changed.
  have executes : ∀ (sql : Text) (params : Option (Parameters V)) (change : List (Deferred P) → List (Deferred P)),
      outlook ops later e.1.2 (change e.2) = outlook ops (step :: later) e.1.2 e.2 →
      wp (beside (executeDdl c none sql params) >>= fun _ => changeDeferred change)
        (fun _ e' => outlook ops later e'.1.2 e'.2 = outlook ops (step :: later) e.1.2 e.2) (fun _ _ => True) e := by
    intro sql params change same
    unfold beside changeDeferred
    rw [wp_bind, wp_zoom]
    apply wp_mono (executeDdl_log c e.1)
    · rintro _ d ⟨handed, _, log⟩
      rw [wp_modify, ← same]
      unfold outlook
      rw [log, deferredExecutions_append]
      change (deferredExecutions e.1.2 ++ []) ++ _ = _
      rw [List.append_nil]
    · exact fun _ _ _ => trivial
  cases step with
  | execute sql params =>
      unfold runStep beside
      rw [wp_zoom]
      apply wp_mono (executeDdl_log c e.1)
      · rintro _ d ⟨handed, _, log⟩
        unfold outlook
        rw [log, deferredExecutions_append]
        change (deferredExecutions e.1.2 ++ []) ++ _ = _
        rw [List.append_nil]
        rfl
      · exact fun _ _ _ => trivial
  | defer sqls =>
      change outlook ops later e.1.2 (e.2 ++ sqls) = _
      unfold outlook
      rw [List.filterMap_append, List.append_assoc]
      rfl
  | deleteModel table =>
      apply executes
      unfold outlook
      rw [filterMap_discard]
      rfl
  | dropColumn table column =>
      change outlook ops later e.1.2 (Deferred.discard _ e.2) = _
      unfold outlook
      rw [filterMap_discard]
      rfl
  | renameTable old new =>
      change outlook ops later e.1.2 (e.2.map _) = _
      unfold outlook
      rw [List.filterMap_map]
      rfl
  | renameColumn table old new =>
      change outlook ops later e.1.2 (e.2.map _) = _
      unfold outlook
      rw [List.filterMap_map]
      rfl
  | flush =>
      unfold runStep beside changeDeferred
      rw [wp_bind, wp_get, wp_bind, wp_zoom]
      apply wp_mono (executeDeferred_log ops c e.2 e.1)
      · intro _ d logged
        rw [wp_modify]
        change deferredExecutions d.2 ++ (survivors ops later).map _ = _
        rw [logged, List.append_assoc]
        unfold outlook
        have all : e.2.filterMap (fun sql => fate ops sql (.flush :: later)) = e.2.map fun sql => (sql, true) := by
          change e.2.filterMap (some ∘ fun sql => (sql, true)) = _
          rw [List.filterMap_eq_map]
        rw [all, List.map_append, List.map_map]
        rfl
      · exact fun _ _ _ => trivial

/-- Over the whole body, the outlook becomes what has been executed and what is pending. -/
theorem runSteps_outlook (steps : List (SchemaStep P V)) (e : Ddl P W × List (Deferred P)) :
    wp (runSteps ops c steps)
      (fun _ e' => outlook (V := V) ops [] e'.1.2 e'.2 = outlook ops steps e.1.2 e.2) (fun _ _ => True) e := by
  induction steps generalizing e with
  | nil => rfl
  | cons step later ih =>
      unfold runSteps
      rw [wp_bind]
      apply wp_mono (runStep_outlook ops c step later e)
      · intro _ e₁ same
        apply wp_mono (ih e₁)
        · exact fun _ _ same' => same'.trans same
        · exact fun _ _ _ => trivial
      · exact fun _ _ _ => trivial

/-! ### A whole session -/

/-- Each deferred statement of a session that ends without an error is executed once, in order, unless it is taken
    back. -/
theorem ddlSession_flushes (steps : List (SchemaStep P V)) (e : SchemaEditor (Ddl P W) (Deferred P)) :
    wp (ddlSession ops c steps)
      (fun _ e' => deferredExecutions e'.connection.2 =
        deferredExecutions e.connection.2 ++ (survivors ops steps).map (execution ops)) (fun _ _ => True) e := by
  unfold ddlSession SchemaEditor.session
  rw [wp_bind]
  apply wp_mono (SchemaEditor.enterConnected_at ops c ⟨rfl, rfl⟩)
  · rintro _ e₁ ⟨log, emptied⟩
    rw [wp_bind, wp_attempt]
    unfold SchemaEditor.onBody
    rw [wp_zoom]
    apply wp_mono (runSteps_outlook ops c steps (e₁.connection, e₁.deferredSql))
    · intro _ d same
      apply wp_mono (SchemaEditor.leave_log ops c _)
      · intro _ e₂ logged
        rw [logged]
        dsimp only
        rw [emptied, log] at same
        have all : d.2.filterMap (fun sql => fate (V := V) ops sql []) = d.2.map fun sql => (sql, false) := by
          change d.2.filterMap (some ∘ fun sql => (sql, false)) = _
          rw [List.filterMap_eq_map]
        unfold outlook at same
        rw [all] at same
        change deferredExecutions d.1.2 ++ (_ ++ []).map _ = _ ++ ([] ++ _).map _ at same
        rw [List.append_nil, List.nil_append, List.map_map] at same
        exact same
      · exact fun _ _ _ => trivial
    · intro error d _
      unfold SchemaEditor.leave
      rw [wp_bind]
      exact wp_of_forall (fun _ _ => trivial) (fun _ _ => trivial)
  · exact fun _ _ _ => trivial

/-- In a session without errors, the deferred statements that are not taken back are executed once each, in order and
    with their own texts, if and only if conversion leaves alone those that `_remake_table` executes. -/
theorem ddlSession_ownTexts {steps : List (SchemaStep P V)} {e e' : SchemaEditor (Ddl P W) (Deferred P)}
    (returns : ddlSession ops c steps e = (.ok (), e')) :
    deferredExecutions e'.connection.2 =
        deferredExecutions e.connection.2 ++ (survivors ops steps).map (ownExecution ops) ↔
      ∀ sql, (sql, true) ∈ survivors ops steps → OwnText (sql.sql ops) := by
  have flushed := returned_of_wp (ddlSession_flushes ops c steps e) returns
  rw [flushed, List.append_cancel_left_eq, List.map_inj_left]
  constructor
  · intro own sql member
    have texts := congrArg Execution.text (own _ member)
    exact (converted_eq_self_iff _).mp texts
  · rintro plain ⟨sql, remade⟩ member
    cases remade with
    | false => rfl
    | true =>
        have same := (converted_eq_self_iff _).mpr (plain sql member)
        exact congrArg (Execution.mk (some sql)) same

end

/-! ### An index and a remake of its table -/

/-- Statements that are texts and refer to nothing. -/
def textOps : StatementOps Text := ⟨id, fun _ _ => false, fun _ _ _ => false, fun _ _ => id, fun _ _ _ => id⟩

/-- A connection without foreign-key enforcement on which everything succeeds. -/
def quietConnection : EditorConnection Unit (Text × Option (Bound Unit)) where
  ensureConnection := pure ()
  getAutocommit := pure true
  inAtomicBlock _ := false
  transactionMode _ := .deferred
  setTransactionMode _ _ := ()
  readForeignKeys := pure (some 0)
  writeForeignKeys _ := pure ()
  forceClose := pure ()
  execute _ := pure ()
  checkConstraints := pure ()
  enterBlock := pure ()
  exitBlock _ := pure ()

/-- Over this connection, a statement without placeholders is executed. -/
theorem executeDdl_quiet {P : Type} {deferred : Option (Deferred P)} {sql : Text}
    (plain : ∀ r ∈ codeRegions sql, placeholderCount r.text = 0) {Q : Unit → Ddl P Unit → Prop}
    {X : Raised → Ddl P Unit → Prop} {d : Ddl P Unit} :
    wp (executeDdl quietConnection deferred sql noParams) Q X d = Q () (d.1, d.2 ++ [⟨deferred, converted sql⟩]) := by
  unfold executeDdl
  rw [handedOver_of_plain plain]
  rfl

/-- A session returns where the statements of its body and the pending statements are executed. -/
theorem ddlSession_quiet {steps : List (SchemaStep Text Unit)}
    (body : ∀ d, wp (runSteps textOps quietConnection steps) (fun _ e => e.2 = []) (fun _ _ => False) (d, [])) :
    ∃ e', ddlSession textOps quietConnection steps (.new ((), []) true) = (.ok (), e') := by
  have returns : wp (ddlSession textOps quietConnection steps) (fun _ _ => True) (fun _ _ => False)
      (SchemaEditor.new ((), []) true) := by
    unfold ddlSession SchemaEditor.session
    rw [wp_bind]
    change wp (attempt (SchemaEditor.onBody (runSteps textOps quietConnection steps)) >>= _) _ _ _
    rw [wp_bind, wp_attempt]
    unfold SchemaEditor.onBody
    rw [wp_zoom]
    apply wp_mono (body _)
    · rintro _ ⟨d, pending⟩ rfl
      trivial
    · exact fun _ _ raises => raises.elim
  obtain ⟨_, e', returned, _⟩ := returns_of_wp returns
  exact ⟨e', returned⟩

/-- Over this connection, a statement of the editor itself is executed. -/
theorem runStep_quiet {sql : Text} (plain : ∀ r ∈ codeRegions sql, placeholderCount r.text = 0)
    {Q : Unit → Ddl Text Unit × List (Deferred Text) → Prop} {X : Raised → Ddl Text Unit × List (Deferred Text) → Prop}
    {e : Ddl Text Unit × List (Deferred Text)} :
    wp (beside (executeDdl quietConnection none sql noParams)) Q X e =
      Q () ((e.1.1, e.1.2 ++ [⟨none, converted sql⟩]), e.2) := by
  unfold beside
  rw [wp_zoom, executeDdl_quiet plain]

/-- A deferred statement, and a remake of a table afterwards. -/
theorem deferThenRemake_returns {sql renamed : Text} {table : SchemaName} {mapping : List (SchemaName × Source Text)}
    (plain : ∀ t ∈ [sql, copyStatement table mapping, "DROP TABLE ".toList ++ quoteName table.text, renamed],
      ∀ r ∈ codeRegions t, placeholderCount r.text = 0) :
    ∃ e', ddlSession textOps quietConnection (.defer [.statement sql] :: remakeTable table [] mapping renamed)
      (.new ((), []) true) = (.ok (), e') := by
  simp only [List.forall_mem_cons] at plain
  obtain ⟨plainSql, plainCopy, plainDrop, plainRename, _⟩ := plain
  apply ddlSession_quiet
  intro d
  unfold remakeTable
  rw [List.nil_append]
  simp only [runSteps, runStep, changeDeferred, wp_bind, wp_modify, runStep_quiet plainCopy, runStep_quiet plainDrop,
    runStep_quiet plainRename, wp_get]
  unfold beside
  rw [wp_zoom]
  simp only [List.nil_append, Deferred.discard, Deferred.refers, textOps, List.foldl_cons, List.foldl_nil,
    Bool.false_eq_true, if_false, List.map_cons, List.map_nil, Deferred.rename, id_eq, executeDeferred, wp_bind,
    Deferred.sql, executeDdl_quiet plainSql]
  rfl

/-- An index with a condition, and a remake of its table afterwards. -/
def indexThenRemake (index : Text) : List (SchemaStep Text Unit) :=
  .defer [.statement index] ::
    remakeTable plainName [] [(plainName, .column plainName)] "ALTER TABLE new__t RENAME TO t".toList

theorem survivors_indexThenRemake (index : Text) :
    survivors textOps (indexThenRemake index) = [(.statement index, true)] := rfl

theorem ddlSession_ownTexts_index :
    let index := "CREATE INDEX i ON t (t) WHERE t = '5%'".toList
    ∃ e', ddlSession textOps quietConnection (indexThenRemake index) (.new ((), []) true) = (.ok (), e') ∧
      deferredExecutions e'.connection.2 =
        [] ++ (survivors textOps (indexThenRemake index)).map (ownExecution textOps) := by
  intro index
  obtain ⟨e', returns⟩ : ∃ e', ddlSession textOps quietConnection (indexThenRemake index) (.new ((), []) true) =
    (.ok (), e') := deferThenRemake_returns (by decide)
  refine ⟨e', returns, (ddlSession_ownTexts textOps quietConnection returns).mpr ?_⟩
  intro sql member
  rw [survivors_indexThenRemake, List.mem_singleton] at member
  cases member
  unfold OwnText
  decide

/-- The condition `'5%%'` becomes `'5%'`. -/
theorem ddlSession_ownTexts_fails :
    let index := "CREATE INDEX i ON t (t) WHERE t = '5%%'".toList
    ∃ e', ddlSession textOps quietConnection (indexThenRemake index) (.new ((), []) true) = (.ok (), e') ∧
      deferredExecutions e'.connection.2 ≠
        [] ++ (survivors textOps (indexThenRemake index)).map (ownExecution textOps) := by
  intro index
  obtain ⟨e', returns⟩ : ∃ e', ddlSession textOps quietConnection (indexThenRemake index) (.new ((), []) true) =
    (.ok (), e') := deferThenRemake_returns (by decide)
  refine ⟨e', returns, fun own => ?_⟩
  have flushed := returned_of_wp (ddlSession_flushes textOps quietConnection _ _) returns
  rw [own] at flushed
  have texts := congrArg (List.map Execution.text) flushed
  exact absurd texts (by decide)

end DjangoPyturso
