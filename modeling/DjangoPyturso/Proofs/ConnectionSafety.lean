/-
Module: DjangoPyturso.Proofs.ConnectionSafety
Layer: Proofs
Purpose: What a wrapper may rely on once it has a connection, whatever fails on the way and whoever else uses the
  database; and that no connection is lost.
Imports: DjangoPyturso.Spec.ConnectionFleet
Trusted boundary: none
Main exports: Moves, configureJournalMode_spec, prepareConnection_spec, getNewConnection_spec, Sound, fleet_sound
Open obligations: none
-/
import DjangoPyturso.Spec.ConnectionFleet

namespace DjangoPyturso.ConnectionSafety

open Effect SqlText FileEngine Opening

variable {E : Type} {c : Conditions E} {asked : Prop} {h : Nat} {e e' e'' : FileEngine}

/-! ### What calls on one connection do to the engine -/

/-- What may become of the engine while a connection `h` is used. Only if it is `asked` for, or by other processes, the
    journal changes, and then to MVCC. -/
structure Moves (c : Conditions E) (asked : Prop) (h : Nat) (e e' : FileEngine) : Prop where
  others : ∀ k, k ≠ h → e'.connections k = e.connections k
  here : ∀ link, e.connections h = some link →
    ∃ link', e'.connections h = some link' ∧ (link.foreignKeys = true → link'.foreignKeys = true)
  next : e'.next = e.next
  abandoned : e'.abandoned = e.abandoned
  journal : e'.journal = e.journal ∨ e'.journal = .mvcc ∧ (asked ∨ c.Disturbed)

namespace Moves

theorem refl (e : FileEngine) : Moves c asked h e e where
  others _ _ := rfl
  here link found := ⟨link, found, id⟩
  next := rfl
  abandoned := rfl
  journal := .inl rfl

theorem trans (first : Moves c asked h e e') (second : Moves c asked h e' e'') : Moves c asked h e e'' where
  others k other := (second.others k other).trans (first.others k other)
  here link found := by
    obtain ⟨link', found', kept⟩ := first.here link found
    obtain ⟨link'', found'', kept'⟩ := second.here link' found'
    exact ⟨link'', found'', kept' ∘ kept⟩
  next := second.next.trans first.next
  abandoned := second.abandoned.trans first.abandoned
  journal := by
    rcases second.journal with same | changed
    · rw [same]
      exact first.journal
    · exact .inr changed

theorem mvcc (moves : Moves c asked h e e') (already : e.journal = .mvcc) : e'.journal = .mvcc := by
  rcases moves.journal with same | ⟨changed, -⟩
  · rw [same, already]
  · exact changed

theorem isOpen (moves : Moves c asked h e e') (found : ∃ link, e.connections h = some link) :
    ∃ link, e'.connections h = some link := by
  obtain ⟨link, found⟩ := found
  obtain ⟨link', found', -⟩ := moves.here link found
  exact ⟨link', found'⟩

end Moves

theorem moves_tick : Moves c asked h e (e.tick c) where
  others _ _ := rfl
  here link found := ⟨link, found, id⟩
  next := rfl
  abandoned := rfl
  journal := by
    unfold tick
    dsimp only
    split
    · next changed => exact .inr ⟨rfl, .inr ⟨_, changed⟩⟩
    · exact .inl rfl

theorem change_here {f : EngineLink → EngineLink} {link : EngineLink} (found : e.connections h = some link) :
    (e.change h f).connections h = some (f link) := by
  unfold change
  dsimp only
  rw [Function.update_self, found, Option.map_some]

theorem moves_change {f : EngineLink → EngineLink}
    (keeps : ∀ link, link.foreignKeys = true → (f link).foreignKeys = true) :
    Moves c asked h e (e.change h f) where
  others _ other := Function.update_of_ne other _ _
  here link found := ⟨f link, change_here found, keeps link⟩
  next := rfl
  abandoned := rfl
  journal := .inl rfl

theorem moves_run (statement : OpeningStatement) (may : statement = .setMvcc → asked) :
    Moves c asked h e (e.run c h statement) := by
  cases statement with
  | setMvcc =>
      exact ⟨fun _ _ => rfl, fun link found => ⟨link, found, id⟩, rfl, rfl, .inr ⟨rfl, .inl (may rfl)⟩⟩
  | setForeignKeys => exact moves_change fun _ _ => rfl
  | journalMode | foreignKeys | sqliteVersion => exact moves_change fun _ on => on

/-! ### The calls -/

/-- The answer that waits at the connection, if there is one, tells what the statement asks for. -/
def Answered (c : Conditions E) (h : Nat) (e : FileEngine) : OpeningStatement → Prop
  | .journalMode => ∀ row, (e.connections h).bind EngineLink.reply = some row → ∃ n, row = [c.journalReport n e.journal]
  | .foreignKeys => ∀ link row, e.connections h = some link → link.reply = some row →
      row = [.int (if link.foreignKeys then 1 else 0)]
  | _ => True

theorem call_spec {act : FileEngine → FileEngine} {Q : Unit → FileEngine → Prop} {X : E → FileEngine → Prop}
    (works : Q () (act (e.tick c))) (ignored : Q () ((e.tick c).change h fun link => { link with reply := none }))
    (before : ∀ error, X error (e.tick c)) (after : ∀ error, X error (act (e.tick c))) :
    wp (FileEngine.call c h act) Q X e := by
  unfold wp FileEngine.call
  dsimp only
  rcases c.fault (e.tick c).clock with _ | _ | error | error
  · exact works
  · exact ignored
  · exact before error
  · exact after error

theorem acquire_spec {α : Type} {value : FileEngine → α} {act : FileEngine → FileEngine}
    {Q : α → FileEngine → Prop} {X : E → FileEngine → Prop} (works : Q (value (e.tick c)) (act (e.tick c)))
    (fails : ∀ error, X error (e.tick c)) : wp (FileEngine.acquire c value act) Q X e := by
  unfold wp FileEngine.acquire
  dsimp only
  rcases c.fault (e.tick c).clock with _ | _ | error | error
  · exact works
  · exact works
  · exact fails error
  · exact fails error

theorem finish_spec {act failed : FileEngine → FileEngine} {Q : Unit → FileEngine → Prop}
    {X : E → FileEngine → Prop} (works : Q () (act (e.tick c))) (ignored : Q () (failed (e.tick c)))
    (before : ∀ error, X error (failed (e.tick c))) (after : ∀ error, X error (act (e.tick c))) :
    wp (FileEngine.finish c act failed) Q X e := by
  unfold wp FileEngine.finish
  dsimp only
  rcases c.fault (e.tick c).clock with _ | _ | error | error
  · exact works
  · exact ignored
  · exact before error
  · exact after error

theorem execute_spec (found : ∃ link, e.connections h = some link) (statement : OpeningStatement)
    (may : statement = .setMvcc → asked) :
    wp ((fileEngine c).execute h statement)
      (fun _ e' => Moves c asked h e e' ∧ Answered c h e' statement) (fun _ e' => Moves c asked h e e') e := by
  obtain ⟨link, found⟩ := found
  have found' : (e.tick c).connections h = some link := found
  have ran : Moves c asked h e ((e.tick c).run c h statement) := moves_tick.trans (moves_run statement may)
  change wp (FileEngine.call c h fun e => e.run c h statement) _ _ e
  refine call_spec ⟨ran, ?_⟩ ⟨moves_tick.trans (moves_change fun _ on => on), ?_⟩ (fun _ => moves_tick) fun _ => ran
  · cases statement with
    | journalMode =>
        intro row waits
        rw [run, change_here found'] at waits
        exact ⟨_, (Option.some.inj waits).symm⟩
    | foreignKeys =>
        intro link' row here waits
        rw [run, change_here found'] at here
        obtain rfl := Option.some.inj here
        exact (Option.some.inj waits).symm
    | setMvcc | setForeignKeys | sqliteVersion => trivial
  · cases statement with
    | journalMode =>
        intro row waits
        rw [change_here found'] at waits
        cases waits
    | foreignKeys =>
        intro link' row here waits
        rw [change_here found'] at here
        obtain rfl := Option.some.inj here
        cases waits
    | setMvcc | setForeignKeys | sqliteVersion => trivial

theorem fetchone_spec :
    wp ((fileEngine c).fetchone h)
      (fun row e' => Moves c asked h e e' ∧ row = (e.connections h).bind EngineLink.reply)
      (fun _ e' => Moves c asked h e e') e := by
  change wp (FileEngine.acquire c (fun e => (e.connections h).bind EngineLink.reply) fun e =>
    e.change h fun link => { link with reply := none }) _ _ e
  exact acquire_spec ⟨moves_tick.trans (moves_change fun _ on => on), rfl⟩ fun _ => moves_tick

theorem fetchall_spec :
    wp ((fileEngine c).fetchall h) (fun _ e' => Moves c asked h e e') (fun _ e' => Moves c asked h e e') e := by
  change wp (FileEngine.call c h fun e => e.change h fun link => { link with reply := none }) _ _ e
  exact call_spec (moves_tick.trans (moves_change fun _ on => on)) (moves_tick.trans (moves_change fun _ on => on))
    (fun _ => moves_tick) fun _ => moves_tick.trans (moves_change fun _ on => on)

theorem closeCursor_spec (asked : Prop) :
    wp ((fileEngine c).closeCursor h) (fun _ e' => Moves c asked h e e') (fun _ e' => Moves c asked h e e') e := by
  change wp (FileEngine.finish c (fun e => e.change h fun link => { link with cursorOpen := false }) id) _ _ e
  have closed : Moves c asked h e ((e.tick c).change h fun link => { link with cursorOpen := false }) :=
    moves_tick.trans (moves_change fun _ on => on)
  exact finish_spec closed moves_tick (fun _ => moves_tick) fun _ => closed

/-! ### The methods -/

@[simp] theorem wp_reachDriver {D α : Type} (x : Effect D E α) {Q : α → Opening D → Prop}
    {X : OpeningError E → Opening D → Prop} {o : Opening D} :
    wp (reachDriver x) Q X o =
      wp x (fun a d => Q a { o with driver := d }) (fun error d => X (.driver error) { o with driver := d }) o.driver :=
  wp_zoom _ _ _ _

@[simp] theorem wp_changeAttributes {D : Type} (change : OpeningWrapper → OpeningWrapper)
    {Q : Unit → Opening D → Prop} {X : OpeningError E → Opening D → Prop} {o : Opening D} :
    wp (changeAttributes change) Q X o = Q () { o with wrapper := change o.wrapper } := rfl

/-- The engine has moved, and the wrapper has not. -/
structure Used (c : Conditions E) (asked : Prop) (h : Nat) (o o' : Opening FileEngine) : Prop where
  wrapper : o'.wrapper = o.wrapper
  moves : Moves c asked h o.driver o'.driver

theorem Used.trans {o o' o'' : Opening FileEngine} (first : Used c asked h o o') (second : Used c asked h o' o'') :
    Used c asked h o o'' :=
  ⟨second.wrapper.trans first.wrapper, first.moves.trans second.moves⟩

theorem Used.isOpen {o o' : Opening FileEngine} (used : Used c asked h o o')
    (found : ∃ link, o.driver.connections h = some link) : ∃ link, o'.driver.connections h = some link :=
  used.moves.isOpen found

variable {upper : Text → Text} {o : Opening FileEngine}

theorem reach_execute_spec (asked : Prop) (found : ∃ link, o.driver.connections h = some link) (statement : OpeningStatement)
    (may : statement = .setMvcc → asked) :
    wp (reachDriver ((fileEngine c).execute h statement))
      (fun _ o' => Used c asked h o o' ∧ Answered c h o'.driver statement) (fun _ o' => Used c asked h o o') o := by
  rw [wp_reachDriver]
  exact wp_mono (execute_spec found statement may) (fun _ _ done => ⟨⟨rfl, done.1⟩, done.2⟩) fun _ _ moves => ⟨rfl, moves⟩

theorem reach_fetchone_spec (asked : Prop) :
    wp (reachDriver ((fileEngine c).fetchone h))
      (fun row o' => Used c asked h o o' ∧ row = (o.driver.connections h).bind EngineLink.reply)
      (fun _ o' => Used c asked h o o') o := by
  rw [wp_reachDriver]
  exact wp_mono fetchone_spec (fun _ _ done => ⟨⟨rfl, done.1⟩, done.2⟩) fun _ _ moves => ⟨rfl, moves⟩

/-- The name of MVCC is only read if the journal is MVCC. -/
theorem readJournal_spec (honest : c.Honest upper) (found : ∃ link, o.driver.connections h = some link) :
    wp (readJournal upper (fileEngine c) h)
      (fun reported o' => Used c asked h o o' ∧
        (reported.bind JournalMode.ofName = some .mvcc → o'.driver.journal = .mvcc))
      (fun _ o' => Used c asked h o o') o := by
  unfold readJournal
  rw [wp_bind]
  refine wp_mono (reach_execute_spec asked found .journalMode nofun) ?_ fun _ _ used => used
  rintro - o₁ ⟨used₁, answered⟩
  rw [wp_bind]
  refine wp_mono (reach_fetchone_spec asked) ?_ fun _ _ used => used₁.trans used
  rintro row o₂ ⟨used₂, rfl⟩
  have used := used₁.trans used₂
  cases waits : (o₁.driver.connections h).bind EngineLink.reply with
  | none => exact ⟨used, nofun⟩
  | some row =>
      obtain ⟨n, rfl⟩ := answered row waits
      generalize reported : c.journalReport n o₁.driver.journal = cell
      cases cell with
      | text t =>
          refine ⟨used, fun name => ?_⟩
          exact used₂.moves.mvcc (honest _ _ _ _ reported name).symm
      | null | int n | other => exact ⟨used, nofun⟩

theorem configureJournalMode_spec (asked : Prop) (honest : c.Honest upper) (found : ∃ link, o.driver.connections h = some link)
    {requested : JournalMode} (may : requested = .mvcc → asked) :
    wp (configureJournalMode upper (fileEngine c) h requested)
      (fun _ o' => Used c asked h o o' ∧ (requested = .mvcc → o'.driver.journal = .mvcc))
      (fun _ o' => Used c asked h o o') o := by
  unfold configureJournalMode
  rw [wp_bind]
  refine wp_mono (readJournal_spec honest found) ?_ fun _ _ used => used
  rintro reported o₁ ⟨used₁, told⟩
  cases current : reported.bind JournalMode.ofName with
  | none => exact used₁
  | some current =>
      dsimp only
      apply wp_ite
      · rintro rfl
        exact ⟨used₁, fun isMvcc => told (by rw [current, isMvcc])⟩
      · intro differs
        apply wp_ite
        · intro wal
          exact used₁
        · intro notWal
          have isMvcc : requested = .mvcc := by
            cases requested
            · exact absurd rfl notWal
            · rfl
          rw [wp_bind]
          refine wp_mono (reach_execute_spec asked (used₁.isOpen found) .setMvcc fun _ => may isMvcc) ?_
            fun _ _ used => used₁.trans used
          rintro - o₂ ⟨used₂, -⟩
          rw [wp_bind, wp_reachDriver]
          refine wp_mono fetchall_spec ?_ fun _ _ moves => (used₁.trans used₂).trans ⟨rfl, moves⟩
          intro _ e₃ moves₃
          have used₃ : Used c asked h o { o₂ with driver := e₃ } := (used₁.trans used₂).trans ⟨rfl, moves₃⟩
          rw [wp_bind]
          refine wp_mono (readJournal_spec honest (used₃.isOpen found)) ?_ fun _ _ used => used₃.trans used
          rintro reported o₄ ⟨used₄, told⟩
          apply wp_ite
          · rintro rfl
            exact ⟨used₃.trans used₄, fun _ => told rfl⟩
          · intro _
            exact used₃.trans used₄

theorem enableForeignKeys_spec (found : ∃ link, o.driver.connections h = some link) :
    wp (enableForeignKeys (fileEngine c) h)
      (fun _ o' => Used c asked h o o' ∧ ∃ link, o'.driver.connections h = some link ∧ link.foreignKeys = true)
      (fun _ o' => Used c asked h o o') o := by
  unfold enableForeignKeys
  rw [wp_bind]
  refine wp_mono (reach_execute_spec asked found .setForeignKeys nofun) ?_ fun _ _ used => used
  rintro - o₁ ⟨used₁, -⟩
  rw [wp_bind]
  refine wp_mono (reach_execute_spec asked (used₁.isOpen found) .foreignKeys nofun) ?_
    fun _ _ used => used₁.trans used
  rintro - o₂ ⟨used₂, answered⟩
  rw [wp_bind]
  refine wp_mono (reach_fetchone_spec asked) ?_ fun _ _ used => (used₁.trans used₂).trans used
  rintro row o₃ ⟨used₃, rfl⟩
  have used := (used₁.trans used₂).trans used₃
  obtain ⟨link, here⟩ := (used₁.trans used₂).isOpen found
  rw [here, Option.bind_some]
  cases waits : link.reply with
  | none => exact used
  | some row =>
      obtain rfl := answered link row here waits
      cases on : link.foreignKeys with
      | false => exact used
      | true =>
          obtain ⟨link', here', kept⟩ := used₃.moves.here link here
          exact ⟨used, link', here', kept on⟩

/-- The engine has moved, and of the wrapper at most the version is new. -/
structure Prepared (c : Conditions E) (asked : Prop) (h : Nat) (o o' : Opening FileEngine) : Prop where
  wrapper : ∃ version, o'.wrapper = { o.wrapper with version := version }
  moves : Moves c asked h o.driver o'.driver

theorem Used.prepared {o o' : Opening FileEngine} (used : Used c asked h o o') : Prepared c asked h o o' :=
  ⟨⟨o.wrapper.version, used.wrapper⟩, used.moves⟩

theorem Used.then {o o' o'' : Opening FileEngine} (used : Used c asked h o o') (prepared : Prepared c asked h o' o'') :
    Prepared c asked h o o'' := by
  obtain ⟨version, wrapper⟩ := prepared.wrapper
  exact ⟨⟨version, by rw [wrapper, used.wrapper]⟩, used.moves.trans prepared.moves⟩

theorem readVersion_spec (found : ∃ link, o.driver.connections h = some link) :
    wp (readVersion (fileEngine c) h)
      (fun _ o' => Prepared c asked h o o' ∧ o'.wrapper.version.isSome = true)
      (fun _ o' => Prepared c asked h o o') o := by
  unfold readVersion
  rw [wp_bind]
  refine wp_mono (reach_execute_spec asked found .sqliteVersion nofun) ?_ fun _ _ used => used.prepared
  rintro - o₁ ⟨used₁, -⟩
  rw [wp_bind]
  refine wp_mono (reach_fetchone_spec asked) ?_ fun _ _ used => (used₁.trans used).prepared
  rintro row o₂ ⟨used₂, -⟩
  have used := used₁.trans used₂
  rcases row with _ | _ | ⟨cell, row⟩
  · exact used.prepared
  · exact used.prepared
  · dsimp only
    cases parseDatabaseVersion cell with
    | error message => exact used.prepared
    | ok version => exact ⟨⟨⟨some version, by rw [← used.wrapper]⟩, used.moves⟩, rfl⟩

/-- What a prepared connection offers to its wrapper. -/
structure Ready (h : Nat) (o : Opening FileEngine) : Prop where
  foreignKeys : ∃ link, o.driver.connections h = some link ∧ link.foreignKeys = true
  journal : o.wrapper.journalMode = some .mvcc → o.driver.journal = .mvcc
  version : o.wrapper.version.isSome = true

theorem prepareConnection_spec (asked : Prop) (honest : c.Honest upper) (found : ∃ link, o.driver.connections h = some link)
    (may : o.wrapper.journalMode = some .mvcc → asked) :
    wp (prepareConnection upper (fileEngine c) h)
      (fun _ o' => Prepared c asked h o o' ∧ Ready h o') (fun _ o' => Prepared c asked h o o') o := by
  have rest : ∀ o₁, Used c asked h o o₁ → (o.wrapper.journalMode = some .mvcc → o₁.driver.journal = .mvcc) →
      wp (enableForeignKeys (fileEngine c) h >>= fun _ => readVersion (fileEngine c) h)
        (fun _ o' => Prepared c asked h o o' ∧ Ready h o') (fun _ o' => Prepared c asked h o o') o₁ := by
    intro o₁ used₁ journal
    rw [wp_bind]
    refine wp_mono (enableForeignKeys_spec (used₁.isOpen found)) ?_ fun _ _ used => (used₁.trans used).prepared
    rintro - o₂ ⟨used₂, link, here, on⟩
    refine wp_mono (readVersion_spec ⟨link, here⟩) ?_ fun _ _ prepared => (used₁.trans used₂).then prepared
    rintro - o₃ ⟨prepared, version⟩
    have all := (used₁.trans used₂).then prepared
    obtain ⟨link', here', kept⟩ := prepared.moves.here link here
    refine ⟨all, ⟨⟨link', here', kept on⟩, fun isMvcc => ?_, version⟩⟩
    obtain ⟨_, wrapper⟩ := all.wrapper
    rw [wrapper] at isMvcc
    exact (used₂.moves.trans prepared.moves).mvcc (journal isMvcc)
  unfold prepareConnection
  rw [wp_bind, wp_get]
  cases setting : o.wrapper.journalMode with
  | none => exact rest o ⟨rfl, .refl _⟩ (by rw [setting]; nofun)
  | some requested =>
      dsimp only
      rw [wp_bind]
      refine wp_mono (configureJournalMode_spec asked honest found fun isMvcc => may (by rw [setting, isMvcc]))
        ?_ fun _ _ used => used.prepared
      rintro - o₁ ⟨used₁, journal⟩
      refine rest o₁ used₁ fun isMvcc => journal ?_
      rw [setting] at isMvcc
      exact Option.some.inj isMvcc

/-! ### A new connection -/

/-- No connection has a number that is still to be given. -/
def Fresh (e : FileEngine) : Prop := ∀ k, e.next ≤ k → e.connections k = none

/-- The engine right after it has opened a connection. -/
def connected (c : Conditions E) (e : FileEngine) : FileEngine :=
  { e.tick c with
    next := e.next + 1
    connections := Function.update e.connections e.next (some ⟨false, false, none⟩) }

/-- Only the next connection may be there that was not. The journal may have changed to MVCC, if that is asked for or
    done by others. -/
structure Beside (c : Conditions E) (asked : Prop) (e e' : FileEngine) : Prop where
  others : ∀ k, k ≠ e.next → e'.connections k = e.connections k
  next : e'.next = e.next ∨ e'.next = e.next + 1
  journal : e'.journal = e.journal ∨ e'.journal = .mvcc ∧ (asked ∨ c.Disturbed)

theorem beside_tick : Beside c asked e (e.tick c) where
  others _ _ := rfl
  next := .inl rfl
  journal := (@moves_tick _ c asked e.next e).journal

theorem beside_moves (moves : Moves c asked e.next (connected c e) e') : Beside c asked e e' where
  others k other := by
    rw [moves.others k other]
    exact Function.update_of_ne other _ _
  next := .inr moves.next
  journal := by
    rcases moves.journal with same | changed
    · rw [same]
      exact (@moves_tick _ c asked e.next e).journal
    · exact .inr changed

/-- The connection is closed, or its close failed. -/
def Disposed (h : Nat) (e : FileEngine) : Prop := e.connections h = none ∨ h ∈ e.abandoned

/-- Where an opened connection is closed again after a failure. -/
theorem closeConnection_failed {X : E → FileEngine → Prop} {Q : Unit → FileEngine → Prop}
    (moves : Moves c asked e.next (connected c e) e')
    (done : ∀ e'', Beside c asked e e'' → e''.next = e.next + 1 → Disposed e.next e'' →
      (e''.abandoned = e.abandoned ∨ e''.abandoned = e.next :: e.abandoned) → Q () e'' ∧ ∀ error, X error e'') :
    wp ((fileEngine c).closeConnection e.next) Q X e' := by
  have later : Moves c asked e.next (connected c e) (e'.tick c) := moves.trans moves_tick
  have beside := beside_moves later
  have closed := done { e'.tick c with connections := Function.update e'.connections e.next none }
    ⟨fun k other => (Function.update_of_ne other _ _).trans (beside.others k other), beside.next, beside.journal⟩
    later.next (.inl (Function.update_self _ _ _)) (.inl later.abandoned)
  have failed := done { e'.tick c with abandoned := e.next :: e'.abandoned }
    ⟨beside.others, beside.next, beside.journal⟩ later.next (.inr List.mem_cons_self)
    (.inr (congrArg (e.next :: ·) later.abandoned))
  change wp (FileEngine.finish c
    (fun e' => { e' with connections := Function.update e'.connections e.next none })
    (fun e' => { e' with abandoned := e.next :: e'.abandoned })) _ _ e'
  exact finish_spec closed.1 failed.1 failed.2 closed.2

/-- Of the wrapper at most the version is new, and of the connections at most the next one. -/
structure Opened (c : Conditions E) (asked : Prop) (o o' : Opening FileEngine) : Prop where
  wrapper : ∃ version, o'.wrapper = { o.wrapper with version := version }
  beside : Beside c asked o.driver o'.driver

theorem fresh_of_beside (fresh : Fresh e) (beside : Beside c asked e e') (taken : e'.next = e.next + 1) : Fresh e' := by
  intro k later
  rw [beside.others k (by omega)]
  exact fresh k (by omega)

/-- How it stands when a new connection is returned. -/
structure Returned (c : Conditions E) (asked : Prop) (o : Opening FileEngine) (k : Nat) (o' : Opening FileEngine) : Prop
    extends Opened c asked o o', Ready k o' where
  fresh : Fresh o'.driver
  number : k = o.driver.next
  taken : o'.driver.next = o.driver.next + 1
  abandoned : o'.driver.abandoned = o.driver.abandoned

/-- How it stands when opening a connection has failed. -/
structure Failed (c : Conditions E) (asked : Prop) (o o' : Opening FileEngine) : Prop extends Opened c asked o o' where
  fresh : Fresh o'.driver
  disposed : Disposed o.driver.next o'.driver
  abandoned : o'.driver.abandoned = o.driver.abandoned ∨ o'.driver.abandoned = o.driver.next :: o.driver.abandoned

/-- After a failure the connection is closed, and the failure goes on. -/
theorem dispose_spec (fresh : Fresh o.driver) {error : OpeningError E} {o' : Opening FileEngine} {Q : Unit → Opening FileEngine → Prop}
    (wrapper : ∃ version, o'.wrapper = { o.wrapper with version := version })
    (moves : Moves c asked o.driver.next (connected c o.driver) o'.driver) :
    wp (reachDriver ((fileEngine c).closeConnection o.driver.next) >>= fun _ => raise error) Q
      (fun _ o' => Failed c asked o o') o' := by
  rw [wp_bind, wp_reachDriver]
  apply closeConnection_failed moves
  intro e'' beside taken disposed abandoned
  have failed : Failed c asked o { o' with driver := e'' } :=
    ⟨⟨wrapper, beside⟩, fresh_of_beside fresh beside taken, disposed, abandoned⟩
  exact ⟨failed, fun _ => failed⟩

theorem getNewConnection_spec (honest : c.Honest upper) (fresh : Fresh o.driver)
    (may : o.wrapper.journalMode = some .mvcc → asked) (database : Text) :
    wp (Opening.getNewConnection upper (fileEngine c) database)
      (fun k o' => Returned c asked o k o') (fun _ o' => Failed c asked o o') o := by
  unfold Opening.getNewConnection connectDatabase
  rw [wp_bind, wp_tryExcept, wp_reachDriver]
  change wp (FileEngine.acquire c FileEngine.next fun e =>
    { e with next := e.next + 1, connections := Function.update e.connections e.next (some ⟨false, false, none⟩) }) _ _
    o.driver
  refine acquire_spec ?_ ?_
  · -- the connection is there; from here on every failure closes it
    have found : ∃ link, (connected c o.driver).connections o.driver.next = some link :=
      ⟨_, Function.update_self _ _ _⟩
    change wp (tryExcept _ _ >>= fun _ => pure o.driver.next) _ _
      (⟨connected c o.driver, o.wrapper⟩ : Opening FileEngine)
    rw [wp_bind, wp_tryExcept, wp_bind, wp_reachDriver]
    change wp (FileEngine.acquire c (fun _ => o.driver.next) fun e =>
      e.change o.driver.next fun link => { link with cursorOpen := true }) _ _ (connected c o.driver)
    refine acquire_spec ?_ fun error => ?_
    rotate_left
    · exact dispose_spec fresh ⟨o.wrapper.version, rfl⟩ moves_tick
    have moved : Moves c asked o.driver.next (connected c o.driver)
        (((connected c o.driver).tick c).change o.driver.next fun link => { link with cursorOpen := true }) :=
      moves_tick.trans (moves_change fun _ on => on)
    generalize ((connected c o.driver).tick c).change o.driver.next (fun link => { link with cursorOpen := true }) = e₁
      at moved
    change wp (tryFinally _ _) _ _ (⟨e₁, o.wrapper⟩ : Opening FileEngine)
    rw [wp_tryFinally]
    refine wp_mono (prepareConnection_spec asked honest (moved.isOpen found) may) ?_ ?_
    · rintro - o₂ ⟨prepared, ready⟩
      rw [wp_reachDriver]
      refine wp_mono (closeCursor_spec asked) ?_ ?_
      · rintro - e₃ moves
        have all := moved.trans (prepared.moves.trans moves)
        obtain ⟨link, here, on⟩ := ready.foreignKeys
        obtain ⟨link', here', kept⟩ := moves.here link here
        exact ⟨⟨prepared.wrapper, beside_moves all⟩,
          ⟨⟨link', here', kept on⟩, fun isMvcc => moves.mvcc (ready.journal isMvcc), ready.version⟩,
          fresh_of_beside fresh (beside_moves all) all.next, rfl, all.next,
          all.abandoned⟩
      · intro _ e₃ moves
        exact dispose_spec fresh prepared.wrapper (moved.trans (prepared.moves.trans moves))
    · intro error o₂ prepared
      rw [wp_reachDriver]
      refine wp_mono (closeCursor_spec asked) ?_ ?_
      · rintro - e₃ moves
        exact dispose_spec fresh prepared.wrapper (moved.trans (prepared.moves.trans moves))
      · intro _ e₃ moves
        exact dispose_spec fresh prepared.wrapper (moved.trans (prepared.moves.trans moves))
  · intro error
    have failed : Failed c asked o { o with driver := o.driver.tick c } :=
      ⟨⟨⟨o.wrapper.version, rfl⟩, beside_tick⟩, fresh, .inl (fresh _ (Nat.le_refl _)), .inl rfl⟩
    dsimp only
    apply wp_ite
    · exact fun _ => failed
    · exact fun _ => failed

/-! ### The settings -/

/-- The wrapper is the same up to its modes. -/
structure Configured (upper : Text → Text) (o o' : Opening FileEngine) : Prop where
  driver : o'.driver = o.driver
  settings : o'.wrapper.settings = o.wrapper.settings
  connection : o'.wrapper.connection = o.wrapper.connection
  requested : o'.wrapper.journalMode = some .mvcc → o.wrapper.journalMode = some .mvcc ∨ o.wrapper.settings.asksMvcc upper

theorem textOption_some {α : Type} {upper : Text → Text} {ofName : Text → Option α} {message : String}
    {value : SettingValue} {a : α} (read : textOption upper ofName message value = .ok a) :
    ∃ t, value = .text t ∧ ofName (upper t) = some a := by
  cases value with
  | text t =>
      dsimp only [textOption] at read
      cases named : ofName (upper t) with
      | none =>
          rw [named] at read
          cases read
      | some b =>
          rw [named] at read
          cases read
          exact ⟨t, rfl, named⟩
  | none | bytes empty | path truthy fspath | other truthy => cases read

theorem journalMode_ofName {t : Text} (named : JournalMode.ofName t = some .mvcc) : t = "MVCC".toList := by
  unfold JournalMode.ofName at named
  split at named
  · cases named
  · split at named
    · next isMvcc => exact isMvcc
    · cases named

theorem wp_checkSettings {D α : Type} {result : Except String α} {Q : α → Opening D → Prop}
    {X : OpeningError E → Opening D → Prop} {o : Opening D} (good : ∀ a, result = .ok a → Q a o)
    (bad : ∀ error, X error o) : wp (checkSettings result) Q X o := by
  cases result with
  | ok a => exact good a rfl
  | error message => exact bad _

theorem setJournalMode_spec {options : List (Text × SettingValue)} (o o₀ : Opening FileEngine)
    (same : Configured upper o₀ o) (read : readOptions o₀.wrapper.settings.options = .ok options) :
    wp (setJournalMode upper options : Effect (Opening FileEngine) (OpeningError E) Unit)
      (fun _ o' => Configured upper o₀ o' ∧
        (o'.wrapper.journalMode = some .mvcc → o₀.wrapper.settings.asksMvcc upper))
      (fun _ o' => Configured upper o₀ o') o := by
  have unset : Configured upper o₀ { o with wrapper := { o.wrapper with journalMode := none } } :=
    ⟨same.driver, same.settings, same.connection, nofun⟩
  unfold setJournalMode
  rw [wp_bind, wp_changeAttributes]
  cases found : options.lookup "journal_mode".toList with
  | none => exact ⟨unset, nofun⟩
  | some value =>
      dsimp only
      rw [wp_bind]
      refine wp_checkSettings ?_ fun _ => unset
      intro journal checked
      obtain ⟨t, rfl, named⟩ := textOption_some checked
      have asks : journal = .mvcc → o₀.wrapper.settings.asksMvcc upper := by
        rintro rfl
        exact ⟨options, t, read, found, journalMode_ofName named⟩
      exact ⟨⟨same.driver, same.settings, same.connection, fun isMvcc => .inr (asks (Option.some.inj isMvcc))⟩,
        fun isMvcc => asks (Option.some.inj isMvcc)⟩

theorem getConnectionParams_spec (o : Opening FileEngine) :
    wp (getConnectionParams upper : Effect (Opening FileEngine) (OpeningError E) Text)
      (fun _ o' => Configured upper o o' ∧
        (o'.wrapper.transactionMode = .concurrent → o'.wrapper.journalMode = some .mvcc) ∧
        (o'.wrapper.journalMode = some .mvcc → o.wrapper.settings.asksMvcc upper))
      (fun _ o' => Configured upper o o') o := by
  have same : Configured upper o o := ⟨rfl, rfl, rfl, .inl⟩
  unfold getConnectionParams
  rw [wp_bind, wp_get, wp_bind]
  refine wp_checkSettings ?_ fun _ => same
  intro database _
  split
  · exact same
  · rw [wp_bind]
    refine wp_checkSettings ?_ fun _ => same
    intro options read
    rw [wp_bind]
    refine wp_checkSettings ?_ fun _ => same
    intro mode _
    rw [wp_bind, wp_changeAttributes, wp_bind]
    refine wp_mono (setJournalMode_spec { o with wrapper := { o.wrapper with transactionMode := mode } } o
      ⟨rfl, rfl, rfl, .inl⟩ read) ?_ fun _ _ configured => configured
    rintro - o' ⟨configured, asks⟩
    rw [wp_bind, wp_get]
    apply wp_ite
    · exact fun _ => configured
    · intro fits
      refine ⟨configured, fun concurrent => ?_, asks⟩
      by_contra other
      exact fits ⟨concurrent, other⟩

/-! ### Runs -/

/-- What every call keeps, beside what the wrappers rely on. -/
structure Sound (f : Fleet) : Prop where
  fresh : Fresh f.engine
  ready : ∀ i k, (f.wrappers i).connection = some k → Ready k ⟨f.engine, f.wrappers i⟩
  modes : ∀ i, (f.wrappers i).connection.isSome = true → (f.wrappers i).transactionMode = .concurrent →
    (f.wrappers i).journalMode = some .mvcc
  sole : ∀ i j k, (f.wrappers i).connection = some k → (f.wrappers j).connection = some k → i = j
  owned : ∀ k, (f.engine.connections k).isSome = true →
    k ∈ f.engine.abandoned ∨ ∃ i, (f.wrappers i).connection = some k

/-- The wrappers after a call of one of them. -/
def after (f : Fleet) (i : Nat) (o : Opening FileEngine) : Fleet :=
  { engine := o.driver, wrappers := Function.update f.wrappers i o.wrapper }

theorem wp_method {i : Nat} {x : Effect (Opening FileEngine) (OpeningError E) Unit} {f : Fleet} {P : Fleet → Prop}
    (spec : wp x (fun _ o' => P (after f i o')) (fun _ o' => P (after f i o')) ⟨f.engine, f.wrappers i⟩) :
    wp (Fleet.method i x) (fun _ => P) (fun _ => P) f := by
  unfold Fleet.method
  rw [wp_zoom]
  exact spec

theorem sound_idle {f : Fleet} (idle : f.Idle) : Sound f := by
  have unconnected : ∀ {i k}, (f.wrappers i).connection ≠ some k := by
    intro i k
    rw [idle.wrappers i]
    nofun
  refine ⟨fun k _ => idle.connections k, fun i k found => absurd found unconnected, fun i found => ?_,
    fun i j k found => absurd found unconnected, fun k found => ?_⟩
  · rw [idle.wrappers i] at found
    cases found
  · rw [idle.connections k] at found
    cases found

/-- What a call of wrapper `i` owes the others, and what it says of its own connection. -/
structure Turn (f : Fleet) (i : Nat) (o : Opening FileEngine) : Prop where
  fresh : Fresh o.driver
  others : ∀ j k, j ≠ i → (f.wrappers j).connection = some k → o.driver.connections k = f.engine.connections k
  journal : f.engine.journal = .mvcc → o.driver.journal = .mvcc
  mine : ∀ k, o.wrapper.connection = some k → Ready k o ∧ ∀ j, j ≠ i → (f.wrappers j).connection ≠ some k
  modes : o.wrapper.connection.isSome = true → o.wrapper.transactionMode = .concurrent →
    o.wrapper.journalMode = some .mvcc
  owned : ∀ k, (o.driver.connections k).isSome = true → k ∈ o.driver.abandoned ∨ o.wrapper.connection = some k ∨
    ∃ j, j ≠ i ∧ (f.wrappers j).connection = some k

theorem sound_after {f : Fleet} {i : Nat} {o : Opening FileEngine} (sound : Sound f) (turn : Turn f i o) :
    Sound (after f i o) := by
  have self : (after f i o).wrappers i = o.wrapper := Function.update_self _ _ _
  have other : ∀ {j}, j ≠ i → (after f i o).wrappers j = f.wrappers j := fun different => Function.update_of_ne different _ _
  refine ⟨turn.fresh, fun j k found => ?_, fun j found concurrent => ?_, fun j l k first second => ?_, fun k found => ?_⟩
  · by_cases same : j = i
    · subst same
      rw [self] at found ⊢
      exact (turn.mine k found).1
    · rw [other same] at found ⊢
      obtain ⟨⟨link, here, on⟩, journal, version⟩ := sound.ready j k found
      exact ⟨⟨link, (turn.others j k same found).trans here, on⟩, fun isMvcc => turn.journal (journal isMvcc), version⟩
  · by_cases same : j = i
    · subst same
      rw [self] at found concurrent ⊢
      exact turn.modes found concurrent
    · rw [other same] at found concurrent ⊢
      exact sound.modes j found concurrent
  · by_cases same : j = i
    · subst same
      rw [self] at first
      by_cases equal : l = j
      · exact equal.symm
      · rw [other equal] at second
        exact absurd second ((turn.mine k first).2 l equal)
    · rw [other same] at first
      by_cases equal : l = i
      · subst equal
        rw [self] at second
        exact absurd first ((turn.mine k second).2 j same)
      · rw [other equal] at second
        exact sound.sole j l k first second
  · rcases turn.owned k found with abandoned | mine | ⟨j, different, theirs⟩
    · exact .inl abandoned
    · exact .inr ⟨i, by rw [self, mine]⟩
    · exact .inr ⟨j, by rw [other different, theirs]⟩

/-- The connection of a wrapper is an old one. -/
theorem connection_lt {f : Fleet} (sound : Sound f) {j k : Nat} (found : (f.wrappers j).connection = some k) :
    k ≠ f.engine.next := by
  rintro rfl
  obtain ⟨link, here, -⟩ := (sound.ready j _ found).foreignKeys
  rw [sound.fresh _ (Nat.le_refl _)] at here
  cases here

theorem Beside.mvcc (beside : Beside c asked e e') (already : e.journal = .mvcc) : e'.journal = .mvcc := by
  rcases beside.journal with same | ⟨changed, -⟩
  · rw [same, already]
  · exact changed

/-- An opening that fails leaves the wrapper without a connection. -/
theorem turn_failed {f : Fleet} {i : Nat} {o o' : Opening FileEngine} (sound : Sound f) (driver : o.driver = f.engine)
    (unconnected : (f.wrappers i).connection = none) (connection : o.wrapper.connection = none)
    (failed : Failed c asked o o') : Turn f i o' := by
  obtain ⟨version, wrapper⟩ := failed.wrapper
  have still : o'.wrapper.connection = none := by rw [wrapper, connection]
  refine ⟨failed.fresh, fun j k _ found => ?_, fun already => ?_, fun k found => ?_, fun found => ?_, fun k found => ?_⟩
  · rw [failed.beside.others k (driver ▸ connection_lt sound found), driver]
  · exact failed.beside.mvcc (driver ▸ already)
  · rw [still] at found
    cases found
  · rw [still] at found
    cases found
  · by_cases new : k = o.driver.next
    · subst new
      rcases failed.disposed with closed | abandoned
      · rw [closed] at found
        cases found
      · exact .inl abandoned
    · rw [failed.beside.others k new, driver] at found
      rcases sound.owned k found with abandoned | ⟨j, theirs⟩
      · left
        rcases failed.abandoned with same | more
        · rw [same, driver]
          exact abandoned
        · rw [more, driver]
          exact List.mem_cons_of_mem _ abandoned
      · have different : j ≠ i := by
          rintro rfl
          rw [unconnected] at theirs
          cases theirs
        exact .inr (.inr ⟨j, different, theirs⟩)

/-- An opening that returns gives the wrapper a connection of its own. -/
theorem turn_returned {f : Fleet} {i k : Nat} {o o' : Opening FileEngine} (sound : Sound f) (driver : o.driver = f.engine)
    (unconnected : (f.wrappers i).connection = none)
    (modes : o.wrapper.transactionMode = .concurrent → o.wrapper.journalMode = some .mvcc)
    (returned : Returned c asked o k o') :
    Turn f i { o' with wrapper := { o'.wrapper with connection := some k } } := by
  have new : k = f.engine.next := by rw [returned.number, driver]
  obtain ⟨version, wrapper⟩ := returned.wrapper
  refine ⟨returned.fresh, fun j l _ found => ?_, fun already => ?_, fun l found => ?_, fun _ concurrent => ?_,
    fun l found => ?_⟩
  · change o'.driver.connections l = _
    rw [returned.beside.others l (driver ▸ connection_lt sound found), driver]
  · exact returned.beside.mvcc (driver ▸ already)
  · obtain rfl : k = l := Option.some.inj found
    refine ⟨⟨returned.foreignKeys, returned.journal, returned.version⟩, fun j _ theirs => ?_⟩
    exact connection_lt sound theirs new
  · change o'.wrapper.transactionMode = .concurrent at concurrent
    change o'.wrapper.journalMode = _
    rw [wrapper] at concurrent ⊢
    exact modes concurrent
  · change (o'.driver.connections l).isSome = true at found
    by_cases here : l = k
    · exact .inr (.inl (congrArg some here.symm))
    · rw [returned.beside.others l (by rw [driver, ← new]; exact here), driver] at found
      rcases sound.owned l found with abandoned | ⟨j, theirs⟩
      · left
        change l ∈ o'.driver.abandoned
        rw [returned.abandoned, driver]
        exact abandoned
      · have different : j ≠ i := by
          rintro rfl
          rw [unconnected] at theirs
          cases theirs
        exact .inr (.inr ⟨j, different, theirs⟩)

/-- A wrapper whose connection and modes stay as they are. -/
theorem turn_same {f : Fleet} {i : Nat} {o : Opening FileEngine} (sound : Sound f) (driver : o.driver = f.engine)
    (wrapper : ∃ settings, o.wrapper = { f.wrappers i with settings := settings }) : Turn f i o := by
  obtain ⟨settings, wrapper⟩ := wrapper
  refine ⟨driver ▸ sound.fresh, fun j k _ _ => by rw [driver], fun already => driver ▸ already, fun k found => ?_,
    fun found concurrent => ?_, fun k found => ?_⟩
  · rw [wrapper] at found
    obtain ⟨foreignKeys, journal, version⟩ := sound.ready i k found
    refine ⟨⟨driver ▸ foreignKeys, ?_, ?_⟩, fun j different theirs => different (sound.sole j i k theirs found)⟩
    · rw [wrapper, driver]
      exact journal
    · rw [wrapper]
      exact version
  · rw [wrapper] at found concurrent ⊢
    exact sound.modes i found concurrent
  · rw [driver] at found ⊢
    rcases sound.owned k found with abandoned | ⟨j, theirs⟩
    · exact .inl abandoned
    · by_cases same : j = i
      · subst same
        exact .inr (.inl (by rw [wrapper]; exact theirs))
      · exact .inr (.inr ⟨j, same, theirs⟩)

/-- A wrapper that has given up its connection. -/
theorem turn_given {f : Fleet} {i k : Nat} {e' : FileEngine} (sound : Sound f)
    (mine : (f.wrappers i).connection = some k) (next : e'.next = f.engine.next)
    (others : ∀ l, l ≠ k → e'.connections l = f.engine.connections l)
    (journal : f.engine.journal = .mvcc → e'.journal = .mvcc)
    (here : e'.connections k = none ∧ e'.abandoned = f.engine.abandoned ∨
      e'.connections k = f.engine.connections k ∧ e'.abandoned = k :: f.engine.abandoned) :
    Turn f i ⟨e', { f.wrappers i with connection := none }⟩ := by
  refine ⟨fun l later => ?_, fun j l different found => ?_, journal, nofun, nofun, fun l found => ?_⟩
  · change e'.connections l = none
    have old : l ≠ k := by
      rintro rfl
      obtain ⟨link, present, -⟩ := (sound.ready i _ mine).foreignKeys
      rw [sound.fresh _ (next ▸ later)] at present
      cases present
    rw [others l old]
    exact sound.fresh l (next ▸ later)
  · refine others l ?_
    rintro rfl
    exact different (sound.sole j i l found mine)
  · change (e'.connections l).isSome = true at found
    change l ∈ e'.abandoned ∨ _
    by_cases same : l = k
    · subst same
      rcases here with ⟨closed, -⟩ | ⟨-, more⟩
      · rw [closed] at found
        cases found
      · rw [more]
        exact .inl List.mem_cons_self
    · rw [others l same] at found
      have kept : ∀ l ∈ f.engine.abandoned, l ∈ e'.abandoned := by
        intro l abandoned
        rcases here with ⟨-, same⟩ | ⟨-, more⟩
        · rw [same]
          exact abandoned
        · rw [more]
          exact List.mem_cons_of_mem _ abandoned
      rcases sound.owned l found with abandoned | ⟨j, theirs⟩
      · exact .inl (kept l abandoned)
      · have different : j ≠ i := by
          rintro rfl
          rw [mine] at theirs
          exact same (Option.some.inj theirs).symm
        exact .inr (.inr ⟨j, different, theirs⟩)

/-- A wrapper that had no connection and still has none. -/
theorem turn_unconnected {f : Fleet} {i : Nat} {o : Opening FileEngine} (sound : Sound f) (driver : o.driver = f.engine)
    (unconnected : (f.wrappers i).connection = none) (still : o.wrapper.connection = none) : Turn f i o := by
  refine ⟨driver ▸ sound.fresh, fun j k _ _ => by rw [driver], fun already => driver ▸ already, fun k found => ?_,
    fun found => ?_, fun k found => ?_⟩
  · rw [still] at found
    cases found
  · rw [still] at found
    cases found
  · rw [driver] at found ⊢
    rcases sound.owned k found with abandoned | ⟨j, theirs⟩
    · exact .inl abandoned
    · have different : j ≠ i := by
        rintro rfl
        rw [unconnected] at theirs
        cases theirs
      exact .inr (.inr ⟨j, different, theirs⟩)

/-- The settings stay as they are, and the journal changes only if they ask for it or other processes do it. -/
structure Journaled (upper : Text → Text) (c : Conditions E) (o o' : Opening FileEngine) : Prop where
  settings : o'.wrapper.settings = o.wrapper.settings
  journal : o'.driver.journal = o.driver.journal ∨
    o'.driver.journal = .mvcc ∧ (o.wrapper.settings.asksMvcc upper ∨ c.Disturbed)

theorem Opened.journaled {o o₁ o₂ : Opening FileEngine} (configured : Configured upper o o₁)
    (opened : Opened c (o.wrapper.settings.asksMvcc upper) o₁ o₂) : Journaled upper c o o₂ := by
  obtain ⟨version, wrapper⟩ := opened.wrapper
  constructor
  · rw [wrapper]
    exact configured.settings
  · have journal := opened.beside.journal
    rw [configured.driver] at journal
    exact journal

theorem giveUp_spec (upper : Text → Text) {f : Fleet} {i : Nat} (sound : Sound f) :
    wp (giveUp (fileEngine c) : Effect (Opening FileEngine) (OpeningError E) Unit)
      (fun _ o' => Turn f i o' ∧ Journaled upper c ⟨f.engine, f.wrappers i⟩ o')
      (fun _ o' => Turn f i o' ∧ Journaled upper c ⟨f.engine, f.wrappers i⟩ o') ⟨f.engine, f.wrappers i⟩ := by
  unfold giveUp
  rw [wp_bind, wp_get]
  dsimp only
  cases mine : (f.wrappers i).connection with
  | none => exact ⟨turn_same sound rfl ⟨_, rfl⟩, rfl, .inl rfl⟩
  | some k =>
      dsimp only
      rw [wp_tryFinally, wp_reachDriver]
      have ticked : Moves c ((f.wrappers i).settings.asksMvcc upper) k f.engine (f.engine.tick c) := moves_tick
      have closed : Turn f i ⟨{ f.engine.tick c with connections := Function.update f.engine.connections k none },
          { f.wrappers i with connection := none }⟩ :=
        turn_given sound mine rfl (fun l other => Function.update_of_ne other _ _) ticked.mvcc
          (.inl ⟨Function.update_self _ _ _, rfl⟩)
      have kept : Turn f i ⟨{ f.engine.tick c with abandoned := k :: f.engine.abandoned },
          { f.wrappers i with connection := none }⟩ :=
        turn_given sound mine rfl (fun _ _ => rfl) ticked.mvcc (.inr ⟨rfl, rfl⟩)
      change wp (FileEngine.finish c (fun e => { e with connections := Function.update e.connections k none })
        (fun e => { e with abandoned := k :: e.abandoned })) _ _ f.engine
      exact finish_spec ⟨closed, rfl, ticked.journal⟩ ⟨kept, rfl, ticked.journal⟩
        (fun _ => ⟨kept, rfl, ticked.journal⟩) fun _ => ⟨closed, rfl, ticked.journal⟩

theorem ensureConnection_spec {f : Fleet} {i : Nat} (honest : c.Honest upper) (sound : Sound f) :
    wp (Opening.ensureConnection upper (fileEngine c))
      (fun _ o' => Turn f i o' ∧ Journaled upper c ⟨f.engine, f.wrappers i⟩ o')
      (fun _ o' => Turn f i o' ∧ Journaled upper c ⟨f.engine, f.wrappers i⟩ o') ⟨f.engine, f.wrappers i⟩ := by
  unfold Opening.ensureConnection
  rw [wp_bind, wp_get]
  dsimp only
  cases mine : (f.wrappers i).connection with
  | some k => exact ⟨turn_same sound rfl ⟨_, rfl⟩, rfl, .inl rfl⟩
  | none =>
      dsimp only
      rw [wp_bind]
      refine wp_mono (getConnectionParams_spec _) ?_ ?_
      · rintro database o ⟨configured, modes, asks⟩
        rw [wp_bind]
        have fresh : Fresh o.driver := by
          rw [configured.driver]
          exact sound.fresh
        refine wp_mono (getNewConnection_spec honest fresh asks database) ?_ ?_
        · intro k o' returned
          have journaled := returned.toOpened.journaled configured
          exact ⟨turn_returned sound configured.driver mine modes returned, journaled.settings, journaled.journal⟩
        · intro _ o' failed
          exact ⟨turn_failed sound configured.driver mine (configured.connection.trans mine) failed,
            failed.toOpened.journaled configured⟩
      · intro _ o configured
        exact ⟨turn_unconnected sound configured.driver mine (configured.connection.trans mine), configured.settings,
          .inl (congrArg FileEngine.journal configured.driver)⟩

/-- Every call keeps what the wrappers rely on. -/
theorem perform_spec (honest : c.Honest upper) {f : Fleet} (sound : Sound f) (call : FleetCall) :
    wp (call.perform upper c) (fun _ => Sound) (fun _ => Sound) f := by
  cases call with
  | ensureConnection i =>
      apply wp_method
      exact wp_mono (ensureConnection_spec honest sound) (fun _ _ done => sound_after sound done.1)
        fun _ _ done => sound_after sound done.1
  | close i =>
      apply wp_method
      exact wp_mono (giveUp_spec upper sound) (fun _ _ done => sound_after sound done.1)
        fun _ _ done => sound_after sound done.1
  | configure i settings =>
      apply wp_method
      exact sound_after sound (turn_same sound rfl ⟨settings, rfl⟩)

theorem Sound.safe {f : Fleet} (sound : Sound f) : f.Safe where
  enforced i k found := (sound.ready i k found).foreignKeys
  requested i found isMvcc := by
    obtain ⟨k, found⟩ := Option.isSome_iff_exists.mp found
    exact (sound.ready i k found).journal isMvcc
  concurrent i found concurrent := by
    have isMvcc := sound.modes i found concurrent
    obtain ⟨k, found⟩ := Option.isSome_iff_exists.mp found
    exact (sound.ready i k found).journal isMvcc
  version i found := by
    obtain ⟨k, found⟩ := Option.isSome_iff_exists.mp found
    exact (sound.ready i k found).version
  sole := sound.sole
  owned := sound.owned

/-- Whatever fails, whatever the settings are changed to and whoever else uses the database, the wrappers may rely on
    their connections, and no connection is lost. -/
theorem fleet_safe {upper : Text → Text} {c : Conditions E} (honest : c.Honest upper) {f : Fleet}
    (reached : Reachable (FleetCall.perform upper c) (fun _ _ => True) Fleet.Idle f) : f.Safe :=
  (Reachable.invariant (fun _ => sound_idle) (fun _ call _ sound => perform_spec honest sound call) reached).safe

/-- A run in which a call fails: a wrapper is asked twice for a connection in mode CONCURRENT, and gets it the second
    time. -/
def flakyConditions : Conditions Nat where
  fault n := if n = 6 then .before 5 else .works
  meanwhile _ := false
  journalReport _ mode := .text (match mode with | .wal => "wal".toList | .mvcc => "mvcc".toList)
  versionReport _ := .text "3.50.4".toList
  isIoError _ := false
  describe _ := "busy"

theorem flakyConditions_honest : flakyConditions.Honest (List.map Char.toUpper) := by
  intro n mode t reported report named
  cases mode
  · obtain rfl := Cell.text.inj report
    exact Option.some.inj named.symm
  · obtain rfl := Cell.text.inj report
    exact Option.some.inj named.symm

/-- The settings of that wrapper. -/
def concurrentSettings : DatabaseSettings where
  name := .text "app.db".toList
  host := .text []
  port := .text []
  user := .text []
  password := .text []
  options := .mapping [(some "transaction_mode".toList, .text "concurrent".toList),
    (some "journal_mode".toList, .text "mvcc".toList)]

/-- Its wrappers before the run. -/
def idleFleet : Fleet where
  engine := ⟨0, .wal, 0, fun _ => none, []⟩
  wrappers _ := ⟨concurrentSettings, .deferred, none, none, none⟩

/-- The calls of the run. -/
def flakyCalls : List FleetCall := [.ensureConnection 0, .ensureConnection 0]

theorem fleet_safe_flaky :
    ((performAll (FleetCall.perform (List.map Char.toUpper) flakyConditions) flakyCalls idleFleet).wrappers 0).connection =
        some 1 ∧
      (performAll (FleetCall.perform (List.map Char.toUpper) flakyConditions) flakyCalls idleFleet).Safe := by
  have start : Reachable (FleetCall.perform (List.map Char.toUpper) flakyConditions) (fun _ _ => True) Fleet.Idle
      idleFleet := .start ⟨fun _ => rfl, fun _ => rfl⟩
  exact ⟨rfl, fleet_safe flakyConditions_honest (start.performAll ⟨trivial, trivial, trivial⟩)⟩

/-- The journal is WAL, and no settings ask for MVCC. -/
structure Unasked (upper : Text → Text) (f : Fleet) : Prop where
  sound : Sound f
  journal : f.engine.journal = .wal
  settings : ∀ i, ¬(f.wrappers i).settings.asksMvcc upper

theorem unasked_after {upper : Text → Text} (alone : ¬c.Disturbed) {f : Fleet} (unasked : Unasked upper f) {i : Nat}
    {o : Opening FileEngine} (turn : Turn f i o) (journaled : Journaled upper c ⟨f.engine, f.wrappers i⟩ o) :
    Unasked upper (after f i o) := by
  refine ⟨sound_after unasked.sound turn, ?_, fun j => ?_⟩
  · rcases journaled.journal with same | ⟨-, asks | disturbed⟩
    · exact same.trans unasked.journal
    · exact absurd asks (unasked.settings i)
    · exact absurd disturbed alone
  · by_cases same : j = i
    · subst same
      change ¬((Function.update f.wrappers j o.wrapper) j).settings.asksMvcc upper
      rw [Function.update_self, journaled.settings]
      exact unasked.settings j
    · change ¬((Function.update f.wrappers i o.wrapper) j).settings.asksMvcc upper
      rw [Function.update_of_ne same]
      exact unasked.settings j

theorem unasked_perform {upper : Text → Text} (honest : c.Honest upper) (alone : ¬c.Disturbed) {f : Fleet}
    (unasked : Unasked upper f) (call : FleetCall)
    (allowed : ∀ i settings, call = .configure i settings → ¬settings.asksMvcc upper) :
    wp (call.perform upper c) (fun _ => Unasked upper) (fun _ => Unasked upper) f := by
  cases call with
  | ensureConnection i =>
      apply wp_method
      exact wp_mono (ensureConnection_spec honest unasked.sound) (fun _ _ done => unasked_after alone unasked done.1 done.2)
        fun _ _ done => unasked_after alone unasked done.1 done.2
  | close i =>
      apply wp_method
      exact wp_mono (giveUp_spec upper unasked.sound) (fun _ _ done => unasked_after alone unasked done.1 done.2)
        fun _ _ done => unasked_after alone unasked done.1 done.2
  | configure i settings =>
      apply wp_method
      refine ⟨sound_after unasked.sound (turn_same unasked.sound rfl ⟨settings, rfl⟩), unasked.journal, fun j => ?_⟩
      by_cases same : j = i
      · subst same
        change ¬((Function.update f.wrappers j { f.wrappers j with settings := settings }) j).settings.asksMvcc upper
        rw [Function.update_self]
        exact allowed j settings rfl
      · change ¬((Function.update f.wrappers i { f.wrappers i with settings := settings }) j).settings.asksMvcc upper
        rw [Function.update_of_ne same]
        exact unasked.settings j

/-- A database in WAL stays so, if no settings ask for MVCC and no other process changes it. -/
theorem journal_on_request {upper : Text → Text} {c : Conditions E} (honest : c.Honest upper) (alone : ¬c.Disturbed)
    {f : Fleet}
    (reached : Reachable (FleetCall.perform upper c)
      (fun _ call => ∀ i settings, call = .configure i settings → ¬settings.asksMvcc upper)
      (fun f => f.Idle ∧ f.engine.journal = .wal ∧ ∀ i, ¬(f.wrappers i).settings.asksMvcc upper) f) :
    f.engine.journal = .wal := by
  have unasked : Unasked upper f := by
    refine Reachable.invariant (fun f start => ?_) (fun _ call allowed unasked => ?_) reached
    · exact ⟨sound_idle start.1, start.2.1, start.2.2⟩
    · exact unasked_perform honest alone unasked call allowed
  exact unasked.journal

/-- Settings without options. -/
def plainSettings : DatabaseSettings := { concurrentSettings with options := .absent }

theorem plainSettings_unasked (upper : Text → Text) : ¬plainSettings.asksMvcc upper := by
  rintro ⟨options, t, read, found, -⟩
  cases read
  cases found

/-- Two wrappers without options open the database and one leaves it, with a failing call on the way. -/
theorem journal_on_request_plain :
    (performAll (FleetCall.perform (List.map Char.toUpper) flakyConditions)
      [.configure 0 plainSettings, .ensureConnection 0, .ensureConnection 1, .close 0]
      { idleFleet with wrappers := fun _ => ⟨plainSettings, .deferred, none, none, none⟩ }).engine.journal = .wal := by
  have alone : ¬flakyConditions.Disturbed := by
    rintro ⟨n, disturbed⟩
    cases disturbed
  refine journal_on_request flakyConditions_honest alone (Reachable.performAll
    (.start ⟨⟨fun _ => rfl, fun _ => rfl⟩, rfl, fun _ => plainSettings_unasked _⟩) (allowedAll_of_forall ?_ _))
  intro call mem _ i settings equal
  subst equal
  have only : i = 0 ∧ settings = plainSettings := by simpa using mem
  rw [only.2]
  exact plainSettings_unasked _

end DjangoPyturso.ConnectionSafety
