/-
Module: DjangoPyturso.Model.ConnectionOpening
Layer: Model
Purpose: How a connection is opened: the checks of the settings, the journal mode, foreign keys and the version of the
  engine, with what happens to the cursor and the connection when a call fails on the way.
Imports: DjangoPyturso.Foundations.Effect, DjangoPyturso.Model.Wrapper, DjangoPyturso.Model.TableRemake
Trusted boundary: human-reviewed translation of base.py:137-264, and of `ensure_connection`, `connect` and `_close` of
  Django's base class as published. Left out: what `connect` does once the connection is open, atomic blocks, and
  digits of a version that are not ASCII. The upper case of a text is a parameter.
Main exports: DatabaseSettings, OpeningDriver, OpeningWrapper, getConnectionParams, configureJournalMode,
  parseDatabaseVersion, getNewConnection, ensureConnection, giveUp
Open obligations: none
-/
import DjangoPyturso.Foundations.Effect
import DjangoPyturso.Model.Wrapper
import DjangoPyturso.Model.TableRemake

namespace DjangoPyturso

open Effect SqlText

/-- The journal modes of a database file that the backend knows. -/
inductive JournalMode where
  | wal
  | mvcc
deriving DecidableEq, Repr

/-- The exceptions on the way: the backend's own, and those of the driver. -/
inductive OpeningError (E : Type) where
  | improperlyConfigured (message : String)
  | databaseError (message : String)
  | operationalError (message : String) (cause : E)
  | indexError
  | driver (error : E)
deriving DecidableEq, Repr

/-! ### Settings -/

/-- What `os.fspath` makes of a path object: a text, bytes, or an error if it is no path. -/
inductive Fspath where
  | text (t : Text)
  | bytes
  | typeError
deriving DecidableEq, Repr

/-- A value of the settings, as far as the checks look at it. -/
inductive SettingValue where
  | none
  | text (t : Text)
  | bytes (empty : Bool)
  | path (truthy : Bool) (fspath : Fspath)
  | other (truthy : Bool)
deriving DecidableEq, Repr

/-- `bool(value)`, by which settings count as given. -/
def SettingValue.truthy : SettingValue → Bool
  | .none => false
  | .text t => !t.isEmpty
  | .bytes empty => !empty
  | .path truthy _ | .other truthy => truthy

/-- `OPTIONS`: nothing, a mapping whose keys need not be texts, or something else. -/
inductive OptionsSetting where
  | absent
  | mapping (entries : List (Option Text × SettingValue))
  | other
deriving DecidableEq, Repr

/-- `settings_dict`, as far as the backend reads it. All but `NAME` and `OPTIONS` must be empty. -/
structure DatabaseSettings where
  name : SettingValue
  host : SettingValue
  port : SettingValue
  user : SettingValue
  password : SettingValue
  options : OptionsSetting
deriving DecidableEq, Repr

/-- `os.fspath(raw_name)`. Nothing stands for bytes; the error is a message. -/
def fspath : SettingValue → Except String (Option Text)
  | .text t | .path _ (.text t) => .ok (some t)
  | .bytes _ | .path _ .bytes => .ok none
  | .path _ .typeError | .none | .other _ => .error "Database NAME must be a local filesystem path."

/-- `[A-Za-z0-9+.-]`, the characters of the scheme of a URL. -/
def isSchemeChar (c : Char) : Bool := c.isAlphanum || c == '+' || c == '.' || c == '-'

/-- `^[A-Za-z][A-Za-z0-9+.-]*://`, the test for names that are URLs. -/
def isUrl : Text → Bool
  | [] => false
  | c :: t => c.isAlpha && "://".toList.isPrefixOf (t.dropWhile isSchemeChar)

/-- The checks of `NAME`: a local path or `:memory:`, given as text or as a path object. -/
def databaseName (settings : DatabaseSettings) : Except String Text :=
  if !settings.name.truthy then
    .error "settings.DATABASES is improperly configured. Please supply NAME."
  else do
    match ← fspath settings.name with
    | none | some [] => .error "Database NAME must be a nonempty local path."
    | some database =>
        if "file:".toList.isPrefixOf database || isUrl database then
          .error "django-pyturso accepts local paths and exactly ':memory:', not URLs or file URIs."
        else .ok database

/-- The first setting of a server that is there. -/
def serverSetting (settings : DatabaseSettings) : Option String :=
  ([("HOST", settings.host), ("PORT", settings.port), ("USER", settings.user), ("PASSWORD", settings.password)].find?
    fun entry => entry.2.truthy).map Prod.fst

/-- The order of texts by code points, in which unknown options are listed. -/
def textLe : Text → Text → Bool
  | [], _ => true
  | _ :: _, [] => false
  | c :: t, d :: u => c.toNat < d.toNat || (c == d && textLe t u)

/-- The checks of `OPTIONS` before its values: a mapping with text keys, all of them known. -/
def readOptions : OptionsSetting → Except String (List (Text × SettingValue))
  | .absent => .ok []
  | .other => .error "Database OPTIONS must be a mapping with text keys."
  | .mapping entries =>
      match entries.mapM fun entry => entry.1.map fun key => (key, entry.2) with
      | none => .error "Database OPTIONS must be a mapping with text keys."
      | some options =>
          let unknown := (options.map Prod.fst).filter fun key =>
            key ≠ "transaction_mode".toList ∧ key ≠ "journal_mode".toList
          if unknown = [] then .ok options
          else
            let names := unknown.mergeSort textLe
            .error ("Unsupported django-pyturso OPTIONS: " ++ String.ofList (joinComma names) ++ ".")

/-- The transaction mode of a name in upper case. -/
def TransactionMode.ofName (name : Text) : Option TransactionMode :=
  if name = "DEFERRED".toList then some .deferred
  else if name = "IMMEDIATE".toList then some .immediate
  else if name = "CONCURRENT".toList then some .concurrent
  else none

/-- The journal mode of a name in upper case. -/
def JournalMode.ofName (name : Text) : Option JournalMode :=
  if name = "WAL".toList then some .wal
  else if name = "MVCC".toList then some .mvcc
  else none

/-- An option that is a text with a meaning in upper case. -/
def textOption {α : Type} (upper : Text → Text) (ofName : Text → Option α) (message : String) :
    SettingValue → Except String α
  | .text t =>
      match ofName (upper t) with
      | some a => .ok a
      | none => .error message
  | _ => .error message

/-! ### The driver -/

/-- A value of a row, as far as the answers to the pragmas are told apart. -/
inductive Cell where
  | null
  | int (n : Int)
  | text (t : Text)
  | other
deriving DecidableEq, Repr

/-- The statements that are sent while a connection is opened. -/
inductive OpeningStatement where
  | journalMode
  | setMvcc
  | setForeignKeys
  | foreignKeys
  | sqliteVersion
deriving DecidableEq, Repr

/-- The SQL of the statements that open a connection. -/
def OpeningStatement.sql : OpeningStatement → String
  | .journalMode => "PRAGMA journal_mode"
  | .setMvcc => "PRAGMA journal_mode = MVCC"
  | .setForeignKeys => "PRAGMA foreign_keys = ON"
  | .foreignKeys => "PRAGMA foreign_keys"
  | .sqliteVersion => "SELECT sqlite_version()"

/-- What the backend uses of the driver. `D` is the state of the driver with everything behind it, `E` its exceptions;
    connections and cursors have numbers. `isIoError` tells of an exception whether its class is `turso.IoError`. -/
structure OpeningDriver (D E : Type) where
  connect : Text → Effect D E Nat
  cursor : Nat → Effect D E Nat
  execute : Nat → OpeningStatement → Effect D E Unit
  fetchone : Nat → Effect D E (Option (List Cell))
  fetchall : Nat → Effect D E Unit
  closeCursor : Nat → Effect D E Unit
  closeConnection : Nat → Effect D E Unit
  isIoError : E → Bool
  describe : E → String

/-- What a `DatabaseWrapper` holds of its settings and its connection. The connection is a number, which is also that of
    its cursor. -/
structure OpeningWrapper where
  settings : DatabaseSettings
  transactionMode : TransactionMode
  journalMode : Option JournalMode
  version : Option (Nat × Nat × Nat)
  connection : Option Nat
deriving DecidableEq, Repr

/-- A wrapper over the driver, the state of the methods that open a connection. -/
structure Opening (D : Type) where
  driver : D
  wrapper : OpeningWrapper

variable {D E α : Type}

namespace Opening

/-- A call of the driver: it changes the driver only, and its errors are the driver's. -/
def reachDriver (x : Effect D E α) : Effect (Opening D) (OpeningError E) α :=
  zoom Opening.driver (fun driver o => { o with driver := driver }) .driver x

/-- Change the attributes of the wrapper, without a call of the driver. -/
def changeAttributes (change : OpeningWrapper → OpeningWrapper) : Effect (Opening D) (OpeningError E) Unit :=
  modify fun o => { o with wrapper := change o.wrapper }

/-- A check of the settings, whose failure is raised as `ImproperlyConfigured`. -/
def checkSettings (result : Except String α) : Effect (Opening D) (OpeningError E) α :=
  match result with
  | .ok a => pure a
  | .error message => raise (.improperlyConfigured message)

/-! ### Opening -/

variable (upper : Text → Text) (B : OpeningDriver D E)

/-- The part of `get_connection_params` that sets the journal mode. -/
def setJournalMode (options : List (Text × SettingValue)) : Effect (Opening D) (OpeningError E) Unit := do
  changeAttributes fun w => { w with journalMode := none }
  match options.lookup "journal_mode".toList with
  | none => pure ()
  | some value => do
      let journal ← checkSettings (textOption upper JournalMode.ofName "journal_mode must be one of: MVCC, WAL." value)
      changeAttributes fun w => { w with journalMode := some journal }

/-- `get_connection_params`. The result is the path of the database. -/
def getConnectionParams : Effect (Opening D) (OpeningError E) Text := do
  let o ← get
  let database ← checkSettings (databaseName o.wrapper.settings)
  match serverSetting o.wrapper.settings with
  | some key => raise (.improperlyConfigured ("django-pyturso doesn't accept the " ++ key ++ " database setting."))
  | none => do
      let options ← checkSettings (readOptions o.wrapper.settings.options)
      let mode ← checkSettings (textOption upper TransactionMode.ofName
        "transaction_mode must be one of: CONCURRENT, DEFERRED, IMMEDIATE."
        ((options.lookup "transaction_mode".toList).getD (.text "DEFERRED".toList)))
      changeAttributes fun w => { w with transactionMode := mode }
      setJournalMode upper options
      let o ← get
      if o.wrapper.transactionMode = .concurrent ∧ o.wrapper.journalMode ≠ some .mvcc then
        raise (.improperlyConfigured "transaction_mode CONCURRENT requires journal_mode MVCC.")
      else pure database

/-- `row[0].upper()` of a row whose first value is a text. -/
def journalText (row : Option (List Cell)) : Effect (Opening D) (OpeningError E) (Option Text) :=
  match row with
  | some [] => raise .indexError
  | some (.text t :: _) => pure (some (upper t))
  | _ => pure none

/-- The journal mode that the engine reports, if it is a text. -/
def readJournal (cursor : Nat) : Effect (Opening D) (OpeningError E) (Option Text) := do
  reachDriver (B.execute cursor .journalMode)
  let row ← reachDriver (B.fetchone cursor)
  journalText upper row

/-- `_configure_journal_mode`: the database is left alone if it has the requested mode, is never changed from MVCC to
    WAL, and after a change to MVCC has to report it. -/
def configureJournalMode (cursor : Nat) (requested : JournalMode) : Effect (Opening D) (OpeningError E) Unit := do
  let reported ← readJournal upper B cursor
  match reported.bind JournalMode.ofName with
  | none => raise (.databaseError "Turso did not report a valid journal mode.")
  | some current =>
      if current = requested then pure ()
      else if requested = .wal then
        raise (.improperlyConfigured "The database uses MVCC. django-pyturso cannot change it to WAL.")
      else do
        reachDriver (B.execute cursor .setMvcc)
        reachDriver (B.fetchall cursor)
        let reported ← readJournal upper B cursor
        if reported = some "MVCC".toList then pure ()
        else raise (.databaseError "Turso did not enable MVCC journal mode.")

/-- `_parse_database_version`. The error is a message; the text in it is printed as it is. -/
def parseDatabaseVersion : Cell → Except String (Nat × Nat × Nat)
  | .text t =>
      match t.splitOn '.' with
      | [major, minor, patch] =>
          if [major, minor, patch].all fun part => !part.isEmpty && part.all Char.isDigit then
            .ok (natOf major, natOf minor, natOf patch)
          else .error ("Invalid Turso engine version: '" ++ String.ofList t ++ "'.")
      | _ => .error ("Invalid Turso engine version: '" ++ String.ofList t ++ "'.")
  | _ => .error "Turso returned a non-text engine version."

/-- The part of `get_new_connection` that turns foreign keys on and reads them back. -/
def enableForeignKeys (cursor : Nat) : Effect (Opening D) (OpeningError E) Unit := do
  reachDriver (B.execute cursor .setForeignKeys)
  reachDriver (B.execute cursor .foreignKeys)
  let row ← reachDriver (B.fetchone cursor)
  match row with
  | some [] => raise .indexError
  | some (.int 1 :: _) => pure ()
  | _ => raise (.databaseError "Turso did not enable foreign-key enforcement.")

/-- The part of `get_new_connection` that reads the version. -/
def readVersion (cursor : Nat) : Effect (Opening D) (OpeningError E) Unit := do
  reachDriver (B.execute cursor .sqliteVersion)
  let row ← reachDriver (B.fetchone cursor)
  match row with
  | none => raise (.databaseError "Turso did not report a connected engine version.")
  | some [] => raise .indexError
  | some (cell :: _) =>
      match parseDatabaseVersion cell with
      | .error message => raise (.databaseError message)
      | .ok version => changeAttributes fun w => { w with version := some version }

/-- What `get_new_connection` does with the cursor: the journal mode if one is requested, foreign keys, and the version
    of the engine. -/
def prepareConnection (cursor : Nat) : Effect (Opening D) (OpeningError E) Unit := do
  let o ← get
  match o.wrapper.journalMode with
  | none => do
      enableForeignKeys B cursor
      readVersion B cursor
  | some requested => do
      configureJournalMode upper B cursor requested
      enableForeignKeys B cursor
      readVersion B cursor

/-- `Database.connect`, whose `IoError` is translated to `OperationalError`. -/
def connectDatabase (database : Text) : Effect (Opening D) (OpeningError E) Nat :=
  tryExcept (reachDriver (B.connect database)) fun error =>
    match error with
    | .driver cause =>
        if B.isIoError cause then
          raise (.operationalError ("Unable to open Turso database: " ++ B.describe cause) cause)
        else raise error
    | error => raise error

/-- `get_new_connection`: open, prepare, and close the connection again if that fails. -/
def getNewConnection (database : Text) : Effect (Opening D) (OpeningError E) Nat := do
  let connection ← connectDatabase B database
  tryExcept
    (do
      let cursor ← reachDriver (B.cursor connection)
      tryFinally (prepareConnection upper B cursor) (reachDriver (B.closeCursor cursor)))
    (fun error => do
      reachDriver (B.closeConnection connection)
      raise error)
  pure connection

/-- `ensure_connection`, up to the connection: settings are read each time a new one is opened. -/
def ensureConnection : Effect (Opening D) (OpeningError E) Unit := do
  let o ← get
  match o.wrapper.connection with
  | some _ => pure ()
  | none => do
      let database ← getConnectionParams upper
      let connection ← getNewConnection upper B database
      changeAttributes fun w => { w with connection := some connection }

/-- The end of `close` outside of atomic blocks: the connection is given up, whether closing it fails or not. -/
def giveUp : Effect (Opening D) (OpeningError E) Unit := do
  let o ← get
  match o.wrapper.connection with
  | none => pure ()
  | some connection =>
      tryFinally (reachDriver (B.closeConnection connection)) (changeAttributes fun w => { w with connection := none })

end Opening

end DjangoPyturso
