import NodeAtlas.AuditLog
import NodeAtlas.Backup.Archive
import NodeAtlas.Backup.Service
import NodeAtlas.Interleaving.Sequential

/-! What the backup service and its snapshotter call: the statements of their
transactions, the backups table, the audit log and the backup directory. -/

set_option autoImplicit false

namespace NodeAtlas.Backup.Files

open Interleaving

inductive Status where
  | ready
  | failed
  deriving DecidableEq, Repr

/-- `Metadata`, which is also a row of the backups table. -/
structure Metadata where
  id : GoString
  filename : GoString
  sizeBytes : Int
  sha256 : GoString
  formatVersion : Int
  kind : Kind
  status : Status
  manifest : GoString
  createdAt : Instant
  deriving DecidableEq, Repr

/-- A row of a logical table, column by column. -/
abbrev Row : Type := GoString → Value

abbrev Tables : Type := GoString → List Row

/-- The row that an INSERT with these columns adds. -/
def Row.of (names : List GoString) (values : List Value) : Row := fun name =>
  ((names.zip values).find? fun entry => entry.1 = name).elim .null Prod.snd

def Tables.set (tables : Tables) (name : GoString) (rows : List Row) : Tables := fun other =>
  if other = name then rows else tables other

structure Transaction where
  readOnly : Bool
  tables : Tables

/-- `files` is the backup directory. -/
structure State where
  tables : Tables
  transaction : Option Transaction
  backups : List Metadata
  files : GoMap GoString
  locked : Bool

inductive Call where
  | now
  | newID
  | random (count : Nat)
  | hasActiveWork
  | lock
  | unlock
  | begin (readOnly : Bool)
  | select (schema : TableSchema)
  | delete (table : GoString)
  | insert (table : GoString) (names : List GoString) (values : List Value)
  | commit
  | rollback
  | create (metadata : Metadata)
  | findByID (id : GoString)
  | append (entry : AuditLog.Entry)
  | createTemp
  | chmod (name : GoString)
  | write (name data : GoString)
  | sync (name : GoString)
  | close (name : GoString)
  | rename (old new : GoString)
  | remove (name : GoString)
  | openFile (name : GoString)
  | readAll (name : GoString) (limit : Nat)

/-- The rows that a query gave, and the error that ended it early. -/
structure Cursor where
  rows : List (List Value)
  err : Option GoError

@[reducible] def Call.Reply : Call → Type
  | .now => Instant
  | .newID => GoString
  | .random count => Except GoError { bytes : GoString // bytes.length = count }
  | .hasActiveWork => Except GoError Bool
  | .lock | .unlock | .rollback => Unit
  | .select _ => Except GoError Cursor
  | .findByID _ => Except GoError Metadata
  | .createTemp => Except GoError GoString
  | .readAll _ _ => Except GoError GoString
  | _ => Except GoError Unit

/-- What the surroundings decide: the time, identifiers, random bytes, and
whether a call fails. `progress` is how far it has come by then: how much of a
file is written, how many rows are read, and of a statement that changes the
database by itself whether it was carried out and only its answer is lost. -/
inductive Choice where
  | instant (value : Instant)
  | identifier (value : GoString)
  | random (bytes : GoString)
  | done
  | fails (failure : GoError) (progress : Nat)

abbrev Process (Outcome : Type) := Program Call Call.Reply Outcome

abbrev BackupMoment := Moment Call Call.Reply State

def call (request : Call) : Process request.Reply := .perform request

section Statements

variable (library : Library) (db : Database)

/-- The SELECT of `HasActiveWork`. -/
def activeWork (tables : Tables) : Bool :=
  let status := fun (row : Row) => scalarString library (row (text "status"))
  ((tables (text "operations")).any fun row =>
      ["queued", "running", "verifying"].any fun name => db.same (text name) (status row)) ||
    (tables (text "jobs")).any fun row =>
      ["queued", "running"].any fun name => db.same (text name) (status row)

/-- `scanMetadata` of a row that was found. -/
def scanMetadata (row : Metadata) : Except GoError Metadata :=
  match parseLayouts library (library.formatTime row.createdAt) with
  | some createdAt => .ok { row with createdAt := createdAt }
  | none => .error (.plain (text "invalid database time"))

/-- The row that `Append` inserts. -/
def auditRow (entry : AuditLog.Entry) (metadata : GoString) : Row :=
  let createdAt := if db.dialect = .mysql then .time entry.createdAt
    else .string (library.formatTime entry.createdAt)
  Row.of
    (["id", "event_type", "target_type", "target_id", "request_id", "source_ip", "metadata_json",
      "created_at"].map text)
    [.string entry.id, .string entry.eventType, .string entry.targetType, .string entry.targetID,
      .string entry.requestID, .string entry.sourceIP, .string metadata, createdAt]

/-- The pattern of `os.CreateTemp`. -/
def temporaryName (value : GoString) : GoString :=
  text ".controlpanel-backup-" ++ value ++ text ".tmp"

/-- Whether an identifier that was made up is nobody else's. -/
def unused (id : GoString) (state : State) : Bool :=
  !(state.backups.any fun row => db.same row.id id) &&
    !state.files.entries.any fun entry => (text "-" ++ id ++ text ".scpb").isSuffixOf entry.1

end Statements

/-- What the tables and their columns do: `holds` is what a table has of a row
that is written to it, and `encoded` is the JSON of an object. -/
structure Columns where
  holds : GoString → Row → Row
  encoded : JSONMap → GoString

section Semantics

variable (library : Library) (db : Database) (columns : Columns)

def auditTable : GoString := text "audit_logs"

def appended (entry : AuditLog.Entry) (tables : Tables) : Tables :=
  tables.set auditTable (tables auditTable ++
    [columns.holds auditTable (auditRow library db entry (columns.encoded entry.metadata))])

/-- A statement or a system call may fail whatever it is. One that would break
a primary key has to. A COMMIT and an INSERT outside of a transaction may fail
although they are carried out; what fails inside is rolled back anyway. -/
def perform (call : Call) (choice : Choice) (state : State) : Option (call.Reply × State) :=
  match call, choice with
  | .now, .instant value => some (value, state)
  | .newID, .identifier value => if unused db value state then some (value, state) else none
  | .random count, .random bytes =>
      if sized : bytes.length = count then some (.ok ⟨bytes, sized⟩, state) else none
  | .random _, .fails failure _ => some (.error failure, state)
  | .hasActiveWork, .done => some (.ok (activeWork library db state.tables), state)
  | .hasActiveWork, .fails failure _ => some (.error failure, state)
  | .lock, .done => if state.locked then none else some ((), { state with locked := true })
  | .unlock, .done => some ((), { state with locked := false })
  | .begin readOnly, .done =>
      if state.transaction.isSome then none
      else some (.ok (), { state with transaction := some ⟨readOnly, state.tables⟩ })
  | .begin _, .fails failure _ => some (.error failure, state)
  | .select schema, .done =>
      state.transaction.map fun transaction =>
        (.ok ⟨(transaction.tables schema.name).map fun row => schema.columns.map fun column => row column.name,
          none⟩, state)
  | .select schema, .fails failure progress =>
      state.transaction.map fun transaction =>
        (if progress = 0 then .error failure
          else .ok ⟨((transaction.tables schema.name).take (progress - 1)).map fun row =>
            schema.columns.map fun column => row column.name, some failure⟩, state)
  | .delete table, .done =>
      state.transaction.map fun transaction =>
        (.ok (), { state with
          transaction := some { transaction with tables := transaction.tables.set table [] } })
  | .delete _, .fails failure _ => some (.error failure, state)
  | .insert table names values, .done =>
      state.transaction.map fun transaction =>
        (.ok (), { state with
          transaction := some { transaction with
            tables := transaction.tables.set table
              (transaction.tables table ++ [columns.holds table (Row.of names values)]) } })
  | .insert _ _ _, .fails failure _ => some (.error failure, state)
  | .commit, .done =>
      state.transaction.map fun transaction =>
        (.ok (), { state with
          tables := if transaction.readOnly then state.tables else transaction.tables
          transaction := none })
  | .commit, .fails failure progress =>
      state.transaction.map fun transaction =>
        (.error failure, { state with
          tables := if progress = 0 || transaction.readOnly then state.tables else transaction.tables
          transaction := none })
  | .rollback, .done => some ((), { state with transaction := none })
  | .create metadata, .done =>
      if state.backups.any fun row => db.same row.id metadata.id then none
      else some (.ok (), { state with
        backups := state.backups ++ [{ metadata with createdAt := db.stamp metadata.createdAt }] })
  | .create metadata, .fails failure progress =>
      some (.error failure, { state with
        backups := if progress = 0 || state.backups.any fun row => db.same row.id metadata.id then state.backups
          else state.backups ++ [{ metadata with createdAt := db.stamp metadata.createdAt }] })
  | .findByID id, .done =>
      some (match state.backups.find? fun row => db.same row.id id with
        | some row => scanMetadata library row
        | none => .error (.sentinel .backupNotFound), state)
  | .findByID _, .fails failure _ => some (.error failure, state)
  | .append entry, .done =>
      if (state.tables auditTable).any fun row =>
          db.same (scalarString library (row (text "id"))) entry.id then none
      else some (.ok (), { state with tables := appended library db columns entry state.tables })
  | .append entry, .fails failure progress =>
      let taken := (state.tables auditTable).any fun row =>
        db.same (scalarString library (row (text "id"))) entry.id
      some (.error (.wrapped (text "append audit entry") failure), { state with
        tables := if progress = 0 || taken then state.tables else appended library db columns entry state.tables })
  | .createTemp, .identifier value =>
      if (state.files.get (temporaryName value)).isSome then none
      else some (.ok (temporaryName value), { state with files := state.files.set (temporaryName value) [] })
  | .createTemp, .fails failure _ => some (.error failure, state)
  | .write name data, .done => some (.ok (), { state with files := state.files.set name data })
  | .write name data, .fails failure progress =>
      some (.error failure, { state with files := state.files.set name (data.take progress) })
  | .chmod _, .done | .sync _, .done | .close _, .done => some (.ok (), state)
  | .chmod _, .fails failure _ | .sync _, .fails failure _ | .close _, .fails failure _ =>
      some (.error failure, state)
  | .rename old new, .done =>
      (state.files.get old).map fun data =>
        (.ok (), { state with files := (state.files.erase old).set new data })
  | .rename _ _, .fails failure _ => some (.error failure, state)
  | .remove name, .done =>
      if (state.files.get name).isSome then some (.ok (), { state with files := state.files.erase name })
      else none
  | .remove _, .fails failure _ => some (.error failure, state)
  | .openFile name, .done => if (state.files.get name).isSome then some (.ok (), state) else none
  | .openFile _, .fails failure _ => some (.error failure, state)
  | .readAll name limit, .done =>
      (state.files.get name).map fun data => (.ok (data.take limit), state)
  | .readAll _ _, .fails failure _ => some (.error failure, state)
  | _, _ => none

end Semantics

end NodeAtlas.Backup.Files
