import NodeAtlas.Backup.Calls

/-! The snapshotter and the backup service, call by call. -/

set_option autoImplicit false

namespace NodeAtlas.Backup.Files

open Interleaving

/-- What the service and its snapshotter are built with. -/
structure Options where
  dialect : Dialect
  applicationVersion : GoString

variable (library : Library) (options : Options)

/-! ## The snapshotter -/

section Snapshotter

def exportTable (schema : TableSchema) : Process (Except GoError TableData) := do
  let context := text "export " ++ schema.name
  match ← call (.select schema) with
  | .error failure => return .error (.wrapped context failure)
  | .ok cursor =>
      match cursor.rows.mapM (convertRow context (normalizeCell library) schema.columns) with
      | .error failure => return .error failure
      | .ok rows =>
          match cursor.err with
          | some failure => return .error failure
          | none => return .ok ⟨columnNames schema, rows⟩

def exportTables (manifest : GoMap Int) (tables : GoMap TableData) :
    List TableSchema → Process (Except GoError (GoMap Int × GoMap TableData))
  | [] => return .ok (manifest, tables)
  | schema :: rest => do
      match ← exportTable library schema with
      | .error failure => return .error failure
      | .ok table =>
          exportTables (manifest.set schema.name table.rows.length) (tables.set schema.name table) rest

/-- What `Export` does before its deferred rollback. -/
def exportArchive (createdAt : Instant) : Process (Except GoError Archive) := do
  match ← exportTables library .empty .empty logicalSchema with
  | .error failure => return .error failure
  | .ok (manifest, tables) =>
      match ← call .commit with
      | .error failure => return .error failure
      | .ok () =>
          return .ok ⟨currentFormatVersion, options.applicationVersion, createdAt,
            dialectName options.dialect, some manifest, some tables⟩

/-- `Export` -/
def exportSnapshot : Process (Except GoError Archive) := do
  let createdAt ← call .now
  match ← call (.begin true) with
  | .error failure => return .error failure
  | .ok () =>
      let archive ← exportArchive library options createdAt
      call .rollback
      return archive

/-- The tables in the order in which `Restore` clears them. -/
def clearOrder : List GoString :=
  ["console_sessions", "operations", "servers", "sessions", "jobs", "audit_logs", "settings",
    "provider_connections", "users"].map text

def clearTables : List GoString → Process (Except GoError Unit)
  | [] => return .ok ()
  | name :: rest => do
      match ← call (.delete name) with
      | .error failure => return .error (.wrapped (text "clear " ++ name) failure)
      | .ok () => clearTables rest

/-- `restoreTable` -/
def restoreRows (schema : TableSchema) : List (List (Option GoString)) → Process (Except GoError Unit)
  | [] => return .ok ()
  | row :: rest => do
      let context := text "restore " ++ schema.name
      match convertRow context (fun kind cell => restoreCell library kind cell options.dialect)
          schema.columns row with
      | .error failure => return .error failure
      | .ok values =>
          match ← call (.insert schema.name (columnNames schema) values) with
          | .error failure => return .error (.wrapped context failure)
          | .ok () => restoreRows schema rest

def restoreTables (tables : GoMap TableData) : List TableSchema → Process (Except GoError Unit)
  | [] => return .ok ()
  | schema :: rest => do
      match ← restoreRows library options schema (((tables.get schema.name).map TableData.rows).getD []) with
      | .error failure => return .error failure
      | .ok () => restoreTables tables rest

/-- What `Restore` of the snapshotter does before its deferred rollback. -/
def replaceTables (tables : GoMap TableData) : Process (Except GoError Unit) := do
  match ← clearTables clearOrder with
  | .error failure => return .error failure
  | .ok () =>
      match ← restoreTables library options tables logicalSchema with
      | .error failure => return .error failure
      | .ok () => call .commit

/-- `Restore` of the snapshotter. -/
def restoreSnapshot (archive : Archive) : Process (Except GoError Unit) := do
  match validateLogicalArchive library archive with
  | .error failure => return .error failure
  | .ok () =>
      match ← call (.begin false) with
      | .error failure => return .error failure
      | .ok () =>
          let outcome ← replaceTables library options (archive.tables.getD .empty)
          call .rollback
          return outcome

end Snapshotter

/-! ## The backup directory -/

section Directory

/-- What `writeFile` does with the temporary file before it renames it. -/
def fillFile (temporary data : GoString) : Process (Except GoError Unit) := do
  match ← call (.chmod temporary) with
  | .error failure =>
      let _ ← call (.close temporary)
      return .error failure
  | .ok () =>
      match ← call (.write temporary data) with
      | .error failure =>
          let _ ← call (.close temporary)
          return .error failure
      | .ok () =>
          match ← call (.sync temporary) with
          | .error failure =>
              let _ ← call (.close temporary)
              return .error failure
          | .ok () => call (.close temporary)

def writeFile (filename data : GoString) : Process (Except GoError Unit) := do
  match ← call .createTemp with
  | .error failure => return .error failure
  | .ok temporary =>
      match ← fillFile temporary data with
      | .error failure =>
          let _ ← call (.remove temporary)
          return .error failure
      | .ok () =>
          let outcome ← call (.rename temporary filename)
          let _ ← call (.remove temporary)
          return outcome

/-- The digits of `hex.EncodeToString`. -/
def hexDigits : GoString := text "0123456789abcdef"

def hexEncode (bytes : GoString) : GoString :=
  bytes.flatMap fun value => [hexDigits.getD (value.toNat / 16) 0, hexDigits.getD (value.toNat % 16) 0]

/-- `strings.EqualFold`, of texts in ASCII. -/
def equalFold (left right : GoString) : Bool :=
  let lower := fun value : UInt8 => if 0x41 ≤ value ∧ value ≤ 0x5A then value + 0x20 else value
  left.map lower = right.map lower

def suffix : GoString := text ".scpb"

/-- `filepath.Base(filename) = filename`, and the suffix. -/
def properFilename (filename : GoString) : Bool :=
  filename ≠ [] && (filename = text "/" || !filename.contains (byte '/')) && suffix.isSuffixOf filename

def readVerified (id : GoString) : Process (Except GoError (Metadata × GoString)) := do
  match ← call (.findByID id) with
  | .error failure => return .error failure
  | .ok metadata =>
      if properFilename metadata.filename = false then return .error (.sentinel .invalidBackup)
      else
        match ← call (.openFile metadata.filename) with
        | .error failure => return .error failure
        | .ok () =>
            match ← call (.readAll metadata.filename (sizeLimit + 1)) with
            | .error _ => return .error (.sentinel .invalidBackup)
            | .ok data =>
                if data.length > sizeLimit then return .error (.sentinel .invalidBackup)
                else if equalFold (hexEncode (sha256 data)) metadata.sha256 = false ||
                    data.length ≠ metadata.sizeBytes then
                  return .error (.sentinel .checksumMismatch)
                else return .ok (metadata, data)

end Directory

/-! ## The service -/

section Service

def appendAudit (eventType targetID requestID sourceIP : GoString) (metadata : JSONMap) :
    Process (Except GoError Unit) := do
  let id ← call .newID
  let createdAt ← call .now
  call (.append ⟨id, eventType, text "backup", targetID, requestID, sourceIP, metadata, createdAt⟩)

/-- `Seal` -/
def sealArchive (archive : Archive) (passphrase : GoString) : Process (Except GoError GoString) := do
  match sealable library archive passphrase with
  | .error failure => return .error failure
  | .ok plaintext =>
      match ← call (.random 16) with
      | .error failure => return .error failure
      | .ok salt =>
          match ← call (.random 12) with
          | .error failure => return .error failure
          | .ok nonce => return .ok (sealText library plaintext passphrase salt nonce)

def filenameOf (createdAt : Instant) (id : GoString) : GoString :=
  text "controlpanel-" ++ library.formatCompact createdAt ++ text "-" ++ id ++ suffix

/-- The metadata of a backup whose sealed archive is `data`. -/
def metadataOf (archive : Archive) (data id : GoString) (kind : Kind) (createdAt : Instant) : Metadata :=
  ⟨id, filenameOf library createdAt id, data.length, hexEncode (sha256 data), archive.formatVersion, kind,
    .ready, library.marshalManifest archive.manifest, createdAt⟩

/-- What `createLocked` does with a sealed archive. -/
def storeBackup (archive : Archive) (data : GoString) (kind : Kind) (requestID sourceIP : GoString) :
    Process (Except GoError Metadata) := do
  let id ← call .newID
  let createdAt ← call .now
  let metadata := metadataOf library archive data id kind createdAt
  match ← writeFile metadata.filename data with
  | .error failure => return .error failure
  | .ok () =>
      match ← call (.create metadata) with
      | .error failure =>
          let _ ← call (.remove metadata.filename)
          return .error failure
      | .ok () =>
          match ← appendAudit (text "backup_created") id requestID sourceIP
              [(text "format_version", integerText archive.formatVersion), (text "kind", kind.value)] with
          | .error failure => return .error failure
          | .ok () => return .ok metadata

def createLocked (passphrase : GoString) (kind : Kind) (requestID sourceIP : GoString) :
    Process (Except GoError Metadata) := do
  match ← exportSnapshot library options with
  | .error failure => return .error failure
  | .ok archive =>
      match ← sealArchive library archive passphrase with
      | .error failure => return .error failure
      | .ok data => storeBackup library archive data kind requestID sourceIP

def create (passphrase : GoString) (kind : Kind) (requestID sourceIP : GoString) :
    Process (Except GoError Metadata) := do
  call .lock
  let outcome ← createLocked library options passphrase kind requestID sourceIP
  call .unlock
  return outcome

def download (id : GoString) : Process (Except GoError (GoString × GoString)) := do
  match ← readVerified id with
  | .error failure => return .error failure
  | .ok (metadata, data) => return .ok (data, metadata.filename)

structure Validation where
  formatVersion : Int
  applicationVersion : GoString
  createdAt : Instant
  manifest : Option (GoMap Int)

/-- What `Validate` and `Restore` make of the bytes that they read. -/
def openLogical (data passphrase : GoString) : Except GoError Archive :=
  match openArchive library data passphrase with
  | .error failure => .error failure
  | .ok archive =>
      match validateLogicalArchive library archive with
      | .error failure => .error failure
      | .ok () => .ok archive

def validate (id passphrase : GoString) : Process (Except GoError Validation) := do
  match ← readVerified id with
  | .error failure => return .error failure
  | .ok (_, data) =>
      match openLogical library data passphrase with
      | .error failure => return .error failure
      | .ok archive =>
          return .ok ⟨archive.formatVersion, archive.applicationVersion, archive.createdAt, archive.manifest⟩

/-- What `Restore` does between its checks and its last audit entry. -/
def replaceData (archive : Archive) (passphrase requestID sourceIP : GoString) :
    Process (Except GoError Unit) := do
  match ← createLocked library options passphrase .safety requestID sourceIP with
  | .error failure => return .error (.wrapped (text "create restore safety backup") failure)
  | .ok _ => restoreSnapshot library options archive

/-- What `Restore` does while it holds the mutex. -/
def restoreLocked (id passphrase requestID sourceIP : GoString) : Process (Except GoError Unit) := do
  match ← readVerified id with
  | .error failure => return .error failure
  | .ok (_, data) =>
      match openLogical library data passphrase with
      | .error failure => return .error failure
      | .ok archive =>
          match ← replaceData library options archive passphrase requestID sourceIP with
          | .error failure => return .error failure
          | .ok () =>
              appendAudit (text "backup_restored") id requestID sourceIP
                [(text "format_version", integerText archive.formatVersion)]

def restore (id passphrase requestID sourceIP : GoString) : Process (Except GoError Unit) := do
  match ← call .hasActiveWork with
  | .error failure => return .error failure
  | .ok true => return .error (.sentinel .activeWork)
  | .ok false =>
      call .lock
      let outcome ← restoreLocked library options id passphrase requestID sourceIP
      call .unlock
      return outcome

end Service

end NodeAtlas.Backup.Files
