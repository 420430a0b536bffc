import NodeAtlas.Database
import NodeAtlas.Digest
import NodeAtlas.JSON
import NodeAtlas.Secrets

/-! Logical archives: the tables that they hold, the cells of these, and what is
checked of an archive. -/

set_option autoImplicit false

namespace NodeAtlas.Backup

inductive ColumnKind where
  | text
  | json
  | binary
  | integer
  | boolean
  | time
  deriving DecidableEq, Repr

structure ColumnSchema where
  name : GoString
  kind : ColumnKind
  deriving DecidableEq, Repr

structure TableSchema where
  name : GoString
  columns : List ColumnSchema
  deriving DecidableEq, Repr

def table (name : String) (columns : List (ColumnKind × String)) : TableSchema :=
  ⟨text name, columns.map fun (kind, column) => ⟨text column, kind⟩⟩

def logicalSchema : List TableSchema :=
  [table "users"
      [(.integer, "singleton_key"), (.text, "id"), (.text, "username"), (.text, "normalized_username"),
        (.text, "password_hash"), (.time, "initialized_at"), (.time, "created_at"), (.time, "updated_at"),
        (.time, "last_login_at")],
    table "sessions"
      [(.binary, "token_hash"), (.binary, "csrf_hash"), (.text, "user_id"), (.time, "expires_at"),
        (.time, "absolute_expires_at"), (.time, "last_seen_at"), (.time, "created_at")],
    table "provider_connections"
      [(.text, "id"), (.text, "name"), (.text, "provider_type"), (.text, "endpoint"),
        (.json, "settings_json"), (.binary, "credentials_ciphertext"), (.binary, "credentials_nonce"),
        (.integer, "credentials_key_version"), (.boolean, "enabled"), (.text, "health_status"),
        (.time, "last_tested_at"), (.time, "last_synced_at"), (.text, "last_error_code"),
        (.text, "last_error_message"), (.time, "created_at"), (.time, "updated_at"), (.time, "deleted_at")],
    table "servers"
      [(.text, "id"), (.text, "connection_id"), (.text, "external_id"), (.text, "scope"), (.text, "name"),
        (.text, "normalized_state"), (.text, "remote_state"), (.json, "spec_json"),
        (.json, "addresses_json"), (.json, "capabilities_json"), (.text, "portal_url"),
        (.time, "last_seen_at"), (.time, "last_state_checked_at"), (.time, "hidden_at"),
        (.time, "created_at"), (.time, "updated_at")],
    table "jobs"
      [(.text, "id"), (.text, "kind"), (.json, "payload_json"), (.text, "status"), (.integer, "attempts"),
        (.integer, "max_attempts"), (.time, "available_at"), (.text, "lease_owner"),
        (.time, "lease_expires_at"), (.text, "last_error"), (.time, "created_at"), (.time, "updated_at")],
    table "operations"
      [(.text, "id"), (.text, "server_id"), (.text, "connection_id"), (.text, "action"),
        (.text, "status"), (.text, "idempotency_key"), (.text, "active_marker"),
        (.text, "provider_request_id"), (.text, "error_code"), (.text, "error_message"),
        (.time, "queued_at"), (.time, "started_at"), (.time, "finished_at"), (.time, "updated_at")],
    table "audit_logs"
      [(.text, "id"), (.text, "event_type"), (.text, "target_type"), (.text, "target_id"),
        (.text, "request_id"), (.text, "source_ip"), (.json, "metadata_json"), (.time, "created_at")],
    table "console_sessions"
      [(.text, "id"), (.text, "server_id"), (.text, "mode"), (.binary, "ticket_hash"),
        (.time, "expires_at"), (.time, "opened_at"), (.time, "closed_at"), (.text, "result"),
        (.time, "created_at")],
    table "settings" [(.text, "setting_key"), (.json, "value_json"), (.time, "updated_at")]]

def columnNames (schema : TableSchema) : List GoString :=
  schema.columns.map (·.name)

/-- A map whose keys are strings, as a list of its entries. -/
structure GoMap (α : Type) where
  entries : List (GoString × α)
  distinct : (entries.map Prod.fst).Nodup

namespace GoMap

variable {α : Type}

def empty : GoMap α := ⟨[], List.nodup_nil⟩

def get (map : GoMap α) (key : GoString) : Option α :=
  (map.entries.find? fun entry => entry.1 = key).map Prod.snd

def setEntry (key : GoString) (value : α) : List (GoString × α) → List (GoString × α)
  | [] => [(key, value)]
  | (other, old) :: rest =>
      if other = key then (key, value) :: rest else (other, old) :: setEntry key value rest

theorem setEntry_keys (key : GoString) (value : α) (entries : List (GoString × α)) :
    (setEntry key value entries).map Prod.fst =
      if key ∈ entries.map Prod.fst then entries.map Prod.fst else entries.map Prod.fst ++ [key] := by
  induction entries with
  | nil => rfl
  | cons first rest ih =>
      obtain ⟨other, old⟩ := first
      by_cases same : other = key
      · simp [setEntry, same]
      · have different : ¬ key = other := fun equal => same equal.symm
        simp only [setEntry, same, if_false, List.map_cons, ih, List.mem_cons, different, false_or]
        split <;> simp

def set (map : GoMap α) (key : GoString) (value : α) : GoMap α where
  entries := setEntry key value map.entries
  distinct := by
    rw [setEntry_keys]
    split
    · exact map.distinct
    · next fresh =>
        have apart : ∀ other ∈ map.entries.map Prod.fst, other ≠ key := by
          intro other member same
          rw [same] at member
          exact fresh member
        simpa [List.nodup_append, map.distinct] using apart

/-- `delete(map, key)` -/
def erase (map : GoMap α) (key : GoString) : GoMap α where
  entries := map.entries.filter fun entry => entry.1 ≠ key
  distinct := map.distinct.sublist (List.filter_sublist.map Prod.fst)

private theorem find_setEntry (key other : GoString) (value : α) (entries : List (GoString × α)) :
    ((setEntry key value entries).find? fun entry => entry.1 = other).map Prod.snd =
      if other = key then some value else (entries.find? fun entry => entry.1 = other).map Prod.snd := by
  induction entries with
  | nil =>
      by_cases same : other = key
      · simp [setEntry, same]
      · have different : ¬ key = other := fun equal => same equal.symm
        simp [setEntry, same, different]
  | cons first rest ih =>
      obtain ⟨name, old⟩ := first
      by_cases here : name = key
      · by_cases same : other = key
        · simp [setEntry, here, same]
        · have different : ¬ key = other := fun equal => same equal.symm
          simp [setEntry, here, same, different]
      · by_cases found : name = other
        · have different : ¬ other = key := fun equal => here (found.trans equal)
          simp [setEntry, found, different]
        · simpa [setEntry, here, found] using ih

theorem get_set (map : GoMap α) (key other : GoString) (value : α) :
    (map.set key value).get other = if other = key then some value else map.get other :=
  find_setEntry key other value map.entries

theorem get_erase (map : GoMap α) (key other : GoString) :
    (map.erase key).get other = if other = key then none else map.get other := by
  have kept : ∀ entries : List (GoString × α),
      (entries.filter fun entry => entry.1 ≠ key).find? (fun entry => entry.1 = other) =
        if other = key then none else entries.find? fun entry => entry.1 = other := by
    intro entries
    induction entries with
    | nil => simp
    | cons first rest ih =>
        by_cases gone : first.1 = key
        · by_cases same : other = key
          · simp [same]
          · have different : ¬ key = other := fun equal => same equal.symm
            simpa [gone, same, different] using ih
        · by_cases found : first.1 = other
          · have different : ¬ other = key := fun equal => gone (found.trans equal)
            simp [found, different]
          · simpa [gone, found] using ih
  unfold get erase
  dsimp only
  rw [kept]
  split <;> rfl

end GoMap

structure TableData where
  columns : List GoString
  rows : List (List (Option GoString))
  deriving DecidableEq, Repr

/-- `Archive`; the maps are `none` where Go has nil. -/
structure Archive where
  formatVersion : Int
  applicationVersion : GoString
  createdAt : Instant
  sourceDialect : GoString
  manifest : Option (GoMap Int)
  tables : Option (GoMap TableData)

def currentFormatVersion : Int := 1

def dialectName : Dialect → GoString
  | .sqlite => text "sqlite"
  | .mysql => text "mysql"

/-- What a driver hands over for a cell, and what it is given for a
placeholder. -/
inductive Value where
  | null
  | bytes (value : GoString)
  | string (value : GoString)
  | integer (value : Int)
  | boolean (value : Bool)
  | time (value : Instant)
  deriving DecidableEq, Repr

/-- The layouts for which `valueTime` and `parseTime` try `time.Parse`. -/
inductive Layout where
  | rfc3339Nano
  | microseconds
  | seconds
  deriving DecidableEq, Repr

structure Envelope where
  magic : GoString
  version : Int
  kdf : GoString
  n : Int
  r : Int
  p : Int
  salt : GoString
  nonce : GoString
  ciphertext : GoString
  deriving DecidableEq, Repr

/-- What the package takes from elsewhere: `time.Parse` and `Time.Format` in
UTC, `fmt.Sprint` of a time, the JSON of an archive, of its manifest and of an
envelope (read with `DisallowUnknownFields` up to the end), scrypt with the
package's cost, AES-GCM, and the errors that these return. -/
structure Library where
  formatTime : Instant → GoString
  formatCompact : Instant → GoString
  parseTime : Layout → GoString → Option Instant
  printTime : Instant → GoString
  marshalArchive : Archive → Option GoString
  unmarshalArchive : GoString → Option Archive
  marshalManifest : Option (GoMap Int) → GoString
  marshalEnvelope : Envelope → GoString
  decodeEnvelope : GoString → Option Envelope
  scryptKey : (passphrase salt : GoString) → GoString
  gcm : Secrets.GCM
  failure : GoString → GoError

variable (library : Library)

/-! ## Cells -/

def scalarString : Value → GoString
  | .null => text "<nil>"
  | .bytes value => value
  | .string value => value
  | .integer value => integerText value
  | .boolean value => if value then text "true" else text "false"
  | .time value => library.printTime value

/-- The loop of `valueTime` and of `parseTime`. -/
def parseLayouts (raw : GoString) : Option Instant :=
  [Layout.rfc3339Nano, .microseconds, .seconds].findSome? fun layout => library.parseTime layout raw

def valueTime (value : Value) : Option Instant :=
  match value with
  | .time instant => some instant
  | value => parseLayouts library (scalarString library value)

def isBoolean (value : GoString) : Bool :=
  [text "0", text "1", text "true", text "false"].contains value

/-- `normalizeCell` of a value that is not null. -/
def cellText (kind : ColumnKind) (value : Value) : Except GoError GoString :=
  let scalar := scalarString library value
  match kind with
  | .binary =>
      match value with
      | .bytes value => .ok (Base64.encode value)
      | _ => .error (.plain (text "expected binary"))
  | .integer => if (parseInt scalar).isNone then .error (library.failure scalar) else .ok scalar
  | .boolean => if isBoolean scalar then .ok scalar else .error (.plain (text "invalid boolean"))
  | .time =>
      match valueTime library value with
      | some instant => .ok (library.formatTime instant)
      | none => .error (.plain (text "invalid timestamp"))
  | .json => if JSON.valid scalar then .ok scalar else .error (.plain (text "invalid JSON"))
  | .text => .ok scalar

def normalizeCell (kind : ColumnKind) (value : Value) : Except GoError (Option GoString) :=
  if value = .null then .ok none else (cellText library kind value).map some

def restoreText (kind : ColumnKind) (value : GoString) (dialect : Dialect) : Except GoError Value :=
  let failed := Except.error (library.failure value)
  match kind with
  | .binary =>
      match Base64.decode value with
      | some bytes => .ok (.bytes bytes)
      | none => failed
  | .integer =>
      match parseInt value with
      | some number => .ok (.integer number)
      | none => failed
  | .boolean =>
      match parseBool value, parseInt value with
      | some parsed, _ => .ok (.boolean parsed)
      | none, some number =>
          if number ≠ 0 ∧ number ≠ 1 then .error (.plain (text "invalid boolean"))
          else .ok (.boolean (number = 1))
      | none, none => .error (.plain (text "invalid boolean"))
  | .time =>
      match library.parseTime .rfc3339Nano value with
      | some instant =>
          if dialect = .mysql then .ok (.time instant) else .ok (.string (library.formatTime instant))
      | none => failed
  | .json => if JSON.valid value then .ok (.string value) else .error (.plain (text "invalid JSON"))
  | .text => .ok (.string value)

def restoreCell (kind : ColumnKind) (value : Option GoString) (dialect : Dialect) : Except GoError Value :=
  match value with
  | none => .ok .null
  | some value => restoreText library kind value dialect

/-- The cells of a row from left to right, up to the first that cannot be
converted; its error names the column. -/
def convertRow {Cell Result : Type} (context : GoString) (convert : ColumnKind → Cell → Except GoError Result) :
    List ColumnSchema → List Cell → Except GoError (List Result)
  | column :: columns, cell :: cells =>
      match convert column.kind cell with
      | .error failure => .error (.wrapped (context ++ text "." ++ column.name) failure)
      | .ok value => (convertRow context convert columns cells).map (value :: ·)
  | _, _ => .ok []

/-! ## What is checked of an archive -/

/-- The check that `validateEnvelopeManifest` makes for each entry of the
manifest. -/
def manifestEntryFits (tables : GoMap TableData) (entry : GoString × Int) : Bool :=
  match tables.get entry.1 with
  | none => false
  | some table =>
      entry.2 = table.rows.length && 0 ≤ entry.2 && table.columns.length ≠ 0 &&
        table.rows.all fun row => row.length = table.columns.length

def Archive.validateEnvelopeManifest (archive : Archive) : Except GoError Unit :=
  let invalid := Except.error (.sentinel .invalidManifest)
  match archive.manifest, archive.tables with
  | some manifest, some tables =>
      if archive.formatVersion ≠ currentFormatVersion || archive.createdAt = zeroInstant then invalid
      else if archive.sourceDialect ≠ dialectName .sqlite ∧ archive.sourceDialect ≠ dialectName .mysql then
        invalid
      else if manifest.entries.length ≠ tables.entries.length then invalid
      else if manifest.entries.all (manifestEntryFits tables) then .ok ()
      else invalid
  | _, _ => invalid

def rowRestores (schema : TableSchema) (row : List (Option GoString)) : Bool :=
  row.length = schema.columns.length &&
    (convertRow [] (fun kind cell => restoreCell library kind cell .sqlite) schema.columns row).isOk

/-- The check that `validateLogicalArchive` makes for each table of the
schema. -/
def tableFits (manifest : GoMap Int) (tables : GoMap TableData) (schema : TableSchema) : Bool :=
  match tables.get schema.name with
  | none => false
  | some table =>
      (manifest.get schema.name).getD 0 = table.rows.length && table.columns = columnNames schema &&
        table.rows.all (rowRestores library schema)

def validateLogicalArchive (archive : Archive) : Except GoError Unit :=
  let invalid := Except.error (.sentinel .invalidManifest)
  match archive.validateEnvelopeManifest, archive.manifest, archive.tables with
  | .error failure, _, _ => .error failure
  | .ok (), some manifest, some tables =>
      if tables.entries.length ≠ logicalSchema.length then invalid
      else if logicalSchema.all (tableFits library manifest tables) then .ok ()
      else invalid
  | .ok (), _, _ => invalid

/-! ## Envelopes -/

def envelopeMagic : GoString := text "SCPB"

def scryptN : Int := 2 ^ 15

def scryptR : Int := 8

def scryptP : Int := 1

/-- 512 MiB -/
def sizeLimit : Nat := 512 * 1024 * 1024

def envelopeData : GoString := text "SCPB:1"

/-- What `Seal` makes of the text of an archive. -/
def sealText (plaintext passphrase salt nonce : GoString) : GoString :=
  let ciphertext := library.gcm.seal_ (library.scryptKey passphrase salt) nonce plaintext envelopeData
  library.marshalEnvelope
    ⟨envelopeMagic, currentFormatVersion, text "scrypt", scryptN, scryptR, scryptP, salt, nonce, ciphertext⟩

/-- What `Seal` checks before it asks for random bytes; the text of the archive
is sealed. -/
def sealable (archive : Archive) (passphrase : GoString) : Except GoError GoString :=
  match archive.validateEnvelopeManifest with
  | .error failure => .error failure
  | .ok () =>
      if passphrase.length < 12 || passphrase.length > 1024 then .error (.sentinel .invalidBackup)
      else
        match library.marshalArchive archive with
        | none => .error (library.failure (text "archive"))
        | some plaintext => .ok plaintext

def Envelope.supported (envelope : Envelope) : Bool :=
  envelope.magic = envelopeMagic && envelope.version = currentFormatVersion && envelope.kdf = text "scrypt" &&
    envelope.n = scryptN && envelope.r = scryptR && envelope.p = scryptP && envelope.salt.length = 16 &&
    envelope.nonce.length = 12 && 16 ≤ envelope.ciphertext.length

/-- `Open` -/
def openArchive (data passphrase : GoString) : Except GoError Archive :=
  let invalid := Except.error (.sentinel .invalidBackup)
  if passphrase.length < 1 || data.length = 0 || data.length > sizeLimit then invalid
  else
    match library.decodeEnvelope data with
    | none => invalid
    | some envelope =>
        if envelope.supported = false then invalid
        else
          let key := library.scryptKey passphrase envelope.salt
          match library.gcm.open_ key envelope.nonce envelope.ciphertext envelopeData with
          | none => invalid
          | some plaintext =>
              match library.unmarshalArchive plaintext with
              | none => invalid
              | some archive =>
                  match archive.validateEnvelopeManifest with
                  | .error failure => .error failure
                  | .ok () => .ok archive

end NodeAtlas.Backup
