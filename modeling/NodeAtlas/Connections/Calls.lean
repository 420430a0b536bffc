import NodeAtlas.Interleaving.Discipline
import NodeAtlas.Inventory.Index
import NodeAtlas.Secrets

/-! The provider_connections table, and the calls that the connection service
makes. -/

set_option autoImplicit false

namespace NodeAtlas.Connections

open Interleaving Providers Secrets
open Transactions (Failure)

structure Connection where
  id : GoString
  name : GoString
  providerType : GoString
  endpoint : GoString
  settings : GoString
  enabled : Bool
  health : Inventory.Health
  createdAt : Instant
  deriving DecidableEq, Repr

/-- A row, whose envelope is three of its columns. -/
structure Row extends Connection where
  envelope : Envelope
  deletedAt : Option Instant
  deriving DecidableEq, Repr

/-- A write that the table took: the thread, the connection, and whether it set
the credentials. -/
structure Write where
  thread : Nat
  id : GoString
  credentials : Bool

/-- The table, the cipher of the running process, and the one that the
environment configures for the next. -/
structure State where
  rows : List Row
  cipher : CredentialCipher
  configured : CredentialCipher
  writes : List Write

inductive Call where
  | now
  | newID
  | nonce
  | cipher
  | createProvider (config : ConnectionConfig)
  | create (connection : Connection) (credentials : Envelope)
  | findByID (id : GoString)
  | update (connection : Connection) (credentials : Option Envelope)
  | softDelete (id : GoString) (deletedAt : Instant)
  | enqueueConnectionSync (id : GoString)

@[reducible] def Call.Reply : Call → Type
  | .now => Instant
  | .newID => GoString
  | .nonce => Option Nonce
  | .cipher => CredentialCipher
  | .findByID _ => Except GoError (Connection × Envelope)
  | _ => Except GoError Unit

/-- What becomes of a statement: it is carried out, it fails, or it is carried
out and the answer is lost. -/
inductive Outcome where
  | done
  | refused
  | unanswered
  deriving DecidableEq, Repr

inductive Choice where
  | statement (outcome : Outcome)
  | instant (value : Instant)
  | identifier (value : GoString)
  | random (nonce : Option Nonce)
  | read
  | answered (result : Except GoError Unit)
  | configure (keys : List (Int × GoString)) (activeVersion : Int)

abbrev Process (Outcome : Type) := Program Call Call.Reply Outcome

abbrev ConnectionEvent := Event Call Call.Reply

def call (request : Call) : Process request.Reply := .perform request

/-! ## The table -/

section Statements

variable (db : Database)

/-- `WHERE id = ? AND deleted_at IS NULL` -/
def present (id : GoString) (row : Row) : Bool :=
  db.same row.id id && row.deletedAt.isNone

def inserted (connection : Connection) (credentials : Envelope) : Row :=
  { connection with
    health := { connection.health with updatedAt := db.stamp connection.health.updatedAt }
    createdAt := db.stamp connection.createdAt
    envelope := credentials
    deletedAt := none }

/-- The columns that the UPDATE of `Update` sets. -/
def Row.updated (connection : Connection) (credentials : Option Envelope) (row : Row) : Row :=
  { row with
    name := connection.name
    endpoint := connection.endpoint
    settings := connection.settings
    enabled := connection.enabled
    health := { row.health with updatedAt := db.stamp connection.health.updatedAt }
    envelope := credentials.getD row.envelope }

/-- The columns that the UPDATE of `SoftDelete` sets. -/
def Row.deleted (at_ : Instant) (row : Row) : Row :=
  { row with
    enabled := false
    health := { row.health with updatedAt := db.stamp at_ }
    deletedAt := some (db.stamp at_) }

/-- `RowsAffected` of an UPDATE. MySQL does not count the rows that it leaves as
they are. -/
def affected (id : GoString) (change : Row → Row) (rows : List Row) : Nat :=
  rows.countP fun row => present db id row && (db.dialect = .sqlite || change row ≠ row)

def changeRow (id : GoString) (change : Row → Row) (rows : List Row) : List Row :=
  rows.map fun row => if present db id row then change row else row

/-- Whether an UPDATE goes through. -/
def admits (columns : Row → Bool) (id : GoString) (change : Row → Row) (outcome : Outcome)
    (rows : List Row) : Bool :=
  outcome ≠ .refused && (rows.filter (present db id)).all fun row => columns (change row)

/-- An UPDATE with `requireAffected` behind it. -/
def updateWhere (columns : Row → Bool) (context id : GoString) (change : Row → Row) (outcome : Outcome)
    (rows : List Row) : Except GoError Unit × List Row :=
  if admits db columns id change outcome rows = false then
    (.error (.wrapped context (db.failed .refused)), rows)
  else if outcome = .unanswered then
    (.error (.wrapped context (db.failed .unavailable)), changeRow db id change rows)
  else if affected db id change rows = 0 then
    (.error (.sentinel .connectionNotFound), changeRow db id change rows)
  else (.ok (), changeRow db id change rows)

/-- The INSERT of `Create`. -/
def insertRow (columns : Row → Bool) (row : Row) (outcome : Outcome) (rows : List Row) :
    Except GoError Unit × List Row :=
  let failed := fun failure => Except.error (.wrapped (text "create provider connection") (db.failed failure))
  if outcome = .refused then (failed .unavailable, rows)
  else if rows.any fun other => db.same other.id row.id then (failed .duplicate, rows)
  else if columns row = false then (failed .refused, rows)
  else (if outcome = .done then .ok () else failed .unavailable, rows ++ [row])

end Statements

section Semantics

variable (db : Database) (columns : Row → Bool) (accepts : (type endpoint settings credentials : GoString) → Bool)

/-- `accepts` is whether `registry.Create` succeeds. -/
def perform (t : Nat) (call : Call) (choice : Choice) (state : State) : Option (call.Reply × State) :=
  match call, choice with
  | .now, .instant value => some (value, state)
  | .newID, .identifier value => some (value, state)
  | .nonce, .random nonce => some (nonce, state)
  | .cipher, .read => some (state.cipher, state)
  | .createProvider config, .answered result =>
      if result.isOk = accepts config.type config.endpoint config.settings config.credentials then
        some (result, state)
      else none
  | .create connection credentials, .statement outcome =>
      let (result, rows) := insertRow db columns (inserted db connection credentials) outcome state.rows
      some (result, { state with
        rows := rows
        writes := if rows.length = state.rows.length then state.writes
          else ⟨t, connection.id, true⟩ :: state.writes })
  | .findByID id, .statement outcome =>
      some (if outcome = .done then
          match state.rows.find? (present db id) with
          | some row => .ok (row.toConnection, row.envelope)
          | none => .error (.sentinel .connectionNotFound)
        else .error (.wrapped (text "find provider connection") (db.failed .unavailable)), state)
  | .update connection credentials, .statement outcome =>
      let change := Row.updated db connection credentials
      let (result, rows) := updateWhere db columns (text "update provider connection") connection.id change
        outcome state.rows
      some (result, { state with
        rows := rows
        writes := if admits db columns connection.id change outcome state.rows &&
            state.rows.any (present db connection.id) then
          ⟨t, connection.id, credentials.isSome⟩ :: state.writes else state.writes })
  | .softDelete id deletedAt, .statement outcome =>
      let (result, rows) := updateWhere db columns (text "delete provider connection") id
        (Row.deleted db deletedAt) outcome state.rows
      some (result, { state with rows := rows })
  | .enqueueConnectionSync _, .answered result => some (result, state)
  | _, _ => none

/-- Somebody sets the environment of the next process, with all the keys of this one. -/
def external (choice : Choice) (state : State) : Option State :=
  match choice with
  | .configure keys activeVersion =>
      match newCredentialCipher keys activeVersion with
      | .error _ => none
      | .ok next => if Grows state.cipher next then some { state with configured := next } else none
  | _ => none

/-- A restart reads the environment. -/
def restart (state : State) : State :=
  { state with cipher := state.configured }

end Semantics

end NodeAtlas.Connections
