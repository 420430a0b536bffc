import NodeAtlas.Database
import NodeAtlas.Providers

/-! The local index of servers. -/

set_option autoImplicit false

namespace NodeAtlas.Inventory

open Providers

/-- What the repository reads of a server. `capabilities` is the result of
decoding the stored JSON, an error message where that fails. -/
structure Server where
  id : GoString
  connectionID : GoString
  externalID : GoString
  scope : GoString
  name : GoString
  state : ServerState
  remoteState : GoString
  spec : GoString
  addresses : GoString
  capabilities : Except GoString Capabilities
  lastSeenAt : Instant
  lastStateCheckedAt : Instant
  updatedAt : Instant

/-- A row of the servers table, with `deleted_at` of the connection it is joined to. -/
structure Row extends Server where
  hiddenAt : Option Instant
  connectionDeletedAt : Option Instant

def validState : ServerState → Bool
  | .other _ => false
  | _ => true

variable (db : Database)

def findByID (id : GoString) (rows : List Row) : Except GoError Server :=
  match rows.find? fun row => db.same row.id id && row.hiddenAt.isNone &&
      row.connectionDeletedAt.isNone with
  | some row => .ok row.toServer
  | none => .error (.sentinel .serverNotFound)

/-- The columns that the UPDATE of `UpdateRemote` sets. -/
def Row.observed (remote : RemoteServer) (at_ : Instant) (row : Row) : Row :=
  { row with
    name := remote.name
    state := if validState remote.state then remote.state else .unknown
    remoteState := remote.remoteState
    spec := remote.spec
    addresses := remote.addresses
    capabilities := .ok remote.capabilities
    lastSeenAt := db.stamp at_
    lastStateCheckedAt := db.stamp at_
    updatedAt := db.stamp at_ }

/-- `WHERE id = ? AND hidden_at IS NULL` -/
def visible (id : GoString) (row : Row) : Bool :=
  db.same row.id id && row.hiddenAt.isNone

def updateRemote (id : GoString) (remote : RemoteServer) (at_ : Instant) (rows : List Row) :
    Except GoError Unit × List Row :=
  if rows.countP (visible db id) = 1 then
    (.ok (), rows.map fun row => if visible db id row then row.observed db remote at_ else row)
  else (.error (.sentinel .serverNotFound), rows)

end NodeAtlas.Inventory
