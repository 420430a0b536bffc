import NodeAtlas.Power.Calls

/-! The servers table with its keys, and the transaction that replaces what it
holds of one connection. -/

set_option autoImplicit false

namespace NodeAtlas.Inventory

open Transactions (Failure)

/-- A server with the columns that only a synchronization sets. -/
structure IndexedServer extends Server where
  portalURL : Option GoString
  createdAt : Instant

/-- A row of the servers table. -/
structure IndexRow extends IndexedServer where
  hiddenAt : Option Instant

structure SyncSnapshot where
  connectionID : GoString
  completedAt : Instant
  servers : List IndexedServer

/-- The columns about its health that a connection has. -/
structure Health where
  status : GoString
  lastTestedAt : Option Instant
  lastSyncedAt : Option Instant
  lastErrorCode : GoString
  lastErrorMessage : GoString
  updatedAt : Instant
  deriving DecidableEq, Repr

/-- A row of the provider_connections table. -/
structure ConnectionRow extends Power.Connection where
  enabled : Bool
  health : Health
  deletedAt : Option Instant

section Keys

variable (db : Database)

/-- `UNIQUE (connection_id, scope, external_id)` -/
def sameRemote (left right : IndexedServer) : Bool :=
  db.same left.connectionID right.connectionID && db.same left.scope right.scope &&
    db.same left.externalID right.externalID

/-- Two rows that may not both be there. -/
def clash (left right : IndexedServer) : Bool :=
  db.same left.id right.id || sameRemote db left right

/-- The rows of the table, no two of which clash. -/
structure Index where
  rows : List IndexRow
  unique : rows.Pairwise fun left right => clash db left.toIndexedServer right.toIndexedServer = false

/-- The two tables that a synchronization writes. -/
structure Tables where
  connections : List ConnectionRow
  servers : Index db

end Keys

variable {db : Database}

/-- A change of columns that belong to no key. -/
def IndexRow.Alike (left right : IndexRow) : Prop :=
  left.id = right.id ∧ left.connectionID = right.connectionID ∧ left.scope = right.scope ∧
    left.externalID = right.externalID

theorem IndexRow.Alike.refl (row : IndexRow) : row.Alike row := ⟨rfl, rfl, rfl, rfl⟩

namespace Index

def rewrite (index : Index db) (change : IndexRow → IndexRow) (alike : ∀ row, (change row).Alike row) :
    Index db where
  rows := index.rows.map change
  unique := by
    rw [List.pairwise_map]
    apply index.unique.imp
    intro left right apart
    obtain ⟨leftID, leftConnection, leftScope, leftExternal⟩ := alike left
    obtain ⟨rightID, rightConnection, rightScope, rightExternal⟩ := alike right
    simpa only [clash, sameRemote, leftID, leftConnection, leftScope, leftExternal, rightID, rightConnection,
      rightScope, rightExternal] using apart

def insert (index : Index db) (row : IndexRow)
    (fresh : ∀ other ∈ index.rows, clash db other.toIndexedServer row.toIndexedServer = false) : Index db where
  rows := index.rows ++ [row]
  unique := by
    rw [List.pairwise_append]
    refine ⟨index.unique, List.pairwise_singleton _ _, fun other member new single => ?_⟩
    rw [List.mem_singleton.mp single]
    exact fresh other member

end Index

section Statements

variable (db)

def IndexRow.hidden (at_ : Instant) (row : IndexRow) : IndexRow :=
  { row with hiddenAt := some (db.stamp at_), updatedAt := db.stamp at_ }

/-- What `ON CONFLICT` sets of a row that is there. -/
def IndexRow.refreshed (server : IndexedServer) (row : IndexRow) : IndexRow :=
  { row with
    name := server.name
    state := server.state
    remoteState := server.remoteState
    spec := server.spec
    addresses := server.addresses
    capabilities := server.capabilities
    portalURL := server.portalURL
    lastSeenAt := db.stamp server.lastSeenAt
    lastStateCheckedAt := db.stamp server.lastStateCheckedAt
    hiddenAt := none
    updatedAt := db.stamp server.updatedAt }

def IndexRow.inserted (server : IndexedServer) : IndexRow :=
  { server with
    lastSeenAt := db.stamp server.lastSeenAt
    lastStateCheckedAt := db.stamp server.lastStateCheckedAt
    createdAt := db.stamp server.createdAt
    updatedAt := db.stamp server.updatedAt
    hiddenAt := none }

/-- `WHERE connection_id = ? AND hidden_at IS NULL` -/
def stale (connectionID : GoString) (row : IndexRow) : Bool :=
  db.same row.connectionID connectionID && row.hiddenAt.isNone

variable {db}

def Index.hideStale (index : Index db) (connectionID : GoString) (at_ : Instant) : Index db :=
  index.rewrite (fun row => if stale db connectionID row then row.hidden db at_ else row) fun row => by
    split
    · exact ⟨rfl, rfl, rfl, rfl⟩
    · exact .refl row

def Index.refresh (index : Index db) (found : IndexRow → Bool) (server : IndexedServer) : Index db :=
  index.rewrite (fun row => if found row then row.refreshed db server else row) fun row => by
    split
    · exact ⟨rfl, rfl, rfl, rfl⟩
    · exact .refl row

/-- A row with the same id is in the way on SQLite, unless it is also the one
with the same remote server. On MySQL it is what is updated. Where the id and the
remote server belong to two rows, SQLite may resolve the second conflict first and
update that row. Fresh ids leave no such case. -/
def Index.upsert (index : Index db) (server : IndexedServer) : Except Failure (Index db) :=
  if fresh : ∀ row ∈ index.rows, clash db row.toIndexedServer server = false then
    .ok (index.insert (.inserted db server) fresh)
  else
    match index.rows.find? fun row => db.same row.id server.id with
    | none => .ok (index.refresh (fun row => sameRemote db row.toIndexedServer server) server)
    | some row =>
        if db.dialect = .mysql ∨ sameRemote db row.toIndexedServer server = true then
          .ok (index.refresh (fun row => db.same row.id server.id) server)
        else .error .duplicate

/-- The loop over the servers. `fails` says which statements of the transaction
fail, by their number. -/
def upsertAll (fails : Nat → Option Failure) (connectionID : GoString) :
    Nat → List IndexedServer → Index db → Except GoError (Index db)
  | _, [], index => .ok index
  | statement, server :: rest, index =>
      if server.connectionID ≠ connectionID ∨ server.id = [] ∨ server.externalID = [] then
        .error (.plain (text "invalid synchronized server"))
      else
        match fails statement with
        | some failure => .error (.wrapped (text "upsert synchronized server") (db.failed failure))
        | none =>
            match index.upsert server with
            | .error failure => .error (.wrapped (text "upsert synchronized server") (db.failed failure))
            | .ok index => upsertAll fails connectionID (statement + 1) rest index

variable (db)

/-- `WHERE id = ? AND deleted_at IS NULL` -/
def present (id : GoString) (row : ConnectionRow) : Bool :=
  db.same row.id id && row.deletedAt.isNone

/-- `RowsAffected` of an UPDATE. MySQL does not count the rows that it leaves as
they are. -/
def affected (id : GoString) (change : Health → Health) (connections : List ConnectionRow) : Nat :=
  connections.countP fun row =>
    present db id row && (db.dialect = .sqlite || change row.health ≠ row.health)

def touch (id : GoString) (change : Health → Health) (connections : List ConnectionRow) : List ConnectionRow :=
  connections.map fun row => if present db id row then { row with health := change row.health } else row

def Health.synced (at_ : Instant) (health : Health) : Health :=
  { health with
    lastSyncedAt := some (db.stamp at_)
    status := text "healthy"
    lastErrorCode := []
    lastErrorMessage := []
    updatedAt := db.stamp at_ }

def Health.tested (status code message : GoString) (at_ : Instant) (health : Health) : Health :=
  { health with
    status := status
    lastErrorCode := code
    lastErrorMessage := message
    lastTestedAt := some (db.stamp at_)
    updatedAt := db.stamp at_ }

variable {db}

/-- A statement of the transaction that may fail. -/
def attempt (db : Database) (fails : Nat → Option Failure) (statement : Nat) (context : GoString) :
    Except GoError Unit :=
  match fails statement with
  | some failure => .error (.wrapped context (db.failed failure))
  | none => .ok ()

/-- The transaction of `ApplyCompleteSync` up to its COMMIT. -/
def commitSync (fails : Nat → Option Failure) (snapshot : SyncSnapshot) (tables : Tables db) :
    Except GoError (Tables db) := do
  attempt db fails 0 (text "begin inventory sync")
  attempt db fails 1 (text "hide stale servers")
  let hidden := tables.servers.hideStale snapshot.connectionID snapshot.completedAt
  let servers ← upsertAll fails snapshot.connectionID 2 snapshot.servers hidden
  let last := snapshot.servers.length + 2
  attempt db fails last (text "update connection sync status")
  let change := Health.synced db snapshot.completedAt
  if affected db snapshot.connectionID change tables.connections = 0 then
    .error (.plain (text "provider connection not found"))
  else
    attempt db fails (last + 1) (text "commit inventory sync")
    return ⟨touch db snapshot.connectionID change tables.connections, servers⟩

/-- `ApplyCompleteSync`: whatever is not committed is rolled back. A COMMIT that
fails has committed nothing. -/
def applyCompleteSync (fails : Nat → Option Failure) (snapshot : SyncSnapshot) (tables : Tables db) :
    Except GoError Unit × Tables db :=
  match commitSync fails snapshot tables with
  | .error failure => (.error failure, tables)
  | .ok committed => (.ok (), committed)

end Statements

end NodeAtlas.Inventory
