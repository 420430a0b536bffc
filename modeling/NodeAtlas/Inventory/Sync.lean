import NodeAtlas.Inventory.Index
import NodeAtlas.URL

/-! The synchronization of a connection, with the calls that it makes. -/

set_option autoImplicit false

namespace NodeAtlas.Inventory

open Interleaving Providers
open Transactions (Failure)

def maximumSyncPages : Nat := 1000

def maximumSyncServers : Nat := 10000

structure ServerPage where
  servers : List RemoteServer
  next : Option GoString

/-- `applyCompleteSync` is the whole transaction. -/
inductive SyncCall where
  | findConnection (id : GoString)
  | decrypt (connection : Power.Connection)
  | createProvider (config : ConnectionConfig)
  | validateConnection
  | now
  | listServers (cursor : Option GoString)
  | portalURL (ref : ServerRef)
  | newID
  | applyCompleteSync (snapshot : SyncSnapshot)
  | updateHealth (id status code message : GoString) (testedAt : Instant)

@[reducible] def SyncCall.Reply : SyncCall → Type
  | .findConnection _ => Except GoError ConnectionRow
  | .decrypt _ => Except GoError GoString
  | .now => Instant
  | .listServers _ => Except GoError ServerPage
  | .portalURL _ => Except GoError (Option URL)
  | .newID => GoString
  | _ => Except GoError Unit

abbrev SyncProcess (Outcome : Type) := Program SyncCall SyncCall.Reply Outcome

abbrev SyncEvent := Event SyncCall SyncCall.Reply

def ask (request : SyncCall) : SyncProcess request.Reply := .perform request

/-! ## The tables -/

/-- Which statements of a call fail, by their number, or the reply of whatever
is no database. -/
inductive SyncChoice where
  | statements (fails : Nat → Option Failure)
  | reply (replies : (call : SyncCall) → call.Reply)

variable {db : Database}

def performSync (call : SyncCall) (choice : SyncChoice) (tables : Tables db) :
    Option (call.Reply × Tables db) :=
  match call, choice with
  | .findConnection id, .statements fails =>
      some (match attempt db fails 0 (text "find provider connection") with
        | .error failure => .error failure
        | .ok () =>
            match tables.connections.find? (present db id) with
            | some row => .ok row
            | none => .error (.sentinel .connectionNotFound), tables)
  | .applyCompleteSync snapshot, .statements fails => some (applyCompleteSync fails snapshot tables)
  | .updateHealth id status code message testedAt, .statements fails =>
      some (match attempt db fails 0 (text "update provider connection health") with
        | .error failure => (.error failure, tables)
        | .ok () =>
            let change := Health.tested db status code message testedAt
            (if affected db id change tables.connections = 0 then .error (.sentinel .connectionNotFound) else .ok (),
              { tables with connections := touch db id change tables.connections }))
  | .findConnection _, .reply _ | .applyCompleteSync _, .reply _ | .updateHealth _ _ _ _ _, .reply _ => none
  | call, .reply replies => some (replies call, tables)
  | _, .statements _ => none

/-! ## The code -/

def classifyProviderError (failure : GoError) : GoString × GoString × GoString :=
  match failure.asProvider with
  | none => (text "offline", ErrorCode.provider.value, text "Provider synchronization failed")
  | some error =>
      (if error.retryable then text "degraded" else text "offline", error.code.value, error.message)

def normalizePortalURL (providerType : GoString) (target : Option URL) : Except GoError GoString :=
  match target with
  | none => .error (.plain (text "provider returned an invalid portal URL"))
  | some target =>
      if providerType = text "mock" ∧ target.scheme = text "mock+page" ∧ target.hostname = text "portal" ∧
          target.port = [] ∧ target.user = none ∧ target.fragment = [] ∧ target.rawQuery = [] ∧
          (target.path = [] ∨ target.path = text "/") then
        .ok (text "/api/v1/mock-pages/portal")
      else if target.host = [] ∨ target.scheme ≠ text "http" ∧ target.scheme ≠ text "https" then
        .error (.plain (text "provider returned an invalid portal URL"))
      else .ok target.string

def recordFailure (connectionID : GoString) (syncErr : GoError) : SyncProcess (Except GoError Unit) := do
  let (status, code, message) := classifyProviderError syncErr
  let testedAt ← ask .now
  match ← ask (.updateHealth connectionID status code message testedAt) with
  | .error failure => return .error (.joined syncErr failure)
  | .ok () => return .error syncErr

/-- The part of `normalizeServer` about the portal. -/
def portalFor (providerType : GoString) (remote : RemoteServer) :
    SyncProcess (Except GoError (Option GoString)) :=
  if remote.capabilities.hasProviderPortal.available = false then return .ok none
  else do
    match ← ask (.portalURL ⟨remote.externalID, remote.scope⟩) with
    | .error failure => return .error failure
    | .ok target =>
        match normalizePortalURL providerType target with
        | .error failure => return .error failure
        | .ok value => return .ok (some value)

def normalizeServer (connectionID providerType : GoString) (remote : RemoteServer) (at_ : Instant) :
    SyncProcess (Except GoError IndexedServer) :=
  if remote.externalID = [] ∨ remote.name = [] then
    return .error (.plain (text "provider returned an invalid server"))
  else do
    match ← portalFor providerType remote with
    | .error failure => return .error failure
    | .ok portalURL =>
        return .ok {
          id := ← ask .newID, connectionID := connectionID, externalID := remote.externalID
          scope := remote.scope, name := remote.name
          state := if validState remote.state then remote.state else .unknown
          remoteState := remote.remoteState, spec := remote.spec, addresses := remote.addresses
          capabilities := .ok remote.capabilities, portalURL := portalURL
          lastSeenAt := at_, lastStateCheckedAt := at_, createdAt := at_, updatedAt := at_ }

/-- The loop over one page. -/
def normalizeAll (connectionID providerType : GoString) (at_ : Instant) :
    List RemoteServer → SyncProcess (Except GoError (List IndexedServer))
  | [] => return .ok []
  | remote :: rest => do
      match ← normalizeServer connectionID providerType remote at_ with
      | .error failure => return .error failure
      | .ok server =>
          match ← normalizeAll connectionID providerType at_ rest with
          | .error failure => return .error failure
          | .ok servers => return .ok (server :: servers)

/-- The loop over the pages, of which so many are left. -/
def syncPages (connection : ConnectionRow) (completedAt : Instant) :
    Nat → List IndexedServer → Option GoString → SyncProcess (Except GoError Unit)
  | 0, _, _ =>
      recordFailure connection.id
        (.provider ⟨.provider, text "provider pagination exceeds 1000 pages", false⟩)
  | pages + 1, servers, cursor => do
      match ← ask (.listServers cursor) with
      | .error failure => recordFailure connection.id failure
      | .ok page =>
          if maximumSyncServers < servers.length + page.servers.length then
            recordFailure connection.id
              (.provider ⟨.provider, text "provider inventory exceeds 10000 servers", false⟩)
          else
            match ← normalizeAll connection.id connection.providerType completedAt page.servers with
            | .error failure => recordFailure connection.id failure
            | .ok more =>
                match page.next with
                | none => ask (.applyCompleteSync ⟨connection.id, completedAt, servers ++ more⟩)
                | some next => syncPages connection completedAt pages (servers ++ more) (some next)

def syncConnection (connectionID : GoString) : SyncProcess (Except GoError Unit) := do
  match ← ask (.findConnection connectionID) with
  | .error failure => return .error failure
  | .ok connection =>
      if connection.enabled = false then return .error (.plain (text "provider connection is disabled"))
      else
        match ← ask (.decrypt connection.toConnection) with
        | .error failure => return .error (.wrapped (text "decrypt provider credentials") failure)
        | .ok plaintext =>
            match ← ask (.createProvider ⟨connection.id, connection.providerType, connection.endpoint,
                connection.settings, plaintext⟩) with
            | .error failure => recordFailure connection.id failure
            | .ok () =>
                match ← ask .validateConnection with
                | .error failure => recordFailure connection.id failure
                | .ok () =>
                    let completedAt ← ask .now
                    syncPages connection completedAt maximumSyncPages [] none

end NodeAtlas.Inventory
