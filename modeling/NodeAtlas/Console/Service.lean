import NodeAtlas.Console.Policy

/-! The console service, which creates tickets, and the gateway, which takes
them. -/

set_option autoImplicit false

namespace NodeAtlas.Console

open Interleaving Providers

structure SessionTicket where
  sessionID : GoString
  ticket : GoString
  expiresAt : Instant
  protocol : GoString
  credentials : Option GoString
  deriving DecidableEq, Repr

/-- The service and the gateway as the application composes them, with the
policy that they share and the lifetime of a ticket. -/
structure Panel where
  library : NetLibrary
  policy : TargetPolicy
  ticketTTL : Duration

def errConsoleUnavailable : GoError := .sentinel .consoleUnavailable

def serverCapabilities (serverID : GoString) :
    Process (Except GoError (Inventory.Server × Capabilities)) := do
  match ← call (.findServer serverID) with
  | .error failure => return .error failure
  | .ok server =>
      match server.capabilities with
      | .error message => return .error (.wrapped (text "decode console capabilities") (.plain message))
      | .ok capabilities => return .ok (server, capabilities)

/-- `Service.provider`: the provider of a connection, and the stored type of it. -/
def openProvider (connectionID : GoString) :
    Process (Except GoError (ConnectionConfig × GoString)) := do
  match ← call (.findConnection connectionID) with
  | .error failure => return .error failure
  | .ok connection =>
      match ← call (.decrypt connection) with
      | .error failure => return .error failure
      | .ok plaintext =>
          let config : ConnectionConfig :=
            ⟨connection.id, connection.providerType, connection.endpoint, connection.settings, plaintext⟩
          match ← call (.createProvider config) with
          | .error failure => return .error failure
          | .ok () => return .ok (config, connection.providerType)

def appendAudit (targetID eventType requestID sourceIP : GoString) (metadata : JSONMap) :
    Process (Except GoError Unit) := do
  let id ← call .newAuditID
  let now ← call .now
  call (.append ⟨id, eventType, text "console", targetID, requestID, sourceIP, metadata, now⟩)

/-- A ticket, as the browser gets it. -/
def SessionTicket.of (session : Session) (expiresAt : Instant) (ticket : GoString)
    (target : ConsoleTarget) : SessionTicket :=
  let protocol := if target.protocol = [] then text "terminal" else target.protocol
  ⟨session.id, ticket, expiresAt, protocol,
    if protocol = text "rfb" ∧ target.password ≠ [] then some target.password else none⟩

namespace Panel

variable (panel : Panel)

/-- The end of `CreateEmbedded`, once there is a target that is allowed. -/
def issue (server : Inventory.Server) (target : ConsoleTarget) (url : URL)
    (requestID sourceIP : GoString) : Process (Except GoError SessionTicket) := do
  let now ← call .now
  let ticket ← call .newTicket
  let id ← call .newID
  let session : Session := {
    id := id, serverID := server.id, mode := .embedded, ticketHash := sha256 ticket
    expiresAt := now + panel.ticketTTL, openedAt := none, closedAt := none, result := .pending
    createdAt := now }
  match ← call (.createSession session) with
  | .error failure => return .error failure
  | .ok () =>
      let () ← call (.put session.id url)
      match ← appendAudit session.id (text "console_session_created") requestID sourceIP
          [(text "mode", Mode.embedded.value)] with
      | .error failure => do
          let () ← call (.delete session.id)
          let _ ← call (.closeSession session.id .failed now)
          return .error failure
      | .ok () => return .ok (.of session session.expiresAt ticket target)

/-- `CreateEmbedded`. Raw TCP is for connections of the stored type Virtualizor. -/
def createEmbedded (serverID requestID sourceIP : GoString) : Process (Except GoError SessionTicket) := do
  match ← serverCapabilities serverID with
  | .error failure => return .error failure
  | .ok (server, capabilities) =>
      if capabilities.canEmbedConsole.available = false then return .error errConsoleUnavailable
      else
        match ← openProvider server.connectionID with
        | .error failure => return .error failure
        | .ok (provider, providerType) =>
            match ← call (.openConsole provider ⟨server.externalID, server.scope⟩) with
            | .error failure => return .error failure
            | .ok target =>
                match target.url with
                | none => return .error errTargetUnavailable
                | some url =>
                    if url.scheme = text "vnc+tcp" ∧ providerType ≠ text "virtualizor" then
                      return .error errTargetRejected
                    else
                      match ← panel.policy.validateEmbedded panel.library url with
                      | .error failure => return .error failure
                      | .ok () => panel.issue server target url requestID sourceIP

def runRawVNC (target : URL) : Process Result := do
  match ← panel.policy.dialTCP panel.library target with
  | .error _ => return .failed
  | .ok () => call .relay

def runWebSocket (target : URL) : Process Result := do
  match ← panel.policy.webSocketClient panel.library target with
  | .error _ => return .failed
  | .ok client =>
      panel.policy.dialAll panel.library client (← call (.connections target))
      match ← call .handshake with
      | .error _ => return .failed
      | .ok () => call .relay

/-- `proxy`. A mock console relays messages without a dial. -/
def proxy (target : URL) : Process Result := do
  let () ← call (.proxy target)
  if target.scheme = text "vnc+tcp" then panel.runRawVNC target
  else if target.scheme = text "mock+ws" then call .relay
  else panel.runWebSocket target

end Panel

def consumeTicket (ticketHash : GoString) (openedAt : Instant) : Process (Except GoError Session) := do
  match ← call (.findSession ticketHash) with
  | .error _ => return .error (.sentinel .ticketUnavailable)
  | .ok session =>
      if session.openedAt ≠ none ∨ session.closedAt ≠ none ∨ ¬openedAt < session.expiresAt then
        return .error (.sentinel .ticketUnavailable)
      else
        match ← call (.openSession session.id openedAt) with
        | .error failure => return .error failure
        | .ok affected =>
            if affected.length ≠ 1 then return .error (.sentinel .ticketUnavailable)
            else return .ok { session with openedAt := some openedAt, result := .active }

namespace Panel

variable (panel : Panel)

/-- What `open` does once it has a connection to the browser. -/
def serve (session : Session) (target : URL) (openedAt : Instant) : Process Unit := do
  let result ← panel.proxy target
  let closedAt ← call .now
  let _ ← call (.closeSession session.id result closedAt)
  let _ ← appendAudit session.id (text "console_session_closed") [] []
    [(text "duration_seconds", integerText ((closedAt - openedAt).tdiv 1000000000)),
      (text "mode", session.mode.value), (text "result", result.value)]
  return ()

/-- `WebSocketGateway.open`: what is left of the request once it does not become
a WebSocket. -/
def open_ (ticket : GoString) : Process (Option (Nat × GoString)) := do
  let openedAt ← call .now
  match ← consumeTicket (sha256 ticket) openedAt with
  | .error _ => return some (401, text "Console ticket is unavailable")
  | .ok session =>
      match ← call (.take session.id) with
      | none =>
          let closedAt ← call .now
          let _ ← call (.closeSession session.id .failed closedAt)
          return some (410, text "Console target is unavailable")
      | some target =>
          match ← call .accept with
          | .error _ =>
              let closedAt ← call .now
              let _ ← call (.closeSession session.id .failed closedAt)
              return none
          | .ok () =>
              panel.serve session target openedAt
              return none

end Panel

/-! ## The process -/

inductive Task where
  | createEmbedded (serverID requestID sourceIP : GoString)
  | open_ (ticket : GoString)
  | close (id : GoString) (result : Result)
  | backup
  | restore (archive : Nat)
  deriving DecidableEq, Repr

def Panel.program (panel : Panel) : Task → Process Unit
  | .createEmbedded serverID requestID sourceIP => do
      let _ ← panel.createEmbedded serverID requestID sourceIP
      return ()
  | .open_ ticket => do
      let _ ← panel.open_ ticket
      return ()
  | .close id result => do
      let closedAt ← call .now
      let _ ← call (.closeSession id result closedAt)
      return ()
  | .backup => do
      let _ ← call .backup
      return ()
  | .restore archive => do
      let _ ← call (.restore archive)
      return ()

/-- The process: a restart loses the targets in memory. -/
def Panel.system (panel : Panel) (db : Database) : System Call Call.Reply State Task Unit Choice where
  program := panel.program
  perform _ := perform db
  external _ _ := none
  restart state := { state with targets := fun _ => none }

abbrev ConsoleConfig := Config Call Call.Reply State Task Unit

abbrev ConsoleLabel := Label Call Call.Reply Task Choice

end NodeAtlas.Console
