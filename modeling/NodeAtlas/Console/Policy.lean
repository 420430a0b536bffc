import NodeAtlas.Console.Calls

/-! Which targets a console may have, and how they are dialled. -/

set_option autoImplicit false

namespace NodeAtlas.Console

open Interleaving

def errTargetRejected : GoError := .sentinel .targetRejected

def errTargetUnavailable : GoError := .sentinel .targetUnavailable

/-- The HTTP client of a WebSocket dial, as far as its transport goes: the
target and the port that connections must have. -/
structure WebSocketClient where
  target : URL
  port : GoString

structure TargetPolicy where
  allowedPrivateCIDRs : List IPNet
  allowMockTransport : Bool

def validateURLShape (target : URL) : Bool :=
  trimSpace target.hostname ≠ [] && target.user = none && target.fragment = []

def validateRawTarget (target : URL) : Bool :=
  validateURLShape target && target.scheme = text "vnc+tcp" && target.path = [] && target.rawPath = [] &&
    target.rawQuery = [] && !target.forceQuery && target.opaque_ = [] && target.rawFragment = [] &&
    match splitHostPort target.host with
    | none => false
    | some (host, port) =>
        trimSpace host ≠ [] && port ≠ [] && port.all isDigit && 1 ≤ atoi port && atoi port ≤ 65535

/-- What stands for an address in the text of a dial. -/
def addressText : Option IP → GoString
  | none => text "<nil>"
  | some address => address.string

namespace TargetPolicy

variable (library : NetLibrary) (policy : TargetPolicy)

def addressAllowed (address : Option IP) : Bool :=
  IP.allowed false policy.allowedPrivateCIDRs address

def lookUp (host : GoString) : Process (Except GoError (List (Option IP))) :=
  match library.parseIP host with
  | some literal => return .ok [some literal]
  | none => call (.lookup host)

def resolveAllowed (host : GoString) : Process (Except GoError (List (Option IP))) := do
  match ← lookUp library host with
  | .error _ => return .error errTargetRejected
  | .ok addresses =>
      if addresses = [] then return .error errTargetRejected
      else if addresses.all policy.addressAllowed then return .ok addresses
      else return .error errTargetRejected

def validateNetworkTarget (target : URL) : Process (Except GoError Unit) :=
  if validateURLShape target = false then return .error errTargetRejected
  else do
    match ← policy.resolveAllowed library target.hostname with
    | .error failure => return .error failure
    | .ok _ => return .ok ()

def validateEmbedded (target : URL) : Process (Except GoError Unit) :=
  if target.scheme = text "vnc+tcp" then
    if validateRawTarget target = false then return .error errTargetRejected
    else policy.validateNetworkTarget library target
  else if target.scheme = text "mock+ws" ∧ policy.allowMockTransport = true ∧
      target.hostname = text "console" then
    return (if validateURLShape target then .ok () else .error errTargetRejected)
  else if target.scheme ≠ text "wss" then return .error errTargetRejected
  else policy.validateNetworkTarget library target

def validateExternal (target : Option URL) : Process (Except GoError Unit) :=
  match target with
  | none => return .error errTargetRejected
  | some target =>
      if target.scheme ≠ text "https" then return .error errTargetRejected
      else policy.validateNetworkTarget library target

/-- The loop of `dialAllowed`: the addresses in turn, until one connection
stands or the time is over. -/
def dialEach (port : GoString) : List (Option IP) → Process (Except GoError Unit)
  | [] => return .error errTargetUnavailable
  | address :: rest => do
      if ← call .expired then return .error errTargetUnavailable
      else
        match ← call (.dial (text "tcp") (joinHostPort (addressText address) port)) with
        | .ok () => return .ok ()
        | .error _ => dialEach port rest

def dialAllowed (host port : GoString) : Process (Except GoError Unit) := do
  let () ← call (.dialAllowed host port)
  match ← policy.resolveAllowed library host with
  | .error failure => return .error failure
  | .ok addresses => dialEach port addresses

def dialTCP (target : URL) : Process (Except GoError Unit) :=
  if validateRawTarget target = false then return .error errTargetRejected
  else policy.dialAllowed library target.hostname target.port

def webSocketClient (target : URL) : Process (Except GoError WebSocketClient) :=
  if target.scheme ≠ text "wss" ∨ target.opaque_ ≠ [] then return .error errTargetRejected
  else do
    match ← policy.validateEmbedded library target with
    | .error failure => return .error failure
    | .ok () =>
        let port := if target.port = [] then text "443" else target.port
        if atoi port < 1 ∨ 65535 < atoi port ∨ itoa (atoi port) ≠ port then
          return .error errTargetRejected
        else return .ok ⟨target, port⟩

/-- The `DialContext` of that client. -/
def dialContext (client : WebSocketClient) (address : GoString) : Process (Except GoError Unit) :=
  match splitHostPort address with
  | none => return .error errTargetRejected
  | some (host, dialPort) =>
      if library.equalFold host client.target.hostname = false ∨ dialPort ≠ client.port then
        return .error errTargetRejected
      else policy.dialAllowed library host dialPort

/-- The connections that a WebSocket dial wants, one after the other. -/
def dialAll (client : WebSocketClient) : List (GoString × GoString) → Process Unit
  | [] => return ()
  | (_, address) :: rest => do
      let _ ← policy.dialContext library client address
      dialAll client rest

end TargetPolicy

end NodeAtlas.Console
