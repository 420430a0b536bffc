import NodeAtlas.Interleaving.Traces
import NodeAtlas.Net

/-! The address policy of the providers and the HTTP client that obeys it. -/

set_option autoImplicit false

namespace NodeAtlas.Network

open Interleaving

/-- What the upstream makes of a request. A redirect comes with the URL that
its `Location` resolves to. -/
inductive Answer where
  | response (status : Nat)
  | redirect (url : URL)
  | failed (failure : GoError)

/-- `connections` are the addresses for which the transport wants a connection
before it sends a request, each with its network, and `connect` marks that its
`DialContext` is called. -/
inductive Call where
  | lookup (host : GoString)
  | connections (url : URL)
  | connect (network address : GoString)
  | dial (network address : GoString)
  | send (url : URL)

@[reducible] def Call.Reply : Call → Type
  | .lookup _ => Except GoError (List (Option IP))
  | .connections _ => List (GoString × GoString)
  | .connect _ _ => Unit
  | .dial _ _ => Except GoError Unit
  | .send _ => Answer

abbrev Process (Outcome : Type) := Program Call Call.Reply Outcome

abbrev NetEvent := Event Call Call.Reply

def call (request : Call) : Process request.Reply := .perform request

/-- The resolver, the network and the upstream may reply with anything. -/
def answer (call : Call) (choice : (call : Call) → call.Reply) (state : Unit) :
    Option (call.Reply × Unit) :=
  some (choice call, state)

def plainError (message : String) : GoError := .plain (text message)

/-- `ErrAddressRejected` -/
def errAddressRejected : GoError := plainError "provider network address rejected"

structure Policy where
  allowedPrivateCIDRs : List IPNet
  allowLoopback : Bool

variable (library : NetLibrary)

namespace Policy

variable (policy : Policy)

def addressAllowed (address : Option IP) : Bool :=
  IP.allowed policy.allowLoopback policy.allowedPrivateCIDRs address

def lookUp (host : GoString) : Process (Except GoError (List (Option IP))) :=
  match library.parseIP host with
  | some literal => return .ok [some literal]
  | none => do
      match ← call (.lookup host) with
      | .error failure => return .error (.wrapped (text "resolve provider network host") failure)
      | .ok addresses => return .ok addresses

def resolveAllowed (host : GoString) : Process (Except GoError (List (Option IP))) :=
  if trimSpace host = [] then return .error (plainError "provider network host is required")
  else do
    match ← lookUp library (trimSpace host) with
    | .error failure => return .error failure
    | .ok addresses =>
        if addresses = [] then
          return .error (plainError "provider network host resolved without addresses")
        else if addresses.all policy.addressAllowed then return .ok addresses
        else return .error errAddressRejected

def validate (target : URL) : Process (Except GoError Unit) :=
  if target.hostname = [] then return .error (plainError "provider network URL must include a host")
  else do
    match ← policy.resolveAllowed library target.hostname with
    | .error failure => return .error failure
    | .ok _ => return .ok ()

end Policy

def effectivePort (target : URL) : GoString :=
  if target.port ≠ [] then target.port
  else if lower target.scheme = text "https" ∨ lower target.scheme = text "wss" then text "443"
  else if lower target.scheme = text "http" ∨ lower target.scheme = text "ws" then text "80"
  else []

/-- The consoles of a panel have its port by default as well. -/
theorem effectivePort_wss {panel : URL} (https : panel.scheme = text "https") (path rawQuery : GoString) :
    effectivePort { panel with scheme := text "wss", path, rawQuery } = effectivePort panel := by
  have wss : lower (text "wss") = text "wss" := by decide
  have secure : lower (text "https") = text "https" := by decide
  have port : ({ panel with scheme := text "wss", path, rawQuery } : URL).port = panel.port := rfl
  unfold effectivePort
  simp only [port, https, wss, secure, true_or, or_true, if_true]

def sameOrigin (left right : URL) : Bool :=
  library.equalFold left.scheme right.scheme && library.equalFold left.hostname right.hostname &&
    effectivePort left = effectivePort right

/-- The text of an address; the resolver's answers can have no address at all. -/
def addressText : Option IP → GoString
  | none => text "<nil>"
  | some address => address.string

/-- The addresses in turn, until one connection stands. -/
def dialEach (network port : GoString) : List (Option IP) → Option GoError →
    Process (Except GoError Unit)
  | [], lastErr =>
      return .error (lastErr.getD (plainError "provider network host resolved without addresses"))
  | resolved :: rest, _ => do
      match ← call (.dial network (joinHostPort (addressText resolved) port)) with
      | .ok () => return .ok ()
      | .error dialErr => dialEach network port rest (some dialErr)

/-- The `DialContext` of the transport. -/
def dialContext (policy : Policy) (network address : GoString) : Process (Except GoError Unit) := do
  let () ← call (.connect network address)
  match splitHostPort address with
  | none => return .error (plainError "invalid provider network address")
  | some (host, port) =>
      match ← policy.resolveAllowed library host with
      | .error failure => return .error failure
      | .ok addresses => dialEach network port addresses none

/-- The connections that the transport wants, one after the other. -/
def dialAll (policy : Policy) : List (GoString × GoString) → Process Unit
  | [] => return ()
  | (network, address) :: rest => do
      let _ ← dialContext library policy network address
      dialAll policy rest

/-- What `NewHTTPClient` builds; adapters replace `checkRedirect`, which sees
the URL of the next request and the number of requests before it. -/
structure HTTPClient where
  policy : Policy
  allowHTTP : Bool
  checkRedirect : URL → Nat → Process (Except GoError Unit)

def newHTTPClient (policy : Policy) (origin : URL) (allowHTTP : Bool) : HTTPClient where
  policy := policy
  allowHTTP := allowHTTP
  checkRedirect url _ :=
    if url.scheme ≠ text "https" ∧ ¬(allowHTTP = true ∧ url.scheme = text "http") then
      return .error (plainError "provider redirect changed protocol")
    else if sameOrigin library url origin = false then
      return .error (plainError "provider cross-origin redirect rejected")
    else policy.validate library url

namespace HTTPClient

variable (client : HTTPClient)

/-- `validatingTransport.RoundTrip` -/
def roundTrip (url : URL) : Process Answer :=
  if url.scheme ≠ text "https" ∧ ¬(client.allowHTTP = true ∧ url.scheme = text "http") then
    return .failed (plainError "provider request must use HTTPS")
  else do
    dialAll library client.policy (← call (.connections url))
    call (.send url)

/-- `http.Client.Do`: a request and the redirects behind it, as many as the
bound says at most. -/
def follow : Nat → Nat → URL → Process Unit
  | 0, _, _ => return ()
  | bound + 1, via, url => do
      match ← client.roundTrip library url with
      | .redirect next =>
          match ← client.checkRedirect next (via + 1) with
          | .error _ => return ()
          | .ok () => follow bound (via + 1) next
      | _ => return ()

end HTTPClient

end NodeAtlas.Network
