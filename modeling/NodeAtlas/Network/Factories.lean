import NodeAtlas.JSON.Decode
import NodeAtlas.Network.Client
import NodeAtlas.Providers

/-! The factories of the VirtFusion, Virtualizor and SolusVM 2 adapters, and
how their providers send requests. -/

set_option autoImplicit false

namespace NodeAtlas.Network

open Interleaving Providers

/-- What `encoding/json` reads from settings and credentials: nothing where a
text is no value of the expected form. -/
structure Decoders where
  pageSize : GoString → Option Int
  empty : GoString → Bool
  token : GoString → Option GoString
  apiToken : GoString → Option GoString
  keyAndPassword : GoString → Option (GoString × GoString)

/-- `decodeStrictObject` of the SolusVM 2 adapter. -/
def decodeStrictObject {T : Type} (fields : List (JSON.Field T)) (zero : T) (raw : GoString) : Option T :=
  let raw := trimSpace raw
  if raw.head? = some (byte '\x7b') then JSON.decodeStrict fields zero raw else none

/-- The decoders of the adapters. -/
def jsonDecoders : Decoders where
  pageSize := JSON.decodeStrict [.part "page_size" id (fun _ size => size) JSON.asInt] 0
  empty raw := (decodeStrictObject [] () raw).isSome
  token := JSON.decodeStrict [.part "token" id (fun _ token => token) JSON.asString] []
  apiToken := decodeStrictObject [.part "api_token" id (fun _ token => token) JSON.asString] []
  keyAndPassword := JSON.decodeStrict [.part "api_key" Prod.fst (fun pair key => (key, pair.2)) JSON.asString,
    .part "api_password" Prod.snd (fun pair password => (pair.1, password)) JSON.asString] ([], [])

/-- `NewFactory` leaves all but the networks off; tests do not. -/
structure FactoryOptions where
  allowedPrivateCIDRs : List IPNet
  allowLoopback : Bool := false
  allowHTTP : Bool := false

structure Provider where
  apiBase : URL
  client : HTTPClient

def invalidConfig (message : String) : GoError :=
  .provider ⟨.invalidConfig, text message, false⟩

variable (library : NetLibrary) (decoders : Decoders) (options : FactoryOptions)
  (config : ConnectionConfig)

def FactoryOptions.policy : Policy := ⟨options.allowedPrivateCIDRs, options.allowLoopback⟩

/-- A port in plain decimal, or one that `Atoi` takes if it need not be plain. -/
def validPort (plain : Bool) (port : GoString) : Bool :=
  port = [] || (1 ≤ atoi port && atoi port ≤ 65535 && (!plain || itoa (atoi port) = port))

/-- The end of all factories: the endpoint is resolved once before it is used. -/
def established (panel : URL) (refusal : GoError) (provider : Provider) :
    Process (Except GoError Provider) := do
  match ← options.policy.validate library panel with
  | .error _ => return .error refusal
  | .ok () => return .ok provider

namespace VirtFusion

def trimSlash (path : GoString) : GoString :=
  if path.getLast? = some (byte '/') then path.dropLast else path

def normalizeEndpoint (raw : GoString) (allowHTTP : Bool) : Except GoError (URL × URL) :=
  match URL.parse library.literal (trimSpace raw) with
  | none => .error (plainError "VirtFusion endpoint must be an absolute control-panel URL")
  | some parsed =>
      if parsed.host = [] ∨ parsed.user ≠ none ∨ parsed.rawQuery ≠ [] ∨ parsed.fragment ≠ [] then
        .error (plainError "VirtFusion endpoint must be an absolute control-panel URL")
      else if parsed.scheme ≠ text "https" ∧ ¬(allowHTTP = true ∧ parsed.scheme = text "http") then
        .error (plainError "VirtFusion endpoint must use HTTPS")
      else if trimSlash parsed.path = text "/api/v1" then
        .error (plainError "VirtFusion requires a User API endpoint, not /api/v1")
      else if trimSlash parsed.path ≠ [] ∧ trimSlash parsed.path ≠ text "/api" then
        .error (plainError "VirtFusion endpoint must be the control-panel origin or end with /api")
      else .ok ({ parsed with path := [] }, { parsed with path := text "/api" })

def create : Process (Except GoError Provider) :=
  if trimSpace config.id = [] then return .error (plainError "VirtFusion connection ID is required")
  else
    match decoders.pageSize (if config.settings = [] then text "{}" else config.settings) with
    | none => return .error (plainError "invalid VirtFusion settings")
    | some pageSize =>
        if pageSize < 0 ∨ 200 < pageSize then
          return .error (plainError "VirtFusion legacy page_size must be between 0 and 200")
        else if ((decoders.token config.credentials).all fun token => trimSpace token = []) then
          return .error (plainError "invalid VirtFusion credentials")
        else
          match normalizeEndpoint library config.endpoint options.allowHTTP with
          | .error failure => return .error failure
          | .ok (portal, api) =>
              established library options portal (plainError "VirtFusion endpoint is not allowed")
                ⟨api, newHTTPClient library options.policy portal options.allowHTTP⟩

end VirtFusion

namespace Virtualizor

def normalizeEndpoint (raw : GoString) : Except GoError URL :=
  let refusal := invalidConfig
    "Virtualizor endpoint must be an absolute HTTPS origin without userinfo, query, or fragment"
  match URL.parse library.literal (trimSpace raw) with
  | none => .error refusal
  | some panel =>
      if panel.scheme ≠ text "https" ∨ panel.hostname = [] ∨ panel.user ≠ none ∨ panel.opaque_ ≠ [] ∨
          panel.rawQuery ≠ [] ∨ panel.forceQuery = true ∨ byte '#' ∈ raw ∨
          (panel.path ≠ [] ∧ panel.path ≠ text "/") ∨ panel.rawPath ≠ [] then .error refusal
      else if validPort false panel.port = false then
        .error (invalidConfig "invalid Virtualizor endpoint port")
      else .ok { panel with path := text "/index.php" }

/-- Redirects are bounded, and must not have userinfo. -/
def checkRedirect (panel url : URL) (via : Nat) : Process (Except GoError Unit) :=
  if 10 ≤ via ∨ url.user ≠ none ∨ sameOrigin library panel url = false then
    return .error (plainError "Virtualizor redirect rejected")
  else options.policy.validate library url

def create : Process (Except GoError Provider) :=
  if trimSpace config.id = [] then return .error (invalidConfig "Virtualizor connection ID is required")
  else if ((decoders.keyAndPassword config.credentials).all fun (apiKey, apiPassword) =>
      trimSpace apiKey = [] ∨ trimSpace apiPassword = []) then
    return .error (invalidConfig "invalid Virtualizor credentials")
  else
    match normalizeEndpoint library config.endpoint with
    | .error failure => return .error failure
    | .ok panel =>
        established library options panel (invalidConfig "Virtualizor endpoint is not allowed")
          ⟨panel, { newHTTPClient library options.policy panel false with
            checkRedirect := checkRedirect library options panel }⟩

end Virtualizor

namespace SolusVM2

def validToken (token : GoString) : Bool :=
  token ≠ [] && token.length ≤ 8192 && token.all fun each => 32 < each && each < 127

def normalizeEndpoint (raw : GoString) : Except GoError (URL × URL) :=
  let refusal := invalidConfig
    "SolusVM 2 endpoint must be an absolute HTTPS panel origin or API v1 root"
  match URL.parse library.literal (trimSpace raw) with
  | none => .error refusal
  | some parsed =>
      if parsed.scheme ≠ text "https" ∨ parsed.hostname = [] ∨ parsed.opaque_ ≠ [] ∨ parsed.user ≠ none ∨
          parsed.rawQuery ≠ [] ∨ parsed.forceQuery = true ∨ byte '#' ∈ raw ∨ parsed.rawPath ≠ [] ∨
          byte '%' ∈ parsed.hostname ∨ parsed.host.getLast? = some (byte ':') then .error refusal
      else if parsed.path ∉ [[], text "/", text "/api/v1", text "/api/v1/"] then
        .error (invalidConfig "invalid SolusVM 2 endpoint path")
      else if validPort true parsed.port = false then
        .error (invalidConfig "invalid SolusVM 2 endpoint port")
      else .ok ({ parsed with path := text "/" }, { parsed with path := text "/api/v1" })

/-- Beyond the origin, redirects must not have userinfo or a fragment. -/
def checkRedirect (panel url : URL) (via : Nat) : Process (Except GoError Unit) :=
  if 10 ≤ via ∨ url.user ≠ none ∨ url.fragment ≠ [] ∨ url.scheme ≠ text "https" ∨
      sameOrigin library panel url = false then
    return .error (plainError "SolusVM 2 redirect rejected")
  else options.policy.validate library url

def create : Process (Except GoError Provider) :=
  if trimSpace config.id = [] then return .error (invalidConfig "SolusVM 2 connection ID is required")
  else if decoders.empty (if config.settings = [] then text "{}" else config.settings) = false then
    return .error (invalidConfig "invalid SolusVM 2 settings")
  else if ((decoders.apiToken config.credentials).all fun token => !validToken token) then
    return .error (invalidConfig "invalid SolusVM 2 credentials")
  else
    match normalizeEndpoint library config.endpoint with
    | .error failure => return .error failure
    | .ok (panel, api) =>
        established library options panel (invalidConfig "SolusVM 2 endpoint is not allowed")
          ⟨api, { newHTTPClient library options.policy panel false with
            checkRedirect := checkRedirect library options panel }⟩

end SolusVM2

inductive ProviderType where
  | virtFusion
  | virtualizor
  | solusVM2
  deriving DecidableEq, Repr

/-- `Factory.Create` of an adapter. -/
def create : ProviderType → Process (Except GoError Provider)
  | .virtFusion => VirtFusion.create library decoders options config
  | .virtualizor => Virtualizor.create library decoders options config
  | .solusVM2 => SolusVM2.create library decoders options config

/-- What `http.NewRequest` does to the host. -/
def removeEmptyPort (host : GoString) : GoString :=
  match cutLast (byte ':') host with
  | (before, some []) => before
  | _ => host

/-- The `request` methods: they give the API root their path and query, and
`http.NewRequest` parses the text of it. -/
def Provider.request (provider : Provider) (path rawQuery : GoString) (bound : Nat) : Process Unit :=
  match URL.parse library.literal { provider.apiBase with path := path, rawQuery := rawQuery }.string with
  | none => return ()
  | some url => provider.client.follow library bound 0 { url with host := removeEmptyPort url.host }

/-- Requests of one provider, each with a bound on its redirects. -/
def Provider.requests (provider : Provider) : List (GoString × GoString × Nat) → Process Unit
  | [] => return ()
  | (path, rawQuery, bound) :: rest => do
      provider.request library path rawQuery bound
      provider.requests rest

/-- A provider is created, and used if that succeeds. -/
def operate (kind : ProviderType) (asked : List (GoString × GoString × Nat)) : Process Unit := do
  match ← create library decoders options config kind with
  | .error _ => return ()
  | .ok provider => provider.requests library asked

end NodeAtlas.Network
