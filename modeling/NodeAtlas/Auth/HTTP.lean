import NodeAtlas.Auth.Service
import NodeAtlas.URL

/-! The routes of the application, as far as the guards in front of their
handlers go. -/

set_option autoImplicit false

namespace NodeAtlas.Auth

open Interleaving

def sessionCookieName : GoString := text "controlpanel_session"

def csrfCookieName : GoString := text "controlpanel_csrf"

/-- A request. `credentials` is what `decodeJSON` makes of the body for the
handlers that read two texts from it. -/
structure Request where
  method : GoString
  path : GoString
  host : GoString
  headers : List (GoString × GoString)
  cookies : List (GoString × GoString)
  credentials : Except GoError (GoString × GoString)

/-- `Header.Get`: the first value, or the empty string. -/
def Request.header (request : Request) (name : GoString) : GoString :=
  match request.headers.find? fun header => header.1 = name with
  | some header => header.2
  | none => []

/-- `Request.Cookie`: the first cookie of that name. -/
def Request.cookie (request : Request) (name : GoString) : Option GoString :=
  (request.cookies.find? fun cookie => cookie.1 = name).map (·.2)

/-- The methods that a request may have without being taken for a mutation. -/
def Request.safe (request : Request) : Bool :=
  request.method = text "GET" || request.method = text "HEAD" || request.method = text "OPTIONS"

/-- A cookie that a response sets; `expires` is a whole second. -/
structure Cookie where
  name : GoString
  value : GoString
  expires : Instant
  httpOnly : Bool
  secure : Bool
  deriving DecidableEq, Repr

structure Response where
  status : Nat
  error : Option (GoString × GoString)
  user : Option User
  requiresSetup : Option Bool
  cookies : List Cookie

def Response.plain (status : Nat) : Response := ⟨status, none, none, none, []⟩

def Response.failed (status : Nat) (code message : String) : Response :=
  { Response.plain status with error := some (text code, text message) }

/-- What handlers find in the context of a request with a session. -/
structure RequestAuth extends AuthenticatedSession where
  rawToken : GoString

/-- The auth service behind its HTTP handler. `literal` is which texts the
standard library reads as IPv6 addresses. -/
structure Site where
  service : Service
  publicOrigin : GoString
  secureCookies : Bool
  literal : GoString → Bool

namespace Site

variable (site : Site)

/-- The `Expires` attribute of a cookie has no fraction of a second. -/
def cookieExpires (at_ : Instant) : Instant := at_ - at_ % 1000000000

def setAuthCookies (grant : SessionGrant) : List Cookie :=
  [⟨sessionCookieName, grant.sessionToken, cookieExpires grant.expiresAt, true, site.secureCookies⟩,
    ⟨csrfCookieName, grant.csrfToken, cookieExpires grant.expiresAt, false, site.secureCookies⟩]

def clearAuthCookies : List Cookie :=
  [sessionCookieName, csrfCookieName].map fun name =>
    ⟨name, [], 1000000000, name = sessionCookieName, site.secureCookies⟩

def unauthenticated : Response :=
  .failed 401 "unauthenticated" "Authentication is required"

/-! ## Guards -/

def requireSession (request : Request) (next : RequestAuth → Process Response) :
    Process Response :=
  match request.cookie sessionCookieName with
  | none => return unauthenticated
  | some rawToken => do
      match ← site.service.authenticate rawToken with
      | .error _ => return { unauthenticated with cookies := site.clearAuthCookies }
      | .ok authenticated => next ⟨authenticated, rawToken⟩

def originMatchesRequest (origin : GoString) (request : Request) : Bool :=
  match URL.parse site.literal origin with
  | none => false
  | some parsed =>
      (parsed.scheme = text "http" || parsed.scheme = text "https") && parsed.host = request.host

/-- What `requireOrigin` answers with, if it does not let a request pass. -/
def originFailure (request : Request) : Option Response :=
  let origin := request.header (text "Origin")
  if origin ≠ [] then
    if (site.publicOrigin ≠ [] && origin ≠ site.publicOrigin) ||
        (site.publicOrigin = [] && !site.originMatchesRequest origin request) then
      some (.failed 403 "origin_rejected" "Request origin is not allowed")
    else none
  else if fold (request.header (text "Sec-Fetch-Site")) ≠ text "same-origin" then
    some (.failed 403 "origin_required" "Request origin is required")
  else none

def requireOrigin (request : Request) (next : Process Response) : Process Response :=
  match site.originFailure request with
  | some response => return response
  | none => next

/-- The token of the header, the cookie and the session are one. -/
def csrfValid (request : Request) (session : Session) : Bool :=
  let rawToken := request.header (text "X-CSRF-Token")
  rawToken ≠ [] && request.cookie csrfCookieName = some rawToken &&
    sha256 rawToken = session.csrfHash

def requireCSRF (request : Request) (authenticated : RequestAuth) (next : Process Response) :
    Process Response :=
  if csrfValid request authenticated.session then next
  else return .failed 403 "csrf_rejected" "CSRF validation failed"

def requireMutationSecurity (request : Request) (authenticated : RequestAuth)
    (next : Process Response) : Process Response :=
  if request.safe then next
  else site.requireOrigin request (requireCSRF request authenticated next)

/-! ## Handlers -/

/-- A handler of another package. -/
def foreign (handler : Handler) : Process Response := do
  let _ ← call (.enter handler)
  return .plain (← call (.respond handler))

def setupStatus : Process Response := do
  let _ ← call (.enter .setupStatus)
  match ← Service.setupStatus with
  | .error _ => return .failed 500 "internal_error" "Unable to check setup status"
  | .ok initialized => return { Response.plain 200 with requiresSetup := some (!initialized) }

def signIn (username password : GoString) (status : Nat) (failure : Response) :
    Process Response := do
  match ← site.service.login username password with
  | .error _ => return failure
  | .ok grant =>
      return { Response.plain status with
        user := some grant.user, cookies := site.setAuthCookies grant }

def setup (request : Request) : Process Response := do
  let _ ← call (.enter .setup)
  match request.credentials with
  | .error _ => return .failed 400 "invalid_request" "Request body is invalid"
  | .ok (username, password) =>
      match ← site.service.initializeUser username password with
      | .error failure =>
          if failure.is .alreadyInitialized then
            return .failed 409 "already_initialized" "Administrator is already initialized"
          else return .failed 400 "invalid_setup" "Administrator settings are invalid"
      | .ok () =>
          site.signIn username password 201
            (.failed 500 "internal_error" "Administrator was created but login failed")

def login (request : Request) : Process Response := do
  let _ ← call (.enter .login)
  match request.credentials with
  | .error _ => return .failed 400 "invalid_request" "Request body is invalid"
  | .ok (username, password) =>
      site.signIn username password 200
        (.failed 401 "invalid_credentials" "Username or password is invalid")

def me (authenticated : RequestAuth) : Process Response := do
  let _ ← call (.enter .me)
  return { Response.plain 200 with user := some authenticated.user }

def logout (authenticated : RequestAuth) : Process Response := do
  let _ ← call (.enter .logout)
  match ← Service.logout authenticated.rawToken with
  | .error _ => return .failed 500 "internal_error" "Unable to log out"
  | .ok () => return { Response.plain 204 with cookies := site.clearAuthCookies }

def changePassword (request : Request) (authenticated : RequestAuth) : Process Response := do
  let _ ← call (.enter .changePassword)
  match request.credentials with
  | .error _ => return .failed 400 "invalid_request" "Request body is invalid"
  | .ok (currentPassword, newPassword) =>
      match ← site.service.changePassword authenticated.rawToken currentPassword newPassword with
      | .error failure =>
          if failure.is .invalidCurrentPassword then
            return .failed 400 "invalid_current_password" "Current password is invalid"
          else return .failed 400 "invalid_password" "New password is invalid"
      | .ok () => return .plain 204

/-! ## Routes -/

/-- What is left of a path below a mounted prefix. -/
def mounted (pattern path : GoString) : Option GoString :=
  if path = pattern then some (text "/")
  else if (pattern ++ text "/").isPrefixOf path then some (path.drop pattern.length)
  else none

def knownMethods : List GoString :=
  [text "CONNECT", text "DELETE", text "GET", text "HEAD", text "OPTIONS", text "PATCH",
    text "POST", text "PUT", text "TRACE"]

/-- `NewHTTPHandler`. A path with another method goes to the mounted wildcard. -/
def serveAuth (request : Request) (path : GoString) : Process Response :=
  let at_ (method : String) (pattern : String) : Bool :=
    request.method = text method && path = text pattern
  if at_ "GET" "/setup/status" then setupStatus
  else if at_ "POST" "/setup/initialize" then site.requireOrigin request (site.setup request)
  else if at_ "POST" "/auth/login" then site.requireOrigin request (site.login request)
  else site.requireSession request fun authenticated =>
    if at_ "GET" "/auth/me" then me authenticated
    else if at_ "POST" "/auth/logout" then
      site.requireOrigin request (requireCSRF request authenticated (site.logout authenticated))
    else if at_ "PUT" "/auth/password" then
      site.requireOrigin request
        (requireCSRF request authenticated (site.changePassword request authenticated))
    else site.requireMutationSecurity request authenticated (foreign .feature)

/-- `NewRouter`, as `compose` puts it together. -/
def serveHTTP (request : Request) : Process Response :=
  if request.method ∉ knownMethods then return .plain 405
  else if request.method = text "GET" ∧ request.path = text "/health/live" then foreign .live
  else if request.method = text "GET" ∧ request.path = text "/health/ready" then foreign .ready
  else
    match mounted (text "/api/v1") request.path with
    | some path => site.serveAuth request path
    | none =>
        match mounted (text "/ws") request.path with
        | some _ => site.requireSession request fun _ => foreign .gateway
        | none => foreign .frontend

end Site

/-- A site as the application composes it. -/
def panel : Site :=
  ⟨⟨.standard, id⟩, text "https://panel.example.test", true, fun _ => false⟩

end NodeAtlas.Auth
