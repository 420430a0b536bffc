import NodeAtlas.Digest

/-! The administrator and the sessions. -/

set_option autoImplicit false

namespace NodeAtlas.Auth

structure User where
  id : GoString
  username : GoString
  normalizedUsername : GoString
  passwordHash : GoString
  initializedAt : Instant
  lastLoginAt : Option Instant
  deriving DecidableEq, Repr

structure Session where
  tokenHash : GoString
  csrfHash : GoString
  userID : GoString
  expiresAt : Instant
  absoluteExpiresAt : Instant
  lastSeenAt : Instant
  createdAt : Instant
  deriving DecidableEq, Repr

structure SessionGrant where
  sessionToken : GoString
  csrfToken : GoString
  expiresAt : Instant
  user : User
  deriving DecidableEq, Repr

structure AuthenticatedSession where
  user : User
  session : Session
  deriving DecidableEq, Repr

def hour : Duration := 3600000000000

/-- `ServiceOptions` once the defaults are filled in. -/
structure ServiceOptions where
  idleTTL : Duration
  absoluteTTL : Duration
  touchInterval : Duration

/-- `NewService` with no options, as the application composes it. -/
def ServiceOptions.standard : ServiceOptions where
  idleTTL := 12 * hour
  absoluteTTL := 7 * 24 * hour
  touchInterval := hour / 12

/-- A new session, from its two random values, at an instant. -/
def ServiceOptions.session (options : ServiceOptions) (sessionToken csrfToken userID : GoString)
    (now : Instant) : Session where
  tokenHash := sha256 sessionToken
  csrfHash := sha256 csrfToken
  userID := userID
  expiresAt := now + options.idleTTL
  absoluteExpiresAt := now + options.absoluteTTL
  lastSeenAt := now
  createdAt := now

end NodeAtlas.Auth
