import NodeAtlas.Auth.Calls

/-! `Service` of the auth package. -/

set_option autoImplicit false

namespace NodeAtlas.Auth

open Interleaving

/-- `normalizeUsername` trims and lowers a name by the tables of Unicode. -/
structure Service where
  options : ServiceOptions
  normalizeUsername : GoString → GoString

namespace Service

variable (service : Service)

def setupStatus : Process (Except GoError Bool) := call .isInitialized

def initializeUser (username password : GoString) : Process (Except GoError Unit) := do
  let displayName := trimSpace username
  if displayName = [] || displayName.length > 255 then
    return .error (.plain (text "username must contain 1 to 255 bytes"))
  else
    match ← call (.hashPassword password) with
    | .error failure => return .error failure
    | .ok passwordHash =>
        let now ← call .now
        let id ← call .newID
        call (.initializeUser ⟨id, displayName, service.normalizeUsername displayName, passwordHash,
          now, none⟩)

def newSession (user : User) : Process (Except GoError (SessionGrant × Session)) := do
  match ← call .random with
  | .error failure => return .error failure
  | .ok rawSession =>
      match ← call .random with
      | .error failure => return .error failure
      | .ok rawCSRF =>
          let sessionToken := rawURLEncode rawSession
          let csrfToken := rawURLEncode rawCSRF
          let now ← call .now
          return .ok (⟨sessionToken, csrfToken, now + service.options.idleTTL, user⟩,
            service.options.session sessionToken csrfToken user.id now)

def login (username password : GoString) : Process (Except GoError SessionGrant) := do
  match ← call (.findUserByNormalizedUsername (service.normalizeUsername username)) with
  | .error failure =>
      return .error (if failure.is .sessionNotFound then .sentinel .invalidCredentials else failure)
  | .ok user =>
      match ← call (.verify user.passwordHash password) with
      | .error _ | .ok false => return .error (.sentinel .invalidCredentials)
      | .ok true =>
          match ← service.newSession user with
          | .error failure => return .error failure
          | .ok (grant, session) =>
              match ← call (.createSession session) with
              | .error failure => return .error failure
              | .ok () =>
                  let now ← call .now
                  match ← call (.updateLastLogin user.id now) with
                  | .error failure =>
                      let _ ← call (.deleteSession session.tokenHash)
                      return .error failure
                  | .ok () => return .ok grant

/-- The end of `Authenticate`: the session's expiry slides once it was last
seen a touch interval ago, up to its absolute limit. -/
def refresh (hash : GoString) (session : Session) (user : User) (now : Instant) :
    Process (Except GoError AuthenticatedSession) :=
  if now - session.lastSeenAt ≥ service.options.touchInterval then do
    let expiresAt := min (now + service.options.idleTTL) session.absoluteExpiresAt
    match ← call (.touchSession hash now expiresAt) with
    | .error failure => return .error failure
    | .ok () => return .ok ⟨user, { session with lastSeenAt := now, expiresAt := expiresAt }⟩
  else return .ok ⟨user, session⟩

/-- The part of `Authenticate` once the row is there; an expired one is deleted. -/
def check (hash : GoString) (session : Session) :
    Process (Except GoError AuthenticatedSession) := do
  let now ← call .now
  if session.expiresAt ≤ now ∨ session.absoluteExpiresAt ≤ now then
    let _ ← call (.deleteSession hash)
    return .error (.sentinel .invalidSession)
  else
    match ← call (.findUserByID session.userID) with
    | .error _ => return .error (.sentinel .invalidSession)
    | .ok user => service.refresh hash session user now

def authenticate (rawToken : GoString) : Process (Except GoError AuthenticatedSession) :=
  if rawToken = [] then return .error (.sentinel .invalidSession)
  else do
    let hash := sha256 rawToken
    match ← call (.findSessionByTokenHash hash) with
    | .error _ => return .error (.sentinel .invalidSession)
    | .ok session => service.check hash session

def logout (rawToken : GoString) : Process (Except GoError Unit) :=
  if rawToken = [] then return .ok ()
  else call (.deleteSession (sha256 rawToken))

def changePassword (rawToken currentPassword newPassword : GoString) :
    Process (Except GoError Unit) := do
  match ← service.authenticate rawToken with
  | .error failure => return .error failure
  | .ok authenticated =>
      match ← call (.verify authenticated.user.passwordHash currentPassword) with
      | .error _ | .ok false => return .error (.sentinel .invalidCurrentPassword)
      | .ok true =>
          match ← call (.hashPassword newPassword) with
          | .error failure => return .error failure
          | .ok encoded =>
              call (.updatePasswordAndRevokeSessions authenticated.user.id encoded
                authenticated.session.tokenHash)

end Service

/-! ## The service enters no handler -/

/-- A program that lets no handler run. -/
def Quiet {α : Type} : Process α → Prop
  | .done _ => True
  | .call request next => (∀ handler, request ≠ .enter handler) ∧ ∀ reply, Quiet (next reply)

theorem Quiet.bind {α β : Type} {program : Process α} {next : α → Process β}
    (quiet : Quiet program) (further : ∀ result, Quiet (next result)) : Quiet (program >>= next) := by
  induction program with
  | done result => exact further result
  | call asked continuation ih => exact ⟨quiet.1, fun reply => ih reply (quiet.2 reply)⟩

theorem quiet_call {α : Type} {asked : Call} {next : asked.Reply → Process α}
    (other : ∀ handler, asked ≠ .enter handler) (further : ∀ reply, Quiet (next reply)) :
    Quiet (.call asked next) :=
  ⟨other, further⟩

theorem refresh_quiet {service : Service} {hash : GoString} {session : Session}
    {user : User} {now : Instant} : Quiet (service.refresh hash session user now) := by
  unfold Service.refresh
  split
  · apply quiet_call
    · simp
    · intro reply
      cases reply <;> trivial
  · trivial

theorem authenticate_quiet {service : Service} {rawToken : GoString} :
    Quiet (service.authenticate rawToken) := by
  unfold Service.authenticate
  split
  · trivial
  · apply quiet_call
    · simp
    · intro reply
      cases reply with
      | error failure => trivial
      | ok session =>
          apply quiet_call
          · simp
          · intro now
            dsimp only [Program.bind]
            split
            · apply quiet_call
              · simp
              · intro reply
                trivial
            · apply quiet_call
              · simp
              · intro reply
                cases reply with
                | error failure => trivial
                | ok user => exact refresh_quiet

theorem newSession_quiet {service : Service} {user : User} :
    Quiet (service.newSession user) := by
  apply quiet_call
  · simp
  · intro drawn
    cases drawn with
    | error failure => trivial
    | ok rawSession =>
        apply quiet_call
        · simp
        · intro drawn
          cases drawn with
          | error failure => trivial
          | ok rawCSRF =>
              apply quiet_call
              · simp
              · intro now
                trivial

theorem login_quiet {service : Service} {username password : GoString} :
    Quiet (service.login username password) := by
  apply quiet_call
  · simp
  · intro reply
    cases reply with
    | error failure => trivial
    | ok user =>
        apply quiet_call
        · simp
        · intro reply
          rcases reply with failure | (_ | _)
          · trivial
          · trivial
          · apply newSession_quiet.bind
            intro made
            rcases made with failure | ⟨grant, session⟩
            · trivial
            · apply quiet_call
              · simp
              · intro reply
                cases reply with
                | error failure => trivial
                | ok _ =>
                    apply quiet_call
                    · simp
                    · intro now
                      apply quiet_call
                      · simp
                      · intro reply
                        cases reply with
                        | ok _ => trivial
                        | error failure =>
                            apply quiet_call
                            · simp
                            · intro reply
                              trivial

theorem initializeUser_quiet {service : Service} {username password : GoString} :
    Quiet (service.initializeUser username password) := by
  unfold Service.initializeUser
  dsimp only
  split
  · trivial
  · apply quiet_call
    · simp
    · intro reply
      cases reply with
      | error failure => trivial
      | ok passwordHash =>
          apply quiet_call
          · simp
          · intro now
            apply quiet_call
            · simp
            · intro id
              apply quiet_call
              · simp
              · intro reply
                trivial

theorem changePassword_quiet {service : Service}
    {rawToken currentPassword newPassword : GoString} :
    Quiet (service.changePassword rawToken currentPassword newPassword) := by
  apply authenticate_quiet.bind
  intro result
  cases result with
  | error failure => trivial
  | ok authenticated =>
      apply quiet_call
      · simp
      · intro reply
        rcases reply with failure | (_ | _)
        · trivial
        · trivial
        · apply quiet_call
          · simp
          · intro reply
            cases reply with
            | error failure => trivial
            | ok encoded =>
                apply quiet_call
                · simp
                · intro reply
                  trivial

theorem logout_quiet {rawToken : GoString} : Quiet (Service.logout rawToken) := by
  unfold Service.logout
  split
  · trivial
  · apply quiet_call
    · simp
    · intro reply
      trivial

/-- What a quiet program does is quiet. -/
theorem Quiet.traces {α : Type} {perform : (call : Call) → Choice → State → Option (call.Reply × State)}
    {rely : State → State → Prop} {program rest : Process α} {state final : State}
    {moments : List (Moment Call Call.Reply State)} (quiet : Quiet program)
    (traces : program.Traces perform rely state moments rest final) :
    ∀ moment ∈ moments, ∀ handler, moment.event.call ≠ .enter handler := by
  induction traces with
  | refl =>
      intro moment member
      cases member
  | step changed answered further ih =>
      intro moment member
      rcases List.mem_cons.mp member with rfl | later
      · exact quiet.1
      · exact ih (quiet.2 _) moment later

end NodeAtlas.Auth
