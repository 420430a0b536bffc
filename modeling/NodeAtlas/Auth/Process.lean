import NodeAtlas.Auth.Guards

/-! The auth service with everything that reaches it: the requests, and the setup
from the environment when the application starts, interleaved call by call. -/

set_option autoImplicit false

namespace NodeAtlas.Auth

open Interleaving

inductive Activity where
  | request (request : Request)
  | bootstrap (username password : GoString)

inductive Outcome where
  | answered (response : Response)
  | composed (result : Except GoError Unit)

namespace Site

variable (site : Site)

/-- `compose`: without a configured name nothing is set up, and an administrator
who exists already is no reason to stop. -/
def bootstrap (username password : GoString) : Process (Except GoError Unit) :=
  if username = [] then return .ok ()
  else do
    match ← site.service.initializeUser username password with
    | .error failure => if failure.is .alreadyInitialized then return .ok () else return .error failure
    | .ok () => return .ok ()

def program : Activity → Process Outcome
  | .request request => do
      let response ← site.serveHTTP request
      return .answered response
  | .bootstrap username password => do
      let result ← site.bootstrap username password
      return .composed result

end Site

def system (site : Site) (db : Database) : System Call Call.Reply State Activity Outcome Choice where
  program := site.program
  perform _ := perform db
  external _ _ := none
  restart := id

abbrev SiteEvent : Type := Event Call Call.Reply

abbrev SiteConfig : Type := Config Call Call.Reply State Activity Outcome

abbrev SiteLabel : Type := Label Call Call.Reply Activity Choice

/-- A migrated database that nobody has used yet. -/
def freshState (clock : Instant) : State := ⟨[], [], clock⟩

/-- Every run of the process, from a fresh database on. -/
abbrev SiteRun (site : Site) (db : Database) (clock : Instant) (config : SiteConfig) : Prop :=
  (system site db).Run (fun _ _ => True) (Config.initial (freshState clock)) config

/-- The session cookie of a request; the environment has none. -/
def Activity.token : Activity → Option GoString
  | .request asked => asked.cookie sessionCookieName
  | .bootstrap _ _ => none

/-! ## What a thread has done before it acts -/

/-- The session that a token names has been found. -/
def Looked (token : Option GoString) (earlier : List SiteEvent) : Prop :=
  ∃ rawToken session, token = some rawToken ∧
    (⟨.findSessionByTokenHash (sha256 rawToken), .ok session⟩ : SiteEvent) ∈ earlier

/-- The password of this user has been given. -/
def Proved (user : User) (earlier : List SiteEvent) : Prop :=
  ∃ password, (⟨.verify user.passwordHash password, .ok true⟩ : SiteEvent) ∈ earlier

def Hashed (encoded : GoString) (earlier : List SiteEvent) : Prop :=
  ∃ password, (⟨.hashPassword password, .ok encoded⟩ : SiteEvent) ∈ earlier

/-- Handlers for the administrator need a session, sessions need a password, a
new password needs a session and the old password. -/
def rule (token : Option GoString) (earlier : List SiteEvent) (event : SiteEvent) : Prop :=
  match event.call with
  | .enter handler => handler.needsSession = true → Looked token earlier
  | .initializeUser user => Hashed user.passwordHash earlier
  | .createSession session => ∃ user username, session.userID = user.id ∧ Proved user earlier ∧
      (⟨.findUserByNormalizedUsername username, .ok user⟩ : SiteEvent) ∈ earlier
  | .updatePasswordAndRevokeSessions id encoded keep => ∃ user userID rawToken, id = user.id ∧
      token = some rawToken ∧ keep = sha256 rawToken ∧ Looked token earlier ∧ Proved user earlier ∧
      Hashed encoded earlier ∧ (⟨.findUserByID userID, .ok user⟩ : SiteEvent) ∈ earlier
  | _ => True

/-- A session is found under its own hash. -/
def fits : SiteEvent → Prop
  | ⟨.findSessionByTokenHash hash, .ok session⟩ => session.tokenHash = hash
  | _ => True

/-- A new administrator is greeted only by the request that created it. -/
def greeting (events : List SiteEvent) (response : Response) : Prop :=
  response.status = 201 → response.user ≠ none → ∃ user, (⟨.initializeUser user, .ok ()⟩ : SiteEvent) ∈ events

def closing (events : List SiteEvent) : Outcome → Prop
  | .answered response => greeting events response
  | .composed _ => True

def audit : Audit Call Call.Reply Activity Outcome where
  fits := fits
  rule activity := rule activity.token
  closing _ := closing

section Programs

private abbrev Follows {α : Type} (token : Option GoString) (closing : List SiteEvent → α → Prop)
    (earlier : List SiteEvent) (program : Process α) : Prop :=
  program.Audited fits (rule token) closing earlier

variable {site : Site} {service : Service} {token : Option GoString} {earlier : List SiteEvent}

private theorem initializeUser_follows (username password : GoString) :
    Follows token (fun events result => result = .ok () → ∃ user, (⟨.initializeUser user, .ok ()⟩ : SiteEvent) ∈ events)
      earlier (service.initializeUser username password) := by
  unfold Service.initializeUser
  dsimp only
  split
  · intro impossible
    cases impossible
  · intro reply _
    refine ⟨trivial, ?_⟩
    cases reply with
    | error failure =>
        intro impossible
        cases impossible
    | ok passwordHash =>
        intro now _
        refine ⟨trivial, ?_⟩
        intro id _
        refine ⟨trivial, ?_⟩
        intro reply _
        refine ⟨⟨password, ?_⟩, ?_⟩
        · simp
        · rintro rfl
          exact ⟨_, List.mem_cons_self⟩

private theorem newSession_follows (user : User) :
    Follows token (fun _ result => ∀ grant session, result = .ok (grant, session) → session.userID = user.id)
      earlier (service.newSession user) := by
  intro drawn _
  refine ⟨trivial, ?_⟩
  cases drawn with
  | error failure =>
      intro grant session impossible
      cases impossible
  | ok rawSession =>
      intro drawn _
      refine ⟨trivial, ?_⟩
      cases drawn with
      | error failure =>
          intro grant session impossible
          cases impossible
      | ok rawCSRF =>
          intro now _
          refine ⟨trivial, ?_⟩
          intro grant session same
          cases same
          rfl

private theorem login_follows (username password : GoString) :
    Follows token (fun _ _ => True) earlier (service.login username password) := by
  intro reply _
  refine ⟨trivial, ?_⟩
  cases reply with
  | error failure => trivial
  | ok user =>
      intro reply _
      refine ⟨trivial, ?_⟩
      rcases reply with failure | (_ | _)
      · trivial
      · trivial
      · refine (newSession_follows user).remembers.bind ?_
        rintro events result ⟨seen, made⟩
        rcases result with failure | ⟨grant, session⟩
        · trivial
        · intro reply _
          refine ⟨⟨user, service.normalizeUsername username, made grant session rfl, ⟨password, ?_⟩, ?_⟩, ?_⟩
          · exact seen List.mem_cons_self
          · exact seen (List.mem_cons_of_mem _ List.mem_cons_self)
          · cases reply with
            | error failure => trivial
            | ok _ =>
                intro now _
                refine ⟨trivial, ?_⟩
                intro reply _
                refine ⟨trivial, ?_⟩
                cases reply with
                | ok _ => trivial
                | error failure => exact fun _ _ => ⟨trivial, trivial⟩

/-- What is known of the session and the user that `Authenticate` returns. -/
private def Authentic (rawToken : GoString) (events : List SiteEvent) (authenticated : AuthenticatedSession) : Prop :=
  authenticated.session.tokenHash = sha256 rawToken ∧
    (∃ session, (⟨.findSessionByTokenHash (sha256 rawToken), .ok session⟩ : SiteEvent) ∈ events) ∧
    ∃ userID, (⟨.findUserByID userID, .ok authenticated.user⟩ : SiteEvent) ∈ events

private theorem refresh_follows {rawToken : GoString} {session : Session} {user : User} {now : Instant}
    (authentic : Authentic rawToken earlier ⟨user, session⟩) :
    Follows token (fun events result => ∀ authenticated, result = .ok authenticated → Authentic rawToken events authenticated)
      earlier (service.refresh (sha256 rawToken) session user now) := by
  obtain ⟨hash, ⟨found, looked⟩, userID, told⟩ := authentic
  unfold Service.refresh
  split
  · intro reply _
    refine ⟨trivial, ?_⟩
    cases reply with
    | error failure =>
        intro authenticated impossible
        cases impossible
    | ok _ =>
        intro authenticated returned
        cases returned
        exact ⟨hash, ⟨found, List.mem_cons_of_mem _ looked⟩, userID, List.mem_cons_of_mem _ told⟩
  · intro authenticated returned
    cases returned
    exact ⟨hash, ⟨found, looked⟩, userID, told⟩

private theorem authenticate_follows (rawToken : GoString) :
    Follows token (fun events result => ∀ authenticated, result = .ok authenticated → Authentic rawToken events authenticated)
      earlier (service.authenticate rawToken) := by
  unfold Service.authenticate
  split
  · intro authenticated impossible
    cases impossible
  · intro reply fit
    refine ⟨trivial, ?_⟩
    cases reply with
    | error failure =>
        intro authenticated impossible
        cases impossible
    | ok session =>
        have hash : session.tokenHash = sha256 rawToken := fit
        intro now _
        refine ⟨trivial, ?_⟩
        dsimp only [Program.bind]
        split
        · intro reply _
          refine ⟨trivial, ?_⟩
          intro authenticated impossible
          cases impossible
        · intro reply _
          refine ⟨trivial, ?_⟩
          cases reply with
          | error failure =>
              intro authenticated impossible
              cases impossible
          | ok user =>
              apply refresh_follows
              refine ⟨hash, ⟨session, ?_⟩, session.userID, List.mem_cons_self⟩
              simp

private theorem logout_follows (rawToken : GoString) :
    Follows token (fun _ _ => True) earlier (Service.logout rawToken) := by
  unfold Service.logout
  split
  · trivial
  · exact fun _ _ => ⟨trivial, trivial⟩

private theorem changePassword_follows {rawToken : GoString} (named : token = some rawToken)
    (currentPassword newPassword : GoString) :
    Follows token (fun _ _ => True) earlier (service.changePassword rawToken currentPassword newPassword) := by
  refine (authenticate_follows rawToken).bind ?_
  intro events result returned
  cases result with
  | error failure => trivial
  | ok authenticated =>
      obtain ⟨hash, ⟨found, looked⟩, userID, told⟩ := returned authenticated rfl
      intro reply _
      refine ⟨trivial, ?_⟩
      rcases reply with failure | (_ | _)
      · trivial
      · trivial
      · intro reply _
        refine ⟨trivial, ?_⟩
        cases reply with
        | error failure => trivial
        | ok encoded =>
            intro reply _
            refine ⟨⟨authenticated.user, userID, rawToken, rfl, named, hash, ⟨rawToken, found, named, ?_⟩,
              ⟨currentPassword, ?_⟩, ⟨newPassword, ?_⟩, ?_⟩, trivial⟩
            · exact List.mem_cons_of_mem _ (List.mem_cons_of_mem _ looked)
            · exact List.mem_cons_of_mem _ List.mem_cons_self
            · exact List.mem_cons_self
            · exact List.mem_cons_of_mem _ (List.mem_cons_of_mem _ told)

/-! ### The handlers and the routes -/

private theorem greeting_other {events : List SiteEvent} {response : Response}
    (other : (response.status == 201) = false) : greeting events response :=
  fun same => absurd same (by simpa using other)

private theorem entered_follows {handler : Handler} {rest : Process Response}
    (looked : handler.needsSession = true → Looked token earlier)
    (follows : ∀ events, Follows token greeting events rest) :
    Follows token greeting earlier (call (.enter handler) >>= fun _ => rest) :=
  fun _ _ => ⟨looked, follows _⟩

private theorem open_looked {handler : Handler} (open_ : handler.needsSession = false) :
    handler.needsSession = true → Looked token earlier := by
  intro needs
  rw [open_] at needs
  cases needs

private theorem foreign_follows {handler : Handler} (looked : handler.needsSession = true → Looked token earlier) :
    Follows token greeting earlier (Site.foreign handler) := by
  apply entered_follows looked
  intro events status _
  exact ⟨trivial, fun _ unnamed => absurd rfl unnamed⟩

private theorem requireSession_follows {request : Request} {next : RequestAuth → Process Response}
    (follows : ∀ rawToken authenticated events, request.cookie sessionCookieName = some rawToken →
      Looked (request.cookie sessionCookieName) events →
      Follows (request.cookie sessionCookieName) greeting events (next ⟨authenticated, rawToken⟩)) :
    Follows (request.cookie sessionCookieName) greeting earlier (site.requireSession request next) := by
  unfold Site.requireSession
  cases named : request.cookie sessionCookieName with
  | none => exact greeting_other rfl
  | some rawToken =>
      rw [named] at follows
      refine (authenticate_follows rawToken).bind ?_
      intro events result returned
      cases result with
      | error failure => exact greeting_other rfl
      | ok authenticated =>
          obtain ⟨_, ⟨session, looked⟩, _⟩ := returned authenticated rfl
          exact follows rawToken authenticated events rfl ⟨rawToken, session, rfl, looked⟩

private theorem requireOrigin_follows {request : Request} {next : Process Response}
    (follows : Follows token greeting earlier next) :
    Follows token greeting earlier (site.requireOrigin request next) := by
  unfold Site.requireOrigin
  split
  · next response failed =>
      apply greeting_other
      unfold Site.originFailure at failed
      dsimp only at failed
      repeat' split at failed
      all_goals
        cases failed <;> rfl
  · exact follows

private theorem requireCSRF_follows {request : Request} {authenticated : RequestAuth} {next : Process Response}
    (follows : Follows token greeting earlier next) :
    Follows token greeting earlier (Site.requireCSRF request authenticated next) := by
  unfold Site.requireCSRF
  split
  · exact follows
  · exact greeting_other rfl

private theorem signIn_follows {username password : GoString} {status : Nat} {failure : Response}
    (answers : ∀ events, earlier ⊆ events → ∀ response : Response, response.status = status ∨ response = failure →
      greeting events response) :
    Follows token greeting earlier (site.signIn username password status failure) := by
  refine (login_follows username password).remembers.bind ?_
  rintro events result ⟨seen, _⟩
  cases result with
  | error error_ => exact answers events seen failure (.inr rfl)
  | ok grant => exact answers events seen _ (.inl rfl)

private theorem setup_follows {request : Request} : Follows token greeting earlier (site.setup request) := by
  apply entered_follows (open_looked rfl)
  intro events
  rcases request.credentials with failure | ⟨username, password⟩
  · exact greeting_other rfl
  · refine (initializeUser_follows username password).bind ?_
    intro events result created
    cases result with
    | error failure =>
        dsimp only
        split <;> exact greeting_other rfl
    | ok _ =>
        obtain ⟨user, member⟩ := created rfl
        apply signIn_follows
        intro later seen response _ _ _
        exact ⟨user, seen member⟩

private theorem login_handler_follows {request : Request} : Follows token greeting earlier (site.login request) := by
  apply entered_follows (open_looked rfl)
  intro events
  rcases request.credentials with failure | ⟨username, password⟩
  · exact greeting_other rfl
  · apply signIn_follows
    rintro later seen response (status | rfl)
    · exact greeting_other (by rw [status]; rfl)
    · exact greeting_other rfl

private theorem setupStatus_follows : Follows token greeting earlier Site.setupStatus := by
  apply entered_follows (open_looked rfl)
  intro events reply _
  refine ⟨trivial, ?_⟩
  cases reply <;> exact greeting_other rfl

private theorem logout_handler_follows {authenticated : RequestAuth} (looked : Looked token earlier) :
    Follows token greeting earlier (site.logout authenticated) := by
  apply entered_follows fun _ => looked
  intro events
  refine (logout_follows authenticated.rawToken).bind ?_
  intro later result _
  cases result <;> exact greeting_other rfl

private theorem changePassword_handler_follows {request : Request} {authenticated : AuthenticatedSession}
    {rawToken : GoString} (named : token = some rawToken) (looked : Looked token earlier) :
    Follows token greeting earlier (site.changePassword request ⟨authenticated, rawToken⟩) := by
  apply entered_follows fun _ => looked
  intro events
  rcases request.credentials with failure | ⟨currentPassword, newPassword⟩
  · exact greeting_other rfl
  · refine (changePassword_follows named currentPassword newPassword).bind ?_
    intro later result _
    cases result with
    | error failure =>
        dsimp only
        split <;> exact greeting_other rfl
    | ok _ => exact greeting_other rfl

private theorem serveAuth_follows {request : Request} (path : GoString) :
    Follows (request.cookie sessionCookieName) greeting earlier (site.serveAuth request path) := by
  unfold Site.serveAuth
  dsimp only
  split
  · exact setupStatus_follows
  split
  · exact requireOrigin_follows setup_follows
  split
  · exact requireOrigin_follows login_handler_follows
  apply requireSession_follows
  intro rawToken authenticated events named looked
  split
  · exact entered_follows (fun _ => looked) fun _ => greeting_other rfl
  split
  · exact requireOrigin_follows (requireCSRF_follows (logout_handler_follows looked))
  split
  · exact requireOrigin_follows (requireCSRF_follows (changePassword_handler_follows named looked))
  unfold Site.requireMutationSecurity
  split
  · exact foreign_follows fun _ => looked
  · exact requireOrigin_follows (requireCSRF_follows (foreign_follows fun _ => looked))

private theorem serveHTTP_follows {request : Request} :
    Follows (request.cookie sessionCookieName) greeting earlier (site.serveHTTP request) := by
  unfold Site.serveHTTP
  split
  · exact greeting_other rfl
  split
  · exact foreign_follows (open_looked rfl)
  split
  · exact foreign_follows (open_looked rfl)
  split
  · exact serveAuth_follows _
  split
  · apply requireSession_follows
    intro rawToken authenticated events named looked
    exact foreign_follows fun _ => looked
  · exact foreign_follows (open_looked rfl)

private theorem bootstrap_follows (username password : GoString) :
    Follows token (fun _ _ => True) earlier (site.bootstrap username password) := by
  unfold Site.bootstrap
  split
  · trivial
  · refine (initializeUser_follows username password).bind ?_
    intro events result _
    cases result with
    | error failure =>
        dsimp only
        split <;> trivial
    | ok _ => trivial

end Programs

theorem perform_fits {db : Database} {call : Call} {choice : Choice} {state next : State} {reply : call.Reply}
    (answered : perform db call choice state = some (reply, next)) : fits ⟨call, reply⟩ := by
  cases call with
  | findSessionByTokenHash hash =>
      cases reply with
      | error failure => trivial
      | ok session => exact ((perform_findSessionByTokenHash answered).2 session rfl).2
  | _ => trivial

theorem site_passes (site : Site) (db : Database) : audit.Passed (system site db) (fun _ => True) where
  fitting _ _ _ _ _ _ answered := perform_fits answered
  audited activity _ := by
    cases activity with
    | request request => exact serveHTTP_follows.bind fun _ _ answer => answer
    | bootstrap username password => exact (bootstrap_follows username password).bind fun _ _ _ => trivial

theorem SiteRun.disciplined {site : Site} {db : Database} {clock : Instant} {config : SiteConfig}
    (run : SiteRun site db clock config) : Disciplined audit config :=
  Disciplined.run (site_passes site db) run fun _ _ _ => trivial

/-! ## A schedule -/

abbrev Schedule : Type := List (System.Move Activity Choice)

/-- Thread `t` makes one call for each answer. -/
def answers (t : Nat) (choices : List Choice) : Schedule :=
  choices.map fun choice => .advance t choice

/-- The database carries a statement out. -/
def carried : Choice := .database false

/-- The token of a session for which the generator gave one byte over and again. -/
def tokenOf (byte : UInt8) : GoString := rawURLEncode (List.replicate 32 byte)

/-- A request from the pages of the panel, with the cookies of a session. -/
def asking (method path : String) (byte : UInt8) (first second : String) : Request where
  method := text method
  path := text path
  host := text "panel.example.test"
  headers := [(text "Origin", text "https://panel.example.test"), (text "X-CSRF-Token", tokenOf (byte + 1))]
  cookies := [(sessionCookieName, tokenOf byte), (csrfCookieName, tokenOf (byte + 1))]
  credentials := .ok (text first, text second)

/-- A login up to the password that it verifies. -/
def proving : List Choice := [.entered, carried, .verified (.ok true)]

/-- A login from its verified password on. -/
def opening (byte : UInt8) (now : Instant) : List Choice :=
  [.random (.ok (List.replicate 32 byte)), .random (.ok (List.replicate 32 (byte + 1))), .instant now, carried,
    .instant now, carried]

/-- The check of a session. -/
def checking (now : Instant) : List Choice := [carried, .instant now, carried]

/-- Two requests set the administrator up; the second one is faster. -/
def raced : Schedule :=
  List.flatten [[.spawn (.request (asking "POST" "/api/v1/setup/initialize" 1 "admin" "old password")),
      .spawn (.request (asking "POST" "/api/v1/setup/initialize" 3 "admin" "other password"))],
    answers 0 [.entered, .hashed (.ok (text "old hash")), .instant 1, .identifier (text "id")],
    answers 1 [.entered, .hashed (.ok (text "other hash")), .instant 1, .identifier (text "other id"), carried],
    answers 0 [carried], answers 1 ([carried, .verified (.ok true)] ++ opening 3 2)]

/-- Two logins give the old password; the password is changed between the two
sessions that they get, and the second session is used afterwards. -/
def overtaken : Schedule :=
  List.flatten [[.spawn (.bootstrap (text "admin") (text "old password"))],
    answers 0 [.hashed (.ok (text "old hash")), .instant 1, .identifier (text "id"), carried],
    [.spawn (.request (asking "POST" "/api/v1/auth/login" 1 "admin" "old password"))],
    answers 1 (proving ++ opening 1 2),
    [.spawn (.request (asking "POST" "/api/v1/auth/login" 3 "admin" "old password"))],
    answers 2 proving,
    [.spawn (.request (asking "PUT" "/api/v1/auth/password" 1 "old password" "new password"))],
    answers 3 (checking 3 ++ .entered :: checking 3 ++
      [.verified (.ok true), .hashed (.ok (text "new hash")), carried]),
    answers 2 (opening 3 4),
    [.spawn (.request (asking "GET" "/api/v1/servers" 3 "" ""))],
    answers 4 (checking 5 ++ [.entered])]

end NodeAtlas.Auth
