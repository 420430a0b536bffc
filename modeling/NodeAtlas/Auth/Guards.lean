import NodeAtlas.Auth.HTTP

/-! No handler runs without the guards in front of it. -/

set_option autoImplicit false

namespace NodeAtlas.Auth

open Interleaving

/-- The handlers that are for the administrator only. -/
def Handler.needsSession : Handler → Bool
  | .me | .logout | .changePassword | .feature | .gateway => true
  | _ => false

/-- The handlers that a mutation may reach with a token only. -/
def Handler.needsToken : Handler → Bool
  | .logout | .changePassword | .feature => true
  | _ => false

/-- The calls made so far have found an unexpired session for a token. -/
def Established (rawToken : GoString) (session : Session) (earlier : List (Event Call Call.Reply)) :
    Prop :=
  (⟨.findSessionByTokenHash (sha256 rawToken), .ok session⟩ : Event Call Call.Reply) ∈ earlier ∧
    ∃ now, (⟨.now, now⟩ : Event Call Call.Reply) ∈ earlier ∧
      now < session.expiresAt ∧ now < session.absoluteExpiresAt

/-- What the calls before it say about a handler that runs. -/
def Cleared (site : Site) (request : Request) (handler : Handler)
    (earlier : List (Event Call Call.Reply)) : Prop :=
  handler.needsSession = true → ∃ rawToken session,
    request.cookie sessionCookieName = some rawToken ∧ Established rawToken session earlier ∧
      (handler.needsToken = true → request.safe = false →
        site.originFailure request = none ∧ Site.csrfValid request session = true)

def clearance (site : Site) (request : Request) (earlier : List (Event Call Call.Reply))
    (event : Event Call Call.Reply) : Prop :=
  match event.call with
  | .enter handler => Cleared site request handler earlier
  | _ => True

private abbrev Kept {α : Type} (site : Site) (request : Request)
    (closing : List (Event Call Call.Reply) → α → Prop) (earlier : List (Event Call Call.Reply))
    (program : Process α) : Prop :=
  program.Audited (fun _ => True) (clearance site request) closing earlier

section Programs

variable {site : Site} {request : Request} {earlier : List (Event Call Call.Reply)}

private theorem Quiet.kept {α : Type} {program : Process α} (quiet : Quiet program) :
    Kept site request (fun _ _ => True) earlier program := by
  induction program generalizing earlier with
  | done result => trivial
  | call asked next ih =>
      intro reply _
      refine ⟨?_, ih reply (quiet.2 reply)⟩
      cases asked with
      | enter handler => exact absurd rfl (quiet.1 handler)
      | _ => trivial

theorem Established.later {rawToken : GoString} {session : Session}
    {event : Event Call Call.Reply} (established : Established rawToken session earlier) :
    Established rawToken session (event :: earlier) := by
  obtain ⟨found, now, read, unexpired⟩ := established
  exact ⟨List.mem_cons_of_mem _ found, now, List.mem_cons_of_mem _ read, unexpired⟩

/-- What a session check leaves behind when it lets a request pass. -/
private abbrev Authenticates (rawToken : GoString) (events : List (Event Call Call.Reply)) :
    Except GoError AuthenticatedSession → Prop
  | .error _ => True
  | .ok authenticated => ∃ session, Established rawToken session events ∧
      session.csrfHash = authenticated.session.csrfHash

private theorem refresh_kept {service : Service} {rawToken : GoString} {session : Session}
    {user : User} {now : Instant} (established : Established rawToken session earlier) :
    Kept site request (Authenticates rawToken) earlier
      (service.refresh (sha256 rawToken) session user now) := by
  unfold Service.refresh
  split
  · intro reply _
    refine ⟨trivial, ?_⟩
    cases reply with
    | error failure => trivial
    | ok _ => exact ⟨session, established.later, rfl⟩
  · exact ⟨session, established, rfl⟩

private theorem authenticate_kept {service : Service} (rawToken : GoString) :
    Kept site request (Authenticates rawToken) earlier (service.authenticate rawToken) := by
  unfold Service.authenticate
  split
  · trivial
  · intro reply _
    refine ⟨trivial, ?_⟩
    cases reply with
    | error failure => trivial
    | ok session =>
        intro now _
        refine ⟨trivial, ?_⟩
        dsimp only [Program.bind]
        split
        · intro reply _
          exact ⟨trivial, trivial⟩
        · next unexpired =>
            rw [not_or, Int.not_le, Int.not_le] at unexpired
            intro reply _
            refine ⟨trivial, ?_⟩
            cases reply with
            | error failure => trivial
            | ok user =>
                apply refresh_kept
                refine ⟨?_, now, ?_, unexpired⟩
                · simp
                · simp

private theorem requireSession_kept {next : RequestAuth → Process Response}
    (kept : ∀ rawToken authenticated session events,
      request.cookie sessionCookieName = some rawToken → Established rawToken session events →
      session.csrfHash = authenticated.session.csrfHash →
      Kept site request (fun _ _ => True) events (next ⟨authenticated, rawToken⟩)) :
    Kept site request (fun _ _ => True) earlier (site.requireSession request next) := by
  unfold Site.requireSession
  cases named : request.cookie sessionCookieName with
  | none => trivial
  | some rawToken =>
      refine (authenticate_kept rawToken).bind ?_
      intro events result outcome
      cases result with
      | error failure => trivial
      | ok authenticated =>
          obtain ⟨session, established, same⟩ := outcome
          exact kept rawToken authenticated session events named established same

private theorem requireOrigin_kept {next : Process Response}
    (kept : site.originFailure request = none →
      Kept site request (fun _ _ => True) earlier next) :
    Kept site request (fun _ _ => True) earlier (site.requireOrigin request next) := by
  unfold Site.requireOrigin
  split
  · trivial
  · next passed => exact kept passed

private theorem requireCSRF_kept {authenticated : RequestAuth} {next : Process Response}
    (kept : Site.csrfValid request authenticated.session = true →
      Kept site request (fun _ _ => True) earlier next) :
    Kept site request (fun _ _ => True) earlier (Site.requireCSRF request authenticated next) := by
  unfold Site.requireCSRF
  split
  · next valid => exact kept valid
  · trivial

private theorem entered_kept {handler : Handler} {rest : Process Response}
    (cleared : Cleared site request handler earlier) (quiet : Quiet rest) :
    Kept site request (fun _ _ => True) earlier (call (.enter handler) >>= fun _ => rest) := by
  intro reply _
  exact ⟨cleared, quiet.kept⟩

/-! ### The handlers and the routes -/

private theorem signIn_quiet {username password : GoString} {status : Nat} {failure : Response} :
    Quiet (site.signIn username password status failure) := by
  apply login_quiet.bind
  intro result
  cases result <;> trivial


private theorem foreign_kept {handler : Handler} (cleared : Cleared site request handler earlier) :
    Kept site request (fun _ _ => True) earlier (Site.foreign handler) := by
  apply entered_kept cleared
  apply quiet_call
  · simp
  · intro status
    trivial

private theorem open_cleared {handler : Handler} (open_ : handler.needsSession = false) :
    Cleared site request handler earlier := by
  intro needs
  rw [open_] at needs
  cases needs

private theorem setupStatus_kept :
    Kept site request (fun _ _ => True) earlier Site.setupStatus := by
  apply entered_kept (open_cleared rfl)
  apply quiet_call
  · simp
  · intro reply
    cases reply <;> trivial

private theorem setup_kept : Kept site request (fun _ _ => True) earlier (site.setup request) := by
  apply entered_kept (open_cleared rfl)
  rcases request.credentials with failure | ⟨username, password⟩
  · trivial
  · apply initializeUser_quiet.bind
    intro result
    cases result with
    | error failure =>
        dsimp only
        split <;> trivial
    | ok _ => exact signIn_quiet

private theorem login_kept : Kept site request (fun _ _ => True) earlier (site.login request) := by
  apply entered_kept (open_cleared rfl)
  rcases request.credentials with failure | ⟨username, password⟩
  · trivial
  · exact signIn_quiet

section Signed

variable {rawToken : GoString} {session : Session} {authenticated : RequestAuth}
  (named : request.cookie sessionCookieName = some rawToken)
  (established : Established rawToken session earlier)

/-- Behind both mutation guards a handler is cleared for every method. -/
private theorem mutation_kept {next : Process Response}
    (same : session.csrfHash = authenticated.session.csrfHash)
    (kept : (request.safe = false →
      site.originFailure request = none ∧ Site.csrfValid request session = true) →
      Kept site request (fun _ _ => True) earlier next) :
    Kept site request (fun _ _ => True) earlier
      (site.requireOrigin request (Site.requireCSRF request authenticated next)) := by
  apply requireOrigin_kept
  intro passed
  apply requireCSRF_kept
  intro valid
  apply kept
  intro _
  refine ⟨passed, ?_⟩
  unfold Site.csrfValid at valid ⊢
  rw [same]
  exact valid

include named established

private theorem me_kept : Kept site request (fun _ _ => True) earlier (Site.me authenticated) := by
  apply entered_kept
  · intro _
    exact ⟨rawToken, session, named, established, fun needs => by cases needs⟩
  · trivial

section Verified

variable (verified : request.safe = false →
  site.originFailure request = none ∧ Site.csrfValid request session = true)

include verified

private theorem token_cleared (handler : Handler) : Cleared site request handler earlier := by
  intro _
  exact ⟨rawToken, session, named, established, fun _ => verified⟩

private theorem logout_kept :
    Kept site request (fun _ _ => True) earlier (site.logout authenticated) := by
  apply entered_kept (token_cleared named established verified .logout)
  apply logout_quiet.bind
  intro result
  cases result <;> trivial

private theorem changePassword_kept :
    Kept site request (fun _ _ => True) earlier (site.changePassword request authenticated) := by
  apply entered_kept (token_cleared named established verified .changePassword)
  rcases request.credentials with failure | ⟨currentPassword, newPassword⟩
  · trivial
  · apply changePassword_quiet.bind
    intro result
    cases result with
    | error failure =>
        dsimp only
        split <;> trivial
    | ok _ => trivial

end Verified

private theorem feature_kept (same : session.csrfHash = authenticated.session.csrfHash) :
    Kept site request (fun _ _ => True) earlier
      (site.requireMutationSecurity request authenticated (Site.foreign .feature)) := by
  unfold Site.requireMutationSecurity
  split
  · next safe =>
      apply foreign_kept
      apply token_cleared named established
      intro unsafe_
      rw [safe] at unsafe_
      cases unsafe_
  · apply mutation_kept same
    intro verified
    exact foreign_kept (token_cleared named established verified .feature)

end Signed

private theorem serveAuth_kept (path : GoString) :
    Kept site request (fun _ _ => True) earlier (site.serveAuth request path) := by
  unfold Site.serveAuth
  dsimp only
  split
  · exact setupStatus_kept
  split
  · exact requireOrigin_kept fun _ => setup_kept
  split
  · exact requireOrigin_kept fun _ => login_kept
  apply requireSession_kept
  intro rawToken authenticated session events named established same
  split
  · exact me_kept named established
  split
  · apply mutation_kept same
    intro verified
    exact logout_kept named established verified
  split
  · apply mutation_kept same
    intro verified
    exact changePassword_kept named established verified
  exact feature_kept named established same

private theorem serveHTTP_kept :
    Kept site request (fun _ _ => True) earlier (site.serveHTTP request) := by
  unfold Site.serveHTTP
  split
  · trivial
  split
  · exact foreign_kept (open_cleared rfl)
  split
  · exact foreign_kept (open_cleared rfl)
  split
  · exact serveAuth_kept _
  split
  · apply requireSession_kept
    intro rawToken authenticated session events named established same
    apply foreign_kept
    intro _
    exact ⟨rawToken, session, named, established, fun needs => by cases needs⟩
  · exact foreign_kept (open_cleared rfl)

end Programs

/-! ## Every route -/

/-- At the time of its lookup the session was in the table, it had not expired,
and its token came with the request. -/
def SignedIn (request : Request) (session : Session)
    (before : List (Moment Call Call.Reply State)) : Prop :=
  ∃ rawToken, request.cookie sessionCookieName = some rawToken ∧
    session.tokenHash = sha256 rawToken ∧
    (∃ moment ∈ before, moment.event =
        ⟨.findSessionByTokenHash (sha256 rawToken), .ok session⟩ ∧
      session ∈ moment.state.sessions) ∧
    ∃ moment ∈ before, ∃ now, moment.event = ⟨.now, now⟩ ∧
      now < session.expiresAt ∧ now < session.absoluteExpiresAt

/-- The request carries the token of the session in its header and its cookie,
and comes from an origin that the site allows. -/
structure Trusted (site : Site) (request : Request) (session : Session) : Prop where
  origin : site.originFailure request = none
  nonempty : request.header (text "X-CSRF-Token") ≠ []
  cookie : request.cookie csrfCookieName = some (request.header (text "X-CSRF-Token"))
  token : sha256 (request.header (text "X-CSRF-Token")) = session.csrfHash

/-- Whatever the request, the tables and the other requests: a handler that is
for the administrator runs for a session only, and for a mutation with its token only. -/
theorem routes_guarded {site : Site} {db : Database} {rely : State → State → Prop}
    {request : Request} {state final : State} {rest : Process Response}
    {before after : List (Moment Call Call.Reply State)} {moment : Moment Call Call.Reply State}
    {handler : Handler}
    (traces : (site.serveHTTP request).Traces (perform db) rely state
      (before ++ moment :: after) rest final)
    (runs : moment.event = ⟨.enter handler, ()⟩) (needs : handler.needsSession = true) :
    ∃ session, SignedIn request session before ∧
      (handler.needsToken = true → request.safe = false → Trusted site request session) := by
  have start : Obeys (clearance site request) [] := trivial
  have obeyed := (Program.Audited.traces serveHTTP_kept (fun _ _ _ _ _ _ => trivial) start traces).1
  rw [List.append_nil, List.map_append, List.map_cons, List.reverse_append, List.reverse_cons,
    List.append_assoc] at obeyed
  change Obeys _ (_ ++ moment.event :: (before.map (·.event)).reverse) at obeyed
  have ruled := obeyed.split
  rw [runs] at ruled
  obtain ⟨rawToken, session, named, ⟨looked, now, read, expires, limit⟩, token⟩ := ruled needs
  rw [List.mem_reverse, List.mem_map] at looked read
  obtain ⟨lookup, among, found⟩ := looked
  obtain ⟨reading, earlier, told⟩ := read
  obtain ⟨choice, next, answered⟩ := traces.answered lookup (List.mem_append_left _ among)
  rw [found] at answered
  obtain ⟨member, hash⟩ := (perform_findSessionByTokenHash answered).2 session rfl
  refine ⟨session, ⟨rawToken, named, hash, ⟨lookup, among, found, member⟩, reading, earlier, now,
    told, expires, limit⟩, ?_⟩
  intro needsToken mutation
  obtain ⟨origin, valid⟩ := token needsToken mutation
  simp only [Site.csrfValid, Bool.and_eq_true, decide_eq_true_eq] at valid
  exact ⟨origin, valid.1.1, valid.1.2, valid.2⟩

/-! ## A mutation of the administrator -/

/-- The handler that runs at a moment. -/
def Moment.entered (moment : Moment Call Call.Reply State) : Option Handler :=
  match moment.event with
  | ⟨.enter handler, _⟩ => some handler
  | _ => none

/-- The session of the administrator, one minute old. -/
def signedIn : State :=
  ⟨[⟨text "id", text "admin", text "admin", text "hash", 0, none⟩],
    [storedSession (Database.plain .sqlite)
      (ServiceOptions.standard.session (text "token") (text "csrf") (text "id") 0)], hour / 60⟩

def posting : Request where
  method := text "POST"
  path := text "/api/v1/servers"
  host := text "panel.example.test"
  headers := [(text "Origin", text "https://panel.example.test"), (text "X-CSRF-Token", text "csrf")]
  cookies := [(sessionCookieName, text "token"), (csrfCookieName, text "csrf")]
  credentials := .ok ([], [])

theorem routes_guarded_posted : ∃ before moment,
    Moment.entered moment = some .feature ∧
    ∃ session, SignedIn posting session before ∧
      (Handler.feature.needsToken = true → posting.safe = false → Trusted panel posting session) := by
  have carried : ((panel.serveHTTP posting).execute (perform (Database.plain .sqlite))
      [.database false, .instant (hour / 60), .database false, .entered, .responded 204]
      signedIn).map (fun run => run.1.map Moment.entered) =
      some [none, none, none, some .feature, none] := by decide
  obtain ⟨⟨moments, response, final⟩, executed, kinds⟩ := Option.map_eq_some_iff.mp carried
  have listed : some Handler.feature ∈ moments.map Moment.entered := by
    rw [kinds]
    simp
  obtain ⟨moment, member, entered⟩ := List.mem_map.mp listed
  obtain ⟨before, after, rfl⟩ := List.append_of_mem member
  have traces : (panel.serveHTTP posting).Traces (perform (Database.plain .sqlite)) Eq signedIn
      (before ++ moment :: after) (.done response) final :=
    Program.execute_traces (fun _ => rfl) executed
  have runs : moment.event = ⟨.enter .feature, ()⟩ := by
    unfold Moment.entered at entered
    split at entered
    · next same =>
        cases entered
        exact same
    · cases entered
  exact ⟨before, moment, entered, routes_guarded traces runs rfl⟩

end NodeAtlas.Auth
