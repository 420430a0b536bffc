import NodeAtlas.Auth.HTTP
import NodeAtlas.Auth.Lifetime

/-! A browser that obeys the expiry of its cookies. The session slides on in
the database with every use; the cookie that names it is set by the login and
never again. -/

set_option autoImplicit false

namespace NodeAtlas.Auth

open Interleaving

/-- Time columns keep whole seconds and the order of instants. -/
structure OrderedColumns (db : Database) : Prop where
  monotone : ∀ earlier later, earlier ≤ later → db.stamp earlier ≤ db.stamp later
  seconds : ∀ instant, db.stamp (Site.cookieExpires instant) = Site.cookieExpires instant
  again : ∀ instant, db.stamp (db.stamp instant) = db.stamp instant

/-- The cookies that a browser sends at an instant. -/
def sentCookies (jar : List Cookie) (now : Instant) : List (GoString × GoString) :=
  (jar.filter fun cookie => decide (now < cookie.expires)).map fun cookie =>
    (cookie.name, cookie.value)

/-- What a browser has once a response has set its cookies. -/
def receive (jar : List Cookie) (response : Response) : List Cookie :=
  jar.filter (fun cookie => !response.cookies.any fun set => set.name = cookie.name) ++
    response.cookies

/-- What anybody else may do between two requests of a session that is not
logged out or revoked. -/
structure Keeps (db : Database) (rawToken : GoString) (before after : State) : Prop
    extends Others db rawToken before after where
  stays : ∀ session ∈ before.sessions, session.tokenHash = sha256 rawToken →
    session ∈ after.sessions

/-- The handler behind the session check ran. -/
def Served (moments : List (Moment Call Call.Reply State)) : Prop :=
  (⟨.enter .feature, ()⟩ : Event Call Call.Reply) ∈ moments.map (·.event)

/-- Protected requests of one browser, each with its instant and whether it was
let through, to a server whose database answers. -/
inductive Visits (site : Site) (db : Database) (rawToken : GoString) :
    List Cookie → State → List (Instant × Prop) → Prop where
  | ceased {jar : List Cookie} {state : State} : Visits site db rawToken jar state []
  | visit {jar : List Cookie} {state after next : State} {request : Request} {now : Instant}
      {moments : List (Moment Call Call.Reply State)} {response : Response}
      {later : List (Instant × Prop)}
      (sent : request.cookies = sentCookies jar now)
      (handled : (site.requireSession request fun _ => Site.foreign .feature).Traces (answering db)
        Eq state moments (.done response) after)
      (reading : ∀ other, ReadAt other moments → other = now)
      (others : Keeps db rawToken after next)
      (further : Visits site db rawToken (receive jar response) next later) :
      Visits site db rawToken jar state ((now, Served moments) :: later)

/-! ## The login -/

section Login

variable {site : Site} {db : Database} {request : Request} {start state : State}
  {moments : List (Moment Call Call.Reply State)} {response : Response}

private theorem signIn_grants {username password : GoString} {status : Nat} {failure : Response}
    (alone : Alone db (site.signIn username password status failure) start moments response state)
    (welcome : response ≠ failure) :
    ∃ grant granting, Alone db (site.service.login username password) start granting (.ok grant)
      state ∧ response.cookies = site.setAuthCookies grant := by
  obtain ⟨outcome, middle, before, after, rfl, signed, rest⟩ := alone.bind
  cases outcome with
  | error reason =>
      obtain ⟨_, done, _⟩ := rest.done
      cases done
      exact absurd rfl welcome
  | ok grant =>
      obtain ⟨_, done, rfl⟩ := rest.done
      cases done
      exact ⟨grant, before, signed, rfl⟩

/-- A login that is answered with 200 has created a session, and its cookies name it. -/
theorem login_grants (consistent : Consistent db start)
    (alone : Alone db (site.login request) start moments response state)
    (welcome : response.status = 200) :
    ∃ grant, response.cookies = site.setAuthCookies grant ∧ Opened site.service db grant state := by
  obtain ⟨choice, between, reply, after, rest, rfl, answered, rfl, handling⟩ := alone.call
  have same : after = start := by
    cases choice <;> cases answered
    rfl
  subst same
  dsimp only [Program.bind] at handling
  split at handling
  · obtain ⟨_, done, _⟩ := handling.done
    cases done
    cases welcome
  · have accepted : response ≠ .failed 401 "invalid_credentials"
        "Username or password is invalid" := by
      intro refused
      rw [refused] at welcome
      cases welcome
    obtain ⟨grant, granting, signed, cookies⟩ := signIn_grants handling accepted
    exact ⟨grant, cookies, login_opens consistent signed⟩

end Login

/-! ## One request -/

section Visit

variable {site : Site} {db : Database} {grant : SessionGrant} {state after : State}
  {request : Request} {now : Instant} {moments : List (Moment Call Call.Reply State)}
  {response : Response}

/-- The session of a browser that has been let through so far. -/
structure Held (site : Site) (db : Database) (grant : SessionGrant) (state : State) : Prop where
  named : grant.sessionToken ≠ []
  consistent : Consistent db state
  past : grant.expiresAt - site.service.options.idleTTL ≤ state.clock
  row : ∃ session ∈ state.sessions, session.tokenHash = sha256 grant.sessionToken ∧
    session.absoluteExpiresAt = db.stamp
      (grant.expiresAt - site.service.options.idleTTL + site.service.options.absoluteTTL) ∧
    (Site.cookieExpires grant.expiresAt ≤ session.expiresAt ∨
      session.expiresAt = session.absoluteExpiresAt)

/-- The instants at which the cookie is there and the session's absolute limit is ahead. -/
def Open (site : Site) (db : Database) (grant : SessionGrant) (now : Instant) : Prop :=
  now < Site.cookieExpires grant.expiresAt ∧
    now < db.stamp
      (grant.expiresAt - site.service.options.idleTTL + site.service.options.absoluteTTL)

theorem cookieExpires_le (instant : Instant) : Site.cookieExpires instant ≤ instant := by
  unfold Site.cookieExpires
  lia

theorem Opened.held (columns : OrderedColumns db) (opened : Opened site.service db grant state) :
    Held site db grant state := by
  refine ⟨opened.named, opened.consistent, opened.past, _, opened.row, rfl, rfl, .inl ?_⟩
  change _ ≤ db.stamp (grant.expiresAt - site.service.options.idleTTL + site.service.options.idleTTL)
  rw [← columns.seconds, Int.sub_add_cancel]
  exact columns.monotone _ _ (cookieExpires_le _)

private theorem sent_cookie (sent : request.cookies = sentCookies (site.setAuthCookies grant) now) :
    request.cookie sessionCookieName =
      if now < Site.cookieExpires grant.expiresAt then some grant.sessionToken else none := by
  unfold Request.cookie
  rw [sent]
  by_cases alive : now < Site.cookieExpires grant.expiresAt
  · simp [sentCookies, Site.setAuthCookies, alive]
  · simp [sentCookies, Site.setAuthCookies, alive]

private theorem foreign_served {rest : List (Moment Call Call.Reply State)} {earlier : State}
    (traces : (Site.foreign .feature).Traces (answering db) Eq earlier rest (.done response) after) :
    Served rest ∧ response.cookies = [] ∧ after = earlier := by
  obtain ⟨choice, between, reply, middle, later, rfl, answered, rfl, further⟩ := traces.call
  obtain ⟨answered, _⟩ := answering_performs answered
  obtain ⟨choice', between, status, last, ended, rfl, replied, rfl, done⟩ := further.call
  obtain ⟨replied, _⟩ := answering_performs replied
  obtain ⟨rfl, same, rfl⟩ := done.done
  cases same
  have entered : middle = earlier := by
    cases choice <;> cases answered
    rfl
  have responded : after = middle := by
    cases choice' <;> cases replied
    rfl
  refine ⟨List.mem_cons_self, rfl, responded.trans entered⟩

private theorem quiet_unserved {α : Type} {program : Process α} {rest : Process α} {final : State}
    (quiet : Quiet program)
    (traces : program.Traces (answering db) Eq state moments rest final) : ¬ Served moments := by
  intro served
  obtain ⟨moment, member, entered⟩ := List.mem_map.mp served
  have other := quiet.traces traces moment member .feature
  rw [entered] at other
  exact other rfl

/-- The session check of a request that comes with the cookie. -/
private theorem checked {rawToken : GoString}
    (named : request.cookie sessionCookieName = some rawToken)
    (handled : (site.requireSession request fun _ => Site.foreign .feature).Traces (answering db)
      Eq state moments (.done response) after) :
    ∃ result middle before later, moments = before ++ later ∧
      (site.service.authenticate rawToken).Traces (answering db) Eq state before (.done result)
        middle ∧
      ((∃ authenticated, result = .ok authenticated) ∧ Served moments ∧ response.cookies = [] ∧
        after = middle ∨ (∃ failure, result = .error failure) ∧ ¬ Served moments) := by
  unfold Site.requireSession at handled
  rw [named] at handled
  obtain ⟨result, middle, before, later, rfl, checked, rest⟩ := handled.bind
  refine ⟨result, middle, before, later, rfl, checked, ?_⟩
  cases result with
  | error failure =>
      obtain ⟨rfl, _, _⟩ := rest.done
      refine .inr ⟨⟨failure, rfl⟩, ?_⟩
      rw [List.append_nil]
      exact quiet_unserved authenticate_quiet checked
  | ok authenticated =>
      obtain ⟨served, cookies, same⟩ := foreign_served rest
      refine .inl ⟨⟨authenticated, rfl⟩, ?_, cookies, same⟩
      unfold Served
      rw [List.map_append]
      exact List.mem_append_right _ served

/-- What a successful check leaves of a session that the browser holds. -/
private theorem accepted_held {middle : State} {authenticated : AuthenticatedSession}
    (columns : OrderedColumns db) (held : Held site db grant state)
    (alone : Alone db (site.service.authenticate grant.sessionToken) state moments
      (.ok authenticated) middle) :
    Held site db grant middle ∧ ∃ now, ReadAt now moments ∧
      now < db.stamp
        (grant.expiresAt - site.service.options.idleTTL + site.service.options.absoluteTTL) := by
  obtain ⟨row, among, owned, absolute, expires⟩ := held.row
  cases authenticate_verdict alone with
  | @kept session user at_ member named read later unexpired within recent =>
      have same := held.consistent.unique member among (named.trans owned.symm)
      subst same
      refine ⟨⟨held.named, ⟨held.consistent.primary, held.consistent.references⟩,
        Int.le_trans held.past later, session, member, named, absolute, expires⟩, at_,
        (read at_).mpr rfl, ?_⟩
      rw [← absolute]
      exact within
  | @touched session user at_ expiresAt member named read later unexpired within slides =>
      have same := held.consistent.unique member among (named.trans owned.symm)
      subst same
      refine ⟨⟨held.named, held.consistent.touched rfl rfl, Int.le_trans held.past later,
        session.touched db at_ expiresAt, ?_, named, absolute, ?_⟩, at_, (read at_).mpr rfl, ?_⟩
      · refine List.mem_map.mpr ⟨session, member, ?_⟩
        rw [if_pos named]
      · simp only [Session.touched]
        rw [slides]
        by_cases clamped : session.absoluteExpiresAt < at_ + site.service.options.idleTTL
        · right
          rw [Int.min_eq_right (Int.le_of_lt clamped), absolute, columns.again]
        · left
          rw [Int.min_eq_left (Int.not_lt.mp clamped), ← columns.seconds]
          apply columns.monotone
          have early := cookieExpires_le grant.expiresAt
          have past := held.past
          lia
      · rw [← absolute]
        exact within

/-- Who is let through had the cookie and an unexpired session. -/
private theorem served_open (columns : OrderedColumns db) (held : Held site db grant state)
    (sent : request.cookies = sentCookies (site.setAuthCookies grant) now)
    (handled : (site.requireSession request fun _ => Site.foreign .feature).Traces (answering db)
      Eq state moments (.done response) after)
    (reading : ∀ other, ReadAt other moments → other = now) (served : Served moments) :
    Open site db grant now ∧ response.cookies = [] ∧ Held site db grant after := by
  have named := sent_cookie sent
  by_cases alive : now < Site.cookieExpires grant.expiresAt
  · rw [if_pos alive] at named
    obtain ⟨result, middle, before, later, rfl, authenticates, outcome⟩ := checked named handled
    rcases outcome with ⟨⟨authenticated, rfl⟩, _, cookies, rfl⟩ | ⟨_, unserved⟩
    · obtain ⟨still, read, told, within⟩ :=
        accepted_held columns held (traces_answering authenticates)
      have same := reading read (by
        unfold ReadAt
        rw [List.map_append]
        exact List.mem_append_left _ told)
      subst same
      exact ⟨⟨alive, within⟩, cookies, still⟩
    · exact absurd served unserved
  · rw [if_neg alive] at named
    unfold Site.requireSession at handled
    rw [named] at handled
    obtain ⟨rfl, _, _⟩ := handled.done
    cases served

/-- Who has the cookie and comes before the absolute limit is let through. -/
private theorem open_served (held : Held site db grant state)
    (sent : request.cookies = sentCookies (site.setAuthCookies grant) now)
    (handled : (site.requireSession request fun _ => Site.foreign .feature).Traces (answering db)
      Eq state moments (.done response) after)
    (reading : ∀ other, ReadAt other moments → other = now) (open_ : Open site db grant now) :
    Served moments := by
  have named := sent_cookie sent
  rw [if_pos open_.1] at named
  obtain ⟨result, middle, before, later, rfl, authenticates, outcome⟩ := checked named handled
  rcases outcome with ⟨_, served, _⟩ | ⟨⟨failure, rfl⟩, _⟩
  · exact served
  · obtain ⟨row, among, owned, absolute, expires⟩ := held.row
    have accepted : ∃ authenticated : AuthenticatedSession,
        Except.error failure = Except.ok authenticated := by
      apply authenticate_open authenticates held.named held.consistent ⟨row, among, owned⟩
      intro session member equal read told
      have one := held.consistent.unique member among (equal.trans owned.symm)
      subst one
      have same := reading read (by
        unfold ReadAt
        rw [List.map_append]
        exact List.mem_append_left _ told)
      subst same
      have within : read < session.absoluteExpiresAt := by
        rw [absolute]
        exact open_.2
      refine ⟨?_, within⟩
      rcases expires with later_ | same
      · exact Int.lt_of_lt_of_le open_.1 later_
      · rw [same]
        exact within
    obtain ⟨_, impossible⟩ := accepted
    cases impossible

end Visit

/-! ## Every run -/

private theorem receive_nothing {jar : List Cookie} {response : Response}
    (nothing : response.cookies = []) : receive jar response = jar := by
  simp [receive, nothing]

private theorem Keeps.held {site : Site} {db : Database} {grant : SessionGrant}
    {before after : State} (keeps : Keeps db grant.sessionToken before after)
    (held : Held site db grant before) : Held site db grant after := by
  obtain ⟨row, among, owned, rest⟩ := held.row
  exact ⟨held.named, keeps.consistent held.consistent, Int.le_trans held.past keeps.later, row,
    keeps.stays row among owned, owned, rest⟩

private theorem visits_served {site : Site} {db : Database} {grant : SessionGrant}
    {jar : List Cookie} {state : State} {visits : List (Instant × Prop)}
    (columns : OrderedColumns db) (held : Held site db grant state)
    (same : jar = site.setAuthCookies grant)
    (run : Visits site db grant.sessionToken jar state visits) :
    (∀ visit ∈ visits, visit.2) ↔ ∀ visit ∈ visits, Open site db grant visit.1 := by
  induction run with
  | ceased => simp
  | visit sent handled reading others further ih =>
      rw [same] at sent
      rw [List.forall_mem_cons, List.forall_mem_cons]
      constructor
      · intro ⟨served, rest⟩
        obtain ⟨open_, cookies, still⟩ := served_open columns held sent handled reading served
        exact ⟨open_, (ih (others.held still) ((receive_nothing cookies).trans same)).mp rest⟩
      · intro ⟨open_, rest⟩
        have served := open_served held sent handled reading open_
        obtain ⟨_, cookies, still⟩ := served_open columns held sent handled reading served
        exact ⟨served, (ih (others.held still) ((receive_nothing cookies).trans same)).mpr rest⟩

/-- A browser is let through exactly until the cookie of its login expires,
however the session slides on in the database. -/
theorem sliding_session {site : Site} {db : Database} {request : Request} {start state : State}
    {moments : List (Moment Call Call.Reply State)} {response : Response}
    (columns : OrderedColumns db) (consistent : Consistent db start)
    (alone : Alone db (site.login request) start moments response state)
    (welcome : response.status = 200) :
    ∃ grant, response.cookies = site.setAuthCookies grant ∧ Opened site.service db grant state ∧
      ∀ visits, Visits site db grant.sessionToken response.cookies state visits →
        ((∀ visit ∈ visits, visit.2) ↔ ∀ visit ∈ visits, Open site db grant visit.1) := by
  obtain ⟨grant, cookies, opened⟩ := login_grants consistent alone welcome
  refine ⟨grant, cookies, opened, ?_⟩
  intro visits run
  exact visits_served columns (opened.held columns) cookies run

/-! ## A day at the panel -/

/-- No pause is as long as the idle limit less a touch interval, and nothing
happens after the absolute limit. -/
def Steady (site : Site) (login : Instant) (instants : List Instant) : Prop :=
  (login :: instants).IsChain (fun earlier later => earlier ≤ later ∧
    later - earlier < site.service.options.idleTTL - site.service.options.touchInterval) ∧
  ∀ instant ∈ instants, instant < login + site.service.options.absoluteTTL

/-- Whoever keeps using the panel stays signed in. -/
def StaysSignedIn (site : Site) (db : Database) : Prop :=
  ∀ request start moments response state grant visits, Consistent db start →
    Alone db (site.login request) start moments response state → response.status = 200 →
    response.cookies = site.setAuthCookies grant → Opened site.service db grant state →
    Visits site db grant.sessionToken response.cookies state visits →
    Steady site (grant.expiresAt - site.service.options.idleTTL) (visits.map (·.1)) →
    ∀ visit ∈ visits, visit.2

def sqlite : Database := Database.plain .sqlite

def signing : Request where
  method := text "POST"
  path := text "/api/v1/auth/login"
  host := text "panel.example.test"
  headers := [(text "Origin", text "https://panel.example.test")]
  cookies := []
  credentials := .ok (text "admin", text "password")

def browsing (jar : List Cookie) (now : Instant) : Request where
  method := text "GET"
  path := text "/api/v1/servers"
  host := text "panel.example.test"
  headers := []
  cookies := sentCookies jar now
  credentials := .ok ([], [])

def visit (jar : List Cookie) (state : State) (now : Instant) :
    Option (List (Moment Call Call.Reply State) × Response × State) :=
  (panel.requireSession (browsing jar now) fun _ => Site.foreign .feature).execute
    (answering sqlite) (returning now ++ [.entered, .responded 200]) state

def Moment.serves (moment : Moment Call Call.Reply State) : Bool :=
  match moment.event with
  | ⟨.enter .feature, _⟩ => true
  | _ => false

theorem served_serves {moments : List (Moment Call Call.Reply State)} (served : Served moments) :
    moments.any Moment.serves = true := by
  obtain ⟨moment, member, entered⟩ := List.mem_map.mp served
  refine List.any_eq_true.mpr ⟨moment, member, ?_⟩
  unfold Moment.serves
  rw [entered]

/-- A login, and two visits: the readings of each and whether it was let through. -/
def day (first second : Instant) : Option (Nat × Instant × List (List Instant × Bool)) := do
  let (_, response, state) ← (panel.login signing).execute (perform sqlite)
    (.entered :: signingIn 0) installed
  let (morning, reply, after) ← visit response.cookies state first
  let (evening, _, _) ← visit (receive response.cookies reply) after second
  return (response.status, (response.cookies.headD ⟨[], [], 0, false, false⟩).expires,
    [(readings morning, morning.any Moment.serves), (readings evening, evening.any Moment.serves)])

private theorem keeps_refl (db : Database) (rawToken : GoString) (state : State) :
    Keeps db rawToken state state :=
  ⟨⟨Int.le_refl _, fun _ member _ => member, id⟩, fun _ member _ => member⟩

private theorem visit_visits {rawToken : GoString} {jar : List Cookie} {state after : State}
    {now : Instant} {moments : List (Moment Call Call.Reply State)} {response : Response}
    {later : List (Instant × Prop)}
    (visited : visit jar state now = some (moments, response, after))
    (reading : ∀ other ∈ readings moments, other = now)
    (further : Visits panel sqlite rawToken (receive jar response) after later) :
    Visits panel sqlite rawToken jar state ((now, Served moments) :: later) := by
  have sent : (browsing jar now).cookies = sentCookies jar now := rfl
  refine .visit sent (Program.execute_traces (fun _ => rfl) visited) ?_ (keeps_refl _ _ _) further
  intro other read
  exact reading other (mem_readings.mpr read)

/-- The day as a run, with the grant of its login. -/
private theorem day_visits {first second : Instant} {status : Nat} {expires : Instant}
    {served : Bool} {read : List Instant}
    (lived : day first second = some (status, expires, [([first], true), (read, served)]))
    (reading : ∀ other ∈ read, other = second) :
    ∃ moments response state morning evening,
      Alone sqlite (panel.login signing) installed moments response state ∧
      response.status = status ∧
      (response.cookies.headD ⟨[], [], 0, false, false⟩).expires = expires ∧
      (∀ rawToken, Visits panel sqlite rawToken response.cookies state
        [(first, Served morning), (second, Served evening)]) ∧
      evening.any Moment.serves = served := by
  unfold day at lived
  obtain ⟨⟨moments, response, state⟩, signed, lived⟩ := Option.bind_eq_some_iff.mp lived
  obtain ⟨⟨morning, reply, after⟩, opened, lived⟩ := Option.bind_eq_some_iff.mp lived
  obtain ⟨⟨evening, last, final⟩, closed, lived⟩ := Option.bind_eq_some_iff.mp lived
  simp only [pure, Option.some.injEq, Prod.mk.injEq, List.cons.injEq, and_true] at lived
  obtain ⟨rfl, rfl, ⟨early, _⟩, late, rfl⟩ := lived
  refine ⟨moments, response, state, morning, evening,
    Program.execute_traces (fun _ => rfl) signed, rfl, rfl, ?_, rfl⟩
  intro rawToken
  apply visit_visits opened
  · intro other member
    rw [early] at member
    exact List.mem_singleton.mp member
  · apply visit_visits closed
    · rw [late]
      exact reading
    · exact .ceased

private theorem sqlite_ordered : OrderedColumns sqlite :=
  ⟨fun _ _ before => before, fun _ => rfl, fun _ => rfl⟩

theorem sliding_session_day : ∃ grant state morning evening,
    Opened panel.service sqlite grant state ∧
    ((∀ visit ∈ [(6 * hour, Served morning), (11 * hour, Served evening)], visit.2) ↔
      ∀ visit ∈ [(6 * hour, Served morning), (11 * hour, Served evening)],
        Open panel sqlite grant visit.1) ∧
    Served evening := by
  have lived : day (6 * hour) (11 * hour) =
      some (200, 12 * hour, [([6 * hour], true), ([11 * hour], true)]) := by decide +kernel
  obtain ⟨moments, response, state, morning, evening, alone, welcome, expires, visits, served⟩ :=
    day_visits lived fun other member => List.mem_singleton.mp member
  obtain ⟨grant, cookies, opened, exact_⟩ :=
    sliding_session sqlite_ordered (installed_consistent _) alone welcome
  refine ⟨grant, state, morning, evening, opened, exact_ _ (visits grant.sessionToken), ?_⟩
  obtain ⟨moment, member, entered⟩ := List.any_eq_true.mp served
  refine List.mem_map.mpr ⟨moment, member, ?_⟩
  unfold Moment.serves at entered
  split at entered
  · next is => exact is
  · cases entered

/-- Six hours, then seven: the session is alive, but the browser has dropped its cookie. -/
theorem sliding_session_evening : ¬ StaysSignedIn panel sqlite := by
  intro stays
  have lived : day (6 * hour) (13 * hour) =
      some (200, 12 * hour, [([6 * hour], true), ([], false)]) := by decide +kernel
  obtain ⟨moments, response, state, morning, evening, alone, welcome, expires, visits, unserved⟩ :=
    day_visits lived fun other member => by cases member
  obtain ⟨grant, cookies, opened⟩ := login_grants (installed_consistent _) alone welcome
  have ends : Site.cookieExpires grant.expiresAt = 12 * hour := by
    rw [cookies] at expires
    exact expires
  have steady : Steady panel (grant.expiresAt - panel.service.options.idleTTL)
      [6 * hour, 13 * hour] := by
    simp only [Site.cookieExpires, hour] at ends
    constructor
    · simp only [List.isChain_cons_cons, List.isChain_singleton, panel, ServiceOptions.standard, hour]
      refine ⟨⟨?_, ?_⟩, ⟨?_, ?_⟩, trivial⟩ <;> lia
    · simp only [List.forall_mem_cons, panel, ServiceOptions.standard, hour]
      refine ⟨?_, ?_, fun _ member => by cases member⟩ <;> lia
  have served := stays signing installed moments response state grant _ (installed_consistent _)
    alone welcome cookies opened (visits grant.sessionToken) steady (13 * hour, Served evening)
    (by simp)
  rw [served_serves served] at unserved
  cases unserved

end NodeAtlas.Auth
