import NodeAtlas.Auth.Process

/-! One administrator, who signs in with a password: what holds of the users and
the sessions tables in every run without a restore. -/

set_option autoImplicit false

namespace NodeAtlas.Auth

open Interleaving

/-! ## What one call does to the tables -/

/-- The call set the administrator up. -/
def isSetup : SiteEvent → Bool
  | ⟨.initializeUser _, .ok _⟩ => true
  | _ => false

/-- The calls that may change the users table. -/
def changesUsers : SiteEvent → Bool
  | ⟨.initializeUser _, .ok _⟩ => true
  | ⟨.updateLastLogin _ _, .ok _⟩ => true
  | ⟨.updatePasswordAndRevokeSessions _ _ _, .ok _⟩ => true
  | _ => false

inductive UsersChange (db : Database) : List User → SiteEvent → List User → Prop where
  | kept {users : List User} {event : SiteEvent} (quiet : changesUsers event = false) :
      UsersChange db users event users
  | created (user : User) :
      UsersChange db [] ⟨.initializeUser user, .ok ()⟩
        [{ user with initializedAt := db.stamp user.initializedAt, lastLoginAt := none }]
  | seen {users : List User} {id : GoString} {at_ : Instant} :
      UsersChange db users ⟨.updateLastLogin id at_, .ok ()⟩
        (changeUser db id (fun user => { user with lastLoginAt := some (db.stamp at_) }) users)
  | rehashed {users : List User} {id encoded keep : GoString} :
      UsersChange db users ⟨.updatePasswordAndRevokeSessions id encoded keep, .ok ()⟩
        (changeUser db id (fun user => { user with passwordHash := encoded }) users)

/-- The call makes this session invalid. -/
def revokes (db : Database) (session : Session) : SiteEvent → Bool
  | ⟨.deleteSession hash, .ok _⟩ => session.tokenHash = hash
  | ⟨.updatePasswordAndRevokeSessions id _ keep, .ok _⟩ => db.same session.userID id && session.tokenHash ≠ keep
  | _ => false

/-- The call made a session of this token for this user. -/
def Opens (session : Session) (event : SiteEvent) : Prop :=
  ∃ made : Session, event = ⟨.createSession made, .ok ()⟩ ∧ made.tokenHash = session.tokenHash ∧
    made.userID = session.userID

/-- Whoever has a session had it before, and it was not revoked, or has it by this call. -/
def SessionsChange (db : Database) (sessions : List Session) (event : SiteEvent) (after : List Session) : Prop :=
  ∀ session ∈ after, Opens session event ∨
    ∃ former ∈ sessions, former.tokenHash = session.tokenHash ∧ former.userID = session.userID ∧
      revokes db session event = false

section Calls

variable {db : Database} {call : Call} {choice : Choice} {state next : State} {reply : call.Reply}

theorem perform_users (answered : perform db call choice state = some (reply, next)) :
    UsersChange db state.users ⟨call, reply⟩ next.users := by
  cases call with
  | initializeUser user =>
      cases choice with
      | database fault =>
          simp only [perform] at answered
          split at answered
          · cases answered
            exact .kept rfl
          · split at answered
            · next empty =>
                cases answered
                rw [List.isEmpty_iff.mp empty]
                exact .created user
            · cases answered
              exact .kept rfl
      | _ => cases answered
  | updateLastLogin id at_ | updatePasswordAndRevokeSessions id encoded keep =>
      cases choice with
      | database fault =>
          simp only [perform] at answered
          split at answered <;> cases answered
          · exact .kept rfl
          · constructor
      | _ => cases answered
  | now =>
      cases choice with
      | instant value =>
          simp only [perform] at answered
          split at answered <;> cases answered
          exact .kept rfl
      | _ => cases answered
  | random =>
      obtain ⟨rfl, _⟩ := perform_random answered
      exact .kept rfl
  | createSession session =>
      rcases perform_createSession answered with ⟨_, _, _, rfl⟩ | ⟨_, rfl⟩ <;> exact .kept rfl
  | touchSession hash lastSeen expires =>
      rcases perform_touchSession answered with ⟨_, rfl⟩ | ⟨_, rfl⟩ <;> exact .kept rfl
  | deleteSession hash =>
      rw [(perform_deleteSession answered).2.1]
      exact .kept rfl
  | newID | verify _ _ | hashPassword _ | isInitialized | findUserByNormalizedUsername _ | findUserByID _
  | findSessionByTokenHash _ | enter _ | respond _ =>
      cases choice <;> cases answered
      exact .kept rfl

private theorem SessionsChange.refl {event : SiteEvent} (quiet : ∀ session, revokes db session event = false) :
    SessionsChange db state.sessions event state.sessions :=
  fun session member => .inr ⟨session, member, rfl, rfl, quiet session⟩

theorem perform_sessions (answered : perform db call choice state = some (reply, next)) :
    SessionsChange db state.sessions ⟨call, reply⟩ next.sessions := by
  cases call with
  | createSession session =>
      rcases perform_createSession answered with ⟨rfl, _, _, rfl⟩ | ⟨_, rfl⟩
      · intro other member
        rcases List.mem_append.mp member with former | fresh
        · exact .inr ⟨other, former, rfl, rfl, rfl⟩
        · rw [List.mem_singleton.mp fresh]
          exact .inl ⟨session, rfl, rfl, rfl⟩
      · exact .refl fun _ => rfl
  | touchSession hash lastSeen expires =>
      rcases perform_touchSession answered with ⟨rfl, rfl⟩ | ⟨_, rfl⟩
      · intro session member
        obtain ⟨former, before, rfl⟩ := List.mem_map.mp member
        refine .inr ⟨former, before, ?_, ?_, rfl⟩ <;> split <;> rfl
      · exact .refl fun _ => rfl
  | deleteSession hash =>
      cases choice with
      | database fault =>
          simp only [perform] at answered
          split at answered <;> cases answered
          · exact .refl fun _ => rfl
          · intro session member
            obtain ⟨former, other⟩ := List.mem_filter.mp member
            refine .inr ⟨session, former, rfl, rfl, ?_⟩
            simpa [revokes] using other
      | _ => cases answered
  | updatePasswordAndRevokeSessions id encoded keep =>
      cases choice with
      | database fault =>
          simp only [perform] at answered
          split at answered <;> cases answered
          · exact .refl fun _ => rfl
          · intro session member
            obtain ⟨former, other⟩ := List.mem_filter.mp member
            rw [Bool.not_eq_true'] at other
            exact .inr ⟨session, former, rfl, rfl, other⟩
      | _ => cases answered
  | now =>
      cases choice with
      | instant value =>
          simp only [perform] at answered
          split at answered <;> cases answered
          exact .refl fun _ => rfl
      | _ => cases answered
  | random =>
      obtain ⟨rfl, _⟩ := perform_random answered
      exact .refl fun _ => rfl
  | initializeUser user =>
      cases choice with
      | database fault =>
          simp only [perform] at answered
          repeat' split at answered
          all_goals
            cases answered
            exact .refl fun _ => rfl
      | _ => cases answered
  | updateLastLogin id at_ =>
      rw [(perform_updateLastLogin answered).1]
      exact .refl fun _ => rfl
  | newID | verify _ _ | hashPassword _ | isInitialized | findUserByNormalizedUsername _ | findUserByID _
  | findSessionByTokenHash _ | enter _ | respond _ =>
      cases choice <;> cases answered
      exact .refl fun _ => rfl

/-- The user that a call answered with. -/
def foundUser : SiteEvent → Option User
  | ⟨.findUserByNormalizedUsername _, .ok user⟩ => some user
  | ⟨.findUserByID _, .ok user⟩ => some user
  | _ => none

def foundSession : SiteEvent → Option Session
  | ⟨.findSessionByTokenHash _, .ok session⟩ => some session
  | _ => none

theorem perform_foundUser (answered : perform db call choice state = some (reply, next)) {user : User}
    (is : foundUser ⟨call, reply⟩ = some user) : user ∈ state.users := by
  cases call with
  | findUserByNormalizedUsername username | findUserByID id =>
      cases choice with
      | database fault =>
          cases reply with
          | error failure => cases is
          | ok other =>
              cases is
              exact List.mem_of_find?_eq_some (found_ok (Prod.mk.inj (Option.some.inj answered)).1)
      | _ => cases answered
  | _ => cases is

theorem perform_foundSession (answered : perform db call choice state = some (reply, next)) {session : Session}
    (is : foundSession ⟨call, reply⟩ = some session) : session ∈ state.sessions := by
  cases call with
  | findSessionByTokenHash hash =>
      cases reply with
      | error failure => cases is
      | ok other =>
          cases is
          exact ((perform_findSessionByTokenHash answered).2 session rfl).1
  | _ => cases is

theorem perform_isInitialized {value : Bool}
    (answered : perform db .isInitialized choice state = some (.ok value, next)) : value = !state.users.isEmpty := by
  cases choice with
  | database fault =>
      simp only [perform] at answered
      split at answered <;> cases answered
      rfl
  | _ => cases answered

end Calls

/-! ## What the calls made so far say about the tables -/

/-- The call created this user; only the password and the last login may have changed. -/
def Creates (db : Database) (user : User) (event : SiteEvent) : Prop :=
  ∃ created : User, event = ⟨.initializeUser created, .ok ()⟩ ∧ created.id = user.id ∧
    created.username = user.username ∧ created.normalizedUsername = user.normalizedUsername ∧
    db.stamp created.initializedAt = user.initializedAt

/-- The call stored this password hash. -/
def Stores (encoded : GoString) : SiteEvent → Prop
  | ⟨.initializeUser user, .ok _⟩ => user.passwordHash = encoded
  | ⟨.updatePasswordAndRevokeSessions _ given _, .ok _⟩ => given = encoded
  | _ => False

/-- What a call says about those before it. -/
structure Truthful (db : Database) (earlier : List (Nat × SiteEvent)) (event : SiteEvent) : Prop where
  fitting : fits event
  user : ∀ user, foundUser event = some user →
    (∃ entry ∈ earlier, Creates db user entry.2) ∧ ∃ entry ∈ earlier, Stores user.passwordHash entry.2
  session : ∀ session, foundSession event = some session → ∃ entry ∈ earlier, Opens session entry.2
  status : ∀ value, event = ⟨.isInitialized, .ok value⟩ → value = earlier.any fun entry => isSetup entry.2
  setup : isSetup event = true → ∀ entry ∈ earlier, isSetup entry.2 = false

structure Household (db : Database) (config : SiteConfig) : Prop where
  truthful : Recorded (fun earlier _ event => Truthful db earlier event) config.history
  most : config.state.users.length ≤ 1
  empty : config.state.users.isEmpty = !config.history.any fun entry => isSetup entry.2
  users : ∀ user ∈ config.state.users,
    (∃ entry ∈ config.history, Creates db user entry.2) ∧ ∃ entry ∈ config.history, Stores user.passwordHash entry.2
  sessions : ∀ session ∈ config.state.sessions, ∃ entry ∈ config.history, Opens session entry.2

section Changes

variable {db : Database} {users after : List User} {event : SiteEvent}

private theorem later {Entry : Type} {holds : Entry → Prop} {first : Entry} {entries : List Entry}
    (before : ∃ entry ∈ entries, holds entry) : ∃ entry ∈ first :: entries, holds entry := by
  obtain ⟨entry, member, held⟩ := before
  exact ⟨entry, List.mem_cons_of_mem _ member, held⟩

theorem UsersChange.setup (changed : UsersChange db users event after) (is : isSetup event = true) : users = [] := by
  cases changed with
  | kept quiet =>
      unfold isSetup at is
      split at is
      · cases quiet
      · cases is
  | created user => rfl
  | seen | rehashed => cases is

theorem UsersChange.length (changed : UsersChange db users event after) :
    after.length = users.length + (if isSetup event then 1 else 0) := by
  cases changed with
  | kept quiet =>
      rw [if_neg]
      · rfl
      · intro is
        unfold isSetup at is
        split at is
        · cases quiet
        · cases is
  | created user => rfl
  | seen | rehashed => exact List.length_map _

theorem UsersChange.origin (changed : UsersChange db users event after) {history : List (Nat × SiteEvent)} {t : Nat}
    (known : ∀ user ∈ users,
      (∃ entry ∈ history, Creates db user entry.2) ∧ ∃ entry ∈ history, Stores user.passwordHash entry.2) :
    ∀ user ∈ after, (∃ entry ∈ (t, event) :: history, Creates db user entry.2) ∧
      ∃ entry ∈ (t, event) :: history, Stores user.passwordHash entry.2 := by
  intro user member
  cases changed with
  | kept quiet => exact ⟨later (known user member).1, later (known user member).2⟩
  | created made =>
      rw [List.mem_singleton.mp member]
      exact ⟨⟨_, List.mem_cons_self, made, rfl, rfl, rfl, rfl, rfl⟩, _, List.mem_cons_self, rfl⟩
  | @seen _ id at_ =>
      obtain ⟨former, before, rfl⟩ := List.mem_map.mp member
      obtain ⟨created, stored⟩ := known former before
      split
      · exact ⟨later created, later stored⟩
      · exact ⟨later created, later stored⟩
  | @rehashed _ id encoded keep =>
      obtain ⟨former, before, rfl⟩ := List.mem_map.mp member
      obtain ⟨created, stored⟩ := known former before
      split
      · exact ⟨later created, _, List.mem_cons_self, rfl⟩
      · exact ⟨later created, later stored⟩

end Changes

section Runs

variable {site : Site} {db : Database} {clock : Instant} {config next : SiteConfig} {label : SiteLabel}

private theorem Household.performed {t : Nat} {call : Call} {choice : Choice} {reply : call.Reply} {state : State}
    {task : Activity} {rest : Process Outcome} (household : Household db config)
    (answered : perform db call choice config.state = some (reply, state)) :
    Household db (config.advance t task ⟨call, reply⟩ rest state) := by
  have users := perform_users answered
  refine ⟨household.truthful.cons ?_, ?_, ?_, users.origin household.users, ?_⟩
  · constructor
    · exact perform_fits answered
    · exact fun user is => household.users user (perform_foundUser answered is)
    · exact fun session is => household.sessions session (perform_foundSession answered is)
    · intro value same
      cases same
      rw [perform_isInitialized answered, household.empty, Bool.not_not]
    · intro is entry member
      have none_ := household.empty
      rw [users.setup is] at none_
      simp only [List.isEmpty_nil, Bool.true_eq, Bool.not_eq_true', List.any_eq_false, Bool.not_eq_true] at none_
      exact none_ entry member
  · change state.users.length ≤ 1
    have length := users.length
    by_cases is : isSetup ⟨call, reply⟩ = true
    · rw [users.setup is, if_pos is] at length
      exact Nat.le_of_eq length
    · rw [if_neg is] at length
      rw [length]
      exact household.most
  · change state.users.isEmpty = !(isSetup ⟨call, reply⟩ || config.history.any fun entry => isSetup entry.2)
    have length := users.length
    by_cases is : isSetup ⟨call, reply⟩ = true
    · rw [if_pos is] at length
      simp only [is, Bool.true_or, Bool.not_true, List.isEmpty_eq_false_iff]
      rintro empty
      rw [empty] at length
      cases length
    · rw [if_neg is] at length
      rw [Bool.not_eq_true] at is
      rw [is, Bool.false_or, ← household.empty, Bool.eq_iff_iff, List.isEmpty_iff_length_eq_zero,
        List.isEmpty_iff_length_eq_zero, length, Nat.add_zero]
  · intro session member
    rcases perform_sessions answered session member with opened | ⟨former, before, sameHash, sameUser, _⟩
    · exact ⟨_, List.mem_cons_self, opened⟩
    · obtain ⟨entry, among, made, event, hash, user⟩ := household.sessions former before
      exact ⟨entry, List.mem_cons_of_mem _ among, made, event, hash.trans sameHash, user.trans sameUser⟩

private theorem Household.step (household : Household db config)
    (transition : (system site db).Transition config label next) : Household db next := by
  obtain ⟨truthful, most, empty, users, sessions⟩ := household
  cases transition with
  | spawned activity => exact ⟨truthful, most, empty, users, sessions⟩
  | performed found answered => exact Household.performed ⟨truthful, most, empty, users, sessions⟩ answered
  | external acted => cases acted
  | crashed => exact ⟨truthful, most, empty, users, sessions⟩

theorem SiteRun.household (run : SiteRun site db clock config) : Household db config := by
  refine System.Run.invariant run ⟨.nil, Nat.zero_le 1, rfl, ?_, ?_⟩ fun _ _ _ _ transition _ held => held.step transition
  · intro user impossible
    cases impossible
  · intro session impossible
    cases impossible

end Runs

/-! ## The administrator is set up once -/

/-- The request was answered as the one that created the administrator. -/
def Greeted (config : SiteConfig) (t : Nat) : Prop :=
  ∃ thread response, config.threads[t]? = some thread ∧ thread.outcome = some (.answered response) ∧
    response.status = 201 ∧ response.user ≠ none

structure SetUpOnce (db : Database) (config : SiteConfig) : Prop where
  users : config.state.users.length ≤ 1
  setups : (config.history.countP fun entry => isSetup entry.2) ≤ 1
  greeted : ∀ t u, Greeted config t → Greeted config u → t = u
  status : ∀ later t value earlier, config.history = later ++ (t, ⟨.isInitialized, .ok value⟩) :: earlier →
    value = earlier.any fun entry => isSetup entry.2
  same : ∀ user ∈ config.state.users, ∃ entry ∈ config.history, Creates db user entry.2

section Laws

variable {site : Site} {db : Database} {clock : Instant} {config : SiteConfig}

theorem Household.setup_unique (household : Household db config) {first second : Nat × SiteEvent}
    (left : first ∈ config.history) (right : second ∈ config.history) (sets : isSetup first.2 = true)
    (too : isSetup second.2 = true) : first = second := by
  obtain same | ⟨earlier, last, member⟩ | ⟨earlier, last, member⟩ := member_order left right
  · exact same
  · have none_ := (household.truthful first.1 first.2 earlier last).setup sets second member
    rw [too] at none_
    cases none_
  · have none_ := (household.truthful second.1 second.2 earlier last).setup too first member
    rw [sets] at none_
    cases none_

/-- Whatever the requests do at the same time, and whichever calls fail: there is
one administrator at most, one setup at most succeeds and is greeted, the setup
status never goes back, and the administrator keeps the name it was created with. -/
theorem administrator_set_up_once (run : SiteRun site db clock config) : SetUpOnce db config where
  users := run.household.most
  setups := by
    apply countP_once
    intro entry earlier last sets
    exact (run.household.truthful entry.1 entry.2 earlier last).setup sets
  greeted := by
    have created : ∀ t, Greeted config t → ∃ user, (t, (⟨.initializeUser user, .ok ()⟩ : SiteEvent)) ∈ config.history := by
      rintro t ⟨thread, response, found, returned, status, named⟩
      obtain ⟨user, member⟩ := run.disciplined.closed found returned status named
      exact ⟨user, mem_own.mp member⟩
    intro t u first second
    obtain ⟨user, left⟩ := created t first
    obtain ⟨other, right⟩ := created u second
    exact congrArg Prod.fst (run.household.setup_unique left right rfl rfl)
  status later t value earlier split_ := by
    have last : (t, (⟨.isInitialized, .ok value⟩ : SiteEvent)) :: earlier <:+ config.history :=
      split_ ▸ List.suffix_append later _
    exact (run.household.truthful t _ earlier last).status value rfl
  same user member := (run.household.users user member).1

/-- The status that a thread has answered with. -/
def answeredWith (thread : Thread Call Call.Reply Activity Outcome) : Option Nat :=
  match thread.outcome with
  | some (.answered response) => some response.status
  | _ => none

set_option maxRecDepth 8000 in
theorem administrator_set_up_once_raced : ∃ config : SiteConfig,
    config.threads.map answeredWith = [some 409, some 201] ∧ SetUpOnce (Database.plain .sqlite) config := by
  have happened : ((system panel (Database.plain .sqlite)).outcome (fun _ => true) raced
      (Config.initial (freshState 0))).map (fun config => config.threads.map answeredWith) =
        some [some 409, some 201] := by
    decide
  obtain ⟨config, reached, statuses⟩ := Option.map_eq_some_iff.mp happened
  have run : SiteRun panel (Database.plain .sqlite) 0 config := System.outcome_run reached fun _ _ _ => trivial
  exact ⟨config, statuses, administrator_set_up_once run⟩

/-! ## Nobody gets in without a password -/

/-- The thread made a session after the password of a user was given to it, which
somebody had stored for this user before. -/
structure SignedInWith (rawToken : GoString) (u : Nat) (made : Session) (earlier : List (Nat × SiteEvent)) : Prop where
  named : made.tokenHash = sha256 rawToken
  proved : ∃ (user : User) (password : GoString), made.userID = user.id ∧
    (u, (⟨.verify user.passwordHash password, .ok true⟩ : SiteEvent)) ∈ earlier ∧
    ∃ entry ∈ earlier, Stores user.passwordHash entry.2

private theorem SiteRun.session_proved (run : SiteRun site db clock config) {rawToken : GoString} {u : Nat}
    {made : Session} {earlier : List (Nat × SiteEvent)} (named : made.tokenHash = sha256 rawToken)
    (last : (u, (⟨.createSession made, .ok ()⟩ : SiteEvent)) :: earlier <:+ config.history) :
    SignedInWith rawToken u made earlier := by
  obtain ⟨later, whole⟩ := last
  obtain ⟨thread, _, user, username, sameUser, ⟨password, verified⟩, told⟩ :=
    run.disciplined.justified whole.symm
  refine ⟨named, user, password, sameUser, mem_own.mp verified, ?_⟩
  have suffix : earlier <:+ config.history :=
    (List.suffix_cons _ _).trans (whole ▸ List.suffix_append later _)
  obtain ⟨before, among, truthful⟩ := run.household.truthful.mem suffix (mem_own.mp told)
  obtain ⟨entry, member, stores⟩ := (truthful.user user rfl).2
  exact ⟨entry, ((List.suffix_cons _ _).trans among).subset member, stores⟩

/-- The session that a thread has found for its token was made for this token. -/
private theorem SiteRun.session_made (run : SiteRun site db clock config) {t : Nat} {activity : Activity}
    {visible : List (Nat × SiteEvent)} (last : visible <:+ config.history)
    (looked : Looked activity.token (own t visible)) :
    ∃ rawToken session before, activity.token = some rawToken ∧ session.tokenHash = sha256 rawToken ∧
      (t, (⟨.findSessionByTokenHash (sha256 rawToken), .ok session⟩ : SiteEvent)) :: before <:+ visible ∧
      ∃ entry ∈ before, Opens session entry.2 := by
  obtain ⟨rawToken, session, named, found⟩ := looked
  obtain ⟨before, among, truthful⟩ := run.household.truthful.mem last (mem_own.mp found)
  exact ⟨rawToken, session, before, named, truthful.fitting, among, truthful.session session rfl⟩

/-- Behind every handler that is for the administrator stands a session that was
made for the token of this request once the right password had been given. -/
theorem handlers_need_a_password (run : SiteRun site db clock config) {later earlier : List (Nat × SiteEvent)} {t : Nat}
    {handler : Handler} (split_ : config.history = later ++ (t, ⟨.enter handler, ()⟩) :: earlier)
    (needs : handler.needsSession = true) :
    ∃ activity rawToken u made before, config.task t = some activity ∧ activity.token = some rawToken ∧
      (u, (⟨.createSession made, .ok ()⟩ : SiteEvent)) :: before <:+ earlier ∧ SignedInWith rawToken u made before := by
  obtain ⟨thread, found, ruled⟩ := run.disciplined.justified split_
  have suffix : earlier <:+ config.history :=
    (List.suffix_cons _ _).trans (split_ ▸ List.suffix_append later _)
  obtain ⟨rawToken, session, before, named, hash, among, ⟨u, event⟩, member, made, opened, sameHash, _⟩ :=
    run.session_made suffix (ruled needs)
  dsimp only at opened
  subst opened
  obtain ⟨front, behind, rfl⟩ := List.append_of_mem member
  have last : (u, (⟨.createSession made, .ok ()⟩ : SiteEvent)) :: behind <:+ earlier :=
    ((List.suffix_append front _).trans (List.suffix_cons _ _)).trans among
  refine ⟨thread.task, rawToken, u, made, behind, ?_, named, last, ?_⟩
  · rw [Config.task, found]
    rfl
  · exact run.session_proved (sameHash.trans hash) (last.trans suffix)

end Laws

/-- The handler that a call lets run. -/
def entered : SiteEvent → Option Handler
  | ⟨.enter handler, _⟩ => some handler
  | _ => none

theorem entered_event {event : SiteEvent} {handler : Handler} (is : entered event = some handler) :
    event = ⟨.enter handler, ()⟩ := by
  unfold entered at is
  split at is
  · cases is
    rfl
  · cases is

set_option maxRecDepth 8000 in
theorem handlers_need_a_password_overtaken : ∃ (config : SiteConfig) (earlier : List (Nat × SiteEvent)),
    config.history = (4, ⟨.enter .feature, ()⟩) :: earlier ∧
    ∃ activity rawToken u made before, config.task 4 = some activity ∧ activity.token = some rawToken ∧
      (u, (⟨.createSession made, .ok ()⟩ : SiteEvent)) :: before <:+ earlier ∧ SignedInWith rawToken u made before := by
  have happened : (((system panel (Database.plain .sqlite)).outcome (fun _ => true) overtaken
      (Config.initial (freshState 0))).bind fun config =>
        config.history.head?.map fun entry => (entry.1, entered entry.2)) = some (4, some .feature) := by
    decide
  obtain ⟨config, reached, first⟩ := Option.bind_eq_some_iff.mp happened
  obtain ⟨⟨t, event⟩, head, is⟩ := Option.map_eq_some_iff.mp first
  simp only [Prod.mk.injEq] at is
  obtain ⟨rfl, is⟩ := is
  obtain ⟨earlier, split_⟩ := List.head?_eq_some_iff.mp head
  have whole : config.history = [] ++ (4, ⟨.enter .feature, ()⟩) :: earlier := by
    rw [split_, entered_event is]
    rfl
  have run : SiteRun panel (Database.plain .sqlite) 0 config := System.outcome_run reached fun _ _ _ => trivial
  exact ⟨config, earlier, whole, handlers_need_a_password run whole rfl⟩

end NodeAtlas.Auth
