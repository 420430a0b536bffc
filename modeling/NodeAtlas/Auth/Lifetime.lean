import NodeAtlas.Auth.Service

/-! How long a session lives. The expiry of a session is moved on only once per
touch interval and never past the absolute limit, so what the row says about
the last use lags behind the use itself. -/

set_option autoImplicit false

namespace NodeAtlas.Auth

open Interleaving

/-- What the schema of the users and sessions tables demands. -/
structure Consistent (db : Database) (state : State) : Prop where
  primary : state.sessions.Pairwise fun left right => left.tokenHash ≠ right.tokenHash
  references : ∀ session ∈ state.sessions, ∃ user ∈ state.users, db.same user.id session.userID = true

theorem Consistent.unique {db : Database} {state : State} {first second : Session}
    (consistent : Consistent db state) (left : first ∈ state.sessions)
    (right : second ∈ state.sessions) (same : first.tokenHash = second.tokenHash) :
    first = second := by
  by_contra different
  have symmetric : Std.Symm fun left right : Session => left.tokenHash ≠ right.tokenHash :=
    ⟨fun _ _ => Ne.symm⟩
  exact List.Pairwise.forall consistent.primary left right different same

/-- A time column gives back what is written to it up to `loss`, and exactly
what it gave back once. -/
structure TimeColumns (db : Database) (loss : Duration) : Prop where
  near : ∀ instant, instant - loss ≤ db.stamp instant ∧ db.stamp instant ≤ instant + loss
  again : ∀ instant, db.stamp (db.stamp instant) = db.stamp instant

theorem microseconds_columns : TimeColumns Database.microseconds 500 where
  near instant := by
    simp only [Database.microseconds]
    constructor <;> lia
  again instant := by
    simp only [Database.microseconds]
    lia

/-- A program that has the tables to itself. -/
abbrev Alone {α : Type} (db : Database) (program : Process α) (state : State)
    (moments : List (Moment Call Call.Reply State)) (result : α) (final : State) : Prop :=
  program.Traces (perform db) Eq state moments (.done result) final

/-- The instant that a call of `Authenticate` is made at. -/
def ReadAt (now : Instant) (moments : List (Moment Call Call.Reply State)) : Prop :=
  (⟨.now, now⟩ : Event Call Call.Reply) ∈ moments.map (·.event)

/-! ## One call -/

/-- What `Authenticate` returns and leaves behind. -/
inductive Verdict (service : Service) (db : Database) (rawToken : GoString) (state : State)
    (moments : List (Moment Call Call.Reply State)) :
    Except GoError AuthenticatedSession → State → Prop where
  | refused {failure : GoError} {final : State}
      (sublist : final.sessions.Sublist state.sessions) (users : final.users = state.users)
      (later : state.clock ≤ final.clock) :
      Verdict service db rawToken state moments (.error failure) final
  | kept {session : Session} {user : User} {now : Instant}
      (member : session ∈ state.sessions) (named : session.tokenHash = sha256 rawToken)
      (reading : ∀ other, ReadAt other moments ↔ other = now) (later : state.clock ≤ now)
      (unexpired : now < session.expiresAt) (within : now < session.absoluteExpiresAt)
      (recent : now - session.lastSeenAt < service.options.touchInterval) :
      Verdict service db rawToken state moments (.ok ⟨user, session⟩) { state with clock := now }
  | touched {session : Session} {user : User} {now expiresAt : Instant}
      (member : session ∈ state.sessions) (named : session.tokenHash = sha256 rawToken)
      (reading : ∀ other, ReadAt other moments ↔ other = now) (later : state.clock ≤ now)
      (unexpired : now < session.expiresAt) (within : now < session.absoluteExpiresAt)
      (slides : expiresAt = min (now + service.options.idleTTL) session.absoluteExpiresAt) :
      Verdict service db rawToken state moments
        (.ok ⟨user, { session with lastSeenAt := now, expiresAt := expiresAt }⟩)
        { state with
          clock := now
          sessions := state.sessions.map fun other =>
            if other.tokenHash = sha256 rawToken then other.touched db now expiresAt else other }

section Call

variable {service : Service} {db : Database} {rawToken : GoString} {state final : State}
  {moments : List (Moment Call Call.Reply State)}

private theorem refresh_verdict {session : Session} {user : User} {now : Instant}
    {result : Except GoError AuthenticatedSession} {earlier : List (Moment Call Call.Reply State)}
    (member : session ∈ state.sessions) (named : session.tokenHash = sha256 rawToken)
    (reading : ∀ other, ReadAt other earlier ↔ other = now) (later : state.clock ≤ now)
    (unexpired : now < session.expiresAt) (within : now < session.absoluteExpiresAt)
    (alone : Alone db (service.refresh (sha256 rawToken) session user now)
      { state with clock := now } moments result final) :
    Verdict service db rawToken state (earlier ++ moments) result final := by
  unfold Service.refresh at alone
  split at alone
  · obtain ⟨choice, between, reply, after, rest, rfl, answered, rfl, further⟩ := alone.call
    rcases perform_touchSession answered with ⟨rfl, rfl⟩ | ⟨⟨failure, rfl⟩, rfl⟩
    · obtain ⟨rfl, done, rfl⟩ := further.done
      cases done
      refine .touched member named ?_ later unexpired within rfl
      intro other
      simpa [ReadAt] using reading other
    · obtain ⟨rfl, done, rfl⟩ := further.done
      cases done
      exact .refused (List.Sublist.refl _) rfl later
  · next recent =>
      obtain ⟨rfl, done, rfl⟩ := alone.done
      cases done
      rw [List.append_nil]
      exact .kept member named reading later unexpired within (Int.not_le.mp recent)

private theorem check_verdict {session : Session} {result : Except GoError AuthenticatedSession}
    {first : Moment Call Call.Reply State} (quiet : ∀ other, ¬ ReadAt other [first])
    (member : session ∈ state.sessions) (named : session.tokenHash = sha256 rawToken)
    (alone : Alone db (service.check (sha256 rawToken) session) state moments result final) :
    Verdict service db rawToken state (first :: moments) result final := by
  obtain ⟨choice, between, now, after, rest, rfl, answered, rfl, further⟩ := alone.call
  obtain ⟨later, rfl⟩ := perform_now answered
  dsimp only [Program.bind] at further
  split at further
  · obtain ⟨choice, between, reply, after, rest, rfl, answered, rfl, ended⟩ := further.call
    obtain ⟨rfl, done, rfl⟩ := ended.done
    cases done
    obtain ⟨sublist, users, clock⟩ := perform_deleteSession answered
    refine .refused sublist users ?_
    rw [clock]
    exact later
  · next unexpired =>
      rw [not_or, Int.not_le, Int.not_le] at unexpired
      obtain ⟨choice, between, reply, after, rest, rfl, answered, rfl, ended⟩ := further.call
      have same := perform_findUserByID answered
      subst same
      cases reply with
      | error failure =>
          obtain ⟨rfl, done, rfl⟩ := ended.done
          cases done
          exact .refused (List.Sublist.refl _) rfl later
      | ok user =>
          have reading : ∀ other, ReadAt other
              [first, ⟨state, ⟨.now, now⟩⟩,
                ⟨{ state with clock := now }, ⟨.findUserByID session.userID, .ok user⟩⟩] ↔
              other = now := by
            intro other
            have silent := quiet other
            simp only [ReadAt, List.map_cons, List.map_nil, List.mem_singleton] at silent
            simp [ReadAt, silent]
          exact refresh_verdict member named reading later unexpired.1 unexpired.2 ended

theorem authenticate_verdict {result : Except GoError AuthenticatedSession}
    (alone : Alone db (service.authenticate rawToken) state moments result final) :
    Verdict service db rawToken state moments result final := by
  unfold Service.authenticate at alone
  split at alone
  · obtain ⟨rfl, done, rfl⟩ := alone.done
    cases done
    exact .refused (List.Sublist.refl _) rfl (Int.le_refl _)
  · obtain ⟨choice, between, reply, after, rest, rfl, answered, rfl, further⟩ := alone.call
    obtain ⟨rfl, looked⟩ := perform_findSessionByTokenHash answered
    cases reply with
    | error failure =>
        obtain ⟨rfl, done, rfl⟩ := further.done
        cases done
        exact .refused (List.Sublist.refl _) rfl (Int.le_refl _)
    | ok session =>
        obtain ⟨member, named⟩ := looked session rfl
        exact check_verdict (by simp [ReadAt]) member named further

end Call

/-! ## The life of a session -/

/-- What anybody else may do between two calls: the clock does not go back, and
the row of the session stays as it is unless it is deleted. -/
structure Others (db : Database) (rawToken : GoString) (before after : State) : Prop where
  later : before.clock ≤ after.clock
  rows : ∀ session ∈ after.sessions, session.tokenHash = sha256 rawToken →
    session ∈ before.sessions
  consistent : Consistent db before → Consistent db after

/-- A session that was created by a login at `created` and authenticated, or
created, last at `last`. -/
inductive Lived (service : Service) (db : Database) : GoString → Instant → Instant → State → Prop where
  | loggedIn {username password : GoString} {grant : SessionGrant} {start state : State}
      {moments : List (Moment Call Call.Reply State)} (consistent : Consistent db start)
      (alone : Alone db (service.login username password) start moments (.ok grant) state) :
      Lived service db grant.sessionToken (grant.expiresAt - service.options.idleTTL)
        (grant.expiresAt - service.options.idleTTL) state
  | accepted {rawToken : GoString} {created last now : Instant} {before state : State}
      {moments : List (Moment Call Call.Reply State)} {authenticated : AuthenticatedSession}
      (lived : Lived service db rawToken created last before)
      (alone : Alone db (service.authenticate rawToken) before moments (.ok authenticated) state)
      (reading : ReadAt now moments) : Lived service db rawToken created now state
  | refused {rawToken : GoString} {created last : Instant} {before state : State}
      {moments : List (Moment Call Call.Reply State)} {failure : GoError}
      (lived : Lived service db rawToken created last before)
      (alone : Alone db (service.authenticate rawToken) before moments (.error failure) state) :
      Lived service db rawToken created last state
  | others {rawToken : GoString} {created last : Instant} {before state : State}
      (lived : Lived service db rawToken created last before)
      (others : Others db rawToken before state) : Lived service db rawToken created last state

/-- The row that a login leaves behind. -/
structure Opened (service : Service) (db : Database) (grant : SessionGrant) (state : State) :
    Prop where
  named : grant.sessionToken ≠ []
  consistent : Consistent db state
  past : grant.expiresAt - service.options.idleTTL ≤ state.clock
  row : storedSession db (service.options.session grant.sessionToken grant.csrfToken grant.user.id
    (grant.expiresAt - service.options.idleTTL)) ∈ state.sessions

/-- What the row says about the last use of its session. -/
structure Tracks (service : Service) (db : Database) (created last : Instant)
    (session : Session) : Prop where
  absolute : session.absoluteExpiresAt = db.stamp (created + service.options.absoluteTTL)
  seen : ∃ seen, session.lastSeenAt = db.stamp seen ∧ seen ≤ last ∧
    (seen = last ∨ last - db.stamp seen < service.options.touchInterval) ∧
    (session.expiresAt = db.stamp (seen + service.options.idleTTL) ∨
      session.expiresAt = db.stamp session.absoluteExpiresAt ∧
        session.absoluteExpiresAt < seen + service.options.idleTTL)

structure Live (service : Service) (db : Database) (rawToken : GoString) (created last : Instant)
    (state : State) : Prop where
  named : rawToken ≠ []
  consistent : Consistent db state
  past : last ≤ state.clock
  rows : ∀ session ∈ state.sessions, session.tokenHash = sha256 rawToken →
    Tracks service db created last session

section Life

variable {service : Service} {db : Database} {rawToken : GoString} {created last : Instant}
  {state final : State} {moments : List (Moment Call Call.Reply State)} {loss : Duration}

private theorem Consistent.sublist (consistent : Consistent db state)
    (sublist : final.sessions.Sublist state.sessions) (users : final.users = state.users) :
    Consistent db final := by
  constructor
  · exact consistent.primary.sublist sublist
  · intro session member
    rw [users]
    exact consistent.references session (sublist.subset member)

theorem Consistent.touched {hash : GoString} {lastSeen expires : Instant}
    (consistent : Consistent db state)
    (sessions : final.sessions = state.sessions.map fun other =>
      if other.tokenHash = hash then other.touched db lastSeen expires else other)
    (users : final.users = state.users) : Consistent db final := by
  have same : ∀ other : Session, (if other.tokenHash = hash then
      other.touched db lastSeen expires else other).tokenHash = other.tokenHash := by
    intro other
    split <;> rfl
  constructor
  · rw [sessions, List.pairwise_map]
    refine consistent.primary.imp ?_
    intro left right apart
    rw [same, same]
    exact apart
  · intro session member
    rw [sessions] at member
    obtain ⟨other, former, rfl⟩ := List.mem_map.mp member
    obtain ⟨user, among, owner⟩ := consistent.references other former
    refine ⟨user, users ▸ among, ?_⟩
    split
    · exact owner
    · exact owner

private theorem Tracks.later {session : Session} {now : Instant}
    (tracks : Tracks service db created last session) (after : last ≤ now)
    (recent : now - session.lastSeenAt < service.options.touchInterval) :
    Tracks service db created now session := by
  obtain ⟨seen, stored, before, _, expires⟩ := tracks.seen
  refine ⟨tracks.absolute, seen, stored, Int.le_trans before after, ?_, expires⟩
  rw [← stored]
  exact .inr recent

private theorem Tracks.touched {session : Session} {now : Instant}
    (tracks : Tracks service db created last session) :
    Tracks service db created now (session.touched db now
      (min (now + service.options.idleTTL) session.absoluteExpiresAt)) := by
  refine ⟨tracks.absolute, now, rfl, Int.le_refl _, .inl rfl, ?_⟩
  simp only [Session.touched]
  by_cases clamped : session.absoluteExpiresAt < now + service.options.idleTTL
  · rw [Int.min_eq_right (Int.le_of_lt clamped)]
    exact .inr ⟨rfl, clamped⟩
  · rw [Int.min_eq_left (Int.not_lt.mp clamped)]
    exact .inl rfl

theorem Live.accepted {now : Instant} {authenticated : AuthenticatedSession}
    (live : Live service db rawToken created last state)
    (alone : Alone db (service.authenticate rawToken) state moments (.ok authenticated) final)
    (reading : ReadAt now moments) : Live service db rawToken created now final := by
  cases authenticate_verdict alone with
  | kept member named read later unexpired within recent =>
      have same := (read now).mp reading
      subst same
      refine ⟨live.named, ⟨live.consistent.primary, live.consistent.references⟩, Int.le_refl _, ?_⟩
      intro other among equal
      have one := live.consistent.unique among member (equal.trans named.symm)
      rw [one]
      exact (live.rows _ member named).later (Int.le_trans live.past later) recent
  | @touched session user at_ expiresAt member named read later unexpired within slides =>
      have same := (read now).mp reading
      subst same
      refine ⟨live.named, live.consistent.touched rfl rfl, Int.le_refl _, ?_⟩
      intro other among equal
      obtain ⟨old, former, rfl⟩ := List.mem_map.mp among
      split at equal
      · next meant =>
          have one := live.consistent.unique former member (meant.trans named.symm)
          rw [if_pos meant, one, slides]
          exact (live.rows _ member named).touched
      · next other_ => exact absurd equal other_

private theorem Live.refused {failure : GoError}
    (live : Live service db rawToken created last state)
    (alone : Alone db (service.authenticate rawToken) state moments (.error failure) final) :
    Live service db rawToken created last final := by
  cases authenticate_verdict alone with
  | refused sublist users later =>
      refine ⟨live.named, live.consistent.sublist sublist users, Int.le_trans live.past later, ?_⟩
      intro session member named
      exact live.rows session (sublist.subset member) named

private theorem newSession_returns {user : User} {grant : SessionGrant} {session : Session}
    (alone : Alone db (service.newSession user) state moments (.ok (grant, session)) final) :
    final.users = state.users ∧ final.sessions = state.sessions ∧ grant.sessionToken ≠ [] ∧
      final.clock = grant.expiresAt - service.options.idleTTL ∧
      session = service.options.session grant.sessionToken grant.csrfToken grant.user.id
        (grant.expiresAt - service.options.idleTTL) := by
  obtain ⟨choice, between, drawn, after, rest, rfl, answered, rfl, further⟩ := alone.call
  obtain ⟨rfl, sized⟩ := perform_random answered
  cases drawn with
  | error failure =>
      obtain ⟨_, done, _⟩ := further.done
      cases done
  | ok rawSession =>
      obtain ⟨choice, between, csrf, after, rest, rfl, answered, rfl, reading⟩ := further.call
      obtain ⟨rfl, _⟩ := perform_random answered
      cases csrf with
      | error failure =>
          obtain ⟨_, done, _⟩ := reading.done
          cases done
      | ok rawCSRF =>
          obtain ⟨choice, between, now, after, rest, rfl, answered, rfl, ended⟩ := reading.call
          obtain ⟨_, done, rfl⟩ := ended.done
          cases done
          obtain ⟨_, rfl⟩ := perform_now answered
          have same : now + service.options.idleTTL - service.options.idleTTL = now :=
            Int.add_sub_cancel _ _
          have long : rawSession ≠ [] := by
            intro empty
            have size := sized rawSession rfl
            rw [empty] at size
            cases size
          refine ⟨rfl, rfl, rawURLEncode_nonempty long, ?_, ?_⟩
          · rw [same]
          · rw [same]

private theorem Consistent.inserted {session : Session} (consistent : Consistent db state)
    (fresh : ∀ other ∈ state.sessions, other.tokenHash ≠ session.tokenHash)
    (owned : ∃ user ∈ state.users, db.same user.id session.userID = true)
    (sessions : final.sessions = state.sessions ++ [storedSession db session])
    (users : final.users.map (·.id) = state.users.map (·.id)) : Consistent db final := by
  have keeps : ∀ owner, (∃ user ∈ state.users, db.same user.id owner = true) →
      ∃ user ∈ final.users, db.same user.id owner = true := by
    intro owner ⟨user, member, same⟩
    have named : user.id ∈ final.users.map (·.id) := by
      rw [users]
      exact List.mem_map_of_mem member
    obtain ⟨other, among, equal⟩ := List.mem_map.mp named
    exact ⟨other, among, by rw [equal]; exact same⟩
  constructor
  · rw [sessions, List.pairwise_append]
    refine ⟨consistent.primary, List.pairwise_singleton _ _, ?_⟩
    intro left member right new
    rw [List.mem_singleton.mp new]
    exact fresh left member
  · intro other member
    rw [sessions] at member
    rcases List.mem_append.mp member with former | new
    · exact keeps _ (consistent.references other former)
    · rw [List.mem_singleton.mp new]
      exact keeps _ owned

theorem login_opens {username password : GoString} {grant : SessionGrant}
    (consistent : Consistent db state)
    (alone : Alone db (service.login username password) state moments (.ok grant) final) :
    Opened service db grant final := by
  obtain ⟨choice, between, reply, after, rest, rfl, answered, rfl, verifying⟩ := alone.call
  have same := perform_findUserByNormalizedUsername answered
  subst same
  cases reply with
  | error failure =>
      obtain ⟨_, done, _⟩ := verifying.done
      cases done
  | ok user =>
      obtain ⟨choice, between, reply, after, rest, rfl, answered, rfl, making⟩ := verifying.call
      have same := perform_verify answered
      subst same
      rcases reply with failure | (_ | _)
      · obtain ⟨_, done, _⟩ := making.done
        cases done
      · obtain ⟨_, done, _⟩ := making.done
        cases done
      · change Program.Traces _ _ (service.newSession user >>= _) _ _ _ _ at making
        obtain ⟨made, middle, before, later, rfl, drawn, storing⟩ := making.bind
        rcases made with failure | ⟨fresh, session⟩
        · obtain ⟨_, done, _⟩ := storing.done
          cases done
        · obtain ⟨users, sessions, named, clock, is⟩ := newSession_returns drawn
          obtain ⟨choice, between, reply, after, rest, rfl, answered, rfl, noting⟩ := storing.call
          rcases perform_createSession answered with
            ⟨rfl, unused, owned, rfl⟩ | ⟨⟨failure, rfl⟩, rfl⟩
          · obtain ⟨choice, between, now, after, rest, rfl, answered, rfl, updating⟩ := noting.call
            obtain ⟨after_, rfl⟩ := perform_now answered
            obtain ⟨choice, between, reply, after, rest, rfl, answered, rfl, ended⟩ := updating.call
            obtain ⟨kept, ticked, owners⟩ := perform_updateLastLogin answered
            cases reply with
            | error failure =>
                obtain ⟨choice, between, reply, after, rest, rfl, answered, rfl, ceased⟩ := ended.call
                obtain ⟨_, done, _⟩ := ceased.done
                cases done
            | ok _ =>
                obtain ⟨_, done, rfl⟩ := ended.done
                cases done
                have begun : Consistent db middle :=
                  consistent.sublist (by rw [sessions]) users
                refine ⟨named, begun.inserted unused owned kept owners, ?_, ?_⟩
                · rw [ticked, ← clock]
                  exact after_
                · rw [kept, ← is]
                  exact List.mem_append_right _ List.mem_cons_self
          · obtain ⟨_, done, _⟩ := noting.done
            cases done

/-- A session starts with its login. -/
private theorem Opened.live {grant : SessionGrant} (opened : Opened service db grant state) :
    Live service db grant.sessionToken (grant.expiresAt - service.options.idleTTL)
      (grant.expiresAt - service.options.idleTTL) state := by
  refine ⟨opened.named, opened.consistent, opened.past, ?_⟩
  intro session member named
  have same := opened.consistent.unique member opened.row named
  rw [same]
  exact ⟨rfl, _, rfl, Int.le_refl _, .inl rfl, .inl rfl⟩

theorem Lived.live (lived : Lived service db rawToken created last state) :
    Live service db rawToken created last state := by
  induction lived with
  | loggedIn consistent alone => exact (login_opens consistent alone).live
  | accepted _ alone reading live => exact live.accepted alone reading
  | refused _ alone live => exact live.refused alone
  | others _ others live =>
      refine ⟨live.named, others.consistent live.consistent, Int.le_trans live.past others.later, ?_⟩
      intro session member named
      exact live.rows session (others.rows session member named) named

private theorem Tracks.ends {session : Session}
    (tracks : Tracks service db created last session) (columns : TimeColumns db loss) :
    session.expiresAt ≤ last + service.options.idleTTL + loss ∧
      session.absoluteExpiresAt ≤ created + service.options.absoluteTTL + loss := by
  obtain ⟨seen, _, before, _, expires⟩ := tracks.seen
  have limit := (columns.near (created + service.options.absoluteTTL)).2
  have idle := (columns.near (seen + service.options.idleTTL)).2
  rw [← tracks.absolute] at limit
  refine ⟨?_, limit⟩
  rcases expires with same | ⟨same, clamped⟩
  · rw [same]
    lia
  · rw [same, tracks.absolute, columns.again, ← tracks.absolute]
    have kept := columns.near 0
    lia

private theorem Tracks.open {session : Session} {now : Instant}
    (tracks : Tracks service db created last session) (columns : TimeColumns db loss)
    (positive : 0 < service.options.touchInterval)
    (within : now < created + service.options.absoluteTTL - loss)
    (soon : now - last < service.options.idleTTL - service.options.touchInterval - 2 * loss) :
    now < session.expiresAt ∧ now < session.absoluteExpiresAt := by
  obtain ⟨seen, _, before, recent, expires⟩ := tracks.seen
  have limit := (columns.near (created + service.options.absoluteTTL)).1
  have idle := (columns.near (seen + service.options.idleTTL)).1
  have lag := (columns.near seen).2
  have exact_ := columns.near 0
  rw [← tracks.absolute] at limit
  refine ⟨?_, by lia⟩
  rcases expires with same | ⟨same, _⟩
  · rw [same]
    rcases recent with rfl | recent
    · lia
    · lia
  · rw [same, tracks.absolute, columns.again, ← tracks.absolute]
    lia

end Life

/-! ## The bounds -/

/-- The tables of a database that answers every statement. -/
def answering (db : Database) (call : Call) (choice : Choice) (state : State) :
    Option (call.Reply × State) :=
  match choice with
  | .database true => none
  | choice => perform db call choice state

/-- What a session may count on, up to what the time columns lose. -/
structure LifetimeBounds (service : Service) (db : Database) (loss : Duration) : Prop where
  ends : ∀ rawToken created last state, Lived service db rawToken created last state →
    ∀ moments authenticated final now,
    Alone db (service.authenticate rawToken) state moments (.ok authenticated) final →
    ReadAt now moments →
    now < created + service.options.absoluteTTL + loss ∧ now < last + service.options.idleTTL + loss
  stays : ∀ rawToken created last state, Lived service db rawToken created last state →
    (∃ session ∈ state.sessions, session.tokenHash = sha256 rawToken) →
    ∀ moments result final,
    (service.authenticate rawToken).Traces (answering db) Eq state moments (.done result) final →
    (∀ now, ReadAt now moments → now < created + service.options.absoluteTTL - loss ∧
      now - last < service.options.idleTTL - service.options.touchInterval - 2 * loss) →
    ∃ authenticated, result = .ok authenticated

section Bounds

variable {service : Service} {db : Database} {loss : Duration} {state final : State}
  {moments : List (Moment Call Call.Reply State)}

theorem answering_performs {call : Call} {choice : Choice} {reply : call.Reply}
    {next : State} (answered : answering db call choice state = some (reply, next)) :
    perform db call choice state = some (reply, next) ∧ choice ≠ .database true := by
  unfold answering at answered
  split at answered
  · cases answered
  · next other => exact ⟨answered, fun same => other same⟩

theorem traces_answering {α : Type} {program : Process α} {result : α}
    (traces : program.Traces (answering db) Eq state moments (.done result) final) :
    Alone db program state moments result final := by
  generalize ceased : Program.done result = rest at traces
  induction traces with
  | refl =>
      subst ceased
      exact .refl
  | step changed answered _ ih => exact .step changed (answering_performs answered).1 (ih ceased)

private theorem found_row {α : Type} {rows : List α} (db : Database) (context : String)
    (wanted : α → Bool)
    (exists_ : ∃ row ∈ rows, wanted row = true) :
    ∃ row ∈ rows, wanted row = true ∧ found db context false (rows.find? wanted) = .ok row := by
  obtain ⟨row, member, is⟩ := exists_
  have present : (rows.find? wanted).isSome = true := List.find?_isSome.mpr ⟨row, member, is⟩
  obtain ⟨first, located⟩ := Option.isSome_iff_exists.mp present
  exact ⟨first, List.mem_of_find?_eq_some located, List.find?_some located, by simp [found, located]⟩

private theorem refresh_open {session : Session} {user : User} {hash : GoString} {now : Instant}
    {result : Except GoError AuthenticatedSession}
    (traces : (service.refresh hash session user now).Traces (answering db) Eq state moments
      (.done result) final) : ∃ authenticated, result = .ok authenticated := by
  unfold Service.refresh at traces
  split at traces
  · obtain ⟨choice, between, reply, after, rest, rfl, answered, rfl, further⟩ := traces.call
    obtain ⟨answered, faultless⟩ := answering_performs answered
    cases choice with
    | database fault =>
        cases fault with
        | true => exact absurd rfl faultless
        | false =>
            cases answered
            obtain ⟨_, done, _⟩ := further.done
            cases done
            exact ⟨_, rfl⟩
    | _ => cases answered
  · obtain ⟨_, done, _⟩ := traces.done
    cases done
    exact ⟨_, rfl⟩

/-- Without a fault, a row that is not over by its own account is let in. -/
private theorem check_open {session : Session} {result : Except GoError AuthenticatedSession}
    {hash : GoString}
    (traces : (service.check hash session).Traces (answering db) Eq state moments (.done result)
      final)
    (owned : ∃ user ∈ state.users, db.same user.id session.userID = true)
    (unexpired : ∀ now, ReadAt now moments →
      now < session.expiresAt ∧ now < session.absoluteExpiresAt) :
    ∃ authenticated, result = .ok authenticated := by
  obtain ⟨choice, between, read, after, rest, rfl, answered, rfl, further⟩ := traces.call
  obtain ⟨_, rfl⟩ := perform_now (answering_performs answered).1
  obtain ⟨expires, within⟩ := unexpired read List.mem_cons_self
  dsimp only [Program.bind] at further
  split at further
  · next ceased =>
      rcases ceased with past | past
      · exact absurd expires (Int.not_lt.mpr past)
      · exact absurd within (Int.not_lt.mpr past)
  · obtain ⟨choice, between, reply, after, rest, rfl, answered, rfl, refreshing⟩ := further.call
    obtain ⟨answered, faultless⟩ := answering_performs answered
    cases choice with
    | database fault =>
        cases fault with
        | true => exact absurd rfl faultless
        | false =>
            obtain ⟨user, _, _, looked⟩ := found_row db "find user"
              (fun user : User => db.same user.id session.userID) owned
            simp only [perform, looked, Option.some.injEq, Prod.mk.injEq] at answered
            obtain ⟨rfl, rfl⟩ := answered
            exact refresh_open refreshing
    | _ => cases answered

/-- So is the session of a token, as long as its row is there. -/
theorem authenticate_open {rawToken : GoString} {result : Except GoError AuthenticatedSession}
    (traces : (service.authenticate rawToken).Traces (answering db) Eq state moments (.done result)
      final)
    (named : rawToken ≠ []) (consistent : Consistent db state)
    (present : ∃ session ∈ state.sessions, session.tokenHash = sha256 rawToken)
    (unexpired : ∀ session ∈ state.sessions, session.tokenHash = sha256 rawToken →
      ∀ now, ReadAt now moments → now < session.expiresAt ∧ now < session.absoluteExpiresAt) :
    ∃ authenticated, result = .ok authenticated := by
  obtain ⟨row, among, equal⟩ := present
  unfold Service.authenticate at traces
  rw [if_neg named] at traces
  obtain ⟨choice, between, reply, after, rest, rfl, answered, rfl, further⟩ := traces.call
  obtain ⟨answered, faultless⟩ := answering_performs answered
  cases choice with
  | database fault =>
      cases fault with
      | true => exact absurd rfl faultless
      | false =>
          obtain ⟨session, member, named, looked⟩ := found_row db "find session"
            (fun session : Session => session.tokenHash = sha256 rawToken)
            ⟨row, among, decide_eq_true equal⟩
          simp only [perform, looked, Option.some.injEq, Prod.mk.injEq] at answered
          obtain ⟨rfl, rfl⟩ := answered
          apply check_open further (consistent.references session member)
          intro now reading
          exact unexpired session member (of_decide_eq_true named) now
            (List.mem_cons_of_mem _ reading)
  | _ => cases answered

/-- The bounds of a session's life. -/
theorem lifetime_bounds (columns : TimeColumns db loss)
    (positive : 0 < service.options.touchInterval) : LifetimeBounds service db loss := by
  constructor
  · intro rawToken created last state lived moments authenticated final now alone reading
    have live := lived.live
    cases authenticate_verdict alone with
    | kept member named read later unexpired within recent =>
        have same := (read now).mp reading
        subst same
        obtain ⟨expires, limit⟩ := (live.rows _ member named).ends columns
        exact ⟨by lia, by lia⟩
    | touched member named read later unexpired within slides =>
        have same := (read now).mp reading
        subst same
        obtain ⟨expires, limit⟩ := (live.rows _ member named).ends columns
        exact ⟨by lia, by lia⟩
  · intro rawToken created last state lived present moments result final traces soon
    have live := lived.live
    apply authenticate_open traces live.named live.consistent present
    intro session member named now reading
    obtain ⟨within, recent⟩ := soon now reading
    exact (live.rows session member named).open columns positive within recent

end Bounds

/-! ## A session used on two servers -/

/-- The readings of the clock. -/
def readings (moments : List (Moment Call Call.Reply State)) : List Instant :=
  moments.filterMap fun moment =>
    match moment.event with
    | ⟨.now, now⟩ => some now
    | _ => none

theorem mem_readings {now : Instant} {moments : List (Moment Call Call.Reply State)} :
    now ∈ readings moments ↔ ReadAt now moments := by
  constructor
  · intro member
    obtain ⟨moment, among, is⟩ := List.mem_filterMap.mp member
    refine List.mem_map.mpr ⟨moment, among, ?_⟩
    split at is
    · next read =>
        cases is
        exact read
    · cases is
  · intro read
    obtain ⟨moment, among, is⟩ := List.mem_map.mp read
    refine List.mem_filterMap.mpr ⟨moment, among, ?_⟩
    rw [is]

def administrator : User :=
  ⟨text "id", text "admin", text "admin", text "hash", 0, none⟩

def installed : State := ⟨[administrator], [], 0⟩

theorem installed_consistent (db : Database) : Consistent db installed :=
  ⟨.nil, fun session member => by cases member⟩

def signingIn (now : Instant) : List Choice :=
  [.database false, .verified (.ok true), .random (.ok (List.replicate 32 7)),
    .random (.ok (List.replicate 32 8)), .instant now, .database false, .instant now,
    .database false]

def returning (now : Instant) : List Choice :=
  [.database false, .instant now, .database false, .database false]

/-- A login and one later call of `Authenticate`: when the session was created,
when the call was made and whether it succeeded. -/
def revisit (service : Service) (db : Database) (login back : Instant) :
    Option (Instant × List Instant × Bool) := do
  let (_, outcome, state) ←
    (service.login (text "admin") (text "password")).execute (perform db) (signingIn login) installed
  let grant ← outcome.toOption
  let (moments, result, _) ←
    (service.authenticate grant.sessionToken).execute (perform db) (returning back) state
  return (grant.expiresAt - service.options.idleTTL, readings moments, result.toOption.isSome)

theorem revisit_lived {service : Service} {db : Database} {login back created : Instant}
    {read : List Instant} (visited : revisit service db login back = some (created, read, true)) :
    ∃ rawToken state moments authenticated final,
      Lived service db rawToken created created state ∧
      Alone db (service.authenticate rawToken) state moments (.ok authenticated) final ∧
      ∀ now ∈ read, ReadAt now moments := by
  unfold revisit at visited
  obtain ⟨⟨first, outcome, state⟩, signed, visited⟩ := Option.bind_eq_some_iff.mp visited
  obtain ⟨grant, granted, visited⟩ := Option.bind_eq_some_iff.mp visited
  obtain ⟨⟨moments, result, final⟩, used, visited⟩ := Option.bind_eq_some_iff.mp visited
  cases outcome with
  | error failure => cases granted
  | ok value =>
      cases granted
      cases result with
      | error failure => cases visited
      | ok authenticated =>
          cases visited
          exact ⟨grant.sessionToken, state, moments, authenticated, final,
            .loggedIn (installed_consistent db) (Program.execute_traces (fun _ => rfl) signed),
            Program.execute_traces (fun _ => rfl) used, fun now member => mem_readings.mp member⟩

def standardService : Service := ⟨.standard, id⟩

theorem lifetime_bounds_standard :
    revisit standardService (Database.plain .sqlite) 0 (11 * hour) =
      some (0, [11 * hour], true) ∧
    LifetimeBounds standardService (Database.plain .sqlite) 0 := by
  constructor
  · decide +kernel
  · exact lifetime_bounds ⟨fun instant => ⟨by simp [Database.plain], by simp [Database.plain]⟩,
      fun _ => rfl⟩ (by decide)

/-- Half a microsecond is rounded up, so a session outlives its absolute limit. -/
theorem lifetime_bounds_rounded :
    TimeColumns Database.microseconds 500 ∧
    ¬ LifetimeBounds ⟨⟨12 * hour, hour, hour / 12⟩, id⟩ Database.microseconds 0 := by
  constructor
  · exact microseconds_columns
  · intro bounds
    obtain ⟨rawToken, state, moments, authenticated, final, lived, alone, reading⟩ :=
      revisit_lived (show revisit ⟨⟨12 * hour, hour, hour / 12⟩, id⟩ Database.microseconds 600
        (hour + 600) = some (600, [hour + 600], true) by decide +kernel)
    have ended := (bounds.ends rawToken 600 600 state lived moments authenticated final (hour + 600)
      alone (reading _ List.mem_cons_self)).1
    exact absurd ended (by decide)

end NodeAtlas.Auth
