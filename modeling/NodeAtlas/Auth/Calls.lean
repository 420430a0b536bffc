import NodeAtlas.Auth.Model
import NodeAtlas.Database
import NodeAtlas.Interleaving.Traces

/-! The calls that the auth service and its HTTP handlers make. Every method of
the repository is one step: all but one are single statements, and the one that
changes a password is a transaction. -/

set_option autoImplicit false

namespace NodeAtlas.Auth

open Interleaving

/-- What a request can reach. -/
inductive Handler where
  | live
  | ready
  | setupStatus
  | setup
  | login
  | me
  | logout
  | changePassword
  | feature
  | gateway
  | frontend
  deriving DecidableEq, Repr

structure State where
  users : List User
  sessions : List Session
  clock : Instant

/-- `enter` marks that a handler runs; `respond` is what a handler outside of
this package answers with. -/
inductive Call where
  | now
  | newID
  | random
  | verify (encoded password : GoString)
  | hashPassword (password : GoString)
  | isInitialized
  | initializeUser (user : User)
  | findUserByNormalizedUsername (username : GoString)
  | findUserByID (id : GoString)
  | updateLastLogin (id : GoString) (at_ : Instant)
  | createSession (session : Session)
  | findSessionByTokenHash (hash : GoString)
  | touchSession (hash : GoString) (lastSeen expires : Instant)
  | deleteSession (hash : GoString)
  | updatePasswordAndRevokeSessions (userID passwordHash keep : GoString)
  | enter (handler : Handler)
  | respond (handler : Handler)

@[reducible] def Call.Reply : Call → Type
  | .now => Instant
  | .newID => GoString
  | .random => Except GoError GoString
  | .verify _ _ => Except GoError Bool
  | .hashPassword _ => Except GoError GoString
  | .isInitialized => Except GoError Bool
  | .findUserByNormalizedUsername _ | .findUserByID _ => Except GoError User
  | .findSessionByTokenHash _ => Except GoError Session
  | .enter _ => Unit
  | .respond _ => Nat
  | _ => Except GoError Unit

/-- What the surroundings decide: the time, identifiers, 32 random bytes, the
password hasher, a foreign handler's status, and whether the database fails. -/
inductive Choice where
  | instant (value : Instant)
  | identifier (value : GoString)
  | random (bytes : Except GoError GoString)
  | verified (result : Except GoError Bool)
  | hashed (result : Except GoError GoString)
  | database (fault : Bool)
  | entered
  | responded (status : Nat)

abbrev Process (Outcome : Type) := Program Call Call.Reply Outcome

def call (request : Call) : Process request.Reply := .perform request

variable (db : Database)

def storedSession (session : Session) : Session :=
  { session with
    expiresAt := db.stamp session.expiresAt
    absoluteExpiresAt := db.stamp session.absoluteExpiresAt
    lastSeenAt := db.stamp session.lastSeenAt
    createdAt := db.stamp session.createdAt }

def Session.touched (lastSeen expires : Instant) (session : Session) : Session :=
  { session with lastSeenAt := db.stamp lastSeen, expiresAt := db.stamp expires }

/-- The first row that is wanted, or what the package says when there is none. -/
def found {α : Type} (context : String) (fault : Bool) (row : Option α) : Except GoError α :=
  if fault then .error (.wrapped (text context) (db.failed .unavailable))
  else match row with
    | some value => .ok value
    | none => .error (.sentinel .sessionNotFound)

/-- `WHERE id = ?` on the users table. -/
def changeUser (id : GoString) (change : User → User) (users : List User) : List User :=
  users.map fun user => if db.same user.id id then change user else user

/-- A statement that is answered with an error is taken not to have been carried
out. -/
def perform (call : Call) (choice : Choice) (state : State) : Option (call.Reply × State) :=
  match call, choice with
  | .now, .instant value =>
      if state.clock ≤ value then some (value, { state with clock := value }) else none
  | .newID, .identifier value => some (value, state)
  | .random, .random bytes =>
      if bytes.toOption.all fun value => value.length = 32 then some (bytes, state) else none
  | .verify _ _, .verified result => some (result, state)
  | .hashPassword _, .hashed result => some (result, state)
  | .isInitialized, .database fault => some (
      if fault then .error (.wrapped (text "count users") (db.failed .unavailable))
      else .ok (!state.users.isEmpty), state)
  | .initializeUser user, .database fault =>
      if fault then
        some (.error (.wrapped (text "initialize administrator") (db.failed .unavailable)), state)
      else if state.users.isEmpty then
        some (.ok (), { state with
          users := [{ user with initializedAt := db.stamp user.initializedAt, lastLoginAt := none }] })
      else some (.error (.sentinel .alreadyInitialized), state)
  | .findUserByNormalizedUsername username, .database fault =>
      some (found db "find user" fault
        (state.users.find? fun user => db.same user.normalizedUsername username), state)
  | .findUserByID id, .database fault =>
      some (found db "find user" fault (state.users.find? fun user => db.same user.id id), state)
  | .updateLastLogin id at_, .database fault =>
      if fault then some (.error (db.failed .unavailable), state)
      else some (.ok (), { state with
        users := changeUser db id (fun user => { user with lastLoginAt := some (db.stamp at_) })
          state.users })
  | .createSession session, .database fault =>
      if fault || state.sessions.any (fun other => other.tokenHash = session.tokenHash) ||
          !state.users.any fun user => db.same user.id session.userID then
        some (.error (db.failed .unavailable), state)
      else some (.ok (), { state with sessions := state.sessions ++ [storedSession db session] })
  | .findSessionByTokenHash hash, .database fault =>
      some (found db "find session" fault
        (state.sessions.find? fun session => session.tokenHash = hash), state)
  | .touchSession hash lastSeen expires, .database fault =>
      if fault then some (.error (db.failed .unavailable), state)
      else some (.ok (), { state with
        sessions := state.sessions.map fun session =>
          if session.tokenHash = hash then session.touched db lastSeen expires else session })
  | .deleteSession hash, .database fault =>
      if fault then some (.error (db.failed .unavailable), state)
      else some (.ok (), { state with
        sessions := state.sessions.filter fun session => session.tokenHash ≠ hash })
  | .updatePasswordAndRevokeSessions userID passwordHash keep, .database fault =>
      if fault then some (.error (db.failed .unavailable), state)
      else some (.ok (), { state with
        users := changeUser db userID (fun user => { user with passwordHash := passwordHash })
          state.users
        sessions := state.sessions.filter fun session =>
          !(db.same session.userID userID && session.tokenHash ≠ keep) })
  | .enter _, .entered => some ((), state)
  | .respond _, .responded status => some (status, state)
  | _, _ => none

/-! ## Call by call -/

section Specifications

variable {db : Database} {choice : Choice} {state next : State}

theorem found_ok {α : Type} {context : String} {fault : Bool} {row : Option α} {value : α}
    (is : found db context fault row = .ok value) : row = some value := by
  unfold found at is
  split at is
  · cases is
  · split at is <;> cases is
    rfl

theorem perform_now {now : Instant} (ran : perform db .now choice state = some (now, next)) :
    state.clock ≤ now ∧ next = { state with clock := now } := by
  cases choice with
  | instant value =>
      simp only [perform] at ran
      split at ran <;> cases ran
      next later => exact ⟨later, rfl⟩
  | _ => cases ran

theorem perform_random {reply : Except GoError GoString}
    (ran : perform db .random choice state = some (reply, next)) :
    next = state ∧ ∀ value, reply = .ok value → value.length = 32 := by
  cases choice with
  | random bytes =>
      simp only [perform] at ran
      split at ran <;> cases ran
      next sized =>
        refine ⟨rfl, ?_⟩
        rintro value rfl
        simpa [Except.toOption] using sized
  | _ => cases ran

theorem perform_verify {encoded password : GoString} {reply : Except GoError Bool}
    (ran : perform db (.verify encoded password) choice state = some (reply, next)) :
    next = state := by
  cases choice <;> cases ran
  rfl

theorem perform_findUserByNormalizedUsername {username : GoString} {reply : Except GoError User}
    (ran : perform db (.findUserByNormalizedUsername username) choice state = some (reply, next)) :
    next = state := by
  cases choice <;> cases ran
  rfl

theorem perform_findUserByID {id : GoString} {reply : Except GoError User}
    (ran : perform db (.findUserByID id) choice state = some (reply, next)) : next = state := by
  cases choice <;> cases ran
  rfl

theorem perform_findSessionByTokenHash {hash : GoString} {reply : Except GoError Session}
    (ran : perform db (.findSessionByTokenHash hash) choice state = some (reply, next)) :
    next = state ∧ ∀ session, reply = .ok session →
      session ∈ state.sessions ∧ session.tokenHash = hash := by
  cases choice with
  | database fault =>
      simp only [perform, Option.some.injEq, Prod.mk.injEq] at ran
      obtain ⟨looked, rfl⟩ := ran
      refine ⟨rfl, ?_⟩
      rintro session rfl
      have row := found_ok looked
      exact ⟨List.mem_of_find?_eq_some row, by simpa using List.find?_some row⟩
  | _ => cases ran

theorem perform_touchSession {hash : GoString} {lastSeen expires : Instant}
    {reply : Except GoError Unit}
    (ran : perform db (.touchSession hash lastSeen expires) choice state = some (reply, next)) :
    (reply = .ok () ∧ next = { state with
      sessions := state.sessions.map fun session =>
        if session.tokenHash = hash then session.touched db lastSeen expires else session }) ∨
      (∃ failure, reply = .error failure) ∧ next = state := by
  cases choice with
  | database fault =>
      simp only [perform] at ran
      split at ran <;> cases ran
      · exact .inr ⟨⟨_, rfl⟩, rfl⟩
      · exact .inl ⟨rfl, rfl⟩
  | _ => cases ran

theorem perform_deleteSession {hash : GoString} {reply : Except GoError Unit}
    (ran : perform db (.deleteSession hash) choice state = some (reply, next)) :
    next.sessions.Sublist state.sessions ∧ next.users = state.users ∧ next.clock = state.clock := by
  cases choice with
  | database fault =>
      simp only [perform] at ran
      split at ran <;> cases ran
      · exact ⟨List.Sublist.refl _, rfl, rfl⟩
      · exact ⟨List.filter_sublist, rfl, rfl⟩
  | _ => cases ran

theorem perform_createSession {session : Session} {reply : Except GoError Unit}
    (ran : perform db (.createSession session) choice state = some (reply, next)) :
    (reply = .ok () ∧ (∀ other ∈ state.sessions, other.tokenHash ≠ session.tokenHash) ∧
      (∃ user ∈ state.users, db.same user.id session.userID = true) ∧
      next = { state with sessions := state.sessions ++ [storedSession db session] }) ∨
      (∃ failure, reply = .error failure) ∧ next = state := by
  cases choice with
  | database fault =>
      simp only [perform] at ran
      split at ran <;> cases ran
      · exact .inr ⟨⟨_, rfl⟩, rfl⟩
      · next accepted =>
          simp only [Bool.or_eq_true, Bool.not_eq_true', not_or, List.any_eq_true,
            decide_eq_true_eq, not_exists, not_and, Bool.not_eq_false] at accepted
          exact .inl ⟨rfl, accepted.1.2, accepted.2, rfl⟩
  | _ => cases ran

theorem perform_updateLastLogin {id : GoString} {at_ : Instant} {reply : Except GoError Unit}
    (ran : perform db (.updateLastLogin id at_) choice state = some (reply, next)) :
    next.sessions = state.sessions ∧ next.clock = state.clock ∧
      next.users.map (·.id) = state.users.map (·.id) := by
  cases choice with
  | database fault =>
      simp only [perform] at ran
      split at ran <;> cases ran
      · exact ⟨rfl, rfl, rfl⟩
      · refine ⟨rfl, rfl, ?_⟩
        simp only [changeUser, List.map_map]
        apply List.map_congr_left
        intro user _
        simp only [Function.comp]
        split <;> rfl
  | _ => cases ran

end Specifications

end NodeAtlas.Auth
