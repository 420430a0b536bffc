import NodeAtlas.Digest
import NodeAtlas.Interleaving.Discipline
import NodeAtlas.Net
import NodeAtlas.Power.Calls

/-! Console sessions, and the calls that the console service and the gateway
make. -/

set_option autoImplicit false

namespace NodeAtlas.Console

open Interleaving Providers

inductive Mode where
  | embedded
  deriving DecidableEq, Repr

inductive Result where
  | pending
  | active
  | completed
  | failed
  | expired
  deriving DecidableEq, Repr

def Mode.value : Mode → GoString
  | .embedded => text "embedded"

def Result.value : Result → GoString
  | .pending => text "pending"
  | .active => text "active"
  | .completed => text "completed"
  | .failed => text "failed"
  | .expired => text "expired"

structure Session where
  id : GoString
  serverID : GoString
  mode : Mode
  ticketHash : GoString
  expiresAt : Instant
  openedAt : Option Instant
  closedAt : Option Instant
  result : Result
  createdAt : Instant
  deriving DecidableEq, Repr

/-- `providers.ConsoleTarget` -/
structure ConsoleTarget where
  protocol : GoString
  url : Option URL
  password : GoString
  deriving DecidableEq, Repr

/-- The console sessions in the database, the targets in memory, and the
console sessions of the backups. -/
structure State where
  sessions : List Session
  targets : GoString → Option URL
  archives : List (List Session)

/-- `openSession` is the UPDATE of `ConsumeTicket` with the COMMIT behind it,
until which it holds the row. `dialAllowed` and `proxy` mark that the functions
of that name are called. -/
inductive Call where
  | now
  | newID
  | newTicket
  | newAuditID
  | findServer (id : GoString)
  | findConnection (id : GoString)
  | decrypt (connection : Power.Connection)
  | createProvider (config : ConnectionConfig)
  | openConsole (provider : ConnectionConfig) (ref : ServerRef)
  | append (entry : AuditLog.Entry)
  | lookup (host : GoString)
  | dialAllowed (host port : GoString)
  | expired
  | dial (network address : GoString)
  | accept
  | proxy (target : URL)
  | connections (target : URL)
  | handshake
  | relay
  | createSession (session : Session)
  | findSession (ticketHash : GoString)
  | openSession (id : GoString) (openedAt : Instant)
  | closeSession (id : GoString) (result : Result) (closedAt : Instant)
  | put (id : GoString) (target : URL)
  | take (id : GoString)
  | delete (id : GoString)
  | backup
  | restore (archive : Nat)

/-- `openSession` replies with the rows that it changes, as they were; the code
sees how many they are. `connections` are the addresses for which a WebSocket
dial wants connections, `relay` is how the copying of messages ended. -/
@[reducible] def Call.Reply : Call → Type
  | .now => Instant
  | .newID | .newTicket | .newAuditID => GoString
  | .findServer _ => Except GoError Inventory.Server
  | .findConnection _ => Except GoError Power.Connection
  | .decrypt _ => Except GoError GoString
  | .openConsole _ _ => Except GoError ConsoleTarget
  | .lookup _ => Except GoError (List (Option IP))
  | .dialAllowed _ _ => Unit
  | .expired => Bool
  | .proxy _ => Unit
  | .connections _ => List (GoString × GoString)
  | .relay => Result
  | .findSession _ => Except GoError Session
  | .openSession _ _ => Except GoError (List Session)
  | .put _ _ | .delete _ => Unit
  | .take _ => Option URL
  | _ => Except GoError Unit

/-- What becomes of a statement: it is carried out, it fails, or it is carried
out and the answer is lost. -/
inductive Outcome where
  | done
  | refused
  | unanswered
  deriving DecidableEq, Repr

/-- What the surroundings decide: the outcome of a statement, or the reply to
whatever is not a statement. -/
inductive Choice where
  | statement (outcome : Outcome)
  | reply (replies : (call : Call) → call.Reply)

abbrev Process (Outcome : Type) := Program Call Call.Reply Outcome

abbrev ConsoleEvent := Event Call Call.Reply

def call (request : Call) : Process request.Reply := .perform request

section Semantics

variable (db : Database)

/-- A row as its columns hold it. -/
def Session.stored (session : Session) : Session :=
  { session with
    expiresAt := db.stamp session.expiresAt
    openedAt := session.openedAt.map db.stamp
    closedAt := session.closedAt.map db.stamp
    createdAt := db.stamp session.createdAt }

/-- `WHERE id = ? AND opened_at IS NULL AND closed_at IS NULL AND expires_at > ?` -/
def Session.openable (id : GoString) (openedAt : Instant) (session : Session) : Bool :=
  db.same session.id id && session.openedAt.isNone && session.closedAt.isNone &&
    !db.notAfter session.expiresAt openedAt

/-- `WHERE id = ? AND closed_at IS NULL` -/
def Session.closable (id : GoString) (session : Session) : Bool :=
  db.same session.id id && session.closedAt.isNone

def Session.opened (openedAt : Instant) (session : Session) : Session :=
  { session with openedAt := some (db.stamp openedAt), result := .active }

def Session.closed (result : Result) (closedAt : Instant) (session : Session) : Session :=
  { session with closedAt := some (db.stamp closedAt), result := result }

/-- A statement with its effect and its reply, unless it fails. -/
def State.after {α : Type} (state : State) (outcome : Outcome) (effect : Except GoError α × State) :
    Except GoError α × State :=
  match outcome with
  | .done => effect
  | .refused => (.error (db.failed .unavailable), state)
  | .unanswered => (.error (db.failed .unavailable), effect.2)

/-- The reply to whatever is neither a statement nor about the targets. -/
def Call.foreign : Call → Bool
  | .createSession _ | .findSession _ | .openSession _ _ | .closeSession _ _ _ => false
  | .put _ _ | .take _ | .delete _ | .backup | .restore _ => false
  | _ => true

def perform (call : Call) (choice : Choice) (state : State) : Option (call.Reply × State) :=
  match call, choice with
  | .createSession session, .statement outcome =>
      some (state.after db outcome
        (if state.sessions.any fun row => db.same row.id session.id || row.ticketHash = session.ticketHash then
          (.error (.wrapped (text "create console session") (db.failed .duplicate)), state)
        else (.ok (), { state with sessions := state.sessions ++ [session.stored db] })))
  | .findSession ticketHash, .statement outcome =>
      some (state.after db outcome
        (match state.sessions.find? fun row => row.ticketHash = ticketHash with
        | some row => .ok row
        | none => .error (.sentinel .consoleSessionNotFound), state))
  | .openSession id openedAt, .statement outcome =>
      let affected := state.sessions.filter (Session.openable db id openedAt)
      some (state.after db outcome (.ok affected,
        if affected.length = 1 then
          { state with sessions := state.sessions.map fun row =>
              if row.openable db id openedAt then row.opened db openedAt else row }
        else state))
  | .closeSession id result closedAt, .statement outcome =>
      some (state.after db outcome
        (if state.sessions.countP (Session.closable db id) = 1 then .ok ()
          else .error (.sentinel .consoleSessionNotFound),
        { state with sessions := state.sessions.map fun row =>
            if row.closable db id then row.closed db result closedAt else row }))
  | .put id target, _ =>
      some ((), { state with targets := fun other => if other = id then some target else state.targets other })
  | .take id, _ =>
      some (state.targets id,
        { state with targets := fun other => if other = id then none else state.targets other })
  | .delete id, _ =>
      some ((), { state with targets := fun other => if other = id then none else state.targets other })
  | .backup, .statement outcome =>
      some (state.after db outcome (.ok (), { state with archives := state.archives ++ [state.sessions] }))
  | .restore archive, .statement outcome =>
      some (state.after db outcome
        (match state.archives[archive]? with
        | some sessions => (.ok (), { state with sessions := sessions })
        | none => (.error (.plain (text "backup not found")), state)))
  | call, .reply replies => if call.foreign then some (replies call, state) else none
  | _, _ => none

variable {db} {before after : State} {choice : Choice}

theorem State.after_state {α : Type} (state : State) (outcome : Outcome) (effect : Except GoError α × State) :
    (state.after db outcome effect).2 = state ∨ (state.after db outcome effect).2 = effect.2 := by
  cases outcome with
  | done => exact .inr rfl
  | refused => exact .inl rfl
  | unanswered => exact .inr rfl

/-- What is replied without an error was carried out. -/
theorem State.after_ok {α : Type} {state next : State} {outcome : Outcome} {effect : Except GoError α × State}
    {result : α} (answered : state.after db outcome effect = (.ok result, next)) : effect = (.ok result, next) := by
  cases outcome with
  | done => exact answered
  | refused => cases answered
  | unanswered => cases answered

theorem perform_foreign {request : Call} {reply : request.Reply} (foreign : request.foreign = true)
    (answered : perform db request choice before = some (reply, after)) : after = before := by
  cases request <;> first | (cases foreign; done) | skip
  all_goals
    cases choice with
    | statement outcome => cases answered
    | reply replies =>
        cases answered
        rfl

end Semantics

end NodeAtlas.Console
