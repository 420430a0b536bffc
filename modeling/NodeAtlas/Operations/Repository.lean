import NodeAtlas.Database
import NodeAtlas.Operations.Model

/-! `SQLRepository` of the operations package, statement by statement. -/

set_option autoImplicit false

namespace NodeAtlas.Operations

open Interleaving Transactions

def Action.value : Action → GoString
  | .start => text "start"
  | .stop => text "stop"
  | .reboot => text "reboot"
  | .other name => name

def Status.value : Status → GoString
  | .queued => text "queued"
  | .running => text "running"
  | .verifying => text "verifying"
  | .succeeded => text "succeeded"
  | .failed => text "failed"
  | .timedOut => text "timed_out"
  | .cancelled => text "cancelled"
  | .other name => name

section Schema

variable (db : Database) (references : Row → Bool)

/-- The two CHECK constraints on `action` and `status`. -/
def checked (row : Row) : Bool :=
  ([Action.start, .stop, .reboot].any fun action => db.same action.value row.action.value) &&
  ([Status.queued, .running, .verifying, .succeeded, .failed, .timedOut, .cancelled].any
    fun status => db.same status.value row.status.value)

def clash (left right : Row) : Bool :=
  db.same left.id right.id ||
  db.same left.idempotencyKey right.idempotencyKey ||
  (db.same left.serverID right.serverID && left.activeMarker && right.activeMarker)

/-- The `operations` table. `references` stands for the constraints that need
other tables or the column types: both foreign keys and the column lengths. -/
def engine : Engine Row GoString where
  key row := db.collate row.id
  clash := clash db
  accepts row := checked db row && references row
  exclusive := db.singleConnection
  symmetric := by
    intro left right
    simp only [clash, db.same_symm left.id, db.same_symm left.idempotencyKey,
      db.same_symm left.serverID, Bool.and_assoc, Bool.and_comm left.activeMarker]
  keyed := by
    intro left right same
    simp [clash, Database.same, same]

end Schema

abbrev Repository (Outcome : Type) := Client Row GoString Outcome

variable (db : Database)

/-- The row that `CreateQueued` inserts; `started_at` and `finished_at` are
not among its columns and stay NULL. -/
def queuedRow (operation : Operation) : Row :=
  { operation with
    status := .queued
    queuedAt := db.stamp operation.queuedAt
    startedAt := none
    finishedAt := none
    updatedAt := db.stamp operation.updatedAt
    activeMarker := true }

def findOperation (clause : Row → Bool) : Repository (Except GoError Operation) := do
  match ← Client.select (.filtered clause) with
  | .ok (some row) => return .ok row.toOperation
  | .ok none => return .error (.sentinel .operationNotFound)
  | .error failure => return .error (.wrapped (text "find operation") (db.failed failure))

def hasID (id : GoString) (row : Row) : Bool := db.same row.id id

def hasIdempotencyKey (key : GoString) (row : Row) : Bool := db.same row.idempotencyKey key

def activeOn (serverID : GoString) (row : Row) : Bool :=
  db.same row.serverID serverID && row.activeMarker

/-- A lookup outside a transaction: `FindByID` and `FindByIdempotencyKey`. -/
def findCommitted (clause : Row → Bool) : Repository (Except GoError Operation) := do
  match ← Client.begin with
  | .error failure => return .error (.wrapped (text "find operation") (db.failed failure))
  | .ok () => Client.endWith (← findOperation db clause)

def findByID (id : GoString) : Repository (Except GoError Operation) :=
  findCommitted db (hasID db id)

def findByIdempotencyKey (key : GoString) : Repository (Except GoError Operation) :=
  findCommitted db (hasIdempotencyKey db key)

/-- The second lookup after a failed insert. -/
def findRival (operation : Operation) (failure : Failure) :
    Repository (Except GoError (Operation × Bool)) := do
  match ← findOperation db (activeOn db operation.serverID) with
  | .ok _ => Client.endWith (.error (.sentinel .activeOperation))
  | .error _ => Client.endWith (.error (.wrapped (text "create operation") (db.failed failure)))

/-- The lookups after a failed insert, inside the same transaction. -/
def explainRejection (operation : Operation) (failure : Failure) :
    Repository (Except GoError (Operation × Bool)) := do
  match ← findOperation db (hasIdempotencyKey db operation.idempotencyKey) with
  | .ok existing => Client.endWith (.ok (existing, false))
  | .error _ => findRival db operation failure

def commitQueued (operation : Operation) : Repository (Except GoError (Operation × Bool)) := do
  match ← Client.commit with
  | .error failure => return .error (db.failed failure)
  | .ok () => return .ok ({ operation with status := .queued }, true)

def insertQueued (operation : Operation) : Repository (Except GoError (Operation × Bool)) := do
  match ← Client.insert (queuedRow db operation) with
  | .error failure => explainRejection db operation failure
  | .ok () => commitQueued db operation

def lookUpQueued (operation : Operation) : Repository (Except GoError (Operation × Bool)) := do
  match ← findOperation db (hasIdempotencyKey db operation.idempotencyKey) with
  | .ok existing => Client.endWith (.ok (existing, false))
  | .error failure =>
      if failure.is .operationNotFound then insertQueued db operation
      else Client.endWith (.error failure)

def createQueued (operation : Operation) : Repository (Except GoError (Operation × Bool)) := do
  match ← Client.begin with
  | .error failure => return .error (db.failed failure)
  | .ok () => lookUpQueued db operation

/-- `change.At`, or the clock where the caller left it zero. -/
def Change.instant (change : Change) (clock : Instant) : Instant :=
  if change.changeAt = zeroInstant then clock else change.changeAt

/-- The operation that `Transition` computes from the one it read. -/
def Operation.transitioned (current : Operation) (next : Status) (at_ : Instant)
    (change : Change) : Operation :=
  { current with
    status := next
    updatedAt := at_
    startedAt := if next = .running && current.startedAt.isNone then some at_
      else current.startedAt
    finishedAt := if next.terminal then some at_ else current.finishedAt
    providerRequestID := if change.providerRequestID = [] then current.providerRequestID
      else change.providerRequestID
    errorCode := change.errorCode
    errorMessage := change.errorMessage }

/-- The columns that the UPDATE of `Transition` sets. -/
def Row.rewritten (after : Operation) (row : Row) : Row :=
  { row with
    status := after.status
    activeMarker := !after.status.terminal
    providerRequestID := after.providerRequestID
    errorCode := after.errorCode
    errorMessage := after.errorMessage
    startedAt := after.startedAt.map db.stamp
    finishedAt := after.finishedAt.map db.stamp
    updatedAt := db.stamp after.updatedAt }

def updateOperation (previous : Status) (current : Operation) :
    Repository (Except GoError Operation) := do
  match ← Client.update (db.collate current.id) (fun row => row.status = previous)
      (Row.rewritten db current) with
  | .error failure =>
      Client.endWith (.error (.wrapped (text "transition operation") (db.failed failure)))
  | .ok affected =>
      if affected ≠ 1 then
        Client.endWith (.error (.sentinel .invalidTransition))
      else
        match ← Client.commit with
        | .error failure => return .error (db.failed failure)
        | .ok () => return .ok current

def transition (clock : Instant) (id : GoString) (next : Status) (change : Change) :
    Repository (Except GoError Operation) := do
  match ← Client.begin with
  | .error failure => return .error (db.failed failure)
  | .ok () =>
      match ← findOperation db (hasID db id) with
      | .error failure => Client.endWith (.error failure)
      | .ok current =>
          if validTransition current.status next then
            updateOperation db current.status
              (current.transitioned next (change.instant clock) change)
          else
            Client.endWith (.error (.sentinel .invalidTransition))

/-- The writing calls of the repository. -/
inductive Call where
  | createQueued (operation : Operation)
  | transition (clock : Instant) (id : GoString) (next : Status) (change : Change)

inductive Result where
  | created (outcome : Except GoError (Operation × Bool))
  | transitioned (outcome : Except GoError Operation)

def Call.program : Call → Repository Result
  | .createQueued operation => return .created (← Operations.createQueued db operation)
  | .transition clock id next change =>
      return .transitioned (← Operations.transition db clock id next change)

/-- The repository calls of any number of callers against one table. -/
def repository (references : Row → Bool) :
    System (Statement Row GoString) Statement.Reply (Store Row) Call Result Bool :=
  Transactions.system (engine db references) (Call.program db)

end NodeAtlas.Operations
