import NodeAtlas.Database
import NodeAtlas.Jobs.Model

/-! `SQLRepository` and `Queue` of the jobs package, statement by statement. -/

set_option autoImplicit false

namespace NodeAtlas.Jobs

open Interleaving Transactions

/-- The `jobs` table; `columns` stands for what the column types admit. -/
def engine (db : Database) (columns : Row → Bool) : Engine Row GoString where
  key row := db.collate row.id
  clash left right := db.same left.id right.id
  accepts := columns
  exclusive := db.singleConnection
  symmetric left right := db.same_symm left.id right.id
  keyed left right same := by simp [Database.same, same]

abbrev Repository (Outcome : Type) := Client Row GoString Outcome

variable (db : Database)

/-- The INSERT of `Enqueue` leaves both lease columns NULL. -/
def enqueuedRow (job : Job) : Row where
  id := job.id
  kind := job.kind
  payload := job.payload
  status := job.status
  attempts := job.attempts
  maxAttempts := job.maxAttempts
  availableAt := db.stamp job.availableAt
  leaseOwner := none
  leaseExpiresAt := none
  lastError := job.lastError
  createdAt := db.stamp job.createdAt
  updatedAt := db.stamp job.updatedAt

def enqueue (job : Job) : Repository (Except GoError Unit) := do
  match ← Client.autocommit (Client.insert (enqueuedRow db job)) with
  | .error failure => return .error (.wrapped (text "enqueue job") (db.failed failure))
  | .ok () => return .ok ()

/-- `EnqueueConnectionSync` and `EnqueuePowerOperation` differ in the kind, the
payload field and the message for an empty id. -/
def enqueueFor (queue : Queue) (kind : Kind) (field message id : GoString) :
    Repository (Except GoError Unit) :=
  if id = [] then return .error (.plain message)
  else enqueue db (queue.job kind field id)

def enqueueConnectionSync (queue : Queue) (connectionID : GoString) :
    Repository (Except GoError Unit) :=
  enqueueFor db queue .syncConnection (text "connection_id")
    (text "connection ID is required") connectionID

def enqueuePowerOperation (queue : Queue) (operationID : GoString) :
    Repository (Except GoError Unit) :=
  enqueueFor db queue .powerOperation (text "operation_id")
    (text "operation ID is required") operationID

/-- Strictly earlier, for time columns. -/
def before (left right : Instant) : Bool :=
  db.notAfter left right && !db.notAfter right left

/-- `WHERE (status = 'queued' AND available_at <= now) OR (status = 'running'
AND lease_expires_at <= now) ORDER BY available_at, created_at`. -/
def leasable (now : Instant) : Query Row where
  condition row :=
    (row.status = .queued && db.notAfter row.availableAt now) ||
    (row.status = .running && row.leaseExpiresAt.any fun expires => db.notAfter expires now)
  precedes left right :=
    before db left.availableAt right.availableAt ||
    (!before db right.availableAt left.availableAt && before db left.createdAt right.createdAt)

/-- The columns that the UPDATE of `LeaseNext` sets. -/
def Row.leased (owner : GoString) (now expires : Instant) (row : Row) : Row :=
  { row with
    status := .running
    attempts := row.attempts + 1
    leaseOwner := some owner
    leaseExpiresAt := some (db.stamp expires)
    updatedAt := db.stamp now }

def claim (owner : GoString) (now : Instant) (duration : Duration) (row : Row) :
    Repository (Except GoError Lease) := do
  let expires := now + duration
  match ← Client.update (db.collate row.id) (fun _ => true) (Row.leased db owner now expires) with
  | .error failure => Client.endWith (.error (.wrapped (text "claim job lease") (db.failed failure)))
  | .ok affected =>
      if affected ≠ 1 then
        Client.endWith (.error (.sentinel .leaseLost))
      else
        match ← Client.commit with
        | .error failure => return .error (db.failed failure)
        | .ok () =>
            let job := { row.toJob with
              status := .running
              attempts := row.attempts + 1
              leaseOwner := owner
              leaseExpiresAt := some expires
              updatedAt := now }
            return .ok ⟨job, owner, expires⟩

/-- `FOR UPDATE SKIP LOCKED` on MySQL, a plain read on SQLite. -/
def selectLeasable (now : Instant) : Repository (Except Failure (Option Row)) :=
  match db.dialect with
  | .mysql => Client.selectForUpdate (leasable db now)
  | .sqlite => Client.select (leasable db now)

def leaseNext (owner : GoString) (now : Instant) (duration : Duration) :
    Repository (Except GoError Lease) := do
  match ← Client.begin with
  | .error failure => return .error (db.failed failure)
  | .ok () =>
      match ← selectLeasable db now with
      | .error failure => Client.endWith (.error (.wrapped (text "select job lease") (db.failed failure)))
      | .ok none => Client.endWith (.error (.sentinel .noJob))
      | .ok (some row) => claim db owner now duration row

/-- `id = ? AND status = 'running' AND lease_owner = ?` -/
def leasedBy (owner : GoString) (row : Row) : Bool :=
  row.status = .running && row.leaseOwner.any fun holder => db.same holder owner

/-- The columns that the UPDATE of `Retry` sets. -/
def Row.retried (status : Status) (availableAt : Instant) (message : GoString) (row : Row) : Row :=
  { row with
    status := status
    availableAt := db.stamp availableAt
    leaseOwner := none
    leaseExpiresAt := none
    lastError := message
    updatedAt := db.stamp availableAt }

def requeue (id owner : GoString) (availableAt : Instant) (message : GoString) (read : Row) :
    Repository (Except GoError Unit) := do
  let status := if read.attempts ≥ read.maxAttempts then Status.failed else .queued
  match ← Client.update (db.collate id) (leasedBy db owner)
      (Row.retried db status availableAt message) with
  | .error failure => Client.endWith (.error (db.failed failure))
  | .ok affected =>
      if affected ≠ 1 then
        Client.endWith (.error (.sentinel .leaseLost))
      else
        match ← Client.commit with
        | .error failure => return .error (db.failed failure)
        | .ok () => return .ok ()

def retry (id owner : GoString) (availableAt : Instant) (message : GoString) :
    Repository (Except GoError Unit) := do
  match ← Client.begin with
  | .error failure => return .error (db.failed failure)
  | .ok () =>
      match ← Client.select (.filtered fun row => db.same row.id id && leasedBy db owner row) with
      | .error failure => Client.endWith (.error (db.failed failure))
      | .ok none => Client.endWith (.error (.sentinel .leaseLost))
      | .ok (some read) => requeue db id owner availableAt message read

/-- The columns that the UPDATE of `finish` sets. -/
def Row.finished (status : Status) (at_ : Instant) (message : GoString) (row : Row) : Row :=
  { row with
    status := status
    leaseOwner := none
    leaseExpiresAt := none
    lastError := if db.same message [] then row.lastError else message
    updatedAt := db.stamp at_ }

def finish (id owner : GoString) (status : Status) (at_ : Instant) (message : GoString) :
    Repository (Except GoError Unit) := do
  match ← Client.autocommit (Client.update (db.collate id) (leasedBy db owner)
      (Row.finished db status at_ message)) with
  | .error failure => return .error (db.failed failure)
  | .ok affected =>
      if affected ≠ 1 then return .error (.sentinel .leaseLost)
      else return .ok ()

def complete (id owner : GoString) (at_ : Instant) : Repository (Except GoError Unit) :=
  finish db id owner .succeeded at_ []

def fail (id owner : GoString) (at_ : Instant) (message : GoString) :
    Repository (Except GoError Unit) :=
  finish db id owner .failed at_ message

/-- The writing calls on the jobs table. -/
inductive Call where
  | enqueueConnectionSync (queue : Queue) (connectionID : GoString)
  | enqueuePowerOperation (queue : Queue) (operationID : GoString)
  | leaseNext (owner : GoString) (now : Instant) (duration : Duration)
  | retry (id owner : GoString) (availableAt : Instant) (message : GoString)
  | complete (id owner : GoString) (at_ : Instant)
  | fail (id owner : GoString) (at_ : Instant) (message : GoString)

inductive Result where
  | written (outcome : Except GoError Unit)
  | leased (outcome : Except GoError Lease)

def Call.program : Call → Repository Result
  | .enqueueConnectionSync queue connectionID =>
      return .written (← Jobs.enqueueConnectionSync db queue connectionID)
  | .enqueuePowerOperation queue operationID =>
      return .written (← Jobs.enqueuePowerOperation db queue operationID)
  | .leaseNext owner now duration => return .leased (← Jobs.leaseNext db owner now duration)
  | .retry id owner availableAt message =>
      return .written (← Jobs.retry db id owner availableAt message)
  | .complete id owner at_ => return .written (← Jobs.complete db id owner at_)
  | .fail id owner at_ message => return .written (← Jobs.fail db id owner at_ message)

/-- The repository calls of any number of callers against one table. -/
def repository (columns : Row → Bool) :
    System (Statement Row GoString) Statement.Reply (Store Row) Call Result Bool :=
  Transactions.system (engine db columns) (Call.program db)

end NodeAtlas.Jobs
