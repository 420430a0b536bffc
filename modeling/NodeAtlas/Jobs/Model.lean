import NodeAtlas.Runtime

/-! Background jobs. -/

set_option autoImplicit false

namespace NodeAtlas.Jobs

inductive Kind where
  | syncConnection
  | powerOperation
  | other (name : GoString)
  deriving DecidableEq, Repr

inductive Status where
  | queued
  | running
  | succeeded
  | failed
  | other (name : GoString)
  deriving DecidableEq, Repr

/-- The statuses of a job that is over. -/
def Status.finished : Status → Bool
  | .succeeded | .failed => true
  | _ => false

/-- The statuses that `HasActiveWork` looks for. -/
def Status.active : Status → Bool
  | .queued | .running => true
  | _ => false

structure Job where
  id : GoString
  kind : Kind
  payload : JSONMap
  status : Status
  attempts : Int
  maxAttempts : Int
  availableAt : Instant
  leaseOwner : GoString
  leaseExpiresAt : Option Instant
  lastError : GoString
  createdAt : Instant
  updatedAt : Instant
  deriving DecidableEq, Repr

structure Lease where
  job : Job
  owner : GoString
  expiresAt : Instant
  deriving DecidableEq, Repr

/-- A row of the jobs table; both lease columns may be NULL. -/
structure Row where
  id : GoString
  kind : Kind
  payload : JSONMap
  status : Status
  attempts : Int
  maxAttempts : Int
  availableAt : Instant
  leaseOwner : Option GoString
  leaseExpiresAt : Option Instant
  lastError : GoString
  createdAt : Instant
  updatedAt : Instant
  deriving DecidableEq, Repr

/-- `scanJob`: a NULL owner reads as the empty string. -/
def Row.toJob (row : Row) : Job where
  id := row.id
  kind := row.kind
  payload := row.payload
  status := row.status
  attempts := row.attempts
  maxAttempts := row.maxAttempts
  availableAt := row.availableAt
  leaseOwner := row.leaseOwner.getD []
  leaseExpiresAt := row.leaseExpiresAt
  lastError := row.lastError
  createdAt := row.createdAt
  updatedAt := row.updatedAt

/-- `QueueOptions` once the defaults are filled in, with what the clock and
the id generator give to one call. -/
structure Queue where
  maxAttempts : Int
  now : Instant
  newID : GoString

/-- `NewQueue`: fewer than one attempt means three. -/
def newQueue (maxAttempts : Int) (now : Instant) (newID : GoString) : Queue where
  maxAttempts := if maxAttempts < 1 then 3 else maxAttempts
  now := now
  newID := newID

/-- The job that both enqueue methods store, for one kind and payload field. -/
def Queue.job (queue : Queue) (kind : Kind) (field id : GoString) : Job where
  id := queue.newID
  kind := kind
  payload := [(field, id)]
  status := .queued
  attempts := 0
  maxAttempts := queue.maxAttempts
  availableAt := queue.now
  leaseOwner := []
  leaseExpiresAt := none
  lastError := []
  createdAt := queue.now
  updatedAt := queue.now

end NodeAtlas.Jobs
