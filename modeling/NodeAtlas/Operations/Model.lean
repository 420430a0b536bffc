import NodeAtlas.Runtime

/-! Power operations and the state machine of their status. -/

set_option autoImplicit false

namespace NodeAtlas.Operations

/-- `Action` is a Go string; the table's CHECK admits only the first three. -/
inductive Action where
  | start
  | stop
  | reboot
  | other (name : GoString)
  deriving DecidableEq, Repr

inductive Status where
  | queued
  | running
  | verifying
  | succeeded
  | failed
  | timedOut
  | cancelled
  | other (name : GoString)
  deriving DecidableEq, Repr

def Status.terminal : Status → Bool
  | .succeeded | .failed | .timedOut | .cancelled => true
  | _ => false

/-- The statuses that keep the server locked. -/
def Status.active : Status → Bool
  | .queued | .running | .verifying => true
  | _ => false

def validTransition : Status → Status → Bool
  | .queued, next => next = .running || next = .failed || next = .cancelled
  | .running, next =>
      next = .verifying || next = .succeeded || next = .failed || next = .timedOut
  | .verifying, next => next = .succeeded || next = .failed || next = .timedOut
  | _, _ => false

def validAction (action : Action) : Bool :=
  action = .start || action = .stop || action = .reboot

structure Operation where
  id : GoString
  serverID : GoString
  connectionID : GoString
  action : Action
  status : Status
  idempotencyKey : GoString
  providerRequestID : GoString
  errorCode : GoString
  errorMessage : GoString
  queuedAt : Instant
  startedAt : Option Instant
  finishedAt : Option Instant
  updatedAt : Instant
  deriving DecidableEq, Repr

/-- The `Transition` argument of the repository method. -/
structure Change where
  changeAt : Instant
  providerRequestID : GoString
  errorCode : GoString
  errorMessage : GoString
  deriving DecidableEq, Repr

/-- A row of the operations table: the operation and whether `active_marker`
is 'active' or NULL, the only values its CHECK admits. -/
structure Row extends Operation where
  activeMarker : Bool
  deriving DecidableEq, Repr

/-! ## How far a status has come -/

/-- Every valid transition moves strictly up. -/
def Status.rank : Status → Nat
  | .queued => 0
  | .running => 1
  | .verifying => 2
  | _ => 3

theorem validTransition_rank {current next : Status}
    (valid : validTransition current next = true) : current.rank < next.rank := by
  cases current <;> simp only [validTransition, Bool.or_eq_true, decide_eq_true_eq,
    Bool.false_eq_true] at valid
  case queued => rcases valid with (rfl | rfl) | rfl <;> decide
  case running => rcases valid with ((rfl | rfl) | rfl) | rfl <;> decide
  case verifying => rcases valid with (rfl | rfl) | rfl <;> decide

theorem validTransition_active {current next : Status}
    (valid : validTransition current next = true) : current.active = true := by
  cases current <;> simp_all [validTransition, Status.active]

/-- A status reached by a transition either keeps the server locked or ends
the operation. -/
theorem validTransition_terminal {current next : Status}
    (valid : validTransition current next = true) :
    next.terminal = !next.active := by
  cases current <;> simp only [validTransition, Bool.or_eq_true, decide_eq_true_eq,
    Bool.false_eq_true] at valid
  case queued => rcases valid with (rfl | rfl) | rfl <;> rfl
  case running => rcases valid with ((rfl | rfl) | rfl) | rfl <;> rfl
  case verifying => rcases valid with (rfl | rfl) | rfl <;> rfl

theorem Status.terminal_not_active {status : Status} (terminal : status.terminal = true) :
    status.active = false := by
  cases status <;> simp_all [Status.terminal, Status.active]

end NodeAtlas.Operations
