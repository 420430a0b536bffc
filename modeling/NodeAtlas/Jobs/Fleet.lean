import NodeAtlas.Interleaving.Discipline
import NodeAtlas.Jobs.Table
import NodeAtlas.Jobs.Worker

/-! Any number of workers over one jobs table, with enqueues in between. Each
repository method is one step, the handlers answer what they like, and the
clock of the process never goes back. -/

set_option autoImplicit false

namespace NodeAtlas.Jobs

open Interleaving

/-- What a call on the table returns. -/
@[reducible] def Call.Reply : Call → Type
  | .leaseNext _ _ _ => Except GoError Lease
  | _ => Except GoError Unit

/-- The client code of a call, with the reply as its method declares it. -/
def Call.client (db : Database) : (call : Call) → Repository call.Reply
  | .enqueueConnectionSync queue connectionID => Jobs.enqueueConnectionSync db queue connectionID
  | .enqueuePowerOperation queue operationID => Jobs.enqueuePowerOperation db queue operationID
  | .leaseNext owner now duration => Jobs.leaseNext db owner now duration
  | .retry id owner availableAt message => Jobs.retry db id owner availableAt message
  | .complete id owner at_ => Jobs.complete db id owner at_
  | .fail id owner at_ message => Jobs.fail db id owner at_ message

namespace Fleet

inductive Call where
  | now
  | repository (call : Jobs.Call)
  | handle (job : Job)
  | pause

/-- `pause` replies whether the context has been cancelled. -/
@[reducible] def Call.Reply : Call → Type
  | .now => Instant
  | .repository call => call.Reply
  | .handle _ => Except GoError Unit
  | .pause => Bool

structure State where
  rows : List Row
  clock : Instant

inductive Choice where
  | instant (value : Instant)
  | database (faults : List Bool)
  | handled (result : Except GoError Unit)
  | cancelled (ceased : Bool)

abbrev Process (Outcome : Type) := Program Call Call.Reply Outcome

def call (request : Call) : Process request.Reply := .perform request

def host : Host Process where
  now := call .now
  leaseNext owner at_ duration := call (.repository (.leaseNext owner at_ duration))
  retry id owner availableAt message := call (.repository (.retry id owner availableAt message))
  complete id owner at_ := call (.repository (.complete id owner at_))
  fail id owner at_ message := call (.repository (.fail id owner at_ message))
  handle job := call (.handle job)

/-- A worker with the number of cycles that it lives for, or one enqueue. -/
inductive Activity where
  | work (worker : Worker) (cycles : Nat)
  | enqueueConnectionSync (maxAttempts : Int) (now : Instant) (newID connectionID : GoString)
  | enqueuePowerOperation (maxAttempts : Int) (now : Instant) (newID operationID : GoString)

def Activity.program : Activity → Process (Except GoError Unit)
  | .work worker cycles => worker.run host (call .pause) cycles
  | .enqueueConnectionSync maxAttempts now newID connectionID =>
      call (.repository (.enqueueConnectionSync (newQueue maxAttempts now newID) connectionID))
  | .enqueuePowerOperation maxAttempts now newID operationID =>
      call (.repository (.enqueuePowerOperation (newQueue maxAttempts now newID) operationID))

/-- The name that a worker leases and settles jobs under. -/
def Activity.owner : Activity → Option GoString
  | .work worker _ => some worker.owner
  | _ => none

section Semantics

variable (db : Database) (columns : Row → Bool)

/-- A statement that is answered with an error is taken not to have been carried
out. -/
def perform (call : Call) (choice : Choice) (state : State) :
    Option (call.Reply × State) :=
  match call, choice with
  | .now, .instant value =>
      if state.clock ≤ value then some (value, { state with clock := value }) else none
  | .repository call, .database faults =>
      ((engine db columns).transact (call.client db) faults state.rows).map fun (reply, rows) =>
        (reply, { state with rows := rows })
  | .handle _, .handled result => some (result, state)
  | .pause, .cancelled ceased => some (ceased, state)
  | _, _ => none

/-- A crash ends the workers; the table and the time stay. -/
def fleet : System Call Call.Reply State Activity (Except GoError Unit) Choice where
  program := Activity.program
  perform _ := perform db columns
  external := fun _ _ => none
  restart := id

end Semantics

abbrev FleetConfig : Type := Config Call Call.Reply State Activity (Except GoError Unit)

abbrev FleetEvent : Type := Event Call Call.Reply

abbrev FleetThread : Type := Thread Call Call.Reply Activity (Except GoError Unit)

abbrev FleetLabel : Type := Label Call Call.Reply Activity Choice

def empty (clock : Instant) : FleetConfig := Config.initial ⟨[], clock⟩

/-! ## What an event says about a job -/

/-- The lease that was granted, and to whom. -/
def grantOf : FleetEvent → Option Lease
  | ⟨.repository (.leaseNext _ _ _), .ok lease⟩ => some lease
  | _ => none

/-- A call that settles a job, and the name under which it does. -/
def settling : Call → Option (GoString × GoString)
  | .repository (.retry id owner _ _) => some (id, owner)
  | .repository (.complete id owner _) => some (id, owner)
  | .repository (.fail id owner _ _) => some (id, owner)
  | _ => none

/-- The job that a call has settled. -/
def settledBy : FleetEvent → Option GoString
  | ⟨.repository (.retry id _ _ _), .ok _⟩ => some id
  | ⟨.repository (.complete id _ _), .ok _⟩ => some id
  | ⟨.repository (.fail id _ _ _), .ok _⟩ => some id
  | _ => none

theorem settledBy_ungranted {event : FleetEvent} {id : GoString}
    (settled : settledBy event = some id) : grantOf event = none := by
  unfold settledBy at settled
  unfold grantOf
  split at settled <;> first | rfl | cases settled

/-- The lease that a worker has been granted and not yet tried to settle. -/
def holding : List FleetEvent → Option Lease
  | [] => none
  | event :: earlier =>
      match grantOf event with
      | some lease => some lease
      | none => if (settling event.call).isSome then none else holding earlier

/-! ## A worker keeps to one job at a time -/

def fits : FleetEvent → Prop
  | ⟨.repository (.leaseNext owner at_ duration), .ok lease⟩ =>
      lease.owner = owner ∧ lease.expiresAt = at_ + duration
  | _ => True

def workerRule (worker : Worker) (earlier : List FleetEvent) (event : FleetEvent) : Prop :=
  match event.call with
  | .now | .handle _ | .pause => True
  | .repository (.leaseNext owner at_ duration) => owner = worker.owner ∧
      duration = worker.leaseDuration ∧ holding earlier = none ∧
      (⟨.now, at_⟩ : FleetEvent) ∈ earlier
  | .repository (.retry id owner _ _) | .repository (.complete id owner _)
  | .repository (.fail id owner _ _) => ∃ lease, holding earlier = some lease ∧
      id = lease.job.id ∧ owner = worker.owner
  | .repository _ => False

def rule : Activity → List FleetEvent → FleetEvent → Prop
  | .work worker _, earlier, event => fits event ∧ workerRule worker earlier event
  | .enqueueConnectionSync maxAttempts now newID id, _, event =>
      event.call = .repository (.enqueueConnectionSync (newQueue maxAttempts now newID) id)
  | .enqueuePowerOperation maxAttempts now newID id, _, event =>
      event.call = .repository (.enqueuePowerOperation (newQueue maxAttempts now newID) id)

def audit : Audit Call Call.Reply Activity (Except GoError Unit) where
  fits := fits
  rule := rule
  closing _ _ _ := True

private abbrev Kept {α : Type} (worker : Worker) (closing : List FleetEvent → α → Prop)
    (earlier : List FleetEvent) (program : Process α) : Prop :=
  program.Audited fits (fun earlier event => fits event ∧ workerRule worker earlier event)
    closing earlier

private theorem settle_kept {worker : Worker} {lease : Lease} {earlier : List FleetEvent}
    (held : holding earlier = some lease) (named : lease.owner = worker.owner)
    (result : Except GoError Unit) :
    Kept worker (fun events _ => holding events = none) earlier
      (worker.settle host lease result) := by
  have read : ∀ now, holding (⟨.now, now⟩ :: earlier) = some lease := fun now => held
  cases result with
  | ok _ =>
      intro now _
      refine ⟨⟨trivial, trivial⟩, ?_⟩
      intro reply _
      exact ⟨⟨trivial, lease, read now, rfl, named⟩, rfl⟩
  | error failure =>
      intro now _
      refine ⟨⟨trivial, trivial⟩, ?_⟩
      change Kept worker _ _ (if failure.retryable = true then _ else _)
      split
      · intro reply _
        exact ⟨⟨trivial, lease, read now, rfl, named⟩, rfl⟩
      · intro reply _
        exact ⟨⟨trivial, lease, read now, rfl, named⟩, rfl⟩

private theorem runOnce_kept {worker : Worker} {earlier : List FleetEvent}
    (free : holding earlier = none) :
    Kept worker (fun events _ => holding events = none) earlier (worker.runOnce host) := by
  intro now _
  refine ⟨⟨trivial, trivial⟩, ?_⟩
  intro reply fit
  refine ⟨⟨fit, rfl, rfl, free, List.mem_cons_self⟩, ?_⟩
  cases reply with
  | error failure => exact free
  | ok lease =>
      intro result _
      refine ⟨⟨trivial, trivial⟩, ?_⟩
      exact settle_kept rfl fit.1 result

private theorem run_kept {worker : Worker} {earlier : List FleetEvent}
    (free : holding earlier = none) (cycles : Nat) :
    Kept worker (fun _ _ => True) earlier (worker.run host (call .pause) cycles) := by
  induction cycles generalizing earlier with
  | zero => trivial
  | succ cycles ih =>
      refine (runOnce_kept free).bind ?_
      intro events result still
      cases result with
      | ok _ => exact ih still
      | error failure =>
          dsimp only
          split
          · intro ceased _
            refine ⟨⟨trivial, trivial⟩, ?_⟩
            cases ceased with
            | true => trivial
            | false => exact ih still
          · trivial

/-! ## What a call does to the table -/

/-- What every way to settle a job makes of its row. -/
structure Settlement (row after : Row) : Prop where
  sameID : after.id = row.id
  attempts : after.attempts = row.attempts
  maxAttempts : after.maxAttempts = row.maxAttempts
  ceased : after.status ≠ .running
  requeued : after.status = .queued → row.attempts < row.maxAttempts

inductive Changed (db : Database) (rows : List Row) : FleetEvent → List Row → Prop where
  | kept {event : FleetEvent} (ungranted : grantOf event = none)
      (unsettled : settledBy event = none) : Changed db rows event rows
  | enqueued {event : FleetEvent} {queue : Queue} {kind : Kind} {field id : GoString}
      (ungranted : grantOf event = none) (unsettled : settledBy event = none)
      (asked : event.call = .repository (.enqueueConnectionSync queue id) ∨
        event.call = .repository (.enqueuePowerOperation queue id)) :
      Changed db rows event (rows ++ [enqueuedRow db (queue.job kind field id)])
  | granted {owner : GoString} {at_ : Instant} {duration : Duration} {lease : Lease} {row : Row}
      (member : row ∈ rows) (chosen : (leasable db at_).condition row = true)
      (sameID : lease.job.id = row.id) :
      Changed db rows ⟨.repository (.leaseNext owner at_ duration), .ok lease⟩
        (changeRow db row.id (Row.leased db owner at_ (at_ + duration)) rows)
  | settled {event : FleetEvent} {id owner : GoString} {row : Row} {change : Row → Row}
      (settles : settling event.call = some (id, owner)) (done : settledBy event = some id)
      (member : row ∈ rows) (matched : db.same row.id id = true)
      (held : leasedBy db owner row = true) (settlement : Settlement row (change row)) :
      Changed db rows event (changeRow db id change rows)

section Steps

variable {db : Database} {columns : Row → Bool} {call : Call} {choice : Choice}
  {state next : State} {reply : call.Reply} {t : Nat}

theorem repository_alone {call : Jobs.Call} {reply : call.Reply} {faults : List Bool}
    (ran : perform db columns (.repository call) (.database faults) state = some (reply, next)) :
    ∃ rows, (engine db columns).transact (call.client db) faults state.rows =
      some (reply, rows) ∧ next = { state with rows := rows } := by
  obtain ⟨⟨_, rows⟩, transacted, same⟩ := Option.map_eq_some_iff.mp ran
  cases same
  exact ⟨rows, transacted, rfl⟩

private theorem retried_settlement (row : Row) (availableAt : Instant) (message : GoString) :
    Settlement row (row.retried db (retryStatus row) availableAt message) := by
  refine ⟨rfl, rfl, rfl, ?_, ?_⟩
  · simp only [Row.retried, retryStatus]
    split <;> simp
  · simp only [Row.retried, retryStatus]
    split
    · simp
    · intro _
      omega

private theorem finished_settlement (row : Row) {status : Status} (ceased : status.finished = true)
    (at_ : Instant) (message : GoString) : Settlement row (row.finished db status at_ message) := by
  refine ⟨rfl, rfl, rfl, ?_, ?_⟩
  · intro running
    simp only [Row.finished] at running
    rw [running] at ceased
    cases ceased
  · intro queued
    simp only [Row.finished] at queued
    rw [queued] at ceased
    cases ceased

theorem perform_changes
    (apart : state.rows.Pairwise fun left right => (engine db columns).clash left right = false)
    (ran : perform db columns call choice state = some (reply, next)) :
    Changed db state.rows ⟨call, reply⟩ next.rows := by
  cases call with
  | repository call =>
      cases choice with
      | database faults =>
          obtain ⟨rows, transacted, rfl⟩ := repository_alone ran
          cases call with
          | enqueueConnectionSync queue id =>
              rcases enqueueFor_alone transacted with ⟨_, inserted⟩ | ⟨_, rfl⟩
              · cases inserted with
                | stored => exact .enqueued rfl rfl (.inl rfl)
                | failed => exact .kept rfl rfl
              · exact .kept rfl rfl
          | enqueuePowerOperation queue id =>
              rcases enqueueFor_alone transacted with ⟨_, inserted⟩ | ⟨_, rfl⟩
              · cases inserted with
                | stored => exact .enqueued rfl rfl (.inr rfl)
                | failed => exact .kept rfl rfl
              · exact .kept rfl rfl
          | leaseNext owner at_ duration =>
              cases leaseNext_alone apart transacted with
              | granted member chosen sameID => exact .granted member chosen sameID
              | failed => exact .kept rfl rfl
          | retry id owner availableAt message =>
              cases retry_alone apart transacted with
              | released member matched held =>
                  exact .settled rfl rfl member matched held (retried_settlement _ _ _)
              | failed => exact .kept rfl rfl
          | complete id owner at_ =>
              cases finish_alone apart transacted with
              | released member matched held =>
                  exact .settled rfl rfl member matched held (finished_settlement _ rfl _ _)
              | failed => exact .kept rfl rfl
          | fail id owner at_ message =>
              cases finish_alone apart transacted with
              | released member matched held =>
                  exact .settled rfl rfl member matched held (finished_settlement _ rfl _ _)
              | failed => exact .kept rfl rfl
      | _ => cases ran
  | now =>
      cases choice with
      | instant value =>
          simp only [perform] at ran
          split at ran <;> cases ran
          exact .kept rfl rfl
      | _ => cases ran
  | handle job | pause =>
      cases choice <;> cases ran
      exact .kept rfl rfl

theorem perform_apart
    (apart : state.rows.Pairwise fun left right => (engine db columns).clash left right = false)
    (ran : perform db columns call choice state = some (reply, next)) :
    next.rows.Pairwise fun left right => (engine db columns).clash left right = false := by
  cases call with
  | repository call =>
      cases choice with
      | database faults =>
          obtain ⟨rows, transacted, rfl⟩ := repository_alone ran
          exact Transactions.transact_apart apart transacted
      | _ => cases ran
  | now =>
      cases choice with
      | instant value =>
          simp only [perform] at ran
          split at ran <;> cases ran
          exact apart
      | _ => cases ran
  | handle job | pause =>
      cases choice <;> cases ran
      exact apart

/-- The clock moves with its readings only, and never back. -/
theorem perform_clock (ran : perform db columns call choice state = some (reply, next)) :
    state.clock ≤ next.clock ∧
      ∀ value, (⟨call, reply⟩ : FleetEvent) = ⟨.now, value⟩ → value ≤ next.clock := by
  cases call with
  | repository call =>
      cases choice with
      | database faults =>
          obtain ⟨rows, _, rfl⟩ := repository_alone ran
          exact ⟨Int.le_refl _, fun value same => by cases same⟩
      | _ => cases ran
  | now =>
      cases choice with
      | instant value =>
          simp only [perform] at ran
          split at ran <;> cases ran
          next later =>
            refine ⟨later, ?_⟩
            intro read same
            cases same
            exact Int.le_refl _
      | _ => cases ran
  | handle job | pause =>
      cases choice <;> cases ran
      all_goals exact ⟨Int.le_refl _, fun value same => by cases same⟩

/-- A grant carries the name and the end of what was asked for. -/
theorem perform_fits (ran : perform db columns call choice state = some (reply, next)) :
    fits ⟨call, reply⟩ := by
  cases call with
  | repository call =>
      cases choice with
      | database faults =>
          obtain ⟨rows, transacted, _⟩ := repository_alone ran
          cases call with
          | leaseNext owner at_ duration =>
              cases reply with
              | error failure => trivial
              | ok lease => exact leaseNext_returns transacted
          | _ => trivial
      | _ => cases ran
  | _ => trivial

end Steps

theorem fleet_passes (db : Database) (columns : Row → Bool) :
    audit.Passed (fleet db columns) fun _ => True where
  fitting _ _ _ _ _ _ ran := perform_fits ran
  audited activity _ := by
    cases activity with
    | work worker cycles => exact run_kept rfl cycles
    | enqueueConnectionSync queue id => exact fun _ _ => ⟨rfl, trivial⟩
    | enqueuePowerOperation queue id => exact fun _ _ => ⟨rfl, trivial⟩

end Fleet

end NodeAtlas.Jobs
