import NodeAtlas.Power.Process

/-! What a thread has found out and done, read off its own calls, and the rules
that the code of each activity keeps to. -/

set_option autoImplicit false

namespace NodeAtlas.Power

open Interleaving Operations Providers

/-! ## What a thread's own calls say -/

def leaseOf : PanelEvent → Option Jobs.Lease
  | ⟨.leaseNext _ _ _, .ok lease⟩ => some lease
  | _ => none

/-- The lease that a worker cycle was granted. -/
def leased (events : List PanelEvent) : Option Jobs.Lease :=
  events.findSome? leaseOf

def createdBy : PanelEvent → Option Operation
  | ⟨.createQueued _, .ok (operation, true)⟩ => some operation
  | _ => none

/-- The operation that a request has created. -/
def created (events : List PanelEvent) : Option Operation :=
  events.findSome? createdBy

/-- An operation that an execution goes on with after moving it. -/
def movedTo : PanelEvent → Option Operation
  | ⟨.transition _ next _, .ok operation⟩ => if next.terminal then none else some operation
  | _ => none

def foundBy : PanelEvent → Option Operation
  | ⟨.findOperation _, .ok operation⟩ => some operation
  | _ => none

/-- The operation that an execution works on, in the version it knows. -/
def current : List PanelEvent → Option Operation
  | [] => none
  | event :: earlier => (movedTo event).or ((current earlier).or (foundBy event))

/-- The operation that a lease names. -/
def namedBy (job : Jobs.Job) : GoString := job.payload.field (text "operation_id")

/-- An answer after which the execution has nothing left to do for the
operation: it is over, or the answer was an error. -/
def Concludes (db : Database) (id : GoString) (earlier : List PanelEvent) : PanelEvent → Prop
  | ⟨.findOperation asked, .ok operation⟩ =>
      db.same asked id = true ∧ operation.status.terminal = true
  | ⟨.findOperation asked, .error _⟩ => db.same asked id = true
  | ⟨.transition asked next _, .ok _⟩ => db.same asked id = true ∧ next.terminal = true
  | ⟨.transition asked _ _, .error _⟩ => db.same asked id = true
  | ⟨.updateRemote _ _ _, .error _⟩ =>
      ∃ operation, current earlier = some operation ∧ db.same operation.id id = true
  | ⟨.wait, .error _⟩ => True
  | _ => False

def Concluded (db : Database) (id : GoString) : List PanelEvent → Prop
  | [] => False
  | event :: earlier => Concludes db id earlier event ∨ Concluded db id earlier

def isLook : PanelEvent → Bool
  | ⟨.getServer _ _, _⟩ => true
  | _ => false

/-- The provider was asked to change the server. -/
def isWrite : PanelEvent → Bool
  | ⟨.powerAction _ _ _, _⟩ => true
  | _ => false

/-- The provider has been asked nothing about the server so far. -/
def Untouched (events : List PanelEvent) : Prop :=
  ∀ event ∈ events, isLook event = false ∧ isWrite event = false

/-- The servers row was last updated, from the answer that came right before. -/
def Observed (serverID : GoString) (remote : RemoteServer) (events : List PanelEvent) : Prop :=
  ∃ later at_ before provider ref rest,
    events = ⟨.now, later⟩ :: ⟨.updateRemote serverID remote at_, .ok ()⟩ :: ⟨.now, before⟩ ::
      ⟨.getServer provider ref, .ok remote⟩ :: rest

/-! ## The rules -/

section Rules

variable (db : Database)

def fits : PanelEvent → Prop
  | ⟨.findOperation id, .ok operation⟩ => db.same operation.id id = true
  | ⟨.transition id next _, .ok operation⟩ =>
      db.same operation.id id = true ∧ operation.status = next
  | _ => True

/-- When an execution moves its operation to a status. -/
def Moves (operation : Operation) (earlier : List PanelEvent) : Status → Prop
  | .running => operation.status = .queued
  | .verifying => operation.status ≠ .queued ∧ operation.status ≠ .verifying ∧
      ∃ at_ provider ref receipt rest, earlier =
        ⟨.now, at_⟩ :: ⟨.powerAction provider ref operation.action, .ok receipt⟩ :: rest
  | .succeeded => (operation.action = .reboot → operation.status = .verifying) ∧
      ∃ remote, Observed operation.serverID remote earlier ∧
        Executor.verificationTargetReached operation.action remote.state = true
  | .failed => operation.status ≠ .queued
  | .timedOut => operation.status ≠ .queued
  | _ => False

/-- When an execution asks the provider for a write. -/
structure Writes (operation : Operation) (action : Action) (earlier : List PanelEvent) : Prop where
  asked : operation.action = action
  open_ : operation.status ≠ .queued ∧ operation.status ≠ .verifying ∧
    operation.status.terminal = false
  looked : ∃ provider ref remote rest, earlier = ⟨.getServer provider ref, .ok remote⟩ :: rest ∧
    Untouched rest ∧ Executor.actionAlreadySatisfied action remote.state = false

/-- When a worker cycle may give up its job: the operation it names is done with. -/
def DoneWith (lease : Jobs.Lease) (earlier : List PanelEvent) : Prop :=
  lease.job.kind = .powerOperation → namedBy lease.job ≠ [] → Concluded db (namedBy lease.job) earlier

def executionRule (earlier : List PanelEvent) (event : PanelEvent) : Prop :=
  match event.call with
  | .now | .newID | .append _ | .findServer _ | .findConnection _ | .decrypt _ | .createProvider _
  | .validateConnection _ | .getServer _ _ | .deadline | .wait | .syncConnection _ => True
  | .leaseNext _ _ _ => earlier.all fun former => (leaseOf former).isNone
  | .findOperation id => ∃ lease, leased earlier = some lease ∧ lease.job.kind = .powerOperation ∧
      ((current earlier = none ∧ id = namedBy lease.job) ∨
        ∃ operation, current earlier = some operation ∧ id = operation.id)
  | .transition id next _ => ∃ operation, current earlier = some operation ∧ id = operation.id ∧
      operation.status.terminal = false ∧ Moves operation earlier next
  | .updateRemote serverID _ _ => ∃ operation, current earlier = some operation ∧
      serverID = operation.serverID
  | .powerAction _ _ action => ∃ operation, current earlier = some operation ∧
      Writes operation action earlier
  | .complete id _ _ => ∃ lease, leased earlier = some lease ∧ id = lease.job.id ∧
      DoneWith db lease earlier
  | .fail id _ _ _ => ∃ lease, leased earlier = some lease ∧ id = lease.job.id ∧
      DoneWith db lease earlier
  | .retry id _ _ _ => ∃ lease, leased earlier = some lease ∧ id = lease.job.id ∧
      (DoneWith db lease earlier ∨ lease.job.attempts < lease.job.maxAttempts)
  | _ => False

/-- The job or the compensation of a created operation. -/
def handsOver : PanelEvent → Bool
  | ⟨.enqueuePowerOperation _ _, .ok _⟩ => true
  | ⟨.transition _ _ _, _⟩ => true
  | _ => false

/-- The operation that a request has created and neither queued nor compensated. -/
def pending : List PanelEvent → Option GoString
  | [] => none
  | event :: earlier =>
      match createdBy event with
      | some operation => some operation.id
      | none => if handsOver event then none else pending earlier

def requestRule (earlier : List PanelEvent) (event : PanelEvent) : Prop :=
  match event.call with
  | .now | .newID | .findByIdempotencyKey _ | .findServer _ => True
  | .createQueued _ => created earlier = none
  | .enqueuePowerOperation _ id => pending earlier = some id
  | .append entry => ∃ operation queue, created earlier = some operation ∧
      (⟨.enqueuePowerOperation queue operation.id, .ok ()⟩ : PanelEvent) ∈ earlier ∧
      entry.eventType = text "power_operation_queued" ∧ entry.targetID = operation.id
  | .transition id next _ => next = .failed ∧ ∃ operation, created earlier = some operation ∧
      id = operation.id
  | _ => False

/-- A power job for the operation and its audit entry were stored. -/
structure Announced (id : GoString) (events : List PanelEvent) : Prop where
  queued : ∃ queue, (⟨.enqueuePowerOperation queue id, .ok ()⟩ : PanelEvent) ∈ events
  audited : ∃ entry, (⟨.append entry, .ok ()⟩ : PanelEvent) ∈ events ∧
    entry.eventType = text "power_operation_queued" ∧ entry.targetID = id

def requestClosing (events : List PanelEvent) : Outcome → Prop
  | .requested (.ok (operation, true)) => created events = some operation ∧
      Announced operation.id events ∧ pending events = none
  | .requested (.ok (_, false)) => created events = none
  | .requested (.error _) => created events = none ∨ ∃ operation change reply,
      created events = some operation ∧ pending events = none ∧
      (⟨.transition operation.id .failed change, reply⟩ : PanelEvent) ∈ events
  | _ => False

/-- The calls of the queue alone. -/
def enqueueRule (event : PanelEvent) : Prop :=
  match event.call with
  | .now | .newID | .enqueueConnectionSync _ _ | .enqueuePowerOperation _ _ => True
  | _ => False

/-- A restore replaces the tables once, after it has found no active work. -/
def backupRule (restores : Bool) (earlier : List PanelEvent) (event : PanelEvent) : Prop :=
  match event.call with
  | .now | .newID | .append _ | .hasActiveWork | .lock | .unlock | .readVerified _ | .exportArchive
  | .saveBackup _ => True
  | .restore _ => restores = true ∧ (⟨.hasActiveWork, .ok false⟩ : PanelEvent) ∈ earlier
  | _ => False

def rule : Activity → List PanelEvent → PanelEvent → Prop
  | .request _, earlier, event => fits db event ∧ requestRule earlier event
  | .runOnce _, earlier, event => fits db event ∧ executionRule db earlier event
  | .enqueueConnectionSync _, _, event => enqueueRule event
  | .enqueuePowerOperation _, _, event => enqueueRule event
  | .createBackup _ _ _, earlier, event => backupRule false earlier event
  | .restoreBackup _ _ _ _, earlier, event => backupRule true earlier event

def closing : Activity → List PanelEvent → Outcome → Prop
  | .request _, events, outcome => requestClosing events outcome
  | _, _, _ => True

def audit : Audit Call Call.Reply Activity Outcome where
  fits := fits db
  rule := rule db
  closing := closing

end Rules

/-! ## An execution keeps to its rule -/

section Execution

variable {db : Database} {lease : Jobs.Lease} {operation : Operation} {earlier : List PanelEvent}

/-- The execution of a leased job works on its operation. -/
structure Working (db : Database) (lease : Jobs.Lease) (operation : Operation)
    (earlier : List PanelEvent) : Prop where
  leased : leased earlier = some lease
  kind : lease.job.kind = .powerOperation
  known : current earlier = some operation
  named : db.same operation.id (namedBy lease.job) = true
  open_ : operation.status.terminal = false
  going : operation.status ≠ .queued

theorem leased_cons {event : PanelEvent} (quiet : leaseOf event = none) :
    leased (event :: earlier) = leased earlier := by
  simp [leased, quiet]

theorem current_cons (event : PanelEvent) (still : movedTo event = none)
    (known : current earlier = some operation) : current (event :: earlier) = some operation := by
  simp [current, still, known]

theorem Working.cons (working : Working db lease operation earlier) (event : PanelEvent)
    (quiet : leaseOf event = none) (still : movedTo event = none) :
    Working db lease operation (event :: earlier) where
  leased := (leased_cons quiet).trans working.leased
  kind := working.kind
  known := current_cons event still working.known
  named := working.named
  open_ := working.open_
  going := working.going

/-- What the execution of a job comes to. -/
def Executed (db : Database) (lease : Jobs.Lease) (events : List PanelEvent)
    (result : Except GoError Unit) : Prop :=
  leased events = some lease ∧ (DoneWith db lease events ∨
    ∃ failure, result = .error failure ∧ failure.retryable = true ∧
      lease.job.attempts < lease.job.maxAttempts)

private theorem concluded (leased_ : leased earlier = some lease)
    (concluded : Concluded db (namedBy lease.job) earlier) (result : Except GoError Unit) :
    Executed db lease earlier result :=
  ⟨leased_, .inl fun _ _ => concluded⟩

private abbrev Kept {α : Type} (db : Database) (closing : List PanelEvent → α → Prop)
    (earlier : List PanelEvent) (program : Process α) : Prop :=
  program.Audited (fits db) (fun earlier event => fits db event ∧ executionRule db earlier event)
    closing earlier

/-- An audit entry may follow whatever has been concluded. -/
private theorem appendAudit_kept (lease : Jobs.Lease) (leased_ : leased earlier = some lease)
    (done : Concluded db (namedBy lease.job) earlier) (eventType : GoString) (status : Status) :
    Kept db (fun events _ => leased events = some lease ∧
      Concluded db (namedBy lease.job) events) earlier
      (Executor.appendAudit operation eventType status) := by
  intro id _
  refine ⟨⟨trivial, trivial⟩, ?_⟩
  intro now _
  refine ⟨⟨trivial, trivial⟩, ?_⟩
  intro reply _
  refine ⟨⟨trivial, trivial⟩, ?_⟩
  refine ⟨?_, .inr (.inr (.inr done))⟩
  rw [leased_cons rfl, leased_cons rfl, leased_cons rfl]
  exact leased_

private theorem failOperation_kept (working : Working db lease operation earlier)
    (code message : GoString) (failure : GoError) :
    Kept db (Executed db lease) earlier
      (Executor.failOperation operation code message failure) := by
  intro now _
  refine ⟨⟨trivial, trivial⟩, ?_⟩
  have later := working.cons ⟨.now, now⟩ rfl rfl
  intro reply fit
  refine ⟨⟨fit, operation, later.known, rfl, working.open_, working.going⟩, ?_⟩
  cases reply with
  | error refused =>
      refine concluded ?_ ?_ _
      · exact (leased_cons rfl).trans later.leased
      · exact .inl working.named
  | ok failed =>
      have done : Concluded db (namedBy lease.job)
          ((⟨.transition operation.id .failed ⟨now, [], code, message⟩, .ok failed⟩ : PanelEvent) ::
            ⟨.now, now⟩ :: earlier) := .inl ⟨working.named, rfl⟩
      refine (appendAudit_kept lease ((leased_cons rfl).trans later.leased) done _ _).bind ?_
      rintro events audited ⟨still, concludedThen⟩
      cases audited <;> exact concluded still concludedThen _

private theorem finishError_kept (working : Working db lease operation earlier)
    (failure : GoError) :
    Kept db (Executed db lease) earlier (Executor.finishError operation lease.job failure) := by
  unfold Executor.finishError
  have retryable : (Executor.operationError failure).2.2 = failure.retryable := by
    unfold Executor.operationError GoError.retryable
    cases failure.asProvider <;> rfl
  dsimp only
  split
  · next again =>
      rw [retryable, Bool.and_eq_true, decide_eq_true_eq] at again
      exact ⟨working.leased, .inr ⟨failure, rfl, again⟩⟩
  · intro reply fit
    refine ⟨⟨fit, lease, working.leased, working.kind, .inr ⟨operation, working.known, rfl⟩⟩, ?_⟩
    have later := working.cons ⟨.findOperation operation.id, reply⟩ rfl rfl
    cases reply with
    | error lost => exact concluded later.leased (.inl working.named) _
    | ok found =>
        change Kept db (Executed db lease) _ (if found.status.terminal = true then _ else _)
        split
        · next ceased => exact concluded later.leased (.inl ⟨working.named, ceased⟩) _
        · exact failOperation_kept later _ _ _

private theorem Untouched.cons (untouched : Untouched earlier) (event : PanelEvent)
    (unlooked : isLook event = false) (unwritten : isWrite event = false) :
    Untouched (event :: earlier) := by
  intro former member
  rcases List.mem_cons.mp member with rfl | before
  · exact ⟨unlooked, unwritten⟩
  · exact untouched former before

/-- `succeed` follows the look that has found the target state. -/
private theorem succeed_kept {provider : ConnectionConfig} {ref : ServerRef}
    {remote : RemoteServer} {rest : List PanelEvent}
    (working : Working db lease operation (⟨.getServer provider ref, .ok remote⟩ :: rest))
    (reached : Executor.verificationTargetReached operation.action remote.state = true)
    (written : operation.action = .reboot → operation.status = .verifying) :
    Kept db (Executed db lease) (⟨.getServer provider ref, .ok remote⟩ :: rest)
      (Executor.succeed operation remote) := by
  intro before _
  refine ⟨⟨trivial, trivial⟩, ?_⟩
  have first := working.cons ⟨.now, before⟩ rfl rfl
  intro reply _
  refine ⟨⟨trivial, operation, first.known, rfl⟩, ?_⟩
  have second := first.cons
    ⟨.updateRemote operation.serverID remote before, reply⟩ rfl rfl
  cases reply with
  | error failure =>
      exact concluded second.leased (.inl ⟨operation, first.known, working.named⟩) _
  | ok _ =>
      intro later _
      refine ⟨⟨trivial, trivial⟩, ?_⟩
      have third := second.cons ⟨.now, later⟩ rfl rfl
      intro reply fit
      refine ⟨⟨fit, operation, third.known, rfl, working.open_, written, remote,
        ⟨later, before, before, provider, ref, rest, rfl⟩, reached⟩, ?_⟩
      cases reply with
      | error failure =>
          refine concluded ?_ ?_ _
          · exact (leased_cons rfl).trans third.leased
          · exact .inl working.named
      | ok succeeded =>
          refine (appendAudit_kept lease ?_ ?_ _ _).mono ?_
          · exact (leased_cons rfl).trans third.leased
          · exact .inl ⟨working.named, rfl⟩
          · rintro events result ⟨still, done⟩
            exact concluded still done _

private theorem timeOut_kept (working : Working db lease operation earlier) :
    Kept db (Executed db lease) earlier (Executor.timeOut operation) := by
  intro now _
  refine ⟨⟨trivial, trivial⟩, ?_⟩
  have later := working.cons ⟨.now, now⟩ rfl rfl
  intro reply fit
  refine ⟨⟨fit, operation, later.known, rfl, working.open_, working.going⟩, ?_⟩
  cases reply with
  | error failure =>
      refine concluded ?_ ?_ _
      · exact (leased_cons rfl).trans later.leased
      · exact .inl working.named
  | ok timedOut =>
      refine (appendAudit_kept lease ?_ ?_ _ _).mono ?_
      · exact (leased_cons rfl).trans later.leased
      · exact .inl ⟨working.named, rfl⟩
      · rintro events result ⟨still, done⟩
        exact concluded still done _

private theorem poll_kept (working : Working db lease operation earlier)
    (verifying : operation.status = .verifying) {provider : ConnectionConfig} {ref : ServerRef}
    {otherwise : Process (Except GoError Unit)}
    (follows : ∀ events, Working db lease operation events →
      Kept db (Executed db lease) events otherwise) :
    Kept db (Executed db lease) earlier
      (Executor.poll lease.job operation provider ref otherwise) := by
  intro reply _
  refine ⟨⟨trivial, trivial⟩, ?_⟩
  have looked := working.cons ⟨.getServer provider ref, reply⟩ rfl rfl
  cases reply with
  | error failure => exact finishError_kept looked _
  | ok remote =>
      change Kept db (Executed db lease) _
        (if Executor.verificationTargetReached operation.action remote.state = true then _ else _)
      split
      · next reached => exact succeed_kept looked reached fun _ => verifying
      · exact follows _ looked

private theorem verify_kept (working : Working db lease operation earlier)
    (verifying : operation.status = .verifying) {provider : ConnectionConfig} {ref : ServerRef}
    (remaining : Nat) :
    Kept db (Executed db lease) earlier
      (Executor.verify lease.job operation provider ref remaining) := by
  induction remaining generalizing earlier with
  | zero => exact poll_kept working verifying fun events still => timeOut_kept still
  | succ remaining ih =>
      refine poll_kept working verifying fun events still => ?_
      intro reply _
      refine ⟨⟨trivial, trivial⟩, ?_⟩
      have waited := still.cons ⟨.wait, reply⟩ rfl rfl
      cases reply with
      | error failure => exact concluded waited.leased (.inl trivial) _
      | ok _ => exact ih waited

private theorem startVerifying_kept (working : Working db lease operation earlier)
    (verifying : operation.status = .verifying) {provider : ConnectionConfig} {ref : ServerRef} :
    Kept db (Executed db lease) earlier
      (Executor.startVerifying lease.job operation provider ref) := by
  intro polls _
  refine ⟨⟨trivial, trivial⟩, ?_⟩
  exact verify_kept (working.cons _ rfl rfl) verifying polls

/-- The execution goes on with the version that its transition returned. -/
private theorem working_moved {moved : Operation} {next : Status} {change : Change}
    (leased_ : leased earlier = some lease) (kind : lease.job.kind = .powerOperation)
    (named : db.same operation.id (namedBy lease.job) = true)
    (fit : fits db ⟨.transition operation.id next change, .ok moved⟩)
    (open_ : next.terminal = false) (going : next ≠ .queued) :
    Working db lease moved (⟨.transition operation.id next change, .ok moved⟩ :: earlier) where
  leased := (leased_cons rfl).trans leased_
  kind := kind
  known := by simp [current, movedTo, open_]
  named := by
    obtain ⟨same, _⟩ := fit
    simp only [Database.same, decide_eq_true_eq] at same named ⊢
    rw [same, named]
  open_ := by
    rw [fit.2]
    exact open_
  going := by
    rw [fit.2]
    exact going

theorem satisfied_reached {action : Action} {state : ServerState}
    (satisfied : Executor.actionAlreadySatisfied action state = true) :
    action ≠ .reboot ∧ Executor.verificationTargetReached action state = true := by
  have unbooted : action ≠ .reboot := by
    rintro rfl
    cases satisfied
  exact ⟨unbooted, by simp [Executor.verificationTargetReached, unbooted, satisfied]⟩

/-- What the provider has answered to the write. -/
private theorem acted_kept {provider : ConnectionConfig} {ref : ServerRef}
    (working : Working db lease operation earlier) (unverified : operation.status ≠ .verifying)
    (answer : Except GoError ActionReceipt) :
    Kept db (Executed db lease)
      (⟨.powerAction provider ref operation.action, answer⟩ :: earlier)
      (match answer with
      | .error failure => Executor.finishError operation lease.job failure
      | .ok receipt => do
          let now ← Process.now
          match ← Process.transition operation.id .verifying ⟨now, receipt.requestID, [], []⟩ with
          | .error failure => return .error failure
          | .ok operation => Executor.startVerifying lease.job operation provider ref) := by
  have asked := working.cons
    ⟨.powerAction provider ref operation.action, answer⟩ rfl rfl
  cases answer with
  | error failure => exact finishError_kept asked _
  | ok receipt =>
      intro now _
      refine ⟨⟨trivial, trivial⟩, ?_⟩
      have later := asked.cons ⟨.now, now⟩ rfl rfl
      intro reply fit
      refine ⟨⟨fit, operation, later.known, rfl, working.open_, working.going, unverified, now,
        provider, ref, receipt, earlier, rfl⟩, ?_⟩
      cases reply with
      | error failure =>
          refine concluded ?_ ?_ _
          · exact (leased_cons rfl).trans later.leased
          · exact .inl working.named
      | ok moved =>
          have following := working_moved later.leased working.kind working.named fit rfl (by simp)
          exact startVerifying_kept following fit.2

private theorem action_cases (provider : ConnectionConfig) (ref : ServerRef) (action : Action) :
    Executor.executeProviderAction provider ref action = .done (.error (.sentinel .invalidAction)) ∨
      Executor.executeProviderAction provider ref action =
        Process.call (.powerAction provider ref action) := by
  cases action with
  | start => exact .inr rfl
  | stop => exact .inr rfl
  | reboot => exact .inr rfl
  | other name => exact .inl rfl

private theorem act_kept {provider : ConnectionConfig} {ref : ServerRef} {remote : RemoteServer}
    {rest : List PanelEvent}
    (working : Working db lease operation (⟨.getServer provider ref, .ok remote⟩ :: rest))
    (unverified : operation.status ≠ .verifying) (untouched : Untouched rest)
    (unsatisfied : Executor.actionAlreadySatisfied operation.action remote.state = false) :
    Kept db (Executed db lease) (⟨.getServer provider ref, .ok remote⟩ :: rest)
      (Executor.act lease.job operation provider ref) := by
  have writes : Writes operation operation.action
      (⟨.getServer provider ref, .ok remote⟩ :: rest) :=
    ⟨rfl, ⟨working.going, unverified, working.open_⟩, provider, ref, remote, rest, rfl, untouched,
      unsatisfied⟩
  unfold Executor.act
  rcases action_cases provider ref operation.action with same | same
  · rw [same]
    exact finishError_kept working (.sentinel .invalidAction)
  · rw [same]
    intro answer _
    exact ⟨⟨trivial, operation, working.known, writes⟩, acted_kept working unverified answer⟩

/-- The first look at the server, and the write where it calls for one. -/
private theorem inspect_kept {provider : ConnectionConfig} {ref : ServerRef}
    (working : Working db lease operation earlier) (untouched : Untouched earlier) :
    Kept db (Executed db lease) earlier
      (Executor.inspect lease.job operation provider ref) := by
  intro reply _
  refine ⟨⟨trivial, trivial⟩, ?_⟩
  have validated := working.cons ⟨.validateConnection provider, reply⟩ rfl rfl
  have still := untouched.cons ⟨.validateConnection provider, reply⟩ rfl rfl
  cases reply with
  | error failure => exact finishError_kept validated _
  | ok _ =>
      intro reply _
      refine ⟨⟨trivial, trivial⟩, ?_⟩
      have looked := validated.cons ⟨.getServer provider ref, reply⟩ rfl rfl
      cases reply with
      | error failure => exact finishError_kept looked _
      | ok remote =>
          change Kept db (Executed db lease) _
            (if Executor.actionAlreadySatisfied operation.action remote.state = true then _
              else if operation.status = .verifying then _ else _)
          split
          · next satisfied =>
              obtain ⟨unbooted, reached⟩ := satisfied_reached satisfied
              exact succeed_kept looked reached fun reboot => absurd reboot unbooted
          · next unsatisfied =>
              split
              · next verifying => exact startVerifying_kept looked verifying
              · next unverified =>
                  exact act_kept looked unverified still (Bool.eq_false_iff.mpr unsatisfied)

private theorem attempt_kept (working : Working db lease operation earlier)
    (untouched : Untouched earlier) :
    Kept db (Executed db lease) earlier (Executor.attempt lease.job operation) := by
  intro reply _
  refine ⟨⟨trivial, trivial⟩, ?_⟩
  have located := working.cons ⟨.findServer operation.serverID, reply⟩ rfl rfl
  have unlooked := untouched.cons ⟨.findServer operation.serverID, reply⟩ rfl rfl
  cases reply with
  | error failure => exact finishError_kept located _
  | ok server =>
      have connected : Kept db (fun events _ => Working db lease operation events ∧ Untouched events)
          (⟨.findServer operation.serverID, .ok server⟩ :: earlier)
          (Executor.provider operation.connectionID) := by
        intro reply _
        refine ⟨⟨trivial, trivial⟩, ?_⟩
        have first := located.cons
          ⟨.findConnection operation.connectionID, reply⟩ rfl rfl
        have second := unlooked.cons
          ⟨.findConnection operation.connectionID, reply⟩ rfl rfl
        cases reply with
        | error failure => exact ⟨first, second⟩
        | ok connection =>
            intro reply _
            refine ⟨⟨trivial, trivial⟩, ?_⟩
            have third := first.cons ⟨.decrypt connection, reply⟩ rfl rfl
            have fourth := second.cons ⟨.decrypt connection, reply⟩ rfl rfl
            cases reply with
            | error failure => exact ⟨third, fourth⟩
            | ok plaintext =>
                intro reply _
                refine ⟨⟨trivial, trivial⟩, ?_⟩
                cases reply <;> exact ⟨third.cons _ rfl rfl, fourth.cons _ rfl rfl⟩
      refine connected.bind ?_
      rintro events made ⟨still, unseen⟩
      cases made with
      | error failure => exact finishError_kept still _
      | ok provider => exact inspect_kept still unseen

/-- An execution starts with nothing but its lease. -/
private theorem execute_kept (leased_ : leased earlier = some lease)
    (unknown : current earlier = none) (untouched : Untouched earlier) :
    Kept db (Executed db lease) earlier (Executor.execute lease.job) := by
  unfold Executor.execute
  split
  · next power =>
      split
      · next unnamed => exact ⟨leased_, .inl fun _ named => absurd unnamed named⟩
      · intro reply fit
        have still : leased (⟨.findOperation (namedBy lease.job), reply⟩ :: earlier) = some lease :=
          (leased_cons rfl).trans leased_
        refine ⟨⟨fit, lease, leased_, power, .inl ⟨unknown, rfl⟩⟩, ?_⟩
        cases reply with
        | error failure => exact concluded still (.inl (Database.same_refl db _)) _
        | ok operation =>
            change Kept db (Executed db lease) _ (if operation.status.terminal = true then _
              else if operation.status = .queued then _ else _)
            split
            · next ceased => exact concluded still (.inl ⟨Database.same_refl db _, ceased⟩) _
            · next unfinished =>
                have known : current (⟨.findOperation (namedBy lease.job), .ok operation⟩ ::
                    earlier) = some operation := by
                  simp [current, movedTo, unknown, foundBy]
                have open_ : operation.status.terminal = false := Bool.eq_false_iff.mpr unfinished
                have unseen := untouched.cons
                  ⟨.findOperation (namedBy lease.job), .ok operation⟩ rfl rfl
                split
                · next queued =>
                    intro now _
                    refine ⟨⟨trivial, trivial⟩, ?_⟩
                    have later : leased (⟨.now, now⟩ ::
                        ⟨.findOperation (namedBy lease.job), .ok operation⟩ :: earlier) =
                        some lease := (leased_cons rfl).trans still
                    have unmoved := current_cons ⟨.now, now⟩ rfl known
                    intro reply started
                    refine ⟨⟨started, operation, unmoved, rfl, open_, queued⟩, ?_⟩
                    cases reply with
                    | error failure =>
                        refine concluded ((leased_cons rfl).trans later) ?_ _
                        exact .inl fit
                    | ok moved =>
                        exact attempt_kept (working_moved later power fit started rfl (by simp))
                          ((unseen.cons _ rfl rfl).cons _ rfl rfl)
                · next started =>
                    exact attempt_kept ⟨still, power, known, fit, open_, started⟩ unseen
  · next other => exact ⟨leased_, .inl fun power _ => absurd power other⟩

private theorem DoneWith.cons (done : DoneWith db lease earlier) {event : PanelEvent} :
    DoneWith db lease (event :: earlier) :=
  fun power named => .inr (done power named)

private theorem handle_kept (leased_ : leased earlier = some lease)
    (unknown : current earlier = none) (untouched : Untouched earlier) :
    Kept db (Executed db lease) earlier (handle lease.job) := by
  unfold handle
  split
  · next synchronised =>
      have otherwise : ∀ events, DoneWith db lease events := fun _ power => by
        rw [synchronised] at power
        cases power
      split
      · exact ⟨leased_, .inl (otherwise _)⟩
      · intro reply _
        exact ⟨⟨trivial, trivial⟩, (leased_cons rfl).trans leased_, .inl (otherwise _)⟩
  · exact execute_kept leased_ unknown untouched
  · next name other =>
      refine ⟨leased_, .inl fun power => ?_⟩
      rw [other] at power
      cases power

theorem runOnce_kept (worker : Jobs.Worker) :
    Kept db (fun _ _ => True) [] (worker.runOnce host) := by
  intro now _
  refine ⟨⟨trivial, trivial⟩, ?_⟩
  intro reply _
  refine ⟨⟨trivial, by simp [executionRule, leaseOf]⟩, ?_⟩
  cases reply with
  | error failure => trivial
  | ok lease =>
      have begun : leased [⟨.leaseNext worker.owner now worker.leaseDuration, .ok lease⟩,
          ⟨.now, now⟩] = some lease := rfl
      have untouched : Untouched [⟨.leaseNext worker.owner now worker.leaseDuration, .ok lease⟩,
          ⟨.now, now⟩] := by
        intro event member
        simp only [List.mem_cons, List.not_mem_nil, or_false] at member
        rcases member with rfl | rfl <;> exact ⟨rfl, rfl⟩
      refine (handle_kept begun rfl untouched).bind ?_
      rintro events result ⟨still, settled⟩
      cases result with
      | ok _ =>
          have done : DoneWith db lease events := by
            rcases settled with done | ⟨failure, impossible, _⟩
            · exact done
            · cases impossible
          intro later _
          refine ⟨⟨trivial, trivial⟩, ?_⟩
          intro reply _
          exact ⟨⟨trivial, lease, (leased_cons rfl).trans still, rfl, done.cons⟩, trivial⟩
      | error failure =>
          intro later _
          refine ⟨⟨trivial, trivial⟩, ?_⟩
          change Kept db _ _ (if failure.retryable = true then _ else _)
          split
          · next retryable =>
              intro reply _
              refine ⟨⟨trivial, lease, (leased_cons rfl).trans still, rfl, ?_⟩, trivial⟩
              rcases settled with done | ⟨_, _, _, remaining⟩
              · exact .inl done.cons
              · exact .inr remaining
          · next final =>
              intro reply _
              refine ⟨⟨trivial, lease, (leased_cons rfl).trans still, rfl, ?_⟩, trivial⟩
              rcases settled with done | ⟨same, equal, retryable, _⟩
              · exact done.cons
              · cases equal
                exact absurd retryable final

end Execution

end NodeAtlas.Power
