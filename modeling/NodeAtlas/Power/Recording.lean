import NodeAtlas.Power.History

/-! How an execution records the end of its operation: the last transition and
the audit entry about it are two calls. -/

set_option autoImplicit false

namespace NodeAtlas.Power

open Interleaving Operations Providers AuditLog

/-- The event type of the audit entry about an end that is to be audited. -/
def endEvent : Status → Option GoString
  | .succeeded => some (text "power_operation_succeeded")
  | .failed => some (text "power_operation_failed")
  | .timedOut => some (text "power_operation_timed_out")
  | _ => none

/-- The entry is about the end of an operation. -/
def endsOperation (entry : Entry) : Bool :=
  entry.targetType = text "operation" && [Status.succeeded, .failed, .timedOut].any
    fun status => endEvent status = some entry.eventType

def endedBy : PanelEvent → Option (GoString × GoString)
  | ⟨.transition id status _, .ok _⟩ => (endEvent status).map fun type => (id, type)
  | _ => none

/-- The operation that a thread has brought to an end, with the type of the entry about it. -/
def ended (events : List PanelEvent) : Option (GoString × GoString) :=
  events.findSome? endedBy

def appends : PanelEvent → Bool
  | ⟨.append _, _⟩ => true
  | _ => false

/-- The thread has tried to append an entry. -/
def appended (events : List PanelEvent) : Bool :=
  events.any appends

namespace Recording

/-- An execution appends one entry, about the end of its operation, and moves
the operation no more after that end. -/
def executionRule (earlier : List PanelEvent) (event : PanelEvent) : Prop :=
  match event.call with
  | .transition _ _ _ => ended earlier = none
  | .append entry => appended earlier = false ∧ entry.targetType = text "operation" ∧
      ended earlier = some (entry.targetID, entry.eventType)
  | _ => True

def backupRule (event : PanelEvent) : Prop :=
  match event.call with
  | .append entry => entry.targetType = text "backup"
  | _ => True

/-- An end that the thread has tried to record. -/
def Attempted (events : List PanelEvent) : Prop :=
  ended events ≠ none → appended events = true

def audit : Audit Call Call.Reply Activity Outcome where
  fits _ := True
  rule
    | .runOnce _ => executionRule
    | .createBackup _ _ _ => fun _ event => backupRule event
    | .restoreBackup _ _ _ _ => fun _ event => backupRule event
    | _ => fun _ _ => True
  closing
    | .runOnce _ => fun events _ => Attempted events
    | _ => fun _ _ => True

section Execution

variable {earlier : List PanelEvent} {operation : Operation}

private abbrev Kept {α : Type} (closing : List PanelEvent → α → Prop) (earlier : List PanelEvent)
    (program : Process α) : Prop :=
  program.Audited (fun _ => True) executionRule closing earlier

/-- The operation is not over and nothing was recorded. -/
structure Unfinished (events : List PanelEvent) : Prop where
  going : ended events = none
  unrecorded : appended events = false

private theorem ended_cons {event : PanelEvent} (going : endedBy event = none) :
    ended (event :: earlier) = ended earlier := by
  rw [ended, List.findSome?_cons, going]
  rfl

private theorem Unfinished.cons (unfinished : Unfinished earlier) (event : PanelEvent)
    (going : endedBy event = none) (silent : appends event = false) : Unfinished (event :: earlier) where
  going := (ended_cons going).trans unfinished.going
  unrecorded := by
    rw [appended, List.any_cons, silent]
    exact unfinished.unrecorded

private theorem Unfinished.attempted (unfinished : Unfinished earlier) : Attempted earlier :=
  fun over_ => absurd unfinished.going over_

private theorem Attempted.cons (attempted : Attempted earlier) (event : PanelEvent)
    (going : endedBy event = none) : Attempted (event :: earlier) := by
  intro ceased
  rw [ended_cons going] at ceased
  rw [appended, List.any_cons, Bool.or_eq_true]
  exact .inr (attempted ceased)

/-- What the code of an execution leaves behind. -/
private def Leaves (events : List PanelEvent) (_ : Except GoError Unit) : Prop :=
  Attempted events

private theorem appendAudit_leaves {eventType : GoString} (status : Status)
    (ceased : ended earlier = some (operation.id, eventType)) (unrecorded : appended earlier = false) :
    Kept Leaves earlier (Executor.appendAudit operation eventType status) := by
  intro id _
  refine ⟨trivial, ?_⟩
  intro now _
  refine ⟨trivial, ?_⟩
  intro reply _
  refine ⟨⟨?_, rfl, ?_⟩, fun _ => ?_⟩
  · simpa [appended, appends] using unrecorded
  · rw [ended_cons rfl, ended_cons rfl]
    exact ceased
  · rfl

private theorem failOperation_leaves (unfinished : Unfinished earlier) (code message : GoString)
    (failure : GoError) : Kept Leaves earlier (Executor.failOperation operation code message failure) := by
  intro now _
  refine ⟨trivial, ?_⟩
  have later := unfinished.cons ⟨.now, now⟩ rfl rfl
  intro reply _
  refine ⟨later.going, ?_⟩
  cases reply with
  | error refused => exact (later.cons _ rfl rfl).attempted
  | ok failed =>
      refine (appendAudit_leaves .failed ?_ ?_).bind ?_
      · rfl
      · exact later.unrecorded
      · intro events audited leaves
        cases audited <;> exact leaves

private theorem finishError_leaves (unfinished : Unfinished earlier) (job : Jobs.Job)
    (failure : GoError) : Kept Leaves earlier (Executor.finishError operation job failure) := by
  unfold Executor.finishError
  dsimp only
  split
  · exact unfinished.attempted
  · intro reply _
    refine ⟨trivial, ?_⟩
    have later := unfinished.cons ⟨.findOperation operation.id, reply⟩ rfl rfl
    cases reply with
    | error lost => exact later.attempted
    | ok found =>
        change Kept Leaves _ (if found.status.terminal = true then _ else _)
        split
        · exact later.attempted
        · exact failOperation_leaves later _ _ _

private theorem succeed_leaves (unfinished : Unfinished earlier) (remote : RemoteServer) :
    Kept Leaves earlier (Executor.succeed operation remote) := by
  intro before _
  refine ⟨trivial, ?_⟩
  have first := unfinished.cons ⟨.now, before⟩ rfl rfl
  intro reply _
  refine ⟨trivial, ?_⟩
  have second := first.cons ⟨.updateRemote operation.serverID remote before, reply⟩ rfl rfl
  cases reply with
  | error failure => exact second.attempted
  | ok _ =>
      intro later _
      refine ⟨trivial, ?_⟩
      have third := second.cons ⟨.now, later⟩ rfl rfl
      intro reply _
      refine ⟨third.going, ?_⟩
      cases reply with
      | error failure => exact (third.cons _ rfl rfl).attempted
      | ok succeeded => exact appendAudit_leaves .succeeded rfl third.unrecorded

private theorem timeOut_leaves (unfinished : Unfinished earlier) :
    Kept Leaves earlier (Executor.timeOut operation) := by
  intro now _
  refine ⟨trivial, ?_⟩
  have later := unfinished.cons ⟨.now, now⟩ rfl rfl
  intro reply _
  refine ⟨later.going, ?_⟩
  cases reply with
  | error failure => exact (later.cons _ rfl rfl).attempted
  | ok timedOut => exact appendAudit_leaves .timedOut rfl later.unrecorded

private theorem poll_leaves (unfinished : Unfinished earlier) (job : Jobs.Job)
    (provider : ConnectionConfig) (ref : ServerRef) {otherwise : Process (Except GoError Unit)}
    (follows : ∀ events, Unfinished events → Kept Leaves events otherwise) :
    Kept Leaves earlier (Executor.poll job operation provider ref otherwise) := by
  intro reply _
  refine ⟨trivial, ?_⟩
  have looked := unfinished.cons ⟨.getServer provider ref, reply⟩ rfl rfl
  cases reply with
  | error failure => exact finishError_leaves looked job failure
  | ok remote =>
      change Kept Leaves _ (if Executor.verificationTargetReached operation.action remote.state = true
        then _ else _)
      split
      · exact succeed_leaves looked remote
      · exact follows _ looked

private theorem verify_leaves (unfinished : Unfinished earlier) (job : Jobs.Job)
    (provider : ConnectionConfig) (ref : ServerRef) (remaining : Nat) :
    Kept Leaves earlier (Executor.verify job operation provider ref remaining) := by
  induction remaining generalizing earlier with
  | zero => exact poll_leaves unfinished job provider ref fun events still => timeOut_leaves still
  | succ remaining ih =>
      apply poll_leaves unfinished job provider ref
      intro events still reply _
      refine ⟨trivial, ?_⟩
      have waited := still.cons ⟨.wait, reply⟩ rfl rfl
      cases reply with
      | error failure => exact waited.attempted
      | ok _ => exact ih waited

private theorem startVerifying_leaves (unfinished : Unfinished earlier) (job : Jobs.Job)
    (provider : ConnectionConfig) (ref : ServerRef) :
    Kept Leaves earlier (Executor.startVerifying job operation provider ref) := by
  intro polls _
  refine ⟨trivial, ?_⟩
  exact verify_leaves (unfinished.cons _ rfl rfl) job provider ref polls

private theorem act_leaves (unfinished : Unfinished earlier) (job : Jobs.Job)
    (provider : ConnectionConfig) (ref : ServerRef) :
    Kept Leaves earlier (Executor.act job operation provider ref) := by
  have asked : Kept (fun events (_ : Except GoError ActionReceipt) => Unfinished events) earlier
      (Executor.executeProviderAction provider ref operation.action) := by
    unfold Executor.executeProviderAction
    split
    · exact fun _ _ => ⟨trivial, unfinished.cons _ rfl rfl⟩
    · exact fun _ _ => ⟨trivial, unfinished.cons _ rfl rfl⟩
    · exact fun _ _ => ⟨trivial, unfinished.cons _ rfl rfl⟩
    · exact unfinished
  refine asked.bind ?_
  intro events answer still
  cases answer with
  | error failure => exact finishError_leaves still job failure
  | ok receipt =>
      intro now _
      refine ⟨trivial, ?_⟩
      have later := still.cons ⟨.now, now⟩ rfl rfl
      intro reply _
      refine ⟨later.going, ?_⟩
      have moved := later.cons
        ⟨.transition operation.id .verifying ⟨now, receipt.requestID, [], []⟩, reply⟩
      cases reply with
      | error failure => exact (moved rfl rfl).attempted
      | ok moved_ => exact startVerifying_leaves (moved rfl rfl) job provider ref

private theorem inspect_leaves (unfinished : Unfinished earlier) (job : Jobs.Job)
    (provider : ConnectionConfig) (ref : ServerRef) :
    Kept Leaves earlier (Executor.inspect job operation provider ref) := by
  intro reply _
  refine ⟨trivial, ?_⟩
  have validated := unfinished.cons ⟨.validateConnection provider, reply⟩ rfl rfl
  cases reply with
  | error failure => exact finishError_leaves validated job failure
  | ok _ =>
      intro reply _
      refine ⟨trivial, ?_⟩
      have looked := validated.cons ⟨.getServer provider ref, reply⟩ rfl rfl
      cases reply with
      | error failure => exact finishError_leaves looked job failure
      | ok remote =>
          change Kept Leaves _ (if Executor.actionAlreadySatisfied operation.action remote.state = true
            then _ else if operation.status = .verifying then _ else _)
          split
          · exact succeed_leaves looked remote
          · split
            · exact startVerifying_leaves looked job provider ref
            · exact act_leaves looked job provider ref

private theorem provider_leaves (unfinished : Unfinished earlier) (connectionID : GoString) :
    Kept (fun events _ => Unfinished events) earlier (Executor.provider connectionID) := by
  intro reply _
  refine ⟨trivial, ?_⟩
  have first := unfinished.cons ⟨.findConnection connectionID, reply⟩ rfl rfl
  cases reply with
  | error failure => exact first
  | ok connection =>
      intro reply _
      refine ⟨trivial, ?_⟩
      have second := first.cons ⟨.decrypt connection, reply⟩ rfl rfl
      cases reply with
      | error failure => exact second
      | ok plaintext =>
          intro reply _
          refine ⟨trivial, ?_⟩
          cases reply <;> exact second.cons _ rfl rfl

private theorem attempt_leaves (unfinished : Unfinished earlier) (job : Jobs.Job) :
    Kept Leaves earlier (Executor.attempt job operation) := by
  intro reply _
  refine ⟨trivial, ?_⟩
  have located := unfinished.cons ⟨.findServer operation.serverID, reply⟩ rfl rfl
  cases reply with
  | error failure => exact finishError_leaves located job failure
  | ok server =>
      refine (provider_leaves located operation.connectionID).bind ?_
      intro events made still
      cases made with
      | error failure => exact finishError_leaves still job failure
      | ok provider => exact inspect_leaves still job provider _

private theorem execute_leaves (unfinished : Unfinished earlier) (job : Jobs.Job) :
    Kept Leaves earlier (Executor.execute job) := by
  unfold Executor.execute
  split
  · split
    · exact unfinished.attempted
    · intro reply _
      refine ⟨trivial, ?_⟩
      have found := unfinished.cons
        ⟨.findOperation (job.payload.field (text "operation_id")), reply⟩ rfl rfl
      cases reply with
      | error failure => exact found.attempted
      | ok operation =>
          change Kept Leaves _ (if operation.status.terminal = true then _
            else if operation.status = .queued then _ else _)
          split
          · exact found.attempted
          · split
            · intro now _
              refine ⟨trivial, ?_⟩
              have later := found.cons ⟨.now, now⟩ rfl rfl
              intro reply _
              refine ⟨later.going, ?_⟩
              have moved := later.cons ⟨.transition operation.id .running ⟨now, [], [], []⟩, reply⟩
              cases reply with
              | error failure => exact (moved rfl rfl).attempted
              | ok started => exact attempt_leaves (moved rfl rfl) job
            · exact attempt_leaves found job
  · exact unfinished.attempted

private theorem handle_leaves (unfinished : Unfinished earlier) (job : Jobs.Job) :
    Kept Leaves earlier (handle job) := by
  unfold handle
  split
  · split
    · exact unfinished.attempted
    · exact fun _ _ => ⟨trivial, (unfinished.cons _ rfl rfl).attempted⟩
  · exact execute_leaves unfinished job
  · exact unfinished.attempted

private theorem runOnce_leaves (worker : Jobs.Worker) :
    Kept Leaves [] (worker.runOnce host) := by
  intro now _
  refine ⟨trivial, ?_⟩
  intro reply _
  refine ⟨trivial, ?_⟩
  have begun : Unfinished [⟨.leaseNext worker.owner now worker.leaseDuration, reply⟩, ⟨.now, now⟩] :=
    ⟨rfl, rfl⟩
  cases reply with
  | error failure => exact begun.attempted
  | ok lease =>
      refine (handle_leaves begun lease.job).bind ?_
      intro events result leaves
      cases result with
      | ok _ =>
          intro later _
          refine ⟨trivial, ?_⟩
          exact fun _ _ => ⟨trivial, (leaves.cons _ rfl).cons _ rfl⟩
      | error failure =>
          intro later _
          refine ⟨trivial, ?_⟩
          change Kept Leaves _ (if failure.retryable = true then _ else _)
          split
          · exact fun _ _ => ⟨trivial, (leaves.cons _ rfl).cons _ rfl⟩
          · exact fun _ _ => ⟨trivial, (leaves.cons _ rfl).cons _ rfl⟩

end Execution

section Backups

private abbrev BackupKept {α : Type} (earlier : List PanelEvent) (program : Process α) : Prop :=
  program.Audited (fun _ => True) (fun _ event => backupRule event) (fun _ _ => True) earlier

private theorem createLocked_leaves (earlier : List PanelEvent) (passphrase : GoString)
    (kind : Backup.Kind) (requestID sourceIP : GoString) :
    BackupKept earlier (backups.createLocked passphrase kind requestID sourceIP) := by
  intro reply _
  refine ⟨trivial, ?_⟩
  cases reply with
  | error failure => trivial
  | ok archive =>
      dsimp only [Program.bind]
      split
      · trivial
      · intro id _
        refine ⟨trivial, ?_⟩
        intro createdAt _
        refine ⟨trivial, ?_⟩
        intro reply _
        refine ⟨trivial, ?_⟩
        cases reply with
        | error failure => trivial
        | ok _ =>
            intro entryID _
            refine ⟨trivial, ?_⟩
            intro now _
            refine ⟨trivial, ?_⟩
            intro reply _
            refine ⟨rfl, ?_⟩
            cases reply <;> trivial

private theorem create_leaves (passphrase : GoString) (kind : Backup.Kind)
    (requestID sourceIP : GoString) :
    BackupKept [] (backups.create passphrase kind requestID sourceIP) := by
  intro locked _
  refine ⟨trivial, ?_⟩
  apply (createLocked_leaves _ passphrase kind requestID sourceIP).bind
  exact fun _ _ _ _ _ => ⟨trivial, trivial⟩

private theorem restoreLocked_leaves (earlier : List PanelEvent)
    (id passphrase requestID sourceIP : GoString) :
    BackupKept earlier (backups.restoreLocked id passphrase requestID sourceIP) := by
  intro reply _
  refine ⟨trivial, ?_⟩
  cases reply with
  | error failure => trivial
  | ok data =>
      dsimp only [Program.bind]
      split
      · trivial
      · refine (createLocked_leaves _ passphrase .safety requestID sourceIP).bind ?_
        intro events result _
        cases result with
        | error failure => trivial
        | ok _ =>
            intro reply _
            refine ⟨trivial, ?_⟩
            cases reply with
            | error failure => trivial
            | ok _ =>
                intro entryID _
                refine ⟨trivial, ?_⟩
                intro now _
                exact ⟨trivial, fun _ _ => ⟨rfl, trivial⟩⟩

private theorem restoreBackup_leaves (id passphrase requestID sourceIP : GoString) :
    BackupKept [] (backups.restoreBackup id passphrase requestID sourceIP) := by
  intro reply _
  refine ⟨trivial, ?_⟩
  rcases reply with failure | active
  · trivial
  · cases active with
    | true => trivial
    | false =>
        intro locked _
        refine ⟨trivial, ?_⟩
        apply (restoreLocked_leaves _ id passphrase requestID sourceIP).bind
        exact fun _ _ _ _ _ => ⟨trivial, trivial⟩

end Backups

theorem panel_passes (db : Database) (maxAttempts : Int) :
    audit.Passed (panel db maxAttempts) (fun _ => True) where
  fitting _ _ _ _ _ _ _ := trivial
  audited activity _ := by
    cases activity with
    | runOnce worker => exact (runOnce_leaves worker).bind fun _ _ leaves => leaves
    | createBackup passphrase requestID sourceIP =>
        exact (create_leaves passphrase .manual requestID sourceIP).bind fun _ _ _ => trivial
    | restoreBackup id passphrase requestID sourceIP =>
        exact (restoreBackup_leaves id passphrase requestID sourceIP).bind fun _ _ _ => trivial
    | _ => exact Program.Audited.free _ (fun _ _ => trivial) fun _ _ => trivial

end Recording

end NodeAtlas.Power
