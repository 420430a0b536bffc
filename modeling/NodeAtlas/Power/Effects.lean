import NodeAtlas.Power.Audit

/-! What one call does to the operations and to the jobs, once and for all. -/

set_option autoImplicit false

namespace NodeAtlas.Power

open Interleaving Operations Providers

/-- The calls that may change the operations table. -/
def changesOperations : PanelEvent → Bool
  | ⟨.createQueued _, .ok (_, true)⟩ => true
  | ⟨.transition _ _ _, .ok _⟩ => true
  | ⟨.restore _, .ok _⟩ => true
  | _ => false

inductive OperationsChange (db : Database) (rows : List Operations.Row) :
    PanelEvent → List Operations.Row → Prop where
  | kept {event : PanelEvent} (quiet : changesOperations event = false) :
      OperationsChange db rows event rows
  | created (operation : Operation) :
      OperationsChange db rows
        ⟨.createQueued operation, .ok ({ operation with status := .queued }, true)⟩
        (rows ++ [queuedRow db operation])
  | moved {row : Operations.Row} {id : GoString} {next : Status} {change : Change} {at_ : Instant}
      (member : row ∈ rows) (matched : db.same row.id id = true)
      (valid : validTransition row.status next = true) :
      OperationsChange db rows
        ⟨.transition id next change, .ok (row.toOperation.transitioned next at_ change)⟩
        (rewriteTable db row.id (row.toOperation.transitioned next at_ change) rows)
  | restored (archive : Archive) :
      OperationsChange db rows ⟨.restore archive, .ok ()⟩ archive.operations

/-- The calls that may change the jobs table. -/
def changesJobs : PanelEvent → Bool
  | ⟨.enqueueConnectionSync _ _, .ok _⟩ => true
  | ⟨.enqueuePowerOperation _ _, .ok _⟩ => true
  | ⟨.leaseNext _ _ _, .ok _⟩ => true
  | ⟨.retry _ _ _ _, .ok _⟩ => true
  | ⟨.complete _ _ _, .ok _⟩ => true
  | ⟨.fail _ _ _ _, .ok _⟩ => true
  | ⟨.restore _, .ok _⟩ => true
  | _ => false

inductive JobsChange (db : Database) (rows : List Jobs.Row) :
    PanelEvent → List Jobs.Row → Prop where
  | kept {event : PanelEvent} (quiet : changesJobs event = false) : JobsChange db rows event rows
  | synchronised {queue : Jobs.Queue} {id : GoString} (named : id ≠ []) :
      JobsChange db rows ⟨.enqueueConnectionSync queue id, .ok ()⟩
        (rows ++ [Jobs.enqueuedRow db (queue.job .syncConnection (text "connection_id") id)])
  | enqueued {queue : Jobs.Queue} {id : GoString} (named : id ≠ []) :
      JobsChange db rows ⟨.enqueuePowerOperation queue id, .ok ()⟩
        (rows ++ [Jobs.enqueuedRow db (queue.job .powerOperation (text "operation_id") id)])
  | granted {owner : GoString} {at_ : Instant} {duration : Duration} {lease : Jobs.Lease}
      {after : List Jobs.Row} (granted : Jobs.Granted db owner at_ duration rows (.ok lease) after) :
      JobsChange db rows ⟨.leaseNext owner at_ duration, .ok lease⟩ after
  | retried {id owner message : GoString} {availableAt : Instant} {row : Jobs.Row}
      (member : row ∈ rows) (matched : db.same row.id id = true)
      (held : Jobs.leasedBy db owner row = true) :
      JobsChange db rows ⟨.retry id owner availableAt message, .ok ()⟩
        (Jobs.changeRow db id (Jobs.Row.retried db (Jobs.retryStatus row) availableAt message) rows)
  | completed {id owner : GoString} {at_ : Instant} {row : Jobs.Row}
      (member : row ∈ rows) (matched : db.same row.id id = true)
      (held : Jobs.leasedBy db owner row = true) :
      JobsChange db rows ⟨.complete id owner at_, .ok ()⟩
        (Jobs.changeRow db id (Jobs.Row.finished db .succeeded at_ []) rows)
  | failed {id owner message : GoString} {at_ : Instant} {row : Jobs.Row}
      (member : row ∈ rows) (matched : db.same row.id id = true)
      (held : Jobs.leasedBy db owner row = true) :
      JobsChange db rows ⟨.fail id owner at_ message, .ok ()⟩
        (Jobs.changeRow db id (Jobs.Row.finished db .failed at_ message) rows)
  | restored (archive : Archive) : JobsChange db rows ⟨.restore archive, .ok ()⟩ archive.jobs

/-- The calls that may change the audit log. -/
def changesAudit : PanelEvent → Bool
  | ⟨.append _, .ok _⟩ => true
  | ⟨.restore _, .ok _⟩ => true
  | _ => false

inductive AuditChange (db : Database) (rows : List AuditLog.Entry) :
    PanelEvent → List AuditLog.Entry → Prop where
  | kept {event : PanelEvent} (quiet : changesAudit event = false) : AuditChange db rows event rows
  | appended (entry : AuditLog.Entry) : AuditChange db rows ⟨.append entry, .ok ()⟩
      (rows ++ [{ entry with createdAt := db.stamp entry.createdAt }])
  | restored (archive : Archive) : AuditChange db rows ⟨.restore archive, .ok ()⟩ archive.audit

/-- The action that the provider was asked to carry out. -/
def writtenBy : PanelEvent → Option Action
  | ⟨.powerAction _ _ action, _⟩ => some action
  | _ => none

/-- No two rows of a table share a unique key. -/
structure Apart (db : Database) (state : State) : Prop where
  operations : state.operations.Pairwise fun left right =>
    (operationsEngine db).clash left right = false
  jobs : state.jobs.Pairwise fun left right => (jobsEngine db).clash left right = false

/-- One call, with what it does to the state that matters here. -/
structure Effect (db : Database) (t : Nat) (state : State) (event : PanelEvent) (next : State) :
    Prop where
  operations : OperationsChange db state.operations event next.operations
  jobs : JobsChange db state.jobs event next.jobs
  audit : AuditChange db state.audit event next.audit
  effects : next.effects = state.effects ∨
    ∃ action, writtenBy event = some action ∧ next.effects = (t, action) :: state.effects
  cancelled : next.cancelled = state.cancelled
  apart : Apart db next

section Perform

variable {db : Database} {t : Nat} {state next : State} {faults : List Bool}

private theorem onOperations_alone {α : Type} {client : Operations.Repository α} {reply : α}
    (ran : onOperations db t client faults state = some (reply, next)) :
    ∃ rows, (operationsEngine db).transact client (state.faults t faults) state.operations =
      some (reply, rows) ∧ next = { state with operations := rows } := by
  obtain ⟨⟨_, rows⟩, transacted, same⟩ := Option.map_eq_some_iff.mp ran
  cases same
  exact ⟨rows, transacted, rfl⟩

private theorem onJobs_alone {α : Type} {client : Jobs.Repository α} {reply : α}
    (ran : onJobs db t client faults state = some (reply, next)) :
    ∃ rows, (jobsEngine db).transact client (state.faults t faults) state.jobs =
      some (reply, rows) ∧ next = { state with jobs := rows } := by
  obtain ⟨⟨_, rows⟩, transacted, same⟩ := Option.map_eq_some_iff.mp ran
  cases same
  exact ⟨rows, transacted, rfl⟩

private theorem onTable_cases {α : Type} {failure : GoError} {effect : Except GoError α × State}
    {reply : Except GoError α} (ran : onTable t failure faults state effect = some (reply, next)) :
    (reply = .error failure ∧ next = state) ∨ (reply, next) = effect := by
  unfold onTable at ran
  split at ran
  · cases ran
    exact .inl ⟨rfl, rfl⟩
  · exact .inr (Option.some.inj ran).symm

/-- A call that leaves all tables alone. -/
private theorem quiet {event : PanelEvent} (apart : Apart db state)
    (same : next.toArchive = { state.toArchive with servers := next.servers })
    (effects : next.effects = state.effects) (cancelled : next.cancelled = state.cancelled)
    (quietOperations : changesOperations event = false) (quietJobs : changesJobs event = false)
    (quietAudit : changesAudit event = false) :
    Effect db t state event next := by
  obtain ⟨⟨operations, jobs, audit, servers⟩, backups, mutex, cancelled, effects⟩ := next
  simp only [Archive.mk.injEq, and_true] at same
  obtain ⟨rfl, rfl, rfl⟩ := same
  exact ⟨.kept quietOperations, .kept quietJobs, .kept quietAudit, .inl effects, cancelled,
    apart.operations, apart.jobs⟩

private theorem onOperations_effect {event : PanelEvent} (apart : Apart db state) {α : Type}
    {client : Operations.Repository α} {reply : α} {rows : List Operations.Row}
    (transacted : (operationsEngine db).transact client (state.faults t faults) state.operations =
      some (reply, rows))
    (changed : OperationsChange db state.operations event rows)
    (quietJobs : changesJobs event = false) (quietAudit : changesAudit event = false) :
    Effect db t state event { state with operations := rows } :=
  ⟨changed, .kept quietJobs, .kept quietAudit, .inl rfl, rfl,
    Transactions.transact_apart apart.operations transacted, apart.jobs⟩

private theorem onJobs_effect {event : PanelEvent} (apart : Apart db state) {α : Type}
    {client : Jobs.Repository α} {reply : α} {rows : List Jobs.Row}
    (transacted : (jobsEngine db).transact client (state.faults t faults) state.jobs =
      some (reply, rows))
    (changed : JobsChange db state.jobs event rows)
    (quietOperations : changesOperations event = false) (quietAudit : changesAudit event = false) :
    Effect db t state event { state with jobs := rows } :=
  ⟨.kept quietOperations, changed, .kept quietAudit, .inl rfl, rfl, apart.operations,
    Transactions.transact_apart apart.jobs transacted⟩

private theorem released_changes {event : PanelEvent} {id owner : GoString}
    {change : Jobs.Row → Jobs.Row → Jobs.Row} {result : Except GoError Unit}
    {rows : List Jobs.Row}
    (released : Jobs.Released db id owner change state.jobs result rows)
    (failing : ∀ error, result = .error error → changesJobs event = false)
    (changing : ∀ row ∈ state.jobs, db.same row.id id = true →
      Jobs.leasedBy db owner row = true → result = .ok () →
      JobsChange db state.jobs event (Jobs.changeRow db id (change row) state.jobs)) :
    JobsChange db state.jobs event rows := by
  cases released with
  | released member matched held => exact changing _ member matched held rfl
  | failed => exact .kept (failing _ rfl)

private theorem enqueued_changes {queue : Jobs.Queue} {kind : Jobs.Kind}
    {field message id : GoString} {result : Except GoError Unit} {rows : List Jobs.Row}
    {event : PanelEvent}
    (ran : (jobsEngine db).transact (Jobs.enqueueFor db queue kind field message id)
      (state.faults t faults) state.jobs = some (result, rows))
    (failing : ∀ error, result = .error error → changesJobs event = false)
    (changing : id ≠ [] → result = .ok () → JobsChange db state.jobs event
      (state.jobs ++ [Jobs.enqueuedRow db (queue.job kind field id)])) :
    JobsChange db state.jobs event rows := by
  rcases Jobs.enqueueFor_alone ran with ⟨named, inserted⟩ | ⟨⟨error, rfl⟩, rfl⟩
  · cases inserted with
    | stored => exact changing named rfl
    | failed => exact .kept (failing _ rfl)
  · exact .kept (failing _ rfl)

/-- The change that any call makes, from what its repository method was shown to do. -/
theorem perform_effect (apart : Apart db state) {call : Call} {choice : Choice}
    {reply : call.Reply} (ran : perform db t call choice state = some (reply, next)) :
    Effect db t state ⟨call, reply⟩ next := by
  cases call with
  | findOperation id | findByIdempotencyKey key =>
      cases choice with
      | database clock faults =>
          obtain ⟨rows, transacted, rfl⟩ := onOperations_alone ran
          obtain ⟨_, rfl⟩ := findCommitted_alone transacted
          exact quiet apart rfl rfl rfl rfl rfl rfl
      | _ => cases ran
  | createQueued operation =>
      cases choice with
      | database clock faults =>
          obtain ⟨rows, transacted, rfl⟩ := onOperations_alone ran
          refine onOperations_effect apart transacted ?_ rfl rfl
          cases createQueued_alone transacted with
          | created => exact .created operation
          | existing member => exact .kept rfl
          | failed => exact .kept rfl
      | _ => cases ran
  | transition id status change =>
      cases choice with
      | database clock faults =>
          obtain ⟨rows, transacted, rfl⟩ := onOperations_alone ran
          refine onOperations_effect apart transacted ?_ rfl rfl
          cases transition_alone apart.operations transacted with
          | moved member matched valid => exact .moved member matched valid
          | missing absent => exact .kept rfl
          | invalid member matched refused => exact .kept rfl
          | failed database => exact .kept rfl
      | _ => cases ran
  | enqueueConnectionSync queue connectionID =>
      cases choice with
      | database clock faults =>
          obtain ⟨rows, transacted, rfl⟩ := onJobs_alone ran
          refine onJobs_effect apart transacted (enqueued_changes transacted ?_ ?_) rfl rfl
          · rintro error rfl
            rfl
          · rintro named rfl
            exact .synchronised named
      | _ => cases ran
  | enqueuePowerOperation queue operationID =>
      cases choice with
      | database clock faults =>
          obtain ⟨rows, transacted, rfl⟩ := onJobs_alone ran
          refine onJobs_effect apart transacted (enqueued_changes transacted ?_ ?_) rfl rfl
          · rintro error rfl
            rfl
          · rintro named rfl
            exact .enqueued named
      | _ => cases ran
  | leaseNext owner at_ duration =>
      cases choice with
      | database clock faults =>
          obtain ⟨rows, transacted, rfl⟩ := onJobs_alone ran
          refine onJobs_effect apart transacted ?_ rfl rfl
          have granted := Jobs.leaseNext_alone apart.jobs transacted
          rcases reply with error | lease
          · cases granted
            exact .kept rfl
          · exact .granted granted
      | _ => cases ran
  | retry id owner availableAt message =>
      cases choice with
      | database clock faults =>
          obtain ⟨rows, transacted, rfl⟩ := onJobs_alone ran
          have released := Jobs.retry_alone apart.jobs transacted
          refine onJobs_effect apart transacted (released_changes released ?_ ?_) rfl rfl
          · rintro error rfl
            rfl
          · rintro row member matched held rfl
            exact .retried member matched held
      | _ => cases ran
  | complete id owner at_ =>
      cases choice with
      | database clock faults =>
          obtain ⟨rows, transacted, rfl⟩ := onJobs_alone ran
          have released := Jobs.finish_alone apart.jobs transacted
          refine onJobs_effect apart transacted (released_changes released ?_ ?_) rfl rfl
          · rintro error rfl
            rfl
          · rintro row member matched held rfl
            exact .completed member matched held
      | _ => cases ran
  | fail id owner at_ message =>
      cases choice with
      | database clock faults =>
          obtain ⟨rows, transacted, rfl⟩ := onJobs_alone ran
          have released := Jobs.finish_alone apart.jobs transacted
          refine onJobs_effect apart transacted (released_changes released ?_ ?_) rfl rfl
          · rintro error rfl
            rfl
          · rintro row member matched held rfl
            exact .failed member matched held
      | _ => cases ran
  | restore archive =>
      cases choice with
      | database clock faults =>
          rcases onTable_cases ran with ⟨rfl, rfl⟩ | done
          · exact quiet apart rfl rfl rfl rfl rfl rfl
          · split at done
            · next keyed =>
                cases done
                simp only [Archive.keyed, Bool.and_eq_true, decide_eq_true_eq] at keyed
                exact ⟨.restored archive, .restored archive, .restored archive, .inl rfl, rfl,
                  keyed.1, keyed.2⟩
            · cases done
              exact quiet apart rfl rfl rfl rfl rfl rfl
      | _ => cases ran
  | append entry =>
      cases choice with
      | database clock faults =>
          simp only [perform, AuditLog.append] at ran
          split at ran
          · rcases onTable_cases ran with ⟨rfl, rfl⟩ | done
            · exact quiet apart rfl rfl rfl rfl rfl rfl
            · cases done
              exact quiet apart rfl rfl rfl rfl rfl rfl
          · rcases onTable_cases ran with ⟨rfl, rfl⟩ | done
            · exact quiet apart rfl rfl rfl rfl rfl rfl
            · cases done
              exact ⟨.kept rfl, .kept rfl, .appended entry, .inl rfl, rfl, apart.operations,
                apart.jobs⟩
      | _ => cases ran
  | findServer _ | updateRemote _ _ _ | hasActiveWork | readVerified _ | exportArchive
  | saveBackup _ =>
      cases choice with
      | database clock faults =>
          rcases onTable_cases ran with ⟨_, rfl⟩ | done
          · exact quiet apart rfl rfl rfl rfl rfl rfl
          · cases done
            exact quiet apart rfl rfl rfl rfl rfl rfl
      | _ => cases ran
  | now | newID | decrypt _ | createProvider _ | validateConnection _ | getServer _ _ | deadline
  | syncConnection _ | unlock =>
      cases choice
      all_goals cases ran <;> exact quiet apart rfl rfl rfl rfl rfl rfl
  | findConnection id =>
      cases choice with
      | connection result =>
          simp only [perform] at ran
          split at ran <;> cases ran
          exact quiet apart rfl rfl rfl rfl rfl rfl
      | _ => cases ran
  | powerAction provider ref action =>
      cases choice with
      | receipt effective result =>
          cases ran
          cases effective with
          | false => exact quiet apart rfl rfl rfl rfl rfl rfl
          | true =>
              exact ⟨.kept rfl, .kept rfl, .kept rfl, .inr ⟨action, rfl, rfl⟩, rfl,
                apart.operations, apart.jobs⟩
      | _ => cases ran
  | wait =>
      cases choice with
      | done result =>
          cases result with
          | ok _ =>
              cases ran
              exact quiet apart rfl rfl rfl rfl rfl rfl
          | error failure =>
              simp only [perform] at ran
              split at ran <;> cases ran
              exact quiet apart rfl rfl rfl rfl rfl rfl
      | _ => cases ran
  | lock =>
      cases choice with
      | database clock faults =>
          simp only [perform] at ran
          split at ran <;> cases ran
          exact quiet apart rfl rfl rfl rfl rfl rfl
      | _ => cases ran

theorem OperationsChange.unchanged {rows after : List Operations.Row} {event : PanelEvent}
    (changed : OperationsChange db rows event after)
    (quiet : changesOperations event = false) : after = rows := by
  cases changed with
  | kept => rfl
  | created => cases quiet
  | moved => cases quiet
  | restored => cases quiet

theorem JobsChange.unchanged {rows after : List Jobs.Row} {event : PanelEvent}
    (changed : JobsChange db rows event after) (quiet : changesJobs event = false) :
    after = rows := by
  cases changed with
  | kept => rfl
  | _ => cases quiet

/-- A lookup answers from the table. -/
theorem perform_found {id : GoString} {operation : Operation} {choice : Choice}
    (ran : perform db t (.findOperation id) choice state = some (.ok operation, next)) :
    ∃ row ∈ state.operations, db.same row.id id = true ∧ row.toOperation = operation := by
  cases choice with
  | database clock faults =>
      obtain ⟨rows, transacted, _⟩ := onOperations_alone ran
      obtain ⟨found, _⟩ := findCommitted_alone transacted
      cases found with
      | found member matched => exact ⟨_, member, matched, rfl⟩
  | _ => cases ran

/-- A replayed request is answered from the table too. -/
theorem perform_existing {operation existing : Operation} {choice : Choice}
    (ran : perform db t (.createQueued operation) choice state =
      some (.ok (existing, false), next)) :
    ∃ row ∈ state.operations, row.toOperation = existing := by
  cases choice with
  | database clock faults =>
      obtain ⟨rows, transacted, _⟩ := onOperations_alone ran
      cases createQueued_alone transacted with
      | existing member => exact ⟨_, member, rfl⟩
  | _ => cases ran

end Perform

end NodeAtlas.Power
